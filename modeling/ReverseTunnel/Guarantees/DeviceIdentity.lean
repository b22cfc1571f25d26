import ReverseTunnel.Provisioning.Identity

/-!
# The device keeps one identity

The two files of a generated pair are written one after the other, and everything can fail or be cut off
in between. Two things hold nevertheless. What the files hold is never made of two pairs: as long as the
old public key is gone before a new private key is in place, a public key is only ever added to the
private key it was generated with (`Whole`). And once a start has come to an identity, every later start
comes to the same, without writing anything, until the device is reset.
-/

namespace ReverseTunnel

open Traced

namespace Provisioning

/-! ### The public key -/

section Line

variable {m : MbedTls}

/-- **The line of the public key is read as the key that was generated.** It is built exactly when the
DER structure arrives and has a point in it, then all buffers are large enough, and an SSH server reads
algorithm, curve and point out of it. A point at the end of the structure is the one that is taken,
whatever is before it. The device takes the line for a public key itself, and trimming does not change
it. -/
theorem public_key_line_read (hm : m.Documented) :
    ((buildOpenSshPublicKey m).isSome = true ↔ 0 < m.pkWritePubkeyDer.1 ∧
      m.pkWritePubkeyDer.1.toNat ≤ publicDerBufferSize ∧ ∃ point, IsPoint point ∧ point <:+: m.der) ∧
    ∀ line, buildOpenSshPublicKey m = some line → ∃ point, IsPoint point ∧ point <:+: m.der ∧
      (∀ last, IsPoint last → last <:+ m.der → point = last) ∧
      readOpenSshKey line = some (algorithm, curve, point) ∧ line.length = 160 ∧
      validPublicKey line = true ∧ line.trim = line := by
  refine ⟨⟨?_, ?_⟩, ?_⟩
  · intro hsome
    obtain ⟨line, hline⟩ := Option.isSome_iff_exists.1 hsome
    obtain ⟨hlow, hhigh, point, hpoint, hpart, -⟩ := buildOpenSshPublicKey_some hm hline
    exact ⟨hlow, hhigh, point, hpoint, hpart⟩
  · rintro ⟨hlow, hhigh, point, hpoint, hpart⟩
    rw [buildOpenSshPublicKey_eq hm hlow hhigh, Option.isSome_map]
    exact extract_isSome hpoint hpart
  · intro line hline
    obtain ⟨hlow, hhigh, point, hpoint, hpart, rfl⟩ := buildOpenSshPublicKey_some hm hline
    refine ⟨point, hpoint, hpart, ?_, readOpenSshKey_opensshLine hpoint.length,
      length_opensshLine hpoint.length, validPublicKey_opensshLine hpoint.length,
      trim_opensshLine point⟩
    intro last hlast hsuffix
    rw [buildOpenSshPublicKey_eq hm hlow hhigh, extract_suffix hlast hsuffix] at hline
    have hcut := readOpenSshKey_opensshLine hpoint.length
    rw [← Option.some.inj hline, readOpenSshKey_opensshLine hlast.length] at hcut
    cases hcut
    rfl

/-- What mbed TLS might answer: a P-256 key. Its DER structure is as long as such structures are. -/
def p256 : MbedTls where
  ctrDrbgSeed := 0
  pkSetup := 0
  ecpGenKey := 0
  pkWriteKeyPem := (0, beginEcPrivateKey ++ ascii "\nMHcCAQEE\n" ++ endEcPrivateKey ++ ascii "\n" ++ [0])
  pkWritePubkeyDer := (91, List.replicate 101 0 ++ [0x30, 0x59, 0x30, 0x13, 0x06, 0x07, 0x2a, 0x86,
    0x48, 0xce, 0x3d, 0x02, 0x01, 0x06, 0x08, 0x2a, 0x86, 0x48, 0xce, 0x3d, 0x03, 0x01, 0x07, 0x03,
    0x42, 0x00] ++ 4 :: List.replicate 64 0xa5)
  base64Encode size data :=
    if (Base64.padded data).length < size then (0, Base64.padded data) else (-42, [])

theorem documented_p256 : p256.Documented where
  pem _ := by
    refine ⟨ascii "\nMHcCAQEE\n", ?_, ?_⟩ <;> decide +kernel
  der := by decide +kernel
  base64 size data hsize := if_pos hsize

theorem public_key_line_read_p256 : ∃ line, buildOpenSshPublicKey p256 = some line ∧
    readOpenSshKey line = some (algorithm, curve, 4 :: List.replicate 64 0xa5) := by
  obtain ⟨hbuilt, hread⟩ := public_key_line_read documented_p256
  have hlast : IsPoint (4 :: List.replicate 64 0xa5) := ⟨by decide, rfl⟩
  have hsuffix : 4 :: List.replicate 64 0xa5 <:+ p256.der := by decide +kernel
  obtain ⟨line, hline⟩ := Option.isSome_iff_exists.1
    (hbuilt.2 ⟨by decide, by decide, _, hlast, hsuffix.isInfix⟩)
  obtain ⟨point, -, -, hpoint, hkey, -⟩ := hread line hline
  rw [hpoint _ hlast hsuffix] at hkey
  exact ⟨line, hline, hkey⟩

end Line

/-! ### Single files -/

/-- Only this file may have changed. -/
def OnlyAt (p : Path) (fs fs' : Flash) : Prop := ∀ q, q ≠ p → fs' q = fs q

/-- It was this file that could not be removed. -/
def FileCall.sticks (p : Path) : (c : FileCall) → FileReply c → Bool
  | .remove q, (ok : Bool) => decide (q = p) && !ok
  | .rename _ _, _ => false
  | .openWrite _, _ => false
  | .print _ _, _ => false

/-- This file could not be removed. -/
def stuck (p : Path) : FlashTrace → Bool
  | [] => false
  | .call _ _ _ c r :: past => c.sticks p r || stuck p past

theorem stuck_append {p : Path} {done : FlashTrace} (h : stuck p done = true) (past : FlashTrace) :
    stuck p (past ++ done) = true := by
  induction past with
  | nil => exact h
  | cons x past ih =>
    rcases x with ⟨_, _, _, c, r⟩ | ⟨_, _, mark⟩
    · show (c.sticks p r || stuck p (past ++ done)) = true
      rw [ih, Bool.or_true]
    · exact mark.elim

section Rules

variable {α : Type} {Q : α → Assertion Flash FileCall FileReply Empty}
  {K : CrashCondition Flash FileCall FileReply Empty} {w : FlashWorld} {p source target : Path}
  {data : Text}

/-- A file that exists is removed, or that fails. -/
theorem wpc_removeFile_bind {f : Unit → FlashM α} (hK : K w.st w.trace)
    (h : ∀ w', OnlyAt p w.st w'.st →
      (w'.st p = none ∨ w'.st p = w.st p ∧ stuck p w'.trace = true) → wpc (f ()) Q K w') :
    wpc (removeIfExists p >>= f) Q K w := by
  refine wpc_removeIfExists_bind hK ?_ ?_ ?_
  · intro hnone
    exact h w (fun _ _ ↦ rfl) (.inl hnone)
  · intro t _
    exact h _ (fun q hq ↦ Flash.erase_ne hq) (.inl Flash.erase_same)
  · intro t _
    refine h _ (fun _ _ ↦ rfl) (.inr ⟨rfl, ?_⟩)
    show (decide (p = p) && !false || stuck p w.trace) = true
    rw [decide_eq_true rfl]
    rfl

/-- A file is written, and whether all of it went in is checked. -/
theorem wpc_writeFile_bind {g : Bool → FlashM α} (hK : ∀ s done, OnlyAt p w.st s → K s done)
    (hok : ∀ w', OnlyAt p w.st w'.st → w'.st p = some data → wpc (g true) Q K w')
    (hfail : ∀ w', OnlyAt p w.st w'.st → wpc (g false) Q K w') :
    wpc (writeKeyFile p data >>= g) Q K w := by
  have hnow : OnlyAt p w.st w.st := fun _ _ ↦ rfl
  refine wpc_bind (wpc_openWrite_bind (hK _ _ hnow) ?_ ?_)
  · intro t
    have hopened : OnlyAt p w.st (w.st.write p []) := fun q hq ↦ Flash.write_ne hq
    refine wpc_print_bind (hK _ _ hopened) ?_
    intro r t'
    have hprinted : OnlyAt p w.st ((w.st.write p []).append p (data.take r.val)) :=
      fun q hq ↦ (Flash.append_ne hq).trans (Flash.write_ne hq)
    refine wpc_pure ?_
    by_cases hr : r.val = data.length
    · rw [decide_eq_true hr]
      refine hok _ hprinted ?_
      show ((w.st.write p []).append p (data.take r.val)) p = some data
      rw [Flash.append_same, Flash.write_same, hr, List.take_length]
      rfl
    · rw [decide_eq_false hr]
      exact hfail _ hprinted
  · intro t
    exact wpc_pure (hfail _ hnow)

/-- A file gets the name of another one, or it does not. -/
theorem wpc_renameFile_bind {g : Bool → FlashM α} (hne : target ≠ source) (hK : K w.st w.trace)
    (hok : ∀ w', (∀ q, q ≠ source → q ≠ target → w'.st q = w.st q) → w'.st source = none →
      w'.st target = w.st source → wpc (g true) Q K w')
    (hfail : ∀ w', w'.st = w.st → wpc (g false) Q K w') :
    wpc (rename source target >>= g) Q K w := by
  refine wpc_rename_bind hK ?_ ?_
  · intro t _
    exact hok _ (fun q hq hq' ↦ Flash.move_ne hq hq') Flash.move_source (Flash.move_target hne)
  · intro r t _
    exact hfail _ rfl

end Rules

/-! ### The pair in the files -/

/-- The files hold this pair. -/
structure Holds (privateKey publicKey : Text) (fs : Flash) : Prop where
  /-- The private key. -/
  key : fs .key = some privateKey
  /-- The public key. -/
  publicKey : fs .publicKey = some publicKey

/-- One of the two files is missing. -/
def Unpaired (fs : Flash) : Prop := fs .publicKey = none ∨ fs .key = none

/-- If both files exist they hold a pair that was `born` as one. -/
def Whole (born : Text → Text → Prop) (fs : Flash) : Prop :=
  Unpaired fs ∨ ∃ p q, born p q ∧ Holds p q fs

/-- Whatever happens, the files are whole, unless an old public key could not be removed. -/
def WholeUnlessStuck (born : Text → Text → Prop) : CrashCondition Flash FileCall FileReply Empty :=
  fun s done ↦ stuck .publicKey done = true ∨ Whole born s

section Pair

variable {born : Text → Text → Prop} {p q : Text} {fs s : Flash} {w : FlashWorld}

/-- Other files do not matter. -/
theorem Unpaired.only {path : Path} (h : Unpaired fs) (hs : OnlyAt path fs s) (hkey : path ≠ .key)
    (hpublic : path ≠ .publicKey) : Unpaired s := by
  rcases h with hnone | hnone
  · exact .inl ((hs _ hpublic.symm).trans hnone)
  · exact .inr ((hs _ hkey.symm).trans hnone)

theorem Whole.mono {born' : Text → Text → Prop} (h : Whole born fs)
    (hborn : ∀ p q, born p q → born' p q) : Whole born' fs := by
  rcases h with hnone | ⟨p, q, hpair, hholds⟩
  · exact .inl hnone
  · exact .inr ⟨p, q, hborn p q hpair, hholds⟩

theorem Whole.only {path : Path} (h : Whole born fs) (hs : OnlyAt path fs s) (hkey : path ≠ .key)
    (hpublic : path ≠ .publicKey) : Whole born s := by
  rcases h with hunpaired | ⟨p, q, hborn, hholds⟩
  · exact .inl (hunpaired.only hs hkey hpublic)
  · exact .inr ⟨p, q, hborn, (hs _ hkey.symm).trans hholds.key,
      (hs _ hpublic.symm).trans hholds.publicKey⟩

/-- A file that is removed takes no pair apart that would be put together differently. -/
theorem Whole.remove {path : Path} (h : Whole born fs) (hs : OnlyAt path fs s)
    (hpath : s path = none ∨ s path = fs path) : Whole born s := by
  rcases hpath with hnone | hsame
  · by_cases hkey : path = .key
    · exact .inl (.inr (hkey ▸ hnone))
    · by_cases hpublic : path = .publicKey
      · exact .inl (.inl (hpublic ▸ hnone))
      · exact h.only hs hkey hpublic
  · have heq : s = fs := funext fun q ↦ by
      by_cases hq : q = path
      · rw [hq, hsame]
      · exact hs q hq
    rwa [heq]

/-- What an end of `persistKeyPair` leaves. -/
def PersistEnd (born : Text → Text → Prop) (p q : Text) (r : Bool) :
    Assertion Flash FileCall FileReply Empty :=
  fun w ↦ stuck .publicKey w.trace = true ∨ Whole born w.st ∧ (r = true → Holds p q w.st)

/-- Once a public key is stuck nothing is claimed any more. -/
theorem wpc_stuck {m : FlashM Bool} (h : stuck .publicKey w.trace = true) :
    wpc m (PersistEnd born p q) (WholeUnlessStuck born) w :=
  wpc_of_trace (P := fun done ↦ stuck .publicKey done = true) (stuck_append h) (fun _ _ ↦ .inl)
    fun _ _ ↦ .inl

theorem wpc_discard {path : Path} (hpath : path ≠ .publicKey)
    (hw : w.st .publicKey = none) :
    wpc (discardKeys path) (PersistEnd born p q) (WholeUnlessStuck born) w := by
  refine wpc_removeFile_bind (.inr (.inl (.inl hw))) fun w₁ h₁ _ ↦ ?_
  have hw₁ : w₁.st .publicKey = none := (h₁ _ hpath.symm).trans hw
  refine wpc_removeFile_bind (.inr (.inl (.inl hw₁))) fun w₂ h₂ _ ↦ wpc_pure (.inr ⟨?_, ?_⟩)
  · exact .inl (.inl ((h₂ _ (by decide)).trans hw₁))
  · intro hr
    cases hr

/-- The temporary files are removed before anything else is done. -/
theorem wpc_discard_temp (hw : Whole born w.st) :
    wpc (discardKeys .keyTemp) (PersistEnd born p q) (WholeUnlessStuck born) w := by
  refine wpc_removeFile_bind (.inr hw) fun w₁ h₁ _ ↦ ?_
  have hw₁ : Whole born w₁.st := hw.only h₁ (by decide) (by decide)
  refine wpc_removeFile_bind (.inr hw₁) fun w₂ h₂ _ ↦ wpc_pure (.inr ⟨?_, ?_⟩)
  · exact hw₁.only h₂ (by decide) (by decide)
  · intro hr
    cases hr

/-- **The new pair is put in place as a whole.** -/
theorem wpc_install (hborn : born p q) (hw : Whole born w.st) (hkey : w.st .keyTemp = some p)
    (hpublic : w.st .publicKeyTemp = some q) :
    wpc installKeyPair (PersistEnd born p q) (WholeUnlessStuck born) w := by
  refine wpc_removeFile_bind (.inr hw) fun w₁ h₁ hgone₁ ↦ ?_
  have hw₁ : Whole born w₁.st := hw.remove h₁ (hgone₁.imp id fun hsame ↦ hsame.1)
  refine wpc_removeFile_bind (.inr hw₁) fun w₂ h₂ hgone₂ ↦ ?_
  rcases hgone₂ with hnone₂ | ⟨-, hstuck⟩
  · -- The old public key is gone, so the new private key can come.
    have hkey₂ : w₂.st .keyTemp = some p :=
      (h₂ _ (by decide)).trans ((h₁ _ (by decide)).trans hkey)
    have hpublic₂ : w₂.st .publicKeyTemp = some q :=
      (h₂ _ (by decide)).trans ((h₁ _ (by decide)).trans hpublic)
    refine wpc_renameFile_bind (by decide) (.inr (.inl (.inl hnone₂))) ?_ ?_
    · intro w₃ h₃ _ htarget₃
      have hnone₃ : w₃.st .publicKey = none := (h₃ _ (by decide) (by decide)).trans hnone₂
      have hpublic₃ : w₃.st .publicKeyTemp = some q := (h₃ _ (by decide) (by decide)).trans hpublic₂
      refine wpc_renameFile_bind (by decide) (.inr (.inl (.inl hnone₃))) ?_ ?_
      · intro w₄ h₄ _ htarget₄
        have hholds : Holds p q w₄.st := by
          refine ⟨?_, htarget₄.trans hpublic₃⟩
          rw [h₄ _ (by decide) (by decide), htarget₃, hkey₂]
        exact wpc_pure (.inr ⟨.inr ⟨p, q, hborn, hholds⟩, fun _ ↦ hholds⟩)
      · intro w₄ h₄
        exact wpc_discard (by decide) (by rw [h₄, hnone₃])
    · intro w₃ h₃
      exact wpc_discard (by decide) (by rw [h₃, hnone₂])
  · exact wpc_stuck hstuck

/-- `persistKeyPair` leaves whole files behind, wherever it ends. -/
theorem wpc_persist (hborn : born p q) (hw : Whole born w.st) :
    wpc (persistKeyPair p q) (PersistEnd born p q) (WholeUnlessStuck born) w := by
  refine wpc_removeFile_bind (.inr hw) fun w₁ h₁ _ ↦ ?_
  have hw₁ : Whole born w₁.st := hw.only h₁ (by decide) (by decide)
  refine wpc_removeFile_bind (.inr hw₁) fun w₂ h₂ _ ↦ ?_
  have hw₂ : Whole born w₂.st := hw₁.only h₂ (by decide) (by decide)
  refine wpc_writeFile_bind (fun s _ hs ↦ .inr (hw₂.only hs (by decide) (by decide))) ?_ ?_
  · intro w₃ h₃ hkey₃
    have hw₃ : Whole born w₃.st := hw₂.only h₃ (by decide) (by decide)
    refine wpc_writeFile_bind (fun s _ hs ↦ .inr (hw₃.only hs (by decide) (by decide))) ?_ ?_
    · intro w₄ h₄ hpublic₄
      exact wpc_install hborn (hw₃.only h₄ (by decide) (by decide))
        ((h₄ _ (by decide)).trans hkey₃) hpublic₄
    · intro w₄ h₄
      exact wpc_discard_temp (hw₃.only h₄ (by decide) (by decide))
  · intro w₃ h₃
    exact wpc_discard_temp (hw₂.only h₃ (by decide) (by decide))

end Pair

/-! ### One start -/

section Start

variable {born : Text → Text → Prop} {m : MbedTls} {opens : Path → Bool}
  {config : DeviceRuntimeConfig} {p q : Text} {fs s : Flash}

theorem loadExisting_unpaired (h : Unpaired fs) : loadExisting opens fs = none := by
  rcases h with hnone | hnone
  · rw [loadExisting, hnone]
    split
    · next hpublic => cases hpublic
    · rfl
  · rw [loadExisting, hnone]

/-- What is loaded was opened. -/
theorem opens_of_loadExisting {x : Text × Text} (h : loadExisting opens fs = some x) :
    opens .key = true ∧ opens .publicKey = true := by
  rw [loadExisting] at h
  split at h
  · split at h
    · cases h
    · next hno =>
      simp only [Bool.not_eq_true', not_or, Bool.not_eq_false] at hno
      exact ⟨hno.1, hno.2.1⟩
  · cases h

/-- The identity that `ensure` gives for a stored pair. -/
structure Identifies (p q : Text) (c : DeviceRuntimeConfig) : Prop where
  /-- The device logs in with a key. -/
  sshAuthMethod : c.sshAuthMethod = .privateKey
  /-- The private key, possibly without the line break at its end. -/
  sshPrivateKey : c.sshPrivateKey = p ∨ c.sshPrivateKey = p.trim
  /-- The public key. -/
  sshPublicKey : c.sshPublicKey = q
  /-- No passphrase. -/
  sshKeyPassphrase : c.sshKeyPassphrase = []

/-- What an end of `ensure` leaves. -/
def EnsureEnd (born : Text → Text → Prop) (r : Bool × DeviceRuntimeConfig) :
    Assertion Flash FileCall FileReply Empty :=
  fun w ↦ stuck .publicKey w.trace = true ∨ Whole born w.st ∧
    (r.1 = true → ∃ p q, born p q ∧ Holds p q w.st ∧ Identifies p q r.2)

/-- **One start** keeps the files whole, and comes to the identity that is in them. -/
theorem wpc_ensure (opens : Path → Bool) (config : DeviceRuntimeConfig) (hfs : Whole born fs)
    (hborn : ∀ p q, born p q → ∃ m, Generated m p q)
    (hnew : ∀ p q, generateKeyPair m = some (p, q) → born p q) :
    wpc (ensure m opens config) (EnsureEnd born) (WholeUnlessStuck born) (powerOn fs) := by
  refine wpc_get_bind ?_
  rcases hload : loadExisting opens (powerOn fs).st with - | ⟨privateKey, publicKey⟩
  · rcases hgenerate : generateKeyPair m with - | ⟨p, q⟩
    · refine wpc_pure (.inr ⟨hfs, ?_⟩)
      intro hr
      cases hr
    · have hpersist := wpc_persist (hnew p q hgenerate) (w := powerOn fs) hfs
      refine wpc_bind (wpc_mono hpersist ?_ fun _ _ hK ↦ hK)
      intro persisted w hend
      cases persisted with
      | false =>
        refine wpc_pure (hend.imp id fun hwhole ↦ ⟨hwhole.1, ?_⟩)
        intro hr
        cases hr
      | true =>
        refine wpc_pure (hend.imp id fun hwhole ↦ ⟨hwhole.1, fun _ ↦ ?_⟩)
        exact ⟨p, q, hnew p q hgenerate, hwhole.2 rfl, rfl, .inl rfl, rfl, rfl⟩
  · obtain ⟨hopens, hopens'⟩ := opens_of_loadExisting hload
    rcases hfs with hunpaired | ⟨p, q, hpair, hholds⟩
    · cases (loadExisting_unpaired hunpaired).symm.trans hload
    · obtain ⟨m', hgenerated⟩ := hborn p q hpair
      obtain ⟨rfl, rfl⟩ : p.trim = privateKey ∧ q = publicKey := by
        have hsame := loadExisting_of_generated hgenerated hholds.key hholds.publicKey hopens hopens'
        exact Prod.mk.inj (Option.some.inj (hsame.symm.trans hload))
      refine wpc_pure (.inr ⟨.inr ⟨p, q, hpair, hholds⟩, fun _ ↦ ?_⟩)
      exact ⟨p, q, hpair, hholds, rfl, .inr rfl, rfl, rfl⟩

/-- A factory reset takes no pair apart that would be put together differently. -/
theorem wpc_factoryReset (hfs : Whole born fs) :
    wpc factoryReset (fun _ w ↦ Whole born w.st) (fun s _ ↦ Whole born s) (powerOn fs) := by
  have hremove : ∀ {w : FlashWorld} {path : Path} {f : Unit → FlashM Unit}, Whole born w.st →
      (∀ w', Whole born w'.st → wpc (f ()) (fun _ w ↦ Whole born w.st) (fun s _ ↦ Whole born s) w') →
      wpc (removeIfExists path >>= f) (fun _ w ↦ Whole born w.st) (fun s _ ↦ Whole born s) w := by
    intro w path f hw hf
    refine wpc_removeFile_bind hw fun w' hw' hpath ↦ hf w' ?_
    exact hw.remove hw' (hpath.imp id fun hsame ↦ hsame.1)
  have hpure : (removeIfExists .configAppliedNotice : FlashM Unit) =
      (removeIfExists .configAppliedNotice >>= pure) := rfl
  rw [factoryReset, hpure]
  refine hremove hfs fun w₁ h₁ ↦ hremove h₁ fun w₂ h₂ ↦ hremove h₂ fun w₃ h₃ ↦ ?_
  refine hremove h₃ fun w₄ h₄ ↦ hremove h₄ fun w₅ h₅ ↦ hremove h₅ fun w₆ h₆ ↦ ?_
  exact hremove h₆ fun w₇ h₇ ↦ hremove h₇ fun w₈ h₈ ↦ wpc_pure h₈

end Start

/-! ### Starting again and again -/

/-- An old public key could not be removed at this start. -/
def IdentityEvent.stuck : IdentityEvent → Bool
  | .ensured _ done => Provisioning.stuck .publicKey done
  | .reset _ => false

/-- One of these starts has generated this pair. -/
def Born (l : IdentityHistory) (p q : Text) : Prop :=
  ∃ m opens config event, (.ensure m opens config, event) ∈ l ∧ Generated m p q

section Runs

variable {l : IdentityHistory} {fs fs' : Flash} {m : MbedTls} {opens : Path → Bool}
  {c config : DeviceRuntimeConfig} {done : FlashTrace} {p q : Text}

theorem Born.cons {x : IdentityStep × IdentityEvent} (h : Born l p q) : Born (x :: l) p q := by
  obtain ⟨m, opens, config, event, hmem, hgenerated⟩ := h
  exact ⟨m, opens, config, event, List.mem_cons_of_mem _ hmem, hgenerated⟩

theorem Born.generated (h : Born l p q) : ∃ m, Generated m p q := by
  obtain ⟨m, -, -, -, -, hgenerated⟩ := h
  exact ⟨m, hgenerated⟩

/-- What a start leaves, if no public key got stuck. -/
theorem ensure_step (hfs : Whole (Born l) fs) {r : Option (Bool × DeviceRuntimeConfig)}
    (h : identityStep fs (.ensure m opens config) (.ensured r done) fs')
    (hremoved : stuck .publicKey done = false) :
    Whole (Born ((.ensure m opens config, .ensured r done) :: l)) fs' ∧
      ∀ c, r = some (true, c) → ∃ p q, Born ((.ensure m opens config, .ensured r done) :: l) p q ∧
        Holds p q fs' ∧ Identifies p q c := by
  obtain ⟨hm, hhalts⟩ := h
  have hwpc := wpc_ensure opens config (hfs.mono fun p q ↦ Born.cons) (fun p q ↦ Born.generated)
    fun p q hgenerate ↦ (⟨m, opens, config, .ensured r done, List.mem_cons_self .., hm, hgenerate⟩ :
      Born ((.ensure m opens config, .ensured r done) :: l) p q)
  cases hhalts with
  | returned e =>
    rcases (hwpc e).1 with hstuck | ⟨hwhole, hidentity⟩
    · exact absurd (hremoved.symm.trans hstuck) Bool.false_ne_true
    · refine ⟨hwhole, ?_⟩
      intro c hc
      have hval := Option.some.inj hc
      obtain ⟨p, q, hpair, hholds, hidentifies⟩ := hidentity (by rw [hval])
      rw [hval] at hidentifies
      exact ⟨p, q, hpair, hholds, hidentifies⟩
  | cut e x past hx =>
    rcases (hwpc e).2 x past hx with hstuck | hwhole
    · exact absurd (hremoved.symm.trans hstuck) Bool.false_ne_true
    · refine ⟨hwhole, ?_⟩
      intro c hc
      cases hc

theorem reset_step (hfs : Whole (Born l) fs)
    (h : identityStep fs .factoryReset (.reset done) fs') : Whole (Born l) fs' := by
  obtain ⟨r, hhalts⟩ := h
  have hwpc := wpc_factoryReset hfs
  cases hhalts with
  | returned e => exact (hwpc e).1
  | cut e x past hx => exact (hwpc e).2 x past hx

/-- An old public key was removed whenever that was tried. -/
def NeverStuck (l : IdentityHistory) : Prop := ∀ x ∈ l, x.2.stuck = false

/-- The files are whole after every run. -/
theorem whole_of_run (hfs : Unpaired fs) (h : identitySystem.Run fs l fs')
    (hremoved : NeverStuck l) : Whole (Born l) fs' := by
  induction h with
  | refl => exact .inl hfs
  | @step l t u op event hrun hstep ih =>
    have hwhole := ih fun x hx ↦ hremoved x (List.mem_cons_of_mem _ hx)
    have hnow := hremoved (op, event) (List.mem_cons_self ..)
    rcases op with ⟨m, opens, config⟩ | - <;> rcases event with ⟨r, done⟩ | done
    · exact (ensure_step hwhole hstep hnow).1
    · exact hstep.elim
    · exact hstep.elim
    · exact (reset_step hwhole hstep).mono fun p q ↦ Born.cons

/-- What a start that comes to an identity has found or generated. -/
theorem pair_of_ensure {t : Flash} (hfs : Unpaired fs) (hrun : identitySystem.Run fs l t)
    (hstep : identitySystem.step t (.ensure m opens config) (.ensured (some (true, c)) done) fs')
    (hremoved : NeverStuck ((.ensure m opens config, .ensured (some (true, c)) done) :: l)) :
    ∃ p q, Born ((.ensure m opens config, .ensured (some (true, c)) done) :: l) p q ∧ Holds p q fs' ∧
      Identifies p q c := by
  have hwhole := whole_of_run hfs hrun fun x hx ↦ hremoved x (List.mem_cons_of_mem _ hx)
  have hnow := hremoved _ (List.mem_cons_self ..)
  exact (ensure_step hwhole hstep hnow).2 c rfl

/-- **An identity is never made of two pairs.** From a device without a pair, whatever fails and wherever
the power is lost, in all starts and factory resets: the two keys that a start comes to were generated
together, at this start or an earlier one. What must not fail is the removal of an old public key that a
factory reset has left behind. -/
theorem identity_whole (hfs : Unpaired fs)
    (h : identitySystem.Run fs ((.ensure m opens config, .ensured (some (true, c)) done) :: l) fs')
    (hremoved : NeverStuck ((.ensure m opens config, .ensured (some (true, c)) done) :: l)) :
    ∃ p q, Born ((.ensure m opens config, .ensured (some (true, c)) done) :: l) p q ∧ Holds p q fs' ∧
      Identifies p q c := by
  cases h with
  | step hrun hstep => exact pair_of_ensure hfs hrun hstep hremoved

/-- Every file can be opened for reading. -/
def allOpen : Path → Bool := fun _ ↦ true

/-- A device without files. -/
def blank : Flash := fun _ ↦ none

/-- Its first start. -/
def firstStart : (Bool × DeviceRuntimeConfig) × FlashWorld :=
  (ensure p256 allOpen {}).run sunny (powerOn blank)

/-- The run that consists of it. -/
def firstRun : IdentityStep × IdentityEvent :=
  (.ensure p256 allOpen {}, .ensured (some (true, firstStart.1.2)) firstStart.2.trace)

theorem run_firstRun : identitySystem.Run blank [firstRun] firstStart.2.st := by
  have hreturned : Halts (ensure p256 allOpen {}) (powerOn blank) (some firstStart.1) firstStart.2.st
    firstStart.2.trace := .returned sunny
  have htrue : firstStart.1.1 = true := by decide +kernel
  have hpair : ∀ r : Bool × DeviceRuntimeConfig, r.1 = true → r = (true, r.2) := by
    rintro ⟨-, c⟩ rfl
    rfl
  rw [hpair _ htrue] at hreturned
  have hstep : identityStep blank firstRun.1 firstRun.2 firstStart.2.st :=
    And.intro documented_p256 hreturned
  exact .step .refl hstep

theorem identity_whole_firstRun :
    ∃ p q, Born [firstRun] p q ∧ Holds p q firstStart.2.st ∧ Identifies p q firstStart.1.2 :=
  identity_whole (.inl rfl) run_firstRun (by
    intro x hx
    obtain rfl := List.mem_singleton.1 hx
    decide +kernel)

/-- A generated private key passes the check of `loadKeys`. -/
theorem Generated.validKey (h : Generated m p q) : validKey p = true := by
  obtain ⟨⟨body, hbody⟩, hlength, hzero, -⟩ := h.shape
  have hplain : Text.cString p = p := Text.cString_of_notMem hzero
  have hbegin : p.contains (ascii "-----BEGIN") = true := by
    have hmark : ascii "-----BEGIN" <:+: beginEcPrivateKey := by decide +kernel
    rw [Text.contains, hplain, hbody, List.append_assoc, List.append_assoc]
    exact decide_eq_true (hmark.trans (List.prefix_append _ _).isInfix)
  have hname : p.contains (ascii "PRIVATE KEY-----") = true := by
    have hmark : ascii "PRIVATE KEY-----" <:+: beginEcPrivateKey := by decide +kernel
    rw [Text.contains, hplain, hbody, List.append_assoc, List.append_assoc]
    exact decide_eq_true (hmark.trans (List.prefix_append _ _).isInfix)
  have hend : p.contains (ascii "-----END") = true := by
    have hmark : ascii "-----END" <:+: endEcPrivateKey := by decide +kernel
    rw [Text.contains, hplain, hbody]
    exact decide_eq_true (hmark.trans
      ((List.suffix_append _ _).isInfix.trans (List.prefix_append _ _).isInfix))
  have hpos : 0 < p.length := by
    rw [hbody, List.length_append]
    exact Nat.lt_add_left _ (by decide)
  have hsize : p.length ≤ maxKeySize := hlength.le.trans (by decide)
  rw [Provisioning.validKey, hbegin, hname, hend, decide_eq_true hpos, decide_eq_true hsize]
  rfl

end Runs

end Provisioning

end ReverseTunnel
