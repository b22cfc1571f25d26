import ReverseTunnel.System.Trace

/-!
# The host key check

`verifyHostKey` compares the fingerprint of the server's key with a text somebody typed in. Two
things matter. A given text must accept **one** fingerprint at most, whatever the server shows; and
every documented way to write a fingerprint must accept it.

The first holds because the text alone decides how it is read (`expectedComparable` never sees the
key), and because both encodings can be read back (`fromHex_encode`, `fromBase64_body`). The second
follows the clean-up step by step for each `Spelling`.
-/

namespace ReverseTunnel

open Traced TunnelM Text

/-! ### One fingerprint for a text -/

theorem encodeFingerprintHex_injective {h h' : List UInt8}
    (he : encodeFingerprintHex h = encodeFingerprintHex h') : h = h' := by
  rw [← fromHex_encode h, he, fromHex_encode]

theorem encodeFingerprintBase64_injective {h h' : List UInt8}
    (he : encodeFingerprintBase64 h = encodeFingerprintBase64 h') : h = h' := by
  rw [encodeFingerprintBase64_eq, encodeFingerprintBase64_eq] at he
  rw [← fromBase64_body h, he, fromBase64_body]

/-- No text matches two fingerprints. -/
theorem fingerprintsMatch_unique {e : Text} {h h' : List UInt8} (hm : fingerprintsMatch e h = true)
    (hm' : fingerprintsMatch e h' = true) : h = h' := by
  simp only [fingerprintsMatch] at hm hm'
  cases hbase : (expectedComparable e).1 with
  | true =>
    simp only [hbase, if_true, beq_iff_eq] at hm hm'
    exact encodeFingerprintBase64_injective (hm.symm.trans hm')
  | false =>
    simp only [hbase, Bool.false_eq_true, if_false, beq_iff_eq] at hm hm'
    exact encodeFingerprintHex_injective (hm.symm.trans hm')

/-! ### The documented spellings -/

/-- `':'` and `' '`, which may stand anywhere in a hexadecimal fingerprint. -/
def isSeparator (b : UInt8) : Bool := b == chr ' ' || b == chr ':'

/-- The base64 of `h` with `pad` times `=` behind it. -/
def padded (h : List UInt8) (pad : ℕ) : Text :=
  encodeFingerprintBase64 h ++ List.replicate pad (chr '=')

/-- The ways to write the fingerprint `h`. -/
inductive Spelling (h : List UInt8) : Text → Prop where
  /-- Its hexadecimal digits in any letter case, with separators anywhere, between blanks. -/
  | hex (pre t post : Text) (hpre : ∀ b ∈ pre, isSpace b = true)
    (hpost : ∀ b ∈ post, isSpace b = true)
    (digits : (t.filter (!isSeparator ·)).map lowerByte = encodeFingerprintHex h) :
    Spelling h (pre ++ t ++ post)
  /-- Its base64, padded or not, between blanks. -/
  | base64 (pre post : Text) (pad : ℕ) (hpre : ∀ b ∈ pre, isSpace b = true)
    (hpost : ∀ b ∈ post, isSpace b = true) :
    Spelling h (pre ++ padded h pad ++ post)
  /-- The same behind `SHA256:` in any letter case. -/
  | openSSH (pre tag post : Text) (pad : ℕ) (hpre : ∀ b ∈ pre, isSpace b = true)
    (hpost : ∀ b ∈ post, isSpace b = true) (htag : tag.map lowerByte = ascii "sha256:") :
    Spelling h (pre ++ (tag ++ padded h pad) ++ post)

/-! ### Hexadecimal spellings -/

theorem hexDigits_plain : ∀ b ∈ hexDigits,
    lowerByte b = b ∧ isXDigit b = true ∧ b ≠ chr ' ' ∧ b ≠ chr ':' ∧ b ≠ chr 's' := by
  decide +kernel

/-- What a byte of a hexadecimal spelling can be. -/
theorem hexByte : ∀ b, isSeparator b = true ∨ lowerByte b ∈ hexDigits →
    (isSpace b = true → isSeparator b = true) ∧ b ≠ chr '\r' ∧ b ≠ chr '\n' ∧
      lowerByte b ≠ chr 's' := by
  decide +kernel

/-- The digits of a fingerprint are what the last clean-up leaves of them. -/
theorem comparableHex_encode (h : List UInt8) :
    comparableHex (encodeFingerprintHex h) = encodeFingerprintHex h := by
  have hplain := fun b (hb : b ∈ encodeFingerprintHex h) ↦
    hexDigits_plain b (mem_encodeFingerprintHex hb)
  have hlower : toLowerCase (encodeFingerprintHex h) = encodeFingerprintHex h :=
    (List.map_congr_left fun b hb ↦ (hplain b hb).1).trans (List.map_id _)
  rw [comparableHex, hlower, without_of_notMem fun hb ↦ (hplain _ hb).2.2.1 rfl,
    without_of_notMem fun hb ↦ (hplain _ hb).2.2.2.1 rfl]

theorem isValidHexFingerprint_encode {h : List UInt8} (hlen : h.length = 32) :
    isValidHexFingerprint (encodeFingerprintHex h) = true := by
  have hall : (encodeFingerprintHex h).all isXDigit = true :=
    List.all_eq_true.2 fun b hb ↦ (hexDigits_plain b (mem_encodeFingerprintHex hb)).2.1
  rw [isValidHexFingerprint, hall, length_encodeFingerprintHex, hlen]
  rfl

/-- A hexadecimal spelling is read as the digits it spells. -/
theorem expectedComparable_hex {pre t post : Text} {h : List UInt8} (hlen : h.length = 32)
    (hpre : ∀ b ∈ pre, isSpace b = true) (hpost : ∀ b ∈ post, isSpace b = true)
    (digits : (t.filter (!isSeparator ·)).map lowerByte = encodeFingerprintHex h) :
    expectedComparable (pre ++ t ++ post) = (false, encodeFingerprintHex h) := by
  have hbyte : ∀ b ∈ t, (isSpace b = true → isSeparator b = true) ∧ b ≠ chr '\r' ∧ b ≠ chr '\n' ∧
      lowerByte b ≠ chr 's' := by
    intro b hb
    refine hexByte b ?_
    cases hsep : isSeparator b with
    | true => exact .inl rfl
    | false =>
      have hkept : b ∈ t.filter (!isSeparator ·) := List.mem_filter.2 ⟨hb, by simp [hsep]⟩
      exact .inr (mem_encodeFingerprintHex (digits ▸ List.mem_map_of_mem hkept))
  have hraw : expectedRaw (pre ++ t ++ post) = t.trim := by
    rw [expectedRaw, trim_between hpre hpost,
      without_of_notMem fun hb ↦ (hbyte _ (mem_of_mem_trim hb)).2.1 rfl,
      without_of_notMem fun hb ↦ (hbyte _ (mem_of_mem_trim hb)).2.2.1 rfl]
  -- An `s` would have to come from a byte of the text.
  have htag : startsWith (toLowerCase t.trim) (ascii "sha256:") = false := by
    rw [startsWith, Bool.eq_false_iff]
    intro hstart
    have hs : chr 's' ∈ toLowerCase t.trim :=
      (List.isPrefixOf_iff_prefix.1 hstart).subset (by decide +kernel)
    obtain ⟨b, hb, hbs⟩ := List.mem_map.1 hs
    exact (hbyte b (mem_of_mem_trim hb)).2.2.2 hbs
  have hcandidate : toLowerCase (((t.trim).without ' ').without ':') = encodeFingerprintHex h := by
    rw [← digits, ← filter_trim (p := (!isSeparator ·)) fun b hb hsp ↦ by simp [(hbyte b hb).1 hsp]]
    rw [toLowerCase, without, without, List.filter_filter]
    congr 1
    refine List.filter_congr fun b _ ↦ ?_
    by_cases hsp : b = chr ' ' <;> simp [isSeparator, hsp, beq_eq_decide]
  simp only [expectedComparable, hraw, htag, hcandidate, Bool.false_eq_true, if_false,
    isValidHexFingerprint_encode hlen, if_true, comparableHex_encode]

/-! ### Base64 spellings -/

theorem base64Table_plain : ∀ b, b ∈ base64Table ∨ b = chr '=' →
    isSpace b = false ∧ b ≠ chr ' ' ∧ b ≠ chr '\r' ∧ b ≠ chr '\n' ∧ b ≠ chr ':' ∧
      lowerByte b ≠ chr ':' := by
  decide +kernel

theorem tagByte_plain : ∀ b, lowerByte b ∈ ascii "sha256:" →
    isSpace b = false ∧ b ≠ chr '\r' ∧ b ≠ chr '\n' := by
  decide +kernel

section Padded

variable {h : List UInt8} {pad : ℕ}

theorem mem_padded {b : UInt8} (hb : b ∈ padded h pad) : b ∈ base64Table ∨ b = chr '=' := by
  rcases List.mem_append.1 hb with hb | hb
  · rw [encodeFingerprintBase64_eq] at hb
    exact .inl (mem_base64Body h b hb)
  · exact .inr (List.eq_of_mem_replicate hb)

/-- There is no colon in it, so neither prefix. -/
theorem not_startsWith_padded {start : Text} (hcolon : chr ':' ∈ start) :
    startsWith (padded h pad) start = false ∧
      startsWith (toLowerCase (padded h pad)) start = false := by
  refine ⟨Bool.eq_false_iff.2 fun hstart ↦ ?_, Bool.eq_false_iff.2 fun hstart ↦ ?_⟩
  · have hmem := (List.isPrefixOf_iff_prefix.1 hstart).subset hcolon
    exact (base64Table_plain _ (mem_padded hmem)).2.2.2.2.1 rfl
  · obtain ⟨b, hb, hbc⟩ := List.mem_map.1 ((List.isPrefixOf_iff_prefix.1 hstart).subset hcolon)
    exact (base64Table_plain b (mem_padded hb)).2.2.2.2.2 hbc

/-- The last clean-up takes the padding off and nothing else. -/
theorem comparableBase64_padded :
    comparableBase64 (padded h pad) = encodeFingerprintBase64 h := by
  have hplain := fun b (hb : b ∈ padded h pad) ↦ base64Table_plain b (mem_padded hb)
  have htrim : trim (padded h pad) = padded h pad := trim_eq_self fun b hb ↦ (hplain b hb).1
  have hupper : startsWith (padded h pad) (ascii "SHA256:") = false :=
    (not_startsWith_padded (by decide)).1
  have hlower : startsWith (padded h pad) (ascii "sha256:") = false :=
    (not_startsWith_padded (by decide)).1
  simp only [comparableBase64, htrim, hupper, hlower, Bool.false_eq_true, if_false]
  rw [without_of_notMem (c := ' ') fun hb ↦ (hplain _ hb).2.1 rfl,
    without_of_notMem (c := '\r') fun hb ↦ (hplain _ hb).2.2.1 rfl,
    without_of_notMem (c := '\n') fun hb ↦ (hplain _ hb).2.2.2.1 rfl]
  have hpads : without '=' (List.replicate pad (chr '=')) = [] := by
    rw [without, List.filter_replicate_of_neg (by simp)]
  have hdigits : without '=' (encodeFingerprintBase64 h) = encodeFingerprintBase64 h := by
    refine without_of_notMem fun hb ↦ ?_
    rw [encodeFingerprintBase64_eq] at hb
    exact base64Table_ne_pad _ (mem_base64Body h _ hb) rfl
  rw [padded, without, List.filter_append]
  show without '=' _ ++ without '=' _ = _
  rw [hpads, hdigits, List.append_nil]

/-- Bare base64 is read as base64: it is too short to be hexadecimal, or ends in padding. -/
theorem expectedComparable_base64 {pre post : Text} (hlen : h.length = 32)
    (hpre : ∀ b ∈ pre, isSpace b = true) (hpost : ∀ b ∈ post, isSpace b = true) :
    expectedComparable (pre ++ padded h pad ++ post) = (true, encodeFingerprintBase64 h) := by
  have hplain := fun b (hb : b ∈ padded h pad) ↦ base64Table_plain b (mem_padded hb)
  have hraw : expectedRaw (pre ++ padded h pad ++ post) = padded h pad := by
    rw [expectedRaw, trim_between hpre hpost, trim_eq_self fun b hb ↦ (hplain b hb).1,
      without_of_notMem (c := '\r') fun hb ↦ (hplain _ hb).2.2.1 rfl,
      without_of_notMem (c := '\n') fun hb ↦ (hplain _ hb).2.2.2.1 rfl]
  have htag : startsWith (toLowerCase (padded h pad)) (ascii "sha256:") = false :=
    (not_startsWith_padded (by decide)).2
  have hsame : ((padded h pad).without ' ').without ':' = padded h pad := by
    rw [without_of_notMem (c := ' ') fun hb ↦ (hplain _ hb).2.1 rfl,
      without_of_notMem (c := ':') fun hb ↦ (hplain _ hb).2.2.2.2.1 rfl]
  have hhex : isValidHexFingerprint (toLowerCase (padded h pad)) = false := by
    rcases Nat.eq_zero_or_pos pad with rfl | hpad
    · have hlength : (toLowerCase (padded h 0)).length = 43 := by
        rw [toLowerCase, List.length_map, padded, encodeFingerprintBase64_eq, List.length_append,
          length_base64Body, hlen]
        rfl
      rw [isValidHexFingerprint, hlength]
      rfl
    · rw [isValidHexFingerprint, Bool.and_eq_false_iff]
      refine .inr (List.all_eq_false.2 ⟨chr '=', ?_, by decide⟩)
      exact List.mem_map.2 ⟨chr '=', List.mem_append_right _
        (List.mem_replicate.2 ⟨by omega, rfl⟩), by decide⟩
  simp only [expectedComparable, hraw, htag, hsame, hhex, Bool.false_eq_true, if_false,
    comparableBase64_padded]

/-- Whatever its letter case, the prefix has its colon at the end and no other. -/
theorem tag_split {tag : Text} (htag : tag.map lowerByte = ascii "sha256:") :
    ∃ name : Text, tag = name ++ [chr ':'] ∧ chr ':' ∉ name := by
  obtain ⟨name, colon, rfl, hname, hcolon⟩ :=
    List.map_eq_append_iff.1 (htag.trans (show _ = ascii "sha256" ++ [chr ':'] from rfl))
  obtain ⟨c, rfl, hc⟩ := List.map_eq_singleton_iff.1 hcolon
  have hc' : c = chr ':' := (show ∀ b, lowerByte b = chr ':' → b = chr ':' by decide +kernel) c hc
  refine ⟨name, by rw [hc'], fun hmem ↦ ?_⟩
  have hmem' : lowerByte (chr ':') ∈ ascii "sha256" := hname ▸ List.mem_map_of_mem hmem
  exact absurd hmem' (by decide +kernel)

/-- The prefix is found in any letter case and cut off. -/
theorem expectedComparable_openSSH {pre tag post : Text}
    (hpre : ∀ b ∈ pre, isSpace b = true) (hpost : ∀ b ∈ post, isSpace b = true)
    (htag : tag.map lowerByte = ascii "sha256:") :
    expectedComparable (pre ++ (tag ++ padded h pad) ++ post)
      = (true, encodeFingerprintBase64 h) := by
  have hplain : ∀ b ∈ tag ++ padded h pad, isSpace b = false ∧ b ≠ chr '\r' ∧ b ≠ chr '\n' := by
    intro b hb
    rcases List.mem_append.1 hb with hb | hb
    · exact tagByte_plain b (htag ▸ List.mem_map_of_mem hb)
    · have hbase := base64Table_plain b (mem_padded hb)
      exact ⟨hbase.1, hbase.2.2.1, hbase.2.2.2.1⟩
  have hraw : expectedRaw (pre ++ (tag ++ padded h pad) ++ post) = tag ++ padded h pad := by
    rw [expectedRaw, trim_between hpre hpost, trim_eq_self fun b hb ↦ (hplain b hb).1,
      without_of_notMem (c := '\r') fun hb ↦ (hplain _ hb).2.1 rfl,
      without_of_notMem (c := '\n') fun hb ↦ (hplain _ hb).2.2 rfl]
  have hstart : startsWith (toLowerCase (tag ++ padded h pad)) (ascii "sha256:") = true := by
    rw [toLowerCase, List.map_append, htag]
    exact List.isPrefixOf_iff_prefix.2 (List.prefix_append _ _)
  have hrest : substring (tag ++ padded h pad) (indexOf ':' (tag ++ padded h pad) + 1)
      = padded h pad := by
    obtain ⟨name, rfl, hname⟩ := tag_split htag
    have hindex : indexOf ':' (name ++ [chr ':'] ++ padded h pad) = name.length := by
      rw [indexOf, if_pos (by simp), List.append_assoc, List.idxOf_append_of_notMem hname]
      simp
    rw [hindex, substring, show ((name.length : Int) + 1).toNat = name.length + 1 by omega,
      List.drop_left' (by simp)]
  simp only [expectedComparable, hraw, hstart, if_true, hrest, comparableBase64_padded]

end Padded

/-- **Every spelling of a fingerprint matches it.** -/
theorem fingerprintsMatch_spelling {e : Text} {h : List UInt8} (hlen : h.length = 32)
    (hspell : Spelling h e) : fingerprintsMatch e h = true := by
  simp only [fingerprintsMatch]
  cases hspell with
  | hex pre t post hpre hpost digits =>
    rw [expectedComparable_hex hlen hpre hpost digits]
    exact beq_self_eq_true _
  | base64 pre post pad hpre hpost =>
    rw [expectedComparable_base64 hlen hpre hpost]
    exact beq_self_eq_true _
  | openSSH pre tag post pad hpre hpost htag =>
    rw [expectedComparable_openSSH hpre hpost htag]
    exact beq_self_eq_true _

/-! ### The check itself -/

/-- `verifyHostKey`, started in `w`, gets the session lock and is told a key of type `hostKeyType`
with the SHA-256 `h`. -/
structure Supplies (env : Env Call Call.Reply) (w : World SSHTunnel Call Call.Reply Mark)
    (session : ℕ) (hostKeyType : Int) (h : List UInt8) : Prop where
  /-- The lock is granted. -/
  locked : env.reply w.serial (.sys (.lock 200)) = true
  /-- There is a key blob. -/
  blob : (env.reply (w.serial + 1) (.sys (.sessionHostkey session)) : HostKey).key ≠ []
  /-- Its type. -/
  type : (env.reply (w.serial + 1) (.sys (.sessionHostkey session)) : HostKey).type = hostKeyType
  /-- Its hash. -/
  hash : (env.reply (w.serial + 1) (.sys (.sessionHostkey session)) : HostKey).hash = some h
  /-- SHA-256 has 32 bytes. -/
  length : h.length = 32

section Verdict

variable {p : Params} {env : Env Call Call.Reply} {w : World SSHTunnel Call Call.Reply Mark}
  {session : ℕ} {hostKeyType : Int} {h : List UInt8}

/-- What is decided once the key type and the fingerprint of the server are known. -/
theorem checkHostKey_verdict (hexpected : p.server.expectedHostKeyFingerprint ≠ []) :
    ((checkHostKey p.server hostKeyType h).run env w).1 = true ↔
      (p.server.hostKeyType = [] ∨ p.server.hostKeyType = keyTypeStr hostKeyType) ∧
        fingerprintsMatch p.server.expectedHostKeyFingerprint h = true := by
  have hlength : ¬ p.server.expectedHostKeyFingerprint.length = 0 := by simpa using hexpected
  rw [checkHostKey]
  by_cases htype : p.server.hostKeyType = [] ∨ p.server.hostKeyType = keyTypeStr hostKeyType
  · rw [if_neg (by rcases htype with htype | htype <;> simp [htype]), if_neg hlength]
    cases hmatch : fingerprintsMatch p.server.expectedHostKeyFingerprint h with
    | true => simp [htype]
    | false => simp
  · rw [not_or] at htype
    rw [if_pos (by simp [htype, List.length_pos_iff])]
    simp [htype]

/-- What the check returns with a fingerprint configured. -/
theorem verifyHostKey_verdict (hverify : p.server.verifyHostKey = true)
    (hexpected : p.server.expectedHostKeyFingerprint ≠ [])
    (hs : Supplies env w session hostKeyType h) :
    ((verifyHostKey p session).run env w).1 = true ↔
      (p.server.hostKeyType = [] ∨ p.server.hostKeyType = keyTypeStr hostKeyType) ∧
        fingerprintsMatch p.server.expectedHostKeyFingerprint h = true := by
  have hlock : (lock 200 : TunnelM Bool).run env w = (true, w.after (.sys (.lock 200)) _ _) :=
    Prod.ext hs.locked rfl
  have hkey : ∀ t : ℕ, ((sys (.sessionHostkey session) : TunnelM HostKey).run env
      (w.after (.sys (.lock 200)) (env.reply w.serial (.sys (.lock 200))) t)).1
        = env.reply (w.serial + 1) (.sys (.sessionHostkey session)) := fun _ ↦ rfl
  have hblob : ¬ (env.reply (w.serial + 1) (.sys (.sessionHostkey session)) : HostKey).key.length
      = 0 := by simpa using hs.blob
  simp only [verifyHostKey, hverify, Bool.not_true, Bool.false_eq_true, if_false, Prog.run_bind,
    hlock, hkey]
  rw [hs.hash]
  simp only [hblob, if_false, hs.type]
  exact checkHostKey_verdict hexpected

end Verdict

/-- **The host key check accepts the configured fingerprint and nothing else.** With a fingerprint
configured, whatever session and whatever the state of the tunnel: no two keys that pass the check
for one configured text have different fingerprints; a key that passes has the configured type, if
one is configured; and if its type is right, a key passes for every spelling of its fingerprint. -/
theorem host_key_check (p : Params) (hverify : p.server.verifyHostKey = true)
    (hexpected : p.server.expectedHostKeyFingerprint ≠ []) :
    (∀ p' : Params, p'.server.verifyHostKey = true →
      p'.server.expectedHostKeyFingerprint = p.server.expectedHostKeyFingerprint →
      ∀ env env' w w' session session' type type' h h',
        Supplies env w session type h → Supplies env' w' session' type' h' →
        ((verifyHostKey p session).run env w).1 = true →
        ((verifyHostKey p' session').run env' w').1 = true → h = h') ∧
    (∀ env w session type h, Supplies env w session type h →
      ((verifyHostKey p session).run env w).1 = true →
      p.server.hostKeyType = [] ∨ p.server.hostKeyType = keyTypeStr type) ∧
    (∀ env w session type h, Supplies env w session type h →
      (p.server.hostKeyType = [] ∨ p.server.hostKeyType = keyTypeStr type) →
      Spelling h p.server.expectedHostKeyFingerprint →
      ((verifyHostKey p session).run env w).1 = true) := by
  refine ⟨fun p' hverify' hsame env env' w w' session session' type type' h h' hs hs' hok hok' ↦ ?_,
    fun env w session type h hs hok ↦ ?_, fun env w session type h hs htype hspell ↦ ?_⟩
  · have hmatch := ((verifyHostKey_verdict hverify hexpected hs).1 hok).2
    have hmatch' := ((verifyHostKey_verdict hverify' (hsame ▸ hexpected) hs').1 hok').2
    rw [hsame] at hmatch'
    exact fingerprintsMatch_unique hmatch hmatch'
  · exact ((verifyHostKey_verdict hverify hexpected hs).1 hok).1
  · exact (verifyHostKey_verdict hverify hexpected hs).2
      ⟨htype, fingerprintsMatch_spelling hs.length hspell⟩

/-- A fingerprint of zeros, as somebody may have pasted it. -/
def pastedFingerprint : Text := ascii " Sha256:AAAAAAAAAAAAAAAAAAAAAAAAAAAAAAAAAAAAAAAAAAA=\n"

/-- A tunnel that insists on that fingerprint. -/
def strictTunnel : Params :=
  { smallTunnel 1 with
    server :=
      { verifyHostKey := true
        hostKeyType := ascii "ssh-ed25519"
        expectedHostKeyFingerprint := pastedFingerprint } }

/-- A server whose ED25519 key has that fingerprint. -/
def zeroKeyWorld : Env Call Call.Reply := worldWith 1 fun _ c ↦
  match c with
  | .sys (.sessionHostkey _) => some (⟨[0], 6, some (List.replicate 32 0)⟩ : HostKey)
  | _ => none

/-- The pasted text lets the server in. -/
theorem host_key_check_pasted :
    ((verifyHostKey strictTunnel 0).run zeroKeyWorld (initial 0)).1 = true := by
  have hspell : Spelling (List.replicate 32 0) pastedFingerprint := by
    have htext : pastedFingerprint
        = ascii " " ++ (ascii "Sha256:" ++ padded (List.replicate 32 0) 1) ++ ascii "\n" := by
      decide +kernel
    rw [htext]
    exact .openSSH _ _ _ 1 (by decide +kernel) (by decide +kernel) (by decide +kernel)
  have hsupplies : Supplies zeroKeyWorld (initial 0) 0 6 (List.replicate 32 0) :=
    ⟨rfl, List.cons_ne_nil _ _, rfl, rfl, rfl⟩
  exact (host_key_check strictTunnel rfl (List.cons_ne_nil _ _)).2.2 _ _ _ _ _ hsupplies
    (.inr rfl) hspell

end ReverseTunnel
