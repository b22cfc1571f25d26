import ReverseTunnel.Provisioning.ConfigText

/-!
# How the configuration file is replaced

What `writeConfig` does to the files, when any of its operations may fail and the power may be lost
between two of them. Printing comes first and only touches the temporary file; **what was printed** is
then the text that takes the place of the old configuration, complete or not.
-/

namespace ReverseTunnel

open Traced

namespace Provisioning

/-! ### What went wrong -/

/-- A print wrote everything. -/
def FileCall.InFull : (c : FileCall) → FileReply c → Prop
  | .print _ data, (written : Fin (data.length + 1)) => written.val = data.length
  | _, _ => True

/-- A file could not be opened for writing, or not be renamed. -/
def FileCall.Refused : (c : FileCall) → FileReply c → Prop
  | .openWrite _, (ok : Bool) => ok = false
  | .rename _ _, (ok : Bool) => ok = false
  | _, _ => False

/-- Every print wrote everything. -/
def PrintedInFull : FlashTrace → Prop
  | [] => True
  | .call _ _ _ c r :: past => c.InFull r ∧ PrintedInFull past

/-- A file could not be opened for writing, or not be renamed. -/
def Refused : FlashTrace → Prop
  | [] => False
  | .call _ _ _ c r :: past => c.Refused r ∨ Refused past

instance : (c : FileCall) → (r : FileReply c) → Decidable (c.InFull r)
  | .print _ data, (written : Fin (data.length + 1)) =>
    inferInstanceAs (Decidable (written.val = data.length))
  | .openWrite _, _ => isTrue trivial
  | .rename _ _, _ => isTrue trivial
  | .remove _, _ => isTrue trivial

instance decidablePrintedInFull : (done : FlashTrace) → Decidable (PrintedInFull done)
  | [] => isTrue trivial
  | .call _ _ _ _ _ :: past =>
    have _ := decidablePrintedInFull past
    inferInstanceAs (Decidable (_ ∧ _))

instance : (c : FileCall) → (r : FileReply c) → Decidable (c.Refused r)
  | .openWrite _, (ok : Bool) => inferInstanceAs (Decidable (ok = false))
  | .rename _ _, (ok : Bool) => inferInstanceAs (Decidable (ok = false))
  | .print _ _, _ => isFalse id
  | .remove _, _ => isFalse id

instance decidableRefused : (done : FlashTrace) → Decidable (Refused done)
  | [] => isFalse id
  | .call _ _ _ _ _ :: past =>
    have _ := decidableRefused past
    inferInstanceAs (Decidable (_ ∨ _))

/-- The flash memory when the power comes on. -/
def powerOn (fs : Flash) : FlashWorld := ⟨⟨fs, 0, 0⟩, []⟩

/-- Operations work, and prints write as much of `n` bytes as `room n` says. -/
def spacious (room : (n : ℕ) → Fin (n + 1)) : Env FileCall FileReply where
  reply _ c := match c with
    | .openWrite _ => true
    | .print _ data => room data.length
    | .rename _ _ => true
    | .remove _ => true
  elapse _ := 1
  choice _ := 0

/-- Everything works. -/
def sunny : Env FileCall FileReply := spacious Fin.last

/-- Nothing can be written any more. -/
def fullFlash : Env FileCall FileReply := spacious fun _ ↦ 0

/-! ### Printing -/

/-- These texts were printed one after the other to the file, as far as they went in. -/
inductive Printed (path : Path) : List Text → FlashWorld → FlashWorld → Prop where
  /-- None. -/
  | nil (w : FlashWorld) : Printed path [] w w
  /-- One more. -/
  | cons {data : Text} {rest : List Text} {w w' : FlashWorld} (r : Fin (data.length + 1)) (t : ℕ)
      (h : Printed path rest
        ((w.after (.print path data) r t).update (·.append path (data.take r.val))) w') :
      Printed path (data :: rest) w w'

namespace Printed

variable {path : Path} {pieces more : List Text} {w w' w'' : FlashWorld}

theorem append (h : Printed path pieces w w') (h' : Printed path more w' w'') :
    Printed path (pieces ++ more) w w'' := by
  induction h with
  | nil => exact h'
  | cons r t _ ih => exact .cons r t (ih h')

/-- Other files stay as they are. -/
theorem st_ne (h : Printed path pieces w w') {q : Path} (hq : q ≠ path) : w'.st q = w.st q := by
  induction h with
  | nil => rfl
  | cons r t _ ih => exact ih.trans (Flash.append_ne hq)

/-- Nothing is refused. -/
theorem refused_iff (h : Printed path pieces w w') : Refused w'.trace ↔ Refused w.trace := by
  induction h with
  | nil => exact Iff.rfl
  | cons r t _ ih => exact ih.trans (iff_of_eq (false_or _))

/-- What was printed is there. It is everything exactly when every print wrote everything. -/
theorem exists_text (h : Printed path pieces w w') {before : Text}
    (hw : w.st path = some before) : ∃ text, w'.st path = some (before ++ text) ∧
      text.length ≤ pieces.flatten.length ∧
      (PrintedInFull w'.trace ↔ PrintedInFull w.trace ∧ text = pieces.flatten) := by
  induction h generalizing before with
  | nil w => exact ⟨[], by rw [hw, List.append_nil], Nat.le_refl _, by simp⟩
  | @cons data rest w w' r t h ih =>
    have hnext : w.st.append path (data.take r.val) path = some (before ++ data.take r.val) := by
      rw [Flash.append_same, hw]
      rfl
    obtain ⟨text, htext, hlen, hfull⟩ := ih hnext
    have hr : r.val ≤ data.length := Nat.le_of_lt_succ r.isLt
    have htake : (data.take r.val).length = r.val := List.length_take_of_le hr
    refine ⟨data.take r.val ++ text, by rw [htext, List.append_assoc], ?_, ?_⟩
    · rw [List.length_append, htake, List.flatten_cons, List.length_append]
      omega
    · rw [hfull, List.flatten_cons]
      show (r.val = data.length ∧ PrintedInFull w.trace) ∧ text = rest.flatten ↔ _
      constructor
      · rintro ⟨⟨heq, hpast⟩, rfl⟩
        exact ⟨hpast, by rw [heq, List.take_length]⟩
      · rintro ⟨hpast, heq⟩
        -- No part can be short: the lengths add up.
        have hsum := congrArg List.length heq
        rw [List.length_append, List.length_append, htake] at hsum
        have hrlen : r.val = data.length := by omega
        rw [hrlen, List.take_length] at heq
        exact ⟨⟨hrlen, hpast⟩, List.append_cancel_left heq⟩

end Printed

/-- The program prints this text, in some pieces. -/
def Prints (path : Path) (m : FlashM Unit) (text : Text) : Prop :=
  ∃ pieces : List Text, pieces.flatten = text ∧
    ∀ {Q : Unit → Assertion Flash FileCall FileReply Empty}
      {K : CrashCondition Flash FileCall FileReply Empty} {w : FlashWorld},
      (∀ some w', Printed path some w w' → K w'.st w'.trace) →
      (∀ w', Printed path pieces w w' → Q () w') → wpc m Q K w

namespace Prints

variable {path : Path} {m m' : FlashM Unit} {text text' data : Text}

theorem nothing : Prints path (pure ()) [] :=
  ⟨[], rfl, fun _ hQ ↦ wpc_pure (hQ _ (.nil _))⟩

theorem print (h : Prints path m text) :
    Prints path (do let _ ← print path data; m) (data ++ text) := by
  obtain ⟨pieces, rfl, hm⟩ := h
  refine ⟨data :: pieces, rfl, ?_⟩
  intro Q K w hK hQ
  refine wpc_print_bind (hK [] w (.nil w)) fun r t ↦ hm ?_ ?_
  · exact fun some w' h ↦ hK (data :: some) w' (.cons r t h)
  · exact fun w' h ↦ hQ w' (.cons r t h)

theorem seq (h : Prints path m text) (h' : Prints path m' text') :
    Prints path (do m; m') (text ++ text') := by
  obtain ⟨pieces, rfl, hm⟩ := h
  obtain ⟨more, rfl, hm'⟩ := h'
  refine ⟨pieces ++ more, List.flatten_append, ?_⟩
  intro Q K w hK hQ
  refine wpc_bind (hm hK fun w' hw' ↦ hm' ?_ ?_)
  · exact fun some w'' h ↦ hK (pieces ++ some) w'' (hw'.append h)
  · exact fun w'' h ↦ hQ w'' (hw'.append h)

theorem println (path : Path) (data : Text) :
    Prints path (println path data) (data ++ ascii "\r\n") :=
  .print (.print .nothing)

/-- A setting and a line end. -/
theorem writeValue (s : Setting) (value : Text) :
    Prints .configTemp (writeValue s.name value) (s.line value ++ ascii "\r\n") := by
  have hline : s.line value ++ ascii "\r\n" =
      ascii s.name ++ (ascii "=" ++ (encode value ++ ascii "\r\n")) := by
    rw [Setting.line, List.append_assoc]
    rfl
  rw [hline]
  exact .print (.print (.println _ _))

/-- One more setting in front. -/
theorem setting {l : List (Setting × Text)} (s : Setting) {name : String} {value : Text}
    (h : Prints .configTemp m (settingLines l)) (hname : name = s.name := by rfl) :
    Prints .configTemp (do Provisioning.writeValue name value; m)
      (settingLines ((s, value) :: l)) := by
  rw [hname, settingLines, List.flatMap_cons]
  exact (writeValue s value).seq h

/-- The last setting. -/
theorem lastSetting (s : Setting) {name : String} {value : Text} (hname : name = s.name := by rfl) :
    Prints .configTemp (Provisioning.writeValue name value) (settingLines [(s, value)]) := by
  rw [hname, settingLines, List.flatMap_cons, List.flatMap_nil, List.append_nil]
  exact writeValue s value

theorem writeTunnelSettings (c : DeviceRuntimeConfig) :
    Prints .configTemp (writeTunnelSettings c) (settingLines (tunnelSettings c)) := by
  rw [tunnelSettings, Provisioning.writeTunnelSettings]
  exact setting .sshHost <| setting .sshPort <| setting .sshUser <| setting .sshAuth <|
    setting .sshPassword <| setting .sshKeyPassphrase <| setting .tunnelEnabled <|
    setting .remoteHost <| setting .remotePort <| setting .localHost <| lastSetting .localPort

/-- **The text is printed**, as far as there is room for it. -/
theorem writeSettings (c : DeviceRuntimeConfig) :
    Prints .configTemp (writeSettings c) (serialize c) := by
  have hrest : Prints .configTemp
      (if c.setupComplete then Provisioning.writeTunnelSettings c else pure ())
      (settingLines (if c.setupComplete then tunnelSettings c else [])) := by
    split
    · exact writeTunnelSettings c
    · exact nothing
  have hcomplete : (if c.setupComplete then ascii "setup_complete=1" else ascii "setup_complete=0") =
      Setting.setupComplete.line (flag c.setupComplete) := by
    cases c.setupComplete <;> decide
  have htext : serialize c = (ascii "version=4" ++ ascii "\r\n") ++
      ((Setting.setupComplete.line (flag c.setupComplete) ++ ascii "\r\n") ++
      settingLines ((.wifiSsid, c.wifiSsid) :: (.wifiPassword, c.wifiPassword) ::
        (.macVendor, c.macVendor.configValue) ::
        if c.setupComplete then tunnelSettings c else [])) := rfl
  rw [htext, ← hcomplete]
  exact (println _ _).seq <| (println _ _).seq <| setting .wifiSsid <| setting .wifiPassword <|
    setting .macVendor hrest

end Prints

/-! ### Replacing -/

section Replacing

variable {α : Type} {Q : α → Assertion Flash FileCall FileReply Empty}
  {K : CrashCondition Flash FileCall FileReply Empty} {w w' : FlashWorld} {p : Path}

/-- At most this file was removed. -/
structure Cleared (p : Path) (w w' : FlashWorld) : Prop where
  /-- Other files are as they were. -/
  st_ne : ∀ q, q ≠ p → w'.st q = w.st q
  /-- Nothing was printed. -/
  full : PrintedInFull w'.trace ↔ PrintedInFull w.trace
  /-- Nothing was opened or renamed. -/
  refused : Refused w'.trace ↔ Refused w.trace

theorem wpc_cleared_bind {f : Unit → FlashM α} (hK : K w.st w.trace)
    (h : ∀ w', Cleared p w w' → wpc (f ()) Q K w') : wpc (removeIfExists p >>= f) Q K w := by
  refine wpc_removeIfExists_bind hK ?_ ?_ ?_
  · intro _
    exact h w ⟨fun _ _ ↦ rfl, Iff.rfl, Iff.rfl⟩
  · intro t _
    exact h _ ⟨fun _ hq ↦ Flash.erase_ne hq, iff_of_eq (true_and _), iff_of_eq (false_or _)⟩
  · intro t _
    exact h _ ⟨fun _ _ ↦ rfl, iff_of_eq (true_and _), iff_of_eq (false_or _)⟩

/-- The old configuration is still there, in its place or as the backup. -/
def Kept (old : Option Text) (fs : Flash) : Prop :=
  fs .config = old ∨ fs .config = none ∧ fs .configBackup = old

/-- What is left of a replacement that was cut short: the old configuration or the new one. -/
structure Replacing (old : Option Text) (text : Text) (past : FlashTrace) (fs : Flash)
    (done : FlashTrace) : Prop where
  /-- One of them is there. -/
  config : Kept old fs ∨ fs .config = some text
  /-- What was printed before is what was printed. -/
  full : PrintedInFull done ↔ PrintedInFull past

/-- How a replacement ends: with the new configuration, or with the old one after some operation was
refused. -/
structure Replaced (old : Option Text) (text : Text) (past : FlashTrace) (ok : Bool)
    (w' : FlashWorld) : Prop where
  /-- The new one is there. -/
  done : ok = true → w'.st .config = some text ∧ (Refused w'.trace ↔ Refused past)
  /-- The old one is there. -/
  kept : ok = false → Kept old w'.st ∧ Refused w'.trace
  /-- What was printed before is what was printed. -/
  full : PrintedInFull w'.trace ↔ PrintedInFull past

variable {old : Option Text} {text : Text} {past : FlashTrace}

/-- The end of a replacement that failed. -/
theorem wpc_keepOld (hkept : Kept old w.st) (hrefused : Refused w.trace)
    (hfull : PrintedInFull w.trace ↔ PrintedInFull past) :
    wpc (do removeIfExists .configTemp; pure false)
      (Replaced old text past) (Replacing old text past) w := by
  refine wpc_cleared_bind ⟨.inl hkept, hfull⟩ fun w' h ↦ wpc_pure ⟨nofun, ?_, ?_⟩
  · intro _
    refine ⟨?_, h.refused.2 hrefused⟩
    rw [Kept, h.st_ne _ (by decide), h.st_ne _ (by decide)]
    exact hkept
  · exact h.full.trans hfull

/-- The roll-back, and the end of a replacement that failed. -/
theorem wpc_restoreBackup {had : Bool} (hkept : Kept old w.st)
    (hhad : had = true → w.st .config = none ∧ w.st .configBackup = old)
    (hrefused : Refused w.trace) (hfull : PrintedInFull w.trace ↔ PrintedInFull past) :
    wpc (do restoreBackup had; removeIfExists .configTemp; pure false)
      (Replaced old text past) (Replacing old text past) w := by
  refine wpc_bind (wpc_ite ?_ ?_)
  · intro hset
    obtain ⟨hnone, hbackup⟩ := hhad hset
    have hback : (w.st.move .configBackup .config) .config = old :=
      (Flash.move_target (by decide)).trans hbackup
    refine wpc_rename_bind ⟨.inl hkept, hfull⟩ ?_ ?_
    · intro t _
      exact wpc_pure (wpc_keepOld (.inl hback) (.inr hrefused)
        ((iff_of_eq (true_and _)).trans hfull))
    · intro r t _
      exact wpc_pure (wpc_keepOld hkept (.inr hrefused) ((iff_of_eq (true_and _)).trans hfull))
  · intro _
    exact wpc_pure (wpc_keepOld hkept hrefused hfull)

theorem wpc_installConfig {had : Bool} (hkept : Kept old w.st)
    (hhad : had = true → w.st .config = none ∧ w.st .configBackup = old)
    (htemp : w.st .configTemp = some text) (hfull : PrintedInFull w.trace ↔ PrintedInFull past)
    (hrefused : Refused w.trace ↔ Refused past) :
    wpc (installConfig had) (Replaced old text past) (Replacing old text past) w := by
  refine wpc_rename_bind ⟨.inl hkept, hfull⟩ ?_ ?_
  · intro t _
    have hnew : (w.st.move .configTemp .config) .config = some text :=
      (Flash.move_target (by decide)).trans htemp
    have hfull' := (iff_of_eq (true_and (PrintedInFull w.trace))).trans hfull
    refine wpc_cleared_bind ⟨.inr hnew, hfull'⟩ fun w₂ h₂ ↦ wpc_pure ⟨?_, nofun, ?_⟩
    · intro _
      refine ⟨(h₂.st_ne _ (by decide)).trans hnew, ?_⟩
      exact h₂.refused.trans ((or_iff_right Bool.noConfusion).trans hrefused)
    · exact h₂.full.trans hfull'
  · intro r t hfail
    have hr : r = false := by
      cases r with
      | true => rw [hfail rfl] at htemp; cases htemp
      | false => rfl
    exact wpc_restoreBackup hkept hhad (.inl hr) ((iff_of_eq (true_and _)).trans hfull)

theorem wpc_replaceConfig (hold : w.st .config = old) (htemp : w.st .configTemp = some text) :
    wpc replaceConfig (Replaced old text w.trace) (Replacing old text w.trace) w := by
  refine wpc_cleared_bind ⟨.inl (.inl hold), Iff.rfl⟩ fun w₁ h₁ ↦ ?_
  have hold₁ : w₁.st .config = old := (h₁.st_ne _ (by decide)).trans hold
  have htemp₁ : w₁.st .configTemp = some text := (h₁.st_ne _ (by decide)).trans htemp
  refine wpc_fileExists_bind (wpc_ite ?_ ?_)
  · intro hsome
    refine wpc_rename_bind ⟨.inl (.inl hold₁), h₁.full⟩ ?_ ?_
    · -- The old file is the backup now.
      intro t _
      have hmoved : (w₁.st.move .config .configBackup) .config = none ∧
          (w₁.st.move .config .configBackup) .configBackup = old :=
        ⟨Flash.move_source, (Flash.move_target (by decide)).trans hold₁⟩
      have htemp₂ : (w₁.st.move .config .configBackup) .configTemp = some text :=
        (Flash.move_ne (by decide) (by decide)).trans htemp₁
      exact wpc_installConfig (.inr hmoved) (fun _ ↦ hmoved) htemp₂
        ((iff_of_eq (true_and _)).trans h₁.full)
        ((or_iff_right Bool.noConfusion).trans h₁.refused)
    · intro r t hfail
      have hr : r = false := by
        cases r with
        | true => rw [hfail rfl] at hsome; cases hsome
        | false => rfl
      have hfull := (iff_of_eq (true_and (PrintedInFull w₁.trace))).trans h₁.full
      exact wpc_keepOld (.inl hold₁) (.inl hr) hfull
  · intro hnone
    refine wpc_installConfig (.inl hold₁) ?_ htemp₁ h₁.full h₁.refused
    exact fun hset ↦ absurd hset hnone

end Replacing

/-! ### The whole of `writeConfig` -/

section WriteConfig

variable {c : DeviceRuntimeConfig} {fs : Flash}

/-- How `writeConfig` ends. Its result says whether an operation was **refused**; whether the new
configuration is complete depends on the prints. -/
structure WriteEnd (old : Option Text) (c : DeviceRuntimeConfig) (ok : Bool) (w : FlashWorld) :
    Prop where
  /-- A new configuration is there. -/
  done : ok = true → ¬Refused w.trace ∧
    (w.st .config = some (serialize c) ↔ PrintedInFull w.trace)
  /-- The old one is there. -/
  kept : ok = false → Refused w.trace ∧ Kept old w.st

theorem wpc_writeConfig (fs : Flash) (c : DeviceRuntimeConfig) :
    wpc (writeConfig c) (WriteEnd (fs .config) c)
      (fun s done ↦ Kept (fs .config) s ∨
        (PrintedInFull done → s .config = some (serialize c))) (powerOn fs) := by
  refine wpc_openWrite_bind (.inl (.inl rfl)) ?_ ?_
  · intro t
    obtain ⟨pieces, hpieces, hprints⟩ := Prints.writeSettings c
    refine wpc_bind (hprints ?_ ?_)
    · intro some w' h
      exact .inl (.inl (h.st_ne (by decide)))
    · intro w' h
      have hold : w'.st .config = fs .config := h.st_ne (by decide)
      have hempty : (fs.write .configTemp []) .configTemp = some [] := Flash.write_same
      obtain ⟨text, htext, -, hfull⟩ := h.exists_text hempty
      rw [List.nil_append] at htext
      rw [hpieces] at hfull
      have hcomplete : PrintedInFull w'.trace ↔ text = serialize c :=
        hfull.trans (and_iff_right ⟨trivial, trivial⟩)
      have hcalm : ¬Refused w'.trace := by
        rw [h.refused_iff]
        rintro (h | h) <;> cases h
      refine wpc_mono (wpc_replaceConfig hold htext) ?_ ?_
      · intro ok w₂ h₂
        refine ⟨fun hok ↦ ?_, fun hok ↦ ⟨(h₂.kept hok).2, (h₂.kept hok).1⟩⟩
        obtain ⟨hnew, hrefused⟩ := h₂.done hok
        refine ⟨fun hr ↦ hcalm (hrefused.1 hr), ?_⟩
        rw [hnew, h₂.full, hcomplete, Option.some_inj]
      · intro s done h₂
        rcases h₂.config with hkept | hnew
        · exact .inl hkept
        · refine .inr fun hdone ↦ ?_
          rw [hnew, hcomplete.1 (h₂.full.1 hdone)]
  · intro t
    exact wpc_pure ⟨nofun, fun _ ↦ ⟨.inl rfl, .inl rfl⟩⟩

end WriteConfig

/-! ### Files that `writeConfig` has nothing to do with -/

section Frame

variable {q path source target : Path} {content : Option Text}

theorem preserves_print (hq : q ≠ path) (data : Text) :
    Preserves (fun w : FlashWorld ↦ w.st q = content) (print path data) := by
  intro w hw
  refine wp_call_bind ?_
  intro r t _
  exact wp_modify_bind.2 (wp_pure ((Flash.append_ne hq).trans hw))

theorem preserves_openWrite (hq : q ≠ path) :
    Preserves (fun w : FlashWorld ↦ w.st q = content) (openWrite path) := by
  intro w hw
  refine wp_call_bind ?_
  intro (r : Bool) t _
  refine wp_ite ?_ fun _ ↦ wp_pure hw
  exact fun _ ↦ wp_modify_bind.2 (wp_pure ((Flash.write_ne hq).trans hw))

theorem preserves_rename (hq : q ≠ source) (hq' : q ≠ target) :
    Preserves (fun w : FlashWorld ↦ w.st q = content) (rename source target) := by
  intro w hw
  refine wp_call_bind ?_
  intro r t _
  refine wp_get_bind.2 (wp_ite ?_ fun _ ↦ wp_pure hw)
  exact fun _ ↦ wp_modify_bind.2 (wp_pure ((Flash.move_ne hq hq').trans hw))

theorem preserves_removeIfExists (hq : q ≠ path) :
    Preserves (fun w : FlashWorld ↦ w.st q = content) (removeIfExists path) := by
  refine .bind (.get_bind fun _ ↦ .ret) fun _ ↦ .ite ?_ .ret
  intro w hw
  refine wp_call_bind ?_
  intro (r : Bool) t _
  refine wp_ite ?_ fun _ ↦ wp_pure hw
  exact fun _ ↦ wp_modify ((Flash.erase_ne hq).trans hw)

/-- A file that `writeConfig` works with. -/
def OfConfig (p : Path) : Prop := p = .config ∨ p = .configTemp ∨ p = .configBackup

/-- What the operations of `writeConfig` preserve, it preserves. -/
theorem preserves_writeConfig_of {I : Assertion Flash FileCall FileReply Empty}
    (hopen : Preserves I (openWrite .configTemp))
    (hprint : ∀ data, Preserves I (print .configTemp data))
    (hrename : ∀ source target, OfConfig source → OfConfig target →
      Preserves I (rename source target))
    (hremove : ∀ p, OfConfig p → Preserves I (removeIfExists p)) (c : DeviceRuntimeConfig) :
    Preserves I (writeConfig c) := by
  have hconfig : OfConfig .config := .inl rfl
  have htemp : OfConfig .configTemp := .inr (.inl rfl)
  have hbackup : OfConfig .configBackup := .inr (.inr rfl)
  have hline : ∀ data, Preserves I (println .configTemp data) := fun _ ↦
    .bind (hprint _) fun _ ↦ .bind (hprint _) fun _ ↦ .ret
  have hvalue : ∀ name value, Preserves I (writeValue name value) := fun _ _ ↦
    .bind (hprint _) fun _ ↦ .bind (hprint _) fun _ ↦ hline _
  have htunnel : Preserves I (writeTunnelSettings c) :=
    .bind (hvalue _ _) fun _ ↦ .bind (hvalue _ _) fun _ ↦ .bind (hvalue _ _) fun _ ↦
    .bind (hvalue _ _) fun _ ↦ .bind (hvalue _ _) fun _ ↦ .bind (hvalue _ _) fun _ ↦
    .bind (hvalue _ _) fun _ ↦ .bind (hvalue _ _) fun _ ↦ .bind (hvalue _ _) fun _ ↦
    .bind (hvalue _ _) fun _ ↦ hvalue _ _
  have hinstall : ∀ had, Preserves I (installConfig had) := by
    intro had
    refine .bind (hrename _ _ htemp hconfig) fun _ ↦ .ite ?_ ?_
    · refine .bind (.ite (.bind (hrename _ _ hbackup hconfig) fun _ ↦ .ret) .ret) fun _ ↦ ?_
      exact .bind (hremove _ htemp) fun _ ↦ .ret
    · exact .bind (hremove _ hbackup) fun _ ↦ .ret
  refine .bind hopen fun _ ↦ .ite .ret (.bind ?_ fun _ ↦ ?_)
  · exact .bind (hline _) fun _ ↦ .bind (hline _) fun _ ↦ .bind (hvalue _ _) fun _ ↦
      .bind (hvalue _ _) fun _ ↦ .bind (hvalue _ _) fun _ ↦ .ite htunnel .ret
  · refine .bind (hremove _ hbackup) fun _ ↦ ?_
    refine .bind (.get_bind fun _ ↦ .ret) fun _ ↦ .ite ?_ (hinstall _)
    refine .bind (hrename _ _ hconfig hbackup) fun _ ↦ .ite ?_ (hinstall _)
    exact .bind (hremove _ htemp) fun _ ↦ .ret

theorem preserves_writeConfig (hq : q ≠ .config) (hq' : q ≠ .configTemp) (hq'' : q ≠ .configBackup)
    (c : DeviceRuntimeConfig) :
    Preserves (fun w : FlashWorld ↦ w.st q = content) (writeConfig c) := by
  have hother : ∀ p, OfConfig p → q ≠ p := by
    rintro p (rfl | rfl | rfl)
    · exact hq
    · exact hq'
    · exact hq''
  exact preserves_writeConfig_of (preserves_openWrite hq') (preserves_print hq')
    (fun _ _ hsource htarget ↦ preserves_rename (hother _ hsource) (hother _ htarget))
    (fun _ hp ↦ preserves_removeIfExists (hother _ hp)) c

end Frame

/-! ### The next start -/

section Recover

variable {s : Flash} {w : FlashWorld}

/-- The configuration that the next start finds. -/
def nextConfig (fs : Flash) : Option Text := (fs .config).or (fs .configBackup)

theorem nextConfig_of_kept {A : Text} (h : Kept (some A) s) : nextConfig s = some A := by
  rcases h with h | ⟨hnone, hbackup⟩
  · rw [nextConfig, h]
    rfl
  · rw [nextConfig, hnone, hbackup]
    rfl

theorem nextConfig_of_config {text : Text} (h : s .config = some text) :
    nextConfig s = some text := by
  rw [nextConfig, h]
  rfl

/-- Unless its rename is refused, the recovery puts the configuration in its place. -/
theorem wp_recoverConfig (w : FlashWorld) :
    wp recoverConfig (fun _ w' ↦ (¬Refused w'.trace ∨ (w.st .config).isSome = true →
        w'.st .config = nextConfig w.st) ∧
      ∀ q, q ≠ .config → q ≠ .configBackup → w'.st q = w.st q) w := by
  refine wpc.wp (K := fun _ _ ↦ True) ?_
  refine wpc_fileExists_bind (wpc_fileExists_bind (wpc_ite ?_ ?_))
  · intro hlost
    rw [Bool.and_eq_true, Bool.not_eq_true', Option.isSome_eq_false_iff,
      Option.isNone_iff_eq_none] at hlost
    obtain ⟨hnone, hsome⟩ := hlost
    refine wpc_rename_bind trivial ?_ ?_
    · intro t _
      have hmoved : (w.st.move .configBackup .config) .config = w.st .configBackup :=
        Flash.move_target (by decide)
      refine wpc_pure ⟨fun _ ↦ ?_, fun q hq hq' ↦ Flash.move_ne hq' hq⟩
      rw [nextConfig, hnone]
      exact hmoved
    · intro r t hfail
      -- the backup is there, so a rename without effect was refused
      have hr : r = false := by
        cases r with
        | true => rw [hfail rfl] at hsome; cases hsome
        | false => rfl
      refine wpc_pure ⟨?_, fun _ _ _ ↦ rfl⟩
      rintro (hcalm | hpresent)
      · exact absurd (.inl hr) hcalm
      · rw [hnone] at hpresent
        cases hpresent
  · intro hkept
    refine wpc_ite ?_ ?_
    · intro hpresent
      obtain ⟨text, htext⟩ := Option.isSome_iff_exists.1 hpresent
      have hnext : nextConfig w.st = some text := nextConfig_of_config htext
      have hpure : removeIfExists .configBackup = (removeIfExists .configBackup >>= pure) := rfl
      rw [hpure]
      refine wpc_cleared_bind trivial fun w' h ↦ wpc_pure ⟨fun _ ↦ ?_, fun q _ hq' ↦ h.st_ne q hq'⟩
      rw [hnext, h.st_ne _ (by decide), htext]
    · intro hmissing
      rw [Bool.not_eq_true, Option.isSome_eq_false_iff, Option.isNone_iff_eq_none] at hmissing
      refine wpc_pure ⟨fun _ ↦ ?_, fun _ _ _ ↦ rfl⟩
      rw [nextConfig, hmissing, Option.none_or]
      rw [hmissing] at hkept
      cases hbackup : w.st .configBackup with
      | none => rfl
      | some text => rw [hbackup] at hkept; exact absurd rfl hkept

/-- **The next start reads that configuration.** -/
theorem wp_loadConfig (s : Flash) (d : DeviceRuntimeConfig) :
    wp (loadConfig d) (fun r w' ↦ (¬Refused w'.trace ∨ (s .config).isSome = true →
        w'.st .config = nextConfig s ∧
        ∀ text, nextConfig s = some text → r = readConfig w'.st text d) ∧
      ∀ q, q ≠ .config → q ≠ .configBackup → w'.st q = s q) (powerOn s) := by
  refine wp_bind (wp_mono (wp_recoverConfig (powerOn s)) fun _ w' h ↦ wp_get_bind.2 ?_)
  obtain ⟨hconfig, hne⟩ := h
  cases htext : w'.st .config with
  | none =>
    refine wp_pure ⟨fun hr ↦ ⟨hconfig hr, ?_⟩, hne⟩
    intro text hnext
    have hnone := hconfig hr
    rw [htext, show nextConfig (powerOn s).st = some text from hnext] at hnone
    cases hnone
  | some text =>
    refine wp_pure ⟨fun hr ↦ ⟨hconfig hr, ?_⟩, hne⟩
    intro text' hnext
    have hsome := hconfig hr
    rw [htext, show nextConfig (powerOn s).st = some text' from hnext] at hsome
    rw [Option.some.inj hsome]

end Recover

end Provisioning

end ReverseTunnel
