import ReverseTunnel.Guarantees.NumberParsing
import ReverseTunnel.Minis.ManagedLines

/-!
# What a managed configuration has to say

A line of `cfg.txt` is a setting of a key when it begins with the key, behind blanks, and goes on with a
`=`. `Describes` says what a body **describes**: every key but `MAC_VENDOR` has exactly one setting, that
one at most one, and the values are valid. A body is accepted exactly if it describes something, and then
that is queued; the order of the lines plays no part, and neither do lines that are no settings.
-/

namespace ReverseTunnel

namespace Minis

/-! ### Settings of a body -/

/-- Blanks and tabs. -/
def blankBytes : Text := [chr ' ', chr '\t']

/-- Blanks, tabs and carriage returns. -/
def gapBytes : Text := [chr ' ', chr '\t', chr '\r']

theorem isBlank_iff : ∀ c, isBlank c = true ↔ c ∈ blankBytes := by decide +kernel

theorem isGap_iff : ∀ c, isGap c = true ↔ c ∈ gapBytes := by decide +kernel

/-- The line is a setting of the key, and this is the value. -/
def IsSetting (key line value : Text) : Prop :=
  ∃ gaps blanks blanks', line = gaps ++ (key ++ (blanks ++ chr '=' :: (blanks' ++ value))) ∧
    (∀ c ∈ gaps, c ∈ gapBytes) ∧ (∀ c ∈ blanks, c ∈ blankBytes) ∧
    (∀ c ∈ blanks', c ∈ blankBytes) ∧ ∀ c ∈ value.head?, c ∉ blankBytes

/-- The value in a line, if it is a setting of the key. -/
def settingOf (key line : Text) : Option Text := settingValue key (line.dropWhile isGap)

/-- The values of a key in a body. -/
def values (key body : Text) : List Text := body.fileLines.filterMap (settingOf key)

/-- A key begins with a letter. -/
theorem keys_letter : ∀ key ∈ keys, ∃ c rest, key = c :: rest ∧ isGap c = false ∧ c ≠ chr '#' := by
  intro key hkey
  have hhead : ∀ key ∈ keys, key ≠ [] ∧ isGap (key.headI) = false ∧ key.headI ≠ chr '#' := by
    decide +kernel
  rcases key with - | ⟨c, rest⟩
  · exact absurd rfl (hhead _ hkey).1
  · exact ⟨c, rest, rfl, (hhead _ hkey).2⟩

section Lines

variable {key line value : Text}

/-- Comments and empty lines are no settings. -/
theorem settingOf_skipped (hkey : key ∈ keys)
    (h : (line.dropWhile isGap).head? = none ∨ (line.dropWhile isGap).head? = some (chr '#')) :
    settingOf key line = none := by
  obtain ⟨c, rest, rfl, -, hc⟩ := keys_letter key hkey
  refine settingValue_of_not_prefix ?_
  rintro ⟨tail, htail⟩
  rw [← htail, List.cons_append, List.head?_cons] at h
  rcases h with h | h
  · cases h
  · exact hc (Option.some.inj h)

/-- What the code reads in a line is what the line is a setting of. -/
theorem settingOf_eq_some_iff (hkey : key ∈ keys) :
    settingOf key line = some value ↔ IsSetting key line value := by
  rw [settingOf, settingValue_eq_some_iff]
  simp only [IsSetting, ← isGap_iff, ← isBlank_iff, Bool.not_eq_true]
  constructor
  · rintro ⟨blanks, blanks', hline, hblanks, hblanks', hvalue⟩
    refine ⟨line.takeWhile isGap, blanks, blanks', ?_, fun c hc ↦ List.mem_takeWhile_imp hc, hblanks,
      hblanks', hvalue⟩
    rw [← hline, List.takeWhile_append_dropWhile]
  · rintro ⟨gaps, blanks, blanks', rfl, hgaps, hblanks, hblanks', hvalue⟩
    refine ⟨blanks, blanks', ?_, hblanks, hblanks', hvalue⟩
    obtain ⟨c, rest, rfl, hc, -⟩ := keys_letter key hkey
    rw [List.dropWhile_append_of_pos hgaps, List.cons_append, List.dropWhile_cons_of_neg]
    rw [hc]
    exact Bool.false_ne_true

end Lines

/-! ### Valid values -/

/-- The text of a value: what is before the blanks, tabs and carriage returns at its end. -/
def HasText (value text : Text) : Prop :=
  ∃ gaps, value = text ++ gaps ∧ (∀ c ∈ gaps, c ∈ gapBytes) ∧ ∀ c ∈ text.getLast?, c ∉ gapBytes

/-- The second byte is the first one, or the capital of that letter. -/
def SameLetter (c d : UInt8) : Prop :=
  d = c ∨ (chr 'a' ≤ c ∧ c ≤ chr 'z' ∧ d + (chr 'a' - chr 'A') = c)

/-- The text is one of these words. They are given in small letters, and each letter of the text may be
small or capital. -/
def Spells (words : List Text) (text : Text) : Prop :=
  ∃ word ∈ words, List.Forall₂ SameLetter word text

/-- The ten digits. -/
def digitBytes : Text := ascii "0123456789"

/-- The value is this number: digits that denote it, blanks, tabs and carriage returns, and then nothing,
the end of the line or a comment. -/
def Denotes (value : Text) (n : ℕ) : Prop :=
  ∃ ds gaps rest, value = ds ++ (gaps ++ rest) ∧ ds ≠ [] ∧ (∀ c ∈ ds, c ∈ digitBytes) ∧
    Text.digitsValue 0 ds = n ∧ (∀ c ∈ gaps, c ∈ gapBytes) ∧
    (rest = [] ∨ rest.head? = some (chr '\n') ∨ rest.head? = some (chr '#'))

/-- A number in a range. -/
structure IsNumberIn (least greatest : ℕ) (value : Text) (x : UInt16) : Prop where
  /-- The number. -/
  denotes : Denotes value x.toNat
  /-- The range. -/
  range : least ≤ x.toNat ∧ x.toNat ≤ greatest

/-- The words for yes and no. -/
def booleanWords : Bool → List Text
  | true => [ascii "1", ascii "yes", ascii "true", ascii "on"]
  | false => [ascii "0", ascii "no", ascii "false", ascii "off"]

/-- A word for yes or no. -/
def IsBoolean (value : Text) (enabled : Bool) : Prop :=
  ∃ text, HasText value text ∧ Spells (booleanWords enabled) text

/-- The characters that a host may have. -/
def hostBytes : Text :=
  ascii "abcdefghijklmnopqrstuvwxyzABCDEFGHIJKLMNOPQRSTUVWXYZ0123456789.-:[]"

/-- The text of the value is a host. -/
structure IsHost (value host : Text) : Prop where
  /-- The text. -/
  text : HasText value host
  /-- From 1 to 253 characters. -/
  length : 1 ≤ host.length ∧ host.length ≤ 253
  /-- The characters. -/
  bytes : ∀ c ∈ host, c ∈ hostBytes

/-- The names of the vendors. -/
def vendorWords : List Text := [ascii "original", ascii "esp32", ascii "cisco", ascii "hp"]

/-- The text of the value is the name of a vendor. -/
structure IsVendor (value vendor : Text) : Prop where
  /-- The text. -/
  text : HasText value vendor
  /-- The name. -/
  spells : Spells vendorWords vendor

/-! ### How they are read -/

/-- A number in a range. -/
def numberOf (least greatest : UInt32) (value : Text) : Option UInt16 :=
  ((parseUnsigned value).filter fun v ↦ v ≥ least && v ≤ greatest).map UInt32.toUInt16

/-- A trimmed word that a check lets pass. -/
def wordOf (check : Text → Bool) (value : Text) : Option Text :=
  if check (trimEnd value) then some (trimEnd value) else none

/-- A boolean word. -/
def booleanOf (value : Text) : Option Bool := parseBoolean (trimEnd value)

section Values

variable {value text word : Text} {words : List Text} {c d : UInt8}

/-- A value is trimmed to its text. -/
theorem trimEnd_eq_iff : trimEnd value = text ↔ HasText value text := by
  constructor
  · rintro rfl
    refine ⟨value.rtakeWhile isGap, List.rdropWhile_append_rtakeWhile.symm, ?_, ?_⟩
    · intro c hc
      exact (isGap_iff c).1 (List.mem_rtakeWhile_imp hc)
    · intro c hc
      rw [trimEnd] at hc
      obtain ⟨hne, rfl⟩ := List.mem_getLast?_eq_getLast hc
      exact fun hgap ↦ List.rdropWhile_last_not isGap value hne ((isGap_iff _).2 hgap)
  · rintro ⟨gaps, rfl, hgaps, hlast⟩
    have hdrop : (text ++ gaps).rdropWhile isGap = text.rdropWhile isGap := by
      rw [List.rdropWhile, List.reverse_append, List.dropWhile_append_of_pos, ← List.rdropWhile]
      intro c hc
      exact (isGap_iff c).2 (hgaps c (List.mem_reverse.1 hc))
    rw [trimEnd, hdrop, List.rdropWhile_eq_self_iff]
    intro hne hgap
    exact hlast _ (List.getLast_mem_getLast? hne) ((isGap_iff _).1 hgap)

/-- A byte that is no capital. -/
theorem sameLetter_iff (hc : lowerByte c = c) : SameLetter c d ↔ c = lowerByte d := by
  constructor
  · rintro (rfl | ⟨hlow, hhigh, rfl⟩)
    · exact hc.symm
    · have hcapital : ∀ d : UInt8, chr 'a' ≤ d + (chr 'a' - chr 'A') →
          d + (chr 'a' - chr 'A') ≤ chr 'z' → d + (chr 'a' - chr 'A') = lowerByte d := by
        decide +kernel
      exact hcapital d hlow hhigh
  · rintro rfl
    by_cases hcapital : chr 'A' ≤ d && d ≤ chr 'Z'
    · have hsmall : ∀ d, chr 'A' ≤ d && d ≤ chr 'Z' → chr 'a' ≤ lowerByte d ∧
          lowerByte d ≤ chr 'z' ∧ d + (chr 'a' - chr 'A') = lowerByte d := by decide +kernel
      exact .inr (hsmall d hcapital)
    · rw [lowerByte, if_neg hcapital]
      exact .inl rfl

/-- A word in small letters. -/
theorem forall₂_sameLetter_iff (hword : word.toLowerCase = word) :
    List.Forall₂ SameLetter word text ↔ text.toLowerCase = word := by
  rw [eq_comm, Text.toLowerCase, ← List.forall₂_eq_eq_eq, List.forall₂_map_right_iff]
  induction word generalizing text with
  | nil => rw [List.forall₂_nil_left_iff, List.forall₂_nil_left_iff]
  | cons c word ih =>
    obtain ⟨hc, hword⟩ := List.cons.inj hword
    rcases text with - | ⟨d, text⟩
    · rw [List.forall₂_nil_right_iff, List.forall₂_nil_right_iff]
    · rw [List.forall₂_cons, List.forall₂_cons, sameLetter_iff hc, ih hword]

theorem spells_iff (hwords : ∀ word ∈ words, word.toLowerCase = word) :
    Spells words text ↔ text.toLowerCase ∈ words := by
  constructor
  · rintro ⟨word, hword, hsame⟩
    rwa [(forall₂_sameLetter_iff (hwords word hword)).1 hsame]
  · intro hword
    exact ⟨_, hword, (forall₂_sameLetter_iff (hwords _ hword)).2 rfl⟩

/-- What passes a check is the text of the value. -/
theorem wordOf_eq_some_iff {check : Text → Bool} :
    wordOf check value = some text ↔ HasText value text ∧ check text = true := by
  rw [wordOf, ← trimEnd_eq_iff]
  constructor
  · intro h
    split at h
    · next hcheck =>
      cases h
      exact ⟨rfl, hcheck⟩
    · cases h
  · rintro ⟨rfl, hcheck⟩
    rw [if_pos hcheck]

/-- The digits and blanks of the parser are those of the description. -/
theorem denotes_iff {n : ℕ} : Denotes value n ↔ IsNumber value n := by
  have hdigit : ∀ c, isDigit c = true ↔ c ∈ digitBytes := by decide +kernel
  simp only [Denotes, IsNumber, hdigit, isGap_iff]

/-- The numbers. -/
theorem numberOf_eq_some_iff {least greatest : UInt32} (hgreatest : greatest.toNat < 65536)
    {x : UInt16} : numberOf least greatest value = some x ↔
      IsNumberIn least.toNat greatest.toNat value x := by
  simp only [numberOf, Option.map_eq_some_iff, Option.filter_eq_some_iff, Bool.and_eq_true,
    decide_eq_true_eq, ge_iff_le, UInt32.le_iff_toNat_le, parseUnsigned_eq_some_iff, ← denotes_iff]
  constructor
  · rintro ⟨n, ⟨hnumber, hleast, hn⟩, rfl⟩
    have hsame : n.toUInt16.toNat = n.toNat := by
      rw [UInt32.toNat_toUInt16, Nat.mod_eq_of_lt (by omega)]
    rw [← hsame] at hnumber hleast hn
    exact ⟨hnumber, hleast, hn⟩
  · rintro ⟨hnumber, hleast, hn⟩
    rw [← UInt16.toNat_toUInt32 x] at hnumber hleast hn
    exact ⟨x.toUInt32, ⟨hnumber, hleast, hn⟩, UInt16.toUInt16_toUInt32 x⟩

/-- The interval. -/
theorem intervalOf_eq_some_iff {x : UInt16} :
    numberOf minHeartbeatIntervalMin maxHeartbeatIntervalMin value = some x ↔
      IsNumberIn 2 1440 value x :=
  numberOf_eq_some_iff (by decide)

/-- The ports. -/
theorem portOf_eq_some_iff {x : UInt16} :
    numberOf 1 65535 value = some x ↔ IsNumberIn 1 65535 value x :=
  numberOf_eq_some_iff (by decide)

/-- Without regard to the case. -/
theorem equalsIgnoreCase_iff (hword : word.toLowerCase = word) :
    equalsIgnoreCase text word = true ↔ text.toLowerCase = word := by
  rw [equalsIgnoreCase, beq_iff_eq, hword]

/-- A digit has no case. -/
theorem toLowerCase_eq_digit (hc : ∀ d, lowerByte d = c ↔ d = c) :
    text.toLowerCase = [c] ↔ text = [c] := by
  rw [Text.toLowerCase, List.map_eq_singleton_iff]
  constructor
  · rintro ⟨d, rfl, hd⟩
    rw [(hc d).1 hd]
  · rintro rfl
    exact ⟨c, rfl, (hc c).2 rfl⟩

theorem parseBoolean_eq_some_iff {enabled : Bool} :
    parseBoolean text = some enabled ↔ text.toLowerCase ∈ booleanWords enabled := by
  have hyes : (text == ascii "1" || equalsIgnoreCase text (ascii "yes") ||
      equalsIgnoreCase text (ascii "true") || equalsIgnoreCase text (ascii "on")) = true ↔
      text.toLowerCase ∈ booleanWords true := by
    have hdigit : text.toLowerCase = ascii "1" ↔ text = ascii "1" :=
      toLowerCase_eq_digit (by decide +kernel)
    simp (disch := decide +kernel) only [Bool.or_eq_true, beq_iff_eq, equalsIgnoreCase_iff,
      booleanWords, List.mem_cons, List.not_mem_nil, or_false, hdigit, or_assoc]
  have hno : (text == ascii "0" || equalsIgnoreCase text (ascii "no") ||
      equalsIgnoreCase text (ascii "false") || equalsIgnoreCase text (ascii "off")) = true ↔
      text.toLowerCase ∈ booleanWords false := by
    have hdigit : text.toLowerCase = ascii "0" ↔ text = ascii "0" :=
      toLowerCase_eq_digit (by decide +kernel)
    simp (disch := decide +kernel) only [Bool.or_eq_true, beq_iff_eq, equalsIgnoreCase_iff,
      booleanWords, List.mem_cons, List.not_mem_nil, or_false, hdigit, or_assoc]
  have hdisjoint : ∀ word ∈ booleanWords true, word ∉ booleanWords false := by decide +kernel
  rw [parseBoolean]
  by_cases h : text.toLowerCase ∈ booleanWords true
  · rw [if_pos (hyes.2 h)]
    rcases enabled with - | -
    · exact ⟨fun hf ↦ absurd (Option.some.inj hf) (by decide), fun hf ↦ (hdisjoint _ h hf).elim⟩
    · exact ⟨fun _ ↦ h, fun _ ↦ rfl⟩
  · rw [if_neg (h ∘ hyes.1)]
    by_cases h' : text.toLowerCase ∈ booleanWords false
    · rw [if_pos (hno.2 h')]
      rcases enabled with - | -
      · exact ⟨fun _ ↦ h', fun _ ↦ rfl⟩
      · exact ⟨fun hf ↦ absurd (Option.some.inj hf) (by decide), fun hf ↦ (h hf).elim⟩
    · rw [if_neg (h' ∘ hno.1)]
      rcases enabled with - | -
      · exact ⟨fun hf ↦ (Option.some_ne_none _ hf.symm).elim, fun hf ↦ (h' hf).elim⟩
      · exact ⟨fun hf ↦ (Option.some_ne_none _ hf.symm).elim, fun hf ↦ (h hf).elim⟩

/-- Yes and no. -/
theorem booleanOf_eq_some_iff {enabled : Bool} :
    booleanOf value = some enabled ↔ IsBoolean value enabled := by
  have hlower : ∀ enabled, ∀ word ∈ booleanWords enabled, word.toLowerCase = word := by
    decide +kernel
  rw [booleanOf, parseBoolean_eq_some_iff, ← spells_iff (hlower enabled)]
  constructor
  · intro h
    exact ⟨_, trimEnd_eq_iff.1 rfl, h⟩
  · rintro ⟨text, htext, h⟩
    rwa [trimEnd_eq_iff.2 htext]

/-- The hosts. -/
theorem hostOf_eq_some_iff : wordOf isValidConfigHost value = some text ↔ IsHost value text := by
  have hbytes : ∀ c, isHostByte c = true ↔ c ∈ hostBytes := by decide +kernel
  rw [wordOf_eq_some_iff, isValidConfigHost]
  simp only [Bool.and_eq_true, decide_eq_true_eq, List.all_eq_true, hbytes]
  constructor
  · rintro ⟨htext, ⟨hpos, hlen⟩, hhost⟩
    exact ⟨htext, ⟨Nat.one_le_iff_ne_zero.2 hpos, hlen⟩, hhost⟩
  · rintro ⟨htext, ⟨hpos, hlen⟩, hhost⟩
    exact ⟨htext, ⟨Nat.one_le_iff_ne_zero.1 hpos, hlen⟩, hhost⟩

/-- The vendors. -/
theorem vendorOf_eq_some_iff : wordOf isValidMacVendor value = some text ↔ IsVendor value text := by
  have hlower : ∀ word ∈ vendorWords, word.toLowerCase = word := by decide +kernel
  have hvendor : isValidMacVendor text = true ↔ Spells vendorWords text := by
    rw [spells_iff hlower, isValidMacVendor]
    simp only [Bool.or_eq_true, equalsIgnoreCase, beq_iff_eq, vendorWords, List.mem_cons,
      List.not_mem_nil, or_false, or_assoc]
    rfl
  rw [wordOf_eq_some_iff, hvendor]
  exact ⟨fun h ↦ ⟨h.1, h.2⟩, fun h ↦ ⟨h.text, h.spells⟩⟩

end Values

/-- What a line has, key by key. -/
theorem settingsOf_eq (line : Text) :
    settingsOf line =
      { heartbeatInterval := (settingOf (ascii "HB_INTERVAL_MIN") line).map
          (numberOf minHeartbeatIntervalMin maxHeartbeatIntervalMin)
        tunnelEnabled := (settingOf (ascii "TUNNEL_ENABLED") line).map booleanOf
        sshHost := (settingOf (ascii "SSH_HOST") line).map
          fun v ↦ (wordOf isValidConfigHost v).map some
        sshPort := (settingOf (ascii "SSH_PORT") line).map (numberOf 1 65535)
        remoteBindHost := (settingOf (ascii "REMOTE_BIND_HOST") line).map
          fun v ↦ (wordOf isValidConfigHost v).map some
        remoteBindPort := (settingOf (ascii "REMOTE_BIND_PORT") line).map (numberOf 1 65535)
        localHost := (settingOf (ascii "LOCAL_HOST") line).map
          fun v ↦ (wordOf isValidConfigHost v).map some
        localPort := (settingOf (ascii "LOCAL_PORT") line).map (numberOf 1 65535)
        macVendor := (settingOf (ascii "MAC_VENDOR") line).map
          fun v ↦ (wordOf isValidMacVendor v).map some } := by
  rw [settingsOf]
  by_cases hskip : (line.dropWhile isGap).head? = none ∨
      (line.dropWhile isGap).head? = some (chr '#')
  · have hnone : ∀ key ∈ keys, settingOf key line = none := fun key hkey ↦
      settingOf_skipped hkey hskip
    simp (disch := decide +kernel) only [if_pos hskip, hnone, Option.map_none]
  · have hnumber : ∀ key least greatest, numberSetting (line.dropWhile isGap) key least greatest =
        (settingOf key line).map (numberOf least greatest) := by
      intro key least greatest
      rw [numberSetting, parseSetting, Option.map_map]
      rfl
    have htext : ∀ key check, textIn key (line.dropWhile isGap) check =
        (settingOf key line).map fun v ↦ (wordOf check v).map some := by
      intro key check
      show Option.map _ (settingOf key line) = _
      congr 1
      funext v
      show _ = Option.map some (if check (trimEnd v) then _ else _)
      rw [apply_ite (Option.map some)]
      rfl
    rw [if_neg hskip, readLine]
    simp only [hnumber, htext]
    rfl

/-! ### Notes of one setting -/

section Notes

variable {α : Type} {f : Field α} {check : Text → Option α} {d x : α} {vs : List Text} {v : Text}

/-- The values of a setting are noted in turn. -/
def Field.notes (f : Field α) (check : Text → Option α) : List Text → Field α × Bool
  | [] => (f, true)
  | v :: vs =>
    (((f.note (some (check v))).1.notes check vs).1,
      (f.note (some (check v))).2 && ((f.note (some (check v))).1.notes check vs).2)

/-- What one line has of a setting is noted before the rest. -/
theorem Field.notes_cons (f : Field α) (check : Text → Option α) (key l : Text) (ls : List Text) :
    f.notes check ((l :: ls).filterMap (settingOf key)) =
      (((f.note ((settingOf key l).map check)).1.notes check (ls.filterMap (settingOf key))).1,
        (f.note ((settingOf key l).map check)).2 &&
          ((f.note ((settingOf key l).map check)).1.notes check (ls.filterMap (settingOf key))).2) := by
  rcases hvalue : settingOf key l with - | v
  · rw [List.filterMap_cons_none hvalue]
    rfl
  · rw [List.filterMap_cons_some hvalue]
    rfl

theorem Field.notes_singleton (h : check v = some x) :
    Field.notes { value := d } check [v] = ({ present := true, valid := true, value := x }, true) := by
  rw [Field.notes, h]
  rfl

/-- A setting that is present is present after every note, and a further note is reported. -/
theorem Field.note_again (h : f.present = true) (o : Option α) : (f.note (some o)).2 = false := by
  rcases o with - | x <;> exact congrArg (!·) h

@[simp] theorem Field.note_present (f : Field α) (o : Option α) :
    (f.note (some o)).1.present = true := by
  rcases o with - | x <;> rfl

/-- Without a report there is one value at most. -/
theorem Field.notes_ok (hok : (f.notes check vs).2 = true) : vs = [] ∨ ∃ v, vs = [v] := by
  rcases vs with - | ⟨v, - | ⟨w, vs⟩⟩
  · exact .inl rfl
  · exact .inr ⟨v, rfl⟩
  · have hrest := (Bool.and_eq_true_iff.1 hok).2
    have hagain := (Bool.and_eq_true_iff.1 hrest).1
    rw [Field.note_again (Field.note_present ..)] at hagain
    exact absurd hagain Bool.false_ne_true

/-- A setting that is noted once, and is valid, has one value, and that is valid. -/
theorem Field.notes_once (hok : (Field.notes { value := d } check vs).2 = true)
    (hpresent : (Field.notes { value := d } check vs).1.present = true)
    (hvalid : (Field.notes { value := d } check vs).1.valid = true) :
    ∃ v x, vs = [v] ∧ check v = some x := by
  rcases Field.notes_ok hok with rfl | ⟨v, rfl⟩
  · exact absurd hpresent Bool.false_ne_true
  · rcases hv : check v with - | x
    · rw [Field.notes, hv] at hvalid
      exact absurd hvalid Bool.false_ne_true
    · exact ⟨v, x, rfl, hv⟩

end Notes

/-- **The lines of a body**: every setting is noted with its own values. -/
theorem readLines_eq (lines : List Text) (a : ParsedConfig Text) (ok : Bool) :
    readLines lines a ok =
      let heartbeatInterval := a.heartbeatInterval.notes
        (numberOf minHeartbeatIntervalMin maxHeartbeatIntervalMin)
        (lines.filterMap (settingOf (ascii "HB_INTERVAL_MIN")))
      let tunnelEnabled := a.tunnelEnabled.notes booleanOf
        (lines.filterMap (settingOf (ascii "TUNNEL_ENABLED")))
      let sshHost := a.sshHost.notes (fun v ↦ (wordOf isValidConfigHost v).map some)
        (lines.filterMap (settingOf (ascii "SSH_HOST")))
      let sshPort := a.sshPort.notes (numberOf 1 65535)
        (lines.filterMap (settingOf (ascii "SSH_PORT")))
      let remoteBindHost := a.remoteBindHost.notes (fun v ↦ (wordOf isValidConfigHost v).map some)
        (lines.filterMap (settingOf (ascii "REMOTE_BIND_HOST")))
      let remoteBindPort := a.remoteBindPort.notes (numberOf 1 65535)
        (lines.filterMap (settingOf (ascii "REMOTE_BIND_PORT")))
      let localHost := a.localHost.notes (fun v ↦ (wordOf isValidConfigHost v).map some)
        (lines.filterMap (settingOf (ascii "LOCAL_HOST")))
      let localPort := a.localPort.notes (numberOf 1 65535)
        (lines.filterMap (settingOf (ascii "LOCAL_PORT")))
      let macVendor := a.macVendor.notes (fun v ↦ (wordOf isValidMacVendor v).map some)
        (lines.filterMap (settingOf (ascii "MAC_VENDOR")))
      ({ heartbeatInterval := heartbeatInterval.1, tunnelEnabled := tunnelEnabled.1,
         sshHost := sshHost.1, sshPort := sshPort.1, remoteBindHost := remoteBindHost.1,
         remoteBindPort := remoteBindPort.1, localHost := localHost.1, localPort := localPort.1,
         macVendor := macVendor.1 },
        ok && (heartbeatInterval.2 && tunnelEnabled.2 && sshHost.2 && sshPort.2 &&
          remoteBindHost.2 && remoteBindPort.2 && localHost.2 && localPort.2 && macVendor.2)) := by
  induction lines generalizing a ok with
  | nil =>
    rw [readLines]
    simp only [List.filterMap_nil, Field.notes, Bool.and_true]
  | cons l ls ih =>
    rw [readLines, ih, settingsOf_eq]
    simp only [Field.notes_cons, ParsedConfig.note]
    congr 1
    ac_rfl

/-! ### Acceptance -/

/-- The condition of `refreshConfig` on what was parsed. -/
def acceptable {P : Type} (parsed : ParsedConfig P) (structurallyValid : Bool) : Bool :=
  structurallyValid && parsed.heartbeatInterval.present && parsed.heartbeatInterval.valid &&
    hasCompleteTunnelConfig parsed

/-- What is queued of a configuration with texts. -/
def queuedText (a : ParsedConfig Text) : QueuedManagedConfig where
  enabled := a.tunnelEnabled.value
  sshPort := a.sshPort.value
  remoteBindPort := a.remoteBindPort.value
  localPort := a.localPort.value
  macVendorPresent := a.macVendor.present
  sshHost := strlcpy (a.sshHost.value.getD []) (maxConfigHostLength + 1)
  remoteBindHost := strlcpy (a.remoteBindHost.value.getD []) (maxConfigHostLength + 1)
  localHost := strlcpy (a.localHost.value.getD []) (maxConfigHostLength + 1)
  macVendor :=
    if a.macVendor.present then strlcpy (a.macVendor.value.getD []) (maxMacVendorLength + 1) else []

/-- The buffer that `performGet` leaves for a body, in an array of zeros. -/
def fetched (body : Text) : Text := body ++ List.replicate (configBufferSize - body.length) 0

/-- `refreshConfig`, when a body has been received over a connected WiFi. -/
def refreshed (s : MinisState) (body : Text) : Bool × MinisState :=
  refreshConfig s true 200 (fetched body) body.length

section Acceptance

variable {body buf : Text} {s : MinisState} {parsed : ParsedConfig ℕ} {a : ParsedConfig Text}

theorem pointee_eq {p : Option ℕ} {t : Option Text} (h : Option.Rel (Ends buf) p t) :
    pointee buf p = t.getD [] := by
  rcases h with hends | -
  · exact hends.cAt_eq
  · rfl

theorem acceptable_eq (h : parsed.Refines buf a) (ok : Bool) :
    acceptable parsed ok = acceptable a ok := by
  rw [acceptable, acceptable, hasCompleteTunnelConfig, hasCompleteTunnelConfig,
    h.heartbeatInterval, h.tunnelEnabled, h.sshPort, h.remoteBindPort, h.localPort,
    h.sshHost.present, h.sshHost.valid, h.remoteBindHost.present, h.remoteBindHost.valid,
    h.localHost.present, h.localHost.valid, h.macVendor.present, h.macVendor.valid]

theorem queuedConfig_eq (h : parsed.Refines buf a) : queuedConfig buf parsed = queuedText a := by
  rw [queuedConfig, queuedText, h.tunnelEnabled, h.sshPort, h.remoteBindPort, h.localPort,
    h.macVendor.present, pointee_eq h.sshHost.value, pointee_eq h.remoteBindHost.value,
    pointee_eq h.localHost.value, pointee_eq h.macVendor.value]

/-- **A refresh**, said without the buffer: what is in it up to the first zero counts. -/
theorem refreshConfig_eq (more : Text) {length : ℕ} (hbody : (0 : UInt8) ∉ body)
    (hlength : length = 0 → body = []) {q : Option QueuedManagedConfig}
    (hqueue : s.managedConfigQueue = some q) :
    refreshConfig s true 200 (body ++ 0 :: more) length =
      let read := readLines body.fileLines {} true
      if acceptable read.1 read.2 then
        (true, { heartbeatIntervalMin := read.1.heartbeatInterval.value
                 managedConfigQueue := some (some (queuedText read.1)) })
      else (false, s) := by
  obtain ⟨hrefines, hok⟩ := parseConfig_refines more hbody
  rw [refreshConfig]
  generalize parseConfig (body ++ 0 :: more) = r at hrefines hok
  obtain ⟨buf, parsed, structurallyValid⟩ := r
  dsimp only at hrefines hok ⊢
  by_cases hzero : length = 0
  · rw [hlength hzero, hzero]
    rfl
  rw [← hok, ← acceptable_eq hrefines, ← queuedConfig_eq hrefines, ← hrefines.heartbeatInterval,
    decide_eq_false hzero, acceptable, hqueue]
  rcases structurallyValid with - | -
  · rfl
  rcases parsed.heartbeatInterval.present with - | -
  · rfl
  rcases parsed.heartbeatInterval.valid with - | -
  · rfl
  rcases hasCompleteTunnelConfig parsed with - | -
  · rfl
  · rfl

/-- A body without zeros is in the buffer as it is. -/
theorem refreshed_eq (hbody : (0 : UInt8) ∉ body) (hlen : body.length < configBufferSize)
    {q : Option QueuedManagedConfig} (hqueue : s.managedConfigQueue = some q) :
    refreshed s body =
      let read := readLines body.fileLines {} true
      if acceptable read.1 read.2 then
        (true, { heartbeatIntervalMin := read.1.heartbeatInterval.value
                 managedConfigQueue := some (some (queuedText read.1)) })
      else (false, s) := by
  have hfetched : fetched body =
      body ++ 0 :: List.replicate (configBufferSize - body.length - 1) 0 := by
    rw [fetched, ← List.replicate_succ]
    congr 2
    omega
  rw [refreshed, hfetched]
  exact refreshConfig_eq _ hbody List.length_eq_zero_iff.1 hqueue

end Acceptance

/-! ### What a body describes -/

/-- The key has exactly one setting in the body, and its value is valid and says this. -/
def HasOne {α : Type} (body key : Text) (Says : Text → α → Prop) (x : α) : Prop :=
  ∃ value, values key body = [value] ∧ Says value x

/-- **The body is well formed**, and this is the interval and the configuration in it. -/
structure Describes (body : Text) (interval : UInt16) (c : QueuedManagedConfig) : Prop where
  /-- `HB_INTERVAL_MIN`, from 2 to 1440. -/
  heartbeatInterval : HasOne body (ascii "HB_INTERVAL_MIN") (IsNumberIn 2 1440) interval
  /-- `TUNNEL_ENABLED` -/
  enabled : HasOne body (ascii "TUNNEL_ENABLED") IsBoolean c.enabled
  /-- `SSH_HOST` -/
  sshHost : HasOne body (ascii "SSH_HOST") IsHost c.sshHost
  /-- `SSH_PORT` -/
  sshPort : HasOne body (ascii "SSH_PORT") (IsNumberIn 1 65535) c.sshPort
  /-- `REMOTE_BIND_HOST` -/
  remoteBindHost : HasOne body (ascii "REMOTE_BIND_HOST") IsHost c.remoteBindHost
  /-- `REMOTE_BIND_PORT` -/
  remoteBindPort : HasOne body (ascii "REMOTE_BIND_PORT") (IsNumberIn 1 65535) c.remoteBindPort
  /-- `LOCAL_HOST` -/
  localHost : HasOne body (ascii "LOCAL_HOST") IsHost c.localHost
  /-- `LOCAL_PORT` -/
  localPort : HasOne body (ascii "LOCAL_PORT") (IsNumberIn 1 65535) c.localPort
  /-- `MAC_VENDOR`, which may be missing. -/
  macVendor :
    (values (ascii "MAC_VENDOR") body = [] ∧ c.macVendorPresent = false ∧ c.macVendor = []) ∨
      (c.macVendorPresent = true ∧ HasOne body (ascii "MAC_VENDOR") IsVendor c.macVendor)

/-- What is parsed of a body that is well formed. -/
def described (interval : UInt16) (c : QueuedManagedConfig) : ParsedConfig Text where
  heartbeatInterval := ⟨true, true, interval⟩
  tunnelEnabled := ⟨true, true, c.enabled⟩
  sshHost := ⟨true, true, some c.sshHost⟩
  sshPort := ⟨true, true, c.sshPort⟩
  remoteBindHost := ⟨true, true, some c.remoteBindHost⟩
  remoteBindPort := ⟨true, true, c.remoteBindPort⟩
  localHost := ⟨true, true, some c.localHost⟩
  localPort := ⟨true, true, c.localPort⟩
  macVendor := if c.macVendorPresent then ⟨true, true, some c.macVendor⟩ else ⟨false, false, none⟩

section Describing

variable {body key : Text} {interval : UInt16} {c : QueuedManagedConfig}

/-- What one setting comes to. -/
theorem HasOne.notes {α : Type} {check : Text → Option α} {Says : Text → α → Prop} {d x : α}
    (h : HasOne body key Says x) (hcheck : ∀ {v}, check v = some x ↔ Says v x) :
    Field.notes { value := d } check (body.fileLines.filterMap (settingOf key)) =
      (⟨true, true, x⟩, true) := by
  obtain ⟨v, hvalues, hv⟩ := h
  rw [← values, hvalues, Field.notes_singleton (hcheck.2 hv)]

/-- What one setting with a text comes to. -/
theorem HasOne.notes_text {check : Text → Bool} {Says : Text → Text → Prop} {t : Text}
    (h : HasOne body key Says t) (hcheck : ∀ {v}, wordOf check v = some t ↔ Says v t) :
    Field.notes { value := none } (fun v ↦ (wordOf check v).map some)
      (body.fileLines.filterMap (settingOf key)) = (⟨true, true, some t⟩, true) := by
  obtain ⟨v, hvalues, hv⟩ := h
  have hsome : (wordOf check v).map some = some (some t) := congrArg (Option.map some) (hcheck.2 hv)
  rw [← values, hvalues, Field.notes_singleton hsome]

theorem HasOne.of_text {check : Text → Bool} {Says : Text → Text → Prop} {v : Text}
    {x : Option Text} (hcheck : ∀ {v t}, wordOf check v = some t ↔ Says v t)
    (hvalues : values key body = [v]) (hv : (wordOf check v).map some = some x) :
    ∃ t, HasOne body key Says t := by
  rcases hword : wordOf check v with - | t
  · rw [hword] at hv
    cases hv
  · exact ⟨t, v, hvalues, hcheck.1 hword⟩

theorem Describes.readLines (h : Describes body interval c) :
    readLines body.fileLines {} true = (described interval c, true) := by
  have hvendor : Field.notes { value := none } (fun v ↦ (wordOf isValidMacVendor v).map some)
      (body.fileLines.filterMap (settingOf (ascii "MAC_VENDOR"))) =
        ((described interval c).macVendor, true) := by
    rcases h.macVendor with ⟨hnone, hpresent, -⟩ | ⟨hpresent, hone⟩
    · rw [← values, hnone, described, hpresent]
      rfl
    · rw [hone.notes_text vendorOf_eq_some_iff, described, hpresent]
      rfl
  rw [readLines_eq]
  simp only [h.heartbeatInterval.notes intervalOf_eq_some_iff, h.enabled.notes booleanOf_eq_some_iff,
    h.sshHost.notes_text hostOf_eq_some_iff, h.sshPort.notes portOf_eq_some_iff,
    h.remoteBindHost.notes_text hostOf_eq_some_iff, h.remoteBindPort.notes portOf_eq_some_iff,
    h.localHost.notes_text hostOf_eq_some_iff, h.localPort.notes portOf_eq_some_iff, hvendor]
  rfl

theorem strlcpy_eq {t : Text} {size : ℕ} (h : t.length < size) : strlcpy t size = t :=
  List.take_of_length_le (by omega)

/-- A host fits into the queue. -/
theorem HasOne.strlcpy_host {t : Text} (h : HasOne body key IsHost t) :
    strlcpy t (maxConfigHostLength + 1) = t := by
  obtain ⟨v, -, hhost⟩ := h
  exact strlcpy_eq (Nat.lt_succ_of_le hhost.length.2)

/-- So does the name of a vendor. -/
theorem HasOne.strlcpy_vendor {t : Text} (h : HasOne body key IsVendor t) :
    strlcpy t (maxMacVendorLength + 1) = t := by
  obtain ⟨v, -, -, word, hword, hsame⟩ := h
  have hshort : ∀ word ∈ vendorWords, word.length < maxMacVendorLength + 1 := by decide +kernel
  exact strlcpy_eq (hsame.length_eq ▸ hshort word hword)

theorem Describes.queuedText (h : Describes body interval c) :
    queuedText (described interval c) = c := by
  have hssh := h.sshHost.strlcpy_host
  have hremote := h.remoteBindHost.strlcpy_host
  have hlocal := h.localHost.strlcpy_host
  obtain ⟨enabled, sshPort, remoteBindPort, localPort, present, sshHost, remoteBindHost, localHost,
    vendor⟩ := c
  have hvendor : (present = false ∧ vendor = []) ∨
      (present = true ∧ strlcpy vendor (maxMacVendorLength + 1) = vendor) := by
    rcases h.macVendor with ⟨-, hpresent, hnone⟩ | ⟨hpresent, hone⟩
    · exact .inl ⟨hpresent, hnone⟩
    · exact .inr ⟨hpresent, hone.strlcpy_vendor⟩
  rw [Minis.queuedText, described]
  dsimp only [Option.getD_some] at hssh hremote hlocal ⊢
  rw [hssh, hremote, hlocal]
  rcases hvendor with ⟨rfl, rfl⟩ | ⟨rfl, hcopy⟩
  · rfl
  · show QueuedManagedConfig.mk _ _ _ _ _ _ _ _ (strlcpy vendor _) = _
    rw [hcopy]
    rfl

/-- What a body describes is accepted. -/
theorem Describes.acceptable (interval : UInt16) (c : QueuedManagedConfig) :
    acceptable (described interval c) true = true := by
  rw [Minis.acceptable, hasCompleteTunnelConfig, described]
  rcases c.macVendorPresent with - | - <;> rfl

/-- **Only what a body describes is accepted.** -/
theorem exists_describes
    (h : Minis.acceptable (Minis.readLines body.fileLines {} true).1
      (Minis.readLines body.fileLines {} true).2 = true) :
    ∃ interval c, Describes body interval c := by
  rw [readLines_eq] at h
  simp only [Minis.acceptable, hasCompleteTunnelConfig, Bool.true_and, Bool.and_eq_true,
    and_assoc] at h
  obtain ⟨ok₁, ok₂, ok₃, ok₄, ok₅, ok₆, ok₇, ok₈, ok₉, p₁, v₁, p₂, p₃, p₄, p₅, p₆, p₇, p₈, v₂, v₃, v₄,
    v₅, v₆, v₇, v₈, hvendor⟩ := h
  obtain ⟨_, interval, hinterval⟩ := Field.notes_once ok₁ p₁ v₁
  obtain ⟨_, enabled, henabled⟩ := Field.notes_once ok₂ p₂ v₂
  obtain ⟨_, _, hssh, hsshHost⟩ := Field.notes_once ok₃ p₃ v₃
  obtain ⟨_, sshPort, hsshPort⟩ := Field.notes_once ok₄ p₄ v₄
  obtain ⟨_, _, hremote, hremoteHost⟩ := Field.notes_once ok₅ p₅ v₅
  obtain ⟨_, remoteBindPort, hremotePort⟩ := Field.notes_once ok₆ p₆ v₆
  obtain ⟨_, _, hlocal, hlocalHost⟩ := Field.notes_once ok₇ p₇ v₇
  obtain ⟨_, localPort, hlocalPort⟩ := Field.notes_once ok₈ p₈ v₈
  obtain ⟨sshHost, hsshHost⟩ := HasOne.of_text hostOf_eq_some_iff hssh hsshHost
  obtain ⟨remoteBindHost, hremoteHost⟩ := HasOne.of_text hostOf_eq_some_iff hremote hremoteHost
  obtain ⟨localHost, hlocalHost⟩ := HasOne.of_text hostOf_eq_some_iff hlocal hlocalHost
  obtain ⟨present, vendor, hmac⟩ : ∃ present vendor,
      (values (ascii "MAC_VENDOR") body = [] ∧ present = false ∧ vendor = []) ∨
        (present = true ∧ HasOne body (ascii "MAC_VENDOR") IsVendor vendor) := by
    rcases Field.notes_ok ok₉ with hnone | ⟨v, hone⟩
    · exact ⟨false, [], .inl ⟨hnone, rfl, rfl⟩⟩
    · rw [hone] at ok₉ hvendor
      have hpresent : (Field.notes ({} : ParsedConfig Text).macVendor
          (fun v ↦ (wordOf isValidMacVendor v).map some) [v]).1.present = true :=
        Field.note_present ..
      rw [hpresent, Bool.not_true, Bool.false_or] at hvendor
      obtain ⟨_, _, heq, hv⟩ := Field.notes_once ok₉ hpresent hvendor
      obtain ⟨vendor, hvendor⟩ := HasOne.of_text vendorOf_eq_some_iff (hone.trans heq) hv
      exact ⟨true, vendor, .inr ⟨rfl, hvendor⟩⟩
  exact ⟨interval, ⟨enabled, sshPort, remoteBindPort, localPort, present, sshHost, remoteBindHost,
    localHost, vendor⟩, ⟨⟨_, hinterval.imp_right intervalOf_eq_some_iff.1⟩,
    ⟨_, henabled.imp_right booleanOf_eq_some_iff.1⟩, hsshHost,
    ⟨_, hsshPort.imp_right portOf_eq_some_iff.1⟩, hremoteHost,
    ⟨_, hremotePort.imp_right portOf_eq_some_iff.1⟩, hlocalHost,
    ⟨_, hlocalPort.imp_right portOf_eq_some_iff.1⟩, hmac⟩⟩

end Describing

/-! ### The order of the lines -/

/-- The lines of a body that are settings. -/
def settingLines (body : Text) : List Text :=
  body.fileLines.filter fun line ↦ keys.any fun key ↦ (settingOf key line).isSome

section Order

variable {body body' key : Text} {interval : UInt16} {c : QueuedManagedConfig} {s : MinisState}

/-- Only the lines that are settings have values. -/
theorem values_eq (hkey : key ∈ keys) :
    values key body = (settingLines body).filterMap (settingOf key) := by
  rw [values, settingLines, List.filterMap_filter]
  refine List.filterMap_congr fun line _ ↦ ?_
  rcases hvalue : settingOf key line with - | v
  · rw [ite_self]
  · rw [if_pos]
    exact List.any_eq_true.2 ⟨key, hkey, by rw [hvalue]; rfl⟩

/-- **The order of the settings plays no part.** -/
theorem values_perm (h : (settingLines body).Perm (settingLines body')) (hkey : key ∈ keys) :
    (values key body).Perm (values key body') := by
  rw [values_eq hkey, values_eq hkey]
  exact h.filterMap _

theorem HasOne.perm {α : Type} {Says : Text → α → Prop} {x : α}
    (h : (settingLines body).Perm (settingLines body')) (hkey : key ∈ keys)
    (hone : HasOne body key Says x) : HasOne body' key Says x := by
  obtain ⟨v, hvalues, hv⟩ := hone
  have hperm := (values_perm h hkey).symm
  rw [hvalues] at hperm
  exact ⟨v, List.perm_singleton.1 hperm, hv⟩

theorem Describes.perm (h : (settingLines body).Perm (settingLines body'))
    (hbody : Describes body interval c) : Describes body' interval c where
  heartbeatInterval := hbody.heartbeatInterval.perm h (by decide +kernel)
  enabled := hbody.enabled.perm h (by decide +kernel)
  sshHost := hbody.sshHost.perm h (by decide +kernel)
  sshPort := hbody.sshPort.perm h (by decide +kernel)
  remoteBindHost := hbody.remoteBindHost.perm h (by decide +kernel)
  remoteBindPort := hbody.remoteBindPort.perm h (by decide +kernel)
  localHost := hbody.localHost.perm h (by decide +kernel)
  localPort := hbody.localPort.perm h (by decide +kernel)
  macVendor := by
    rcases hbody.macVendor with ⟨hnone, hrest⟩ | ⟨hpresent, hone⟩
    · have hperm := (values_perm h (show ascii "MAC_VENDOR" ∈ keys by decide +kernel)).symm
      rw [hnone] at hperm
      exact .inl ⟨hperm.eq_nil, hrest⟩
    · exact .inr ⟨hpresent, hone.perm h (by decide +kernel)⟩

/-- A refresh with a body that describes something. -/
theorem refreshed_of_describes (hbody : (0 : UInt8) ∉ body) (hlen : body.length < configBufferSize)
    {q : Option QueuedManagedConfig} (hqueue : s.managedConfigQueue = some q)
    (h : Describes body interval c) :
    refreshed s body = (true, ⟨interval, some (some c)⟩) := by
  rw [refreshed_eq hbody hlen hqueue, h.readLines]
  dsimp only
  rw [if_pos (Describes.acceptable interval c), h.queuedText]
  rfl

/-- A refresh with a body that describes nothing. -/
theorem refreshed_of_not_describes (hbody : (0 : UInt8) ∉ body)
    (hlen : body.length < configBufferSize)
    {q : Option QueuedManagedConfig} (hqueue : s.managedConfigQueue = some q)
    (h : ¬∃ interval c, Describes body interval c) : refreshed s body = (false, s) := by
  rw [refreshed_eq hbody hlen hqueue]
  dsimp only
  rw [if_neg fun haccept ↦ h (exists_describes haccept)]

end Order

/-- **A managed configuration is accepted exactly if it is well formed**, and then what is in it is queued;
otherwise nothing changes. Bodies with the same settings come to the same, in whatever order and between
whatever other lines these are. -/
theorem managed_config_acceptance {body : Text} (hbody : (0 : UInt8) ∉ body)
    (hlen : body.length < configBufferSize) {s : MinisState} {q : Option QueuedManagedConfig}
    (hqueue : s.managedConfigQueue = some q) :
    (∀ key ∈ keys, ∀ line value, settingOf key line = some value ↔ IsSetting key line value) ∧
      ((refreshed s body).1 = true ↔ ∃ interval c, Describes body interval c) ∧
      (∀ interval c, Describes body interval c →
        refreshed s body = (true, ⟨interval, some (some c)⟩)) ∧
      ((refreshed s body).1 = false → (refreshed s body).2 = s) ∧
      ∀ body', (0 : UInt8) ∉ body' → body'.length < configBufferSize →
        (settingLines body).Perm (settingLines body') → refreshed s body' = refreshed s body := by
  have hdescribes : ∀ {body'}, (0 : UInt8) ∉ body' → body'.length < configBufferSize →
      ∀ interval c, Describes body' interval c →
        refreshed s body' = (true, ⟨interval, some (some c)⟩) :=
    fun hbody' hlen' _ _ h ↦ refreshed_of_describes hbody' hlen' hqueue h
  refine ⟨fun key hkey line value ↦ settingOf_eq_some_iff hkey, ?_, hdescribes hbody hlen, ?_, ?_⟩
  · constructor
    · intro haccept
      by_contra h
      rw [refreshed_of_not_describes hbody hlen hqueue h] at haccept
      exact absurd haccept Bool.false_ne_true
    · rintro ⟨interval, c, h⟩
      rw [hdescribes hbody hlen interval c h]
  · intro hreject
    by_cases h : ∃ interval c, Describes body interval c
    · obtain ⟨interval, c, h⟩ := h
      rw [hdescribes hbody hlen interval c h] at hreject
      exact absurd hreject.symm Bool.false_ne_true
    · rw [refreshed_of_not_describes hbody hlen hqueue h]
  · intro body' hbody' hlen' hperm
    by_cases h : ∃ interval c, Describes body interval c
    · obtain ⟨interval, c, h⟩ := h
      rw [hdescribes hbody hlen interval c h, hdescribes hbody' hlen' interval c (h.perm hperm)]
    · have h' : ¬∃ interval c, Describes body' interval c := by
        rintro ⟨interval, c, h'⟩
        exact h ⟨interval, c, h'.perm hperm.symm⟩
      rw [refreshed_of_not_describes hbody hlen hqueue h,
        refreshed_of_not_describes hbody' hlen' hqueue h']

/-- The lines of a body. -/
def plainLines : List Text :=
  [ascii "HB_INTERVAL_MIN=30", ascii "TUNNEL_ENABLED=yes", ascii "SSH_HOST=ssh.example",
    ascii "SSH_PORT=22", ascii "REMOTE_BIND_HOST=localhost", ascii "REMOTE_BIND_PORT=2222",
    ascii "LOCAL_HOST=192.168.1.2", ascii "LOCAL_PORT=80"]

/-- The lines in turn. -/
def plainBody : Text := plainLines.flatMap (· ++ [chr '\n'])

/-- The lines the other way round, between lines that are no settings. -/
def shuffledBody : Text :=
  (ascii "# tunnel" :: [] :: plainLines.reverse ++ [ascii "COLOUR=red"]).flatMap (· ++ [chr '\n'])

/-- What both describe. -/
def plainConfig : QueuedManagedConfig where
  enabled := true
  sshPort := 22
  remoteBindPort := 2222
  localPort := 80
  macVendorPresent := false
  sshHost := ascii "ssh.example"
  remoteBindHost := ascii "localhost"
  localHost := ascii "192.168.1.2"

theorem describes_plainBody : Describes plainBody 30 plainConfig where
  heartbeatInterval := ⟨ascii "30", by decide +kernel, intervalOf_eq_some_iff.1 (by decide +kernel)⟩
  enabled := ⟨ascii "yes", by decide +kernel, booleanOf_eq_some_iff.1 (by decide +kernel)⟩
  sshHost := ⟨ascii "ssh.example", by decide +kernel, hostOf_eq_some_iff.1 (by decide +kernel)⟩
  sshPort := ⟨ascii "22", by decide +kernel, portOf_eq_some_iff.1 (by decide +kernel)⟩
  remoteBindHost := ⟨ascii "localhost", by decide +kernel, hostOf_eq_some_iff.1 (by decide +kernel)⟩
  remoteBindPort := ⟨ascii "2222", by decide +kernel, portOf_eq_some_iff.1 (by decide +kernel)⟩
  localHost := ⟨ascii "192.168.1.2", by decide +kernel, hostOf_eq_some_iff.1 (by decide +kernel)⟩
  localPort := ⟨ascii "80", by decide +kernel, portOf_eq_some_iff.1 (by decide +kernel)⟩
  macVendor := .inl (by decide +kernel)

/-- Both bodies are accepted, with the same result. -/
theorem managed_config_acceptance_shuffledBody :
    refreshed ⟨60, some none⟩ plainBody = (true, ⟨30, some (some plainConfig)⟩) ∧
      refreshed ⟨60, some none⟩ shuffledBody = (true, ⟨30, some (some plainConfig)⟩) := by
  obtain ⟨-, -, haccept, -, horder⟩ := managed_config_acceptance
    (show (0 : UInt8) ∉ plainBody by decide +kernel) (by decide +kernel)
    (s := ⟨60, some none⟩) rfl
  have hplain := haccept 30 plainConfig describes_plainBody
  refine ⟨hplain, ?_⟩
  rw [horder shuffledBody (by decide +kernel) (by decide +kernel) (by decide +kernel)]
  exact hplain

end Minis

end ReverseTunnel
