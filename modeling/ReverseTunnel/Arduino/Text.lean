import Mathlib.Data.List.DropRight
import Mathlib.Data.List.Infix

/-!
# Arduino strings

The `String` class of the Arduino core, as far as the firmware uses it: a sequence of bytes, with the
character classes of the C locale. Everything is byte by byte, so a byte from `0x80` on is neither a
blank, a letter nor a digit, and changing the case leaves it alone.
-/

namespace ReverseTunnel

/-- The contents of a `String`. -/
abbrev Text := List UInt8

/-- A character constant. -/
abbrev chr (c : Char) : UInt8 := c.toUInt8

/-- A string literal. -/
def ascii (s : String) : Text := s.toList.map chr

/-! ### Character classes -/

/-- `isspace` -/
def isSpace (b : UInt8) : Bool := b == chr ' ' || (9 ≤ b && b ≤ 13)

/-- `isxdigit` -/
def isXDigit (b : UInt8) : Bool :=
  (chr '0' ≤ b && b ≤ chr '9') || (chr 'A' ≤ b && b ≤ chr 'F') || (chr 'a' ≤ b && b ≤ chr 'f')

/-- `tolower` -/
def lowerByte (b : UInt8) : UInt8 := if chr 'A' ≤ b && b ≤ chr 'Z' then b + 32 else b

/-- `toupper` -/
def upperByte (b : UInt8) : UInt8 := if chr 'a' ≤ b && b ≤ chr 'z' then b - 32 else b

/-- A statement about every byte is settled byte by byte. -/
instance decidableForallByte {p : UInt8 → Prop} [DecidablePred p] : Decidable (∀ b, p b) :=
  have _ : Decidable (∀ n < 256, p (UInt8.ofNat n)) := Nat.decidableBallLT 256 _
  decidable_of_iff (∀ n < 256, p (UInt8.ofNat n)) ⟨fun h b ↦ by
    have hb := h b.toNat b.toNat_lt
    rwa [UInt8.ofNat_toNat] at hb, fun h n _ ↦ h _⟩

namespace Text

/-! ### Operations -/

/-- `toLowerCase` -/
def toLowerCase (t : Text) : Text := t.map lowerByte

/-- `trim` -/
def trim (t : Text) : Text := (t.dropWhile isSpace).rdropWhile isSpace

/-- `replace(c, "")` for a text `c` of one character. -/
def without (c : Char) (t : Text) : Text := t.filter (· ≠ chr c)

/-- `startsWith` -/
def startsWith (t start : Text) : Bool := start.isPrefixOf t

/-- `indexOf`: `-1` when the character does not occur. -/
def indexOf (c : Char) (t : Text) : Int := if chr c ∈ t then t.idxOf (chr c) else -1

/-- `substring` to the end -/
def substring (t : Text) (beginIndex : Int) : Text := t.drop beginIndex.toNat

/-- `substring` from the beginning -/
def substringTo (t : Text) (endIndex : Int) : Text := t.take endIndex.toNat

/-- `toUpperCase` -/
def toUpperCase (t : Text) : Text := t.map upperByte

/-- What a C function sees of a text: it ends at the first zero byte. -/
def cString (t : Text) : Text := t.takeWhile (· ≠ 0)

/-- `indexOf` of a text is not `-1`. -/
def contains (t part : Text) : Bool := decide (part <:+: t.cString)

/-- `==` with a string literal -/
def equals (t : Text) (s : String) : Bool := t.cString == ascii s

/-- What `readStringUntil('\n')` reads of a file as long as there is something left. -/
def fileLines : Text → List Text
  | [] => []
  | c :: rest =>
    if c = chr '\n' then [] :: fileLines rest
    else match fileLines rest with
      | [] => [[c]]
      | line :: lines => (c :: line) :: lines

/-! ### Trimming -/

section Trim

variable {t pre post : Text}

/-- Blanks around a text make no difference to what trimming leaves. -/
theorem trim_between (hpre : ∀ b ∈ pre, isSpace b = true) (hpost : ∀ b ∈ post, isSpace b = true) :
    trim (pre ++ t ++ post) = trim t := by
  have hback : ∀ l : Text, (l ++ post).rdropWhile isSpace = l.rdropWhile isSpace := fun l ↦ by
    rw [List.rdropWhile, List.reverse_append, List.dropWhile_append_of_pos (by simpa using hpost)]
    rfl
  rw [trim, List.append_assoc, List.dropWhile_append_of_pos hpre, List.dropWhile_append]
  split
  · -- Nothing but blanks.
    rename_i hempty
    have hnone : post.dropWhile isSpace = [] := List.dropWhile_eq_nil_iff.2 hpost
    rw [trim, hnone, List.isEmpty_iff.1 hempty]
  · exact hback _

/-- A text without blanks stays as it is. -/
theorem trim_eq_self (ht : ∀ b ∈ t, isSpace b = false) : trim t = t := by
  rcases t with - | ⟨b, t⟩
  · rfl
  · rw [trim, List.dropWhile_cons_of_neg (by simp [ht b (by simp)])]
    exact List.rdropWhile_eq_self_iff.2 fun hne ↦ by simp [ht _ (List.getLast_mem hne)]

/-- Trimming only takes bytes away. -/
theorem mem_of_mem_trim {b : UInt8} (h : b ∈ trim t) : b ∈ t :=
  (List.dropWhile_sublist _).subset ((List.rdropWhile_prefix _ _).subset h)

/-- A filter that drops the blanks of a text does not notice that they were trimmed. -/
theorem filter_trim {p : UInt8 → Bool} (h : ∀ b ∈ t, isSpace b = true → p b = false) :
    (trim t).filter p = t.filter p := by
  have hfront : ∀ l : Text, (∀ b ∈ l, isSpace b = true → p b = false) →
      (l.dropWhile isSpace).filter p = l.filter p := by
    intro l hl
    induction l with
    | nil => rfl
    | cons b l ih =>
      rw [List.dropWhile_cons]
      split
      · rename_i hb
        rw [ih fun c hc ↦ hl c (List.mem_cons_of_mem _ hc), List.filter_cons_of_neg]
        simp [hl b (by simp) hb]
      · rfl
  have hback : ((t.dropWhile isSpace).rdropWhile isSpace).filter p
      = (t.dropWhile isSpace).filter p := by
    rw [List.rdropWhile, List.filter_reverse, hfront _ fun b hb ↦ ?_, List.filter_reverse,
      List.reverse_reverse]
    exact h b ((List.dropWhile_sublist _).subset (List.mem_reverse.1 hb))
  rw [trim, hback, hfront t h]

end Trim

/-! ### Removing a character -/

section Without

variable {t : Text} {c : Char}

@[simp] theorem mem_without {b : UInt8} : b ∈ without c t ↔ b ∈ t ∧ b ≠ chr c := by
  simp [without]

/-- A text without the character stays as it is. -/
theorem without_of_notMem (h : chr c ∉ t) : without c t = t :=
  List.filter_eq_self.2 fun b hb ↦ by
    have hne : b ≠ chr c := fun he ↦ h (he ▸ hb)
    simpa using hne

end Without

/-! ### C strings -/

section CString

variable {t : Text}

/-- Nothing of a C string is zero. -/
theorem notMem_cString : (0 : UInt8) ∉ t.cString := by
  intro hmem
  have hne := List.mem_takeWhile_imp hmem
  simp at hne

/-- A text without zeros is a C string as it is. -/
theorem cString_of_notMem (h : (0 : UInt8) ∉ t) : t.cString = t :=
  List.takeWhile_eq_self_iff.2 fun b hb ↦ by
    have hne : b ≠ 0 := fun heq ↦ h (heq ▸ hb)
    simpa using hne

end CString

/-! ### Lines -/

section Lines

variable {t rest : Text}

/-- A line is read up to its end. -/
theorem fileLines_line (h : chr '\n' ∉ t) : fileLines (t ++ chr '\n' :: rest) = t :: fileLines rest := by
  induction t with
  | nil =>
    rw [List.nil_append, fileLines, if_pos rfl]
  | cons b t ih =>
    have hb : b ≠ chr '\n' := fun heq ↦ h (heq ▸ List.mem_cons_self ..)
    rw [List.cons_append, fileLines, if_neg hb, ih fun hmem ↦ h (List.mem_cons_of_mem _ hmem)]

/-- What is behind the last end of a line is a line as well, unless it is empty. -/
theorem fileLines_last (hne : t ≠ []) (h : chr '\n' ∉ t) : fileLines t = [t] := by
  induction t with
  | nil => exact absurd rfl hne
  | cons b t ih =>
    have hb : b ≠ chr '\n' := fun heq ↦ h (heq ▸ List.mem_cons_self ..)
    rw [fileLines, if_neg hb]
    rcases t with - | ⟨c, t⟩
    · rfl
    · rw [ih (List.cons_ne_nil c t) fun hmem ↦ h (List.mem_cons_of_mem _ hmem)]

end Lines

end Text

end ReverseTunnel
