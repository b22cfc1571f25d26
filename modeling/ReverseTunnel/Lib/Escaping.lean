import Mathlib.Data.List.Basic

/-!
# Escaped texts

A text is written symbol by symbol, each symbol as a **word** over another alphabet. When a word can be
read off the front of whatever it stands before, so can the whole text (`decode_encode`); and a
character that occurs in no word marks where the text ends (`decode_takeWhile`), or separates the
fields of a form (`readFields_fields`).
-/

namespace Escaping

variable {α β : Type}

/-- Symbols written as words. -/
structure Code (α β : Type) where
  /-- The word for a symbol. -/
  write : α → List β
  /-- A symbol and what is left when its word has been read. -/
  read : List β → Option (α × List β)
  /-- A word is read for what it was written for, whatever follows it. -/
  read_write : ∀ a rest, read (write a ++ rest) = some (a, rest)

namespace Code

variable (c : Code α β)

/-- All words of a text. -/
def encode (l : List α) : List β := l.flatMap c.write

/-- Reading at most so many words. -/
def decodeIn : ℕ → List β → Option (List α)
  | _, [] => some []
  | 0, _ :: _ => none
  | n + 1, b :: t => (c.read (b :: t)).bind fun r ↦ (decodeIn n r.2).map (r.1 :: ·)

/-- Reading all words. A word has a letter at least. -/
def decode (t : List β) : Option (List α) := c.decodeIn t.length t

variable {c}

theorem encode_cons (a : α) (l : List α) : c.encode (a :: l) = c.write a ++ c.encode l :=
  List.flatMap_cons

/-- No word is empty, or what is written before nothing would not be read. -/
theorem write_ne_nil (h : c.read [] = none) (a : α) : c.write a ≠ [] := by
  intro hnil
  have hread := c.read_write a []
  rw [hnil, List.append_nil, h] at hread
  cases hread

theorem decodeIn_encode (h : c.read [] = none) {n : ℕ} {l : List α}
    (hn : (c.encode l).length ≤ n) : c.decodeIn n (c.encode l) = some l := by
  induction l generalizing n with
  | nil =>
    show c.decodeIn n [] = some []
    rw [decodeIn]
  | cons a l ih =>
    rw [encode_cons] at hn ⊢
    rcases hword : c.write a with - | ⟨b, t⟩
    · exact absurd hword (write_ne_nil h a)
    · rw [hword, List.cons_append, List.length_cons, List.length_append] at hn
      rcases n with - | n
      · omega
      · have hread := c.read_write a (c.encode l)
        rw [hword, List.cons_append] at hread
        show ((c.read (b :: (t ++ c.encode l))).bind fun r ↦ (c.decodeIn n r.2).map (r.1 :: ·)) = _
        rw [hread, Option.bind_some, ih (by omega)]
        rfl

/-- **What was written is read.** -/
theorem decode_encode (h : c.read [] = none) (l : List α) : c.decode (c.encode l) = some l :=
  decodeIn_encode h (Nat.le_refl _)

/-- A character of no word does not occur. -/
theorem notMem_encode {b : β} (hb : ∀ a, b ∉ c.write a) (l : List α) : b ∉ c.encode l := by
  intro hmem
  obtain ⟨a, -, ha⟩ := List.mem_flatMap.1 hmem
  exact hb a ha

section Marked

variable [DecidableEq β] {b : β} {rest : List β}

theorem takeWhile_append_mark {t : List β} (hb : b ∉ t) :
    (t ++ b :: rest).takeWhile (· ≠ b) = t := by
  rw [List.takeWhile_append_of_pos fun x hx ↦ by
    have hne : x ≠ b := fun heq ↦ hb (heq ▸ hx)
    simpa using hne]
  rw [List.takeWhile_cons_of_neg (by simp), List.append_nil]

theorem dropWhile_append_mark {t : List β} (hb : b ∉ t) :
    (t ++ b :: rest).dropWhile (· ≠ b) = b :: rest := by
  rw [List.dropWhile_append_of_pos fun x hx ↦ by
    have hne : x ≠ b := fun heq ↦ hb (heq ▸ hx)
    simpa using hne]
  rw [List.dropWhile_cons_of_neg (by simp)]

end Marked

/-! ### Forms -/

section Fields

variable [DecidableEq β] (c)

/-- A field: its name, a character that ends the name, and its value. -/
def field (equals : β) (f : List β × List α) : List β := f.1 ++ equals :: c.encode f.2

/-- Fields, one behind the other. -/
def fields (equals separator : β) (l : List (List β × List α)) : List β :=
  [separator].intercalate (l.map (c.field equals))

/-- What a field says. -/
def readField (equals : β) (t : List β) : Option (List β × List α) :=
  match t.dropWhile (· ≠ equals) with
  | [] => none
  | _ :: value => (c.decode value).map (t.takeWhile (· ≠ equals), ·)

/-- What the fields say. -/
def readFields (equals separator : β) (t : List β) : Option (List (List β × List α)) :=
  (t.splitOn separator).mapM (c.readField equals)

variable {c} {equals separator : β}

omit [DecidableEq β] in
/-- Every field but the first comes behind a separator. -/
theorem fields_cons (f : List β × List α) (l : List (List β × List α)) :
    c.fields equals separator (f :: l) =
      c.field equals f ++ l.flatMap fun g ↦ separator :: c.field equals g := by
  induction l generalizing f with
  | nil =>
    show [separator].intercalate [c.field equals f] = c.field equals f ++ []
    rw [List.intercalate_singleton, List.append_nil]
  | cons g l ih =>
    show [separator].intercalate (c.field equals f :: c.field equals g :: l.map (c.field equals)) = _
    rw [List.intercalate_cons_cons, List.append_assoc]
    show _ ++ ([separator] ++ c.fields equals separator (g :: l)) = _
    rw [ih g, List.flatMap_cons]
    rfl

theorem readField_field (h : c.read [] = none) {f : List β × List α} (hname : equals ∉ f.1) :
    c.readField equals (c.field equals f) = some f := by
  rw [readField, field, dropWhile_append_mark hname, takeWhile_append_mark hname]
  show (c.decode (c.encode f.2)).map _ = _
  rw [decode_encode h]
  rfl

/-- **Fields are read as they were written**, when the separator is in no name and in no word. -/
theorem readFields_fields (h : c.read [] = none) (hne : equals ≠ separator)
    (hword : ∀ a, separator ∉ c.write a) {l : List (List β × List α)} (hl : l ≠ [])
    (hnames : ∀ f ∈ l, equals ∉ f.1 ∧ separator ∉ f.1) :
    c.readFields equals separator (c.fields equals separator l) = some l := by
  have hfree : ∀ t ∈ l.map (c.field equals), separator ∉ t := by
    intro t ht
    obtain ⟨f, hf, rfl⟩ := List.mem_map.1 ht
    rw [field, List.mem_append, List.mem_cons]
    rintro (hmem | rfl | hmem)
    · exact (hnames f hf).2 hmem
    · exact hne rfl
    · exact notMem_encode hword f.2 hmem
  rw [readFields, fields, List.splitOn_intercalate _ hfree (by simpa using hl)]
  clear hl hfree
  induction l with
  | nil => rfl
  | cons f l ih =>
    have hrest := ih fun g hg ↦ hnames g (List.mem_cons_of_mem _ hg)
    rw [List.map_cons, List.mapM_cons, readField_field h (hnames f (List.mem_cons_self ..)).1, hrest]
    rfl

end Fields

end Code

end Escaping
