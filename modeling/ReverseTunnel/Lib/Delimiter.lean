import Mathlib.Data.List.Infix

/-!
# Texts that end at a delimiter

`cut d t` is what stands before the first occurrence of the word `d` in `t`, and what stands behind it.
A text can be followed by `d` and cut off again when `d` does not begin in it: it may not even begin
with its end (`cut_append`). When the first letter of `d` does not occur in the text, it cannot.
-/

namespace Delimiter

variable {β : Type} [DecidableEq β]

/-- Before and behind the first `d`. -/
def cut (d : List β) : List β → Option (List β × List β)
  | [] => if d = [] then some ([], []) else none
  | b :: t =>
    if d <+: b :: t then some ([], (b :: t).drop d.length)
    else (cut d t).map fun r ↦ (b :: r.1, r.2)

variable {d x rest : List β} {b : β}

theorem cut_of_prefix (h : d <+: rest) (hd : d ≠ []) : cut d rest = some ([], rest.drop d.length) := by
  rcases rest with - | ⟨b, rest⟩
  · exact absurd (List.prefix_nil.1 h) hd
  · rw [cut, if_pos h]

/-- **What was put before a delimiter is cut off at it**, unless the delimiter begins earlier. -/
theorem cut_append (hd : d ≠ []) (h : ¬ d <:+: x ++ d.dropLast) :
    cut d (x ++ (d ++ rest)) = some (x, rest) := by
  induction x with
  | nil =>
    rw [List.nil_append, cut_of_prefix (List.prefix_append d rest) hd, List.drop_left]
  | cons b x ih =>
    have hlater : ¬ d <:+: x ++ d.dropLast := fun hinfix ↦ h (List.infix_cons hinfix)
    have hnow : ¬ d <+: b :: (x ++ (d ++ rest)) := by
      intro hprefix
      -- There is room for `d` before the last letter of the delimiter.
      have hsplit : b :: (x ++ (d ++ rest)) =
          (b :: x ++ d.dropLast) ++ (d.drop (d.length - 1) ++ rest) := by
        rw [List.append_assoc, ← List.append_assoc d.dropLast, List.dropLast_eq_take,
          List.take_append_drop]
        rfl
      rw [hsplit] at hprefix
      have hlength : d.length ≤ (b :: x ++ d.dropLast).length := by
        rw [List.length_append, List.length_cons, List.length_dropLast]
        have hpos : 0 < d.length := List.length_pos_iff.2 hd
        omega
      exact h (List.prefix_of_prefix_length_le hprefix (List.prefix_append _ _) hlength).isInfix
    rw [List.cons_append, cut, if_neg hnow, ih hlater]
    rfl

omit [DecidableEq β] in
/-- A delimiter begins where its first letter is. -/
theorem not_infix_of_notMem (hb : b ∉ x) : ¬ b :: d <:+: x ++ (b :: d).dropLast := by
  rintro ⟨before, behind, heq⟩
  have hlength := congrArg List.length heq
  simp only [List.length_append, List.length_cons, List.length_dropLast] at hlength
  have hlt : before.length < x.length := by omega
  have hget := congrArg (·[before.length]?) heq
  simp only [List.append_assoc, List.cons_append] at hget
  rw [List.getElem?_append_right (Nat.le_refl _), Nat.sub_self, List.getElem?_cons_zero,
    List.getElem?_append_left hlt] at hget
  exact hb (List.mem_of_getElem? hget.symm)

theorem cut_append_of_notMem (hb : b ∉ x) :
    cut (b :: d) (x ++ (b :: d ++ rest)) = some (x, rest) :=
  cut_append (List.cons_ne_nil _ _) (not_infix_of_notMem hb)

end Delimiter
