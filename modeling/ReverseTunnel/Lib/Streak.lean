import Mathlib.Data.List.Basic

/-!
# Strikes in a row

Something is watched through single observations. One may be a **strike** against it, one may **clear**
it of all strikes so far, and one may say nothing about it. A counter that goes up at every strike and
back to zero whenever it is cleared holds `strikes`, and it has reached `n` exactly when there is a
stretch of the history with `n` strikes in it and nothing that clears them.

Histories are lists with the newest observation first.
-/

namespace Streak

variable {α : Type}

/-- What an observation says. -/
inductive Observation where
  /-- Something is wrong. -/
  | strike
  /-- Nothing. -/
  | silent
  /-- All is well. -/
  | clear
  deriving DecidableEq

/-- The strikes since the last observation that cleared them. -/
def strikes (judge : α → Observation) : List α → ℕ
  | [] => 0
  | x :: past =>
    match judge x with
    | .strike => strikes judge past + 1
    | .silent => strikes judge past
    | .clear => 0

/-- The history ends with a stretch that has `n` strikes in it and nothing that clears them. -/
def InARow (judge : α → Observation) (n : ℕ) (l : List α) : Prop :=
  ∃ recent older, l = recent ++ older ∧ (∀ x ∈ recent, judge x ≠ .clear) ∧
    recent.countP (fun x ↦ decide (judge x = .strike)) = n

variable {judge : α → Observation} {x : α} {l : List α}

theorem strikes_strike (h : judge x = .strike) :
    strikes judge (x :: l) = strikes judge l + 1 := by
  rw [strikes, h]

theorem strikes_silent (h : judge x = .silent) : strikes judge (x :: l) = strikes judge l := by
  rw [strikes, h]

theorem strikes_clear (h : judge x = .clear) : strikes judge (x :: l) = 0 := by
  rw [strikes, h]

/-- Observations that say nothing may be put in front. -/
theorem strikes_append {newer : List α} (h : ∀ x ∈ newer, judge x = .silent) :
    strikes judge (newer ++ l) = strikes judge l := by
  induction newer with
  | nil => rfl
  | cons x newer ih =>
    rw [List.cons_append, strikes_silent (h x (List.mem_cons_self ..)),
      ih fun y hy ↦ h y (List.mem_cons_of_mem _ hy)]

theorem countP_le_strikes {recent : List α} (h : ∀ x ∈ recent, judge x ≠ .clear) :
    recent.countP (fun x ↦ decide (judge x = .strike)) ≤ strikes judge (recent ++ l) := by
  induction recent with
  | nil => exact Nat.zero_le _
  | cons x recent ih =>
    have ih := ih fun y hy ↦ h y (List.mem_cons_of_mem _ hy)
    rw [List.cons_append]
    cases hx : judge x with
    | strike =>
      rw [strikes_strike hx, List.countP_cons_of_pos (by simpa using hx)]
      exact Nat.succ_le_succ ih
    | silent =>
      rw [strikes_silent hx, List.countP_cons_of_neg (by simp [hx])]
      exact ih
    | clear => exact absurd hx (h x (List.mem_cons_self ..))

theorem inARow_of_le {n : ℕ} (h : n ≤ strikes judge l) : InARow judge n l := by
  induction l generalizing n with
  | nil =>
    obtain rfl : n = 0 := Nat.le_zero.1 h
    exact ⟨[], [], rfl, by simp, rfl⟩
  | cons x l ih =>
    rcases n with - | n
    · exact ⟨[], x :: l, rfl, by simp, rfl⟩
    · cases hx : judge x with
      | strike =>
        rw [strikes_strike hx] at h
        obtain ⟨recent, older, rfl, hclear, hcount⟩ := ih (Nat.le_of_succ_le_succ h)
        refine ⟨x :: recent, older, rfl, ?_, ?_⟩
        · exact List.forall_mem_cons.2 ⟨by simp [hx], hclear⟩
        · rw [List.countP_cons_of_pos (by simpa using hx), hcount]
      | silent =>
        rw [strikes_silent hx] at h
        obtain ⟨recent, older, rfl, hclear, hcount⟩ := ih h
        refine ⟨x :: recent, older, rfl, ?_, ?_⟩
        · exact List.forall_mem_cons.2 ⟨by simp [hx], hclear⟩
        · rw [List.countP_cons_of_neg (by simp [hx]), hcount]
      | clear =>
        rw [strikes_clear hx] at h
        omega

/-- **The counter tells**: it has reached `n` exactly when there are `n` strikes in a row. -/
theorem inARow_iff {n : ℕ} : InARow judge n l ↔ n ≤ strikes judge l := by
  refine ⟨?_, inARow_of_le⟩
  rintro ⟨recent, older, rfl, hclear, rfl⟩
  exact countP_le_strikes hclear

end Streak
