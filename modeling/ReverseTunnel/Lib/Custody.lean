import Mathlib.Data.List.Count

/-!
# Resources held one at a time

A history in which resources are taken and given back, read off its entries by two functions. `Holds`
says that the holder has at most one of them at hand: what was taken earlier has been given back exactly
once, what is at hand has not been given back, and nothing was given back that had not been taken.
-/

namespace Custody

variable {α β : Type} [DecidableEq β]

/-- After the history `l`, newest entry first, `held` is at hand and everything else is settled. -/
structure Holds (takes gives : α → Option β) (l : List α) (held : Option β) : Prop where
  /-- What is at hand was taken. -/
  taken : ∀ b ∈ held, b ∈ l.filterMap takes
  /-- What was given back was taken. -/
  given : ∀ b ∈ l.filterMap gives, b ∈ l.filterMap takes
  /-- Everything is given back exactly once, except what is at hand. -/
  balance : ∀ b ∈ l.filterMap takes,
    (l.filterMap gives).count b = if held = some b then 0 else 1

variable {takes gives : α → Option β} {l : List α} {held : Option β} {x : α} {b : β}

theorem holds_nil : Holds takes gives [] none :=
  ⟨by simp, by simp, by simp⟩

/-- An entry that neither takes nor gives. -/
theorem Holds.skip (h : Holds takes gives l held) (ht : takes x = none) (hg : gives x = none) :
    Holds takes gives (x :: l) held := by
  have htake : (x :: l).filterMap takes = l.filterMap takes := List.filterMap_cons_none ht
  have hgive : (x :: l).filterMap gives = l.filterMap gives := List.filterMap_cons_none hg
  refine ⟨?_, ?_, ?_⟩
  · rw [htake]
    exact h.taken
  · rw [htake, hgive]
    exact h.given
  · rw [htake, hgive]
    exact h.balance

/-- A fresh resource is taken. -/
theorem Holds.take (h : Holds takes gives l none) (ht : takes x = some b) (hg : gives x = none)
    (hfresh : b ∉ l.filterMap takes) : Holds takes gives (x :: l) (some b) := by
  have htake : (x :: l).filterMap takes = b :: l.filterMap takes := List.filterMap_cons_some ht
  have hgive : (x :: l).filterMap gives = l.filterMap gives := List.filterMap_cons_none hg
  refine ⟨?_, ?_, ?_⟩
  · rintro c hc
    obtain rfl := Option.some.inj hc
    rw [htake]
    exact List.mem_cons_self
  · intro c hc
    rw [hgive] at hc
    rw [htake]
    exact List.mem_cons_of_mem _ (h.given c hc)
  · intro c hc
    rw [htake] at hc
    rw [hgive]
    rcases List.mem_cons.1 hc with rfl | hc
    · rw [if_pos rfl]
      exact List.count_eq_zero.2 fun hmem ↦ hfresh (h.given c hmem)
    · have hne : (some b : Option β) ≠ some c := by
        rintro heq
        obtain rfl := Option.some.inj heq
        exact hfresh hc
      rw [if_neg hne, h.balance c hc, if_neg (by simp)]

/-- What is at hand is given back. -/
theorem Holds.give (h : Holds takes gives l (some b)) (ht : takes x = none) (hg : gives x = some b) :
    Holds takes gives (x :: l) none := by
  have htake : (x :: l).filterMap takes = l.filterMap takes := List.filterMap_cons_none ht
  have hgive : (x :: l).filterMap gives = b :: l.filterMap gives := List.filterMap_cons_some hg
  refine ⟨by simp, ?_, ?_⟩
  · intro c hc
    rw [hgive] at hc
    rw [htake]
    rcases List.mem_cons.1 hc with rfl | hc
    · exact h.taken c rfl
    · exact h.given c hc
  · intro c hc
    rw [htake] at hc
    rw [hgive, if_neg (by simp), List.count_cons, h.balance c hc]
    by_cases hcb : b = c
    · subst hcb
      simp
    · simp [hcb]

/-- With nothing at hand, everything that was taken has been given back. -/
theorem Holds.settled (h : Holds takes gives l none) (hb : b ∈ l.filterMap takes) :
    b ∈ l.filterMap gives := by
  have hone := h.balance b hb
  rw [if_neg (by simp)] at hone
  exact List.count_pos_iff.1 (by omega)

end Custody
