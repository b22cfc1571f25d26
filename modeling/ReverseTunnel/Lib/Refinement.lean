import Mathlib.Data.List.Basic

/-!
# Refinement of systems that answer

A system takes operations and answers them; what it answers and where it goes need not be determined.
One system **refines** another when every step it takes is, seen through an abstraction of its states,
a step of the other with the same answer. Then the same is true of whole runs, so nobody who only sees
operations and answers can tell that the abstract system is not there.
-/

namespace Refinement

/-- Operations, answers and the steps between states. -/
structure System (Op Ans State : Type) where
  /-- In this state this operation can be answered so, leading to that state. -/
  step : State → Op → Ans → State → Prop

variable {Op Ans S T : Type}

/-- From one state to another, with these operations and answers, **latest first**. -/
inductive System.Run (A : System Op Ans S) (s : S) : List (Op × Ans) → S → Prop
  /-- Nothing done. -/
  | refl : Run A s [] s
  /-- One more operation. -/
  | step {l : List (Op × Ans)} {t u : S} {op : Op} {ans : Ans} (h : Run A s l t)
      (hs : A.step t op ans u) : Run A s ((op, ans) :: l) u

/-- One run behind the other. -/
theorem System.Run.append {A : System Op Ans S} {s t u : S} {older newer : List (Op × Ans)}
    (h : A.Run s older t) (h' : A.Run t newer u) : A.Run s (newer ++ older) u := by
  induction h' with
  | refl => exact h
  | step _ hstep ih => exact ih.step hstep

/-- A run has a first part. -/
theorem System.Run.split {A : System Op Ans S} {s u : S} {older newer : List (Op × Ans)}
    (h : A.Run s (newer ++ older) u) : ∃ t, A.Run s older t ∧ A.Run t newer u := by
  induction newer generalizing u with
  | nil => exact ⟨u, h, .refl⟩
  | cons x newer ih =>
    cases h with
    | step hrun hstep =>
      obtain ⟨t, holder, hnewer⟩ := ih hrun
      exact ⟨t, holder, hnewer.step hstep⟩

/-- A system whose steps can be computed, and of which not every operation is always possible. -/
def System.computed (step : S → Op → Option (Ans × S)) : System Op Ans S where
  step s op ans s' := step s op = some (ans, s')

section Computed

variable {step : S → Op → Option (Ans × S)} {s : S}

/-- What comes of these operations, first one first, behind the run `l`. -/
def trace (step : S → Op → Option (Ans × S)) (l : List (Op × Ans)) (s : S) :
    List Op → Option (List (Op × Ans) × S)
  | [] => some (l, s)
  | op :: ops => (step s op).bind fun r ↦ trace step ((op, r.1) :: l) r.2 ops

/-- The same, when all of them are possible. -/
def outcome (step : S → Op → Option (Ans × S)) (s : S) (ops : List Op) : List (Op × Ans) × S :=
  (trace step [] s ops).getD ([], s)

theorem run_of_trace {l l' : List (Op × Ans)} {t u : S} {ops : List Op}
    (h : (System.computed step).Run s l t) (htrace : trace step l t ops = some (l', u)) :
    (System.computed step).Run s l' u := by
  induction ops generalizing l t with
  | nil =>
    obtain ⟨rfl, rfl⟩ := Prod.mk.inj (Option.some.inj htrace)
    exact h
  | cons op ops ih =>
    obtain ⟨⟨ans, v⟩, hstep, hrest⟩ := Option.bind_eq_some_iff.1 htrace
    exact ih (h.step hstep) hrest

/-- Operations that are possible are a run. -/
theorem run_outcome {ops : List Op} (h : (trace step [] s ops).isSome = true) :
    (System.computed step).Run s (outcome step s ops).1 (outcome step s ops).2 := by
  obtain ⟨⟨l, t⟩, htrace⟩ := Option.isSome_iff_exists.1 h
  rw [outcome, htrace]
  exact run_of_trace .refl htrace

end Computed

/-- Steps of `C` are steps of `A`, from states that satisfy an invariant of `C`. -/
structure Simulation (C : System Op Ans S) (A : System Op Ans T) where
  /-- What a state stands for. -/
  abs : S → T
  /-- The states that occur. -/
  inv : S → Prop
  /-- They are not left. -/
  keeps : ∀ {s op ans s'}, inv s → C.step s op ans s' → inv s'
  /-- A step is a step. -/
  step : ∀ {s op ans s'}, inv s → C.step s op ans s' → A.step (abs s) op ans (abs s')

/-- Runs of `C` are runs of `A`, and end where the invariant holds. -/
theorem Simulation.run {C : System Op Ans S} {A : System Op Ans T} (sim : Simulation C A) {s s' : S}
    {l : List (Op × Ans)} (hs : sim.inv s) (h : C.Run s l s') :
    sim.inv s' ∧ A.Run (sim.abs s) l (sim.abs s') := by
  induction h with
  | refl => exact ⟨hs, .refl⟩
  | step _ hstep ih =>
    obtain ⟨hinv, hrun⟩ := ih
    exact ⟨sim.keeps hinv hstep, hrun.step (sim.step hinv hstep)⟩

end Refinement
