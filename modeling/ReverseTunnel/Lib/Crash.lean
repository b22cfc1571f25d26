import ReverseTunnel.Lib.Triple

/-!
# Programs that may be cut short

A program can lose its power between any two of its calls. What is left then is the state it was in and
the trace of what it had done, and nothing is returned. `Halts m w r s done` says that `m`, started in
`w`, may come to rest with the state `s` after doing `done`; `r` is the value it returned, or `none` when
it was **cut short**.

`wpc m Q K w` is `wp m Q w` together with `K` for all the places where `m` can be cut. Its rules execute
a program as those of `wp` do, and ask for `K` once before every call.
-/

namespace Traced

variable {σ C L α β γ : Type} {R : C → Type}

/-- What is left when the power is lost. -/
abbrev CrashCondition (σ C : Type) (R : C → Type) (L : Type) := σ → Trace σ C R L → Prop

/-- `m` may come to rest like this. -/
inductive Halts (m : Prog σ C R L α) (w : World σ C R L) :
    Option α → σ → Trace σ C R L → Prop where
  /-- It returns. -/
  | returned (e : Env C R) : Halts m w (some (m.run e w).1) (m.exec e w).st (m.exec e w).trace
  /-- The power is lost before a call, or at a mark. -/
  | cut (e : Env C R) (x : Item σ C R L) (past : Trace σ C R L)
      (hx : x :: past <:+ (m.act e w.toMachine).out) : Halts m w none x.pre (past ++ w.trace)

/-- What is returned was returned by a run. -/
theorem Halts.exists_run {m : Prog σ C R L α} {w : World σ C R L} {a : α} {s : σ}
    {done : Trace σ C R L} (h : Halts m w (some a) s done) :
    ∃ e, (m.run e w).1 = a ∧ (m.exec e w).st = s ∧ (m.exec e w).trace = done := by
  generalize hr : some a = r at h
  cases h with
  | returned e => exact ⟨e, (Option.some.inj hr).symm, rfl, rfl⟩
  | cut e x past hx => cases hr

/-- From `w`, whatever the environment does, `m` ends in `Q`, and where it can be cut short `K`
holds. -/
def wpc (m : Prog σ C R L α) (Q : α → Assertion σ C R L) (K : CrashCondition σ C R L)
    (w : World σ C R L) : Prop :=
  ∀ e, Q (m.run e w).1 (m.run e w).2 ∧
    ∀ x past, x :: past <:+ (m.act e w.toMachine).out → K x.pre (past ++ w.trace)

/-- What `wpc` shows is how a program can come to rest. -/
theorem wpc_iff {m : Prog σ C R L α} {w : World σ C R L}
    {P : Option α → σ → Trace σ C R L → Prop} :
    wpc m (fun a w' ↦ P (some a) w'.st w'.trace) (P none) w ↔
      ∀ r s done, Halts m w r s done → P r s done := by
  constructor
  · intro h r s done hhalts
    cases hhalts with
    | returned e => exact (h e).1
    | cut e x past hx => exact (h e).2 x past hx
  · intro h e
    exact ⟨h _ _ _ (.returned e), fun x past hx ↦ h _ _ _ (.cut e x past hx)⟩

section Rules

variable {m : Prog σ C R L α} {Q Q' : α → Assertion σ C R L} {K : CrashCondition σ C R L}
  {w : World σ C R L}

theorem wpc.wp (h : wpc m Q K w) : wp m Q w :=
  fun e ↦ (h e).1

theorem wpc_mono {K' : CrashCondition σ C R L} (h : wpc m Q K w) (hQ : ∀ a w', Q a w' → Q' a w')
    (hK : ∀ s done, K s done → K' s done) : wpc m Q' K' w :=
  fun e ↦ ⟨hQ _ _ (h e).1, fun x past hx ↦ hK _ _ ((h e).2 x past hx)⟩

/-- A place in what two programs did one after the other is in what one of them did. -/
theorem suffix_append_cases {x : γ} {past l l' : List γ} (h : x :: past <:+ l' ++ l) :
    x :: past <:+ l ∨ ∃ past', past = past' ++ l ∧ x :: past' <:+ l' := by
  induction l' with
  | nil => exact .inl h
  | cons y l' ih =>
    rcases List.suffix_cons_iff.1 h with heq | h
    · obtain ⟨rfl, rfl⟩ := List.cons.inj heq
      exact .inr ⟨l', rfl, List.suffix_refl _⟩
    · rcases ih h with hl | ⟨past', hpast, hl'⟩
      · exact .inl hl
      · exact .inr ⟨past', hpast, hl'.trans (List.suffix_cons y l')⟩

theorem wpc_pure {a : α} (h : Q a w) : wpc (pure a) Q K w := by
  intro e
  refine ⟨h, ?_⟩
  intro x past hx
  exact absurd (List.suffix_nil.1 hx) (List.cons_ne_nil _ _)

theorem wpc_bind {k : Prog σ C R L β} {f : β → Prog σ C R L α}
    (h : wpc k (fun b w' ↦ wpc (f b) Q K w') K w) : wpc (k >>= f) Q K w := by
  intro e
  obtain ⟨hf, hk⟩ := h e
  obtain ⟨hQ, hK⟩ := hf e
  refine ⟨?_, ?_⟩
  · rw [Prog.run_bind]
    exact hQ
  · intro x past hx
    rcases suffix_append_cases hx with hx | ⟨past', rfl, hx'⟩
    · exact hk x past hx
    · rw [List.append_assoc]
      exact hK x past' hx'

theorem wpc_get_bind {f : σ → Prog σ C R L α} (h : wpc (f w.st) Q K w) :
    wpc (Prog.get >>= f) Q K w :=
  wpc_bind fun _ ↦ ⟨h, fun _ _ hx ↦ absurd (List.suffix_nil.1 hx) (List.cons_ne_nil _ _)⟩

theorem wpc_modify {g : σ → σ} {Q : Unit → Assertion σ C R L} (h : Q () (w.update g)) :
    wpc (Prog.modify g) Q K w :=
  fun _ ↦ ⟨h, fun _ _ hx ↦ absurd (List.suffix_nil.1 hx) (List.cons_ne_nil _ _)⟩

theorem wpc_modify_bind {g : σ → σ} {f : Unit → Prog σ C R L α}
    (h : wpc (f ()) Q K (w.update g)) : wpc (Prog.modify g >>= f) Q K w :=
  wpc_bind (wpc_modify h)

/-- What no more items can undo is not undone. -/
theorem wpc_of_trace {P : Trace σ C R L → Prop} (h : ∀ past, P (past ++ w.trace))
    (hQ : ∀ a w', P w'.trace → Q a w') (hK : ∀ s done, P done → K s done) : wpc m Q K w :=
  fun _ ↦ ⟨hQ _ _ (h _), fun _ past _ ↦ hK _ _ (h past)⟩

/-- What is shown without regard to cuts holds besides. -/
theorem wpc.and_wp (h : wpc m Q K w) (h' : Traced.wp m Q' w) :
    wpc m (fun a w' ↦ Q a w' ∧ Q' a w') K w :=
  fun e ↦ ⟨⟨(h e).1, h' e⟩, (h e).2⟩

/-- The power can be lost before the call is made. -/
theorem wpc_call {c : C} {Q : R c → Assertion σ C R L} (hK : K w.st w.trace)
    (h : ∀ r t, w.clock ≤ t → Q r (w.after c r t)) : wpc (Prog.call c) Q K w := by
  intro e
  refine ⟨h _ _ (Nat.le_add_right _ _), ?_⟩
  intro x past hx
  obtain ⟨rfl, rfl⟩ : x = .call w.serial (w.clock + e.elapse w.serial) w.st c
      (e.reply w.serial c) ∧ past = [] := by
    rcases List.suffix_cons_iff.1 hx with heq | hnil
    · exact List.cons.inj heq
    · exact absurd (List.suffix_nil.1 hnil) (List.cons_ne_nil _ _)
  exact hK

theorem wpc_call_bind {c : C} {f : R c → Prog σ C R L α} (hK : K w.st w.trace)
    (h : ∀ r t, w.clock ≤ t → wpc (f r) Q K (w.after c r t)) : wpc (Prog.call c >>= f) Q K w :=
  wpc_bind (wpc_call hK h)

theorem wpc_ite {b : Prop} [Decidable b] {m' : Prog σ C R L α} (h : b → wpc m Q K w)
    (h' : ¬b → wpc m' Q K w) : wpc (if b then m else m') Q K w := by
  split
  · exact h ‹_›
  · exact h' ‹_›

end Rules

end Traced
