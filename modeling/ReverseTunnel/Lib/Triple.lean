import ReverseTunnel.Lib.Traced

/-!
# Weakest preconditions and invariants of traced programs

`wp m Q w`: started in the world `w`, in **every** environment, `m` ends with a value and a world
satisfying `Q`. Programs are total, so this is total correctness.

The rules below never mention the environment. A call is answered by *some* reply at *some* later
time (`wp_call_bind`), a clock sample is *some* later time (`wp_tick_bind`), so a proof that goes
through the rules has considered every environment. Applied to a goal they execute a program step by
step, with the world written out.

`Triple P m Q` is the same for every world satisfying `P`, and `Preserves I m` the case where one
assertion holds before and after; the loops of the library preserve what their bodies preserve.
-/

namespace Traced

variable {σ τ C C' L L' α β γ : Type} {R : C → Type}

/-- Assertions about a world. -/
abbrev Assertion (σ C : Type) (R : C → Type) (L : Type) := World σ C R L → Prop

/-- From `w`, whatever the environment does, `m` ends in `Q`. -/
def wp (m : Prog σ C R L α) (Q : α → Assertion σ C R L) (w : World σ C R L) : Prop :=
  ∀ e, Q (m.run e w).1 (m.run e w).2

/-! ### Executing a program -/

section Rules

variable {m : Prog σ C R L α} {Q Q' : α → Assertion σ C R L} {w : World σ C R L}

theorem wp_mono (h : wp m Q w) (hQ : ∀ a w', Q a w' → Q' a w') : wp m Q' w :=
  fun e ↦ hQ _ _ (h e)

theorem wp_and (h : wp m Q w) (h' : wp m Q' w) : wp m (fun a w' ↦ Q a w' ∧ Q' a w') w :=
  fun e ↦ ⟨h e, h' e⟩

/-- Nothing runs backwards. -/
theorem wp_forward (h : wp m Q w) :
    wp m (fun a w' ↦ Q a w' ∧ w.clock ≤ w'.clock ∧ w.serial ≤ w'.serial) w :=
  fun e ↦ ⟨h e, m.clock_le e _, m.serial_le e _⟩

theorem wp_pure {a : α} (h : Q a w) : wp (pure a) Q w :=
  fun _ ↦ h

theorem wp_bind {k : Prog σ C R L β} {f : β → Prog σ C R L α}
    (h : wp k (fun b w' ↦ wp (f b) Q w') w) : wp (k >>= f) Q w := by
  intro e
  rw [Prog.run_bind]
  exact h e e

@[simp] theorem wp_bind_assoc {k : Prog σ C R L β} {g : β → Prog σ C R L γ}
    {f : γ → Prog σ C R L α} : wp (k >>= g >>= f) Q w ↔ wp (k >>= fun b ↦ g b >>= f) Q w := by
  simp only [wp, Prog.run_bind]

@[simp] theorem wp_pure_bind {b : β} {f : β → Prog σ C R L α} :
    wp (pure b >>= f) Q w ↔ wp (f b) Q w := by
  simp only [wp, Prog.run_bind, Prog.run_pure]

@[simp] theorem wp_get_bind {f : σ → Prog σ C R L α} :
    wp (Prog.get >>= f) Q w ↔ wp (f w.st) Q w := by
  simp only [wp, Prog.run_bind, Prog.run_get]

@[simp] theorem wp_modify_bind {g : σ → σ} {f : Unit → Prog σ C R L α} :
    wp (Prog.modify g >>= f) Q w ↔ wp (f ()) Q (w.update g) := by
  simp only [wp, Prog.run_bind, Prog.run_modify]

@[simp] theorem wp_mark_bind {l : L} {f : Unit → Prog σ C R L α} :
    wp (Prog.mark l >>= f) Q w ↔ wp (f ()) Q (w.marked l) := by
  simp only [wp, Prog.run_bind, Prog.run_mark]

theorem wp_modify {g : σ → σ} {Q : Unit → Assertion σ C R L} (h : Q () (w.update g)) :
    wp (Prog.modify g) Q w :=
  fun _ ↦ h

theorem wp_mark {l : L} {Q : Unit → Assertion σ C R L} (h : Q () (w.marked l)) :
    wp (Prog.mark l) Q w :=
  fun _ ↦ h

theorem wp_callId {c : C} {Q : ℕ × R c → Assertion σ C R L}
    (h : ∀ r t, w.clock ≤ t → Q (w.serial, r) (w.after c r t)) : wp (Prog.callId c) Q w :=
  fun e ↦ h (e.reply w.serial c) _ (Nat.le_add_right _ _)

theorem wp_call {c : C} {Q : R c → Assertion σ C R L}
    (h : ∀ r t, w.clock ≤ t → Q r (w.after c r t)) : wp (Prog.call c) Q w :=
  wp_bind (wp_callId fun r t ht ↦ wp_pure (h r t ht))

theorem wp_tick {Q : ℕ → Assertion σ C R L} (h : ∀ t, w.clock ≤ t → Q t (w.wait t)) :
    wp Prog.tick Q w :=
  fun _ ↦ h _ (Nat.le_add_right _ _)

theorem wp_choose {Q : ℕ → Assertion σ C R L} (h : ∀ n, Q n (w.wait w.clock)) :
    wp Prog.choose Q w :=
  fun _ ↦ h _

theorem wp_callId_bind {c : C} {f : ℕ × R c → Prog σ C R L α}
    (h : ∀ r t, w.clock ≤ t → wp (f (w.serial, r)) Q (w.after c r t)) :
    wp (Prog.callId c >>= f) Q w :=
  wp_bind (wp_callId h)

theorem wp_call_bind {c : C} {f : R c → Prog σ C R L α}
    (h : ∀ r t, w.clock ≤ t → wp (f r) Q (w.after c r t)) : wp (Prog.call c >>= f) Q w :=
  wp_bind (wp_call h)

theorem wp_tick_bind {f : ℕ → Prog σ C R L α} (h : ∀ t, w.clock ≤ t → wp (f t) Q (w.wait t)) :
    wp (Prog.tick >>= f) Q w :=
  wp_bind (wp_tick h)

theorem wp_choose_bind {f : ℕ → Prog σ C R L α} (h : ∀ n, wp (f n) Q (w.wait w.clock)) :
    wp (Prog.choose >>= f) Q w :=
  wp_bind (wp_choose h)

theorem wp_ite {b : Prop} [Decidable b] {m' : Prog σ C R L α} (h : b → wp m Q w)
    (h' : ¬b → wp m' Q w) : wp (if b then m else m') Q w := by
  split
  · exact h ‹_›
  · exact h' ‹_›

theorem wp_when {b : Bool} {m : Prog σ C R L Unit} {Q : Unit → Assertion σ C R L}
    (h : b = true → wp m Q w) (h' : b = false → Q () w) : wp (Prog.when b m) Q w := by
  cases b with
  | true => exact h rfl
  | false => exact wp_pure (h' rfl)

/-- A bounded loop: `I` holds at the start of every round, `J` at the end of every round. -/
theorem wp_attempts {n : ℕ} {m : Prog σ C R L Bool} {I J : Assertion σ C R L}
    (hIJ : ∀ w, I w → J w)
    (hm : ∀ w, I w → wp m (fun again w' ↦ J w' ∧ (again = true → I w')) w) (hw : I w) :
    wp (Prog.attempts n m) (fun _ ↦ J) w := by
  induction n generalizing w with
  | zero => exact wp_pure (hIJ w hw)
  | succ n ih =>
    refine wp_bind (wp_mono (hm w hw) fun again w' h ↦ ?_)
    exact wp_ite (fun hagain ↦ ih (h.2 hagain)) fun _ ↦ wp_pure h.1

/-- A program for a part of the state is executed on its own, with an empty trace; what it produced
is then put in front of the trace of the whole. -/
theorem wp_zoom {get : σ → τ} {put : τ → σ → σ} {f : C' → C} {g : L' → L}
    {m : Prog τ C' (fun c ↦ R (f c)) L' α}
    (h : wp m (fun a l ↦ Q a ⟨⟨put l.st w.st, l.clock, l.serial⟩,
      l.trace.map (Item.map (fun x ↦ put x w.st) f g) ++ w.trace⟩)
      ⟨⟨get w.st, w.clock, w.serial⟩, []⟩) :
    wp (Prog.zoom get put f g m) Q w := by
  intro e
  have := h ⟨fun n c ↦ e.reply n (f c), e.elapse, e.choice⟩
  simpa only [Prog.run, Prog.zoom, List.append_nil] using this

end Rules

/-! ### Triples -/

/-- `m` takes every world satisfying `P` to one satisfying `Q`, whatever the environment does. -/
def Triple (P : Assertion σ C R L) (m : Prog σ C R L α) (Q : α → Assertion σ C R L) : Prop :=
  ∀ w, P w → wp m Q w

/-- `m` keeps `I`. -/
abbrev Preserves (I : Assertion σ C R L) (m : Prog σ C R L α) : Prop := Triple I m fun _ ↦ I

namespace Triple

variable {P P' : Assertion σ C R L} {Q Q' : α → Assertion σ C R L} {m : Prog σ C R L α}

theorem mono (h : Triple P m Q) (hP : ∀ w, P' w → P w) (hQ : ∀ a w, Q a w → Q' a w) :
    Triple P' m Q' :=
  fun w hw ↦ wp_mono (h w (hP w hw)) hQ

theorem pre (h : Triple P m Q) (hP : ∀ w, P' w → P w) : Triple P' m Q :=
  h.mono hP fun _ _ hq ↦ hq

theorem bind {S : β → Assertion σ C R L} {k : Prog σ C R L β} {f : β → Prog σ C R L α}
    (hk : Triple P k S) (hf : ∀ b, Triple (S b) (f b) Q) : Triple P (k >>= f) Q :=
  fun w hw ↦ wp_bind (wp_mono (hk w hw) fun b w' hb ↦ hf b w' hb)

theorem ret {a : α} (h : ∀ w, P w → Q a w) : Triple P (pure a) Q :=
  fun w hw ↦ wp_pure (h w hw)

/-- The loop rule of `each`: `I l` holds when `l` is what remains to be visited. -/
theorem each {l : List β} {f : β → Prog σ C R L Unit} {I : List β → Assertion σ C R L}
    (h : ∀ b l', b :: l' <:+ l → Triple (I (b :: l')) (f b) fun _ ↦ I l') :
    Triple (I l) (Prog.each l f) fun _ ↦ I [] := by
  induction l with
  | nil => exact ret fun _ hw ↦ hw
  | cons b l ih =>
    refine bind (h b l (List.suffix_refl _)) fun _ ↦ ih fun b' l' hs ↦ h b' l' ?_
    exact hs.trans (List.suffix_cons b l)

/-- The loop rule of `fold`. -/
theorem fold {l : List β} {a : γ} {f : γ → β → Prog σ C R L γ}
    {I : List β → γ → Assertion σ C R L}
    (h : ∀ b l' a, b :: l' <:+ l → Triple (I (b :: l') a) (f a b) fun a' ↦ I l' a') :
    Triple (I l a) (Prog.fold l a f) fun a' ↦ I [] a' := by
  induction l generalizing a with
  | nil => exact ret fun _ hw ↦ hw
  | cons b l ih =>
    refine bind (h b l a (List.suffix_refl _)) fun a' ↦ ih fun b' l' a'' hs ↦ h b' l' a'' ?_
    exact hs.trans (List.suffix_cons b l)

end Triple

namespace Preserves

variable {I : Assertion σ C R L} {m : Prog σ C R L α}

theorem bind {f : α → Prog σ C R L β} (hm : Preserves I m) (hf : ∀ a, Preserves I (f a)) :
    Preserves I (m >>= f) :=
  Triple.bind hm hf

theorem ret {a : α} : Preserves I (pure a : Prog σ C R L α) :=
  Triple.ret fun _ hw ↦ hw

theorem get_bind {f : σ → Prog σ C R L α} (hf : ∀ s, Preserves I (f s)) :
    Preserves I (Prog.get >>= f) :=
  fun w hw ↦ wp_get_bind.2 (hf w.st w hw)

theorem ite {b : Prop} [Decidable b] {m' : Prog σ C R L α} (h : Preserves I m)
    (h' : Preserves I m') : Preserves I (if b then m else m') :=
  fun w hw ↦ wp_ite (fun _ ↦ h w hw) fun _ ↦ h' w hw

theorem when {b : Bool} {m : Prog σ C R L Unit} (h : Preserves I m) :
    Preserves I (Prog.when b m) :=
  fun w hw ↦ wp_when (fun _ ↦ h w hw) fun _ ↦ hw

theorem each {l : List β} {f : β → Prog σ C R L Unit} (h : ∀ b ∈ l, Preserves I (f b)) :
    Preserves I (Prog.each l f) :=
  Triple.each (I := fun _ ↦ I) fun b _ hs ↦ h b (hs.subset (List.mem_cons_self ..))

theorem fold {l : List β} {a : γ} {f : γ → β → Prog σ C R L γ}
    (h : ∀ a, ∀ b ∈ l, Preserves I (f a b)) : Preserves I (Prog.fold l a f) :=
  Triple.fold (I := fun _ _ ↦ I) fun b _ a hs ↦ h a b (hs.subset (List.mem_cons_self ..))

theorem attempts {n : ℕ} {m : Prog σ C R L Bool} (h : Preserves I m) :
    Preserves I (Prog.attempts n m) := by
  induction n with
  | zero => exact ret
  | succ n ih => exact h.bind fun _ ↦ ite ih ret

end Preserves

end Traced
