import ReverseTunnel.Lib.Triple

/-!
# Loops without a counter

`while (m())` runs a program again as long as it returns `true`. Nothing bounds such a loop, so it is
not a `Prog`; what there always is are its **rounds**. The loop ends with round `k` when `k` is the
first round that returns `false`.

A measure that every round which goes on brings down ends the loop, and bounds the number of its
rounds. A loop that ends is the bounded loop `attempts n` for every `n` that leaves it the rounds it
needs.

A loop that carries a value, `while (b = f(b))`, is followed in one environment: `LoopEnds` lists its
rounds, each with the value it begins with, and is derivable exactly when the loop ends.
-/

namespace Traced

variable {σ τ C C' L L' α β : Type} {R : C → Type}

namespace Prog

variable {m : Prog σ C R L Bool} {e : Env C R} {w : World σ C R L}

/-- The world in which round `k` of `while (m())` begins, if the loop gets there. -/
def roundStart (m : Prog σ C R L Bool) (e : Env C R) (w : World σ C R L) : ℕ → World σ C R L
  | 0 => w
  | k + 1 => m.exec e (m.roundStart e w k)

/-- What round `k` returns: whether to go on. -/
def goesOn (m : Prog σ C R L Bool) (e : Env C R) (w : World σ C R L) (k : ℕ) : Bool :=
  (m.run e (m.roundStart e w k)).1

/-- `while (m())`, started in `w`, ends with round `k`. -/
structure EndsWith (m : Prog σ C R L Bool) (e : Env C R) (w : World σ C R L) (k : ℕ) : Prop where
  /-- All rounds before go on. -/
  before : ∀ j < k, m.goesOn e w j = true
  /-- This one does not. -/
  last : m.goesOn e w k = false

@[simp] theorem roundStart_zero : m.roundStart e w 0 = w := rfl

/-- The rounds after the first are the rounds of a loop started after the first. -/
theorem roundStart_exec (k : ℕ) :
    m.roundStart e (m.exec e w) k = m.roundStart e w (k + 1) := by
  induction k with
  | zero => rfl
  | succ k ih =>
    show m.exec e (m.roundStart e (m.exec e w) k) = m.exec e (m.roundStart e w (k + 1))
    rw [ih]

theorem goesOn_exec (k : ℕ) : m.goesOn e (m.exec e w) k = m.goesOn e w (k + 1) := by
  rw [goesOn, roundStart_exec, goesOn]

/-- **A measure ends the loop.** Every round that goes on brings `μ` down, so there are at most
`μ w + 1` of them. -/
theorem exists_endsWith {μ : World σ C R L → ℕ}
    (hμ : ∀ w, wp m (fun again w' ↦ again = true → μ w' < μ w) w) (e : Env C R)
    (w : World σ C R L) : ∃ k ≤ μ w, m.EndsWith e w k := by
  induction h : μ w using Nat.strongRecOn generalizing w with
  | _ n ih =>
    rcases hgo : m.goesOn e w 0 with - | -
    · exact ⟨0, Nat.zero_le _, fun j hj ↦ absurd hj (Nat.not_lt_zero j), hgo⟩
    · have hlt : μ (m.exec e w) < n := h ▸ hμ w e hgo
      obtain ⟨k, hk, hend⟩ := ih _ hlt (m.exec e w) rfl
      refine ⟨k + 1, by omega, fun j hj ↦ ?_, ?_⟩
      · rcases j with - | j
        · exact hgo
        · rw [← goesOn_exec]
          exact hend.before j (by omega)
      · rw [← goesOn_exec]
        exact hend.last

/-- The bounded loop is the loop, if it is given the rounds. -/
theorem EndsWith.exec_attempts {k n : ℕ} (h : m.EndsWith e w k) (hk : k < n) :
    (attempts n m).exec e w = m.roundStart e w (k + 1) := by
  induction k generalizing n w with
  | zero =>
    obtain ⟨n, rfl⟩ : ∃ n', n = n' + 1 := ⟨n - 1, by omega⟩
    have hlast : (m.run e w).1 = false := h.last
    rw [attempts, exec_bind, hlast]
    rfl
  | succ k ih =>
    obtain ⟨n, rfl⟩ : ∃ n', n = n' + 1 := ⟨n - 1, by omega⟩
    have hfirst : (m.run e w).1 = true := h.before 0 (Nat.succ_pos k)
    have hrest : m.EndsWith e (m.exec e w) k :=
      ⟨fun j hj ↦ by rw [goesOn_exec]; exact h.before (j + 1) (by omega),
        by rw [goesOn_exec]; exact h.last⟩
    rw [attempts, exec_bind, hfirst, ← roundStart_exec]
    exact ih hrest (by omega)

end Prog

/-! ### One environment -/

section OneEnvironment

variable {e : Env C R} {m : Prog σ C R L α} {Q Q' : α → Assertion σ C R L} {w : World σ C R L}

/-- In the environment `e`, `m` ends in `Q`. -/
def wpIn (e : Env C R) (m : Prog σ C R L α) (Q : α → Assertion σ C R L) (w : World σ C R L) : Prop :=
  Q (m.run e w).1 (m.run e w).2

/-- What holds in every environment holds in this one. -/
theorem wp.wpIn (h : wp m Q w) (e : Env C R) : wpIn e m Q w := h e

theorem wpIn_mono (h : wpIn e m Q w) (hQ : ∀ a w', Q a w' → Q' a w') : wpIn e m Q' w :=
  hQ _ _ h

theorem wpIn_bind {k : Prog σ C R L β} {f : β → Prog σ C R L α}
    (h : wpIn e k (fun b w' ↦ wpIn e (f b) Q w') w) : wpIn e (k >>= f) Q w := by
  rw [wpIn, Prog.run_bind]
  exact h

@[simp] theorem wpIn_bind_assoc {γ : Type} {k : Prog σ C R L β} {g : β → Prog σ C R L γ}
    {f : γ → Prog σ C R L α} : wpIn e (k >>= g >>= f) Q w ↔ wpIn e (k >>= fun b ↦ g b >>= f) Q w := by
  simp only [wpIn, Prog.run_bind]

@[simp] theorem wpIn_pure_bind {b : β} {f : β → Prog σ C R L α} :
    wpIn e (pure b >>= f) Q w ↔ wpIn e (f b) Q w := by
  simp only [wpIn, Prog.run_bind, Prog.run_pure]

@[simp] theorem wpIn_get_bind {f : σ → Prog σ C R L α} :
    wpIn e (Prog.get >>= f) Q w ↔ wpIn e (f w.st) Q w := by
  simp only [wpIn, Prog.run_bind, Prog.run_get]

@[simp] theorem wpIn_modify_bind {g : σ → σ} {f : Unit → Prog σ C R L α} :
    wpIn e (Prog.modify g >>= f) Q w ↔ wpIn e (f ()) Q (w.update g) := by
  simp only [wpIn, Prog.run_bind, Prog.run_modify]

theorem wpIn_choose_bind {f : ℕ → Prog σ C R L α}
    (h : wpIn e (f (e.choice w.serial)) Q (w.wait w.clock)) : wpIn e (Prog.choose >>= f) Q w := by
  rw [wpIn, Prog.run_bind]
  exact h

/-- A call is answered as `e` answers it. -/
theorem wpIn_call_bind {c : C} {f : R c → Prog σ C R L α}
    (h : wpIn e (f (e.reply w.serial c)) Q
      (w.after c (e.reply w.serial c) (w.clock + e.elapse w.serial))) :
    wpIn e (Prog.call c >>= f) Q w := by
  rw [wpIn, Prog.run_bind]
  exact h

/-- A program for a part of the state runs in the part of the environment it sees. -/
theorem wpIn_zoom {get : σ → τ} {put : τ → σ → σ} {f : C' → C} {g : L' → L}
    {m : Prog τ C' (fun c ↦ R (f c)) L' α}
    (h : wpIn ⟨fun n c ↦ e.reply n (f c), e.elapse, e.choice⟩ m
      (fun a l ↦ Q a ⟨⟨put l.st w.st, l.clock, l.serial⟩,
        l.trace.map (Item.map (fun x ↦ put x w.st) f g) ++ w.trace⟩)
      ⟨⟨get w.st, w.clock, w.serial⟩, []⟩) :
    wpIn e (Prog.zoom get put f g m) Q w := by
  simpa only [wpIn, Prog.run, Prog.zoom, List.append_nil] using h

end OneEnvironment

/-! ### A loop that carries a value -/

section LoopEnds

variable {f : β → Prog σ C R L (Option β)} {e : Env C R} {b : β} {w w' : World σ C R L}
  {rounds : List (β × World σ C R L)}

/-- The loop `while (b = f(b))`, started in a world with a value, goes through these rounds and ends in
that world. -/
inductive LoopEnds (f : β → Prog σ C R L (Option β)) (e : Env C R) :
    β → World σ C R L → List (β × World σ C R L) → World σ C R L → Prop where
  /-- This is the last round. -/
  | last {b : β} {w w' : World σ C R L} (h : (f b).run e w = (none, w')) :
    LoopEnds f e b w [(b, w)] w'
  /-- Another one follows. -/
  | again {b b' : β} {w w₁ w' : World σ C R L} {rounds : List (β × World σ C R L)}
    (h : (f b).run e w = (some b', w₁)) (hrest : LoopEnds f e b' w₁ rounds w') :
    LoopEnds f e b w ((b, w) :: rounds) w'

/-- **A measure of the value ends the loop.** -/
theorem exists_loopEnds {μ : β → ℕ}
    (hμ : ∀ b w, wp (f b) (fun r _ ↦ ∀ b', r = some b' → μ b' < μ b) w) (e : Env C R) (b : β)
    (w : World σ C R L) : ∃ rounds w', LoopEnds f e b w rounds w' ∧ rounds.length ≤ μ b + 1 := by
  induction h : μ b using Nat.strongRecOn generalizing b w with
  | _ n ih =>
    have hround := hμ b w e
    rcases hrun : (f b).run e w with ⟨r, w₁⟩
    rw [hrun] at hround
    rcases r with - | b'
    · exact ⟨_, _, .last hrun, by simp⟩
    · have hlt : μ b' < n := h ▸ hround b' rfl
      obtain ⟨rounds, w', hends, hlen⟩ := ih _ hlt b' w₁ rfl
      refine ⟨_, _, .again hrun hends, ?_⟩
      rw [List.length_cons]
      omega

end LoopEnds

end Traced
