import ReverseTunnel.Lib.Traced

/-!
# Two programs abreast

Two programs run in the **same environment**, from machines whose clocks lie a fixed gap apart. They
go *abreast* when they make the same calls, get the same replies and keep their states related.

The relation may lean on what the states of the two runs look like at the items of their traces:
`Gap.left` is assumed of the states the first run records and `Gap.right` of those the second one
records. Both are statements about one run, so a program inherits them from every program it is part
of, and the rules below read them off where an item is made (`Abreast.call`, `Abreast.mark`).
-/

namespace Traced

variable {σ τ C C' L L' α α' β β' : Type} {R : C → Type}

/-- The calls of a trace with their serial numbers and replies, newest first. -/
def actions (l : Trace σ C R L) : List (ℕ × Sigma R) :=
  l.filterMap fun
    | .call id _ _ c r => some (id, ⟨c, r⟩)
    | .mark _ _ _ => none

theorem actions_append (l l' : Trace σ C R L) : actions (l ++ l') = actions l ++ actions l' :=
  List.filterMap_append

theorem actions_map (s : τ → σ) (f : C' → C) (g : L' → L)
    (l : Trace τ C' (fun c ↦ R (f c)) L') :
    actions (l.map (Item.map s f g) : Trace σ C R L) =
      (actions l).map fun x ↦ (x.1, ⟨f x.2.1, x.2.2⟩) := by
  induction l with
  | nil => rfl
  | cons x l ih =>
    cases x with
    | call id t p c r => exact congrArg ((id, (⟨f c, r⟩ : Sigma R)) :: ·) ih
    | mark t p l => exact ih

/-- How two runs are set against each other. -/
structure Gap (σ : Type) where
  /-- How far the second clock is ahead. -/
  lag : ℕ
  /-- What holds in the states the first run records. -/
  left : σ → Prop
  /-- What holds in the states the second run records. -/
  right : σ → Prop

/-- From machines a gap apart whose states satisfy `P`, in the same environment, the two programs
make the same calls and end a gap apart, in values and states that satisfy `Q`. -/
def Abreast (g : Gap σ) (P : σ → σ → Prop) (m : Prog σ C R L α) (m' : Prog σ C R L α')
    (Q : α → α' → σ → σ → Prop) : Prop :=
  ∀ (e : Env C R) (s s' : Machine σ), s'.clock = s.clock + g.lag → s'.serial = s.serial →
    P s.st s'.st → (∀ x ∈ (m.act e s).out, g.left x.pre) →
    (∀ x ∈ (m'.act e s').out, g.right x.pre) →
    Q (m.act e s).val (m'.act e s').val (m.act e s).fin.st (m'.act e s').fin.st ∧
      (m'.act e s').fin.clock = (m.act e s).fin.clock + g.lag ∧
      (m'.act e s').fin.serial = (m.act e s).fin.serial ∧
      actions (m'.act e s').out = actions (m.act e s).out

/-- The same value in both runs. -/
abbrev Alike (P : σ → σ → Prop) (a b : α) (s s' : σ) : Prop := a = b ∧ P s s'

namespace Abreast

variable {g : Gap σ} {P P' : σ → σ → Prop} {Q Q' : α → α' → σ → σ → Prop}
  {m : Prog σ C R L α} {m' : Prog σ C R L α'}

theorem mono (h : Abreast g P m m' Q) (hP : ∀ s s', P' s s' → P s s')
    (hQ : ∀ a a' s s', Q a a' s s' → Q' a a' s s') : Abreast g P' m m' Q' :=
  fun e s s' hclock hserial hp hl hr ↦
    (h e s s' hclock hserial (hP _ _ hp) hl hr).imp_left (hQ _ _ _ _)

theorem pre (h : Abreast g P m m' Q) (hP : ∀ s s', P' s s' → P s s') : Abreast g P' m m' Q :=
  h.mono hP fun _ _ _ _ hq ↦ hq

theorem ret {a : α} {a' : α'} (h : ∀ s s', P s s' → Q a a' s s') :
    Abreast g P (pure a : Prog σ C R L α) (pure a') Q :=
  fun _ _ _ hclock hserial hp _ _ ↦ ⟨h _ _ hp, hclock, hserial, rfl⟩

/-- Two programs one after the other. -/
theorem bind {S : β → β' → σ → σ → Prop} {k : Prog σ C R L β} {k' : Prog σ C R L β'}
    {f : β → Prog σ C R L α} {f' : β' → Prog σ C R L α'} (hk : Abreast g P k k' S)
    (hf : ∀ b b', Abreast g (S b b') (f b) (f' b') Q) :
    Abreast g P (k >>= f) (k' >>= f') Q := by
  intro e s s' hclock hserial hp hl hr
  simp only [Prog.bind_apply] at hl hr ⊢
  obtain ⟨hs, hclock₁, hserial₁, hout₁⟩ := hk e s s' hclock hserial hp
    (fun x hx ↦ hl x (List.mem_append_right _ hx)) (fun x hx ↦ hr x (List.mem_append_right _ hx))
  obtain ⟨hq, hclock₂, hserial₂, hout₂⟩ := hf _ _ e _ _ hclock₁ hserial₁ hs
    (fun x hx ↦ hl x (List.mem_append_left _ hx)) (fun x hx ↦ hr x (List.mem_append_left _ hx))
  refine ⟨hq, hclock₂, hserial₂, ?_⟩
  rw [actions_append, actions_append, hout₁, hout₂]

/-- The same value is handed on in both runs. -/
theorem bindAlike {k k' : Prog σ C R L β} {f : β → Prog σ C R L α} {f' : β → Prog σ C R L α'}
    (hk : Abreast g P k k' (Alike P')) (hf : ∀ b, Abreast g P' (f b) (f' b) Q) :
    Abreast g P (k >>= f) (k' >>= f') Q := by
  refine bind hk fun b b' e s s' hclock hserial hp ↦ ?_
  obtain ⟨rfl, hp⟩ := hp
  exact hf b e s s' hclock hserial hp

/-- Both states are read and the programs that follow see them. -/
theorem getBind {f : σ → Prog σ C R L α} {f' : σ → Prog σ C R L α'}
    (h : ∀ s s', P s s' → Abreast g P (f s) (f' s') Q) :
    Abreast g P (Prog.get >>= f) (Prog.get >>= f') Q :=
  fun e s s' hclock hserial hp hl hr ↦ by
    simp only [Prog.bind_apply] at hl hr ⊢
    obtain ⟨hq, hclock', hserial', hout⟩ := h s.st s'.st hp e s s' hclock hserial hp
      (fun x hx ↦ hl x (List.mem_append_left _ hx)) (fun x hx ↦ hr x (List.mem_append_left _ hx))
    refine ⟨hq, hclock', hserial', ?_⟩
    rw [actions_append, actions_append]
    exact congrArg (· ++ []) hout

theorem modify {f f' : σ → σ} (h : ∀ s s', P s s' → P' (f s) (f' s')) :
    Abreast g P (Prog.modify f : Prog σ C R L Unit) (Prog.modify f') (Alike P') :=
  fun _ _ _ hclock hserial hp _ _ ↦ ⟨⟨rfl, h _ _ hp⟩, hclock, hserial, rfl⟩

/-- A mark shows the states of the two runs. -/
theorem mark {l l' : L} (h : ∀ s s', P s s' → g.left s → g.right s' → P' s s') :
    Abreast g P (Prog.mark l : Prog σ C R L Unit) (Prog.mark l') (Alike P') :=
  fun _ _ _ hclock hserial hp hl hr ↦
    ⟨⟨rfl, h _ _ hp (hl _ (List.mem_singleton_self _)) (hr _ (List.mem_singleton_self _))⟩,
      hclock, hserial, rfl⟩

/-- So does a call, and it has the same number and the same reply in both. -/
theorem callId {c : C} (h : ∀ s s', P s s' → g.left s → g.right s' → P' s s') :
    Abreast g P (Prog.callId c : Prog σ C R L _) (Prog.callId c) (Alike P') := by
  rintro e s ⟨st', clock', serial'⟩ (rfl : clock' = _) (rfl : serial' = _) hp hl hr
  have hp' := h _ _ hp (hl _ (List.mem_singleton_self _)) (hr _ (List.mem_singleton_self _))
  exact ⟨⟨rfl, hp'⟩, Nat.add_right_comm .., rfl, rfl⟩

theorem call {c : C} (h : ∀ s s', P s s' → g.left s → g.right s' → P' s s') :
    Abreast g P (Prog.call c : Prog σ C R L _) (Prog.call c) (Alike P') :=
  bindAlike (callId h) fun _ ↦ ret fun _ _ hp ↦ ⟨rfl, hp⟩

/-- The clocks are read a gap apart. -/
theorem tick : Abreast g P (Prog.tick : Prog σ C R L ℕ) Prog.tick
    fun t t' s s' ↦ t' = t + g.lag ∧ P s s' := by
  rintro e s ⟨st', clock', serial'⟩ (rfl : clock' = _) (rfl : serial' = _) hp hl hr
  exact ⟨⟨Nat.add_right_comm .., hp⟩, Nat.add_right_comm .., rfl, rfl⟩

theorem choose : Abreast g P (Prog.choose : Prog σ C R L ℕ) Prog.choose (Alike P) := by
  rintro e s ⟨st', clock', serial'⟩ (rfl : clock' = _) (rfl : serial' = _) hp hl hr
  exact ⟨⟨rfl, hp⟩, rfl, rfl, rfl⟩

/-- Both runs take the same branch. -/
theorem ite {b b' : Prop} [Decidable b] [Decidable b'] {n : Prog σ C R L α} {n' : Prog σ C R L α'}
    (hb : b' ↔ b) (h : b → Abreast g P m m' Q) (hn : ¬b → Abreast g P n n' Q) :
    Abreast g P (if b then m else n) (if b' then m' else n') Q := by
  by_cases hc : b
  · rw [if_pos hc, if_pos (hb.2 hc)]
    exact h hc
  · rw [if_neg hc, if_neg fun hc' ↦ hc (hb.1 hc')]
    exact hn hc

theorem when {b b' : Bool} {m m' : Prog σ C R L Unit} (hb : b' = b)
    (h : b = true → Abreast g P m m' (Alike P)) :
    Abreast g P (Prog.when b m) (Prog.when b' m') (Alike P) := by
  subst hb
  exact ite Iff.rfl h fun _ ↦ ret fun _ _ hp ↦ ⟨rfl, hp⟩

theorem attempts {n : ℕ} {m m' : Prog σ C R L Bool} (h : Abreast g P m m' (Alike P)) :
    Abreast g P (Prog.attempts n m) (Prog.attempts n m') (Alike P) := by
  induction n with
  | zero => exact ret fun _ _ hp ↦ ⟨rfl, hp⟩
  | succ n ih =>
    refine bindAlike h fun again ↦ ite Iff.rfl (fun _ ↦ ih) fun _ ↦ ?_
    exact ret fun _ _ hp ↦ ⟨rfl, hp⟩

theorem each {l : List β} {f f' : β → Prog σ C R L Unit}
    (h : ∀ b, Abreast g P (f b) (f' b) (Alike P)) :
    Abreast g P (Prog.each l f) (Prog.each l f') (Alike P) := by
  induction l with
  | nil => exact ret fun _ _ hp ↦ ⟨rfl, hp⟩
  | cons b l ih => exact bindAlike (h b) fun _ ↦ ih

theorem fold {l : List β} {a : α} {f f' : α → β → Prog σ C R L α}
    (h : ∀ a b, Abreast g P (f a b) (f' a b) (Alike P)) :
    Abreast g P (Prog.fold l a f) (Prog.fold l a f') (Alike P) := by
  induction l generalizing a with
  | nil => exact ret fun _ _ hp ↦ ⟨rfl, hp⟩
  | cons b l ih => exact bindAlike (h a b) fun a' ↦ ih

/-- Programs for a part of the state. -/
theorem zoom {get : σ → τ} {put : τ → σ → σ} {f : C' → C} {k : L' → L} {G : Gap τ}
    {p : τ → τ → Prop} {n n' : Prog τ C' (fun c ↦ R (f c)) L' α} (hlag : G.lag = g.lag)
    (hleft : ∀ x s, g.left (put x s) → G.left x) (hright : ∀ x s, g.right (put x s) → G.right x)
    (hget : ∀ s s', P s s' → p (get s) (get s'))
    (hput : ∀ x x' s s', P s s' → p x x' → P (put x s) (put x' s'))
    (h : Abreast G p n n' (Alike p)) :
    Abreast g P (Prog.zoom get put f k n) (Prog.zoom get put f k n') (Alike P) := by
  intro e s s' hclock hserial hp hl hr
  obtain ⟨⟨hval, hst⟩, hclock', hserial', hout⟩ := h ⟨fun n c ↦ e.reply n (f c), e.elapse, e.choice⟩
    ⟨get s.st, s.clock, s.serial⟩ ⟨get s'.st, s'.clock, s'.serial⟩ (hlag ▸ hclock) hserial
    (hget _ _ hp)
    (fun x hx ↦ hleft _ s.st (by simpa using hl _ (List.mem_map_of_mem hx)))
    (fun x hx ↦ hright _ s'.st (by simpa using hr _ (List.mem_map_of_mem hx)))
  refine ⟨⟨hval, hput _ _ _ _ hp hst⟩, hlag ▸ hclock', hserial', ?_⟩
  simp only [Prog.zoom, actions_map, hout]

/-- The same on worlds: what the two runs have done so far stays the same. -/
theorem exec {m m' : Prog σ C R L α} {P' : σ → σ → Prop} (h : Abreast g P m m' (Alike P'))
    {w w' : World σ C R L} (hclock : w'.clock = w.clock + g.lag) (hserial : w'.serial = w.serial)
    (hp : P w.st w'.st) (hout : actions w'.trace = actions w.trace) (e : Env C R)
    (hl : ∀ x ∈ (m.exec e w).trace, g.left x.pre)
    (hr : ∀ x ∈ (m'.exec e w').trace, g.right x.pre) :
    P' (m.exec e w).st (m'.exec e w').st ∧
      (m'.exec e w').clock = (m.exec e w).clock + g.lag ∧
      (m'.exec e w').serial = (m.exec e w).serial ∧
      actions (m'.exec e w').trace = actions (m.exec e w).trace := by
  obtain ⟨⟨-, hp'⟩, hclock', hserial', hout'⟩ := h e w.toMachine w'.toMachine hclock hserial hp
    (fun x hx ↦ hl x (List.mem_append_left _ hx)) (fun x hx ↦ hr x (List.mem_append_left _ hx))
  refine ⟨hp', hclock', hserial', ?_⟩
  show actions (_ ++ w'.trace) = actions (_ ++ w.trace)
  rw [actions_append, actions_append, hout, hout']

end Abreast

end Traced
