import ReverseTunnel.System.Trace

/-!
# The lifecycle of a slot

After any sequence of operations, with any indices: `activeCount_` is the number of active slots, an
active slot is complete and open or draining, an inactive one is empty and closed. Within a lifetime
the state only goes forward, from open over draining to closed, possibly skipping the middle, and
while a slot drains, the reason and the start of its closing stay as they are.
-/

namespace ReverseTunnel

open Traced TunnelM Clock32

variable {p : Params} {ext : Bool} {v v' : View} {w : TunnelWorld} {ch ch' ch'' : ChannelSlot}
  {log items : SlotLog}

/-! ### Stages -/

/-- A slot that was `ch` may be `ch'` later in the same lifetime. -/
inductive Follows (ch ch' : ChannelSlot) : Prop where
  /-- Anything follows an open slot. -/
  | open (h : ch.state = .open)
  /-- A slot that goes on draining does so for the same reason and since the same time. -/
  | draining (h : ch.state = .draining) (h' : ch'.state = .draining)
      (hreason : ch'.closeReason = ch.closeReason) (hstart : ch'.closeStartMs = ch.closeStartMs)
  /-- A slot that is closed stays closed. -/
  | closed (h : ch'.state = .closed)

/-- Two slots at the same stage. -/
structure SameStage (ch ch' : ChannelSlot) : Prop where
  /-- `state` -/
  state : ch'.state = ch.state
  /-- `closeReason` -/
  closeReason : ch'.closeReason = ch.closeReason
  /-- `closeStartMs` -/
  closeStartMs : ch'.closeStartMs = ch.closeStartMs

theorem SameStage.refl (ch : ChannelSlot) : SameStage ch ch := ⟨rfl, rfl, rfl⟩

theorem SameStage.follows (h : SameStage ch ch') : Follows ch ch' := by
  cases hst : ch.state with
  | «open» => exact .open hst
  | draining => exact .draining hst (h.state.trans hst) h.closeReason h.closeStartMs
  | closed => exact .closed (h.state.trans hst)

theorem Follows.trans (h : Follows ch ch') (h' : Follows ch' ch'') : Follows ch ch'' := by
  cases h with
  | «open» h => exact .open h
  | draining h hd hreason hstart =>
    cases h' with
    | «open» h' => rw [hd] at h'; cases h'
    | draining _ hd' hreason' hstart' =>
      exact .draining h hd' (hreason'.trans hreason) (hstart'.trans hstart)
    | closed h' => exact .closed h'
  | closed h =>
    cases h' with
    | «open» h' => rw [h] at h'; cases h'
    | draining h' _ _ _ => rw [h] at h'; cases h'
    | closed h' => exact .closed h'

/-! ### Going forward -/

/-- An entry of the log is made at a stage that follows those of the lifetime before it; the first
one is made by an open slot. -/
def Forward (x : SlotItem) (past : SlotLog) : Prop :=
  (isBound x = true → x.pre.state = .open) ∧
    (isBound x = false → ∀ y ∈ life past, Follows y.pre x.pre)

/-- The slot has only gone forward. -/
structure Advances (ch : ChannelSlot) (log : SlotLog) : Prop where
  /-- Up to now. -/
  current : ∀ x ∈ life log, Follows x.pre ch
  /-- And before. -/
  past : History.Always Forward log

theorem Advances.mono (h : Advances ch log) (hf : Follows ch ch') : Advances ch' log :=
  ⟨fun x hx ↦ (h.current x hx).trans hf, h.past⟩

variable (items) in
/-- Entries made at the current stage. -/
theorem Advances.append (h : Advances ch log)
    (hi : ∀ x ∈ items, isBound x = false ∧ SameStage ch x.pre) : Advances ch (items ++ log) := by
  induction items with
  | nil => exact h
  | cons x items ih =>
    have ih := ih fun y hy ↦ hi y (List.mem_cons_of_mem _ hy)
    obtain ⟨hbound, hstage⟩ := hi x (List.mem_cons_self ..)
    refine ⟨fun y hy ↦ ?_, ⟨fun hb ↦ ?_, fun _ y hy ↦ (ih.current y hy).trans hstage.follows⟩,
      ih.past⟩
    · rw [List.cons_append, show x :: (items ++ log) = [x] ++ (items ++ log) from rfl,
        life_append (by simpa using hbound)] at hy
      rcases List.mem_append.1 hy with hy | hy
      · obtain rfl := List.mem_singleton.1 hy
        exact SameStage.follows ⟨hstage.state.symm, hstage.closeReason.symm,
          hstage.closeStartMs.symm⟩
      · exact ih.current y hy
    · rw [hbound] at hb
      cases hb

theorem Advances.work (h : Advances v.ch v.log) (hw : WorkStep p ext v v') :
    Advances v'.ch v'.log := by
  -- everything but the beginning of a close stays at one stage
  have stay : ∀ {v' : View} (items : SlotLog), v'.log = items ++ v.log → SameStage v.ch v'.ch →
      (∀ x ∈ items, isBound x = false ∧ SameStage v.ch x.pre) → Advances v'.ch v'.log := by
    intro v' items hlog hstage hitems
    rw [hlog]
    exact (h.append items hitems).mono hstage.follows
  cases hw with
  | pump hp =>
    cases hp with
    | wait ht => exact stay [] rfl ⟨rfl, rfl, rfl⟩ (by simp)
    | begin hact hopen hcause ht =>
      have hmark : Advances v.ch (.mark v.clock v.ch .beganClose :: v.log) :=
        h.append [_] (by simp [isBound, SameStage.refl])
      refine (hmark.mono (.open hopen)).append [_] ?_
      simp [isBound, SameStage.refl]
    | checking hact hopen =>
      exact stay [_] rfl ⟨rfl, rfl, rfl⟩ (by simp [isBound, SameStage.refl])
    | forwardEof hact hopen hlocal herr hfwd hlog ht =>
      exact stay [_] rfl ⟨rfl, rfl, rfl⟩ (by simp [isBound, SameStage.refl])
    | pause ssh loc hact =>
      exact stay [_] rfl ⟨rfl, rfl, rfl⟩ (by simpa [isBound] using ⟨rfl, rfl, rfl⟩)
    | rearmSend hset ht =>
      exact stay [_] rfl ⟨rfl, rfl, rfl⟩ (by simpa [isBound] using ⟨rfl, rfl, rfl⟩)
    | rearmWrite hset ht =>
      exact stay [_] rfl ⟨rfl, rfl, rfl⟩ (by simpa [isBound] using ⟨rfl, rfl, rfl⟩)
    | _ =>
      refine stay [_, _] rfl ⟨rfl, rfl, rfl⟩ (List.forall_mem_cons.2
        ⟨⟨rfl, rfl, rfl, rfl⟩, List.forall_mem_singleton.2 ⟨rfl, rfl, rfl, rfl⟩⟩)
  | sendEofAgain hact hst hh heof hl hr hagain ht =>
    exact stay [_, _] rfl ⟨rfl, rfl, rfl⟩ (by simp [isBound, SameStage.refl])
  | @sendEof u h' id t t' rc hact hst hh heof hl hr hdone ht hflush ht' =>
    obtain ⟨items, hlog, hitems⟩ := hflush.entries t'
    obtain ⟨r, hch, -⟩ := hflush.frame
    refine stay items hlog ?_ (hitems _ ⟨rfl, SameStage.refl _⟩ (fun _ _ _ _ ↦
      ⟨rfl, rfl, rfl, rfl⟩) fun m hm ↦ ?_)
    · simp only [View.mark_ch, View.set_ch, hch]
      exact ⟨rfl, rfl, rfl⟩
    · simp only [Item.pre_mark, hch]
      rcases hm with rfl | rfl <;> exact ⟨rfl, rfl, rfl, rfl⟩
  | finalizing hact hst hτ hverdict =>
    exact stay [_] rfl ⟨rfl, rfl, rfl⟩ (by simp [isBound, SameStage.refl])
  | closeChannel hact hh ht =>
    exact stay [_] rfl ⟨rfl, rfl, rfl⟩ (by simp [isBound, SameStage.refl])
  | freeAgain hact hh hagain ht =>
    exact stay [_] rfl ⟨rfl, rfl, rfl⟩ (by simp [isBound, SameStage.refl])

/-- A lifetime begins with an open slot. -/
theorem advances_bound {h : Handle} {fd : Int} {okLocal okRemote : Bool} {id t t' : ℕ}
    (hpast : History.Always Forward v.log) :
    Advances (v.bound p h fd okLocal okRemote id t t').ch
      (v.bound p h fd okLocal okRemote id t t').log := by
  rw [View.bound, View.call_log, View.call_ch]
  refine Advances.append [_] ⟨fun x hx ↦ ?_, ⟨fun _ ↦ rfl, fun hb ↦ ?_⟩, hpast⟩ ?_
  · cases hx
  · cases hb
  · simp [isBound, SameStage.refl]

theorem advances_of_reach {clock : ℕ} (h : Reach p ext (.fresh clock) v) :
    Advances v.ch v.log := by
  induction h with
  | refl =>
    refine ⟨fun x hx ↦ ?_, trivial⟩
    cases hx
  | @tail v v' hr hs ih =>
    cases hs with
    | work hw => exact ih.work hw
    | @bind h fd okLocal okRemote id t t' hact hfd ht ht' =>
      exact advances_bound ih.past
    | @release h id id' t t' t'' rc progress hact hh hdone ht ht' ht'' =>
      rw [View.shut, View.discarded, View.socketClosed]
      split
      · refine (ih.append [_, _, _] ?_).mono (.closed rfl)
        simpa [isBound] using ⟨⟨rfl, rfl, rfl⟩, ⟨rfl, rfl, rfl⟩, SameStage.refl _⟩
      · refine (ih.append [_, _] ?_).mono (.closed rfl)
        simpa [isBound] using ⟨⟨rfl, rfl, rfl⟩, SameStage.refl _⟩
    | @abandon id t hact ht =>
      rw [View.dropped, View.socketClosed]
      split
      · refine (ih.append [_, _] ?_).mono (.closed rfl)
        simpa [isBound] using ⟨⟨rfl, rfl, rfl⟩, ⟨rfl, rfl, rfl⟩⟩
      · refine (ih.append [_] ?_).mono (.closed rfl)
        simpa [isBound] using ⟨rfl, rfl, rfl⟩

/-! ### The guarantee -/

/-- A slot in order: complete while active, empty otherwise. -/
structure InOrder (ch : ChannelSlot) : Prop where
  /-- Active slots are those that are open or draining. -/
  active_iff : ch.active = true ↔ ch.state = .open ∨ ch.state = .draining
  /-- An active slot has a channel, a socket and both rings. -/
  alive : ch.active = true → Alive ch
  /-- An inactive slot is closed and has none of them. -/
  dead : ch.active = false → Dead ch

theorem Sound.inOrder (h : Sound p v) : InOrder v.ch := by
  refine ⟨⟨fun hact ↦ ?_, fun hst ↦ ?_⟩, h.alive, h.dead⟩
  · have := (h.alive hact).state
    cases hst : v.ch.state with
    | «open» => exact .inl rfl
    | draining => exact .inr rfl
    | closed => exact absurd hst this
  · by_contra hact
    have := (h.dead (by simpa using hact)).state
    rw [this] at hst
    rcases hst with hst | hst <;> cases hst

theorem SSHTunnel.activeSlots_le (s : SSHTunnel) : s.activeSlots p ≤ p.maxSlots := by
  rw [activeSlots]
  exact Nat.le_trans List.countP_le_length (Nat.le_of_eq List.length_range)

/-- **The lifecycle of the slots**, after any sequence of operations. -/
theorem slot_lifecycle (hw : Run p w) :
    w.st.channels.activeCount = (w.st.activeSlots p : Int) ∧ w.st.activeSlots p ≤ p.maxSlots ∧
      ∀ i, InOrder (w.st.channels.slots i) ∧
        Advances (w.st.channels.slots i) (slotLog i w.trace) := by
  obtain ⟨_, ⟨g, hat, -⟩, -⟩ := hw.resting
  obtain ⟨clock, hr⟩ := hat.followed
  exact ⟨hat.activeCount_eq, w.st.activeSlots_le, fun i ↦
    ⟨(hat.sound i).inOrder, advances_of_reach (hr i)⟩⟩

/-! ### Closing twice -/

/-- libssh2 is never ready to free a channel. -/
def stuckWorld : Env Call Call.Reply := worldWith 1 fun _ c ↦
  match c with
  | .io _ (.channelFree _) => some errorEagain
  | _ => none

/-- Slot 0 is bound, begins to close, cannot be finalized and is given up twice; slot 1 begins to
close, and so does a slot that does not exist. -/
def stuckRun : TunnelWorld := afterManagerOps (smallTunnel 2) <|
  [ManagerOp.bindChannel 0 77 {}, .bindChannel 1 78 {}, .beginClose 0 .error, .finalizeClose 0,
    .abandonSlot 0 .error, .abandonSlot 0 .error, .beginClose 1 .error,
    .beginClose 5 .error].map (·, stuckWorld)

theorem run_stuckRun : Run (smallTunnel 2) stuckRun := run_after _

theorem slot_lifecycle_stuckRun :
    stuckRun.st.channels.activeCount = (stuckRun.st.activeSlots (smallTunnel 2) : Int) ∧
      stuckRun.st.activeSlots (smallTunnel 2) = 1 ∧
      InOrder (stuckRun.st.channels.slots 0) ∧
      (stuckRun.st.channels.slots 1).state = .draining ∧
      Advances (stuckRun.st.channels.slots 1) (slotLog 1 stuckRun.trace) :=
  ⟨(slot_lifecycle run_stuckRun).1, by decide +kernel, ((slot_lifecycle run_stuckRun).2.2 0).1,
    by decide +kernel, ((slot_lifecycle run_stuckRun).2.2 1).2⟩

end ReverseTunnel
