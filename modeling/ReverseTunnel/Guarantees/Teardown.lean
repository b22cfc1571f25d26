import ReverseTunnel.System.Trace

/-!
# Teardown is complete

Whatever the locks and libssh2 do, after `enterErrorState` or `disconnect` no slot is active, both
queues are empty, every local socket has been closed exactly once and the session is not connected.
This is said of a teardown from any state between two operations, and of every teardown inside a run,
wherever the loop has begun it. Hence a tunnel in the error state or in the disconnected state holds
no channel.
-/

namespace ReverseTunnel

open Traced TunnelM

variable {p : Params} {ext : Bool} {g : Ledger} {w : TunnelWorld}

/-- No slot is active and both queues are empty. -/
structure HoldsNothing (s : SSHTunnel) : Prop where
  /-- No slot is active. -/
  slots : ∀ i, (s.channels.slots i).active = false
  /-- None is counted. -/
  activeCount : s.channels.activeCount = 0
  /-- Nothing is pending. -/
  pending : s.pending.count = 0
  /-- Nothing is to be closed later. -/
  deferred : s.deferredClose.count = 0

/-- The tunnel has given up or has been told to. -/
def SSHTunnel.isOff (s : SSHTunnel) : Prop := s.state = .error ∨ s.state = .disconnected

theorem ChannelQueue.count_of_live {q : ChannelQueue} (h : q.live = []) : q.count = 0 := by
  have := congrArg List.length h
  simpa [live] using this

/-- Where arrays and ledger agree, a tunnel that is off holds nothing. -/
theorem At.holdsNothing (h : At p false g w) (ht : Tracks w.st g) (hoff : w.st.isOff) :
    HoldsNothing w.st := by
  have hst : w.st.state ≠ .connected := by
    intro hno
    rcases hoff with hoff | hoff <;> rw [hno] at hoff <;> cases hoff
  have hv := h.vacant hst
  have hqueue : ∀ q, g.queue q = [] → (w.st.queue q).count = 0 := fun q hq ↦
    ChannelQueue.count_of_live (by rw [ht q, hq]; rfl)
  refine ⟨hv.slots, ?_, hqueue .pending hv.pending, hqueue .deferredClose hv.deferred⟩
  rw [h.activeCount_eq, SSHTunnel.activeSlots, List.countP_eq_zero.2]
  · rfl
  · intro i _
    rw [hv.slots i]
    simp

/-! ### Inside a run -/

/-- At the end of a teardown nothing is left of what there was at its beginning, and where a function
that works on the queues returns, a tunnel that is off holds nothing. -/
def LeavesNothing (x : Item SSHTunnel Call Call.Reply Mark)
    (past : Trace SSHTunnel Call Call.Reply Mark) : Prop :=
  match x with
  | .mark _ s .tornDown => ∃ mid t₀ s₀ older, past = mid ++ .mark t₀ s₀ .tearingDown :: older ∧
      (∀ y ∈ mid, isTearingDown y = false) ∧ TornDown s₀ s mid
  | .mark _ s .returned => s.isOff → HoldsNothing s
  | _ => True

theorem leavesNothing_of_isCalm {x : Item SSHTunnel Call Call.Reply Mark} (h : isCalm x)
    (past : Trace SSHTunnel Call Call.Reply Mark) : LeavesNothing x past := by
  cases x with
  | call id t s c r => exact trivial
  | mark t s m =>
    cases m with
    | note n => exact trivial
    | _ => exact h.elim

theorem leavesNothing_of_slotItem {x : Item SSHTunnel Call Call.Reply Mark} {i : ℕ}
    (h : (slotItem? i x).isSome = true) (past : Trace SSHTunnel Call Call.Reply Mark) :
    LeavesNothing x past := by
  cases x with
  | call id t s c r => exact trivial
  | mark t s m =>
    cases m with
    | slot j m => exact trivial
    | _ => cases h

theorem At.leavesNothing (h : At p false g w) : History.Always LeavesNothing w.trace := by
  suffices h : At p false g w ∧ History.Always LeavesNothing w.trace from h.2
  refine h.invariant (I := fun x ↦ At p false x.2 x.1 ∧ History.Always LeavesNothing x.1.trace)
    (fun clock ↦ ⟨at_initial clock, trivial⟩) ?_
  rintro ⟨w, g⟩ ⟨w', g'⟩ ⟨hat, hw⟩ hs
  refine ⟨hat.step hs, ?_⟩
  have moved : ∀ {i w w'}, SlotMove i w w' → History.Always LeavesNothing w.trace →
      History.Always LeavesNothing w'.trace := by
    intro i w w' hm hw
    obtain ⟨items, ht, hi⟩ := hm.trace
    rw [ht]
    exact hw.append fun x hx ↦ leavesNothing_of_slotItem (hi x hx)
  cases hs with
  | calm h =>
    obtain ⟨items, ht, hi⟩ := h.trace
    rw [ht]
    exact hw.append fun x hx ↦ leavesNothing_of_isCalm (hi x hx)
  | work hi hdown hm hv hc => exact moved hm hw
  | bind hi hdown hh hm hact hfd ht ht' hv hok hcount harch => exact moved hm hw
  | release hi hdown hm hv hact hh hdone ht ht' ht'' hv' hcount harch => exact moved hm hw
  | abandon hi hm hact ht hv hcount harch => exact moved hm hw
  | mark hm => rcases hm with ⟨_, _, rfl, -⟩ | ⟨_, rfl⟩ | rfl <;> exact ⟨trivial, hw⟩
  | returned ht hdown => exact ⟨hat.holdsNothing ht, hw⟩
  | tornDown ht hmid hd => exact ⟨⟨_, _, _, _, ht, hmid, hd⟩, hw⟩
  | accept ht hdown hst => exact ⟨trivial, hw⟩
  | close ht hdown hh => exact ⟨trivial, hw⟩
  | free ht hdown hh => exact ⟨trivial, hw⟩
  | connect ht hadm => exact ⟨trivial, hw⟩
  | goDown => exact ⟨trivial, hw⟩
  | _ => exact hw

/-! ### The guarantee -/

/-- **Teardown is complete**, from every state between two operations and wherever a run has torn the
tunnel down; and while the tunnel is off it holds nothing. -/
theorem teardown_complete (hw : TunnelRun p w) :
    (∀ e, TearsDown w ((enterErrorState p).exec e w) ∧
      ((enterErrorState p).exec e w).st.state = .error) ∧
    (∀ e, TearsDown w ((disconnect p).exec e w) ∧
      ((disconnect p).exec e w).st.state = .disconnected) ∧
    History.Always LeavesNothing w.trace ∧ (w.st.isOff → HoldsNothing w.st) := by
  obtain ⟨doomed, hr, -⟩ := hw.resting false
  refine ⟨fun e ↦ ?_, fun e ↦ ?_, ?_⟩
  · obtain ⟨-, hst, hd⟩ := wp_enterErrorState hr e
    exact ⟨hd, hst⟩
  · obtain ⟨-, hst, hd⟩ := wp_disconnect hr e
    exact ⟨hd, hst⟩
  · obtain ⟨g, hat, ht, -⟩ := hr
    exact ⟨hat.leavesNothing, hat.holdsNothing ht⟩

/-! ### Without any lock -/

/-- The session lock is never to be had. -/
def lockedWorld : Env Call Call.Reply := worldWith 1 fun _ c ↦
  match c with
  | .sys (.lock _) => some false
  | _ => none

/-- One channel is in a slot, another one waits for a slot. -/
def occupiedRun : TunnelWorld := afterTunnelOps (smallTunnel 1)
  [(.connectSSH, acceptingWorld 60), (.loop, acceptingWorld 60)]

theorem run_occupiedRun : TunnelRun (smallTunnel 1) occupiedRun := tunnelRun_after _

theorem teardown_complete_occupiedRun :
    occupiedRun.st.activeSlots (smallTunnel 1) = 1 ∧ occupiedRun.st.pending.count = 1 ∧
      TearsDown occupiedRun ((enterErrorState (smallTunnel 1)).exec lockedWorld occupiedRun) ∧
      TearsDown occupiedRun ((disconnect (smallTunnel 1)).exec lockedWorld occupiedRun) :=
  ⟨by decide +kernel, by decide +kernel, ((teardown_complete run_occupiedRun).1 lockedWorld).1,
    ((teardown_complete run_occupiedRun).2.1 lockedWorld).1⟩

end ReverseTunnel
