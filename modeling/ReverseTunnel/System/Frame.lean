import ReverseTunnel.Lifetime.Backpressure
import ReverseTunnel.Tunnel.Tunnel

/-!
# Slots inside the tunnel

`slotView i w` is slot `i` in the world `w`, in the form the transition system of a slot works on.
Two relations between worlds say what a piece of the tunnel has left alone: `SlotMove i` for work on
slot `i`, which the other slots see as time passing, and `Calms` for everything that touches neither
a slot nor a queue nor a channel handle. Programs of the session only do the latter.
-/

namespace ReverseTunnel

open Traced Clock32 TunnelM

/-! ### A slot in the tunnel -/

/-- The part of a trace entry that concerns slot `i`. -/
def slotItem? (i : ℕ) : Item SSHTunnel Call Call.Reply Mark → Option SlotItem
  | .call id t s (.io j c) r => if j = i then some (.call id t (s.channels.slots i) c r) else none
  | .call _ _ _ (.sys _) _ => none
  | .mark t s (.slot j m) => if j = i then some (.mark t (s.channels.slots i) m) else none
  | .mark _ _ _ => none

/-- The log of slot `i`. -/
def slotLog (i : ℕ) (trace : Trace SSHTunnel Call Call.Reply Mark) : SlotLog :=
  trace.filterMap (slotItem? i)

/-- Slot `i` in a world. -/
def slotView (i : ℕ) (w : TunnelWorld) : View :=
  ⟨w.st.channels.slots i, slotLog i w.trace, w.clock⟩

/-- The local world of a program that works on slot `i`. -/
def slotWorld (i : ℕ) (w : TunnelWorld) : SlotWorld := ⟨⟨w.st.ctx i, w.clock, w.serial⟩, []⟩

/-- The world after a program that worked on slot `i` has ended in the local world `l`. -/
def lift (i : ℕ) (w : TunnelWorld) (l : SlotWorld) : TunnelWorld :=
  ⟨⟨w.st.setCtx i l.st, l.clock, l.serial⟩,
    l.trace.map (Item.map (fun c ↦ w.st.setCtx i c) (Call.io i) (Mark.slot i)) ++ w.trace⟩

section View

variable {i j : ℕ} {w : TunnelWorld} {l : SlotWorld}

@[simp] theorem slotView_ch : (slotView i w).ch = w.st.channels.slots i := rfl

@[simp] theorem slotView_clock : (slotView i w).clock = w.clock := rfl

@[simp] theorem slotView_log : (slotView i w).log = slotLog i w.trace := rfl

theorem setCtx_slots_same (s : SSHTunnel) (c : Ctx) : (s.setCtx i c).channels.slots i = c.ch :=
  Function.update_self ..

theorem setCtx_slots_ne (s : SSHTunnel) (c : Ctx) (h : j ≠ i) :
    (s.setCtx i c).channels.slots j = s.channels.slots j :=
  Function.update_of_ne h ..

theorem slotItem?_map_same (s : SSHTunnel) (x : Item Ctx IoCall IoCall.Reply SlotMark) :
    slotItem? i (x.map (R := Call.Reply) (fun c ↦ s.setCtx i c) (Call.io i) (Mark.slot i)) =
      some (toSlotItem x) := by
  cases x with
  | call id t c io r => simp [Item.map, slotItem?, toSlotItem, setCtx_slots_same]
  | mark t c m => simp [Item.map, slotItem?, toSlotItem, setCtx_slots_same]

theorem slotItem?_map_ne (s : SSHTunnel) (x : Item Ctx IoCall IoCall.Reply SlotMark)
    (h : j ≠ i) :
    slotItem? j (x.map (R := Call.Reply) (fun c ↦ s.setCtx i c) (Call.io i) (Mark.slot i)) =
      none := by
  cases x with
  | call id t c io r => simp [Item.map, slotItem?, h.symm]
  | mark t c m => simp [Item.map, slotItem?, h.symm]

/-- Work on slot `i` shows in slot `i`. -/
theorem slotView_lift_same : slotView i (lift i w l) = view (slotLog i w.trace) l := by
  have hlog : slotLog i (lift i w l).trace = l.trace.map toSlotItem ++ slotLog i w.trace := by
    rw [slotLog, lift, List.filterMap_append, List.filterMap_map]
    congr 1
    rw [← List.filterMap_eq_map]
    exact List.filterMap_congr fun x _ ↦ slotItem?_map_same w.st x
  rw [slotView, hlog]
  simp only [lift, setCtx_slots_same]
  rfl

/-- Other slots only see time pass. -/
theorem slotView_lift_ne (h : j ≠ i) : slotView j (lift i w l) = (slotView j w).wait l.clock := by
  have hlog : slotLog j (lift i w l).trace = slotLog j w.trace := by
    rw [slotLog, lift, List.filterMap_append, List.filterMap_map]
    have : List.filterMap (slotItem? j ∘ Item.map (R := Call.Reply) (fun c ↦ w.st.setCtx i c)
        (Call.io i) (Mark.slot i)) l.trace = [] := by
      rw [List.filterMap_eq_nil_iff]
      exact fun x _ ↦ slotItem?_map_ne w.st x h
    rw [this]
    rfl
  rw [slotView, hlog]
  simp only [lift, setCtx_slots_ne _ _ h]
  rfl

theorem wp_onSlot {α : Type} {m : SlotM α} {Q : α → Assertion SSHTunnel Call Call.Reply Mark}
    (h : wp m (fun a l ↦ Q a (lift i w l)) (slotWorld i w)) : wp (onSlot i m) Q w :=
  wp_zoom h

end View

/-- What a program for slot `i` makes of the slot. -/
theorem wp_onSlot_ch {α : Type} {i : ℕ} {w : TunnelWorld} {m : SlotM α} {P : α → ChannelSlot → Prop}
    (hm : wp m (fun a l ↦ P a l.st.ch) (slotWorld i w)) :
    wp (onSlot i m) (fun a w' ↦ P a (w'.st.channels.slots i)) w := by
  refine wp_onSlot (wp_mono hm fun a l hl ↦ ?_)
  rw [lift, setCtx_slots_same]
  exact hl

/-! ### Following the steps -/

/-- Every slot has only taken steps since a fresh start. -/
def Followed (p : Params) (ext : Bool) (w : TunnelWorld) : Prop :=
  ∃ clock, ∀ i, Reach p ext (.fresh clock) (slotView i w)

/-- From `w` to `w'`, slots other than `i` have only seen time pass. -/
structure Spares (i : ℕ) (w w' : TunnelWorld) : Prop where
  /-- Time does not go back. -/
  clock_le : w.clock ≤ w'.clock
  /-- The other slots. -/
  view_eq : ∀ j, j ≠ i → slotView j w' = (slotView j w).wait w'.clock

variable {p : Params} {ext : Bool} {w w' w'' : TunnelWorld} {i : ℕ}

theorem Spares.refl (i : ℕ) (w : TunnelWorld) : Spares i w w := ⟨Nat.le_refl _, fun _ _ ↦ rfl⟩

theorem Spares.trans (h : Spares i w w') (h' : Spares i w' w'') : Spares i w w'' :=
  ⟨Nat.le_trans h.clock_le h'.clock_le, fun j hj ↦ by rw [h'.view_eq j hj, h.view_eq j hj]; rfl⟩

theorem Followed.sound (h : Followed p ext w) (i : ℕ) : Sound p (slotView i w) := by
  obtain ⟨clock, hr⟩ := h
  exact (sound_fresh clock).reach (hr i)

/-- Every invariant of the transition system holds of every slot. -/
theorem Followed.invariant {I : View → Prop} (h : Followed p ext w) (h0 : ∀ clock, I (.fresh clock))
    (hstep : ∀ v v', Sound p v → I v → SlotStep p ext v v' → I v') (i : ℕ) : I (slotView i w) := by
  obtain ⟨clock, hr⟩ := h
  have key : ∀ v, Reach p ext (.fresh clock) v → Sound p v ∧ I v := by
    intro v hv
    induction hv with
    | refl => exact ⟨sound_fresh clock, h0 clock⟩
    | tail _ hs ih => exact ⟨ih.1.step hs, hstep _ _ ih.1 ih.2 hs⟩
  exact (key _ (hr i)).2

theorem reach_wait {v : View} {t : ℕ} (h : v.clock ≤ t) : Reach p ext v (v.wait t) :=
  Relation.ReflTransGen.single (.work (.pump (.wait h)))

/-! ### Work on one slot -/

/-- From `w` to `w'`, work was done on slot `i` and on nothing else. The counters of the channel
manager may have changed with it. -/
structure SlotMove (i : ℕ) (w w' : TunnelWorld) : Prop extends Spares i w w' where
  /-- Serial numbers are not reused. -/
  serial_le : w.serial ≤ w'.serial
  /-- What was done is in the log of the slot. -/
  trace : ∃ items, w'.trace = items ++ w.trace ∧ ∀ x ∈ items, (slotItem? i x).isSome = true
  /-- The session is as it was. -/
  session : w'.st.session = w.st.session
  /-- The tunnel state is as it was. -/
  state : w'.st.state = w.st.state
  /-- The pending queue is as it was. -/
  pending : w'.st.pending = w.st.pending
  /-- The deferred-close queue is as it was. -/
  deferredClose : w'.st.deferredClose = w.st.deferredClose
  /-- The circuit breaker is as it was. -/
  breaker : w'.st.channels.breaker = w.st.channels.breaker
  /-- The degradation flag is as it was. -/
  sessionDegraded : w'.st.transport.sessionDegraded = w.st.transport.sessionDegraded

theorem SlotMove.trans (h : SlotMove i w w') (h' : SlotMove i w' w'') : SlotMove i w w'' := by
  obtain ⟨items, ht, hi⟩ := h.trace
  obtain ⟨items', ht', hi'⟩ := h'.trace
  refine ⟨h.toSpares.trans h'.toSpares, Nat.le_trans h.serial_le h'.serial_le,
    ⟨items' ++ items, by rw [ht', ht, List.append_assoc], fun x hx ↦ ?_⟩,
    h'.session.trans h.session, h'.state.trans h.state, h'.pending.trans h.pending,
    h'.deferredClose.trans h.deferredClose, h'.breaker.trans h.breaker,
    h'.sessionDegraded.trans h.sessionDegraded⟩
  rcases List.mem_append.1 hx with hx | hx
  · exact hi' x hx
  · exact hi x hx

/-- The counters of the channel manager are as they were. -/
structure SameCounters (w w' : TunnelWorld) : Prop where
  /-- `activeCount_` -/
  activeCount : w'.st.channels.activeCount = w.st.channels.activeCount
  /-- `completedBytesReceived_` -/
  received : w'.st.channels.completedBytesReceived = w.st.channels.completedBytesReceived
  /-- `completedBytesSent_` -/
  sent : w'.st.channels.completedBytesSent = w.st.channels.completedBytesSent
  /-- `completedBytesDropped_` -/
  dropped : w'.st.channels.completedBytesDropped = w.st.channels.completedBytesDropped

theorem SameCounters.trans (h : SameCounters w w') (h' : SameCounters w' w'') :
    SameCounters w w'' :=
  ⟨h'.activeCount.trans h.activeCount, h'.received.trans h.received, h'.sent.trans h.sent,
    h'.dropped.trans h.dropped⟩

/-- The totals of `ch` have been added to the completed counters. -/
structure Archives (ch : ChannelSlot) (w w' : TunnelWorld) : Prop where
  /-- `completedBytesReceived_` -/
  received : w'.st.channels.completedBytesReceived =
    w.st.channels.completedBytesReceived + ch.totalBytesReceived
  /-- `completedBytesSent_` -/
  sent : w'.st.channels.completedBytesSent = w.st.channels.completedBytesSent + ch.totalBytesSent
  /-- `completedBytesDropped_` -/
  dropped : w'.st.channels.completedBytesDropped =
    w.st.channels.completedBytesDropped + ch.totalBytesDropped

/-- What a program for slot `i` leaves behind. -/
theorem slotMove_lift {l : SlotWorld} (hc : w.clock ≤ l.clock) (hs : w.serial ≤ l.serial) :
    SlotMove i w (lift i w l) := by
  refine ⟨⟨hc, fun j hj ↦ slotView_lift_ne hj⟩, hs, ⟨_, rfl, fun x hx ↦ ?_⟩, rfl, rfl, rfl, rfl,
    rfl, rfl⟩
  obtain ⟨y, -, rfl⟩ := List.mem_map.1 hx
  rw [slotItem?_map_same]
  rfl

theorem sameCounters_lift {l : SlotWorld} : SameCounters w (lift i w l) := ⟨rfl, rfl, rfl, rfl⟩

/-- A program for slot `i`, seen from the tunnel. -/
theorem wp_onSlot_view {α : Type} {m : SlotM α} {P : α → View → Prop}
    (hm : wp m (fun a l ↦ P a (view (slotLog i w.trace) l)) (slotWorld i w)) :
    wp (onSlot i m) (fun a w' ↦ SlotMove i w w' ∧ SameCounters w w' ∧ P a (slotView i w')) w := by
  refine wp_onSlot (wp_mono (wp_forward hm) fun a l hl ↦ ?_)
  refine ⟨slotMove_lift hl.2.1 hl.2.2, sameCounters_lift, ?_⟩
  rw [slotView_lift_same]
  exact hl.1

/-! ### Calm programs -/

/-- A call that neither takes nor makes a channel and does not reach for a local endpoint. -/
def SysCall.calm : (c : SysCall) → c.Reply → Prop
  | .channelClose _, _ => False
  | .channelFree _, _ => False
  | .localSocket _, _ => False
  | .forwardAccept _, accepted => accepted = false
  | _, _ => True

/-- A trace entry of such a call, or a note, with what the note says. -/
def isCalm : Item SSHTunnel Call Call.Reply Mark → Prop
  | .call _ _ _ (.sys c) r => c.calm r
  | .mark _ s (.note n) => n.says s
  | _ => False

theorem slotItem?_of_isCalm {x : Item SSHTunnel Call Call.Reply Mark} (h : isCalm x) :
    slotItem? i x = none := by
  cases x with
  | call id t s c r =>
    cases c with
    | io j c => exact h.elim
    | sys c => rfl
  | mark t s m => cases m <;> first | rfl | exact h.elim

/-- From `w` to `w'`, nothing happened to slots, queues and channel handles. -/
structure Calms (w w' : TunnelWorld) : Prop where
  /-- Time does not go back. -/
  clock_le : w.clock ≤ w'.clock
  /-- Serial numbers are not reused. -/
  serial_le : w.serial ≤ w'.serial
  /-- Only calm calls. -/
  trace : ∃ items, w'.trace = items ++ w.trace ∧ ∀ x ∈ items, isCalm x
  /-- The channel manager is as it was. -/
  channels : w'.st.channels = w.st.channels
  /-- The tunnel state is as it was. -/
  state : w'.st.state = w.st.state
  /-- The pending queue is as it was. -/
  pending : w'.st.pending = w.st.pending
  /-- The deferred-close queue is as it was. -/
  deferredClose : w'.st.deferredClose = w.st.deferredClose
  /-- The degradation flag is as it was. -/
  sessionDegraded : w'.st.transport.sessionDegraded = w.st.transport.sessionDegraded

namespace Calms

theorem refl (w : TunnelWorld) : Calms w w :=
  ⟨Nat.le_refl _, Nat.le_refl _, ⟨[], rfl, by simp⟩, rfl, rfl, rfl, rfl, rfl⟩

theorem trans (h : Calms w w') (h' : Calms w' w'') : Calms w w'' := by
  obtain ⟨items, ht, hi⟩ := h.trace
  obtain ⟨items', ht', hi'⟩ := h'.trace
  refine ⟨Nat.le_trans h.clock_le h'.clock_le, Nat.le_trans h.serial_le h'.serial_le,
    ⟨items' ++ items, by rw [ht', ht, List.append_assoc], fun x hx ↦ ?_⟩,
    h'.channels.trans h.channels, h'.state.trans h.state, h'.pending.trans h.pending,
    h'.deferredClose.trans h.deferredClose, h'.sessionDegraded.trans h.sessionDegraded⟩
  rcases List.mem_append.1 hx with hx | hx
  · exact hi' x hx
  · exact hi x hx

/-- No slot sees more than time passing. -/
theorem view_eq (h : Calms w w') (j : ℕ) : slotView j w' = (slotView j w).wait w'.clock := by
  obtain ⟨items, ht, hi⟩ := h.trace
  have hnone : items.filterMap (slotItem? j) = [] := by
    rw [List.filterMap_eq_nil_iff]
    intro x hx
    exact slotItem?_of_isCalm (hi x hx)
  have hlog : slotLog j w'.trace = slotLog j w.trace := by
    rw [slotLog, ht, List.filterMap_append, hnone]
    rfl
  rw [slotView, hlog, h.channels]
  rfl

theorem call {c : SysCall} {r : c.Reply} {t : ℕ} (hc : c.calm r) (ht : w.clock ≤ t) :
    Calms w (w.after (.sys c) r t) :=
  ⟨ht, Nat.le_succ _, ⟨[.call w.serial t w.st (.sys c) r], rfl, by simpa [isCalm] using hc⟩,
    rfl, rfl, rfl, rfl, rfl⟩

theorem wait {t : ℕ} (ht : w.clock ≤ t) : Calms w (w.wait t) :=
  ⟨ht, Nat.le_succ _, ⟨[], rfl, by simp⟩, rfl, rfl, rfl, rfl, rfl⟩

theorem note {n : Note} (h : n.says w.st) : Calms w (w.marked (.note n)) :=
  ⟨Nat.le_refl _, Nat.le_refl _, ⟨[_], rfl, by simpa [isCalm] using h⟩, rfl, rfl, rfl, rfl, rfl⟩

/-- A change of the parts of the state that slots and queues do not live in. -/
theorem update {f : SSHTunnel → SSHTunnel} (hc : (f w.st).channels = w.st.channels)
    (hs : (f w.st).state = w.st.state) (hp : (f w.st).pending = w.st.pending)
    (hd : (f w.st).deferredClose = w.st.deferredClose)
    (hg : (f w.st).transport.sessionDegraded = w.st.transport.sessionDegraded) :
    Calms w (w.update f) :=
  ⟨Nat.le_refl _, Nat.le_refl _, ⟨[], rfl, by simp⟩, hc, hs, hp, hd, hg⟩

end Calms

/-- A program that touches neither slots nor queues nor channel handles. -/
def Calm {α : Type} (m : TunnelM α) : Prop := ∀ w, wp m (fun _ w' ↦ Calms w w') w

section Calm

variable {α β : Type}

theorem calm_pure (a : α) : Calm (pure a : TunnelM α) := fun w ↦ wp_pure (Calms.refl w)

theorem Calm.bind {m : TunnelM α} {f : α → TunnelM β} (hm : Calm m) (hf : ∀ a, Calm (f a)) :
    Calm (m >>= f) :=
  fun w ↦ wp_bind (wp_mono (hm w) fun a w' h ↦ wp_mono (hf a w') fun _ _ h' ↦ h.trans h')

theorem calm_get_bind {f : SSHTunnel → TunnelM β} (hf : ∀ s, Calm (f s)) :
    Calm (Prog.get >>= f) :=
  fun w ↦ wp_get_bind.2 (hf w.st w)

theorem calm_sysId {c : SysCall} (hc : ∀ r, c.calm r) : Calm (sysId c) :=
  fun _ ↦ wp_callId fun r _ ht ↦ Calms.call (hc r) ht

theorem calm_sys {c : SysCall} (hc : ∀ r, c.calm r) : Calm (sys c) :=
  fun _ ↦ wp_call fun r _ ht ↦ Calms.call (hc r) ht

theorem calm_millis : Calm millis :=
  Calm.bind (fun _ ↦ wp_tick fun _ ht ↦ Calms.wait ht) fun _ ↦ calm_pure _

/-- A note that is always true. -/
theorem calm_note {n : Note} (h : ∀ s, n.says s) : Calm (Prog.mark (.note n)) :=
  fun w ↦ wp_mark (Calms.note (h w.st))

theorem calm_modifySession (f : SSHSession → SSHSession) : Calm (modifySession f) :=
  fun _ ↦ wp_modify (Calms.update rfl rfl rfl rfl rfl)

theorem calm_modifyTransport {f : TransportPump → TransportPump}
    (hf : ∀ t, (f t).sessionDegraded = t.sessionDegraded) : Calm (modifyTransport f) :=
  fun _ ↦ wp_modify (Calms.update rfl rfl rfl rfl (hf _))

theorem calm_ite {b : Prop} [Decidable b] {m m' : TunnelM α} (h : Calm m) (h' : Calm m') :
    Calm (if b then m else m') :=
  fun w ↦ wp_ite (fun _ ↦ h w) fun _ ↦ h' w

theorem calm_when {b : Bool} {m : TunnelM Unit} (h : Calm m) : Calm (Prog.when b m) :=
  fun w ↦ wp_when (fun _ ↦ h w) fun _ ↦ Calms.refl w

theorem calm_each {l : List β} {f : β → TunnelM Unit} (h : ∀ b, Calm (f b)) :
    Calm (Prog.each l f) := by
  induction l with
  | nil => exact calm_pure _
  | cons b l ih => exact (h b).bind fun _ ↦ ih

end Calm

end ReverseTunnel
