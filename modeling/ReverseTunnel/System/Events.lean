import ReverseTunnel.Lib.History
import ReverseTunnel.Session.Keeps
import ReverseTunnel.System.Frame
import ReverseTunnel.Transport.Keeps

/-!
# What the event handlers have been told

Two automata read the trace. For each slot: bound, then reported as opened, then reported as closed, and
free again. For the session: reported as connected, then as disconnected. An automaton that meets an
event out of turn is stuck.

A `Story` says where the automata are and what of the tunnel decides how they go on: which slots are in
use, which close events wait in the pump, the state, and whether the session was found degraded. `Told y`
says that this is the story so far. Most of the tunnel does not add to it, and this is where that is
proved: `Preserves (Told y)` for every function that neither binds nor releases a slot nor runs an event
handler.
-/

namespace ReverseTunnel

open Traced TunnelM History

/-! ### Two automata -/

/-- Where the reports about a slot are. -/
inductive Stage where
  /-- Not bound since it was last reported as closed. -/
  | free
  /-- Bound, and not reported yet. -/
  | bound
  /-- Reported as opened. -/
  | live
  deriving DecidableEq

/-- What can happen to a slot, as far as its events go. -/
inductive Sign where
  /-- It is bound to a channel. -/
  | bound
  /-- `onChannelOpened` -/
  | opened
  /-- `onChannelClosed` -/
  | closed
  deriving DecidableEq

/-- The only order allowed. -/
def Stage.next : Stage → Sign → Option Stage
  | .free, .bound => some .bound
  | .bound, .opened => some .live
  | .live, .closed => some .free
  | _, _ => none

/-- What an entry of the trace says about slot `i`. -/
def sign? (i : ℕ) : Item SSHTunnel Call Call.Reply Mark → Option Sign
  | .mark _ _ (.slot j .bound) => if j = i then some .bound else none
  | .call _ _ _ (.sys (.emit (.channelOpened j))) _ => if j = i then some .opened else none
  | .call _ _ _ (.sys (.emit (.channelClosed j _))) _ => if j = i then some .closed else none
  | _ => none

/-- The automaton of slot `i`. -/
def slotNext (i : ℕ) (q : Stage) (x : Item SSHTunnel Call Call.Reply Mark) : Option Stage :=
  match sign? i x with
  | none => some q
  | some s => q.next s

/-- The automaton of the session. -/
def sessionNext (up : Bool) : Item SSHTunnel Call Call.Reply Mark → Option Bool
  | .call _ _ _ (.sys (.emit .sessionConnected)) _ => if up then none else some true
  | .call _ _ _ (.sys (.emit .sessionDisconnected)) _ => if up then some false else none
  | _ => some up

/-- Where the reports about slot `i` are after a trace. -/
def slotStage (i : ℕ) (tr : Trace SSHTunnel Call Call.Reply Mark) : Option Stage :=
  track (slotNext i) .free tr

/-- Whether the session is reported as connected after a trace. -/
def sessionStage (tr : Trace SSHTunnel Call Call.Reply Mark) : Option Bool :=
  track sessionNext false tr

/-! ### The story so far -/

/-- What has been reported, and what the next reports depend on. -/
structure Story where
  /-- Where the reports about each slot are. -/
  stage : ℕ → Stage
  /-- The session is reported as connected. -/
  up : Bool
  /-- Which slots are in use. -/
  active : ℕ → Bool
  /-- `state_` -/
  state : TunnelState
  /-- `pendingCloseEvents_` -/
  events : List (ℕ × ChannelCloseReason)
  /-- `sessionDegraded_` -/
  degraded : Bool
  /-- No channel waits for a slot. -/
  idle : Bool

/-- The story is what has happened so far. -/
structure Told (y : Story) (w : TunnelWorld) : Prop where
  /-- Events of the slots. -/
  stage : ∀ i, slotStage i w.trace = some (y.stage i)
  /-- Events of the session. -/
  up : sessionStage w.trace = some y.up
  /-- Slots in use. -/
  active : ∀ i, (w.st.channels.slots i).active = y.active i
  /-- `state_` -/
  state : w.st.state = y.state
  /-- `pendingCloseEvents_` -/
  events : w.st.transport.pendingCloseEvents = y.events
  /-- `sessionDegraded_` -/
  degraded : w.st.transport.sessionDegraded = y.degraded
  /-- `pendingCount_` -/
  idle : y.idle = true → w.st.pending.count = 0

variable {p : Params} {y : Story} {w w' : TunnelWorld} {i : ℕ}

/-- An entry that adds nothing to the story. -/
def tellsNothing : Item SSHTunnel Call Call.Reply Mark → Bool
  | .mark _ _ (.slot _ m) => m.plain
  | .call _ _ _ (.sys (.emit (.error _ _))) _ => true
  | .call _ _ _ (.sys (.emit _)) _ => false
  | _ => true

theorem slotNext_of_tellsNothing {x : Item SSHTunnel Call Call.Reply Mark}
    (hx : tellsNothing x = true) (q : Stage) : slotNext i q x = some q := by
  cases x with
  | mark t s m =>
    cases m with
    | slot j m =>
      cases m with
      | bound => cases hx
      | _ => rfl
    | _ => rfl
  | call id t s c r =>
    cases c with
    | io j c => rfl
    | sys c =>
      cases c with
      | emit e =>
        cases e with
        | channelOpened j => cases hx
        | channelClosed j reason => cases hx
        | _ => rfl
      | _ => rfl

theorem sessionNext_of_tellsNothing {x : Item SSHTunnel Call Call.Reply Mark}
    (hx : tellsNothing x = true) (up : Bool) : sessionNext up x = some up := by
  cases x with
  | mark t s m => rfl
  | call id t s c r =>
    cases c with
    | io j c => rfl
    | sys c =>
      cases c with
      | emit e =>
        cases e with
        | sessionConnected => cases hx
        | sessionDisconnected => cases hx
        | _ => rfl
      | _ => rfl

/-- A change of the tunnel that no story speaks about. -/
structure Unseen (s s' : SSHTunnel) : Prop where
  /-- Slots in use. -/
  active : ∀ i, (s'.channels.slots i).active = (s.channels.slots i).active
  /-- `state_` -/
  state : s'.state = s.state
  /-- `pendingCloseEvents_` -/
  events : s'.transport.pendingCloseEvents = s.transport.pendingCloseEvents
  /-- `sessionDegraded_` -/
  degraded : s'.transport.sessionDegraded = s.transport.sessionDegraded
  /-- `pendingCount_` -/
  count : s'.pending.count = s.pending.count

theorem Unseen.refl (s : SSHTunnel) : Unseen s s := ⟨fun _ ↦ rfl, rfl, rfl, rfl, rfl⟩

/-- Entries that add nothing, and a change that is not seen. -/
theorem Told.unseen {items : Trace SSHTunnel Call Call.Reply Mark} (h : Told y w)
    (ht : w'.trace = items ++ w.trace) (hi : ∀ x ∈ items, tellsNothing x = true)
    (hs : Unseen w.st w'.st) : Told y w' := by
  refine ⟨fun i ↦ ?_, ?_, fun i ↦ (hs.active i).trans (h.active i), hs.state.trans h.state,
    hs.events.trans h.events, hs.degraded.trans h.degraded, fun hidle ↦ hs.count.trans (h.idle hidle)⟩
  · rw [ht]
    exact track_append (h.stage i) fun x hx ↦ slotNext_of_tellsNothing (hi x hx) _
  · rw [ht]
    exact track_append h.up fun x hx ↦ sessionNext_of_tellsNothing (hi x hx) _

/-! ### Single operations -/

/-- A call that runs no event handler, or only that for errors. -/
def SysCall.silent : SysCall → Bool
  | .emit (.error _ _) => true
  | .emit _ => false
  | _ => true

theorem told_sysId {c : SysCall} (hc : c.silent = true) : Preserves (Told y) (sysId c) := by
  refine fun w h ↦ wp_callId fun r t _ ↦ h.unseen (show _ = [_] ++ _ from rfl) ?_ (Unseen.refl _)
  refine List.forall_mem_singleton.2 ?_
  cases c with
  | emit e =>
    cases e with
    | error code detail => rfl
    | _ => cases hc
  | _ => rfl

theorem told_sys {c : SysCall} (hc : c.silent = true) : Preserves (Told y) (sys c) :=
  (told_sysId hc).bind fun _ ↦ Preserves.ret

theorem told_lock (ms : ℕ) : Preserves (Told y) (lock ms) := told_sys rfl

theorem told_unlock : Preserves (Told y) unlock := told_sys rfl

theorem told_mark {m : Mark} (hm : ∀ t s, tellsNothing (.mark t s m) = true) :
    Preserves (Told y) (Prog.mark m) :=
  fun _ h ↦ wp_mark (h.unseen (show _ = [_] ++ _ from rfl) (List.forall_mem_singleton.2 (hm _ _))
    (Unseen.refl _))

theorem told_modify {f : SSHTunnel → SSHTunnel} (hf : ∀ s, Unseen s (f s)) :
    Preserves (Told y) (Prog.modify f) :=
  fun w h ↦ wp_modify (h.unseen (show _ = [] ++ _ from rfl) (by simp) (hf w.st))

theorem told_modifySession (f : SSHSession → SSHSession) :
    Preserves (Told y) (modifySession f) :=
  told_modify fun _ ↦ ⟨fun _ ↦ rfl, rfl, rfl, rfl, rfl⟩

/-- The counters and the breaker may change. -/
theorem told_modifyChannels {f : ChannelManager → ChannelManager}
    (hf : ∀ c, (f c).slots = c.slots) : Preserves (Told y) (modifyChannels f) :=
  told_modify fun s ↦ ⟨fun i ↦ by rw [hf], rfl, rfl, rfl, rfl⟩

theorem told_modifyTransport {f : TransportPump → TransportPump}
    (he : ∀ t, (f t).pendingCloseEvents = t.pendingCloseEvents)
    (hd : ∀ t, (f t).sessionDegraded = t.sessionDegraded) :
    Preserves (Told y) (modifyTransport f) :=
  told_modify fun _ ↦ ⟨fun _ ↦ rfl, rfl, he _, hd _, rfl⟩

/-- A queue changes, which must not fill the pending queue of an idle tunnel. -/
theorem told_modifyQueue {q : QueueName} {f : ChannelQueue → ChannelQueue}
    (hf : q = .pending → y.idle = true → ∀ x, x.count = 0 → (f x).count = 0) :
    Preserves (Told y) (modifyQueue q f) := by
  intro w h
  cases q with
  | pending =>
    rw [modifyQueue]
    exact wp_modify ⟨h.stage, h.up, h.active, h.state, h.events, h.degraded,
      fun hidle ↦ hf rfl hidle _ (h.idle hidle)⟩
  | deferredClose =>
    rw [modifyQueue]
    exact wp_modify ⟨h.stage, h.up, h.active, h.state, h.events, h.degraded, h.idle⟩

theorem told_millis : Preserves (Told y) millis :=
  fun _ h ↦ wp_tick_bind fun _ _ ↦ wp_pure (h.unseen (show _ = [] ++ _ from rfl) (by simp) (Unseen.refl _))

theorem told_getSlot (i : ℕ) : Preserves (Told y) (getSlot i) :=
  Preserves.get_bind fun _ ↦ Preserves.ret

/-- A slot, read as part of a story. -/
theorem told_getSlot_bind {α : Type} {f : ChannelSlot → TunnelM α}
    {Q : α → Assertion SSHTunnel Call Call.Reply Mark}
    (hf : ∀ ch, ch.active = y.active i → Triple (Told y) (f ch) Q) :
    Triple (Told y) (getSlot i >>= f) Q := by
  intro w h
  rw [getSlot]
  simp only [wp_bind_assoc, wp_get_bind, wp_pure_bind]
  exact hf _ (h.active i) w h

/-- No function of the session adds to the story. -/
theorem sessionKeeps_told : SessionKeeps (Told y) := by
  refine .of (fun c hc ↦ told_sysId ?_) told_modifySession
  cases c with
  | emit e => cases hc
  | _ => rfl

/-! ### Work on a slot -/

/-- A program for a slot has neither bound nor released it, and it is in use or not. -/
def Still (active : Bool) : Assertion Ctx IoCall IoCall.Reply SlotMark :=
  fun l ↦ l.st.ch.active = active ∧ ∀ t c, Item.mark t c .bound ∉ l.trace

theorem slotKeeps_still (active : Bool) : SlotKeeps (Still active) := by
  refine ⟨fun c l h ↦ wp_call fun r t _ ↦ ⟨h.1, fun s c hmem ↦ ?_⟩,
    fun m hm l h ↦ wp_mark ⟨h.1, fun s c hmem ↦ ?_⟩,
    fun f hf l h ↦ wp_modify ⟨(hf _).trans h.1, h.2⟩,
    fun f hf l h ↦ wp_modify ⟨(congrArg ChannelSlot.active (hf _)).trans h.1, h.2⟩,
    fun l h ↦ wp_tick_bind fun _ _ ↦ wp_pure h, fun l h ↦ wp_choose fun _ ↦ h⟩
  · exact h.2 s c (by simpa using hmem)
  · rcases List.mem_cons.1 hmem with heq | hmem
    · cases heq
      cases hm
    · exact h.2 s c hmem

/-- The story after slot `i` has been taken into use or released. -/
def Story.setActive (y : Story) (i : ℕ) (active : Bool) : Story :=
  { y with active := Function.update y.active i active }

/-- The story after a report about slot `i`. -/
def Story.setStage (y : Story) (i : ℕ) (stage : Stage) : Story :=
  { y with stage := Function.update y.stage i stage }

@[simp] theorem Story.setActive_active_same (y : Story) (i : ℕ) (active : Bool) :
    (y.setActive i active).active i = active := Function.update_self ..

theorem Story.setActive_active_ne {j : ℕ} (h : j ≠ i) (active : Bool) :
    (y.setActive i active).active j = y.active j := Function.update_of_ne h ..

@[simp] theorem Story.setStage_stage_same (y : Story) (i : ℕ) (stage : Stage) :
    (y.setStage i stage).stage i = stage := Function.update_self ..

theorem Story.setStage_stage_ne {j : ℕ} (h : j ≠ i) (stage : Stage) :
    (y.setStage i stage).stage j = y.stage j := Function.update_of_ne h ..

theorem Story.setActive_self {active : Bool} (h : y.active i = active) : y.setActive i active = y := by
  rw [setActive, ← h, Function.update_eq_self]

/-- Whether a slot is in use after work on slot `i`. -/
theorem active_lift {l : SlotWorld} (h : Told y w) (j : ℕ) :
    ((lift i w l).st.channels.slots j).active = Function.update y.active i l.st.ch.active j := by
  by_cases hj : j = i
  · subst hj
    rw [lift, setCtx_slots_same, Function.update_self]
  · rw [lift, setCtx_slots_ne _ _ hj, Function.update_of_ne hj, h.active]

theorem Told.lift {active : Bool} {l : SlotWorld} (h : Told y w) (hl : Still active l) :
    Told (y.setActive i active) (lift i w l) := by
  have hi : ∀ x ∈ l.trace.map (Item.map (R := Call.Reply) (fun c ↦ w.st.setCtx i c) (Call.io i)
      (Mark.slot i)), tellsNothing x = true := by
    intro x hx
    obtain ⟨z, hz, rfl⟩ := List.mem_map.1 hx
    cases z with
    | call id t c io r => rfl
    | mark t c m =>
      cases m with
      | bound => exact absurd hz (hl.2 t c)
      | _ => rfl
  refine ⟨fun j ↦ ?_, ?_, fun j ↦ ?_, h.state, h.events, h.degraded, h.idle⟩
  · exact track_append (h.stage j) fun x hx ↦ slotNext_of_tellsNothing (hi x hx) _
  · exact track_append h.up fun x hx ↦ sessionNext_of_tellsNothing (hi x hx) _
  · rw [active_lift h, hl.1]
    rfl

/-- A program after which the slot is in use or not. -/
theorem told_onSlot_active {α : Type} {active : Bool} (i : ℕ) {m : SlotM α}
    (hm : ∀ a, Triple (Still a) m fun _ ↦ Still active) :
    Triple (Told y) (onSlot i m) fun _ ↦ Told (y.setActive i active) := by
  refine fun w h ↦ wp_onSlot (wp_mono (hm (y.active i) _ ⟨h.active i, ?_⟩) fun _ _ hl ↦ h.lift hl)
  simp [slotWorld]

/-- A program that keeps the slot in use. -/
theorem told_onSlot {α : Type} (i : ℕ) {m : SlotM α} (hm : ∀ a, Preserves (Still a) m) :
    Preserves (Told y) (onSlot i m) := by
  refine fun w h ↦ wp_onSlot (wp_mono (hm (y.active i) _ ⟨h.active i, ?_⟩) fun _ _ hl ↦ ?_)
  · simp [slotWorld]
  · have := h.lift (i := i) hl
    rwa [Story.setActive_self rfl] at this

/-! ### The channel manager -/

theorem told_allocateSlot : Preserves (Told y) (allocateSlot p) := by
  refine told_millis.bind fun now ↦ Preserves.get_bind fun s ↦ ?_
  split
  · exact Preserves.ret
  · dsimp only
    split
    · exact (told_onSlot _ fun a ↦ (slotKeeps_still a).beginClose _).bind fun _ ↦ Preserves.ret
    · exact Preserves.ret

theorem told_connectToLocalEndpoint (mapping : TunnelConfig) :
    Preserves (Told y) (connectToLocalEndpoint mapping) := by
  have hgiveUp : ∀ fd : Int, Preserves (Told y) (do
      let _ ← sys (.localClose fd)
      pure (-1 : Int)) := fun fd ↦ (told_sys rfl).bind fun _ ↦ Preserves.ret
  refine (told_sysId rfl).bind fun res ↦ Preserves.ite Preserves.ret ?_
  refine (told_sys rfl).bind fun _ ↦ Preserves.ite (hgiveUp _) ?_
  refine (told_sys rfl).bind fun _ ↦ Preserves.ite (hgiveUp _) ?_
  refine (told_sys rfl).bind fun _ ↦ Preserves.ite (hgiveUp _) ?_
  refine (told_sys rfl).bind fun _ ↦ ?_
  split
  · exact Preserves.ret
  · exact hgiveUp _
  · refine (told_sys rfl).bind fun _ ↦ Preserves.ite (hgiveUp _) ?_
    exact (told_sys rfl).bind fun _ ↦ Preserves.ite (hgiveUp _) Preserves.ret

theorem told_archiveSlotStats (i : ℕ) : Preserves (Told y) (archiveSlotStats i) :=
  told_modifyChannels fun _ ↦ rfl

/-- Slot `i` is bound. -/
theorem Told.lift_bound {l : SlotWorld} {id t t' : ℕ} {c c' : Ctx} {io : IoCall} {r : io.Reply}
    (h : Told y w) (hfree : y.stage i = .free) (hact : l.st.ch.active = true)
    (ht : l.trace = [.call id t c io r, .mark t' c' .bound]) :
    Told ((y.setActive i true).setStage i .bound) (ReverseTunnel.lift i w l) := by
  have htrace : (ReverseTunnel.lift i w l).trace = .call id t (w.st.setCtx i c) (.io i io) r ::
      .mark t' (w.st.setCtx i c') (.slot i .bound) :: w.trace := by
    rw [ReverseTunnel.lift, ht]
    rfl
  refine ⟨fun j ↦ ?_, ?_, fun j ↦ ?_, h.state, h.events, h.degraded, h.idle⟩
  · rw [htrace]
    refine track_cons (track_cons (h.stage j) ?_) (slotNext_of_tellsNothing rfl _)
    by_cases hj : j = i
    · subst hj
      simp [slotNext, sign?, hfree, Stage.next]
    · rw [Story.setStage_stage_ne hj]
      simp [slotNext, sign?, Ne.symm hj, Story.setActive]
  · rw [htrace]
    exact track_cons (track_cons h.up rfl) rfl
  · rw [active_lift h, hact]
    rfl

theorem told_bindSlot (h : Handle) (fd : Int) (toLocal toRemote : DataRingBuffer)
    (hfree : y.stage i = .free) :
    Triple (Told y) (onSlot i (bindSlot h fd toLocal toRemote)) fun _ ↦
      Told ((y.setActive i true).setStage i .bound) := by
  refine fun w hw ↦ wp_onSlot ?_
  refine wp_bind (wp_modify ?_)
  rw [SlotM.millis]
  simp only [wp_bind_assoc]
  refine wp_tick_bind fun t _ ↦ wp_pure_bind.2 (wp_bind (wp_modify (wp_mark_bind.2 ?_)))
  exact wp_call_bind fun r t' _ ↦ wp_pure (hw.lift_bound hfree rfl rfl)

/-- The story after an attempt to bind slot `i`. -/
def BindTold (p : Params) (y : Story) (i : ℕ) : Bool → TunnelWorld → Prop
  | true, w => i < p.maxSlots ∧ Told ((y.setActive i true).setStage i .bound) w
  | false, w => Told y w

/-- A slot that is not in use has been reported as closed. -/
theorem told_bindChannel (h : Handle) (mapping : TunnelConfig)
    (hfree : y.active i = false → y.stage i = .free) :
    Triple (Told y) (bindChannel p i h mapping) (BindTold p y i) := by
  refine fun w hw ↦ wp_ite (fun _ ↦ wp_pure hw) fun hrange ↦ ?_
  have hi : i < p.maxSlots := by
    simp only [Bool.or_eq_true, decide_eq_true_eq, not_or] at hrange
    omega
  refine told_getSlot_bind (fun ch hch ↦ ?_) w hw
  rw [Int.toNat_natCast] at hch
  refine fun w hw ↦ wp_ite (fun _ ↦ wp_pure hw) fun hact ↦ ?_
  have hfree : y.stage i = .free := hfree (by rw [← hch]; simpa using hact)
  refine wp_bind (wp_mono (told_connectToLocalEndpoint mapping w hw) fun fd w hw ↦ ?_)
  refine wp_ite (fun _ ↦ ?_) fun _ ↦ ?_
  · refine wp_bind (wp_mono (told_millis w hw) fun now w hw ↦ ?_)
    exact wp_bind (wp_mono (told_modifyChannels (fun _ ↦ by rfl) w hw) fun _ w hw ↦ wp_pure hw)
  have hgiveUp : Triple (Told y) (do
      let _ ← sys (.localClose fd)
      pure false) (BindTold p y i) := fun w hw ↦
    wp_bind (wp_mono (told_sys rfl w hw) fun _ w hw ↦ wp_pure hw)
  refine wp_bind (wp_mono (told_modifyChannels (fun _ ↦ by rfl) w hw) fun _ w hw ↦ ?_)
  refine wp_bind (wp_mono (told_sys rfl w hw) fun heap w hw ↦ wp_ite (fun _ ↦ hgiveUp w hw) fun _ ↦ ?_)
  refine wp_bind (wp_mono (told_sys rfl w hw) fun okLocal w hw ↦ ?_)
  refine wp_bind (wp_mono (told_sys rfl w hw) fun okRemote w hw ↦ ?_)
  refine wp_ite (fun _ ↦ hgiveUp w hw) fun _ ↦ ?_
  refine wp_bind (wp_mono (told_bindSlot h fd _ _ hfree w hw) fun _ w hw ↦ ?_)
  exact wp_bind (wp_mono (told_modifyChannels (fun _ ↦ by rfl) w hw) fun _ w hw ↦ wp_pure ⟨hi, hw⟩)

theorem told_closeSlot :
    Triple (Told y) (onSlot i closeSlot) fun _ ↦ Told (y.setActive i false) := by
  refine told_onSlot_active i fun a l hl ↦ wp_bind (wp_modify ?_)
  have hk := slotKeeps_still false
  exact Triple.bind hk.millis (fun _ ↦ hk.modifySlot _ fun _ ↦ by rfl) _ ⟨rfl, hl.2⟩

theorem told_finalizeClose (hi : i < p.maxSlots) :
    Triple (Told y) (finalizeClose p i) fun done ↦
      Told (if done then y.setActive i false else y) := by
  refine fun w hw ↦ wp_ite (fun hrange ↦ ?_) fun _ ↦ ?_
  · simp only [Bool.or_eq_true, decide_eq_true_eq] at hrange
    omega
  refine told_getSlot_bind (fun ch hch w hw ↦ wp_ite (fun hact ↦ wp_pure ?_) fun hact ↦ ?_) w hw
  · have hno : y.active i = false := by
      rw [Int.toNat_natCast] at hch
      rw [← hch]
      simpa using hact
    rw [if_pos rfl, Story.setActive_self hno]
    exact hw
  rw [Int.toNat_natCast]
  refine wp_bind (wp_mono (told_onSlot i (fun a ↦ (slotKeeps_still a).releaseChannel) w hw)
    fun freed w hw ↦ wp_ite (fun _ ↦ wp_pure hw) fun _ ↦ ?_)
  refine wp_bind (wp_mono (told_onSlot i (fun a ↦ (slotKeeps_still a).discardLocal) w hw)
    fun _ w hw ↦ ?_)
  refine wp_bind (wp_mono (told_archiveSlotStats i w hw) fun _ w hw ↦ ?_)
  refine wp_bind (wp_mono (told_closeSlot w hw) fun _ w hw ↦ ?_)
  exact wp_bind (wp_mono (told_modifyChannels (fun _ ↦ by rfl) w hw) fun _ w hw ↦ wp_pure hw)

theorem told_abandonSlot (reason : ChannelCloseReason) (hi : i < p.maxSlots) :
    Triple (Told y) (abandonSlot p i reason) fun _ ↦ Told (y.setActive i false) := by
  refine fun w hw ↦ wp_ite (fun hrange ↦ ?_) fun _ ↦ ?_
  · simp only [Bool.or_eq_true, decide_eq_true_eq] at hrange
    omega
  refine told_getSlot_bind (fun ch hch w hw ↦ wp_ite (fun hact ↦ wp_pure ?_) fun hact ↦ ?_) w hw
  · have hno : y.active i = false := by
      rw [Int.toNat_natCast] at hch
      rw [← hch]
      simpa using hact
    rw [Story.setActive_self hno]
    exact hw
  rw [Int.toNat_natCast]
  refine wp_bind (wp_mono (told_onSlot i (fun a ↦ (slotKeeps_still a).dropLocal) w hw)
    fun _ w hw ↦ ?_)
  refine wp_bind (wp_mono (told_archiveSlotStats i w hw) fun _ w hw ↦ ?_)
  refine wp_bind (wp_mono (told_modifyChannels (fun _ ↦ by rfl) w hw) fun _ w hw ↦ ?_)
  exact told_onSlot_active i (fun a l hl ↦ wp_modify ⟨rfl, hl.2⟩) w hw

/-! ### Reports -/

/-- A report about slot `i` that is due. -/
theorem told_report {e : Event} {stage : Stage}
    (hself : ∀ id t s, slotNext i (y.stage i) (.call id t s (.sys (.emit e)) ()) = some stage)
    (hother : ∀ j, j ≠ i → ∀ id t s q, slotNext j q (.call id t s (.sys (.emit e)) ()) = some q)
    (hup : ∀ id t s up, sessionNext up (.call id t s (.sys (.emit e)) ()) = some up) :
    Triple (Told y) (emit e) fun _ ↦ Told (y.setStage i stage) := by
  refine fun w hw ↦ wp_call fun r t _ ↦ ⟨fun j ↦ track_cons (hw.stage j) ?_, track_cons hw.up (hup ..),
    hw.active, hw.state, hw.events, hw.degraded, hw.idle⟩
  by_cases hj : j = i
  · subst hj
    rw [hself, Story.setStage_stage_same]
  · rw [hother j hj, Story.setStage_stage_ne hj]

theorem told_emit_opened (h : y.stage i = .bound) :
    Triple (Told y) (emit (.channelOpened i)) fun _ ↦ Told (y.setStage i .live) := by
  refine told_report (fun _ _ _ ↦ ?_) (fun j hj _ _ _ _ ↦ ?_) fun _ _ _ _ ↦ rfl
  · simp [slotNext, sign?, h, Stage.next]
  · simp [slotNext, sign?, Ne.symm hj]

theorem told_emit_closed (reason : ChannelCloseReason) (h : y.stage i = .live) :
    Triple (Told y) (emit (.channelClosed i reason)) fun _ ↦ Told (y.setStage i .free) := by
  refine told_report (fun _ _ _ ↦ ?_) (fun j hj _ _ _ _ ↦ ?_) fun _ _ _ _ ↦ rfl
  · simp [slotNext, sign?, h, Stage.next]
  · simp [slotNext, sign?, Ne.symm hj]

theorem told_emit_connected (h : y.up = false) :
    Triple (Told y) (emit .sessionConnected) fun _ ↦ Told { y with up := true } := by
  refine fun w hw ↦ wp_call fun r t _ ↦ ⟨fun j ↦ track_cons (hw.stage j) rfl,
    track_cons hw.up ?_, hw.active, hw.state, hw.events, hw.degraded, hw.idle⟩
  rw [h]
  rfl

theorem told_emit_disconnected (h : y.up = true) :
    Triple (Told y) (emit .sessionDisconnected) fun _ ↦ Told { y with up := false } := by
  refine fun w hw ↦ wp_call fun r t _ ↦ ⟨fun j ↦ track_cons (hw.stage j) rfl,
    track_cons hw.up ?_, hw.active, hw.state, hw.events, hw.degraded, hw.idle⟩
  rw [h]
  rfl

/-! ### The pump -/

theorem told_pumpFallback : Preserves (Told y) (pumpFallback p) := by
  refine Preserves.get_bind fun s ↦ ?_
  dsimp only
  split
  · exact Preserves.ret
  · split
    · exact Preserves.ret
    · exact told_onSlot _ fun a ↦ (slotKeeps_still a).pumpRead _ _

theorem told_pumpSshSlot (i : ℕ) : Preserves (Told y) (pumpSshSlot p i) :=
  (told_getSlot i).bind fun _ ↦ (told_onSlot i fun a ↦ (slotKeeps_still a).pumpSlot).bind fun _ ↦
    (Preserves.when (told_mark fun _ _ ↦ rfl)).bind fun _ ↦ Preserves.ret

theorem told_pumpSshTransport : Preserves (Told y) (pumpSshTransport p) := by
  refine (told_lock _).bind fun _ ↦ Preserves.ite Preserves.ret (Preserves.get_bind fun s ↦ ?_)
  refine (Preserves.fold fun any i _ ↦ ?_).bind fun _ ↦
    (Preserves.when told_pumpFallback).bind fun _ ↦ told_unlock
  exact (told_pumpSshSlot i).bind fun _ ↦ Preserves.ret

theorem told_drainSshToLocal : Preserves (Told y) (drainSshToLocal p) :=
  Preserves.get_bind fun _ ↦ Preserves.each fun i _ ↦
    told_onSlot i fun a ↦ (slotKeeps_still a).drainSlot

theorem told_drainLocalSlot (i : ℕ) : Preserves (Told y) (drainLocalSlot p i) := by
  refine (told_getSlot i).bind fun _ ↦ Preserves.ite Preserves.ret (Preserves.ite Preserves.ret ?_)
  refine (Preserves.when ((told_lock _).bind fun _ ↦ Preserves.ite ?_ Preserves.ret)).bind fun _ ↦ ?_
  · exact (told_onSlot i fun a ↦ (slotKeeps_still a).writeChunks _ _).bind fun _ ↦
      told_unlock.bind fun _ ↦ told_onSlot i fun a ↦ (slotKeeps_still a).checkWriteStall
  · exact (told_onSlot i fun a ↦ (slotKeeps_still a).localBackpressure).bind fun _ ↦
      (told_onSlot i fun a ↦ (slotKeeps_still a).recvChunks).bind fun _ ↦
      told_mark fun _ _ ↦ rfl

theorem told_drainLocalToSsh : Preserves (Told y) (drainLocalToSsh p) :=
  Preserves.ite Preserves.ret (Preserves.get_bind fun _ ↦
    (Preserves.each fun i _ ↦ told_drainLocalSlot i).bind fun _ ↦
    told_modifyTransport (fun _ ↦ by rfl) fun _ ↦ by rfl)

theorem told_sendEofs (toSendEof : List ℕ) : Preserves (Told y) (sendEofs toSendEof) := by
  refine Preserves.ite ((told_lock _).bind fun _ ↦ Preserves.ite ?_ Preserves.ret) Preserves.ret
  exact (Preserves.each fun i _ ↦ told_onSlot i fun a ↦ (slotKeeps_still a).sendEofSlot).bind
    fun _ ↦ told_unlock

/-! ### The queues -/

theorem told_returning {α : Type} {m : TunnelM α} {Q : α → Assertion SSHTunnel Call Call.Reply Mark}
    {P : Assertion SSHTunnel Call Call.Reply Mark} (hm : Triple P m Q)
    (hQ : ∀ a, Preserves (Q a) (Prog.mark .returned)) : Triple P (returning m) Q :=
  Triple.bind hm fun a ↦ Triple.bind (hQ a) fun _ ↦ Triple.ret fun _ h ↦ h

theorem told_returned : Preserves (Told y) (Prog.mark .returned) := told_mark fun _ _ ↦ rfl

theorem told_closeAcceptedChannel (h : Handle) (ms : ℕ) :
    Preserves (Told y) (closeAcceptedChannel h ms) :=
  (told_lock _).bind fun _ ↦ Preserves.ite ((told_sys rfl).bind fun _ ↦
    (told_sys rfl).bind fun _ ↦ told_unlock.bind fun _ ↦ Preserves.ret) Preserves.ret

theorem told_closeEntry (pending : PendingChannel) (h : Handle) (ms : ℕ) :
    Preserves (Told y) (closeEntry pending h ms) :=
  (told_closeAcceptedChannel h ms).bind fun _ ↦ Preserves.ret

theorem told_enqueueDeferredClose (h : Handle) (mapping : TunnelConfig) :
    Preserves (Told y) (enqueueDeferredClose h mapping) := by
  refine told_returning ?_ fun _ ↦ told_returned
  refine (told_closeAcceptedChannel h _).bind fun _ ↦ Preserves.ite Preserves.ret ?_
  refine (told_mark fun _ _ ↦ by rfl).bind fun _ ↦ Preserves.get_bind fun _ ↦
    Preserves.ite Preserves.ret (told_millis.bind fun _ ↦ ?_)
  exact (told_modifyQueue fun hq ↦ by cases hq).bind fun _ ↦ Preserves.ret

/-- Changes of a queue, when it may change. -/
theorem told_compactEntry {q : QueueName} {I : Assertion SSHTunnel Call Call.Reply Mark}
    (hI : ∀ f, Preserves I (modifyQueue q f))
    {body : PendingChannel → Handle → TunnelM (Option PendingChannel)}
    (hbody : ∀ pending h, Preserves I (body pending h)) (writeIdx i : ℕ) :
    Preserves I (compactEntry q body writeIdx i) := by
  refine Preserves.get_bind fun s ↦ ?_
  dsimp only
  split
  · exact Preserves.ret
  · refine (hbody _ _).bind fun kept ↦ ?_
    split
    · exact (hI _).bind fun _ ↦ Preserves.ret
    · exact (hI _).bind fun _ ↦ (Preserves.when (hI _)).bind fun _ ↦ Preserves.ret

theorem told_compactQueue {q : QueueName} {I : Assertion SSHTunnel Call Call.Reply Mark}
    (hI : ∀ f, Preserves I (modifyQueue q f)) (hret : Preserves I (Prog.mark .returned))
    {body : PendingChannel → Handle → TunnelM (Option PendingChannel)}
    (hbody : ∀ pending h, Preserves I (body pending h)) : Preserves I (compactQueue q body) := by
  refine told_returning (Preserves.get_bind fun s ↦ Preserves.bind ?_ fun _ ↦ hI _) fun _ ↦ hret
  exact Preserves.fold fun writeIdx i _ ↦ told_compactEntry hI hbody writeIdx i

theorem told_drainDeferredIfAny : Preserves (Told y) drainDeferredIfAny := by
  refine Preserves.get_bind fun _ ↦ Preserves.ite (told_millis.bind fun now ↦ ?_) Preserves.ret
  exact told_compactQueue (fun _ ↦ told_modifyQueue fun hq ↦ by cases hq) told_returned
    fun pending h ↦ (told_closeAcceptedChannel _ _).bind fun _ ↦ Preserves.ret

theorem told_clearQueue (q : QueueName) : Preserves (Told y) (clearQueue q) := by
  refine told_returning ?_ fun _ ↦ told_returned
  refine Preserves.get_bind fun s ↦ Preserves.ite Preserves.ret ?_
  refine (told_lock _).bind fun _ ↦ Preserves.ite Preserves.ret ?_
  refine (Preserves.each fun i _ ↦ Preserves.get_bind fun s ↦ ?_).bind fun _ ↦
    told_unlock.bind fun _ ↦ (told_modifyQueue fun _ _ _ _ ↦ by rfl).bind fun _ ↦ Preserves.ret
  split
  · exact Preserves.ret
  · exact (told_sys rfl).bind fun _ ↦ (told_sys rfl).bind fun _ ↦
      told_modifyQueue fun _ _ _ h ↦ by exact h

theorem told_updateStats : Preserves (Told y) (updateStats p) :=
  (told_sys rfl).bind fun _ ↦ Preserves.ite
    ((told_modify fun _ ↦ by exact ⟨fun _ ↦ rfl, rfl, rfl, rfl, rfl⟩).bind fun _ ↦
      (told_sys rfl).bind fun _ ↦ Preserves.ret) Preserves.ret

end ReverseTunnel
