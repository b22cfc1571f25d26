import ReverseTunnel.System.Queues
import ReverseTunnel.Lifetime.Calls

/-!
# Teardown leaves nothing

`enterErrorState` and `disconnect` clear the queues and release the slots as far as the lock and
libssh2 let them; then the session goes down, and `dropEverything` drops what is left. Nothing of the
first part has to succeed: what it does is described by `Ending`, which says only that channels leave,
and `Dropped` is what the second part makes of that in any case.
-/

namespace ReverseTunnel

open Traced TunnelM

variable {p : Params} {ext : Bool} {g : Ledger} {w w₀ w' : TunnelWorld} {i : ℕ} {doomed : Bool}

/-! ### The session goes down -/

theorem wp_closeTransport : wp closeTransport (fun _ w' ↦ w'.st.session.socketfd < 0) w := by
  rw [closeTransport, wp_get_bind]
  refine wp_ite (fun _ ↦ ?_) fun hneg ↦ wp_pure (by omega)
  exact wp_call_bind fun _ _ _ ↦ wp_call_bind fun _ _ _ ↦ wp_modify (by simp)

theorem isConnected_of_socketfd {s : SSHSession} (h : s.socketfd < 0) : s.isConnected = false := by
  simp [SSHSession.isConnected, h]

/-- Whatever libssh2 does, the transport socket is closed in the end. -/
theorem wp_cleanupSession :
    wp cleanupSession (fun _ w' ↦ Calms w w' ∧ w'.st.session.isConnected = false) w := by
  refine wp_and (calm_cleanupSession w) ?_
  refine wp_bind (fun _ ↦ wp_bind fun _ ↦ wp_bind ?_)
  exact wp_mono wp_closeTransport fun _ _ h ↦ wp_modify (isConnected_of_socketfd h)

theorem wp_sessionDisconnect (hw : At p ext g w) :
    wp sessionDisconnect (fun _ w' ↦ At p ext { g with down := true, doomed := false } w' ∧
      Subsides p ext w w' ∧ w'.st.session.isConnected = false) w := by
  rw [sessionDisconnect, wp_mark_bind]
  refine wp_bind (wp_mono (wp_calm calm_cancelAllListeners (hw.step .goDown)) fun _ w₁ h₁ ↦ ?_)
  refine wp_mono wp_cleanupSession fun _ w₂ ⟨hc₂, hs₂⟩ ↦ ⟨h₁.1.calm hc₂, ?_, hs₂⟩
  have hmark : Subsides p ext w (w.marked .sessionDown) :=
    ⟨⟨rfl, rfl, rfl, id⟩, Recedes.marked (by simp) (by simp)⟩
  exact hmark.trans (h₁.2.trans hc₂).subsides

/-! ### Dropping what is left -/

/-- The loop invariant of the abandon pass: the slots in `rest` are still to come. -/
structure Dropping (p : Params) (ext : Bool) (g : Ledger) (w₀ : TunnelWorld) (rest : List ℕ)
    (w : TunnelWorld) : Prop where
  /-- Where the channels are. -/
  ledger : At p ext g w
  /-- Slots only leave. -/
  subsides : Subsides p ext w₀ w
  /-- The session is gone. -/
  session : w.st.session.isConnected = false
  /-- Slots that had their turn are free. -/
  slots : ∀ j < p.maxSlots, j ∉ rest → (w.st.channels.slots j).active = false

theorem triple_abandonSlot {rest : List ℕ} {reason : ChannelCloseReason} (hdown : g.down = true)
    (hdoom : g.doomed = false) (hi : i < p.maxSlots) :
    Triple (Dropping p ext g w₀ (i :: rest)) (abandonSlot p i reason)
      fun _ ↦ Dropping p ext g w₀ rest := by
  intro w hw
  refine wp_mono (wp_abandonSlot hw.ledger) ?_
  rintro _ w' ⟨⟨doomed, himp, hat⟩, hrel, hfree⟩
  have hdoomed : doomed = g.doomed := by
    rw [hdoom]
    by_contra hne
    rcases himp (by simpa using hne) with hd | hd
    · rw [hdoom] at hd; cases hd
    · rw [hdown] at hd; cases hd
  subst hdoomed
  refine ⟨hat, hw.subsides.trans hrel.toSubsides, hrel.session ▸ hw.session, fun j hj hjr ↦ ?_⟩
  by_cases hji : j = i
  · subst hji
    exact hfree (by omega) (by omega)
  · have hview := congrArg (·.ch.active) (hrel.spares.view_eq j (by simpa using hji))
    exact hview.trans (hw.slots j hj (by simp [hji, hjr]))

/-- Nothing is left, and on the way from `w₀` channels have only left. -/
structure Dropped (p : Params) (ext : Bool) (w₀ w : TunnelWorld) : Prop where
  /-- Arrays and ledger agree. -/
  ready : Ready p ext [] false w
  /-- Slots have only left. -/
  recedes : Recedes p ext w₀ w
  /-- No slot is active. -/
  slots : ∀ j, (w.st.channels.slots j).active = false
  /-- Both queues are empty. -/
  queues : ∀ q, (w.st.queue q).count = 0
  /-- The session is gone. -/
  session : w.st.session.isConnected = false

theorem ChannelQueue.live_eq_nil {x : ChannelQueue} (h : x.count = 0) : x.live = [] := by
  simp [live, h]

theorem vacant_of_tracks (ht : Tracks w.st g) (hhand : g.hand = [])
    (hslots : ∀ j, (w.st.channels.slots j).active = false)
    (hqueues : ∀ q, (w.st.queue q).count = 0) : Vacant w.st g := by
  have hnil : ∀ q, g.queue q = [] := fun q ↦ by
    have := ht q
    rw [ChannelQueue.live_eq_nil (hqueues q)] at this
    exact List.map_eq_nil_iff.1 this.symm
  exact ⟨hslots, hnil .pending, hnil .deferredClose, hhand⟩

theorem wp_dropEverything {reason : ChannelCloseReason} (hr : Ready p ext [] doomed w)
    (hrec : Recedes p ext w₀ w) :
    wp (dropEverything p reason) (fun _ w' ↦ Dropped p ext w₀ w') w := by
  obtain ⟨g, hat, -, -, -, -⟩ := hr
  refine wp_bind (wp_mono (wp_sessionDisconnect hat) fun _ w₁ ⟨hat₁, hsub₁, hs₁⟩ ↦ ?_)
  have hstart : Dropping p ext { g with down := true, doomed := false } w (List.range p.maxSlots)
      w₁ := ⟨hat₁, hsub₁, hs₁, fun j hj hnot ↦ absurd (List.mem_range.2 hj) hnot⟩
  have hloop := Triple.each (l := List.range p.maxSlots) (f := fun i ↦ abandonSlot p i reason)
    (I := Dropping p ext { g with down := true, doomed := false } w) fun i l' hsuff ↦
      triple_abandonSlot rfl rfl (List.mem_range.1 (hsuff.subset (List.mem_cons_self ..)))
  refine wp_bind (wp_mono (hloop w₁ hstart) fun _ w₂ h₂ ↦ ?_)
  have hslots : ∀ j, (w₂.st.channels.slots j).active = false := by
    intro j
    rcases Nat.lt_or_ge j p.maxSlots with hj | hj
    · exact h₂.slots j hj (by simp)
    · exact h₂.ledger.inactive_of_le hj
  rw [modifyQueue_eq, modifyQueue_eq, wp_modify_bind]
  refine wp_modify ?_
  have hat₃ := ((h₂.ledger.mapQueue (q := .pending) (f := (·.nulled))).mapQueue
    (q := .deferredClose) (f := (·.nulled))).step (.forget rfl)
  have hqueues : ∀ q, (((w₂.st.mapQueue .pending (·.nulled)).mapQueue .deferredClose
      (·.nulled)).queue q).count = 0 := by
    intro q
    cases q <;> rfl
  refine ⟨⟨_, hat₃.step (.comeUp rfl ⟨hslots, rfl, rfl, rfl⟩), fun q ↦ ?_, rfl, rfl, rfl⟩, ?_,
    hslots, hqueues, h₂.session⟩
  · refine (ChannelQueue.live_eq_nil (hqueues q)).trans ?_
    cases q <;> rfl
  · exact ((hrec.trans h₂.subsides.toRecedes).trans (Recedes.update rfl)).trans
      (Recedes.update rfl)

/-- What changes neither slots nor queues nor the session keeps everything dropped. -/
theorem Dropped.quiet (h : Dropped p ext w₀ w) (hc : Calms w w')
    (hs : w'.st.session = w.st.session) : Dropped p ext w₀ w' :=
  ⟨h.ready.calm hc, h.recedes.trans hc.subsides.toRecedes, fun j ↦ hc.channels ▸ h.slots j,
    fun q ↦ by rw [hc.queueFrame.queue]; exact h.queues q, hs ▸ h.session⟩

/-- With nothing left, the tunnel may enter any state. -/
theorem Dropped.enter (h : Dropped p ext w₀ w) {f : SSHTunnel → SSHTunnel}
    (hc : (f w.st).channels = w.st.channels) (hq : ∀ q, (f w.st).queue q = w.st.queue q)
    (hs : (f w.st).session = w.st.session) : Dropped p ext w₀ (w.update f) := by
  obtain ⟨g, hat, ht, hhand, hdown, hdoom⟩ := h.ready
  have hv := vacant_of_tracks ht hhand h.slots h.queues
  refine ⟨⟨g, hat.step (.state hc (.inr (.inr hv))), fun q ↦ ?_, hhand, hdown, hdoom⟩,
    h.recedes.trans (Recedes.update (by rw [hc])), fun j ↦ ?_, fun q ↦ ?_, ?_⟩
  · rw [World.update_st, hq q]
    exact ht q
  · rw [World.update_st, hc]
    exact h.slots j
  · rw [World.update_st, hq q]
    exact h.queues q
  · rw [World.update_st, hs]
    exact h.session

theorem Dropped.wp_updateStats (h : Dropped p ext w₀ w) :
    wp (updateStats p) (fun _ w' ↦ Dropped p ext w₀ w' ∧ w'.st.state = w.st.state) w := by
  rw [updateStats]
  refine wp_call_bind fun locked t ht ↦ ?_
  have h₁ := h.quiet (Calms.call (c := .statsLock 5) (r := locked) trivial ht) rfl
  refine wp_ite (fun _ ↦ ?_) fun _ ↦ wp_pure ⟨h₁, rfl⟩
  rw [wp_modify_bind]
  refine wp_call_bind fun r t' ht' ↦ wp_pure ⟨Dropped.quiet ?_ (Calms.call trivial ht') rfl, rfl⟩
  exact h₁.quiet (Calms.update rfl rfl rfl rfl rfl) rfl

/-! ### Every socket is closed once -/

theorem countP_closes (i : ℕ) (fd : Int) (tr : Trace SSHTunnel Call Call.Reply Mark) :
    (slotLog i tr).countP (closes fd) = tr.countP (closesSocket i fd) := by
  rw [slotLog, List.countP_filterMap]
  congr 1
  funext x
  cases x with
  | call id t s c r =>
    cases c with
    | io j c =>
      by_cases hj : j = i
      · subst hj
        cases c <;> simp [slotItem?, closes, closesSocket]
      · cases c <;> simp [slotItem?, closesSocket, hj]
    | sys c => rfl
  | mark t s m =>
    cases m with
    | slot j sm => by_cases hj : j = i <;> simp [slotItem?, closes, closesSocket, hj]
    | _ => rfl

/-- A teardown from `w` to `w'` is complete. -/
def TearsDown (w w' : TunnelWorld) : Prop :=
  ∃ t s mid, w'.trace = .mark t s .tornDown :: (mid ++ .mark w.clock w.st .tearingDown :: w.trace) ∧
    (∀ x ∈ mid, isTearingDown x = false) ∧ TornDown w.st w'.st mid

theorem Dropped.activeCount (h : Dropped p ext w₀ w) : w.st.channels.activeCount = 0 := by
  obtain ⟨g, hat, -⟩ := h.ready
  rw [hat.activeCount_eq, SSHTunnel.activeSlots, List.countP_eq_zero.2]
  · rfl
  · intro i _
    rw [h.slots i]
    simp

/-- What has been dropped between the marks of a teardown is all there was. -/
theorem Dropped.tornDown (hw : At p ext g w) (h : Dropped p ext (w.marked .tearingDown) w') :
    ∃ mid, w'.trace = mid ++ .mark w.clock w.st .tearingDown :: w.trace ∧
      (∀ x ∈ mid, isTearingDown x = false) ∧ TornDown w.st w'.st mid := by
  obtain ⟨mid, ht, hmid⟩ := h.recedes.trace
  obtain ⟨g', hat, -⟩ := h.ready
  refine ⟨mid, ht, hmid, fun i ↦ ⟨h.slots i, (hat.sound i).dead (h.slots i)⟩, h.activeCount,
    h.queues .pending, h.queues .deferredClose, h.session, fun i hact ↦ ?_⟩
  have hv := h.recedes.views i
  rw [slotView_marked (by simp)] at hv
  have hcount := ((hv.closes_once (hw.sound i)).2 hact).2
  simp only [slotView_ch, slotView_log, h.slots i, countP_closes, Bool.toNat_false, ht,
    World.marked_trace, List.countP_append, List.countP_cons, closesSocket, Bool.false_eq_true,
    if_false] at hcount
  omega

/-- The end of a teardown. -/
theorem Dropped.wp_mark (hw : At p ext g w) (h : Dropped p ext (w.marked .tearingDown) w') :
    wp (Prog.mark .tornDown) (fun _ w'' ↦ Ready p ext [] false w'' ∧
      w''.st.state = w'.st.state ∧ TearsDown w w'') w' := by
  obtain ⟨mid, ht, hmid, hd⟩ := h.tornDown hw
  obtain ⟨g', hat, htr, hg⟩ := h.ready
  exact Traced.wp_mark ⟨⟨g', hat.step (.tornDown ht hmid hd), htr, hg⟩, rfl, _, _, mid,
    congrArg _ ht, hmid, hd⟩

/-! ### The first part of a teardown -/

/-- Since `w₀` channels have only left, and the session may be doomed for one of them. -/
def Ending (p : Params) (ext : Bool) (w₀ w : TunnelWorld) : Prop :=
  ∃ doomed, Ready p ext [] doomed w ∧ StateFrame w₀ w ∧ Recedes p ext w₀ w

theorem Ready.ending (h : Ready p ext [] doomed w) : Ending p ext w w :=
  ⟨doomed, h, StateFrame.refl w, Recedes.refl w⟩

namespace Ending

theorem calm (h : Ending p ext w₀ w) (hc : Calms w w') : Ending p ext w₀ w' := by
  obtain ⟨doomed, hr, hf, hrec⟩ := h
  exact ⟨doomed, hr.calm hc, hf.trans hc.queueFrame.stateFrame, hrec.trans hc.subsides.toRecedes⟩

theorem wp_calm {α : Type} {m : TunnelM α} (h : Ending p ext w₀ w) (hm : Calm m) :
    wp m (fun _ w' ↦ Ending p ext w₀ w') w :=
  wp_mono (hm w) fun _ _ hc ↦ h.calm hc

theorem wp_clearQueue {q : QueueName} (h : Ending p ext w₀ w) :
    wp (clearQueue q) (fun _ w' ↦ Ending p ext w₀ w') w := by
  obtain ⟨doomed, hr, hf, hrec⟩ := h
  exact wp_mono (ReverseTunnel.wp_clearQueue hr) fun _ _ ⟨hr', hf', hrec'⟩ ↦
    ⟨doomed, hr', hf.trans hf', hrec.trans hrec'⟩

/-- Through libssh2 or not, a slot is released or stays. -/
theorem wp_releaseSlot {locked : Bool} {reason : ChannelCloseReason} (h : Ending p ext w₀ w) :
    wp (releaseSlot p locked i reason) (fun _ w' ↦ Ending p ext w₀ w') w := by
  obtain ⟨doomed, ⟨g, hat, ht, hhand, hdown, hdoom⟩, hf, hrec⟩ := h
  refine wp_ite (fun _ ↦ ?_) fun _ ↦ ?_
  · refine wp_bind (wp_mono (wp_finalizeClose hat hdown) fun _ w' ⟨hat', hrel, _⟩ ↦ wp_pure ?_)
    exact ⟨doomed, ⟨g, hat', hrel.tracks ht, hhand, hdown, hdoom⟩,
      hf.trans hrel.toQueueFrame.stateFrame, hrec.trans hrel.toRecedes⟩
  · refine wp_mono (wp_abandonSlot hat) fun _ w' ⟨⟨doomed', _, hat'⟩, hrel, _⟩ ↦ ?_
    refine ⟨doomed', ⟨_, hat', fun q ↦ ?_, hhand, hdown, rfl⟩,
      hf.trans hrel.toQueueFrame.stateFrame, hrec.trans hrel.toRecedes⟩
    have := hrel.tracks ht q
    cases q <;> exact this

theorem wp_closeOrphan {locked : Bool} (h : Ending p ext w₀ w) :
    wp (closeOrphan p locked i) (fun _ w' ↦ Ending p ext w₀ w') w := by
  rw [closeOrphan, wp_getSlot_bind]
  refine wp_ite (fun _ ↦ ?_) fun _ ↦ wp_pure h
  exact wp_bind (wp_mono h.wp_releaseSlot fun _ _ h' ↦ h'.wp_calm (calm_emit _))

theorem wp_closeManually {locked : Bool} (h : Ending p ext w₀ w) :
    wp (closeManually p locked i) (fun _ w' ↦ Ending p ext w₀ w') w := by
  rw [closeManually, wp_getSlot_bind]
  refine wp_ite (fun _ ↦ wp_pure h) fun _ ↦ ?_
  exact wp_bind (wp_mono h.wp_releaseSlot fun _ _ h' ↦ h'.wp_calm (calm_emit _))

/-- Both queues are cleared as far as possible. -/
theorem wp_clearQueues {α : Type} {f : TunnelM α} {Q : α → Assertion SSHTunnel Call Call.Reply Mark}
    (h : Ending p ext w₀ w) (hf : ∀ w', Ending p ext w₀ w' → wp f Q w') :
    wp (do
      let _ ← clearQueue .pending
      let _ ← clearQueue .deferredClose
      f) Q w :=
  wp_bind (wp_mono h.wp_clearQueue fun _ _ h₁ ↦
    wp_bind (wp_mono h₁.wp_clearQueue fun _ w₂ h₂ ↦ hf w₂ h₂))

/-- Slots are released one after the other, then the lock is given back and everything is
dropped. -/
theorem wp_dropAll {α : Type} {locked : Bool} {close : ℕ → TunnelM Unit}
    {reason : ChannelCloseReason} {f : TunnelM α}
    {Q : α → Assertion SSHTunnel Call Call.Reply Mark} (h : Ending p ext w₀ w)
    (hclose : ∀ i, Preserves (Ending p ext w₀) (close i))
    (hf : ∀ w', Dropped p ext w₀ w' → wp f Q w') :
    wp (do
      Prog.each (List.range p.maxSlots) close
      Prog.when locked unlock
      dropEverything p reason
      f) Q w := by
  refine wp_bind (wp_mono (Preserves.each (fun i _ ↦ hclose i) w h) fun _ w₁ h₁ ↦ ?_)
  refine wp_bind (wp_mono (h₁.wp_calm (calm_when calm_unlock)) fun _ w₂ ⟨_, hr, _, hrec⟩ ↦ ?_)
  exact wp_bind (wp_mono (wp_dropEverything hr hrec) fun _ w₃ h₃ ↦ hf w₃ h₃)

end Ending

/-! ### The teardowns -/

/-- The beginning of a teardown. -/
theorem Ready.tearingDown (h : Ready p ext [] doomed w) :
    Ending p ext (w.marked .tearingDown) (w.marked .tearingDown) := by
  obtain ⟨g, hat, ht, hg⟩ := h
  exact Ready.ending ⟨g, hat.step (.mark (.inr (.inr rfl))), ht, hg⟩

theorem wp_enterErrorState (hr : Ready p ext [] doomed w) :
    wp (enterErrorState p) (fun _ w' ↦ Ready p ext [] false w' ∧ w'.st.state = .error ∧
      TearsDown w w') w := by
  have hstart := hr.tearingDown
  obtain ⟨g, hat, -⟩ := hr
  rw [enterErrorState, wp_mark_bind]
  refine hstart.wp_clearQueues fun w₂ h₂ ↦ ?_
  refine wp_bind (wp_mono (h₂.wp_calm (calm_lock 500)) fun locked w₃ h₃ ↦ ?_)
  refine h₃.wp_dropAll (fun i u hu ↦ hu.wp_closeOrphan) fun w₄ h₄ ↦ ?_
  refine wp_bind (wp_mono h₄.wp_updateStats fun _ w₅ ⟨h₅, _⟩ ↦ ?_)
  rw [wp_modify_bind]
  have h₆ := h₅.enter (f := fun s ↦ { s with state := .error, socketHealthFailures := 0 }) rfl
    (fun q ↦ by cases q <;> rfl) rfl
  refine wp_millis_tunnel fun t ht ↦ ?_
  rw [wp_modify_bind]
  have h₇ := (h₆.quiet (Calms.wait ht) rfl).quiet (Calms.update
    (f := fun s ↦ { s with lastConnectionAttempt := Clock32.stamp t }) rfl rfl rfl rfl rfl) rfl
  rw [wp_mark_bind]
  refine wp_call_bind fun r t' ht' ↦ ?_
  have h₈ := h₇.quiet (Calms.note (n := .clocked) trivial) rfl
  exact Dropped.wp_mark hat (h₈.quiet (Calms.call trivial ht') rfl)

theorem calm_lockIfConnected (ms : ℕ) : Calm (lockIfConnected ms) :=
  calm_get_bind fun _ ↦ calm_ite (calm_lock _) (calm_pure _)

theorem wp_disconnect (hr : Ready p ext [] doomed w) :
    wp (disconnect p) (fun _ w' ↦ Ready p ext [] false w' ∧ w'.st.state = .disconnected ∧
      TearsDown w w') w := by
  have hstart := hr.tearingDown
  obtain ⟨g, hat, -⟩ := hr
  rw [disconnect, wp_mark_bind]
  refine hstart.wp_clearQueues fun w₂ h₂ ↦ ?_
  refine wp_bind (wp_mono (h₂.wp_calm (calm_lockIfConnected 2000)) fun locked w₃ h₃ ↦ ?_)
  refine h₃.wp_dropAll (fun i u hu ↦ hu.wp_closeManually) fun w₄ h₄ ↦ ?_
  refine wp_bind (wp_mono h₄.wp_updateStats fun _ w₅ ⟨h₅, _⟩ ↦ ?_)
  rw [wp_get_bind]
  refine wp_bind (wp_mono (Q := fun _ w' ↦ Dropped p ext (w.marked .tearingDown) w')
    (wp_when (fun _ ↦ wp_call fun r t ht ↦ h₅.quiet (Calms.call trivial ht) rfl) fun _ ↦ h₅) ?_)
  intro _ w₆ h₆
  rw [wp_modify_bind]
  have h₇ := h₆.enter (f := fun s ↦ { s with socketHealthFailures := 0, state := .disconnected })
    rfl (fun q ↦ by cases q <;> rfl) rfl
  exact h₇.wp_mark hat

end ReverseTunnel
