import ReverseTunnel.Lib.Streak
import ReverseTunnel.Tunnel.Keeps
import ReverseTunnel.System.Trace

/-!
# A session is given up for cause

While it is connected, `loop` watches its session in four ways: it asks the socket for errors, it
sends keepalives, it looks at why no channel was accepted, and it notices when a slot had to be given
up with its channel. Three of these have a counter somewhere in the tunnel or in the session, which
other functions reset; the fourth has a flag. Here all four are read off the trace, where a `Symptom`
is what libssh2 and the socket have **answered** since the session began.

A connected tunnel has none of them, after any run. An iteration that ends unconnected has begun its
teardown with one of them present: three bad answers of the socket without a good one, three
keepalives that could not be sent without one that could (`EAGAIN` says nothing), three fatal accept
errors without an accepted channel or a harmless answer, or one slot that was given up.
-/

namespace ReverseTunnel

open Traced TunnelM

variable {p : Params} {w w₀ w' : TunnelWorld} {st : TunnelState} {k : ℕ}
  {tr : Trace SSHTunnel Call Call.Reply Mark}

/-! ### Symptoms -/

/-- What `loop` gives a session up for. -/
inductive Symptom where
  /-- The socket reports errors. -/
  | socket
  /-- Keepalives cannot be sent. -/
  | keepalive
  /-- Accepting a channel fails. -/
  | accept
  /-- A slot was given up. -/
  | abandoned
  deriving DecidableEq

/-- What an entry of the trace says about a symptom. The end of the session clears everything. -/
def Symptom.judge (s : Symptom) : Item SSHTunnel Call Call.Reply Mark → Streak.Observation
  | .mark _ _ .sessionDown => .clear
  | .mark _ _ (.note (.abandoning _)) => if s = .abandoned then .strike else .silent
  | .call _ _ _ (.sys (.soError _)) res =>
    let res : Int × Int := res
    if s = .socket then if res.1 = 0 && res.2 = 0 then .clear else .strike else .silent
  | .call _ _ _ (.sys (.keepaliveSend _)) rc =>
    -- every other error of libssh2 clears the count, as a keepalive that was sent does
    if s = .keepalive then
      if rc = errorSocketSend then .strike else if rc = errorEagain then .silent else .clear
    else .silent
  | .call _ _ _ (.sys (.forwardAccept _)) accepted =>
    if s = .accept && accepted then .clear else .silent
  -- the error is asked for only where no channel was accepted
  | .call _ _ _ (.sys (.lastErrno _)) err =>
    if s = .accept then if isFatalAcceptError err then .strike else .clear else .silent
  | _ => .silent

/-- How often it is put up with. -/
def Symptom.limit : Symptom → ℕ
  | abandoned => 1
  | _ => 3

/-- The strikes since something cleared them. -/
def Symptom.count (s : Symptom) (tr : Trace SSHTunnel Call Call.Reply Mark) : ℕ :=
  Streak.strikes s.judge tr

/-- The symptom is there. -/
def Symptom.Present (s : Symptom) (tr : Trace SSHTunnel Call Call.Reply Mark) : Prop :=
  Streak.InARow s.judge s.limit tr

/-- From `w₀` to `w` a teardown has begun, and there was a symptom when it did. -/
def GivenUp (w₀ w : TunnelWorld) : Prop :=
  ∃ newer t s items, w.trace = newer ++ .mark t s .tearingDown :: (items ++ w₀.trace) ∧
    ∃ symptom : Symptom, symptom.Present (items ++ w₀.trace)

theorem Symptom.present_iff {s : Symptom} : s.Present tr ↔ s.limit ≤ s.count tr :=
  Streak.inARow_iff

variable {s : Symptom} {x : Item SSHTunnel Call Call.Reply Mark}

theorem count_strike (h : s.judge x = .strike) : s.count (x :: tr) = s.count tr + 1 :=
  Streak.strikes_strike h

theorem count_silent (h : s.judge x = .silent) : s.count (x :: tr) = s.count tr :=
  Streak.strikes_silent h

theorem count_clear (h : s.judge x = .clear) : s.count (x :: tr) = 0 :=
  Streak.strikes_clear h

/-- The end of a locked section says nothing. -/
theorem count_unlock (r : Call.Reply (.sys .unlock)) (t : ℕ) :
    s.count (w.after (.sys .unlock) r t).trace = s.count w.trace :=
  count_silent rfl

theorem judge_call {c : SysCall} (hc : c.probes = false) (id t : ℕ) (st : SSHTunnel) (r : c.Reply)
    (s : Symptom) : s.judge (.call id t st (.sys c) r) = .silent := by
  cases c <;> first | rfl | cases hc

theorem judge_quiet {m : Mark} (hm : m.quiet = true) (t : ℕ) (st : SSHTunnel) (s : Symptom) :
    s.judge (.mark t st m) = .silent := by
  cases m with
  | note n => cases n <;> first | rfl | cases hm
  | sessionDown => cases hm
  | _ => rfl

/-! ### What most of the tunnel does to them -/

/-- From `w₀` to `w` nothing was heard about the session, and what is counted was left alone. -/
structure Unheard (w₀ w : TunnelWorld) : Prop where
  /-- The tunnel state is as it was. -/
  state : w.st.state = w₀.st.state
  /-- The session is as it was. -/
  session : w.st.session = w₀.st.session
  /-- The failures of the socket are as they were. -/
  socketHealthFailures : w.st.socketHealthFailures = w₀.st.socketHealthFailures
  /-- The flag is as it was. -/
  sessionDegraded : w.st.transport.sessionDegraded = w₀.st.transport.sessionDegraded
  /-- Nothing was heard. -/
  trace : ∃ items, w.trace = items ++ w₀.trace ∧ ∀ x ∈ items, ∀ s : Symptom, s.judge x = .silent

theorem Unheard.count_eq (h : Unheard w w') (s : Symptom) : s.count w'.trace = s.count w.trace := by
  obtain ⟨items, ht, hi⟩ := h.trace
  rw [ht]
  exact Streak.strikes_append fun x hx ↦ hi x hx s

/-- What such a change cannot break, the tunnel cannot where it leaves its session alone. -/
theorem quietTunnel_of_unheard {I : TunnelWorld → Prop}
    (hI : ∀ w w', I w → Unheard w w' → I w') : QuietTunnel I where
  quietCall _ hc w h := wp_callId fun _ _ _ ↦ hI w _ h
    ⟨rfl, rfl, rfl, rfl, [_], rfl, List.forall_mem_singleton.2 (judge_call hc _ _ _ _)⟩
  millis w h := wp_tick_bind fun _ _ ↦ wp_pure (hI w _ h ⟨rfl, rfl, rfl, rfl, [], rfl, by simp⟩)
  quietMark _ hm w h := wp_mark (hI w _ h
    ⟨rfl, rfl, rfl, rfl, [_], rfl, List.forall_mem_singleton.2 (judge_quiet hm _ _)⟩)
  onSlot _ _ w h := by
    refine wp_onSlot fun _ ↦ hI w _ h ⟨rfl, rfl, rfl, rfl, _, rfl, fun x hx s ↦ ?_⟩
    obtain ⟨y, -, rfl⟩ := List.mem_map.1 hx
    cases y with
    | call id t st c r => rfl
    | mark t st m => rfl
  quietModify _ hf w h := wp_modify (hI w _ h ⟨hf.state _, hf.session _, hf.socketHealthFailures _,
    hf.sessionDegraded _, [], rfl, by simp⟩)

/-- The trace tells the same when it grows. -/
def Lasting (G : TunnelWorld → Prop) : Prop :=
  ∀ u u' more, G u → u'.trace = more ++ u.trace → G u'

theorem tunnelKeeps_of_lasting {G : TunnelWorld → Prop} (hG : Lasting G) : TunnelKeeps G where
  sysId _ w h := wp_callId fun _ _ _ ↦ hG w _ [_] h rfl
  millis w h := wp_tick_bind fun _ _ ↦ wp_pure (hG w _ [] h rfl)
  mark _ _ w h := wp_mark (hG w _ [_] h rfl)
  onSlot _ _ w h := wp_onSlot fun _ ↦ hG w _ _ h rfl
  modify _ _ w h := wp_modify (hG w _ [] h rfl)

theorem lasting_givenUp (w₀ : TunnelWorld) : Lasting (GivenUp w₀) := by
  rintro u u' more ⟨newer, t, st, items, ht, hs⟩ hmore
  refine ⟨more ++ newer, t, st, items, ?_, hs⟩
  rw [hmore, ht, List.append_assoc]

theorem lasting_grown (w₀ : TunnelWorld) : Lasting (Grown w₀) := by
  rintro u u' more ⟨items, ht⟩ hmore
  exact ⟨more ++ items, by rw [hmore, ht, List.append_assoc]⟩

/-- A teardown that begins with a symptom. -/
theorem Grown.givenUp (hg : Grown w₀ w) (hs : s.Present w.trace) :
    GivenUp w₀ (w.marked .tearingDown) := by
  obtain ⟨items, ht⟩ := hg
  refine ⟨[], w.clock, w.st, items, ?_, s, ht ▸ hs⟩
  rw [World.marked_trace, ht]
  rfl

/-! ### The session goes down -/

/-- Nothing has been heard, and the tunnel has counted `k` failures of the socket all the same. -/
structure Hushed (st : TunnelState) (k : ℕ) (w : TunnelWorld) : Prop where
  /-- The tunnel state. -/
  state : w.st.state = st
  /-- The failures of the socket. -/
  socket : w.st.socketHealthFailures = k
  /-- No slot is reported. -/
  degraded : w.st.transport.sessionDegraded = false
  /-- Nothing has been heard. -/
  counts : ∀ s : Symptom, s.count w.trace = 0

/-- Nothing is counted in the session either. -/
structure Spotless (st : TunnelState) (k : ℕ) (w : TunnelWorld) : Prop extends Hushed st k w where
  /-- No keepalive has failed. -/
  keepalive : w.st.session.keepAliveFailures = 0
  /-- No accept has failed. -/
  accept : w.st.session.consecutiveFatalAcceptErrors = 0

theorem Hushed.later (h : Hushed st k w) (hu : Unheard w w') : Hushed st k w' :=
  ⟨hu.state.trans h.state, hu.socketHealthFailures.trans h.socket,
    hu.sessionDegraded.trans h.degraded, fun s ↦ (hu.count_eq s).trans (h.counts s)⟩

theorem Spotless.later (h : Spotless st k w) (hu : Unheard w w') : Spotless st k w' :=
  ⟨h.toHushed.later hu, (congrArg _ hu.session).trans h.keepalive,
    (congrArg _ hu.session).trans h.accept⟩

theorem quietTunnel_spotless (st : TunnelState) (k : ℕ) : QuietTunnel (Spotless st k) :=
  quietTunnel_of_unheard fun _ _ h hu ↦ h.later hu

theorem quietSession_hushed (st : TunnelState) (k : ℕ) : QuietSession (Hushed st k) where
  quietCall c hc w h := wp_callId fun r t _ ↦ h.later ⟨rfl, rfl, rfl, rfl, [_], rfl,
    List.forall_mem_singleton.2 (judge_call (by simpa using (Bool.and_eq_true_iff.1 hc).2) _ _ _ _)⟩
  calmSession _ _ _ h := wp_modify ⟨h.state, h.socket, h.degraded, h.counts⟩

theorem quietSession_spotless (st : TunnelState) (k : ℕ) : QuietSession (Spotless st k) where
  quietCall c hc w h := wp_callId fun r t _ ↦ h.later ⟨rfl, rfl, rfl, rfl, [_], rfl,
    List.forall_mem_singleton.2 (judge_call (by simpa using (Bool.and_eq_true_iff.1 hc).2) _ _ _ _)⟩
  calmSession _ hf _ h := wp_modify ⟨⟨h.state, h.socket, h.degraded, h.counts⟩,
    Nat.le_zero.1 (h.keepalive ▸ (hf _).1), Nat.le_zero.1 (h.accept ▸ (hf _).2)⟩

/-- With the session everything that was heard and counted is gone. -/
theorem triple_sessionDisconnect : Triple (fun w : TunnelWorld ↦ w.st.state = st ∧
    w.st.socketHealthFailures = k ∧ w.st.transport.sessionDegraded = false)
    sessionDisconnect fun _ ↦ Spotless st k := by
  rintro w ⟨hst, hk, hd⟩
  -- the mark clears what was heard, and `cleanupSession` at last what the session counts
  have hH := quietSession_hushed st k
  rw [sessionDisconnect, wp_mark_bind]
  have h : Hushed st k (w.marked .sessionDown) := ⟨hst, hk, hd, fun s ↦ count_clear rfl⟩
  refine wp_bind (wp_mono (hH.cancelAllListeners _ h) fun _ u hu ↦ ?_)
  rw [cleanupSession]
  refine wp_bind (wp_mono (hH.cancelAllListeners u hu) fun _ u hu ↦ ?_)
  refine wp_bind (wp_mono (hH.freeSession u hu) fun _ u hu ↦ ?_)
  refine wp_bind (wp_mono (hH.closeTransport u hu) fun _ u hu ↦ wp_modify ?_)
  exact ⟨⟨hu.state, hu.socket, hu.degraded, hu.counts⟩, rfl, rfl⟩

theorem quietTunnel_degraded :
    QuietTunnel fun w : TunnelWorld ↦ w.st.transport.sessionDegraded = false :=
  quietTunnel_of_unheard fun _ _ h hu ↦ hu.sessionDegraded.trans h

theorem quietTunnel_down : QuietTunnel fun w ↦ ∃ st k, Spotless st k w := by
  refine quietTunnel_of_unheard ?_
  rintro w w' ⟨st, k, h⟩ hu
  exact ⟨st, k, h.later hu⟩

theorem triple_goesDown : Triple (fun w : TunnelWorld ↦ w.st.transport.sessionDegraded = false)
    sessionDisconnect fun _ w ↦ ∃ st k, Spotless st k w :=
  fun w hd ↦ wp_mono (triple_sessionDisconnect w ⟨rfl, rfl, hd⟩) fun _ _ h ↦ ⟨_, _, h⟩

/-- Whatever was counted before, nothing is in the error state. -/
theorem triple_enterErrorState_health {G : TunnelWorld → Prop} (hG : Lasting G) :
    Triple (fun w ↦ w.st.transport.sessionDegraded = false ∧ G (w.marked .tearingDown))
      (enterErrorState p) fun _ w ↦ Spotless .error 0 w ∧ G w := by
  have hkeep := tunnelKeeps_of_lasting hG
  refine (quietTunnel_degraded.and hkeep.toQuietTunnel).enterErrorState
    (quietTunnel_down.and hkeep.toQuietTunnel) ?_ ?_ ?_
  · rintro w ⟨hd, hg⟩
    exact wp_mark ⟨hd, hg⟩
  · rintro w ⟨hd, hg⟩
    exact wp_and (triple_goesDown w hd) (hkeep.sessionDisconnect w hg)
  · rintro w ⟨⟨st, k, h⟩, hg⟩
    rw [wp_modify_bind]
    refine wp_millis_tunnel fun t _ ↦ ?_
    rw [wp_modify_bind, wp_mark_bind]
    refine wp_call_bind fun r t' _ ↦ wp_mark ⟨⟨⟨rfl, rfl, h.degraded, fun s ↦ ?_⟩, h.keepalive,
      h.accept⟩, hG w _ [_, _, _] hg rfl⟩
    rw [World.marked_trace, count_silent rfl, World.after_trace, count_silent rfl]
    exact (count_silent rfl).trans (h.counts s)

theorem triple_disconnect_health :
    Triple (fun w : TunnelWorld ↦ w.st.transport.sessionDegraded = false) (disconnect p)
      fun _ ↦ Spotless .disconnected 0 := by
  refine quietTunnel_degraded.disconnect quietTunnel_down ?_ triple_goesDown ?_
  · exact fun w hd ↦ wp_mark hd
  · rintro w ⟨st, k, h⟩
    rw [wp_modify_bind]
    refine wp_mark ⟨⟨rfl, rfl, h.degraded, fun s ↦ ?_⟩, h.keepalive, h.accept⟩
    exact (count_silent rfl).trans (h.counts s)

/-! ### Connecting -/

/-- A connection begins and ends with nothing counted. -/
theorem wp_connectSSH_health (h : Spotless st 0 w) (hst : st ≠ .connected) :
    wp (connectSSH p) (fun _ w' ↦ Spotless .connected 0 w' ∨ Spotless .error 0 w') w := by
  rw [connectSSH, wp_get_bind, if_neg (by rw [h.state]; exact hst), wp_modify_bind]
  refine wp_millis_tunnel fun t _ ↦ ?_
  rw [wp_modify_bind, wp_mark_bind]
  refine wp_bind (wp_mono ((quietSession_spotless .connecting 0).sessionConnect _ ?_)
    fun connected u hu ↦ ?_)
  · refine ⟨⟨rfl, h.socket, h.degraded, fun s ↦ ?_⟩, h.keepalive, h.accept⟩
    exact (count_silent rfl).trans (h.counts s)
  refine wp_ite (fun _ ↦ ?_) fun _ ↦ ?_
  · rw [wp_modify_bind]
    have herror : Spotless .error 0 (u.update fun s ↦ { s with state := .error }) :=
      ⟨⟨rfl, hu.socket, hu.degraded, hu.counts⟩, hu.keepalive, hu.accept⟩
    exact wp_bind (wp_mono ((quietTunnel_spotless _ _).emit _ _ herror) fun _ _ h' ↦
      wp_pure (.inr h'))
  · rw [wp_modify_bind, wp_mark_bind]
    refine wp_millis_tunnel fun t' _ ↦ ?_
    rw [wp_modify_bind]
    refine wp_call_bind fun r t'' _ ↦ wp_pure (.inl ⟨⟨rfl, rfl, hu.degraded, fun s ↦ ?_⟩,
      hu.keepalive, hu.accept⟩)
    rw [World.after_trace, count_silent rfl]
    exact (count_silent rfl).trans (hu.counts s)

theorem triple_dropEverything (reason : ChannelCloseReason) :
    Preserves (Spotless st k) (dropEverything p reason) :=
  (quietTunnel_spotless st k).dropEverything
    (triple_sessionDisconnect.pre fun _ h ↦ ⟨h.state, h.socket, h.degraded⟩) reason

theorem wp_handleReconnection_health (h : Spotless .error 0 w) :
    wp (handleReconnection p) (fun _ w' ↦ Spotless .connected 0 w' ∨ Spotless .error 0 w') w := by
  have hQ := quietTunnel_spotless .error 0
  have hreturned : ∀ u, Spotless .connected 0 u ∨ Spotless .error 0 u →
      wp (do
        Prog.mark .returned
        pure ()) (fun _ w' ↦ Spotless .connected 0 w' ∨ Spotless .error 0 w') u := by
    rintro u (hu | hu)
    · exact wp_bind (wp_mono ((quietTunnel_spotless _ _).quietMark _ rfl u hu) fun _ _ h' ↦
        wp_pure (.inl h'))
    · exact wp_bind (wp_mono (hQ.quietMark _ rfl u hu) fun _ _ h' ↦ wp_pure (.inr h'))
  refine wp_bind (wp_mono (Q := fun _ w' ↦ Spotless .connected 0 w' ∨ Spotless .error 0 w') ?_
    fun _ u hu ↦ hreturned u hu)
  have hallowed : Preserves (Spotless .error 0) (reconnectAllowed p) := by
    refine Preserves.get_bind fun _ ↦ Preserves.ite (hQ.millis.bind fun _ ↦
      Preserves.ite Preserves.ret (Preserves.bind ?_ fun _ ↦ Preserves.ret)) Preserves.ret
    exact fun u hu ↦
      wp_modify ⟨⟨hu.state, hu.socket, hu.degraded, hu.counts⟩, hu.keepalive, hu.accept⟩
  refine wp_bind (wp_mono (hallowed w h) fun allowed u hu ↦ ?_)
  refine wp_ite (fun _ ↦ wp_pure (.inr hu)) fun _ ↦ ?_
  refine wp_bind (wp_mono (hQ.millis u hu) fun now u hu ↦ ?_)
  rw [wp_get_bind]
  refine wp_ite (fun _ ↦ wp_pure (.inr hu)) fun _ ↦ ?_
  refine wp_bind (wp_mono (hQ.clearQueue _ u hu) fun _ u hu ↦ ?_)
  refine wp_bind (wp_mono (hQ.clearQueue _ u hu) fun _ u hu ↦ ?_)
  refine wp_bind (wp_mono (triple_dropEverything _ u hu) fun _ u hu ↦ ?_)
  rw [wp_modify_bind, wp_mark_bind]
  have hbefore : Spotless .error 0 ((u.update fun s ↦
      { s with reconnectAttempts := s.reconnectAttempts + 1 }).marked (.note .reconnecting)) :=
    ⟨⟨hu.state, hu.socket, hu.degraded, fun s ↦ (count_silent rfl).trans (hu.counts s)⟩,
      hu.keepalive, hu.accept⟩
  refine wp_bind (wp_mono (wp_connectSSH_health hbefore (by simp)) fun connected v hv ↦ ?_)
  refine wp_when (fun _ ↦ wp_modify ?_) fun _ ↦ hv
  rcases hv with hv | hv
  · exact .inl ⟨⟨hv.state, hv.socket, hv.degraded, hv.counts⟩, hv.keepalive, hv.accept⟩
  · exact .inr ⟨⟨hv.state, hv.socket, hv.degraded, hv.counts⟩, hv.keepalive, hv.accept⟩

/-! ### While connected -/

/-- The counters hold what the trace says. -/
structure Charted (w : TunnelWorld) : Prop where
  /-- The failures of the socket. -/
  socket : w.st.socketHealthFailures = Symptom.socket.count w.trace
  /-- The keepalives that failed. -/
  keepalive : w.st.session.keepAliveFailures = Symptom.keepalive.count w.trace
  /-- The fatal accept errors. -/
  accept : w.st.session.consecutiveFatalAcceptErrors = Symptom.accept.count w.trace
  /-- The last of them is fatal. -/
  fatal : 0 < w.st.session.consecutiveFatalAcceptErrors →
    isFatalAcceptError w.st.session.lastAcceptError = true

/-- A connected tunnel that has none of these symptoms. -/
structure Free (of : Symptom → Prop) (w₀ w : TunnelWorld) : Prop extends Charted w where
  /-- It is connected. -/
  state : w.st.state = .connected
  /-- No slot is reported. -/
  degraded : w.st.transport.sessionDegraded = false
  /-- The symptoms are not there. -/
  below : ∀ s : Symptom, of s → s.count w.trace < s.limit
  /-- Since `w₀` the trace has grown. -/
  grown : Grown w₀ w

/-- A connected tunnel without symptoms. -/
abbrev Healthy (w₀ w : TunnelWorld) : Prop := Free (fun _ ↦ True) w₀ w

variable {of : Symptom → Prop}

theorem Charted.later (h : Charted w) (hu : Unheard w w') : Charted w' := by
  refine ⟨?_, ?_, ?_, ?_⟩
  · rw [hu.socketHealthFailures, hu.count_eq]
    exact h.socket
  · rw [hu.session, hu.count_eq]
    exact h.keepalive
  · rw [hu.session, hu.count_eq]
    exact h.accept
  · rw [hu.session]
    exact h.fatal

theorem Unheard.grown (hu : Unheard w w') (h : Grown w₀ w) : Grown w₀ w' := by
  obtain ⟨items, ht, -⟩ := hu.trace
  exact lasting_grown w₀ w w' items h ht

theorem Free.later (h : Free of w₀ w) (hu : Unheard w w') : Free of w₀ w' :=
  ⟨h.toCharted.later hu, hu.state.trans h.state, hu.sessionDegraded.trans h.degraded,
    fun s hs ↦ (hu.count_eq s).symm ▸ h.below s hs, hu.grown h.grown⟩

theorem quietTunnel_free (of : Symptom → Prop) (w₀ : TunnelWorld) : QuietTunnel (Free of w₀) :=
  quietTunnel_of_unheard fun _ _ h hu ↦ h.later hu

theorem Symptom.limit_pos (s : Symptom) : 0 < s.limit := by
  cases s <;> decide

theorem Healthy.free (h : Healthy w₀ w) (of : Symptom → Prop) : Free of w₀ w :=
  ⟨h.toCharted, h.state, h.degraded, fun s _ ↦ h.below s trivial, h.grown⟩

/-- What was missing for a tunnel to be healthy. -/
theorem Free.healthy (h : Free (· ≠ s) w₀ w) (hs : s.count w.trace < s.limit) : Healthy w₀ w := by
  refine ⟨h.toCharted, h.state, h.degraded, fun s' _ ↦ ?_, h.grown⟩
  by_cases heq : s' = s
  · rw [heq]
    exact hs
  · exact h.below s' heq

/-- A session begins without symptoms. -/
theorem Spotless.healthy (h : Spotless .connected 0 w) : Healthy w w := by
  refine ⟨⟨?_, ?_, ?_, ?_⟩, h.state, h.degraded, fun s _ ↦ ?_, ⟨[], rfl⟩⟩
  · rw [h.socket, h.counts]
  · rw [h.keepalive, h.counts]
  · rw [h.accept, h.counts]
  · intro hpos
    rw [h.accept] at hpos
    omega
  · rw [h.counts]
    exact s.limit_pos

/-- Given up, with a symptom when it was. -/
def Ended (w₀ w : TunnelWorld) : Prop := Spotless .error 0 w ∧ GivenUp w₀ w

theorem quietTunnel_ended (w₀ : TunnelWorld) : QuietTunnel (Ended w₀) :=
  (quietTunnel_spotless .error 0).and (tunnelKeeps_of_lasting (lasting_givenUp w₀)).toQuietTunnel

/-- A symptom that is there makes `enterErrorState` right. -/
theorem wp_enterErrorState_ended (hd : w.st.transport.sessionDegraded = false) (hg : Grown w₀ w)
    (hs : s.limit ≤ s.count w.trace) :
    wp (enterErrorState p) (fun _ w' ↦ Ended w₀ w') w :=
  triple_enterErrorState_health (lasting_givenUp w₀) w
    ⟨hd, hg.givenUp (Symptom.present_iff.2 hs)⟩

/-! ### Keepalives -/

/-- What a keepalive does to the count: the same as to the counter of the session. -/
theorem count_keepalive (w : TunnelWorld) (session t t' : ℕ) (rc : Int)
    (r : Call.Reply (.sys .unlock)) :
    Symptom.keepalive.count ((w.after (.sys (.keepaliveSend session)) rc t).after
      (.sys .unlock) r t').trace =
      if rc = errorSocketSend then Symptom.keepalive.count w.trace + 1
      else if rc = errorEagain then Symptom.keepalive.count w.trace else 0 := by
  have hjudge : Symptom.keepalive.judge (.call w.serial t w.st (.sys (.keepaliveSend session)) rc) =
      if rc = errorSocketSend then .strike else if rc = errorEagain then .silent else .clear := rfl
  rw [count_unlock]
  split_ifs with hsend hagain
  · exact count_strike (by rw [hjudge, if_pos hsend])
  · exact count_silent (by rw [hjudge, if_neg hsend, if_pos hagain])
  · exact count_clear (by rw [hjudge, if_neg hsend, if_neg hagain])

/-- From `w` to `w'` only a keepalive was heard of, and what is counted was left alone. -/
structure HeardKeepalive (w w' : TunnelWorld) : Prop where
  /-- The tunnel state is as it was. -/
  state : w'.st.state = w.st.state
  /-- The session is as it was. -/
  session : w'.st.session = w.st.session
  /-- The failures of the socket are as they were. -/
  socketHealthFailures : w'.st.socketHealthFailures = w.st.socketHealthFailures
  /-- The flag is as it was. -/
  sessionDegraded : w'.st.transport.sessionDegraded = w.st.transport.sessionDegraded
  /-- The other symptoms are as they were. -/
  others : ∀ s : Symptom, s ≠ .keepalive → s.count w'.trace = s.count w.trace
  /-- The trace has grown. -/
  grown : Grown w w'

theorem HeardKeepalive.later {u : TunnelWorld} (h : HeardKeepalive w w') (hu : Unheard w' u) :
    HeardKeepalive w u :=
  ⟨hu.state.trans h.state, hu.session.trans h.session,
    hu.socketHealthFailures.trans h.socketHealthFailures,
    hu.sessionDegraded.trans h.sessionDegraded,
    fun s hne ↦ (hu.count_eq s).trans (h.others s hne), hu.grown h.grown⟩

theorem heardKeepalive_call (w : TunnelWorld) (session t t' : ℕ) (rc : Int)
    (r : Call.Reply (.sys .unlock)) :
    HeardKeepalive w ((w.after (.sys (.keepaliveSend session)) rc t).after (.sys .unlock) r t') := by
  refine ⟨rfl, rfl, rfl, rfl, fun s hne ↦ ?_, [_, _], rfl⟩
  rw [count_unlock]
  exact count_silent (if_neg hne)

/-- The tunnel stays healthy if the number of failed keepalives becomes what the trace says. -/
theorem Healthy.pinged (h : Healthy w₀ w) (hv : HeardKeepalive w w') {n : ℕ}
    (hn : Symptom.keepalive.count w'.trace = n) (hlt : n < 3) :
    Healthy w₀ (w'.update
      fun s ↦ { s with session := { s.session with keepAliveFailures := n } }) := by
  obtain ⟨items, ht⟩ := hv.grown
  refine Free.healthy (s := .keepalive) ⟨⟨?_, hn.symm, ?_, ?_⟩, hv.state.trans h.state,
    hv.sessionDegraded.trans h.degraded, fun s hs ↦ (hv.others s hs).symm ▸ h.below s trivial,
    lasting_grown w₀ w _ items h.grown ht⟩ ?_
  · exact (hv.socketHealthFailures.trans h.socket).trans (hv.others .socket (by decide)).symm
  · exact ((congrArg _ hv.session).trans h.accept).trans (hv.others .accept (by decide)).symm
  · show 0 < w'.st.session.consecutiveFatalAcceptErrors →
      isFatalAcceptError w'.st.session.lastAcceptError = true
    rw [hv.session]
    exact h.fatal
  · rw [World.update_trace, hn]
    exact hlt

/-- Asking the socket for the log tells nothing. -/
theorem wp_logSocketError : wp logSocketError (fun _ w' ↦ Unheard w w') w := by
  rw [logSocketError, wp_get_bind]
  refine wp_ite (fun _ ↦ wp_call_bind fun r t _ ↦ wp_pure ?_) fun _ ↦ wp_pure ?_
  · exact ⟨rfl, rfl, rfl, rfl, [_], rfl,
      List.forall_mem_singleton.2 (judge_call (by rfl) _ _ _ _)⟩
  · exact ⟨rfl, rfl, rfl, rfl, [], rfl, by simp⟩

/-- What the return value says of a tunnel that was healthy before. -/
def AfterKeepalive (w₀ : TunnelWorld) (sent : Bool) (w : TunnelWorld) : Prop :=
  if sent then Healthy w₀ w else
    w.st.transport.sessionDegraded = false ∧ Grown w₀ w ∧
      Symptom.keepalive.limit ≤ Symptom.keepalive.count w.trace

theorem wp_keepaliveFailed_health {rc : Int} (h : Healthy w₀ w) (hv : HeardKeepalive w w')
    (hcount : Symptom.keepalive.count w'.trace =
      if rc = errorSocketSend then Symptom.keepalive.count w.trace + 1
      else if rc = errorEagain then Symptom.keepalive.count w.trace else 0) :
    wp (keepaliveFailed rc) (AfterKeepalive w₀) w' := by
  have hsame : w'.st.session.keepAliveFailures = Symptom.keepalive.count w.trace :=
    (congrArg _ hv.session).trans h.keepalive
  rw [← hsame] at hcount
  have hfew : w'.st.session.keepAliveFailures < 3 := hsame ▸ h.below .keepalive trivial
  obtain ⟨items, ht⟩ := hv.grown
  refine wp_ite (fun hsend ↦ ?_) fun hsend ↦ wp_ite (fun hagain ↦ ?_) fun hagain ↦ ?_
  -- not sent for the third time or before that, another error, nothing to say
  · rw [if_pos hsend] at hcount
    rw [wp_get_bind]
    refine wp_ite (fun hthree ↦ ?_) fun hthree ↦ ?_
    · refine wp_bind (wp_modify (wp_pure ⟨hv.sessionDegraded.trans h.degraded, ?_, ?_⟩))
      · exact lasting_grown w₀ w _ items h.grown ht
      · rw [World.update_trace, hcount]
        exact hthree
    · exact wp_bind (wp_modify (wp_pure (h.pinged hv hcount (Nat.lt_of_not_le hthree))))
  · rw [if_neg hsend, if_neg hagain] at hcount
    exact wp_bind (wp_modify (wp_pure (h.pinged hv hcount (by decide))))
  · rw [if_neg hsend, if_pos (not_not.1 hagain)] at hcount
    exact wp_pure (h.pinged hv hcount hfew)

/-- A keepalive is only given up after three that could not be sent. -/
theorem wp_sendKeepalive_health {session : ℕ} (h : Healthy w₀ w)
    (hs : w.st.session.session = some session) :
    wp sendKeepalive (AfterKeepalive w₀) w := by
  rw [sendKeepalive, wp_get_bind, hs]
  refine wp_bind (wp_mono ((quietTunnel_free _ w₀).lock _ w h) fun locked u hu ↦ ?_)
  refine wp_ite (fun _ ↦ wp_pure hu) fun _ ↦ ?_
  refine wp_call_bind fun rc t _ ↦ wp_call_bind fun r t' _ ↦ ?_
  have hcount := count_keepalive u session t t' rc r
  have hv := heardKeepalive_call u session t t' rc r
  refine wp_ite (fun hzero ↦ ?_) fun _ ↦ ?_
  · have hsent : (0 : Int) ≠ errorSocketSend ∧ (0 : Int) ≠ errorEagain := by decide
    rw [if_neg (hzero ▸ hsent.1), if_neg (hzero ▸ hsent.2)] at hcount
    exact wp_bind (wp_modify (wp_pure (Healthy.pinged hu hv hcount (by decide))))
  · refine wp_bind (wp_mono wp_logSocketError fun _ v hlog ↦ ?_)
    exact wp_keepaliveFailed_health hu (hv.later hlog) ((hlog.count_eq _).trans hcount)

/-! ### The socket -/

/-- What an answer of the socket does to the count: the same as to the counter of the tunnel. -/
theorem count_soError (w : TunnelWorld) (fd : Int) (res : Int × Int) (t : ℕ) :
    Symptom.socket.count (w.after (.sys (.soError fd)) res t).trace =
      if (res.1 = 0 && res.2 = 0) = true then 0 else Symptom.socket.count w.trace + 1 := by
  have hjudge : Symptom.socket.judge (.call w.serial t w.st (.sys (.soError fd)) res) =
      if (res.1 = 0 && res.2 = 0) = true then .clear else .strike := rfl
  split_ifs with hok
  · exact count_clear (hjudge.trans (if_pos hok))
  · exact count_strike (hjudge.trans (if_neg hok))

/-- The tunnel stays healthy if it counts the errors of the socket as the trace does. -/
theorem Healthy.probed (h : Healthy w₀ w) {fd : Int} {res : Int × Int} {t n : ℕ}
    (hn : Symptom.socket.count (w.after (.sys (.soError fd)) res t).trace = n) (hlt : n < 3) :
    Healthy w₀ ((w.after (.sys (.soError fd)) res t).update
      fun s ↦ { s with socketHealthFailures := n }) := by
  have hother : ∀ s : Symptom, s ≠ .socket →
      s.count (w.after (.sys (.soError fd)) res t).trace = s.count w.trace :=
    fun s hne ↦ count_silent (if_neg hne)
  refine Free.healthy (s := .socket) ⟨⟨hn.symm, ?_, ?_, h.fatal⟩, h.state, h.degraded,
    fun s hs ↦ (hother s hs).symm ▸ h.below s trivial, lasting_grown w₀ w _ [_] h.grown rfl⟩ ?_
  · exact h.keepalive.trans (hother .keepalive (by decide)).symm
  · exact h.accept.trans (hother .accept (by decide)).symm
  · rw [World.update_trace, hn]
    exact hlt

/-- The health check enters the error state only for a symptom. -/
theorem wp_checkHealth_health (h : Healthy w₀ w) (hconn : w.st.session.isConnected = true) :
    wp (checkHealth p) (fun alive w' ↦ if alive then Healthy w₀ w' else Ended w₀ w') w := by
  obtain ⟨session, hsession⟩ : ∃ session, w.st.session.session = some session := by
    rw [SSHSession.isConnected, Bool.and_eq_true] at hconn
    exact Option.isSome_iff_exists.1 hconn.1
  rw [checkHealth, checkConnection, wp_bind_assoc, wp_get_bind, if_neg (by simp [hconn])]
  rw [wp_bind_assoc]
  refine wp_call_bind fun res t _ ↦ ?_
  rw [wp_pure_bind, wp_get_bind]
  have hcount := count_soError w w.st.session.socketfd res t
  rw [← h.socket] at hcount
  refine wp_ite (fun hlost ↦ ?_) fun hkept ↦ ?_
  · rw [wp_modify_bind]
    rw [Bool.and_eq_true, Bool.not_eq_true', decide_eq_true_eq] at hlost
    refine wp_bind (wp_mono (wp_enterErrorState_ended (s := .socket) h.degraded
      (lasting_grown w₀ w _ [_] h.grown rfl) ?_) fun _ u hu ↦ wp_pure hu)
    rw [if_neg (by rw [hlost.1]; exact Bool.false_ne_true)] at hcount
    rw [World.update_trace, hcount]
    exact hlost.2
  · rw [wp_modify_bind]
    have hfew : (if (res.1 = 0 && res.2 = 0) = true then 0
        else w.st.socketHealthFailures + 1) < 3 := by
      split_ifs with hok
      · decide
      · rw [Bool.eq_false_iff.2 hok] at hkept
        exact Nat.succ_lt_succ (by simpa using hkept)
    refine wp_millis_tunnel fun now _ ↦ ?_
    rw [wp_get_bind]
    have hwait : ∀ v, Healthy w₀ v → Healthy w₀ (v.wait now) :=
      fun v hv ↦ hv.later ⟨rfl, rfl, rfl, rfl, [], rfl, by simp⟩
    have hlater := hwait _ (Healthy.probed h hcount hfew)
    refine wp_ite (fun _ ↦ ?_) fun _ ↦ wp_pure hlater
    refine wp_bind (wp_mono (wp_sendKeepalive_health hlater hsession) fun sent u hu ↦ ?_)
    cases sent with
    | false =>
      refine wp_ite (fun _ ↦ ?_) fun hno ↦ absurd rfl hno
      obtain ⟨hd, hg, hs⟩ := hu
      exact wp_bind (wp_mono (wp_enterErrorState_ended hd hg hs) fun _ u hu ↦ wp_pure hu)
    | true =>
      refine wp_ite (fun hno ↦ by cases hno) fun _ ↦ wp_bind (wp_modify (wp_pure ?_))
      have hu : Healthy w₀ u := hu
      exact ⟨⟨hu.socket, hu.keepalive, hu.accept, hu.fatal⟩, hu.state, hu.degraded, hu.below,
        hu.grown⟩

/-! ### Accepting a channel -/

/-- The number of accept errors may change, as the trace tells. -/
theorem Free.noted (h : Free (· ≠ .accept) w₀ w) {err : Int} {n : ℕ}
    (hst : w'.st = { w.st with session := { w.st.session with
      lastAcceptError := err, consecutiveFatalAcceptErrors := n } })
    (hgrown : Grown w w')
    (hother : ∀ s : Symptom, s ≠ .accept → s.count w'.trace = s.count w.trace)
    (hcount : Symptom.accept.count w'.trace = n) (hfatal : 0 < n → isFatalAcceptError err = true) :
    Free (· ≠ .accept) w₀ w' := by
  obtain ⟨items, ht⟩ := hgrown
  refine ⟨⟨?_, ?_, ?_, ?_⟩, ?_, ?_, fun s hs ↦ (hother s hs).symm ▸ h.below s hs,
    lasting_grown w₀ w w' items h.grown ht⟩
  · rw [hst]
    exact h.socket.trans (hother .socket (by decide)).symm
  · rw [hst]
    exact h.keepalive.trans (hother .keepalive (by decide)).symm
  · rw [hst, hcount]
  · rw [hst]
    exact hfatal
  · rw [hst]
    exact h.state
  · rw [hst]
    exact h.degraded

/-- A channel that is accepted clears the accept errors. -/
theorem Free.accepted (h : Free (· ≠ .accept) w₀ w) {l t t' : ℕ} {r : Call.Reply (.sys .unlock)}
    (hw' : w' = ((w.after (.sys (.forwardAccept l)) true t).after (.sys .unlock) r t').update
      fun s ↦ { s with session := s.session.resetAcceptState }) :
    Free (· ≠ .accept) w₀ w' ∧ Symptom.accept.count w'.trace = 0 := by
  subst hw'
  have hcount : Symptom.accept.count ((w.after (.sys (.forwardAccept l)) true t).after
      (.sys .unlock) r t').trace = 0 := (count_unlock r t').trans (count_clear rfl)
  refine ⟨h.noted rfl ⟨[_, _], rfl⟩ (fun s hs ↦ ?_) hcount fun hno ↦ absurd hno (lt_irrefl 0),
    hcount⟩
  refine (count_unlock r t').trans (count_silent ?_)
  cases s <;> first | rfl | exact absurd rfl hs

/-- The error for which no channel was accepted is counted if it is fatal. -/
theorem Free.refused (h : Free (· ≠ .accept) w₀ w) {l session t t' t'' : ℕ} {err : Int}
    {r : Call.Reply (.sys .unlock)}
    (hw' : w' = (((w.after (.sys (.forwardAccept l)) false t).after (.sys (.lastErrno session)) err
      t').after (.sys .unlock) r t'').update
      fun s ↦ { s with session := s.session.recordAcceptNoChannel err }) :
    Free (· ≠ .accept) w₀ w' := by
  subst hw'
  have hskip : ∀ s : Symptom,
      s.count (w.after (.sys (.forwardAccept l)) false t).trace = s.count w.trace := by
    intro s
    refine count_silent ?_
    cases s <;> rfl
  have hjudge : Symptom.accept.judge (.call (w.after (.sys (.forwardAccept l)) false t).serial
      t' (w.after (.sys (.forwardAccept l)) false t).st (.sys (.lastErrno session)) err) =
      if isFatalAcceptError err then .strike else .clear := rfl
  refine h.noted rfl ⟨[_, _, _], rfl⟩ (fun s hs ↦ ?_) ?_ fun hpos ↦ ?_
  · refine (count_unlock r t'').trans (Eq.trans (count_silent ?_) (hskip s))
    exact if_neg hs
  · refine (count_unlock r t'').trans ?_
    have hbefore := (hskip .accept).trans h.accept.symm
    cases hfatal : isFatalAcceptError err with
    | true =>
      refine Eq.trans (count_strike ?_) (congrArg (· + 1) hbefore)
      rw [hjudge, hfatal]
      rfl
    | false =>
      refine count_clear ?_
      rw [hjudge, hfatal]
      rfl
  · by_contra hno
    simp [hno] at hpos

/-- Accept errors are counted, and a channel that is accepted clears them. -/
theorem wp_acceptFrom_health (session : ℕ) (listeners : List ListenerEntry)
    (h : Free (· ≠ .accept) w₀ w) :
    wp (acceptFrom session listeners) (fun accepted w' ↦ Free (· ≠ .accept) w₀ w' ∧
      (accepted.isSome = true → Symptom.accept.count w'.trace = 0)) w := by
  induction listeners generalizing w with
  | nil => exact wp_pure ⟨h, fun hno ↦ by cases hno⟩
  | cons entry rest ih =>
    rw [acceptFrom]
    split
    · exact ih h
    · next l _ =>
      refine wp_bind (wp_mono ((quietTunnel_free _ w₀).lock _ w h) fun locked u hu ↦ ?_)
      refine wp_ite (fun _ ↦ ih hu) fun _ ↦ ?_
      refine wp_callId_bind fun accepted t _ ↦ ?_
      cases accepted with
      | true =>
        refine wp_ite (fun _ ↦ ?_) fun hno ↦ absurd rfl hno
        refine wp_call_bind fun r t' _ ↦ wp_bind (wp_modify (wp_pure ?_))
        obtain ⟨hfree, hcount⟩ := hu.accepted rfl
        exact ⟨hfree, fun _ ↦ hcount⟩
      | false =>
        refine wp_ite (fun hno ↦ by cases hno) fun _ ↦ ?_
        exact wp_call_bind fun err t' _ ↦ wp_call_bind fun r t'' _ ↦
          wp_bind (wp_modify (ih (hu.refused rfl)))

theorem wp_acceptChannel_health (h : Healthy w₀ w) :
    wp acceptChannel (fun accepted w' ↦ Free (· ≠ .accept) w₀ w' ∧
      (accepted.isSome = true → Symptom.accept.count w'.trace = 0)) w := by
  rw [acceptChannel, wp_get_bind]
  split
  · exact wp_pure ⟨h.free _, fun hno ↦ by cases hno⟩
  · exact wp_acceptFrom_health _ _ (h.free _)

/-- A round of the accept loop that finds the session beyond repair is the last one. -/
theorem wp_handleNewConnection_health (h : Healthy w₀ w) :
    wp (handleNewConnection p) (fun again w' ↦ (Healthy w₀ w' ∨ Ended w₀ w') ∧
      (again = true → Healthy w₀ w')) w := by
  have hreturned : ∀ again u, (Healthy w₀ u ∨ Ended w₀ u) ∧ (again = true → Healthy w₀ u) →
      wp (do
        Prog.mark .returned
        pure again) (fun again w' ↦ (Healthy w₀ w' ∨ Ended w₀ w') ∧ (again = true → Healthy w₀ w'))
        u := by
    rintro again u ⟨hu | hu, hagain⟩
    · exact wp_bind (wp_mono ((quietTunnel_free _ w₀).quietMark .returned rfl u hu) fun _ _ h' ↦
        wp_pure ⟨.inl h', fun _ ↦ h'⟩)
    · refine wp_bind (wp_mono ((quietTunnel_ended w₀).quietMark .returned rfl u hu) fun _ _ h' ↦
        wp_pure ⟨.inr h', fun hyes ↦ ?_⟩)
      have hboth := (hagain hyes).state
      rw [hu.1.state] at hboth
      cases hboth
  refine wp_bind (wp_mono (Q := fun again w' ↦ (Healthy w₀ w' ∨ Ended w₀ w') ∧
    (again = true → Healthy w₀ w')) ?_ hreturned)
  refine wp_bind (wp_mono (wp_acceptChannel_health h) fun accepted u hu ↦ ?_)
  obtain ⟨hfree, hzero⟩ := hu
  rcases accepted with - | ⟨handle, mapping⟩
  -- no channel: the count has reached the limit exactly when the last error is fatal as well
  · rw [wp_get_bind]
    refine wp_bind (wp_mono (Q := fun _ w' ↦ Healthy w₀ w' ∨ Ended w₀ w')
      (wp_when (fun hfatal ↦ ?_) fun hnot ↦ .inl ?_) fun _ u hu ↦
        wp_pure ⟨hu, fun hno ↦ by cases hno⟩)
    · rw [SSHSession.hasFatalAcceptFailure, Bool.and_eq_true, decide_eq_true_eq] at hfatal
      exact wp_mono (wp_enterErrorState_ended (s := .accept) hfree.degraded hfree.grown
        (hfree.accept ▸ hfatal.1)) fun _ _ h' ↦ .inr h'
    · refine hfree.healthy ?_
      show Symptom.accept.count u.trace < 3
      rw [← hfree.accept]
      by_contra hmany
      rw [SSHSession.hasFatalAcceptFailure, hfree.fatal (by omega), Bool.and_true,
        decide_eq_false_iff_not] at hnot
      omega
  · have hhealthy : Healthy w₀ u := hfree.healthy (by rw [hzero rfl]; decide)
    exact wp_mono ((quietTunnel_free _ w₀).handleAccepted _ _ u hhealthy) fun _ _ h' ↦
      ⟨.inl h', fun _ ↦ h'⟩

/-! ### The pump -/

/-- During and after the pump cycle a slot may have been given up, and the tunnel may be in the
error state already. Nothing else can be new. -/
def MidCycle (w₀ w : TunnelWorld) : Prop :=
  Charted w ∧
    ((w.st.state = .connected ∧ Grown w₀ w ∧
        ∀ s : Symptom, s ≠ .abandoned → s.count w.trace < s.limit) ∨
      (w.st.state = .error ∧ GivenUp w₀ w ∧ ∀ s : Symptom, s ≠ .abandoned → s.count w.trace = 0))

/-- The flag says whether a slot was given up. -/
def Reported (w : TunnelWorld) : Prop :=
  w.st.transport.sessionDegraded = true ↔ Symptom.abandoned.limit ≤ Symptom.abandoned.count w.trace

/-- Entries that say nothing, but perhaps of a slot that is given up. -/
theorem MidCycle.later (h : MidCycle w₀ w) (items : Trace SSHTunnel Call Call.Reply Mark)
    (hst : w'.st.state = w.st.state) (hsession : w'.st.session = w.st.session)
    (hsocket : w'.st.socketHealthFailures = w.st.socketHealthFailures)
    (ht : w'.trace = items ++ w.trace)
    (hi : ∀ x ∈ items, ∀ s : Symptom, s ≠ .abandoned → s.judge x = .silent) : MidCycle w₀ w' := by
  have hcount : ∀ s : Symptom, s ≠ .abandoned → s.count w'.trace = s.count w.trace := by
    intro s hs
    rw [ht]
    exact Streak.strikes_append fun x hx ↦ hi x hx s hs
  obtain ⟨hc, hphase⟩ := h
  refine ⟨⟨?_, ?_, ?_, hsession ▸ hc.fatal⟩, ?_⟩
  · rw [hsocket, hcount _ (by decide)]
    exact hc.socket
  · rw [hsession, hcount _ (by decide)]
    exact hc.keepalive
  · rw [hsession, hcount _ (by decide)]
    exact hc.accept
  · rcases hphase with ⟨hstate, hg, hbelow⟩ | ⟨hstate, hg, hzero⟩
    · exact .inl ⟨hst.trans hstate, lasting_grown w₀ w w' items hg ht,
        fun s hs ↦ (hcount s hs).symm ▸ hbelow s hs⟩
    · exact .inr ⟨hst.trans hstate, lasting_givenUp w₀ w w' items hg ht,
        fun s hs ↦ (hcount s hs).trans (hzero s hs)⟩

theorem MidCycle.unheard (h : MidCycle w₀ w) (hu : Unheard w w') : MidCycle w₀ w' := by
  obtain ⟨items, ht, hi⟩ := hu.trace
  exact h.later items hu.state hu.session hu.socketHealthFailures ht fun x hx s _ ↦ hi x hx s

theorem Reported.later (h : Reported w) (hu : Unheard w w') : Reported w' := by
  rw [Reported, hu.sessionDegraded, hu.count_eq]
  exact h

theorem quietTunnel_midCycle (w₀ : TunnelWorld) :
    QuietTunnel fun w ↦ MidCycle w₀ w ∧ Reported w :=
  quietTunnel_of_unheard fun _ _ h hu ↦ ⟨h.1.unheard hu, h.2.later hu⟩

/-- A slot that is given up is reported. -/
theorem midCycle_scanSlot (now : UInt32) (picks : Picks) (i : ℕ) :
    Preserves (fun w ↦ MidCycle w₀ w ∧ Reported w) (scanSlot p now picks i) := by
  rintro w ⟨h, hr⟩
  rw [scanSlot, wp_getSlot_bind]
  refine wp_ite (fun _ ↦ wp_pure ⟨h, hr⟩) fun _ ↦ ?_
  split
  · rw [wp_mark_bind]
    have hQ : QuietTunnel fun w ↦ MidCycle w₀ w ∧
        Symptom.abandoned.limit ≤ Symptom.abandoned.count w.trace :=
      quietTunnel_of_unheard fun _ _ h hu ↦ ⟨h.1.unheard hu, (hu.count_eq _).symm ▸ h.2⟩
    have hmark : MidCycle w₀ (w.marked (.note (.abandoning i))) ∧
        Symptom.abandoned.limit ≤
          Symptom.abandoned.count (w.marked (.note (.abandoning i))).trace := by
      refine ⟨h.later [_] rfl rfl rfl rfl
        (List.forall_mem_singleton.2 fun s hs ↦ if_neg hs), ?_⟩
      rw [World.marked_trace, count_strike rfl]
      exact Nat.le_add_left _ _
    refine wp_bind (wp_mono (hQ.abandonSlot _ _ _ hmark) fun _ u hu ↦ ?_)
    refine wp_bind (wp_modify ?_)
    have hreported : MidCycle w₀ (u.update fun s ↦
        { s with transport := { s.transport with sessionDegraded := true } }) ∧
        Reported (u.update fun s ↦
        { s with transport := { s.transport with sessionDegraded := true } }) :=
      ⟨hu.1.later [] rfl rfl rfl rfl (by simp), fun _ ↦ hu.2, fun _ ↦ rfl⟩
    exact wp_bind (wp_mono ((quietTunnel_midCycle w₀).pushCloseEvent _ _ _ hreported) fun _ _ h' ↦
      wp_pure h')
  · exact wp_pure ⟨h, hr⟩
  · exact wp_pure ⟨h, hr⟩
  · exact wp_pure ⟨h, hr⟩

theorem Healthy.midCycle (h : Healthy w₀ w) : MidCycle w₀ w ∧ Reported w := by
  refine ⟨⟨h.toCharted, .inl ⟨h.state, h.grown, fun s _ ↦ h.below s trivial⟩⟩, ?_⟩
  rw [Reported, h.degraded]
  have hnone := h.below .abandoned trivial
  simp only [Bool.false_eq_true, false_iff]
  omega

theorem Ended.midCycle (h : Ended w₀ w) : MidCycle w₀ w ∧ Reported w := by
  obtain ⟨h, hg⟩ := h
  refine ⟨⟨⟨?_, ?_, ?_, ?_⟩, .inr ⟨h.state, hg, fun s _ ↦ h.counts s⟩⟩, ?_⟩
  · rw [h.socket, h.counts]
  · rw [h.keepalive, h.counts]
  · rw [h.accept, h.counts]
  · intro hpos
    rw [h.accept] at hpos
    omega
  · rw [Reported, h.degraded, h.counts]
    decide

/-- A pump cycle without a slot given up leaves things as they were. -/
theorem MidCycle.ended_or_healthy (h : MidCycle w₀ w) (hr : Reported w)
    (hd : w.st.transport.sessionDegraded = false) : Healthy w₀ w ∨ Ended w₀ w := by
  have hnone : Symptom.abandoned.count w.trace = 0 := by
    by_contra hno
    have hraised := hr.2 (Nat.one_le_iff_ne_zero.2 hno)
    rw [hd] at hraised
    cases hraised
  obtain ⟨hc, ⟨hstate, hg, hbelow⟩ | ⟨hstate, hg, hzero⟩⟩ := h
  · refine .inl ⟨hc, hstate, hd, fun s _ ↦ ?_, hg⟩
    by_cases hs : s = .abandoned
    · rw [hs, hnone]
      decide
    · exact hbelow s hs
  · refine .inr ⟨⟨⟨hstate, ?_, hd, fun s ↦ ?_⟩, ?_, ?_⟩, hg⟩
    · rw [hc.socket, hzero _ (by decide)]
    · by_cases hs : s = .abandoned
      · rw [hs, hnone]
      · exact hzero s hs
    · rw [hc.keepalive, hzero _ (by decide)]
    · rw [hc.accept, hzero _ (by decide)]

/-- A slot that was given up makes `loop` tear down. -/
theorem wp_loopTail_health (h : MidCycle w₀ w) (hr : Reported w) :
    wp (loopTail p) (fun _ w' ↦ Healthy w₀ w' ∨ Ended w₀ w') w := by
  rw [loopTail, consumeCloseEvents, wp_bind_assoc, wp_get_bind, wp_bind_assoc]
  refine wp_bind (wp_modify ?_)
  rw [wp_pure_bind]
  have hQ := quietTunnel_midCycle w₀
  have hconsumed : MidCycle w₀ (w.update fun s ↦
      { s with transport := { s.transport with pendingCloseEvents := [] } }) ∧
      Reported (w.update fun s ↦
      { s with transport := { s.transport with pendingCloseEvents := [] } }) :=
    ⟨h.later [] rfl rfl rfl rfl (by simp), hr⟩
  refine wp_bind (wp_mono (Preserves.each (fun _ _ ↦ hQ.emit _) _ hconsumed) fun _ u hu ↦ ?_)
  obtain ⟨h, hr⟩ := hu
  rw [wp_get_bind]
  refine wp_ite (fun hraised ↦ ?_) fun hnot ↦ ?_
  · have hcount := hr.1 hraised
    refine wp_bind (wp_modify ?_)
    -- the accept loop may have torn down already, and then for a reason of its own
    obtain ⟨-, ⟨hstate, hg, -⟩ | ⟨hstate, hg, -⟩⟩ := h
    · exact wp_mono (wp_enterErrorState_ended (s := .abandoned) rfl hg hcount) fun _ _ h' ↦ .inr h'
    · refine wp_mono (triple_enterErrorState_health (lasting_givenUp w₀) _ ⟨rfl, ?_⟩) fun _ _ h' ↦
        .inr h'
      exact lasting_givenUp w₀ u _ [_] hg rfl
  · have hdone := h.ended_or_healthy hr (by simpa using hnot)
    have hboth : QuietTunnel fun w ↦ Healthy w₀ w ∨ Ended w₀ w := by
      refine quietTunnel_of_unheard ?_
      rintro u u' (hu | ⟨hu, hg⟩) hun
      · exact .inl (hu.later hun)
      · obtain ⟨items, ht, -⟩ := hun.trace
        exact .inr ⟨hu.later hun, lasting_givenUp w₀ u u' items hg ht⟩
    exact (hboth.drainPendingIfAny.bind fun _ ↦ hboth.drainDeferredIfAny.bind fun _ ↦
      hboth.updateStats) u hdone

theorem wp_loopConnected_health (h : Healthy w₀ w) :
    wp (loopConnected p) (fun _ w' ↦ Healthy w₀ w' ∨ Ended w₀ w') w := by
  refine wp_bind (wp_mono ((quietTunnel_free _ w₀).drainDeferredIfAny w h) fun _ u hu ↦ ?_)
  refine wp_bind (wp_mono (wp_attempts (I := Healthy w₀) (J := fun w ↦ Healthy w₀ w ∨ Ended w₀ w)
    (fun _ h ↦ .inl h) (fun _ h ↦ wp_handleNewConnection_health h) hu) fun _ v hv ↦ ?_)
  have hcycle : MidCycle w₀ v ∧ Reported v := hv.elim Healthy.midCycle Ended.midCycle
  have hkeep := (quietTunnel_midCycle w₀).pumpAll (midCycle_scanSlot (p := p)) v hcycle
  exact wp_bind (wp_mono hkeep fun _ u hu ↦ wp_loopTail_health hu.1 hu.2)

/-! ### Runs -/

/-- Between operations: healthy while it is connected, and nothing is counted while it is not. -/
def Watched (w : TunnelWorld) : Prop :=
  Healthy w w ∨ Spotless .disconnected 0 w ∨ Spotless .error 0 w

/-- An iteration of a connected tunnel. -/
theorem wp_loop_health (h : Healthy w w) :
    wp (loop p) (fun _ w' ↦ Healthy w w' ∨
      Spotless .error 0 w' ∧ (w.st.session.isConnected = false ∨ GivenUp w w')) w := by
  rw [loop, wp_get_bind, if_neg (by rw [h.state]; decide), if_neg (by rw [h.state]; decide)]
  refine wp_ite (fun hdown ↦ ?_) fun hup ↦ ?_
  · refine wp_mono (triple_enterErrorState_health (G := fun _ ↦ True) (fun _ _ _ _ _ ↦ trivial) w
      ⟨h.degraded, trivial⟩) fun _ _ h' ↦ .inr ⟨h'.1, .inl (by simpa using hdown)⟩
  · refine wp_bind (wp_mono (wp_checkHealth_health h (by simpa using hup)) fun alive u hu ↦ ?_)
    cases alive with
    | false => exact wp_pure (.inr ⟨hu.1, .inr hu.2⟩)
    | true =>
      refine wp_mono (wp_loopConnected_health hu) fun _ u hu ↦ ?_
      exact hu.imp id fun hu ↦ ⟨hu.1, .inr hu.2⟩

theorem Healthy.watched (h : Healthy w₀ w) : Watched w :=
  .inl ⟨h.toCharted, h.state, h.degraded, h.below, ⟨[], rfl⟩⟩

theorem watched_of_spotless (h : Spotless .connected 0 w ∨ Spotless .error 0 w) : Watched w :=
  h.elim (fun h ↦ .inl h.healthy) fun h ↦ .inr (.inr h)

theorem watched_prog (op : TunnelOp) : Preserves Watched (op.prog p) := by
  intro w h
  have hdegraded : w.st.transport.sessionDegraded = false := by
    rcases h with h | h | h
    · exact h.degraded
    · exact h.degraded
    · exact h.degraded
  cases op with
  | connectSSH =>
    refine wp_bind (wp_mono (Q := fun _ ↦ Watched) ?_ fun _ _ h' ↦ wp_pure h')
    rcases h with h | h | h
    · rw [connectSSH, wp_get_bind, if_pos h.state]
      exact wp_pure (.inl h)
    · exact wp_mono (wp_connectSSH_health h (by decide)) fun _ _ h' ↦ watched_of_spotless h'
    · exact wp_mono (wp_connectSSH_health h (by decide)) fun _ _ h' ↦ watched_of_spotless h'
  | loop =>
    rcases h with h | h | h
    · refine wp_mono (wp_loop_health h) fun _ u hu ↦ ?_
      exact hu.elim Healthy.watched fun hu ↦ .inr (.inr hu.1)
    · show wp (loop p) _ w
      rw [loop, wp_get_bind, if_neg (by rw [h.state]; decide), if_pos h.state]
      exact wp_pure (.inr (.inl h))
    · show wp (loop p) _ w
      rw [loop, wp_get_bind, if_pos h.state]
      exact wp_mono (wp_handleReconnection_health h) fun _ _ h' ↦ watched_of_spotless h'
  | disconnect =>
    exact wp_mono (triple_disconnect_health w hdegraded) fun _ _ h' ↦ .inr (.inl h')
  | requestReconnect =>
    show wp requestReconnect _ w
    rw [requestReconnect, wp_get_bind]
    refine wp_ite (fun _ ↦ wp_pure h) fun hst ↦ ?_
    have h : Spotless .disconnected 0 w := by
      rcases h with h | h | h
      · exact absurd (.inl h.state) hst
      · exact h
      · exact absurd (.inr (.inr h.state)) hst
    refine wp_millis_tunnel fun t _ ↦ ?_
    rw [wp_modify_bind, wp_mark_bind]
    refine wp_mark (.inr (.inr ⟨⟨rfl, h.socket, h.degraded, fun s ↦ ?_⟩, h.keepalive, h.accept⟩))
    rw [World.marked_trace, count_silent rfl]
    exact (count_silent rfl).trans (h.counts s)

theorem TunnelRun.watched (hw : TunnelRun p w) : Watched w := by
  refine hw.invariant (fun clock ↦ ?_) ?_
  · exact .inr (.inl ⟨⟨rfl, rfl, rfl, fun _ ↦ rfl⟩, rfl, rfl⟩)
  · rintro _ ⟨op, rfl⟩
    exact watched_prog op

/-- **A session is given up for cause, and at once.** Whatever a run has led to: a connected tunnel
has no symptom, so the iteration in which one appears is the last one of its session. And an iteration
that ends unconnected, with a session to begin with, has begun its teardown with a symptom present. -/
theorem session_given_up_for_cause (hw : TunnelRun p w) (hst : w.st.state = .connected) :
    (∀ s : Symptom, ¬s.Present w.trace) ∧
      ∀ e : Env Call Call.Reply, ((loop p).exec e w).st.state ≠ .connected →
        w.st.session.isConnected = false ∨ GivenUp w ((loop p).exec e w) := by
  have h : Healthy w w := by
    rcases hw.watched with h | h | h
    · exact h
    · rw [h.state] at hst
      cases hst
    · rw [h.state] at hst
      cases hst
  refine ⟨fun s hs ↦ ?_, fun e hend ↦ ?_⟩
  · exact Nat.not_le_of_lt (h.below s trivial) (Symptom.present_iff.1 hs)
  · rcases wp_loop_health h e with hhealthy | ⟨-, hcause⟩
    · exact absurd hhealthy.state hend
    · exact hcause

/-- The socket of the session reports an error, whenever it is asked. -/
def brokenSocket : Env Call Call.Reply := worldWith 1 fun _ c ↦
  match c with
  | .sys (.soError _) => some ((0 : Int), (104 : Int))
  | _ => none

/-- A connected tunnel that has seen two errors of its socket. -/
def ailingRun : TunnelWorld := afterTunnelOps (smallTunnel 1)
  [(.connectSSH, worldWith 1 fun _ _ ↦ none), (.loop, brokenSocket), (.loop, brokenSocket)]

/-- The third one is too many. -/
theorem session_given_up_for_cause_ailingRun :
    ailingRun.st.state = .connected ∧ GivenUp ailingRun ((loop (smallTunnel 1)).exec brokenSocket
      ailingRun) := by
  have hst : ailingRun.st.state = .connected := by decide +kernel
  have hrun : TunnelRun (smallTunnel 1) ailingRun := tunnelRun_after _
  obtain ⟨-, hcause⟩ := session_given_up_for_cause hrun hst
  refine ⟨hst, (hcause brokenSocket (by decide +kernel)).resolve_left ?_⟩
  have hconn : ailingRun.st.session.isConnected = true := by decide +kernel
  rw [hconn]
  decide

end ReverseTunnel
