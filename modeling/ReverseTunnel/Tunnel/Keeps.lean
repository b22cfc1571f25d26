import ReverseTunnel.Session.Keeps
import ReverseTunnel.Tunnel.Tunnel

/-!
# What most of the tunnel cannot break

Few functions decide when the tunnel reconnects and whether its session has to go: `enterErrorState`,
`connectSSH`, `requestReconnect`, `handleReconnection`, the keepalive of `loop`, the hard deadline of
`checkCloses` and what `loop` does about it. All others make calls, work on slots and change the rest
of the state. So an assertion that survives each of these survives all other functions, and that is
proved here once for all assertions.
-/

namespace ReverseTunnel

open Traced TunnelM

/-- A change of state that neither touches what the tunnel reconnects by nor unsays a report. -/
structure Passive (f : SSHTunnel → SSHTunnel) : Prop where
  /-- The tunnel state is as it was. -/
  state : ∀ s, (f s).state = s.state
  /-- The time of the last keepalive is as it was. -/
  lastKeepAlive : ∀ s, (f s).lastKeepAlive = s.lastKeepAlive
  /-- The time of the last connection attempt is as it was. -/
  lastConnectionAttempt : ∀ s, (f s).lastConnectionAttempt = s.lastConnectionAttempt
  /-- The count of attempts is as it was. -/
  reconnectAttempts : ∀ s, (f s).reconnectAttempts = s.reconnectAttempts
  /-- The degradation flag is as it was. -/
  sessionDegraded : ∀ s, (f s).transport.sessionDegraded = s.transport.sessionDegraded
  /-- No close event is taken away. -/
  events : ∀ s, s.transport.pendingCloseEvents <+: (f s).transport.pendingCloseEvents

/-- A mark of the tunnel, but no note about the deadline or about reconnecting. -/
def Mark.unnoted : Mark → Bool
  | .note (.pumped _) | .note (.drained _) => true
  | .slot _ _ | .note _ => false
  | _ => true

/-- Connecting to the local endpoint is calls and nothing else, and none of them asks about the
session. -/
theorem quiet_connectToLocalEndpoint {I : Assertion SSHTunnel Call Call.Reply Mark}
    (hcall : ∀ c : SysCall, c.probes = false → Preserves I (sysId c)) (mapping : TunnelConfig) :
    Preserves I (connectToLocalEndpoint mapping) := by
  have hsys : ∀ c : SysCall, c.probes = false → Preserves I (sys c) := fun c hc ↦
    (hcall c hc).bind fun _ ↦ Preserves.ret
  have hgiveUp : ∀ fd : Int, Preserves I (do
      let _ ← sys (.localClose fd)
      pure (-1 : Int)) := fun fd ↦ (hsys _ rfl).bind fun _ ↦ Preserves.ret
  refine (hcall _ rfl).bind fun res ↦ Preserves.ite Preserves.ret ?_
  refine (hsys _ rfl).bind fun _ ↦ Preserves.ite (hgiveUp _) ?_
  refine (hsys _ rfl).bind fun _ ↦ Preserves.ite (hgiveUp _) ?_
  refine (hsys _ rfl).bind fun _ ↦ Preserves.ite (hgiveUp _) ?_
  refine (hsys _ rfl).bind fun _ ↦ ?_
  split
  · exact Preserves.ret
  · exact hgiveUp _
  · refine (hsys _ rfl).bind fun _ ↦ Preserves.ite (hgiveUp _) ?_
    exact (hsys _ rfl).bind fun _ ↦ Preserves.ite (hgiveUp _) Preserves.ret

theorem preserves_connectToLocalEndpoint {I : Assertion SSHTunnel Call Call.Reply Mark}
    (hcall : ∀ c : SysCall, Preserves I (sysId c)) (mapping : TunnelConfig) :
    Preserves I (connectToLocalEndpoint mapping) :=
  quiet_connectToLocalEndpoint (fun c _ ↦ hcall c) mapping

/-- A passive change that touches neither the session nor what `loop` thinks of its health. -/
structure Quiet (f : SSHTunnel → SSHTunnel) : Prop extends Passive f where
  /-- The session is as it was. -/
  session : ∀ s, (f s).session = s.session
  /-- The failures of the health check are as they were. -/
  socketHealthFailures : ∀ s, (f s).socketHealthFailures = s.socketHealthFailures

/-- A mark of the tunnel that is not the end of its session either. -/
def Mark.quiet : Mark → Bool
  | .sessionDown => false
  | m => m.unnoted

theorem Mark.unnoted_of_quiet {m : Mark} (h : m.quiet = true) : m.unnoted = true := by
  cases m with
  | sessionDown => cases h
  | _ => exact h

/-- An assertion that the tunnel cannot break where it leaves its session alone. -/
structure QuietTunnel (I : Assertion SSHTunnel Call Call.Reply Mark) : Prop where
  /-- By a call. -/
  quietCall : ∀ c : SysCall, c.probes = false → Preserves I (sysId c)
  /-- By reading the clock. -/
  millis : Preserves I millis
  /-- By a mark. -/
  quietMark : ∀ m : Mark, m.quiet = true → Preserves I (Prog.mark m)
  /-- By work on a slot. -/
  onSlot : ∀ {α : Type} (i : ℕ) (m : SlotM α), Preserves I (onSlot i m)
  /-- By a change of the rest of the state. -/
  quietModify : ∀ f, Quiet f → Preserves I (Prog.modify f)

/-- An assertion that most of the tunnel cannot break. -/
structure TunnelKeeps (I : Assertion SSHTunnel Call Call.Reply Mark) : Prop
    extends QuietTunnel I where
  /-- By a call. -/
  sysId : ∀ c : SysCall, Preserves I (sysId c)
  /-- By a mark. -/
  mark : ∀ m : Mark, m.unnoted = true → Preserves I (Prog.mark m)
  /-- By a change of the rest of the state. -/
  modify : ∀ f, Passive f → Preserves I (Prog.modify f)
  quietCall c _ := sysId c
  quietMark m hm := mark m (Mark.unnoted_of_quiet hm)
  quietModify f hf := modify f hf.toPassive

namespace QuietTunnel

variable {p : Params} {I : Assertion SSHTunnel Call Call.Reply Mark}

/-- Two things that hold together. -/
theorem and {J : Assertion SSHTunnel Call Call.Reply Mark} (hI : QuietTunnel I)
    (hJ : QuietTunnel J) : QuietTunnel fun w ↦ I w ∧ J w where
  quietCall c hc w h := wp_and (hI.quietCall c hc w h.1) (hJ.quietCall c hc w h.2)
  millis w h := wp_and (hI.millis w h.1) (hJ.millis w h.2)
  quietMark m hm w h := wp_and (hI.quietMark m hm w h.1) (hJ.quietMark m hm w h.2)
  onSlot i m w h := wp_and (hI.onSlot i m w h.1) (hJ.onSlot i m w h.2)
  quietModify f hf w h := wp_and (hI.quietModify f hf w h.1) (hJ.quietModify f hf w h.2)

theorem sys (hI : QuietTunnel I) (c : SysCall) (hc : c.probes = false) : Preserves I (sys c) :=
  (hI.quietCall c hc).bind fun _ ↦ Preserves.ret

theorem lock (hI : QuietTunnel I) (ms : ℕ) : Preserves I (lock ms) := hI.sys _ rfl

theorem unlock (hI : QuietTunnel I) : Preserves I unlock := hI.sys _ rfl

theorem emit (hI : QuietTunnel I) (e : Event) : Preserves I (emit e) := hI.sys _ rfl

theorem getSlot (_ : QuietTunnel I) (i : ℕ) : Preserves I (getSlot i) :=
  Preserves.get_bind fun _ ↦ Preserves.ret

theorem modifyChannels (hI : QuietTunnel I) (f : ChannelManager → ChannelManager) :
    Preserves I (modifyChannels f) :=
  hI.quietModify _ ⟨⟨fun _ ↦ rfl, fun _ ↦ rfl, fun _ ↦ rfl, fun _ ↦ rfl, fun _ ↦ rfl,
    fun _ ↦ List.prefix_refl _⟩, fun _ ↦ rfl, fun _ ↦ rfl⟩

theorem modifyTransport (hI : QuietTunnel I) {f : TransportPump → TransportPump}
    (hf : ∀ t, (f t).sessionDegraded = t.sessionDegraded)
    (hf' : ∀ t, t.pendingCloseEvents <+: (f t).pendingCloseEvents) :
    Preserves I (modifyTransport f) :=
  hI.quietModify _ ⟨⟨fun _ ↦ rfl, fun _ ↦ rfl, fun _ ↦ rfl, fun _ ↦ rfl, fun s ↦ hf s.transport,
    fun s ↦ hf' s.transport⟩, fun _ ↦ rfl, fun _ ↦ rfl⟩

theorem modifyQueue (hI : QuietTunnel I) (q : QueueName) (f : ChannelQueue → ChannelQueue) :
    Preserves I (modifyQueue q f) := by
  cases q with
  | pending =>
    rw [ReverseTunnel.modifyQueue]
    exact hI.quietModify _ ⟨⟨fun _ ↦ rfl, fun _ ↦ rfl, fun _ ↦ rfl, fun _ ↦ rfl, fun _ ↦ rfl,
      fun _ ↦ List.prefix_refl _⟩, fun _ ↦ rfl, fun _ ↦ rfl⟩
  | deferredClose =>
    rw [ReverseTunnel.modifyQueue]
    exact hI.quietModify _ ⟨⟨fun _ ↦ rfl, fun _ ↦ rfl, fun _ ↦ rfl, fun _ ↦ rfl, fun _ ↦ rfl,
      fun _ ↦ List.prefix_refl _⟩, fun _ ↦ rfl, fun _ ↦ rfl⟩

/-! ### The channel manager -/

theorem allocateSlot (hI : QuietTunnel I) : Preserves I (allocateSlot p) := by
  refine hI.millis.bind fun now ↦ Preserves.get_bind fun s ↦ ?_
  split
  · exact Preserves.ret
  · dsimp only
    split
    · exact (hI.onSlot _ _).bind fun _ ↦ Preserves.ret
    · exact Preserves.ret

theorem connectToLocalEndpoint (hI : QuietTunnel I) (mapping : TunnelConfig) :
    Preserves I (connectToLocalEndpoint mapping) :=
  quiet_connectToLocalEndpoint hI.quietCall mapping

theorem bindChannel (hI : QuietTunnel I) (i : Int) (h : Handle) (mapping : TunnelConfig) :
    Preserves I (bindChannel p i h mapping) := by
  refine Preserves.ite Preserves.ret ((hI.getSlot _).bind fun _ ↦ Preserves.ite Preserves.ret ?_)
  refine (hI.connectToLocalEndpoint mapping).bind fun fd ↦ Preserves.ite ?_ ?_
  · exact hI.millis.bind fun _ ↦ (hI.modifyChannels _).bind fun _ ↦ Preserves.ret
  · have hgiveUp : Preserves I (do
        let _ ← TunnelM.sys (.localClose fd)
        pure false) := (hI.sys _ rfl).bind fun _ ↦ Preserves.ret
    refine (hI.modifyChannels _).bind fun _ ↦ (hI.sys _ rfl).bind fun _ ↦ Preserves.ite hgiveUp ?_
    refine (hI.sys _ rfl).bind fun _ ↦ (hI.sys _ rfl).bind fun _ ↦ Preserves.ite hgiveUp ?_
    exact (hI.onSlot _ _).bind fun _ ↦ (hI.modifyChannels _).bind fun _ ↦ Preserves.ret

theorem finalizeClose (hI : QuietTunnel I) (i : Int) : Preserves I (finalizeClose p i) := by
  refine Preserves.ite Preserves.ret ((hI.getSlot _).bind fun _ ↦ Preserves.ite Preserves.ret ?_)
  refine (hI.onSlot _ _).bind fun _ ↦ Preserves.ite Preserves.ret ?_
  exact (hI.onSlot _ _).bind fun _ ↦ (hI.modifyChannels _).bind fun _ ↦
    (hI.onSlot _ _).bind fun _ ↦ (hI.modifyChannels _).bind fun _ ↦ Preserves.ret

theorem abandonSlot (hI : QuietTunnel I) (i : Int) (reason : ChannelCloseReason) :
    Preserves I (abandonSlot p i reason) := by
  refine Preserves.ite Preserves.ret ((hI.getSlot _).bind fun _ ↦ Preserves.ite Preserves.ret ?_)
  exact (hI.onSlot _ _).bind fun _ ↦ (hI.modifyChannels _).bind fun _ ↦
    (hI.modifyChannels _).bind fun _ ↦ hI.onSlot _ _

/-! ### The pump, giving up slots apart -/

theorem pumpFallback (hI : QuietTunnel I) : Preserves I (pumpFallback p) := by
  refine Preserves.get_bind fun s ↦ ?_
  -- the fallback slot, and its channel
  dsimp only
  split
  · exact Preserves.ret
  · split
    · exact Preserves.ret
    · exact hI.onSlot _ _

theorem pumpSshSlot (hI : QuietTunnel I) (i : ℕ) : Preserves I (pumpSshSlot p i) :=
  (hI.getSlot i).bind fun _ ↦ (hI.onSlot i _).bind fun _ ↦
    (Preserves.when (hI.quietMark _ rfl)).bind fun _ ↦ Preserves.ret

theorem pumpSshTransport (hI : QuietTunnel I) : Preserves I (pumpSshTransport p) := by
  refine (hI.lock _).bind fun _ ↦ Preserves.ite Preserves.ret (Preserves.get_bind fun s ↦ ?_)
  refine Preserves.bind (Preserves.fold fun any i _ ↦ ?_) fun any ↦ ?_
  · exact (hI.pumpSshSlot i).bind fun _ ↦ Preserves.ret
  · exact (Preserves.when hI.pumpFallback).bind fun _ ↦ hI.unlock

theorem drainSshToLocal (hI : QuietTunnel I) : Preserves I (drainSshToLocal p) :=
  Preserves.get_bind fun _ ↦ Preserves.each fun i _ ↦ hI.onSlot i _

theorem drainLocalSlot (hI : QuietTunnel I) (i : ℕ) : Preserves I (drainLocalSlot p i) := by
  refine (hI.getSlot i).bind fun _ ↦ Preserves.ite Preserves.ret (Preserves.ite Preserves.ret ?_)
  refine Preserves.bind (Preserves.when ((hI.lock _).bind fun _ ↦ Preserves.ite ?_ Preserves.ret))
    fun _ ↦ ?_
  · exact (hI.onSlot i _).bind fun _ ↦ hI.unlock.bind fun _ ↦ hI.onSlot i _
  · exact (hI.onSlot i _).bind fun _ ↦ (hI.onSlot i _).bind fun _ ↦ hI.quietMark _ rfl

theorem drainLocalToSsh (hI : QuietTunnel I) : Preserves I (drainLocalToSsh p) :=
  Preserves.ite Preserves.ret (Preserves.get_bind fun _ ↦
    (Preserves.each fun i _ ↦ hI.drainLocalSlot i).bind fun _ ↦
      hI.modifyTransport (fun _ ↦ rfl) fun _ ↦ List.prefix_refl _)

theorem pushCloseEvent (hI : QuietTunnel I) (i : ℕ) (reason : ChannelCloseReason) :
    Preserves I (pushCloseEvent i reason) := by
  refine hI.modifyTransport (fun t ↦ ?_) fun t ↦ ?_
  · split <;> rfl
  · split
    · exact List.prefix_append _ _
    · exact List.prefix_refl _

theorem sendEofs (hI : QuietTunnel I) (toSendEof : List ℕ) : Preserves I (sendEofs toSendEof) := by
  refine Preserves.ite ((hI.lock _).bind fun _ ↦ Preserves.ite ?_ Preserves.ret) Preserves.ret
  exact (Preserves.each fun i _ ↦ hI.onSlot i _).bind fun _ ↦ hI.unlock

theorem finalizePick (hI : QuietTunnel I) (now : UInt32) (i : ℕ) :
    Preserves I (finalizePick p now i) :=
  (hI.getSlot i).bind fun _ ↦ (hI.onSlot i _).bind fun _ ↦ (hI.finalizeClose _).bind fun _ ↦
    Preserves.when (hI.pushCloseEvent _ _)

theorem finalizePicks (hI : QuietTunnel I) (now : UInt32) (toClose : List ℕ) :
    Preserves I (finalizePicks p now toClose) := by
  refine Preserves.ite ((hI.lock _).bind fun _ ↦ Preserves.ite ?_ Preserves.ret) Preserves.ret
  exact (Preserves.each fun i _ ↦ hI.finalizePick now i).bind fun _ ↦ hI.unlock

/-- A pump cycle cannot break it if looking for slots past their deadline cannot. -/
theorem pumpAll (hI : QuietTunnel I)
    (hscan : ∀ now picks i, Preserves I (scanSlot p now picks i)) : Preserves I (pumpAll p) := by
  have hclose : Preserves I (checkCloses p) :=
    hI.millis.bind fun _ ↦ (Preserves.each fun i _ ↦ hI.onSlot i _).bind fun _ ↦
      hI.millis.bind fun now ↦ (Preserves.fold fun picks i _ ↦ hscan now picks i).bind fun picks ↦
        (hI.sendEofs _).bind fun _ ↦ hI.finalizePicks _ _
  refine Preserves.bind (hI.modifyTransport (fun _ ↦ rfl) fun _ ↦ List.prefix_refl _) fun _ ↦ ?_
  exact hI.pumpSshTransport.bind fun _ ↦ hI.drainSshToLocal.bind fun _ ↦
    hI.drainLocalToSsh.bind fun _ ↦ hclose.bind fun _ ↦ Preserves.get_bind fun _ ↦ Preserves.ret

/-! ### The queues -/

theorem returning (hI : QuietTunnel I) {α : Type} {m : TunnelM α} (hm : Preserves I m) :
    Preserves I (returning m) :=
  hm.bind fun _ ↦ (hI.quietMark _ rfl).bind fun _ ↦ Preserves.ret

theorem compactQueue (hI : QuietTunnel I) (q : QueueName)
    {body : PendingChannel → Handle → TunnelM (Option PendingChannel)}
    (hbody : ∀ pending h, Preserves I (body pending h)) : Preserves I (compactQueue q body) := by
  refine hI.returning (Preserves.get_bind fun s ↦ Preserves.bind ?_ fun _ ↦ hI.modifyQueue _ _)
  refine Preserves.fold fun writeIdx i _ ↦ Preserves.get_bind fun s ↦ ?_
  dsimp only
  split
  · exact Preserves.ret
  · refine (hbody _ _).bind fun kept ↦ ?_
    split
    · exact (hI.modifyQueue _ _).bind fun _ ↦ Preserves.ret
    · exact (hI.modifyQueue _ _).bind fun _ ↦
        (Preserves.when (hI.modifyQueue _ _)).bind fun _ ↦ Preserves.ret

theorem closeAcceptedChannel (hI : QuietTunnel I) (h : Handle) (ms : ℕ) :
    Preserves I (closeAcceptedChannel h ms) :=
  (hI.lock _).bind fun _ ↦ Preserves.ite ((hI.sys _ rfl).bind fun _ ↦ (hI.sys _ rfl).bind fun _ ↦
    hI.unlock.bind fun _ ↦ Preserves.ret) Preserves.ret

theorem bindAcceptedChannel (hI : QuietTunnel I) (slot : ℕ) (h : Handle) (mapping : TunnelConfig)
    (ms : ℕ) : Preserves I (bindAcceptedChannel p slot h mapping ms) :=
  (hI.lock _).bind fun _ ↦ Preserves.ite Preserves.ret ((hI.bindChannel _ h mapping).bind fun _ ↦
    hI.unlock.bind fun _ ↦ Preserves.ret)

theorem enqueueDeferredClose (hI : QuietTunnel I) (h : Handle) (mapping : TunnelConfig) :
    Preserves I (enqueueDeferredClose h mapping) := by
  refine hI.returning ((hI.closeAcceptedChannel h _).bind fun _ ↦ Preserves.ite Preserves.ret ?_)
  refine (hI.quietMark _ rfl).bind fun _ ↦ Preserves.get_bind fun _ ↦ Preserves.ite Preserves.ret ?_
  exact hI.millis.bind fun _ ↦ (hI.modifyQueue _ _).bind fun _ ↦ Preserves.ret

theorem closeEntry (hI : QuietTunnel I) (pending : PendingChannel) (h : Handle) (ms : ℕ) :
    Preserves I (closeEntry pending h ms) :=
  (hI.closeAcceptedChannel h ms).bind fun _ ↦ Preserves.ret

theorem drainPendingEntry (hI : QuietTunnel I) (now : UInt32) (pending : PendingChannel)
    (h : Handle) : Preserves I (drainPendingEntry p now pending h) := by
  refine Preserves.ite (Preserves.ite (hI.closeEntry _ _ _) (hI.closeEntry _ _ _))
    (Preserves.ite (hI.closeEntry _ _ _) (hI.allocateSlot.bind fun slot ↦ ?_))
  split
  · exact Preserves.ret
  · refine (hI.quietMark _ rfl).bind fun _ ↦ (hI.bindAcceptedChannel _ _ _ _).bind fun _ ↦ ?_
    split
    · exact (hI.emit _).bind fun _ ↦ Preserves.ret
    · exact Preserves.ret
    · exact hI.closeEntry _ _ _

theorem drainPendingIfAny (hI : QuietTunnel I) : Preserves I (drainPendingIfAny p) := by
  refine Preserves.get_bind fun _ ↦ Preserves.ite (Preserves.bind ?_ fun _ ↦ ?_) Preserves.ret
  · exact hI.millis.bind fun now ↦ hI.compactQueue _ fun pending h ↦
      Preserves.ite (hI.closeEntry _ _ _) Preserves.ret
  · exact hI.millis.bind fun now ↦ hI.compactQueue _ fun pending h ↦
      hI.drainPendingEntry now pending h

theorem drainDeferredIfAny (hI : QuietTunnel I) : Preserves I drainDeferredIfAny := by
  refine Preserves.get_bind fun _ ↦ Preserves.ite (hI.millis.bind fun now ↦ ?_) Preserves.ret
  exact hI.compactQueue _ fun pending h ↦ (hI.closeAcceptedChannel _ _).bind fun _ ↦ Preserves.ret

theorem clearQueue (hI : QuietTunnel I) (q : QueueName) : Preserves I (clearQueue q) := by
  refine hI.returning (Preserves.get_bind fun s ↦ Preserves.ite Preserves.ret ?_)
  refine (hI.lock _).bind fun _ ↦ Preserves.ite Preserves.ret (Preserves.bind ?_ fun _ ↦
    hI.unlock.bind fun _ ↦ (hI.modifyQueue _ _).bind fun _ ↦ Preserves.ret)
  refine Preserves.each fun i _ ↦ Preserves.get_bind fun s ↦ ?_
  split
  · exact Preserves.ret
  · exact (hI.sys _ rfl).bind fun _ ↦ (hI.sys _ rfl).bind fun _ ↦ hI.modifyQueue _ _

/-! ### Teardown -/

theorem updateStats (hI : QuietTunnel I) : Preserves I (updateStats p) := by
  refine (hI.sys _ rfl).bind fun _ ↦ Preserves.ite ?_ Preserves.ret
  refine Preserves.bind (hI.quietModify _ ?_) fun _ ↦ (hI.sys _ rfl).bind fun _ ↦ Preserves.ret
  exact ⟨⟨fun _ ↦ rfl, fun _ ↦ rfl, fun _ ↦ rfl, fun _ ↦ rfl, fun _ ↦ rfl,
    fun _ ↦ List.prefix_refl _⟩, fun _ ↦ rfl, fun _ ↦ rfl⟩

theorem releaseSlot (hI : QuietTunnel I) (locked : Bool) (i : ℕ) (reason : ChannelCloseReason) :
    Preserves I (releaseSlot p locked i reason) :=
  Preserves.ite ((hI.finalizeClose _).bind fun _ ↦ Preserves.ret) (hI.abandonSlot _ reason)

theorem closeOrphan (hI : QuietTunnel I) (locked : Bool) (i : ℕ) :
    Preserves I (closeOrphan p locked i) :=
  (hI.getSlot i).bind fun _ ↦ Preserves.ite
    ((hI.releaseSlot _ _ _).bind fun _ ↦ hI.emit _) Preserves.ret

theorem closeManually (hI : QuietTunnel I) (locked : Bool) (i : ℕ) :
    Preserves I (closeManually p locked i) :=
  (hI.getSlot i).bind fun _ ↦ Preserves.ite Preserves.ret
    ((hI.releaseSlot _ _ _).bind fun _ ↦ hI.emit _)

/-! ### Accepting a channel -/

theorem queueForBinding (hI : QuietTunnel I) (h : Handle) (mapping : TunnelConfig) :
    Preserves I (queueForBinding h mapping) :=
  hI.millis.bind fun _ ↦ hI.modifyQueue _ _

theorem bindAccepted (hI : QuietTunnel I) (i : ℕ) (h : Handle) (mapping : TunnelConfig) :
    Preserves I (bindAccepted p i h mapping) := by
  refine (hI.bindAcceptedChannel _ _ _ _).bind fun _ ↦ ?_
  split
  · exact (hI.emit _).bind fun _ ↦ Preserves.ret
  · exact Preserves.get_bind fun _ ↦ Preserves.ite
      ((hI.queueForBinding _ _).bind fun _ ↦ Preserves.ret)
      ((hI.enqueueDeferredClose _ _).bind fun _ ↦ Preserves.ret)
  · exact (hI.enqueueDeferredClose _ _).bind fun _ ↦ Preserves.ret

theorem rejectAccepted (hI : QuietTunnel I) (h : Handle) (mapping : TunnelConfig) (ms : ℕ)
    (force : Bool) : Preserves I (rejectAccepted h mapping ms force) :=
  (hI.closeAcceptedChannel _ _).bind fun _ ↦ Preserves.ite Preserves.ret
    ((hI.enqueueDeferredClose _ _).bind fun _ ↦ Preserves.ite Preserves.ret
      ((hI.closeAcceptedChannel _ _).bind fun _ ↦ Preserves.ret))

theorem handleAccepted (hI : QuietTunnel I) (h : Handle) (mapping : TunnelConfig) :
    Preserves I (handleAccepted p h mapping) := by
  refine hI.millis.bind fun _ ↦ Preserves.get_bind fun _ ↦ Preserves.ite
    ((hI.rejectAccepted _ _ _ _).bind fun _ ↦ Preserves.ret) ?_
  refine (hI.quietMark _ rfl).bind fun _ ↦ hI.allocateSlot.bind fun slot ↦ ?_
  split
  · exact hI.bindAccepted _ _ _
  · exact Preserves.get_bind fun _ ↦ Preserves.ite
      ((hI.queueForBinding _ _).bind fun _ ↦ Preserves.ret)
      ((hI.rejectAccepted _ _ _ _).bind fun _ ↦ Preserves.ret)

/-! ### The session goes down -/

theorem dropEverything {J : Assertion SSHTunnel Call Call.Reply Mark} (hJ : QuietTunnel J)
    (hdown : Triple I sessionDisconnect fun _ ↦ J) (reason : ChannelCloseReason) :
    Triple I (dropEverything p reason) fun _ ↦ J := by
  refine Triple.bind hdown fun _ ↦ Preserves.bind ?_ fun _ ↦ ?_
  · exact Preserves.each fun i _ ↦ hJ.abandonSlot i reason
  · exact (hJ.modifyQueue _ _).bind fun _ ↦ hJ.modifyQueue _ _

/-- `enterErrorState`, by what holds before and after the session goes down. What is left is the part
in which the tunnel is in the error state. -/
theorem enterErrorState {I₀ J : Assertion SSHTunnel Call Call.Reply Mark}
    {Q : Unit → Assertion SSHTunnel Call Call.Reply Mark} (hI : QuietTunnel I) (hJ : QuietTunnel J)
    (hmark : Triple I₀ (Prog.mark .tearingDown) fun _ ↦ I)
    (hdown : Triple I sessionDisconnect fun _ ↦ J) (hQ : Triple J (do
      Prog.modify fun s ↦ { s with state := .error, socketHealthFailures := 0 }
      let now ← TunnelM.millis
      Prog.modify fun s ↦ { s with lastConnectionAttempt := now }
      Prog.mark (.note .clocked)
      TunnelM.emit .sessionDisconnected
      Prog.mark .tornDown) Q) : Triple I₀ (enterErrorState p) Q := by
  refine Triple.bind hmark fun _ ↦ Triple.bind (hI.clearQueue _) fun _ ↦ ?_
  refine Triple.bind (hI.clearQueue _) fun _ ↦ Triple.bind (hI.lock _) fun locked ↦ ?_
  refine Triple.bind (Preserves.each fun i _ ↦ hI.closeOrphan locked i) fun _ ↦ ?_
  exact Triple.bind (Preserves.when hI.unlock) fun _ ↦
    Triple.bind (dropEverything hJ hdown _) fun _ ↦ Triple.bind hJ.updateStats fun _ ↦ hQ

/-- `disconnect`, by what holds before and after the session goes down. What is left is the part in
which the tunnel is in the disconnected state. -/
theorem disconnect {I₀ J : Assertion SSHTunnel Call Call.Reply Mark}
    {Q : Unit → Assertion SSHTunnel Call Call.Reply Mark} (hI : QuietTunnel I) (hJ : QuietTunnel J)
    (hmark : Triple I₀ (Prog.mark .tearingDown) fun _ ↦ I)
    (hdown : Triple I sessionDisconnect fun _ ↦ J) (hQ : Triple J (do
      Prog.modify fun s ↦ { s with socketHealthFailures := 0, state := .disconnected }
      Prog.mark .tornDown) Q) : Triple I₀ (disconnect p) Q := by
  have hlock : Preserves I (lockIfConnected 2000) :=
    Preserves.get_bind fun _ ↦ Preserves.ite (hI.lock _) Preserves.ret
  refine Triple.bind hmark fun _ ↦ Triple.bind (hI.clearQueue _) fun _ ↦ ?_
  refine Triple.bind (hI.clearQueue _) fun _ ↦ Triple.bind hlock fun locked ↦ ?_
  refine Triple.bind (Preserves.each fun i _ ↦ hI.closeManually locked i) fun _ ↦ ?_
  refine Triple.bind (Preserves.when hI.unlock) fun _ ↦
    Triple.bind (dropEverything hJ hdown _) fun _ ↦ ?_
  intro w hw
  refine wp_bind (wp_mono (hJ.updateStats w hw) fun _ w₁ h₁ ↦ wp_get_bind.2 ?_)
  exact wp_bind (wp_mono (Preserves.when (hJ.emit _) w₁ h₁) fun _ w₂ h₂ ↦ hQ w₂ h₂)

end QuietTunnel

namespace TunnelKeeps

variable {p : Params} {I : Assertion SSHTunnel Call Call.Reply Mark}

/-- The session in particular cannot break it. -/
theorem session (hI : TunnelKeeps I) : SessionKeeps I where
  sysId c _ := hI.sysId c
  modifySession _ := hI.modify _ ⟨fun _ ↦ rfl, fun _ ↦ rfl, fun _ ↦ rfl, fun _ ↦ rfl, fun _ ↦ rfl,
    fun _ ↦ List.prefix_refl _⟩

theorem sessionDisconnect (hI : TunnelKeeps I) : Preserves I sessionDisconnect :=
  (hI.mark _ rfl).bind fun _ ↦ hI.session.cancelAllListeners.bind fun _ ↦ hI.session.cleanupSession

theorem acceptChannel (hI : TunnelKeeps I) : Preserves I acceptChannel :=
  hI.session.acceptChannel fun _ ↦ hI.sysId _

/-! ### Teardown -/

theorem dropEverything (hI : TunnelKeeps I) (reason : ChannelCloseReason) :
    Preserves I (dropEverything p reason) :=
  hI.toQuietTunnel.dropEverything hI.sessionDisconnect reason

/-- The part of `enterErrorState` before the tunnel is in the error state. -/
theorem enterErrorState {Q : Unit → Assertion SSHTunnel Call Call.Reply Mark}
    (hI : TunnelKeeps I) (hQ : Triple I (do
      Prog.modify fun s ↦ { s with state := .error, socketHealthFailures := 0 }
      let now ← TunnelM.millis
      Prog.modify fun s ↦ { s with lastConnectionAttempt := now }
      Prog.mark (.note .clocked)
      TunnelM.emit .sessionDisconnected
      Prog.mark .tornDown) Q) : Triple I (enterErrorState p) Q :=
  hI.toQuietTunnel.enterErrorState hI.toQuietTunnel (hI.mark _ rfl) hI.sessionDisconnect hQ

/-- The part of `disconnect` before the tunnel is in the disconnected state. -/
theorem disconnect {Q : Unit → Assertion SSHTunnel Call Call.Reply Mark}
    (hI : TunnelKeeps I) (hQ : Triple I (do
      Prog.modify fun s ↦ { s with socketHealthFailures := 0, state := .disconnected }
      Prog.mark .tornDown) Q) : Triple I (disconnect p) Q :=
  hI.toQuietTunnel.disconnect hI.toQuietTunnel (hI.mark _ rfl) hI.sessionDisconnect hQ

/-! ### Accepting a channel -/

/-- An accepted channel is handled, unless there is none and the session is beyond repair. -/
theorem handleNewConnection (hI : TunnelKeeps I) (herr : Preserves I (ReverseTunnel.enterErrorState p)) :
    Preserves I (handleNewConnection p) := by
  refine hI.returning (hI.acceptChannel.bind fun accepted ↦ ?_)
  split
  · exact Preserves.get_bind fun _ ↦ (Preserves.when herr).bind fun _ ↦ Preserves.ret
  · exact hI.handleAccepted _ _

end TunnelKeeps

/-- Since `w₀` the trace has only grown. -/
def Grown (w₀ w : TunnelWorld) : Prop := ∃ items, w.trace = items ++ w₀.trace

theorem tunnelKeeps_grown (w₀ : TunnelWorld) : TunnelKeeps (Grown w₀) where
  sysId c w h := wp_callId fun r t _ ↦ h.imp' (_ :: ·) fun _ h ↦ congrArg (_ :: ·) h
  millis w h := wp_tick_bind fun _ _ ↦ wp_pure h
  mark m hm w h := wp_mark (h.imp' (_ :: ·) fun _ h ↦ congrArg (_ :: ·) h)
  onSlot i m w h := wp_zoom fun _ ↦ h.imp' (_ ++ ·) fun items h ↦ by
    show _ ++ w.trace = _
    rw [h, List.append_assoc]
  modify f hf w h := wp_modify h

end ReverseTunnel
