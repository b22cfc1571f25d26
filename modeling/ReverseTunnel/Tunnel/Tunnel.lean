import Mathlib.Algebra.Group.Int.Defs
import Mathlib.Data.Set.Operations
import ReverseTunnel.Session.Session
import ReverseTunnel.Transport.Pump

/-!
# The tunnel

`SSHTunnel`: accepting forwarded channels, the two queues of channels that could not be dealt with
at once, the main loop, and the teardown paths. A channel handle lives in a slot, in the pending
queue or in the deferred-close queue; the queues are fixed arrays compacted in place.
-/

namespace ReverseTunnel

open Traced TunnelM

/-- `MAX_PENDING` -/
def maxPending : ℕ := 8

/-- `MAX_DEFERRED_CLOSE` -/
def maxDeferredClose : ℕ := 4

/-- `PENDING_TIMEOUT_MS` -/
def pendingTimeoutMs : UInt32 := 5000

/-- `CLOSE_RETRY_TIMEOUT_MS` -/
def closeRetryTimeoutMs : UInt32 := 5000

/-! ### The queues -/

/-- Which of the two queues. -/
inductive QueueName where
  /-- `pendingQueue_` -/
  | pending
  /-- `deferredCloseQueue_` -/
  | deferredClose
  deriving DecidableEq

/-- A queue of the tunnel. -/
def SSHTunnel.queue (s : SSHTunnel) : QueueName → ChannelQueue
  | .pending => s.pending
  | .deferredClose => s.deferredClose

/-- Change a queue. -/
def modifyQueue (q : QueueName) (f : ChannelQueue → ChannelQueue) : TunnelM Unit :=
  match q with
  | .pending => Prog.modify fun s ↦ { s with pending := f s.pending }
  | .deferredClose => Prog.modify fun s ↦ { s with deferredClose := f s.deferredClose }

/-- Overwrite entry `i`. -/
def ChannelQueue.set (x : ChannelQueue) (i : ℕ) (e : PendingChannel) : ChannelQueue :=
  { x with entries := Function.update x.entries i e }

/-- Append an entry. -/
def ChannelQueue.push (x : ChannelQueue) (e : PendingChannel) : ChannelQueue :=
  { entries := Function.update x.entries x.count e, count := x.count + 1 }

/-- Null the channels of the entries in use and forget them. -/
def ChannelQueue.nulled (x : ChannelQueue) : ChannelQueue :=
  { entries := fun i ↦
      if i < x.count then { x.entries i with channel := none } else x.entries i
    count := 0 }

/-- Mark the return of a function that works on the queues. -/
def returning {α : Type} (m : TunnelM α) : TunnelM α := do
  let a ← m
  Prog.mark .returned
  pure a

/-- One round of a compaction: `body` keeps the entry, possibly changed, or is done with it. -/
def compactEntry (q : QueueName) (body : PendingChannel → Handle → TunnelM (Option PendingChannel))
    (writeIdx i : ℕ) : TunnelM ℕ := do
  let s ← Prog.get
  let pending := (s.queue q).entries i
  match pending.channel with
  -- an entry whose channel is gone makes room for the next one
  | none => pure writeIdx
  | some h => do
    let kept ← body pending h
    match kept with
    | none => do
      modifyQueue q (·.set i { pending with channel := none })
      pure writeIdx
    | some pending => do
      -- the source changes the entry in place before it is moved down
      modifyQueue q (·.set i pending)
      Prog.when (writeIdx ≠ i) (modifyQueue q (·.set writeIdx pending))
      pure (writeIdx + 1)

/-- Go through a queue, compacting it in place. -/
def compactQueue (q : QueueName)
    (body : PendingChannel → Handle → TunnelM (Option PendingChannel)) : TunnelM Unit :=
  returning do
  let s ← Prog.get
  let writeIdx ← Prog.fold (List.range (s.queue q).count) 0 (compactEntry q body)
  modifyQueue q fun x ↦ { x with count := writeIdx }

/-- `closeAcceptedChannel`, and the same steps where the source spells them out. The results of
close and free are not looked at. -/
def closeAcceptedChannel (h : Handle) (ms : ℕ) : TunnelM Bool := do
  let locked : Bool ← lock ms
  if locked then do
    let _ ← sys (.channelClose h)
    let _ ← sys (.channelFree h)
    unlock
    pure true
  else pure false

/-- `BindResult` -/
inductive BindResult where
  | bound
  | failed
  | lockUnavailable
  deriving DecidableEq

/-- `bindAcceptedChannel` -/
def bindAcceptedChannel (p : Params) (slot : ℕ) (h : Handle) (mapping : TunnelConfig) (ms : ℕ) :
    TunnelM BindResult := do
  let locked : Bool ← lock ms
  if !locked then pure .lockUnavailable
  else do
    let bound ← bindChannel p slot h mapping
    unlock
    pure (if bound then .bound else .failed)

/-- `enqueueDeferredClose` -/
def enqueueDeferredClose (h : Handle) (mapping : TunnelConfig) : TunnelM Bool := returning do
  let closed ← closeAcceptedChannel h 200
  if closed then pure true
  else do
    Prog.mark (.deferring h)
    let s ← Prog.get
    -- a full queue leaves the caller with the channel
    if s.deferredClose.count ≥ maxDeferredClose then pure false
    else do
      let now ← millis
      modifyQueue .deferredClose
        (·.push { channel := some h, mapping := mapping, queuedAtMs := now, action := .close })
      pure true

/-- Close the channel of a queue entry; one whose turn did not come is kept for closing. -/
def closeEntry (pending : PendingChannel) (h : Handle) (ms : ℕ) :
    TunnelM (Option PendingChannel) := do
  let closed ← closeAcceptedChannel h ms
  pure (if closed then none else some { pending with action := .close })

/-- `drainPendingQueue` on one entry, at clock value `now`. -/
def drainPendingEntry (p : Params) (now : UInt32) (pending : PendingChannel) (h : Handle) :
    TunnelM (Option PendingChannel) := do
  if pending.action = .close then
    if now - pending.queuedAtMs > closeRetryTimeoutMs then closeEntry pending h 100
    else closeEntry pending h 200
  else if now - pending.queuedAtMs > pendingTimeoutMs then closeEntry pending h 200
  else do
    let slot ← allocateSlot p
    match slot with
    | none => pure (some pending)
    | some i => do
      Prog.mark (.admitted true pending.mapping)
      let bindResult ← bindAcceptedChannel p i h pending.mapping 200
      match bindResult with
      | .bound => do
        emit (.channelOpened i)
        pure none
      -- `allocateSlot` has only named a slot: there is nothing to give back
      | .lockUnavailable => pure (some pending)
      | .failed => closeEntry pending h 200

/-- `drainPendingQueue` -/
def drainPendingQueue (p : Params) : TunnelM Unit := do
  let now ← millis
  compactQueue .pending (drainPendingEntry p now)

/-- `drainDeferredCloseQueue` on one entry. -/
def drainDeferredEntry (now : UInt32) (pending : PendingChannel) (h : Handle) :
    TunnelM (Option PendingChannel) := do
  let closed ← closeAcceptedChannel h
    (if now - pending.queuedAtMs > closeRetryTimeoutMs then 100 else 200)
  pure (if closed then none else some pending)

/-- `drainDeferredCloseQueue` -/
def drainDeferredCloseQueue : TunnelM Unit := do
  let now ← millis
  compactQueue .deferredClose (drainDeferredEntry now)

/-- `cleanExpiredPending` on one entry. -/
def cleanExpiredEntry (now : UInt32) (pending : PendingChannel) (h : Handle) :
    TunnelM (Option PendingChannel) := do
  if pending.action = .bind ∧ now - pending.queuedAtMs > pendingTimeoutMs then
    closeEntry pending h 200
  else pure (some pending)

/-- `cleanExpiredPending` -/
def cleanExpiredPending : TunnelM Unit := do
  let now ← millis
  compactQueue .pending (cleanExpiredEntry now)

/-- One entry of `clearPendingQueue` and `clearDeferredCloseQueue`. -/
def clearEntry (q : QueueName) (i : ℕ) : TunnelM Unit := do
  let s ← Prog.get
  match ((s.queue q).entries i).channel with
  | none => pure ()
  | some h => do
    let _ ← sys (.channelClose h)
    let _ ← sys (.channelFree h)
    modifyQueue q fun x ↦ x.set i { x.entries i with channel := none }

/-- `clearPendingQueue` and `clearDeferredCloseQueue` -/
def clearQueue (q : QueueName) : TunnelM Bool := returning do
  let s ← Prog.get
  if (s.queue q).count = 0 then pure true
  else do
    let locked : Bool ← lock 500
    -- the entries stay; `dropEverything` forgets them when the session is down
    if !locked then pure false
    else do
      Prog.each (List.range (s.queue q).count) (clearEntry q)
      unlock
      modifyQueue q fun x ↦ { x with count := 0 }
      pure true

/-! ### Teardown -/

/-- `updateStats` -/
def updateStats (p : Params) : TunnelM Unit := do
  let locked : Bool ← sys (.statsLock 5)
  if locked then do
    Prog.modify fun s ↦
      { s with
        bytesReceived := s.channels.getTotalBytesReceived p
        bytesSent := s.channels.getTotalBytesSent p
        bytesDropped := s.channels.getTotalBytesDropped p }
    let _ ← sys .statsUnlock
    pure ()
  else pure ()

/-- The end of every teardown: the session goes down, and slots and queue entries that are still
there are dropped without libssh2. -/
def dropEverything (p : Params) (reason : ChannelCloseReason) : TunnelM Unit := do
  sessionDisconnect
  Prog.each (List.range p.maxSlots) fun i ↦ abandonSlot p i reason
  modifyQueue .pending (·.nulled)
  modifyQueue .deferredClose (·.nulled)

/-- The reason reported for a slot closed by an error. -/
def errorReason (ch : ChannelSlot) : ChannelCloseReason :=
  if ch.closeReason = .unknown then .error else ch.closeReason

/-- Release a slot, through libssh2 if the session lock is held. -/
def releaseSlot (p : Params) (locked : Bool) (i : ℕ) (reason : ChannelCloseReason) :
    TunnelM Unit := do
  if locked then do
    -- a slot that libssh2 does not let go of is left to `dropEverything`
    let _ ← finalizeClose p i
    pure ()
  else abandonSlot p i reason

/-- One slot of `enterErrorState`. -/
def closeOrphan (p : Params) (locked : Bool) (i : ℕ) : TunnelM Unit := do
  let ch ← getSlot i
  if ch.active then do
    releaseSlot p locked i (errorReason ch)
    emit (.channelClosed i (errorReason ch))
  else pure ()

/-- `enterErrorState` -/
def enterErrorState (p : Params) : TunnelM Unit := do
  Prog.mark .tearingDown
  let _ ← clearQueue .pending
  let _ ← clearQueue .deferredClose
  let locked : Bool ← lock 500
  Prog.each (List.range p.maxSlots) (closeOrphan p locked)
  Prog.when locked unlock
  dropEverything p .error
  updateStats p
  Prog.modify fun s ↦ { s with state := .error, socketHealthFailures := 0 }
  let now ← millis
  Prog.modify fun s ↦ { s with lastConnectionAttempt := now }
  Prog.mark (.note .clocked)
  emit .sessionDisconnected
  Prog.mark .tornDown

/-- One slot of `disconnect`. -/
def closeManually (p : Params) (locked : Bool) (i : ℕ) : TunnelM Unit := do
  let ch ← getSlot i
  if !ch.active then pure ()
  else do
    releaseSlot p locked i .manual
    emit (.channelClosed i .manual)

/-- The lock attempt of `disconnect`, made only with a live session. -/
def lockIfConnected (ms : ℕ) : TunnelM Bool := do
  let s ← Prog.get
  if s.session.isConnected then lock ms else pure false

/-- `disconnect` -/
def disconnect (p : Params) : TunnelM Unit := do
  Prog.mark .tearingDown
  let _ ← clearQueue .pending
  let _ ← clearQueue .deferredClose
  let locked ← lockIfConnected 2000
  Prog.each (List.range p.maxSlots) (closeManually p locked)
  Prog.when locked unlock
  dropEverything p .manual
  updateStats p
  let s ← Prog.get
  Prog.when (s.state = .connected) (emit .sessionDisconnected)
  Prog.modify fun s ↦ { s with socketHealthFailures := 0, state := .disconnected }
  Prog.mark .tornDown

/-! ### Connecting -/

/-- `connectSSH` -/
def connectSSH (p : Params) : TunnelM Bool := do
  let s ← Prog.get
  if s.state = .connected then pure true
  else do
    Prog.modify fun s ↦ { s with state := .connecting }
    let now ← millis
    Prog.modify fun s ↦ { s with lastConnectionAttempt := now }
    Prog.mark (.note .clocked)
    let connected ← sessionConnect p
    if !connected then do
      Prog.modify fun s ↦ { s with state := .error }
      emit (.error (-1) "SSH connection failed")
      pure false
    else do
      Prog.modify fun s ↦
        { s with state := .connected, reconnectAttempts := 0, socketHealthFailures := 0 }
      Prog.mark (.note .counterReset)
      let now ← millis
      Prog.modify fun s ↦ { s with lastKeepAlive := now }
      emit .sessionConnected
      pure true

/-- `requestReconnect` -/
def requestReconnect : TunnelM Unit := do
  let s ← Prog.get
  if s.state = .connected ∨ s.state = .connecting ∨ s.state = .error then pure ()
  else do
    let now ← millis
    Prog.modify fun s ↦
      { s with reconnectAttempts := 0, lastConnectionAttempt := now, state := .error }
    Prog.mark (.note .counterReset)
    Prog.mark (.note .clocked)

/-- The doubling loop of `handleReconnection`. -/
def doubleDelay : (attempts : ℕ) → (delay : UInt32) → UInt32
  | 0, delay => delay
  | n + 1, delay => if delay < 60000 then doubleDelay n (delay * 2) else delay

/-- The back-off before a reconnection attempt. -/
def reconnectDelay (baseDelay : Int) (attempts : ℕ) : UInt32 :=
  -- a negative base delay is taken for an unsigned one
  let delay := doubleDelay attempts (UInt32.ofNat (baseDelay % 2 ^ 32).toNat)
  if delay > 60000 then 60000 else delay

/-- Whether `handleReconnection` may go on: when all attempts are used up, only after a long
cooldown, and then with a fresh count. -/
def reconnectAllowed (p : Params) : TunnelM Bool := do
  let s ← Prog.get
  if (s.reconnectAttempts : Int) ≥ p.connection.maxReconnectAttempts then do
    let now ← millis
    if now - s.lastConnectionAttempt < 60000 then pure false
    else do
      Prog.modify fun s ↦ { s with reconnectAttempts := 0 }
      pure true
  else pure true

/-- `handleReconnection` -/
def handleReconnection (p : Params) : TunnelM Unit := returning do
  let allowed ← reconnectAllowed p
  if !allowed then pure ()
  else do
    let now ← millis
    let s ← Prog.get
    let delay := reconnectDelay p.connection.reconnectDelayMs s.reconnectAttempts
    if now - s.lastConnectionAttempt < delay then pure ()
    else do
      let _ ← clearQueue .pending
      let _ ← clearQueue .deferredClose
      dropEverything p .error
      Prog.modify fun s ↦ { s with reconnectAttempts := s.reconnectAttempts + 1 }
      Prog.mark (.note .reconnecting)
      let connected ← connectSSH p
      Prog.when connected (Prog.modify fun s ↦ { s with reconnectAttempts := 0 })

/-! ### The main loop -/

/-- Queue an accepted channel for later binding. -/
def queueForBinding (h : Handle) (mapping : TunnelConfig) : TunnelM Unit := do
  let now ← millis
  modifyQueue .pending
    (·.push { channel := some h, mapping := mapping, queuedAtMs := now, action := .bind })

/-- The part of `handleNewConnection` that has a free slot. -/
def bindAccepted (p : Params) (i : ℕ) (h : Handle) (mapping : TunnelConfig) : TunnelM Bool := do
  let bindResult ← bindAcceptedChannel p i h mapping 200
  match bindResult with
  | .bound => do
    emit (.channelOpened i)
    pure true
  | .lockUnavailable => do
    let s ← Prog.get
    if s.pending.count < maxPending then do
      queueForBinding h mapping
      pure false
    else do
      let _ ← enqueueDeferredClose h mapping
      pure false
  | .failed => do
    let _ ← enqueueDeferredClose h mapping
    pure false

/-- Close a channel now, or later, or with a longer wait for the lock; give it up otherwise. -/
def rejectAccepted (h : Handle) (mapping : TunnelConfig) (ms : ℕ) (force : Bool) :
    TunnelM Unit := do
  let closed ← closeAcceptedChannel h ms
  if closed then pure ()
  else do
    let deferred ← enqueueDeferredClose h mapping
    if deferred || !force then pure ()
    else do
      let _ ← closeAcceptedChannel h 1000
      pure ()

/-- `handleNewConnection` after a channel was accepted. -/
def handleAccepted (p : Params) (h : Handle) (mapping : TunnelConfig) : TunnelM Bool := do
  let now ← millis
  let s ← Prog.get
  if s.channels.breaker.isBackedOff mapping.remoteBindPort now then do
    rejectAccepted h mapping 200 false
    pure false
  else do
    Prog.mark (.admitted false mapping)
    let slot ← allocateSlot p
    match slot with
    | some i => bindAccepted p i h mapping
    | none => do
      let s ← Prog.get
      if s.pending.count < maxPending then do
        queueForBinding h mapping
        pure false
      else do
        rejectAccepted h mapping 500 true
        pure false

/-- `handleNewConnection` -/
def handleNewConnection (p : Params) : TunnelM Bool := returning do
  let accepted ← acceptChannel
  match accepted with
  | none => do
    let s ← Prog.get
    Prog.when s.session.hasFatalAcceptFailure (enterErrorState p)
    pure false
  | some (h, mapping) => handleAccepted p h mapping

/-- Socket health and keepalive: `false` when `loop` has entered the error state. -/
def checkHealth (p : Params) : TunnelM Bool := do
  let healthy ← checkConnection
  let s ← Prog.get
  if !healthy && s.socketHealthFailures + 1 ≥ 3 then do
    Prog.modify fun s ↦ { s with socketHealthFailures := s.socketHealthFailures + 1 }
    enterErrorState p
    pure false
  else do
    Prog.modify fun s ↦
      { s with socketHealthFailures := if healthy then 0 else s.socketHealthFailures + 1 }
    let now ← millis
    -- an interval that is not positive means no keepalives
    let keepAliveInterval := p.connection.keepAliveIntervalSec * 1000
    let s ← Prog.get
    if keepAliveInterval > 0 && (now - s.lastKeepAlive).toNat ≥ keepAliveInterval.toNat then do
      let sent ← sendKeepalive
      if !sent then do
        enterErrorState p
        pure false
      else do
        Prog.modify fun s ↦ { s with lastKeepAlive := now }
        pure true
    else pure true

/-- Run `drainDeferredCloseQueue` when there is something in the queue. -/
def drainDeferredIfAny : TunnelM Unit := do
  let s ← Prog.get
  if s.deferredClose.count > 0 then drainDeferredCloseQueue else pure ()

/-- Run `cleanExpiredPending` and `drainPendingQueue` when there is something in the queue. -/
def drainPendingIfAny (p : Params) : TunnelM Unit := do
  let s ← Prog.get
  if s.pending.count > 0 then do
    cleanExpiredPending
    drainPendingQueue p
  else pure ()

/-- What `loop` does after the pump cycle. -/
def loopTail (p : Params) : TunnelM Unit := do
  let closeEvents ← consumeCloseEvents
  Prog.each closeEvents fun e ↦ emit (.channelClosed e.1 e.2)
  let s ← Prog.get
  -- one slot that could not be drained condemns the session of all
  if s.transport.sessionDegraded then do
    modifyTransport fun t ↦ { t with sessionDegraded := false }
    enterErrorState p
  else do
    drainPendingIfAny p
    drainDeferredIfAny
    updateStats p

/-- The working part of `loop`. The accept loop ends by itself: every round that goes on has taken a
free slot. -/
def loopConnected (p : Params) : TunnelM Unit := do
  drainDeferredIfAny
  Prog.attempts (p.maxSlots + 1) (handleNewConnection p)
  let _ ← pumpAll p
  loopTail p

/-- `loop` -/
def loop (p : Params) : TunnelM Unit := do
  let s ← Prog.get
  if s.state = .error then handleReconnection p
  else if s.state = .disconnected then pure ()
  else if !s.session.isConnected then enterErrorState p
  else do
    let alive ← checkHealth p
    Prog.when alive (loopConnected p)

/-! ### Runs -/

/-- A public operation of the tunnel. -/
inductive TunnelOp where
  /-- `connectSSH` -/
  | connectSSH
  /-- `loop` -/
  | loop
  /-- `disconnect` -/
  | disconnect
  /-- `requestReconnect` -/
  | requestReconnect

/-- The program of an operation. -/
def TunnelOp.prog (p : Params) : TunnelOp → TunnelM Unit
  | connectSSH => do
    let _ ← ReverseTunnel.connectSSH p
    pure ()
  | loop => ReverseTunnel.loop p
  | disconnect => ReverseTunnel.disconnect p
  | requestReconnect => ReverseTunnel.requestReconnect

/-- A public operation of the channel manager, or a pump cycle. -/
inductive ManagerOp where
  /-- `allocateSlot` -/
  | allocateSlot
  /-- `bindChannel` -/
  | bindChannel (slotIndex : Int) (h : Handle) (mapping : TunnelConfig)
  /-- `beginClose` -/
  | beginClose (slotIndex : Int) (reason : ChannelCloseReason)
  /-- `finalizeClose` -/
  | finalizeClose (slotIndex : Int)
  /-- `abandonSlot` -/
  | abandonSlot (slotIndex : Int) (reason : ChannelCloseReason)
  /-- `pumpAll` -/
  | pumpAll

/-- The program of an operation. -/
def ManagerOp.prog (p : Params) : ManagerOp → TunnelM Unit
  | allocateSlot => do
    let _ ← ReverseTunnel.allocateSlot p
    pure ()
  | bindChannel slotIndex h mapping => do
    let _ ← ReverseTunnel.bindChannel p slotIndex h mapping
    pure ()
  | beginClose slotIndex reason => beginCloseAt p slotIndex reason
  | finalizeClose slotIndex => do
    let _ ← ReverseTunnel.finalizeClose p slotIndex
    pure ()
  | abandonSlot slotIndex reason => ReverseTunnel.abandonSlot p slotIndex reason
  | pumpAll => do
    let _ ← ReverseTunnel.pumpAll p
    pure ()

/-- A tunnel as `init` leaves it, at any time. -/
def initial (clock : ℕ) : TunnelWorld := ⟨⟨{}, clock, 0⟩, []⟩

/-- The worlds that runs of the given programs lead to, in any environment. -/
inductive Runs (progs : Set (TunnelM Unit)) : TunnelWorld → Prop where
  /-- A fresh tunnel. -/
  | init (clock : ℕ) : Runs progs (initial clock)
  /-- One more operation. -/
  | step {w : TunnelWorld} (m : TunnelM Unit) (hm : m ∈ progs) (e : Env Call Call.Reply)
      (hw : Runs progs w) : Runs progs (m.exec e w)

/-- Runs of the public operations of the tunnel. -/
def TunnelRun (p : Params) : TunnelWorld → Prop := Runs (Set.range (TunnelOp.prog p))

/-- Runs of both. -/
def Run (p : Params) : TunnelWorld → Prop :=
  Runs (Set.range (TunnelOp.prog p) ∪ Set.range (ManagerOp.prog p))

/-- What every operation preserves holds in every run. -/
theorem Runs.invariant {progs : Set (TunnelM Unit)} {I : TunnelWorld → Prop} {w : TunnelWorld}
    (hw : Runs progs w) (h0 : ∀ clock, I (initial clock))
    (hstep : ∀ m ∈ progs, Preserves I m) : I w := by
  induction hw with
  | init clock => exact h0 clock
  | step m hm e _ ih => exact hstep m hm _ ih e

end ReverseTunnel
