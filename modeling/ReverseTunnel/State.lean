import ReverseTunnel.Channel.Slot
import ReverseTunnel.Channel.CircuitBreaker
import ReverseTunnel.Arduino.Text

/-!
# Configuration and state of a tunnel

`Params` is what `SSHTunnel::init` leaves fixed: the sizes it has checked, the timeout and the
settings the running tunnel reads. It can only be built with a transport buffer that fits the
prepend buffer and with rings of at least 8 KiB, which is what `init` enforces.

`SSHTunnel` is the mutable state of the facade and of the three modules it owns. Programs over it
are `TunnelM`; `onSlot i` runs a program of one slot inside.
-/

namespace ReverseTunnel

open Traced Clock32

/-! ### Configuration -/

/-- `ConnectionConfig`, without the fields nothing below reads. -/
structure ConnectionConfig where
  /-- `keepAliveIntervalSec` -/
  keepAliveIntervalSec : Int := 10
  /-- `reconnectDelayMs` -/
  reconnectDelayMs : Int := 5000
  /-- `maxReconnectAttempts` -/
  maxReconnectAttempts : Int := 5
  /-- `bufferSize` -/
  bufferSize : Int := 8192
  /-- `maxChannels` -/
  maxChannels : Int := 10
  /-- `channelTimeoutMs` -/
  channelTimeoutMs : UInt32 := 30000
  /-- `libssh2KeepAliveEnabled` -/
  libssh2KeepAliveEnabled : Bool := true
  /-- `libssh2KeepAliveIntervalSec` -/
  libssh2KeepAliveIntervalSec : Int := 30
  /-- `tunnelRingBufferSize` -/
  tunnelRingBufferSize : ℕ := 64 * 1024
  /-- `maxReverseListeners` -/
  maxReverseListeners : Int := 1

/-- `SSHServerConfig`, as far as connecting depends on it. -/
structure SSHServerConfig where
  /-- `host` -/
  host : String := ""
  /-- `useSSHKey` -/
  useSSHKey : Bool := false
  /-- `privateKeyData.length() > 0` -/
  hasPrivateKey : Bool := false
  /-- `validateSSHKeys()` -/
  keysValid : Bool := true
  /-- `verifyHostKey` -/
  verifyHostKey : Bool := false
  /-- `hostKeyType`; empty for any -/
  hostKeyType : Text := []
  /-- `expectedHostKeyFingerprint`; empty for any -/
  expectedHostKeyFingerprint : Text := []

/-- What a running tunnel has fixed. -/
structure Params where
  /-- `getConnectionConfig()` -/
  connection : ConnectionConfig
  /-- `getSSHConfig()` -/
  server : SSHServerConfig
  /-- `getTunnelMappings()` -/
  mappings : List TunnelConfig
  /-- `SSH_TUNNEL_PREPEND_CAPACITY` -/
  prependCap : ℕ
  /-- `maxSlots_` -/
  maxSlots : ℕ
  /-- `ringBufferSize_` -/
  ringBufferSize : ℕ
  /-- `bufSize_` -/
  bufSize : ℕ
  /-- `channelTimeoutMs_` -/
  channelTimeoutMs : UInt32
  /-- The transport buffer is not empty. -/
  bufSize_pos : 1 ≤ bufSize
  /-- What was taken out of a ring can be put back. -/
  bufSize_le : bufSize ≤ prependCap
  /-- Minimum ring size. -/
  ringBufferSize_ge : 8192 ≤ ringBufferSize

/-- `SSHTunnel::init`: the checks it makes and the sizes it fixes. `allocated` says whether the slot
array and the transport buffer could be allocated. -/
def SSHTunnel.init (connection : ConnectionConfig) (server : SSHServerConfig)
    (mappings : List TunnelConfig) (prependCap : ℕ) (allocated : Bool) : Option Params :=
  let bufSize := if connection.bufferSize > 0 then connection.bufferSize.toNat else 4096
  let perDirectionSize :=
    if connection.tunnelRingBufferSize < 8192 then 8192 else connection.tunnelRingBufferSize
  if h : bufSize > prependCap then none
  else if !allocated || connection.maxChannels < 0 then none
  else some
    { connection, server, mappings, prependCap
      maxSlots := connection.maxChannels.toNat
      ringBufferSize := perDirectionSize
      bufSize
      channelTimeoutMs := connection.channelTimeoutMs
      bufSize_pos := by
        simp only [bufSize]
        split <;> omega
      bufSize_le := Nat.le_of_not_lt h
      ringBufferSize_ge := by
        simp only [perDirectionSize]
        split <;> omega }

/-! ### State -/

/-- `ChannelManager` -/
structure ChannelManager where
  /-- `slots_` -/
  slots : ℕ → ChannelSlot := fun _ ↦ {}
  /-- `activeCount_` -/
  activeCount : Int := 0
  /-- All that was added to `completedBytesReceived_` -/
  completedBytesReceived : ℕ := 0
  /-- All that was added to `completedBytesSent_` -/
  completedBytesSent : ℕ := 0
  /-- All that was added to `completedBytesDropped_` -/
  completedBytesDropped : ℕ := 0
  /-- `breaker_` -/
  breaker : CircuitBreaker := {}

/-- `TransportPump` -/
structure TransportPump where
  /-- `rxBuf_`, which is also `txBuf_` -/
  work : List UInt8 := []
  /-- `roundRobinOffset_` -/
  roundRobinOffset : UInt32 := 0
  /-- `lastBytesMoved_` -/
  lastBytesMoved : ℕ := 0
  /-- `pendingCloseEvents_[0 .. pendingCloseCount_)` -/
  pendingCloseEvents : List (ℕ × ChannelCloseReason) := []
  /-- `sessionDegraded_` -/
  sessionDegraded : Bool := false

/-- `ListenerEntry` -/
structure ListenerEntry where
  /-- `listener` -/
  listener : Option ℕ
  /-- `mapping` -/
  mapping : TunnelConfig
  /-- `boundPort` -/
  boundPort : Int

/-- `SSHSession`, without the fields that only feed log lines. -/
structure SSHSession where
  /-- `session_` -/
  session : Option ℕ := none
  /-- `socketfd_` -/
  socketfd : Int := -1
  /-- `listeners_` -/
  listeners : List ListenerEntry := []
  /-- `boundPort_` -/
  boundPort : Int := -1
  /-- `keepAliveFailures_` -/
  keepAliveFailures : ℕ := 0
  /-- `lastAcceptError_` -/
  lastAcceptError : Int := 0
  /-- `consecutiveFatalAcceptErrors_` -/
  consecutiveFatalAcceptErrors : ℕ := 0

/-- `PendingChannel::Action` -/
inductive Action where
  | bind
  | close
  deriving DecidableEq

/-- `PendingChannel` -/
structure PendingChannel where
  /-- `channel` -/
  channel : Option Handle := none
  /-- `mapping` -/
  mapping : TunnelConfig := {}
  /-- `queuedAtMs` -/
  queuedAtMs : UInt32 := 0
  /-- `action` -/
  action : Action := .bind
  deriving DecidableEq

/-- A fixed array with the number of entries in use. Entries past the count are stale. -/
structure ChannelQueue where
  /-- The array. -/
  entries : ℕ → PendingChannel := fun _ ↦ {}
  /-- The count. -/
  count : ℕ := 0

/-- `TunnelState` -/
inductive TunnelState where
  | disconnected
  | connecting
  | connected
  | error
  deriving DecidableEq

/-- `SSHTunnel` -/
structure SSHTunnel where
  /-- `session_` -/
  session : SSHSession := {}
  /-- `channels_` -/
  channels : ChannelManager := {}
  /-- `transport_` -/
  transport : TransportPump := {}
  /-- `state_` -/
  state : TunnelState := .disconnected
  /-- `lastKeepAlive_` -/
  lastKeepAlive : UInt32 := 0
  /-- `lastConnectionAttempt_` -/
  lastConnectionAttempt : UInt32 := 0
  /-- `reconnectAttempts_` -/
  reconnectAttempts : ℕ := 0
  /-- `socketHealthFailures_` -/
  socketHealthFailures : ℕ := 0
  /-- `bytesReceived_` -/
  bytesReceived : UInt32 := 0
  /-- `bytesSent_` -/
  bytesSent : UInt32 := 0
  /-- `bytesDropped_` -/
  bytesDropped : UInt32 := 0
  /-- `pendingQueue_` and `pendingCount_` -/
  pending : ChannelQueue := {}
  /-- `deferredCloseQueue_` and `deferredCloseCount_` -/
  deferredClose : ChannelQueue := {}

/-- What happens without a call and changes no channel, where a specification wants to point to it. -/
inductive Note where
  /-- Step 2 of `checkCloses` finds slot `i` past the hard deadline. -/
  | abandoning (i : ℕ)
  /-- `handleReconnection` is about to call `connectSSH`. -/
  | reconnecting
  /-- `lastConnectionAttempt_` has just been stored. -/
  | clocked
  /-- `reconnectAttempts_` has been reset, by a connection or on request. -/
  | counterReset
  /-- Phase 1 has served slot `i`, whose remote end was not done. -/
  | pumped (i : ℕ)
  /-- Phase 3 has served slot `i`, which had not been sent an EOF. -/
  | drained (i : ℕ)
  deriving DecidableEq

/-- Places a specification of the tunnel speaks about. -/
inductive Mark where
  /-- A mark of slot `i`. -/
  | slot (i : ℕ) (m : SlotMark)
  /-- `SSHSession::disconnect` begins. -/
  | sessionDown
  /-- A channel of this mapping has been let through to `bindAcceptedChannel`; `queued` if
  `drainPendingQueue` has taken it from the pending queue. -/
  | admitted (queued : Bool) (mapping : TunnelConfig)
  /-- `enqueueDeferredClose` has not got the lock for this channel. -/
  | deferring (h : Handle)
  /-- A function that works on the queues returns. -/
  | returned
  /-- `enterErrorState` or `disconnect` begins. -/
  | tearingDown
  /-- `enterErrorState` or `disconnect` returns. -/
  | tornDown
  /-- Something noted in passing. -/
  | note (n : Note)

/-- Programs of the tunnel. -/
abbrev TunnelM := Prog SSHTunnel Call Call.Reply Mark

/-- A tunnel together with everything it has done. -/
abbrev TunnelWorld := World SSHTunnel Call Call.Reply Mark

namespace TunnelM

/-- Make a call. -/
abbrev sys (c : SysCall) : TunnelM c.Reply := Prog.call (Call.sys c)

/-- Make a call that creates something, and name what it creates. -/
abbrev sysId (c : SysCall) : TunnelM (ℕ × c.Reply) := Prog.callId (Call.sys c)

/-- `millis()` -/
def millis : TunnelM UInt32 := do
  let t ← Prog.tick
  pure (stamp t)

/-- `SSHSession::lock` -/
abbrev lock (ms : ℕ) : TunnelM Bool := sys (.lock ms)

/-- `SSHSession::unlock` -/
abbrev unlock : TunnelM Unit := sys .unlock

/-- Run an event handler. -/
abbrev emit (e : Event) : TunnelM Unit := sys (.emit e)

/-- Change the channel manager. -/
def modifyChannels (f : ChannelManager → ChannelManager) : TunnelM Unit :=
  Prog.modify fun s ↦ { s with channels := f s.channels }

/-- Change the transport pump. -/
def modifyTransport (f : TransportPump → TransportPump) : TunnelM Unit :=
  Prog.modify fun s ↦ { s with transport := f s.transport }

/-- Change the session. -/
def modifySession (f : SSHSession → SSHSession) : TunnelM Unit :=
  Prog.modify fun s ↦ { s with session := f s.session }

/-- `getSlot(i)` -/
def getSlot (i : ℕ) : TunnelM ChannelSlot := do
  let s ← Prog.get
  pure (s.channels.slots i)

end TunnelM

/-- The part of the tunnel a program for slot `i` works on. -/
def SSHTunnel.ctx (i : ℕ) (s : SSHTunnel) : Ctx :=
  ⟨s.channels.slots i, s.transport.work, s.transport.lastBytesMoved⟩

/-- Put that part back. -/
def SSHTunnel.setCtx (i : ℕ) (c : Ctx) (s : SSHTunnel) : SSHTunnel :=
  { s with
    channels := { s.channels with slots := Function.update s.channels.slots i c.ch }
    transport := { s.transport with work := c.work, lastBytesMoved := c.moved } }

/-- Work on slot `i`. -/
def onSlot {α : Type} (i : ℕ) (m : SlotM α) : TunnelM α :=
  Prog.zoom (SSHTunnel.ctx i) (SSHTunnel.setCtx i) (Call.io i) (Mark.slot i) m

end ReverseTunnel
