import Mathlib.Logic.Relation
import ReverseTunnel.Transport.Pump

/-!
# What can happen to one slot

The life of a slot as a transition system of its own. A `View` is all that concerns one slot: its
fields, its **log** (the calls made for it and the marks left for it, newest first) and the time.
`SlotStep` lists what one chunk of work can do to it, with everything the chunk knows when it acts:
`PumpStep` is the traffic, `WorkStep` adds what closing does while the slot stays in use. Every
property of a single slot is an invariant of these relations.

Rings appear here by their content only. That the bytes put back are the bytes taken out, and that
what was read fits, is settled when the programs are shown to follow these relations.
-/

namespace ReverseTunnel

open Traced Clock32

/-- An entry of the log of a slot. -/
abbrev SlotItem := Item ChannelSlot IoCall IoCall.Reply SlotMark

/-- The log of a slot, newest entry first. -/
abbrev SlotLog := List SlotItem

/-- The log of the current lifetime: what came after the latest `bindChannel`. -/
def life : SlotLog → SlotLog
  | [] => []
  | .mark _ _ .bound :: _ => []
  | x :: log => x :: life log

/-- A place where a chunk of work, or the binding of the slot, was complete. -/
def isBoundary : SlotItem → Bool
  | .mark _ _ .step => true
  | .mark _ _ .bound => true
  | _ => false

/-- All that concerns one slot. -/
structure View where
  /-- The slot. -/
  ch : ChannelSlot
  /-- What was done for it. -/
  log : SlotLog
  /-- The true time. -/
  clock : ℕ

namespace View

variable (v : View)

/-- After a call that returned at time `t`. -/
def call (id t : ℕ) (c : IoCall) (r : c.Reply) : View := ⟨v.ch, .call id t v.ch c r :: v.log, t⟩

/-- Later. -/
def wait (t : ℕ) : View := ⟨v.ch, v.log, t⟩

/-- After a change of the slot. -/
def set (ch : ChannelSlot) : View := ⟨ch, v.log, v.clock⟩

/-- After a mark. -/
def mark (l : SlotMark) : View := ⟨v.ch, .mark v.clock v.ch l :: v.log, v.clock⟩

@[simp] theorem call_ch (id t : ℕ) (c : IoCall) (r : c.Reply) : (v.call id t c r).ch = v.ch := rfl

@[simp] theorem call_log (id t : ℕ) (c : IoCall) (r : c.Reply) :
    (v.call id t c r).log = .call id t v.ch c r :: v.log := rfl

@[simp] theorem call_clock (id t : ℕ) (c : IoCall) (r : c.Reply) :
    (v.call id t c r).clock = t := rfl

@[simp] theorem wait_ch (t : ℕ) : (v.wait t).ch = v.ch := rfl

@[simp] theorem wait_log (t : ℕ) : (v.wait t).log = v.log := rfl

@[simp] theorem wait_clock (t : ℕ) : (v.wait t).clock = t := rfl

@[simp] theorem set_ch (ch : ChannelSlot) : (v.set ch).ch = ch := rfl

@[simp] theorem set_log (ch : ChannelSlot) : (v.set ch).log = v.log := rfl

@[simp] theorem set_clock (ch : ChannelSlot) : (v.set ch).clock = v.clock := rfl

@[simp] theorem mark_ch (l : SlotMark) : (v.mark l).ch = v.ch := rfl

@[simp] theorem mark_log (l : SlotMark) : (v.mark l).log = .mark v.clock v.ch l :: v.log := rfl

@[simp] theorem mark_clock (l : SlotMark) : (v.mark l).clock = v.clock := rfl

/-- The reading `stamp τ` was taken at a time `τ` after which nothing was completed on the slot. -/
structure Settled (τ : ℕ) : Prop where
  /-- Not in the future. -/
  le_clock : τ ≤ v.clock
  /-- Every boundary is older. -/
  boundary_le : ∀ x ∈ v.log, isBoundary x = true → x.time ≤ τ

end View

/-- Ring `b'` is ring `b` with other content. -/
structure Becomes (b b' : DataRingBuffer) (content : List UInt8) : Prop where
  /-- Same make. -/
  shape : DataRingBuffer.SameShape b b'
  /-- The new content. -/
  content : b'.content = content

/-- `errno` says that the socket is busy. -/
def isBusy (errno : ℕ) : Prop := errno = eagain ∨ errno = ewouldblock

/-- Why an open slot may be closed. `ext` allows a caller of the channel manager to ask for it. -/
inductive Cause (p : Params) (ext : Bool) (v : View) : Prop where
  /-- Both sides are done. -/
  | bothEof (hr : v.ch.remoteEof = true) (hl : v.ch.localEof = true)
  /-- The local side is done and everything from it has been written. -/
  | localDone (hl : v.ch.localEof = true) (hempty : held v.ch.toRemote = [])
  /-- Too many SSH errors in a row. -/
  | errors (h : 3 < v.ch.consecutiveErrors)
  /-- The local socket has been busy for too long. -/
  | sendStall {τ : ℕ} (hτ : v.Settled τ) (hset : v.ch.firstLocalSendEagainMs ≠ 0)
      (hne : held v.ch.toLocal ≠ [])
      (h : localSendStallTimeoutMs < stamp τ - v.ch.firstLocalSendEagainMs)
  /-- The SSH channel has been blocked for too long. -/
  | writeStall {τ : ℕ} (hτ : v.Settled τ) (hset : v.ch.firstEagainMs ≠ 0)
      (h : eagainStallTimeoutMs < stamp τ - v.ch.firstEagainMs)
  /-- The remote side is done and the local side is silent. -/
  | halfClose {τ : ℕ} (hτ : v.Settled τ) (hr : v.ch.remoteEof = true)
      (hempty : held v.ch.toRemote = []) (h : halfCloseTimeoutMs < stamp τ - v.ch.lastActivity)
  /-- Nothing has moved for the configured time. -/
  | idle {τ : ℕ} (hτ : v.Settled τ) (hpos : 0 < p.channelTimeoutMs)
      (h : p.channelTimeoutMs < stamp τ - v.ch.lastActivity)
  /-- A caller asks for it. -/
  | external (h : ext = true)

/-- One chunk of work of the pump on a slot, closing aside. -/
inductive PumpStep (p : Params) (ext : Bool) : View → View → Prop where
  /-- Time passes. -/
  | wait {v : View} {t : ℕ} (ht : v.clock ≤ t) : PumpStep p ext v (v.wait t)
  /-- Step 1 of `checkCloses` looks at the slot. -/
  | checking {v : View} (hact : v.ch.active = true) (hopen : v.ch.state = .open) :
      PumpStep p ext v (v.mark .checking)
  /-- A read whose bytes are not kept, after the remote end is done. -/
  | pumpRead {v : View} {h : Handle} {n id t : ℕ} {r : ReadReply n}
      (hact : v.ch.active = true) (hh : v.ch.sshChannel = some h) (heof : v.ch.remoteEof = true)
      (ht : v.clock ≤ t) :
      PumpStep p ext v ((v.call id t (.channelRead h n) r).mark .step)
  /-- Bytes read from the channel are stored. -/
  | readData {v : View} {h : Handle} {b b' : DataRingBuffer} {n id t t' : ℕ} {bs : List UInt8}
      {hpos : 0 < bs.length} {hle : bs.length ≤ n} {paused : Bool}
      (hact : v.ch.active = true) (hh : v.ch.sshChannel = some h) (heof : v.ch.remoteEof = false)
      (hb : v.ch.toLocal = some b) (hb' : Becomes b b' (b.content ++ bs))
      (ht : v.clock ≤ t) (ht' : t ≤ t') (hstored : (b.write bs).1 = bs.length) :
      PumpStep p ext v ((((v.call id t (.channelRead h n) (.data bs hpos hle)).wait t').set
        { v.ch with
          toLocal := some b'
          totalBytesReceived := v.ch.totalBytesReceived + bs.length
          lastSuccessfulRead := stamp t'
          lastActivity := stamp t'
          eagainCount := 0
          firstEagainMs := 0
          consecutiveErrors := 0
          sshReadPaused := paused }).mark .step)
  /-- Nothing to read. -/
  | readAgain {v : View} {h : Handle} {n id t : ℕ} {rc : Int} {hrc : rc ≤ 0}
      (hact : v.ch.active = true) (hh : v.ch.sshChannel = some h) (hagain : rc = errorEagain)
      (ht : v.clock ≤ t) :
      PumpStep p ext v ((v.call id t (.channelRead h n) (.code rc hrc)).mark .step)
  /-- End of the remote stream. -/
  | readEof {v : View} {h : Handle} {n id t : ℕ} {rc : Int} {hrc : rc ≤ 0}
      (hact : v.ch.active = true) (hh : v.ch.sshChannel = some h) (hzero : rc = 0)
      (ht : v.clock ≤ t) :
      PumpStep p ext v
        (((v.call id t (.channelRead h n) (.code rc hrc)).set
          { v.ch with remoteEof := true }).mark .step)
  /-- A read error. -/
  | readError {v : View} {h : Handle} {n id t : ℕ} {rc : Int} {hrc : rc ≤ 0}
      (hact : v.ch.active = true) (hh : v.ch.sshChannel = some h) (hzero : rc ≠ 0)
      (hagain : rc ≠ errorEagain) (ht : v.clock ≤ t) :
      PumpStep p ext v
        (((v.call id t (.channelRead h n) (.code rc hrc)).set
          { v.ch with consecutiveErrors := v.ch.consecutiveErrors + 1 }).mark .step)
  /-- libssh2 is asked for its EOF flag. -/
  | eofFlag {v : View} {h : Handle} {id t : ℕ} {r : Bool}
      (hact : v.ch.active = true) (hh : v.ch.sshChannel = some h) (heof : v.ch.remoteEof = false)
      (ht : v.clock ≤ t) :
      PumpStep p ext v
        (((v.call id t (.channelEof h) r).set { v.ch with remoteEof := r }).mark .step)
  /-- Reading is paused or resumed, on either side. -/
  | pause {v : View} (ssh loc : Bool) (hact : v.ch.active = true) :
      PumpStep p ext v
        ((v.set { v.ch with sshReadPaused := ssh, localReadPaused := loc }).mark .step)
  /-- The local socket takes bytes; what it did not take stays. -/
  | sendData {v : View} {b b' b'' : DataRingBuffer} {bs : List UInt8} {k id t t' : ℕ}
      {hpos : 0 < k} {hle : k ≤ bs.length}
      (hact : v.ch.active = true) (hfd : 0 ≤ v.ch.localSocket) (hb : v.ch.toLocal = some b)
      (hbs : bs <+: b.content) (hb' : b''.content = b.content.drop k)
      (hshape : DataRingBuffer.SameShape b b'') (ht : v.clock ≤ t) (ht' : t ≤ t') :
      PumpStep p ext v (((((v.set { v.ch with toLocal := some b' }).call id t
        (.send v.ch.localSocket bs) (.accepted k hpos hle)).wait t').set
        { v.ch with
          toLocal := some b''
          lastActivity := stamp t'
          firstLocalSendEagainMs := 0 }).mark .step)
  /-- The local socket fails; the bytes taken out of the ring are lost. -/
  | sendFail {v : View} {b b' : DataRingBuffer} {bs : List UInt8} {errno id t : ℕ}
      (hact : v.ch.active = true) (hfd : 0 ≤ v.ch.localSocket) (hb : v.ch.toLocal = some b)
      (hbs : bs <+: b.content) (hb' : Becomes b b' (b.content.drop bs.length))
      (hhard : ¬isBusy errno) (ht : v.clock ≤ t) :
      PumpStep p ext v ((((v.set { v.ch with toLocal := some b' }).call id t
        (.send v.ch.localSocket bs) (.fail errno)).set
        { v.ch with
          toLocal := some b'
          totalBytesDropped := v.ch.totalBytesDropped + bs.length
          localEof := true }).mark .step)
  /-- The local socket is busy; everything stays, and the stall timer runs. -/
  | sendBusy {v : View} {b b' b'' : DataRingBuffer} {bs : List UInt8} {id t t' : ℕ}
      {r : SendReply bs.length} {first : UInt32}
      (hact : v.ch.active = true) (hfd : 0 ≤ v.ch.localSocket) (hb : v.ch.toLocal = some b)
      (hb'' : Becomes b b'' b.content) (hr : r = .zero ∨ ∃ errno, isBusy errno ∧ r = .fail errno)
      (ht : v.clock ≤ t) (ht' : t ≤ t')
      (hfirst : v.ch.firstLocalSendEagainMs = 0 ∧ first = stamp t' ∨
        v.ch.firstLocalSendEagainMs ≠ 0 ∧ first = v.ch.firstLocalSendEagainMs) :
      PumpStep p ext v (((((v.set { v.ch with toLocal := some b' }).call id t
        (.send v.ch.localSocket bs) r).wait t').set
        { v.ch with toLocal := some b'', firstLocalSendEagainMs := first }).mark .step)
  /-- The stall timer of the local socket is re-armed. -/
  | rearmSend {v : View} {t : ℕ} (hset : v.ch.firstLocalSendEagainMs ≠ 0) (ht : v.clock ≤ t)
      (hact : v.ch.active = true) :
      PumpStep p ext v
        (((v.wait t).set { v.ch with firstLocalSendEagainMs := stamp t }).mark .step)
  /-- The SSH channel takes bytes; what it did not take stays. -/
  | writeData {v : View} {h : Handle} {b b' b'' : DataRingBuffer} {bs : List UInt8}
      {k id t t' : ℕ} {hpos : 0 < k} {hle : k ≤ bs.length}
      (hact : v.ch.active = true) (hh : v.ch.sshChannel = some h) (heof : v.ch.eofSentMs = 0)
      (hb : v.ch.toRemote = some b) (hbs : bs <+: b.content)
      (hb' : b''.content = b.content.drop k) (hshape : DataRingBuffer.SameShape b b'')
      (ht : v.clock ≤ t) (ht' : t ≤ t') :
      PumpStep p ext v (((((v.set { v.ch with toRemote := some b' }).call id t
        (.channelWrite h bs) (.accepted k hpos hle)).wait t').set
        { v.ch with
          toRemote := some b''
          totalBytesSent := v.ch.totalBytesSent + k
          lastSuccessfulWrite := stamp t'
          lastActivity := stamp t'
          eagainCount := 0
          firstEagainMs := 0
          consecutiveErrors := 0 }).mark .step)
  /-- The SSH channel is blocked; everything stays, and the stall timer runs. -/
  | writeBusy {v : View} {h : Handle} {b b' b'' : DataRingBuffer} {bs : List UInt8} {id t t' : ℕ}
      {rc : Int} {hrc : rc ≤ 0} {first : UInt32}
      (hact : v.ch.active = true) (hh : v.ch.sshChannel = some h) (heof : v.ch.eofSentMs = 0)
      (hb : v.ch.toRemote = some b) (hb'' : Becomes b b'' b.content) (hagain : rc = errorEagain)
      (ht : v.clock ≤ t) (ht' : t ≤ t')
      (hfirst : v.ch.firstEagainMs = 0 ∧ first = stamp t' ∨
        v.ch.firstEagainMs ≠ 0 ∧ first = v.ch.firstEagainMs) :
      PumpStep p ext v (((((v.set { v.ch with toRemote := some b' }).call id t
        (.channelWrite h bs) (.code rc hrc)).wait t').set
        { v.ch with
          toRemote := some b''
          eagainCount := v.ch.eagainCount + 1
          firstEagainMs := first }).mark .step)
  /-- A write error; everything stays. -/
  | writeError {v : View} {h : Handle} {b b' b'' : DataRingBuffer} {bs : List UInt8} {id t : ℕ}
      {rc : Int} {hrc : rc ≤ 0}
      (hact : v.ch.active = true) (hh : v.ch.sshChannel = some h) (heof : v.ch.eofSentMs = 0)
      (hb : v.ch.toRemote = some b) (hb'' : Becomes b b'' b.content) (hagain : rc ≠ errorEagain)
      (ht : v.clock ≤ t) :
      PumpStep p ext v ((((v.set { v.ch with toRemote := some b' }).call id t
        (.channelWrite h bs) (.code rc hrc)).set
        { v.ch with
          toRemote := some b''
          consecutiveErrors := v.ch.consecutiveErrors + 1 }).mark .step)
  /-- The stall timer of the SSH channel is re-armed. -/
  | rearmWrite {v : View} {t : ℕ} (hset : v.ch.firstEagainMs ≠ 0) (ht : v.clock ≤ t)
      (hact : v.ch.active = true) :
      PumpStep p ext v (((v.wait t).set { v.ch with firstEagainMs := stamp t }).mark .step)
  /-- Bytes received from the local socket are stored. -/
  | recvData {v : View} {b b' : DataRingBuffer} {n id t t' : ℕ} {bs : List UInt8}
      {hpos : 0 < bs.length} {hle : bs.length ≤ n}
      (hact : v.ch.active = true) (hfd : 0 ≤ v.ch.localSocket) (heof : v.ch.eofSentMs = 0)
      (hb : v.ch.toRemote = some b) (hb' : Becomes b b' (b.content ++ bs))
      (ht : v.clock ≤ t) (ht' : t ≤ t') :
      PumpStep p ext v
        ((((v.call id t (.recv v.ch.localSocket n) (.data bs hpos hle)).wait t').set
          { v.ch with toRemote := some b', lastActivity := stamp t' }).mark .step)
  /-- The local side is done, by EOF or by an error. -/
  | recvEnd {v : View} {n id t : ℕ} {r : RecvReply n}
      (hact : v.ch.active = true) (hfd : 0 ≤ v.ch.localSocket) (heof : v.ch.eofSentMs = 0)
      (hr : r = .eof ∨ ∃ errno, ¬isBusy errno ∧ r = .fail errno) (ht : v.clock ≤ t) :
      PumpStep p ext v
        (((v.call id t (.recv v.ch.localSocket n) r).set { v.ch with localEof := true }).mark .step)
  /-- Nothing to receive. -/
  | recvBusy {v : View} {n id t errno : ℕ}
      (hact : v.ch.active = true) (hfd : 0 ≤ v.ch.localSocket) (heof : v.ch.eofSentMs = 0)
      (hbusy : isBusy errno) (ht : v.clock ≤ t) :
      PumpStep p ext v ((v.call id t (.recv v.ch.localSocket n) (.fail errno)).mark .step)
  /-- The remote EOF is forwarded to the local socket, right after `checkCloses` looked. -/
  | forwardEof {v : View} {id t t₀ : ℕ} {past : SlotLog}
      (hact : v.ch.active = true) (hopen : v.ch.state = .open) (hlocal : v.ch.localEof = false)
      (herr : v.ch.consecutiveErrors ≤ 5) (hfwd : v.ch.forwardsEof = true)
      (hlog : v.log = .mark t₀ v.ch .checking :: past) (ht : v.clock ≤ t) :
      PumpStep p ext v
        ((v.call id t (.shutdown v.ch.localSocket) ()).set { v.ch with localShutdownSent := true })
  /-- An open slot begins to close. -/
  | begin {v : View} {reason : ChannelCloseReason} {t : ℕ}
      (hact : v.ch.active = true) (hopen : v.ch.state = .open) (hcause : Cause p ext v)
      (ht : v.clock ≤ t) :
      PumpStep p ext v
        ((((v.mark .beganClose).wait t).set (v.ch.begun reason (stamp t))).mark .step)

/-- The reads of the EOF flush, at most `n` of them: what they yield goes to `toLocal`, if there is
a ring. -/
inductive Flush (h : Handle) : ℕ → View → View → Prop where
  /-- No more reads. -/
  | done {v : View} : Flush h 0 v v
  /-- A read that yields nothing ends the flush. -/
  | stop {v : View} {n id t : ℕ} {rc : Int} {hrc : rc ≤ 0} (ht : v.clock ≤ t) :
      Flush h (n + 1) v (v.call id t (.channelRead h 512) (.code rc hrc))
  /-- A read that yields something. -/
  | more {v v' : View} {n id t : ℕ} {bs : List UInt8} {hpos : 0 < bs.length}
      {hle : bs.length ≤ 512} {b b' : DataRingBuffer} (ht : v.clock ≤ t)
      (hb : v.ch.toLocal = some b) (hshape : DataRingBuffer.SameShape b b')
      (hb' : b.handle.isSome = true → b'.content = b.content ++ bs)
      (hrest : Flush h n ((v.call id t (.channelRead h 512) (.data bs hpos hle)).set
        { v.ch with toLocal := some b' }) v') :
      Flush h (n + 1) v v'

/-- The slot while it is being released: nothing external is left in it. -/
def ChannelSlot.emptied (ch : ChannelSlot) : ChannelSlot :=
  { ch.accountResidual with
    sshChannel := none
    localSocket := -1
    toLocal := none
    toRemote := none }

/-- The local socket is closed, if there is one. -/
def View.socketClosed (v : View) (id t : ℕ) : View :=
  if 0 ≤ v.ch.localSocket then v.call id t (.closeSocket v.ch.localSocket) () else v

/-- Everything that can happen to a slot while it stays in use with its channel and its socket. -/
inductive WorkStep (p : Params) (ext : Bool) : View → View → Prop where
  /-- A chunk of work of the pump. -/
  | pump {v v' : View} (h : PumpStep p ext v v') : WorkStep p ext v v'
  /-- libssh2 is not ready to send EOF. -/
  | sendEofAgain {v : View} {h : Handle} {id t : ℕ} {rc : Int}
      (hact : v.ch.active = true) (hst : v.ch.state = .draining) (hh : v.ch.sshChannel = some h)
      (heof : v.ch.eofSentMs = 0) (hl : held v.ch.toLocal = []) (hr : held v.ch.toRemote = [])
      (hagain : rc = errorEagain) (ht : v.clock ≤ t) :
      WorkStep p ext v ((v.call id t (.channelSendEof h) rc).mark .step)
  /-- EOF is sent, and what can still be read is flushed. -/
  | sendEof {v u : View} {h : Handle} {id t t' : ℕ} {rc : Int}
      (hact : v.ch.active = true) (hst : v.ch.state = .draining) (hh : v.ch.sshChannel = some h)
      (heof : v.ch.eofSentMs = 0) (hl : held v.ch.toLocal = []) (hr : held v.ch.toRemote = [])
      (hdone : rc ≠ errorEagain) (ht : v.clock ≤ t)
      (hflush : Flush h 4 (v.call id t (.channelSendEof h) rc) u) (ht' : u.clock ≤ t') :
      WorkStep p ext v
        ((((u.wait t').set { u.ch with eofSentMs := stamp t' }).mark .eofStamped).mark .step)
  /-- `checkCloses` has picked the slot for finalizing. -/
  | finalizing {v : View} {τ : ℕ} (hact : v.ch.active = true) (hst : v.ch.state = .draining)
      (hτ : v.Settled τ) (hverdict : verdict v.ch (stamp τ) = .close) :
      WorkStep p ext v (v.mark (.finalizing (stamp τ)))
  /-- libssh2 is asked to close the channel. -/
  | closeChannel {v : View} {h : Handle} {id t : ℕ} {rc : Int}
      (hact : v.ch.active = true) (hh : v.ch.sshChannel = some h) (ht : v.clock ≤ t)
      (hnot : v.ch.sshCloseProgress.closeComplete = false) :
      WorkStep p ext v ((v.call id t (.channelClose h) rc).set
        { v.ch with
          sshCloseProgress := (v.ch.sshCloseProgress.recordCloseResult rc errorEagain).2 })
  /-- libssh2 is not ready to free the channel. -/
  | freeAgain {v : View} {h : Handle} {id t : ℕ} {rc : Int}
      (hact : v.ch.active = true) (hh : v.ch.sshChannel = some h) (hagain : rc = errorEagain)
      (ht : v.clock ≤ t) (hclosed : v.ch.sshCloseProgress.closeComplete = true) :
      WorkStep p ext v (v.call id t (.channelFree h) rc)

/-- The slot is bound to an accepted channel. -/
def View.bound (p : Params) (v : View) (h : Handle) (fd : Int) (okLocal okRemote : Bool)
    (id t t' : ℕ) : View :=
  (((v.wait t).set
    { v.ch.initialised h fd (.create p.ringBufferSize p.prependCap okLocal)
        (.create p.ringBufferSize p.prependCap okRemote) with
      lastActivity := stamp t
      lastSuccessfulWrite := stamp t
      lastSuccessfulRead := stamp t }).mark .bound).call id t' (.channelSetBlocking h) ()

/-- libssh2 lets go of the channel. -/
def View.freed (v : View) (h : Handle) (rc : Int) (progress : Progress) (id t : ℕ) : View :=
  (v.call id t (.channelFree h) rc).set
    { v.ch with sshCloseProgress := progress, sshChannel := none }

/-- Socket and rings go, the counters are ready for the archive. -/
def View.discarded (v : View) (id t : ℕ) : View :=
  ((v.socketClosed id t).set v.ch.emptied).mark .released

/-- The slot is free again. -/
def View.shut (v : View) (t : ℕ) : View :=
  (v.wait t).set { v.ch with active := false, state := .closed, lastFinalizeMs := stamp t }

/-- The slot is given up: as `discarded`, but the residue is counted first and libssh2 is not
asked. -/
def View.dropped (v : View) (id t : ℕ) : View :=
  (((v.set v.ch.accountResidual).socketClosed id t).set v.ch.emptied).mark .released

/-- Everything that can happen to a slot. -/
inductive SlotStep (p : Params) (ext : Bool) : View → View → Prop where
  /-- Work that keeps it in use. -/
  | work {v v' : View} (h : WorkStep p ext v v') : SlotStep p ext v v'
  /-- A free slot is bound. -/
  | bind {v : View} {h : Handle} {fd : Int} {okLocal okRemote : Bool} {id t t' : ℕ}
      (hact : v.ch.active = false) (hfd : 0 ≤ fd) (ht : v.clock ≤ t) (ht' : t ≤ t') :
      SlotStep p ext v (v.bound p h fd okLocal okRemote id t t')
  /-- The channel is free and the slot is released. -/
  | release {v : View} {h : Handle} {id id' t t' t'' : ℕ} {rc : Int} {progress : Progress}
      (hact : v.ch.active = true) (hh : v.ch.sshChannel = some h) (hdone : rc ≠ errorEagain)
      (ht : v.clock ≤ t) (ht' : t ≤ t') (ht'' : t' ≤ t'')
      (hclosed : v.ch.sshCloseProgress.closeComplete = true) :
      SlotStep p ext v (((v.freed h rc progress id t).discarded id' t').shut t'')
  /-- The slot is released without libssh2. -/
  | abandon {v : View} {id t : ℕ} (hact : v.ch.active = true) (ht : v.clock ≤ t) :
      SlotStep p ext v ((v.dropped id t).set v.ch.reset)

/-- Any number of steps. -/
def Reach (p : Params) (ext : Bool) : View → View → Prop := Relation.ReflTransGen (SlotStep p ext)

/-- Any number of steps that keep the slot in use. -/
def Works (p : Params) (ext : Bool) : View → View → Prop := Relation.ReflTransGen (WorkStep p ext)

end ReverseTunnel
