import ReverseTunnel.State

/-!
# Pumping one slot

What each phase of `TransportPump::pumpAll` does to a single slot. A chunk of work (one read, one
send, one write, one receive, with all that follows from its result) ends with the mark `step`.

All chunks go through the shared work buffer: bytes are placed at its start and the count says how
many of them are meant. The pump only looks at what it has just placed there.
-/

namespace ReverseTunnel

open Traced SlotM

/-! ### Constants -/

/-- `BACKPRESSURE_HIGH_PCT` -/
def backpressureHighPct : ℕ := 75

/-- `BACKPRESSURE_LOW_PCT` -/
def backpressureLowPct : ℕ := 25

/-- `MAX_WRITE_PER_CHANNEL` -/
def maxWritePerChannel : ℕ := 16384

/-- `DRAIN_TIMEOUT_MS` -/
def drainTimeoutMs : UInt32 := 15000

/-- `HARD_ABANDON_TIMEOUT_MS` -/
def hardAbandonTimeoutMs : UInt32 := 30000

/-- `HALF_CLOSE_TIMEOUT_MS` -/
def halfCloseTimeoutMs : UInt32 := 5000

/-- `EAGAIN_STALL_TIMEOUT_MS` -/
def eagainStallTimeoutMs : UInt32 := 3000

/-- `LOCAL_SEND_STALL_TIMEOUT_MS` -/
def localSendStallTimeoutMs : UInt32 := 8000

/-- `EOF_GRACE_MS` -/
def eofGraceMs : UInt32 := 200

/-! ### Work buffer and put-back -/

/-- Place bytes at the start of the work buffer. -/
def fill (bs : List UInt8) : SlotM Unit :=
  Prog.modify fun c ↦ { c with work := bs ++ c.work.drop bs.length }

/-- The first `n` bytes of the work buffer. -/
def workBytes (n : ℕ) : SlotM (List UInt8) := do
  let c ← Prog.get
  pure (c.work.take n)

/-- `lastBytesMoved_ += n` -/
def addMoved (n : ℕ) : SlotM Unit :=
  Prog.modify fun c ↦ { c with moved := c.moved + n }

/-- `restoreUnsent`: the number of bytes restored, and the ring. -/
def restoreUnsent (b : DataRingBuffer) (data : List UInt8) : ℕ × DataRingBuffer :=
  if data.length = 0 then (0, b)
  else
    let front := b.writeToFront data
    if front.1 = data.length then front
    -- only for a transport buffer larger than the prepend capacity
    else front.2.write data

/-- `accountRestoreDrop` -/
def ChannelSlot.accountRestoreDrop (ch : ChannelSlot) (expected restored : ℕ) : ChannelSlot :=
  if restored ≥ expected then ch
  else { ch with totalBytesDropped := ch.totalBytesDropped + (expected - restored) }

/-- Put bytes back in front of `toLocal`. -/
def ChannelSlot.restoreToLocal (ch : ChannelSlot) (data : List UInt8) : ChannelSlot :=
  match ch.toLocal with
  | none => ch.accountRestoreDrop data.length 0
  | some b =>
    { ch with toLocal := some (restoreUnsent b data).2 }.accountRestoreDrop data.length
      (restoreUnsent b data).1

/-- Put bytes back in front of `toRemote`. -/
def ChannelSlot.restoreToRemote (ch : ChannelSlot) (data : List UInt8) : ChannelSlot :=
  match ch.toRemote with
  | none => ch.accountRestoreDrop data.length 0
  | some b =>
    { ch with toRemote := some (restoreUnsent b data).2 }.accountRestoreDrop data.length
      (restoreUnsent b data).1

/-! ### Phase 1: SSH channel to `toLocal` -/

/-- `libssh2_channel_read` into the work buffer. -/
def readInto (h : Handle) (n : ℕ) : SlotM (ReadReply n) := do
  let r : ReadReply n ← io (.channelRead h n)
  match r with
  | .data bs _ _ => do
    fill bs
    pure r
  | .code _ _ => pure r

/-- Append bytes read from the channel to `toLocal` and count them. -/
def ChannelSlot.stored (ch : ChannelSlot) (b : DataRingBuffer) (bs : List UInt8) : ChannelSlot :=
  { ch with
    toLocal := some (b.write bs).2
    totalBytesReceived := ch.totalBytesReceived + (b.write bs).1
    totalBytesDropped := ch.totalBytesDropped + (bs.length - (b.write bs).1) }

/-- What a successful read resets. -/
def ChannelSlot.readSucceeded (ch : ChannelSlot) (now : UInt32) : ChannelSlot :=
  { ch with
    lastSuccessfulRead := now
    lastActivity := now
    eagainCount := 0
    firstEagainMs := 0
    consecutiveErrors := 0 }

/-- `rc > 0`: store the `rc` bytes just read. -/
def storeChunk (b : DataRingBuffer) (rc : ℕ) : SlotM Unit := do
  let bs ← workBytes rc
  modifySlot (·.stored b bs)
  addMoved (b.write bs).1
  let now ← millis
  modifySlot (·.readSucceeded now)

/-- Count an SSH error; too many of them close an open channel. -/
def countError : SlotM Unit := do
  modifySlot fun ch ↦ { ch with consecutiveErrors := ch.consecutiveErrors + 1 }
  Prog.mark .step
  let ch ← slot
  Prog.when (ch.consecutiveErrors > 3 && ch.state = .open) (beginClose .error)

/-- `rc <= 0`: nothing to read, end of stream, or an error. -/
def readEnded (rc : Int) : SlotM Unit := do
  if rc = errorEagain then Prog.mark .step
  else if rc = 0 then do
    modifySlot fun ch ↦ { ch with remoteEof := true }
    Prog.mark .step
  else countError

/-- A read whose bytes are not kept, made to pump the transport. -/
def pumpRead (h : Handle) (n : ℕ) : SlotM Unit := do
  let _ ← io (.channelRead h n)
  Prog.mark .step

/-- The small read of a paused channel. Returns whether a read was made. -/
def pausedRead (h : Handle) (b : DataRingBuffer) : SlotM Bool := do
  if b.available > 0 then do
    let r ← readInto h (if b.available < 64 then b.available else 64)
    match r with
    | .data bs _ _ => do
      storeChunk b bs.length
      Prog.mark .step
    | .code rc _ => readEnded rc
    pure true
  else pure false

/-- One of the four reads of an unpaused channel. Returns whether to go on. -/
def readAttempt (p : Params) (h : Handle) : SlotM Bool := do
  let ch ← slot
  match ch.toLocal with
  | none => pure false
  | some b =>
    if b.available = 0 then do
      -- the bytes stay with libssh2, whose window closes
      modifySlot fun ch ↦ { ch with sshReadPaused := true }
      Prog.mark .step
      pure false
    else do
      let r ← readInto h (if b.available < p.bufSize then b.available else p.bufSize)
      match r with
      | .data bs _ _ => do
        storeChunk b bs.length
        let ch ← slot
        if ringSize ch.toLocal > b.capacity * backpressureHighPct / 100 then do
          modifySlot fun ch ↦ { ch with sshReadPaused := true }
          Prog.mark .step
          pure false
        else do
          Prog.mark .step
          pure true
      | .code rc _ => do
        readEnded rc
        pure false

/-- libssh2 may set its EOF flag without having returned 0. -/
def checkEofFlag (h : Handle) : SlotM Unit := do
  let ch ← slot
  if !ch.remoteEof && ch.sshChannel.isSome then do
    let eof : Bool ← io (.channelEof h)
    if eof then do
      modifySlot fun ch ↦ { ch with remoteEof := true }
      Prog.mark .step
    else Prog.mark .step
  else pure ()

/-- Up to four reads and the EOF flag. A read is made unless the first attempt finds no room. -/
def readChunks (p : Params) (h : Handle) : SlotM Bool := do
  let ch ← slot
  match ch.toLocal with
  | none => pure false
  | some b => do
    Prog.attempts 4 (readAttempt p h)
    checkEofFlag h
    pure (b.available != 0)

/-- Phase 1 on one slot. Returns whether a read was made. -/
def pumpSlot (p : Params) : SlotM Bool := do
  let ch ← slot
  match ch.active, ch.sshChannel with
  | true, some h =>
    if ch.remoteEof then do
      -- nothing more can come for this slot, but the read moves the transport
      pumpRead h 64
      pure true
    else if ch.sshReadPaused then
      match ch.toLocal with
      | none => pure false
      | some b =>
        if b.size < b.capacity * backpressureLowPct / 100 then do
          modifySlot fun ch ↦ { ch with sshReadPaused := false }
          Prog.mark .step
          readChunks p h
        else pausedRead h b
    else readChunks p h
  | _, _ => pure false

/-! ### Phase 2: `toLocal` to local socket -/

/-- What a successful send resets. -/
def ChannelSlot.sendSucceeded (ch : ChannelSlot) (now : UInt32) : ChannelSlot :=
  { ch with lastActivity := now, firstLocalSendEagainMs := 0 }

/-- A hard send error: the bytes taken out are lost. -/
def ChannelSlot.sendFailed (ch : ChannelSlot) (got : ℕ) : ChannelSlot :=
  { ch with totalBytesDropped := ch.totalBytesDropped + got, localEof := true }

/-- The socket is busy: everything goes back and the stall timer runs. -/
def sendBusy (bs : List UInt8) : SlotM Unit := do
  modifySlot (·.restoreToLocal bs)
  let ch ← slot
  if ch.firstLocalSendEagainMs = 0 then do
    let now ← millis
    modifySlot fun ch ↦ { ch with firstLocalSendEagainMs := now }
    Prog.mark .step
  else Prog.mark .step

/-- What follows from the result of `send`. Returns whether to go on. -/
def sendResult (bs : List UInt8) (sent : SendReply bs.length) : SlotM Bool := do
  match sent with
  | .accepted k _ _ => do
    addMoved k
    let now ← millis
    modifySlot (·.sendSucceeded now)
    if k < bs.length then do
      modifySlot (·.restoreToLocal (bs.drop k))
      Prog.mark .step
      pure false
    else do
      Prog.mark .step
      pure true
  | .fail errno =>
    if errno ≠ eagain && errno ≠ ewouldblock then do
      modifySlot (·.sendFailed bs.length)
      Prog.mark .step
      pure false
    else do
      sendBusy bs
      pure false
  | .zero => do
    sendBusy bs
    pure false

/-- One of the four sends. Returns whether to go on. -/
def sendAttempt (p : Params) : SlotM Bool := do
  let ch ← slot
  match ch.toLocal with
  | none => pure false
  | some b =>
    if b.empty then pure false
    else do
      let cut ← Prog.choose
      let res := b.read (if b.size < p.bufSize then b.size else p.bufSize) cut
      modifySlot fun ch ↦ { ch with toLocal := some res.2 }
      fill res.1
      if res.1.length = 0 then pure false
      else do
        let bs ← workBytes res.1.length
        let sent : SendReply bs.length ← io (.send ch.localSocket bs)
        sendResult bs sent

/-- A local socket that has been busy for too long. -/
def checkSendStall : SlotM Unit := do
  let ch ← slot
  if ch.firstLocalSendEagainMs > 0 && !ringEmpty ch.toLocal then do
    let now ← millis
    if now - ch.firstLocalSendEagainMs > localSendStallTimeoutMs then do
      Prog.when (ch.state = .open) (beginClose .error)
      let now ← millis
      modifySlot fun ch ↦ { ch with firstLocalSendEagainMs := now }
      Prog.mark .step
    else pure ()
  else pure ()

/-- Phase 2 on one slot. -/
def drainSlot (p : Params) : SlotM Unit := do
  let ch ← slot
  if !ch.active || ch.localSocket < 0 || ch.toLocal.isNone then pure ()
  else do
    Prog.attempts 4 (sendAttempt p)
    checkSendStall

/-! ### Phase 3: local socket to `toRemote` to SSH channel -/

/-- What a successful write counts and resets. -/
def ChannelSlot.writeSucceeded (ch : ChannelSlot) (k : ℕ) (now : UInt32) : ChannelSlot :=
  { ch with
    totalBytesSent := ch.totalBytesSent + k
    lastSuccessfulWrite := now
    lastActivity := now
    eagainCount := 0
    firstEagainMs := 0
    consecutiveErrors := 0 }

/-- The window is full: everything goes back and the stall timer runs. -/
def writeBusy (bs : List UInt8) : SlotM Unit := do
  modifySlot (·.restoreToRemote bs)
  modifySlot fun ch ↦ { ch with eagainCount := ch.eagainCount + 1 }
  let ch ← slot
  if ch.firstEagainMs = 0 then do
    let now ← millis
    modifySlot fun ch ↦ { ch with firstEagainMs := now }
    Prog.mark .step
  else Prog.mark .step

/-- What follows from the result of `libssh2_channel_write`. Returns the bytes written when the loop
goes on. -/
def writeResult (bs : List UInt8) (written : WriteReply bs.length) : SlotM (Option ℕ) := do
  match written with
  | .accepted k _ _ => do
    addMoved k
    let now ← millis
    modifySlot (·.writeSucceeded k now)
    if k < bs.length then do
      modifySlot (·.restoreToRemote (bs.drop k))
      Prog.mark .step
      pure none
    else do
      Prog.mark .step
      pure (some k)
  | .code rc _ =>
    if rc = errorEagain then do
      writeBusy bs
      pure none
    else do
      -- the error may pass, so the bytes go back here as well
      modifySlot (·.restoreToRemote bs)
      countError
      pure none

/-- One round of the write loop with the given budget. -/
def writeAttempt (p : Params) (budget : ℕ) : SlotM (Option ℕ) := do
  let ch ← slot
  match ch.sshChannel, ch.toRemote with
  | some h, some b =>
    if budget > 0 && !b.empty then do
      let cut ← Prog.choose
      let res := b.read (if budget < p.bufSize then budget else p.bufSize) cut
      modifySlot fun ch ↦ { ch with toRemote := some res.2 }
      fill res.1
      if res.1.length = 0 then pure none
      else do
        let bs ← workBytes res.1.length
        let written : WriteReply bs.length ← io (.channelWrite h bs)
        writeResult bs written
    else pure none
  | _, _ => pure none

/-- The write loop. Every round that goes on has used up some of the budget, so a fuel of the size
of the budget never runs out first. -/
def writeChunks (p : Params) : (fuel budget : ℕ) → SlotM Unit
  | 0, _ => pure ()
  | fuel + 1, budget => do
    let written ← writeAttempt p budget
    match written with
    | none => pure ()
    | some k => writeChunks p fuel (budget - k)

/-- An SSH write that has been blocked for too long. -/
def checkWriteStall : SlotM Unit := do
  let ch ← slot
  if ch.firstEagainMs > 0 then do
    let now ← millis
    if now - ch.firstEagainMs > eagainStallTimeoutMs then do
      Prog.when (ch.state = .open) (beginClose .error)
      let now ← millis
      modifySlot fun ch ↦ { ch with firstEagainMs := now }
      Prog.mark .step
    else pure ()
  else pure ()

/-- Pause or resume reading from the local socket. -/
def localBackpressure : SlotM Unit := do
  let ch ← slot
  match ch.toRemote with
  | none => pure ()
  | some b =>
    if ch.localReadPaused then
      if b.size < b.capacity * backpressureLowPct / 100 then do
        modifySlot fun ch ↦ { ch with localReadPaused := false }
        Prog.mark .step
      else pure ()
    else if b.size > b.capacity * backpressureHighPct / 100 then do
      modifySlot fun ch ↦ { ch with localReadPaused := true }
      Prog.mark .step
    else pure ()

/-- Append bytes received from the local socket to `toRemote`. -/
def ChannelSlot.received (ch : ChannelSlot) (b : DataRingBuffer) (bs : List UInt8) : ChannelSlot :=
  { ch with
    toRemote := some (b.write bs).2
    totalBytesDropped := ch.totalBytesDropped + (bs.length - (b.write bs).1) }

/-- The local side is done. -/
def localEnded : SlotM Unit := do
  modifySlot fun ch ↦ { ch with localEof := true }
  Prog.mark .step

/-- What follows from the result of `recv`. Returns whether to go on. -/
def recvResult (b : DataRingBuffer) {n : ℕ} (recvd : RecvReply n) : SlotM Bool := do
  match recvd with
  | .data bs _ _ => do
    fill bs
    let bs ← workBytes bs.length
    modifySlot (·.received b bs)
    let now ← millis
    modifySlot fun ch ↦ { ch with lastActivity := now }
    addMoved (b.write bs).1
    Prog.mark .step
    pure true
  | .eof => do
    localEnded
    pure false
  | .fail errno =>
    if errno ≠ eagain && errno ≠ ewouldblock then do
      localEnded
      pure false
    else do
      Prog.mark .step
      pure false

/-- One of the three receives. Returns whether to go on. -/
def recvAttempt (p : Params) : SlotM Bool := do
  let ch ← slot
  if ch.localEof || ch.localReadPaused then pure false
  else
    match ch.toRemote with
    | none => pure false
    | some b =>
      if b.available = 0 then do
        modifySlot fun ch ↦ { ch with localReadPaused := true }
        Prog.mark .step
        pure false
      else do
        let n := if b.available < p.bufSize then b.available else p.bufSize
        let recvd : RecvReply n ← io (.recv ch.localSocket n)
        recvResult b recvd

/-- Step B of phase 3. -/
def recvChunks (p : Params) : SlotM Unit := do
  let ch ← slot
  if !ch.localEof && !ch.localReadPaused && ch.localSocket ≥ 0 && ch.toRemote.isSome &&
      ch.eofSentMs = 0 then
    Prog.attempts 3 (recvAttempt p)
  else pure ()

/-! ### Phase 4: closing -/

/-- Half-close and inactivity timeouts of an open slot. -/
def checkTimers (p : Params) (now : UInt32) : SlotM Unit := do
  let ch ← slot
  if ch.remoteEof && !ch.localEof && ch.lastActivity > 0 &&
      now - ch.lastActivity > halfCloseTimeoutMs && ringEmpty ch.toRemote then
    beginClose .remoteClosed
  else if expired now ch.lastActivity p.channelTimeoutMs then beginClose .timeout
  else pure ()

/-- The guard under which `checkCloses` forwards the remote EOF to the local socket. It looks at
`toRemote`. -/
def ChannelSlot.forwardsEof (ch : ChannelSlot) : Bool :=
  ch.remoteEof && !ch.localShutdownSent && ch.localSocket ≥ 0 && ringEmpty ch.toRemote

/-- Forward the remote EOF. -/
def forwardEof : SlotM Unit := do
  let ch ← slot
  if ch.forwardsEof then do
    let _ ← io (.shutdown ch.localSocket)
    modifySlot fun ch ↦ { ch with localShutdownSent := true }
  else pure ()

/-- Step 1 of `checkCloses` on one slot. -/
def checkSlot (p : Params) (now : UInt32) : SlotM Unit := do
  let ch ← slot
  if !ch.active || ch.state ≠ .open then pure ()
  else do
    Prog.mark .checking
    if ch.remoteEof && ch.localEof then beginClose .remoteClosed
    else if ch.localEof && !ch.remoteEof && ringEmpty ch.toRemote then beginClose .localClosed
    else if ch.consecutiveErrors > 5 then beginClose .error
    else do
      forwardEof
      checkTimers p now

/-- One read of the EOF flush. Returns whether to go on. -/
def flushAttempt (h : Handle) : SlotM Bool := do
  let r : ReadReply 512 ← io (.channelRead h 512)
  match r with
  | .data bs _ _ => do
    modifySlot fun ch ↦ { ch with toLocal := ch.toLocal.map fun b ↦ (b.write bs).2 }
    pure true
  | .code _ _ => pure false

/-- Step 2a of `checkCloses` on one slot: send EOF and flush. -/
def sendEofSlot : SlotM Unit := do
  let ch ← slot
  match ch.sshChannel with
  | none => pure ()
  | some h => do
    let rc : Int ← io (.channelSendEof h)
    if rc = errorEagain then Prog.mark .step
    else do
      Prog.attempts 4 (flushAttempt h)
      let now ← millis
      modifySlot fun ch ↦ { ch with eofSentMs := now }
      Prog.mark .eofStamped
      Prog.mark .step

end ReverseTunnel
