import ReverseTunnel.Buffer.DataRingBuffer
import ReverseTunnel.Interface
import ReverseTunnel.Lib.Triple

/-!
# Channel slots

`ChannelSlot` holds one forwarded connection: the SSH channel, the local socket, a ring for each
direction and the flags, timers and counters of its state machine. Timestamps are 32-bit millisecond
readings where `0` means "not set". Nothing in the code compares a byte counter, so these are kept
as the number of bytes added to them in all; the `size_t` itself holds that number in 32 bits
(`sizeCounter`), and it is what specifications speak about.

Work on one slot is a program (`SlotM`) over a `Ctx`: the slot, the work buffer that **all** slots
share, and the byte count of the current pump cycle. It can reach no other slot.
-/

namespace ReverseTunnel

open Traced Clock32

/-! ### Close progress -/

/-- `channel_close_progress::Progress` -/
structure Progress where
  /-- `libssh2_channel_close` has returned something other than `EAGAIN`. -/
  closeComplete : Bool := false
  /-- `libssh2_channel_free` has returned something other than `EAGAIN`. -/
  freeComplete : Bool := false
  deriving DecidableEq

namespace Progress

/-- `recordCloseResult` -/
def recordCloseResult (p : Progress) (rc eagainCode : Int) : Bool × Progress :=
  if rc = eagainCode then (false, p) else (true, { p with closeComplete := true })

/-- `readyForFree` -/
def readyForFree (p : Progress) : Bool := p.closeComplete

/-- `recordFreeResult` -/
def recordFreeResult (p : Progress) (rc eagainCode : Int) : Bool × Progress :=
  if rc = eagainCode then (false, p) else (true, { p with freeComplete := true })

/-- `readyForFinalize` -/
def readyForFinalize (p : Progress) : Bool := p.closeComplete && p.freeComplete

end Progress

/-- `channel_timeout::expired` -/
def expired (now lastActivity timeoutMs : UInt32) : Bool :=
  timeoutMs > 0 && lastActivity > 0 && now - lastActivity > timeoutMs

/-! ### The slot -/

/-- `ChannelSlot::State` -/
inductive SlotState where
  | open
  | draining
  | closed
  deriving DecidableEq

/-- `ChannelSlot` -/
structure ChannelSlot where
  /-- `sshChannel` -/
  sshChannel : Option Handle := none
  /-- `localSocket` -/
  localSocket : Int := -1
  /-- `active` -/
  active : Bool := false
  /-- `toLocal`: SSH to local -/
  toLocal : Option DataRingBuffer := none
  /-- `toRemote`: local to SSH -/
  toRemote : Option DataRingBuffer := none
  /-- `state` -/
  state : SlotState := .closed
  /-- `localEof` -/
  localEof : Bool := false
  /-- `remoteEof` -/
  remoteEof : Bool := false
  /-- `localShutdownSent` -/
  localShutdownSent : Bool := false
  /-- `closeStartMs` -/
  closeStartMs : UInt32 := 0
  /-- `eofSentMs` -/
  eofSentMs : UInt32 := 0
  /-- `closeReason` -/
  closeReason : ChannelCloseReason := .unknown
  /-- `sshCloseProgress` -/
  sshCloseProgress : Progress := {}
  /-- `localReadPaused` -/
  localReadPaused : Bool := false
  /-- `sshReadPaused` -/
  sshReadPaused : Bool := false
  /-- All that was added to `totalBytesReceived` -/
  totalBytesReceived : ℕ := 0
  /-- All that was added to `totalBytesSent` -/
  totalBytesSent : ℕ := 0
  /-- All that was added to `totalBytesDropped` -/
  totalBytesDropped : ℕ := 0
  /-- `lastActivity` -/
  lastActivity : UInt32 := 0
  /-- `lastSuccessfulWrite` -/
  lastSuccessfulWrite : UInt32 := 0
  /-- `lastSuccessfulRead` -/
  lastSuccessfulRead : UInt32 := 0
  /-- `consecutiveErrors` -/
  consecutiveErrors : ℕ := 0
  /-- `eagainCount` -/
  eagainCount : ℕ := 0
  /-- `firstEagainMs`: start of an SSH write stall -/
  firstEagainMs : UInt32 := 0
  /-- `firstLocalSendEagainMs`: start of a local send stall -/
  firstLocalSendEagainMs : UInt32 := 0
  /-- `lastFinalizeMs` -/
  lastFinalizeMs : UInt32 := 0

/-- The value of a `size_t` counter, 32 bits wide, to which `n` has been added in all. -/
def sizeCounter (n : ℕ) : UInt32 := UInt32.ofNat n

theorem toNat_sizeCounter (n : ℕ) : (sizeCounter n).toNat = n % 2 ^ 32 := UInt32.toNat_ofNat'

theorem toNat_sizeCounter_le (n : ℕ) : (sizeCounter n).toNat ≤ n := by
  rw [toNat_sizeCounter]
  exact Nat.mod_le n _

/-- A counter is right as long as it has not run over. -/
theorem toNat_sizeCounter_eq_iff {n : ℕ} : (sizeCounter n).toNat = n ↔ n < 2 ^ 32 := by
  rw [toNat_sizeCounter]
  exact Nat.mod_eq_iff_lt (by decide)

/-- The bytes a ring pointer leads to; none behind a null pointer. -/
def held (ring : Option DataRingBuffer) : List UInt8 := (ring.map (·.content)).getD []

/-- `ring ? ring->size() : 0` -/
def ringSize (ring : Option DataRingBuffer) : ℕ :=
  match ring with
  | none => 0
  | some b => b.size

/-- `!ring || ring->empty()` -/
def ringEmpty (ring : Option DataRingBuffer) : Bool :=
  match ring with
  | none => true
  | some b => b.empty

@[simp] theorem held_some (b : DataRingBuffer) : held (some b) = b.content := rfl

@[simp] theorem held_none : held none = [] := rfl

theorem ringSize_eq (ring : Option DataRingBuffer) : ringSize ring = (held ring).length := by
  rcases ring with - | b
  · rfl
  · exact b.size_eq_length

theorem ringEmpty_iff (ring : Option DataRingBuffer) : ringEmpty ring = true ↔ held ring = [] := by
  rcases ring with - | b
  · simp [ringEmpty]
  · exact b.empty_iff

/-- Places a specification speaks about. They change nothing. -/
inductive SlotMark where
  /-- `bindChannel` has filled the slot: a lifetime begins. -/
  | bound
  /-- A chunk of work on the slot is complete. -/
  | step
  /-- Step 1 of `checkCloses` looks at the slot. -/
  | checking
  /-- `beginClose` is about to move the slot from `Open` to `Draining`. -/
  | beganClose
  /-- `eofSentMs` has just been stored. -/
  | eofStamped
  /-- Step 2b of `checkCloses` is about to finalize the slot, picked at clock value `now`. -/
  | finalizing (now : UInt32)
  /-- The counters of the lifetime are about to be archived. -/
  | released

/-- What work on one slot can reach. -/
structure Ctx where
  /-- The slot. -/
  ch : ChannelSlot
  /-- `rxBuf_` and `txBuf_`, one and the same buffer for all slots. -/
  work : List UInt8
  /-- `lastBytesMoved_` -/
  moved : ℕ

/-- Programs that work on one slot. -/
abbrev SlotM := Prog Ctx IoCall IoCall.Reply SlotMark

namespace SlotM

/-- `millis()` -/
def millis : SlotM UInt32 := do
  let t ← Prog.tick
  pure (stamp t)

/-- Make a call for the slot. -/
abbrev io (c : IoCall) : SlotM c.Reply := Prog.call c

/-- The slot. -/
def slot : SlotM ChannelSlot := do
  let c ← Prog.get
  pure c.ch

/-- Change the slot. -/
def modifySlot (f : ChannelSlot → ChannelSlot) : SlotM Unit :=
  Prog.modify fun c ↦ { c with ch := f c.ch }

end SlotM

open SlotM

/-! ### Closing -/

/-- The change `beginClose` makes. -/
def ChannelSlot.begun (ch : ChannelSlot) (reason : ChannelCloseReason) (now : UInt32) :
    ChannelSlot :=
  { ch with state := .draining, closeStartMs := now, closeReason := reason }

/-- `ChannelManager::beginClose`, on a slot in range. -/
def beginClose (reason : ChannelCloseReason) : SlotM Unit := do
  let ch ← slot
  -- the first reason and the first time stand
  if !ch.active || ch.state = .draining || ch.state = .closed then pure ()
  else do
    Prog.mark .beganClose
    let now ← millis
    modifySlot (·.begun reason now)
    Prog.mark .step

/-- Ask libssh2 to close the channel, unless it has done so: `false` when to be asked again. -/
def closeStage (h : Handle) : SlotM Bool := do
  let ch ← slot
  if ch.sshCloseProgress.closeComplete then pure true
  else do
    let closeRc : Int ← io (.channelClose h)
    -- an error counts as closed; only EAGAIN is tried again
    let res := ch.sshCloseProgress.recordCloseResult closeRc errorEagain
    modifySlot fun ch ↦ { ch with sshCloseProgress := res.2 }
    pure res.1

/-- Ask libssh2 to free the channel, once it is closed: `false` when to be asked again. -/
def freeStage (h : Handle) : SlotM Bool := do
  let ch ← slot
  if ch.sshCloseProgress.readyForFree then do
    let freeRc : Int ← io (.channelFree h)
    let res := ch.sshCloseProgress.recordFreeResult freeRc errorEagain
    modifySlot fun ch ↦ { ch with sshCloseProgress := res.2 }
    pure res.1
  else pure true

/-- The libssh2 part of `finalizeClose`: `false` when close or free must be retried. -/
def releaseChannel : SlotM Bool := do
  let ch ← slot
  match ch.sshChannel with
  | none => pure true
  | some h => do
    let closed ← closeStage h
    if !closed then pure false
    else do
      let freed ← freeStage h
      if !freed then pure false
      else do
        let ch ← slot
        if !ch.sshCloseProgress.readyForFinalize then pure false
        else do
          modifySlot fun ch ↦ { ch with sshChannel := none }
          pure true

/-- Close the local socket, if there is one. -/
def closeLocalSocket : SlotM Unit := do
  let ch ← slot
  if ch.localSocket ≥ 0 then do
    let _ ← io (.closeSocket ch.localSocket)
    modifySlot fun ch ↦ { ch with localSocket := -1 }
  else pure ()

/-- Residual ring contents, accounted as dropped. -/
def ChannelSlot.accountResidual (ch : ChannelSlot) : ChannelSlot :=
  { ch with totalBytesDropped :=
      ch.totalBytesDropped + (ringSize ch.toLocal + ringSize ch.toRemote) }

/-- `resetSlot`: everything but `lastFinalizeMs`. -/
def ChannelSlot.reset (ch : ChannelSlot) : ChannelSlot := { lastFinalizeMs := ch.lastFinalizeMs }

end ReverseTunnel
