import Mathlib.Algebra.GroupWithZero.Nat
import ReverseTunnel.State

/-!
# The channel manager

Allocating a slot, binding an accepted channel to it, and the two ways out of it: `finalizeClose`,
which needs libssh2 to let go of the channel and may have to be retried, and `abandonSlot`, which
does not ask libssh2. Slot indices come from callers and may be out of range.
-/

namespace ReverseTunnel

open Traced TunnelM

/-! ### Memory guard -/

/-- `channel_memory_guard::Requirements` -/
structure Requirements where
  /-- `totalBytes` -/
  totalBytes : ℕ
  /-- `largestBlockBytes` -/
  largestBlockBytes : ℕ

/-- `channel_memory_guard::requirements` -/
def requirements (ringBufferBytes prependBufferBytes : ℕ) : Requirements :=
  { totalBytes := ringBufferBytes * 2 + prependBufferBytes * 2 + 8192
    largestBlockBytes :=
      if ringBufferBytes > prependBufferBytes then ringBufferBytes else prependBufferBytes }

/-- The heap guard of `bindChannel`: one contiguous region of PSRAM when there is PSRAM, otherwise
`channel_memory_guard::hasCapacity` of the internal heap. -/
def heapGuard (required : Requirements) (heap : HeapReport) : Bool :=
  if heap.totalPsram > 0 then heap.largestPsram ≥ required.totalBytes
  else
    heap.totalInternal ≥ required.totalBytes && heap.largestInternal ≥ required.largestBlockBytes

/-! ### Allocation -/

/-- `channel_alloc::FINALIZE_COOLDOWN_MS` -/
def finalizeCooldownMs : UInt32 := 50

/-- `channel_alloc::findFreeSlot` -/
def findFreeSlot (slots : ℕ → ChannelSlot) (n : ℕ) (now : UInt32) : Option ℕ :=
  (List.range n).find? fun i ↦
    !(slots i).active &&
      !((slots i).lastFinalizeMs != 0 && now - (slots i).lastFinalizeMs < finalizeCooldownMs)

/-- `allocateSlot`; no slot is `-1` in the source. -/
def allocateSlot (p : Params) : TunnelM (Option ℕ) := do
  let now ← millis
  let s ← Prog.get
  match findFreeSlot s.channels.slots p.maxSlots now with
  | some i => pure (some i)
  | none =>
    let stale := (List.range p.maxSlots).find? fun i ↦
      (s.channels.slots i).active &&
        expired now (s.channels.slots i).lastActivity p.channelTimeoutMs
    match stale with
    | some i => do
      onSlot i (beginClose .timeout)
      pure none
    | none => pure none

/-! ### Binding -/

/-- `connectToLocalEndpoint`; the socket, or `-1`. -/
def connectToLocalEndpoint (mapping : TunnelConfig) : TunnelM Int := do
  let res ← sysId (.localSocket mapping)
  let created : Bool := res.2
  if !created then pure (-1)
  else do
    let fd : Int := res.1
    let valid : Bool ← sys (.inetPton mapping.localHost)
    if !valid then do
      let _ ← sys (.localClose fd)
      pure (-1)
    else do
      let gotFlags : Bool ← sys (.fcntlGetFlags fd)
      if !gotFlags then do
        let _ ← sys (.localClose fd)
        pure (-1)
      else do
        let nonblocking : Bool ← sys (.fcntlSetNonblock fd)
        if !nonblocking then do
          let _ ← sys (.localClose fd)
          pure (-1)
        else do
          let connectResult : ConnectReply ← sys (.localConnect fd)
          match connectResult with
          | .done => pure fd
          | .failed => do
            let _ ← sys (.localClose fd)
            pure (-1)
          | .inProgress => do
            -- wait up to 200 ms for the connection, then ask how it went
            let sel : Int × Bool ← sys (.select fd)
            if sel.1 < 0 || sel.1 = 0 || !sel.2 then do
              let _ ← sys (.localClose fd)
              pure (-1)
            else do
              let sockErr : Int × Int ← sys (.localSoError fd)
              if sockErr.1 ≠ 0 || sockErr.2 ≠ 0 then do
                let _ ← sys (.localClose fd)
                pure (-1)
              else pure fd

/-- The slot as `bindChannel` initialises it. -/
def ChannelSlot.initialised (ch : ChannelSlot) (h : Handle) (fd : Int)
    (toLocal toRemote : DataRingBuffer) : ChannelSlot :=
  { ch.reset with
    sshChannel := some h
    localSocket := fd
    active := true
    state := .open
    toLocal := some toLocal
    toRemote := some toRemote }

/-- The part of `bindChannel` that fills the slot. -/
def bindSlot (h : Handle) (fd : Int) (toLocal toRemote : DataRingBuffer) : SlotM Unit := do
  SlotM.modifySlot (·.initialised h fd toLocal toRemote)
  let now ← SlotM.millis
  SlotM.modifySlot fun ch ↦
    { ch with lastActivity := now, lastSuccessfulWrite := now, lastSuccessfulRead := now }
  Prog.mark .bound
  let _ ← SlotM.io (.channelSetBlocking h)
  pure ()

/-- `bindChannel`. Neither ring pointer is ever null and `capacityBytes()` is the requested size, so
the source's check after the two allocations passes also when they failed. -/
def bindChannel (p : Params) (slotIndex : Int) (h : Handle) (mapping : TunnelConfig) :
    TunnelM Bool := do
  if slotIndex < 0 || slotIndex ≥ p.maxSlots then pure false
  else do
    let i := slotIndex.toNat
    let slot ← getSlot i
    if slot.active then pure false
    else do
      let fd ← connectToLocalEndpoint mapping
      if fd < 0 then do
        -- the endpoint is to blame, and the slot is still free
        let now ← millis
        modifyChannels fun c ↦
          { c with breaker := (c.breaker.recordFailure mapping.remoteBindPort now).2 }
        pure false
      else do
        modifyChannels fun c ↦
          { c with breaker := c.breaker.recordSuccess mapping.remoteBindPort }
        let heap : HeapReport ← sys .heapReport
        if !heapGuard (requirements p.ringBufferSize p.prependCap) heap then do
          let _ ← sys (.localClose fd)
          pure false
        else do
          let okLocal : Bool ← sys (.allocRing p.ringBufferSize)
          let okRemote : Bool ← sys (.allocRing p.ringBufferSize)
          let toLocal := DataRingBuffer.create p.ringBufferSize p.prependCap okLocal
          let toRemote := DataRingBuffer.create p.ringBufferSize p.prependCap okRemote
          if toLocal.capacity = 0 || toRemote.capacity = 0 then do
            let _ ← sys (.localClose fd)
            pure false
          else do
            onSlot i (bindSlot h fd toLocal toRemote)
            modifyChannels fun c ↦ { c with activeCount := c.activeCount + 1 }
            pure true

/-! ### Closing -/

/-- `beginClose` -/
def beginCloseAt (p : Params) (slotIndex : Int) (reason : ChannelCloseReason) : TunnelM Unit :=
  if slotIndex < 0 || slotIndex ≥ p.maxSlots then pure ()
  else onSlot slotIndex.toNat (beginClose reason)

/-- `archiveSlotStats` -/
def archiveSlotStats (i : ℕ) : TunnelM Unit :=
  modifyChannels fun c ↦
    { c with
      completedBytesReceived := c.completedBytesReceived + (c.slots i).totalBytesReceived
      completedBytesSent := c.completedBytesSent + (c.slots i).totalBytesSent
      completedBytesDropped := c.completedBytesDropped + (c.slots i).totalBytesDropped }

/-- The part of `finalizeClose` between libssh2 and the statistics: socket, residue, rings. -/
def discardLocal : SlotM Unit := do
  closeLocalSocket
  SlotM.modifySlot (·.accountResidual)
  SlotM.modifySlot fun ch ↦ { ch with toLocal := none, toRemote := none }
  Prog.mark .released

/-- The end of `finalizeClose`. -/
def closeSlot : SlotM Unit := do
  SlotM.modifySlot fun ch ↦ { ch with active := false, state := .closed }
  -- the cooldown of the slot begins here
  let now ← SlotM.millis
  SlotM.modifySlot fun ch ↦ { ch with lastFinalizeMs := now }

/-- `finalizeClose`: `false` when libssh2 must be asked again. -/
def finalizeClose (p : Params) (slotIndex : Int) : TunnelM Bool := do
  if slotIndex < 0 || slotIndex ≥ p.maxSlots then pure true
  else do
    let i := slotIndex.toNat
    let slot ← getSlot i
    if !slot.active then pure true
    else do
      let freed ← onSlot i releaseChannel
      if !freed then pure false
      else do
        onSlot i discardLocal
        archiveSlotStats i
        onSlot i closeSlot
        modifyChannels fun c ↦ { c with activeCount := c.activeCount - 1 }
        pure true

/-- The part of `abandonSlot` before the statistics. -/
def dropLocal : SlotM Unit := do
  SlotM.modifySlot (·.accountResidual)
  closeLocalSocket
  SlotM.modifySlot fun ch ↦ { ch with toLocal := none, toRemote := none }
  SlotM.modifySlot fun ch ↦ { ch with sshChannel := none }
  Prog.mark .released

/-- `abandonSlot`. The reason is only logged. -/
def abandonSlot (p : Params) (slotIndex : Int) (_reason : ChannelCloseReason) : TunnelM Unit := do
  if slotIndex < 0 || slotIndex ≥ p.maxSlots then pure ()
  else do
    let i := slotIndex.toNat
    let slot ← getSlot i
    if !slot.active then pure ()
    else do
      onSlot i dropLocal
      archiveSlotStats i
      modifyChannels fun c ↦
        { c with activeCount := if c.activeCount > 0 then c.activeCount - 1 else c.activeCount }
      onSlot i (SlotM.modifySlot (·.reset))

/-! ### Totals -/

/-- A completed counter plus that counter of every active slot, as a `size_t`. -/
def ChannelManager.total (c : ChannelManager) (p : Params) (completed : ℕ)
    (counter : ChannelSlot → ℕ) : UInt32 :=
  UInt32.ofNat (completed +
    ((List.range p.maxSlots).map fun i ↦ if (c.slots i).active then counter (c.slots i) else 0).sum)

/-- `getTotalBytesReceived` -/
def ChannelManager.getTotalBytesReceived (c : ChannelManager) (p : Params) : UInt32 :=
  c.total p c.completedBytesReceived (·.totalBytesReceived)

/-- `getTotalBytesSent` -/
def ChannelManager.getTotalBytesSent (c : ChannelManager) (p : Params) : UInt32 :=
  c.total p c.completedBytesSent (·.totalBytesSent)

/-- `getTotalBytesDropped` -/
def ChannelManager.getTotalBytesDropped (c : ChannelManager) (p : Params) : UInt32 :=
  c.total p c.completedBytesDropped (·.totalBytesDropped)

end ReverseTunnel
