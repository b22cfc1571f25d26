import ReverseTunnel.Channel.Manager
import ReverseTunnel.Transport.Slot

/-!
# The transport pump

`pumpAll`, the four phases of one pump cycle over all slots. Phases 1 to 3 visit the slots in a
round-robin order given by a 32-bit offset that wraps; phase 4 goes through them in order.
-/

namespace ReverseTunnel

open Traced TunnelM

/-- `MAX_CLOSE_EVENTS` -/
def maxCloseEvents : ℕ := 32

/-- The `n`-th slot of a round: `(n + roundRobinOffset_) % maxSlots` in unsigned arithmetic. -/
def slotAt (p : Params) (offset : UInt32) (n : ℕ) : ℕ :=
  (UInt32.ofNat n + offset).toNat % p.maxSlots

/-- The slots of one round, in the order of the round. -/
def roundRobin (p : Params) (offset : UInt32) : List ℕ :=
  (List.range p.maxSlots).map (slotAt p offset)

/-- Pump the transport through a slot whose remote end is done. -/
def pumpFallback (p : Params) : TunnelM Unit := do
  let s ← Prog.get
  let candidate := (List.range p.maxSlots).find? fun i ↦
    (s.channels.slots i).active && (s.channels.slots i).sshChannel.isSome &&
      (s.channels.slots i).remoteEof
  match candidate with
  | none => pure ()
  | some i =>
    match (s.channels.slots i).sshChannel with
    | none => pure ()
    | some h => onSlot i (pumpRead h 1)

/-- Phase 1 on one slot, under the session lock. -/
def pumpSshSlot (p : Params) (i : ℕ) : TunnelM Bool := do
  let ch ← getSlot i
  let readDone ← onSlot i (pumpSlot p)
  Prog.when (ch.active && ch.sshChannel.isSome && !ch.remoteEof) (Prog.mark (.note (.pumped i)))
  pure readDone

/-- Phase 1. -/
def pumpSshTransport (p : Params) : TunnelM Unit := do
  let locked : Bool ← lock 50
  if !locked then pure ()
  else do
    let s ← Prog.get
    let anyReadDone ← Prog.fold (roundRobin p s.transport.roundRobinOffset) false fun any i ↦ do
      let readDone ← pumpSshSlot p i
      pure (any || readDone)
    -- somebody has to read, or libssh2 never sees the window adjustments of the server
    Prog.when (!anyReadDone) (pumpFallback p)
    unlock

/-- Phase 2. -/
def drainSshToLocal (p : Params) : TunnelM Unit := do
  let s ← Prog.get
  Prog.each (roundRobin p s.transport.roundRobinOffset) fun i ↦ onSlot i (drainSlot p)

/-- Step A of phase 3 on one slot: drain `toRemote` under the session lock. -/
def drainToRemote (p : Params) (i : ℕ) : TunnelM Unit := do
  let locked : Bool ← lock 20
  if locked then do
    onSlot i (writeChunks p maxWritePerChannel maxWritePerChannel)
    unlock
    onSlot i checkWriteStall
  else pure ()

/-- Phase 3 on one slot. -/
def drainLocalSlot (p : Params) (i : ℕ) : TunnelM Unit := do
  let ch ← getSlot i
  if !ch.active || ch.sshChannel.isNone then pure ()
  -- nothing may follow an EOF
  else if ch.eofSentMs > 0 then pure ()
  else do
    Prog.when (!ringEmpty ch.toRemote) (drainToRemote p i)
    onSlot i localBackpressure
    onSlot i (recvChunks p)
    Prog.mark (.note (.drained i))

/-- Phase 3. -/
def drainLocalToSsh (p : Params) : TunnelM Unit := do
  if p.maxSlots = 0 then pure ()
  else do
    let s ← Prog.get
    Prog.each (roundRobin p s.transport.roundRobinOffset) (drainLocalSlot p)
    modifyTransport fun t ↦ { t with roundRobinOffset := t.roundRobinOffset + 1 }

/-! ### Phase 4 -/

/-- The two lists step 2 of `checkCloses` makes. -/
structure Picks where
  /-- `toSendEof` -/
  toSendEof : List ℕ := []
  /-- `toClose` -/
  toClose : List ℕ := []

/-- Append to an array of `arrSize` entries, if there is room. -/
def pushPick (p : Params) (l : List ℕ) (i : ℕ) : List ℕ :=
  if l.length < min p.maxSlots 32 then l ++ [i] else l

/-- Record a close event, if there is room. -/
def pushCloseEvent (i : ℕ) (reason : ChannelCloseReason) : TunnelM Unit :=
  modifyTransport fun t ↦
    if t.pendingCloseEvents.length < maxCloseEvents then
      { t with pendingCloseEvents := t.pendingCloseEvents ++ [(i, reason)] }
    else t

/-- What step 2 decides about a draining slot. -/
inductive Verdict where
  /-- Past the hard deadline. -/
  | abandon
  /-- To be finalized. -/
  | close
  /-- To be sent an EOF. -/
  | sendEof
  /-- Nothing yet. -/
  | wait
  deriving DecidableEq

/-- The decision of step 2 at clock value `now`. -/
def verdict (ch : ChannelSlot) (now : UInt32) : Verdict :=
  if now - ch.closeStartMs > hardAbandonTimeoutMs then .abandon
  else if now - ch.closeStartMs > drainTimeoutMs then .close
  else if ch.consecutiveErrors > 3 then .close
  else if ringEmpty ch.toLocal && ringEmpty ch.toRemote then
    if ch.eofSentMs = 0 then .sendEof
    else if now - ch.eofSentMs ≥ eofGraceMs then .close
    else .wait
  else .wait

/-- Step 2 of `checkCloses` on one slot. -/
def scanSlot (p : Params) (now : UInt32) (picks : Picks) (i : ℕ) : TunnelM Picks := do
  let ch ← getSlot i
  if !ch.active || ch.state ≠ .draining then pure picks
  else
    match verdict ch now with
    | .abandon => do
      -- not through `toClose`: `finalizeClose` is what has been failing for so long
      Prog.mark (.note (.abandoning i))
      abandonSlot p i ch.closeReason
      modifyTransport fun t ↦ { t with sessionDegraded := true }
      pushCloseEvent i ch.closeReason
      pure picks
    | .close => pure { picks with toClose := pushPick p picks.toClose i }
    | .sendEof => pure { picks with toSendEof := pushPick p picks.toSendEof i }
    | .wait => pure picks

/-- Step 2a of `checkCloses`. -/
def sendEofs (toSendEof : List ℕ) : TunnelM Unit := do
  if toSendEof.length > 0 then do
    let locked : Bool ← lock 100
    if locked then do
      Prog.each toSendEof fun i ↦ onSlot i sendEofSlot
      unlock
    -- the next cycle picks the same slots again
    else pure ()
  else pure ()

/-- Step 2b of `checkCloses` on one slot. -/
def finalizePick (p : Params) (now : UInt32) (i : ℕ) : TunnelM Unit := do
  let ch ← getSlot i
  onSlot i (Prog.mark (.finalizing now))
  let done ← finalizeClose p i
  Prog.when done (pushCloseEvent i ch.closeReason)

/-- Step 2b of `checkCloses`. -/
def finalizePicks (p : Params) (now : UInt32) (toClose : List ℕ) : TunnelM Unit := do
  if toClose.length > 0 then do
    let locked : Bool ← lock 200
    if locked then do
      Prog.each toClose (finalizePick p now)
      unlock
    else pure ()
  else pure ()

/-- Phase 4. The clock is read again before step 2, whose timestamps step 1 may just have set. -/
def checkCloses (p : Params) : TunnelM Unit := do
  let now ← millis
  Prog.each (List.range p.maxSlots) fun i ↦ onSlot i (checkSlot p now)
  let now ← millis
  let picks ← Prog.fold (List.range p.maxSlots) {} (scanSlot p now)
  sendEofs picks.toSendEof
  finalizePicks p now picks.toClose

/-- `pumpAll`: whether any data was moved. -/
def pumpAll (p : Params) : TunnelM Bool := do
  modifyTransport fun t ↦ { t with lastBytesMoved := 0 }
  pumpSshTransport p
  drainSshToLocal p
  drainLocalToSsh p
  checkCloses p
  let s ← Prog.get
  pure (s.transport.lastBytesMoved > 0)

/-- `consumeCloseEvents` with room for all of them. -/
def consumeCloseEvents : TunnelM (List (ℕ × ChannelCloseReason)) := do
  let s ← Prog.get
  modifyTransport fun t ↦ { t with pendingCloseEvents := [] }
  pure (s.transport.pendingCloseEvents.take maxCloseEvents)

end ReverseTunnel
