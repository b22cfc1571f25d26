import Mathlib.Algebra.Group.Nat.Defs
import Mathlib.Data.Nat.Notation
import Mathlib.Logic.Function.Basic

/-!
# The per-mapping circuit breaker

`CircuitBreaker` counts consecutive failures to reach the local endpoint of a mapping, keyed by the
mapping's remote port, and answers whether the mapping is in back-off. The table has a fixed number
of entries; port `0` marks an unused one.
-/

namespace ReverseTunnel

/-- `MappingHealth` -/
structure MappingHealth where
  /-- `remoteBindPort`; `0` for an unused entry -/
  remoteBindPort : Int := 0
  /-- `consecutiveFails` -/
  consecutiveFails : ℕ := 0
  /-- `backoffUntilMs` -/
  backoffUntilMs : UInt32 := 0
  deriving DecidableEq

/-- `CircuitBreaker` -/
structure CircuitBreaker where
  /-- `health_` -/
  health : ℕ → MappingHealth := fun _ ↦ {}
  /-- `totalTrips_` -/
  totalTrips : ℕ := 0

namespace CircuitBreaker

/-- `MAX_MAPPING_HEALTH` -/
def maxMappingHealth : ℕ := 8

/-- `FAIL_THRESHOLD` -/
def failThreshold : ℕ := 3

/-- `BACKOFF_BASE_MS` -/
def backoffBaseMs : UInt32 := 1000

/-- `BACKOFF_CAP_MS` -/
def backoffCapMs : UInt32 := 60000

/-- `(long)x < 0` for a 32-bit `long` -/
def negative (x : UInt32) : Bool := x ≥ 0x80000000

variable (b : CircuitBreaker)

/-- The first entry with this port. -/
def indexOf (port : Int) : Option ℕ :=
  (List.range maxMappingHealth).find? fun i ↦ (b.health i).remoteBindPort = port

/-- `find` -/
def find (port : Int) : Option MappingHealth :=
  if port = 0 then none else (b.indexOf port).map b.health

/-- `peek` -/
def peek (port : Int) : Option MappingHealth := b.find port

/-- `findOrAlloc`: the index of the entry and the table, in which it may be new. -/
def findOrAlloc (port : Int) : Option (ℕ × CircuitBreaker) :=
  match b.indexOf port with
  | some i => some (i, b)
  | none =>
    match b.indexOf 0 with
    | some i => some (i, { b with health := Function.update b.health i { remoteBindPort := port } })
    | none => none

/-- `isBackedOff` -/
def isBackedOff (port : Int) (now : UInt32) : Bool :=
  match b.find port with
  | none => false
  | some h => h.backoffUntilMs != 0 && negative (now - h.backoffUntilMs)

/-- The back-off after this many consecutive failures. -/
def delayFor (consecutiveFails : ℕ) : UInt32 :=
  let exp := min (consecutiveFails - failThreshold) 16
  let delay := backoffBaseMs <<< UInt32.ofNat exp
  if delay > backoffCapMs then backoffCapMs else delay

/-- `recordFailure`: whether the back-off was newly engaged, and the table. -/
def recordFailure (port : Int) (now : UInt32) : Bool × CircuitBreaker :=
  if port = 0 then (false, b)
  else
    match b.findOrAlloc port with
    | none => (false, b)
    | some (i, b') =>
      let h := b'.health i
      let wasOpen := h.backoffUntilMs != 0 && negative (now - h.backoffUntilMs)
      let fails := if h.consecutiveFails < 100 then h.consecutiveFails + 1 else h.consecutiveFails
      if fails ≥ failThreshold then
        let h' := { h with consecutiveFails := fails, backoffUntilMs := now + delayFor fails }
        let b'' := { b' with health := Function.update b'.health i h' }
        if wasOpen then (false, b'') else (true, { b'' with totalTrips := b''.totalTrips + 1 })
      else
        (false,
          { b' with health := Function.update b'.health i { h with consecutiveFails := fails } })

/-- `recordSuccess` -/
def recordSuccess (port : Int) : CircuitBreaker :=
  if port = 0 then b
  else
    match b.findOrAlloc port with
    | none => b
    | some (i, b') =>
      { b' with
        health := Function.update b'.health i
          { b'.health i with consecutiveFails := 0, backoffUntilMs := 0 } }

end CircuitBreaker

end ReverseTunnel
