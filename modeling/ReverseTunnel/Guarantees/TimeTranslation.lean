import ReverseTunnel.System.Shifted
import ReverseTunnel.System.Trace

/-!
# Time translation

The same operations of the channel manager and of the transport pump are run twice, in the same
environments, with clocks that lie `k` milliseconds apart. **Do the two runs do the same?** They
would if every decision depended on elapsed times only, and all elapsed times are computed modulo
`2 ^ 32`, which a shift leaves alone.

But five timestamps of a slot are also compared with `0`, which stands for "not set", and `millis()`
does show `0` once in every turn of the counter. A reading of `0` that is stored in one of them is
taken for none. The two runs are the same as long as this happens in neither of them.
-/

namespace ReverseTunnel

open Traced Clock32 ChannelSlot

variable {p : Params} {k : ℕ} {w w' : TunnelWorld}

/-- Two runs of the same operations in the same environments, the second clock `k` ahead. The two
worlds that an operation leads to satisfy `ok`. -/
inductive ShiftedRuns (p : Params) (k : ℕ) (ok : TunnelWorld → TunnelWorld → Prop) :
    TunnelWorld → TunnelWorld → Prop where
  /-- Two fresh tunnels. -/
  | init (clock : ℕ) : ShiftedRuns p k ok (initial clock) (initial (clock + k))
  /-- One more operation. -/
  | step {w w' : TunnelWorld} (op : ManagerOp) (e : Env Call Call.Reply)
      (h : ShiftedRuns p k ok w w') (hok : ok ((op.prog p).exec e w) ((op.prog p).exec e w')) :
      ShiftedRuns p k ok ((op.prog p).exec e w) ((op.prog p).exec e w')

/-- The same calls with the same replies, and the same slots with timestamps `k` later. -/
structure SameUpToShift (k : ℕ) (w w' : TunnelWorld) : Prop where
  /-- The calls are the same. -/
  actions : actions w'.trace = actions w.trace
  /-- The slots are the same, but for their timestamps. -/
  slots : ∀ i, Shifted (stamp k) (w.st.channels.slots i) (w'.st.channels.slots i)

/-- The states a run has shown so far. -/
def states (w : TunnelWorld) : List SSHTunnel := w.st :: w.trace.map Item.pre

/-- Some slot has held the reading `c` in a timestamp that is compared with `0`. -/
def Holds (c : UInt32) (w : TunnelWorld) : Prop :=
  ∃ s ∈ states w, ∃ i, c ∈ (s.channels.slots i).guarded

/-- No reading that is stored in such a timestamp is `0` in one of the runs: the first one has held
none that is `0` in the second one, nor the other way round. -/
def NoZeroStored (k : ℕ) (w w' : TunnelWorld) : Prop :=
  stamp k = 0 ∨ ¬Holds (-stamp k) w ∧ ¬Holds (stamp k) w'

theorem NoZeroStored.left (h : NoZeroStored k w w') {s : SSHTunnel} (hs : s ∈ states w) :
    (tunnelGap k).left s :=
  fun i ↦ h.imp_right fun h hc ↦ h.1 ⟨s, hs, i, hc⟩

theorem NoZeroStored.right (h : NoZeroStored k w w') {s : SSHTunnel} (hs : s ∈ states w') :
    (tunnelGap k).right s :=
  fun i ↦ h.imp_right fun h hc ↦ h.2 ⟨s, hs, i, hc⟩

/-- What two runs have in common. -/
structure GoesAlong (k : ℕ) (w w' : TunnelWorld) : Prop where
  /-- The clocks are `k` apart. -/
  clock : w'.clock = w.clock + k
  /-- The numbers of calls made are the same. -/
  serial : w'.serial = w.serial
  /-- The calls are the same. -/
  actions : Traced.actions w'.trace = Traced.actions w.trace
  /-- The slots are synced. -/
  same : SameTunnel k w.st w'.st
  /-- The first one holds no reading that is `0` in the second one. -/
  left : (tunnelGap k).left w.st
  /-- Nor the other way round. -/
  right : (tunnelGap k).right w'.st

/-- Fresh slots hold only zeros, and a zero is no reading here unless the gap is one too. -/
theorem goesAlong_initial (clock : ℕ) : GoesAlong k (initial clock) (initial (clock + k)) where
  clock := rfl
  serial := rfl
  actions := rfl
  same := ⟨fun _ ↦ synced_fresh _, rfl⟩
  left _ := by
    by_cases hk : stamp k = 0
    · exact .inl hk
    · have hneg : -stamp k ≠ 0 := by grind
      refine .inr ?_
      simpa [initial, guarded] using hneg
  right _ := by
    by_cases hk : stamp k = 0
    · exact .inl hk
    · refine .inr ?_
      simpa [initial, guarded] using hk

/-- An operation in which no zero is stored keeps the runs together. -/
theorem GoesAlong.step (h : GoesAlong k w w') (op : ManagerOp) (e : Env Call Call.Reply)
    (hok : NoZeroStored k ((op.prog p).exec e w) ((op.prog p).exec e w')) :
    GoesAlong k ((op.prog p).exec e w) ((op.prog p).exec e w') := by
  obtain ⟨hsame, hclock, hserial, hactions⟩ := (tunnel_managerOp op).exec h.clock h.serial
    ⟨h.same, h.left, h.right⟩ h.actions e
    (fun x hx ↦ hok.left (List.mem_cons_of_mem _ (List.mem_map_of_mem hx)))
    (fun x hx ↦ hok.right (List.mem_cons_of_mem _ (List.mem_map_of_mem hx)))
  exact ⟨hclock, hserial, hactions, hsame, hok.left List.mem_cons_self,
    hok.right List.mem_cons_self⟩

theorem ShiftedRuns.goesAlong (h : ShiftedRuns p k (NoZeroStored k) w w') : GoesAlong k w w' := by
  induction h with
  | init clock => exact goesAlong_initial clock
  | step op e _ hok ih => exact ih.step op e hok

/-! ### The guarantee -/

/-- **Behaviour depends on elapsed times only**, in every pair of runs that store no reading of
exactly `0`, wherever the counter wraps. -/
theorem time_translation (h : ShiftedRuns p k (NoZeroStored k) w w') : SameUpToShift k w w' where
  actions := h.goesAlong.actions
  slots i := (h.goesAlong.same.slots i).toShifted

/-- Every call takes this many milliseconds and is answered quietly. -/
def slowWorld (ms : ℕ) : Env Call Call.Reply := worldWith ms fun _ _ ↦ none

/-- Slot 0 is bound, and looked at 40 seconds later. -/
def idleRun (clock : ℕ) : TunnelWorld :=
  (ManagerOp.allocateSlot.prog (smallTunnel 1)).exec (slowWorld 40000) <|
    ((ManagerOp.bindChannel 0 77 {}).prog (smallTunnel 1)).exec (slowWorld 0) (initial clock)

/-- Two clocks, of which the second one wraps 20 ms before the slot is bound: the slot begins to
close in both runs. -/
theorem time_translation_idleRun :
    SameUpToShift 20 (idleRun 4294967286) (idleRun 4294967306) ∧
      ((idleRun 4294967286).st.channels.slots 0).state = .draining ∧
      ((idleRun 4294967286).st.channels.slots 0).closeStartMs = 79990 ∧
      ((idleRun 4294967306).st.channels.slots 0).closeStartMs = 80010 := by
  have hclear {c : UInt32} {w : TunnelWorld} (h : ∀ i, (states w).all
      fun s ↦ !(s.channels.slots i).guarded.contains c) : ¬Holds c w := by
    rintro ⟨s, hs, i, hc⟩
    have := List.all_eq_true.1 (h i) s hs
    simp [hc] at this
  refine ⟨time_translation (p := smallTunnel 1) (.step .allocateSlot (slowWorld 40000)
    (.step (.bindChannel 0 77 {}) (slowWorld 0) (.init 4294967286) (.inr ⟨?_, ?_⟩))
      (.inr ⟨?_, ?_⟩)), by decide +kernel, by decide +kernel, by decide +kernel⟩
  all_goals
    refine hclear fun i ↦ ?_
    cases i with
    | zero => decide +kernel
    | succ n => rfl

/-- A slot is bound when the counter shows `0`, and looked at 40 seconds later: it is idle for too
long only if the clock is 1 ms ahead. -/
theorem time_translation_fails :
    ¬∀ (p : Params) (k : ℕ) (w w' : TunnelWorld), ShiftedRuns p k (fun _ _ ↦ True) w w' →
      SameUpToShift k w w' := by
  intro hall
  have hrun : ShiftedRuns (smallTunnel 1) 1 (fun _ _ ↦ True) (idleRun 0) (idleRun 1) :=
    .step .allocateSlot (slowWorld 40000)
      (.step (.bindChannel 0 77 {}) (slowWorld 0) (.init 0) trivial) trivial
  have hstate := congrArg ChannelSlot.state ((hall _ _ _ _ hrun).slots 0).rest
  exact absurd hstate (by decide +kernel)

end ReverseTunnel
