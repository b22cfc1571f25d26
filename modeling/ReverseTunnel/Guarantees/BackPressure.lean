import ReverseTunnel.System.Trace

/-!
# Back-pressure never wedges a direction

Wherever the pump has served a slot, a direction is paused over a load only: its ring holds at least the
low mark, so draining it will resume the reading. And no ring outgrows its bounds, in either part.

There is one way to a direction that is paused for good. `bindChannel` does not see that the memory for
a ring was not to be had, since such a ring still reports its capacity. It has no room, so the first
visit pauses the direction, and holds nothing, so the next visit resumes it only to pause it again. The
theorem says that this is the only way: where a slot has been served, the direction is in order
**exactly** if its ring exists or, towards the remote side, nothing would be received anyway.
-/

namespace ReverseTunnel

open Traced

variable {p : Params} {ext : Bool} {g : Ledger} {w : TunnelWorld}

/-! ### Notes are true -/

/-- Nothing but a true note is added to the trace. -/
theorem TunnelStep.notes {x y : TunnelWorld × Ledger} (h : TunnelStep p ext x y) {t : ℕ}
    {s : SSHTunnel} {n : Note} (hn : .mark t s (.note n) ∈ y.1.trace) :
    .mark t s (.note n) ∈ x.1.trace ∨ n.says s := by
  have moved : ∀ {i w w'}, SlotMove i w w' → .mark t s (.note n) ∈ w'.trace →
      .mark t s (.note n) ∈ w.trace ∨ n.says s := by
    intro i w w' hm hn
    obtain ⟨items, htr, hi⟩ := hm.trace
    rw [htr] at hn
    rcases List.mem_append.1 hn with hn | hn
    · have hslot := hi _ hn
      cases hslot
    · exact .inl hn
  have added : ∀ {x : Item SSHTunnel Call Call.Reply Mark} {tr}, x ≠ .mark t s (.note n) →
      .mark t s (.note n) ∈ x :: tr → .mark t s (.note n) ∈ tr ∨ n.says s := by
    intro x tr hne hn
    rcases List.mem_cons.1 hn with hn | hn
    · exact absurd hn.symm hne
    · exact .inl hn
  cases h with
  | calm h =>
    obtain ⟨items, htr, hi⟩ := h.trace
    rw [htr] at hn
    rcases List.mem_append.1 hn with hn | hn
    · exact .inr (hi _ hn)
    · exact .inl hn
  | work hi hdown hm hw hc => exact moved hm hn
  | bind hi hdown hh hm hact hfd ht ht' hv hok hcount harch => exact moved hm hn
  | release hi hdown hm hw hact hh hdone ht ht' ht'' hv hcount harch => exact moved hm hn
  | abandon hi hm hact ht hv hcount harch => exact moved hm hn
  | mark hm =>
    refine added ?_ hn
    rcases hm with ⟨_, _, rfl, -⟩ | ⟨_, rfl⟩ | rfl <;> simp
  | returned ht hdown => exact added (by simp) hn
  | tornDown ht hmid hd => exact added (by simp) hn
  | goDown => exact added (by simp) hn
  | accept ht hdown hst => exact added (by simp) hn
  | close ht hdown hh => exact added (by simp) hn
  | free ht hdown hh => exact added (by simp) hn
  | connect ht hadm => exact added (by simp) hn
  | _ => exact .inl hn

theorem At.says (h : At p ext g w) {t : ℕ} {s : SSHTunnel} {n : Note}
    (hn : .mark t s (.note n) ∈ w.trace) : n.says s := by
  refine h.invariant (I := fun x ↦ .mark t s (.note n) ∈ x.1.trace → n.says s) ?_ ?_ hn
  · intro clock hn
    cases hn
  · intro x y hx hs hn
    exact (hs.notes hn).elim hx id

/-! ### Bounds -/

/-- The rings of a slot are of the configured capacity, and neither part outgrows its bound. -/
def RingsBounded (p : Params) (ch : ChannelSlot) : Prop :=
  ∀ b, ch.toLocal = some b ∨ ch.toRemote = some b →
    b.capacity = p.ringBufferSize ∧ (b.handle.getD []).length ≤ p.ringBufferSize ∧
      b.size ≤ p.ringBufferSize + p.prependCap

theorem Shaped.within {b : DataRingBuffer} (h : Shaped p b) :
    b.capacity = p.ringBufferSize ∧ (b.handle.getD []).length ≤ p.ringBufferSize ∧
      b.size ≤ p.ringBufferSize + p.prependCap := by
  have hring := b.length_handle_le
  rw [h.capacity] at hring
  refine ⟨h.capacity, hring, ?_⟩
  rcases hhandle : b.handle with - | r
  · rw [DataRingBuffer.size_of_handle_none hhandle]
    exact Nat.zero_le _
  · have hfront := h.prependCap (by rw [hhandle]; rfl)
    rw [← h.capacity, ← hfront]
    exact b.size_le

theorem Sound.within {v : View} (h : Sound p v) : RingsBounded p v.ch := by
  rintro b (hb | hb)
  · exact (h.shapedLocal b hb).within
  · exact (h.shapedRemote b hb).within

/-! ### In every run -/

/-- **Back-pressure never wedges a direction**: what each phase leaves of a slot it has served, and the
bounds between operations and at every step boundary. -/
theorem back_pressure (hw : Run p w) :
    (∀ t s i, .mark t s (.note (.pumped i)) ∈ w.trace →
      (s.channels.slots i).inlet.Flows False) ∧
    (∀ t s i, .mark t s (.note (.drained i)) ∈ w.trace →
      (s.channels.slots i).outlet.Flows ((s.channels.slots i).localEof = true)) ∧
    ∀ i, RingsBounded p (w.st.channels.slots i) ∧
      ∀ t s, .mark t s (.slot i .step) ∈ w.trace → RingsBounded p (s.channels.slots i) := by
  obtain ⟨_, ⟨g, hat, -⟩, -⟩ := hw.resting
  refine ⟨fun t s i hn ↦ hat.says hn, fun t s i hn ↦ hat.says hn, fun i ↦ ?_⟩
  have hboth := hat.followed.everywhere (P := fun ch _ ↦ RingsBounded p ch) i
    (fun clock v hv _ ↦ ((sound_fresh clock).reach hv).within) fun _ _ _ h ↦ h
  refine ⟨hboth.1, fun t s hmem ↦ ?_⟩
  obtain ⟨past, newer, htr⟩ := List.append_of_mem hmem
  exact hboth.2 past t s newer htr

/-! ### A ring that was not allocated -/

/-- Everything works but the allocation of rings. -/
def barrenWorld : Env Call Call.Reply := worldWith 1 fun _ c ↦
  match c with
  | .sys (.allocRing _) => some false
  | _ => none

/-- A channel is bound and pumped. -/
def barrenRun : TunnelWorld := afterManagerOps (smallTunnel 1)
  [(.bindChannel 0 77 {}, barrenWorld), (.pumpAll, barrenWorld)]

/-- Phase 1 has served a slot and left it paused over nothing. -/
def wedges : Item SSHTunnel Call Call.Reply Mark → Bool
  | .mark _ s (.note (.pumped i)) =>
    (s.channels.slots i).sshReadPaused && ringSize (s.channels.slots i).toLocal == 0
  | _ => false

/-- The slot is left paused although there is nothing whose draining would resume it. -/
theorem wedges_barrenRun :
    Run (smallTunnel 1) barrenRun ∧ ∃ x ∈ barrenRun.trace, wedges x = true := by
  have hany : barrenRun.trace.any wedges = true := by decide +kernel
  exact ⟨run_after _, List.any_eq_true.1 hany⟩

/-- With its ring, the same slot is in order after both visits. -/
theorem back_pressure_boundRun :
    let w := afterManagerOps (smallTunnel 1)
      [(.bindChannel 0 77 {}, acceptingWorld 0), (.pumpAll, acceptingWorld 0)]
    (∀ t s i, .mark t s (.note (.pumped i)) ∈ w.trace → (s.channels.slots i).inlet.Flows False) ∧
      RingsBounded (smallTunnel 1) (w.st.channels.slots 0) :=
  ⟨(back_pressure (run_after _)).1, ((back_pressure (run_after _)).2.2 0).1⟩

end ReverseTunnel
