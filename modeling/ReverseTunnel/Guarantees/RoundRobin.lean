import Mathlib.Data.List.Nodup
import Mathlib.Data.List.Perm.Subperm
import Mathlib.Data.Nat.ModEq
import ReverseTunnel.System.Trace

/-!
# Every slot once in a round

Phases 1 to 3 of a pump cycle go through `roundRobin`, which adds the offset to the position in
unsigned 32-bit arithmetic and only then takes the remainder. As long as the sum does not wrap this is
a rotation of the slots. When it wraps **inside** a round, the positions behind the wrap start again
at slot `0`, wherever the round stands: unless the number of slots divides `2 ^ 32`, some slot is then
visited twice and another one not at all. The offset is the number of pump cycles so far, so every
value of it comes up.
-/

namespace ReverseTunnel

open Traced TunnelM Clock32

variable {p : Params}

/-! ### The order of a round -/

theorem slotAt_eq (p : Params) (offset : UInt32) (n : ℕ) :
    slotAt p offset n = (offset.toNat + n) % 2 ^ 32 % p.maxSlots := by
  rw [slotAt, UInt32.toNat_add, UInt32.toNat_ofNat', Nat.mod_add_mod, Nat.add_comm]

/-- The positions of a round lead to different slots. -/
def Spreads (p : Params) (offset : UInt32) : Prop :=
  ∀ n < p.maxSlots, ∀ k < p.maxSlots, slotAt p offset n = slotAt p offset k → n = k

/-- No two positions of a round meet if no slot is visited twice. -/
theorem nodup_roundRobin {offset : UInt32} : (roundRobin p offset).Nodup ↔ Spreads p offset := by
  rw [roundRobin, List.nodup_map_iff_inj_on List.nodup_range]
  simp only [List.mem_range, Spreads]

/-- A round visits every slot once if no two of its positions meet. -/
theorem roundRobin_perm (hslots : 1 ≤ p.maxSlots) (offset : UInt32) :
    (roundRobin p offset).Perm (List.range p.maxSlots) ↔ Spreads p offset := by
  have hsub : roundRobin p offset ⊆ List.range p.maxSlots := by
    intro i hi
    obtain ⟨n, -, rfl⟩ := List.mem_map.1 hi
    rw [slotAt_eq, List.mem_range]
    exact Nat.mod_lt _ hslots
  have hlen : (roundRobin p offset).length = (List.range p.maxSlots).length := by simp [roundRobin]
  rw [← nodup_roundRobin]
  constructor
  · intro hperm
    exact hperm.nodup_iff.2 List.nodup_range
  · intro h
    exact (List.subperm_of_subset h hsub).perm_of_length_le hlen.ge

theorem add_mod_inj {m a n k : ℕ} (hn : n < m) (hk : k < m) (h : (a + n) % m = (a + k) % m) :
    n = k := by
  have hmod : n ≡ k [MOD m] := Nat.ModEq.add_left_cancel' a h
  exact hmod.eq_of_lt_of_lt hn hk

/-- A round that wraps inside meets itself. -/
theorem not_spreads_of_wrap {offset : UInt32} (hdvd : ¬p.maxSlots ∣ 2 ^ 32)
    (hwrap : 2 ^ 32 < offset.toNat + p.maxSlots) : ¬Spreads p offset := by
  intro hs
  have hlt := offset.toNat_lt
  -- `k` positions lie before the wrap; `r` is how far slot `0` lies from where they end
  obtain ⟨k, hk⟩ : ∃ k, offset.toNat + k = 2 ^ 32 := ⟨2 ^ 32 - offset.toNat, by omega⟩
  obtain ⟨r, hr⟩ : ∃ r, 2 ^ 32 % p.maxSlots = r := ⟨_, rfl⟩
  have hrpos : 0 < r := by
    rw [Nat.pos_iff_ne_zero, ← hr]
    exact fun h0 ↦ hdvd (Nat.dvd_of_mod_eq_zero h0)
  have hrlt : r < p.maxSlots := by
    rw [← hr]
    exact Nat.mod_lt _ (by omega)
  have hdiv : 2 ^ 32 = p.maxSlots * (2 ^ 32 / p.maxSlots) + r := by
    rw [← hr]
    exact (Nat.div_add_mod ..).symm
  rcases Nat.lt_or_ge k r with hkr | hrk
  · -- the first position and the one `r` later
    have hmeet : slotAt p offset 0 = slotAt p offset r := by
      rw [slotAt_eq, slotAt_eq, Nat.add_zero, Nat.mod_eq_of_lt hlt]
      have hleft : offset.toNat % p.maxSlots = r - k := by
        have : offset.toNat = (r - k) + p.maxSlots * (2 ^ 32 / p.maxSlots) := by omega
        rw [this, Nat.add_mul_mod_self_left, Nat.mod_eq_of_lt (by omega)]
      have hright : (offset.toNat + r) % 2 ^ 32 = r - k := by omega
      rw [hleft, hright, Nat.mod_eq_of_lt (by omega)]
    have := hs 0 (by omega) r hrlt hmeet
    omega
  · -- the position of the wrap and the one `r` before
    have hmeet : slotAt p offset (k - r) = slotAt p offset k := by
      rw [slotAt_eq, slotAt_eq, hk, Nat.mod_self, Nat.zero_mod]
      have hleft : (offset.toNat + (k - r)) % 2 ^ 32 = p.maxSlots * (2 ^ 32 / p.maxSlots) := by
        omega
      rw [hleft, Nat.mul_mod_right]
    have := hs (k - r) (by omega) k (by omega) hmeet
    omega

theorem spreads_iff (offset : UInt32) :
    Spreads p offset ↔ p.maxSlots ∣ 2 ^ 32 ∨ offset.toNat + p.maxSlots ≤ 2 ^ 32 := by
  constructor
  · intro hs
    by_contra hno
    rw [not_or, Nat.not_le] at hno
    exact not_spreads_of_wrap hno.1 hno.2 hs
  · intro hor n hn k hk heq
    rw [slotAt_eq, slotAt_eq] at heq
    rcases hor with hdvd | hle
    · rw [Nat.mod_mod_of_dvd _ hdvd, Nat.mod_mod_of_dvd _ hdvd] at heq
      exact add_mod_inj hn hk heq
    · rw [Nat.mod_eq_of_lt (by omega : offset.toNat + n < 2 ^ 32),
        Nat.mod_eq_of_lt (by omega : offset.toNat + k < 2 ^ 32)] at heq
      exact add_mod_inj hn hk heq

/-! ### The offset counts the cycles -/

/-- The offset has this value. -/
def OffsetIs (offset : UInt32) : Assertion SSHTunnel Call Call.Reply Mark :=
  fun w ↦ w.st.transport.roundRobinOffset = offset

/-- A program that leaves the offset alone. -/
def KeepsOffset {α : Type} (m : TunnelM α) : Prop := ∀ offset, Preserves (OffsetIs offset) m

section KeepsOffset

variable {α β : Type}

theorem KeepsOffset.bind {m : TunnelM α} {f : α → TunnelM β} (hm : KeepsOffset m)
    (hf : ∀ a, KeepsOffset (f a)) : KeepsOffset (m >>= f) :=
  fun offset ↦ (hm offset).bind fun a ↦ hf a offset

theorem keepsOffset_pure (a : α) : KeepsOffset (pure a : TunnelM α) := fun _ ↦ Preserves.ret

theorem keepsOffset_get_bind {f : SSHTunnel → TunnelM β} (hf : ∀ s, KeepsOffset (f s)) :
    KeepsOffset (Prog.get >>= f) :=
  fun offset ↦ Preserves.get_bind fun s ↦ hf s offset

theorem KeepsOffset.ite {b : Prop} [Decidable b] {m m' : TunnelM α} (h : KeepsOffset m)
    (h' : KeepsOffset m') : KeepsOffset (if b then m else m') :=
  fun offset ↦ (h offset).ite (h' offset)

theorem KeepsOffset.when {b : Bool} {m : TunnelM Unit} (h : KeepsOffset m) :
    KeepsOffset (Prog.when b m) :=
  fun offset ↦ (h offset).when

theorem keepsOffset_each {l : List β} {f : β → TunnelM Unit} (h : ∀ b, KeepsOffset (f b)) :
    KeepsOffset (Prog.each l f) :=
  fun offset ↦ Preserves.each fun b _ ↦ h b offset

theorem keepsOffset_fold {l : List β} {a : α} {f : α → β → TunnelM α}
    (h : ∀ a b, KeepsOffset (f a b)) : KeepsOffset (Prog.fold l a f) :=
  fun offset ↦ Preserves.fold fun a b _ ↦ h a b offset

theorem keepsOffset_sys (c : SysCall) : KeepsOffset (sys c) :=
  fun _ _ hw ↦ wp_call fun _ _ _ ↦ hw

theorem keepsOffset_sysId (c : SysCall) : KeepsOffset (sysId c) :=
  fun _ _ hw ↦ wp_callId fun _ _ _ ↦ hw

theorem keepsOffset_millis : KeepsOffset millis :=
  fun _ _ hw ↦ wp_tick_bind fun _ _ ↦ wp_pure hw

theorem keepsOffset_mark (m : Mark) : KeepsOffset (Prog.mark m) :=
  fun _ _ hw ↦ wp_mark hw

theorem keepsOffset_modifyChannels (f : ChannelManager → ChannelManager) :
    KeepsOffset (modifyChannels f) :=
  fun _ _ hw ↦ wp_modify hw

theorem keepsOffset_modifyTransport {f : TransportPump → TransportPump}
    (hf : ∀ t, (f t).roundRobinOffset = t.roundRobinOffset) : KeepsOffset (modifyTransport f) :=
  fun _ w hw ↦ wp_modify ((hf w.st.transport).trans hw)

theorem keepsOffset_getSlot (i : ℕ) : KeepsOffset (getSlot i) :=
  keepsOffset_get_bind fun _ ↦ keepsOffset_pure _

/-- Work on one slot leaves the offset alone. -/
theorem keepsOffset_onSlot (i : ℕ) (m : SlotM α) : KeepsOffset (onSlot i m) :=
  fun _ _ hw ↦ wp_onSlot fun _ ↦ hw

end KeepsOffset

theorem keepsOffset_pumpSshTransport : KeepsOffset (pumpSshTransport p) := by
  refine (keepsOffset_sys _).bind fun locked ↦ KeepsOffset.ite (keepsOffset_pure _) ?_
  refine keepsOffset_get_bind fun s ↦ KeepsOffset.bind ?_ fun any ↦ KeepsOffset.bind ?_ fun _ ↦ ?_
  · refine keepsOffset_fold fun _ _ ↦ KeepsOffset.bind ?_ fun _ ↦ keepsOffset_pure _
    exact (keepsOffset_getSlot _).bind fun _ ↦ (keepsOffset_onSlot _ _).bind fun _ ↦
      (KeepsOffset.when (keepsOffset_mark _)).bind fun _ ↦ keepsOffset_pure _
  · refine KeepsOffset.when (keepsOffset_get_bind fun s ↦ ?_)
    -- the fallback slot, and its channel
    dsimp only
    split
    · exact keepsOffset_pure _
    · split
      · exact keepsOffset_pure _
      · exact keepsOffset_onSlot _ _
  · exact keepsOffset_sys _

theorem keepsOffset_drainSshToLocal : KeepsOffset (drainSshToLocal p) :=
  keepsOffset_get_bind fun _ ↦ keepsOffset_each fun _ ↦ keepsOffset_onSlot _ _

theorem keepsOffset_drainLocalSlot (i : ℕ) : KeepsOffset (drainLocalSlot p i) := by
  refine (keepsOffset_getSlot i).bind fun ch ↦ KeepsOffset.ite (keepsOffset_pure _) ?_
  refine KeepsOffset.ite (keepsOffset_pure _) (KeepsOffset.bind ?_ fun _ ↦ ?_)
  · refine KeepsOffset.when ((keepsOffset_sys _).bind fun _ ↦ KeepsOffset.ite ?_ (keepsOffset_pure _))
    exact (keepsOffset_onSlot _ _).bind fun _ ↦ (keepsOffset_sys _).bind fun _ ↦
      keepsOffset_onSlot _ _
  · exact (keepsOffset_onSlot _ _).bind fun _ ↦ (keepsOffset_onSlot _ _).bind fun _ ↦
      keepsOffset_mark _

theorem keepsOffset_abandonSlot (i : Int) (reason : ChannelCloseReason) :
    KeepsOffset (abandonSlot p i reason) := by
  refine KeepsOffset.ite (keepsOffset_pure _) ((keepsOffset_getSlot _).bind fun _ ↦ ?_)
  refine KeepsOffset.ite (keepsOffset_pure _) ((keepsOffset_onSlot _ _).bind fun _ ↦ ?_)
  exact (keepsOffset_modifyChannels _).bind fun _ ↦ (keepsOffset_modifyChannels _).bind fun _ ↦
    keepsOffset_onSlot _ _

theorem keepsOffset_finalizeClose (i : Int) : KeepsOffset (finalizeClose p i) := by
  refine KeepsOffset.ite (keepsOffset_pure _) ((keepsOffset_getSlot _).bind fun _ ↦ ?_)
  refine KeepsOffset.ite (keepsOffset_pure _) ((keepsOffset_onSlot _ _).bind fun _ ↦ ?_)
  refine KeepsOffset.ite (keepsOffset_pure _) ((keepsOffset_onSlot _ _).bind fun _ ↦ ?_)
  exact (keepsOffset_modifyChannels _).bind fun _ ↦ (keepsOffset_onSlot _ _).bind fun _ ↦
    (keepsOffset_modifyChannels _).bind fun _ ↦ keepsOffset_pure _

theorem keepsOffset_pushCloseEvent (i : ℕ) (reason : ChannelCloseReason) :
    KeepsOffset (pushCloseEvent i reason) :=
  keepsOffset_modifyTransport fun t ↦ by split <;> rfl

theorem keepsOffset_checkCloses : KeepsOffset (checkCloses p) := by
  refine keepsOffset_millis.bind fun now ↦ KeepsOffset.bind ?_ fun _ ↦ ?_
  · exact keepsOffset_each fun i ↦ keepsOffset_onSlot i _
  refine keepsOffset_millis.bind fun now ↦ KeepsOffset.bind ?_ fun picks ↦ KeepsOffset.bind ?_ fun _ ↦ ?_
  · refine keepsOffset_fold fun picks i ↦ (keepsOffset_getSlot i).bind fun ch ↦
      KeepsOffset.ite (keepsOffset_pure _) ?_
    split
    · exact (keepsOffset_abandonSlot _ _).bind fun _ ↦
        (keepsOffset_modifyTransport fun _ ↦ by rfl).bind fun _ ↦
        (keepsOffset_pushCloseEvent _ _).bind fun _ ↦ keepsOffset_pure _
    · exact keepsOffset_pure _
    · exact keepsOffset_pure _
    · exact keepsOffset_pure _
  · refine KeepsOffset.ite ((keepsOffset_sys _).bind fun _ ↦ KeepsOffset.ite ?_ (keepsOffset_pure _))
      (keepsOffset_pure _)
    exact (keepsOffset_each fun i ↦ keepsOffset_onSlot i _).bind fun _ ↦ keepsOffset_sys _
  · refine KeepsOffset.ite ((keepsOffset_sys _).bind fun _ ↦ KeepsOffset.ite ?_ (keepsOffset_pure _))
      (keepsOffset_pure _)
    refine KeepsOffset.bind (keepsOffset_each fun i ↦ (keepsOffset_getSlot i).bind fun ch ↦ ?_)
      fun _ ↦ keepsOffset_sys _
    exact (keepsOffset_onSlot _ _).bind fun _ ↦ (keepsOffset_finalizeClose _).bind fun _ ↦
      KeepsOffset.when (keepsOffset_pushCloseEvent _ _)

/-- A pump cycle counts the offset up, if there are slots. -/
theorem triple_pumpAll (hslots : 1 ≤ p.maxSlots) (offset : UInt32) :
    Triple (OffsetIs offset) (pumpAll p) fun _ ↦ OffsetIs (offset + 1) := by
  refine Triple.bind ((keepsOffset_modifyTransport fun _ ↦ by rfl) offset) fun _ ↦ ?_
  refine Triple.bind (keepsOffset_pumpSshTransport offset) fun _ ↦ ?_
  refine Triple.bind (keepsOffset_drainSshToLocal offset) fun _ ↦ ?_
  refine Triple.bind (S := fun _ ↦ OffsetIs (offset + 1)) ?_ fun _ ↦ ?_
  · intro w hw
    rw [drainLocalToSsh, if_neg (by omega), wp_get_bind]
    refine wp_bind (wp_mono (keepsOffset_each keepsOffset_drainLocalSlot offset w hw) fun _ w' hw' ↦ ?_)
    exact wp_modify (congrArg (· + 1) hw')
  · refine Triple.bind (keepsOffset_checkCloses (offset + 1)) fun _ ↦ ?_
    exact keepsOffset_get_bind (fun _ ↦ keepsOffset_pure _) (offset + 1)

theorem keepsOffset_allocateSlot : KeepsOffset (allocateSlot p) := by
  refine keepsOffset_millis.bind fun now ↦ keepsOffset_get_bind fun s ↦ ?_
  split
  · exact keepsOffset_pure _
  · dsimp only
    split
    · exact (keepsOffset_onSlot _ _).bind fun _ ↦ keepsOffset_pure _
    · exact keepsOffset_pure _

theorem keepsOffset_connectToLocalEndpoint (mapping : TunnelConfig) :
    KeepsOffset (connectToLocalEndpoint mapping) := by
  have hgiveUp : ∀ fd : Int, KeepsOffset (do
      let _ ← sys (.localClose fd)
      pure (-1 : Int)) := fun fd ↦ (keepsOffset_sys _).bind fun _ ↦ keepsOffset_pure _
  refine (keepsOffset_sysId _).bind fun res ↦ KeepsOffset.ite (keepsOffset_pure _) ?_
  refine (keepsOffset_sys _).bind fun _ ↦ KeepsOffset.ite (hgiveUp _) ?_
  refine (keepsOffset_sys _).bind fun _ ↦ KeepsOffset.ite (hgiveUp _) ?_
  refine (keepsOffset_sys _).bind fun _ ↦ KeepsOffset.ite (hgiveUp _) ?_
  refine (keepsOffset_sys _).bind fun _ ↦ ?_
  split
  · exact keepsOffset_pure _
  · exact hgiveUp _
  · refine (keepsOffset_sys _).bind fun _ ↦ KeepsOffset.ite (hgiveUp _) ?_
    exact (keepsOffset_sys _).bind fun _ ↦ KeepsOffset.ite (hgiveUp _) (keepsOffset_pure _)

theorem keepsOffset_bindChannel (i : Int) (h : Handle) (mapping : TunnelConfig) :
    KeepsOffset (bindChannel p i h mapping) := by
  refine KeepsOffset.ite (keepsOffset_pure _) ((keepsOffset_getSlot _).bind fun _ ↦ ?_)
  refine KeepsOffset.ite (keepsOffset_pure _)
    ((keepsOffset_connectToLocalEndpoint mapping).bind fun fd ↦ KeepsOffset.ite ?_ ?_)
  · exact keepsOffset_millis.bind fun _ ↦ (keepsOffset_modifyChannels _).bind fun _ ↦
      keepsOffset_pure _
  · have hgiveUp : KeepsOffset (do
        let _ ← sys (.localClose fd)
        pure false) := (keepsOffset_sys _).bind fun _ ↦ keepsOffset_pure _
    refine (keepsOffset_modifyChannels _).bind fun _ ↦ (keepsOffset_sys _).bind fun _ ↦
      KeepsOffset.ite hgiveUp ?_
    refine (keepsOffset_sys _).bind fun _ ↦ (keepsOffset_sys _).bind fun _ ↦
      KeepsOffset.ite hgiveUp ?_
    exact (keepsOffset_onSlot _ _).bind fun _ ↦ (keepsOffset_modifyChannels _).bind fun _ ↦
      keepsOffset_pure _

/-- Every operation but a pump cycle leaves the offset alone. -/
theorem keepsOffset_prog {op : ManagerOp} (hop : op ≠ .pumpAll) : KeepsOffset (op.prog p) := by
  cases op with
  | allocateSlot => exact keepsOffset_allocateSlot.bind fun _ ↦ keepsOffset_pure _
  | bindChannel i h mapping => exact (keepsOffset_bindChannel i h mapping).bind fun _ ↦ keepsOffset_pure _
  | beginClose i reason => exact KeepsOffset.ite (keepsOffset_pure _) (keepsOffset_onSlot _ _)
  | finalizeClose i => exact (keepsOffset_finalizeClose i).bind fun _ ↦ keepsOffset_pure _
  | abandonSlot i reason => exact keepsOffset_abandonSlot i reason
  | pumpAll => exact absurd rfl hop

/-- The worlds after a number of pump cycles, with other operations in between. -/
inductive CycleRun (p : Params) : ℕ → TunnelWorld → Prop where
  /-- A fresh tunnel. -/
  | init (clock : ℕ) : CycleRun p 0 (initial clock)
  /-- One more cycle. -/
  | cycle {cycles : ℕ} {w : TunnelWorld} (e : Env Call Call.Reply) (hw : CycleRun p cycles w) :
    CycleRun p (cycles + 1) ((ManagerOp.pumpAll.prog p).exec e w)
  /-- Another operation. -/
  | other {cycles : ℕ} {w : TunnelWorld} (op : ManagerOp) (hop : op ≠ .pumpAll)
    (e : Env Call Call.Reply) (hw : CycleRun p cycles w) : CycleRun p cycles ((op.prog p).exec e w)

/-- The offset is the number of cycles so far. -/
theorem CycleRun.offset {cycles : ℕ} {w : TunnelWorld} (hslots : 1 ≤ p.maxSlots)
    (h : CycleRun p cycles w) : OffsetIs (stamp cycles) w := by
  induction h with
  | init clock => rfl
  | @cycle n w e hw ih =>
    rw [stamp_add]
    have hcycle := (triple_pumpAll hslots (stamp n)).bind fun _ ↦ keepsOffset_pure () (stamp n + 1)
    exact hcycle w ih e
  | other op hop e hw ih => exact keepsOffset_prog hop _ _ ih e

/-! ### The guarantee -/

/-- **A round visits every slot exactly once** after some number of pump cycles, if and only if the
number of slots divides `2 ^ 32` or the counter does not wrap inside the round. -/
theorem roundRobin_covers_iff {cycles : ℕ} {w : TunnelWorld} (hslots : 1 ≤ p.maxSlots)
    (hw : CycleRun p cycles w) :
    (roundRobin p w.st.transport.roundRobinOffset).Perm (List.range p.maxSlots) ↔
      p.maxSlots ∣ 2 ^ 32 ∨ cycles % 2 ^ 32 + p.maxSlots ≤ 2 ^ 32 := by
  have hoff : w.st.transport.roundRobinOffset = stamp cycles := hw.offset hslots
  rw [roundRobin_perm hslots, spreads_iff, hoff, stamp, UInt32.toNat_ofNat']

/-- Any number of cycles can be made. -/
theorem exists_cycleRun (p : Params) (e : Env Call Call.Reply) (cycles : ℕ) :
    ∃ w, CycleRun p cycles w := by
  induction cycles with
  | zero => exact ⟨_, .init 0⟩
  | succ n ih =>
    obtain ⟨w, hw⟩ := ih
    exact ⟨_, hw.cycle e⟩

/-- Three slots, after one cycle. -/
theorem roundRobin_covers_oneCycle :
    ∃ w, CycleRun (smallTunnel 3) 1 w ∧
      (roundRobin (smallTunnel 3) w.st.transport.roundRobinOffset).Perm (List.range 3) := by
  obtain ⟨w, hw⟩ := exists_cycleRun (smallTunnel 3) (acceptingWorld 0) 1
  exact ⟨w, hw, (roundRobin_covers_iff (by decide) hw).2 (by decide)⟩

/-- Three slots, after `2 ^ 32 - 1` cycles: the round is `0, 0, 1`. -/
theorem roundRobin_misses :
    ¬∀ (p : Params) (cycles : ℕ) (w : TunnelWorld), 1 ≤ p.maxSlots → CycleRun p cycles w →
      (roundRobin p w.st.transport.roundRobinOffset).Perm (List.range p.maxSlots) := by
  intro hall
  obtain ⟨w, hw⟩ := exists_cycleRun (smallTunnel 3) (acceptingWorld 0) (2 ^ 32 - 1)
  have hperm := hall (smallTunnel 3) _ w (by decide) hw
  have hoff : w.st.transport.roundRobinOffset = stamp (2 ^ 32 - 1) := hw.offset (by decide)
  rw [hoff] at hperm
  revert hperm
  decide

end ReverseTunnel
