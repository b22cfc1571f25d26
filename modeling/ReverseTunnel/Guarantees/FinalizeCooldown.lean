import ReverseTunnel.System.Trace
import ReverseTunnel.Tunnel.Keeps

/-!
# The finalize cooldown

A slot that `finalizeClose` has freed is not handed out for a while: `allocateSlot` compares the clock
with the stamp `finalizeClose` left. The stamp is the only field of a slot that has to survive whatever
happens to the slot afterwards, and it does: in every run it is the time of the **last** completed
`finalizeClose` of the slot.

It follows that a slot bound through an index from `allocateSlot` has cooled down, unless the last stamp
reads zero, which stands for "never finalized". Such a stamp can hide an earlier one only if the slot was
bound in between by somebody who had not asked `allocateSlot`.
-/

namespace ReverseTunnel

open Traced Clock32 TunnelM

variable {p : Params} {w : TunnelWorld} {i j : ℕ} {v : UInt32}

/-! ### Runs of the channel manager -/

/-- A run of the operations of the channel manager, one after the other from a fresh start, with the
environment each of them meets. -/
structure ManagerHistory (p : Params) where
  /-- The operations. -/
  op : ℕ → ManagerOp
  /-- A pump cycle is none of them. -/
  op_ne : ∀ k, op k ≠ .pumpAll
  /-- The environments. -/
  env : ℕ → Env Call Call.Reply
  /-- The time of the start. -/
  clock : ℕ

namespace ManagerHistory

variable (r : ManagerHistory p)

/-- The world in which operation `k` begins. -/
def world : ℕ → TunnelWorld
  | 0 => initial r.clock
  | k + 1 => ((r.op k).prog p).exec (r.env k) (world k)

/-- The time at which operation `k` begins; the operation before it has ended. -/
def time (k : ℕ) : ℕ := (r.world k).clock

/-- Slot `i` when operation `k` begins. -/
def slot (k i : ℕ) : ChannelSlot := (r.world k).st.channels.slots i

/-- Operation `k` is `finalizeClose(i)` on a slot in use, and it completes. -/
def Finalizes (i k : ℕ) : Prop :=
  r.op k = .finalizeClose i ∧ i < p.maxSlots ∧ (r.slot k i).active = true ∧
    ((finalizeClose p i).run (r.env k) (r.world k)).1 = true

/-- Operation `k` is `allocateSlot`, and this is what it returns. -/
def Allocates (k : ℕ) (slot : Option ℕ) : Prop :=
  r.op k = .allocateSlot ∧ ((allocateSlot p).run (r.env k) (r.world k)).1 = slot

/-- Operation `k` binds a channel to slot `i`. -/
def Binds (i k : ℕ) : Prop :=
  ∃ h mapping, r.op k = .bindChannel i h mapping ∧
    ((bindChannel p i h mapping).run (r.env k) (r.world k)).1 = true

/-- Operation `k` binds a channel to slot `i` through an index that `allocateSlot` has returned and
to which nothing was bound since. -/
def BindsAllocated (i k : ℕ) : Prop :=
  r.Binds i k ∧ ∃ a < k, r.Allocates a (some i) ∧ ∀ l, a < l → l < k → ¬r.Binds i l

/-- At time `t`, in operation `k`, slot `i` is in its cooldown: by the clock, less than
`FINALIZE_COOLDOWN_MS` ago it was finalized last, at a reading other than zero. -/
def CoolingDown (i k t : ℕ) : Prop :=
  ∃ f < k, r.Finalizes i f ∧ (∀ l, f < l → l < k → ¬r.Finalizes i l) ∧
    stamp (r.time (f + 1)) ≠ 0 ∧ (t - r.time (f + 1)) % 2 ^ 32 < finalizeCooldownMs.toNat

end ManagerHistory

/-! ### The stamp is kept -/

/-- The slot was finalized at `v`. -/
def SlotStamp (v : UInt32) (l : SlotWorld) : Prop := l.st.ch.lastFinalizeMs = v

theorem slotStamp_io (c : IoCall) : Preserves (SlotStamp v) (SlotM.io c) :=
  fun _ h ↦ wp_call fun _ _ _ ↦ h

theorem slotStamp_mark (m : SlotMark) : Preserves (SlotStamp v) (Prog.mark m) :=
  fun _ h ↦ wp_mark h

theorem slotStamp_millis : Preserves (SlotStamp v) SlotM.millis :=
  fun _ h ↦ wp_tick_bind fun _ _ ↦ wp_pure h

theorem slotStamp_slot : Preserves (SlotStamp v) SlotM.slot := Preserves.get_bind fun _ ↦ .ret

theorem slotStamp_modifySlot {f : ChannelSlot → ChannelSlot}
    (hf : ∀ ch, (f ch).lastFinalizeMs = ch.lastFinalizeMs) :
    Preserves (SlotStamp v) (SlotM.modifySlot f) := by
  intro l h
  exact wp_modify ((hf l.st.ch).trans h)

theorem slotStamp_beginClose (reason : ChannelCloseReason) :
    Preserves (SlotStamp v) (beginClose reason) := by
  refine slotStamp_slot.bind fun _ ↦ Preserves.ite .ret ((slotStamp_mark _).bind fun _ ↦ ?_)
  exact slotStamp_millis.bind fun _ ↦ (slotStamp_modifySlot fun _ ↦ by rfl).bind fun _ ↦
    slotStamp_mark _

theorem slotStamp_closeStage (h : Handle) : Preserves (SlotStamp v) (closeStage h) := by
  refine slotStamp_slot.bind fun _ ↦ Preserves.ite .ret ((slotStamp_io _).bind fun _ ↦ ?_)
  exact (slotStamp_modifySlot fun _ ↦ by rfl).bind fun _ ↦ .ret

theorem slotStamp_freeStage (h : Handle) : Preserves (SlotStamp v) (freeStage h) := by
  refine slotStamp_slot.bind fun _ ↦ Preserves.ite ((slotStamp_io _).bind fun _ ↦ ?_) .ret
  exact (slotStamp_modifySlot fun _ ↦ by rfl).bind fun _ ↦ .ret

theorem slotStamp_releaseChannel : Preserves (SlotStamp v) releaseChannel := by
  refine slotStamp_slot.bind fun ch ↦ ?_
  split
  · exact .ret
  · refine (slotStamp_closeStage _).bind fun _ ↦ Preserves.ite .ret ?_
    refine (slotStamp_freeStage _).bind fun _ ↦ Preserves.ite .ret (slotStamp_slot.bind fun _ ↦ ?_)
    exact Preserves.ite .ret ((slotStamp_modifySlot fun _ ↦ by rfl).bind fun _ ↦ .ret)

theorem slotStamp_closeLocalSocket : Preserves (SlotStamp v) closeLocalSocket := by
  refine slotStamp_slot.bind fun _ ↦ Preserves.ite ((slotStamp_io _).bind fun _ ↦ ?_) .ret
  exact slotStamp_modifySlot fun _ ↦ by rfl

theorem slotStamp_discardLocal : Preserves (SlotStamp v) discardLocal :=
  slotStamp_closeLocalSocket.bind fun _ ↦ (slotStamp_modifySlot fun _ ↦ by rfl).bind fun _ ↦
    (slotStamp_modifySlot fun _ ↦ by rfl).bind fun _ ↦ slotStamp_mark _

theorem slotStamp_dropLocal : Preserves (SlotStamp v) dropLocal :=
  (slotStamp_modifySlot fun _ ↦ by rfl).bind fun _ ↦ slotStamp_closeLocalSocket.bind fun _ ↦
    (slotStamp_modifySlot fun _ ↦ by rfl).bind fun _ ↦
    (slotStamp_modifySlot fun _ ↦ by rfl).bind fun _ ↦ slotStamp_mark _

/-- Binding keeps the stamp: `resetSlot` clears every other field. -/
theorem slotStamp_bindSlot (h : Handle) (fd : Int) (toLocal toRemote : DataRingBuffer) :
    Preserves (SlotStamp v) (bindSlot h fd toLocal toRemote) :=
  (slotStamp_modifySlot fun _ ↦ by rfl).bind fun _ ↦ slotStamp_millis.bind fun _ ↦
    (slotStamp_modifySlot fun _ ↦ by rfl).bind fun _ ↦ (slotStamp_mark _).bind fun _ ↦
    (slotStamp_io _).bind fun _ ↦ .ret

/-! ### What shows in a slot -/

/-- This is what `get` shows of slot `i`. -/
def SlotShows {β : Type} (i : ℕ) (get : ChannelSlot → β) (b : β) (w : TunnelWorld) : Prop :=
  get (w.st.channels.slots i) = b

section Shows

variable {β : Type} {get : ChannelSlot → β} {b : β}

theorem shows_sysId (c : SysCall) : Preserves (SlotShows i get b) (sysId c) :=
  fun _ h ↦ wp_callId fun _ _ _ ↦ h

theorem shows_sys (c : SysCall) : Preserves (SlotShows i get b) (sys c) :=
  (shows_sysId c).bind fun _ ↦ .ret

theorem shows_millis : Preserves (SlotShows i get b) millis :=
  fun _ h ↦ wp_tick_bind fun _ _ ↦ wp_pure h

theorem shows_getSlot (j : ℕ) : Preserves (SlotShows i get b) (getSlot j) :=
  Preserves.get_bind fun _ ↦ .ret

theorem shows_modifyChannels {f : ChannelManager → ChannelManager}
    (hf : ∀ c, (f c).slots = c.slots) : Preserves (SlotShows i get b) (modifyChannels f) := by
  intro w h
  refine wp_modify ?_
  show get ((f w.st.channels).slots i) = b
  rw [hf]
  exact h

/-- Other slots are not reached. -/
theorem shows_onSlot_ne {α : Type} {m : SlotM α} (h : i ≠ j) :
    Preserves (SlotShows i get b) (onSlot j m) := by
  intro w hw
  refine wp_onSlot fun e ↦ ?_
  show get ((w.st.setCtx j _).channels.slots i) = b
  rw [setCtx_slots_ne _ _ h]
  exact hw

end Shows

/-! ### The stamp of a slot stays -/

/-- Slot `i` was finalized at `v`. -/
abbrev StampAt (i : ℕ) (v : UInt32) : Assertion SSHTunnel Call Call.Reply Mark :=
  SlotShows i (·.lastFinalizeMs) v

theorem stampAt_onSlot {α : Type} {m : SlotM α} (hm : ∀ u, Preserves (SlotStamp u) m) (j : ℕ) :
    Preserves (StampAt i v) (onSlot j m) := by
  intro w hw
  by_cases hij : i = j
  · subst hij
    refine wp_onSlot (wp_mono (hm v (slotWorld i w) hw) fun _ l hl ↦ ?_)
    show ((w.st.setCtx i l.st).channels.slots i).lastFinalizeMs = v
    rw [setCtx_slots_same]
    exact hl
  · exact shows_onSlot_ne hij w hw

theorem stampAt_allocateSlot : Preserves (StampAt i v) (allocateSlot p) := by
  refine shows_millis.bind fun now ↦ Preserves.get_bind fun s ↦ ?_
  split
  · exact .ret
  · dsimp only
    split
    · exact (stampAt_onSlot (fun _ ↦ slotStamp_beginClose _) _).bind fun _ ↦ .ret
    · exact .ret

theorem stampAt_bindChannel (slotIndex : Int) (h : Handle) (mapping : TunnelConfig) :
    Preserves (StampAt i v) (bindChannel p slotIndex h mapping) := by
  have hgiveUp : ∀ fd, Preserves (StampAt i v) (do
      let _ ← TunnelM.sys (.localClose fd)
      pure false) := fun _ ↦ (shows_sys _).bind fun _ ↦ .ret
  refine Preserves.ite .ret ((shows_getSlot _).bind fun _ ↦ Preserves.ite .ret ?_)
  refine (preserves_connectToLocalEndpoint shows_sysId mapping).bind fun fd ↦
    Preserves.ite ?_ ?_
  · exact shows_millis.bind fun _ ↦ (shows_modifyChannels fun _ ↦ by rfl).bind fun _ ↦ .ret
  · refine (shows_modifyChannels fun _ ↦ by rfl).bind fun _ ↦ (shows_sys _).bind fun _ ↦
      Preserves.ite (hgiveUp _) ?_
    refine (shows_sys _).bind fun _ ↦ (shows_sys _).bind fun _ ↦
      Preserves.ite (hgiveUp _) ?_
    exact (stampAt_onSlot (fun _ ↦ slotStamp_bindSlot _ _ _ _) _).bind fun _ ↦
      (shows_modifyChannels fun _ ↦ by rfl).bind fun _ ↦ .ret

theorem stampAt_beginCloseAt (slotIndex : Int) (reason : ChannelCloseReason) :
    Preserves (StampAt i v) (beginCloseAt p slotIndex reason) :=
  Preserves.ite .ret (stampAt_onSlot (fun _ ↦ slotStamp_beginClose _) _)

/-- Abandoning keeps the stamp, as binding does. -/
theorem stampAt_abandonSlot (slotIndex : Int) (reason : ChannelCloseReason) :
    Preserves (StampAt i v) (abandonSlot p slotIndex reason) := by
  refine Preserves.ite .ret ((shows_getSlot _).bind fun _ ↦ Preserves.ite .ret ?_)
  refine (stampAt_onSlot (fun _ ↦ slotStamp_dropLocal) _).bind fun _ ↦
    (shows_modifyChannels fun _ ↦ by rfl).bind fun _ ↦
    (shows_modifyChannels fun _ ↦ by rfl).bind fun _ ↦ ?_
  exact stampAt_onSlot (fun _ ↦ slotStamp_modifySlot fun _ ↦ by rfl) _

/-- `finalizeClose` leaves the time in the slot it completes, which it gives up, and nowhere else. -/
theorem wp_finalizeClose_stamp (slotIndex : Int) (w : TunnelWorld) (i : ℕ) :
    wp (finalizeClose p slotIndex) (fun done w' ↦
      if slotIndex = i ∧ i < p.maxSlots ∧ (w.st.channels.slots i).active = true ∧ done = true
      then StampAt i (stamp w'.clock) w' ∧ (w'.st.channels.slots i).active = false
      else StampAt i (w.st.channels.slots i).lastFinalizeMs w') w := by
  rw [finalizeClose]
  refine wp_ite (fun hrange ↦ wp_pure ?_) fun hrange ↦ ?_
  · rw [if_neg]
    · rfl
    · rintro ⟨rfl, hi, -⟩
      simp only [Bool.or_eq_true, decide_eq_true_eq] at hrange
      omega
  have hindex : ((slotIndex.toNat : ℕ) : Int) = slotIndex := by
    simp only [Bool.or_eq_true, decide_eq_true_eq, not_or] at hrange
    omega
  have hmax := toNat_lt_of_inRange hrange
  rw [wp_getSlot_bind]
  refine wp_ite (fun hact ↦ wp_pure ?_) fun hact ↦ ?_
  · rw [if_neg]
    · rfl
    · rintro ⟨rfl, -, hact', -⟩
      rw [Int.toNat_natCast, hact'] at hact
      cases hact
  rw [Bool.not_eq_true', Bool.not_eq_false] at hact
  refine wp_bind (wp_mono (stampAt_onSlot (i := i) (fun _ ↦ slotStamp_releaseChannel) _ w rfl) ?_)
  intro freed w₁ h₁
  refine wp_ite (fun _ ↦ wp_pure ?_) fun _ ↦ ?_
  · rw [if_neg (by simp)]
    exact h₁
  refine wp_bind (wp_mono (stampAt_onSlot (fun _ ↦ slotStamp_discardLocal) _ w₁ h₁) fun _ w₂ h₂ ↦ ?_)
  refine wp_bind (wp_mono (shows_modifyChannels (fun _ ↦ by rfl) w₂ h₂) fun _ w₃ h₃ ↦ ?_)
  by_cases hi : i = slotIndex.toNat
  · -- the slot that is being finalized
    subst hi
    refine wp_bind (wp_onSlot ?_)
    rw [closeSlot, wp_modifySlot_bind]
    refine wp_millis_bind fun t _ ↦ wp_modify ?_
    rw [modifyChannels, wp_modify_bind]
    refine wp_pure ?_
    rw [if_pos ⟨hindex.symm, hmax, hact, rfl⟩]
    constructor
    · show ((w₃.st.setCtx slotIndex.toNat _).channels.slots slotIndex.toNat).lastFinalizeMs = stamp t
      rw [setCtx_slots_same]
      rfl
    · show ((w₃.st.setCtx slotIndex.toNat _).channels.slots slotIndex.toNat).active = false
      rw [setCtx_slots_same]
      rfl
  · refine wp_bind (wp_mono (shows_onSlot_ne hi w₃ h₃) fun _ w₄ h₄ ↦ ?_)
    refine wp_bind (wp_mono (shows_modifyChannels (fun _ ↦ by rfl) w₄ h₄) fun _ w₅ h₅ ↦ wp_pure ?_)
    rw [if_neg]
    · exact h₅
    · rintro ⟨rfl, -⟩
      exact hi (Int.toNat_natCast i).symm

/-! ### A slot that is not in use stays as it is, until it is bound -/

section Idle

variable {ch : ChannelSlot} (hidle : ch.active = false)

include hidle

theorem idle_beginClose (reason : ChannelCloseReason) (j : ℕ) :
    Preserves (SlotShows i id ch) (onSlot j (beginClose reason)) := by
  by_cases hij : i = j
  · subst hij
    intro w hw
    refine wp_onSlot ?_
    rw [beginClose, wp_slot_bind]
    refine wp_ite (fun _ ↦ wp_pure ?_) fun hopen ↦ absurd ?_ hopen
    · show (w.st.setCtx i (w.st.ctx i)).channels.slots i = ch
      rw [setCtx_slots_same]
      exact hw
    · have hact : (slotWorld i w).st.ch.active = false := by
        rw [← hidle]
        exact congrArg ChannelSlot.active hw
      rw [hact]
      rfl
  · exact shows_onSlot_ne hij

theorem idle_allocateSlot : Preserves (SlotShows i id ch) (allocateSlot p) := by
  refine shows_millis.bind fun now ↦ Preserves.get_bind fun s ↦ ?_
  split
  · exact .ret
  · dsimp only
    split
    · exact (idle_beginClose hidle _ _).bind fun _ ↦ .ret
    · exact .ret

theorem idle_finalizeClose (slotIndex : Int) :
    Preserves (SlotShows i id ch) (finalizeClose p slotIndex) := by
  refine Preserves.ite .ret fun w hw ↦ ?_
  rw [wp_getSlot_bind]
  by_cases hij : i = slotIndex.toNat
  · subst hij
    refine wp_ite (fun _ ↦ wp_pure hw) fun hact ↦ absurd ?_ hact
    rw [show w.st.channels.slots slotIndex.toNat = ch from hw, hidle]
    rfl
  · refine wp_ite (fun _ ↦ wp_pure hw) fun _ ↦ ?_
    exact ((shows_onSlot_ne hij).bind fun _ ↦ Preserves.ite .ret
      ((shows_onSlot_ne hij).bind fun _ ↦ (shows_modifyChannels fun _ ↦ by rfl).bind fun _ ↦
        (shows_onSlot_ne hij).bind fun _ ↦
        (shows_modifyChannels fun _ ↦ by rfl).bind fun _ ↦ .ret)) w hw

theorem idle_abandonSlot (slotIndex : Int) (reason : ChannelCloseReason) :
    Preserves (SlotShows i id ch) (abandonSlot p slotIndex reason) := by
  refine Preserves.ite .ret fun w hw ↦ ?_
  rw [wp_getSlot_bind]
  by_cases hij : i = slotIndex.toNat
  · subst hij
    refine wp_ite (fun _ ↦ wp_pure hw) fun hact ↦ absurd ?_ hact
    rw [show w.st.channels.slots slotIndex.toNat = ch from hw, hidle]
    rfl
  · refine wp_ite (fun _ ↦ wp_pure hw) fun _ ↦ ?_
    exact ((shows_onSlot_ne hij).bind fun _ ↦ (shows_modifyChannels fun _ ↦ by rfl).bind fun _ ↦
      (shows_modifyChannels fun _ ↦ by rfl).bind fun _ ↦ shows_onSlot_ne hij) w hw

omit hidle in
/-- `bindChannel` changes the slot it returns `true` for. -/
theorem idle_bindChannel (slotIndex : Int) (h : Handle) (mapping : TunnelConfig) :
    Triple (SlotShows i id ch) (bindChannel p slotIndex h mapping) fun bound w ↦
      SlotShows i id ch w ∨ slotIndex = i ∧ bound = true := by
  have hgiveUp : ∀ fd, Triple (SlotShows i id ch) (do
      let _ ← TunnelM.sys (.localClose fd)
      pure false) fun bound w ↦ SlotShows i id ch w ∨ slotIndex = i ∧ bound = true :=
    fun _ ↦ Triple.bind (shows_sys _) fun _ ↦ .ret fun _ ↦ .inl
  rw [bindChannel]
  split
  · exact .ret fun _ ↦ .inl
  next hrange =>
  refine Triple.bind (shows_getSlot _) fun _ ↦ ?_
  split
  · exact .ret fun _ ↦ .inl
  refine Triple.bind (preserves_connectToLocalEndpoint shows_sysId mapping) fun fd ↦ ?_
  split
  · exact Triple.bind shows_millis fun _ ↦
      Triple.bind (shows_modifyChannels fun _ ↦ by rfl) fun _ ↦ .ret fun _ ↦ .inl
  refine Triple.bind (shows_modifyChannels fun _ ↦ by rfl) fun _ ↦
    Triple.bind (shows_sys _) fun _ ↦ ?_
  split
  · exact hgiveUp fd
  refine Triple.bind (shows_sys _) fun _ ↦ Triple.bind (shows_sys _) fun _ ↦ ?_
  dsimp only
  split
  · exact hgiveUp fd
  by_cases hij : i = slotIndex.toNat
  · intro w _
    refine wp_bind fun _ ↦ wp_bind fun _ ↦ wp_pure (.inr ⟨?_, rfl⟩)
    simp only [Bool.or_eq_true, decide_eq_true_eq, not_or] at hrange
    omega
  · exact Triple.bind (shows_onSlot_ne hij) fun _ ↦
      Triple.bind (shows_modifyChannels fun _ ↦ by rfl) fun _ ↦ .ret fun _ ↦ .inl

end Idle

/-! ### What allocateSlot chooses -/

/-- `allocateSlot` returns what `findFreeSlot` finds when it looks at the clock. -/
theorem wp_allocateSlot_choice (w : TunnelWorld) :
    wp (allocateSlot p) (fun slot w' ↦ ∃ t, w.clock ≤ t ∧ t ≤ w'.clock ∧
      slot = findFreeSlot w.st.channels.slots p.maxSlots (stamp t)) w := by
  rw [allocateSlot, millis, wp_bind_assoc]
  refine wp_tick_bind fun t ht ↦ ?_
  rw [wp_pure_bind, wp_get_bind]
  split
  · next i hfree => exact wp_pure ⟨t, ht, Nat.le_refl _, hfree.symm⟩
  · next hnone =>
    dsimp only
    split
    · next j _ =>
      have hclock : wp (onSlot j (beginClose .timeout)) (fun _ w' ↦ t ≤ w'.clock) (w.wait t) :=
        fun e ↦ (onSlot j (beginClose .timeout)).clock_le e (w.wait t).toMachine
      exact wp_bind (wp_mono hclock fun _ _ h ↦ wp_pure ⟨t, ht, h, hnone.symm⟩)
    · exact wp_pure ⟨t, ht, Nat.le_refl _, hnone.symm⟩

/-- By the clock, less than `FINALIZE_COOLDOWN_MS` ago the slot was finalized. -/
def ChannelSlot.InCooldown (ch : ChannelSlot) (now : UInt32) : Prop :=
  ch.lastFinalizeMs ≠ 0 ∧ now - ch.lastFinalizeMs < finalizeCooldownMs

theorem not_eligible_iff (ch : ChannelSlot) (now : UInt32) :
    (!ch.active && !(ch.lastFinalizeMs != 0 && now - ch.lastFinalizeMs < finalizeCooldownMs)) = false ↔
      (ch.active = false → ch.InCooldown now) := by
  rw [ChannelSlot.InCooldown]
  cases ch.active <;> simp

theorem findFreeSlot_eq_none {slots : ℕ → ChannelSlot} {n : ℕ} {now : UInt32}
    (h : findFreeSlot slots n now = none) (hi : i < n) (hidle : (slots i).active = false) :
    (slots i).InCooldown now := by
  have hno := List.find?_eq_none.1 h i (List.mem_range.2 hi)
  rw [Bool.not_eq_true, not_eligible_iff] at hno
  exact hno hidle

/-- The least slot that is neither in use nor in its cooldown. -/
theorem findFreeSlot_eq_some {slots : ℕ → ChannelSlot} {n : ℕ} {now : UInt32}
    (h : findFreeSlot slots n now = some i) :
    i < n ∧ (slots i).active = false ∧ ¬(slots i).InCooldown now ∧
      ∀ j < i, (slots j).active = false → (slots j).InCooldown now := by
  obtain ⟨hlt, hidle⟩ := findFreeSlot_lt h
  obtain ⟨hi, -, hbefore⟩ := List.find?_range_eq_some.1 h
  refine ⟨hlt, hidle, fun hcool ↦ ?_, fun j hj hjidle ↦ ?_⟩
  · rw [(not_eligible_iff _ _).2 fun _ ↦ hcool] at hi
    cases hi
  · have hno := hbefore j hj
    rw [Bool.not_eq_true'] at hno
    exact (not_eligible_iff _ _).1 hno hjidle

/-! ### In every run -/

namespace ManagerHistory

variable (r : ManagerHistory p) {k l f b : ℕ}

theorem time_le_succ (k : ℕ) : r.time k ≤ r.time (k + 1) :=
  ((r.op k).prog p).clock_le (r.env k) _

theorem time_mono (h : k ≤ l) : r.time k ≤ r.time l := by
  induction h with
  | refl => exact Nat.le_refl _
  | step _ ih => exact Nat.le_trans ih (r.time_le_succ _)

/-- The world after an operation whose result is thrown away. -/
theorem world_succ_of_bind {α : Type} {m : TunnelM α} (h : (r.op k).prog p = do
      let _ ← m
      pure ()) : r.world (k + 1) = (m.run (r.env k) (r.world k)).2 := by
  show ((r.op k).prog p).exec (r.env k) (r.world k) = _
  rw [h, Prog.exec_bind, Prog.exec_pure]

variable {r}

/-- What completes leaves the time, in a slot that is given up. -/
theorem Finalizes.after (h : r.Finalizes i k) :
    (r.slot (k + 1) i).lastFinalizeMs = stamp (r.time (k + 1)) ∧
      (r.slot (k + 1) i).active = false := by
  obtain ⟨hop, hi, hact, hdone⟩ := h
  have hstep := wp_finalizeClose_stamp (p := p) i (r.world k) i (r.env k)
  beta_reduce at hstep
  rw [if_pos ⟨rfl, hi, hact, hdone⟩, ← r.world_succ_of_bind (by rw [hop]; rfl)] at hstep
  exact hstep

/-- Every other operation keeps the stamp. -/
theorem lastFinalizeMs_succ (h : ¬r.Finalizes i k) :
    (r.slot (k + 1) i).lastFinalizeMs = (r.slot k i).lastFinalizeMs := by
  have keeps : ∀ {m : TunnelM Unit}, (r.op k).prog p = m →
      Preserves (StampAt i (r.slot k i).lastFinalizeMs) m →
      (r.slot (k + 1) i).lastFinalizeMs = (r.slot k i).lastFinalizeMs := by
    rintro m rfl hm
    exact hm (r.world k) rfl (r.env k)
  cases hop : r.op k with
  | allocateSlot => exact keeps (by rw [hop]; rfl) (stampAt_allocateSlot.bind fun _ ↦ .ret)
  | bindChannel j h mapping =>
    exact keeps (by rw [hop]; rfl) ((stampAt_bindChannel j h mapping).bind fun _ ↦ .ret)
  | beginClose j reason => exact keeps (by rw [hop]; rfl) (stampAt_beginCloseAt j reason)
  | abandonSlot j reason => exact keeps (by rw [hop]; rfl) (stampAt_abandonSlot j reason)
  | pumpAll => exact absurd hop (r.op_ne k)
  | finalizeClose j =>
    have hstep := wp_finalizeClose_stamp (p := p) j (r.world k) i (r.env k)
    beta_reduce at hstep
    rw [if_neg, ← r.world_succ_of_bind (by rw [hop]; rfl)] at hstep
    · exact hstep
    · rintro ⟨rfl, hi, hact, hdone⟩
      exact h ⟨hop, hi, hact, hdone⟩

/-- A slot that is not in use stays as it is, unless it is bound. -/
theorem slot_succ (h : ¬r.Binds i k) (hidle : (r.slot k i).active = false) :
    r.slot (k + 1) i = r.slot k i := by
  have keeps : ∀ {m : TunnelM Unit}, (r.op k).prog p = m →
      Preserves (SlotShows i id (r.slot k i)) m → r.slot (k + 1) i = r.slot k i := by
    rintro m rfl hm
    exact hm (r.world k) rfl (r.env k)
  cases hop : r.op k with
  | allocateSlot => exact keeps (by rw [hop]; rfl) ((idle_allocateSlot hidle).bind fun _ ↦ .ret)
  | beginClose j reason =>
    exact keeps (by rw [hop]; rfl) (Preserves.ite .ret (idle_beginClose hidle reason _))
  | abandonSlot j reason => exact keeps (by rw [hop]; rfl) (idle_abandonSlot hidle j reason)
  | pumpAll => exact absurd hop (r.op_ne k)
  | finalizeClose j =>
    exact keeps (by rw [hop]; rfl) ((idle_finalizeClose hidle j).bind fun _ ↦ .ret)
  | bindChannel j handle mapping =>
    have hbind : Triple (SlotShows i id (r.slot k i)) (bindChannel p j handle mapping) _ :=
      idle_bindChannel j handle mapping
    have hstep := hbind (r.world k) rfl (r.env k)
    rw [← r.world_succ_of_bind (by rw [hop]; rfl)] at hstep
    rcases hstep with hsame | ⟨rfl, hbound⟩
    · exact hsame
    · exact absurd ⟨handle, mapping, hop, hbound⟩ h

theorem idle_of_not_binds (hkl : k ≤ l) (hno : ∀ d, k ≤ d → d < l → ¬r.Binds i d)
    (hidle : (r.slot k i).active = false) : (r.slot l i).active = false := by
  induction l, hkl using Nat.le_induction with
  | base => exact hidle
  | succ l hkl ih =>
    have hbefore := ih fun d hd hdl ↦ hno d hd (Nat.lt_succ_of_lt hdl)
    rw [slot_succ (hno l hkl (Nat.lt_succ_self l)) hbefore]
    exact hbefore

variable (r) in
/-- **The stamp survives**: when an operation begins, it is the time of the last completed
`finalizeClose` of the slot, and zero if there was none. -/
theorem lastFinalizeMs_eq (i k : ℕ) :
    (∀ f < k, ¬r.Finalizes i f) ∧ (r.slot k i).lastFinalizeMs = 0 ∨
      ∃ f < k, r.Finalizes i f ∧ (∀ l, f < l → l < k → ¬r.Finalizes i l) ∧
        (r.slot k i).lastFinalizeMs = stamp (r.time (f + 1)) := by
  induction k with
  | zero => exact .inl ⟨fun f hf ↦ absurd hf (Nat.not_lt_zero f), rfl⟩
  | succ k ih =>
    by_cases hk : r.Finalizes i k
    · exact .inr ⟨k, Nat.lt_succ_self k, hk, fun l hl hlk ↦ by omega, hk.after.1⟩
    have hstill : ∀ {l}, l < k + 1 → (l < k → ¬r.Finalizes i l) → ¬r.Finalizes i l := by
      intro l hl hno
      rcases Nat.lt_succ_iff_lt_or_eq.1 hl with hlt | rfl
      · exact hno hlt
      · exact hk
    rw [lastFinalizeMs_succ hk]
    rcases ih with ⟨hno, hzero⟩ | ⟨f, hf, hfin, hlast, hstamp⟩
    · exact .inl ⟨fun f hf ↦ hstill hf (hno f), hzero⟩
    · exact .inr ⟨f, Nat.lt_succ_of_lt hf, hfin, fun l hfl hl ↦ hstill hl (hlast l hfl), hstamp⟩

/-- What `allocateSlot` compares is whether the slot is in its cooldown. -/
theorem inCooldown_iff {t : ℕ} (ht : r.time k ≤ t) :
    (r.slot k i).InCooldown (stamp t) ↔ r.CoolingDown i k t := by
  have hcompare : ∀ {f}, f < k → (stamp t - stamp (r.time (f + 1)) < finalizeCooldownMs ↔
      (t - r.time (f + 1)) % 2 ^ 32 < finalizeCooldownMs.toNat) := by
    intro f hf
    rw [UInt32.lt_iff_toNat_lt, toNat_stamp_sub_stamp (Nat.le_trans (r.time_mono hf) ht)]
  rw [ChannelSlot.InCooldown]
  constructor
  · rintro ⟨hne, hlt⟩
    rcases r.lastFinalizeMs_eq i k with ⟨-, hzero⟩ | ⟨f, hf, hfin, hlast, hstamp⟩
    · exact absurd hzero hne
    · rw [hstamp] at hne hlt
      exact ⟨f, hf, hfin, hlast, hne, (hcompare hf).1 hlt⟩
  · rintro ⟨f, hf, hfin, hlast, hne, hlt⟩
    rcases r.lastFinalizeMs_eq i k with ⟨hno, -⟩ | ⟨f', hf', hfin', hlast', hstamp⟩
    · exact absurd hfin (hno f hf)
    · -- the last completed `finalizeClose` is one and the same
      obtain rfl : f = f' := by
        rcases Nat.lt_trichotomy f f' with h | h | h
        · exact absurd hfin' (hlast f' h hf')
        · exact h
        · exact absurd hfin (hlast' f h hf)
      rw [hstamp]
      exact ⟨hne, (hcompare hf).2 hlt⟩

/-- Between an index that was returned and the bind it is used for, nothing is finalized. -/
theorem BindsAllocated.exists_allocation (h : r.BindsAllocated i b) :
    ∃ a < b, r.Allocates a (some i) ∧ ∀ f < b, r.Finalizes i f → f < a := by
  obtain ⟨-, a, ha, halloc, hno⟩ := h
  refine ⟨a, ha, halloc, fun f hf hfin ↦ ?_⟩
  by_contra hlt
  have hidle : (r.slot a i).active = false := by
    obtain ⟨t, -, -, hfree⟩ := wp_allocateSlot_choice (p := p) (r.world a) (r.env a)
    rw [halloc.2] at hfree
    exact (findFreeSlot_lt hfree.symm).2
  have hstill : (r.slot f i).active = false := by
    refine idle_of_not_binds (by omega) (fun d hd hdf ↦ ?_) hidle
    rcases Nat.lt_or_eq_of_le hd with hd | rfl
    · exact hno d hd (by omega)
    · rintro ⟨_, _, hop, -⟩
      rw [halloc.1] at hop
      cases hop
  rw [hfin.2.2.1] at hstill
  cases hstill

variable (r) in
/-- After `f` and before `b`, somebody bound slot `i` without having asked `allocateSlot`, and it was
finalized again so soon that the first cooldown was not over, at a reading of zero. -/
def Bypassed (i f b : ℕ) : Prop :=
  ∃ d z, f < d ∧ d < z ∧ z < b ∧ r.Binds i d ∧ ¬r.BindsAllocated i d ∧ r.Finalizes i z ∧
    stamp (r.time (z + 1)) = 0 ∧ r.time (z + 1) < r.time (f + 1) + finalizeCooldownMs.toNat

theorem cooled_or_bypassed (hfin : r.Finalizes i f) (hne : stamp (r.time (f + 1)) ≠ 0)
    (hb : r.BindsAllocated i b) (hfb : f < b) :
    r.time (f + 1) + finalizeCooldownMs.toNat ≤ r.time b ∨ r.Bypassed i f b := by
  induction b using Nat.strongRecOn with
  | _ b ih =>
  obtain ⟨a, hab, halloc, hbefore⟩ := hb.exists_allocation
  have hfa := hbefore f hfb hfin
  obtain ⟨t, hat, hta, hfree⟩ := wp_allocateSlot_choice (p := p) (r.world a) (r.env a)
  rw [halloc.2] at hfree
  rw [← r.world_succ_of_bind (by rw [halloc.1]; rfl)] at hta
  have htb : t ≤ r.time b := Nat.le_trans hta (r.time_mono hab)
  have hwarm : ¬(r.slot a i).InCooldown (stamp t) := (findFreeSlot_eq_some hfree.symm).2.2.1
  rcases r.lastFinalizeMs_eq i a with ⟨hno, -⟩ | ⟨z, hza, hz, hlast, hstamp⟩
  · exact absurd hfin (hno f hfa)
  have hfz : f ≤ z := by
    by_contra hlt
    exact hlast f (by omega) hfa hfin
  have hzt : r.time (z + 1) ≤ t := Nat.le_trans (r.time_mono hza) hat
  have hfzt : r.time (f + 1) ≤ r.time (z + 1) := r.time_mono (by omega)
  by_cases hzero : stamp (r.time (z + 1)) = 0
  · -- the last stamp reads zero, so it is not the stamp of `f`
    have hlt : f < z := by
      rcases Nat.lt_or_eq_of_le hfz with h | rfl
      · exact h
      · exact absurd hzero hne
    by_cases hsoon : r.time (z + 1) < r.time (f + 1) + finalizeCooldownMs.toNat
    · right
      -- the slot was in use again, so it had been bound
      obtain ⟨d, hfd, hdz, hd⟩ : ∃ d, f < d ∧ d < z ∧ r.Binds i d := by
        by_contra hno
        have hidle := idle_of_not_binds (k := f + 1) (l := z) hlt
          (fun d hfd hdz hd ↦ hno ⟨d, hfd, hdz, hd⟩) hfin.after.2
        rw [hz.2.2.1] at hidle
        cases hidle
      by_cases hda : r.BindsAllocated i d
      · rcases ih d (by omega) hda hfd with hcool | ⟨d', z', h₁, h₂, h₃, h⟩
        · have : r.time d ≤ r.time (z + 1) := r.time_mono (by omega)
          omega
        · exact ⟨d', z', h₁, h₂, by omega, h⟩
      · exact ⟨d, z, hfd, hdz, by omega, hd, hda, hz, hzero, hsoon⟩
    · left
      omega
  · left
    rw [inCooldown_iff hat] at hwarm
    have hcold : ¬(t - r.time (z + 1)) % 2 ^ 32 < finalizeCooldownMs.toNat := fun hlt ↦
      hwarm ⟨z, hza, hz, hlast, hzero, hlt⟩
    have := Nat.mod_le (t - r.time (z + 1)) (2 ^ 32)
    omega

end ManagerHistory

/-- **The finalize cooldown holds over whole runs.** After a `finalizeClose` at a reading other than
zero, a slot is bound through an index from `allocateSlot` only when the cooldown has passed, or else
the slot was bound without asking `allocateSlot` and finalized at a reading of zero in the meantime.
And `allocateSlot` returns the least slot that is neither in use nor in its cooldown, or none if there
is none. -/
theorem finalize_cooldown (r : ManagerHistory p) :
    (∀ i f b, r.Finalizes i f → stamp (r.time (f + 1)) ≠ 0 → r.BindsAllocated i b → f < b →
      r.time (f + 1) + finalizeCooldownMs.toNat ≤ r.time b ∨ r.Bypassed i f b) ∧
    ∀ k slot, r.Allocates k slot → ∃ t, r.time k ≤ t ∧ t ≤ r.time (k + 1) ∧
      (slot = none → ∀ i < p.maxSlots, (r.slot k i).active = false → r.CoolingDown i k t) ∧
      ∀ i, slot = some i → i < p.maxSlots ∧ (r.slot k i).active = false ∧ ¬r.CoolingDown i k t ∧
        ∀ j < i, (r.slot k j).active = false → r.CoolingDown j k t := by
  refine ⟨fun i f b hfin hne hb hfb ↦ ManagerHistory.cooled_or_bypassed hfin hne hb hfb, ?_⟩
  intro k slot hk
  obtain ⟨t, hkt, htk, hfree⟩ := wp_allocateSlot_choice (p := p) (r.world k) (r.env k)
  rw [hk.2] at hfree
  rw [← r.world_succ_of_bind (by rw [hk.1]; rfl)] at htk
  refine ⟨t, hkt, htk, ?_, ?_⟩
  · rintro rfl i hi hidle
    exact (ManagerHistory.inCooldown_iff hkt).1 (findFreeSlot_eq_none hfree.symm hi hidle)
  · rintro i rfl
    obtain ⟨hi, hidle, hwarm, hleast⟩ := findFreeSlot_eq_some hfree.symm
    refine ⟨hi, hidle, fun hcool ↦ hwarm ((ManagerHistory.inCooldown_iff hkt).2 hcool), ?_⟩
    intro j hj hjidle
    exact (ManagerHistory.inCooldown_iff hkt).1 (hleast j hj hjidle)

/-- A slot is bound, finalized, handed out when it has cooled down, and bound again. -/
def patientHistory : ManagerHistory (smallTunnel 1) where
  op
    | 0 | 3 => .bindChannel 0 77 {}
    | 1 => .finalizeClose 0
    | _ => .allocateSlot
  op_ne k := by split <;> simp
  env
    | 2 => worldWith 60 fun _ _ ↦ none
    | _ => worldWith 1 fun _ _ ↦ none
  clock := 0

theorem finalize_cooldown_patientHistory :
    (patientHistory.Finalizes 0 1 ∧ patientHistory.BindsAllocated 0 3) ∧
      (patientHistory.time 2 + finalizeCooldownMs.toNat ≤ patientHistory.time 3 ∨
        patientHistory.Bypassed 0 1 3) := by
  have hfin : patientHistory.Finalizes 0 1 := ⟨rfl, by decide, by decide, by decide⟩
  have hb : patientHistory.BindsAllocated 0 3 :=
    ⟨⟨77, {}, rfl, by decide⟩, 2, by decide, ⟨rfl, by decide⟩, fun l h₁ h₂ ↦ by omega⟩
  exact ⟨⟨hfin, hb⟩, (finalize_cooldown patientHistory).1 0 1 3 hfin (by decide) hb (by decide)⟩

/-- Eight milliseconds before the counter turns over, a slot is finalized. Its owner binds it again
without asking, and finalizes it when the counter reads zero; then `allocateSlot` hands it out. -/
def hastyHistory : ManagerHistory (smallTunnel 1) where
  op
    | 0 | 2 | 5 => .bindChannel 0 77 {}
    | 1 | 3 => .finalizeClose 0
    | _ => .allocateSlot
  op_ne k := by split <;> simp
  env
    | 1 | 3 => worldWith 2 fun _ _ ↦ none
    | _ => worldWith 0 fun _ _ ↦ none
  clock := 4294967280

/-- Without a word about who binds the slot meanwhile, the cooldown does not hold. -/
theorem not_cooled_hastyHistory :
    ¬∀ (p : Params) (r : ManagerHistory p) (i f b : ℕ), r.Finalizes i f →
      stamp (r.time (f + 1)) ≠ 0 → r.BindsAllocated i b → f < b →
      r.time b < r.time (f + 1) + 4294967296 →
      r.time (f + 1) + finalizeCooldownMs.toNat ≤ r.time b := by
  intro h
  have hcool := h (smallTunnel 1) hastyHistory 0 1 5 ⟨rfl, by decide, by decide, by decide⟩
    (by decide) ⟨⟨77, {}, rfl, by decide⟩, 4, by decide, ⟨rfl, by decide⟩, fun l h₁ h₂ ↦ by omega⟩
    (by decide) (by decide)
  exact absurd hcool (by decide)

end ReverseTunnel
