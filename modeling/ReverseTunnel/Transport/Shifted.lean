import ReverseTunnel.Lib.Abreast
import ReverseTunnel.Transport.Pump
import Mathlib.Tactic.Simps.Basic

/-!
# Two runs on one slot, with clocks apart

What becomes of a slot when every clock reading is `k` later. Its timestamps are `k` later too, or
not set in either run (`Shifted`); everything else is the same.

The code takes a `0` in five of the timestamps for "not set". So the two runs can be told apart
when a reading that is stored there is exactly `0` in one of them. A slot is `Synced` when that is
not so, and every program for a slot keeps two slots synced and makes the same calls for both,
provided that no slot that is seen on the way holds such a reading.
-/

namespace ReverseTunnel

open Traced Clock32 SlotM

/-! ### Timestamps -/

/-- One timestamp is `k` after the other one, or neither is set. -/
def Later (k u u' : UInt32) : Prop := u' = u + k ∨ u = 0 ∧ u' = 0

/-- The time since a timestamp is the same in both runs. -/
theorem elapsed_eq (now u k : UInt32) : now + k - (u + k) = now - u := by
  grind

theorem Later.elapsed {k u u' : UInt32} (h : Later k u u') (hu : u ≠ 0) (now : UInt32) :
    now + k - u' = now - u := by
  obtain rfl | ⟨h0, -⟩ := h
  · exact elapsed_eq now u k
  · exact absurd h0 hu

/-- Whether a timestamp is set is the same in both runs, unless it is a reading of exactly `0` in
one of them. -/
theorem Later.zero_iff {k u u' : UInt32} (h : Later k u u') (hl : k = 0 ∨ u ≠ -k)
    (hr : k = 0 ∨ u' ≠ k) : u' = 0 ↔ u = 0 := by
  obtain rfl | ⟨rfl, rfl⟩ := h
  · grind
  · exact Iff.rfl

theorem pos_iff_of_zero_iff {u u' : UInt32} (h : u' = 0 ↔ u = 0) : u' > 0 ↔ u > 0 := by
  have hpos : ∀ v : UInt32, v > 0 ↔ v ≠ 0 := fun v ↦ UInt32.pos_iff_ne_zero
  rw [hpos, hpos, Ne, Ne, h]

/-- An expired timestamp is expired in both runs. -/
theorem expired_later {k u u' : UInt32} (h : Later k u u') (h0 : u' = 0 ↔ u = 0)
    (now timeoutMs : UInt32) : expired (now + k) u' timeoutMs = expired now u timeoutMs := by
  by_cases hu : u = 0
  · rw [hu, h0.2 hu]
    simp [expired]
  · have hpos : (u' > 0) = (u > 0) := propext (pos_iff_of_zero_iff h0)
    simp only [expired, h.elapsed hu, hpos]

/-! ### Slots -/

namespace ChannelSlot

/-- The slot with the timestamps of another one. -/
@[simps]
def restamp (ch t : ChannelSlot) : ChannelSlot :=
  { ch with
    closeStartMs := t.closeStartMs
    eofSentMs := t.eofSentMs
    lastActivity := t.lastActivity
    lastSuccessfulWrite := t.lastSuccessfulWrite
    lastSuccessfulRead := t.lastSuccessfulRead
    firstEagainMs := t.firstEagainMs
    firstLocalSendEagainMs := t.firstLocalSendEagainMs
    lastFinalizeMs := t.lastFinalizeMs }

/-- The timestamps in which the code takes a `0` for "not set". -/
def guarded (ch : ChannelSlot) : List UInt32 :=
  [ch.lastActivity, ch.eofSentMs, ch.firstEagainMs, ch.firstLocalSendEagainMs, ch.lastFinalizeMs]

/-- The same slot, with timestamps `k` later. -/
structure Shifted (k : UInt32) (ch ch' : ChannelSlot) : Prop where
  /-- All but the timestamps is the same. -/
  rest : ch' = ch.restamp ch'
  /-- `closeStartMs` -/
  closeStartMs : Later k ch.closeStartMs ch'.closeStartMs
  /-- `eofSentMs` -/
  eofSentMs : Later k ch.eofSentMs ch'.eofSentMs
  /-- `lastActivity` -/
  lastActivity : Later k ch.lastActivity ch'.lastActivity
  /-- `lastSuccessfulWrite` -/
  lastSuccessfulWrite : Later k ch.lastSuccessfulWrite ch'.lastSuccessfulWrite
  /-- `lastSuccessfulRead` -/
  lastSuccessfulRead : Later k ch.lastSuccessfulRead ch'.lastSuccessfulRead
  /-- `firstEagainMs` -/
  firstEagainMs : Later k ch.firstEagainMs ch'.firstEagainMs
  /-- `firstLocalSendEagainMs` -/
  firstLocalSendEagainMs : Later k ch.firstLocalSendEagainMs ch'.firstLocalSendEagainMs
  /-- `lastFinalizeMs` -/
  lastFinalizeMs : Later k ch.lastFinalizeMs ch'.lastFinalizeMs
  /-- The closing of a draining slot began `k` later. -/
  draining : ch.state = .draining → ch'.closeStartMs = ch.closeStartMs + k

/-- What the timestamps of a slot in use are compared with `0` for has the same outcome. -/
structure Synced (k : UInt32) (ch ch' : ChannelSlot) : Prop extends Shifted k ch ch' where
  /-- `lastActivity > 0` -/
  lastActivity_zero : ch'.lastActivity = 0 ↔ ch.lastActivity = 0
  /-- `eofSentMs == 0` -/
  eofSentMs_zero : ch'.eofSentMs = 0 ↔ ch.eofSentMs = 0
  /-- `firstEagainMs == 0` -/
  firstEagainMs_zero : ch'.firstEagainMs = 0 ↔ ch.firstEagainMs = 0
  /-- `firstLocalSendEagainMs == 0` -/
  firstLocalSendEagainMs_zero : ch'.firstLocalSendEagainMs = 0 ↔ ch.firstLocalSendEagainMs = 0

/-- No guarded timestamp of the slot is one whose counterpart in the other run is `0`. -/
def Avoids (k c : UInt32) (ch : ChannelSlot) : Prop := k = 0 ∨ c ∉ ch.guarded

variable {k c : UInt32} {ch ch' : ChannelSlot}

theorem Avoids.ne {u : UInt32} (h : ch.Avoids k c) (hu : u ∈ ch.guarded) : k = 0 ∨ u ≠ c :=
  h.imp_right fun hc huc ↦ hc (huc ▸ hu)

theorem Shifted.synced (h : Shifted k ch ch') (hl : ch.Avoids k (-k)) (hr : ch'.Avoids k k) :
    Synced k ch ch' where
  toShifted := h
  lastActivity_zero := h.lastActivity.zero_iff (hl.ne (by simp [guarded]))
    (hr.ne (by simp [guarded]))
  eofSentMs_zero := h.eofSentMs.zero_iff (hl.ne (by simp [guarded])) (hr.ne (by simp [guarded]))
  firstEagainMs_zero := h.firstEagainMs.zero_iff (hl.ne (by simp [guarded]))
    (hr.ne (by simp [guarded]))
  firstLocalSendEagainMs_zero := h.firstLocalSendEagainMs.zero_iff (hl.ne (by simp [guarded]))
    (hr.ne (by simp [guarded]))

/-- A fresh slot holds no timestamp. -/
theorem synced_fresh (k : UInt32) : Synced k {} {} where
  rest := rfl
  closeStartMs := .inr ⟨rfl, rfl⟩
  eofSentMs := .inr ⟨rfl, rfl⟩
  lastActivity := .inr ⟨rfl, rfl⟩
  lastSuccessfulWrite := .inr ⟨rfl, rfl⟩
  lastSuccessfulRead := .inr ⟨rfl, rfl⟩
  firstEagainMs := .inr ⟨rfl, rfl⟩
  firstLocalSendEagainMs := .inr ⟨rfl, rfl⟩
  lastFinalizeMs := .inr ⟨rfl, rfl⟩
  draining := nofun
  lastActivity_zero := Iff.rfl
  eofSentMs_zero := Iff.rfl
  firstEagainMs_zero := Iff.rfl
  firstLocalSendEagainMs_zero := Iff.rfl

/-- A change of a slot that neither looks at its timestamps nor touches them or its state. -/
def Timeless (f : ChannelSlot → ChannelSlot) : Prop :=
  ∀ ch t, f (ch.restamp t) = (f ch).restamp t ∧ (f ch).restamp ch = f ch ∧ (f ch).state = ch.state

variable {f : ChannelSlot → ChannelSlot}

theorem Timeless.stamp (hf : Timeless f) (u : ChannelSlot → UInt32)
    (hu : ∀ c t : ChannelSlot, u (c.restamp t) = u t) (c : ChannelSlot) : u (f c) = u c := by
  rw [← (hf c c).2.1, hu]

theorem Timeless.later (hf : Timeless f) (u : ChannelSlot → UInt32)
    (hu : ∀ c t : ChannelSlot, u (c.restamp t) = u t) (h : Later k (u ch) (u ch')) :
    Later k (u (f ch)) (u (f ch')) := by
  rwa [hf.stamp u hu, hf.stamp u hu]

theorem Timeless.zero_iff (hf : Timeless f) (u : ChannelSlot → UInt32)
    (hu : ∀ c t : ChannelSlot, u (c.restamp t) = u t) (h : u ch' = 0 ↔ u ch = 0) :
    u (f ch') = 0 ↔ u (f ch) = 0 := by
  rwa [hf.stamp u hu, hf.stamp u hu]

theorem Shifted.map (h : Shifted k ch ch') (hf : Timeless f) : Shifted k (f ch) (f ch') where
  rest := by
    have hch' : f ch' = (f ch).restamp ch' := by
      rw [← (hf ch ch').1, ← h.rest]
    rw [hch']
    rfl
  closeStartMs := hf.later ChannelSlot.closeStartMs (fun _ _ ↦ rfl) h.closeStartMs
  eofSentMs := hf.later ChannelSlot.eofSentMs (fun _ _ ↦ rfl) h.eofSentMs
  lastActivity := hf.later ChannelSlot.lastActivity (fun _ _ ↦ rfl) h.lastActivity
  lastSuccessfulWrite :=
    hf.later ChannelSlot.lastSuccessfulWrite (fun _ _ ↦ rfl) h.lastSuccessfulWrite
  lastSuccessfulRead :=
    hf.later ChannelSlot.lastSuccessfulRead (fun _ _ ↦ rfl) h.lastSuccessfulRead
  firstEagainMs := hf.later ChannelSlot.firstEagainMs (fun _ _ ↦ rfl) h.firstEagainMs
  firstLocalSendEagainMs :=
    hf.later ChannelSlot.firstLocalSendEagainMs (fun _ _ ↦ rfl) h.firstLocalSendEagainMs
  lastFinalizeMs := hf.later ChannelSlot.lastFinalizeMs (fun _ _ ↦ rfl) h.lastFinalizeMs
  draining := by
    rw [(hf ch ch).2.2, hf.stamp ChannelSlot.closeStartMs (fun _ _ ↦ rfl),
      hf.stamp ChannelSlot.closeStartMs (fun _ _ ↦ rfl)]
    exact h.draining

theorem Synced.map (h : Synced k ch ch') (hf : Timeless f) : Synced k (f ch) (f ch') where
  toShifted := h.toShifted.map hf
  lastActivity_zero := hf.zero_iff ChannelSlot.lastActivity (fun _ _ ↦ rfl) h.lastActivity_zero
  eofSentMs_zero := hf.zero_iff ChannelSlot.eofSentMs (fun _ _ ↦ rfl) h.eofSentMs_zero
  firstEagainMs_zero := hf.zero_iff ChannelSlot.firstEagainMs (fun _ _ ↦ rfl) h.firstEagainMs_zero
  firstLocalSendEagainMs_zero :=
    hf.zero_iff ChannelSlot.firstLocalSendEagainMs (fun _ _ ↦ rfl) h.firstLocalSendEagainMs_zero

theorem timeless_accountRestoreDrop (expected restored : ℕ) :
    Timeless (·.accountRestoreDrop expected restored) := by
  intro ch t
  simp only [accountRestoreDrop]
  split
  · exact ⟨rfl, rfl, rfl⟩
  · exact ⟨rfl, rfl, rfl⟩

theorem timeless_restoreToLocal (data : List UInt8) : Timeless (·.restoreToLocal data) := by
  intro ch t
  rcases h : ch.toLocal with - | b
  · simp only [restoreToLocal, restamp_toLocal, h]
    exact timeless_accountRestoreDrop _ _ ch t
  · simp only [restoreToLocal, restamp_toLocal, h]
    exact timeless_accountRestoreDrop _ _ { ch with toLocal := _ } t

theorem timeless_restoreToRemote (data : List UInt8) : Timeless (·.restoreToRemote data) := by
  intro ch t
  rcases h : ch.toRemote with - | b
  · simp only [restoreToRemote, restamp_toRemote, h]
    exact timeless_accountRestoreDrop _ _ ch t
  · simp only [restoreToRemote, restamp_toRemote, h]
    exact timeless_accountRestoreDrop _ _ { ch with toRemote := _ } t

end ChannelSlot

open ChannelSlot

/-! ### Programs for a slot -/

/-- Related slots, and the same buffers. -/
structure SameCtx (ρ : ChannelSlot → ChannelSlot → Prop) (c c' : Ctx) : Prop where
  /-- The slots are related. -/
  ch : ρ c.ch c'.ch
  /-- The work buffer is the same. -/
  work : c'.work = c.work
  /-- So is the byte count. -/
  moved : c'.moved = c.moved

/-- Two runs of work on a slot, the second clock `k` ahead. -/
def slotGap (k : ℕ) : Gap Ctx where
  lag := k
  left c := c.ch.Avoids (stamp k) (-stamp k)
  right c := c.ch.Avoids (stamp k) (stamp k)

/-- Between steps. -/
abbrev SyncedCtx (k : ℕ) : Ctx → Ctx → Prop := SameCtx (Synced (stamp k))

/-- Inside a step, when a timestamp has just been stored. -/
abbrev ShiftedCtx (k : ℕ) : Ctx → Ctx → Prop := SameCtx (Shifted (stamp k))

/-- Two programs for a slot that make the same calls and take `P` to `Q`. -/
abbrev SlotAbreast {α : Type} (k : ℕ) (P : Ctx → Ctx → Prop) (m m' : SlotM α)
    (Q : α → α → Ctx → Ctx → Prop) : Prop :=
  Abreast (slotGap k) P m m' Q

/-- Two programs for a slot that make the same calls and keep the slots synced. -/
abbrev InStep {α : Type} (k : ℕ) (m m' : SlotM α) : Prop :=
  SlotAbreast k (SyncedCtx k) m m' (Alike (SyncedCtx k))

section Rules

variable {α β : Type} {k : ℕ} {ρ ρ' : ChannelSlot → ChannelSlot → Prop} {P : Ctx → Ctx → Prop}
  {Q : α → α → Ctx → Ctx → Prop}

theorem SameCtx.mono {c c' : Ctx} (h : SameCtx ρ c c') (hρ : ∀ ch ch', ρ ch ch' → ρ' ch ch') :
    SameCtx ρ' c c' :=
  ⟨hρ _ _ h.ch, h.work, h.moved⟩

theorem SameCtx.shiftedCtx {c c' : Ctx} (h : SyncedCtx k c c') : ShiftedCtx k c c' :=
  h.mono fun _ _ hch ↦ hch.toShifted

theorem SameCtx.syncedCtx {c c' : Ctx} (h : ShiftedCtx k c c') (hl : (slotGap k).left c)
    (hr : (slotGap k).right c') : SyncedCtx k c c' :=
  ⟨h.ch.synced hl hr, h.work, h.moved⟩

theorem inStep_pure (a : α) : InStep k (pure a) (pure a) := Abreast.ret fun _ _ h ↦ ⟨rfl, h⟩

theorem stamped_mark (l l' : SlotMark) : SlotAbreast k (ShiftedCtx k) (Prog.mark l) (Prog.mark l')
    (Alike (SyncedCtx k)) :=
  Abreast.mark fun _ _ h hl hr ↦ h.syncedCtx hl hr

theorem inStep_mark (l l' : SlotMark) : InStep k (Prog.mark l) (Prog.mark l') :=
  (stamped_mark l l').pre fun _ _ h ↦ h.shiftedCtx

theorem inStep_io (c : IoCall) : InStep k (io c) (io c) :=
  Abreast.call fun _ _ h _ _ ↦ h

theorem inStep_choose : InStep k Prog.choose Prog.choose := Abreast.choose

/-- The clock is read `k` later. -/
theorem abreast_millis : SlotAbreast k P SlotM.millis SlotM.millis
    fun now now' c c' ↦ now' = now + stamp k ∧ P c c' := by
  refine Abreast.bind Abreast.tick fun t t' ↦ Abreast.ret fun c c' hc ↦ ⟨?_, hc.2⟩
  rw [hc.1, ← stamp_add]
  rfl

theorem abreast_millis_bind {f f' : UInt32 → SlotM α}
    (h : ∀ now, SlotAbreast k P (f now) (f' (now + stamp k)) Q) :
    SlotAbreast k P (SlotM.millis >>= f) (SlotM.millis >>= f') Q := by
  refine Abreast.bind abreast_millis fun now now' e s s' hclock hserial hp ↦ ?_
  obtain ⟨rfl, hp⟩ := hp
  exact h now e s s' hclock hserial hp

theorem abreast_slot (hρ : ∀ c c', P c c' → ρ c.ch c'.ch) :
    SlotAbreast k P SlotM.slot SlotM.slot fun ch ch' c c' ↦ ρ ch ch' ∧ P c c' :=
  Abreast.getBind fun _ _ hc ↦ Abreast.ret fun _ _ hs ↦ ⟨hρ _ _ hc, hs⟩

/-- The slots are read. They differ in their timestamps only. -/
theorem abreast_slot_bind {f f' : ChannelSlot → SlotM α}
    (h : ∀ ch t, Synced (stamp k) ch (ch.restamp t) →
      SlotAbreast k (SyncedCtx k) (f ch) (f' (ch.restamp t)) Q) :
    SlotAbreast k (SyncedCtx k) (SlotM.slot >>= f) (SlotM.slot >>= f') Q := by
  refine Abreast.bind (abreast_slot fun _ _ hc ↦ hc.ch) fun ch ch' e s s' hclock hserial hp ↦ ?_
  obtain ⟨hch, hp⟩ := hp
  have hrest : ch' = ch.restamp ch' := hch.rest
  rw [hrest] at hch ⊢
  exact h ch ch' hch e s s' hclock hserial hp

theorem abreast_modifySlot {f f' : ChannelSlot → ChannelSlot}
    (h : ∀ ch ch', ρ ch ch' → ρ' (f ch) (f' ch')) :
    SlotAbreast k (SameCtx ρ) (modifySlot f) (modifySlot f') (Alike (SameCtx ρ')) :=
  Abreast.modify fun _ _ hc ↦ ⟨h _ _ hc.ch, hc.work, hc.moved⟩

/-- The slots are changed and stay synced. -/
theorem inStep_change {f f' : ChannelSlot → ChannelSlot}
    (h : ∀ ch ch', Synced (stamp k) ch ch' → Synced (stamp k) (f ch) (f' ch')) :
    InStep k (modifySlot f) (modifySlot f') :=
  abreast_modifySlot h

/-- A timestamp is stored, `k` later in the second run. -/
theorem inStep_store {f f' : ChannelSlot → ChannelSlot}
    (h : ∀ ch ch', Synced (stamp k) ch ch' → Shifted (stamp k) (f ch) (f' ch')) :
    SlotAbreast k (SyncedCtx k) (modifySlot f) (modifySlot f') (Alike (ShiftedCtx k)) :=
  abreast_modifySlot h

theorem inStep_modifySlot {f : ChannelSlot → ChannelSlot} (hf : Timeless f) :
    InStep k (modifySlot f) (modifySlot f) :=
  inStep_change fun _ _ h ↦ h.map hf

theorem stamped_modifySlot {f : ChannelSlot → ChannelSlot} (hf : Timeless f) :
    SlotAbreast k (ShiftedCtx k) (modifySlot f) (modifySlot f) (Alike (ShiftedCtx k)) :=
  abreast_modifySlot fun _ _ h ↦ h.map hf

theorem abreast_fill (bs : List UInt8) :
    SlotAbreast k (SameCtx ρ) (fill bs) (fill bs) (Alike (SameCtx ρ)) :=
  Abreast.modify fun _ _ hc ↦ ⟨hc.ch, by rw [hc.work], hc.moved⟩

theorem abreast_addMoved (n : ℕ) :
    SlotAbreast k (SameCtx ρ) (addMoved n) (addMoved n) (Alike (SameCtx ρ)) :=
  Abreast.modify fun _ _ hc ↦ ⟨hc.ch, hc.work, by rw [hc.moved]⟩

theorem abreast_workBytes (n : ℕ) :
    SlotAbreast k (SameCtx ρ) (workBytes n) (workBytes n) (Alike (SameCtx ρ)) :=
  Abreast.getBind fun c c' hc ↦ Abreast.ret fun _ _ hs ↦ ⟨by rw [hc.work], hs⟩

end Rules

variable {k : ℕ} {p : Params}

/-- A field that is no timestamp is set, and the step ends. -/
theorem inStep_setAndStep {f : ChannelSlot → ChannelSlot} (hf : Timeless f) : InStep k
    (do modifySlot f; Prog.mark .step) (do modifySlot f; Prog.mark .step) :=
  (inStep_modifySlot hf).bindAlike fun _ ↦ inStep_mark _ _

/-! ### Closing -/

theorem ChannelSlot.Synced.begun {c : UInt32} {ch ch' : ChannelSlot} (h : Synced c ch ch')
    (reason : ChannelCloseReason) (now : UInt32) :
    Synced c (ch.begun reason now) (ch'.begun reason (now + c)) :=
  { h with
    rest := by
      rw [h.rest]
      rfl
    closeStartMs := .inl rfl
    draining := fun _ ↦ rfl }

theorem inStep_beginClose (reason : ChannelCloseReason) :
    InStep k (beginClose reason) (beginClose reason) := by
  refine abreast_slot_bind fun ch t _ ↦ Abreast.ite Iff.rfl (fun _ ↦ inStep_pure ()) fun _ ↦ ?_
  refine (inStep_mark _ _).bindAlike fun _ ↦ abreast_millis_bind fun now ↦ ?_
  refine (inStep_change fun ch ch' hch ↦ ?_).bindAlike fun _ ↦ inStep_mark _ _
  exact hch.begun reason now

theorem inStep_closeStage (h : Handle) : InStep k (closeStage h) (closeStage h) := by
  refine abreast_slot_bind fun ch t _ ↦ Abreast.ite Iff.rfl (fun _ ↦ inStep_pure _) fun _ ↦ ?_
  exact (inStep_io _).bindAlike fun rc ↦
    (inStep_modifySlot (fun _ _ ↦ by exact ⟨rfl, rfl, rfl⟩)).bindAlike fun _ ↦ inStep_pure _

theorem inStep_freeStage (h : Handle) : InStep k (freeStage h) (freeStage h) := by
  refine abreast_slot_bind fun ch t _ ↦ Abreast.ite Iff.rfl (fun _ ↦ ?_) fun _ ↦ inStep_pure _
  exact (inStep_io _).bindAlike fun rc ↦
    (inStep_modifySlot (fun _ _ ↦ by exact ⟨rfl, rfl, rfl⟩)).bindAlike fun _ ↦ inStep_pure _

theorem inStep_releaseChannel : InStep k releaseChannel releaseChannel := by
  refine abreast_slot_bind fun ch t _ ↦ ?_
  rcases hch : ch.sshChannel with - | h
  · simp only [restamp_sshChannel, hch]
    exact inStep_pure _
  · simp only [restamp_sshChannel, hch]
    refine (inStep_closeStage h).bindAlike fun closed ↦
      Abreast.ite Iff.rfl (fun _ ↦ inStep_pure _) fun _ ↦ ?_
    refine (inStep_freeStage h).bindAlike fun freed ↦
      Abreast.ite Iff.rfl (fun _ ↦ inStep_pure _) fun _ ↦ ?_
    refine abreast_slot_bind fun ch t _ ↦ Abreast.ite Iff.rfl (fun _ ↦ inStep_pure _) fun _ ↦ ?_
    exact (inStep_modifySlot (fun _ _ ↦ by exact ⟨rfl, rfl, rfl⟩)).bindAlike fun _ ↦ inStep_pure _

theorem inStep_closeLocalSocket : InStep k closeLocalSocket closeLocalSocket := by
  refine abreast_slot_bind fun ch t _ ↦ Abreast.ite Iff.rfl (fun _ ↦ ?_) fun _ ↦ inStep_pure ()
  exact (inStep_io _).bindAlike fun _ ↦ inStep_modifySlot (fun _ _ ↦ by exact ⟨rfl, rfl, rfl⟩)

theorem inStep_discardLocal : InStep k discardLocal discardLocal := by
  refine inStep_closeLocalSocket.bindAlike fun _ ↦
    (inStep_modifySlot (fun _ _ ↦ by exact ⟨rfl, rfl, rfl⟩)).bindAlike fun _ ↦ ?_
  exact (inStep_modifySlot (fun _ _ ↦ by exact ⟨rfl, rfl, rfl⟩)).bindAlike fun _ ↦ inStep_mark _ _

theorem inStep_dropLocal : InStep k dropLocal dropLocal := by
  have hresidual : Timeless (·.accountResidual) := fun _ _ ↦ ⟨rfl, rfl, rfl⟩
  refine (inStep_modifySlot hresidual).bindAlike fun _ ↦ ?_
  refine inStep_closeLocalSocket.bindAlike fun _ ↦
    (inStep_modifySlot (fun _ _ ↦ by exact ⟨rfl, rfl, rfl⟩)).bindAlike fun _ ↦ ?_
  exact (inStep_modifySlot (fun _ _ ↦ by exact ⟨rfl, rfl, rfl⟩)).bindAlike fun _ ↦ inStep_mark _ _

/-- The cooldown of the slot begins `k` later. -/
theorem inStep_closeSlot : InStep k closeSlot closeSlot := by
  refine (inStep_change fun ch ch' hch ↦ ?_).bindAlike fun _ ↦ abreast_millis_bind fun now ↦
    inStep_change fun ch ch' hch ↦ ?_
  · exact { hch with
      rest := by
        rw [hch.rest]
        rfl
      draining := nofun }
  · exact { hch with
      rest := by
        rw [hch.rest]
        rfl
      lastFinalizeMs := .inl rfl }

/-- A reset slot keeps only its cooldown. -/
theorem ChannelSlot.Synced.reset {c : UInt32} {ch ch' : ChannelSlot} (h : Synced c ch ch') :
    Synced c ch.reset ch'.reset :=
  { synced_fresh c with
    rest := by
      rw [h.rest]
      rfl
    lastFinalizeMs := h.lastFinalizeMs }

theorem inStep_reset : InStep k (modifySlot (·.reset)) (modifySlot (·.reset)) :=
  inStep_change fun _ _ h ↦ h.reset

theorem inStep_bindSlot (h : Handle) (fd : Int) (toLocal toRemote : DataRingBuffer) :
    InStep k (bindSlot h fd toLocal toRemote) (bindSlot h fd toLocal toRemote) := by
  refine (inStep_change fun ch ch' hch ↦ ?_).bindAlike fun _ ↦ abreast_millis_bind fun now ↦ ?_
  · exact { hch.reset with
      rest := by
        rw [hch.rest]
        rfl
      draining := nofun }
  · refine (inStep_store fun ch ch' hch ↦ ?_).bindAlike fun _ ↦
      (stamped_mark _ _).bindAlike fun _ ↦ (inStep_io _).bindAlike fun _ ↦ inStep_pure _
    exact { hch.toShifted with
      rest := by
        rw [hch.rest]
        rfl
      lastActivity := .inl rfl
      lastSuccessfulWrite := .inl rfl
      lastSuccessfulRead := .inl rfl }

/-! ### Phase 1 -/

theorem inStep_readInto (h : Handle) (n : ℕ) : InStep k (readInto h n) (readInto h n) := by
  refine (inStep_io _).bindAlike fun r ↦ ?_
  split
  · exact (abreast_fill _).bindAlike fun _ ↦ inStep_pure _
  · exact inStep_pure _

/-- After a successful read the slot is stamped. -/
theorem abreast_storeChunk (b : DataRingBuffer) (rc : ℕ) :
    SlotAbreast k (SyncedCtx k) (storeChunk b rc) (storeChunk b rc) (Alike (ShiftedCtx k)) := by
  refine (abreast_workBytes _).bindAlike fun bs ↦
    (inStep_modifySlot (fun _ _ ↦ by exact ⟨rfl, rfl, rfl⟩)).bindAlike fun _ ↦ ?_
  refine (abreast_addMoved _).bindAlike fun _ ↦ abreast_millis_bind fun now ↦
    inStep_store fun ch ch' hch ↦ ?_
  exact { hch.toShifted with
    rest := by
      rw [hch.rest]
      rfl
    lastSuccessfulRead := .inl rfl
    lastActivity := .inl rfl
    firstEagainMs := .inr ⟨rfl, rfl⟩ }

theorem inStep_countError : InStep k countError countError := by
  refine (inStep_modifySlot (fun _ _ ↦ by exact ⟨rfl, rfl, rfl⟩)).bindAlike fun _ ↦
    (inStep_mark _ _).bindAlike fun _ ↦ ?_
  exact abreast_slot_bind fun ch t _ ↦ Abreast.when rfl fun _ ↦ inStep_beginClose _

theorem inStep_readEnded (rc : Int) : InStep k (readEnded rc) (readEnded rc) :=
  Abreast.ite Iff.rfl (fun _ ↦ inStep_mark _ _) fun _ ↦
    Abreast.ite Iff.rfl (fun _ ↦ inStep_setAndStep (fun _ _ ↦ by exact ⟨rfl, rfl, rfl⟩)) fun _ ↦
      inStep_countError

theorem inStep_pumpRead (h : Handle) (n : ℕ) : InStep k (pumpRead h n) (pumpRead h n) :=
  (inStep_io _).bindAlike fun _ ↦ inStep_mark _ _

theorem inStep_pausedRead (h : Handle) (b : DataRingBuffer) :
    InStep k (pausedRead h b) (pausedRead h b) := by
  refine Abreast.ite Iff.rfl (fun _ ↦ ?_) fun _ ↦ inStep_pure _
  refine (inStep_readInto _ _).bindAlike fun r ↦ ?_
  dsimp only
  split
  · exact (abreast_storeChunk _ _).bindAlike fun _ ↦ (stamped_mark _ _).bindAlike fun _ ↦
      inStep_pure _
  · exact (inStep_readEnded _).bindAlike fun _ ↦ inStep_pure _

/-- A stamped slot is read for its rings only. -/
theorem stamped_slot_bind {α : Type} {f : ChannelSlot → SlotM α} {Q : α → α → Ctx → Ctx → Prop}
    (hf : ∀ ch t, f (ch.restamp t) = f ch) (h : ∀ ch, SlotAbreast k (ShiftedCtx k) (f ch) (f ch) Q) :
    SlotAbreast k (ShiftedCtx k) (SlotM.slot >>= f) (SlotM.slot >>= f) Q := by
  refine Abreast.bind (abreast_slot fun _ _ hc ↦ hc.ch) fun ch ch' e s s' hclock hserial hp ↦ ?_
  obtain ⟨hch, hp⟩ := hp
  rw [hch.rest, hf]
  exact h ch e s s' hclock hserial hp

theorem inStep_readAttempt (h : Handle) : InStep k (readAttempt p h) (readAttempt p h) := by
  refine abreast_slot_bind fun ch t _ ↦ ?_
  rcases hb : ch.toLocal with - | b
  · simp only [restamp_toLocal, hb]
    exact inStep_pure _
  · simp only [restamp_toLocal, hb]
    refine Abreast.ite Iff.rfl (fun _ ↦ ?_) fun _ ↦ (inStep_readInto _ _).bindAlike fun r ↦ ?_
    · exact (inStep_modifySlot (fun _ _ ↦ by exact ⟨rfl, rfl, rfl⟩)).bindAlike fun _ ↦
        (inStep_mark _ _).bindAlike fun _ ↦ inStep_pure _
    · cases r with
      | data bs _ _ =>
        refine (abreast_storeChunk _ _).bindAlike fun _ ↦
          stamped_slot_bind (fun _ _ ↦ rfl) fun ch ↦ Abreast.ite Iff.rfl (fun _ ↦ ?_) fun _ ↦ ?_
        · exact (stamped_modifySlot (fun _ _ ↦ by exact ⟨rfl, rfl, rfl⟩)).bindAlike fun _ ↦
            (stamped_mark _ _).bindAlike fun _ ↦
            inStep_pure _
        · exact (stamped_mark _ _).bindAlike fun _ ↦ inStep_pure _
      | code rc _ => exact (inStep_readEnded _).bindAlike fun _ ↦ inStep_pure _

theorem inStep_checkEofFlag (h : Handle) : InStep k (checkEofFlag h) (checkEofFlag h) := by
  refine abreast_slot_bind fun ch t _ ↦ Abreast.ite Iff.rfl (fun _ ↦ ?_) fun _ ↦ inStep_pure _
  refine (inStep_io _).bindAlike fun eof ↦ Abreast.ite Iff.rfl (fun _ ↦ ?_) fun _ ↦ inStep_mark _ _
  exact inStep_setAndStep (fun _ _ ↦ by exact ⟨rfl, rfl, rfl⟩)

theorem inStep_readChunks (h : Handle) : InStep k (readChunks p h) (readChunks p h) := by
  refine abreast_slot_bind fun ch t _ ↦ ?_
  rcases hb : ch.toLocal with - | b
  · simp only [restamp_toLocal, hb]
    exact inStep_pure _
  · simp only [restamp_toLocal, hb]
    refine (Abreast.attempts (inStep_readAttempt h)).bindAlike fun _ ↦ ?_
    exact (inStep_checkEofFlag h).bindAlike fun _ ↦ inStep_pure _

theorem inStep_pumpSlot : InStep k (pumpSlot p) (pumpSlot p) := by
  refine abreast_slot_bind fun ch t _ ↦ ?_
  rcases hact : ch.active with - | -
  · simp only [restamp_active, hact]
    exact inStep_pure _
  rcases hch : ch.sshChannel with - | h
  · simp only [restamp_active, restamp_sshChannel, hact, hch]
    exact inStep_pure _
  simp only [restamp_active, restamp_sshChannel, hact, hch]
  refine Abreast.ite Iff.rfl (fun _ ↦ ?_) fun _ ↦
    Abreast.ite Iff.rfl (fun _ ↦ ?_) fun _ ↦ inStep_readChunks h
  · exact (inStep_pumpRead h 64).bindAlike fun _ ↦ inStep_pure _
  · rcases hb : ch.toLocal with - | b
    · simp only [restamp_toLocal, hb]
      exact inStep_pure _
    · simp only [restamp_toLocal, hb]
      refine Abreast.ite Iff.rfl (fun _ ↦ ?_) fun _ ↦ inStep_pausedRead h b
      exact (inStep_modifySlot (fun _ _ ↦ by exact ⟨rfl, rfl, rfl⟩)).bindAlike fun _ ↦
        (inStep_mark _ _).bindAlike fun _ ↦
        inStep_readChunks h

/-! ### Phase 2 -/

theorem inStep_sendBusy (bs : List UInt8) : InStep k (sendBusy bs) (sendBusy bs) := by
  refine (inStep_modifySlot (timeless_restoreToLocal bs)).bindAlike fun _ ↦
    abreast_slot_bind fun ch t hch ↦
      Abreast.ite hch.firstLocalSendEagainMs_zero (fun _ ↦ ?_) fun _ ↦ inStep_mark _ _
  refine abreast_millis_bind fun now ↦ (inStep_store fun ch ch' hch ↦ ?_).bindAlike fun _ ↦
    stamped_mark _ _
  exact { hch.toShifted with
    rest := by
      rw [hch.rest]
      rfl
    firstLocalSendEagainMs := .inl rfl }

theorem inStep_sendResult (bs : List UInt8) (sent : SendReply bs.length) :
    InStep k (sendResult bs sent) (sendResult bs sent) := by
  cases sent with
  | accepted n _ _ =>
    refine (abreast_addMoved _).bindAlike fun _ ↦ abreast_millis_bind fun now ↦
      (inStep_store fun ch ch' hch ↦ ?_).bindAlike fun _ ↦
        Abreast.ite Iff.rfl (fun _ ↦ ?_) fun _ ↦ ?_
    · exact { hch.toShifted with
        rest := by
          rw [hch.rest]
          rfl
        lastActivity := .inl rfl
        firstLocalSendEagainMs := .inr ⟨rfl, rfl⟩ }
    · exact (stamped_modifySlot (timeless_restoreToLocal _)).bindAlike fun _ ↦
        (stamped_mark _ _).bindAlike fun _ ↦ inStep_pure _
    · exact (stamped_mark _ _).bindAlike fun _ ↦ inStep_pure _
  | zero => exact (inStep_sendBusy bs).bindAlike fun _ ↦ inStep_pure _
  | fail errno =>
    refine Abreast.ite Iff.rfl (fun _ ↦ ?_) fun _ ↦ (inStep_sendBusy bs).bindAlike fun _ ↦
      inStep_pure _
    exact (inStep_modifySlot (fun _ _ ↦ by exact ⟨rfl, rfl, rfl⟩)).bindAlike fun _ ↦
      (inStep_mark _ _).bindAlike fun _ ↦ inStep_pure _

theorem inStep_sendAttempt : InStep k (sendAttempt p) (sendAttempt p) := by
  refine abreast_slot_bind fun ch t _ ↦ ?_
  rcases hb : ch.toLocal with - | b
  · simp only [restamp_toLocal, hb]
    exact inStep_pure _
  · simp only [restamp_toLocal, hb]
    refine Abreast.ite Iff.rfl (fun _ ↦ inStep_pure _) fun _ ↦ inStep_choose.bindAlike fun cut ↦ ?_
    refine (inStep_modifySlot (fun _ _ ↦ by exact ⟨rfl, rfl, rfl⟩)).bindAlike fun _ ↦
      (abreast_fill _).bindAlike fun _ ↦
      Abreast.ite Iff.rfl (fun _ ↦ inStep_pure _) fun _ ↦ ?_
    exact (abreast_workBytes _).bindAlike fun bs ↦ (inStep_io _).bindAlike fun sent ↦
      inStep_sendResult bs sent

/-- A stall is noticed in both runs or in neither. -/
theorem inStep_checkSendStall : InStep k checkSendStall checkSendStall := by
  refine abreast_slot_bind fun ch t hch ↦ ?_
  have hpos := pos_iff_of_zero_iff hch.firstLocalSendEagainMs_zero
  refine Abreast.ite ?_ (fun hset ↦ ?_) fun _ ↦ inStep_pure _
  · simp only [restamp_firstLocalSendEagainMs, restamp_toLocal, Bool.and_eq_true,
      decide_eq_true_eq] at hpos ⊢
    rw [hpos]
  refine abreast_millis_bind fun now ↦ Abreast.ite ?_ (fun _ ↦ ?_) fun _ ↦ inStep_pure _
  · have hset' : ch.firstLocalSendEagainMs ≠ 0 := by
      have := (Bool.and_eq_true_iff.1 hset).1
      exact UInt32.pos_iff_ne_zero.1 (by simpa using this)
    rw [hch.firstLocalSendEagainMs.elapsed hset']
  refine (Abreast.when rfl fun _ ↦ inStep_beginClose _).bindAlike fun _ ↦
    abreast_millis_bind fun now ↦ (inStep_store fun ch ch' hch ↦ ?_).bindAlike fun _ ↦
      stamped_mark _ _
  exact { hch.toShifted with
    rest := by
      rw [hch.rest]
      rfl
    firstLocalSendEagainMs := .inl rfl }

theorem inStep_drainSlot : InStep k (drainSlot p) (drainSlot p) := by
  refine abreast_slot_bind fun ch t _ ↦ Abreast.ite Iff.rfl (fun _ ↦ inStep_pure _) fun _ ↦ ?_
  exact (Abreast.attempts inStep_sendAttempt).bindAlike fun _ ↦ inStep_checkSendStall

/-! ### Phase 3 -/

theorem inStep_writeBusy (bs : List UInt8) : InStep k (writeBusy bs) (writeBusy bs) := by
  refine (inStep_modifySlot (timeless_restoreToRemote bs)).bindAlike fun _ ↦
    (inStep_modifySlot (fun _ _ ↦ by exact ⟨rfl, rfl, rfl⟩)).bindAlike fun _ ↦
      abreast_slot_bind fun ch t hch ↦
      Abreast.ite hch.firstEagainMs_zero (fun _ ↦ ?_) fun _ ↦ inStep_mark _ _
  refine abreast_millis_bind fun now ↦ (inStep_store fun ch ch' hch ↦ ?_).bindAlike fun _ ↦
    stamped_mark _ _
  exact { hch.toShifted with
    rest := by
      rw [hch.rest]
      rfl
    firstEagainMs := .inl rfl }

theorem inStep_writeResult (bs : List UInt8) (written : WriteReply bs.length) :
    InStep k (writeResult bs written) (writeResult bs written) := by
  cases written with
  | accepted n _ _ =>
    refine (abreast_addMoved _).bindAlike fun _ ↦ abreast_millis_bind fun now ↦
      (inStep_store fun ch ch' hch ↦ ?_).bindAlike fun _ ↦
        Abreast.ite Iff.rfl (fun _ ↦ ?_) fun _ ↦ ?_
    · exact { hch.toShifted with
        rest := by
          rw [hch.rest]
          rfl
        lastSuccessfulWrite := .inl rfl
        lastActivity := .inl rfl
        firstEagainMs := .inr ⟨rfl, rfl⟩ }
    · exact (stamped_modifySlot (timeless_restoreToRemote _)).bindAlike fun _ ↦
        (stamped_mark _ _).bindAlike fun _ ↦ inStep_pure _
    · exact (stamped_mark _ _).bindAlike fun _ ↦ inStep_pure _
  | code rc _ =>
    refine Abreast.ite Iff.rfl (fun _ ↦ ?_) fun _ ↦ ?_
    · exact (inStep_writeBusy bs).bindAlike fun _ ↦ inStep_pure _
    · exact (inStep_modifySlot (timeless_restoreToRemote bs)).bindAlike fun _ ↦
        inStep_countError.bindAlike fun _ ↦ inStep_pure _

theorem inStep_writeAttempt (budget : ℕ) :
    InStep k (writeAttempt p budget) (writeAttempt p budget) := by
  refine abreast_slot_bind fun ch t _ ↦ ?_
  rcases hch : ch.sshChannel with - | h
  · simp only [restamp_sshChannel, hch]
    exact inStep_pure _
  rcases hb : ch.toRemote with - | b
  · simp only [restamp_sshChannel, restamp_toRemote, hch, hb]
    exact inStep_pure _
  simp only [restamp_sshChannel, restamp_toRemote, hch, hb]
  refine Abreast.ite Iff.rfl (fun _ ↦ inStep_choose.bindAlike fun cut ↦ ?_) fun _ ↦ inStep_pure _
  refine (inStep_modifySlot (fun _ _ ↦ by exact ⟨rfl, rfl, rfl⟩)).bindAlike fun _ ↦
    (abreast_fill _).bindAlike fun _ ↦
    Abreast.ite Iff.rfl (fun _ ↦ inStep_pure _) fun _ ↦ ?_
  exact (abreast_workBytes _).bindAlike fun bs ↦ (inStep_io _).bindAlike fun written ↦
    inStep_writeResult bs written

theorem inStep_writeChunks (fuel budget : ℕ) :
    InStep k (writeChunks p fuel budget) (writeChunks p fuel budget) := by
  induction fuel generalizing budget with
  | zero => exact inStep_pure _
  | succ fuel ih =>
    refine (inStep_writeAttempt budget).bindAlike fun written ↦ ?_
    cases written with
    | none => exact inStep_pure _
    | some n => exact ih _

/-- A stall is noticed in both runs or in neither. -/
theorem inStep_checkWriteStall : InStep k checkWriteStall checkWriteStall := by
  refine abreast_slot_bind fun ch t hch ↦
    Abreast.ite (pos_iff_of_zero_iff hch.firstEagainMs_zero) (fun hset ↦ ?_) fun _ ↦ inStep_pure _
  refine abreast_millis_bind fun now ↦ Abreast.ite ?_ (fun _ ↦ ?_) fun _ ↦ inStep_pure _
  · rw [hch.firstEagainMs.elapsed (UInt32.pos_iff_ne_zero.1 hset)]
  refine (Abreast.when rfl fun _ ↦ inStep_beginClose _).bindAlike fun _ ↦
    abreast_millis_bind fun now ↦ (inStep_store fun ch ch' hch ↦ ?_).bindAlike fun _ ↦
      stamped_mark _ _
  exact { hch.toShifted with
    rest := by
      rw [hch.rest]
      rfl
    firstEagainMs := .inl rfl }

theorem inStep_localBackpressure : InStep k localBackpressure localBackpressure := by
  refine abreast_slot_bind fun ch t _ ↦ ?_
  rcases hb : ch.toRemote with - | b
  · simp only [restamp_toRemote, hb]
    exact inStep_pure _
  · simp only [restamp_toRemote, hb]
    refine Abreast.ite Iff.rfl (fun _ ↦ ?_) fun _ ↦ ?_
    · exact Abreast.ite Iff.rfl (fun _ ↦
        inStep_setAndStep (fun _ _ ↦ by exact ⟨rfl, rfl, rfl⟩)) fun _ ↦ inStep_pure _
    · exact Abreast.ite Iff.rfl (fun _ ↦
        inStep_setAndStep (fun _ _ ↦ by exact ⟨rfl, rfl, rfl⟩)) fun _ ↦ inStep_pure _

theorem inStep_localEnded : InStep k localEnded localEnded :=
  inStep_setAndStep (fun _ _ ↦ by exact ⟨rfl, rfl, rfl⟩)

theorem inStep_recvResult (b : DataRingBuffer) {n : ℕ} (recvd : RecvReply n) :
    InStep k (recvResult b recvd) (recvResult b recvd) := by
  cases recvd with
  | data bs _ _ =>
    refine (abreast_fill _).bindAlike fun _ ↦ (abreast_workBytes _).bindAlike fun bs ↦
      (inStep_modifySlot (fun _ _ ↦ by exact ⟨rfl, rfl, rfl⟩)).bindAlike fun _ ↦
        abreast_millis_bind fun now ↦
        (inStep_store fun ch ch' hch ↦ ?_).bindAlike fun _ ↦ ?_
    · exact { hch.toShifted with
        rest := by
          rw [hch.rest]
          rfl
        lastActivity := .inl rfl }
    · exact (abreast_addMoved _).bindAlike fun _ ↦ (stamped_mark _ _).bindAlike fun _ ↦
        inStep_pure _
  | eof => exact inStep_localEnded.bindAlike fun _ ↦ inStep_pure _
  | fail errno =>
    refine Abreast.ite Iff.rfl (fun _ ↦ ?_) fun _ ↦ ?_
    · exact inStep_localEnded.bindAlike fun _ ↦ inStep_pure _
    · exact (inStep_mark _ _).bindAlike fun _ ↦ inStep_pure _

theorem inStep_recvAttempt : InStep k (recvAttempt p) (recvAttempt p) := by
  refine abreast_slot_bind fun ch t _ ↦ Abreast.ite Iff.rfl (fun _ ↦ inStep_pure _) fun _ ↦ ?_
  rcases hb : ch.toRemote with - | b
  · simp only [restamp_toRemote, hb]
    exact inStep_pure _
  · simp only [restamp_toRemote, hb]
    refine Abreast.ite Iff.rfl (fun _ ↦ ?_) fun _ ↦ ?_
    · exact (inStep_modifySlot (fun _ _ ↦ by exact ⟨rfl, rfl, rfl⟩)).bindAlike fun _ ↦
        (inStep_mark _ _).bindAlike fun _ ↦ inStep_pure _
    · exact (inStep_io _).bindAlike fun recvd ↦ inStep_recvResult b recvd

theorem inStep_recvChunks : InStep k (recvChunks p) (recvChunks p) := by
  refine abreast_slot_bind fun ch t hch ↦ Abreast.ite ?_ (fun _ ↦ ?_) fun _ ↦ inStep_pure _
  · have h0 : (t.eofSentMs = 0) = (ch.eofSentMs = 0) := propext hch.eofSentMs_zero
    simp only [restamp_localEof, restamp_localReadPaused, restamp_localSocket, restamp_toRemote,
      restamp_eofSentMs, h0]
  · exact Abreast.attempts inStep_recvAttempt

/-! ### Phase 4 -/

theorem inStep_checkTimers (now : UInt32) :
    InStep k (checkTimers p now) (checkTimers p (now + stamp k)) := by
  refine abreast_slot_bind fun ch t hch ↦ Abreast.ite ?_ (fun _ ↦ inStep_beginClose _) fun _ ↦
    Abreast.ite ?_ (fun _ ↦ inStep_beginClose _) fun _ ↦ inStep_pure _
  · by_cases h0 : ch.lastActivity = 0
    · have h0' : t.lastActivity = 0 := hch.lastActivity_zero.2 h0
      simp [h0, h0']
    · have hpos : (t.lastActivity > 0) = (ch.lastActivity > 0) :=
        propext (pos_iff_of_zero_iff hch.lastActivity_zero)
      have helapsed : now + stamp k - t.lastActivity = now - ch.lastActivity :=
        hch.lastActivity.elapsed h0 now
      simp only [restamp_remoteEof, restamp_localEof, restamp_lastActivity, restamp_toRemote, hpos,
        helapsed]
  · rw [expired_later hch.lastActivity hch.lastActivity_zero]

theorem inStep_forwardEof : InStep k forwardEof forwardEof := by
  refine abreast_slot_bind fun ch t _ ↦ Abreast.ite Iff.rfl (fun _ ↦ ?_) fun _ ↦ inStep_pure _
  exact (inStep_io _).bindAlike fun _ ↦ inStep_modifySlot (fun _ _ ↦ by exact ⟨rfl, rfl, rfl⟩)

theorem inStep_checkSlot (now : UInt32) :
    InStep k (checkSlot p now) (checkSlot p (now + stamp k)) := by
  refine abreast_slot_bind fun ch t _ ↦ Abreast.ite Iff.rfl (fun _ ↦ inStep_pure _) fun _ ↦ ?_
  refine (inStep_mark _ _).bindAlike fun _ ↦
    Abreast.ite Iff.rfl (fun _ ↦ inStep_beginClose _) fun _ ↦
    Abreast.ite Iff.rfl (fun _ ↦ inStep_beginClose _) fun _ ↦
    Abreast.ite Iff.rfl (fun _ ↦ inStep_beginClose _) fun _ ↦ ?_
  exact inStep_forwardEof.bindAlike fun _ ↦ inStep_checkTimers now

theorem inStep_flushAttempt (h : Handle) : InStep k (flushAttempt h) (flushAttempt h) := by
  refine (inStep_io _).bindAlike fun r ↦ ?_
  split
  · exact (inStep_modifySlot (fun _ _ ↦ by exact ⟨rfl, rfl, rfl⟩)).bindAlike fun _ ↦ inStep_pure _
  · exact inStep_pure _

theorem inStep_sendEofSlot : InStep k sendEofSlot sendEofSlot := by
  refine abreast_slot_bind fun ch t _ ↦ ?_
  rcases hch : ch.sshChannel with - | h
  · simp only [restamp_sshChannel, hch]
    exact inStep_pure _
  · simp only [restamp_sshChannel, hch]
    refine (inStep_io _).bindAlike fun rc ↦ Abreast.ite Iff.rfl (fun _ ↦ inStep_mark _ _) fun _ ↦ ?_
    refine (Abreast.attempts (inStep_flushAttempt h)).bindAlike fun _ ↦
      abreast_millis_bind fun now ↦ (inStep_store fun ch ch' hch ↦ ?_).bindAlike fun _ ↦
        (stamped_mark _ _).bindAlike fun _ ↦ inStep_mark _ _
    exact { hch.toShifted with
      rest := by
        rw [hch.rest]
        rfl
      eofSentMs := .inl rfl }

end ReverseTunnel
