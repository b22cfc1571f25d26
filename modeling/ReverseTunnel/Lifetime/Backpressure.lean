import ReverseTunnel.Lifetime.Walk

/-!
# Back-pressure

Each direction of a slot is a **valve**: a ring, and a flag that stops the reading that fills it. The
flag is set above the high mark, and also where the ring reports no room at all; it is cleared below
the low mark only. So a paused direction stays paused for good if its ring holds less than the low mark
and nothing more can come in, and that is what must not be left behind by a visit of the slot.

The marks are compared with `size`, which counts the prepended bytes, and the room comes from
`available`, which does not. The two go together as long as the ring exists: without room it is full,
and a full ring is above every mark. A ring that could not be allocated has no room and holds nothing.
-/

namespace ReverseTunnel

open Traced SlotM

/-- A ring and the flag that stops what fills it. -/
structure Valve where
  /-- The ring. -/
  ring : Option DataRingBuffer
  /-- Nothing is let in. -/
  paused : Bool

/-- `toLocal` and `sshReadPaused` -/
def ChannelSlot.inlet (ch : ChannelSlot) : Valve := ⟨ch.toLocal, ch.sshReadPaused⟩

/-- `toRemote` and `localReadPaused` -/
def ChannelSlot.outlet (ch : ChannelSlot) : Valve := ⟨ch.toRemote, ch.localReadPaused⟩

namespace DataRingBuffer

variable {b : DataRingBuffer}

/-- Draining the ring will pass the low mark. -/
def Laden (b : DataRingBuffer) : Prop := b.capacity * backpressureLowPct / 100 ≤ b.size

instance (b : DataRingBuffer) : Decidable b.Laden := inferInstanceAs (Decidable (_ ≤ _))

/-- The FreeRTOS part never holds more than the capacity. -/
theorem length_handle_le (b : DataRingBuffer) : (b.handle.getD []).length ≤ b.capacity := by
  rcases h : b.handle with - | r
  · exact Nat.zero_le _
  · exact b.fits r h

/-- Put-back bytes may push the size past the capacity, by what the prepend buffer holds. -/
theorem size_le (b : DataRingBuffer) : b.size ≤ b.capacity + b.prepend.cap := by
  have hring := b.length_handle_le
  have hfront := b.prepend_wf.pending_le
  rw [b.size_eq_length, content, List.length_append, b.prepend_wf.length_pendingBytes]
  omega

/-- A ring that was not allocated holds nothing. -/
theorem size_of_handle_none (h : b.handle = none) : b.size = 0 := by
  by_contra hne
  have hcontent : b.content ≠ [] := fun hnil ↦ hne (by rw [b.size_eq_length, hnil]; rfl)
  have hsome := b.isSome_of_content_ne_nil hcontent
  rw [h] at hsome
  cases hsome

theorem not_laden_of_handle_none (h : b.handle = none) (hcap : 8192 ≤ b.capacity) : ¬b.Laden := by
  rw [Laden, size_of_handle_none h, backpressureLowPct]
  omega

theorem available_of_handle_none (h : b.handle = none) : b.available = 0 := by
  rw [available, h]

/-- Without room, a ring that exists is full. -/
theorem laden_of_full (hs : b.handle.isSome = true) (h : b.available = 0) : b.Laden := by
  obtain ⟨r, hr⟩ := Option.isSome_iff_exists.1 hs
  rw [b.available_eq hr] at h
  have hfits := b.fits r hr
  have hsize : r.length ≤ b.size := by
    rw [b.size_eq_length, content, hr, List.length_append, Option.getD_some]
    omega
  rw [Laden, backpressureLowPct]
  omega

theorem laden_of_high (h : b.capacity * backpressureHighPct / 100 < b.size) : b.Laden := by
  rw [backpressureHighPct] at h
  rw [Laden, backpressureLowPct]
  omega

/-- What is stored only adds to the load. -/
theorem Laden.write (h : b.Laden) (data : List UInt8) : (b.write data).2.Laden := by
  have hsize : b.size ≤ (b.write data).2.size := by
    rw [size_eq_length, size_eq_length, (b.write_spec data).2, List.length_append]
    omega
  rw [Laden, (b.sameShape_write data).capacity]
  exact Nat.le_trans h hsize

end DataRingBuffer

/-! ### Valves -/

namespace Valve

variable {cap : ℕ} {v : Valve} {b : DataRingBuffer} {idle : Prop}

/-- The valve is paused over a load only, exactly if the ring exists or nothing would come in
anyway. -/
def Flows (v : Valve) (idle : Prop) : Prop :=
  ∃ b, v.ring = some b ∧ ((v.paused = true → b.Laden) ↔ b.handle.isSome = true ∨ idle)

/-- The ring exists and the valve is paused over a load only. -/
def Working (cap : ℕ) (v : Valve) : Prop :=
  ∃ b, v.ring = some b ∧ b.handle.isSome = true ∧ b.capacity = cap ∧ (v.paused = true → b.Laden)

/-- The ring was not allocated. -/
def Broken (cap : ℕ) (v : Valve) : Prop :=
  ∃ b, v.ring = some b ∧ b.handle = none ∧ b.capacity = cap

theorem Working.flows (h : v.Working cap) : v.Flows idle := by
  obtain ⟨b, hb, hhandle, -, hladen⟩ := h
  exact ⟨b, hb, ⟨fun _ ↦ .inl hhandle, fun _ ↦ hladen⟩⟩

theorem Broken.flows (h : v.Broken cap) (hcap : 8192 ≤ cap) (hidle : v.paused = true ↔ ¬idle) :
    v.Flows idle := by
  obtain ⟨b, hb, hhandle, hcap'⟩ := h
  have hlight : ¬b.Laden := DataRingBuffer.not_laden_of_handle_none hhandle (hcap' ▸ hcap)
  refine ⟨b, hb, ⟨fun hflow ↦ .inr ?_, fun hor hpaused ↦ ?_⟩⟩
  · by_contra hbusy
    exact hlight (hflow (hidle.2 hbusy))
  · rcases hor with hsome | hidle'
    · rw [hhandle] at hsome
      cases hsome
    · exact absurd hidle' (hidle.1 hpaused)

/-- Bytes are stored behind the valve. -/
theorem Working.write (h : v.Working cap) (hb : v.ring = some b) (data : List UInt8) :
    Working cap ⟨some (b.write data).2, v.paused⟩ := by
  obtain ⟨b', hb', hhandle, hcap, hladen⟩ := h
  obtain rfl : b = b' := Option.some.inj (hb.symm.trans hb')
  have hshape := b.sameShape_write data
  exact ⟨_, rfl, hshape.handle.trans hhandle, hshape.capacity.trans hcap,
    fun hpaused ↦ (hladen hpaused).write data⟩

/-- The valve is closed over a load. -/
theorem Working.pause (h : v.Working cap) (hb : v.ring = some b) (hladen : b.Laden) :
    Working cap ⟨v.ring, true⟩ := by
  obtain ⟨b', hb', hhandle, hcap, -⟩ := h
  obtain rfl : b = b' := Option.some.inj (hb.symm.trans hb')
  exact ⟨b, hb, hhandle, hcap, fun _ ↦ hladen⟩

end Valve

/-! ### Phase 1 -/

section Inlet

variable {p : Params} {cap : ℕ} {P : Valve → Prop} {l : SlotWorld} {h : Handle}

/-- The valve towards the local side satisfies `P`. -/
def Inlet (P : Valve → Prop) : Assertion Ctx IoCall IoCall.Reply SlotMark := fun l ↦ P l.st.ch.inlet

theorem inlet_beginClose (reason : ChannelCloseReason) : Preserves (Inlet P) (beginClose reason) := by
  intro l hl
  rw [beginClose, wp_slot_bind]
  refine wp_ite (fun _ ↦ wp_pure hl) fun _ ↦ ?_
  rw [wp_mark_bind]
  refine wp_millis_bind fun t _ ↦ ?_
  rw [wp_modifySlot_bind]
  exact wp_mark hl

theorem inlet_countError : Preserves (Inlet P) countError := by
  intro l hl
  rw [countError, wp_modifySlot_bind, wp_mark_bind, wp_slot_bind]
  exact wp_when (fun _ ↦ inlet_beginClose _ _ hl) fun _ ↦ hl

theorem inlet_readEnded (rc : Int) : Preserves (Inlet P) (readEnded rc) := by
  intro l hl
  rw [readEnded]
  refine wp_ite (fun _ ↦ wp_mark hl) fun _ ↦ wp_ite (fun _ ↦ ?_) fun _ ↦ inlet_countError _ hl
  rw [wp_modifySlot_bind]
  exact wp_mark hl

theorem inlet_checkEofFlag : Preserves (Inlet P) (checkEofFlag h) := by
  intro l hl
  rw [checkEofFlag, wp_slot_bind]
  refine wp_ite (fun _ ↦ wp_call_bind fun eof t _ ↦ ?_) fun _ ↦ wp_pure hl
  refine wp_ite (fun _ ↦ ?_) fun _ ↦ wp_mark hl
  rw [wp_modifySlot_bind]
  exact wp_mark hl

/-- A read only fills the work buffer. -/
theorem wp_readInto_inlet {α : Type} {n : ℕ} {f : ReadReply n → SlotM α}
    {Q : α → Assertion Ctx IoCall IoCall.Reply SlotMark}
    (hf : ∀ r l', l'.st.ch = l.st.ch → wp (f r) Q l') : wp (readInto h n >>= f) Q l := by
  rw [readInto, wp_bind_assoc]
  refine wp_call_bind fun r t _ ↦ ?_
  rcases r with ⟨bs, hpos, hle⟩ | ⟨rc, hrc⟩
  · rw [wp_bind_assoc, wp_fill_bind, wp_pure_bind]
    exact hf _ _ rfl
  · rw [wp_pure_bind]
    exact hf _ _ rfl

theorem wp_storeChunk_working {b : DataRingBuffer} {rc : ℕ} (hw : Inlet (Valve.Working cap) l)
    (hb : l.st.ch.toLocal = some b) :
    wp (storeChunk b rc) (fun _ ↦ Inlet (Valve.Working cap)) l := by
  rw [storeChunk, wp_workBytes_bind, wp_modifySlot_bind, wp_addMoved_bind]
  refine wp_millis_bind fun t _ ↦ wp_modify ?_
  exact hw.write hb _

theorem wp_pausedRead_working {b : DataRingBuffer} (hw : Inlet (Valve.Working cap) l)
    (hb : l.st.ch.toLocal = some b) :
    wp (pausedRead h b) (fun _ ↦ Inlet (Valve.Working cap)) l := by
  rw [pausedRead]
  refine wp_ite (fun _ ↦ wp_readInto_inlet fun r l₁ hch ↦ ?_) fun _ ↦ wp_pure hw
  have hw₁ : Inlet (Valve.Working cap) l₁ := by
    rw [Inlet, hch]
    exact hw
  rw [← hch] at hb
  rcases r with ⟨bs, hpos, hle⟩ | ⟨rc, hrc⟩
  · refine wp_bind (wp_mono (wp_storeChunk_working hw₁ hb) fun _ l₂ h₂ ↦ ?_)
    rw [wp_mark_bind]
    exact wp_pure h₂
  · exact wp_bind (wp_mono (inlet_readEnded rc l₁ hw₁) fun _ l₂ h₂ ↦ wp_pure h₂)

theorem working_readAttempt : Preserves (Inlet (Valve.Working cap)) (readAttempt p h) := by
  intro l hw
  obtain ⟨b, hb, hhandle, hcap, -⟩ := id hw
  have hring : l.st.ch.toLocal = some b := hb
  rw [readAttempt, wp_slot_bind, hring]
  refine wp_ite (fun hfull ↦ ?_) fun _ ↦ wp_readInto_inlet fun r l₁ hch ↦ ?_
  · rw [wp_modifySlot_bind, wp_mark_bind]
    exact wp_pure (Valve.Working.pause hw hb (DataRingBuffer.laden_of_full hhandle hfull))
  have hw₁ : Inlet (Valve.Working cap) l₁ := by
    rw [Inlet, hch]
    exact hw
  rw [← hch] at hring
  rcases r with ⟨bs, hpos, hle⟩ | ⟨rc, hrc⟩
  · refine wp_bind (wp_mono (wp_storeChunk_working hw₁ hring) fun _ l₂ h₂ ↦ ?_)
    rw [wp_slot_bind]
    refine wp_ite (fun hhigh ↦ ?_) fun _ ↦ ?_
    · obtain ⟨b₂, hb₂, -, hcap₂, -⟩ := id h₂
      have hring₂ : l₂.st.ch.toLocal = some b₂ := hb₂
      rw [hring₂, hcap.trans hcap₂.symm] at hhigh
      rw [wp_modifySlot_bind, wp_mark_bind]
      exact wp_pure (Valve.Working.pause h₂ hb₂ (DataRingBuffer.laden_of_high hhigh))
    · rw [wp_mark_bind]
      exact wp_pure h₂
  · exact wp_bind (wp_mono (inlet_readEnded rc l₁ hw₁) fun _ l₂ h₂ ↦ wp_pure h₂)

theorem working_readChunks : Preserves (Inlet (Valve.Working cap)) (readChunks p h) := by
  intro l hw
  obtain ⟨b, hb, -⟩ := id hw
  have hring : l.st.ch.toLocal = some b := hb
  rw [readChunks, wp_slot_bind, hring]
  refine wp_bind (wp_mono (Preserves.attempts working_readAttempt l hw) fun _ l₁ h₁ ↦ ?_)
  exact wp_bind (wp_mono (inlet_checkEofFlag l₁ h₁) fun _ l₂ h₂ ↦ wp_pure h₂)

/-- A ring that was not allocated is found full at once. -/
theorem broken_readChunks :
    Triple (Inlet (Valve.Broken cap)) (readChunks p h)
      fun _ ↦ Inlet fun v ↦ v.Broken cap ∧ v.paused = true := by
  intro l hv
  obtain ⟨b, hb, hhandle, -⟩ := id hv
  have hring : l.st.ch.toLocal = some b := hb
  have hfull : b.available = 0 := DataRingBuffer.available_of_handle_none hhandle
  rw [readChunks, wp_slot_bind, hring]
  have hattempt : wp (readAttempt p h)
      (fun again l' ↦ again = false ∧ Inlet (fun v ↦ v.Broken cap ∧ v.paused = true) l')
      l := by
    rw [readAttempt, wp_slot_bind, hring]
    refine wp_ite (fun _ ↦ ?_) fun hroom ↦ absurd hfull hroom
    rw [wp_modifySlot_bind, wp_mark_bind]
    exact wp_pure ⟨rfl, hv, rfl⟩
  refine wp_bind (wp_bind (wp_mono hattempt ?_))
  rintro _ l₁ ⟨rfl, h₁⟩
  exact wp_pure (wp_bind (wp_mono (inlet_checkEofFlag l₁ h₁) fun _ l₂ h₂ ↦ wp_pure h₂))

/-- **Phase 1** leaves the valve of a slot it serves in order. -/
theorem wp_pumpSlot_flows {b : DataRingBuffer} (hact : l.st.ch.active = true)
    (hh : l.st.ch.sshChannel = some h) (heof : l.st.ch.remoteEof = false)
    (hring : l.st.ch.toLocal = some b) (hcap : 8192 ≤ b.capacity) :
    wp (pumpSlot p) (fun _ ↦ Inlet (Valve.Flows · False)) l := by
  rcases hhandle : b.handle with - | r
  · have hv : l.st.ch.inlet.Broken b.capacity := ⟨b, hring, hhandle, rfl⟩
    have hlight : b.size < b.capacity * backpressureLowPct / 100 :=
      Nat.lt_of_not_le (DataRingBuffer.not_laden_of_handle_none hhandle hcap)
    have hread : ∀ l', l'.st.ch.inlet.Broken b.capacity →
        wp (readChunks p h) (fun _ ↦ Inlet (Valve.Flows · False)) l' := fun l' hl' ↦
      wp_mono (broken_readChunks l' hl') fun _ _ h' ↦
        h'.1.flows hcap ⟨fun _ ↦ not_false, fun _ ↦ h'.2⟩
    rw [pumpSlot, wp_slot_bind, hact, hh]
    refine wp_ite (fun hno ↦ by rw [heof] at hno; cases hno) fun _ ↦
      wp_ite (fun _ ↦ ?_) fun _ ↦ hread l hv
    rw [hring]
    refine wp_ite (fun _ ↦ ?_) fun hheavy ↦ absurd hlight hheavy
    rw [wp_modifySlot_bind, wp_mark_bind]
    exact hread _ hv
  · have hsome : b.handle.isSome = true := by rw [hhandle]; rfl
    have hflows : wp (pumpSlot p) (fun _ ↦ Inlet (Valve.Working b.capacity)) l := by
      rw [pumpSlot, wp_slot_bind, hact, hh]
      refine wp_ite (fun hno ↦ by rw [heof] at hno; cases hno) fun _ ↦
        wp_ite (fun _ ↦ ?_) fun hopen ↦ ?_
      · rw [hring]
        refine wp_ite (fun _ ↦ ?_) fun hheavy ↦ ?_
        · rw [wp_modifySlot_bind, wp_mark_bind]
          exact working_readChunks _ ⟨b, hring, hsome, rfl, fun hno ↦ by cases hno⟩
        · exact wp_pausedRead_working ⟨b, hring, hsome, rfl, fun _ ↦ Nat.le_of_not_lt hheavy⟩ hring
      · exact working_readChunks _ ⟨b, hring, hsome, rfl, fun hno ↦ absurd hno hopen⟩
    exact wp_mono hflows fun _ _ h' ↦ Valve.Working.flows h'

end Inlet

/-! ### Phase 3 -/

section Outlet

variable {p : Params} {cap : ℕ} {l : SlotWorld} {b : DataRingBuffer}

/-- The valve towards the remote side satisfies `P`. -/
def Outlet (P : Valve → Prop) : Assertion Ctx IoCall IoCall.Reply SlotMark :=
  fun l ↦ P l.st.ch.outlet

/-- The flag is brought in line with the load. -/
theorem wp_localBackpressure_laden (hring : l.st.ch.toRemote = some b) :
    wp localBackpressure (fun _ l' ↦
      l'.st.ch = { l.st.ch with localReadPaused := l'.st.ch.localReadPaused } ∧
        (l'.st.ch.localReadPaused = true → b.Laden)) l := by
  rw [localBackpressure, wp_slot_bind, hring]
  refine wp_ite (fun _ ↦ wp_ite (fun _ ↦ ?_) fun hheavy ↦ ?_) fun hopen ↦
    wp_ite (fun hhigh ↦ ?_) fun _ ↦ ?_
  · rw [wp_modifySlot_bind]
    exact wp_mark ⟨rfl, fun hno ↦ by cases hno⟩
  · exact wp_pure ⟨rfl, fun _ ↦ Nat.le_of_not_lt hheavy⟩
  · rw [wp_modifySlot_bind]
    exact wp_mark ⟨rfl, fun _ ↦ DataRingBuffer.laden_of_high hhigh⟩
  · exact wp_pure ⟨rfl, fun hno ↦ absurd hno hopen⟩

theorem wp_recvResult_working {n : ℕ} {recvd : RecvReply n}
    (hw : Outlet (Valve.Working cap) l) (hring : l.st.ch.toRemote = some b) :
    wp (recvResult b recvd) (fun _ ↦ Outlet (Valve.Working cap)) l := by
  rcases recvd with ⟨bs, hpos, hle⟩ | - | errno
  · rw [recvResult, wp_fill_bind, wp_workBytes_bind, wp_modifySlot_bind]
    refine wp_millis_bind fun t _ ↦ ?_
    rw [wp_modifySlot_bind, wp_addMoved_bind, wp_mark_bind]
    exact wp_pure (Valve.Working.write hw hring _)
  · rw [recvResult, localEnded, wp_bind_assoc, wp_modifySlot_bind, wp_mark_bind]
    exact wp_pure hw
  · refine wp_ite (fun _ ↦ ?_) fun _ ↦ ?_
    · rw [localEnded, wp_bind_assoc, wp_modifySlot_bind, wp_mark_bind]
      exact wp_pure hw
    · rw [wp_mark_bind]
      exact wp_pure hw

theorem working_recvAttempt : Preserves (Outlet (Valve.Working cap)) (recvAttempt p) := by
  intro l hw
  obtain ⟨b, hb, hhandle, -⟩ := id hw
  have hring : l.st.ch.toRemote = some b := hb
  rw [recvAttempt, wp_slot_bind]
  refine wp_ite (fun _ ↦ wp_pure hw) fun _ ↦ ?_
  rw [hring]
  refine wp_ite (fun hfull ↦ ?_) fun _ ↦ wp_call_bind fun recvd t _ ↦ ?_
  · rw [wp_modifySlot_bind, wp_mark_bind]
    exact wp_pure (Valve.Working.pause hw hb (DataRingBuffer.laden_of_full hhandle hfull))
  · exact wp_recvResult_working (l := l.after _ recvd t) hw hring

/-- A ring that was not allocated is found full, if anything is to be received at all. -/
theorem wp_recvChunks_broken (hring : l.st.ch.toRemote = some b) (hhandle : b.handle = none)
    (hcap : 8192 ≤ b.capacity) (hfd : 0 ≤ l.st.ch.localSocket) (heof : l.st.ch.eofSentMs = 0)
    (hopen : l.st.ch.localReadPaused = false) :
    wp (recvChunks p) (fun _ l' ↦ l'.st.ch.outlet.Flows (l'.st.ch.localEof = true)) l := by
  have hv : l.st.ch.outlet.Broken b.capacity := ⟨b, hring, hhandle, rfl⟩
  have hfull : b.available = 0 := DataRingBuffer.available_of_handle_none hhandle
  rw [recvChunks, wp_slot_bind, hopen, hring, heof]
  rcases hlocal : l.st.ch.localEof with - | -
  · refine wp_ite (fun _ ↦ wp_bind ?_) fun hno ↦ absurd (by simp [hfd]) hno
    rw [recvAttempt, wp_slot_bind, hlocal, hopen]
    refine wp_ite (fun hno ↦ by cases hno) fun _ ↦ ?_
    rw [hring]
    refine wp_ite (fun _ ↦ ?_) fun hroom ↦ absurd hfull hroom
    rw [wp_modifySlot_bind, wp_mark_bind]
    refine wp_pure (wp_pure (Valve.Broken.flows hv hcap ⟨fun _ ↦ ?_, fun _ ↦ rfl⟩))
    show ¬l.st.ch.localEof = true
    rw [hlocal]
    exact Bool.false_ne_true
  · refine wp_ite (fun hno ↦ by cases hno) fun _ ↦ wp_pure (hv.flows hcap ?_)
    refine ⟨fun hpaused ↦ ?_, fun hno ↦ absurd hlocal hno⟩
    have hpaused : l.st.ch.localReadPaused = true := hpaused
    rw [hopen] at hpaused
    cases hpaused

/-- **Phase 3** leaves the valve of a slot it serves in order. -/
theorem wp_recvChunks_flows (hring : l.st.ch.toRemote = some b) (hcap : 8192 ≤ b.capacity)
    (hfd : 0 ≤ l.st.ch.localSocket) (heof : l.st.ch.eofSentMs = 0)
    (hladen : l.st.ch.localReadPaused = true → b.Laden) :
    wp (recvChunks p) (fun _ l' ↦ l'.st.ch.outlet.Flows (l'.st.ch.localEof = true)) l := by
  rcases hhandle : b.handle with - | r
  · refine wp_recvChunks_broken hring hhandle hcap hfd heof ?_
    by_contra hpaused
    exact DataRingBuffer.not_laden_of_handle_none hhandle hcap
      (hladen (Bool.of_not_eq_false hpaused))
  · have hw : Outlet (Valve.Working b.capacity) l := ⟨b, hring, by rw [hhandle]; rfl, rfl, hladen⟩
    rw [recvChunks, wp_slot_bind]
    refine wp_ite (fun _ ↦ ?_) fun _ ↦ wp_pure (Valve.Working.flows hw)
    exact wp_mono (Preserves.attempts working_recvAttempt l hw) fun _ _ h' ↦ Valve.Working.flows h'

end Outlet

/-! ### What the notes say -/

/-- What holds where a note is made. -/
def Note.says : Note → SSHTunnel → Prop
  | .pumped i, s => (s.channels.slots i).inlet.Flows False
  | .drained i, s => (s.channels.slots i).outlet.Flows ((s.channels.slots i).localEof = true)
  | _, _ => True

end ReverseTunnel
