import ReverseTunnel.Lifetime.Sound

/-!
# The pump follows the steps

Every program that works on one slot does nothing but steps of its transition system. A program is
executed on its own; `view base l` is the slot as it stands in the local world `l`, when `base` is
what the log held before the program started.

The buffer arithmetic of the pump is done here and only here: what a chunk takes out of the shared
work buffer is what it has just placed there, and what it puts back always fits.
-/

namespace ReverseTunnel

open Traced Clock32 SlotM

/-- The world of a program that works on one slot. -/
abbrev SlotWorld := World Ctx IoCall IoCall.Reply SlotMark

/-- A log entry, without the work buffer. -/
def toSlotItem : Item Ctx IoCall IoCall.Reply SlotMark → SlotItem
  | .call id t c io r => .call id t c.ch io r
  | .mark t c l => .mark t c.ch l

/-- The slot in a local world. -/
def view (base : SlotLog) (l : SlotWorld) : View := ⟨l.st.ch, l.trace.map toSlotItem ++ base, l.clock⟩

section View

variable (base : SlotLog) (l : SlotWorld)

@[simp] theorem view_ch : (view base l).ch = l.st.ch := rfl

@[simp] theorem view_clock : (view base l).clock = l.clock := rfl

@[simp] theorem view_after (c : IoCall) (r : c.Reply) (t : ℕ) :
    view base (l.after c r t) = (view base l).call l.serial t c r := rfl

@[simp] theorem view_wait (t : ℕ) : view base (l.wait t) = (view base l).wait t := rfl

@[simp] theorem view_marked (m : SlotMark) : view base (l.marked m) = (view base l).mark m := rfl

@[simp] theorem view_update (f : Ctx → Ctx) :
    view base (l.update f) = (view base l).set (f l.st).ch := rfl

end View

/-- Any number of chunks of pump work. -/
def Pumps (p : Params) (ext : Bool) : View → View → Prop := Relation.ReflTransGen (PumpStep p ext)

variable {p : Params} {ext : Bool} {base : SlotLog} {l : SlotWorld} {v v' v'' : View}

/-- Nothing is done. -/
theorem Pumps.refl (v : View) : Pumps p ext v v := Relation.ReflTransGen.refl

/-- One thing is done after the other. -/
theorem Pumps.trans (h : Pumps p ext v v') (h' : Pumps p ext v' v'') : Pumps p ext v v'' :=
  Relation.ReflTransGen.trans h h'

/-- A single step. -/
theorem PumpStep.pumps (h : PumpStep p ext v v') : Pumps p ext v v' :=
  Relation.ReflTransGen.single h

/-- No step of the pump changes what the slot was bound with. -/
theorem Pumps.keeps (h : Pumps p ext v v') : Keeps v.ch v'.ch := by
  induction h with
  | refl => exact Keeps.refl _
  | tail _ hstep ih => exact ih.trans hstep.keeps

/-- A sound slot stays sound. -/
theorem Sound.pumps (hv : Sound p v) (h : Pumps p ext v v') : Sound p v' := by
  induction h with
  | refl => exact hv
  | tail _ hstep ih => exact ih.pump hstep

/-- Steps of the pump are part of the work on a slot. -/
theorem Pumps.works (h : Pumps p ext v v') : Works p ext v v' := by
  induction h with
  | refl => exact Relation.ReflTransGen.refl
  | tail _ hstep ih => exact ih.tail (.pump hstep)

/-! ### Rules for the primitives of slot programs -/

section Rules

variable {α : Type} {Q : α → Assertion Ctx IoCall IoCall.Reply SlotMark}

@[simp] theorem wp_slot_bind {f : ChannelSlot → SlotM α} :
    wp (slot >>= f) Q l ↔ wp (f l.st.ch) Q l := by
  simp [slot]

@[simp] theorem wp_modifySlot_bind {g : ChannelSlot → ChannelSlot} {f : Unit → SlotM α} :
    wp (modifySlot g >>= f) Q l ↔ wp (f ()) Q (l.update fun c ↦ { c with ch := g c.ch }) := by
  simp [modifySlot]

@[simp] theorem wp_fill_bind {bs : List UInt8} {f : Unit → SlotM α} :
    wp (fill bs >>= f) Q l ↔
      wp (f ()) Q (l.update fun c ↦ { c with work := bs ++ c.work.drop bs.length }) := by
  simp [fill]

@[simp] theorem wp_addMoved_bind {n : ℕ} {f : Unit → SlotM α} :
    wp (addMoved n >>= f) Q l ↔ wp (f ()) Q (l.update fun c ↦ { c with moved := c.moved + n }) := by
  simp [addMoved]

@[simp] theorem wp_workBytes_bind {n : ℕ} {f : List UInt8 → SlotM α} :
    wp (workBytes n >>= f) Q l ↔ wp (f (l.st.work.take n)) Q l := by
  simp [workBytes]

/-- The bytes at the start of the work buffer, by name. -/
theorem wp_workBytes_of_eq {n : ℕ} {bs : List UInt8} {f : List UInt8 → SlotM α}
    (hw : l.st.work.take n = bs) (h : wp (f bs) Q l) : wp (workBytes n >>= f) Q l := by
  rw [wp_workBytes_bind, hw]
  exact h

/-- The clock is read, and may have gone on. -/
theorem wp_millis_bind {f : UInt32 → SlotM α}
    (h : ∀ t, l.clock ≤ t → wp (f (stamp t)) Q (l.wait t)) : wp (millis >>= f) Q l := by
  rw [millis, wp_bind_assoc]
  refine wp_tick_bind fun t ht ↦ ?_
  rw [wp_pure_bind]
  exact h t ht

end Rules

/-! ### Beginning to close -/

variable (p ext base) in
/-- A slot begins to close, for a cause, or is left as it is. -/
theorem wp_beginClose {reason : ChannelCloseReason}
    (hcause : l.st.ch.active = true → l.st.ch.state = .open → Cause p ext (view base l)) :
    wp (beginClose reason) (fun _ l' ↦ Pumps p ext (view base l) (view base l')) l := by
  rw [beginClose, wp_slot_bind]
  refine wp_ite (fun _ ↦ wp_pure (Pumps.refl _)) fun hcond ↦ ?_
  have hact : l.st.ch.active = true := by
    by_contra hne
    simp [hne] at hcond
  have hopen : l.st.ch.state = .open := by
    rcases hst : l.st.ch.state with - | - | - <;> simp [hst] at hcond ⊢
  rw [wp_mark_bind]
  refine wp_millis_bind fun t ht ↦ ?_
  rw [wp_modifySlot_bind]
  exact wp_mark (PumpStep.begin hact hopen (hcause hact hopen) ht).pumps

/-- The stall timers are not touched by it. -/
theorem wp_beginClose_timers {reason : ChannelCloseReason} :
    wp (beginClose reason) (fun _ l' ↦
      l'.st.ch.firstLocalSendEagainMs = l.st.ch.firstLocalSendEagainMs ∧
        l'.st.ch.firstEagainMs = l.st.ch.firstEagainMs) l := by
  rw [beginClose, wp_slot_bind]
  refine wp_ite (fun _ ↦ wp_pure ⟨rfl, rfl⟩) fun _ ↦ ?_
  rw [wp_mark_bind]
  refine wp_millis_bind fun t _ ↦ ?_
  rw [wp_modifySlot_bind]
  exact wp_mark ⟨rfl, rfl⟩

variable (p ext base) in
/-- An SSH error is counted, and the fourth in a row closes an open slot. -/
theorem wp_countError (h : Pumps p ext v
      (((view base l).set { l.st.ch with
        consecutiveErrors := l.st.ch.consecutiveErrors + 1 }).mark .step)) :
    wp countError (fun _ l' ↦ Pumps p ext v (view base l')) l := by
  rw [countError, wp_modifySlot_bind, wp_mark_bind, wp_slot_bind]
  refine wp_when (fun hcond ↦ ?_) fun _ ↦ h
  have herr : 3 < l.st.ch.consecutiveErrors + 1 := by
    rw [Bool.and_eq_true] at hcond
    exact of_decide_eq_true hcond.1
  exact wp_mono (wp_beginClose _ _ base fun _ _ ↦ .errors herr) fun _ l' hl' ↦ h.trans hl'

/-! ### Putting back what was not taken -/

/-- What is left of a read goes back in front, whole, as long as no more was asked for than the
prepend buffer holds. -/
theorem restoreUnsent_read {b : DataRingBuffer} {n cut k : ℕ} (hb : Shaped p b)
    (hn : n ≤ p.prependCap) (hk : k ≤ (b.read n cut).1.length) :
    (restoreUnsent (b.read n cut).2 ((b.read n cut).1.drop k)).1 =
        ((b.read n cut).1.drop k).length ∧
      Becomes b (restoreUnsent (b.read n cut).2 ((b.read n cut).1.drop k)).2
        (b.content.drop k) := by
  have happend := b.drop_read_append hk
  have hshape := b.sameShape_read n cut
  rw [restoreUnsent]
  split
  · next hz =>
    have hnil : (b.read n cut).1.drop k = [] := List.length_eq_zero_iff.1 hz
    rw [hnil, List.nil_append] at happend
    exact ⟨hz.symm, hshape, happend⟩
  · next hz =>
    have hne : (b.read n cut).1.drop k ≠ [] := fun h ↦ hz (by rw [h]; rfl)
    have hs : b.handle.isSome = true := by
      refine b.isSome_of_content_ne_nil fun hc ↦ hne ?_
      rw [hc, List.drop_nil] at happend
      exact (List.append_eq_nil_iff.1 happend).1
    obtain ⟨hw1, hw2⟩ := b.writeToFront_read (hb.prependCap hs ▸ hn) hk hne
    simp only
    rw [if_pos hw1]
    exact ⟨hw1, hshape.trans (DataRingBuffer.sameShape_writeToFront _), hw2⟩

/-! ### Phase 1 -/

variable (p ext base) in
/-- The result of a read that yielded no bytes. -/
theorem wp_readEnded {h : Handle} {n id t : ℕ} {rc : Int} {hrc : rc ≤ 0}
    (hact : v.ch.active = true) (hh : v.ch.sshChannel = some h) (ht : v.clock ≤ t)
    (hl : view base l = v.call id t (.channelRead h n) (.code rc hrc)) :
    wp (readEnded rc) (fun _ l' ↦ Pumps p ext v (view base l')) l := by
  have hch : l.st.ch = v.ch := congrArg View.ch hl
  rw [readEnded]
  refine wp_ite (fun hagain ↦ wp_mark ?_) fun hagain ↦ wp_ite (fun hzero ↦ ?_) fun hzero ↦ ?_
  · rw [view_marked, hl]
    exact (PumpStep.readAgain hact hh hagain ht).pumps
  · rw [wp_modifySlot_bind]
    refine wp_mark ?_
    rw [view_marked, view_update, hl, hch]
    exact (PumpStep.readEof hact hh hzero ht).pumps
  · refine wp_countError _ _ _ ?_
    rw [hl, hch]
    exact (PumpStep.readError hact hh hzero hagain ht).pumps

/-- The bytes of a read are stored whole, whatever else the chunk then does to the pause flag. -/
theorem PumpStep.readStored {h : Handle} {b : DataRingBuffer} {n t t' : ℕ} {bs : List UInt8}
    (id : ℕ) (hpos : 0 < bs.length) (hle : bs.length ≤ n) (paused : Bool)
    (hact : v.ch.active = true) (hh : v.ch.sshChannel = some h) (heof : v.ch.remoteEof = false)
    (hb : v.ch.toLocal = some b) (hroom : n ≤ b.available) (ht : v.clock ≤ t) (ht' : t ≤ t') :
    PumpStep p ext v ((((v.call id t (.channelRead h n) (.data bs hpos hle)).wait t').set
      { (v.ch.stored b bs).readSucceeded (stamp t') with sshReadPaused := paused }).mark .step) := by
  obtain ⟨hw1, hw2⟩ := DataRingBuffer.write_of_le (b := b) (Nat.le_trans hle hroom)
  have hch : { (v.ch.stored b bs).readSucceeded (stamp t') with sshReadPaused := paused } =
      { v.ch with
        toLocal := some (b.write bs).2
        totalBytesReceived := v.ch.totalBytesReceived + bs.length
        lastSuccessfulRead := stamp t'
        lastActivity := stamp t'
        eagainCount := 0
        firstEagainMs := 0
        consecutiveErrors := 0
        sshReadPaused := paused } := by
    simp [ChannelSlot.stored, ChannelSlot.readSucceeded, hw1]
  rw [hch]
  exact .readData hact hh heof hb ⟨b.sameShape_write bs, hw2⟩ ht ht' hw1

/-- Reading into the work buffer. -/
theorem wp_readInto_bind {α : Type} {Q : α → Assertion Ctx IoCall IoCall.Reply SlotMark}
    {h : Handle} {n : ℕ} {f : ReadReply n → SlotM α}
    (hdata : ∀ bs hpos hle t, l.clock ≤ t →
      wp (f (.data bs hpos hle)) Q ((l.after (.channelRead h n) (.data bs hpos hle) t).update
        fun c ↦ { c with work := bs ++ c.work.drop bs.length }))
    (hcode : ∀ rc hrc t, l.clock ≤ t →
      wp (f (.code rc hrc)) Q (l.after (.channelRead h n) (.code rc hrc) t)) :
    wp (readInto h n >>= f) Q l := by
  rw [readInto, wp_bind_assoc]
  refine wp_call_bind fun r t ht ↦ ?_
  cases r with
  | data bs hpos hle =>
    simp only [wp_bind_assoc, wp_fill_bind, wp_pure_bind]
    exact hdata bs hpos hle t ht
  | code rc hrc =>
    simp only [wp_pure_bind]
    exact hcode rc hrc t ht

variable (p ext base) in
/-- One read of a channel that is not paused and not at its end. A further attempt is made only if its
end was not seen. -/
theorem wp_readAttempt {h : Handle} (hact : l.st.ch.active = true)
    (hh : l.st.ch.sshChannel = some h) (heof : l.st.ch.remoteEof = false) :
    wp (readAttempt p h) (fun again l' ↦ Pumps p ext (view base l) (view base l') ∧
      (again = true → l'.st.ch.remoteEof = false)) l := by
  rw [readAttempt, wp_slot_bind]
  split
  · exact wp_pure ⟨Pumps.refl _, by simp⟩
  · next b hb =>
    refine wp_ite (fun _ ↦ ?_) fun hroom ↦ ?_
    · rw [wp_modifySlot_bind, wp_mark_bind]
      exact wp_pure ⟨(PumpStep.pause true _ hact).pumps, by simp⟩
    · have hn : (if b.available < p.bufSize then b.available else p.bufSize) ≤ b.available := by
        split <;> omega
      refine wp_readInto_bind (fun bs hpos hle t ht ↦ ?_) fun rc hrc t ht ↦ ?_
      · have hstore := fun t' (ht' : t ≤ t') paused ↦
          (PumpStep.readStored (v := view base l) l.serial hpos hle paused hact hh heof hb hn ht
            ht' : PumpStep p ext _ _)
        simp only [storeChunk, wp_bind_assoc, wp_workBytes_bind, wp_modifySlot_bind,
          wp_addMoved_bind, World.update_st, World.after_st, List.take_left]
        refine wp_millis_bind fun t' ht' ↦ ?_
        simp only [wp_modifySlot_bind, wp_slot_bind]
        refine wp_ite (fun _ ↦ ?_) fun _ ↦ ?_
        · simp only [wp_modifySlot_bind, wp_mark_bind]
          exact wp_pure ⟨(hstore t' ht' true).pumps, by simp⟩
        · rw [wp_mark_bind]
          exact wp_pure ⟨(hstore t' ht' l.st.ch.sshReadPaused).pumps, fun _ ↦ heof⟩
      · simp only
        refine wp_bind (wp_mono (wp_readEnded p ext _ (v := view base l)
          hact hh ht rfl) fun _ l' hl' ↦ ?_)
        exact wp_pure ⟨hl', by simp⟩

/-- The read while reading is paused, of 64 bytes at most. -/
theorem wp_pausedRead {h : Handle} {b : DataRingBuffer} (hact : l.st.ch.active = true)
    (hh : l.st.ch.sshChannel = some h) (heof : l.st.ch.remoteEof = false)
    (hb : l.st.ch.toLocal = some b) :
    wp (pausedRead h b) (fun _ l' ↦ Pumps p ext (view base l) (view base l')) l := by
  rw [pausedRead]
  refine wp_ite (fun _ ↦ ?_) fun _ ↦ wp_pure (Pumps.refl _)
  have hn : (if b.available < 64 then b.available else 64) ≤ b.available := by
    split <;> omega
  refine wp_readInto_bind (fun bs hpos hle t ht ↦ ?_) fun rc hrc t ht ↦ ?_
  · simp only [storeChunk, wp_bind_assoc, wp_workBytes_bind, wp_modifySlot_bind,
      wp_addMoved_bind, World.update_st, World.after_st, List.take_left]
    refine wp_millis_bind fun t' ht' ↦ ?_
    simp only [wp_modifySlot_bind, wp_mark_bind]
    exact wp_pure (PumpStep.readStored (v := view base l) l.serial hpos hle l.st.ch.sshReadPaused
      hact hh heof hb hn ht ht').pumps
  · simp only
    refine wp_bind (wp_mono (wp_readEnded p ext _ (v := view base l)
      hact hh ht rfl) fun _ l' hl' ↦ ?_)
    exact wp_pure hl'

variable (p ext base) in
/-- The read of a channel at its end, for the sake of the transport. -/
theorem wp_pumpRead {h : Handle} {n : ℕ} (hact : l.st.ch.active = true)
    (hh : l.st.ch.sshChannel = some h) (heof : l.st.ch.remoteEof = true) :
    wp (pumpRead h n) (fun _ l' ↦ Pumps p ext (view base l) (view base l')) l := by
  rw [pumpRead]
  refine wp_call_bind fun r t ht ↦ wp_mark ?_
  exact (PumpStep.pumpRead (v := view base l) hact hh heof ht).pumps

variable (p ext base) in
/-- The end of the stream may show only after the last read. -/
theorem wp_checkEofFlag {h : Handle} (hact : l.st.ch.active = true)
    (hh : l.st.ch.sshChannel = some h) :
    wp (checkEofFlag h) (fun _ l' ↦ Pumps p ext (view base l) (view base l')) l := by
  rw [checkEofFlag, wp_slot_bind]
  refine wp_ite (fun hcond ↦ ?_) fun _ ↦ wp_pure (Pumps.refl _)
  have heof : l.st.ch.remoteEof = false := by
    rw [Bool.and_eq_true] at hcond
    simpa using hcond.1
  refine wp_call_bind fun r t ht ↦ ?_
  have hstep : Pumps p ext (view base l) ((((view base l).call l.serial t (.channelEof h) r).set
      { (view base l).ch with remoteEof := r }).mark .step) :=
    (PumpStep.eofFlag hact hh heof ht).pumps
  refine wp_ite (fun hr ↦ ?_) fun hr ↦ wp_mark ?_
  · rw [wp_modifySlot_bind]
    refine wp_mark ?_
    rw [hr] at hstep ⊢
    exact hstep
  · rw [Bool.not_eq_true] at hr
    have hsame : { l.st.ch with remoteEof := false } = l.st.ch := by rw [← heof]
    rw [hr, view_ch, hsame] at hstep
    rw [hr]
    exact hstep

variable (p ext base) in
/-- At most four reads, and the look for the end. -/
theorem wp_readChunks {h : Handle} (hact : l.st.ch.active = true)
    (hh : l.st.ch.sshChannel = some h) (heof : l.st.ch.remoteEof = false) :
    wp (readChunks p h) (fun _ l' ↦ Pumps p ext (view base l) (view base l')) l := by
  rw [readChunks, wp_slot_bind]
  split
  · exact wp_pure (Pumps.refl _)
  · refine wp_bind (wp_mono (wp_attempts
      (I := fun l' ↦ Pumps p ext (view base l) (view base l') ∧ l'.st.ch.remoteEof = false)
      (J := fun l' ↦ Pumps p ext (view base l) (view base l')) (fun _ hl' ↦ hl'.1) ?_
      ⟨Pumps.refl _, heof⟩) ?_)
    · rintro l' ⟨hl', heof'⟩
      have hk := hl'.keeps
      refine wp_mono (wp_readAttempt _ ext base (hk.active.trans hact)
        (hk.sshChannel.trans hh) heof') fun again l'' hl'' ↦ ?_
      exact ⟨hl'.trans hl''.1, fun hagain ↦ ⟨hl'.trans hl''.1, hl''.2 hagain⟩⟩
    · intro _ l' hl'
      have hk := hl'.keeps
      refine wp_bind (wp_mono (wp_checkEofFlag p ext base
        (hk.active.trans hact) (hk.sshChannel.trans hh)) fun _ l'' hl'' ↦ ?_)
      exact wp_pure (hl'.trans hl'')

/-- **Phase 1**, for a slot in any state. -/
theorem wp_pumpSlot :
    wp (pumpSlot p) (fun _ l' ↦ Pumps p ext (view base l) (view base l')) l := by
  rw [pumpSlot, wp_slot_bind]
  split
  · next h hact hh =>
    refine wp_ite (fun heof ↦ ?_) fun heof ↦ wp_ite (fun _ ↦ ?_) fun _ ↦ ?_
    · refine wp_bind (wp_mono (wp_pumpRead p ext base hact hh heof)
        fun _ l' hl' ↦ ?_)
      exact wp_pure hl'
    · rw [Bool.not_eq_true] at heof
      split
      · exact wp_pure (Pumps.refl _)
      · next b hb =>
        refine wp_ite (fun _ ↦ ?_) fun _ ↦ wp_pausedRead hact hh heof hb
        rw [wp_modifySlot_bind, wp_mark_bind]
        have hstep : Pumps p ext _ _ :=
          (PumpStep.pause (v := view base l) false l.st.ch.localReadPaused hact).pumps
        refine wp_mono (wp_readChunks _ ext base ?_ ?_ ?_) fun _ l' hl' ↦
          hstep.trans hl'
        · exact hact
        · exact hh
        · exact heof
    · rw [Bool.not_eq_true] at heof
      exact wp_readChunks _ _ _ hact hh heof
  · exact wp_pure (Pumps.refl _)

/-! ### Phase 2 -/

/-- Restoring to `toLocal` when everything fits changes only that ring. -/
theorem ChannelSlot.restoreToLocal_of_eq {ch : ChannelSlot} {b : DataRingBuffer}
    {data : List UInt8} (hb : ch.toLocal = some b) (h : (restoreUnsent b data).1 = data.length) :
    ch.restoreToLocal data = { ch with toLocal := some (restoreUnsent b data).2 } := by
  rw [restoreToLocal, hb]
  simp only [accountRestoreDrop, h, ge_iff_le, Nat.le_refl, if_true]

/-- Restoring to `toRemote` when everything fits changes only that ring. -/
theorem ChannelSlot.restoreToRemote_of_eq {ch : ChannelSlot} {b : DataRingBuffer}
    {data : List UInt8} (hb : ch.toRemote = some b) (h : (restoreUnsent b data).1 = data.length) :
    ch.restoreToRemote data = { ch with toRemote := some (restoreUnsent b data).2 } := by
  rw [restoreToRemote, hb]
  simp only [accountRestoreDrop, h, ge_iff_le, Nat.le_refl, if_true]

/-- What a chunk of phase 2 or 3 takes out of a ring. -/
structure Taken (p : Params) (b b' : DataRingBuffer) (bs : List UInt8) : Prop where
  /-- The next bytes of the ring. -/
  isPrefix : bs <+: b.content
  /-- They are out of it. -/
  becomes : Becomes b b' (b.content.drop bs.length)
  /-- What is not accepted can be put back. -/
  putBack : ∀ k ≤ bs.length, (restoreUnsent b' (bs.drop k)).1 = (bs.drop k).length ∧
    Becomes b (restoreUnsent b' (bs.drop k)).2 (b.content.drop k)

/-- Reading takes bytes out of a ring, whichever of its two parts they come from. -/
theorem taken_read {b : DataRingBuffer} {n : ℕ} (cut : ℕ) (hb : Shaped p b)
    (hn : n ≤ p.prependCap) : Taken p b (b.read n cut).2 (b.read n cut).1 := by
  obtain ⟨m, -, hm, -, h1, h2, hshape, -⟩ := b.read_spec n cut
  have hlen : (b.read n cut).1.length = m := by
    rw [h1, List.length_take]
    omega
  refine ⟨?_, ⟨hshape, by rw [hlen, h2]⟩, fun k hk ↦ restoreUnsent_read hb hn hk⟩
  rw [h1]
  exact List.take_prefix _ _

section Send

variable {b b' : DataRingBuffer} {bs : List UInt8} {t : ℕ}

variable (p ext base) in
/-- The socket is busy. -/
theorem wp_sendBusy {r : SendReply bs.length} (hact : v.ch.active = true)
    (hfd : 0 ≤ v.ch.localSocket) (hb : v.ch.toLocal = some b) (hbs : Taken p b b' bs)
    (hr : r = .zero ∨ ∃ errno, isBusy errno ∧ r = .fail errno) (ht : v.clock ≤ t) {id : ℕ}
    (hl : view base l = (v.set { v.ch with toLocal := some b' }).call id t
      (.send v.ch.localSocket bs) r) :
    wp (sendBusy bs) (fun _ l' ↦ Pumps p ext v (view base l')) l := by
  have hch : l.st.ch = { v.ch with toLocal := some b' } := congrArg View.ch hl
  have hclock : l.clock = t := congrArg View.clock hl
  obtain ⟨hall, hback⟩ := hbs.putBack 0 (Nat.zero_le _)
  rw [List.drop_zero] at hall hback
  rw [List.drop_zero] at hback
  have hrestore : l.st.ch.restoreToLocal bs =
      { v.ch with toLocal := some (restoreUnsent b' bs).2 } := by
    rw [ChannelSlot.restoreToLocal_of_eq (by rw [hch]) hall, hch]
  rw [sendBusy, wp_modifySlot_bind, wp_slot_bind]
  simp only [World.update_st, hrestore]
  refine wp_ite (fun hz ↦ wp_millis_bind fun t' ht' ↦ ?_) fun hz ↦ ?_
  · rw [wp_modifySlot_bind]
    refine wp_mark ?_
    simp only [view_marked, view_update, view_wait, hl, World.wait_st, World.update_st, hrestore]
    rw [World.update_clock, hclock] at ht'
    exact (PumpStep.sendBusy hact hfd hb hback hr ht ht' (.inl ⟨hz, rfl⟩)).pumps
  · refine wp_mark ?_
    simp only [view_marked, view_update, hl, hrestore]
    exact (PumpStep.sendBusy hact hfd hb hback hr ht (Nat.le_refl t) (.inr ⟨hz, rfl⟩)).pumps

/-- The result of a send. -/
theorem wp_sendResult {sent : SendReply bs.length} (hact : v.ch.active = true)
    (hfd : 0 ≤ v.ch.localSocket) (hb : v.ch.toLocal = some b) (hbs : Taken p b b' bs)
    (ht : v.clock ≤ t) {id : ℕ}
    (hl : view base l = (v.set { v.ch with toLocal := some b' }).call id t
      (.send v.ch.localSocket bs) sent) :
    wp (sendResult bs sent) (fun _ l' ↦ Pumps p ext v (view base l')) l := by
  have hch : l.st.ch = { v.ch with toLocal := some b' } := congrArg View.ch hl
  have hclock : l.clock = t := congrArg View.clock hl
  rw [sendResult.eq_def]
  cases sent with
  | accepted k hpos hle =>
    obtain ⟨hall, hback⟩ := hbs.putBack k hle
    simp only [wp_addMoved_bind]
    refine wp_millis_bind fun t' ht' ↦ ?_
    rw [World.update_clock, hclock] at ht'
    rw [wp_modifySlot_bind]
    have hstep : PumpStep p ext v (((((v.set { v.ch with toLocal := some b' }).call id t
        (.send v.ch.localSocket bs) (.accepted k hpos hle)).wait t').set _).mark .step) :=
      .sendData hact hfd hb hbs.isPrefix hback.content hback.shape ht ht'
    have hstep := hstep.pumps
    have hsucc : l.st.ch.sendSucceeded (stamp t') =
        { v.ch with
          toLocal := some b'
          lastActivity := stamp t'
          firstLocalSendEagainMs := 0 } := by
      rw [hch]
      rfl
    refine wp_ite (fun hlt ↦ ?_) fun hge ↦ ?_
    · rw [wp_modifySlot_bind, wp_mark_bind]
      refine wp_pure ?_
      simp only [view_marked, view_update, view_wait, hl, World.update_st, World.wait_st, hsucc]
      rw [ChannelSlot.restoreToLocal_of_eq rfl hall]
      exact hstep
    · rw [wp_mark_bind]
      refine wp_pure ?_
      simp only [view_marked, view_update, view_wait, hl, World.update_st, World.wait_st, hsucc]
      -- nothing is left that the step could put back
      have hnil : bs.drop k = [] := List.drop_eq_nil_of_le (Nat.le_of_not_lt hge)
      have hsame : (restoreUnsent b' (bs.drop k)).2 = b' := by
        rw [hnil, restoreUnsent]
        rfl
      rw [hsame] at hstep
      exact hstep
  | zero =>
    refine wp_bind (wp_mono (wp_sendBusy _ ext _ hact hfd hb hbs (.inl rfl) ht hl)
      fun _ l' hl' ↦ wp_pure hl')
  | fail errno =>
    refine wp_ite (fun hhard ↦ ?_) fun hbusy ↦ ?_
    · rw [wp_modifySlot_bind, wp_mark_bind]
      refine wp_pure ?_
      simp only [view_marked, view_update, hl, hch]
      have hnot : ¬isBusy errno := by
        rw [Bool.and_eq_true] at hhard
        rintro (h | h)
        · exact (of_decide_eq_true hhard.1) h
        · exact (of_decide_eq_true hhard.2) h
      exact (PumpStep.sendFail hact hfd hb hbs.isPrefix hbs.becomes hnot ht).pumps
    · have hbusy' : isBusy errno := by
        rw [isBusy]
        by_contra hne
        rw [not_or] at hne
        exact hbusy (by simp [hne.1, hne.2])
      exact wp_bind (wp_mono (wp_sendBusy _ ext _ hact hfd hb hbs
        (.inr ⟨errno, hbusy', rfl⟩) ht hl) fun _ l' hl' ↦ wp_pure hl')

end Send

variable (p ext base) in
/-- One `send`, of what the ring gives into the work buffer. What is not accepted goes back in front. -/
theorem wp_sendAttempt (hs : Sound p (view base l)) (hact : l.st.ch.active = true)
    (hfd : 0 ≤ l.st.ch.localSocket) :
    wp (sendAttempt p) (fun _ l' ↦ Pumps p ext (view base l) (view base l')) l := by
  rw [sendAttempt, wp_slot_bind]
  split
  · exact wp_pure (Pumps.refl _)
  · next b hb =>
    refine wp_ite (fun _ ↦ wp_pure (Pumps.refl _)) fun hne ↦ ?_
    refine wp_choose_bind fun cut ↦ ?_
    have hn : (if b.size < p.bufSize then b.size else p.bufSize) ≤ p.prependCap := by
      have := p.bufSize_le
      split <;> omega
    have htaken := taken_read cut (hs.shapedLocal b hb) hn
    have hgot : (b.read (if b.size < p.bufSize then b.size else p.bufSize) cut).1 ≠ [] := by
      have hcontent : b.content ≠ [] := fun h ↦ hne (b.empty_iff.2 h)
      refine DataRingBuffer.read_ne_nil ?_ cut hcontent
      have hlen : 0 < b.size := by
        rw [b.size_eq_length]
        exact List.length_pos_iff.2 hcontent
      have := p.bufSize_pos
      split <;> omega
    rw [wp_modifySlot_bind, wp_fill_bind]
    refine wp_ite (fun hz ↦ absurd (List.length_eq_zero_iff.1 hz) hgot) fun _ ↦ ?_
    refine wp_workBytes_of_eq List.take_left (wp_call_bind fun sent t ht ↦ ?_)
    exact wp_sendResult (v := view base l) hact hfd hb htaken ht rfl

variable (p ext base) in
/-- A local socket that has been busy for too long is given up. -/
theorem wp_checkSendStall (hs : Sound p (view base l)) (hact : l.st.ch.active = true) :
    wp checkSendStall (fun _ l' ↦ Pumps p ext (view base l) (view base l')) l := by
  rw [checkSendStall, wp_slot_bind]
  refine wp_ite (fun hcond ↦ wp_millis_bind fun t ht ↦ ?_) fun _ ↦ wp_pure (Pumps.refl _)
  rw [Bool.and_eq_true] at hcond
  have hset : l.st.ch.firstLocalSendEagainMs ≠ 0 := by
    have := of_decide_eq_true hcond.1
    exact fun h ↦ by rw [h] at this; exact absurd this (by decide)
  have hne : held l.st.ch.toLocal ≠ [] := by
    intro h
    rw [(ringEmpty_iff _).2 h] at hcond
    exact absurd hcond.2 (by decide)
  have hwait : Pumps p ext (view base l) (view base (l.wait t)) := (PumpStep.wait ht).pumps
  refine wp_ite (fun hstall ↦ ?_) fun _ ↦ wp_pure hwait
  -- close an open slot, then re-arm the timer
  have hclose : wp (Prog.when (l.st.ch.state = .open) (beginClose .error))
      (fun _ l' ↦ Pumps p ext (view base l) (view base l') ∧
        l'.st.ch.firstLocalSendEagainMs ≠ 0) (l.wait t) := by
    refine wp_when (fun _ ↦ ?_) fun _ ↦ ⟨hwait, hset⟩
    have hset' := (hs.pumps hwait).settled
    refine wp_mono (wp_and (wp_beginClose p ext base fun _ _ ↦
      .sendStall hset' hset hne hstall) wp_beginClose_timers) fun _ l' hl' ↦ ?_
    exact ⟨hwait.trans hl'.1, hl'.2.1.trans_ne hset⟩
  refine wp_bind (wp_mono hclose fun _ l' hl' ↦ wp_millis_bind fun t' ht' ↦ ?_)
  rw [wp_modifySlot_bind]
  exact wp_mark (hl'.1.trans (PumpStep.rearmSend (v := view base l') hl'.2 ht'
    (hl'.1.keeps.active.trans hact)).pumps)

/-- **Phase 2**, for a slot in any state. -/
theorem wp_drainSlot (hs : Sound p (view base l)) :
    wp (drainSlot p) (fun _ l' ↦ Pumps p ext (view base l) (view base l')) l := by
  rw [drainSlot, wp_slot_bind]
  refine wp_ite (fun _ ↦ wp_pure (Pumps.refl _)) fun hcond ↦ ?_
  have hact : l.st.ch.active = true := by
    by_contra hne
    simp [hne] at hcond
  have hfd : 0 ≤ l.st.ch.localSocket := (hs.alive hact).localSocket
  refine wp_bind (wp_mono (wp_attempts
    (I := fun l' ↦ Pumps p ext (view base l) (view base l'))
    (J := fun l' ↦ Pumps p ext (view base l) (view base l')) (fun _ hl' ↦ hl') ?_
    (Pumps.refl _)) ?_)
  · intro l' hl'
    have hk := hl'.keeps
    refine wp_mono (wp_sendAttempt _ ext _ (hs.pumps hl') (hk.active.trans hact)
      (hk.localSocket ▸ hfd)) fun again l'' hl'' ↦ ?_
    exact ⟨hl'.trans hl'', fun _ ↦ hl'.trans hl''⟩
  · intro _ l' hl'
    exact wp_mono (wp_checkSendStall _ ext _ (hs.pumps hl') (hl'.keeps.active.trans hact))
      fun _ l'' hl'' ↦ hl'.trans hl''

/-! ### Phase 3 -/

section Write

variable {h : Handle} {b b' : DataRingBuffer} {bs : List UInt8} {t : ℕ}

variable (p ext base) in
/-- The SSH channel is blocked. -/
theorem wp_writeBusy {rc : Int} {hrc : rc ≤ 0} (hact : v.ch.active = true)
    (hh : v.ch.sshChannel = some h) (heof : v.ch.eofSentMs = 0) (hb : v.ch.toRemote = some b)
    (hbs : Taken p b b' bs) (hagain : rc = errorEagain) (ht : v.clock ≤ t) {id : ℕ}
    (hl : view base l = (v.set { v.ch with toRemote := some b' }).call id t
      (.channelWrite h bs) (.code rc hrc)) :
    wp (writeBusy bs) (fun _ l' ↦ Pumps p ext v (view base l')) l := by
  have hch : l.st.ch = { v.ch with toRemote := some b' } := congrArg View.ch hl
  have hclock : l.clock = t := congrArg View.clock hl
  obtain ⟨hall, hback⟩ := hbs.putBack 0 (Nat.zero_le _)
  rw [List.drop_zero] at hall hback
  rw [List.drop_zero] at hback
  have hrestore : l.st.ch.restoreToRemote bs =
      { v.ch with toRemote := some (restoreUnsent b' bs).2 } := by
    rw [ChannelSlot.restoreToRemote_of_eq (by rw [hch]) hall, hch]
  rw [writeBusy, wp_modifySlot_bind, wp_modifySlot_bind, wp_slot_bind]
  simp only [World.update_st, hrestore]
  refine wp_ite (fun hz ↦ wp_millis_bind fun t' ht' ↦ ?_) fun hz ↦ ?_
  · rw [wp_modifySlot_bind]
    refine wp_mark ?_
    simp only [view_marked, view_update, view_wait, hl, World.wait_st, World.update_st, hrestore]
    rw [World.update_clock, World.update_clock, hclock] at ht'
    exact (PumpStep.writeBusy hact hh heof hb hback hagain ht ht' (.inl ⟨hz, rfl⟩)).pumps
  · refine wp_mark ?_
    simp only [view_marked, view_update, hl, World.update_st, hrestore]
    exact (PumpStep.writeBusy hact hh heof hb hback hagain ht (Nat.le_refl t)
      (.inr ⟨hz, rfl⟩)).pumps

/-- The result of a write. -/
theorem wp_writeResult {written : WriteReply bs.length} (hact : v.ch.active = true)
    (hh : v.ch.sshChannel = some h) (heof : v.ch.eofSentMs = 0) (hb : v.ch.toRemote = some b)
    (hbs : Taken p b b' bs) (ht : v.clock ≤ t) {id : ℕ}
    (hl : view base l = (v.set { v.ch with toRemote := some b' }).call id t
      (.channelWrite h bs) written) :
    wp (writeResult bs written) (fun _ l' ↦ Pumps p ext v (view base l')) l := by
  have hch : l.st.ch = { v.ch with toRemote := some b' } := congrArg View.ch hl
  have hclock : l.clock = t := congrArg View.clock hl
  rw [writeResult.eq_def]
  cases written with
  | accepted k hpos hle =>
    obtain ⟨hall, hback⟩ := hbs.putBack k hle
    simp only [wp_addMoved_bind]
    refine wp_millis_bind fun t' ht' ↦ ?_
    rw [World.update_clock, hclock] at ht'
    rw [wp_modifySlot_bind]
    have hstep : PumpStep p ext v (((((v.set { v.ch with toRemote := some b' }).call id t
        (.channelWrite h bs) (.accepted k hpos hle)).wait t').set _).mark .step) :=
      .writeData hact hh heof hb hbs.isPrefix hback.content hback.shape ht ht'
    have hstep := hstep.pumps
    have hsucc : l.st.ch.writeSucceeded k (stamp t') =
        { v.ch with
          toRemote := some b'
          totalBytesSent := v.ch.totalBytesSent + k
          lastSuccessfulWrite := stamp t'
          lastActivity := stamp t'
          eagainCount := 0
          firstEagainMs := 0
          consecutiveErrors := 0 } := by
      rw [hch]
      rfl
    refine wp_ite (fun hlt ↦ ?_) fun hge ↦ ?_
    · rw [wp_modifySlot_bind, wp_mark_bind]
      refine wp_pure ?_
      simp only [view_marked, view_update, view_wait, hl, World.update_st, World.wait_st, hsucc]
      rw [ChannelSlot.restoreToRemote_of_eq rfl hall]
      exact hstep
    · rw [wp_mark_bind]
      refine wp_pure ?_
      simp only [view_marked, view_update, view_wait, hl, World.update_st, World.wait_st, hsucc]
      -- nothing is left that the step could put back
      have hnil : bs.drop k = [] := List.drop_eq_nil_of_le (Nat.le_of_not_lt hge)
      have hsame : (restoreUnsent b' (bs.drop k)).2 = b' := by
        rw [hnil, restoreUnsent]
        rfl
      rw [hsame] at hstep
      exact hstep
  | code rc hrc =>
    refine wp_ite (fun hagain ↦ ?_) fun hagain ↦ ?_
    · exact wp_bind (wp_mono (wp_writeBusy _ ext _ hact hh heof hb hbs hagain ht hl)
        fun _ l' hl' ↦ wp_pure hl')
    · obtain ⟨hall, hback⟩ := hbs.putBack 0 (Nat.zero_le _)
      rw [List.drop_zero] at hall hback
      rw [List.drop_zero] at hback
      have hrestore : l.st.ch.restoreToRemote bs =
          { v.ch with toRemote := some (restoreUnsent b' bs).2 } := by
        rw [ChannelSlot.restoreToRemote_of_eq (by rw [hch]) hall, hch]
      rw [wp_modifySlot_bind]
      refine wp_bind (wp_mono (wp_countError p ext base (v := v) ?_)
        fun _ l' hl' ↦ wp_pure hl')
      simp only [view_update, hl, World.update_st, hrestore]
      exact (PumpStep.writeError hact hh heof hb hback hagain ht).pumps

end Write

variable (p ext base) in
/-- One write to the channel, within the budget. What is not accepted goes back in front. -/
theorem wp_writeAttempt {budget : ℕ} (hs : Sound p (view base l)) (hact : l.st.ch.active = true)
    (heof : l.st.ch.eofSentMs = 0) :
    wp (writeAttempt p budget) (fun _ l' ↦ Pumps p ext (view base l) (view base l')) l := by
  rw [writeAttempt, wp_slot_bind]
  split
  · next h b hh hb =>
    refine wp_ite (fun hcond ↦ ?_) fun _ ↦ wp_pure (Pumps.refl _)
    rw [Bool.and_eq_true] at hcond
    have hbudget : 0 < budget := of_decide_eq_true hcond.1
    refine wp_choose_bind fun cut ↦ ?_
    have hn : (if budget < p.bufSize then budget else p.bufSize) ≤ p.prependCap := by
      have := p.bufSize_le
      split <;> omega
    have htaken := taken_read cut (hs.shapedRemote b hb) hn
    have hgot : (b.read (if budget < p.bufSize then budget else p.bufSize) cut).1 ≠ [] := by
      have hcontent : b.content ≠ [] := by
        intro h
        rw [b.empty_iff.2 h] at hcond
        exact absurd hcond.2 (by decide)
      refine DataRingBuffer.read_ne_nil ?_ cut hcontent
      have := p.bufSize_pos
      split <;> omega
    rw [wp_modifySlot_bind, wp_fill_bind]
    refine wp_ite (fun hz ↦ absurd (List.length_eq_zero_iff.1 hz) hgot) fun _ ↦ ?_
    refine wp_workBytes_of_eq List.take_left (wp_call_bind fun written t ht ↦ ?_)
    exact wp_writeResult (v := view base l) hact hh heof hb htaken ht rfl
  · exact wp_pure (Pumps.refl _)

/-- As many writes as the budget allows, by induction on their number. -/
theorem wp_writeChunks {fuel budget : ℕ} (hs : Sound p (view base l))
    (hact : l.st.ch.active = true) (heof : l.st.ch.eofSentMs = 0) :
    wp (writeChunks p fuel budget) (fun _ l' ↦ Pumps p ext (view base l) (view base l')) l := by
  induction fuel generalizing budget l with
  | zero => exact wp_pure (Pumps.refl _)
  | succ fuel ih =>
    rw [writeChunks]
    refine wp_bind (wp_mono (wp_writeAttempt _ ext _ hs hact heof) fun written l' hl' ↦ ?_)
    cases written with
    | none => exact wp_pure hl'
    | some k =>
      have hk := hl'.keeps
      exact wp_mono (ih (hs.pumps hl') (hk.active.trans hact) (hk.eofSentMs.trans heof))
        fun _ l'' hl'' ↦ hl'.trans hl''

/-- A channel that has been busy for too long is given up. -/
theorem wp_checkWriteStall (hs : Sound p (view base l)) (hact : l.st.ch.active = true) :
    wp checkWriteStall (fun _ l' ↦ Pumps p ext (view base l) (view base l')) l := by
  rw [checkWriteStall, wp_slot_bind]
  refine wp_ite (fun hcond ↦ wp_millis_bind fun t ht ↦ ?_) fun _ ↦ wp_pure (Pumps.refl _)
  have hset : l.st.ch.firstEagainMs ≠ 0 := by
    exact fun h ↦ by rw [h] at hcond; exact absurd hcond (by decide)
  have hwait : Pumps p ext (view base l) (view base (l.wait t)) := (PumpStep.wait ht).pumps
  refine wp_ite (fun hstall ↦ ?_) fun _ ↦ wp_pure hwait
  have hclose : wp (Prog.when (l.st.ch.state = .open) (beginClose .error))
      (fun _ l' ↦ Pumps p ext (view base l) (view base l') ∧ l'.st.ch.firstEagainMs ≠ 0)
      (l.wait t) := by
    refine wp_when (fun _ ↦ ?_) fun _ ↦ ⟨hwait, hset⟩
    have hset' := (hs.pumps hwait).settled
    refine wp_mono (wp_and (wp_beginClose p ext base fun _ _ ↦
      .writeStall hset' hset hstall) wp_beginClose_timers) fun _ l' hl' ↦ ?_
    exact ⟨hwait.trans hl'.1, hl'.2.2.trans_ne hset⟩
  refine wp_bind (wp_mono hclose fun _ l' hl' ↦ wp_millis_bind fun t' ht' ↦ ?_)
  rw [wp_modifySlot_bind]
  exact wp_mark (hl'.1.trans (PumpStep.rearmWrite (v := view base l') hl'.2 ht'
    (hl'.1.keeps.active.trans hact)).pumps)

/-- Receiving is paused and resumed by the size of `toRemote`. -/
theorem wp_localBackpressure (hact : l.st.ch.active = true) :
    wp localBackpressure (fun _ l' ↦ Pumps p ext (view base l) (view base l')) l := by
  have hpause : ∀ loc, Pumps p ext (view base l)
      (((view base l).set { l.st.ch with localReadPaused := loc }).mark .step) := fun loc ↦
    (PumpStep.pause (v := view base l) l.st.ch.sshReadPaused loc hact).pumps
  rw [localBackpressure, wp_slot_bind]
  split
  · exact wp_pure (Pumps.refl _)
  · refine wp_ite (fun _ ↦ wp_ite (fun _ ↦ ?_) fun _ ↦ wp_pure (Pumps.refl _)) fun _ ↦
      wp_ite (fun _ ↦ ?_) fun _ ↦ wp_pure (Pumps.refl _)
    · rw [wp_modifySlot_bind]
      exact wp_mark (hpause false)
    · rw [wp_modifySlot_bind]
      exact wp_mark (hpause true)

/-- The result of a receive. -/
theorem wp_recvResult {b : DataRingBuffer} {n t : ℕ} {recvd : RecvReply n}
    (hact : v.ch.active = true) (hfd : 0 ≤ v.ch.localSocket) (heof : v.ch.eofSentMs = 0)
    (hb : v.ch.toRemote = some b) (hn : n ≤ b.available) (ht : v.clock ≤ t) {id : ℕ}
    (hl : view base l = v.call id t (.recv v.ch.localSocket n) recvd) :
    wp (recvResult b recvd) (fun _ l' ↦ Pumps p ext v (view base l')) l := by
  have hch : l.st.ch = v.ch := congrArg View.ch hl
  have hclock : l.clock = t := congrArg View.clock hl
  have hend : ∀ {recvd : RecvReply n}, view base l = v.call id t (.recv v.ch.localSocket n) recvd →
      (recvd = .eof ∨ ∃ errno, ¬isBusy errno ∧ recvd = .fail errno) →
      wp localEnded (fun _ l' ↦ Pumps p ext v (view base l')) l := by
    intro recvd hl hr
    rw [localEnded, wp_modifySlot_bind]
    refine wp_mark ?_
    rw [view_marked, view_update, hl, hch]
    exact (PumpStep.recvEnd hact hfd heof hr ht).pumps
  rw [recvResult.eq_def]
  cases recvd with
  | data bs hpos hle =>
    obtain ⟨hw1, hw2⟩ := DataRingBuffer.write_of_le (b := b) (Nat.le_trans hle hn)
    simp only [wp_fill_bind, wp_workBytes_bind, wp_modifySlot_bind, World.update_st,
      List.take_left]
    refine wp_millis_bind fun t' ht' ↦ ?_
    rw [World.update_clock, World.update_clock, hclock] at ht'
    simp only [wp_modifySlot_bind, wp_addMoved_bind, wp_mark_bind]
    refine wp_pure ?_
    simp only [view_marked, view_update, view_wait, hl, hch, World.update_st, World.wait_st,
      ChannelSlot.received, hw1, Nat.sub_self, Nat.add_zero]
    exact (PumpStep.recvData hact hfd heof hb ⟨b.sameShape_write bs, hw2⟩ ht ht').pumps
  | eof =>
    exact wp_bind (wp_mono (hend hl (.inl rfl)) fun _ l' hl' ↦ wp_pure hl')
  | fail errno =>
    refine wp_ite (fun hhard ↦ ?_) fun hbusy ↦ ?_
    · have hnot : ¬isBusy errno := by
        rw [Bool.and_eq_true] at hhard
        rintro (h | h)
        · exact (of_decide_eq_true hhard.1) h
        · exact (of_decide_eq_true hhard.2) h
      exact wp_bind (wp_mono (hend hl (.inr ⟨errno, hnot, rfl⟩)) fun _ l' hl' ↦ wp_pure hl')
    · have hbusy' : isBusy errno := by
        rw [isBusy]
        by_contra hne
        rw [not_or] at hne
        exact hbusy (by simp [hne.1, hne.2])
      rw [wp_mark_bind]
      refine wp_pure ?_
      rw [view_marked, hl]
      exact (PumpStep.recvBusy hact hfd heof hbusy' ht).pumps

variable (p ext base) in
/-- One `recv`, of no more than the ring has room for. -/
theorem wp_recvAttempt (hact : l.st.ch.active = true) (hfd : 0 ≤ l.st.ch.localSocket)
    (heof : l.st.ch.eofSentMs = 0) :
    wp (recvAttempt p) (fun _ l' ↦ Pumps p ext (view base l) (view base l')) l := by
  rw [recvAttempt, wp_slot_bind]
  refine wp_ite (fun _ ↦ wp_pure (Pumps.refl _)) fun _ ↦ ?_
  split
  · exact wp_pure (Pumps.refl _)
  · next b hb =>
    refine wp_ite (fun _ ↦ ?_) fun _ ↦ ?_
    · rw [wp_modifySlot_bind, wp_mark_bind]
      exact wp_pure (PumpStep.pause (v := view base l) l.st.ch.sshReadPaused true hact).pumps
    · have hn : (if b.available < p.bufSize then b.available else p.bufSize) ≤ b.available := by
        split <;> omega
      refine wp_call_bind fun recvd t ht ↦ ?_
      exact wp_recvResult (v := view base l) hact hfd heof hb hn ht rfl

/-- **The second half of phase 3**, for an active slot. -/
theorem wp_recvChunks (hs : Sound p (view base l)) (hact : l.st.ch.active = true) :
    wp (recvChunks p) (fun _ l' ↦ Pumps p ext (view base l) (view base l')) l := by
  rw [recvChunks, wp_slot_bind]
  refine wp_ite (fun hcond ↦ ?_) fun _ ↦ wp_pure (Pumps.refl _)
  have hfd : 0 ≤ l.st.ch.localSocket := (hs.alive hact).localSocket
  have heof : l.st.ch.eofSentMs = 0 := by
    rw [Bool.and_eq_true] at hcond
    exact of_decide_eq_true hcond.2
  refine wp_attempts (I := fun l' ↦ Pumps p ext (view base l) (view base l'))
    (fun _ hl' ↦ hl') ?_ (Pumps.refl _)
  intro l' hl'
  have hk := hl'.keeps
  refine wp_mono (wp_recvAttempt _ ext base (hk.active.trans hact) (hk.localSocket ▸ hfd)
    (hk.eofSentMs.trans heof)) fun again l'' hl'' ↦ ?_
  exact ⟨hl'.trans hl'', fun _ ↦ hl'.trans hl''⟩

/-! ### Phase 4 -/

/-- An entry that completes nothing leaves a reading settled. -/
theorem View.Settled.cons {τ : ℕ} {x : SlotItem} {ch : ChannelSlot} {clock : ℕ}
    (h : v.Settled τ) (hx : isBoundary x = false) (hc : v.clock ≤ clock) :
    View.Settled ⟨ch, x :: v.log, clock⟩ τ := by
  refine ⟨Nat.le_trans h.le_clock hc, fun y hy hb ↦ ?_⟩
  rcases List.mem_cons.1 hy with rfl | hy
  · rw [hx] at hb
    cases hb
  · exact h.boundary_le y hy hb

variable (p ext base) in
/-- The timers are compared with a reading of the clock made at the beginning of the phase. -/
theorem wp_checkTimers {τ : ℕ} (hτ : (view base l).Settled τ) :
    wp (checkTimers p (stamp τ)) (fun _ l' ↦ Pumps p ext (view base l) (view base l')) l := by
  rw [checkTimers, wp_slot_bind]
  refine wp_ite (fun hhalf ↦ ?_) fun _ ↦ wp_ite (fun hexp ↦ ?_) fun _ ↦ wp_pure (Pumps.refl _)
  · simp only [Bool.and_eq_true, decide_eq_true_eq] at hhalf
    obtain ⟨⟨⟨⟨hr, -⟩, -⟩, helapsed⟩, hempty⟩ := hhalf
    exact wp_beginClose _ _ _ fun _ _ ↦ .halfClose hτ hr ((ringEmpty_iff _).1 hempty) helapsed
  · simp only [expired, Bool.and_eq_true, decide_eq_true_eq] at hexp
    exact wp_beginClose _ _ _ fun _ _ ↦ .idle hτ hexp.1.1 hexp.2

variable (p ext base) in
/-- The remote end is forwarded right after the slot was looked at. -/
theorem wp_forwardEof {t₀ : ℕ} {past : SlotLog} {τ : ℕ} (hτ : (view base l).Settled τ)
    (hact : l.st.ch.active = true) (hopen : l.st.ch.state = .open)
    (hboth : (l.st.ch.remoteEof && l.st.ch.localEof) = false)
    (herr : l.st.ch.consecutiveErrors ≤ 5)
    (hlog : (view base l).log = .mark t₀ l.st.ch .checking :: past) :
    wp forwardEof (fun _ l' ↦ Pumps p ext (view base l) (view base l') ∧
      (view base l').Settled τ) l := by
  rw [forwardEof, wp_slot_bind]
  refine wp_ite (fun hfwd ↦ wp_call_bind fun r t ht ↦ wp_modify ?_) fun _ ↦
    wp_pure ⟨Pumps.refl _, hτ⟩
  have hlocal : l.st.ch.localEof = false := by
    have hr : l.st.ch.remoteEof = true := by
      simp only [ChannelSlot.forwardsEof, Bool.and_eq_true] at hfwd
      exact hfwd.1.1.1
    simpa [hr] using hboth
  exact ⟨(PumpStep.forwardEof (v := view base l) hact hopen hlocal herr hfwd hlog ht).pumps,
    hτ.cons rfl ht⟩

/-- **Step 1 of phase 4**, for a slot in any state. -/
theorem wp_checkSlot {τ : ℕ} (hτ : (view base l).Settled τ) :
    wp (checkSlot p (stamp τ)) (fun _ l' ↦ Pumps p ext (view base l) (view base l')) l := by
  rw [checkSlot, wp_slot_bind]
  refine wp_ite (fun _ ↦ wp_pure (Pumps.refl _)) fun hcond ↦ ?_
  simp only [Bool.or_eq_true, not_or, decide_eq_true_eq, Bool.not_eq_true', Bool.not_eq_false,
    ne_eq, not_not] at hcond
  obtain ⟨hact, hopen⟩ := hcond
  rw [wp_mark_bind]
  have hcheck : Pumps p ext (view base l) (view base (l.marked .checking)) :=
    (PumpStep.checking hact hopen).pumps
  have hτ' : (view base (l.marked .checking)).Settled τ := hτ.cons rfl (Nat.le_refl _)
  -- the close transitions are tried in the order of the source
  refine wp_ite (fun hboth ↦ ?_) fun hboth ↦ wp_ite (fun hlocal ↦ ?_) fun _ ↦
    wp_ite (fun herr ↦ ?_) fun herr ↦ ?_
  · rw [Bool.and_eq_true] at hboth
    exact wp_mono (wp_beginClose p ext base fun _ _ ↦
      .bothEof hboth.1 hboth.2) fun _ l' hl' ↦ hcheck.trans hl'
  · simp only [Bool.and_eq_true] at hlocal
    exact wp_mono (wp_beginClose p ext base fun _ _ ↦
      .localDone hlocal.1.1 ((ringEmpty_iff _).1 hlocal.2)) fun _ l' hl' ↦ hcheck.trans hl'
  · exact wp_mono (wp_beginClose p ext base fun _ _ ↦
      .errors (show 3 < l.st.ch.consecutiveErrors by omega)) fun _ l' hl' ↦ hcheck.trans hl'
  · refine wp_bind (wp_mono (wp_forwardEof p ext _ hτ' hact hopen
      (by simpa using hboth) (show l.st.ch.consecutiveErrors ≤ 5 by omega) rfl) fun _ l' hl' ↦ ?_)
    exact wp_mono (wp_checkTimers _ ext _ hl'.2) fun _ l'' hl'' ↦
      (hcheck.trans hl'.1).trans hl''

/-! ### Sending EOF -/

variable (base) in
/-- The reads of the flush. `room` bounds what is still to come. -/
theorem wp_flush {h : Handle} {n : ℕ} {b : DataRingBuffer} (hb : l.st.ch.toLocal = some b)
    (hroom : b.handle.isSome = true → 512 * n ≤ b.available) :
    wp (Prog.attempts n (flushAttempt h)) (fun _ l' ↦ Flush h n (view base l) (view base l')) l := by
  induction n generalizing l b with
  | zero => exact wp_pure .done
  | succ n ih =>
    rw [Prog.attempts, flushAttempt, wp_bind_assoc]
    refine wp_call_bind fun r t ht ↦ ?_
    cases r with
    | code rc hrc =>
      simp only [wp_pure_bind]
      exact wp_pure (.stop ht)
    | data bs hpos hle =>
      simp only [wp_bind_assoc, wp_modifySlot_bind, wp_pure_bind, if_true]
      have hb' : (l.st.ch.toLocal.map fun b ↦ (b.write bs).2) = some (b.write bs).2 := by rw [hb]; rfl
      refine wp_mono (ih (b := (b.write bs).2) hb' fun hs ↦ ?_) fun _ l' hl' ↦ ?_
      · have := hroom ((b.sameShape_write bs).handle ▸ hs)
        rw [DataRingBuffer.available_write]
        omega
      · have hstored : b.handle.isSome = true → (b.write bs).2.content = b.content ++ bs := by
          intro hs
          have := hroom hs
          exact (DataRingBuffer.write_of_le (by omega)).2
        simp only [view_update, view_after, World.after_st, hb'] at hl'
        exact .more ht hb (b.sameShape_write bs) hstored hl'

variable (base) in
/-- **Step 2a of phase 4**, for a slot that has delivered everything: its end is announced, and the flush
follows. -/
theorem wp_sendEofSlot (hs : Sound p (view base l)) (hact : l.st.ch.active = true)
    (hst : l.st.ch.state = .draining) (heof : l.st.ch.eofSentMs = 0)
    (hl : held l.st.ch.toLocal = []) (hr : held l.st.ch.toRemote = []) :
    wp sendEofSlot (fun _ l' ↦ Works p ext (view base l) (view base l')) l := by
  obtain ⟨b, hb⟩ := Option.isSome_iff_exists.1 (hs.alive hact).toLocal
  have hb : l.st.ch.toLocal = some b := hb
  have hroom : b.handle.isSome = true → 512 * 4 ≤ b.available := by
    intro hsome
    have hnil : b.content = [] := by rwa [hb] at hl
    have hcap : b.capacity = p.ringBufferSize := (hs.shapedLocal b hb).capacity
    have := p.ringBufferSize_ge
    rw [b.available_of_content_nil hsome hnil, hcap]
    omega
  rw [sendEofSlot, wp_slot_bind]
  split
  · exact wp_pure Relation.ReflTransGen.refl
  · next h hh =>
    refine wp_call_bind fun rc t ht ↦ ?_
    refine wp_ite (fun hagain ↦ wp_mark ?_) fun hdone ↦ ?_
    · exact Relation.ReflTransGen.single
        (.sendEofAgain (v := view base l) hact hst hh heof hl hr hagain ht)
    · refine wp_bind (wp_mono (wp_flush base hb hroom) fun _ l' hflush ↦ ?_)
      refine wp_millis_bind fun t' ht' ↦ ?_
      rw [wp_modifySlot_bind, wp_mark_bind]
      refine wp_mark (Relation.ReflTransGen.single ?_)
      exact .sendEof (v := view base l) (u := view base l') hact hst hh heof hl hr hdone ht
        hflush ht'

end ReverseTunnel
