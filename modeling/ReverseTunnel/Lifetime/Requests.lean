import ReverseTunnel.Lib.History
import ReverseTunnel.Lifetime.Walk

/-!
# What work on a slot asks for

Two rules for the calls that a program for one slot makes, read off its log. `SiteOk` says how many
bytes a call asks for, given the slot it is made on: each of the places that read, receive, send or
write takes the size of its request from the ring and from the work buffer. The reads of the EOF flush
follow `channelSendEof` directly, which is how a log tells them from the others (`inFlush`). And a
program that runs without the session lock passes no channel to libssh2.
-/

namespace ReverseTunnel

open Traced SlotM

/-- The last entries are `channelSendEof` and the reads that follow it. -/
def inFlush : SlotLog → Bool
  | .call _ _ _ (.channelSendEof _) _ :: _ => true
  | .call _ _ _ (.channelRead _ _) _ :: past => inFlush past
  | _ => false

/-- The size of a request, outside the EOF flush. A read of a channel at its end is made for the sake
of the transport, and its bytes are not kept. -/
def SiteOk (p : Params) (ch : ChannelSlot) : IoCall → Prop
  | .channelRead _ n => ch.remoteEof = true ∨ ∃ b, ch.toLocal = some b ∧
      n = min b.available (if ch.sshReadPaused then 64 else p.bufSize)
  | .recv _ n => ∃ b, ch.toRemote = some b ∧ n = min b.available p.bufSize
  | .send _ bs | .channelWrite _ bs => bs.length ≤ p.bufSize
  | _ => True

/-- What a program may do that runs with the session lock, or without it. -/
def SlotRule (p : Params) (locked : Bool) (x : SlotItem) (past : SlotLog) : Prop :=
  match x with
  | .call _ _ ch c _ =>
    (locked = false → c.handle = none) ∧ (inFlush past = true ∨ SiteOk p ch c)
  | .mark _ _ _ => True

/-- A program for a slot has kept the rule so far. -/
def Locally (p : Params) (locked : Bool) : Assertion Ctx IoCall IoCall.Reply SlotMark :=
  fun l ↦ History.Always (SlotRule p locked) (l.trace.map toSlotItem)

variable {p : Params} {locked : Bool}

/-! ### Single operations -/

section Operations

variable {α : Type} {l : SlotWorld}

/-- A call is one more entry, which has to keep the rule. -/
theorem Locally.after {c : IoCall} (h : Locally p locked l) (hl : locked = false → c.handle = none)
    (hs : inFlush (l.trace.map toSlotItem) = true ∨ SiteOk p l.st.ch c) (r : c.Reply) (t : ℕ) :
    Locally p locked (l.after c r t) :=
  ⟨⟨hl, hs⟩, h⟩

/-- A mark always does. -/
theorem Locally.marked (h : Locally p locked l) (m : SlotMark) : Locally p locked (l.marked m) :=
  ⟨trivial, h⟩

/-- A call may be made on any slot if its size does not depend on it. -/
theorem locally_io {c : IoCall} (hl : locked = false → c.handle = none) (hs : ∀ ch, SiteOk p ch c) :
    Preserves (Locally p locked) (io c) :=
  fun l h ↦ wp_call fun r t _ ↦ h.after hl (Or.inr (hs l.st.ch)) r t

/-- Marks may be set anywhere. -/
theorem locally_mark (m : SlotMark) : Preserves (Locally p locked) (Prog.mark m) :=
  fun _ h ↦ wp_mark (h.marked m)

/-- The rule is about calls, so slot and buffer may change in any way. -/
theorem locally_modify (f : Ctx → Ctx) : Preserves (Locally p locked) (Prog.modify f) :=
  fun _ h ↦ wp_modify h

/-- Above all the slot. -/
theorem locally_modifySlot (f : ChannelSlot → ChannelSlot) :
    Preserves (Locally p locked) (modifySlot f) :=
  locally_modify _

/-- Reading the clock leaves no entry. -/
theorem locally_millis : Preserves (Locally p locked) millis :=
  fun _ h ↦ wp_tick_bind fun _ _ ↦ wp_pure h

/-- Nor does a choice. -/
theorem locally_choose : Preserves (Locally p locked) Prog.choose := fun _ h ↦ wp_choose fun _ ↦ h

/-- Nor does looking at the slot. -/
theorem locally_slot : Preserves (Locally p locked) slot :=
  Preserves.get_bind fun _ ↦ Preserves.ret

/-- Nor does looking at the work buffer. -/
theorem locally_workBytes (n : ℕ) : Preserves (Locally p locked) (workBytes n) :=
  Preserves.get_bind fun _ ↦ Preserves.ret

end Operations

/-! ### Closing -/

/-- To begin to close a slot makes no call. -/
theorem locally_beginClose (reason : ChannelCloseReason) :
    Preserves (Locally p locked) (beginClose reason) := by
  refine locally_slot.bind fun _ ↦ Preserves.ite Preserves.ret ?_
  exact (locally_mark _).bind fun _ ↦ locally_millis.bind fun _ ↦ (locally_modifySlot _).bind fun _ ↦
    locally_mark _

/-- The local socket is closed with the lock or without it. -/
theorem locally_closeLocalSocket : Preserves (Locally p locked) closeLocalSocket := by
  refine locally_slot.bind fun _ ↦ Preserves.ite ?_ Preserves.ret
  exact (locally_io (fun _ ↦ by rfl) fun _ ↦ by trivial).bind fun _ ↦ locally_modifySlot _

/-- So is everything local, after the channel was freed. -/
theorem locally_discardLocal : Preserves (Locally p locked) discardLocal :=
  locally_closeLocalSocket.bind fun _ ↦ (locally_modifySlot _).bind fun _ ↦
    (locally_modifySlot _).bind fun _ ↦ locally_mark _

/-- Closing the slot itself makes no call. -/
theorem locally_closeSlot : Preserves (Locally p locked) closeSlot :=
  (locally_modifySlot _).bind fun _ ↦ locally_millis.bind fun _ ↦ locally_modifySlot _

/-- Abandoning a slot only closes the socket. -/
theorem locally_dropLocal : Preserves (Locally p locked) dropLocal :=
  (locally_modifySlot _).bind fun _ ↦ locally_closeLocalSocket.bind fun _ ↦
    (locally_modifySlot _).bind fun _ ↦ (locally_modifySlot _).bind fun _ ↦ locally_mark _

/-- Closing and freeing the channel is done under the lock, stage by stage. -/
theorem locally_releaseChannel : Preserves (Locally p true) releaseChannel := by
  have hclose : ∀ h, Preserves (Locally p true) (closeStage h) := fun h ↦
    locally_slot.bind fun _ ↦ Preserves.ite Preserves.ret
      ((locally_io (fun hno ↦ by cases hno) fun _ ↦ by trivial).bind fun _ ↦
        (locally_modifySlot _).bind fun _ ↦ Preserves.ret)
  have hfree : ∀ h, Preserves (Locally p true) (freeStage h) := fun h ↦
    locally_slot.bind fun _ ↦ Preserves.ite
      ((locally_io (fun hno ↦ by cases hno) fun _ ↦ by trivial).bind fun _ ↦
        (locally_modifySlot _).bind fun _ ↦ Preserves.ret) Preserves.ret
  refine locally_slot.bind fun ch ↦ ?_
  split
  · exact Preserves.ret
  · refine (hclose _).bind fun _ ↦ Preserves.ite Preserves.ret ?_
    refine (hfree _).bind fun _ ↦ Preserves.ite Preserves.ret (locally_slot.bind fun _ ↦ ?_)
    exact Preserves.ite Preserves.ret ((locally_modifySlot _).bind fun _ ↦ Preserves.ret)

/-- A slot is filled under the lock. -/
theorem locally_bindSlot (h : Handle) (fd : Int) (toLocal toRemote : DataRingBuffer) :
    Preserves (Locally p true) (bindSlot h fd toLocal toRemote) :=
  (locally_modifySlot _).bind fun _ ↦ locally_millis.bind fun _ ↦ (locally_modifySlot _).bind fun _ ↦
    (locally_mark _).bind fun _ ↦ (locally_io (fun hno ↦ by cases hno) fun _ ↦ by trivial).bind fun _ ↦
    Preserves.ret

/-! ### Phase 1 -/

/-- Counting an error makes no call. -/
theorem locally_countError : Preserves (Locally p locked) countError :=
  (locally_modifySlot _).bind fun _ ↦ (locally_mark _).bind fun _ ↦ locally_slot.bind fun _ ↦
    Preserves.when (locally_beginClose _)

/-- Nor does noting how a read has ended. -/
theorem locally_readEnded (rc : Int) : Preserves (Locally p locked) (readEnded rc) :=
  Preserves.ite (locally_mark _) (Preserves.ite
    ((locally_modifySlot _).bind fun _ ↦ locally_mark _) locally_countError)

/-- A read of a channel at its end. -/
theorem locally_pumpRead (h : Handle) (n : ℕ) {l : SlotWorld} (hl : Locally p true l)
    (heof : l.st.ch.remoteEof = true) : wp (pumpRead h n) (fun _ ↦ Locally p true) l := by
  have hsite : SiteOk p l.st.ch (.channelRead h n) := Or.inl heof
  exact wp_call_bind fun r t _ ↦ locally_mark _ _
    (hl.after (fun hno ↦ by cases hno) (Or.inr hsite) r t)

/-- Nor does storing what was read. -/
theorem locally_storeChunk (b : DataRingBuffer) (rc : ℕ) :
    Preserves (Locally p locked) (storeChunk b rc) :=
  (locally_workBytes _).bind fun _ ↦ (locally_modifySlot _).bind fun _ ↦ (locally_modify _).bind fun _ ↦
    locally_millis.bind fun _ ↦ locally_modifySlot _

/-- Storing bytes does not pause reading. -/
theorem storeChunk_sshReadPaused (b : DataRingBuffer) (rc : ℕ) (l : SlotWorld) :
    wp (storeChunk b rc) (fun _ l' ↦ l'.st.ch.sshReadPaused = l.st.ch.sshReadPaused) l := by
  rw [storeChunk, workBytes]
  simp only [wp_bind_assoc, wp_get_bind, wp_pure_bind]
  refine wp_bind (wp_modify (wp_bind (wp_modify ?_)))
  refine wp_bind (wp_tick_bind fun t _ ↦ wp_pure (wp_modify ?_))
  rfl

/-- A read into the work buffer leaves the slot as it is. -/
theorem locally_readInto (h : Handle) (n : ℕ) {l : SlotWorld} (hl : Locally p true l)
    (hs : SiteOk p l.st.ch (.channelRead h n)) :
    wp (readInto h n) (fun _ l' ↦ Locally p true l' ∧ l'.st.ch = l.st.ch) l := by
  refine wp_call_bind fun r t _ ↦ ?_
  have hl' := hl.after (c := .channelRead h n) (fun hno ↦ by cases hno) (Or.inr hs) r t
  split
  · exact wp_bind (wp_modify (wp_pure ⟨hl', rfl⟩))
  · exact wp_pure ⟨hl', rfl⟩

/-- How the source takes the smaller of two sizes. -/
theorem ite_lt_eq_min (a b : ℕ) : (if a < b then a else b) = min a b := by
  rw [Nat.min_def]
  split <;> split <;> omega

/-- While reading is paused, at most 64 bytes are asked for. -/
theorem locally_pausedRead (h : Handle) (b : DataRingBuffer) {l : SlotWorld} (hl : Locally p true l)
    (hb : l.st.ch.toLocal = some b) (hp : l.st.ch.sshReadPaused = true) :
    wp (pausedRead h b) (fun _ ↦ Locally p true) l := by
  refine wp_ite (fun _ ↦ ?_) fun _ ↦ wp_pure hl
  have hsite : SiteOk p l.st.ch
      (.channelRead h (if b.available < 64 then b.available else 64)) :=
    Or.inr ⟨b, hb, by rw [hp, ite_lt_eq_min]; rfl⟩
  refine wp_bind (wp_mono (locally_readInto h _ hl hsite) fun r l' hl' ↦ ?_)
  dsimp only
  split
  · exact wp_bind (wp_mono (locally_storeChunk _ _ l' hl'.1) fun _ l'' hl'' ↦
      wp_bind (wp_mono (locally_mark _ l'' hl'') fun _ _ h ↦ wp_pure h))
  · exact wp_bind (wp_mono (locally_readEnded _ l' hl'.1) fun _ _ h ↦ wp_pure h)

/-- Otherwise as many as fit the ring and the buffer. Another attempt follows only while reading is not
paused. -/
theorem locally_readAttempt (h : Handle) {l : SlotWorld} (hl : Locally p true l)
    (hp : l.st.ch.sshReadPaused = false) :
    wp (readAttempt p h) (fun again l' ↦
      Locally p true l' ∧ (again = true → l'.st.ch.sshReadPaused = false)) l := by
  rw [readAttempt, slot]
  simp only [wp_bind_assoc, wp_get_bind, wp_pure_bind]
  split
  · exact wp_pure ⟨hl, fun hno ↦ by cases hno⟩
  · next b hb =>
    refine wp_ite (fun _ ↦ ?_) fun _ ↦ ?_
    · exact wp_bind (wp_modify (wp_mark_bind.2 (wp_pure ⟨hl.marked .step, fun hno ↦ by cases hno⟩)))
    · have hsite : SiteOk p l.st.ch
          (.channelRead h (if b.available < p.bufSize then b.available else p.bufSize)) :=
        Or.inr ⟨b, hb, by rw [hp, ite_lt_eq_min]; rfl⟩
      refine wp_bind (wp_mono (locally_readInto h _ hl hsite) fun r l₁ hl₁ ↦ ?_)
      split
      · refine wp_bind (wp_mono (wp_and (locally_storeChunk _ _ l₁ hl₁.1)
          (storeChunk_sshReadPaused _ _ l₁)) fun _ l₂ hl₂ ↦ ?_)
        have hp₂ : l₂.st.ch.sshReadPaused = false := by rw [hl₂.2, hl₁.2, hp]
        simp only [wp_bind_assoc, wp_get_bind, wp_pure_bind]
        refine wp_ite (fun _ ↦ ?_) fun _ ↦ ?_
        · exact wp_bind (wp_modify (wp_mark_bind.2 (wp_pure ⟨hl₂.1.marked .step, fun hno ↦ by cases hno⟩)))
        · exact wp_mark_bind.2 (wp_pure ⟨hl₂.1.marked _, fun _ ↦ hp₂⟩)
      · exact wp_bind (wp_mono (locally_readEnded _ l₁ hl₁.1) fun _ l₂ hl₂ ↦
          wp_pure ⟨hl₂, fun hno ↦ by cases hno⟩)

/-- Asking for the end of the stream has no size. -/
theorem locally_checkEofFlag (h : Handle) : Preserves (Locally p true) (checkEofFlag h) := by
  refine locally_slot.bind fun _ ↦ Preserves.ite ?_ Preserves.ret
  refine (locally_io (fun hno ↦ by cases hno) fun _ ↦ by trivial).bind fun _ ↦ Preserves.ite ?_
    (locally_mark _)
  exact (locally_modifySlot _).bind fun _ ↦ locally_mark _

/-- Reading stays unpaused from one attempt to the next, which is what their size depends on. -/
theorem locally_readChunks (h : Handle) {l : SlotWorld} (hl : Locally p true l)
    (hp : l.st.ch.sshReadPaused = false) : wp (readChunks p h) (fun _ ↦ Locally p true) l := by
  rw [readChunks, slot]
  simp only [wp_bind_assoc, wp_get_bind, wp_pure_bind]
  split
  · exact wp_pure hl
  · refine wp_bind (wp_mono (wp_attempts (n := 4) (m := readAttempt p h)
      (I := fun l ↦ Locally p true l ∧ l.st.ch.sshReadPaused = false) (J := Locally p true)
      (fun _ hI ↦ hI.1) ?_ ⟨hl, hp⟩) fun _ l₁ hl₁ ↦ ?_)
    · intro l₁ hI
      exact wp_mono (locally_readAttempt h hI.1 hI.2) fun again l₂ h₂ ↦
        ⟨h₂.1, fun hagain ↦ ⟨h₂.1, h₂.2 hagain⟩⟩
    · exact wp_bind (wp_mono (locally_checkEofFlag h l₁ hl₁) fun _ _ h₂ ↦ wp_pure h₂)

/-- Phase 1 for one slot: at its end, paused, or reading. -/
theorem locally_pumpSlot : Preserves (Locally p true) (pumpSlot p) := by
  intro l hl
  rw [pumpSlot, slot]
  simp only [wp_bind_assoc, wp_get_bind, wp_pure_bind]
  split
  · refine wp_ite (fun heof ↦ ?_) fun _ ↦ wp_ite (fun hp ↦ ?_) fun hp ↦ ?_
    · exact wp_bind (wp_mono (locally_pumpRead _ _ hl heof) fun _ _ h ↦ wp_pure h)
    · split
      · exact wp_pure hl
      · next b hb =>
        refine wp_ite (fun _ ↦ ?_) fun _ ↦ locally_pausedRead _ b hl hb hp
        exact wp_bind (wp_modify (wp_mark_bind.2 (locally_readChunks _ (hl.marked .step) rfl)))
    · exact locally_readChunks _ hl (by simpa using hp)
  · exact wp_pure hl

/-! ### Phase 2 -/

/-- What is taken out of a ring is at most what was asked for. -/
theorem length_read_le (b : DataRingBuffer) (len cut : ℕ) : (b.read len cut).1.length ≤ len := by
  obtain ⟨n, hle, -, -, htake, -⟩ := b.read_spec len cut
  rw [htake]
  exact Nat.le_trans (List.length_take_le ..) hle

/-- Putting back what was not sent makes no call. -/
theorem locally_sendBusy (bs : List UInt8) : Preserves (Locally p locked) (sendBusy bs) := by
  refine (locally_modifySlot _).bind fun _ ↦ locally_slot.bind fun _ ↦ Preserves.ite ?_
    (locally_mark _)
  exact locally_millis.bind fun _ ↦ (locally_modifySlot _).bind fun _ ↦ locally_mark _

/-- Nor does noting what was sent. -/
theorem locally_sendResult (bs : List UInt8) (sent : SendReply bs.length) :
    Preserves (Locally p locked) (sendResult bs sent) := by
  cases sent with
  | accepted k hpos hle =>
    refine (locally_modify _).bind fun _ ↦ locally_millis.bind fun _ ↦
      (locally_modifySlot _).bind fun _ ↦ Preserves.ite ?_ ?_
    · exact (locally_modifySlot _).bind fun _ ↦ (locally_mark _).bind fun _ ↦ Preserves.ret
    · exact (locally_mark _).bind fun _ ↦ Preserves.ret
  | fail errno =>
    refine Preserves.ite ?_ ((locally_sendBusy bs).bind fun _ ↦ Preserves.ret)
    exact (locally_modifySlot _).bind fun _ ↦ (locally_mark _).bind fun _ ↦ Preserves.ret
  | zero => exact (locally_sendBusy bs).bind fun _ ↦ Preserves.ret

/-- Bytes from the start of the work buffer, handed to a call. -/
theorem locally_handOver {β : Type} {n : ℕ} (hn : n ≤ p.bufSize) {c : List UInt8 → IoCall}
    {f : (bs : List UInt8) → (c bs).Reply → SlotM β}
    (hl : ∀ bs, locked = false → (c bs).handle = none)
    (hs : ∀ ch bs, bs.length ≤ p.bufSize → SiteOk p ch (c bs))
    (hf : ∀ bs r, Preserves (Locally p locked) (f bs r)) :
    Preserves (Locally p locked) (do
      let bs ← workBytes n
      let r ← io (c bs)
      f bs r) := by
  intro l h
  simp only [workBytes, wp_bind_assoc, wp_get_bind, wp_pure_bind]
  have hlen : (l.st.work.take n).length ≤ p.bufSize :=
    Nat.le_trans (List.length_take_le ..) hn
  exact wp_call_bind fun r t _ ↦ hf _ r _ (h.after (hl _) (Or.inr (hs l.st.ch _ hlen)) r t)

/-- What is sent was read into the work buffer, so it is no longer than that. -/
theorem locally_sendAttempt : Preserves (Locally p locked) (sendAttempt p) := by
  refine locally_slot.bind fun ch ↦ ?_
  split
  · exact Preserves.ret
  · next b hb =>
    refine Preserves.ite Preserves.ret (locally_choose.bind fun cut ↦ ?_)
    refine (locally_modifySlot _).bind fun _ ↦ (locally_modify _).bind fun _ ↦
      Preserves.ite Preserves.ret ?_
    have hle := length_read_le b (if b.size < p.bufSize then b.size else p.bufSize) cut
    rw [ite_lt_eq_min] at hle ⊢
    exact locally_handOver (Nat.le_trans hle (Nat.min_le_right ..)) (c := .send ch.localSocket)
      (fun _ _ ↦ rfl) (fun _ _ h ↦ h) locally_sendResult

/-- A slot that has been busy for too long is closed without a call. -/
theorem locally_checkSendStall : Preserves (Locally p locked) checkSendStall := by
  refine locally_slot.bind fun _ ↦ Preserves.ite (locally_millis.bind fun _ ↦ Preserves.ite ?_
    Preserves.ret) Preserves.ret
  exact (Preserves.when (locally_beginClose _)).bind fun _ ↦ locally_millis.bind fun _ ↦
    (locally_modifySlot _).bind fun _ ↦ locally_mark _

/-- Phase 2 for one slot. -/
theorem locally_drainSlot : Preserves (Locally p locked) (drainSlot p) := by
  refine locally_slot.bind fun _ ↦ Preserves.ite Preserves.ret ?_
  exact (Preserves.attempts locally_sendAttempt).bind fun _ ↦ locally_checkSendStall

/-! ### Phase 3 -/

/-- Noting what was written makes no call. -/
theorem locally_writeResult (bs : List UInt8) (written : WriteReply bs.length) :
    Preserves (Locally p locked) (writeResult bs written) := by
  cases written with
  | accepted k hpos hle =>
    refine (locally_modify _).bind fun _ ↦ locally_millis.bind fun _ ↦
      (locally_modifySlot _).bind fun _ ↦ Preserves.ite ?_ ?_
    · exact (locally_modifySlot _).bind fun _ ↦ (locally_mark _).bind fun _ ↦ Preserves.ret
    · exact (locally_mark _).bind fun _ ↦ Preserves.ret
  | code rc hrc =>
    refine Preserves.ite (Preserves.bind ?_ fun _ ↦ Preserves.ret) ?_
    · refine (locally_modifySlot _).bind fun _ ↦ (locally_modifySlot _).bind fun _ ↦
        locally_slot.bind fun _ ↦ Preserves.ite ?_ (locally_mark _)
      exact locally_millis.bind fun _ ↦ (locally_modifySlot _).bind fun _ ↦ locally_mark _
    · exact (locally_modifySlot _).bind fun _ ↦ locally_countError.bind fun _ ↦ Preserves.ret

/-- What is written was read into the work buffer, and the budget can only make it less. -/
theorem locally_writeAttempt (budget : ℕ) : Preserves (Locally p true) (writeAttempt p budget) := by
  refine locally_slot.bind fun ch ↦ ?_
  split
  · next h b hh hb =>
    refine Preserves.ite (locally_choose.bind fun cut ↦ ?_) Preserves.ret
    refine (locally_modifySlot _).bind fun _ ↦ (locally_modify _).bind fun _ ↦
      Preserves.ite Preserves.ret ?_
    have hle := length_read_le b (if budget < p.bufSize then budget else p.bufSize) cut
    rw [ite_lt_eq_min] at hle ⊢
    exact locally_handOver (Nat.le_trans hle (Nat.min_le_right ..)) (c := .channelWrite h)
      (fun _ hno ↦ by cases hno) (fun _ _ h ↦ h) locally_writeResult
  · exact Preserves.ret

/-- By induction on the bound for the number of writes. -/
theorem locally_writeChunks (fuel budget : ℕ) :
    Preserves (Locally p true) (writeChunks p fuel budget) := by
  induction fuel generalizing budget with
  | zero => exact Preserves.ret
  | succ fuel ih =>
    refine (locally_writeAttempt budget).bind fun written ↦ ?_
    split
    · exact Preserves.ret
    · exact ih _

/-- The same check as in phase 2, for the channel. -/
theorem locally_checkWriteStall : Preserves (Locally p locked) checkWriteStall := by
  refine locally_slot.bind fun _ ↦ Preserves.ite (locally_millis.bind fun _ ↦ Preserves.ite ?_
    Preserves.ret) Preserves.ret
  exact (Preserves.when (locally_beginClose _)).bind fun _ ↦ locally_millis.bind fun _ ↦
    (locally_modifySlot _).bind fun _ ↦ locally_mark _

/-- Receiving is paused and resumed without a call. -/
theorem locally_localBackpressure : Preserves (Locally p locked) localBackpressure := by
  refine locally_slot.bind fun _ ↦ ?_
  split
  · exact Preserves.ret
  · refine Preserves.ite (Preserves.ite ?_ Preserves.ret) (Preserves.ite ?_ Preserves.ret)
    · exact (locally_modifySlot _).bind fun _ ↦ locally_mark _
    · exact (locally_modifySlot _).bind fun _ ↦ locally_mark _

/-- The end of the local side is only noted. -/
theorem locally_localEnded : Preserves (Locally p locked) localEnded :=
  (locally_modifySlot _).bind fun _ ↦ locally_mark _

/-- So is what was received. -/
theorem locally_recvResult (b : DataRingBuffer) {n : ℕ} (recvd : RecvReply n) :
    Preserves (Locally p locked) (recvResult b recvd) := by
  cases recvd with
  | data bs hpos hle =>
    exact (locally_modify _).bind fun _ ↦ (locally_workBytes _).bind fun _ ↦
      (locally_modifySlot _).bind fun _ ↦ locally_millis.bind fun _ ↦
      (locally_modifySlot _).bind fun _ ↦ (locally_modify _).bind fun _ ↦
      (locally_mark _).bind fun _ ↦ Preserves.ret
  | eof => exact locally_localEnded.bind fun _ ↦ Preserves.ret
  | fail errno =>
    exact Preserves.ite (locally_localEnded.bind fun _ ↦ Preserves.ret)
      ((locally_mark _).bind fun _ ↦ Preserves.ret)

/-- As many bytes are asked for as fit the ring and the buffer. -/
theorem locally_recvAttempt : Preserves (Locally p locked) (recvAttempt p) := by
  intro l hl
  rw [recvAttempt, slot]
  simp only [wp_bind_assoc, wp_get_bind, wp_pure_bind]
  refine wp_ite (fun _ ↦ wp_pure hl) fun _ ↦ ?_
  split
  · exact wp_pure hl
  · next b hb =>
    refine wp_ite (fun _ ↦ ?_) fun _ ↦ ?_
    · exact wp_bind (wp_modify (wp_mark_bind.2 (wp_pure (hl.marked .step))))
    · refine wp_call_bind fun r t _ ↦ locally_recvResult b r _ ?_
      have hsite : SiteOk p l.st.ch (.recv l.st.ch.localSocket
          (if b.available < p.bufSize then b.available else p.bufSize)) :=
        ⟨b, hb, ite_lt_eq_min ..⟩
      exact hl.after (fun _ ↦ rfl) (Or.inr hsite) r t

/-- Phase 3 receives until nothing more comes. -/
theorem locally_recvChunks : Preserves (Locally p locked) (recvChunks p) :=
  locally_slot.bind fun _ ↦ Preserves.ite (Preserves.attempts locally_recvAttempt) Preserves.ret

/-! ### Phase 4 -/

/-- Phase 4 for one slot: the only call is the shutdown of the local socket. -/
theorem locally_checkSlot (now : UInt32) : Preserves (Locally p locked) (checkSlot p now) := by
  refine locally_slot.bind fun _ ↦ Preserves.ite Preserves.ret ((locally_mark _).bind fun _ ↦ ?_)
  refine Preserves.ite (locally_beginClose _) (Preserves.ite (locally_beginClose _)
    (Preserves.ite (locally_beginClose _) (Preserves.bind ?_ fun _ ↦ ?_)))
  · refine locally_slot.bind fun _ ↦ Preserves.ite ?_ Preserves.ret
    exact (locally_io (fun _ ↦ by rfl) fun _ ↦ by trivial).bind fun _ ↦ locally_modifySlot _
  · exact locally_slot.bind fun _ ↦ Preserves.ite (locally_beginClose _)
      (Preserves.ite (locally_beginClose _) Preserves.ret)

/-- The reads of the EOF flush are part of it. -/
theorem locally_flush (h : Handle) {l : SlotWorld} (hl : Locally p true l)
    (hflush : inFlush (l.trace.map toSlotItem) = true) :
    wp (Prog.attempts 4 (flushAttempt h)) (fun _ ↦ Locally p true) l := by
  refine wp_attempts (I := fun l ↦ Locally p true l ∧ inFlush (l.trace.map toSlotItem) = true)
    (fun _ hI ↦ hI.1) ?_ ⟨hl, hflush⟩
  rintro l' ⟨hl', hflush'⟩
  refine wp_call_bind fun r t _ ↦ ?_
  have hread := hl'.after (c := .channelRead h 512) (fun hno ↦ by cases hno) (Or.inl hflush') r t
  split
  · exact wp_bind (wp_modify (wp_pure ⟨hread, fun _ ↦ ⟨hread, hflush'⟩⟩))
  · exact wp_pure ⟨hread, fun hno ↦ by cases hno⟩

/-- The end of the stream is announced, and what is read right after it belongs to the flush. -/
theorem locally_sendEofSlot : Preserves (Locally p true) sendEofSlot := by
  refine locally_slot.bind fun ch ↦ ?_
  split
  · exact Preserves.ret
  · next h hh =>
    intro l hl
    refine wp_call_bind fun rc t _ ↦ ?_
    have hsent := hl.after (c := .channelSendEof h) (fun hno ↦ by cases hno)
      (Or.inr trivial) rc t
    refine wp_ite (fun _ ↦ locally_mark _ _ hsent) fun _ ↦ ?_
    refine wp_bind (wp_mono (locally_flush h hsent rfl) fun _ l' hl' ↦ ?_)
    have hrest : Preserves (Locally p true) (do
        let now ← millis
        modifySlot fun ch ↦ { ch with eofSentMs := now }
        Prog.mark .eofStamped
        Prog.mark .step) :=
      locally_millis.bind fun _ ↦ (locally_modifySlot _).bind fun _ ↦ (locally_mark _).bind fun _ ↦
        locally_mark _
    exact hrest l' hl'

end ReverseTunnel
