import ReverseTunnel.Guarantees.RoundRobin
import ReverseTunnel.Lib.While

/-!
# The write budget

Phase 3 writes to the SSH channel of a slot in a loop that has no counter: it goes on while there is
budget left and the ring holds something. It ends because every round that goes on has **used up** some
of the budget. The ring is no measure: what a write did not take goes back into it.

A round never takes more than the budget it begins with, so the unsigned budget does not wrap, and the
bytes taken in the whole loop stay within `maxWritePerChannel`. Per **cycle** they do so only if the round
visits the slot once. A round in which the offset wraps may visit it twice, and then the slot has the
budget twice.
-/

namespace ReverseTunnel

open Traced TunnelM SlotM Clock32

variable {p : Params} {l l' l'' : SlotWorld} {bs bs' : List UInt8}

/-! ### What a slot program hands over -/

/-- The bytes that `libssh2_channel_write` has accepted in the course of a slot program. -/
def wrote (l : SlotWorld) : List UInt8 := bytesOf writtenOf (l.trace.map toSlotItem)

@[simp] theorem wrote_update (f : Ctx → Ctx) : wrote (l.update f) = wrote l := rfl

@[simp] theorem wrote_wait (t : ℕ) : wrote (l.wait t) = wrote l := rfl

@[simp] theorem wrote_marked (m : SlotMark) : wrote (l.marked m) = wrote l := List.append_nil _

/-- From `l` to `l'`, the bytes `bs` were accepted, the slot is in use as before, and `toRemote` has
become a ring of the same shape to which `rel` relates the old one. -/
structure Drains (bs : List UInt8) (rel : DataRingBuffer → DataRingBuffer → Prop)
    (l l' : SlotWorld) : Prop where
  /-- What was accepted. -/
  bytes : wrote l' = wrote l ++ bs
  /-- `active` -/
  active : l'.st.ch.active = l.st.ch.active
  /-- `sshChannel` -/
  sshChannel : l'.st.ch.sshChannel = l.st.ch.sshChannel
  /-- `eofSentMs` -/
  eofSentMs : l'.st.ch.eofSentMs = l.st.ch.eofSentMs
  /-- The ring. -/
  toRemote : ∀ b, l.st.ch.toRemote = some b →
    ∃ b', l'.st.ch.toRemote = some b' ∧ DataRingBuffer.SameShape b b' ∧ rel b b'

theorem Drains.trans {r r' r'' : DataRingBuffer → DataRingBuffer → Prop} (h : Drains bs r l l')
    (h' : Drains bs' r' l' l'')
    (hr : ∀ b b' b'', DataRingBuffer.SameShape b b' → r b b' → r' b' b'' → r'' b b'') :
    Drains (bs ++ bs') r'' l l'' := by
  refine ⟨by rw [h'.bytes, h.bytes, List.append_assoc], h'.active.trans h.active,
    h'.sshChannel.trans h.sshChannel, h'.eofSentMs.trans h.eofSentMs, fun b hb ↦ ?_⟩
  obtain ⟨b', hb', hshape, hrel⟩ := h.toRemote b hb
  obtain ⟨b'', hb'', hshape', hrel'⟩ := h'.toRemote b' hb'
  exact ⟨b'', hb'', hshape.trans hshape', hr b b' b'' hshape hrel hrel'⟩

/-- Nothing was accepted and the ring is as it was. -/
abbrev Idles : SlotWorld → SlotWorld → Prop := Drains [] Eq

theorem Idles.intro (hw : wrote l' = wrote l) (hact : l'.st.ch.active = l.st.ch.active)
    (hssh : l'.st.ch.sshChannel = l.st.ch.sshChannel)
    (heof : l'.st.ch.eofSentMs = l.st.ch.eofSentMs)
    (hring : l'.st.ch.toRemote = l.st.ch.toRemote) : Idles l l' := by
  refine ⟨?_, hact, hssh, heof, fun b hb ↦ ⟨b, hring.trans hb, .refl b, rfl⟩⟩
  rw [hw, List.append_nil]

theorem Idles.refl (l : SlotWorld) : Idles l l := .intro rfl rfl rfl rfl rfl

theorem Idles.trans (h : Idles l l') (h' : Idles l' l'') : Idles l l'' :=
  Drains.trans h h' fun _ _ _ _ h h' ↦ h.trans h'

theorem wp_beginClose_idles (reason : ChannelCloseReason) (l : SlotWorld) :
    wp (beginClose reason) (fun _ l' ↦ Idles l l') l := by
  rw [beginClose, wp_slot_bind]
  refine wp_ite (fun _ ↦ wp_pure (.refl l)) fun _ ↦ ?_
  rw [wp_mark_bind]
  refine wp_millis_bind fun t _ ↦ ?_
  rw [wp_modifySlot_bind]
  exact wp_mark (.intro (by simp) rfl rfl rfl rfl)

theorem wp_countError_idles (l : SlotWorld) : wp countError (fun _ l' ↦ Idles l l') l := by
  rw [countError, wp_modifySlot_bind, wp_mark_bind, wp_slot_bind]
  have hcount : Idles l ((l.update fun c ↦ { c with
      ch := { c.ch with consecutiveErrors := c.ch.consecutiveErrors + 1 } }).marked .step) :=
    .intro (by simp) rfl rfl rfl rfl
  refine wp_when (fun _ ↦ ?_) fun _ ↦ hcount
  exact wp_mono (wp_beginClose_idles _ _) fun _ _ h ↦ hcount.trans h

theorem wp_checkWriteStall_idles (l : SlotWorld) :
    wp checkWriteStall (fun _ l' ↦ Idles l l') l := by
  rw [checkWriteStall, wp_slot_bind]
  refine wp_ite (fun _ ↦ wp_millis_bind fun t _ ↦ ?_) fun _ ↦ wp_pure (.refl l)
  have hwait : Idles l (l.wait t) := .intro rfl rfl rfl rfl rfl
  refine wp_ite (fun _ ↦ ?_) fun _ ↦ wp_pure hwait
  have hclose : wp (Prog.when (l.st.ch.state = .open) (beginClose .error))
      (fun _ l' ↦ Idles l l') (l.wait t) :=
    wp_when (fun _ ↦ wp_mono (wp_beginClose_idles _ _) fun _ _ h ↦ hwait.trans h) fun _ ↦ hwait
  refine wp_bind (wp_mono hclose fun _ l' hl' ↦ wp_millis_bind fun t' _ ↦ ?_)
  rw [wp_modifySlot_bind]
  exact wp_mark (hl'.trans (.intro (by simp) rfl rfl rfl rfl))

theorem wp_localBackpressure_idles (l : SlotWorld) :
    wp localBackpressure (fun _ l' ↦ Idles l l') l := by
  have hpause : ∀ paused, Idles l ((l.update fun c ↦ { c with
      ch := { c.ch with localReadPaused := paused } }).marked .step) :=
    fun paused ↦ .intro (by simp) rfl rfl rfl rfl
  rw [localBackpressure, wp_slot_bind]
  split
  · exact wp_pure (.refl l)
  · refine wp_ite (fun _ ↦ wp_ite (fun _ ↦ ?_) fun _ ↦ wp_pure (.refl l)) fun _ ↦
      wp_ite (fun _ ↦ ?_) fun _ ↦ wp_pure (.refl l)
    · rw [wp_modifySlot_bind]
      exact wp_mark (hpause false)
    · rw [wp_modifySlot_bind]
      exact wp_mark (hpause true)

/-- Nothing was accepted, and what the ring held is still in front. -/
abbrev Receives : SlotWorld → SlotWorld → Prop := Drains [] fun b b' ↦ b.content <+: b'.content

theorem Receives.trans (h : Receives l l') (h' : Receives l' l'') : Receives l l'' :=
  Drains.trans h h' fun _ _ _ _ h h' ↦ h.trans h'

theorem Idles.receives (h : Idles l l') : Receives l l' := by
  refine ⟨h.bytes, h.active, h.sshChannel, h.eofSentMs, fun b hb ↦ ?_⟩
  obtain ⟨b', hb', hshape, rfl⟩ := h.toRemote b hb
  exact ⟨b, hb', hshape, List.prefix_rfl⟩

theorem wp_recvResult_receives {b : DataRingBuffer} {n : ℕ} {recvd : RecvReply n}
    (hb : l.st.ch.toRemote = some b) (hn : n ≤ b.available) :
    wp (recvResult b recvd) (fun _ l' ↦ Receives l l') l := by
  have hended : wp localEnded (fun _ l' ↦ Receives l l') l := by
    rw [localEnded, wp_modifySlot_bind]
    exact wp_mark (Idles.receives (.intro (by simp) rfl rfl rfl rfl))
  rw [recvResult.eq_def]
  cases recvd with
  | data data hpos hle =>
    obtain ⟨-, hcontent⟩ := DataRingBuffer.write_of_le (b := b) (Nat.le_trans hle hn)
    simp only [wp_fill_bind, wp_workBytes_bind, wp_modifySlot_bind, World.update_st,
      List.take_left]
    refine wp_millis_bind fun t _ ↦ ?_
    simp only [wp_modifySlot_bind, wp_addMoved_bind, wp_mark_bind]
    refine wp_pure ⟨by simp, rfl, rfl, rfl, fun b₀ hb₀ ↦ ?_⟩
    obtain rfl : b₀ = b := Option.some.inj (hb₀.symm.trans hb)
    exact ⟨_, rfl, b₀.sameShape_write data, hcontent ▸ List.prefix_append ..⟩
  | eof => exact wp_bind (wp_mono hended fun _ _ h ↦ wp_pure h)
  | fail errno =>
    refine wp_ite (fun _ ↦ wp_bind (wp_mono hended fun _ _ h ↦ wp_pure h)) fun _ ↦ ?_
    rw [wp_mark_bind]
    exact wp_pure (Idles.receives (.intro (by simp) rfl rfl rfl rfl))

theorem wp_recvAttempt_receives (l : SlotWorld) :
    wp (recvAttempt p) (fun _ l' ↦ Receives l l') l := by
  rw [recvAttempt, wp_slot_bind]
  refine wp_ite (fun _ ↦ wp_pure (Idles.refl l).receives) fun _ ↦ ?_
  split
  · exact wp_pure (Idles.refl l).receives
  · next b hb =>
    refine wp_ite (fun _ ↦ ?_) fun _ ↦ ?_
    · rw [wp_modifySlot_bind, wp_mark_bind]
      exact wp_pure (Idles.receives (.intro (by simp) rfl rfl rfl rfl))
    · refine wp_call_bind fun recvd t _ ↦ ?_
      have hle : (if b.available < p.bufSize then b.available else p.bufSize) ≤ b.available := by
        split <;> omega
      have hcall : Receives l (l.after (.recv l.st.ch.localSocket _) recvd t) :=
        Idles.receives (.intro (List.append_nil _) rfl rfl rfl rfl)
      exact wp_mono (wp_recvResult_receives hb hle) fun _ _ h ↦ hcall.trans h

theorem wp_recvChunks_receives (l : SlotWorld) :
    wp (recvChunks p) (fun _ l' ↦ Receives l l') l := by
  rw [recvChunks, wp_slot_bind]
  refine wp_ite (fun _ ↦ ?_) fun _ ↦ wp_pure (Idles.refl l).receives
  refine wp_attempts (I := fun l' ↦ Receives l l') (J := fun l' ↦ Receives l l') (fun _ h ↦ h) ?_
    (Idles.refl l).receives
  intro l' hl'
  exact wp_mono (wp_recvAttempt_receives l') fun _ _ h ↦ ⟨hl'.trans h, fun _ ↦ hl'.trans h⟩

/-! ### One round of the write loop -/

/-- The ring has lost exactly `bs`, from its front, if it has the configured shape. -/
def Lost (p : Params) (bs : List UInt8) (b b' : DataRingBuffer) : Prop :=
  Shaped p b → b.content = bs ++ b'.content

/-- `bs` was accepted and nothing else has left the ring. -/
abbrev Writes (p : Params) (bs : List UInt8) : SlotWorld → SlotWorld → Prop :=
  Drains bs (Lost p bs)

theorem Writes.trans (h : Writes p bs l l') (h' : Writes p bs' l' l'') :
    Writes p (bs ++ bs') l l'' := by
  refine Drains.trans h h' fun b b' b'' hshape hlost hlost' hb ↦ ?_
  rw [hlost hb, hlost' (hb.of_sameShape hshape), List.append_assoc]

theorem Idles.writes (h : Idles l l') : Writes p [] l l' := by
  refine ⟨h.bytes, h.active, h.sshChannel, h.eofSentMs, fun b hb ↦ ?_⟩
  obtain ⟨b', hb', hshape, rfl⟩ := h.toRemote b hb
  exact ⟨b, hb', hshape, fun _ ↦ rfl⟩

theorem sameShape_restoreUnsent (b : DataRingBuffer) (data : List UInt8) :
    DataRingBuffer.SameShape b (restoreUnsent b data).2 := by
  have hfront := b.sameShape_writeToFront data
  rw [restoreUnsent]
  split
  · exact .refl b
  · simp only
    split
    · exact hfront
    · exact hfront.trans (DataRingBuffer.sameShape_write _ data)

/-- What a write did not take goes back, and the ring has lost what it took. -/
theorem lost_restoreUnsent {b : DataRingBuffer} {n cut k : ℕ} (hn : n ≤ p.prependCap)
    (hk : k ≤ (b.read n cut).1.length) :
    Lost p ((b.read n cut).1.take k) b
      (restoreUnsent (b.read n cut).2 ((b.read n cut).1.drop k)).2 := by
  intro hb
  obtain ⟨-, -, hcontent⟩ := restoreUnsent_read hb hn hk
  have hall : (b.read n cut).1.drop 0 ++ (b.read n cut).2.content = b.content.drop 0 :=
    b.drop_read_append (Nat.zero_le _)
  rw [List.drop_zero, List.drop_zero] at hall
  rw [hcontent, ← b.drop_read_append hk, ← List.append_assoc, List.take_append_drop, hall]

/-- Putting back touches nothing but the ring and the count of dropped bytes. -/
theorem ChannelSlot.restoreToRemote_some (ch : ChannelSlot) {b : DataRingBuffer}
    (hb : ch.toRemote = some b) (data : List UInt8) :
    ∃ dropped, ch.restoreToRemote data =
      { ch with toRemote := some (restoreUnsent b data).2, totalBytesDropped := dropped } := by
  rw [restoreToRemote, hb]
  simp only [accountRestoreDrop]
  split
  · exact ⟨_, rfl⟩
  · exact ⟨_, rfl⟩

/-- How many bytes were accepted. -/
def WriteReply.taken {n : ℕ} : WriteReply n → ℕ
  | .accepted k _ _ => k
  | .code _ _ => 0

theorem WriteReply.taken_le {n : ℕ} (written : WriteReply n) : written.taken ≤ n := by
  cases written with
  | accepted k hpos hle => exact hle
  | code rc hrc => exact Nat.zero_le _

theorem wrote_after (h : Handle) (data : List UInt8) (written : WriteReply data.length) (t : ℕ) :
    wrote (l.after (.channelWrite h data) written t) = wrote l ++ data.take written.taken := by
  cases written with
  | accepted k hpos hle => rfl
  | code rc hrc => rfl

/-- Apart from putting everything back. -/
theorem wp_writeBusy_idles (data : List UInt8) (l : SlotWorld) :
    wp (writeBusy data)
      (fun _ l' ↦ Idles (l.update fun c ↦ { c with ch := c.ch.restoreToRemote data }) l') l := by
  rw [writeBusy, wp_modifySlot_bind, wp_modifySlot_bind, wp_slot_bind]
  refine wp_ite (fun _ ↦ wp_millis_bind fun t _ ↦ ?_) fun _ ↦ ?_
  · rw [wp_modifySlot_bind]
    exact wp_mark (.intro (by simp) rfl rfl rfl rfl)
  · exact wp_mark (.intro (by simp) rfl rfl rfl rfl)

/-- What was not accepted goes back, and the loop goes on if all was accepted. -/
theorem wp_writeResult_drains {b : DataRingBuffer} {data : List UInt8} {h : Handle} {t : ℕ}
    (hb : l.st.ch.toRemote = some b) (written : WriteReply data.length) :
    wp (writeResult data written)
      (fun r l' ↦
        r = (if 0 < written.taken ∧ written.taken = data.length then some written.taken else none) ∧
        Drains (data.take written.taken)
          (fun b b' ↦ b' = (restoreUnsent b (data.drop written.taken)).2) l l')
      (l.after (.channelWrite h data) written t) := by
  have hbytes := wrote_after (l := l) h data written t
  rw [writeResult.eq_def]
  cases written with
  | accepted k hpos hle =>
    simp only [wp_addMoved_bind]
    refine wp_millis_bind fun t' _ ↦ ?_
    rw [wp_modifySlot_bind]
    refine wp_ite (fun hlt ↦ ?_) fun hge ↦ ?_
    · rw [wp_modifySlot_bind, wp_mark_bind]
      refine wp_pure ⟨(if_neg fun h ↦ absurd h.2 (Nat.ne_of_lt hlt)).symm, ?_⟩
      obtain ⟨dropped, hrestore⟩ := ChannelSlot.restoreToRemote_some
        (l.st.ch.writeSucceeded k (stamp t')) hb (data.drop k)
      refine ⟨by simpa using hbytes, ?_, ?_, ?_, fun b₀ hb₀ ↦ ?_⟩
      · exact congrArg (·.active) hrestore
      · exact congrArg (·.sshChannel) hrestore
      · exact congrArg (·.eofSentMs) hrestore
      · obtain rfl : b₀ = b := Option.some.inj (hb₀.symm.trans hb)
        exact ⟨_, congrArg (·.toRemote) hrestore, sameShape_restoreUnsent _ _, rfl⟩
    · have hall : k = data.length := Nat.le_antisymm hle (Nat.le_of_not_lt hge)
      rw [wp_mark_bind]
      refine wp_pure ⟨(if_pos ⟨hpos, hall⟩).symm, by simpa using hbytes, rfl, rfl, rfl, ?_⟩
      intro b₀ hb₀
      refine ⟨b₀, hb₀, .refl b₀, ?_⟩
      show b₀ = (restoreUnsent b₀ (data.drop k)).2
      rw [hall, List.drop_length]
      rfl
  | code rc hrc =>
    obtain ⟨dropped, hrestore⟩ := ChannelSlot.restoreToRemote_some l.st.ch hb data
    have hback : Drains [] (fun b b' ↦ b' = (restoreUnsent b data).2) l
        ((l.after (.channelWrite h data) (.code rc hrc) t).update fun c ↦
          { c with ch := c.ch.restoreToRemote data }) := by
      refine ⟨by simpa [WriteReply.taken] using hbytes, ?_, ?_, ?_, fun b₀ hb₀ ↦ ?_⟩
      · exact congrArg (·.active) hrestore
      · exact congrArg (·.sshChannel) hrestore
      · exact congrArg (·.eofSentMs) hrestore
      · obtain rfl : b₀ = b := Option.some.inj (hb₀.symm.trans hb)
        exact ⟨_, congrArg (·.toRemote) hrestore, sameShape_restoreUnsent _ _, rfl⟩
    have hthen : ∀ {l'}, Idles _ l' → Drains [] (fun b b' ↦ b' = (restoreUnsent b data).2) l l' :=
      fun hl' ↦ hback.trans hl' fun b b' b'' _ h h' ↦ h'.symm.trans h
    refine wp_ite (fun _ ↦ ?_) fun _ ↦ ?_
    · exact wp_bind (wp_mono (wp_writeBusy_idles _ _) fun _ l' hl' ↦ wp_pure ⟨rfl, hthen hl'⟩)
    · rw [wp_modifySlot_bind]
      exact wp_bind (wp_mono (wp_countError_idles _) fun _ l' hl' ↦ wp_pure ⟨rfl, hthen hl'⟩)

/-- **One round**: no more is accepted than there is budget, the ring has lost exactly what was accepted,
and if the loop goes on something was. -/
theorem wp_writeAttempt_writes (budget : ℕ) (l : SlotWorld) :
    wp (writeAttempt p budget)
      (fun r l' ↦ ∃ bs, Writes p bs l l' ∧ bs.length ≤ budget ∧
        ∀ k, r = some k → k = bs.length ∧ 0 < k) l := by
  have hnone : ∀ {l'}, Idles l l' → ∃ bs, Writes p bs l l' ∧ bs.length ≤ budget ∧
      ∀ k, (none : Option ℕ) = some k → k = bs.length ∧ 0 < k :=
    fun h ↦ ⟨[], h.writes, Nat.zero_le _, fun _ hk ↦ (by cases hk)⟩
  rw [writeAttempt, wp_slot_bind]
  split
  · next h b hh hb =>
    refine wp_ite (fun _ ↦ wp_choose_bind fun cut ↦ ?_) fun _ ↦ wp_pure (hnone (.refl l))
    obtain ⟨n, hn⟩ : ∃ n, n = if budget < p.bufSize then budget else p.bufSize := ⟨_, rfl⟩
    have hnle : n ≤ budget ∧ n ≤ p.prependCap := by
      have := p.bufSize_le
      split at hn <;> omega
    rw [← hn, wp_modifySlot_bind, wp_fill_bind]
    -- taking bytes out of the ring drains nothing yet: they are in the work buffer
    have htook : Drains [] (fun b₀ b' ↦ b₀ = b ∧ b' = (b.read n cut).2) l
        (((l.wait l.clock).update fun c ↦
          { c with ch := { c.ch with toRemote := some (b.read n cut).2 } }).update fun c ↦
          { c with work := (b.read n cut).1 ++ c.work.drop (b.read n cut).1.length }) := by
      refine ⟨by simp, rfl, rfl, rfl, fun b₀ hb₀ ↦ ?_⟩
      obtain rfl : b₀ = b := Option.some.inj (hb₀.symm.trans hb)
      exact ⟨_, rfl, b₀.sameShape_read n cut, rfl, rfl⟩
    have hread : (b.read n cut).1.length ≤ n := by
      obtain ⟨m, hm, -, -, hread, -⟩ := b.read_spec n cut
      rw [hread, List.length_take]
      omega
    refine wp_ite (fun hz ↦ wp_pure ?_) fun _ ↦ ?_
    · -- nothing was read, so the ring holds what it held
      have hnil : (b.read n cut).1.drop 0 = [] := List.length_eq_zero_iff.1 hz
      have hrest : (b.read n cut).1.drop 0 ++ (b.read n cut).2.content = b.content.drop 0 :=
        b.drop_read_append (Nat.zero_le _)
      rw [hnil, List.drop_zero] at hrest
      refine ⟨[], htook.trans (Idles.refl _) ?_, Nat.zero_le _, fun _ hk ↦ (by cases hk)⟩
      rintro b₀ b' b'' - ⟨rfl, rfl⟩ rfl -
      exact hrest.symm
    · refine wp_workBytes_of_eq List.take_left (wp_call_bind fun written t ht ↦ ?_)
      refine wp_mono (wp_writeResult_drains rfl written) fun r l' hrl ↦ ?_
      obtain ⟨hr, hl'⟩ := hrl
      have hk := written.taken_le
      refine ⟨_, htook.trans hl' ?_, ?_, fun k hrk ↦ ?_⟩
      · rintro b₀ b' b'' - ⟨rfl, rfl⟩ rfl
        exact lost_restoreUnsent hnle.2 hk
      · rw [List.nil_append, List.length_take]
        omega
      · rw [hrk] at hr
        split at hr
        · next hcond =>
          obtain rfl := Option.some.inj hr
          rw [List.nil_append, List.length_take]
          omega
        · cases hr
  · exact wp_pure (hnone (.refl l))

/-! ### The loop -/

/-- One round of the write loop, and the budget it leaves for the next. -/
def writeRound (p : Params) (budget : ℕ) : SlotM (Option ℕ) := do
  let written ← writeAttempt p budget
  pure (written.map (budget - ·))

theorem run_writeRound (e : Env IoCall IoCall.Reply) (budget : ℕ) :
    (writeRound p budget).run e l =
      (((writeAttempt p budget).run e l).1.map (budget - ·),
        ((writeAttempt p budget).run e l).2) := by
  rw [writeRound, Prog.run_bind, Prog.run_pure]

/-- What the write loop of a slot should do, from `l` to `l'`. -/
structure LoopInBudget (p : Params) (e : Env IoCall IoCall.Reply) (l l' : SlotWorld) : Prop where
  /-- It ends, and none of its rounds takes more from the budget than there is. -/
  ends : ∃ rounds, LoopEnds (writeRound p) e maxWritePerChannel l rounds l' ∧
    ∀ r ∈ rounds, (wrote ((writeRound p r.1).exec e r.2)).length ≤ (wrote r.2).length + r.1
  /-- The bytes accepted are within the budget, and they are what `toRemote` has lost. -/
  accepted : ∃ bs, wrote l' = wrote l ++ bs ∧ bs.length ≤ maxWritePerChannel ∧
    ∀ b, l.st.ch.toRemote = some b → Shaped p b →
      ∃ b', l'.st.ch.toRemote = some b' ∧ b.content = bs ++ b'.content

section Loop

variable {e : Env IoCall IoCall.Reply} {budget fuel : ℕ} {rounds : List (ℕ × SlotWorld)}

/-- Without budget a round does nothing. -/
theorem run_writeAttempt_zero : (writeAttempt p 0).run e l = (none, l) := by
  rw [writeAttempt, SlotM.slot]
  simp only [Prog.run_bind, Prog.run_get, Prog.run_pure]
  split <;> rfl

/-- Given a fuel as large as the budget, the bounded loop is the loop. -/
theorem exec_writeChunks (h : LoopEnds (writeRound p) e budget l rounds l') (hfuel : budget ≤ fuel) :
    (writeChunks p fuel budget).exec e l = l' := by
  induction h generalizing fuel with
  | @last budget l l' h =>
    rw [run_writeRound, Prod.mk.injEq, Option.map_eq_none_iff] at h
    cases fuel with
    | zero =>
      rw [Nat.le_zero.1 hfuel, run_writeAttempt_zero] at h
      exact h.2
    | succ fuel =>
      rw [writeChunks, Prog.exec_bind, h.1, h.2]
      rfl
  | @again budget left l l₁ l' rounds h hrest ih =>
    rw [run_writeRound, Prod.mk.injEq, Option.map_eq_some_iff] at h
    obtain ⟨⟨k, hk, rfl⟩, hl₁⟩ := h
    obtain ⟨_, -, -, hgo⟩ := wp_writeAttempt_writes (p := p) budget l e
    have hpos := (hgo k hk).2
    cases fuel with
    | zero =>
      rw [Nat.le_zero.1 hfuel, run_writeAttempt_zero] at hk
      cases hk
    | succ fuel =>
      rw [writeChunks, Prog.exec_bind, hk, hl₁]
      exact ih (by omega)

/-- **All rounds together** take no more than the budget. -/
theorem writes_of_loopEnds (h : LoopEnds (writeRound p) e budget l rounds l') :
    (∃ bs, Writes p bs l l' ∧ bs.length ≤ budget) ∧
      ∀ r ∈ rounds, (wrote ((writeRound p r.1).exec e r.2)).length ≤ (wrote r.2).length + r.1 := by
  have hround : ∀ (budget : ℕ) (l : SlotWorld),
      (wrote ((writeRound p budget).exec e l)).length ≤ (wrote l).length + budget := by
    intro budget l
    obtain ⟨bs, hw, hle, -⟩ := wp_writeAttempt_writes (p := p) budget l e
    rw [Prog.exec, run_writeRound, hw.bytes, List.length_append]
    omega
  refine ⟨?_, fun r _ ↦ hround r.1 r.2⟩
  induction h with
  | @last budget l l' h =>
    obtain ⟨bs, hw, hle, -⟩ := wp_writeAttempt_writes (p := p) budget l e
    rw [run_writeRound, Prod.mk.injEq] at h
    rw [h.2] at hw
    exact ⟨bs, hw, hle⟩
  | @again budget left l l₁ l' rounds h hrest ih =>
    obtain ⟨bs, hw, hle, hgo⟩ := wp_writeAttempt_writes (p := p) budget l e
    rw [run_writeRound, Prod.mk.injEq, Option.map_eq_some_iff] at h
    obtain ⟨⟨k, hk, rfl⟩, hl₁⟩ := h
    rw [hl₁] at hw
    obtain ⟨bs', hw', hle'⟩ := ih
    have := (hgo k hk).1
    refine ⟨bs ++ bs', hw.trans hw', ?_⟩
    rw [List.length_append]
    omega

variable (p l e) in
/-- **The write loop ends**, within as many rounds as there is budget, and keeps to it. -/
theorem loopInBudget_writeChunks :
    LoopInBudget p e l ((writeChunks p maxWritePerChannel maxWritePerChannel).exec e l) := by
  have hmeasure : ∀ budget l, wp (writeRound p budget)
      (fun r _ ↦ ∀ left, r = some left → left < budget) l := by
    intro budget l
    refine wp_bind (wp_mono (wp_writeAttempt_writes budget l) fun r l' hl' ↦ wp_pure ?_)
    obtain ⟨bs, -, hle, hgo⟩ := hl'
    intro left hleft
    obtain ⟨k, rfl, rfl⟩ := Option.map_eq_some_iff.1 hleft
    obtain ⟨hk, hpos⟩ := hgo k rfl
    omega
  obtain ⟨rounds, l', hends, -⟩ := exists_loopEnds (μ := id) hmeasure e maxWritePerChannel l
  rw [exec_writeChunks hends (Nat.le_refl _)]
  obtain ⟨⟨bs, hw, hle⟩, hrounds⟩ := writes_of_loopEnds hends
  refine ⟨⟨rounds, hends, hrounds⟩, bs, hw.bytes, hle, fun b hb hshaped ↦ ?_⟩
  obtain ⟨b', hb', -, hlost⟩ := hw.toRemote b hb
  exact ⟨b', hb', hlost hshaped⟩

/-! ### A channel that takes everything -/

/-- Every write is accepted whole. -/
def Willing (e : Env IoCall IoCall.Reply) : Prop :=
  ∀ n h bs (hpos : 0 < bs.length),
    e.reply n (.channelWrite h bs) = acceptedWhole hpos

/-- With budget and bytes left, the loop goes on. -/
theorem run_writeAttempt_of_willing {h : Handle} {b : DataRingBuffer} (he : Willing e)
    (hh : l.st.ch.sshChannel = some h) (hb : l.st.ch.toRemote = some b) (hbudget : 0 < budget)
    (hne : b.content ≠ []) : wpIn e (writeAttempt p budget) (fun r _ ↦ r ≠ none) l := by
  have hempty : b.empty = false := by
    rw [← Bool.not_eq_true, b.empty_iff]
    exact hne
  rw [writeAttempt, slot]
  simp only [wpIn_bind_assoc, wpIn_get_bind, wpIn_pure_bind, hh, hb]
  rw [if_pos (by rw [hempty]; simpa using hbudget)]
  refine wpIn_choose_bind ?_
  obtain ⟨cut, hcut⟩ : ∃ cut, e.choice l.serial = cut := ⟨_, rfl⟩
  obtain ⟨n, hn⟩ : ∃ n, n = if budget < p.bufSize then budget else p.bufSize := ⟨_, rfl⟩
  have hread : (b.read n cut).1 ≠ [] := by
    refine b.read_ne_nil ?_ cut hne
    have := p.bufSize_pos
    split at hn <;> omega
  rw [hcut, ← hn, modifySlot, fill, workBytes]
  simp only [wpIn_modify_bind]
  rw [if_neg fun hz ↦ hread (List.length_eq_zero_iff.1 hz)]
  simp only [wpIn_bind_assoc, wpIn_get_bind, wpIn_pure_bind, World.update_st, List.take_left]
  refine wpIn_call_bind ?_
  have hpos : 0 < (b.read n cut).1.length := List.length_pos_of_ne_nil hread
  rw [he _ _ _ hpos]
  refine wpIn_mono ((wp_writeResult_drains rfl _).wpIn e) fun r l' hl' ↦ ?_
  rw [hl'.1, if_pos ⟨hpos, rfl⟩]
  exact Option.some_ne_none _

/-- **The whole budget is used** if there are enough bytes. -/
theorem writes_of_willing {h : Handle} {b : DataRingBuffer} (he : Willing e)
    (hends : LoopEnds (writeRound p) e budget l rounds l') (hh : l.st.ch.sshChannel = some h)
    (hb : l.st.ch.toRemote = some b) (hshaped : Shaped p b) (hlen : budget ≤ b.content.length) :
    ∃ bs, Writes p bs l l' ∧ bs.length = budget := by
  induction hends generalizing b with
  | @last budget l l' hlast =>
    obtain ⟨bs, hw, hle, -⟩ := wp_writeAttempt_writes (p := p) budget l e
    rw [run_writeRound, Prod.mk.injEq, Option.map_eq_none_iff] at hlast
    rw [hlast.2] at hw
    refine ⟨bs, hw, ?_⟩
    rcases Nat.eq_zero_or_pos budget with hzero | hpos
    · omega
    · have hne : b.content ≠ [] := List.ne_nil_of_length_pos (by omega)
      exact absurd hlast.1 (run_writeAttempt_of_willing he hh hb hpos hne)
  | @again budget left l l₁ l' rounds hround hrest ih =>
    obtain ⟨bs, hw, hle, hgo⟩ := wp_writeAttempt_writes (p := p) budget l e
    rw [run_writeRound, Prod.mk.injEq, Option.map_eq_some_iff] at hround
    obtain ⟨⟨k, hk, rfl⟩, hl₁⟩ := hround
    rw [hl₁] at hw
    have hkbs := (hgo k hk).1
    obtain ⟨b', hb', hshape, hlost⟩ := hw.toRemote b hb
    have hcontent := congrArg List.length (hlost hshaped)
    rw [List.length_append] at hcontent
    obtain ⟨bs', hw', hlen'⟩ := ih (hw.sshChannel.trans hh) hb' (hshaped.of_sameShape hshape)
      (by omega)
    refine ⟨bs ++ bs', hw.trans hw', ?_⟩
    rw [List.length_append]
    omega

end Loop

/-! ### A cycle -/

/-- How many bytes the SSH channel of slot `i` has accepted so far. -/
def acceptedOn (i : ℕ) (w : TunnelWorld) : ℕ := (bytesOf writtenOf (slotLog i w.trace)).length

/-- From `w` to `w'`, the channel of slot `j` has accepted at most `n` bytes and no other slot was worked
on. -/
structure Visits (j n : ℕ) (w w' : TunnelWorld) : Prop where
  /-- What was accepted on the slot. -/
  accepted_le : acceptedOn j w' ≤ acceptedOn j w + n
  /-- Nothing on the others. -/
  accepted_eq : ∀ i, i ≠ j → acceptedOn i w' = acceptedOn i w
  /-- The other slots. -/
  slots_eq : ∀ i, i ≠ j → w'.st.channels.slots i = w.st.channels.slots i

variable {i j n n' : ℕ} {w w' w'' : TunnelWorld}

theorem Visits.trans (h : Visits j n w w') (h' : Visits j n' w' w'') : Visits j (n + n') w w'' := by
  refine ⟨?_, fun i hi ↦ (h'.accepted_eq i hi).trans (h.accepted_eq i hi),
    fun i hi ↦ (h'.slots_eq i hi).trans (h.slots_eq i hi)⟩
  have := h.accepted_le
  have := h'.accepted_le
  omega

/-- What no slot sees. -/
theorem Visits.of_eq (hch : w'.st.channels = w.st.channels)
    (hlog : ∀ i, slotLog i w'.trace = slotLog i w.trace) : Visits j 0 w w' := by
  refine ⟨?_, fun i _ ↦ ?_, fun i _ ↦ by rw [hch]⟩
  · rw [acceptedOn, acceptedOn, hlog]
    exact Nat.le_refl _
  · rw [acceptedOn, acceptedOn, hlog]

theorem acceptedOn_lift_same (l : SlotWorld) :
    acceptedOn i (lift i w l) = acceptedOn i w + (wrote l).length := by
  have hlog := congrArg View.log (slotView_lift_same (i := i) (w := w) (l := l))
  rw [acceptedOn, show slotLog i (lift i w l).trace = _ from hlog]
  show (bytesOf writtenOf (l.trace.map toSlotItem ++ slotLog i w.trace)).length = _
  rw [bytesOf_append, List.length_append]
  rfl

theorem acceptedOn_lift_ne (l : SlotWorld) (h : i ≠ j) : acceptedOn i (lift j w l) = acceptedOn i w := by
  have hlog := congrArg View.log (slotView_lift_ne (w := w) (l := l) h)
  rw [acceptedOn, show slotLog i (lift j w l).trace = slotLog i w.trace from hlog, acceptedOn]

theorem visits_lift {l : SlotWorld} (h : (wrote l).length ≤ n) : Visits j n w (lift j w l) := by
  refine ⟨?_, fun i hi ↦ acceptedOn_lift_ne l hi, fun i hi ↦ setCtx_slots_ne _ _ hi⟩
  rw [acceptedOn_lift_same]
  omega

theorem wp_onSlot_visits {α : Type} {m : SlotM α}
    (hm : wp m (fun _ l' ↦ (wrote l').length ≤ n) (slotWorld j w)) :
    wp (onSlot j m) (fun _ w' ↦ Visits j n w w') w :=
  wp_onSlot (wp_mono hm fun _ _ h ↦ visits_lift h)

theorem wp_sys_visits (c : SysCall) : wp (sys c) (fun _ w' ↦ Visits j 0 w w') w :=
  wp_call fun _ _ _ ↦ .of_eq rfl fun _ ↦ rfl

/-- Work that hands nothing over. -/
theorem wp_onSlot_quiet {α : Type} {m : SlotM α} {rel : DataRingBuffer → DataRingBuffer → Prop}
    (hm : ∀ l, wp m (fun _ l' ↦ Drains [] rel l l') l) (w : TunnelWorld) :
    wp (onSlot j m) (fun _ w' ↦ Visits j 0 w w') w := by
  refine wp_onSlot_visits (wp_mono (hm _) fun _ l' hl' ↦ ?_)
  rw [hl'.bytes]
  exact Nat.le_refl _

theorem wp_drainToRemote_visits (w : TunnelWorld) :
    wp (drainToRemote p j) (fun _ w' ↦ Visits j maxWritePerChannel w w') w := by
  refine wp_bind (wp_mono (wp_sys_visits (j := j) (.lock 20)) fun locked w₁ h₁ ↦ ?_)
  refine wp_ite (fun _ ↦ ?_) fun _ ↦ ?_
  · have hloop : wp (writeChunks p maxWritePerChannel maxWritePerChannel)
        (fun _ l' ↦ (wrote l').length ≤ maxWritePerChannel) (slotWorld j w₁) := by
      intro e
      obtain ⟨bs, hbytes, hle, -⟩ := (loopInBudget_writeChunks p (slotWorld j w₁) e).accepted
      rw [Prog.exec] at hbytes
      rw [hbytes]
      exact hle
    refine wp_bind (wp_mono (wp_onSlot_visits hloop) fun _ w₂ h₂ ↦ ?_)
    refine wp_bind (wp_mono (wp_sys_visits (j := j) .unlock) fun _ w₃ h₃ ↦ ?_)
    refine wp_mono (wp_onSlot_quiet wp_checkWriteStall_idles w₃) fun _ w₄ h₄ ↦ ?_
    simpa using ((h₁.trans h₂).trans h₃).trans h₄
  · exact wp_pure ⟨Nat.le_add_right_of_le h₁.accepted_le, h₁.accepted_eq, h₁.slots_eq⟩

/-- **One visit** hands over at most the budget. -/
theorem wp_drainLocalSlot_visits (j : ℕ) (w : TunnelWorld) :
    wp (drainLocalSlot p j) (fun _ w' ↦ Visits j maxWritePerChannel w w') w := by
  have hrefl : Visits j maxWritePerChannel w w :=
    ⟨Nat.le_add_right _ _, fun _ _ ↦ rfl, fun _ _ ↦ rfl⟩
  rw [drainLocalSlot, getSlot]
  simp only [wp_bind_assoc, wp_get_bind, wp_pure_bind]
  refine wp_ite (fun _ ↦ wp_pure hrefl) fun _ ↦ wp_ite (fun _ ↦ wp_pure hrefl) fun _ ↦ ?_
  refine wp_bind (wp_mono (wp_when (fun _ ↦ wp_drainToRemote_visits w) fun _ ↦ hrefl)
    fun _ w₁ h₁ ↦ ?_)
  refine wp_bind (wp_mono (wp_onSlot_quiet wp_localBackpressure_idles w₁) fun _ w₂ h₂ ↦ ?_)
  refine wp_bind (wp_mono (wp_onSlot_quiet wp_recvChunks_receives w₂) fun _ w₃ h₃ ↦ wp_mark ?_)
  have h₄ : Visits j 0 w₃ (w₃.marked (.note (.drained j))) := .of_eq rfl fun _ ↦ rfl
  simpa using ((h₁.trans h₂).trans h₃).trans h₄

/-- **One round** hands over the budget as often as it visits the slot. -/
theorem wp_each_drainLocalSlot (i : ℕ) (order : List ℕ) (w : TunnelWorld) :
    wp (Prog.each order (drainLocalSlot p))
      (fun _ w' ↦ acceptedOn i w' ≤ acceptedOn i w + maxWritePerChannel * order.count i) w := by
  induction order generalizing w with
  | nil => exact wp_pure (Nat.le_refl _)
  | cons j order ih =>
    refine wp_bind (wp_mono (wp_drainLocalSlot_visits j w) fun _ w₁ h₁ ↦ ?_)
    refine wp_mono (ih w₁) fun _ w' hw' ↦ ?_
    rw [List.count_cons]
    rcases eq_or_ne j i with rfl | hne
    · have := h₁.accepted_le
      rw [beq_self_eq_true, if_pos rfl, Nat.mul_add, Nat.mul_one]
      omega
    · rw [h₁.accepted_eq i hne.symm] at hw'
      rw [beq_false_of_ne hne, if_neg Bool.false_ne_true]
      exact hw'

theorem wp_drainLocalToSsh_accepted (i : ℕ) {offset : UInt32} (hw : OffsetIs offset w) :
    wp (drainLocalToSsh p) (fun _ w' ↦
      acceptedOn i w' ≤ acceptedOn i w + maxWritePerChannel * (roundRobin p offset).count i) w := by
  refine wp_ite (fun _ ↦ wp_pure (Nat.le_add_right _ _)) fun _ ↦ ?_
  rw [wp_get_bind, show w.st.transport.roundRobinOffset = offset from hw]
  exact wp_bind (wp_mono (wp_each_drainLocalSlot i _ w) fun _ w' hw' ↦ wp_modify hw')

/-! ### A slot that always has something to write -/

/-- Slot `i` can be written to, has at least `n` bytes to write and has handed over `a` so far. -/
structure Loaded (p : Params) (i n a : ℕ) (w : TunnelWorld) : Prop where
  /-- In use. -/
  active : (w.st.channels.slots i).active = true
  /-- With a channel. -/
  sshChannel : (w.st.channels.slots i).sshChannel.isSome = true
  /-- No EOF has been sent. -/
  eofSentMs : (w.st.channels.slots i).eofSentMs = 0
  /-- The bytes. -/
  toRemote : ∃ b, (w.st.channels.slots i).toRemote = some b ∧ Shaped p b ∧ n ≤ b.content.length
  /-- What was handed over. -/
  accepted : acceptedOn i w = a

theorem Loaded.lift {a : ℕ} {rel : DataRingBuffer → DataRingBuffer → Prop} (h : Loaded p i n a w)
    (hl : Drains bs rel (slotWorld i w) l)
    (hrel : ∀ b b', Shaped p b → rel b b' → n ≤ b.content.length → n' ≤ b'.content.length) :
    Loaded p i n' (a + bs.length) (lift i w l) := by
  have hch : (ReverseTunnel.lift i w l).st.channels.slots i = l.st.ch := setCtx_slots_same _ _
  obtain ⟨b, hb, hshaped, hlen⟩ := h.toRemote
  obtain ⟨b', hb', hshape, hr⟩ := hl.toRemote b hb
  refine ⟨?_, ?_, ?_, ⟨b', ?_, hshaped.of_sameShape hshape, hrel b b' hshaped hr hlen⟩, ?_⟩
  · rw [hch, hl.active]
    exact h.active
  · rw [hch, hl.sshChannel]
    exact h.sshChannel
  · rw [hch, hl.eofSentMs]
    exact h.eofSentMs
  · rw [hch, hb']
  · rw [acceptedOn_lift_same, h.accepted, hl.bytes]
    rfl

/-- Other slots do not matter. -/
theorem Loaded.visits {a k : ℕ} (h : Loaded p i n a w) (hv : Visits j k w w') (hne : i ≠ j) :
    Loaded p i n a w' := by
  have hch := hv.slots_eq i hne
  refine ⟨hch ▸ h.active, hch ▸ h.sshChannel, hch ▸ h.eofSentMs, hch ▸ h.toRemote, ?_⟩
  rw [hv.accepted_eq i hne, h.accepted]

theorem preserves_loaded {α : Type} {m : SlotM α} {a : ℕ}
    {rel : DataRingBuffer → DataRingBuffer → Prop}
    (hm : ∀ l, wp m (fun _ l' ↦ Drains [] rel l l') l)
    (hrel : ∀ b b', rel b b' → b.content.length ≤ b'.content.length) :
    Preserves (Loaded p i n a) (onSlot i m) := by
  intro w hw
  refine wp_onSlot (wp_mono (hm _) fun _ l' hl' ↦ ?_)
  exact hw.lift hl' fun b b' _ hr hlen ↦ Nat.le_trans hlen (hrel b b' hr)

theorem preserves_sys (c : SysCall) {a : ℕ} : Preserves (Loaded p i n a) (sys c) :=
  fun _ hw ↦ wp_call fun _ _ _ ↦ ⟨hw.active, hw.sshChannel, hw.eofSentMs, hw.toRemote, hw.accepted⟩

/-- A world that takes everything it is offered. -/
def takingWorld : Env Call Call.Reply := worldWith 1 fun _ _ ↦ none

theorem willing_takingWorld (i : ℕ) :
    Willing ⟨fun n c ↦ takingWorld.reply n (.io i c), takingWorld.elapse, takingWorld.choice⟩ := by
  intro n h bs hpos
  exact dif_pos hpos

/-- The write loop of such a slot uses up its budget. -/
theorem wpIn_writeChunks {a : ℕ} (hw : Loaded p i (n + maxWritePerChannel) a w) :
    wpIn takingWorld (onSlot i (writeChunks p maxWritePerChannel maxWritePerChannel))
      (fun _ ↦ Loaded p i n (a + maxWritePerChannel)) w := by
  refine wpIn_zoom ?_
  obtain ⟨h, hh⟩ := Option.isSome_iff_exists.1 hw.sshChannel
  obtain ⟨b, hb, hshaped, hlen⟩ := hw.toRemote
  obtain ⟨rounds, hends, -⟩ := (loopInBudget_writeChunks p (slotWorld i w)
    ⟨fun n c ↦ takingWorld.reply n (.io i c), takingWorld.elapse, takingWorld.choice⟩).ends
  obtain ⟨bs, hwrites, hbs⟩ := writes_of_willing (willing_takingWorld i) hends hh hb hshaped (by omega)
  have hafter : Loaded p i n (a + bs.length) _ := hw.lift hwrites fun b₀ b' hb₀ hlost hlen₀ ↦ by
    rw [hlost hb₀, List.length_append] at hlen₀
    omega
  rw [hbs] at hafter
  exact hafter

/-- A visit to such a slot hands over the whole budget. -/
theorem wpIn_drainLocalSlot {a : ℕ} (hw : Loaded p i (n + maxWritePerChannel) a w) :
    wpIn takingWorld (drainLocalSlot p i) (fun _ ↦ Loaded p i n (a + maxWritePerChannel)) w := by
  obtain ⟨h, hh⟩ := Option.isSome_iff_exists.1 hw.sshChannel
  obtain ⟨b, hb, -, hlen⟩ := hw.toRemote
  have hbusy : ringEmpty (w.st.channels.slots i).toRemote = false := by
    rw [← Bool.not_eq_true, ringEmpty_iff, hb]
    intro hnil
    have hzero : b.content.length = 0 := congrArg List.length hnil
    have : maxWritePerChannel = 16384 := rfl
    omega
  have hloop : wpIn takingWorld (drainToRemote p i)
      (fun _ ↦ Loaded p i n (a + maxWritePerChannel)) w := by
    have hlock : wpIn takingWorld (lock 20)
        (fun locked w' ↦ locked = true ∧ Loaded p i (n + maxWritePerChannel) a w') w :=
      ⟨rfl, preserves_sys (.lock 20) w hw takingWorld⟩
    refine wpIn_bind (wpIn_mono hlock fun locked w₀ ⟨hlocked, h₀⟩ ↦ ?_)
    rw [if_pos hlocked]
    refine wpIn_bind (wpIn_mono (wpIn_writeChunks h₀) fun _ w₁ h₁ ↦ wpIn_bind ?_)
    refine wpIn_mono ((preserves_sys .unlock w₁ h₁).wpIn _) fun _ w₂ h₂ ↦ ?_
    exact preserves_loaded wp_checkWriteStall_idles (fun b b' h ↦ h ▸ Nat.le_refl _) w₂ h₂ _
  rw [drainLocalSlot, getSlot]
  simp only [wpIn_bind_assoc, wpIn_get_bind, wpIn_pure_bind, hw.active, hh, hw.eofSentMs, hbusy]
  rw [if_neg (by simp), if_neg (by simp)]
  refine wpIn_bind (wpIn_mono hloop fun _ w₁ h₁ ↦ wpIn_bind ?_)
  have hpaused := preserves_loaded wp_localBackpressure_idles (fun b b' h ↦ h ▸ Nat.le_refl _) w₁ h₁
  refine wpIn_mono (hpaused.wpIn _) fun _ w₂ h₂ ↦ wpIn_bind ?_
  have hreceived := preserves_loaded (wp_recvChunks_receives (p := p))
    (fun b b' h ↦ h.length_le) w₂ h₂
  refine wpIn_mono (hreceived.wpIn _) fun _ w₃ h₃ ↦ ?_
  exact ⟨h₃.active, h₃.sshChannel, h₃.eofSentMs, h₃.toRemote, h₃.accepted⟩

/-- Every visit of a round does. -/
theorem wpIn_each_drainLocalSlot {a : ℕ} (order : List ℕ)
    (hw : Loaded p i (maxWritePerChannel * order.count i) a w) :
    wpIn takingWorld (Prog.each order (drainLocalSlot p))
      (fun _ w' ↦ acceptedOn i w' = a + maxWritePerChannel * order.count i) w := by
  induction order generalizing w a with
  | nil => exact hw.accepted
  | cons j order ih =>
    rw [List.count_cons] at hw ⊢
    refine wpIn_bind ?_
    rcases eq_or_ne j i with rfl | hne
    · rw [beq_self_eq_true, if_pos rfl, Nat.mul_add, Nat.mul_one] at hw ⊢
      refine wpIn_mono (wpIn_drainLocalSlot hw) fun _ w₁ h₁ ↦ wpIn_mono (ih h₁) fun _ w' hw' ↦ ?_
      omega
    · rw [beq_false_of_ne hne, if_neg Bool.false_ne_true, Nat.add_zero] at hw ⊢
      refine wpIn_mono ((wp_drainLocalSlot_visits j w).wpIn _) fun _ w₁ h₁ ↦ ?_
      exact ih (hw.visits h₁ hne.symm)

/-- A tunnel with `m` slots and room for `k` budgets in its rings. -/
def roomyTunnel (m k : ℕ) : Params :=
  { smallTunnel m with
    ringBufferSize := 8192 + maxWritePerChannel * k
    ringBufferSize_ge := Nat.le_add_right _ _ }

/-- The ring that holds them. -/
def budgetsRing (m k : ℕ) : DataRingBuffer :=
  ((DataRingBuffer.create (roomyTunnel m k).ringBufferSize (roomyTunnel m k).prependCap true).write
    (List.replicate (maxWritePerChannel * k) 0)).2

/-- Slot `i` holds `k` budgets, the others are not in use. -/
def loadedWorld (m k i : ℕ) (offset : UInt32) : TunnelWorld :=
  (initial 0).update fun s ↦
    { s with
      channels := { s.channels with
        slots := Function.update s.channels.slots i
          { active := true, sshChannel := some 0, toRemote := some (budgetsRing m k) } }
      transport := { s.transport with roundRobinOffset := offset } }

theorem loaded_loadedWorld (m k i : ℕ) (offset : UInt32) :
    Loaded (roomyTunnel m k) i (maxWritePerChannel * k) 0 (loadedWorld m k i offset) := by
  have hslot : (loadedWorld m k i offset).st.channels.slots i =
      { active := true, sshChannel := some 0, toRemote := some (budgetsRing m k) } :=
    Function.update_self ..
  refine ⟨by rw [hslot], by rw [hslot]; rfl, by rw [hslot],
    ⟨budgetsRing m k, by rw [hslot], ?_, ?_⟩, rfl⟩
  · exact (shaped_create (roomyTunnel m k) true).of_sameShape (DataRingBuffer.sameShape_write _ _)
  · have hroom : (List.replicate (maxWritePerChannel * k) (0 : UInt8)).length ≤
        (DataRingBuffer.create (roomyTunnel m k).ringBufferSize (roomyTunnel m k).prependCap
          true).available := by
      rw [List.length_replicate]
      exact Nat.le_add_left _ _
    obtain ⟨-, hcontent⟩ := DataRingBuffer.write_of_le hroom
    rw [budgetsRing, hcontent, List.length_append, List.length_replicate]
    exact Nat.le_add_left _ _

theorem acceptedOn_loadedWorld (m i : ℕ) (offset : UInt32) {k : ℕ}
    (hk : (roundRobin (smallTunnel m) offset).count i = k) (hm : m ≠ 0) :
    acceptedOn i ((drainLocalToSsh (roomyTunnel m k)).exec takingWorld (loadedWorld m k i offset)) =
      maxWritePerChannel * k := by
  have hloaded : Loaded (roomyTunnel m k) i
      (maxWritePerChannel * (roundRobin (smallTunnel m) offset).count i) 0
      (loadedWorld m k i offset) := by
    rw [hk]
    exact loaded_loadedWorld m k i offset
  have hround := wpIn_each_drainLocalSlot (roundRobin (smallTunnel m) offset) hloaded
  rw [hk, Nat.zero_add] at hround
  have hcycle : wpIn takingWorld (drainLocalToSsh (roomyTunnel m k))
      (fun _ w' ↦ acceptedOn i w' = maxWritePerChannel * k) (loadedWorld m k i offset) := by
    rw [drainLocalToSsh, if_neg (show (roomyTunnel m k).maxSlots ≠ 0 from hm), wpIn_get_bind]
    exact wpIn_bind (wpIn_mono hround fun _ w' hw' ↦ hw')
  exact hcycle

/-! ### The guarantee -/

/-- What phase 3 should do about its budget in a tunnel with `m` slots when the counter stands at
`offset`. -/
structure WithinBudget (m : ℕ) (offset : UInt32) : Prop where
  /-- The write loop of a slot ends, its budget does not underflow and `toRemote` loses what was
  accepted. -/
  loop : ∀ (p : Params) (l : SlotWorld) (e : Env IoCall IoCall.Reply),
    LoopInBudget p e l ((writeChunks p maxWritePerChannel maxWritePerChannel).exec e l)
  /-- No more than the budget is accepted per slot and cycle. -/
  cycle : ∀ (p : Params) (w : TunnelWorld) (e : Env Call Call.Reply) (i : ℕ), p.maxSlots = m →
    OffsetIs offset w → acceptedOn i ((drainLocalToSsh p).exec e w) ≤
      acceptedOn i w + maxWritePerChannel

/-- **Phase 3 keeps to its budget** if and only if no slot is visited twice in a round. -/
theorem write_budget_iff (m : ℕ) (offset : UInt32) :
    WithinBudget m offset ↔ m ∣ 2 ^ 32 ∨ offset.toNat + m ≤ 2 ^ 32 := by
  have hspreads : Spreads (smallTunnel m) offset ↔ m ∣ 2 ^ 32 ∨ offset.toNat + m ≤ 2 ^ 32 :=
    spreads_iff offset
  rw [← hspreads, ← nodup_roundRobin, List.nodup_iff_count_le_one]
  constructor
  · intro h i
    by_contra hcount
    rw [Nat.not_le] at hcount
    obtain ⟨k, hk⟩ : ∃ k, (roundRobin (smallTunnel m) offset).count i = k := ⟨_, rfl⟩
    have hm : m ≠ 0 := by
      rintro rfl
      exact absurd hcount (by simp [roundRobin, smallTunnel])
    have hbound := h.cycle (roomyTunnel m k) (loadedWorld m k i offset) takingWorld i rfl rfl
    rw [acceptedOn_loadedWorld m i offset hk hm, (loaded_loadedWorld m k i offset).accepted,
      Nat.zero_add] at hbound
    have := Nat.le_of_mul_le_mul_left (Nat.le_trans hbound (Nat.mul_one _).ge) (by decide)
    omega
  · intro hcount
    refine ⟨loopInBudget_writeChunks, fun p w e i hm hw ↦ ?_⟩
    have hsame : roundRobin p offset = roundRobin (smallTunnel m) offset := by
      subst hm
      rfl
    have hle := wp_drainLocalToSsh_accepted (p := p) i hw e
    rw [hsame] at hle
    exact Nat.le_trans hle (Nat.add_le_add_left (Nat.mul_le_mul_left _ (hcount i)) _)

/-- Three slots, after `2 ^ 32 - 1` cycles: the round is `0, 0, 1`, and slot `0` hands over `32768` bytes
in one cycle. -/
theorem write_budget_exceeded :
    (roundRobin (roomyTunnel 3 2) 4294967295) = [0, 0, 1] ∧
      acceptedOn 0 (loadedWorld 3 2 0 4294967295) = 0 ∧
      acceptedOn 0 ((drainLocalToSsh (roomyTunnel 3 2)).exec takingWorld
        (loadedWorld 3 2 0 4294967295)) = 32768 ∧
      ¬∀ m offset, WithinBudget m offset := by
  have hcount : (roundRobin (smallTunnel 3) 4294967295).count 0 = 2 := by decide
  have hrun := acceptedOn_loadedWorld 3 0 4294967295 hcount (by decide)
  refine ⟨by decide, rfl, hrun, fun hall ↦ ?_⟩
  have hbound := (hall 3 4294967295).cycle (roomyTunnel 3 2) (loadedWorld 3 2 0 4294967295)
    takingWorld 0 rfl rfl
  rw [hrun] at hbound
  exact absurd hbound (by decide)

end ReverseTunnel
