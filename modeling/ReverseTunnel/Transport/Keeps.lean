import ReverseTunnel.Lib.Triple
import ReverseTunnel.Transport.Pump

/-!
# What work on a slot cannot break

A program for a slot that is in use makes calls, leaves marks and changes the slot and the buffers, but
it neither binds the slot nor releases it. So an assertion that survives each of these survives every
such program; binding and releasing are left to the channel manager.
-/

namespace ReverseTunnel

open Traced SlotM

/-- A mark other than that of a bound slot. -/
def SlotMark.plain : SlotMark → Bool
  | .bound => false
  | _ => true

/-- An assertion that work on a slot cannot break, as long as the slot stays in use. -/
structure SlotKeeps (I : Assertion Ctx IoCall IoCall.Reply SlotMark) : Prop where
  /-- By a call. -/
  io : ∀ c, Preserves I (io c)
  /-- By a mark. -/
  mark : ∀ m : SlotMark, m.plain = true → Preserves I (Prog.mark m)
  /-- By a change of the slot. -/
  modifySlot : ∀ f : ChannelSlot → ChannelSlot, (∀ ch, (f ch).active = ch.active) →
    Preserves I (modifySlot f)
  /-- By a change of the buffers. -/
  buffers : ∀ f : Ctx → Ctx, (∀ c, (f c).ch = c.ch) → Preserves I (Prog.modify f)
  /-- By reading the clock. -/
  millis : Preserves I millis
  /-- By a silent choice. -/
  choose : Preserves I Prog.choose

theorem ChannelSlot.accountRestoreDrop_active (ch : ChannelSlot) (expected restored : ℕ) :
    (ch.accountRestoreDrop expected restored).active = ch.active := by
  rw [accountRestoreDrop]
  split <;> rfl

theorem ChannelSlot.restoreToLocal_active (ch : ChannelSlot) (data : List UInt8) :
    (ch.restoreToLocal data).active = ch.active := by
  rw [restoreToLocal]
  split <;> exact accountRestoreDrop_active ..

theorem ChannelSlot.restoreToRemote_active (ch : ChannelSlot) (data : List UInt8) :
    (ch.restoreToRemote data).active = ch.active := by
  rw [restoreToRemote]
  split <;> exact accountRestoreDrop_active ..

namespace SlotKeeps

variable {p : Params} {I : Assertion Ctx IoCall IoCall.Reply SlotMark}

theorem slot (_ : SlotKeeps I) : Preserves I slot := Preserves.get_bind fun _ ↦ Preserves.ret

theorem workBytes (_ : SlotKeeps I) (n : ℕ) : Preserves I (workBytes n) :=
  Preserves.get_bind fun _ ↦ Preserves.ret

/-- A field of the slot is set and the step ends. -/
theorem setAndStep (hI : SlotKeeps I) {f : ChannelSlot → ChannelSlot}
    (hf : ∀ ch, (f ch).active = ch.active) : Preserves I (do
      SlotM.modifySlot f
      Prog.mark .step) :=
  (hI.modifySlot f hf).bind fun _ ↦ hI.mark _ rfl

/-! ### Closing -/

theorem beginClose (hI : SlotKeeps I) (reason : ChannelCloseReason) :
    Preserves I (beginClose reason) := by
  refine hI.slot.bind fun _ ↦ Preserves.ite Preserves.ret ((hI.mark _ rfl).bind fun _ ↦ ?_)
  exact hI.millis.bind fun _ ↦ hI.setAndStep fun _ ↦ by rfl

theorem closeStage (hI : SlotKeeps I) (h : Handle) : Preserves I (closeStage h) := by
  refine hI.slot.bind fun _ ↦ Preserves.ite Preserves.ret ((hI.io _).bind fun _ ↦ ?_)
  exact (hI.modifySlot _ fun _ ↦ by rfl).bind fun _ ↦ Preserves.ret

theorem freeStage (hI : SlotKeeps I) (h : Handle) : Preserves I (freeStage h) := by
  refine hI.slot.bind fun _ ↦ Preserves.ite ((hI.io _).bind fun _ ↦ ?_) Preserves.ret
  exact (hI.modifySlot _ fun _ ↦ by rfl).bind fun _ ↦ Preserves.ret

theorem releaseChannel (hI : SlotKeeps I) : Preserves I releaseChannel := by
  refine hI.slot.bind fun ch ↦ ?_
  split
  · exact Preserves.ret
  · refine (hI.closeStage _).bind fun _ ↦ Preserves.ite Preserves.ret ?_
    refine (hI.freeStage _).bind fun _ ↦ Preserves.ite Preserves.ret (hI.slot.bind fun _ ↦ ?_)
    exact Preserves.ite Preserves.ret ((hI.modifySlot _ fun _ ↦ by rfl).bind fun _ ↦ Preserves.ret)

theorem closeLocalSocket (hI : SlotKeeps I) : Preserves I closeLocalSocket := by
  refine hI.slot.bind fun _ ↦ Preserves.ite ((hI.io _).bind fun _ ↦ ?_) Preserves.ret
  exact hI.modifySlot _ fun _ ↦ by rfl

theorem discardLocal (hI : SlotKeeps I) : Preserves I discardLocal :=
  hI.closeLocalSocket.bind fun _ ↦ (hI.modifySlot _ fun _ ↦ by rfl).bind fun _ ↦
    (hI.modifySlot _ fun _ ↦ by rfl).bind fun _ ↦ hI.mark _ rfl

theorem dropLocal (hI : SlotKeeps I) : Preserves I dropLocal :=
  (hI.modifySlot _ fun _ ↦ by rfl).bind fun _ ↦ hI.closeLocalSocket.bind fun _ ↦
    (hI.modifySlot _ fun _ ↦ by rfl).bind fun _ ↦ (hI.modifySlot _ fun _ ↦ by rfl).bind fun _ ↦
    hI.mark _ rfl

/-! ### Phase 1 -/

theorem readInto (hI : SlotKeeps I) (h : Handle) (n : ℕ) : Preserves I (readInto h n) := by
  refine (hI.io _).bind fun r ↦ ?_
  split
  · exact (hI.buffers _ fun _ ↦ by rfl).bind fun _ ↦ Preserves.ret
  · exact Preserves.ret

theorem storeChunk (hI : SlotKeeps I) (b : DataRingBuffer) (rc : ℕ) :
    Preserves I (storeChunk b rc) :=
  (hI.workBytes _).bind fun _ ↦ (hI.modifySlot _ fun _ ↦ by rfl).bind fun _ ↦
    (hI.buffers _ fun _ ↦ by rfl).bind fun _ ↦ hI.millis.bind fun _ ↦ hI.modifySlot _ fun _ ↦ by rfl

theorem countError (hI : SlotKeeps I) : Preserves I countError :=
  (hI.modifySlot _ fun _ ↦ by rfl).bind fun _ ↦ (hI.mark _ rfl).bind fun _ ↦ hI.slot.bind fun _ ↦
    Preserves.when (hI.beginClose _)

theorem readEnded (hI : SlotKeeps I) (rc : Int) : Preserves I (readEnded rc) :=
  Preserves.ite (hI.mark _ rfl) (Preserves.ite (hI.setAndStep fun _ ↦ by rfl) hI.countError)

theorem pumpRead (hI : SlotKeeps I) (h : Handle) (n : ℕ) : Preserves I (pumpRead h n) :=
  (hI.io _).bind fun _ ↦ hI.mark _ rfl

theorem pausedRead (hI : SlotKeeps I) (h : Handle) (b : DataRingBuffer) :
    Preserves I (pausedRead h b) := by
  refine Preserves.ite ((hI.readInto _ _).bind fun r ↦ ?_) Preserves.ret
  dsimp only
  split
  · exact (hI.storeChunk _ _).bind fun _ ↦ (hI.mark _ rfl).bind fun _ ↦ Preserves.ret
  · exact (hI.readEnded _).bind fun _ ↦ Preserves.ret

theorem readAttempt (hI : SlotKeeps I) (h : Handle) : Preserves I (readAttempt p h) := by
  refine hI.slot.bind fun ch ↦ ?_
  split
  · exact Preserves.ret
  · refine Preserves.ite ?_ ((hI.readInto _ _).bind fun r ↦ ?_)
    · exact (hI.modifySlot _ fun _ ↦ by rfl).bind fun _ ↦ (hI.mark _ rfl).bind fun _ ↦ Preserves.ret
    · split
      · refine (hI.storeChunk _ _).bind fun _ ↦ hI.slot.bind fun _ ↦ Preserves.ite ?_ ?_
        · exact (hI.modifySlot _ fun _ ↦ by rfl).bind fun _ ↦ (hI.mark _ rfl).bind fun _ ↦
            Preserves.ret
        · exact (hI.mark _ rfl).bind fun _ ↦ Preserves.ret
      · exact (hI.readEnded _).bind fun _ ↦ Preserves.ret

theorem checkEofFlag (hI : SlotKeeps I) (h : Handle) : Preserves I (checkEofFlag h) := by
  refine hI.slot.bind fun _ ↦ Preserves.ite ((hI.io _).bind fun _ ↦ ?_) Preserves.ret
  exact Preserves.ite (hI.setAndStep fun _ ↦ by rfl) (hI.mark _ rfl)

theorem readChunks (hI : SlotKeeps I) (h : Handle) : Preserves I (readChunks p h) := by
  refine hI.slot.bind fun ch ↦ ?_
  split
  · exact Preserves.ret
  · exact (Preserves.attempts (hI.readAttempt h)).bind fun _ ↦ (hI.checkEofFlag h).bind fun _ ↦
      Preserves.ret

theorem pumpSlot (hI : SlotKeeps I) : Preserves I (pumpSlot p) := by
  refine hI.slot.bind fun ch ↦ ?_
  split
  · refine Preserves.ite ((hI.pumpRead _ _).bind fun _ ↦ Preserves.ret)
      (Preserves.ite ?_ (hI.readChunks _))
    split
    · exact Preserves.ret
    · refine Preserves.ite ?_ (hI.pausedRead _ _)
      exact (hI.modifySlot _ fun _ ↦ by rfl).bind fun _ ↦ (hI.mark _ rfl).bind fun _ ↦
        hI.readChunks _
  · exact Preserves.ret

/-! ### Phase 2 -/

theorem sendBusy (hI : SlotKeeps I) (bs : List UInt8) : Preserves I (sendBusy bs) := by
  refine (hI.modifySlot _ fun ch ↦ ch.restoreToLocal_active bs).bind fun _ ↦
    hI.slot.bind fun _ ↦ Preserves.ite ?_ (hI.mark _ rfl)
  exact hI.millis.bind fun _ ↦ hI.setAndStep fun _ ↦ by rfl

theorem sendResult (hI : SlotKeeps I) (bs : List UInt8) (sent : SendReply bs.length) :
    Preserves I (sendResult bs sent) := by
  cases sent with
  | accepted k hpos hle =>
    refine (hI.buffers _ fun _ ↦ by rfl).bind fun _ ↦ hI.millis.bind fun _ ↦
      (hI.modifySlot _ fun _ ↦ by rfl).bind fun _ ↦ Preserves.ite ?_ ?_
    · exact (hI.modifySlot _ fun ch ↦ ch.restoreToLocal_active _).bind fun _ ↦
        (hI.mark _ rfl).bind fun _ ↦ Preserves.ret
    · exact (hI.mark _ rfl).bind fun _ ↦ Preserves.ret
  | fail errno =>
    refine Preserves.ite ?_ ((hI.sendBusy bs).bind fun _ ↦ Preserves.ret)
    exact (hI.modifySlot _ fun _ ↦ by rfl).bind fun _ ↦ (hI.mark _ rfl).bind fun _ ↦ Preserves.ret
  | zero => exact (hI.sendBusy bs).bind fun _ ↦ Preserves.ret

theorem sendAttempt (hI : SlotKeeps I) : Preserves I (sendAttempt p) := by
  refine hI.slot.bind fun ch ↦ ?_
  split
  · exact Preserves.ret
  · refine Preserves.ite Preserves.ret (hI.choose.bind fun cut ↦ ?_)
    refine (hI.modifySlot _ fun _ ↦ by rfl).bind fun _ ↦ (hI.buffers _ fun _ ↦ by rfl).bind fun _ ↦
      Preserves.ite Preserves.ret ?_
    exact (hI.workBytes _).bind fun bs ↦ (hI.io _).bind fun sent ↦ hI.sendResult bs sent

theorem checkSendStall (hI : SlotKeeps I) : Preserves I checkSendStall := by
  refine hI.slot.bind fun _ ↦ Preserves.ite (hI.millis.bind fun _ ↦ Preserves.ite ?_ Preserves.ret)
    Preserves.ret
  exact (Preserves.when (hI.beginClose _)).bind fun _ ↦ hI.millis.bind fun _ ↦
    hI.setAndStep fun _ ↦ by rfl

theorem drainSlot (hI : SlotKeeps I) : Preserves I (drainSlot p) :=
  hI.slot.bind fun _ ↦ Preserves.ite Preserves.ret
    ((Preserves.attempts hI.sendAttempt).bind fun _ ↦ hI.checkSendStall)

/-! ### Phase 3 -/

theorem writeBusy (hI : SlotKeeps I) (bs : List UInt8) : Preserves I (writeBusy bs) := by
  refine (hI.modifySlot _ fun ch ↦ ch.restoreToRemote_active bs).bind fun _ ↦
    (hI.modifySlot _ fun _ ↦ by rfl).bind fun _ ↦ hI.slot.bind fun _ ↦
    Preserves.ite ?_ (hI.mark _ rfl)
  exact hI.millis.bind fun _ ↦ hI.setAndStep fun _ ↦ by rfl

theorem writeResult (hI : SlotKeeps I) (bs : List UInt8) (written : WriteReply bs.length) :
    Preserves I (writeResult bs written) := by
  cases written with
  | accepted k hpos hle =>
    refine (hI.buffers _ fun _ ↦ by rfl).bind fun _ ↦ hI.millis.bind fun _ ↦
      (hI.modifySlot _ fun _ ↦ by rfl).bind fun _ ↦ Preserves.ite ?_ ?_
    · exact (hI.modifySlot _ fun ch ↦ ch.restoreToRemote_active _).bind fun _ ↦
        (hI.mark _ rfl).bind fun _ ↦ Preserves.ret
    · exact (hI.mark _ rfl).bind fun _ ↦ Preserves.ret
  | code rc hrc =>
    refine Preserves.ite ((hI.writeBusy bs).bind fun _ ↦ Preserves.ret) ?_
    exact (hI.modifySlot _ fun ch ↦ ch.restoreToRemote_active bs).bind fun _ ↦
      hI.countError.bind fun _ ↦ Preserves.ret

theorem writeAttempt (hI : SlotKeeps I) (budget : ℕ) : Preserves I (writeAttempt p budget) := by
  refine hI.slot.bind fun ch ↦ ?_
  split
  · refine Preserves.ite (hI.choose.bind fun cut ↦ ?_) Preserves.ret
    refine (hI.modifySlot _ fun _ ↦ by rfl).bind fun _ ↦ (hI.buffers _ fun _ ↦ by rfl).bind fun _ ↦
      Preserves.ite Preserves.ret ?_
    exact (hI.workBytes _).bind fun bs ↦ (hI.io _).bind fun written ↦ hI.writeResult bs written
  · exact Preserves.ret

theorem writeChunks (hI : SlotKeeps I) (fuel budget : ℕ) :
    Preserves I (writeChunks p fuel budget) := by
  induction fuel generalizing budget with
  | zero => exact Preserves.ret
  | succ fuel ih =>
    refine (hI.writeAttempt budget).bind fun written ↦ ?_
    split
    · exact Preserves.ret
    · exact ih _

theorem checkWriteStall (hI : SlotKeeps I) : Preserves I checkWriteStall := by
  refine hI.slot.bind fun _ ↦ Preserves.ite (hI.millis.bind fun _ ↦ Preserves.ite ?_ Preserves.ret)
    Preserves.ret
  exact (Preserves.when (hI.beginClose _)).bind fun _ ↦ hI.millis.bind fun _ ↦
    hI.setAndStep fun _ ↦ by rfl

theorem localBackpressure (hI : SlotKeeps I) : Preserves I localBackpressure := by
  refine hI.slot.bind fun _ ↦ ?_
  split
  · exact Preserves.ret
  · exact Preserves.ite (Preserves.ite (hI.setAndStep fun _ ↦ by rfl) Preserves.ret)
      (Preserves.ite (hI.setAndStep fun _ ↦ by rfl) Preserves.ret)

theorem recvResult (hI : SlotKeeps I) (b : DataRingBuffer) {n : ℕ} (recvd : RecvReply n) :
    Preserves I (recvResult b recvd) := by
  cases recvd with
  | data bs hpos hle =>
    exact (hI.buffers _ fun _ ↦ by rfl).bind fun _ ↦ (hI.workBytes _).bind fun _ ↦
      (hI.modifySlot _ fun _ ↦ by rfl).bind fun _ ↦ hI.millis.bind fun _ ↦
      (hI.modifySlot _ fun _ ↦ by rfl).bind fun _ ↦ (hI.buffers _ fun _ ↦ by rfl).bind fun _ ↦
      (hI.mark _ rfl).bind fun _ ↦ Preserves.ret
  | eof => exact (hI.setAndStep fun _ ↦ by rfl).bind fun _ ↦ Preserves.ret
  | fail errno =>
    exact Preserves.ite ((hI.setAndStep fun _ ↦ by rfl).bind fun _ ↦ Preserves.ret)
      ((hI.mark _ rfl).bind fun _ ↦ Preserves.ret)

theorem recvAttempt (hI : SlotKeeps I) : Preserves I (recvAttempt p) := by
  refine hI.slot.bind fun ch ↦ Preserves.ite Preserves.ret ?_
  split
  · exact Preserves.ret
  · refine Preserves.ite ?_ ((hI.io _).bind fun _ ↦ hI.recvResult _ _)
    exact (hI.modifySlot _ fun _ ↦ by rfl).bind fun _ ↦ (hI.mark _ rfl).bind fun _ ↦ Preserves.ret

theorem recvChunks (hI : SlotKeeps I) : Preserves I (recvChunks p) :=
  hI.slot.bind fun _ ↦ Preserves.ite (Preserves.attempts hI.recvAttempt) Preserves.ret

/-! ### Phase 4 -/

theorem checkSlot (hI : SlotKeeps I) (now : UInt32) : Preserves I (checkSlot p now) := by
  refine hI.slot.bind fun _ ↦ Preserves.ite Preserves.ret ((hI.mark _ rfl).bind fun _ ↦ ?_)
  refine Preserves.ite (hI.beginClose _) (Preserves.ite (hI.beginClose _)
    (Preserves.ite (hI.beginClose _) (Preserves.bind ?_ fun _ ↦ ?_)))
  · exact hI.slot.bind fun _ ↦ Preserves.ite
      ((hI.io _).bind fun _ ↦ hI.modifySlot _ fun _ ↦ by rfl) Preserves.ret
  · exact hI.slot.bind fun _ ↦ Preserves.ite (hI.beginClose _)
      (Preserves.ite (hI.beginClose _) Preserves.ret)

theorem sendEofSlot (hI : SlotKeeps I) : Preserves I sendEofSlot := by
  have hflush : ∀ h, Preserves I (flushAttempt h) := by
    refine fun h ↦ (hI.io _).bind fun r ↦ ?_
    split
    · exact (hI.modifySlot _ fun _ ↦ by rfl).bind fun _ ↦ Preserves.ret
    · exact Preserves.ret
  refine hI.slot.bind fun ch ↦ ?_
  split
  · exact Preserves.ret
  · refine (hI.io _).bind fun _ ↦ Preserves.ite (hI.mark _ rfl) ?_
    exact (Preserves.attempts (hflush _)).bind fun _ ↦ hI.millis.bind fun _ ↦
      (hI.modifySlot _ fun _ ↦ by rfl).bind fun _ ↦ (hI.mark _ rfl).bind fun _ ↦ hI.mark _ rfl

end SlotKeeps

end ReverseTunnel
