import ReverseTunnel.Guarantees.Statistics
import ReverseTunnel.Guarantees.WorkBuffer

/-!
# Traffic counters

`totalBytesSent` should be what `libssh2_channel_write` has accepted in the lifetime of a slot, and
`totalBytesReceived` what was read from the channel and stored in `toLocal`. The two reads of phase 1
count what they store. The EOF flush, which stores what it reads there as well, **does not count
it**: the counter falls short by exactly those bytes.

Both counters are a `size_t` of 32 bits. So the first is right if and only if fewer than `2 ^ 32`
bytes were accepted, and the second if and only if the flush has stored nothing and fewer than
`2 ^ 32` bytes were stored in all.
-/

namespace ReverseTunnel

open Traced TunnelM

variable {p : Params} {ext : Bool} {v v' : View} {w : TunnelWorld} {i : ℕ}

/-! ### What was stored -/

/-- The number of bytes a log entry has read from the channel and stored in `toLocal`. The bytes of
a read at the end of the stream are not stored, unless it is one of the EOF flush. -/
def storedOf : SlotItem → SlotLog → ℕ
  | .call _ _ ch (.channelRead _ _) (.data bs _ _), past =>
    if ch.remoteEof && !inFlush past then 0
    else (ch.toLocal.map fun b ↦ (b.write bs).1).getD 0
  | _, _ => 0

/-- The number of bytes read from the channel and stored, by any phase. -/
def bytesStored : SlotLog → ℕ
  | [] => 0
  | x :: past => bytesStored past + storedOf x past

/-- The number of bytes stored by the EOF flush. -/
def bytesFlushed : SlotLog → ℕ
  | [] => 0
  | x :: past => bytesFlushed past + if inFlush past then storedOf x past else 0

/-- A read of the EOF flush yields data for a ring that could be allocated. -/
def flushYields : SlotItem → SlotLog → Bool
  | .call _ _ ch (.channelRead _ _) (.data _ _ _), past =>
    inFlush past && ch.toLocal.any (·.handle.isSome)
  | _, _ => false

/-- The EOF flush yields nothing that can be stored. -/
def NothingFlushed (log : SlotLog) : Prop :=
  History.Always (fun x past ↦ flushYields x past = false) log

instance (log : SlotLog) : Decidable (NothingFlushed log) :=
  inferInstanceAs (Decidable (History.Always _ log))

/-- The counters of `ch` against what its lifetime has done. -/
structure CountedSince (ch : ChannelSlot) (log : SlotLog) : Prop where
  /-- All but the flush is counted. -/
  received : ch.totalBytesReceived + bytesFlushed log = bytesStored log
  /-- Everything that was written is counted. -/
  sent : ch.totalBytesSent = (bytesOf writtenOf log).length

/-- An entry that counts what it stores, outside the flush, and what it writes. -/
theorem CountedSince.entry {ch ch' : ChannelSlot} {log : SlotLog} {x : SlotItem}
    (h : CountedSince ch log)
    (hr : ch'.totalBytesReceived + (if inFlush log then storedOf x log else 0) =
      ch.totalBytesReceived + storedOf x log)
    (hs : ch'.totalBytesSent = ch.totalBytesSent + (writtenOf x).length) :
    CountedSince ch' (x :: log) := by
  constructor
  · rw [bytesFlushed, bytesStored, ← h.received]
    omega
  · rw [bytesOf_cons, List.length_append, ← h.sent]
    exact hs

/-- An entry that neither stores nor writes. -/
theorem CountedSince.cons {ch ch' : ChannelSlot} {log : SlotLog} {x : SlotItem}
    (h : CountedSince ch log) (hx : storedOf x log = 0) (hwritten : writtenOf x = [])
    (hr : ch'.totalBytesReceived = ch.totalBytesReceived)
    (hs : ch'.totalBytesSent = ch.totalBytesSent) : CountedSince ch' (x :: log) := by
  refine h.entry ?_ ?_
  · rw [hx, ite_self, hr]
  · rw [hwritten, hs]
    rfl

/-- A chunk of work that neither stores nor writes. -/
theorem CountedSince.chunk {ch ch' : ChannelSlot} {log : SlotLog} {x y : SlotItem}
    (h : CountedSince ch log) (hy : storedOf y log = 0) (hywritten : writtenOf y = [])
    (hx : storedOf x (y :: log) = 0) (hxwritten : writtenOf x = [])
    (hr : ch'.totalBytesReceived = ch.totalBytesReceived)
    (hs : ch'.totalBytesSent = ch.totalBytesSent) : CountedSince ch' (x :: y :: log) :=
  (h.cons hy hywritten rfl rfl).cons hx hxwritten hr hs

/-! ### The flush -/

/-- A flush that began in this lifetime. -/
theorem inFlush_life {log : SlotLog} (h : inFlush (life log) = true) : inFlush log = true := by
  induction log with
  | nil => exact h
  | cons x past ih =>
    cases x with
    | call id t s c r =>
      cases c with
      | channelRead c n => exact ih h
      | _ => exact h
    | mark t s m => cases m <;> exact h

theorem inFlush_life_of_finished {log : SlotLog} (h : inFlush log = false) :
    inFlush (life log) = false := by
  cases hl : inFlush (life log) with
  | false => rfl
  | true =>
    rw [inFlush_life hl] at h
    cases h

theorem CountedSince.pump (h : CountedSince v.ch (life v.log)) (hin : inFlush v.log = false)
    (hp : PumpStep p ext v v') : CountedSince v'.ch (life v'.log) := by
  have hin := inFlush_life_of_finished hin
  cases hp with
  | wait ht => exact h
  | checking hact hopen => exact h.cons rfl rfl rfl rfl
  | pause ssh loc hact => exact h.cons rfl rfl rfl rfl
  | rearmSend hset ht hact => exact h.cons rfl rfl rfl rfl
  | rearmWrite hset ht hact => exact h.cons rfl rfl rfl rfl
  | forwardEof hact hopen hlocal herr hfwd hlog ht => exact h.cons rfl rfl rfl rfl
  | @pumpRead c n id t r hact hh heof ht =>
    refine h.chunk ?_ rfl rfl rfl rfl rfl
    cases r with
    | code rc hrc => rfl
    | data bs hpos hle => simp [storedOf, heof, hin]
  | @readData c b b' n id t t' bs hpos hle paused hact hh heof hb hb' ht ht' hstored =>
    have hx : storedOf (.call id t v.ch (.channelRead c n) (.data bs hpos hle)) (life v.log) =
        bs.length := by
      simp [storedOf, heof, hb, hstored]
    have hread : CountedSince
        { v.ch with totalBytesReceived := v.ch.totalBytesReceived + bs.length }
        (.call id t v.ch (.channelRead c n) (.data bs hpos hle) :: life v.log) := by
      refine h.entry ?_ rfl
      rw [hin, hx]
      rfl
    exact hread.cons rfl rfl rfl rfl
  | @writeData c b b' b'' bs k id t t' hpos hle hact hh heof hb hbs hb' hshape ht ht' =>
    have hwrite : CountedSince { v.ch with totalBytesSent := v.ch.totalBytesSent + k }
        (.call id t { v.ch with toRemote := some b' } (.channelWrite c bs) (.accepted k hpos hle) ::
          life v.log) := by
      refine h.entry ?_ ?_
      · rw [hin]
        rfl
      · show v.ch.totalBytesSent + k = v.ch.totalBytesSent + (bs.take k).length
        rw [List.length_take, Nat.min_eq_left hle]
    exact hwrite.cons rfl rfl rfl rfl
  | _ => exact h.chunk rfl rfl rfl rfl rfl rfl

/-- The flush counts nothing of what it stores. -/
theorem CountedSince.flush {c : Handle} {n : ℕ} (hf : Flush c n v v')
    (h : CountedSince v.ch (life v.log)) (hin : inFlush (life v.log) = true) :
    CountedSince v'.ch (life v'.log) := by
  induction hf with
  | done => exact h
  | stop ht => exact h.cons rfl rfl rfl rfl
  | @more v v' n id t bs hpos hle b b' ht hb hshape hb' hrest ih =>
    refine ih (h.entry ?_ rfl) hin
    rw [if_pos hin]
    rfl

theorem CountedSince.work (h : CountedSince v.ch (life v.log)) (hin : inFlush v.log = false)
    (hw : WorkStep p ext v v') : CountedSince v'.ch (life v'.log) := by
  cases hw with
  | pump hp => exact h.pump hin hp
  | sendEofAgain hact hst hh heof hl hr hagain ht => exact h.chunk rfl rfl rfl rfl rfl rfl
  | @sendEof u c id t t' rc hact hst hh heof hl hr hdone ht hflush ht' =>
    have hcall : CountedSince v.ch (life (v.call id t (.channelSendEof c) rc).log) :=
      h.cons rfl rfl rfl rfl
    have hu : CountedSince u.ch (life u.log) := hcall.flush hflush rfl
    exact hu.chunk rfl rfl rfl rfl rfl rfl
  | finalizing hact hst hτ hverdict => exact h.cons rfl rfl rfl rfl
  | closeChannel hact hh ht hnot => exact h.cons rfl rfl rfl rfl
  | freeAgain hact hh hagain ht hclosed => exact h.cons rfl rfl rfl rfl

/-! ### Every lifetime -/

/-- The counters of every lifetime, of those that have ended as they were released. -/
structure Counted (v : View) : Prop where
  /-- No flush is going on. -/
  finished : inFlush v.log = false
  /-- The current lifetime. -/
  now : v.ch.active = true → CountedSince v.ch (life v.log)
  /-- The lifetimes that have ended. -/
  ended : History.Always (fun x past ↦ isReleased x = true → CountedSince x.pre (life past)) v.log

theorem counted_fresh (clock : ℕ) : Counted (.fresh clock) where
  finished := rfl
  now hact := by cases hact
  ended := trivial

theorem Counted.step (hsound : Sound p v) (hrule : History.Always FlushRule v.log)
    (h : Counted v) (hs : SlotStep p ext v v') : Counted v' := by
  refine ⟨(hs.flushed hsound ⟨h.finished, hrule⟩).finished, fun hact ↦ ?_, ?_⟩
  · cases hs with
    | work hw => exact (h.now (hw.retains.active ▸ hact)).work h.finished hw
    | bind hdead hfd ht ht' => exact ⟨rfl, rfl⟩
    | release hact' hh hdone ht ht' ht'' hclosed => cases hact
    | abandon hact' ht => cases hact
  · cases hs with
    | work hw =>
      obtain ⟨items, hlog, -, hrel⟩ := hw.unbound
      rw [hlog]
      refine h.ended.append fun x hx rest hno ↦ ?_
      rw [hrel x hx] at hno
      cases hno
    | bind hdead hfd ht ht' => exact ⟨fun hno ↦ (by cases hno), fun hno ↦ (by cases hno), h.ended⟩
    | @release c id id' t t' t'' rc progress hact' hh hdone ht ht' ht'' hclosed =>
      have hfree : CountedSince (v.freed c rc progress id t).ch.emptied
          (.call id t v.ch (.channelFree c) rc :: life v.log) :=
        (h.now hact').cons rfl rfl rfl rfl
      rw [View.shut, View.discarded, View.socketClosed]
      split
      · exact ⟨fun _ ↦ hfree.cons rfl rfl rfl rfl, fun hno ↦ (by cases hno),
          fun hno ↦ (by cases hno), h.ended⟩
      · exact ⟨fun _ ↦ hfree, fun hno ↦ (by cases hno), h.ended⟩
    | abandon hact' ht =>
      have hnow : CountedSince v.ch.emptied (life v.log) :=
        ⟨(h.now hact').received, (h.now hact').sent⟩
      rw [View.dropped, View.socketClosed]
      split
      · exact ⟨fun _ ↦ hnow.cons rfl rfl rfl rfl, fun hno ↦ (by cases hno), h.ended⟩
      · exact ⟨fun _ ↦ hnow, h.ended⟩

/-! ### When the counter is right -/

theorem flushRule_life {log : SlotLog} (h : History.Always FlushRule log) :
    History.Always FlushRule (life log) := by
  induction log with
  | nil => trivial
  | cons x past ih =>
    have hpast := ih h.2
    have hx : FlushRule x (life past) := fun id t ch c r hx hin ↦
      h.1 id t ch c r hx (inFlush_life hin)
    cases x with
    | call id t s c r => exact ⟨hx, hpast⟩
    | mark t s m =>
      cases m with
      | bound => trivial
      | _ => exact ⟨hx, hpast⟩

/-- A read of the flush stores something if and only if it yields data for a ring with storage. -/
theorem storedOf_eq_zero_iff {x : SlotItem} {past : SlotLog} (hrule : FlushRule x past)
    (hin : inFlush past = true) : storedOf x past = 0 ↔ flushYields x past = false := by
  cases x with
  | mark t s m => exact ⟨fun _ ↦ rfl, fun _ ↦ rfl⟩
  | call id t ch c r =>
    obtain ⟨h, b, rfl, hb, havail⟩ := hrule id t ch c r rfl hin
    cases r with
    | code rc hrc => exact ⟨fun _ ↦ rfl, fun _ ↦ rfl⟩
    | data bs hpos hle =>
      have hstored : storedOf (.call id t ch (.channelRead h 512) (.data bs hpos hle)) past =
          min bs.length b.available := by
        simp [storedOf, hin, hb, (b.write_spec bs).1]
      have hyields : flushYields (.call id t ch (.channelRead h 512) (.data bs hpos hle)) past =
          b.handle.isSome := by
        simp [flushYields, hin, hb]
      rw [hstored, hyields]
      cases hs : b.handle.isSome with
      | true =>
        have hroom := havail.2 hs
        exact ⟨fun hno ↦ by omega, fun hno ↦ (by cases hno)⟩
      | false =>
        have hnone : b.available = 0 := by
          by_contra hne
          rw [b.isSome_of_available_pos (Nat.pos_of_ne_zero hne)] at hs
          cases hs
        rw [hnone, Nat.min_zero]
        exact ⟨fun _ ↦ rfl, fun _ ↦ rfl⟩

theorem flushYields_of_finished {x : SlotItem} {past : SlotLog} (hin : inFlush past = false) :
    flushYields x past = false := by
  cases x with
  | mark t s m => rfl
  | call id t s c r =>
    cases c with
    | channelRead h n => cases r <;> simp [flushYields, hin]
    | _ => rfl

theorem bytesFlushed_eq_zero_iff {log : SlotLog} (h : History.Always FlushRule log) :
    bytesFlushed log = 0 ↔ NothingFlushed log := by
  induction log with
  | nil => exact ⟨fun _ ↦ trivial, fun _ ↦ rfl⟩
  | cons x past ih =>
    have hpast := ih h.2
    rw [bytesFlushed, Nat.add_eq_zero_iff, hpast, NothingFlushed, NothingFlushed,
      History.always_cons, and_comm]
    refine and_congr_left fun _ ↦ ?_
    cases hin : inFlush past with
    | true =>
      rw [if_pos rfl]
      exact storedOf_eq_zero_iff h.1 hin
    | false =>
      rw [if_neg Bool.false_ne_true]
      exact ⟨fun _ ↦ flushYields_of_finished hin, fun _ ↦ rfl⟩

/-- The number of bytes that `libssh2_channel_write` has accepted. -/
def bytesAccepted (log : SlotLog) : ℕ := (bytesOf writtenOf log).length

/-- The counters of a lifetime, as they stand in the slot, are exact. -/
structure ExactCounters (ch : ChannelSlot) (log : SlotLog) : Prop where
  /-- What was read and stored. -/
  received : (sizeCounter ch.totalBytesReceived).toNat = bytesStored log
  /-- What was accepted. -/
  sent : (sizeCounter ch.totalBytesSent).toNat = bytesAccepted log

/-- When they are: each of the two counters by itself, and both together. -/
structure ExactUnlessFlushed (ch : ChannelSlot) (log : SlotLog) : Prop where
  /-- What was accepted. -/
  sent : (sizeCounter ch.totalBytesSent).toNat = bytesAccepted log ↔ bytesAccepted log < 2 ^ 32
  /-- What was read and stored. -/
  received : (sizeCounter ch.totalBytesReceived).toNat = bytesStored log ↔
    NothingFlushed log ∧ bytesStored log < 2 ^ 32
  /-- Both. -/
  both : ExactCounters ch log ↔
    NothingFlushed log ∧ bytesStored log < 2 ^ 32 ∧ bytesAccepted log < 2 ^ 32

theorem CountedSince.exactUnlessFlushed {ch : ChannelSlot} {log : SlotLog}
    (h : CountedSince ch log) (hrule : History.Always FlushRule log) :
    ExactUnlessFlushed ch log := by
  have hsent : (sizeCounter ch.totalBytesSent).toNat = bytesAccepted log ↔
      bytesAccepted log < 2 ^ 32 := by
    rw [h.sent]
    exact toNat_sizeCounter_eq_iff
  have hreceived : (sizeCounter ch.totalBytesReceived).toNat = bytesStored log ↔
      NothingFlushed log ∧ bytesStored log < 2 ^ 32 := by
    rw [← bytesFlushed_eq_zero_iff hrule, ← h.received]
    constructor
    · -- a counter that holds less than was added to it cannot make up for the flush
      intro heq
      have hle := toNat_sizeCounter_le ch.totalBytesReceived
      have hlt := (sizeCounter ch.totalBytesReceived).toNat_lt
      omega
    · rintro ⟨hnone, hlt⟩
      rw [hnone, Nat.add_zero] at hlt ⊢
      exact toNat_sizeCounter_eq_iff.2 hlt
  refine ⟨hsent, hreceived, fun hboth ↦ ?_, fun hcond ↦ ?_⟩
  · obtain ⟨hnone, hlt⟩ := hreceived.1 hboth.received
    exact ⟨hnone, hlt, hsent.1 hboth.sent⟩
  · exact ⟨hreceived.2 ⟨hcond.1, hcond.2.1⟩, hsent.2 hcond.2.2⟩

/-- The mark of a boundary is nothing to count. -/
theorem ExactUnlessFlushed.of_boundary {ch s : ChannelSlot} {log : SlotLog} {t : ℕ}
    (h : ExactUnlessFlushed ch (.mark t s .step :: log)) : ExactUnlessFlushed ch log := by
  have haccepted : bytesAccepted (.mark t s .step :: log) = bytesAccepted log :=
    congrArg List.length (List.append_nil _)
  have hnone : NothingFlushed (.mark t s .step :: log) ↔ NothingFlushed log := and_iff_right rfl
  obtain ⟨hsent, hreceived, hboth⟩ := h
  rw [haccepted] at hsent hboth
  rw [hnone] at hreceived hboth
  refine ⟨hsent, hreceived, fun hexact ↦ ?_, fun hcond ↦ ?_⟩
  · exact hboth.1 ⟨hexact.received, haccepted.symm ▸ hexact.sent⟩
  · exact ⟨(hboth.2 hcond).received, haccepted ▸ (hboth.2 hcond).sent⟩

/-- **Traffic counters.** In every run, for every slot in use, between operations and wherever a
chunk of work has ended, and for every lifetime that has ended: `totalBytesSent` is what
`libssh2_channel_write` has accepted if and only if that is less than `2 ^ 32`, and
`totalBytesReceived` is what was read and stored if and only if that is less than `2 ^ 32` and the
EOF flush of the lifetime has yielded nothing that could be stored. -/
theorem traffic_counters (hw : Run p w) (i : ℕ) :
    ((w.st.channels.slots i).active = true →
      ExactUnlessFlushed (w.st.channels.slots i) (life (slotLog i w.trace))) ∧
    (∀ newer t s past, w.trace = newer ++ .mark t s (.slot i .step) :: past →
      (s.channels.slots i).active = true →
        ExactUnlessFlushed (s.channels.slots i) (life (slotLog i past))) ∧
    ∀ newer t s past, w.trace = newer ++ .mark t s (.slot i .released) :: past →
      ExactUnlessFlushed (s.channels.slots i) (life (slotLog i past)) := by
  have key : ∀ {clock v}, Reach p true (.fresh clock) v →
      Counted v ∧ History.Always FlushRule v.log := by
    intro clock v hv
    induction hv with
    | refl => exact ⟨counted_fresh clock, trivial⟩
    | tail hr hs ih =>
      have hsound := (sound_fresh clock).reach hr
      exact ⟨ih.1.step hsound ih.2 hs, (hs.flushed hsound ⟨ih.1.finished, ih.2⟩).rule⟩
  obtain ⟨clock, hr⟩ := hw.followed
  have hboth := hw.followed.everywhere
    (P := fun ch log ↦ ch.active = true → ExactUnlessFlushed ch (life log)) i
    (fun clock v hv _ hact ↦ ((key hv).1.now hact).exactUnlessFlushed (flushRule_life (key hv).2))
    fun t ch log h hact ↦ ?_
  · refine ⟨hboth.1, hboth.2, fun newer t s past htr ↦ ?_⟩
    obtain ⟨hcounted, hrule⟩ := key (hr i)
    have hended := hcounted.ended
    rw [History.always_iff] at hended
    have hsplit := slotLog_split htr
    rw [slotView_log, hsplit] at hrule
    exact (hended _ _ _ hsplit rfl).exactUnlessFlushed (flushRule_life hrule.of_append.2)
  · exact (h hact).of_boundary

/-! ### A lifetime that is not counted in full -/

/-- The channel yields three bytes once its end has been announced. -/
def lateWorld : Env Call Call.Reply := worldWith 1 fun _ c ↦
  match c with
  | .io _ (.channelRead _ n) =>
    if h : n = 512 then some (threeBytes (by simp [h])) else none
  | _ => none

/-- A channel is bound, and closed before it has moved anything. -/
def lateRun : TunnelWorld := afterManagerOps (smallTunnel 1)
  [(.bindChannel 0 77 {}, lateWorld), (.beginClose 0 .manual, lateWorld), (.pumpAll, lateWorld)]

theorem run_lateRun : Run (smallTunnel 1) lateRun := run_after _

/-- The flush has stored twelve bytes, and counted none of them. -/
theorem not_received_lateRun :
    ¬∀ (p : Params) (w : TunnelWorld), Run p w → ∀ i, (w.st.channels.slots i).active = true →
      ExactCounters (w.st.channels.slots i) (life (slotLog i w.trace)) := by
  intro h
  have hcount := (h _ _ run_lateRun 0 (by decide +kernel)).received
  rw [show bytesStored (life (slotLog 0 lateRun.trace)) = 12 by decide +kernel,
    show (lateRun.st.channels.slots 0).totalBytesReceived = 0 by decide +kernel] at hcount
  cases hcount

theorem traffic_counters_reusedRun :
    ExactUnlessFlushed (reusedRun.st.channels.slots 0) (life (slotLog 0 reusedRun.trace)) ∧
      (reusedRun.st.channels.slots 0).totalBytesReceived = 9 :=
  ⟨(traffic_counters run_reusedRun 0).1 (by decide +kernel), by decide +kernel⟩

end ReverseTunnel
