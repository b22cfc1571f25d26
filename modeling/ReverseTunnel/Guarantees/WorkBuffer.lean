import ReverseTunnel.System.Discipline

/-!
# Requests and the room for them

Everything that is read, received, sent or written goes through the work buffer of `bufSize` bytes, and
what comes in is stored in a ring. The sizes of the requests are right with two exceptions. The small
read of a paused channel asks for 64 bytes whatever the size of the work buffer is. And the reads of the
EOF flush, which have a buffer of their own, are stored in `toLocal` without asking for its room: there
is enough of it, unless the ring could not be allocated.
-/

namespace ReverseTunnel

open Traced Clock32

variable {p : Params} {ext : Bool} {v v' : View} {w : TunnelWorld}

/-- The number of bytes that a call may place in the work buffer, or takes from it. A read at the end
of the stream and the reads of the EOF flush have a buffer of their own. -/
def workRequest : SlotItem → SlotLog → Option ℕ
  | .call _ _ ch (.channelRead _ n) _, past =>
    if ch.remoteEof || inFlush past then none else some n
  | .call _ _ _ (.recv _ n) _, _ => some n
  | .call _ _ _ (.send _ bs) _, _ => some bs.length
  | .call _ _ _ (.channelWrite _ bs) _, _ => some bs.length
  | _, _ => none

/-- The ring that will store what a call yields, and the number of bytes asked for. -/
def ringRequest : SlotItem → SlotLog → Option (DataRingBuffer × ℕ)
  | .call _ _ ch (.channelRead _ n) _, past =>
    if ch.remoteEof && !inFlush past then none else ch.toLocal.map (·, n)
  | .call _ _ ch (.recv _ n) _, _ => ch.toRemote.map (·, n)
  | _, _ => none

/-- A request for which there is room in the work buffer and in the ring. -/
structure WithinBounds (p : Params) (x : SlotItem) (past : SlotLog) : Prop where
  /-- It fits the work buffer. -/
  work : ∀ n ∈ workRequest x past, n ≤ p.bufSize
  /-- It fits the ring. -/
  ring : ∀ q ∈ ringRequest x past, q.2 ≤ q.1.available

/-- The slot as it is before a read leaves room for it: the small read of a paused channel finds a work
buffer of at least 64 bytes, or a ring with no more room than the work buffer; the EOF flush finds a
ring that could be allocated. -/
def leavesRoom (p : Params) : SlotItem → SlotLog → Bool
  | .call _ _ ch (.channelRead _ _) _, past =>
    if inFlush past then ch.toLocal.all (·.handle.isSome)
    else ch.remoteEof || !ch.sshReadPaused || 64 ≤ p.bufSize ||
      ch.toLocal.all (·.available ≤ p.bufSize)
  | _, _ => true

instance (p : Params) (x : SlotItem) (past : SlotLog) : Decidable (WithinBounds p x past) :=
  decidable_of_iff ((∀ n ∈ workRequest x past, n ≤ p.bufSize) ∧
    ∀ q ∈ ringRequest x past, q.2 ≤ q.1.available) ⟨fun h ↦ ⟨h.1, h.2⟩, fun h ↦ ⟨h.1, h.2⟩⟩

/-! ### The EOF flush -/

/-- During the EOF flush the only calls are reads of 512 bytes, and the ring has room for them if it
could be allocated. -/
def FlushRule (x : SlotItem) (past : SlotLog) : Prop :=
  ∀ id t ch c r, x = .call id t ch c r → inFlush past = true →
    ∃ h b, c = .channelRead h 512 ∧ ch.toLocal = some b ∧
      (512 ≤ b.available ↔ b.handle.isSome = true)

/-- The EOF flush is over, and it has kept the rule. -/
structure Flushed (v : View) : Prop where
  /-- It is over. -/
  finished : inFlush v.log = false
  /-- The rule was kept. -/
  rule : History.Always FlushRule v.log

/-- There is a ring, with room for `n` more reads of the flush if it could be allocated. -/
structure RoomFor (n : ℕ) (ch : ChannelSlot) (b : DataRingBuffer) : Prop where
  /-- The ring. -/
  toLocal : ch.toLocal = some b
  /-- Its room. -/
  room : b.handle.isSome = true → b.content.length + 512 * n ≤ b.capacity

theorem RoomFor.available_iff {n : ℕ} {ch : ChannelSlot} {b : DataRingBuffer}
    (h : RoomFor (n + 1) ch b) : 512 ≤ b.available ↔ b.handle.isSome = true := by
  constructor
  · intro havail
    exact b.isSome_of_available_pos (Nat.lt_of_lt_of_le (by decide) havail)
  · intro hs
    have hroom := h.room hs
    obtain ⟨ring, hring⟩ := Option.isSome_iff_exists.1 hs
    have hlen : ring.length ≤ b.content.length := by simp [DataRingBuffer.content, hring]
    have hfit : ring.length + 512 ≤ b.capacity := by
      calc ring.length + 512 ≤ b.content.length + 512 * (n + 1) :=
            Nat.add_le_add hlen (Nat.le_mul_of_pos_right _ (Nat.succ_pos n))
        _ ≤ b.capacity := hroom
    rw [b.available_eq hring]
    exact Nat.le_sub_of_add_le (Nat.add_comm _ _ ▸ hfit)

/-- A mark keeps the rule. -/
theorem flushRule_mark {t : ℕ} {ch : ChannelSlot} {m : SlotMark} {past : SlotLog} :
    FlushRule (.mark t ch m) past := by
  intro id t' ch' c r hx
  cases hx

/-- A call outside the flush keeps the rule. -/
theorem flushRule_over {x : SlotItem} {past : SlotLog} (h : inFlush past = false) :
    FlushRule x past := by
  intro id t ch c r _ hin
  rw [h] at hin
  cases hin

/-- The flush keeps the rule. -/
theorem Flush.rule {h : Handle} {n : ℕ} (hf : Flush h n v v') {b : DataRingBuffer}
    (hroom : RoomFor n v.ch b) (hv : History.Always FlushRule v.log) :
    History.Always FlushRule v'.log := by
  induction hf generalizing b with
  | done => exact hv
  | stop ht =>
    refine ⟨fun id t ch c r hx _ ↦ ?_, hv⟩
    cases hx
    exact ⟨_, b, rfl, hroom.toLocal, hroom.available_iff⟩
  | @more v v' n id t bs hpos hle b₀ b' ht hb hshape hb' hrest ih =>
    obtain rfl : b₀ = b := Option.some.inj (hb.symm.trans hroom.toLocal)
    refine ih ⟨rfl, fun hs ↦ ?_⟩ ⟨fun id t ch c r hx _ ↦ ?_, hv⟩
    · -- a read takes away the room of one read
      have hs₀ : b₀.handle.isSome = true := hshape.handle ▸ hs
      have hfit := hroom.room hs₀
      rw [Nat.mul_succ] at hfit
      rw [hb' hs₀, List.length_append, hshape.capacity]
      omega
    · cases hx
      exact ⟨_, b₀, rfl, hb, hroom.available_iff⟩

theorem PumpStep.flushed (h : PumpStep p ext v v') (hv : Flushed v) : Flushed v' := by
  have rest : ∀ {ch₁ ch₂ : ChannelSlot} {id t t' : ℕ} {c : IoCall} {r : c.Reply},
      History.Always FlushRule (.mark t' ch₂ .step :: .call id t ch₁ c r :: v.log) :=
    ⟨flushRule_mark, flushRule_over hv.finished, hv.rule⟩
  cases h with
  | wait ht => exact ⟨hv.finished, hv.rule⟩
  | checking hact hopen => exact ⟨rfl, flushRule_mark, hv.rule⟩
  | pause ssh loc hact => exact ⟨rfl, flushRule_mark, hv.rule⟩
  | rearmSend hset ht => exact ⟨rfl, flushRule_mark, hv.rule⟩
  | rearmWrite hset ht => exact ⟨rfl, flushRule_mark, hv.rule⟩
  | forwardEof hact hopen hlocal herr hfwd hlog ht =>
    exact ⟨rfl, flushRule_over hv.finished, hv.rule⟩
  | begin hact hopen hcause ht => exact ⟨rfl, flushRule_mark, flushRule_mark, hv.rule⟩
  | _ => exact ⟨rfl, rest⟩

theorem WorkStep.flushed (h : WorkStep p ext v v') (hs : Sound p v) (hv : Flushed v) :
    Flushed v' := by
  cases h with
  | pump h => exact h.flushed hv
  | sendEofAgain hact hst hh heof hl hr hagain ht =>
    exact ⟨rfl, flushRule_mark, flushRule_over hv.finished, hv.rule⟩
  | @sendEof u h id t t' rc hact hst hh heof hl hr hdone ht hflush ht' =>
    obtain ⟨b, hb⟩ := Option.isSome_iff_exists.1 (hs.alive hact).toLocal
    have hempty : b.content = [] := by rwa [hb] at hl
    have hroom : RoomFor 4 v.ch b := by
      refine ⟨hb, fun _ ↦ ?_⟩
      have hsize := p.ringBufferSize_ge
      rw [hempty, (hs.shapedLocal b hb).capacity, List.length_nil]
      omega
    exact ⟨rfl, flushRule_mark, flushRule_mark,
      hflush.rule hroom ⟨flushRule_over hv.finished, hv.rule⟩⟩
  | finalizing hact hst hτ hverdict => exact ⟨rfl, flushRule_mark, hv.rule⟩
  | closeChannel hact hh ht => exact ⟨rfl, flushRule_over hv.finished, hv.rule⟩
  | freeAgain hact hh hagain ht => exact ⟨rfl, flushRule_over hv.finished, hv.rule⟩

theorem SlotStep.flushed (h : SlotStep p ext v v') (hs : Sound p v) (hv : Flushed v) :
    Flushed v' := by
  cases h with
  | work h => exact h.flushed hs hv
  | bind hact hfd ht ht' => exact ⟨rfl, flushRule_over rfl, flushRule_mark, hv.rule⟩
  | @release h id id' t t' t'' rc progress hact hh hdone ht ht' ht'' =>
    rw [View.shut, View.discarded, View.socketClosed]
    split
    · exact ⟨rfl, flushRule_mark, flushRule_over rfl, flushRule_over hv.finished, hv.rule⟩
    · exact ⟨rfl, flushRule_mark, flushRule_over hv.finished, hv.rule⟩
  | abandon hact ht =>
    rw [View.dropped, View.socketClosed]
    split
    · exact ⟨rfl, flushRule_mark, flushRule_over hv.finished, hv.rule⟩
    · exact ⟨rfl, flushRule_mark, hv.rule⟩

/-- In every run, the EOF flush has kept its rule. -/
theorem TunnelRun.flushRule (hw : TunnelRun p w) (i : ℕ) :
    History.Always FlushRule (slotLog i w.trace) := by
  obtain ⟨_, ⟨g, hat, -⟩, -⟩ := hw.resting false
  have h := hat.followed.invariant (fun clock ↦ (⟨rfl, trivial⟩ : Flushed (.fresh clock)))
    (fun v v' hs hv hstep ↦ hstep.flushed hs hv) i
  exact h.rule

/-! ### The room for a request -/

/-- A read in the EOF flush. -/
theorem withinBounds_flush {id t : ℕ} {ch : ChannelSlot} {h : Handle} {r : ReadReply 512}
    {past : SlotLog} {b : DataRingBuffer} (hin : inFlush past = true) (hb : ch.toLocal = some b)
    (hiff : 512 ≤ b.available ↔ b.handle.isSome = true) :
    WithinBounds p (.call id t ch (.channelRead h 512) r) past ↔
      leavesRoom p (.call id t ch (.channelRead h 512) r) past = true := by
  have hroom : leavesRoom p (.call id t ch (.channelRead h 512) r) past = b.handle.isSome := by
    simp [leavesRoom, hin, hb]
  have hring : ringRequest (.call id t ch (.channelRead h 512) r) past = some (b, 512) := by
    simp [ringRequest, hin, hb]
  rw [hroom, ← hiff]
  constructor
  · intro hfits
    exact hfits.ring _ hring
  · intro havail
    refine ⟨fun n hn ↦ ?_, fun q hq ↦ ?_⟩
    · simp [workRequest, hin] at hn
    · rw [hring] at hq
      cases hq
      exact havail

/-- A read that is stored in `toLocal`. -/
theorem withinBounds_read {id t n : ℕ} {ch : ChannelSlot} {h : Handle} {r : ReadReply n}
    {past : SlotLog} {b : DataRingBuffer} (hin : inFlush past = false)
    (heof : ch.remoteEof = false) (hb : ch.toLocal = some b)
    (hn : n = min b.available (if ch.sshReadPaused then 64 else p.bufSize)) :
    WithinBounds p (.call id t ch (.channelRead h n) r) past ↔
      leavesRoom p (.call id t ch (.channelRead h n) r) past = true := by
  have hwork : workRequest (.call id t ch (.channelRead h n) r) past = some n := by
    simp [workRequest, hin, heof]
  have hring : ringRequest (.call id t ch (.channelRead h n) r) past = some (b, n) := by
    simp [ringRequest, heof, hb]
  have hroom : leavesRoom p (.call id t ch (.channelRead h n) r) past = true ↔
      n ≤ p.bufSize := by
    simp only [leavesRoom, hin, heof, hb, hn]
    cases ch.sshReadPaused with
    | false =>
      have hle : min b.available p.bufSize ≤ p.bufSize := Nat.min_le_right ..
      simp [hle]
    | true =>
      simp
      omega
  rw [hroom]
  constructor
  · intro hfits
    exact hfits.work n hwork
  · intro hle
    refine ⟨fun m hm ↦ ?_, fun q hq ↦ ?_⟩
    · rw [hwork] at hm
      cases hm
      exact hle
    · rw [hring] at hq
      cases hq
      show n ≤ b.available
      omega

/-- A request outside the EOF flush. -/
theorem withinBounds_site {id t : ℕ} {ch : ChannelSlot} {c : IoCall} {r : c.Reply} {past : SlotLog}
    (hin : inFlush past = false) (hsite : SiteOk p ch c) :
    WithinBounds p (.call id t ch c r) past ↔ leavesRoom p (.call id t ch c r) past = true := by
  cases c with
  | channelRead h n =>
    cases heof : ch.remoteEof with
    | true =>
      -- nothing is kept, and the buffer is not the work buffer
      have hroom : leavesRoom p (.call id t ch (.channelRead h n) r) past = true := by
        simp [leavesRoom, hin, heof]
      refine ⟨fun _ ↦ hroom, fun _ ↦ ⟨fun m hm ↦ ?_, fun q hq ↦ ?_⟩⟩
      · simp [workRequest, heof] at hm
      · simp [ringRequest, heof, hin] at hq
    | false =>
      rcases hsite with hyes | ⟨b, hb, hn⟩
      · rw [heof] at hyes
        cases hyes
      · exact withinBounds_read hin heof hb hn
  | recv fd n =>
    obtain ⟨b, hb, hn⟩ := hsite
    refine ⟨fun _ ↦ rfl, fun _ ↦ ⟨fun m hm ↦ ?_, fun q hq ↦ ?_⟩⟩
    · cases hm
      omega
    · obtain rfl : (b, n) = q := by simpa [ringRequest, hb] using hq
      show n ≤ b.available
      omega
  | send fd bs =>
    refine ⟨fun _ ↦ rfl, fun _ ↦ ⟨fun m hm ↦ ?_, fun q hq ↦ by cases hq⟩⟩
    cases hm
    exact hsite
  | channelWrite h bs =>
    refine ⟨fun _ ↦ rfl, fun _ ↦ ⟨fun m hm ↦ ?_, fun q hq ↦ by cases hq⟩⟩
    cases hm
    exact hsite
  | _ => exact ⟨fun _ ↦ rfl, fun _ ↦ ⟨fun m hm ↦ (by cases hm), fun q hq ↦ (by cases hq)⟩⟩

/-- Under both rules, there is room for a request exactly where the slot leaves it. -/
theorem withinBounds_iff {x : SlotItem} {past : SlotLog} (hsite : SiteRule p x past)
    (hflush : FlushRule x past) : WithinBounds p x past ↔ leavesRoom p x past = true := by
  cases x with
  | mark t ch m =>
    exact ⟨fun _ ↦ rfl, fun _ ↦ ⟨fun n hn ↦ (by cases hn), fun q hq ↦ (by cases hq)⟩⟩
  | call id t ch c r =>
    cases hin : inFlush past with
    | true =>
      obtain ⟨h, b, rfl, hb, hiff⟩ := hflush _ _ _ _ _ rfl hin
      exact withinBounds_flush hin hb hiff
    | false =>
      have hok : SiteOk p ch c := hsite.resolve_left (by simp [hin])
      exact withinBounds_site hin hok

/-- **Work-buffer bounds**: in every run, all requests made for a slot fit the work buffer and the ring
that stores their bytes if and only if the slot left room for each of its reads. -/
theorem requests_within_bounds_iff (hw : TunnelRun p w) (i : ℕ) :
    History.Always (WithinBounds p) (slotLog i w.trace) ↔
      History.Always (fun x past ↦ leavesRoom p x past = true) (slotLog i w.trace) :=
  ((hw.abides.siteRule i).and (hw.flushRule i)).congr fun _ _ h ↦ withinBounds_iff h.1 h.2

/-- A connection, a channel that is bound, and a round in which data arrives. -/
def readingRun : TunnelWorld := afterTunnelOps (smallTunnel 1)
  [(.connectSSH, acceptingWorld 40), (.loop, acceptingWorld 40),
    (.loop, worldWith 1 fun _ c ↦ match c with
      | .io _ (.channelRead _ n) =>
        if h : 3 ≤ n then some (threeBytes h) else none
      | _ => none)]

theorem run_readingRun : TunnelRun (smallTunnel 1) readingRun := tunnelRun_after _

theorem requests_within_bounds_readingRun :
    (slotLog 0 readingRun.trace).countP (fun x ↦ (workRequest x []).isSome) = 11 ∧
      History.Always (WithinBounds (smallTunnel 1)) (slotLog 0 readingRun.trace) :=
  ⟨by decide +kernel, (requests_within_bounds_iff run_readingRun 0).2 (by decide +kernel)⟩

/-- A tunnel with one slot and a work buffer of 63 bytes. -/
def narrowTunnel : Params :=
  { smallTunnel 1 with
    prependCap := 63
    bufSize := 63
    bufSize_pos := by decide
    bufSize_le := by decide }

/-- Channels come in while the first 40 calls are made, and there is no memory for their rings. -/
def exhaustedWorld : Env Call Call.Reply := worldWith 1 fun n c ↦
  match c with
  | .sys (.forwardAccept _) => some (decide (n < 40))
  | .sys (.allocRing _) => some false
  | _ => none

/-- The remote side has ended its stream, and half a second passes with every operation. -/
def endedWorld : Env Call Call.Reply := worldWith 500 fun _ c ↦
  match c with
  | .io _ (.channelEof _) => some true
  | _ => none

/-- A connection, a channel that is bound to rings without a handle, and the end of its stream. -/
def ringlessRun : TunnelWorld := afterTunnelOps narrowTunnel
  [(.connectSSH, acceptingWorld 40), (.loop, exhaustedWorld), (.loop, endedWorld)]

theorem run_ringlessRun : TunnelRun narrowTunnel ringlessRun := tunnelRun_after _

/-- The EOF flush asks for 512 bytes where there is no ring to store them in. -/
theorem requests_exceed_bounds :
    ¬∀ w, TunnelRun narrowTunnel w → ∀ i,
      History.Always (WithinBounds narrowTunnel) (slotLog i w.trace) := by
  intro hall
  obtain ⟨w, hw, i, hover⟩ : ∃ w, TunnelRun narrowTunnel w ∧ ∃ i,
      ¬History.Always (WithinBounds narrowTunnel) (slotLog i w.trace) :=
    ⟨ringlessRun, run_ringlessRun, 0, by decide +kernel⟩
  exact hover (hall w hw i)

end ReverseTunnel
