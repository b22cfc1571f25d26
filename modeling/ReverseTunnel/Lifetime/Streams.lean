import ReverseTunnel.Lib.History
import ReverseTunnel.Lifetime.Calls

/-!
# The two byte streams of a slot

What went in and out of a slot, read off its log, and how it relates to what the rings hold. A
`Flow` is what a piece of work does to both directions: what was held and what came in is what went
out and what is held now. Pieces compose, so the whole lifetime of a slot is one flow from two empty
rings.

Towards the local side a hard send error loses the bytes that were under way, and they are counted;
hence that direction comes twice, as an equation of byte sequences while there was no such error,
and as an equation of numbers.
-/

namespace ReverseTunnel

open Traced Clock32

/-! ### Bytes of a log -/

/-- The bytes that the entries of a log contribute, oldest first. -/
def bytesOf (f : SlotItem → List UInt8) : SlotLog → List UInt8
  | [] => []
  | x :: log => bytesOf f log ++ f x

@[simp] theorem bytesOf_nil (f : SlotItem → List UInt8) : bytesOf f [] = [] := rfl

@[simp] theorem bytesOf_cons (f : SlotItem → List UInt8) (x : SlotItem) (log : SlotLog) :
    bytesOf f (x :: log) = bytesOf f log ++ f x := rfl

@[simp] theorem bytesOf_append (f : SlotItem → List UInt8) (newer log : SlotLog) :
    bytesOf f (newer ++ log) = bytesOf f log ++ bytesOf f newer := by
  induction newer with
  | nil => simp
  | cons x newer ih => rw [List.cons_append, bytesOf_cons, ih, bytesOf_cons, List.append_assoc]

theorem bytesOf_eq_nil {f : SlotItem → List UInt8} {items : SlotLog} (h : ∀ x ∈ items, f x = []) :
    bytesOf f items = [] := by
  induction items with
  | nil => rfl
  | cons x items ih =>
    rw [bytesOf_cons, ih fun y hy ↦ h y (List.mem_cons_of_mem _ hy), h x (List.mem_cons_self ..)]
    rfl

/-- The bytes `libssh2_channel_read` has yielded. -/
def readOf : SlotItem → List UInt8
  | .call _ _ _ (.channelRead _ _) (.data bs _ _) => bs
  | _ => []

/-- The bytes `send` has accepted. -/
def sentOf : SlotItem → List UInt8
  | .call _ _ _ (.send _ bs) (.accepted k _ _) => bs.take k
  | _ => []

/-- The bytes `recv` has yielded. -/
def recvOf : SlotItem → List UInt8
  | .call _ _ _ (.recv _ _) (.data bs _ _) => bs
  | _ => []

/-- The bytes `libssh2_channel_write` has accepted. -/
def writtenOf : SlotItem → List UInt8
  | .call _ _ _ (.channelWrite _ bs) (.accepted k _ _) => bs.take k
  | _ => []

/-- A byte has gone in or out. -/
def movesBytes : SlotItem → Bool
  | .call _ _ _ (.channelRead _ _) (.data _ _ _) => true
  | .call _ _ _ (.send _ _) (.accepted _ _ _) => true
  | .call _ _ _ (.recv _ _) (.data _ _ _) => true
  | .call _ _ _ (.channelWrite _ _) (.accepted _ _ _) => true
  | _ => false

/-- `send` has failed, and not because the socket was busy. -/
def hardSendError : SlotItem → Bool
  | .call _ _ _ (.send _ _) (.fail errno) => errno != eagain && errno != ewouldblock
  | _ => false

/-- A lifetime begins. -/
def isBound : SlotItem → Bool
  | .mark _ _ .bound => true
  | _ => false

/-- A lifetime ends. -/
def isReleased : SlotItem → Bool
  | .mark _ _ .released => true
  | _ => false

theorem nothing_of_not_moves {x : SlotItem} (h : movesBytes x = false) :
    readOf x = [] ∧ sentOf x = [] ∧ recvOf x = [] ∧ writtenOf x = [] := by
  cases x with
  | mark t s m => exact ⟨rfl, rfl, rfl, rfl⟩
  | call id t s c r =>
    cases c with
    | channelRead | send | recv | channelWrite =>
      cases r <;> first | exact ⟨rfl, rfl, rfl, rfl⟩ | cases h
    | _ => exact ⟨rfl, rfl, rfl, rfl⟩

theorem bytesOf_of_not_moves {items : SlotLog} (h : ∀ x ∈ items, movesBytes x = false) :
    bytesOf readOf items = [] ∧ bytesOf sentOf items = [] ∧ bytesOf recvOf items = [] ∧
      bytesOf writtenOf items = [] :=
  ⟨bytesOf_eq_nil fun x hx ↦ (nothing_of_not_moves (h x hx)).1,
    bytesOf_eq_nil fun x hx ↦ (nothing_of_not_moves (h x hx)).2.1,
    bytesOf_eq_nil fun x hx ↦ (nothing_of_not_moves (h x hx)).2.2.1,
    bytesOf_eq_nil fun x hx ↦ (nothing_of_not_moves (h x hx)).2.2.2⟩

theorem life_append {items log : SlotLog} (h : ∀ x ∈ items, isBound x = false) :
    life (items ++ log) = items ++ life log := by
  induction items with
  | nil => rfl
  | cons x items ih =>
    have ih := ih fun y hy ↦ h y (List.mem_cons_of_mem _ hy)
    have hx := h x (List.mem_cons_self ..)
    cases x with
    | call id t s c r => exact congrArg _ ih
    | mark t s m =>
      cases m with
      | bound => cases hx
      | _ => exact congrArg _ ih

theorem life_subset (log : SlotLog) : life log ⊆ log := by
  intro x hx
  induction log with
  | nil => exact hx
  | cons y log ih =>
    cases y with
    | call id t s c r =>
      rcases List.mem_cons.1 hx with rfl | hx
      · exact List.mem_cons_self ..
      · exact List.mem_cons_of_mem _ (ih hx)
    | mark t s m =>
      cases m with
      | bound => cases hx
      | _ =>
        rcases List.mem_cons.1 hx with rfl | hx
        · exact List.mem_cons_self ..
        · exact List.mem_cons_of_mem _ (ih hx)

variable {p : Params} {ext : Bool} {v v' v'' : View} {items items' : SlotLog}

theorem isBound_of_ownItem {ch : ChannelSlot} {x : SlotItem} (h : OwnItem ch x) :
    isBound x = false := by
  cases x with
  | call id t s c r => rfl
  | mark t s m =>
    cases m with
    | bound => exact h.elim
    | _ => rfl

theorem isReleased_of_ownItem {ch : ChannelSlot} {x : SlotItem} (h : OwnItem ch x) :
    isReleased x = false := by
  cases x with
  | call id t s c r => rfl
  | mark t s m =>
    cases m with
    | released => exact h.elim
    | _ => rfl

/-! ### Flows -/

/-- What a piece of work that left `items` in the log did to the two directions. -/
structure Flow (v v' : View) (items : SlotLog) : Prop where
  /-- What it left. -/
  log : v'.log = items ++ v.log
  /-- Towards the remote side nothing is lost. -/
  remote : held v.ch.toRemote ++ bytesOf recvOf items = bytesOf writtenOf items ++ held v'.ch.toRemote
  /-- Towards the local side nothing is lost unless `send` fails. -/
  toLocal : (∀ x ∈ items, hardSendError x = false) →
    held v.ch.toLocal ++ bytesOf readOf items = bytesOf sentOf items ++ held v'.ch.toLocal
  /-- What is lost is counted. -/
  count : (held v.ch.toLocal).length + (bytesOf readOf items).length + v.ch.totalBytesDropped =
    (bytesOf sentOf items).length + (held v'.ch.toLocal).length + v'.ch.totalBytesDropped

/-- Nothing happened to the bytes. -/
theorem Flow.still (hlog : v'.log = items ++ v.log) (hr : v'.ch.toRemote = v.ch.toRemote)
    (hl : v'.ch.toLocal = v.ch.toLocal)
    (hd : v'.ch.totalBytesDropped = v.ch.totalBytesDropped)
    (hitems : ∀ x ∈ items, movesBytes x = false) : Flow v v' items := by
  obtain ⟨h1, h2, h3, h4⟩ := bytesOf_of_not_moves hitems
  refine ⟨hlog, ?_, fun _ ↦ ?_, ?_⟩
  · rw [hr, h3, h4, List.append_nil, List.nil_append]
  · rw [hl, h1, h2, List.append_nil, List.nil_append]
  · rw [hl, hd, h1, h2, List.length_nil]
    omega

theorem Flow.trans (h : Flow v v' items) (h' : Flow v' v'' items') :
    Flow v v'' (items' ++ items) := by
  refine ⟨by rw [h'.log, h.log, List.append_assoc], ?_, fun hno ↦ ?_, ?_⟩
  · calc held v.ch.toRemote ++ bytesOf recvOf (items' ++ items)
        = held v.ch.toRemote ++ bytesOf recvOf items ++ bytesOf recvOf items' := by simp
      _ = bytesOf writtenOf items ++ (held v'.ch.toRemote ++ bytesOf recvOf items') := by
        rw [h.remote, List.append_assoc]
      _ = bytesOf writtenOf (items' ++ items) ++ held v''.ch.toRemote := by
        rw [h'.remote, bytesOf_append, List.append_assoc]
  · have hl := h.toLocal fun x hx ↦ hno x (List.mem_append_right _ hx)
    have hl' := h'.toLocal fun x hx ↦ hno x (List.mem_append_left _ hx)
    calc held v.ch.toLocal ++ bytesOf readOf (items' ++ items)
        = held v.ch.toLocal ++ bytesOf readOf items ++ bytesOf readOf items' := by simp
      _ = bytesOf sentOf items ++ (held v'.ch.toLocal ++ bytesOf readOf items') := by
        rw [hl, List.append_assoc]
      _ = bytesOf sentOf (items' ++ items) ++ held v''.ch.toLocal := by
        rw [hl', bytesOf_append, List.append_assoc]
  · have hc := h.count
    have hc' := h'.count
    simp only [bytesOf_append, List.length_append]
    omega

theorem take_of_prefix {bs content : List UInt8} {k : ℕ} (hbs : bs <+: content)
    (hk : k ≤ bs.length) : bs.take k = content.take k := by
  obtain ⟨rest, rfl⟩ := hbs
  rw [List.take_append_of_le_length hk]

/-- The bytes of reads made after the remote end was done are none. -/
def QuietReads (log : SlotLog) : Prop := ∀ x ∈ log, readOf x ≠ [] → x.pre.remoteEof = false

theorem PumpStep.flow (h : PumpStep p ext v v') (hquiet : QuietReads v'.log) :
    ∃ items, Flow v v' items := by
  cases h with
  | wait ht => exact ⟨[], Flow.still rfl rfl rfl rfl (by simp)⟩
  | checking hact hopen => exact ⟨[_], Flow.still rfl rfl rfl rfl (by simp [movesBytes])⟩
  | pause ssh loc hact => exact ⟨[_], Flow.still rfl rfl rfl rfl (by simp [movesBytes])⟩
  | rearmSend hset ht => exact ⟨[_], Flow.still rfl rfl rfl rfl (by simp [movesBytes])⟩
  | rearmWrite hset ht => exact ⟨[_], Flow.still rfl rfl rfl rfl (by simp [movesBytes])⟩
  | forwardEof hact hopen hlocal herr hfwd hlog ht =>
    exact ⟨[_], Flow.still rfl rfl rfl rfl (by simp [movesBytes])⟩
  | begin hact hopen hcause ht =>
    exact ⟨[_, _], Flow.still rfl rfl rfl rfl (by simp [movesBytes])⟩
  | @pumpRead h n id t r hact hh heof ht =>
    -- the bytes of such a read are thrown away, so there must be none
    have hnone : movesBytes (.call id t v.ch (.channelRead h n) r) = false := by
      cases r with
      | code rc hrc => rfl
      | data bs hpos hle =>
        have := hquiet _ (List.mem_cons_of_mem _ (List.mem_cons_self ..)) (List.ne_nil_of_length_pos hpos)
        rw [Item.pre_call, heof] at this
        cases this
    exact ⟨[_, _], Flow.still rfl rfl rfl rfl (by simpa [movesBytes] using hnone)⟩
  | readAgain hact hh hagain ht =>
    exact ⟨[_, _], Flow.still rfl rfl rfl rfl (by simp [movesBytes])⟩
  | readEof hact hh hzero ht =>
    exact ⟨[_, _], Flow.still rfl rfl rfl rfl (by simp [movesBytes])⟩
  | readError hact hh hzero hagain ht =>
    exact ⟨[_, _], Flow.still rfl rfl rfl rfl (by simp [movesBytes])⟩
  | eofFlag hact hh heof ht =>
    exact ⟨[_, _], Flow.still rfl rfl rfl rfl (by simp [movesBytes])⟩
  | readData hact hh heof hb hb' ht ht' =>
    refine ⟨[_, _], rfl, ?_, fun _ ↦ ?_, ?_⟩
    · simp [recvOf, writtenOf]
    · simp [readOf, sentOf, hb, hb'.content]
    · simp [readOf, sentOf, hb, hb'.content]
  | @sendData b b' b'' bs k id t t' hpos hle hact hfd hb hbs hb' hshape ht ht' =>
    refine ⟨[_, _], rfl, ?_, fun _ ↦ ?_, ?_⟩
    · simp [recvOf, writtenOf]
    · simp [readOf, sentOf, hb, hb', take_of_prefix hbs hle]
    · have := hbs.length_le
      simp [readOf, sentOf, hb, hb']
      omega
  | @sendFail b b' bs errno id t hact hfd hb hbs hb' hhard ht =>
    refine ⟨[_, _], rfl, ?_, fun hno ↦ ?_, ?_⟩
    · simp [recvOf, writtenOf]
    -- the bytes are lost, which the side condition excludes
    · refine absurd ?_ hhard
      have := hno _ (List.mem_cons_of_mem _ (List.mem_cons_self ..))
      simpa [hardSendError, isBusy, imp_iff_not_or, or_comm] using this
    · have := hbs.length_le
      simp [readOf, sentOf, hb, hb'.content]
      omega
  | @sendBusy b b' b'' bs id t t' r first hact hfd hb hb'' hr ht ht' hfirst =>
    have hnone : sentOf (.call id t { v.ch with toLocal := some b' } (.send v.ch.localSocket bs) r)
        = [] := by
      rcases hr with rfl | ⟨errno, -, rfl⟩ <;> rfl
    refine ⟨[_, _], rfl, ?_, fun _ ↦ ?_, ?_⟩
    · simp [recvOf, writtenOf]
    · simp [hnone, readOf, hb, hb''.content]
      simp [sentOf]
    · simp [hnone, readOf, hb, hb''.content]
      simp [sentOf]
  | @writeData h b b' b'' bs k id t t' hpos hle hact hh heof hb hbs hb' hshape ht ht' =>
    refine ⟨[_, _], rfl, ?_, fun _ ↦ ?_, ?_⟩
    · simp [recvOf, writtenOf, hb, hb', take_of_prefix hbs hle]
    · simp [readOf, sentOf]
    · simp [readOf, sentOf]
  | writeBusy hact hh heof hb hb'' hagain ht ht' hfirst =>
    refine ⟨[_, _], rfl, ?_, fun _ ↦ ?_, ?_⟩
    · simp [recvOf, writtenOf, hb, hb''.content]
    · simp [readOf, sentOf]
    · simp [readOf, sentOf]
  | writeError hact hh heof hb hb'' hagain ht =>
    refine ⟨[_, _], rfl, ?_, fun _ ↦ ?_, ?_⟩
    · simp [recvOf, writtenOf, hb, hb''.content]
    · simp [readOf, sentOf]
    · simp [readOf, sentOf]
  | recvData hact hfd heof hb hb' ht ht' =>
    refine ⟨[_, _], rfl, ?_, fun _ ↦ ?_, ?_⟩
    · simp [recvOf, writtenOf, hb, hb'.content]
    · simp [readOf, sentOf]
    · simp [readOf, sentOf]
  | @recvEnd n id t r hact hfd heof hr ht =>
    have hnone : movesBytes (.call id t v.ch (.recv v.ch.localSocket n) r) = false := by
      rcases hr with rfl | ⟨errno, -, rfl⟩ <;> rfl
    exact ⟨[_, _], Flow.still rfl rfl rfl rfl (by simpa [movesBytes] using hnone)⟩
  | recvBusy hact hfd heof hbusy ht =>
    exact ⟨[_, _], Flow.still rfl rfl rfl rfl (by simp [movesBytes])⟩

/-- The ring towards the local side could be allocated. -/
def Allocated (ch : ChannelSlot) : Prop := ∀ b, ch.toLocal = some b → b.handle.isSome = true

theorem Allocated.of_sameShape {b b' : DataRingBuffer} {ch ch' : ChannelSlot} (h : Allocated ch)
    (hb : ch.toLocal = some b) (hb' : ch'.toLocal = some b') (hs : DataRingBuffer.SameShape b b') :
    Allocated ch' := by
  intro b₁ hb₁
  obtain rfl : b' = b₁ := Option.some.inj (hb'.symm.trans hb₁)
  rw [hs.handle]
  exact h b hb

/-- What the flush reads is kept. -/
theorem Flush.flow {h : Handle} {n : ℕ} (hf : Flush h n v v') (ha : Allocated v.ch) :
    ∃ items, Flow v v' items := by
  induction hf with
  | done => exact ⟨[], Flow.still rfl rfl rfl rfl (by simp)⟩
  | stop ht => exact ⟨[_], Flow.still rfl rfl rfl rfl (by simp [movesBytes])⟩
  | @more v v' n id t bs hpos hle b b' ht hb hshape hb' hrest ih =>
    have hcontent := hb' (ha b hb)
    have hfirst : Flow v ((v.call id t (.channelRead h 512) (.data bs hpos hle)).set
        { v.ch with toLocal := some b' }) [.call id t v.ch (.channelRead h 512) (.data bs hpos hle)] := by
      refine ⟨rfl, ?_, fun _ ↦ ?_, ?_⟩
      · simp [recvOf, writtenOf]
      · simp [readOf, sentOf, hb, hcontent]
      · simp [readOf, sentOf, hb, hcontent]
    obtain ⟨items, hflow⟩ := ih (ha.of_sameShape hb rfl hshape)
    exact ⟨_, hfirst.trans hflow⟩

theorem WorkStep.flow (h : WorkStep p ext v v') (ha : Allocated v.ch) (hquiet : QuietReads v'.log) :
    ∃ items, Flow v v' items := by
  cases h with
  | pump h => exact h.flow hquiet
  | sendEofAgain hact hst hh heof hl hr hagain ht =>
    exact ⟨[_, _], Flow.still rfl rfl rfl rfl (by simp [movesBytes])⟩
  | @sendEof u h id t t' rc hact hst hh heof hl hr hdone ht hflush ht' =>
    have hsent : Flow v (v.call id t (.channelSendEof h) rc) [_] :=
      Flow.still rfl rfl rfl rfl (by simp [movesBytes])
    obtain ⟨items, hflow⟩ := hflush.flow (v := v.call id t (.channelSendEof h) rc) ha
    have hstamp : Flow u ((((u.wait t').set { u.ch with eofSentMs := stamp t' }).mark
        .eofStamped).mark .step) [_, _] := Flow.still rfl rfl rfl rfl (by simp [movesBytes])
    exact ⟨_, (hsent.trans hflow).trans hstamp⟩
  | finalizing hact hst hτ hverdict =>
    exact ⟨[_], Flow.still rfl rfl rfl rfl (by simp [movesBytes])⟩
  | closeChannel hact hh ht => exact ⟨[_], Flow.still rfl rfl rfl rfl (by simp [movesBytes])⟩
  | freeAgain hact hh hagain ht => exact ⟨[_], Flow.still rfl rfl rfl rfl (by simp [movesBytes])⟩

theorem WorkStep.allocated (h : WorkStep p ext v v') (ha : Allocated v.ch) : Allocated v'.ch := by
  cases h with
  | pump h =>
    rcases h.sameShape_toLocal with heq | ⟨b, b', hb, hb', hs⟩
    · intro b hb
      exact ha b (heq ▸ hb)
    · exact ha.of_sameShape hb hb' hs
  | @sendEof u h id t t' rc hact hst hh heof hl hr hdone ht hflush ht' =>
    obtain ⟨r, hch, hr'⟩ := hflush.frame
    rw [View.call_ch] at hch hr'
    have hu : u.ch.toLocal = r := by rw [hch]
    rcases hr' with heq | ⟨b, b', hb, hb', hs⟩
    · intro b hb
      exact ha b (heq ▸ hu ▸ hb)
    · exact ha.of_sameShape hb (hu.trans hb') hs
  | _ => exact ha

/-! ### The streams of a lifetime -/

/-- What has gone through a slot in use, and what it has counted. -/
structure Balanced (ch : ChannelSlot) (log : SlotLog) : Prop where
  /-- What was received is what was written and what waits to be written. -/
  remote : bytesOf recvOf log = bytesOf writtenOf log ++ held ch.toRemote
  /-- What was read is what was sent and what waits to be sent, unless `send` has failed. -/
  toLocal : (∀ x ∈ log, hardSendError x = false) →
    bytesOf readOf log = bytesOf sentOf log ++ held ch.toLocal
  /-- What is missing is counted. -/
  count : (bytesOf readOf log).length =
    (bytesOf sentOf log).length + ch.totalBytesDropped + (held ch.toLocal).length

theorem Balanced.flow (h : Balanced v.ch items) (hf : Flow v v' items') :
    Balanced v'.ch (items' ++ items) := by
  refine ⟨?_, fun hno ↦ ?_, ?_⟩
  · rw [bytesOf_append, bytesOf_append, h.remote, List.append_assoc, hf.remote, List.append_assoc]
  · have hl := h.toLocal fun x hx ↦ hno x (List.mem_append_right _ hx)
    have hl' := hf.toLocal fun x hx ↦ hno x (List.mem_append_left _ hx)
    rw [bytesOf_append, bytesOf_append, hl, List.append_assoc, hl', List.append_assoc]
  · have hc := h.count
    have hc' := hf.count
    simp only [bytesOf_append, List.length_append]
    omega

variable (items') in
/-- Entries that move nothing. -/
theorem Balanced.still {ch : ChannelSlot} (h : Balanced ch items)
    (hm : ∀ x ∈ items', movesBytes x = false) : Balanced ch (items' ++ items) := by
  obtain ⟨h1, h2, h3, h4⟩ := bytesOf_of_not_moves hm
  refine ⟨?_, fun hno ↦ ?_, ?_⟩
  · rw [bytesOf_append, bytesOf_append, h3, h4, List.append_nil, List.append_nil]
    exact h.remote
  · rw [bytesOf_append, bytesOf_append, h1, h2, List.append_nil, List.append_nil]
    exact h.toLocal fun x hx ↦ hno x (List.mem_append_right _ hx)
  · rw [bytesOf_append, bytesOf_append, h1, h2, List.append_nil, List.append_nil]
    exact h.count

/-- The account of a lifetime is settled when it ends: everything that is not sent or written is
counted as dropped. -/
def Settles (x : SlotItem) (past : SlotLog) : Prop :=
  isReleased x = true →
    (bytesOf readOf (life past)).length + (bytesOf recvOf (life past)).length =
      (bytesOf sentOf (life past)).length + (bytesOf writtenOf (life past)).length +
        x.pre.totalBytesDropped

/-- The bytes of a slot, under the assumptions made of libssh2 and of the heap. -/
structure Streams (v : View) : Prop where
  /-- There is a ring. -/
  allocated : Allocated v.ch
  /-- The current lifetime. -/
  balanced : v.ch.active = true → Balanced v.ch (life v.log)
  /-- The lifetimes that have ended. -/
  settled : History.Always Settles v.log

/-- The rings of the lifetimes in a log could be allocated. -/
def BoundAllocated (log : SlotLog) : Prop := ∀ x ∈ log, isBound x = true → Allocated x.pre

theorem WorkStep.unbound (h : WorkStep p ext v v') :
    ∃ items, v'.log = items ++ v.log ∧ (∀ x ∈ items, isBound x = false) ∧
      ∀ x ∈ items, isReleased x = false := by
  obtain ⟨items, hlog, hown⟩ := h.ownLog
  exact ⟨items, hlog, fun x hx ↦ isBound_of_ownItem (hown x hx),
    fun x hx ↦ isReleased_of_ownItem (hown x hx)⟩

theorem Streams.work (hs : Streams v) (h : WorkStep p ext v v') (hquiet : QuietReads v'.log) :
    Streams v' := by
  obtain ⟨items, hlog, hbound, hrel⟩ := h.unbound
  obtain ⟨items', hflow⟩ := h.flow hs.allocated hquiet
  obtain rfl : items' = items := List.append_cancel_right (hflow.log.symm.trans hlog)
  refine ⟨h.allocated hs.allocated, fun hact ↦ ?_, ?_⟩
  · rw [hlog, life_append hbound]
    exact (hs.balanced (h.retains.active ▸ hact)).flow hflow
  · rw [hlog]
    refine hs.settled.append fun x hx rest hno ↦ ?_
    rw [hrel x hx] at hno
    cases hno

/-- At the end of a lifetime the residue is counted. -/
theorem Balanced.settles {ch : ChannelSlot} (h : Balanced ch items) :
    (bytesOf readOf items).length + (bytesOf recvOf items).length =
      (bytesOf sentOf items).length + (bytesOf writtenOf items).length +
        ch.emptied.totalBytesDropped := by
  have hr := congrArg List.length h.remote
  have hc := h.count
  rw [List.length_append] at hr
  simp only [ChannelSlot.emptied, ChannelSlot.accountResidual, ringSize_eq]
  omega

theorem Streams.step (hv : Sound p v) (hs : Streams v) (h : SlotStep p ext v v')
    (hquiet : QuietReads v'.log) (hbound : BoundAllocated v'.log) : Streams v' := by
  cases h with
  | work h => exact hs.work h hquiet
  | @bind h fd okLocal okRemote id t t' hact hfd ht ht' =>
    refine ⟨?_, fun _ ↦ ?_, ?_⟩
    · exact hbound _ (List.mem_cons_of_mem _ (List.mem_cons_self ..)) rfl
    · refine ⟨?_, fun _ ↦ ?_, ?_⟩ <;>
        simp [View.bound, life, recvOf, writtenOf, readOf, sentOf, ChannelSlot.initialised,
          ChannelSlot.reset]
    · exact ⟨fun hno ↦ (by cases hno), fun hno ↦ (by cases hno), hs.settled⟩
  | @release h id id' t t' t'' rc progress hact hh hdone ht ht' ht'' =>
    have hpos : 0 ≤ (v.freed h rc progress id t).ch.localSocket := (hv.alive hact).localSocket
    have hbal : Balanced v.ch (life v.log) := hs.balanced hact
    rw [View.shut, View.discarded, View.socketClosed_of_le hpos]
    refine ⟨fun _ hno ↦ (by cases hno), fun hno ↦ (by cases hno), fun _ ↦ ?_,
      fun hno ↦ (by cases hno), fun hno ↦ (by cases hno), hs.settled⟩
    refine (hbal.still [_, _] ?_).settles
    simp [movesBytes]
  | @abandon id t hact ht =>
    have hpos : 0 ≤ (v.set v.ch.accountResidual).ch.localSocket := (hv.alive hact).localSocket
    have hbal : Balanced v.ch (life v.log) := hs.balanced hact
    rw [View.dropped, View.socketClosed_of_le hpos]
    refine ⟨fun _ hno ↦ (by cases hno), fun hno ↦ (by cases hno), fun _ ↦ ?_,
      fun hno ↦ (by cases hno), hs.settled⟩
    refine (hbal.still [_] ?_).settles
    simp [movesBytes]

theorem streams_fresh (clock : ℕ) : Streams (.fresh clock) :=
  ⟨nofun, nofun, trivial⟩

/-- Binding and releasing a slot moves no bytes. -/
theorem SlotStep.work_or_still (h : SlotStep p ext v v') :
    WorkStep p ext v v' ∨ ∃ items, v'.log = items ++ v.log ∧ ∀ x ∈ items, movesBytes x = false := by
  cases h with
  | work h => exact .inl h
  | bind hact hfd ht ht' => exact .inr ⟨[_, _], rfl, by simp [movesBytes]⟩
  | @release h id id' t t' t'' rc progress hact hh hdone ht ht' ht'' =>
    rw [View.shut, View.discarded, View.socketClosed]
    split
    · exact .inr ⟨[_, _, _], rfl, by simp [movesBytes]⟩
    · exact .inr ⟨[_, _], rfl, by simp [movesBytes]⟩
  | abandon hact ht =>
    rw [View.dropped, View.socketClosed]
    split
    · exact .inr ⟨[_, _], rfl, by simp [movesBytes]⟩
    · exact .inr ⟨[_], rfl, by simp [movesBytes]⟩

/-- A log grows. -/
theorem SlotStep.log_append (h : SlotStep p ext v v') : ∃ items, v'.log = items ++ v.log := by
  rcases h.work_or_still with h | ⟨items, hlog, -⟩
  · obtain ⟨items, hlog, -⟩ := h.ownLog
    exact ⟨items, hlog⟩
  · exact ⟨items, hlog⟩

/-- The streams of every reachable slot. -/
theorem streams_of_reach {clock : ℕ} (h : Reach p ext (.fresh clock) v) (hquiet : QuietReads v.log)
    (hbound : BoundAllocated v.log) : Streams v := by
  induction h with
  | refl => exact streams_fresh clock
  | tail hr hs ih =>
    obtain ⟨items, hlog⟩ := hs.log_append
    have hpast := ih (fun x hx ↦ hquiet x (hlog ▸ List.mem_append_right _ hx))
      fun x hx ↦ hbound x (hlog ▸ List.mem_append_right _ hx)
    exact hpast.step ((sound_fresh clock).reach hr) hs hquiet hbound

end ReverseTunnel
