import ReverseTunnel.System.Trace

/-!
# Byte conservation

Every byte that went into a slot has gone out of it, waits in one of its rings, or is counted in
`totalBytesDropped`. When the slot is released, whichever of the two ways it goes, what its rings
still hold is added to that counter, once: afterwards the counter alone accounts for everything that
did not go out.

Assumed is that reads made after the remote end was seen to be done yield nothing. The law is **not
kept** when a ring could not be allocated: `bindChannel` binds the slot all the same, the EOF flush
does not look at how much of a read the ring has taken, and what it has not taken is not counted. So
the law is proved for the runs in which every ring could be allocated. The counter is a `size_t` of
32 bits, hence the balance modulo `2 ^ 32`, and as numbers as long as fewer than `2 ^ 32` bytes came
in.
-/

namespace ReverseTunnel

open Traced TunnelM

variable {p : Params} {ext : Bool} {v : View} {w : TunnelWorld}

/-- Data was read for a slot that had seen the end of its stream. -/
def lateRead : Item SSHTunnel Call Call.Reply Mark → Bool
  | .call _ _ s (.io i (.channelRead _ _)) (.data _ _ _) => (s.channels.slots i).remoteEof
  | _ => false

/-- Reads made while `remoteEof` is set yield no data. -/
def NoLateReads (tr : Trace SSHTunnel Call Call.Reply Mark) : Prop := ∀ x ∈ tr, lateRead x = false

instance (tr : Trace SSHTunnel Call Call.Reply Mark) : Decidable (NoLateReads tr) :=
  inferInstanceAs (Decidable (∀ x ∈ tr, lateRead x = false))

theorem NoLateReads.slotLog {tr : Trace SSHTunnel Call Call.Reply Mark} (h : NoLateReads tr)
    (i : ℕ) : QuietReads (slotLog i tr) := by
  intro y hy hne
  obtain ⟨x, hx, hxy⟩ := List.mem_filterMap.1 hy
  have hlate := h x hx
  rcases slotItem?_eq_some.1 hxy with ⟨id, t, s, c, r, rfl, rfl⟩ | ⟨t, s, m, rfl, rfl⟩
  · cases c with
    | channelRead h n =>
      cases r with
      | code rc hrc => exact absurd rfl hne
      | data bs hpos hle => exact hlate
    | _ => exact absurd rfl hne
  · exact absurd rfl hne

/-! ### Released once -/

/-- A lifetime is released at most once. -/
structure ReleasedOnce (v : View) : Prop where
  /-- A slot in use has not been released. -/
  alive : v.ch.active = true → ∀ x ∈ life v.log, isReleased x = false
  /-- A slot that is released had not been released before. -/
  ended : History.Always (fun x past ↦ isReleased x = true → ∀ y ∈ life past, isReleased y = false)
    v.log

theorem releasedOnce_of_reach {clock : ℕ} (h : Reach p ext (.fresh clock) v) : ReleasedOnce v := by
  induction h with
  | refl => exact ⟨fun hno ↦ (by cases hno), trivial⟩
  | @tail v v' hr hs ih =>
    cases hs with
    | work hw =>
      obtain ⟨items, hlog, hbound, hrel⟩ := hw.unbound
      refine ⟨fun hact ↦ ?_, ?_⟩
      · rw [hlog, life_append hbound]
        intro x hx
        rcases List.mem_append.1 hx with hx | hx
        · exact hrel x hx
        · exact ih.alive (hw.retains.active ▸ hact) x hx
      · rw [hlog]
        refine ih.ended.append fun x hx rest hno ↦ ?_
        rw [hrel x hx] at hno
        cases hno
    | bind hact hfd ht ht' =>
      refine ⟨fun _ x hx ↦ ?_, fun hno ↦ (by cases hno), fun hno ↦ (by cases hno), ih.ended⟩
      rcases List.mem_cons.1 hx with rfl | hx
      · rfl
      · cases hx
    | @release h id id' t t' t'' rc progress hact hh hdone ht ht' ht'' =>
      have halive := ih.alive hact
      rw [View.shut, View.discarded, View.socketClosed]
      split
      · refine ⟨fun hno ↦ (by cases hno), fun _ ↦ ?_, fun hno ↦ (by cases hno), fun hno ↦ (by cases hno),
          ih.ended⟩
        exact List.forall_mem_cons.2 ⟨rfl, List.forall_mem_cons.2 ⟨rfl, halive⟩⟩
      · exact ⟨fun hno ↦ (by cases hno), fun _ ↦ List.forall_mem_cons.2 ⟨rfl, halive⟩,
          fun hno ↦ (by cases hno), ih.ended⟩
    | @abandon id t hact ht =>
      have halive := ih.alive hact
      rw [View.dropped, View.socketClosed]
      split
      · exact ⟨fun hno ↦ (by cases hno), fun _ ↦ List.forall_mem_cons.2 ⟨rfl, halive⟩,
          fun hno ↦ (by cases hno), ih.ended⟩
      · exact ⟨fun hno ↦ (by cases hno), fun _ ↦ halive, ih.ended⟩

/-! ### The balance of a slot -/

/-- The number of bytes that came in, from the channel and from the local socket. -/
def bytesIn (log : SlotLog) : ℕ := (bytesOf readOf log).length + (bytesOf recvOf log).length

/-- The number of bytes that went out, to the local socket and to the channel. -/
def bytesOut (log : SlotLog) : ℕ := (bytesOf sentOf log).length + (bytesOf writtenOf log).length

/-- What went in has gone out, is counted as dropped, or is one of the `waiting` bytes that are still
there. -/
def Conserved (ch : ChannelSlot) (waiting : ℕ) (log : SlotLog) : Prop :=
  bytesIn log = bytesOut log + (sizeCounter ch.totalBytesDropped).toNat + waiting

/-- The same of the counter as it is, which may have run over. -/
structure Balances (ch : ChannelSlot) (waiting : ℕ) (log : SlotLog) : Prop where
  /-- The counter is right modulo its range. -/
  modulo : bytesIn log % 2 ^ 32 =
    (bytesOut log + (sizeCounter ch.totalBytesDropped).toNat + waiting) % 2 ^ 32
  /-- And it is right if it cannot have run over. -/
  exact : bytesIn log < 2 ^ 32 → Conserved ch waiting log

/-- The bytes waiting in the rings of a slot. -/
def ChannelSlot.waiting (ch : ChannelSlot) : ℕ := ringSize ch.toLocal + ringSize ch.toRemote

theorem balances_of_count {ch : ChannelSlot} {waiting : ℕ} {log : SlotLog}
    (h : bytesIn log = bytesOut log + ch.totalBytesDropped + waiting) : Balances ch waiting log := by
  constructor
  · rw [h, toNat_sizeCounter]
    omega
  · intro hlt
    rw [Conserved, toNat_sizeCounter_eq_iff.2 (by omega)]
    exact h

theorem Balanced.balances {ch : ChannelSlot} {log : SlotLog} (h : Balanced ch log) :
    Balances ch ch.waiting log := by
  have hr := congrArg List.length h.remote
  have hc := h.count
  rw [List.length_append] at hr
  refine balances_of_count ?_
  rw [bytesIn, bytesOut, ChannelSlot.waiting, ringSize_eq, ringSize_eq]
  omega

/-- The mark of a boundary moves no bytes. -/
theorem Balances.of_boundary {ch s : ChannelSlot} {waiting t : ℕ} {log : SlotLog}
    (h : Balances ch waiting (.mark t s .step :: log)) : Balances ch waiting log := by
  have hin : bytesIn (.mark t s .step :: log) = bytesIn log := by
    simp [bytesIn, readOf, recvOf]
  have hout : bytesOut (.mark t s .step :: log) = bytesOut log := by
    simp [bytesOut, sentOf, writtenOf]
  obtain ⟨hmodulo, hexact⟩ := h
  rw [hin, hout] at hmodulo
  rw [hin, Conserved, hin, hout] at hexact
  exact ⟨hmodulo, hexact⟩

/-- The account of a released slot: nothing is left in it, it was not released before, and its
counter of dropped bytes makes up the whole difference. -/
structure Accounted (ch : ChannelSlot) (log : SlotLog) : Prop where
  /-- The rings are gone, and what they held is counted. -/
  balances : Balances ch 0 log
  /-- It happens once. -/
  once : ∀ x ∈ log, isReleased x = false

/-- **Byte conservation**, between operations and at every step boundary, and the final account of
every lifetime, in every run in which every ring could be allocated. -/
theorem byte_conservation (hw : Run p w) (hreads : NoLateReads w.trace)
    (hrings : RingsAllocated w.trace) (i : ℕ) :
    ((w.st.channels.slots i).active = true →
      Balances (w.st.channels.slots i) (w.st.channels.slots i).waiting
        (life (slotLog i w.trace))) ∧
    (∀ newer t s past, w.trace = newer ++ .mark t s (.slot i .step) :: past →
      (s.channels.slots i).active = true →
        Balances (s.channels.slots i) (s.channels.slots i).waiting (life (slotLog i past))) ∧
    ∀ newer t s past, w.trace = newer ++ .mark t s (.slot i .released) :: past →
      Accounted (s.channels.slots i) (life (slotLog i past)) := by
  obtain ⟨_, ⟨g, hat, -⟩, -⟩ := hw.resting
  have hquiet := hreads.slotLog i
  have hbound := hat.boundAllocated hrings i
  have hboth := hat.followed.everywhere
    (P := fun ch log ↦ ch.active = true → Balances ch ch.waiting (life log)) i
    (fun clock v hv hsuf hact ↦ ?_) fun t ch log h hact ↦ ?_
  · refine ⟨hboth.1, hboth.2, fun newer t s past htr ↦ ?_⟩
    obtain ⟨clock, hr⟩ := hat.followed
    have hsettled := (streams_of_reach (hr i) hquiet hbound).settled
    have honce := (releasedOnce_of_reach (hr i)).ended
    rw [History.always_iff] at hsettled honce
    have hsplit := slotLog_split htr
    exact ⟨balances_of_count (hsettled _ _ _ hsplit rfl), honce _ _ _ hsplit rfl⟩
  · have hq : QuietReads v.log := fun x hx ↦ hquiet x (hsuf.subset hx)
    have hb : BoundAllocated v.log := fun x hx ↦ hbound x (hsuf.subset hx)
    exact ((streams_of_reach hv hq hb).balanced hact).balances
  · exact (h hact).of_boundary

/-! ### A slot that loses bytes -/

/-- The channel yields three bytes at a time; the socket takes what it is offered and then fails. -/
def failingWorld : Env Call Call.Reply := worldWith 1 fun n c ↦
  match c with
  | .io _ (.channelRead _ k) =>
    if h : 3 ≤ k ∧ n < 20 then some (threeBytes h.1) else none
  | .io _ (.send _ _) => if n < 25 then none else some (.fail 104)
  | _ => none

/-- A channel is bound and pumped twice. -/
def failingRun : TunnelWorld := afterManagerOps (smallTunnel 1)
  [(.bindChannel 0 77 {}, failingWorld), (.pumpAll, failingWorld), (.pumpAll, failingWorld)]

theorem run_failingRun : Run (smallTunnel 1) failingRun := run_after _

theorem byte_conservation_failingRun :
    Conserved (failingRun.st.channels.slots 0) (failingRun.st.channels.slots 0).waiting
        (life (slotLog 0 failingRun.trace)) ∧
      (failingRun.st.channels.slots 0).totalBytesDropped = 2 :=
  ⟨((byte_conservation run_failingRun (by decide +kernel) (by decide +kernel) 0).1
    (by decide +kernel)).exact (by decide +kernel), by decide +kernel⟩

/-! ### A slot without storage -/

/-- The rings cannot be allocated, and the channel yields three bytes once its end has been
announced. -/
def storelessWorld : Env Call Call.Reply := worldWith 1 fun _ c ↦
  match c with
  | .sys (.allocRing _) => some false
  | .io _ (.channelRead _ n) =>
    if h : 3 ≤ n ∧ n = 512 then some (threeBytes h.1) else none
  | _ => none

/-- A channel is bound, and closed before it has moved anything. -/
def storelessRun : TunnelWorld := afterManagerOps (smallTunnel 1)
  [(.bindChannel 0 77 {}, storelessWorld), (.beginClose 0 .manual, storelessWorld),
    (.pumpAll, storelessWorld)]

/-- Twelve bytes have come in; they are nowhere, and not counted either. -/
theorem not_conserved_storelessRun :
    ¬∀ (p : Params) (w : TunnelWorld), Run p w → NoLateReads w.trace → ∀ i,
      (w.st.channels.slots i).active = true →
        Conserved (w.st.channels.slots i) (w.st.channels.slots i).waiting
          (life (slotLog i w.trace)) := by
  intro h
  have hlost := h (smallTunnel 1) storelessRun (run_after _) (by decide +kernel) 0
    (by decide +kernel)
  have hnot : ¬Conserved (storelessRun.st.channels.slots 0)
      (storelessRun.st.channels.slots 0).waiting (life (slotLog 0 storelessRun.trace)) := by
    rw [Conserved]
    decide +kernel
  exact hnot hlost

end ReverseTunnel
