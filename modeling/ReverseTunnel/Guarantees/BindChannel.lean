import Mathlib.Data.List.Nodup
import ReverseTunnel.System.Trace

/-!
# Binding is all or nothing

`bindChannel` may fail in a dozen places, some of them after a socket has been opened. Whatever the
state of the channel manager and however every call turns out, a failed `bindChannel` has left slots
and counters alone and has closed what it opened; a successful one leaves exactly one socket open,
and the slot it has filled owns it.

The rings are allocated last, and there the function **misses a failure**: it asks for
`capacityBytes()`, which is the requested capacity whether or not the ring has any storage, so the
check after the two allocations always passes. A slot is then bound to rings that can hold nothing.
This is the one way to go wrong: a call is all or nothing if and only if both allocations succeed,
should it come that far.
-/

namespace ReverseTunnel

open Traced Clock32 TunnelM

variable {p : Params} {w u u' : TunnelWorld} {opened closed : List Int}

/-- The local socket that a trace entry opens. -/
def opensLocal : Item SSHTunnel Call Call.Reply Mark → Option Int
  | .call id _ _ (.sys (.localSocket _)) created => if created then some id else none
  | _ => none

/-- The local socket that a trace entry closes. -/
def closesLocal : Item SSHTunnel Call Call.Reply Mark → Option Int
  | .call _ _ _ (.sys (.localClose fd)) _ => some fd
  | .call _ _ _ (.io _ (.closeSocket fd)) _ => some fd
  | _ => none

/-- A ring is allocated. -/
def allocatesRing : Item SSHTunnel Call Call.Reply Mark → Bool
  | .call _ _ _ (.sys (.allocRing _)) _ => true
  | _ => false

/-- From `w` to `w'` nothing was bound: `items` were made, and only the breaker may have changed. -/
structure NothingBound (w w' : TunnelWorld) (items : Trace SSHTunnel Call Call.Reply Mark) :
    Prop where
  /-- The slots, the count and the completed counters are as they were. -/
  channels : w'.st.channels = { w.st.channels with breaker := w'.st.channels.breaker }
  /-- Every socket that was opened has been closed once. -/
  sockets : ∀ fd ∈ items.filterMap opensLocal, (items.filterMap closesLocal).count fd = 1
  /-- And nothing else was closed. -/
  others : ∀ fd ∈ items.filterMap closesLocal, fd ∈ items.filterMap opensLocal
  /-- No ring was allocated. -/
  rings : ∀ x ∈ items, allocatesRing x = false

/-- A slot as it is right after `h` was bound to it at time `t`, with everything that is not named
here at its default. -/
def ChannelSlot.boundAt (ch : ChannelSlot) (h : Handle) (fd : Int)
    (toLocal toRemote : DataRingBuffer) (t : ℕ) : ChannelSlot :=
  { lastFinalizeMs := ch.lastFinalizeMs
    sshChannel := some h
    localSocket := fd
    active := true
    state := .open
    toLocal := some toLocal
    toRemote := some toRemote
    lastActivity := stamp t
    lastSuccessfulWrite := stamp t
    lastSuccessfulRead := stamp t }

/-- From `w` to `w'` the channel `h` was bound to slot `i` with these two rings, and `items` were
made. -/
structure ChannelBound (p : Params) (i : ℕ) (h : Handle) (toLocal toRemote : DataRingBuffer)
    (w w' : TunnelWorld) (items : Trace SSHTunnel Call Call.Reply Mark) : Prop where
  /-- The slot is in range. -/
  inRange : i < p.maxSlots
  /-- It was not in use. -/
  inactive : (w.st.channels.slots i).active = false
  /-- One socket was opened, none was closed, and the slot has it, together with the rings. -/
  slot : ∃ fd t, items.filterMap opensLocal = [fd] ∧ items.filterMap closesLocal = [] ∧
    w.clock ≤ t ∧ t ≤ w'.clock ∧
    w'.st.channels.slots i = (w.st.channels.slots i).boundAt h fd toLocal toRemote t
  /-- The other slots are as they were. -/
  others : ∀ j, j ≠ i → w'.st.channels.slots j = w.st.channels.slots j
  /-- It is counted. -/
  activeCount : w'.st.channels.activeCount = w.st.channels.activeCount + 1
  /-- The completed counters are as they were. -/
  completed : Archives {} w w'

/-- A ring of `capacity` bytes that exists, with nothing in it. -/
structure EmptyRing (capacity : ℕ) (b : DataRingBuffer) : Prop where
  /-- It has storage, and nothing is stored. -/
  handle : b.handle = some []
  /-- Nothing was put back either. -/
  content : b.content = []
  /-- All of it is free. -/
  capacity : b.capacity = capacity

/-- What is asked of a call of `bindChannel` that returns `bound`. -/
def AllOrNothing (p : Params) (slotIndex : Int) (h : Handle) (bound : Bool) (w w' : TunnelWorld)
    (items : Trace SSHTunnel Call Call.Reply Mark) : Prop :=
  if bound then ∃ (i : ℕ) (toLocal toRemote : DataRingBuffer), slotIndex = i ∧
    EmptyRing p.ringBufferSize toLocal ∧ EmptyRing p.ringBufferSize toRemote ∧
    ChannelBound p i h toLocal toRemote w w' items
  else NothingBound w w' items

/-! ### While it is being tried -/

/-- From `w` to `u` these sockets were opened and closed, and only the breaker has changed. -/
structure Tried (w u : TunnelWorld) (opened closed : List Int) : Prop where
  /-- What was done. -/
  trace : ∃ items, u.trace = items ++ w.trace ∧ items.filterMap opensLocal = opened ∧
    items.filterMap closesLocal = closed ∧ ∀ x ∈ items, allocatesRing x = false
  /-- What has changed. -/
  channels : u.st.channels = { w.st.channels with breaker := u.st.channels.breaker }
  /-- Time does not go back. -/
  clock_le : w.clock ≤ u.clock

theorem Tried.refl (w : TunnelWorld) : Tried w w [] [] :=
  ⟨⟨[], rfl, rfl, rfl, by simp⟩, rfl, Nat.le_refl _⟩

/-- A call that has nothing to do with local sockets and rings. -/
def plainCall : SysCall → Bool
  | .localSocket _ | .localClose _ | .allocRing _ => false
  | _ => true

theorem Tried.call (h : Tried w u opened closed) {c : SysCall} {r : c.Reply} {t : ℕ}
    (hc : plainCall c = true) (ht : u.clock ≤ t) :
    Tried w (u.after (.sys c) r t) opened closed := by
  obtain ⟨⟨items, htrace, hopen, hclose, hring⟩, hch, hle⟩ := h
  have hnew : ∀ id s, opensLocal (.call id t s (.sys c) r) = none ∧
      closesLocal (.call id t s (.sys c) r) = none ∧
      allocatesRing (.call id t s (.sys c) r) = false := fun id s ↦ by
    cases c <;> first | exact ⟨rfl, rfl, rfl⟩ | cases hc
  refine ⟨⟨_ :: items, by rw [World.after_trace, htrace]; rfl, ?_, ?_, ?_⟩, hch,
    Nat.le_trans hle ht⟩
  · rw [List.filterMap_cons_none (hnew _ _).1, hopen]
  · rw [List.filterMap_cons_none (hnew _ _).2.1, hclose]
  · intro x hx
    rcases List.mem_cons.1 hx with rfl | hx
    · exact (hnew _ _).2.2
    · exact hring x hx

/-- The socket that was opened is closed. -/
theorem Tried.close {fd : Int} (h : Tried w u [fd] []) {r : Unit} {t : ℕ} (ht : u.clock ≤ t) :
    Tried w (u.after (.sys (.localClose fd)) r t) [fd] [fd] := by
  obtain ⟨⟨items, htrace, hopen, hclose, hring⟩, hch, hle⟩ := h
  refine ⟨⟨_ :: items, by rw [World.after_trace, htrace]; rfl, ?_, ?_, ?_⟩, hch,
    Nat.le_trans hle ht⟩
  · show items.filterMap opensLocal = [fd]
    exact hopen
  · show fd :: items.filterMap closesLocal = [fd]
    rw [hclose]
  · intro x hx
    rcases List.mem_cons.1 hx with rfl | hx
    · rfl
    · exact hring x hx

/-- A socket is asked for. -/
theorem tried_localSocket {mapping : TunnelConfig} {created : Bool} {t : ℕ} (ht : w.clock ≤ t) :
    Tried w (w.after (.sys (.localSocket mapping)) created t)
      (if created then [(w.serial : Int)] else []) [] := by
  refine ⟨⟨[_], rfl, ?_, rfl, by simp [allocatesRing]⟩, rfl, ht⟩
  cases created <;> rfl

theorem Tried.wait (h : Tried w u opened closed) {t : ℕ} (ht : u.clock ≤ t) :
    Tried w (u.wait t) opened closed :=
  ⟨h.trace, h.channels, Nat.le_trans h.clock_le ht⟩

/-- The breaker records a result. -/
theorem Tried.breaker (h : Tried w u opened closed) {f : CircuitBreaker → CircuitBreaker} :
    Tried w (u.update fun s ↦
      { s with channels := { s.channels with breaker := f s.channels.breaker } })
      opened closed := by
  refine ⟨h.trace, ?_, h.clock_le⟩
  show { u.st.channels with breaker := f u.st.channels.breaker } = _
  rw [h.channels]
  rfl

/-- Giving up when every socket that was opened has been closed. -/
theorem Tried.nothingBound (h : Tried w u opened opened) (hn : opened.Nodup) :
    ∃ items, u.trace = items ++ w.trace ∧ NothingBound w u items := by
  obtain ⟨⟨items, htrace, hopen, hclose, hring⟩, hch, -⟩ := h
  refine ⟨items, htrace, hch, fun fd hfd ↦ ?_, fun fd hfd ↦ ?_, hring⟩
  · rw [hclose]
    exact List.count_eq_one_of_mem hn (hopen ▸ hfd)
  · rw [hopen]
    exact hclose ▸ hfd

/-! ### The local endpoint -/

/-- What `connectToLocalEndpoint` leaves when it returns `fd`. -/
def EndpointTried (w : TunnelWorld) (fd : Int) (u : TunnelWorld) : Prop :=
  0 ≤ fd ∧ Tried w u [fd] [] ∨ fd = -1 ∧ ∃ fds, fds.Nodup ∧ Tried w u fds fds

theorem wp_closeLocal {fd : Int} (h : Tried w u [fd] []) :
    wp (do
      let _ ← sys (.localClose fd)
      pure (-1 : Int)) (EndpointTried w) u :=
  wp_call_bind fun _ _ ht ↦ wp_pure (.inr ⟨rfl, [fd], List.nodup_singleton _, h.close ht⟩)

/-- A plain call while binding is tried. -/
theorem Tried.wp_call_bind {α : Type} {c : SysCall} {f : c.Reply → TunnelM α}
    {Q : α → Assertion SSHTunnel Call Call.Reply Mark} (h : Tried w u opened closed)
    (hc : plainCall c = true) (hf : ∀ r u', Tried w u' opened closed → wp (f r) Q u') :
    wp (sys c >>= f) Q u :=
  Traced.wp_call_bind fun r _ ht ↦ hf r _ (h.call hc ht)

theorem wp_connect {mapping : TunnelConfig} :
    wp (connectToLocalEndpoint mapping) (EndpointTried w) w := by
  rw [connectToLocalEndpoint]
  refine wp_callId_bind fun created t ht ↦ ?_
  have h₀ : Tried w (w.after (.sys (.localSocket mapping)) created t)
      (if created then [(w.serial : Int)] else []) [] := tried_localSocket ht
  refine wp_ite (fun hno ↦ ?_) fun hyes ↦ ?_
  · obtain rfl : created = false := by simpa using hno
    exact wp_pure (.inr ⟨rfl, [], List.nodup_nil, h₀⟩)
  obtain rfl : created = true := by simpa using hyes
  have hopen : ∀ {u}, Tried w u [(w.serial : Int)] [] → EndpointTried w w.serial u := fun h ↦
    .inl ⟨Int.natCast_nonneg _, h⟩
  -- one socket is open now, and every way out that is not a success closes it
  rw [if_pos rfl] at h₀
  refine h₀.wp_call_bind rfl fun valid _ h₁ ↦ wp_ite (fun _ ↦ wp_closeLocal h₁) fun _ ↦ ?_
  refine h₁.wp_call_bind rfl fun gotFlags _ h₂ ↦ wp_ite (fun _ ↦ wp_closeLocal h₂) fun _ ↦ ?_
  refine h₂.wp_call_bind rfl fun nonblocking _ h₃ ↦ wp_ite (fun _ ↦ wp_closeLocal h₃) fun _ ↦ ?_
  refine h₃.wp_call_bind rfl fun connectResult _ h₄ ↦ ?_
  cases connectResult with
  | done => exact wp_pure (hopen h₄)
  | failed => exact wp_closeLocal h₄
  | inProgress =>
    refine h₄.wp_call_bind rfl fun sel _ h₅ ↦ wp_ite (fun _ ↦ wp_closeLocal h₅) fun _ ↦ ?_
    refine h₅.wp_call_bind rfl fun sockErr _ h₆ ↦ wp_ite (fun _ ↦ wp_closeLocal h₆) fun _ ↦ ?_
    exact wp_pure (hopen h₆)

/-! ### The slot -/

/-- The replies to the ring allocations among the entries of a trace. -/
def ringReply : Item SSHTunnel Call Call.Reply Mark → Option Bool
  | .call _ _ _ (.sys (.allocRing _)) ok => some ok
  | _ => none

theorem ringFailed_eq_false_iff {x : Item SSHTunnel Call Call.Reply Mark} :
    ringFailed x = false ↔ ringReply x ≠ some false := by
  cases x with
  | mark t s m => simp [ringFailed, ringReply]
  | call id t s c r =>
    cases c with
    | io i c => simp [ringFailed, ringReply]
    | sys c =>
      cases c with
      | allocRing n => simp [ringFailed, ringReply]
      | _ => simp [ringFailed, ringReply]

theorem ringsAllocated_iff {items : Trace SSHTunnel Call Call.Reply Mark} :
    RingsAllocated items ↔ ∀ ok ∈ items.filterMap ringReply, ok = true := by
  constructor
  · intro h ok hok
    obtain ⟨x, hx, hreply⟩ := List.mem_filterMap.1 hok
    have hne := ringFailed_eq_false_iff.1 (h x hx)
    cases ok with
    | true => rfl
    | false => exact absurd hreply hne
  · intro h x hx
    refine ringFailed_eq_false_iff.2 fun hreply ↦ ?_
    cases h false (List.mem_filterMap.2 ⟨x, hx, hreply⟩)

theorem ringReply_of_not_allocates {x : Item SSHTunnel Call Call.Reply Mark}
    (h : allocatesRing x = false) : ringReply x = none := by
  cases x with
  | mark t s m => rfl
  | call id t s c r =>
    cases c with
    | io i c => rfl
    | sys c => cases c <;> first | rfl | cases h

theorem filterMap_ringReply {items : Trace SSHTunnel Call Call.Reply Mark}
    (h : ∀ x ∈ items, allocatesRing x = false) : items.filterMap ringReply = [] :=
  List.filterMap_eq_nil_iff.2 fun x hx ↦ ringReply_of_not_allocates (h x hx)

/-- What the constructor makes is an empty ring if and only if it got its storage. -/
theorem emptyRing_create_iff {capacity prependCap : ℕ} {ok : Bool} :
    EmptyRing capacity (.create capacity prependCap ok) ↔ ok = true := by
  constructor
  · intro h
    cases ok with
    | true => rfl
    | false => cases h.handle
  · rintro rfl
    exact ⟨rfl, DataRingBuffer.content_create _ _ _, DataRingBuffer.capacity_create _ _ _⟩

/-- What `bindChannel` leaves, with the rings it got: the replies of the two allocations decide
whether these have storage. -/
def BindOutcome (p : Params) (slotIndex : Int) (h : Handle) (bound : Bool) (w w' : TunnelWorld)
    (items : Trace SSHTunnel Call Call.Reply Mark) : Prop :=
  if bound then ∃ (i : ℕ) (okLocal okRemote : Bool), slotIndex = i ∧
    items.filterMap ringReply = [okRemote, okLocal] ∧
    ChannelBound p i h (.create p.ringBufferSize p.prependCap okLocal)
      (.create p.ringBufferSize p.prependCap okRemote) w w' items
  else NothingBound w w' items

/-- The end of `bindChannel`: the rings are made, the slot is filled and counted. -/
theorem wp_occupySlot {i : ℕ} {h : Handle} {fd : Int} {okLocal okRemote : Bool} {t₁ t₂ : ℕ}
    (hu : Tried w u [fd] []) (hi : i < p.maxSlots)
    (hact : (w.st.channels.slots i).active = false) (ht₁ : u.clock ≤ t₁) (ht₂ : t₁ ≤ t₂) :
    wp (do
        onSlot i (bindSlot h fd (.create p.ringBufferSize p.prependCap okLocal)
          (.create p.ringBufferSize p.prependCap okRemote))
        modifyChannels fun c ↦ { c with activeCount := c.activeCount + 1 }
        pure true)
      (fun bound w' ↦ ∃ items, w'.trace = items ++ w.trace ∧ BindOutcome p i h bound w w' items)
      ((u.after (.sys (.allocRing p.ringBufferSize)) okLocal t₁).after
        (.sys (.allocRing p.ringBufferSize)) okRemote t₂) := by
  refine wp_bind (wp_onSlot ?_)
  rw [bindSlot, wp_modifySlot_bind]
  refine wp_millis_bind fun t ht ↦ ?_
  rw [wp_modifySlot_bind, wp_mark_bind]
  refine wp_call_bind fun _ t' ht' ↦ wp_pure ?_
  rw [modifyChannels, wp_modify_bind]
  obtain ⟨⟨items, htrace, hopen, hclose, hring⟩, hch, hle⟩ := hu
  have hslots : u.st.channels.slots = w.st.channels.slots := by rw [hch]
  -- two allocations, the mark of the new lifetime, and the call that makes the channel non-blocking
  refine wp_pure ⟨_ :: _ :: _ :: _ :: items, congrArg (_ :: _ :: _ :: _ :: ·) htrace,
    i, okLocal, okRemote, rfl, ?_, hi, hact, ⟨fd, t, hopen, hclose,
      Nat.le_trans hle (Nat.le_trans ht₁ (Nat.le_trans ht₂ ht)), ht', ?_⟩, ?_, ?_, ?_⟩
  · show okRemote :: okLocal :: items.filterMap ringReply = _
    rw [filterMap_ringReply hring]
  · show Function.update u.st.channels.slots i _ i = _
    rw [Function.update_self, ← hslots]
    rfl
  · intro j hj
    show Function.update u.st.channels.slots i _ j = _
    rw [Function.update_of_ne hj, hslots]
  · show u.st.channels.activeCount + 1 = _
    rw [hch]
  · exact ⟨congrArg (·.completedBytesReceived) hch, congrArg (·.completedBytesSent) hch,
      congrArg (·.completedBytesDropped) hch⟩

/-- What every call of `bindChannel` leaves, whatever the replies to its allocations. -/
theorem wp_bindOutcome (p : Params) (w : TunnelWorld) (slotIndex : Int) (h : Handle)
    (mapping : TunnelConfig) :
    wp (bindChannel p slotIndex h mapping) (fun bound w' ↦ ∃ items, w'.trace = items ++ w.trace ∧
      BindOutcome p slotIndex h bound w w' items) w := by
  have hfail : ∀ {u fds}, fds.Nodup → Tried w u fds fds →
      wp (pure false : TunnelM Bool) (fun bound w' ↦ ∃ items, w'.trace = items ++ w.trace ∧
        BindOutcome p slotIndex h bound w w' items) u :=
    fun hn hu ↦ wp_pure (hu.nothingBound hn)
  have hclose : ∀ {u fd}, Tried w u [fd] [] →
      wp (do
        let _ ← sys (.localClose fd)
        pure false) (fun bound w' ↦ ∃ items, w'.trace = items ++ w.trace ∧
        BindOutcome p slotIndex h bound w w' items) u :=
    fun hu ↦ wp_call_bind fun _ _ ht ↦ hfail (List.nodup_cons.2 ⟨by simp, List.nodup_nil⟩)
      (hu.close ht)
  rw [bindChannel]
  refine wp_ite (fun _ ↦ hfail List.nodup_nil (Tried.refl w)) fun hrange ↦ ?_
  rw [wp_getSlot_bind]
  refine wp_ite (fun _ ↦ hfail List.nodup_nil (Tried.refl w)) fun hact ↦ ?_
  rw [Bool.not_eq_true] at hact
  refine wp_bind (wp_mono wp_connect fun fd u hfd ↦ ?_)
  rcases hfd with ⟨hpos, hu⟩ | ⟨rfl, fds, hn, hu⟩
  · refine wp_ite (fun hneg ↦ absurd hpos (by omega)) fun _ ↦ ?_
    rw [modifyChannels, wp_modify_bind]
    have hu₁ := hu.breaker (f := fun b ↦ b.recordSuccess mapping.remoteBindPort)
    refine hu₁.wp_call_bind rfl fun heap u₂ hu₂ ↦ wp_ite (fun _ ↦ hclose hu₂) fun _ ↦ ?_
    refine wp_call_bind fun okLocal t₁ ht₁ ↦ wp_call_bind fun okRemote t₂ ht₂ ↦ ?_
    refine wp_ite (fun hno ↦ ?_) fun _ ↦ ?_
    · -- the capacity is the requested one, with or without storage, and that is not zero
      have hge := p.ringBufferSize_ge
      simp only [DataRingBuffer.capacity_create, Bool.or_self, decide_eq_true_eq] at hno
      omega
    · have hi := toNat_lt_of_inRange hrange
      obtain ⟨i, rfl⟩ : ∃ i : ℕ, slotIndex = i := by
        simp only [Bool.or_eq_true, decide_eq_true_eq, not_or, Int.not_lt] at hrange
        exact ⟨slotIndex.toNat, (Int.toNat_of_nonneg hrange.1).symm⟩
      exact wp_occupySlot (i := i) hu₂ hi hact ht₁ ht₂
  · refine wp_ite (fun _ ↦ ?_) fun hno ↦ absurd (by decide) hno
    refine wp_bind (wp_tick_bind fun t ht ↦ wp_pure ?_)
    rw [modifyChannels, wp_modify_bind]
    exact hfail hn ((hu.wait ht).breaker
      (f := fun b ↦ (b.recordFailure mapping.remoteBindPort (stamp t)).2))

/-! ### When it is all or nothing -/

/-- A call is all or nothing if and only if every ring it asked for was allocated. -/
theorem BindOutcome.allOrNothing_iff {slotIndex : Int} {h : Handle} {bound : Bool}
    {items : Trace SSHTunnel Call Call.Reply Mark}
    (hout : BindOutcome p slotIndex h bound w u items) :
    AllOrNothing p slotIndex h bound w u items ↔ RingsAllocated items := by
  cases bound with
  | false =>
    have hnothing : NothingBound w u items := hout
    refine ⟨fun _ ↦ ringsAllocated_iff.2 fun ok hok ↦ ?_, fun _ ↦ hnothing⟩
    rw [filterMap_ringReply hnothing.rings] at hok
    cases hok
  | true =>
    obtain ⟨i, okLocal, okRemote, rfl, hreply, hbound⟩ := hout
    have hgot : RingsAllocated items ↔ okRemote = true ∧ okLocal = true := by
      rw [ringsAllocated_iff, hreply]
      simp
    rw [hgot]
    constructor
    · rintro ⟨j, toLocal, toRemote, hij, hlocal, hremote, hbound'⟩
      obtain rfl : i = j := Int.ofNat_inj.1 hij
      -- the slot has one pair of rings
      obtain ⟨fd, t, -, -, -, -, hslot⟩ := hbound.slot
      obtain ⟨fd', t', -, -, -, -, hslot'⟩ := hbound'.slot
      rw [hslot] at hslot'
      have hl : DataRingBuffer.create p.ringBufferSize p.prependCap okLocal = toLocal :=
        Option.some.inj (congrArg ChannelSlot.toLocal hslot')
      have hr : DataRingBuffer.create p.ringBufferSize p.prependCap okRemote = toRemote :=
        Option.some.inj (congrArg ChannelSlot.toRemote hslot')
      rw [← hl] at hlocal
      rw [← hr] at hremote
      exact ⟨emptyRing_create_iff.1 hremote, emptyRing_create_iff.1 hlocal⟩
    · rintro ⟨rfl, rfl⟩
      exact ⟨i, _, _, rfl, emptyRing_create_iff.2 rfl, emptyRing_create_iff.2 rfl, hbound⟩

/-- **Binding is all or nothing, unless a ring could not be allocated.** In every state of the
channel manager, for every slot index and mapping and however every call turns out: the following
holds if and only if every ring that the call asked for was allocated. A failed `bindChannel` has
left slots, count and completed counters as they were, has closed every socket it opened, once, and
has allocated no ring; a successful one leaves exactly one socket open, and the slot it has filled
owns it, with two empty rings. -/
theorem bindChannel_allOrNothing (p : Params) (w : TunnelWorld) (slotIndex : Int) (h : Handle)
    (mapping : TunnelConfig) :
    wp (bindChannel p slotIndex h mapping) (fun bound w' ↦ ∃ items, w'.trace = items ++ w.trace ∧
      (AllOrNothing p slotIndex h bound w w' items ↔ RingsAllocated items)) w := by
  refine wp_mono (wp_bindOutcome p w slotIndex h mapping) ?_
  rintro bound w' ⟨items, htrace, hout⟩
  exact ⟨items, htrace, hout.allOrNothing_iff⟩

/-! ### A slot without storage -/

/-- There is memory enough by what the heap reports, but neither ring can be allocated. -/
def ringlessWorld : Env Call Call.Reply := worldWith 1 fun _ c ↦
  match c with
  | .sys (.allocRing _) => some false
  | _ => none

/-- The call binds the channel although neither ring has any storage. -/
theorem bindChannel_ringlessWorld :
    ¬∀ (p : Params) (w : TunnelWorld) (slotIndex : Int) (h : Handle) (mapping : TunnelConfig),
      wp (bindChannel p slotIndex h mapping) (fun bound w' ↦ ∃ items,
        w'.trace = items ++ w.trace ∧ AllOrNothing p slotIndex h bound w w' items) w := by
  intro hall
  obtain ⟨items, -, hout⟩ := hall (smallTunnel 1) (initial 0) 0 77 {} ringlessWorld
  have hbound : ((bindChannel (smallTunnel 1) 0 77 {}).run ringlessWorld
      (initial 0)).1 = true := by decide +kernel
  rw [hbound] at hout
  obtain ⟨i, toLocal, toRemote, hi, hlocal, -, hslot⟩ := hout
  obtain rfl : 0 = i := Int.ofNat_inj.1 hi
  obtain ⟨fd, t, -, -, -, -, hslot⟩ := hslot.slot
  have hnone : (((bindChannel (smallTunnel 1) 0 77 {}).run ringlessWorld
      (initial 0)).2.st.channels.slots 0).toLocal.bind (·.handle) = none := by
    decide +kernel
  rw [hslot] at hnone
  have hsome : toLocal.handle = none := hnone
  rw [hlocal.handle] at hsome
  cases hsome

end ReverseTunnel
