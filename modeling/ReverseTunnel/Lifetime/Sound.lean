import ReverseTunnel.Lifetime.Step

/-!
# What holds of every slot at all times

The basic facts about a view, preserved by every step: nothing in the log lies in the future, the
rings have the configured make, and a slot is either **alive** (open or draining, with a channel, a
socket and both rings) or **dead** (closed, with none of them).
-/

namespace ReverseTunnel

open Traced Clock32

/-- A ring of the configured make. -/
structure Shaped (p : Params) (b : DataRingBuffer) : Prop where
  /-- The configured size. -/
  capacity : b.capacity = p.ringBufferSize
  /-- The configured prepend size, unless the allocations failed. -/
  prependCap : b.handle.isSome = true → b.prepend.cap = p.prependCap

theorem Shaped.of_sameShape {p : Params} {b b' : DataRingBuffer} (h : Shaped p b)
    (hs : DataRingBuffer.SameShape b b') : Shaped p b' :=
  ⟨hs.capacity.trans h.capacity, fun hh ↦ hs.prependCap.trans (h.prependCap (hs.handle ▸ hh))⟩

theorem shaped_create (p : Params) (ok : Bool) :
    Shaped p (.create p.ringBufferSize p.prependCap ok) := by
  refine ⟨DataRingBuffer.capacity_create _ _ _, fun h ↦ ?_⟩
  rw [DataRingBuffer.handle_isSome_create] at h
  rw [h]
  exact DataRingBuffer.prependCap_create _ _

/-- A slot in use. -/
structure Alive (ch : ChannelSlot) : Prop where
  /-- It has a channel. -/
  sshChannel : ch.sshChannel.isSome = true
  /-- It has a socket. -/
  localSocket : 0 ≤ ch.localSocket
  /-- It has a ring towards the local side. -/
  toLocal : ch.toLocal.isSome = true
  /-- It has a ring towards the remote side. -/
  toRemote : ch.toRemote.isSome = true
  /-- It is open or draining. -/
  state : ch.state ≠ .closed

/-- A slot that is free. -/
structure Dead (ch : ChannelSlot) : Prop where
  /-- It has no channel. -/
  sshChannel : ch.sshChannel = none
  /-- It has no socket. -/
  localSocket : ch.localSocket = -1
  /-- It has no ring towards the local side. -/
  toLocal : ch.toLocal = none
  /-- It has no ring towards the remote side. -/
  toRemote : ch.toRemote = none
  /-- It is closed. -/
  state : ch.state = .closed

/-- The basic invariant of a view. -/
structure Sound (p : Params) (v : View) : Prop where
  /-- The log is not from the future. -/
  timely : ∀ x ∈ v.log, x.time ≤ v.clock
  /-- The ring towards the local side is well made. -/
  shapedLocal : ∀ b, v.ch.toLocal = some b → Shaped p b
  /-- The ring towards the remote side is well made. -/
  shapedRemote : ∀ b, v.ch.toRemote = some b → Shaped p b
  /-- A slot in use is complete. -/
  alive : v.ch.active = true → Alive v.ch
  /-- A slot not in use is empty. -/
  dead : v.ch.active = false → Dead v.ch

variable {p : Params} {ext : Bool} {v v' : View}

/-! ### What the pump leaves alone -/

/-- What a chunk of pump work never changes. -/
structure Keeps (ch ch' : ChannelSlot) : Prop where
  /-- The slot stays in use. -/
  active : ch'.active = ch.active
  /-- The channel stays. -/
  sshChannel : ch'.sshChannel = ch.sshChannel
  /-- The socket stays. -/
  localSocket : ch'.localSocket = ch.localSocket
  /-- EOF is not sent. -/
  eofSentMs : ch'.eofSentMs = ch.eofSentMs

theorem Keeps.refl (ch : ChannelSlot) : Keeps ch ch := ⟨rfl, rfl, rfl, rfl⟩

theorem Keeps.trans {ch ch' ch'' : ChannelSlot} (h : Keeps ch ch') (h' : Keeps ch' ch'') :
    Keeps ch ch'' :=
  ⟨h'.active.trans h.active, h'.sshChannel.trans h.sshChannel,
    h'.localSocket.trans h.localSocket, h'.eofSentMs.trans h.eofSentMs⟩

theorem PumpStep.keeps (h : PumpStep p ext v v') : Keeps v.ch v'.ch := by
  cases h <;> exact ⟨rfl, rfl, rfl, rfl⟩

/-! ### Rings -/

theorem PumpStep.sameShape_toLocal (h : PumpStep p ext v v') :
    (v'.ch.toLocal = v.ch.toLocal) ∨
      ∃ b b', v.ch.toLocal = some b ∧ v'.ch.toLocal = some b' ∧
        DataRingBuffer.SameShape b b' := by
  cases h with
  | readData hact hh heof hb hb' ht ht' => exact .inr ⟨_, _, hb, rfl, hb'.shape⟩
  | sendData hact hfd hb hbs hb' hshape ht ht' => exact .inr ⟨_, _, hb, rfl, hshape⟩
  | sendFail hact hfd hb hbs hb' hhard ht => exact .inr ⟨_, _, hb, rfl, hb'.shape⟩
  | sendBusy hact hfd hb hb'' hr ht ht' hfirst => exact .inr ⟨_, _, hb, rfl, hb''.shape⟩
  | _ => exact .inl rfl

theorem PumpStep.sameShape_toRemote (h : PumpStep p ext v v') :
    (v'.ch.toRemote = v.ch.toRemote) ∨
      ∃ b b', v.ch.toRemote = some b ∧ v'.ch.toRemote = some b' ∧
        DataRingBuffer.SameShape b b' := by
  cases h with
  | writeData hact hh heof hb hbs hb' hshape ht ht' => exact .inr ⟨_, _, hb, rfl, hshape⟩
  | writeBusy hact hh heof hb hb'' hagain ht ht' hfirst => exact .inr ⟨_, _, hb, rfl, hb''.shape⟩
  | writeError hact hh heof hb hb'' hagain ht => exact .inr ⟨_, _, hb, rfl, hb''.shape⟩
  | recvData hact hfd heof hb hb' ht ht' => exact .inr ⟨_, _, hb, rfl, hb'.shape⟩
  | _ => exact .inl rfl

/-! ### Time -/

/-- The clock does not go back. -/
theorem PumpStep.clock_le (h : PumpStep p ext v v') : v.clock ≤ v'.clock := by
  cases h <;> simp only [View.wait_clock, View.mark_clock, View.call_clock, View.set_clock] <;> omega

/-- New log entries are made between the two clock values. -/
theorem PumpStep.log_append (h : PumpStep p ext v v') :
    ∃ items, v'.log = items ++ v.log ∧ ∀ x ∈ items, v.clock ≤ x.time ∧ x.time ≤ v'.clock := by
  cases h with
  | wait ht => exact ⟨[], rfl, by simp⟩
  | checking hact hopen => exact ⟨[_], rfl, by simp⟩
  | pause ssh loc hact => exact ⟨[_], rfl, by simp⟩
  | rearmSend hset ht => exact ⟨[_], rfl, by simpa using ht⟩
  | rearmWrite hset ht => exact ⟨[_], rfl, by simpa using ht⟩
  | forwardEof hact hopen hlocal herr hfwd hlog ht => exact ⟨[_], rfl, by simpa using ht⟩
  | begin hact hopen hcause ht =>
    exact ⟨[_, _], rfl, by simpa using ht⟩
  | pumpRead hact hh heof ht => exact ⟨[_, _], rfl, by simpa using ht⟩
  | readAgain hact hh hagain ht => exact ⟨[_, _], rfl, by simpa using ht⟩
  | readEof hact hh hzero ht => exact ⟨[_, _], rfl, by simpa using ht⟩
  | readError hact hh hzero hagain ht => exact ⟨[_, _], rfl, by simpa using ht⟩
  | eofFlag hact hh heof ht => exact ⟨[_, _], rfl, by simpa using ht⟩
  | sendFail hact hfd hb hbs hb' hhard ht => exact ⟨[_, _], rfl, by simpa using ht⟩
  | writeError hact hh heof hb hb'' hagain ht => exact ⟨[_, _], rfl, by simpa using ht⟩
  | recvEnd hact hfd heof hr ht => exact ⟨[_, _], rfl, by simpa using ht⟩
  | recvBusy hact hfd heof hbusy ht => exact ⟨[_, _], rfl, by simpa using ht⟩
  | readData hact hh heof hb hb' ht ht' => exact ⟨[_, _], rfl, by simp; omega⟩
  | sendData hact hfd hb hbs hb' hshape ht ht' => exact ⟨[_, _], rfl, by simp; omega⟩
  | sendBusy hact hfd hb hb'' hr ht ht' hfirst => exact ⟨[_, _], rfl, by simp; omega⟩
  | writeData hact hh heof hb hbs hb' hshape ht ht' => exact ⟨[_, _], rfl, by simp; omega⟩
  | writeBusy hact hh heof hb hb'' hagain ht ht' hfirst => exact ⟨[_, _], rfl, by simp; omega⟩
  | recvData hact hfd heof hb hb' ht ht' => exact ⟨[_, _], rfl, by simp; omega⟩

/-! ### The EOF flush -/

/-- What the flush does: it touches nothing but the ring towards the local side. -/
theorem Flush.frame {h : Handle} {n : ℕ} (hf : Flush h n v v') :
    ∃ r, v'.ch = { v.ch with toLocal := r } ∧
      (r = v.ch.toLocal ∨ ∃ b b', v.ch.toLocal = some b ∧ r = some b' ∧
        DataRingBuffer.SameShape b b') := by
  induction hf with
  | done => exact ⟨_, rfl, .inl rfl⟩
  | stop ht => exact ⟨_, rfl, .inl rfl⟩
  | more ht hb hshape hb' hrest ih =>
    obtain ⟨r, hr, hcase⟩ := ih
    refine ⟨r, hr, .inr ?_⟩
    rcases hcase with rfl | ⟨b₁, b₂, h1, rfl, hs⟩
    · exact ⟨_, _, hb, rfl, hshape⟩
    · obtain rfl : _ = b₁ := Option.some.inj h1
      exact ⟨_, _, hb, rfl, hshape.trans hs⟩

theorem Flush.clock_le {h : Handle} {n : ℕ} (hf : Flush h n v v') : v.clock ≤ v'.clock := by
  induction hf with
  | done => exact Nat.le_refl _
  | stop ht => exact ht
  | more ht hb hshape hb' hrest ih => exact Nat.le_trans ht ih

/-- Every entry a flush leaves is a read, made while nothing but that ring has changed. -/
theorem Flush.reads {h : Handle} {n : ℕ} (hf : Flush h n v v') :
    ∃ items, v'.log = items ++ v.log ∧ ∀ x ∈ items, ∃ id t ring r,
      x = .call id t { v.ch with toLocal := ring } (.channelRead h 512) r ∧
        v.clock ≤ t ∧ t ≤ v'.clock := by
  induction hf with
  | done => exact ⟨[], rfl, by simp⟩
  | @stop v n id t rc hrc ht =>
    refine ⟨[_], rfl, fun x hx ↦ ?_⟩
    rw [List.mem_singleton.1 hx]
    exact ⟨id, t, v.ch.toLocal, _, rfl, ht, Nat.le_refl _⟩
  | @more v v' n id t bs hpos hle b b' ht hb hshape hb' hrest ih =>
    obtain ⟨items, hlog, hitems⟩ := ih
    refine ⟨items ++ [.call id t v.ch (.channelRead h 512) (.data bs hpos hle)],
      by rw [hlog]; simp, fun x hx ↦ ?_⟩
    rw [List.mem_append, List.mem_singleton] at hx
    rcases hx with hx | rfl
    · obtain ⟨id', t', ring, r, rfl, h1, h2⟩ := hitems x hx
      exact ⟨id', t', ring, r, rfl, Nat.le_trans ht h1, h2⟩
    · exact ⟨id, t, v.ch.toLocal, _, rfl, ht, hrest.clock_le⟩

/-- What the announcement of the end adds to the log: the call, the reads of the flush, and two marks. -/
theorem Flush.entries {u : View} {h : Handle} {n id t : ℕ} {rc : Int}
    (hf : Flush h n (v.call id t (.channelSendEof h) rc) u) (t' : ℕ) :
    ∃ items, ((((u.wait t').set { u.ch with eofSentMs := stamp t' }).mark .eofStamped).mark
        .step).log = items ++ v.log ∧
      ∀ P : SlotItem → Prop, P (.call id t v.ch (.channelSendEof h) rc) →
        (∀ id t ring r, P (.call id t { v.ch with toLocal := ring } (.channelRead h 512) r)) →
        (∀ m, m = .eofStamped ∨ m = .step → P (.mark t' { u.ch with eofSentMs := stamp t' } m)) →
          ∀ x ∈ items, P x := by
  obtain ⟨items, hlog, hitems⟩ := hf.reads
  refine ⟨.mark t' { u.ch with eofSentMs := stamp t' } .step ::
    .mark t' { u.ch with eofSentMs := stamp t' } .eofStamped ::
      (items ++ [.call id t v.ch (.channelSendEof h) rc]), by simp [hlog], ?_⟩
  intro P hcall hread hmark x hx
  simp only [List.mem_cons, List.mem_append] at hx
  rcases hx with rfl | rfl | hx | rfl | hx
  · exact hmark _ (.inr rfl)
  · exact hmark _ (.inl rfl)
  · obtain ⟨id', t'', ring, r, rfl, -⟩ := hitems x hx
    exact hread ..
  · exact hcall
  · cases hx

theorem Flush.log_append {h : Handle} {n : ℕ} (hf : Flush h n v v') :
    ∃ items, v'.log = items ++ v.log ∧
      ∀ x ∈ items, v.clock ≤ x.time ∧ x.time ≤ v'.clock ∧ isBoundary x = false := by
  obtain ⟨items, hlog, hitems⟩ := hf.reads
  refine ⟨items, hlog, fun x hx ↦ ?_⟩
  obtain ⟨id, t, ring, r, rfl, h1, h2⟩ := hitems x hx
  exact ⟨h1, h2, rfl⟩

/-! ### The basic invariant -/

theorem Sound.pump (hv : Sound p v) (h : PumpStep p ext v v') : Sound p v' := by
  have hk := h.keeps
  obtain ⟨items, hlog, hitems⟩ := h.log_append
  -- of all steps of the pump only `begin` changes the state
  have hclosed : v'.ch.state = v.ch.state ∨ v'.ch.state = .draining ∧ v.ch.active = true := by
    cases h with
    | begin hact hopen hcause ht => exact .inr ⟨rfl, hact⟩
    | _ => exact .inl rfl
  have hloc := h.sameShape_toLocal
  have hrem := h.sameShape_toRemote
  have hc := h.clock_le
  refine ⟨fun x hx ↦ ?_, fun b' hb' ↦ ?_, fun b' hb' ↦ ?_, fun hact ↦ ?_, fun hact ↦ ?_⟩
  · rw [hlog, List.mem_append] at hx
    rcases hx with hx | hx
    · exact (hitems x hx).2
    · exact Nat.le_trans (hv.timely x hx) hc
  · rcases hloc with heq | ⟨b, b₁, hb, hb₁, hs⟩
    · exact hv.shapedLocal b' (heq ▸ hb')
    · obtain rfl : b₁ = b' := Option.some.inj (hb₁.symm.trans hb')
      exact (hv.shapedLocal b hb).of_sameShape hs
  · rcases hrem with heq | ⟨b, b₁, hb, hb₁, hs⟩
    · exact hv.shapedRemote b' (heq ▸ hb')
    · obtain rfl : b₁ = b' := Option.some.inj (hb₁.symm.trans hb')
      exact (hv.shapedRemote b hb).of_sameShape hs
  · obtain ⟨h1, h2, h3, h4, h5⟩ := hv.alive (hk.active ▸ hact)
    refine ⟨hk.sshChannel ▸ h1, hk.localSocket ▸ h2, ?_, ?_, ?_⟩
    · rcases hloc with heq | ⟨b, b₁, hb, hb₁, hs⟩
      · rwa [heq]
      · rw [hb₁]; rfl
    · rcases hrem with heq | ⟨b, b₁, hb, hb₁, hs⟩
      · rwa [heq]
      · rw [hb₁]; rfl
    · rcases hclosed with heq | ⟨heq, -⟩
      · rwa [heq]
      · rw [heq]; simp
  · have hdead := hk.active ▸ hact
    obtain ⟨h1, h2, h3, h4, h5⟩ := hv.dead hdead
    refine ⟨hk.sshChannel.trans h1, hk.localSocket.trans h2, ?_, ?_, ?_⟩
    · rcases hloc with heq | ⟨b, b₁, hb, hb₁, hs⟩
      · exact heq.trans h3
      · rw [h3] at hb; cases hb
    · rcases hrem with heq | ⟨b, b₁, hb, hb₁, hs⟩
      · exact heq.trans h4
      · rw [h4] at hb; cases hb
    · rcases hclosed with heq | ⟨-, hact'⟩
      · exact heq.trans h5
      · rw [hdead] at hact'; cases hact'

/-- The basic invariant depends on the log only through its times. -/
theorem Sound.mk_of (hch : Sound p v) {ch : ChannelSlot} {log : SlotLog} {clock : ℕ}
    (hlog : ∀ x ∈ log, x.time ≤ clock) (hl : ch.toLocal = v.ch.toLocal)
    (hr : ch.toRemote = v.ch.toRemote) (ha : ch.active = v.ch.active)
    (hs : ch.sshChannel = v.ch.sshChannel) (hf : ch.localSocket = v.ch.localSocket)
    (hst : ch.state = v.ch.state) : Sound p ⟨ch, log, clock⟩ := by
  refine ⟨hlog, fun b hb ↦ hch.shapedLocal b (hl ▸ hb), fun b hb ↦ hch.shapedRemote b (hr ▸ hb),
    fun hact ↦ ?_, fun hact ↦ ?_⟩
  · obtain ⟨h1, h2, h3, h4, h5⟩ := hch.alive (ha ▸ hact)
    exact ⟨hs ▸ h1, hf ▸ h2, hl ▸ h3, hr ▸ h4, hst ▸ h5⟩
  · obtain ⟨h1, h2, h3, h4, h5⟩ := hch.dead (ha ▸ hact)
    exact ⟨hs.trans h1, hf.trans h2, hl.trans h3, hr.trans h4, hst.trans h5⟩

/-- A dead slot is sound. -/
theorem Sound.of_dead {ch : ChannelSlot} {log : SlotLog} {clock : ℕ}
    (hlog : ∀ x ∈ log, x.time ≤ clock) (ha : ch.active = false) (hd : Dead ch) :
    Sound p ⟨ch, log, clock⟩ := by
  refine ⟨hlog, fun b hb ↦ ?_, fun b hb ↦ ?_, fun hact ↦ ?_, fun _ ↦ hd⟩
  · rw [hd.toLocal] at hb; cases hb
  · rw [hd.toRemote] at hb; cases hb
  · rw [ha] at hact; cases hact

/-! ### Closing -/

/-- What work on a slot never changes. -/
structure Retains (ch ch' : ChannelSlot) : Prop where
  /-- The slot stays in use. -/
  active : ch'.active = ch.active
  /-- The channel stays. -/
  sshChannel : ch'.sshChannel = ch.sshChannel
  /-- The socket stays. -/
  localSocket : ch'.localSocket = ch.localSocket

theorem Retains.refl (ch : ChannelSlot) : Retains ch ch := ⟨rfl, rfl, rfl⟩

theorem Retains.trans {ch ch' ch'' : ChannelSlot} (h : Retains ch ch') (h' : Retains ch' ch'') :
    Retains ch ch'' :=
  ⟨h'.active.trans h.active, h'.sshChannel.trans h.sshChannel,
    h'.localSocket.trans h.localSocket⟩

theorem Keeps.retains {ch ch' : ChannelSlot} (h : Keeps ch ch') : Retains ch ch' :=
  ⟨h.active, h.sshChannel, h.localSocket⟩

theorem WorkStep.retains (h : WorkStep p ext v v') : Retains v.ch v'.ch := by
  cases h with
  | pump h => exact h.keeps.retains
  | sendEof hact hst hh heof hl hr hdone ht hflush ht' =>
    obtain ⟨r, hch, -⟩ := hflush.frame
    rw [View.call_ch] at hch
    constructor <;> simp [hch]
  | _ => exact ⟨rfl, rfl, rfl⟩

theorem View.timely_socketClosed {v : View} {id t c : ℕ} (ht : t ≤ c)
    (h : ∀ x ∈ v.log, x.time ≤ c) : ∀ x ∈ (v.socketClosed id t).log, x.time ≤ c := by
  rw [socketClosed]
  split
  · simp only [call_log, List.mem_cons, forall_eq_or_imp, Item.time_call]
    exact ⟨ht, h⟩
  · exact h

theorem View.timely_closed {v : View} {id t : ℕ} (ht : v.clock ≤ t)
    (h : ∀ x ∈ v.log, x.time ≤ v.clock) :
    ∀ x ∈ (v.socketClosed id t).log, x.time ≤ (v.socketClosed id t).clock := by
  rw [socketClosed]
  split
  · simp only [call_log, call_clock, List.mem_cons, forall_eq_or_imp, Item.time_call]
    exact ⟨Nat.le_refl _, fun x hx ↦ Nat.le_trans (h x hx) ht⟩
  · exact h

theorem View.clock_socketClosed {v : View} {id t : ℕ} (ht : v.clock ≤ t) :
    v.clock ≤ (v.socketClosed id t).clock ∧ (v.socketClosed id t).clock ≤ t := by
  rw [socketClosed]
  split
  · exact ⟨ht, Nat.le_refl _⟩
  · exact ⟨Nat.le_refl _, ht⟩

/-- Adding entries made now keeps the log timely. -/
private theorem timely_cons {x : SlotItem} {log : SlotLog} {c c' : ℕ} (hx : x.time ≤ c')
    (hc : c ≤ c') (h : ∀ y ∈ log, y.time ≤ c) : ∀ y ∈ x :: log, y.time ≤ c' := by
  intro y hy
  rcases List.mem_cons.1 hy with rfl | hy
  · exact hx
  · exact Nat.le_trans (h y hy) hc

/-- Work is done on slots in use only. -/
theorem WorkStep.active_or_wait (h : WorkStep p ext v v') :
    v.ch.active = true ∨ v'.ch = v.ch ∧ v'.log = v.log := by
  cases h with
  | pump h =>
    cases h with
    | wait ht => exact .inr ⟨rfl, rfl⟩
    | _ => exact .inl ‹v.ch.active = true›
  | _ => exact .inl ‹v.ch.active = true›

theorem Sound.work (hv : Sound p v) (h : WorkStep p ext v v') : Sound p v' := by
  cases h with
  | pump h => exact hv.pump h
  | sendEofAgain hact hst hh heof hl hr hagain ht =>
    exact hv.mk_of (timely_cons (Nat.le_refl _) (Nat.le_refl _)
      (timely_cons (Nat.le_refl _) ht hv.timely)) rfl rfl rfl rfl rfl rfl
  | @sendEof u h id t t' rc hact hst hh heof hl hr hdone ht hflush ht' =>
    obtain ⟨r, hch, hr'⟩ := hflush.frame
    obtain ⟨items, hlog, hitems⟩ := hflush.log_append
    have htu : t ≤ u.clock := hflush.clock_le
    have htimely : ∀ x ∈ u.log, x.time ≤ u.clock := by
      intro x hx
      rw [hlog, List.mem_append] at hx
      rcases hx with hx | hx
      · exact (hitems x hx).2.1
      · exact Nat.le_trans (timely_cons (Nat.le_refl _) ht hv.timely x hx) htu
    have hlast : ∀ x ∈ (((u.wait t').set { u.ch with eofSentMs := stamp t' }).mark
        .eofStamped).mark .step |>.log, x.time ≤ t' :=
      timely_cons (Nat.le_refl _) (Nat.le_refl _) (timely_cons (Nat.le_refl _) ht' htimely)
    obtain ⟨h1, h2, h3, h4, h5⟩ := hv.alive hact
    rw [View.call_ch] at hch hr'
    refine ⟨hlast, fun b hb ↦ ?_, fun b hb ↦ ?_, fun _ ↦ ?_, fun hdead ↦ ?_⟩
    · have hb' : r = some b := by simpa [hch] using hb
      rcases hr' with heq | ⟨b₁, b₂, hb₁, hb₂, hs⟩
      · exact hv.shapedLocal b (heq ▸ hb')
      · obtain rfl : b₂ = b := Option.some.inj (hb₂.symm.trans hb')
        exact (hv.shapedLocal b₁ hb₁).of_sameShape hs
    · exact hv.shapedRemote b (by simpa [hch] using hb)
    · refine ⟨by simpa [hch] using h1, by simpa [hch] using h2, ?_, by simpa [hch] using h4,
        by simpa [hch] using h5⟩
      have : r.isSome = true := by
        rcases hr' with heq | ⟨b₁, b₂, hb₁, hb₂, hs⟩
        · rw [heq]; exact h3
        · rw [hb₂]; rfl
      simpa [hch] using this
    · simp [hch, hact] at hdead
  | finalizing hact hst hτ hverdict =>
    exact hv.mk_of (timely_cons (Nat.le_refl _) (Nat.le_refl _) hv.timely) rfl rfl rfl rfl rfl rfl
  | closeChannel hact hh ht =>
    exact hv.mk_of (timely_cons (Nat.le_refl _) ht hv.timely) rfl rfl rfl rfl rfl rfl
  | freeAgain hact hh hagain ht =>
    exact hv.mk_of (timely_cons (Nat.le_refl _) ht hv.timely) rfl rfl rfl rfl rfl rfl

theorem Sound.step (hv : Sound p v) (h : SlotStep p ext v v') : Sound p v' := by
  cases h with
  | work h => exact hv.work h
  | bind hact hfd ht ht' =>
    refine ⟨?_, fun b hb ↦ ?_, fun b hb ↦ ?_, fun _ ↦ ?_, fun hdead ↦ ?_⟩
    · exact timely_cons (Nat.le_refl _) ht' (timely_cons (Nat.le_refl _) ht hv.timely)
    · cases hb
      exact shaped_create p _
    · cases hb
      exact shaped_create p _
    · exact ⟨rfl, hfd, rfl, rfl, by simp [View.bound, ChannelSlot.initialised]⟩
    · cases hdead
  | @release h id id' t t' t'' rc progress hact hh hdone ht ht' ht'' =>
    have hfreed : ∀ x ∈ (v.freed h rc progress id t).log, x.time ≤ t'' :=
      timely_cons (Nat.le_trans ht' ht'') (Nat.le_trans ht (Nat.le_trans ht' ht'')) hv.timely
    have hclosed : ∀ x ∈ ((v.freed h rc progress id t).socketClosed id' t').log, x.time ≤ t'' :=
      View.timely_socketClosed ht'' hfreed
    have hclock : ((v.freed h rc progress id t).socketClosed id' t').clock ≤ t'' :=
      Nat.le_trans (View.clock_socketClosed ht').2 ht''
    exact Sound.of_dead (timely_cons hclock (Nat.le_refl _) hclosed) rfl ⟨rfl, rfl, rfl, rfl, rfl⟩
  | @abandon id t hact ht =>
    exact Sound.of_dead (timely_cons (Nat.le_refl _) (Nat.le_refl _)
      (View.timely_closed (v := v.set v.ch.accountResidual) ht hv.timely)) rfl
      ⟨rfl, rfl, rfl, rfl, rfl⟩

theorem Works.retains (h : Works p ext v v') : Retains v.ch v'.ch := by
  induction h with
  | refl => exact Retains.refl _
  | tail _ hstep ih => exact ih.trans hstep.retains

theorem Works.reach (h : Works p ext v v') : Reach p ext v v' := by
  induction h with
  | refl => exact Relation.ReflTransGen.refl
  | tail _ hstep ih => exact ih.tail (.work hstep)

theorem Sound.reach (hv : Sound p v) (h : Reach p ext v v') : Sound p v' := by
  induction h with
  | refl => exact hv
  | tail _ hstep ih => exact ih.step hstep

/-- A slot as `init` leaves it. -/
def View.fresh (clock : ℕ) : View := ⟨{}, [], clock⟩

theorem sound_fresh (clock : ℕ) : Sound p (.fresh clock) :=
  Sound.of_dead (by simp) rfl ⟨rfl, rfl, rfl, rfl, rfl⟩

/-- Sampling the clock now gives a settled reading. -/
theorem Sound.settled (hv : Sound p v) : v.Settled v.clock :=
  ⟨Nat.le_refl _, fun x hx _ ↦ hv.timely x hx⟩

end ReverseTunnel
