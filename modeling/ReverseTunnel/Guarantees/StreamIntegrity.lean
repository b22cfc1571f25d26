import ReverseTunnel.System.Trace

/-!
# Stream integrity

For every slot in use, wherever a chunk of work on it has ended and between any two operations: what
was received from the local socket has been written to the SSH channel up to what waits in
`toRemote`, and what was read from the channel has been sent to the socket up to what waits in
`toLocal`, in order. All of it went through the slot's own channel and the slot's own socket.

Assumed is that libssh2 yields no data on a channel whose end it has reported, and that the rings
could be allocated.
-/

namespace ReverseTunnel

open Traced TunnelM

variable {p : Params} {ext : Bool} {v v' : View} {w : TunnelWorld}

/-! ### Nobody else's channel or socket -/

/-- A log entry that uses only the channel and the socket of `ch`. -/
def UsesOwn (ch : ChannelSlot) : SlotItem → Prop
  | .call _ _ _ c _ => (∀ h, c.handle = some h → ch.sshChannel = some h) ∧
      ∀ fd, c.socket = some fd → ch.localSocket = fd
  | .mark _ _ _ => True

theorem OwnItem.usesOwn {ch : ChannelSlot} {x : SlotItem} (h : OwnItem ch x) : UsesOwn ch x := by
  cases x with
  | mark t s m => trivial
  | call id t s c r =>
    cases c with
    | channelFree h' =>
      refine ⟨fun h₁ hh ↦ ?_, nofun⟩
      obtain rfl : h' = h₁ := Option.some.inj hh
      exact h.1
    | closeSocket fd => exact h.elim
    | channelSetBlocking h' => exact h.elim
    | _ => exact h

theorem UsesOwn.of_retains {ch ch' : ChannelSlot} {x : SlotItem} (hk : Retains ch ch')
    (h : UsesOwn ch x) : UsesOwn ch' x := by
  cases x with
  | mark t s m => trivial
  | call id t s c r =>
    exact ⟨fun h' hh ↦ hk.sshChannel.trans (h.1 h' hh), fun fd hfd ↦ hk.localSocket.trans (h.2 fd hfd)⟩

/-- A slot in use has used nothing but what is its own. -/
theorem usesOwn_of_reach {clock : ℕ} (h : Reach p ext (.fresh clock) v)
    (hact : v.ch.active = true) : ∀ x ∈ life v.log, UsesOwn v.ch x := by
  induction h with
  | refl => cases hact
  | @tail v v' hr hs ih =>
    cases hs with
    | work hw =>
      have hk := hw.retains
      obtain ⟨items, hlog, hown⟩ := hw.ownLog
      rw [hlog, life_append fun x hx ↦ isBound_of_ownItem (hown x hx)]
      intro x hx
      rcases List.mem_append.1 hx with hx | hx
      · exact (hown x hx).usesOwn.of_retains hk
      · exact (ih (hk.active ▸ hact) x hx).of_retains hk
    | bind hdead hfd ht ht' =>
      intro x hx
      rcases List.mem_cons.1 hx with rfl | hx
      · exact ⟨fun h hh ↦ hh, nofun⟩
      · cases hx
    | release hact' hh hdone ht ht' ht'' => cases hact
    | abandon hact' ht => cases hact

/-! ### Both directions -/

/-- No byte of the lifetime recorded in `log` is lost, duplicated, reordered or moved to another
slot. -/
structure Intact (ch : ChannelSlot) (log : SlotLog) : Prop where
  /-- What came from the local socket. -/
  toRemote : bytesOf recvOf log = bytesOf writtenOf log ++ held ch.toRemote
  /-- What came from the SSH channel, as long as `send` has not failed. -/
  toLocal : (∀ x ∈ log, hardSendError x = false) →
    bytesOf readOf log = bytesOf sentOf log ++ held ch.toLocal
  /-- Everything through the slot's own channel and socket. -/
  usesOwn : ∀ x ∈ log, UsesOwn ch x

/-- **Stream integrity**, between operations and at every step boundary. -/
theorem stream_integrity (hw : Run p w) (heof : EofIsFinal w.trace)
    (hrings : RingsAllocated w.trace) (i : ℕ) :
    ((w.st.channels.slots i).active = true →
      Intact (w.st.channels.slots i) (life (slotLog i w.trace))) ∧
    ∀ newer t s past, w.trace = newer ++ .mark t s (.slot i .step) :: past →
      (s.channels.slots i).active = true →
        Intact (s.channels.slots i) (life (slotLog i past)) := by
  obtain ⟨_, ⟨g, hat, -⟩, -⟩ := hw.resting
  refine hat.followed.everywhere (P := fun ch log ↦ ch.active = true → Intact ch (life log)) i
    (fun clock v hv hsuf hact ↦ ?_) fun t ch log h hact ↦ ?_
  · obtain ⟨newer, hlog⟩ := hsuf
    have hno : NoDataAfterEof v.log := (hlog ▸ heof.slotLog i : NoDataAfterEof (newer ++ v.log)).suffix
    have hbound : BoundAllocated v.log := fun x hx ↦
      hat.boundAllocated hrings i x (hlog ▸ List.mem_append_right _ hx)
    have hbal := (streams_of_reach hv (quietReads_of_reach hv hno) hbound).balanced hact
    exact ⟨hbal.remote, hbal.toLocal, usesOwn_of_reach hv hact⟩
  · obtain ⟨h1, h2, h3⟩ := h hact
    refine ⟨?_, fun hno ↦ ?_, fun x hx ↦ h3 x (List.mem_cons_of_mem _ hx)⟩
    · simpa [life, recvOf, writtenOf] using h1
    · simpa [life, readOf, sentOf] using h2 fun x hx ↦ by
        rcases List.mem_cons.1 hx with rfl | hx
        · rfl
        · exact hno x hx

/-! ### A slot at work -/

/-- The channel yields three bytes at a time and the socket one, and the socket takes two. -/
def chattyWorld : Env Call Call.Reply := worldWith 1 fun n c ↦
  match c with
  | .io _ (.channelRead _ k) =>
    if h : 3 ≤ k ∧ n < 40 then some (threeBytes h.1) else none
  | .io _ (.send _ bs) =>
    if h : 2 ≤ bs.length then some (.accepted 2 (by decide) h) else none
  | .io _ (.recv _ k) =>
    if h : 1 ≤ k then some (oneByte h) else none
  | _ => none

/-- A channel is bound and pumped twice. -/
def chattyRun : TunnelWorld := afterManagerOps (smallTunnel 1)
  [(.bindChannel 0 77 {}, chattyWorld), (.pumpAll, chattyWorld), (.pumpAll, chattyWorld)]

theorem run_chattyRun : Run (smallTunnel 1) chattyRun := run_after _

theorem stream_integrity_chattyRun :
    Intact (chattyRun.st.channels.slots 0) (life (slotLog 0 chattyRun.trace)) ∧
      held (chattyRun.st.channels.slots 0).toLocal = [3, 1, 2, 3] ∧
      held (chattyRun.st.channels.slots 0).toRemote = [9, 9, 9] :=
  ⟨(stream_integrity run_chattyRun (by decide +kernel) (by decide +kernel) 0).1 (by decide +kernel),
    by decide +kernel, by decide +kernel⟩

end ReverseTunnel
