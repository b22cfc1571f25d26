import ReverseTunnel.Lifetime.Closing

/-!
# Which calls a slot makes

Work on a slot goes to its own channel and its own socket, and neither frees the one nor closes the
other. Taking the slot out of use closes its socket, once.
-/

namespace ReverseTunnel

open Traced Clock32

/-- The local socket a call is about, if any. -/
def IoCall.socket : IoCall → Option Int
  | send fd _ | recv fd _ | shutdown fd | closeSocket fd => some fd
  | channelRead _ _ | channelWrite _ _ | channelEof _ | channelSendEof _ | channelSetBlocking _
  | channelClose _ | channelFree _ => none

/-- A log entry that work on the slot `ch` may leave: it uses the channel and the socket of `ch` and
keeps both. -/
def OwnItem (ch : ChannelSlot) : SlotItem → Prop
  | .call _ _ _ (.channelFree h) rc => ch.sshChannel = some h ∧ rc = errorEagain
  | .call _ _ _ (.closeSocket _) _ => False
  | .call _ _ _ (.channelSetBlocking _) _ => False
  | .call _ _ _ c _ => (∀ h, c.handle = some h → ch.sshChannel = some h) ∧
      ∀ fd, c.socket = some fd → ch.localSocket = fd
  | .mark _ _ .bound => False
  | .mark _ _ .released => False
  | .mark _ _ _ => True

variable {p : Params} {ext : Bool} {v v' : View}

/-- From `v` to `v'` the log has grown by entries of the slot's own. -/
def OwnLog (v v' : View) : Prop := ∃ items, v'.log = items ++ v.log ∧ ∀ x ∈ items, OwnItem v.ch x

theorem OwnLog.refl (v : View) : OwnLog v v := ⟨[], rfl, by simp⟩

theorem OwnItem.of_retains {ch ch' : ChannelSlot} {x : SlotItem} (hk : Retains ch ch')
    (h : OwnItem ch' x) : OwnItem ch x := by
  cases x with
  | call id t s c r => cases c <;> simp only [OwnItem, hk.sshChannel, hk.localSocket] at h ⊢ <;> exact h
  | mark t s m => cases m <;> exact h

theorem OwnLog.trans {v'' : View} (h : OwnLog v v') (hk : Retains v.ch v'.ch)
    (h' : OwnLog v' v'') : OwnLog v v'' := by
  obtain ⟨items, hl, hi⟩ := h
  obtain ⟨items', hl', hi'⟩ := h'
  refine ⟨items' ++ items, by rw [hl', hl, List.append_assoc], fun x hx ↦ ?_⟩
  rcases List.mem_append.1 hx with hx | hx
  · exact (hi' x hx).of_retains hk
  · exact hi x hx

theorem PumpStep.ownLog (h : PumpStep p ext v v') : OwnLog v v' := by
  cases h with
  | wait ht => exact ⟨[], rfl, by simp⟩
  | checking hact hopen => exact ⟨[_], rfl, by simp [OwnItem]⟩
  | pause ssh loc hact => exact ⟨[_], rfl, by simp [OwnItem]⟩
  | rearmSend hset ht => exact ⟨[_], rfl, by simp [OwnItem]⟩
  | rearmWrite hset ht => exact ⟨[_], rfl, by simp [OwnItem]⟩
  | forwardEof hact hopen hlocal herr hfwd hlog ht =>
    exact ⟨[_], rfl, by simp [OwnItem, IoCall.handle, IoCall.socket]⟩
  | begin hact hopen hcause ht => exact ⟨[_, _], rfl, by simp [OwnItem]⟩
  | pumpRead hact hh heof ht =>
    exact ⟨[_, _], rfl, by simp [OwnItem, IoCall.handle, IoCall.socket, hh]⟩
  | readAgain hact hh hagain ht =>
    exact ⟨[_, _], rfl, by simp [OwnItem, IoCall.handle, IoCall.socket, hh]⟩
  | readEof hact hh hzero ht =>
    exact ⟨[_, _], rfl, by simp [OwnItem, IoCall.handle, IoCall.socket, hh]⟩
  | readError hact hh hzero hagain ht =>
    exact ⟨[_, _], rfl, by simp [OwnItem, IoCall.handle, IoCall.socket, hh]⟩
  | eofFlag hact hh heof ht =>
    exact ⟨[_, _], rfl, by simp [OwnItem, IoCall.handle, IoCall.socket, hh]⟩
  | readData hact hh heof hb hb' ht ht' =>
    exact ⟨[_, _], rfl, by simp [OwnItem, IoCall.handle, IoCall.socket, hh]⟩
  | sendData hact hfd hb hbs hb' hshape ht ht' =>
    exact ⟨[_, _], rfl, by simp [OwnItem, IoCall.handle, IoCall.socket]⟩
  | sendFail hact hfd hb hbs hb' hhard ht =>
    exact ⟨[_, _], rfl, by simp [OwnItem, IoCall.handle, IoCall.socket]⟩
  | sendBusy hact hfd hb hb'' hr ht ht' hfirst =>
    exact ⟨[_, _], rfl, by simp [OwnItem, IoCall.handle, IoCall.socket]⟩
  | writeData hact hh heof hb hbs hb' hshape ht ht' =>
    exact ⟨[_, _], rfl, by simp [OwnItem, IoCall.handle, IoCall.socket, hh]⟩
  | writeBusy hact hh heof hb hb'' hagain ht ht' hfirst =>
    exact ⟨[_, _], rfl, by simp [OwnItem, IoCall.handle, IoCall.socket, hh]⟩
  | writeError hact hh heof hb hb'' hagain ht =>
    exact ⟨[_, _], rfl, by simp [OwnItem, IoCall.handle, IoCall.socket, hh]⟩
  | recvData hact hfd heof hb hb' ht ht' =>
    exact ⟨[_, _], rfl, by simp [OwnItem, IoCall.handle, IoCall.socket]⟩
  | recvEnd hact hfd heof hr ht =>
    exact ⟨[_, _], rfl, by simp [OwnItem, IoCall.handle, IoCall.socket]⟩
  | recvBusy hact hfd heof hbusy ht =>
    exact ⟨[_, _], rfl, by simp [OwnItem, IoCall.handle, IoCall.socket]⟩

theorem Flush.retains {h : Handle} {n : ℕ} (hf : Flush h n v v') : Retains v.ch v'.ch := by
  obtain ⟨r, hch, -⟩ := hf.frame
  rw [hch]
  exact ⟨rfl, rfl, rfl⟩

theorem Flush.ownLog {h : Handle} {n : ℕ} (hf : Flush h n v v') (hh : v.ch.sshChannel = some h) :
    OwnLog v v' := by
  induction hf with
  | done => exact OwnLog.refl _
  | stop ht => exact ⟨[_], rfl, by simp [OwnItem, IoCall.handle, IoCall.socket, hh]⟩
  | @more v v' n id t bs hpos hle b b' ht hb hshape hb' hrest ih =>
    have hfirst : OwnLog v ((v.call id t (.channelRead h 512) (.data bs hpos hle)).set
        { v.ch with toLocal := some b' }) :=
      ⟨[_], rfl, by simp [OwnItem, IoCall.handle, IoCall.socket, hh]⟩
    exact hfirst.trans ⟨rfl, rfl, rfl⟩ (ih hh)

theorem WorkStep.ownLog (h : WorkStep p ext v v') : OwnLog v v' := by
  cases h with
  | pump h => exact h.ownLog
  | sendEofAgain hact hst hh heof hl hr hagain ht =>
    exact ⟨[_, _], rfl, by simp [OwnItem, IoCall.handle, IoCall.socket, hh]⟩
  | @sendEof u h id t t' rc hact hst hh heof hl hr hdone ht hflush ht' =>
    have hsent : OwnLog v (v.call id t (.channelSendEof h) rc) :=
      ⟨[_], rfl, by simp [OwnItem, IoCall.handle, IoCall.socket, hh]⟩
    have hflushed := hsent.trans ⟨rfl, rfl, rfl⟩ (hflush.ownLog hh)
    have hk := hflush.retains
    refine hflushed.trans hk ⟨[_, _], rfl, by simp [OwnItem]⟩
  | finalizing hact hst hτ hverdict => exact ⟨[_], rfl, by simp [OwnItem]⟩
  | closeChannel hact hh ht =>
    exact ⟨[_], rfl, by simp [OwnItem, IoCall.handle, IoCall.socket, hh]⟩
  | freeAgain hact hh hagain ht => exact ⟨[_], rfl, by simp [OwnItem, hh, hagain]⟩

theorem Works.ownLog (h : Works p ext v v') : OwnLog v v' := by
  induction h with
  | refl => exact OwnLog.refl _
  | tail hw hs ih => exact ih.trans (Works.retains hw) hs.ownLog

/-! ### Closing the socket -/

/-- The socket `fd` is closed. -/
def closes (fd : Int) : SlotItem → Bool
  | .call _ _ _ (.closeSocket fd') _ => fd' = fd
  | _ => false

theorem closes_of_ownItem {ch : ChannelSlot} {x : SlotItem} (fd : Int) (h : OwnItem ch x) :
    closes fd x = false := by
  cases x with
  | call id t s c r =>
    cases c with
    | closeSocket fd' => exact h.elim
    | _ => rfl
  | mark t s m => rfl

theorem OwnLog.countP_closes (h : OwnLog v v') (fd : Int) :
    v'.log.countP (closes fd) = v.log.countP (closes fd) := by
  obtain ⟨items, hl, hi⟩ := h
  rw [hl, List.countP_append, List.countP_eq_zero.2, Nat.zero_add]
  intro x hx
  rw [closes_of_ownItem fd (hi x hx)]
  simp

/-- While a slot goes out of use, its socket is closed once and no other is closed. -/
theorem Retires.closes_once (hs : Sound p v) (h : Retires p ext v v') :
    Sound p v' ∧ (v.ch.active = true →
      (v'.ch.active = true → v'.ch.localSocket = v.ch.localSocket) ∧
      v'.log.countP (closes v.ch.localSocket) + v'.ch.active.toNat =
        v.log.countP (closes v.ch.localSocket) + 1) := by
  induction h with
  | refl => exact ⟨hs, fun hact ↦ ⟨fun _ ↦ rfl, by simp [hact]⟩⟩
  | @tail u u' hr hstep ih =>
    obtain ⟨hsu, ih⟩ := ih
    refine ⟨hsu.step hstep.1, fun hact ↦ ?_⟩
    obtain ⟨hfd, hcount⟩ := ih hact
    cases hstep.1 with
    | work hw =>
      have hk := hw.retains
      rw [hw.ownLog.countP_closes, hk.active]
      exact ⟨fun hact' ↦ hk.localSocket.trans (hfd hact'), hcount⟩
    | bind hdead hfd' ht ht' =>
      have hact' := hstep.2 rfl
      rw [hdead] at hact'
      cases hact'
    | @release h id id' t t' t'' rc progress hact' hh hdone ht ht' ht'' =>
      have hfd' := hfd hact'
      have hpos : 0 ≤ (u.freed h rc progress id t).ch.localSocket := (hsu.alive hact').localSocket
      refine ⟨fun hno ↦ (by cases hno), ?_⟩
      rw [hact'] at hcount
      rw [View.shut, View.discarded, View.socketClosed_of_le hpos]
      simpa [closes, View.freed, hfd', List.countP_cons, Bool.toNat_true] using hcount
    | abandon hact' ht =>
      have hfd' := hfd hact'
      have hpos : 0 ≤ (u.set u.ch.accountResidual).ch.localSocket := (hsu.alive hact').localSocket
      refine ⟨fun hno ↦ (by cases hno), ?_⟩
      rw [hact'] at hcount
      rw [View.dropped, View.socketClosed_of_le hpos]
      simpa [closes, ChannelSlot.accountResidual, ChannelSlot.reset, hfd', List.countP_cons,
        Bool.toNat_true] using hcount

end ReverseTunnel
