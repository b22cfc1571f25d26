import ReverseTunnel.Guarantees.Conservation

/-!
# Retrying a close

libssh2 may answer `EAGAIN` when it is asked to close a channel and when it is asked to free it, and
`finalizeClose` is then called again, in a later pump cycle or from a teardown, while the slot goes
on living in between. The slot remembers how far it has got. So in every lifetime the channel is
freed only after it was closed, neither is asked for again once libssh2 has done it, and what the
slot holds is released once.

A single call is described by `FinalizeResult`, for any world whatever: there was nothing to
release, or nothing has changed but the progress of the slot, or everything has been released.
-/

namespace ReverseTunnel

open Traced Clock32 TunnelM SlotM

variable {p : Params} {ext : Bool} {v v' : View} {w u u' : TunnelWorld} {i : ℕ}

/-! ### What was asked of libssh2 -/

/-- libssh2 has closed `h`. -/
def hasClosed (h : Handle) : SlotItem → Bool
  | .call _ _ _ (.channelClose h') rc => h' = h && rc != errorEagain
  | _ => false

/-- libssh2 has freed `h`. -/
def hasFreed (h : Handle) : SlotItem → Bool
  | .call _ _ _ (.channelFree h') rc => h' = h && rc != errorEagain
  | _ => false

/-- The order of one lifetime: nothing is closed twice, freed before it was closed or freed
twice. -/
def RetriesInOrder (x : SlotItem) (past : SlotLog) : Prop :=
  match x with
  | .call _ _ _ (.channelClose h) _ => ∀ y ∈ life past, hasClosed h y = false
  | .call _ _ _ (.channelFree h) _ =>
    (∃ y ∈ life past, hasClosed h y = true) ∧ ∀ y ∈ life past, hasFreed h y = false
  | _ => True

/-- An entry that neither asks libssh2 to let go of the channel nor begins a lifetime. -/
def keepsChannel : SlotItem → Bool
  | .call _ _ _ (.channelClose _) _ | .call _ _ _ (.channelFree _) _ | .mark _ _ .bound => false
  | _ => true

section KeepsChannel

variable {x : SlotItem} {items : SlotLog}

theorem retriesInOrder_of_keepsChannel (hx : keepsChannel x = true) (past : SlotLog) :
    RetriesInOrder x past := by
  cases x with
  | call id t s c r => cases c <;> first | exact trivial | cases hx
  | mark t s m => exact trivial

theorem not_of_keepsChannel (hx : keepsChannel x = true) (h : Handle) :
    hasClosed h x = false ∧ hasFreed h x = false ∧ isBound x = false := by
  cases x with
  | call id t s c r => cases c <;> first | exact ⟨rfl, rfl, rfl⟩ | cases hx
  | mark t s m => cases m <;> first | exact ⟨rfl, rfl, rfl⟩ | cases hx

theorem PumpStep.keepsChannel (h : PumpStep p ext v v') :
    v'.ch.sshCloseProgress = v.ch.sshCloseProgress ∧
      ∃ items, v'.log = items ++ v.log ∧ ∀ x ∈ items, ReverseTunnel.keepsChannel x = true := by
  cases h with
  | wait ht => exact ⟨rfl, [], rfl, by simp⟩
  | checking hact hopen => exact ⟨rfl, [_], rfl, by simp [ReverseTunnel.keepsChannel]⟩
  | pause ssh loc hact => exact ⟨rfl, [_], rfl, by simp [ReverseTunnel.keepsChannel]⟩
  | rearmSend hset ht => exact ⟨rfl, [_], rfl, by simp [ReverseTunnel.keepsChannel]⟩
  | rearmWrite hset ht => exact ⟨rfl, [_], rfl, by simp [ReverseTunnel.keepsChannel]⟩
  | forwardEof hact hopen hlocal herr hfwd hlog ht =>
    exact ⟨rfl, [_], rfl, by simp [ReverseTunnel.keepsChannel]⟩
  | _ => exact ⟨rfl, [_, _], rfl, by simp [ReverseTunnel.keepsChannel]⟩

end KeepsChannel

/-! ### The invariant -/

/-- How far a slot has got, and how it has got there. -/
structure Retrying (v : View) : Prop where
  /-- In order. -/
  order : History.Always RetriesInOrder v.log
  /-- The slot knows whether its channel was closed. -/
  closed : ∀ h, v.ch.active = true → v.ch.sshChannel = some h →
    v.ch.sshCloseProgress.closeComplete = (life v.log).any (hasClosed h)
  /-- While it is in use, its channel has not been freed. -/
  notFreed : ∀ h, v.ch.active = true → v.ch.sshChannel = some h →
    ∀ y ∈ life v.log, hasFreed h y = false

theorem retrying_fresh (clock : ℕ) : Retrying (.fresh clock) where
  order := trivial
  closed h hact := by cases hact
  notFreed h hact := by cases hact

/-- A slot that is not in use only has its past. -/
theorem retrying_of_inactive (hact : v.ch.active = false)
    (horder : History.Always RetriesInOrder v.log) : Retrying v := by
  refine ⟨horder, fun _ ha ↦ ?_, fun _ ha ↦ ?_⟩ <;>
  · rw [hact] at ha
    cases ha

/-- Entries that leave the channel alone. -/
theorem Retrying.keep (h : Retrying v) {items : SlotLog} (hlog : v'.log = items ++ v.log)
    (hi : ∀ x ∈ items, keepsChannel x = true) (hact : v'.ch.active = v.ch.active)
    (hh : v'.ch.sshChannel = v.ch.sshChannel)
    (hprog : v'.ch.sshCloseProgress = v.ch.sshCloseProgress) : Retrying v' := by
  have hlife : life v'.log = items ++ life v.log := by
    rw [hlog]
    exact life_append fun x hx ↦ (not_of_keepsChannel (hi x hx) 0).2.2
  refine ⟨?_, fun c ha hc ↦ ?_, fun c ha hc y hy ↦ ?_⟩
  · rw [hlog]
    exact h.order.append fun x hx ↦ retriesInOrder_of_keepsChannel (hi x hx)
  · have hnew : items.any (hasClosed c) = false := by
      rw [List.any_eq_false]
      intro x hx
      simp [(not_of_keepsChannel (hi x hx) c).1]
    rw [hprog, hlife, List.any_append, hnew, Bool.false_or]
    exact h.closed c (hact ▸ ha) (hh ▸ hc)
  · rw [hlife, List.mem_append] at hy
    rcases hy with hy | hy
    · exact (not_of_keepsChannel (hi y hy) c).2.1
    · exact h.notFreed c (hact ▸ ha) (hh ▸ hc) y hy

/-- libssh2 was asked to close the channel. -/
theorem Retrying.close (h : Retrying v) {c : Handle} {id t : ℕ} {rc : Int}
    (hact : v.ch.active = true) (hh : v.ch.sshChannel = some c)
    (hnot : v.ch.sshCloseProgress.closeComplete = false) :
    Retrying ((v.call id t (.channelClose c) rc).set
      { v.ch with
        sshCloseProgress := (v.ch.sshCloseProgress.recordCloseResult rc errorEagain).2 }) := by
  have hany : (life v.log).any (hasClosed c) = false := by
    rw [← h.closed c hact hh]
    exact hnot
  refine ⟨⟨fun y hy ↦ ?_, h.order⟩, fun c' _ hc' ↦ ?_, fun c' _ hc' y hy ↦ ?_⟩
  · rw [List.any_eq_false] at hany
    simpa using hany y hy
  · obtain rfl : c = c' := Option.some.inj (hh.symm.trans hc')
    show (v.ch.sshCloseProgress.recordCloseResult rc errorEagain).2.closeComplete =
      (_ :: life v.log).any (hasClosed c)
    rw [List.any_cons, hany, Bool.or_false, Progress.recordCloseResult]
    by_cases hrc : rc = errorEagain
    · rw [if_pos hrc]
      simpa [hasClosed, hrc] using hnot
    · rw [if_neg hrc]
      simp [hasClosed, hrc]
  · rcases List.mem_cons.1 hy with rfl | hy
    · rfl
    · exact h.notFreed c' hact hc' y hy

/-- What may be known when libssh2 is asked to free the channel. -/
theorem Retrying.inOrder_free (h : Retrying v) {c : Handle} {id t : ℕ} {rc : Int}
    (hact : v.ch.active = true) (hh : v.ch.sshChannel = some c)
    (hclosed : v.ch.sshCloseProgress.closeComplete = true) :
    RetriesInOrder (.call id t v.ch (.channelFree c) rc) v.log := by
  refine ⟨?_, h.notFreed c hact hh⟩
  rw [h.closed c hact hh, List.any_eq_true] at hclosed
  exact hclosed

theorem Retrying.work (h : Retrying v) (hw : WorkStep p ext v v') : Retrying v' := by
  cases hw with
  | pump hp =>
    obtain ⟨hprog, items, hlog, hi⟩ := hp.keepsChannel
    exact h.keep hlog hi hp.keeps.active hp.keeps.sshChannel hprog
  | sendEofAgain hact hst hh heof hl hr hagain ht =>
    exact h.keep (show _ = [_, _] ++ _ from rfl) (by simp [keepsChannel]) rfl rfl rfl
  | @sendEof u c id t t' rc hact hst hh heof hl hr hdone ht hflush ht' =>
    obtain ⟨items, hlog, hitems⟩ := hflush.entries t'
    obtain ⟨r, hch, -⟩ := hflush.frame
    have hu : u.ch.active = v.ch.active ∧ u.ch.sshChannel = v.ch.sshChannel ∧
        u.ch.sshCloseProgress = v.ch.sshCloseProgress := by
      rw [hch]
      exact ⟨rfl, rfl, rfl⟩
    -- the request, the reads of the flush and two marks
    have hnew : ∀ x ∈ items, keepsChannel x = true := hitems _ rfl (fun _ _ _ _ ↦ rfl) fun m hm ↦ by
      rcases hm with rfl | rfl <;> rfl
    exact h.keep hlog hnew hu.1 hu.2.1 hu.2.2
  | finalizing hact hst hτ hverdict =>
    exact h.keep (show _ = [_] ++ _ from rfl) (by simp [keepsChannel]) rfl rfl rfl
  | closeChannel hact hh ht hnot => exact h.close hact hh hnot
  | @freeAgain c id t rc hact hh hagain ht hclosed =>
    refine ⟨⟨h.inOrder_free hact hh hclosed, h.order⟩, h.closed, fun c' ha hc' y hy ↦ ?_⟩
    rcases List.mem_cons.1 hy with rfl | hy
    · simp [hasFreed, hagain]
    · exact h.notFreed c' ha hc' y hy

theorem Retrying.step (h : Retrying v) (hs : SlotStep p ext v v') : Retrying v' := by
  cases hs with
  | work hw => exact h.work hw
  | bind hact hfd ht ht' =>
    refine ⟨⟨trivial, trivial, h.order⟩, fun c' _ _ ↦ rfl, fun c' _ _ y hy ↦ ?_⟩
    obtain rfl := List.mem_singleton.1 hy
    rfl
  | @release c id id' t t' t'' rc progress hact hh hdone ht ht' ht'' hclosed =>
    have hfree : RetriesInOrder (.call id t v.ch (.channelFree c) rc) v.log :=
      h.inOrder_free hact hh hclosed
    refine retrying_of_inactive rfl ?_
    rw [View.shut, View.discarded, View.socketClosed]
    split
    · exact ⟨trivial, trivial, hfree, h.order⟩
    · exact ⟨trivial, hfree, h.order⟩
  | abandon hact ht =>
    refine retrying_of_inactive rfl ?_
    rw [View.dropped, View.socketClosed]
    split
    · exact ⟨trivial, trivial, h.order⟩
    · exact ⟨trivial, h.order⟩

theorem Run.retrying (hw : Run p w) (i : ℕ) : Retrying (slotView i w) :=
  hw.followed.invariant retrying_fresh (fun _ _ _ h hs ↦ h.step hs) i

/-! ### A single call -/

/-- From `v` to `v'` libssh2 was asked to let go of the channel, and nothing has changed but the
progress; `n` of the requests freed it. -/
structure Asks (v v' : View) (n : ℕ) : Prop where
  /-- What has changed. -/
  ch : ∃ progress, v'.ch = { v.ch with sshCloseProgress := progress }
  /-- What was done. -/
  log : ∃ items, v'.log = items ++ v.log ∧
    (∀ h, v.ch.sshChannel = some h → items.countP (hasFreed h) = n) ∧
    ∀ x ∈ items, (∀ fd, closes fd x = false) ∧ isReleased x = false

theorem Asks.refl (v : View) : Asks v v 0 :=
  ⟨⟨_, rfl⟩, [], rfl, fun _ _ ↦ rfl, by simp⟩

theorem Asks.trans {n n' : ℕ} {v'' : View} (h : Asks v v' n) (h' : Asks v' v'' n') :
    Asks v v'' (n' + n) := by
  obtain ⟨⟨progress, hch⟩, items, hlog, hfree, hquiet⟩ := h
  obtain ⟨⟨progress', hch'⟩, items', hlog', hfree', hquiet'⟩ := h'
  refine ⟨⟨progress', by rw [hch', hch]⟩, items' ++ items, by rw [hlog', hlog, List.append_assoc],
    fun c hc ↦ ?_, fun x hx ↦ ?_⟩
  · rw [List.countP_append, hfree c hc, hfree' c (by rw [hch]; exact hc)]
  · rcases List.mem_append.1 hx with hx | hx
    · exact hquiet' x hx
    · exact hquiet x hx

section Requests

variable {base : SlotLog} {l : SlotWorld} {h : Handle}

variable (base) in
/-- After the close stage the channel is closed, or close is to be retried. -/
theorem wp_closeStage_asks :
    wp (closeStage h) (fun closed l' ↦ Asks (view base l) (view base l') 0 ∧
      (closed = true → l'.st.ch.sshCloseProgress.closeComplete = true)) l := by
  rw [closeStage, wp_slot_bind]
  refine wp_ite (fun hdone ↦ wp_pure ⟨Asks.refl _, fun _ ↦ hdone⟩) fun _ ↦ ?_
  refine wp_call_bind fun rc t ht ↦ ?_
  rw [wp_modifySlot_bind]
  refine wp_pure ⟨⟨⟨_, rfl⟩, [_], rfl, fun _ _ ↦ rfl, ?_⟩, fun hclosed ↦ ?_⟩
  · simp [closes, isReleased, toSlotItem]
  · simp only [Progress.recordCloseResult] at hclosed ⊢
    split at hclosed
    · cases hclosed
    · next hne => simp [hne]

variable (base) in
/-- The free stage frees a closed channel once, or it is to be retried. -/
theorem wp_freeStage_asks (hh : l.st.ch.sshChannel = some h)
    (hclosed : l.st.ch.sshCloseProgress.closeComplete = true) :
    wp (freeStage h) (fun freed l' ↦ Asks (view base l) (view base l') freed.toNat ∧
      (freed = true → l'.st.ch.sshCloseProgress.readyForFinalize = true)) l := by
  have hready : l.st.ch.sshCloseProgress.readyForFree = true := hclosed
  rw [freeStage, wp_slot_bind, if_pos hready]
  refine wp_call_bind fun rc t ht ↦ ?_
  rw [wp_modifySlot_bind]
  refine wp_pure ⟨⟨⟨_, rfl⟩, [_], rfl, fun c hc ↦ ?_, ?_⟩, fun hfreed ↦ ?_⟩
  · obtain rfl : h = c := Option.some.inj (hh.symm.trans hc)
    by_cases hrc : rc = errorEagain <;>
      simp [hasFreed, toSlotItem, Progress.recordFreeResult, hrc]
  · simp [closes, isReleased, toSlotItem]
  · simp only [Progress.recordFreeResult] at hfreed ⊢
    split at hfreed
    · cases hfreed
    · next hne => simp [hne, Progress.readyForFinalize, hclosed]

/-- Either the channel has been freed once and is no longer in the slot, or it is still there. -/
def LetGo (v : View) (freed : Bool) (v' : View) : Prop :=
  ∃ u, Asks v u freed.toNat ∧ v' = if freed then u.set { u.ch with sshChannel := none } else u

variable (base) in
theorem wp_releaseChannel_letGo :
    wp releaseChannel (fun freed l' ↦ LetGo (view base l) freed (view base l')) l := by
  rw [releaseChannel, wp_slot_bind]
  split
  · next hnone =>
    -- a slot without a channel has nothing to be freed
    refine wp_pure ⟨view base l, ⟨⟨_, rfl⟩, [], rfl, fun c hc ↦ ?_, by simp⟩, ?_⟩
    · rw [view_ch, hnone] at hc
      cases hc
    · rw [if_pos rfl]
      show view base l = ⟨{ l.st.ch with sshChannel := none }, _, _⟩
      rw [← hnone]
      rfl
  · next h hh =>
    refine wp_bind (wp_mono (wp_closeStage_asks base) fun closed l₁ hl₁ ↦ ?_)
    obtain ⟨h₁, hclosed⟩ := hl₁
    have hkept : ∀ {l'}, Asks (view base l) (view base l') 0 → l'.st.ch.sshChannel = some h := by
      rintro l' ⟨⟨progress, hch⟩, -⟩
      rw [← view_ch base l', hch]
      exact hh
    refine wp_ite (fun _ ↦ wp_pure ⟨_, h₁, rfl⟩) fun hc ↦ ?_
    have hc := hclosed (by simpa using hc)
    refine wp_bind (wp_mono (wp_freeStage_asks base (hkept h₁) hc) fun freed l₂ hl₂ ↦ ?_)
    obtain ⟨h₂, hready⟩ := hl₂
    cases freed with
    | false => exact wp_pure ⟨_, h₁.trans h₂, rfl⟩
    | true =>
      refine wp_ite (fun hno ↦ by cases hno) fun _ ↦ ?_
      rw [wp_slot_bind]
      refine wp_ite (fun hno ↦ ?_) fun _ ↦ ?_
      · rw [hready rfl] at hno
        cases hno
      · rw [wp_modifySlot_bind]
        exact wp_pure ⟨view base l₂, h₁.trans h₂, rfl⟩

/-- The slot without its socket and its rings. -/
def ChannelSlot.discarded (ch : ChannelSlot) : ChannelSlot :=
  { ch.accountResidual with
    localSocket := if 0 ≤ ch.localSocket then -1 else ch.localSocket
    toLocal := none
    toRemote := none }

theorem ChannelSlot.discarded_of_nonneg {ch : ChannelSlot} (h : 0 ≤ ch.localSocket) :
    ch.discarded =
      { ch.accountResidual with localSocket := -1, toLocal := none, toRemote := none } := by
  rw [discarded, if_pos h]

theorem ChannelSlot.discarded_of_neg {ch : ChannelSlot} (h : ¬0 ≤ ch.localSocket) :
    ch.discarded = { ch.accountResidual with toLocal := none, toRemote := none } := by
  rw [discarded, if_neg h]
  rfl

/-- From `v` to `v'` socket and rings were released, once. -/
structure Discards (v v' : View) : Prop where
  /-- What has changed. -/
  ch : v'.ch = v.ch.discarded
  /-- What was done. -/
  log : ∃ items, v'.log = items ++ v.log ∧ (∀ c, items.countP (hasFreed c) = 0) ∧
    items.countP isReleased = 1 ∧
    (0 ≤ v.ch.localSocket → items.countP (closes v.ch.localSocket) = 1)

variable (base) in
theorem wp_discardLocal_discards :
    wp discardLocal (fun _ l' ↦ Discards (view base l) (view base l')) l := by
  rw [discardLocal, closeLocalSocket, wp_bind_assoc, wp_slot_bind]
  split
  · next hfd =>
    rw [wp_bind_assoc]
    refine wp_call_bind fun r t ht ↦ ?_
    rw [wp_modifySlot_bind, wp_modifySlot_bind, wp_modifySlot_bind]
    refine wp_mark ⟨(ChannelSlot.discarded_of_nonneg hfd).symm, [_, _], rfl, fun c ↦ rfl, rfl,
      fun _ ↦ ?_⟩
    simp [closes, toSlotItem]
  · next hfd =>
    rw [wp_pure_bind, wp_modifySlot_bind, wp_modifySlot_bind]
    exact wp_mark ⟨(ChannelSlot.discarded_of_neg hfd).symm, [_], rfl, fun c ↦ rfl, rfl,
      fun hno ↦ absurd hno hfd⟩

end Requests

/-- The slot as `finalizeClose` leaves it at time `t`. -/
def ChannelSlot.finalized (ch : ChannelSlot) (progress : Progress) (t : ℕ) : ChannelSlot :=
  { ch.discarded with
    sshChannel := none
    sshCloseProgress := progress
    active := false
    state := .closed
    lastFinalizeMs := stamp t }

/-- What a call of `finalizeClose` in the world `u` may return and leave. -/
inductive FinalizeResult (p : Params) (slotIndex : Int) (u : TunnelWorld) :
    Bool → TunnelWorld → Prop
  /-- There is nothing to release, and nothing happens. -/
  | idle (hidle : ∀ i : ℕ, slotIndex = i → i < p.maxSlots →
      (u.st.channels.slots i).active = false) : FinalizeResult p slotIndex u true u
  /-- libssh2 is to be asked again. Nothing has changed but the progress of the slot. -/
  | again {i : ℕ} {u' : TunnelWorld} {progress : Progress} (hi : slotIndex = i)
      (hlt : i < p.maxSlots) (hact : (u.st.channels.slots i).active = true)
      (hch : u'.st.channels = { u.st.channels with
        slots := Function.update u.st.channels.slots i
          { u.st.channels.slots i with sshCloseProgress := progress } }) :
      FinalizeResult p slotIndex u false u'
  /-- Everything the slot holds is released, each thing once. -/
  | released {i : ℕ} {u' : TunnelWorld} {progress : Progress} {t : ℕ} {items : SlotLog}
      (hi : slotIndex = i) (hlt : i < p.maxSlots) (hact : (u.st.channels.slots i).active = true)
      (hch : u'.st.channels = { u.st.channels with
        slots := Function.update u.st.channels.slots i
          ((u.st.channels.slots i).finalized progress t)
        activeCount := u.st.channels.activeCount - 1
        completedBytesReceived := u.st.channels.completedBytesReceived +
          (u.st.channels.slots i).totalBytesReceived
        completedBytesSent := u.st.channels.completedBytesSent +
          (u.st.channels.slots i).totalBytesSent
        completedBytesDropped := u.st.channels.completedBytesDropped +
          (u.st.channels.slots i).accountResidual.totalBytesDropped })
      (hlog : slotLog i u'.trace = items ++ slotLog i u.trace)
      (hfree : ∀ h, (u.st.channels.slots i).sshChannel = some h → items.countP (hasFreed h) = 1)
      (hsocket : 0 ≤ (u.st.channels.slots i).localSocket →
        items.countP (closes (u.st.channels.slots i).localSocket) = 1)
      (hrel : items.countP isReleased = 1) : FinalizeResult p slotIndex u true u'

/-- The slots after work on one of them. -/
theorem SlotMove.slots (hm : SlotMove i w w') {ch : ChannelSlot}
    (hch : w'.st.channels.slots i = ch) :
    w'.st.channels.slots = Function.update w.st.channels.slots i ch := by
  funext j
  by_cases hj : j = i
  · subst hj
    rw [hch, Function.update_self]
  · rw [Function.update_of_ne hj]
    exact congrArg (·.ch) (hm.view_eq j hj)

/-- The channel manager after work on one slot that leaves the counters alone. -/
theorem SlotMove.channels (hm : SlotMove i w w') (hc : SameCounters w w') {ch : ChannelSlot}
    (hch : w'.st.channels.slots i = ch) :
    w'.st.channels =
      { w.st.channels with slots := Function.update w.st.channels.slots i ch } := by
  have hslots := hm.slots hch
  have hbreaker := hm.breaker
  obtain ⟨hcount, hreceived, hsent, hdropped⟩ := hc
  generalize w'.st.channels = c at *
  cases c
  subst hslots hbreaker hcount hreceived hsent hdropped
  rfl

/-- The call is described by `FinalizeResult`, in any world and for any index. -/
theorem wp_finalizeClose_result (u : TunnelWorld) (slotIndex : Int) :
    wp (finalizeClose p slotIndex) (FinalizeResult p slotIndex u) u := by
  rw [finalizeClose]
  refine wp_ite (fun hout ↦ wp_pure (.idle fun i hi hlt ↦ ?_)) fun hrange ↦ ?_
  · simp only [Bool.or_eq_true, decide_eq_true_eq] at hout
    omega
  obtain ⟨i, rfl⟩ : ∃ i : ℕ, slotIndex = i := ⟨slotIndex.toNat, by
    simp only [Bool.or_eq_true, decide_eq_true_eq, not_or, Int.not_lt] at hrange
    omega⟩
  have hlt := toNat_lt_of_inRange hrange
  rw [Int.toNat_natCast] at hlt ⊢
  rw [wp_getSlot_bind]
  refine wp_ite (fun hno ↦ wp_pure (.idle fun j hj _ ↦ ?_)) fun hact ↦ ?_
  · obtain rfl : i = j := by omega
    simpa using hno
  have hact : (u.st.channels.slots i).active = true := by simpa using hact
  -- what is asked of libssh2 is in the log of the slot, and the socket is not in it yet
  refine wp_bind (wp_mono (wp_onSlot_view (P := LetGo (slotView i u))
    (wp_releaseChannel_letGo (slotLog i u.trace) (l := slotWorld i u))) ?_)
  rintro freed u₁ ⟨hm₁, hc₁, v, ⟨⟨progress, hv⟩, items₁, hlog₁, hfree₁, hquiet₁⟩, hv₁⟩
  cases freed with
  | false =>
    have hch₁ : u₁.st.channels.slots i =
        { u.st.channels.slots i with sshCloseProgress := progress } :=
      (congrArg (·.ch) hv₁).trans hv
    exact wp_pure (.again rfl hlt hact (hm₁.channels hc₁ hch₁))
  | true =>
    refine wp_ite (fun hno ↦ by cases hno) fun _ ↦ ?_
    have hch₁ : u₁.st.channels.slots i =
        { u.st.channels.slots i with sshCloseProgress := progress, sshChannel := none } := by
      rw [← slotView_ch, hv₁, if_pos rfl, View.set_ch, hv]
      rfl
    have hlog₁ : slotLog i u₁.trace = items₁ ++ slotLog i u.trace := by
      rw [← slotView_log, hv₁, if_pos rfl, View.set_log, hlog₁]
      rfl
    refine wp_bind (wp_mono (wp_onSlot_view (P := fun _ ↦ Discards (slotView i u₁))
      (wp_discardLocal_discards (slotLog i u₁.trace) (l := slotWorld i u₁))) ?_)
    rintro _ u₂ ⟨hm₂, hc₂, hch₂, items₂, hlog₂, hfree₂, hrel₂, hsocket₂⟩
    rw [slotView_ch, slotView_ch, hch₁] at hch₂
    rw [slotView_ch, hch₁] at hsocket₂
    have hchannels₂ := hm₂.channels hc₂ hch₂
    rw [hm₁.channels hc₁ hch₁] at hchannels₂
    rw [archiveSlotStats, modifyChannels, wp_modify_bind]
    refine wp_bind (wp_onSlot ?_)
    rw [closeSlot, wp_modifySlot_bind]
    refine wp_millis_bind fun t ht ↦ wp_modify ?_
    rw [modifyChannels, wp_modify_bind]
    refine wp_pure (@FinalizeResult.released p i u i _ progress t (items₂ ++ items₁) rfl hlt hact
      ?_ ?_ (fun c hc ↦ ?_) (fun hfd ↦ ?_) ?_)
    · -- three changes of the slot, seen as one
      simp only [lift, SSHTunnel.setCtx, slotWorld, SSHTunnel.ctx, World.update_st, World.wait_st,
        hchannels₂, Function.update_idem, Function.update_self]
      rfl
    · show slotLog i u₂.trace = _
      rw [← slotView_log, hlog₂, List.append_assoc, ← hlog₁]
      rfl
    · rw [List.countP_append, hfree₂, hfree₁ c hc]
      rfl
    · rw [List.countP_append, hsocket₂ hfd, List.countP_eq_zero.2]
      intro x hx
      simp [(hquiet₁ x hx).1]
    · rw [List.countP_append, hrel₂, List.countP_eq_zero.2]
      intro x hx
      simp [(hquiet₁ x hx).2]

/-! ### The protocol -/

/-- **Retrying a close.** In every run: what is asked of libssh2 for a slot is in order, every
lifetime is released at most once, a slot that has been released since it was bound answers at once,
and every single call leaves what `FinalizeResult` says. -/
theorem finalizeClose_protocol (hw : Run p w) (i : ℕ) :
    History.Always RetriesInOrder (slotLog i w.trace) ∧
    History.Always (fun x past ↦ isReleased x = true → ∀ y ∈ life past, isReleased y = false)
      (slotLog i w.trace) ∧
    ((∃ y ∈ life (slotLog i w.trace), isReleased y = true) →
      wp (finalizeClose p i) (fun done w' ↦ done = true ∧ w' = w) w) ∧
    ∀ u slotIndex, wp (finalizeClose p slotIndex) (FinalizeResult p slotIndex u) u := by
  obtain ⟨clock, hr⟩ := hw.followed
  have honce := releasedOnce_of_reach (hr i)
  refine ⟨(hw.retrying i).order, honce.ended, ?_, wp_finalizeClose_result⟩
  rintro ⟨y, hy, hyr⟩
  have hidle : ¬(w.st.channels.slots i).active = true := by
    intro hact
    have := honce.alive hact y hy
    rw [hyr] at this
    cases this
  refine wp_mono (wp_finalizeClose_result w i) fun done w' hres ↦ ?_
  cases hres with
  | idle => exact ⟨rfl, rfl⟩
  | again hi hlt hact hch =>
    obtain rfl := Int.natCast_inj.1 hi
    exact absurd hact hidle
  | released hi hlt hact hch hlog hfree hsocket hrel =>
    obtain rfl := Int.natCast_inj.1 hi
    exact absurd hact hidle

/-- libssh2 is not ready to close a channel. -/
def closeAgainWorld : Env Call Call.Reply := worldWith 1 fun _ c ↦
  match c with
  | .io _ (.channelClose _) => some errorEagain
  | _ => none

/-- libssh2 is not ready to free a channel. -/
def freeAgainWorld : Env Call Call.Reply := worldWith 1 fun _ c ↦
  match c with
  | .io _ (.channelFree _) => some errorEagain
  | _ => none

/-- A channel is bound and closed in three attempts, with a pump cycle in between. -/
def stubbornRun : TunnelWorld := afterManagerOps (smallTunnel 1)
  [(.bindChannel 0 77 {}, closeAgainWorld), (.finalizeClose 0, closeAgainWorld),
    (.finalizeClose 0, freeAgainWorld), (.pumpAll, freeAgainWorld),
    (.finalizeClose 0, closeAgainWorld)]

theorem run_stubbornRun : Run (smallTunnel 1) stubbornRun := run_after _

theorem finalizeClose_protocol_stubbornRun :
    History.Always RetriesInOrder (slotLog 0 stubbornRun.trace) ∧
      (slotLog 0 stubbornRun.trace).countP (hasFreed 77) = 1 ∧
      (life (slotLog 0 stubbornRun.trace)).any isReleased = true :=
  ⟨(finalizeClose_protocol run_stubbornRun 0).1, by decide +kernel, by decide +kernel⟩

end ReverseTunnel
