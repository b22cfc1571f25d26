import ReverseTunnel.System.Trace

/-!
# Forwarding the remote EOF to the local side

`checkCloses` forwards the remote EOF by `shutdown(localSocket, SHUT_WR)`. What the guard tests is
`toRemote`, the ring of the other direction, so bytes may still wait in `toLocal` when the socket is
shut down for writing. Whether the EOF comes after the data depends on the local socket alone: in the
cycle in which the EOF is forwarded it has to take all that waited for it before, and all that the
channel yields until then.
-/

namespace ReverseTunnel

open Traced TunnelM Clock32

variable {p : Params} {ext : Bool} {v v' : View} {w : TunnelWorld} {items log : SlotLog}

/-- The local socket is shut down for writing. -/
def shutsDown : SlotItem → Bool
  | .call _ _ _ (.shutdown _) _ => true
  | _ => false

/-- Step 1 of `checkCloses` forwards the remote EOF when it finds the slot like this. -/
def ChannelSlot.endsLocal (ch : ChannelSlot) : Bool :=
  ch.active && ch.state = .open && !ch.localEof && ch.consecutiveErrors ≤ 5 && ch.forwardsEof

/-- Step 1 of `checkCloses` looks at the slot. -/
def isVisit : SlotItem → Bool
  | .mark _ _ .checking => true
  | _ => false

/-- The bytes that a read has put into `toLocal`. After the remote EOF they are not kept. -/
def keptOf : SlotItem → List UInt8
  | .call _ _ s (.channelRead _ _) (.data bs _ _) => if s.remoteEof then [] else bs
  | _ => []

/-- The present cycle: what was done with the slot since the last visit, or since it was bound. -/
def sinceVisit (log : SlotLog) : SlotLog := log.takeWhile fun x ↦ !isVisit x && !isBound x

/-- How many bytes waited for the local side at the last visit. A slot that was bound since then has
none. -/
def waitedAt : SlotLog → ℕ
  | [] => 0
  | x :: past =>
    if isVisit x then (held x.pre.toLocal).length else if isBound x then 0 else waitedAt past

/-- In every cycle at whose end the remote EOF is to be forwarded, `send` accepts as many bytes as waited
before it and are read in it. -/
def KeepsUp (log : SlotLog) : Prop :=
  History.Always (fun x past ↦ isVisit x = true → x.pre.endsLocal = true →
    waitedAt past + (bytesOf keptOf (sinceVisit past)).length ≤
      (bytesOf sentOf (sinceVisit past)).length) log

instance (log : SlotLog) : Decidable (KeepsUp log) :=
  inferInstanceAs (Decidable (History.Always _ log))

/-- A log in which the EOF is forwarded after the data: nothing waits for the local side, and, unless
`send` has failed, everything that was read has been sent. -/
structure EofAfterData (log : SlotLog) : Prop where
  /-- `toLocal` is empty. -/
  drained : History.Always (fun x _ ↦ shutsDown x = true → held x.pre.toLocal = []) log
  /-- Everything has been delivered. -/
  delivered : NoDataAfterEof log → History.Always (fun x past ↦ shutsDown x = true →
    (∀ y ∈ life past, hardSendError y = false) →
      bytesOf readOf (life past) = bytesOf sentOf (life past)) log

/-! ### Where the shutdown comes from -/

/-- The slot as step 1 of `checkCloses` has just found it, with the guard satisfied. -/
structure Forwarding (ch : ChannelSlot) (past : SlotLog) : Prop where
  /-- In use. -/
  active : ch.active = true
  /-- Open. -/
  «open» : ch.state = .open
  /-- The local side is not done. -/
  localEof : ch.localEof = false
  /-- Not broken. -/
  errors : ch.consecutiveErrors ≤ 5
  /-- The guard. -/
  guard : ch.forwardsEof = true
  /-- The visit. -/
  visit : ∃ t older, past = .mark t ch .checking :: older

/-- Only step 1 of `checkCloses` shuts the socket down. -/
theorem WorkStep.shutsDown (h : WorkStep p ext v v') :
    (∃ items, v'.log = items ++ v.log ∧ ∀ x ∈ items, shutsDown x = false) ∨
      Forwarding v.ch v.log ∧ ∃ id t fd r, v'.log = .call id t v.ch (.shutdown fd) r :: v.log := by
  cases h with
  | pump h =>
    cases h with
    | wait ht => exact .inl ⟨[], rfl, by simp⟩
    | forwardEof hact hopen hlocal herr hfwd hlog ht =>
      exact .inr ⟨⟨hact, hopen, hlocal, herr, hfwd, _, _, hlog⟩, _, _, _, _, rfl⟩
    | checking hact hopen => exact .inl ⟨[_], rfl, by simp [ReverseTunnel.shutsDown]⟩
    | pause ssh loc hact => exact .inl ⟨[_], rfl, by simp [ReverseTunnel.shutsDown]⟩
    | rearmSend hset ht => exact .inl ⟨[_], rfl, by simp [ReverseTunnel.shutsDown]⟩
    | rearmWrite hset ht => exact .inl ⟨[_], rfl, by simp [ReverseTunnel.shutsDown]⟩
    | _ => exact .inl ⟨[_, _], rfl, by simp [ReverseTunnel.shutsDown]⟩
  | sendEofAgain hact hst hh heof hl hr hagain ht =>
    exact .inl ⟨[_, _], rfl, by simp [ReverseTunnel.shutsDown]⟩
  | @sendEof u h id t t' rc hact hst hh heof hl hr hdone ht hflush ht' =>
    obtain ⟨items, hlog, hitems⟩ := hflush.entries t'
    refine .inl ⟨items, hlog, hitems _ rfl (fun _ _ _ _ ↦ rfl) fun m hm ↦ ?_⟩
    rcases hm with rfl | rfl <;> rfl
  | finalizing hact hst hτ hverdict => exact .inl ⟨[_], rfl, by simp [ReverseTunnel.shutsDown]⟩
  | closeChannel hact hh ht => exact .inl ⟨[_], rfl, by simp [ReverseTunnel.shutsDown]⟩
  | freeAgain hact hh hagain ht => exact .inl ⟨[_], rfl, by simp [ReverseTunnel.shutsDown]⟩

theorem SlotStep.shutsDown (h : SlotStep p ext v v') :
    (∃ items, v'.log = items ++ v.log ∧ ∀ x ∈ items, shutsDown x = false) ∨
      Forwarding v.ch v.log ∧ ∃ id t fd r, v'.log = .call id t v.ch (.shutdown fd) r :: v.log := by
  cases h with
  | work h => exact h.shutsDown
  | bind hact hfd ht ht' => exact .inl ⟨[_, _], rfl, by simp [ReverseTunnel.shutsDown]⟩
  | @release h id id' t t' t'' rc progress hact hh hdone ht ht' ht'' =>
    rw [View.shut, View.discarded, View.socketClosed]
    split
    · exact .inl ⟨[_, _, _], rfl, by simp [ReverseTunnel.shutsDown]⟩
    · exact .inl ⟨[_, _], rfl, by simp [ReverseTunnel.shutsDown]⟩
  | abandon hact ht =>
    rw [View.dropped, View.socketClosed]
    split
    · exact .inl ⟨[_, _], rfl, by simp [ReverseTunnel.shutsDown]⟩
    · exact .inl ⟨[_], rfl, by simp [ReverseTunnel.shutsDown]⟩

/-- What holds of a view wherever the EOF is forwarded holds at every shutdown in the log. -/
theorem always_shutsDown {P : ChannelSlot → SlotLog → Prop} {clock : ℕ}
    (h : Reach p ext (.fresh clock) v)
    (hP : ∀ u, Reach p ext (.fresh clock) u → u.log <:+ v.log → Forwarding u.ch u.log →
      P u.ch u.log) :
    History.Always (fun x past ↦ shutsDown x = true → P x.pre past) v.log := by
  induction h with
  | refl => trivial
  | @tail v v' hr hs ih =>
    have hsuf : v.log <:+ v'.log := by
      obtain ⟨items, hlog⟩ := hs.log_append
      exact ⟨items, hlog.symm⟩
    have ih := ih fun u hu hsub ↦ hP u hu (hsub.trans hsuf)
    rcases hs.shutsDown with ⟨items, hlog, hno⟩ | ⟨hfwd, id, t, fd, r, hlog⟩
    · rw [hlog]
      refine ih.append fun x hx _ hyes ↦ ?_
      rw [hno x hx] at hyes
      cases hyes
    · have hv := hP v hr hsuf hfwd
      rw [hlog]
      exact ⟨fun _ ↦ hv, ih⟩

/-! ### An open slot has lost nothing -/

/-- A slot that is open was open before. -/
theorem WorkStep.open_of_open (h : WorkStep p ext v v') (hopen : v'.ch.state = .open) :
    v.ch.state = .open := by
  cases h with
  | pump h =>
    cases h with
    | begin hact hopen' hcause ht => exact hopen'
    | _ => exact hopen
  | sendEof hact hst hh heof hl hr hdone ht hflush ht' =>
    obtain ⟨ring, hch, -⟩ := hflush.frame
    rw [View.mark_ch, View.mark_ch, View.set_ch, hch, View.call_ch] at hopen
    exact hopen
  | _ => exact hopen

/-- While a slot is open, nothing is lost unless `send` fails, allocated rings or not: the flush,
which does not look at what it has stored, comes later. -/
theorem WorkStep.flow_open (h : WorkStep p ext v v') (hopen : v'.ch.state = .open)
    (hquiet : QuietReads v'.log) : ∃ items, Flow v v' items := by
  have hbefore := h.open_of_open hopen
  cases h with
  | pump h => exact h.flow hquiet
  | sendEofAgain hact hst hh heof hl hr hagain ht =>
    rw [hst] at hbefore
    cases hbefore
  | sendEof hact hst hh heof hl hr hdone ht hflush ht' =>
    rw [hst] at hbefore
    cases hbefore
  | finalizing hact hst hτ hverdict =>
    rw [hst] at hbefore
    cases hbefore
  | closeChannel hact hh ht => exact ⟨[_], Flow.still rfl rfl rfl rfl (by simp [movesBytes])⟩
  | freeAgain hact hh hagain ht => exact ⟨[_], Flow.still rfl rfl rfl rfl (by simp [movesBytes])⟩

theorem balanced_of_open {clock : ℕ} (h : Reach p ext (.fresh clock) v) (hquiet : QuietReads v.log)
    (hact : v.ch.active = true) (hopen : v.ch.state = .open) : Balanced v.ch (life v.log) := by
  induction h with
  | refl => cases hact
  | @tail v v' hr hs ih =>
    cases hs with
    | work hw =>
      obtain ⟨items, hlog, hbound, -⟩ := hw.unbound
      have hopen' := hw.open_of_open hopen
      obtain ⟨items', hflow⟩ := hw.flow_open hopen hquiet
      obtain rfl : items' = items := List.append_cancel_right (hflow.log.symm.trans hlog)
      have hpast := ih (fun x hx ↦ hquiet x (hlog ▸ List.mem_append_right _ hx))
        (hw.retains.active ▸ hact) hopen'
      rw [hlog, life_append hbound]
      exact hpast.flow hflow
    | bind hact' hfd ht ht' =>
      refine ⟨?_, fun _ ↦ ?_, ?_⟩ <;>
        simp [View.bound, life, recvOf, writtenOf, readOf, sentOf, ChannelSlot.initialised,
          ChannelSlot.reset]
    | release hact' hh hdone ht ht' ht'' => cases hact
    | abandon hact' ht => cases hact

/-! ### What waits for the local side -/

/-- At most that waits which waited at the last visit or was read since, less what was sent since. -/
def Keeping (ch : ChannelSlot) (log : SlotLog) : Prop :=
  (held ch.toLocal).length + (bytesOf sentOf (sinceVisit log)).length ≤
    waitedAt log + (bytesOf keptOf (sinceVisit log)).length

/-- Entries of the same cycle. -/
theorem sinceVisit_append (h : ∀ x ∈ items, isVisit x = false) (h' : ∀ x ∈ items, isBound x = false) :
    sinceVisit (items ++ log) = items ++ sinceVisit log ∧ waitedAt (items ++ log) = waitedAt log := by
  induction items with
  | nil => exact ⟨rfl, rfl⟩
  | cons x items ih =>
    have ih := ih (fun y hy ↦ h y (List.mem_cons_of_mem _ hy))
      fun y hy ↦ h' y (List.mem_cons_of_mem _ hy)
    have hx := h x (List.mem_cons_self ..)
    have hx' := h' x (List.mem_cons_self ..)
    constructor
    · rw [sinceVisit, List.cons_append, List.takeWhile_cons_of_pos (by rw [hx, hx']; rfl), ← sinceVisit,
        ih.1, List.cons_append]
    · rw [List.cons_append, waitedAt, if_neg (by rw [hx]; exact Bool.false_ne_true),
        if_neg (by rw [hx']; exact Bool.false_ne_true), ih.2]

/-- A step either is a visit, or takes nothing out of `toLocal` but what is sent or lost, and puts
nothing in but what is read. -/
def AccountsLocal (v v' : View) : Prop :=
  (v' = v.mark .checking ∧ v.ch.active = true ∧ v.ch.state = .open) ∨
    ∃ items, v'.log = items ++ v.log ∧ (∀ x ∈ items, isVisit x = false) ∧
      (v'.ch.state = .open → (held v'.ch.toLocal).length + (bytesOf sentOf items).length ≤
        (held v.ch.toLocal).length + (bytesOf keptOf items).length)

/-- Neither was anything sent or read, nor has `toLocal` changed. -/
theorem AccountsLocal.still (items : SlotLog) (hlog : v'.log = items ++ v.log)
    (hl : v'.ch.toLocal = v.ch.toLocal) (hitems : ∀ x ∈ items, isVisit x = false ∧ sentOf x = []) :
    AccountsLocal v v' := by
  refine .inr ⟨items, hlog, fun x hx ↦ (hitems x hx).1, fun _ ↦ ?_⟩
  rw [hl, bytesOf_eq_nil fun x hx ↦ (hitems x hx).2]
  exact Nat.le_add_right _ _

theorem PumpStep.accountsLocal (h : PumpStep p ext v v') : AccountsLocal v v' := by
  cases h with
  | checking hact hopen => exact .inl ⟨rfl, hact, hopen⟩
  | wait ht => exact .still [] rfl rfl (by simp)
  | pause ssh loc hact => exact .still [_] rfl rfl (by simp [isVisit, sentOf])
  | rearmSend hset ht => exact .still [_] rfl rfl (by simp [isVisit, sentOf])
  | rearmWrite hset ht => exact .still [_] rfl rfl (by simp [isVisit, sentOf])
  | forwardEof hact hopen hlocal herr hfwd hlog ht =>
    exact .still [_] rfl rfl (by simp [isVisit, sentOf])
  | readData hact hh heof hb hb' ht ht' =>
    refine .inr ⟨[_, _], rfl, by simp [isVisit], fun _ ↦ ?_⟩
    simp [sentOf, keptOf, heof, hb, hb'.content]
  | sendData hact hfd hb hbs hb' hshape ht ht' =>
    have hlen := hbs.length_le
    refine .inr ⟨[_, _], rfl, by simp [isVisit], fun _ ↦ ?_⟩
    simp [sentOf, keptOf, hb, hb']
    omega
  | sendFail hact hfd hb hbs hb' hhard ht =>
    refine .inr ⟨[_, _], rfl, by simp [isVisit], fun _ ↦ ?_⟩
    simp [sentOf, keptOf, hb, hb'.content]
  | @sendBusy b b' b'' bs id t t' r first hact hfd hb hb'' hr ht ht' hfirst =>
    refine .inr ⟨[_, _], rfl, by simp [isVisit], fun _ ↦ ?_⟩
    rcases hr with rfl | ⟨errno, -, rfl⟩ <;> simp [sentOf, keptOf, hb, hb''.content]
  | _ => exact .still [_, _] rfl rfl (by simp [isVisit, sentOf])

theorem WorkStep.accountsLocal (h : WorkStep p ext v v') : AccountsLocal v v' := by
  have hbefore := h.open_of_open
  cases h with
  | pump h => exact h.accountsLocal
  | @sendEof u h id t t' rc hact hst hh heof hl hr hdone ht hflush ht' =>
    -- the flush comes later than the slot is open
    obtain ⟨items, hlog, hitems⟩ := hflush.entries t'
    refine .inr ⟨items, hlog, hitems _ rfl (fun _ _ _ _ ↦ rfl) fun m hm ↦ ?_, ?_⟩
    · rcases hm with rfl | rfl <;> rfl
    · intro hopen
      have hstill := hbefore hopen
      rw [hst] at hstill
      cases hstill
  | sendEofAgain hact hst hh heof hl hr hagain ht =>
    exact .still [_, _] rfl rfl (by simp [isVisit, sentOf])
  | finalizing hact hst hτ hverdict =>
    exact .still [_] rfl rfl (by simp [isVisit, sentOf])
  | closeChannel hact hh ht => exact .still [_] rfl rfl (by simp [isVisit, sentOf])
  | freeAgain hact hh hagain ht => exact .still [_] rfl rfl (by simp [isVisit, sentOf])

/-- **What waits for the local side is accounted for**, in an open slot and at every visit before. -/
theorem keeping_of_reach {clock : ℕ} (h : Reach p ext (.fresh clock) v) :
    (v.ch.active = true → v.ch.state = .open → Keeping v.ch v.log) ∧
      History.Always (fun x past ↦ isVisit x = true → Keeping x.pre past) v.log := by
  induction h with
  | refl =>
    refine ⟨fun hact ↦ ?_, trivial⟩
    cases hact
  | @tail v v' hr hs ih =>
    obtain ⟨ihopen, ihvisits⟩ := ih
    have hother : ∀ items, (∀ x ∈ items, isVisit x = false) →
        History.Always (fun x past ↦ isVisit x = true → Keeping x.pre past) (items ++ v.log) := by
      intro items hitems
      refine ihvisits.append fun x hx _ hyes ↦ ?_
      rw [hitems x hx] at hyes
      cases hyes
    cases hs with
    | work hw =>
      rcases hw.accountsLocal with ⟨rfl, hact, hopen⟩ | ⟨items, hlog, hno, hheld⟩
      · exact ⟨fun _ _ ↦ Nat.le_refl _, fun _ ↦ ihopen hact hopen, ihvisits⟩
      · obtain ⟨items', hlog', hbound, -⟩ := hw.unbound
        obtain rfl : items' = items := List.append_cancel_right (hlog'.symm.trans hlog)
        refine ⟨fun hact hopen ↦ ?_, hlog ▸ hother _ hno⟩
        have hpast : Keeping v.ch v.log := ihopen (hw.retains.active ▸ hact) (hw.open_of_open hopen)
        have hheld := hheld hopen
        have hcycle : sinceVisit (items' ++ v.log) = items' ++ sinceVisit v.log ∧
            waitedAt (items' ++ v.log) = waitedAt v.log := sinceVisit_append hno hbound
        obtain ⟨hsince, hwaited⟩ := hcycle
        rw [Keeping] at hpast
        rw [Keeping, hlog, hsince, hwaited]
        simp only [bytesOf_append, List.length_append]
        omega
    | bind hact' hfd ht ht' =>
      refine ⟨fun _ _ ↦ ?_, hother [_, _] (by simp [isVisit])⟩
      simp [Keeping, View.bound, sinceVisit, isVisit, isBound, sentOf, ChannelSlot.initialised,
        ChannelSlot.reset]
    | @release h id id' t t' t'' rc progress hact' hh hdone ht ht' ht'' =>
      refine ⟨fun hact ↦ ?_, ?_⟩
      · cases hact
      · rw [View.shut, View.discarded, View.socketClosed]
        split
        · exact hother [_, _, _] (by simp [isVisit])
        · exact hother [_, _] (by simp [isVisit])
    | abandon hact' ht =>
      refine ⟨fun hact ↦ ?_, ?_⟩
      · cases hact
      · rw [View.dropped, View.socketClosed]
        split
        · exact hother [_, _] (by simp [isVisit])
        · exact hother [_] (by simp [isVisit])

/-! ### The guarantee -/

/-- **The remote EOF is forwarded after the data**, in every run in which the local socket keeps up with
what is read. -/
theorem eof_after_data (hw : Run p w) (i : ℕ) (hkeeps : KeepsUp (slotLog i w.trace)) :
    EofAfterData (slotLog i w.trace) := by
  obtain ⟨clock, hr⟩ := hw.followed
  have hdrained : ∀ u : View, u.log <:+ slotLog i w.trace → Forwarding u.ch u.log →
      held u.ch.toLocal = [] := by
    rintro u ⟨newer, hlog⟩ hfwd
    obtain ⟨t, older, hvisit⟩ := hfwd.visit
    rw [hvisit] at hlog
    have hends : u.ch.endsLocal = true := by
      simp [ChannelSlot.endsLocal, hfwd.active, hfwd.open, hfwd.localEof, hfwd.errors, hfwd.guard]
    have htaken := History.always_iff.1 hkeeps newer _ older hlog.symm rfl hends
    have hwaits := History.always_iff.1 (keeping_of_reach (hr i)).2 newer _ older hlog.symm rfl
    have hzero : (held u.ch.toLocal).length = 0 := by
      have hwaits : (held u.ch.toLocal).length + _ ≤ _ := hwaits
      omega
    exact List.length_eq_zero_iff.1 hzero
  refine ⟨?_, fun hfinal ↦ ?_⟩
  · exact always_shutsDown (P := fun ch _ ↦ held ch.toLocal = []) (hr i) fun u _ ↦ hdrained u
  · refine always_shutsDown (P := fun _ past ↦ (∀ y ∈ life past, hardSendError y = false) →
      bytesOf readOf (life past) = bytesOf sentOf (life past)) (hr i) fun u hu hsuf hfwd hok ↦ ?_
    obtain ⟨newer, hlog⟩ := hsuf
    have hfinal' : NoDataAfterEof u.log :=
      NoDataAfterEof.suffix (hlog.symm ▸ hfinal : NoDataAfterEof (newer ++ u.log))
    have hbal := balanced_of_open hu (quietReads_of_reach hu hfinal') hfwd.active hfwd.open
    rw [hbal.toLocal hok, hdrained u ⟨newer, hlog⟩ hfwd, List.append_nil]

/-! ### A slow and a fast consumer -/

/-- The remote side sends three bytes and is done; `busy` says whether the local socket is. -/
def endingWorld (busy : Bool) : Env Call Call.Reply := worldWith 1 fun n c ↦
  match c with
  | .io _ (.channelRead _ k) =>
    if h : 3 ≤ k ∧ n < 13 then some (threeBytes h.1) else some endOfStream
  | .io _ (.send _ _) => if busy then some (.fail eagain) else none
  | _ => none

/-- A channel is bound and pumped once. -/
def endingRun (busy : Bool) : TunnelWorld := afterManagerOps (smallTunnel 1)
  [(.bindChannel 0 77 {}, endingWorld busy), (.pumpAll, endingWorld busy)]

theorem run_endingRun (busy : Bool) : Run (smallTunnel 1) (endingRun busy) := run_after _

theorem eof_after_data_endingRun :
    EofAfterData (slotLog 0 (endingRun false).trace) ∧
      (slotLog 0 (endingRun false).trace).any shutsDown = true :=
  ⟨eof_after_data (run_endingRun false) 0 (by decide +kernel), by decide +kernel⟩

theorem not_eofAfterData
    (h : log.any (fun x ↦ shutsDown x && !ringEmpty x.pre.toLocal) = true) : ¬EofAfterData log := by
  intro hlog
  obtain ⟨x, hx, hbad⟩ := List.any_eq_true.1 h
  obtain ⟨newer, past, rfl⟩ := List.append_of_mem hx
  obtain ⟨hshut, hring⟩ := Bool.and_eq_true_iff.1 hbad
  have hempty := History.always_iff.1 hlog.drained newer x past rfl hshut
  rw [(ringEmpty_iff _).2 hempty] at hring
  cases hring

/-- A slow consumer is shut down with bytes still waiting for it. -/
theorem eof_before_data :
    ¬∀ w, Run (smallTunnel 1) w → ∀ i, EofAfterData (slotLog i w.trace) := by
  intro hall
  have hslow := hall _ (run_endingRun true) 0
  exact not_eofAfterData (by decide +kernel) hslow

end ReverseTunnel
