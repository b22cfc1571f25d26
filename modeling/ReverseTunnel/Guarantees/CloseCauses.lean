import ReverseTunnel.System.Trace
import ReverseTunnel.Lifetime.Timers

/-!
# No spurious close

A slot goes from open to draining in `beginClose` only, which leaves the mark `beganClose`. In a run of
the tunnel nobody else calls it, so behind every such mark stands one of the triggers of the pump or of
`allocateSlot`. A trigger looks at flags, counters and timers; `Justified` is what it stands for, told
by the log of the slot alone: which calls were made in this lifetime, how they ended and when.

The computed time differences wrap around. They may fall short of the time that has passed, never
exceed it, so a timer that has run out has really run out.
-/

namespace ReverseTunnel

open Traced TunnelM Clock32

variable {p : Params} {ext : Bool} {v v' : View} {w : TunnelWorld} {ch ch' : ChannelSlot}
  {items log : SlotLog}

/-- The slot begins to close. -/
def beginsClose : SlotItem → Bool
  | .mark _ _ .beganClose => true
  | _ => false

/-- Why closing the slot at the entry `x` of its log is in order, given the log behind it. -/
inductive Justified (p : Params) (x : SlotItem) (past : SlotLog) : Prop where
  /-- Both sides have been seen to end. -/
  | bothEof (hr : ∃ h, x.pre.sshChannel = some h ∧ ∃ y ∈ life past, eofSeen h y = true)
      (hl : ∃ y ∈ life past, localEndSeen y = true)
  /-- The local side has ended, and nothing from it waits. -/
  | localDone (hl : ∃ y ∈ life past, localEndSeen y = true) (hempty : held x.pre.toRemote = [])
  /-- Four calls on the SSH channel have failed since one last succeeded. -/
  | errors (h : 4 ≤ (lately sshSucceeds past).countP sshFails)
  /-- The local socket was busy more than 8 s ago and has taken nothing since. -/
  | sendStall (hne : held x.pre.toLocal ≠ [])
      (h : ∃ y ∈ lately sendAccepts past, sendBlocked y = true ∧ y.time + 8000 < x.time)
  /-- A write to the SSH channel was blocked more than 3 s ago and nothing has succeeded since. -/
  | writeStall
      (h : ∃ y ∈ lately sshSucceeds past, writeBlocked y = true ∧ y.time + 3000 < x.time)
  /-- The remote side has ended, nothing waits for it and nothing has moved for more than 5 s. -/
  | halfClose (hr : ∃ h, x.pre.sshChannel = some h ∧ ∃ y ∈ life past, eofSeen h y = true)
      (hempty : held x.pre.toRemote = [])
      (h : ∀ y ∈ past, isActivity y = true → y.time + 5000 < x.time)
  /-- A timeout is configured, and nothing has moved for longer than that. -/
  | idle (hpos : 0 < p.channelTimeoutMs)
      (h : ∀ y ∈ past, isActivity y = true → y.time + p.channelTimeoutMs.toNat < x.time)

/-- If the slot is draining and was open at the newest entry of its log, then that is where it began
to close. -/
def BeganAt (ch : ChannelSlot) (log : SlotLog) : Prop :=
  ch.state = .draining → ∀ y older, log = y :: older → y.pre.state = .open → beginsClose y = true

/-- A slot `ch` and a log in which every close is in order. -/
structure ClosedForCause (p : Params) (ch : ChannelSlot) (log : SlotLog) : Prop where
  /-- A slot that begins to close is open, and there is a reason. -/
  justified : History.Always
    (fun x past ↦ beginsClose x = true → x.pre.state = .open ∧ Justified p x past) log
  /-- There is no other way from open to draining. -/
  past : History.Always (fun x past ↦ BeganAt x.pre past) log
  /-- Nor has there been one since the newest entry. -/
  current : BeganAt ch log

/-! ### The way to draining -/

/-- What a step does to the state of the slot, entry by entry. -/
inductive StateMove (p : Params) (ext : Bool) (v v' : View) : Prop where
  /-- It stays, or the slot is closed in the end. -/
  | stay (items : SlotLog) (hlog : v'.log = items ++ v.log)
      (hitems : ∀ x ∈ items, beginsClose x = false ∧ x.pre.state = v.ch.state)
      (h : v'.ch.state = v.ch.state ∨ v'.ch.state = .closed)
  /-- The slot begins to close. -/
  | begin (t : ℕ) (hact : v.ch.active = true) (hopen : v.ch.state = .open) (hcause : Cause p ext v)
      (hlog : v'.log = .mark t v'.ch .step :: .mark v.clock v.ch .beganClose :: v.log)
      (h : v'.ch.state = .draining)
  /-- The slot is bound. -/
  | bound (items : SlotLog) (hlog : v'.log = items ++ v.log)
      (hitems : ∀ x ∈ items, beginsClose x = false ∧ x.pre.state = .open)
      (h : v'.ch.state = .open)

theorem WorkStep.stateMove (h : WorkStep p ext v v') : StateMove p ext v v' := by
  cases h with
  | pump h =>
    cases h with
    | wait ht => exact .stay [] rfl (by simp) (.inl rfl)
    | begin hact hopen hcause ht => exact .begin _ hact hopen hcause rfl rfl
    | checking hact hopen => exact .stay [_] rfl (by simp [beginsClose]) (.inl rfl)
    | forwardEof hact hopen hlocal herr hfwd hlog ht =>
      exact .stay [_] rfl (by simp [beginsClose]) (.inl rfl)
    | pause ssh loc hact => exact .stay [_] rfl (by simp [beginsClose]) (.inl rfl)
    | rearmSend hset ht => exact .stay [_] rfl (by simp [beginsClose]) (.inl rfl)
    | rearmWrite hset ht => exact .stay [_] rfl (by simp [beginsClose]) (.inl rfl)
    | _ => exact .stay [_, _] rfl (by simp [beginsClose]) (.inl rfl)
  | sendEofAgain hact hst hh heof hl hr hagain ht =>
    exact .stay [_, _] rfl (by simp [beginsClose]) (.inl rfl)
  | @sendEof u h id t t' rc hact hst hh heof hl hr hdone ht hflush ht' =>
    obtain ⟨items, hlog, hitems⟩ := hflush.entries t'
    obtain ⟨r, hch, -⟩ := hflush.frame
    have hstate : u.ch.state = v.ch.state := by rw [hch]; rfl
    refine .stay items hlog (hitems _ ⟨rfl, rfl⟩ (fun _ _ _ _ ↦ ⟨rfl, rfl⟩) fun m hm ↦ ?_)
      (.inl hstate)
    rcases hm with rfl | rfl <;> exact ⟨rfl, hstate⟩
  | finalizing hact hst hτ hverdict => exact .stay [_] rfl (by simp [beginsClose]) (.inl rfl)
  | closeChannel hact hh ht => exact .stay [_] rfl (by simp [beginsClose]) (.inl rfl)
  | freeAgain hact hh hagain ht => exact .stay [_] rfl (by simp [beginsClose]) (.inl rfl)

theorem SlotStep.stateMove (h : SlotStep p ext v v') : StateMove p ext v v' := by
  cases h with
  | work h => exact h.stateMove
  | bind hact hfd ht ht' =>
    refine .bound [_, _] rfl (List.forall_mem_cons.2 ⟨⟨rfl, rfl⟩, ?_⟩) rfl
    exact List.forall_mem_singleton.2 ⟨rfl, rfl⟩
  | @release h id id' t t' t'' rc progress hact hh hdone ht ht' ht'' =>
    rw [View.shut, View.discarded, View.socketClosed]
    split
    · refine .stay [_, _, _] rfl (List.forall_mem_cons.2 ⟨⟨rfl, rfl⟩, ?_⟩) (.inr rfl)
      exact List.forall_mem_cons.2 ⟨⟨rfl, rfl⟩, List.forall_mem_singleton.2 ⟨rfl, rfl⟩⟩
    · refine .stay [_, _] rfl (List.forall_mem_cons.2 ⟨⟨rfl, rfl⟩, ?_⟩) (.inr rfl)
      exact List.forall_mem_singleton.2 ⟨rfl, rfl⟩
  | abandon hact ht =>
    rw [View.dropped, View.socketClosed]
    split
    · refine .stay [_, _] rfl (List.forall_mem_cons.2 ⟨⟨rfl, rfl⟩, ?_⟩) (.inr rfl)
      exact List.forall_mem_singleton.2 ⟨rfl, rfl⟩
    · exact .stay [_] rfl (List.forall_mem_singleton.2 ⟨rfl, rfl⟩) (.inr rfl)

theorem BeganAt.of_state (h : BeganAt ch log) (hstate : ch'.state = ch.state) : BeganAt ch' log :=
  fun hd ↦ h (hstate ▸ hd)

/-- Entries made in the state the slot is in. -/
theorem beganAt_append (h : History.Always (fun x past ↦ BeganAt x.pre past) log)
    (hcur : BeganAt ch log) (hitems : ∀ x ∈ items, x.pre.state = ch.state) :
    History.Always (fun x past ↦ BeganAt x.pre past) (items ++ log) ∧ BeganAt ch (items ++ log) := by
  induction items with
  | nil => exact ⟨h, hcur⟩
  | cons x items ih =>
    obtain ⟨hall, hnow⟩ := ih fun y hy ↦ hitems y (List.mem_cons_of_mem _ hy)
    have hx := hitems x List.mem_cons_self
    refine ⟨⟨hnow.of_state hx, hall⟩, fun hd y older heq hopen ↦ ?_⟩
    obtain ⟨rfl, -⟩ : x = y ∧ _ := by simpa using heq
    rw [hx, hd] at hopen
    cases hopen

/-! ### From the triggers to the log -/

/-- More than `d` lies between two readings, so more than `d` has passed. -/
theorem lt_of_settled {τ s : ℕ} {d : UInt32} (hτ : v.Settled τ)
    (hb : ∃ z ∈ v.log, isBoundary z = true ∧ s ≤ z.time) (h : d < stamp τ - stamp s) :
    s + d.toNat < v.clock := by
  obtain ⟨z, hz, hbz, hsz⟩ := hb
  have hle : s ≤ τ := Nat.le_trans hsz (hτ.boundary_le z hz hbz)
  have hlt := lt_sub_of_lt_stamp_sub hle h
  have hclock := hτ.le_clock
  omega

theorem Armed.waits {timer : ChannelSlot → UInt32} {clears blocks : SlotItem → Bool} {s τ : ℕ}
    {d : UInt32} (ha : Armed timer clears blocks v s) (hτ : v.Settled τ)
    (h : d < stamp τ - timer v.ch) :
    ∃ y ∈ lately clears v.log, blocks y = true ∧ y.time + d.toNat < v.clock := by
  rw [ha.timer_eq] at h
  have hlt := lt_of_settled hτ ha.boundary h
  obtain ⟨y, hy, hblock, hys⟩ := ha.blocked
  exact ⟨y, hy, hblock, by omega⟩

theorem ActiveUntil.waits {s τ : ℕ} {d : UInt32} (ha : ActiveUntil v s) (hτ : v.Settled τ)
    (h : d < stamp τ - v.ch.lastActivity) :
    ∀ y ∈ v.log, isActivity y = true → y.time + d.toNat < v.clock := by
  rw [ha.lastActivity] at h
  have hlt := lt_of_settled hτ ha.boundary h
  intro y hy hya
  have hys := ha.quiet y hy hya
  omega

/-- Every trigger stands for something in the log. -/
theorem Cause.justified (h : Cause p false v) (hm : Meaningful v) (he : Evidence v)
    (hact : v.ch.active = true) : Justified p (.mark v.clock v.ch .beganClose) v.log := by
  cases h with
  | bothEof hr hl => exact .bothEof (he.remoteEof hact hr) (he.localEof hact hl)
  | localDone hl hempty => exact .localDone (he.localEof hact hl) hempty
  | errors h => exact .errors (Nat.le_trans h hm.errors)
  | sendStall hτ hset hne h =>
    obtain ⟨s, ha⟩ := hm.sendTimer hset
    exact .sendStall hne (ha.waits hτ h)
  | writeStall hτ hset h =>
    obtain ⟨s, ha⟩ := hm.writeTimer hset
    exact .writeStall (ha.waits hτ h)
  | halfClose hτ hr hempty h =>
    obtain ⟨s, ha⟩ := hm.activity
    exact .halfClose (he.remoteEof hact hr) hempty (ha.waits hτ h)
  | idle hτ hpos h =>
    obtain ⟨s, ha⟩ := hm.activity
    exact .idle hpos (ha.waits hτ h)
  | external h => cases h

/-! ### The guarantee -/

theorem ClosedForCause.step (h : ClosedForCause p v.ch v.log) (hs : SlotStep p false v v')
    (hm : OpenMeaningful v) (he : Evidence v) : ClosedForCause p v'.ch v'.log := by
  cases hs.stateMove with
  | stay items hlog hitems hstate =>
    obtain ⟨hpast, hcur⟩ := beganAt_append h.past h.current fun x hx ↦ (hitems x hx).2
    rw [hlog]
    refine ⟨h.justified.append fun x hx _ hb ↦ ?_, hpast, fun hd ↦ ?_⟩
    · rw [(hitems x hx).1] at hb
      cases hb
    · rcases hstate with hsame | hclosed
      · exact hcur.of_state hsame hd
      · rw [hclosed] at hd
        cases hd
  | begin t hact hopen hcause hlog hstate =>
    rw [hlog]
    refine ⟨⟨fun hb ↦ ?_, fun _ ↦ ⟨hopen, hcause.justified (hm hopen) he hact⟩, h.justified⟩,
      ⟨fun _ y older heq _ ↦ ?_, h.current, h.past⟩, fun hd y older heq hy ↦ ?_⟩
    · cases hb
    · obtain ⟨rfl, -⟩ : Item.mark v.clock v.ch SlotMark.beganClose = y ∧ _ := by simpa using heq
      rfl
    · obtain ⟨rfl, -⟩ : Item.mark t v'.ch SlotMark.step = y ∧ _ := by simpa using heq
      rw [Item.pre_mark, hd] at hy
      cases hy
  | bound items hlog hitems hstate =>
    -- an open slot is not draining
    have hopen : ∀ {ch : ChannelSlot} (log : SlotLog), ch.state = .open → BeganAt ch log := by
      intro ch log hch hd
      rw [hch] at hd
      cases hd
    rw [hlog]
    refine ⟨h.justified.append fun x hx _ hb ↦ ?_,
      h.past.append fun x hx rest ↦ hopen rest (hitems x hx).2, hopen _ hstate⟩
    rw [(hitems x hx).1] at hb
    cases hb

theorem closedForCause_of_reach {clock : ℕ} (h : Reach p false (.fresh clock) v)
    (hquiet : QuietReads v.log) : ClosedForCause p v.ch v.log := by
  induction h with
  | refl => exact ⟨trivial, trivial, fun hd ↦ by cases hd⟩
  | @tail v v' hr hs ih =>
    obtain ⟨items, hlog⟩ := hs.log_append
    have hquiet' : QuietReads v.log := fun x hx ↦ hquiet x (hlog ▸ List.mem_append_right _ hx)
    exact (ih hquiet').step hs (openMeaningful_of_reach hr hquiet') (evidence_of_reach hr)

/-- **No slot is closed without a cause**, in any run of the tunnel: wherever a slot goes from open to
draining, its log shows why. -/
theorem no_spurious_close (hw : TunnelRun p w) (hfinal : EofIsFinal w.trace) (i : ℕ) :
    ClosedForCause p (w.st.channels.slots i) (slotLog i w.trace) := by
  obtain ⟨clock, hr⟩ := hw.followed
  exact closedForCause_of_reach (hr i) (quietReads_of_reach (hr i) (hfinal.slotLog i))

/-! ### A local side that hangs up -/

/-- The local side closes its end of the connection. -/
def hangingUpWorld : Env Call Call.Reply := worldWith 1 fun _ c ↦
  match c with
  | .io _ (.recv _ _) => some .eof
  | _ => none

/-- A channel comes in, and its local side hangs up. -/
def hangUpOps : List (TunnelOp × Env Call Call.Reply) :=
  [(.connectSSH, acceptingWorld 160), (.loop, acceptingWorld 160), (.loop, hangingUpWorld)]

/-- The run of them. -/
def hangUpRun : TunnelWorld := afterTunnelOps (smallTunnel 1) hangUpOps

theorem run_hangUpRun : TunnelRun (smallTunnel 1) hangUpRun := tunnelRun_after hangUpOps

theorem no_spurious_close_hangUpRun :
    (slotLog 0 hangUpRun.trace).any beginsClose = true ∧
      ClosedForCause (smallTunnel 1) (hangUpRun.st.channels.slots 0) (slotLog 0 hangUpRun.trace) :=
  ⟨by decide +kernel, no_spurious_close run_hangUpRun (by decide +kernel) 0⟩

end ReverseTunnel
