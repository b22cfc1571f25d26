import ReverseTunnel.Lifetime.Evidence

/-!
# What the counters and timers of an open slot mean

`checkCloses` and the drain functions close a slot by its error counter, by one of two stall timers or
by the time of its last activity. Here these are traced back to the log: the error counter counts calls
that failed since the last one that succeeded, a stall timer that is set was set after a call that was
blocked, with nothing gone through since, and the time of the last activity is not older than the last
byte that moved.

All this is about an **open** slot. The reads of the EOF flush reset nothing.
-/

namespace ReverseTunnel

open Traced Clock32

variable {p : Params} {ext : Bool} {v v' : View} {items log : SlotLog}

/-! ### Calls of interest -/

/-- A read or write of the SSH channel has succeeded. -/
def sshSucceeds : SlotItem → Bool
  | .call _ _ _ (.channelRead _ _) (.data _ _ _) => true
  | .call _ _ _ (.channelWrite _ _) (.accepted _ _ _) => true
  | _ => false

/-- A read or write of the SSH channel has failed. Nothing to read and the end of the stream are no
failures, and neither is a write that is blocked. -/
def sshFails : SlotItem → Bool
  | .call _ _ _ (.channelRead _ _) (.code rc _) => rc != 0 && rc != errorEagain
  | .call _ _ _ (.channelWrite _ _) (.code rc _) => rc != errorEagain
  | _ => false

/-- A write to the SSH channel is blocked. -/
def writeBlocked : SlotItem → Bool
  | .call _ _ _ (.channelWrite _ _) (.code rc _) => rc = errorEagain
  | _ => false

/-- The local socket has taken bytes. -/
def sendAccepts : SlotItem → Bool
  | .call _ _ _ (.send _ _) (.accepted _ _ _) => true
  | _ => false

/-- The local socket is busy. -/
def sendBlocked : SlotItem → Bool
  | .call _ _ _ (.send _ _) .zero => true
  | .call _ _ _ (.send _ _) (.fail errno) => errno = eagain || errno = ewouldblock
  | _ => false

/-- What has happened in the current lifetime since the last entry that `clears`. -/
def lately (clears : SlotItem → Bool) (log : SlotLog) : SlotLog :=
  (life log).takeWhile fun x ↦ !clears x

theorem lately_append {clears : SlotItem → Bool} (hbound : ∀ x ∈ items, isBound x = false)
    (hno : ∀ x ∈ items, clears x = false) : lately clears (items ++ log) = items ++ lately clears log := by
  rw [lately, lately, life_append hbound]
  exact List.takeWhile_append_of_pos fun x hx ↦ by simp [hno x hx]

/-! ### Stall timers -/

/-- What a piece of work does to a stall timer: it clears it, leaves it, or sets it, after a call that was
blocked or because it was set before. -/
inductive TimerMove (timer : ChannelSlot → UInt32) (clears blocks : SlotItem → Bool) (v v' : View)
    (items : SlotLog) : Prop where
  /-- Something has gone through. -/
  | cleared (h : timer v'.ch = 0)
  /-- Nothing of interest. -/
  | kept (hno : ∀ x ∈ items, clears x = false) (h : timer v'.ch = timer v.ch)
  /-- The timer is set. -/
  | armed {t : ℕ} (hno : ∀ x ∈ items, clears x = false) (ht : v.clock ≤ t) (h : timer v'.ch = stamp t)
      (hstep : ∃ z ∈ items, isBoundary z = true ∧ t ≤ z.time)
      (hwhy : timer v.ch ≠ 0 ∨ ∃ y ∈ items, blocks y = true ∧ y.time ≤ t)

/-- A stall timer that is set: when it was set, and by which call. -/
structure Armed (timer : ChannelSlot → UInt32) (clears blocks : SlotItem → Bool) (v : View) (s : ℕ) :
    Prop where
  /-- The reading it holds. -/
  timer_eq : timer v.ch = stamp s
  /-- It was set by a piece of work that is complete. -/
  boundary : ∃ z ∈ v.log, isBoundary z = true ∧ s ≤ z.time
  /-- It was set after a call was blocked, and nothing has gone through since. -/
  blocked : ∃ y ∈ lately clears v.log, blocks y = true ∧ y.time ≤ s

/-- A stall timer means something if it is not zero. -/
def TimerSound (timer : ChannelSlot → UInt32) (clears blocks : SlotItem → Bool) (v : View) : Prop :=
  timer v.ch ≠ 0 → ∃ s, Armed timer clears blocks v s

section Timers

variable {timer : ChannelSlot → UInt32} {clears blocks : SlotItem → Bool}

theorem Armed.append {s : ℕ} (h : Armed timer clears blocks v s) (hlog : v'.log = items ++ v.log)
    (hbound : ∀ x ∈ items, isBound x = false) (hno : ∀ x ∈ items, clears x = false)
    (heq : timer v'.ch = timer v.ch) : Armed timer clears blocks v' s := by
  obtain ⟨z, hz, hbz, hsz⟩ := h.boundary
  obtain ⟨y, hy, hblock, hys⟩ := h.blocked
  refine ⟨heq.trans h.timer_eq, ⟨z, hlog ▸ List.mem_append_right _ hz, hbz, hsz⟩, y, ?_, hblock, hys⟩
  rw [hlog, lately_append hbound hno]
  exact List.mem_append_right _ hy

theorem TimerSound.move (h : TimerSound timer clears blocks v) (hs : Sound p v)
    (hlog : v'.log = items ++ v.log) (hbound : ∀ x ∈ items, isBound x = false)
    (hm : TimerMove timer clears blocks v v' items) : TimerSound timer clears blocks v' := by
  intro hset
  cases hm with
  | cleared hzero => exact absurd hzero hset
  | kept hno heq =>
    obtain ⟨s, hs⟩ := h (heq ▸ hset)
    exact ⟨s, hs.append hlog hbound hno heq⟩
  | @armed t hno ht heq hstep hwhy =>
    obtain ⟨z, hz, hbz, htz⟩ := hstep
    refine ⟨t, heq, ⟨z, hlog ▸ List.mem_append_left _ hz, hbz, htz⟩, ?_⟩
    rw [hlog, lately_append hbound hno]
    rcases hwhy with hbefore | ⟨y, hy, hblock, hyt⟩
    · -- set again: what blocked it before still counts
      obtain ⟨s, hs'⟩ := h hbefore
      obtain ⟨y, hy, hblock, -⟩ := hs'.blocked
      have hylog : y ∈ v.log := life_subset _ (List.takeWhile_subset _ hy)
      exact ⟨y, List.mem_append_right _ hy, hblock, Nat.le_trans (hs.timely y hylog) ht⟩
    · exact ⟨y, List.mem_append_left _ hy, hblock, hyt⟩

end Timers

/-- The stall timer of the local socket. -/
abbrev SendTimer : View → Prop := TimerSound (·.firstLocalSendEagainMs) sendAccepts sendBlocked

/-- The stall timer of the SSH channel. -/
abbrev WriteTimer : View → Prop := TimerSound (·.firstEagainMs) sshSucceeds writeBlocked

theorem sendBlocked_of_isBusy {errno : ℕ} (h : isBusy errno) :
    (errno = eagain || errno = ewouldblock) = true := by
  simpa [isBusy] using h

theorem PumpStep.sendTimer (h : PumpStep p ext v v') : ∃ items, v'.log = items ++ v.log ∧
    TimerMove (·.firstLocalSendEagainMs) sendAccepts sendBlocked v v' items := by
  cases h with
  | wait ht => exact ⟨[], rfl, .kept (by simp) rfl⟩
  | checking hact hopen => exact ⟨[_], rfl, .kept (by simp [sendAccepts]) rfl⟩
  | pause ssh loc hact => exact ⟨[_], rfl, .kept (by simp [sendAccepts]) rfl⟩
  | rearmWrite hset ht => exact ⟨[_], rfl, .kept (by simp [sendAccepts]) rfl⟩
  | forwardEof hact hopen hlocal herr hfwd hlog ht =>
    exact ⟨[_], rfl, .kept (by simp [sendAccepts]) rfl⟩
  | sendData hact hfd hb hbs hb' hshape ht ht' => exact ⟨[_, _], rfl, .cleared rfl⟩
  | rearmSend hset ht =>
    exact ⟨[_], rfl, .armed (by simp [sendAccepts]) ht rfl
      ⟨_, List.mem_cons_self, rfl, Nat.le_refl _⟩ (.inl hset)⟩
  | @sendBusy b b' b'' bs id t t' r first hact hfd hb hb'' hr ht ht' hfirst =>
    have hno : ∀ x ∈ [Item.mark t' { v.ch with
          toLocal := some b'', firstLocalSendEagainMs := first } SlotMark.step,
        Item.call id t { v.ch with toLocal := some b' } (.send v.ch.localSocket bs) r],
        sendAccepts x = false := by
      rcases hr with rfl | ⟨errno, -, rfl⟩ <;> simp [sendAccepts]
    refine ⟨[_, _], rfl, ?_⟩
    rcases hfirst with ⟨-, rfl⟩ | ⟨-, rfl⟩
    · refine .armed hno (Nat.le_trans ht ht') rfl ⟨_, List.mem_cons_self, rfl, Nat.le_refl _⟩
        (.inr ⟨_, List.mem_cons_of_mem _ List.mem_cons_self, ?_, ht'⟩)
      rcases hr with rfl | ⟨errno, hbusy, rfl⟩
      · rfl
      · exact sendBlocked_of_isBusy hbusy
    · exact .kept hno rfl
  | _ => exact ⟨[_, _], rfl, .kept (by simp [sendAccepts]) rfl⟩

/-- A read that yields data is made before the end of the stream. -/
theorem not_data_of_quiet {h : Handle} {n id t : ℕ} {ch : ChannelSlot} {r : ReadReply n}
    (hquiet : QuietReads (.call id t ch (.channelRead h n) r :: log)) (heof : ch.remoteEof = true) :
    ∃ rc hrc, r = .code rc hrc := by
  cases r with
  | code rc hrc => exact ⟨rc, hrc, rfl⟩
  | data bs hpos hle =>
    have hfalse : ch.remoteEof = false := by
      refine hquiet _ List.mem_cons_self ?_
      rw [readOf]
      exact List.ne_nil_of_length_pos hpos
    rw [heof] at hfalse
    cases hfalse

theorem PumpStep.writeTimer (h : PumpStep p ext v v') (hquiet : QuietReads v'.log) :
    ∃ items, v'.log = items ++ v.log ∧
      TimerMove (·.firstEagainMs) sshSucceeds writeBlocked v v' items := by
  cases h with
  | wait ht => exact ⟨[], rfl, .kept (by simp) rfl⟩
  | checking hact hopen => exact ⟨[_], rfl, .kept (by simp [sshSucceeds]) rfl⟩
  | pause ssh loc hact => exact ⟨[_], rfl, .kept (by simp [sshSucceeds]) rfl⟩
  | rearmSend hset ht => exact ⟨[_], rfl, .kept (by simp [sshSucceeds]) rfl⟩
  | forwardEof hact hopen hlocal herr hfwd hlog ht =>
    exact ⟨[_], rfl, .kept (by simp [sshSucceeds]) rfl⟩
  | readData hact hh heof hb hb' ht ht' => exact ⟨[_, _], rfl, .cleared rfl⟩
  | writeData hact hh heof hb hbs hb' hshape ht ht' => exact ⟨[_, _], rfl, .cleared rfl⟩
  | rearmWrite hset ht =>
    exact ⟨[_], rfl, .armed (by simp [sshSucceeds]) ht rfl
      ⟨_, List.mem_cons_self, rfl, Nat.le_refl _⟩ (.inl hset)⟩
  | pumpRead hact hh heof ht =>
    obtain ⟨rc, hrc, rfl⟩ := not_data_of_quiet (fun x hx ↦ hquiet x (List.mem_cons_of_mem _ hx)) heof
    exact ⟨[_, _], rfl, .kept (by simp [sshSucceeds]) rfl⟩
  | @writeBusy h b b' b'' bs id t t' rc hrc first hact hh heof hb hb'' hagain ht ht' hfirst =>
    refine ⟨[_, _], rfl, ?_⟩
    rcases hfirst with ⟨-, rfl⟩ | ⟨-, rfl⟩
    · exact .armed (by simp [sshSucceeds]) (Nat.le_trans ht ht') rfl
        ⟨_, List.mem_cons_self, rfl, Nat.le_refl _⟩
        (.inr ⟨_, List.mem_cons_of_mem _ List.mem_cons_self, by simpa [writeBlocked] using hagain, ht'⟩)
    · exact .kept (by simp [sshSucceeds]) rfl
  | _ => exact ⟨[_, _], rfl, .kept (by simp [sshSucceeds]) rfl⟩

/-! ### Errors -/

/-- Errors are counted since the last success. -/
def ErrorsCounted (v : View) : Prop :=
  v.ch.consecutiveErrors ≤ (lately sshSucceeds v.log).countP sshFails

/-- A piece of work clears the counter, or counts at most what has failed. -/
theorem PumpStep.errors (h : PumpStep p ext v v') (hquiet : QuietReads v'.log) :
    ∃ items, v'.log = items ++ v.log ∧ (v'.ch.consecutiveErrors = 0 ∨
      (∀ x ∈ items, sshSucceeds x = false) ∧
        v'.ch.consecutiveErrors ≤ items.countP sshFails + v.ch.consecutiveErrors) := by
  cases h with
  | wait ht => exact ⟨[], rfl, .inr ⟨by simp, by simp⟩⟩
  | checking hact hopen => exact ⟨[_], rfl, .inr ⟨by simp [sshSucceeds], by simp⟩⟩
  | pause ssh loc hact => exact ⟨[_], rfl, .inr ⟨by simp [sshSucceeds], by simp⟩⟩
  | rearmSend hset ht => exact ⟨[_], rfl, .inr ⟨by simp [sshSucceeds], by simp⟩⟩
  | rearmWrite hset ht => exact ⟨[_], rfl, .inr ⟨by simp [sshSucceeds], by simp⟩⟩
  | forwardEof hact hopen hlocal herr hfwd hlog ht =>
    exact ⟨[_], rfl, .inr ⟨by simp [sshSucceeds], by simp⟩⟩
  | begin hact hopen hcause ht =>
    exact ⟨[_, _], rfl, .inr ⟨by simp [sshSucceeds], by simp [ChannelSlot.begun]⟩⟩
  | readData hact hh heof hb hb' ht ht' => exact ⟨[_, _], rfl, .inl rfl⟩
  | writeData hact hh heof hb hbs hb' hshape ht ht' => exact ⟨[_, _], rfl, .inl rfl⟩
  | pumpRead hact hh heof ht =>
    obtain ⟨rc, hrc, rfl⟩ := not_data_of_quiet (fun x hx ↦ hquiet x (List.mem_cons_of_mem _ hx)) heof
    exact ⟨[_, _], rfl, .inr ⟨by simp [sshSucceeds], by simp⟩⟩
  | readError hact hh hzero hagain ht =>
    exact ⟨[_, _], rfl, .inr
      ⟨by simp [sshSucceeds], by simp [sshFails, hzero, hagain, Nat.add_comm]⟩⟩
  | writeError hact hh heof hb hb'' hagain ht =>
    exact ⟨[_, _], rfl, .inr
      ⟨by simp [sshSucceeds], by simp [sshFails, hagain, Nat.add_comm]⟩⟩
  | _ => exact ⟨[_, _], rfl, .inr ⟨by simp [sshSucceeds], by simp⟩⟩

/-! ### Activity -/

/-- Bytes move, or the slot is bound. -/
def isActivity (x : SlotItem) : Bool := movesBytes x || isBound x

/-- `lastActivity` is a reading taken at the time `s`, after which nothing has moved. -/
structure ActiveUntil (v : View) (s : ℕ) : Prop where
  /-- The reading. -/
  lastActivity : v.ch.lastActivity = stamp s
  /-- It was taken in a piece of work that is complete. -/
  boundary : ∃ z ∈ v.log, isBoundary z = true ∧ s ≤ z.time
  /-- Nothing has moved since. -/
  quiet : ∀ y ∈ v.log, isActivity y = true → y.time ≤ s

/-- A piece of work moves nothing, or takes a reading for what it moves. -/
theorem PumpStep.activity (h : PumpStep p ext v v') (hquiet : QuietReads v'.log) :
    ∃ items, v'.log = items ++ v.log ∧
      (v'.ch.lastActivity = v.ch.lastActivity ∧ (∀ x ∈ items, isActivity x = false) ∨
        ∃ t, v.clock ≤ t ∧ v'.ch.lastActivity = stamp t ∧ (∀ x ∈ items, x.time ≤ t) ∧
          ∃ z ∈ items, isBoundary z = true ∧ t ≤ z.time) := by
  have hstep : ∀ {ch : ChannelSlot} {t : ℕ} {x : SlotItem},
      ∃ z ∈ [Item.mark t ch SlotMark.step, x], isBoundary z = true ∧ t ≤ z.time :=
    ⟨_, List.mem_cons_self, rfl, Nat.le_refl _⟩
  cases h with
  | wait ht => exact ⟨[], rfl, .inl ⟨rfl, by simp⟩⟩
  | checking hact hopen => exact ⟨[_], rfl, .inl ⟨rfl, by simp [isActivity, movesBytes, isBound]⟩⟩
  | pause ssh loc hact => exact ⟨[_], rfl, .inl ⟨rfl, by simp [isActivity, movesBytes, isBound]⟩⟩
  | rearmSend hset ht => exact ⟨[_], rfl, .inl ⟨rfl, by simp [isActivity, movesBytes, isBound]⟩⟩
  | rearmWrite hset ht => exact ⟨[_], rfl, .inl ⟨rfl, by simp [isActivity, movesBytes, isBound]⟩⟩
  | forwardEof hact hopen hlocal herr hfwd hlog ht =>
    exact ⟨[_], rfl, .inl ⟨rfl, by simp [isActivity, movesBytes, isBound]⟩⟩
  | readData hact hh heof hb hb' ht ht' =>
    exact ⟨[_, _], rfl, .inr ⟨_, Nat.le_trans ht ht', rfl, by simpa using ht', hstep⟩⟩
  | sendData hact hfd hb hbs hb' hshape ht ht' =>
    exact ⟨[_, _], rfl, .inr ⟨_, Nat.le_trans ht ht', rfl, by simpa using ht', hstep⟩⟩
  | writeData hact hh heof hb hbs hb' hshape ht ht' =>
    exact ⟨[_, _], rfl, .inr ⟨_, Nat.le_trans ht ht', rfl, by simpa using ht', hstep⟩⟩
  | recvData hact hfd heof hb hb' ht ht' =>
    exact ⟨[_, _], rfl, .inr ⟨_, Nat.le_trans ht ht', rfl, by simpa using ht', hstep⟩⟩
  | pumpRead hact hh heof ht =>
    obtain ⟨rc, hrc, rfl⟩ := not_data_of_quiet (fun x hx ↦ hquiet x (List.mem_cons_of_mem _ hx)) heof
    exact ⟨[_, _], rfl, .inl ⟨rfl, by simp [isActivity, movesBytes, isBound]⟩⟩
  | sendBusy hact hfd hb hb'' hr ht ht' hfirst =>
    refine ⟨[_, _], rfl, .inl ⟨rfl, ?_⟩⟩
    rcases hr with rfl | ⟨errno, -, rfl⟩ <;> simp [isActivity, movesBytes, isBound]
  | recvEnd hact hfd heof hr ht =>
    refine ⟨[_, _], rfl, .inl ⟨rfl, ?_⟩⟩
    rcases hr with rfl | ⟨errno, -, rfl⟩ <;> simp [isActivity, movesBytes, isBound]
  | _ => exact ⟨[_, _], rfl, .inl ⟨rfl, by simp [isActivity, movesBytes, isBound]⟩⟩

/-! ### Together -/

/-- The counters and timers of a slot mean what they should. -/
structure Meaningful (v : View) : Prop where
  /-- `consecutiveErrors` -/
  errors : ErrorsCounted v
  /-- `firstLocalSendEagainMs` -/
  sendTimer : SendTimer v
  /-- `firstEagainMs` -/
  writeTimer : WriteTimer v
  /-- `lastActivity` -/
  activity : ∃ s, ActiveUntil v s

/-- Work that leaves all counters and timers alone. -/
theorem Meaningful.still (h : Meaningful v) (hs : Sound p v) (hlog : v'.log = items ++ v.log)
    (hbound : ∀ x ∈ items, isBound x = false) (hmoves : ∀ x ∈ items, movesBytes x = false)
    (hsend : ∀ x ∈ items, sendAccepts x = false) (hssh : ∀ x ∈ items, sshSucceeds x = false)
    (herr : v'.ch.consecutiveErrors = v.ch.consecutiveErrors)
    (hfirst : v'.ch.firstLocalSendEagainMs = v.ch.firstLocalSendEagainMs)
    (heagain : v'.ch.firstEagainMs = v.ch.firstEagainMs)
    (hact : v'.ch.lastActivity = v.ch.lastActivity) : Meaningful v' := by
  refine ⟨?_, h.sendTimer.move hs hlog hbound (.kept hsend hfirst),
    h.writeTimer.move hs hlog hbound (.kept hssh heagain), ?_⟩
  · rw [ErrorsCounted, herr, hlog, lately_append hbound hssh, List.countP_append]
    exact Nat.le_trans h.errors (Nat.le_add_left _ _)
  · obtain ⟨s, hlast, ⟨z, hz, hbz, hsz⟩, hq⟩ := h.activity
    refine ⟨s, hact.trans hlast, ⟨z, hlog ▸ List.mem_append_right _ hz, hbz, hsz⟩, fun y hy hya ↦ ?_⟩
    rw [hlog] at hy
    rcases List.mem_append.1 hy with hy | hy
    · simp [isActivity, hmoves y hy, hbound y hy] at hya
    · exact hq y hy hya

theorem Meaningful.pump (h : Meaningful v) (hs : Sound p v) (hw : PumpStep p ext v v')
    (hquiet : QuietReads v'.log) : Meaningful v' := by
  obtain ⟨items, hlog, hbound, -⟩ := (WorkStep.pump hw).unbound
  obtain ⟨items₁, hlog₁, hsend⟩ := hw.sendTimer
  obtain ⟨items₂, hlog₂, hwrite⟩ := hw.writeTimer hquiet
  obtain ⟨items₃, hlog₃, herr⟩ := hw.errors hquiet
  obtain ⟨items₄, hlog₄, hact⟩ := hw.activity hquiet
  obtain rfl : items₁ = items := List.append_cancel_right (hlog₁.symm.trans hlog)
  obtain rfl : items₂ = items₁ := List.append_cancel_right (hlog₂.symm.trans hlog)
  obtain rfl : items₃ = items₂ := List.append_cancel_right (hlog₃.symm.trans hlog)
  obtain rfl : items₄ = items₃ := List.append_cancel_right (hlog₄.symm.trans hlog)
  refine ⟨?_, h.sendTimer.move hs hlog hbound hsend, h.writeTimer.move hs hlog hbound hwrite, ?_⟩
  · rw [ErrorsCounted]
    rcases herr with hzero | ⟨hno, hle⟩
    · rw [hzero]
      exact Nat.zero_le _
    · rw [hlog, lately_append hbound hno, List.countP_append]
      exact Nat.le_trans hle (Nat.add_le_add_left h.errors _)
  · obtain ⟨s, hlast, ⟨z, hz, hbz, hsz⟩, hq⟩ := h.activity
    rcases hact with ⟨heq, hno⟩ | ⟨t, ht, heq, htimes, z', hz', hbz', htz'⟩
    · refine ⟨s, heq.trans hlast, ⟨z, hlog ▸ List.mem_append_right _ hz, hbz, hsz⟩, fun y hy hya ↦ ?_⟩
      rw [hlog] at hy
      rcases List.mem_append.1 hy with hy | hy
      · rw [hno y hy] at hya
        cases hya
      · exact hq y hy hya
    · refine ⟨t, heq, ⟨z', hlog ▸ List.mem_append_left _ hz', hbz', htz'⟩, fun y hy _ ↦ ?_⟩
      rw [hlog] at hy
      rcases List.mem_append.1 hy with hy | hy
      · exact htimes y hy
      · exact Nat.le_trans (hs.timely y hy) ht

/-- The counters and timers of an open slot. -/
def OpenMeaningful (v : View) : Prop := v.ch.state = .open → Meaningful v

theorem OpenMeaningful.work (h : OpenMeaningful v) (hs : Sound p v) (hw : WorkStep p ext v v')
    (hquiet : QuietReads v'.log) : OpenMeaningful v' := by
  intro hopen
  cases hw with
  | pump hw =>
    refine (h ?_).pump hs hw hquiet
    cases hw with
    | begin hact hopen' hcause ht => exact hopen'
    | _ => exact hopen
  | sendEofAgain hact hst hh heof hl hr hagain ht =>
    rw [View.mark_ch, View.call_ch, hst] at hopen
    cases hopen
  | @sendEof u h id t t' rc hact hst hh heof hl hr hdone ht hflush ht' =>
    obtain ⟨ring, hch, -⟩ := hflush.frame
    rw [View.mark_ch, View.mark_ch, View.set_ch, hch] at hopen
    have hopen : v.ch.state = .open := hopen
    rw [hst] at hopen
    cases hopen
  | finalizing hact hst hτ hverdict =>
    rw [View.mark_ch, hst] at hopen
    cases hopen
  | closeChannel hact hh ht =>
    exact (h hopen).still hs (show _ = [_] ++ _ from rfl) (by simp [isBound]) (by simp [movesBytes])
      (by simp [sendAccepts]) (by simp [sshSucceeds]) rfl rfl rfl rfl
  | freeAgain hact hh hagain ht =>
    exact (h hopen).still hs (show _ = [_] ++ _ from rfl) (by simp [isBound]) (by simp [movesBytes])
      (by simp [sendAccepts]) (by simp [sshSucceeds]) rfl rfl rfl rfl

/-- A slot that has just been bound. -/
theorem meaningful_bound {h : Handle} {fd : Int} {okLocal okRemote : Bool} {id t t' : ℕ}
    (hs : Sound p v) (ht : v.clock ≤ t) :
    Meaningful (v.bound p h fd okLocal okRemote id t t') := by
  refine ⟨Nat.zero_le _, fun hset ↦ absurd rfl hset, fun hset ↦ absurd rfl hset, t, rfl, ?_, ?_⟩
  · exact ⟨_, List.mem_cons_of_mem _ List.mem_cons_self, rfl, Nat.le_refl _⟩
  · intro y hy hya
    rcases List.mem_cons.1 hy with rfl | hy
    · cases hya
    rcases List.mem_cons.1 hy with rfl | hy
    · exact Nat.le_refl _
    · exact Nat.le_trans (hs.timely y hy) ht

theorem openMeaningful_of_reach {clock : ℕ} (h : Reach p ext (.fresh clock) v)
    (hquiet : QuietReads v.log) : OpenMeaningful v := by
  induction h with
  | refl => exact fun hopen ↦ by cases hopen
  | @tail v v' hr hs ih =>
    have hsound := (sound_fresh clock).reach hr
    obtain ⟨items, hlog⟩ := hs.log_append
    have ih := ih fun x hx ↦ hquiet x (hlog ▸ List.mem_append_right _ hx)
    cases hs with
    | work hw => exact ih.work hsound hw hquiet
    | bind hact hfd ht ht' => exact fun _ ↦ meaningful_bound hsound ht
    | release hact hh hdone ht ht' ht'' => exact fun hopen ↦ by cases hopen
    | abandon hact ht => exact fun hopen ↦ by cases hopen

end ReverseTunnel
