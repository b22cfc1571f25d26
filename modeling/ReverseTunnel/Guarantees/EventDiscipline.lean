import Mathlib.Data.List.Nodup
import Mathlib.Data.List.Perm.Subperm
import ReverseTunnel.System.Events
import ReverseTunnel.System.Trace

/-!
# The order of events

Between two operations of the tunnel a slot is reported as opened exactly if it is in use, and the
session as connected exactly if the tunnel is connected. So for every slot the reports go round: bound,
opened, closed, and for the session: connected, disconnected.

Close events come from three places. In a pump cycle they are collected and reported after it; at most
one for every slot, so that they all fit as long as there are no more slots than places for events. An
error and `disconnect` report every slot in use before they drop it, and the second pass over the slots
finds nothing that has not been reported. After an error in the middle of `loop` nothing is left to be
pumped, bound or reported.
-/

namespace ReverseTunnel

open Traced TunnelM

variable {p : Params} {y : Story} {w : TunnelWorld} {i : ℕ}

/-! ### Stories -/

/-- The story between two operations. -/
structure Story.Quiet (y : Story) (p : Params) : Prop where
  /-- A slot is reported as opened if it is in use. -/
  stage_eq : ∀ i, y.stage i = if y.active i = true then .live else .free
  /-- Only slots in range are in use. -/
  range : ∀ i, p.maxSlots ≤ i → y.active i = false
  /-- No slot is in use while the tunnel is not connected. -/
  vacant : y.state ≠ .connected → ∀ i, y.active i = false
  /-- No close event waits. -/
  events : y.events = []
  /-- The session is not degraded. -/
  degraded : y.degraded = false
  /-- The session is reported as connected if the tunnel is. -/
  up_eq : y.up = decide (y.state = .connected)

/-- The story within a pump cycle: slots that are no longer in use wait to be reported. -/
structure Story.Pumped (y : Story) (p : Params) : Prop where
  /-- A slot is reported as opened if it is in use or waits to be reported as closed. -/
  stage_eq : ∀ i, y.stage i =
    if y.active i = true ∨ i ∈ y.events.map Prod.fst then .live else .free
  /-- Only slots in range are in use. -/
  range : ∀ i, p.maxSlots ≤ i → y.active i = false
  /-- Slots that wait are in range. -/
  events_lt : ∀ i ∈ y.events.map Prod.fst, i < p.maxSlots
  /-- Slots that wait are not in use. -/
  ended : ∀ i ∈ y.events.map Prod.fst, y.active i = false
  /-- A slot waits once. -/
  nodup : (y.events.map Prod.fst).Nodup
  /-- A tunnel that is not connected has nothing to report. -/
  vacant : y.state ≠ .connected → (∀ i, y.active i = false) ∧ y.events = [] ∧ y.degraded = false
  /-- The session is reported as connected if the tunnel is. -/
  up_eq : y.up = decide (y.state = .connected)

/-- The story within a teardown: the slots of `l` have still to be reported, if they are in use. -/
structure Story.Closing (y : Story) (p : Params) (l : List ℕ) : Prop where
  /-- The others have been reported. -/
  stage_eq : ∀ i, y.stage i = if y.active i = true ∧ i ∈ l then .live else .free
  /-- Only slots in range are in use. -/
  range : ∀ i, p.maxSlots ≤ i → y.active i = false
  /-- No close event waits. -/
  events : y.events = []
  /-- The session is not degraded. -/
  degraded : y.degraded = false
  /-- The session is reported as connected if the tunnel is. -/
  up_eq : y.up = decide (y.state = .connected)

theorem Story.Quiet.pumped (h : y.Quiet p) : y.Pumped p := by
  refine ⟨fun i ↦ ?_, h.range, ?_, ?_, ?_, fun hst ↦ ⟨h.vacant hst, h.events, h.degraded⟩, h.up_eq⟩
  · simp [h.stage_eq i, h.events]
  · simp [h.events]
  · simp [h.events]
  · simp [h.events]

theorem Story.Quiet.closing (h : y.Quiet p) : y.Closing p (List.range p.maxSlots) := by
  refine ⟨fun i ↦ ?_, h.range, h.events, h.degraded, h.up_eq⟩
  rw [h.stage_eq i]
  by_cases hi : i < p.maxSlots
  · simp [hi]
  · simp [h.range i (Nat.le_of_not_lt hi)]

/-- A slot in use is released, and waits to be reported. -/
def Story.ended (y : Story) (i : ℕ) (reason : ChannelCloseReason) (degraded : Bool) : Story :=
  { y.setActive i false with events := y.events ++ [(i, reason)], degraded := degraded }

theorem Story.ended_active_same (y : Story) (i : ℕ) (reason : ChannelCloseReason) (degraded : Bool) :
    (y.ended i reason degraded).active i = false := Function.update_self ..

theorem Story.ended_active_ne {j : ℕ} (h : j ≠ i) (reason : ChannelCloseReason) (degraded : Bool) :
    (y.ended i reason degraded).active j = y.active j := Function.update_of_ne h ..

theorem Story.map_ended_events (y : Story) (i : ℕ) (reason : ChannelCloseReason) (degraded : Bool) :
    (y.ended i reason degraded).events.map Prod.fst = y.events.map Prod.fst ++ [i] := by
  rw [ended, List.map_append]
  rfl

theorem Story.Pumped.lt_maxSlots (h : y.Pumped p) (hact : y.active i = true) : i < p.maxSlots := by
  by_contra hi
  rw [h.range i (Nat.le_of_not_lt hi)] at hact
  cases hact

theorem Story.Pumped.not_mem (h : y.Pumped p) (hact : y.active i = true) :
    i ∉ y.events.map Prod.fst := by
  intro hi
  rw [h.ended i hi] at hact
  cases hact

theorem Story.Pumped.end (h : y.Pumped p) (hact : y.active i = true) (reason : ChannelCloseReason)
    (degraded : Bool) : (y.ended i reason degraded).Pumped p := by
  have hmap := y.map_ended_events i reason degraded
  have hself := y.ended_active_same i reason degraded
  refine ⟨fun j ↦ ?_, fun j hj ↦ ?_, fun j hj ↦ ?_, fun j hj ↦ ?_, ?_, fun hst ↦ ?_, h.up_eq⟩
  · have hstage : (y.ended i reason degraded).stage j = y.stage j := rfl
    rw [hstage, h.stage_eq j, hmap]
    by_cases hj : j = i
    · subst hj
      rw [if_pos (.inl hact), if_pos (.inr (by simp))]
    · refine if_congr ?_ rfl rfl
      rw [Story.ended_active_ne hj, List.mem_append, List.mem_singleton, or_iff_left hj]
  · by_cases hji : j = i
    · rw [hji, hself]
    · rw [Story.ended_active_ne hji, h.range j hj]
  · rw [hmap] at hj
    rcases List.mem_append.1 hj with hj | hj
    · exact h.events_lt j hj
    · obtain rfl := List.mem_singleton.1 hj
      exact h.lt_maxSlots hact
  · by_cases hji : j = i
    · rw [hji, hself]
    · rw [hmap] at hj
      rw [Story.ended_active_ne hji]
      exact h.ended j ((List.mem_append.1 hj).resolve_right (by simpa using hji))
  · rw [hmap]
    exact List.Nodup.append h.nodup (List.nodup_singleton i) (by simpa using h.not_mem hact)
  · rw [(h.vacant hst).1 i] at hact
    cases hact

/-- There is room for one more event. -/
theorem Story.Pumped.length_lt (h : y.Pumped p) (hact : y.active i = true) :
    y.events.length < p.maxSlots := by
  have hnodup : (i :: y.events.map Prod.fst).Nodup := List.nodup_cons.2 ⟨h.not_mem hact, h.nodup⟩
  have hsub : i :: y.events.map Prod.fst ⊆ List.range p.maxSlots := by
    intro j hj
    rw [List.mem_range]
    rcases List.mem_cons.1 hj with rfl | hj
    · exact h.lt_maxSlots hact
    · exact h.events_lt j hj
  have hlen := (hnodup.subperm hsub).length_le
  simpa [Nat.succ_le_iff] using hlen

theorem Story.Pumped.length_le (h : y.Pumped p) : y.events.length ≤ p.maxSlots := by
  have hsub : y.events.map Prod.fst ⊆ List.range p.maxSlots :=
    fun j hj ↦ List.mem_range.2 (h.events_lt j hj)
  have hlen := (h.nodup.subperm hsub).length_le
  simpa using hlen

/-! ### A pump cycle -/

theorem told_pushCloseEvent (reason : ChannelCloseReason) (h : y.events.length < maxCloseEvents) :
    Triple (Told y) (pushCloseEvent i reason) fun _ ↦
      Told { y with events := y.events ++ [(i, reason)] } := by
  intro w hw
  rw [pushCloseEvent]
  refine wp_modify ⟨hw.stage, hw.up, hw.active, hw.state, ?_, ?_, hw.idle⟩
  · simp [hw.events, h]
  · simp [hw.events, h, hw.degraded]

theorem told_setDegraded (degraded : Bool) :
    Triple (Told y) (modifyTransport fun t ↦ { t with sessionDegraded := degraded }) fun _ ↦
      Told { y with degraded := degraded } :=
  fun _ hw ↦ wp_modify ⟨hw.stage, hw.up, hw.active, hw.state, hw.events, rfl, hw.idle⟩

/-- Within a pump cycle. The state does not change, nor does the pending queue. -/
def Pumping (p : Params) (state : TunnelState) (idle : Bool) (P : Story → Prop) (w : TunnelWorld) :
    Prop :=
  ∃ y, Told y w ∧ y.Pumped p ∧ y.state = state ∧ y.idle = idle ∧ P y

section Pump

variable {state : TunnelState} {idle : Bool}

/-- The slots picked for closing are in use, and none of them is still to be looked at. -/
structure ToClose (l toClose : List ℕ) (y : Story) : Prop where
  /-- In use. -/
  active : ∀ j ∈ toClose, y.active j = true
  /-- Looked at. -/
  not_mem : ∀ j ∈ toClose, j ∉ l
  /-- ToClose once. -/
  nodup : toClose.Nodup

theorem mem_pushPick {l : List ℕ} {j : ℕ} (h : j ∈ pushPick p l i) : j ∈ l ∨ j = i := by
  rw [pushPick] at h
  split at h
  · simpa using h
  · exact .inl h

theorem nodup_pushPick {l : List ℕ} (h : l.Nodup) (hi : i ∉ l) : (pushPick p l i).Nodup := by
  rw [pushPick]
  split
  · exact List.Nodup.append h (List.nodup_singleton i) (by simpa using hi)
  · exact h

theorem ToClose.tail {l toClose : List ℕ} (h : ToClose (i :: l) toClose y) : ToClose l toClose y :=
  ⟨h.active, fun j hj hl ↦ h.not_mem j hj (List.mem_cons_of_mem _ hl), h.nodup⟩

theorem ToClose.push {l toClose : List ℕ} (h : ToClose (i :: l) toClose y) (hact : y.active i = true)
    (hi : i ∉ l) : ToClose l (pushPick p toClose i) y := by
  refine ⟨fun j hj ↦ ?_, fun j hj hl ↦ ?_, nodup_pushPick h.nodup fun hmem ↦ ?_⟩
  · rcases mem_pushPick hj with hj | rfl
    · exact h.active j hj
    · exact hact
  · rcases mem_pushPick hj with hj | rfl
    · exact h.not_mem j hj (List.mem_cons_of_mem _ hl)
    · exact hi hl
  · exact h.not_mem i hmem (List.mem_cons_self ..)

theorem ToClose.ended {l toClose : List ℕ} (h : ToClose (i :: l) toClose y)
    (reason : ChannelCloseReason) (degraded : Bool) :
    ToClose l toClose (y.ended i reason degraded) := by
  refine ⟨fun j hj ↦ ?_, h.tail.not_mem, h.nodup⟩
  have hji : j ≠ i := fun heq ↦ h.not_mem j hj (heq ▸ List.mem_cons_self ..)
  rw [Story.ended_active_ne hji]
  exact h.active j hj

theorem pumping_scanSlot (hmax : p.maxSlots ≤ maxCloseEvents) (now : UInt32) {l : List ℕ}
    (hi : i ∉ l) (picks : Picks) :
    Triple (Pumping p state idle (ToClose (i :: l) picks.toClose)) (scanSlot p now picks i)
      fun picks ↦ Pumping p state idle (ToClose l picks.toClose) := by
  rintro w ⟨y, hw, hp, hst, hidle, hpick⟩
  refine told_getSlot_bind (fun ch hch w hw ↦ ?_) w hw
  refine wp_ite (fun _ ↦ wp_pure ⟨y, hw, hp, hst, hidle, hpick.tail⟩) fun hdrain ↦ ?_
  have hact : y.active i = true := by
    rw [← hch]
    simp only [Bool.or_eq_true, Bool.not_eq_true', not_or, Bool.not_eq_false] at hdrain
    exact hdrain.1
  split
  · refine wp_bind (wp_mono (told_mark (fun _ _ ↦ by rfl) w hw) fun _ w hw ↦ ?_)
    refine wp_bind (wp_mono (told_abandonSlot _ (hp.lt_maxSlots hact) w hw) fun _ w hw ↦ ?_)
    refine wp_bind (wp_mono (told_setDegraded true w hw) fun _ w hw ↦ ?_)
    have hroom : y.events.length < maxCloseEvents := Nat.lt_of_lt_of_le (hp.length_lt hact) hmax
    refine wp_bind (wp_mono (told_pushCloseEvent _ (by exact hroom) w hw) fun _ w hw ↦ wp_pure ?_)
    exact ⟨_, hw, hp.end hact ch.closeReason true, hst, hidle, hpick.ended _ _⟩
  · exact wp_pure ⟨y, hw, hp, hst, hidle, hpick.push hact hi⟩
  · exact wp_pure ⟨y, hw, hp, hst, hidle, hpick.tail⟩
  · exact wp_pure ⟨y, hw, hp, hst, hidle, hpick.tail⟩

theorem pumping_finalizePick (hmax : p.maxSlots ≤ maxCloseEvents) (now : UInt32) {l : List ℕ}
    (hi : i ∉ l) :
    Triple (Pumping p state idle fun y ↦ ∀ j ∈ i :: l, y.active j = true) (finalizePick p now i)
      fun _ ↦ Pumping p state idle fun y ↦ ∀ j ∈ l, y.active j = true := by
  rintro w ⟨y, hw, hp, hst, hidle, hall⟩
  have hact := hall i (List.mem_cons_self ..)
  refine told_getSlot_bind (fun ch hch w hw ↦ ?_) w hw
  refine wp_bind (wp_mono (told_onSlot i (fun a ↦ (slotKeeps_still a).mark _ rfl) w hw) fun _ w hw ↦ ?_)
  refine wp_bind (wp_mono (told_finalizeClose (hp.lt_maxSlots hact) w hw) fun done w hw ↦ ?_)
  refine wp_when (fun hdone ↦ ?_) fun hdone ↦ ?_
  · rw [if_pos hdone] at hw
    have hroom : y.events.length < maxCloseEvents := Nat.lt_of_lt_of_le (hp.length_lt hact) hmax
    refine wp_mono (told_pushCloseEvent _ (by exact hroom) w hw) fun _ w hw ↦ ?_
    refine ⟨_, hw, hp.end hact ch.closeReason y.degraded, hst, hidle, fun j hj ↦ ?_⟩
    have hji : j ≠ i := fun heq ↦ hi (heq ▸ hj)
    exact (Story.ended_active_ne hji ch.closeReason y.degraded).trans
      (hall j (List.mem_cons_of_mem _ hj))
  · rw [if_neg (by simpa using hdone)] at hw
    exact ⟨y, hw, hp, hst, hidle, fun j hj ↦ hall j (List.mem_cons_of_mem _ hj)⟩

/-- A function that adds nothing to the story, within a pump cycle. -/
theorem pumping_of_told {α : Type} {m : TunnelM α} {P : Story → Prop}
    (hm : ∀ y, Preserves (Told y) m) : Preserves (Pumping p state idle P) m := by
  rintro w ⟨y, hw, hrest⟩
  exact wp_mono (hm y w hw) fun _ w hw ↦ ⟨y, hw, hrest⟩

theorem pumping_weaken {P Q : Story → Prop} (hPQ : ∀ y, P y → Q y) (h : Pumping p state idle P w) :
    Pumping p state idle Q w := by
  obtain ⟨y, hw, hp, hst, hidle, hP⟩ := h
  exact ⟨y, hw, hp, hst, hidle, hPQ y hP⟩

theorem pumping_finalizePicks (hmax : p.maxSlots ≤ maxCloseEvents) (now : UInt32)
    (toClose : List ℕ) :
    Triple (Pumping p state idle (ToClose [] toClose)) (finalizePicks p now toClose)
      fun _ ↦ Pumping p state idle fun _ ↦ True := by
  refine fun w hw ↦ wp_ite (fun _ ↦ ?_) fun _ ↦ wp_pure (pumping_weaken (fun _ _ ↦ trivial) hw)
  have hnodup : toClose.Nodup := by
    obtain ⟨y, -, -, -, -, hpick⟩ := hw
    exact hpick.nodup
  refine wp_bind (wp_mono (pumping_of_told (fun _ ↦ told_lock _) w hw) fun locked w hw ↦ ?_)
  refine wp_ite (fun _ ↦ ?_) fun _ ↦ wp_pure (pumping_weaken (fun _ _ ↦ trivial) hw)
  have hloop := Triple.each (l := toClose) (f := finalizePick p now)
    (I := fun l ↦ Pumping p state idle fun y ↦ ∀ j ∈ l, y.active j = true) fun i l hs ↦
      pumping_finalizePick hmax now (List.nodup_cons.1 (hs.sublist.nodup hnodup)).1
  refine wp_bind (wp_mono (hloop w (pumping_weaken (fun _ h ↦ h.active) hw)) fun _ w hw ↦ ?_)
  exact wp_mono (pumping_of_told (fun _ ↦ told_unlock) w hw) fun _ w hw ↦
    pumping_weaken (fun _ _ ↦ trivial) hw

theorem pumping_checkCloses (hmax : p.maxSlots ≤ maxCloseEvents) :
    Preserves (Pumping p state idle fun _ ↦ True) (checkCloses p) := by
  refine (pumping_of_told fun _ ↦ told_millis).bind fun now ↦ Preserves.bind ?_ fun _ ↦
    (pumping_of_told fun _ ↦ told_millis).bind fun now ↦ ?_
  · exact Preserves.each fun i _ ↦ pumping_of_told fun _ ↦
      told_onSlot i fun a ↦ (slotKeeps_still a).checkSlot now
  have hnodup : (List.range p.maxSlots).Nodup := List.nodup_range
  have hscan := Triple.fold (l := List.range p.maxSlots) (a := ({} : Picks)) (f := scanSlot p now)
    (I := fun l picks ↦ Pumping p state idle (ToClose l picks.toClose)) fun i l picks hs ↦
      pumping_scanSlot hmax now (List.nodup_cons.1 (hs.sublist.nodup hnodup)).1 picks
  refine Triple.bind (hscan.pre fun w hw ↦ pumping_weaken (fun y _ ↦ ?_) hw) fun picks ↦ ?_
  · exact ⟨by simp, by simp, List.nodup_nil⟩
  · exact Triple.bind (pumping_of_told fun _ ↦ told_sendEofs _) fun _ ↦
      pumping_finalizePicks hmax now _

theorem pumping_pumpAll (hmax : p.maxSlots ≤ maxCloseEvents) :
    Preserves (Pumping p state idle fun _ ↦ True) (pumpAll p) := by
  refine (pumping_of_told fun _ ↦ told_modifyTransport (fun _ ↦ by rfl) fun _ ↦ by rfl).bind fun _ ↦ ?_
  exact (pumping_of_told fun _ ↦ told_pumpSshTransport).bind fun _ ↦
    (pumping_of_told fun _ ↦ told_drainSshToLocal).bind fun _ ↦
    (pumping_of_told fun _ ↦ told_drainLocalToSsh).bind fun _ ↦
    (pumping_checkCloses hmax).bind fun _ ↦ Preserves.get_bind fun _ ↦ Preserves.ret

end Pump

/-! ### Teardown -/

/-- The story after everything has been dropped. -/
def Story.vacated (y : Story) : Story := { y with active := fun _ ↦ false, idle := true }

theorem told_sessionDisconnect : Preserves (Told y) sessionDisconnect :=
  (told_mark fun _ _ ↦ by rfl).bind fun _ ↦ sessionKeeps_told.cancelAllListeners.bind fun _ ↦
    sessionKeeps_told.cleanupSession

theorem told_nullPending :
    Triple (Told y) (modifyQueue .pending (·.nulled)) fun _ ↦ Told { y with idle := true } := by
  intro w hw
  rw [modifyQueue]
  exact wp_modify ⟨hw.stage, hw.up, hw.active, hw.state, hw.events, hw.degraded, fun _ ↦ rfl⟩

/-- Whatever is still in use is dropped, without a report. -/
theorem told_dropEverything (reason : ChannelCloseReason)
    (hrange : ∀ i, p.maxSlots ≤ i → y.active i = false) :
    Triple (Told y) (dropEverything p reason) fun _ ↦ Told y.vacated := by
  refine Triple.bind told_sessionDisconnect fun _ ↦ ?_
  -- slots still in use are still to be visited
  have hloop := Triple.each (l := List.range p.maxSlots) (f := fun i ↦ abandonSlot p i reason)
    (I := fun l w ↦ ∃ a : ℕ → Bool, (∀ j, a j = true → j ∈ l) ∧ Told { y with active := a } w) ?_
  · refine Triple.bind (hloop.pre fun w hw ↦ ⟨y.active, fun j hj ↦ ?_, hw⟩) fun _ ↦ ?_
    · rw [List.mem_range]
      by_contra hge
      rw [hrange j (Nat.le_of_not_lt hge)] at hj
      cases hj
    · rintro w ⟨a, ha, hw⟩
      obtain rfl : a = fun _ ↦ false := by
        funext j
        by_contra hj
        cases ha j (by simpa using hj)
      refine wp_bind (wp_mono (told_nullPending w hw) fun _ w hw ↦ ?_)
      exact told_modifyQueue (fun hq ↦ by cases hq) w hw
  · rintro i l hs w ⟨a, ha, hw⟩
    have hi : i < p.maxSlots := List.mem_range.1 (hs.subset (List.mem_cons_self ..))
    refine wp_mono (told_abandonSlot reason hi w hw) fun _ w hw ↦ ⟨_, fun j hj ↦ ?_, hw⟩
    by_cases hji : j = i
    · subst hji
      rw [Function.update_self] at hj
      cases hj
    · rw [Function.update_of_ne hji] at hj
      exact (List.mem_cons.1 (ha j hj)).resolve_left hji

theorem told_releaseSlot (locked : Bool) (reason : ChannelCloseReason) (hi : i < p.maxSlots) :
    Triple (Told y) (releaseSlot p locked i reason) fun _ w ↦ ∃ a, Told (y.setActive i a) w := by
  cases locked with
  | true =>
    refine fun w hw ↦ wp_bind (wp_mono (told_finalizeClose hi w hw) fun done w hw ↦ wp_pure ?_)
    cases done with
    | true => exact ⟨false, hw⟩
    | false => exact ⟨y.active i, by rwa [Story.setActive_self rfl]⟩
  | false => exact fun w hw ↦ wp_mono (told_abandonSlot reason hi w hw) fun _ w hw ↦ ⟨false, hw⟩

/-- Within a teardown. The state does not change. -/
def TearingDown (p : Params) (state : TunnelState) (l : List ℕ) (w : TunnelWorld) : Prop :=
  ∃ y, Told y w ∧ y.Closing p l ∧ y.state = state

section Teardown

variable {state : TunnelState} {l : List ℕ}

theorem Story.Closing.tail (h : y.Closing p (i :: l)) (hno : y.active i = false) :
    y.Closing p l := by
  refine ⟨fun j ↦ ?_, h.range, h.events, h.degraded, h.up_eq⟩
  rw [h.stage_eq j]
  refine if_congr (and_congr_right fun hj ↦ ?_) rfl rfl
  have hji : j ≠ i := by
    rintro rfl
    rw [hno] at hj
    cases hj
  simp [hji]

theorem Story.Closing.report (h : y.Closing p (i :: l)) (hi : i < p.maxSlots) (hnot : i ∉ l)
    (a : Bool) : ((y.setActive i a).setStage i .free).Closing p l := by
  refine ⟨fun j ↦ ?_, fun j hj ↦ ?_, h.events, h.degraded, h.up_eq⟩
  · by_cases hji : j = i
    · subst hji
      rw [Story.setStage_stage_same, if_neg fun hl ↦ hnot hl.2]
    · rw [Story.setStage_stage_ne hji]
      refine (h.stage_eq j).trans (if_congr ?_ rfl rfl)
      rw [List.mem_cons, or_iff_right hji]
      refine and_congr_left fun _ ↦ ?_
      rw [← Story.setActive_active_ne hji a]
      exact Iff.rfl
  · have hji : j ≠ i := by omega
    exact (Story.setActive_active_ne hji a).trans (h.range j hj)

/-- A slot in use is released and reported. -/
theorem tearingDown_report (locked : Bool) (reason reason' : ChannelCloseReason)
    (hy : y.Closing p (i :: l)) (hst : y.state = state) (hact : y.active i = true)
    (hi : i < p.maxSlots) (hnot : i ∉ l) :
    Triple (Told y) (do
      releaseSlot p locked i reason
      emit (.channelClosed i reason')) fun _ ↦ TearingDown p state l := by
  refine fun w hw ↦ wp_bind (wp_mono (told_releaseSlot locked reason hi w hw) fun _ w ⟨a, hw⟩ ↦ ?_)
  have hlive : (y.setActive i a).stage i = .live :=
    (hy.stage_eq i).trans (if_pos ⟨hact, List.mem_cons_self ..⟩)
  refine wp_mono (told_emit_closed reason' hlive w hw) fun _ w hw ↦ ?_
  exact ⟨_, hw, hy.report hi hnot a, hst⟩

theorem tearingDown_closeOrphan (locked : Bool) (hi : i < p.maxSlots) (hnot : i ∉ l) :
    Triple (TearingDown p state (i :: l)) (closeOrphan p locked i) fun _ ↦
      TearingDown p state l := by
  rintro w ⟨y, hw, hy, hst⟩
  refine told_getSlot_bind (fun ch hch w hw ↦ wp_ite (fun hact ↦ ?_) fun hact ↦ ?_) w hw
  · exact tearingDown_report locked _ _ hy hst (hch ▸ hact) hi hnot w hw
  · exact wp_pure ⟨y, hw, hy.tail (by rw [← hch]; simpa using hact), hst⟩

theorem tearingDown_closeManually (locked : Bool) (hi : i < p.maxSlots) (hnot : i ∉ l) :
    Triple (TearingDown p state (i :: l)) (closeManually p locked i) fun _ ↦
      TearingDown p state l := by
  rintro w ⟨y, hw, hy, hst⟩
  refine told_getSlot_bind (fun ch hch w hw ↦ wp_ite (fun hact ↦ ?_) fun hact ↦ ?_) w hw
  · exact wp_pure ⟨y, hw, hy.tail (by rw [← hch]; simpa using hact), hst⟩
  · exact tearingDown_report locked _ _ hy hst (hch ▸ by simpa using hact) hi hnot w hw

/-- One pass over all slots. -/
theorem tearingDown_each {f : ℕ → TunnelM Unit}
    (hf : ∀ i l, i < p.maxSlots → i ∉ l →
      Triple (TearingDown p state (i :: l)) (f i) fun _ ↦ TearingDown p state l) :
    Triple (TearingDown p state (List.range p.maxSlots))
      (Prog.each (List.range p.maxSlots) f) fun _ ↦ TearingDown p state [] := by
  have hnodup : (List.range p.maxSlots).Nodup := List.nodup_range
  exact Triple.each (I := TearingDown p state) fun i l hs ↦
    hf i l (List.mem_range.1 (hs.subset (List.mem_cons_self ..)))
      (List.nodup_cons.1 (hs.sublist.nodup hnodup)).1

theorem tearingDown_of_told {α : Type} {m : TunnelM α} (hm : ∀ y, Preserves (Told y) m) :
    Preserves (TearingDown p state l) m := by
  rintro w ⟨y, hw, hrest⟩
  exact wp_mono (hm y w hw) fun _ w hw ↦ ⟨y, hw, hrest⟩

/-- Everything has been dropped and reported, the session apart. -/
def AllDropped (p : Params) (state : TunnelState) (w : TunnelWorld) : Prop :=
  ∃ y, Told y w ∧ y.Closing p [] ∧ y.state = state ∧ y.idle = true ∧ ∀ i, y.active i = false

theorem tearingDown_dropEverything (reason : ChannelCloseReason) :
    Triple (TearingDown p state []) (dropEverything p reason) fun _ ↦ AllDropped p state := by
  rintro w ⟨y, hw, hy, hst⟩
  refine wp_mono (told_dropEverything reason hy.range w hw) fun _ w hw ↦ ?_
  refine ⟨_, hw, ⟨fun i ↦ ?_, fun _ _ ↦ rfl, hy.events, hy.degraded, hy.up_eq⟩, hst, rfl,
    fun _ ↦ rfl⟩
  exact (hy.stage_eq i).trans (by simp)

end Teardown

/-! ### The operations -/

/-- Between two operations. -/
def Rested (p : Params) (w : TunnelWorld) : Prop :=
  ∃ y, Told y w ∧ y.Quiet p ∧ y.state ≠ .connecting

/-- Connected; channels may be bound and queued. -/
def Serves (p : Params) (w : TunnelWorld) : Prop :=
  ∃ y, Told y w ∧ y.Quiet p ∧ y.state = .connected ∧ y.idle = false

/-- After an error; there is nothing left. -/
def Broken (p : Params) (w : TunnelWorld) : Prop :=
  ∃ y, Told y w ∧ y.Quiet p ∧ y.state = .error ∧ y.idle = true

theorem Serves.rested (h : Serves p w) : Rested p w := by
  obtain ⟨y, hw, hq, hst, -⟩ := h
  exact ⟨y, hw, hq, by rw [hst]; simp⟩

theorem Broken.rested (h : Broken p w) : Rested p w := by
  obtain ⟨y, hw, hq, hst, -⟩ := h
  exact ⟨y, hw, hq, by rw [hst]; simp⟩

/-- Nothing need be said about the pending queue. -/
theorem Told.busy (h : Told y w) : Told { y with idle := false } w :=
  ⟨h.stage, h.up, h.active, h.state, h.events, h.degraded, fun hno ↦ by cases hno⟩

theorem serves_of_quiet (hw : Told y w) (hq : y.Quiet p) (hst : y.state = .connected) : Serves p w :=
  ⟨_, hw.busy, ⟨hq.stage_eq, hq.range, hq.vacant, hq.events, hq.degraded, hq.up_eq⟩, hst, rfl⟩

theorem serves_of_told {α : Type} {m : TunnelM α}
    (hm : ∀ y : Story, y.idle = false → Preserves (Told y) m) : Preserves (Serves p) m := by
  rintro w ⟨y, hw, hq, hst, hidle⟩
  exact wp_mono (hm y hidle w hw) fun _ w hw ↦ ⟨y, hw, hq, hst, hidle⟩

theorem rested_of_told {α : Type} {m : TunnelM α} (hm : ∀ y, Preserves (Told y) m) :
    Preserves (Rested p) m := by
  rintro w ⟨y, hw, hrest⟩
  exact wp_mono (hm y w hw) fun _ w hw ↦ ⟨y, hw, hrest⟩

/-- A new state, and nothing else a story speaks about. -/
theorem told_setState {f : SSHTunnel → SSHTunnel} (state : TunnelState)
    (hs : ∀ s, (f s).state = state) (hc : ∀ s, (f s).channels = s.channels)
    (ht : ∀ s, (f s).transport = s.transport) (hp : ∀ s, (f s).pending = s.pending) :
    Triple (Told y) (Prog.modify f) fun _ ↦ Told { y with state := state } := by
  refine fun w hw ↦ wp_modify ⟨hw.stage, hw.up, fun i ↦ ?_, hs _, ?_, ?_, fun hidle ↦ ?_⟩
  · rw [World.update_st, hc]
    exact hw.active i
  · rw [World.update_st, ht]
    exact hw.events
  · rw [World.update_st, ht]
    exact hw.degraded
  · rw [World.update_st, hp]
    exact hw.idle hidle

/-- A change of the counters and timestamps of the tunnel. -/
theorem told_setFields {f : SSHTunnel → SSHTunnel} (hs : ∀ s, (f s).state = s.state)
    (hc : ∀ s, (f s).channels = s.channels) (ht : ∀ s, (f s).transport = s.transport)
    (hp : ∀ s, (f s).pending = s.pending) : Preserves (Told y) (Prog.modify f) :=
  told_modify fun s ↦ ⟨fun i ↦ by rw [hc], hs s, by rw [ht], by rw [ht], by rw [hp]⟩

theorem Serves.tearingDown (h : Serves p w) :
    TearingDown p .connected (List.range p.maxSlots) w := by
  obtain ⟨y, hw, hq, hst, -⟩ := h
  exact ⟨y, hw, hq.closing, hst⟩

/-- Every slot in use is reported as closed, then the session as disconnected. -/
theorem serves_enterErrorState : Triple (Serves p) (enterErrorState p) fun _ ↦ Broken p := by
  refine Triple.pre (P := TearingDown p .connected (List.range p.maxSlots)) ?_ fun _ ↦
    Serves.tearingDown
  refine Triple.bind (tearingDown_of_told fun _ ↦ told_mark fun _ _ ↦ by rfl) fun _ ↦ ?_
  refine Triple.bind (tearingDown_of_told fun _ ↦ told_clearQueue _) fun _ ↦ ?_
  refine Triple.bind (tearingDown_of_told fun _ ↦ told_clearQueue _) fun _ ↦ ?_
  refine Triple.bind (tearingDown_of_told fun _ ↦ told_lock _) fun locked ↦ ?_
  refine Triple.bind (tearingDown_each fun i l hi hnot ↦ tearingDown_closeOrphan locked hi hnot)
    fun _ ↦ ?_
  refine Triple.bind (tearingDown_of_told fun _ ↦ Preserves.when told_unlock) fun _ ↦ ?_
  refine Triple.bind (tearingDown_dropEverything _) fun _ ↦ ?_
  rintro w ⟨y, hw, hy, hst, hidle, hvacant⟩
  have hup : y.up = true := by rw [hy.up_eq, hst]; rfl
  refine wp_bind (wp_mono (told_updateStats w hw) fun _ w hw ↦ ?_)
  refine wp_bind (wp_mono (told_setState .error (fun _ ↦ by rfl) (fun _ ↦ by rfl)
    (fun _ ↦ by rfl) (fun _ ↦ by rfl) w hw) fun _ w hw ↦ ?_)
  refine wp_bind (wp_mono (told_millis w hw) fun now w hw ↦ ?_)
  refine wp_bind (wp_mono (told_setFields (fun _ ↦ by rfl) (fun _ ↦ by rfl) (fun _ ↦ by rfl)
    (fun _ ↦ by rfl) w hw) fun _ w hw ↦ ?_)
  refine wp_bind (wp_mono (told_mark (fun _ _ ↦ by rfl) w hw) fun _ w hw ↦ ?_)
  refine wp_bind (wp_mono (told_emit_disconnected (by exact hup) w hw) fun _ w hw ↦ ?_)
  refine wp_mono (told_mark (fun _ _ ↦ by rfl) w hw) fun _ w hw ↦ ⟨_, hw, ?_, rfl, hidle⟩
  refine ⟨fun i ↦ (hy.stage_eq i).trans ?_, fun i _ ↦ hvacant i, fun _ ↦ hvacant, hy.events,
    hy.degraded, rfl⟩
  simp [hvacant]

theorem rested_disconnect : Preserves (Rested p) (disconnect p) := by
  rintro w ⟨y, hw, hq, -⟩
  have hw : TearingDown p y.state (List.range p.maxSlots) w := ⟨y, hw, hq.closing, rfl⟩
  generalize y.state = state at hw
  refine wp_bind (wp_mono (tearingDown_of_told (fun _ ↦ told_mark fun _ _ ↦ by rfl) w hw) fun _ w hw ↦ ?_)
  refine wp_bind (wp_mono (tearingDown_of_told (fun _ ↦ told_clearQueue _) w hw) fun _ w hw ↦ ?_)
  refine wp_bind (wp_mono (tearingDown_of_told (fun _ ↦ told_clearQueue _) w hw) fun _ w hw ↦ ?_)
  have hlock : ∀ y, Preserves (Told y) (lockIfConnected 2000) := fun y ↦
    Preserves.get_bind fun _ ↦ Preserves.ite (told_lock _) Preserves.ret
  refine wp_bind (wp_mono (tearingDown_of_told hlock w hw) fun locked w hw ↦ ?_)
  refine wp_bind (wp_mono (tearingDown_each (fun i l hi hnot ↦
    tearingDown_closeManually locked hi hnot) w hw) fun _ w hw ↦ ?_)
  refine wp_bind (wp_mono (tearingDown_of_told (fun _ ↦ Preserves.when told_unlock) w hw)
    fun _ w hw ↦ ?_)
  refine wp_bind (wp_mono (tearingDown_dropEverything _ w hw) fun _ w ⟨y, hw, hy, hst, hidle, hvacant⟩ ↦ ?_)
  refine wp_bind (wp_mono (told_updateStats w hw) fun _ w hw ↦ wp_get_bind.2 ?_)
  have hlast : ∀ w, Told { y with up := false } w → wp (do
      Prog.modify fun s ↦ { s with socketHealthFailures := 0, state := .disconnected }
      Prog.mark .tornDown) (fun _ ↦ Rested p) w := by
    intro w hw
    refine wp_bind (wp_mono (told_setState .disconnected (fun _ ↦ by rfl) (fun _ ↦ by rfl)
      (fun _ ↦ by rfl) (fun _ ↦ by rfl) w hw) fun _ w hw ↦ ?_)
    refine wp_mono (told_mark (fun _ _ ↦ by rfl) w hw) fun _ w hw ↦ ⟨_, hw, ?_, by simp⟩
    refine ⟨fun i ↦ (hy.stage_eq i).trans ?_, fun i _ ↦ hvacant i, fun _ ↦ hvacant, hy.events,
      hy.degraded, rfl⟩
    simp [hvacant]
  refine wp_bind (wp_when (fun hcon ↦ ?_) fun hcon ↦ ?_)
  · have hup : y.up = true := by
      rw [hy.up_eq, ← hw.state]
      exact hcon
    exact wp_mono (told_emit_disconnected hup w hw) fun _ w hw ↦ hlast w hw
  · have hup : y.up = false := by
      rw [hy.up_eq, ← hw.state]
      simpa using hcon
    refine hlast w ?_
    rw [← hup]
    exact hw

/-- A connection is made only while none is reported. -/
theorem rested_connectSSH : Preserves (Rested p) (connectSSH p) := by
  rintro w ⟨y, hw, hq, hne⟩
  rw [connectSSH, wp_get_bind]
  refine wp_ite (fun _ ↦ wp_pure ⟨y, hw, hq, hne⟩) fun hcon ↦ ?_
  rw [hw.state] at hcon
  have hup : y.up = false := by rw [hq.up_eq]; simpa using hcon
  have hvacant := hq.vacant hcon
  -- without a slot in use, any state will do
  have hquiet : ∀ state up, up = decide (state = TunnelState.connected) →
      { y with state := state, up := up }.Quiet p := fun state up h ↦
    ⟨hq.stage_eq, hq.range, fun _ ↦ hvacant, hq.events, hq.degraded, h⟩
  refine wp_bind (wp_mono (told_setState .connecting (fun _ ↦ by rfl) (fun _ ↦ by rfl)
    (fun _ ↦ by rfl) (fun _ ↦ by rfl) w hw) fun _ w hw ↦ ?_)
  refine wp_bind (wp_mono (told_millis w hw) fun now w hw ↦ ?_)
  refine wp_bind (wp_mono (told_setFields (fun _ ↦ by rfl) (fun _ ↦ by rfl) (fun _ ↦ by rfl)
    (fun _ ↦ by rfl) w hw) fun _ w hw ↦ ?_)
  refine wp_bind (wp_mono (told_mark (fun _ _ ↦ by rfl) w hw) fun _ w hw ↦ ?_)
  refine wp_bind (wp_mono (sessionKeeps_told.sessionConnect w hw) fun connected w hw ↦ ?_)
  refine wp_ite (fun _ ↦ ?_) fun _ ↦ ?_
  · refine wp_bind (wp_mono (told_setState .error (fun _ ↦ by rfl) (fun _ ↦ by rfl)
      (fun _ ↦ by rfl) (fun _ ↦ by rfl) w hw) fun _ w hw ↦ ?_)
    refine wp_bind (wp_mono (told_sys rfl w hw) fun _ w hw ↦ wp_pure ⟨_, hw, ?_, by simp⟩)
    exact hquiet .error y.up (by rw [hup]; rfl)
  · refine wp_bind (wp_mono (told_setState .connected (fun _ ↦ by rfl) (fun _ ↦ by rfl)
      (fun _ ↦ by rfl) (fun _ ↦ by rfl) w hw) fun _ w hw ↦ ?_)
    refine wp_bind (wp_mono (told_mark (fun _ _ ↦ by rfl) w hw) fun _ w hw ↦ ?_)
    refine wp_bind (wp_mono (told_millis w hw) fun now w hw ↦ ?_)
    refine wp_bind (wp_mono (told_setFields (fun _ ↦ by rfl) (fun _ ↦ by rfl) (fun _ ↦ by rfl)
      (fun _ ↦ by rfl) w hw) fun _ w hw ↦ ?_)
    refine wp_bind (wp_mono (told_emit_connected (by exact hup) w hw) fun _ w hw ↦ wp_pure ?_)
    exact ⟨_, hw, hquiet .connected true rfl, by simp⟩

theorem rested_requestReconnect : Preserves (Rested p) requestReconnect := by
  rintro w ⟨y, hw, hq, hne⟩
  rw [requestReconnect, wp_get_bind]
  refine wp_ite (fun _ ↦ wp_pure ⟨y, hw, hq, hne⟩) fun hst ↦ ?_
  rw [hw.state, not_or] at hst
  refine wp_bind (wp_mono (told_millis w hw) fun now w hw ↦ ?_)
  refine wp_bind (wp_mono (told_setState .error (fun _ ↦ by rfl) (fun _ ↦ by rfl)
    (fun _ ↦ by rfl) (fun _ ↦ by rfl) w hw) fun _ w hw ↦ ?_)
  refine wp_bind (wp_mono (told_mark (fun _ _ ↦ by rfl) w hw) fun _ w hw ↦ ?_)
  refine wp_mono (told_mark (fun _ _ ↦ by rfl) w hw) fun _ w hw ↦ ⟨_, hw, ?_, by simp⟩
  refine ⟨hq.stage_eq, hq.range, fun _ ↦ hq.vacant hst.1, hq.events, hq.degraded, ?_⟩
  exact hq.up_eq.trans (by simp [hst.1])

theorem told_reconnectAllowed : Preserves (Told y) (reconnectAllowed p) :=
  Preserves.get_bind fun _ ↦ Preserves.ite (told_millis.bind fun _ ↦ Preserves.ite Preserves.ret
    ((told_setFields (fun _ ↦ by rfl) (fun _ ↦ by rfl) (fun _ ↦ by rfl) fun _ ↦ by rfl).bind fun _ ↦
      Preserves.ret)) Preserves.ret

/-- Nothing is dropped unreported: the tunnel is not connected. -/
theorem rested_dropEverything (reason : ChannelCloseReason) :
    Triple (fun w ↦ Rested p w ∧ w.st.state ≠ .connected) (dropEverything p reason) fun _ ↦
      Rested p := by
  rintro w ⟨⟨y, hw, hq, hne⟩, hst⟩
  have hvacant := hq.vacant (hw.state ▸ hst)
  refine wp_mono (told_dropEverything reason hq.range w hw) fun _ w hw ↦ ⟨_, hw, ?_, hne⟩
  refine ⟨fun i ↦ (hq.stage_eq i).trans ?_, fun _ _ ↦ rfl, fun _ _ ↦ rfl, hq.events, hq.degraded,
    hq.up_eq⟩
  simp [hvacant, Story.vacated]

theorem rested_handleReconnection :
    Triple (fun w ↦ Rested p w ∧ w.st.state = .error) (handleReconnection p) fun _ ↦ Rested p := by
  refine told_returning ?_ fun _ ↦ rested_of_told fun _ ↦ told_returned
  rintro w ⟨⟨y, hw, hq, hne⟩, hst⟩
  rw [hw.state] at hst
  have hrest : ∀ {w}, Told y w → Rested p w := fun hw ↦ ⟨y, hw, hq, hne⟩
  refine wp_bind (wp_mono (told_reconnectAllowed w hw) fun _ w hw ↦ ?_)
  refine wp_ite (fun _ ↦ wp_pure (hrest hw)) fun _ ↦ ?_
  refine wp_bind (wp_mono (told_millis w hw) fun now w hw ↦ wp_get_bind.2 ?_)
  refine wp_ite (fun _ ↦ wp_pure (hrest hw)) fun _ ↦ ?_
  refine wp_bind (wp_mono (told_clearQueue _ w hw) fun _ w hw ↦ ?_)
  refine wp_bind (wp_mono (told_clearQueue _ w hw) fun _ w hw ↦ ?_)
  have hdown : w.st.state ≠ .connected := by rw [hw.state, hst]; simp
  refine wp_bind (wp_mono (rested_dropEverything .error w ⟨hrest hw, hdown⟩) fun _ w hw ↦ ?_)
  have hfields : ∀ {f : ℕ → ℕ}, Preserves (Rested p)
      (Prog.modify fun s ↦ { s with reconnectAttempts := f s.reconnectAttempts }) := fun {_} ↦
    rested_of_told fun _ ↦ told_setFields (fun _ ↦ rfl) (fun _ ↦ rfl) (fun _ ↦ rfl) fun _ ↦ rfl
  refine wp_bind (wp_mono (hfields (f := (· + 1)) w hw) fun _ w hw ↦ ?_)
  refine wp_bind (wp_mono (rested_of_told (fun _ ↦ told_mark fun _ _ ↦ by rfl) w hw) fun _ w hw ↦ ?_)
  refine wp_bind (wp_mono (rested_connectSSH w hw) fun _ w hw ↦ ?_)
  exact Preserves.when (hfields (f := fun _ ↦ 0)) w hw

/-! ### Serving -/

/-- Slot `i` has been bound and is about to be reported. -/
def Opening (p : Params) (i : ℕ) (w : TunnelWorld) : Prop :=
  i < p.maxSlots ∧ ∃ y : Story, Told ((y.setActive i true).setStage i .bound) w ∧ y.Quiet p ∧
    y.state = .connected ∧ y.idle = false

theorem opening_of_told {α : Type} {m : TunnelM α} (hm : ∀ y, Preserves (Told y) m) :
    Preserves (Opening p i) m := by
  rintro w ⟨hi, y, hw, hrest⟩
  exact wp_mono (hm _ w hw) fun _ w hw ↦ ⟨hi, y, hw, hrest⟩

theorem opening_emit : Triple (Opening p i) (emit (.channelOpened i)) fun _ ↦ Serves p := by
  rintro w ⟨hi, y, hw, hq, hst, hidle⟩
  refine wp_mono (told_emit_opened (Story.setStage_stage_same ..) w hw) fun _ w hw ↦
    ⟨_, hw, ⟨fun j ↦ ?_, fun j hj ↦ ?_, fun hne ↦ absurd hst hne, hq.events, hq.degraded, hq.up_eq⟩,
      hst, hidle⟩
  · by_cases hji : j = i
    · subst hji
      rw [Story.setStage_stage_same]
      exact (if_pos (y.setActive_active_same j true)).symm
    · rw [Story.setStage_stage_ne hji, Story.setStage_stage_ne hji]
      refine (hq.stage_eq j).trans (if_congr ?_ rfl rfl)
      rw [← Story.setActive_active_ne hji true]
      exact Iff.rfl
  · have hji : j ≠ i := by omega
    exact (Story.setActive_active_ne hji true).trans (hq.range j hj)

theorem serves_bindAcceptedChannel (h : Handle) (mapping : TunnelConfig) (ms : ℕ) :
    Triple (Serves p) (bindAcceptedChannel p i h mapping ms) fun result w ↦
      (result = .bound → Opening p i w) ∧ (result ≠ .bound → Serves p w) := by
  intro w hw
  refine wp_bind (wp_mono (serves_of_told (fun _ _ ↦ told_lock _) w hw) fun locked w hw ↦ ?_)
  refine wp_ite (fun _ ↦ wp_pure ⟨fun hno ↦ (by cases hno), fun _ ↦ hw⟩) fun _ ↦ ?_
  obtain ⟨y, hw, hq, hst, hidle⟩ := hw
  have hfree : y.active i = false → y.stage i = .free := fun hact ↦ by
    rw [hq.stage_eq i, hact]
    rfl
  refine wp_bind (wp_mono (told_bindChannel h mapping hfree w hw) fun bound w hw ↦ ?_)
  cases bound with
  | true =>
    have hw : Opening p i w := ⟨hw.1, y, hw.2, hq, hst, hidle⟩
    exact wp_bind (wp_mono (opening_of_told (fun _ ↦ told_unlock) w hw) fun _ w hw ↦
      wp_pure ⟨fun _ ↦ hw, fun hno ↦ absurd rfl hno⟩)
  | false =>
    exact wp_bind (wp_mono (told_unlock w hw) fun _ w hw ↦
      wp_pure ⟨fun hno ↦ (by cases hno), fun _ ↦ ⟨y, hw, hq, hst, hidle⟩⟩)

theorem serves_modifyQueue (q : QueueName) (f : ChannelQueue → ChannelQueue) :
    Preserves (Serves p) (modifyQueue q f) :=
  serves_of_told fun _ hidle ↦ told_modifyQueue fun _ hno ↦ by rw [hidle] at hno; cases hno

theorem serves_queueForBinding (h : Handle) (mapping : TunnelConfig) :
    Preserves (Serves p) (queueForBinding h mapping) :=
  (serves_of_told fun _ _ ↦ told_millis).bind fun _ ↦ serves_modifyQueue _ _

theorem serves_closeEntry (pending : PendingChannel) (h : Handle) (ms : ℕ) :
    Preserves (Serves p) (closeEntry pending h ms) :=
  serves_of_told fun _ _ ↦ told_closeEntry pending h ms

theorem serves_enqueueDeferredClose (h : Handle) (mapping : TunnelConfig) :
    Preserves (Serves p) (enqueueDeferredClose h mapping) :=
  serves_of_told fun _ _ ↦ told_enqueueDeferredClose h mapping

theorem serves_drainPendingEntry (now : UInt32) (pending : PendingChannel) (h : Handle) :
    Preserves (Serves p) (drainPendingEntry p now pending h) := by
  refine Preserves.ite (Preserves.ite (serves_closeEntry _ _ _) (serves_closeEntry _ _ _))
    (Preserves.ite (serves_closeEntry _ _ _) ?_)
  refine (serves_of_told fun _ _ ↦ told_allocateSlot).bind fun slot ↦ ?_
  split
  · exact Preserves.ret
  · refine (serves_of_told fun _ _ ↦ told_mark fun _ _ ↦ by rfl).bind fun _ ↦
      Triple.bind (serves_bindAcceptedChannel _ _ _) fun result w hw ↦ ?_
    cases result with
    | bound => exact wp_bind (wp_mono (opening_emit w (hw.1 rfl)) fun _ w hw ↦ wp_pure hw)
    | lockUnavailable => exact wp_pure (hw.2 (by simp))
    | failed => exact serves_closeEntry _ _ _ w (hw.2 (by simp))

theorem serves_drainPendingIfAny : Preserves (Serves p) (drainPendingIfAny p) := by
  have hreturned : Preserves (Serves p) (Prog.mark .returned) := serves_of_told fun _ _ ↦ told_returned
  refine Preserves.get_bind fun _ ↦ Preserves.ite (Preserves.bind ?_ fun _ ↦ ?_) Preserves.ret
  · refine (serves_of_told fun _ _ ↦ told_millis).bind fun now ↦
      told_compactQueue (serves_modifyQueue _) hreturned fun pending h ↦ ?_
    exact Preserves.ite (serves_closeEntry _ _ _) Preserves.ret
  · exact (serves_of_told fun _ _ ↦ told_millis).bind fun now ↦
      told_compactQueue (serves_modifyQueue _) hreturned (serves_drainPendingEntry now)

theorem serves_bindAccepted (h : Handle) (mapping : TunnelConfig) :
    Preserves (Serves p) (bindAccepted p i h mapping) := by
  refine Triple.bind (serves_bindAcceptedChannel _ _ _) fun result w hw ↦ ?_
  cases result with
  | bound => exact wp_bind (wp_mono (opening_emit w (hw.1 rfl)) fun _ w hw ↦ wp_pure hw)
  | lockUnavailable =>
    have hqueue : Preserves (Serves p) (do
        let s ← Prog.get
        if s.pending.count < maxPending then do
          queueForBinding h mapping
          pure false
        else do
          let _ ← enqueueDeferredClose h mapping
          pure false) := Preserves.get_bind fun _ ↦ Preserves.ite
      ((serves_queueForBinding _ _).bind fun _ ↦ Preserves.ret)
      ((serves_enqueueDeferredClose _ _).bind fun _ ↦ Preserves.ret)
    exact hqueue w (hw.2 (by simp))
  | failed =>
    exact wp_bind (wp_mono (serves_enqueueDeferredClose _ _ w (hw.2 (by simp))) fun _ w hw ↦ wp_pure hw)

theorem serves_rejectAccepted (h : Handle) (mapping : TunnelConfig) (ms : ℕ) (force : Bool) :
    Preserves (Serves p) (rejectAccepted h mapping ms force) := by
  have hclose : ∀ ms, Preserves (Serves p) (closeAcceptedChannel h ms) := fun ms ↦
    serves_of_told fun _ _ ↦ told_closeAcceptedChannel h ms
  exact (hclose _).bind fun _ ↦ Preserves.ite Preserves.ret
    ((serves_enqueueDeferredClose _ _).bind fun _ ↦ Preserves.ite Preserves.ret
      ((hclose _).bind fun _ ↦ Preserves.ret))

theorem serves_handleAccepted (h : Handle) (mapping : TunnelConfig) :
    Preserves (Serves p) (handleAccepted p h mapping) := by
  refine (serves_of_told fun _ _ ↦ told_millis).bind fun _ ↦ Preserves.get_bind fun _ ↦
    Preserves.ite ((serves_rejectAccepted _ _ _ _).bind fun _ ↦ Preserves.ret) ?_
  refine (serves_of_told fun _ _ ↦ told_mark fun _ _ ↦ by rfl).bind fun _ ↦
    (serves_of_told fun _ _ ↦ told_allocateSlot).bind fun slot ↦ ?_
  split
  · exact serves_bindAccepted _ _
  · exact Preserves.get_bind fun _ ↦ Preserves.ite
      ((serves_queueForBinding _ _).bind fun _ ↦ Preserves.ret)
      ((serves_rejectAccepted _ _ _ _).bind fun _ ↦ Preserves.ret)

/-- The accept loop ends when it has run into an error. -/
theorem serves_handleNewConnection :
    Triple (Serves p) (handleNewConnection p) fun again w ↦
      (Serves p w ∨ Broken p w) ∧ (again = true → Serves p w) := by
  have hreturned : ∀ again : Bool, Preserves (fun w ↦ (Serves p w ∨ Broken p w) ∧
      (again = true → Serves p w)) (Prog.mark .returned) := by
    have htold : ∀ y, Preserves (Told y) (Prog.mark .returned) := fun _ ↦ told_returned
    intro again w hw e
    refine ⟨hw.1.imp (fun h ↦ serves_of_told (fun y _ ↦ htold y) w h e) ?_, fun hagain ↦
      serves_of_told (fun y _ ↦ htold y) w (hw.2 hagain) e⟩
    rintro ⟨y, hy, hrest⟩
    exact ⟨y, htold y w hy e, hrest⟩
  refine told_returning ?_ hreturned
  have haccept : Preserves (Serves p) acceptChannel := serves_of_told fun _ _ ↦
    sessionKeeps_told.acceptChannel fun _ ↦ told_sysId rfl
  refine Triple.bind haccept fun accepted ↦ ?_
  split
  · intro w hw
    rw [wp_get_bind]
    refine wp_bind (wp_when (fun _ ↦ ?_) fun _ ↦ wp_pure ⟨.inl hw, fun hno ↦ by cases hno⟩)
    exact wp_mono (serves_enterErrorState w hw) fun _ w hw ↦
      wp_pure ⟨.inr hw, fun hno ↦ by cases hno⟩
  · exact fun w hw ↦ wp_mono (serves_handleAccepted _ _ w hw) fun _ w hw ↦ ⟨.inl hw, fun _ ↦ hw⟩

/-! ### The main loop -/

theorem serves_checkHealth :
    Triple (Serves p) (checkHealth p) fun alive w ↦ Rested p w ∧ (alive = true → Serves p w) := by
  have hfields : ∀ {f : SSHTunnel → SSHTunnel}, (∀ s, (f s).state = s.state) →
      (∀ s, (f s).channels = s.channels) → (∀ s, (f s).transport = s.transport) →
      (∀ s, (f s).pending = s.pending) → Preserves (Serves p) (Prog.modify f) :=
    fun hs hc ht hp ↦ serves_of_told fun _ _ ↦ told_setFields hs hc ht hp
  have hbreak : Triple (Serves p) (do
      enterErrorState p
      pure false) fun alive w ↦ Rested p w ∧ (alive = true → Serves p w) := fun w hw ↦
    wp_bind (wp_mono (serves_enterErrorState w hw) fun _ w hw ↦
      wp_pure ⟨hw.rested, fun hno ↦ by cases hno⟩)
  refine Triple.bind (serves_of_told fun _ _ ↦ sessionKeeps_told.checkConnection) fun healthy ↦ ?_
  intro w hw
  rw [wp_get_bind]
  refine wp_ite (fun _ ↦ ?_) fun _ ↦ ?_
  · exact wp_bind (wp_mono (hfields (fun _ ↦ by rfl) (fun _ ↦ by rfl) (fun _ ↦ by rfl)
      (fun _ ↦ by rfl) w hw) fun _ w hw ↦ hbreak w hw)
  refine wp_bind (wp_mono (hfields (fun _ ↦ by rfl) (fun _ ↦ by rfl) (fun _ ↦ by rfl)
    (fun _ ↦ by rfl) w hw) fun _ w hw ↦ ?_)
  refine wp_bind (wp_mono (serves_of_told (fun _ _ ↦ told_millis) w hw) fun now w hw ↦ ?_)
  rw [wp_get_bind]
  refine wp_ite (fun _ ↦ ?_) fun _ ↦ wp_pure ⟨hw.rested, fun _ ↦ hw⟩
  refine wp_bind (wp_mono (serves_of_told (fun _ _ ↦ sessionKeeps_told.sendKeepalive) w hw)
    fun sent w hw ↦ wp_ite (fun _ ↦ hbreak w hw) fun _ ↦ ?_)
  exact wp_bind (wp_mono (hfields (fun _ ↦ by rfl) (fun _ ↦ by rfl) (fun _ ↦ by rfl)
    (fun _ ↦ by rfl) w hw) fun _ w hw ↦ wp_pure ⟨hw.rested, fun _ ↦ hw⟩)

/-- The first slot that waits is reported as closed. -/
theorem Story.Pumped.report {e : ℕ × ChannelCloseReason} {l : List (ℕ × ChannelCloseReason)}
    (h : y.Pumped p) (he : y.events = e :: l) :
    { y.setStage e.1 .free with events := l }.Pumped p := by
  have hmap : y.events.map Prod.fst = e.1 :: l.map Prod.fst := by rw [he]; rfl
  have hnodup := h.nodup
  rw [hmap, List.nodup_cons] at hnodup
  have htail : ∀ j ∈ l.map Prod.fst, j ∈ y.events.map Prod.fst := fun j hj ↦
    hmap ▸ List.mem_cons_of_mem _ hj
  refine ⟨fun j ↦ ?_, h.range, fun j hj ↦ h.events_lt j (htail j hj), fun j hj ↦ h.ended j (htail j hj),
    hnodup.2, fun hst ↦ ?_, h.up_eq⟩
  · by_cases hji : j = e.1
    · subst hji
      have hended : y.active e.1 = false := h.ended _ (hmap ▸ List.mem_cons_self ..)
      refine (Story.setStage_stage_same ..).trans (if_neg ?_).symm
      rintro (hact | hmem)
      · have hact : y.active e.1 = true := hact
        rw [hended] at hact
        cases hact
      · exact hnodup.1 hmem
    · refine (Story.setStage_stage_ne hji _).trans ((h.stage_eq j).trans (if_congr ?_ rfl rfl))
      rw [hmap, List.mem_cons, or_iff_right hji]
      exact Iff.rfl
  · have := (h.vacant hst).2.1
    rw [he] at this
    cases this

/-- The events taken from the pump are reported; those of `l` have still to be. -/
def Reporting (p : Params) (state : TunnelState) (idle : Bool)
    (l : List (ℕ × ChannelCloseReason)) (w : TunnelWorld) : Prop :=
  ∃ y : Story, Told { y with events := [] } w ∧ y.Pumped p ∧ y.events = l ∧ y.state = state ∧ y.idle = idle

section Tail

variable {state : TunnelState} {idle : Bool}

theorem pumping_consumeCloseEvents (hmax : p.maxSlots ≤ maxCloseEvents) :
    Triple (Pumping p state idle fun _ ↦ True) consumeCloseEvents fun events ↦
      Reporting p state idle events := by
  rintro w ⟨y, hw, hp, hst, hidle, -⟩
  rw [consumeCloseEvents, wp_get_bind]
  refine wp_bind (wp_modify (wp_pure ⟨y, ?_, hp, ?_, hst, hidle⟩))
  · exact ⟨hw.stage, hw.up, hw.active, hw.state, rfl, hw.degraded, hw.idle⟩
  · rw [hw.events, List.take_of_length_le (Nat.le_trans hp.length_le hmax)]

theorem reporting_emit (e : ℕ × ChannelCloseReason) (l : List (ℕ × ChannelCloseReason)) :
    Triple (Reporting p state idle (e :: l)) (emit (.channelClosed e.1 e.2)) fun _ ↦
      Reporting p state idle l := by
  rintro w ⟨y, hw, hp, he, hst, hidle⟩
  have hlive : y.stage e.1 = .live :=
    (hp.stage_eq e.1).trans (if_pos (.inr (by rw [he]; exact List.mem_cons_self ..)))
  refine wp_mono (told_emit_closed e.2 (by exact hlive) w hw) fun _ w hw ↦ ?_
  exact ⟨_, hw, hp.report he, rfl, hst, hidle⟩

/-- Everything has been reported. -/
theorem Story.Pumped.stage_of_nil (h : y.Pumped p) (he : y.events = []) (i : ℕ) :
    y.stage i = if y.active i = true then .live else .free :=
  (h.stage_eq i).trans (if_congr (by simp [he]) rfl rfl)

/-- With nothing in the pending queue, nothing is bound. -/
theorem told_drainPendingIfAny (hidle : y.idle = true) :
    Preserves (Told y) (drainPendingIfAny p) := by
  intro w hw
  rw [drainPendingIfAny, wp_get_bind, hw.idle hidle]
  exact wp_ite (fun hpos ↦ absurd hpos (Nat.lt_irrefl 0)) fun _ ↦ wp_pure hw

theorem pumping_loopTail (hmax : p.maxSlots ≤ maxCloseEvents)
    (hmode : state = .connected ∨ state = .error ∧ idle = true) :
    Triple (Pumping p state idle fun _ ↦ True) (loopTail p) fun _ ↦ Rested p := by
  refine Triple.bind (pumping_consumeCloseEvents hmax) fun events ↦ ?_
  refine Triple.bind (Triple.each (I := Reporting p state idle) fun e l _ ↦ reporting_emit e l)
    fun _ ↦ ?_
  rintro w ⟨y, hw, hp, he, hst, hidle⟩
  rw [wp_get_bind, hw.degraded]
  refine wp_ite (fun hdegraded ↦ ?_) fun hdegraded ↦ ?_
  · have hconnected : y.state = .connected := by
      by_contra hno
      have hfalse := (hp.vacant hno).2.2
      rw [show y.degraded = true from hdegraded] at hfalse
      cases hfalse
    refine wp_bind (wp_mono (told_setDegraded false w hw) fun _ w hw ↦ ?_)
    have hs : Serves p w := serves_of_quiet hw ⟨hp.stage_of_nil he, hp.range,
      fun hno ↦ absurd hconnected hno, rfl, rfl, hp.up_eq⟩ hconnected
    exact wp_mono (serves_enterErrorState w hs) fun _ w hw ↦ hw.rested
  · have hq : { y with events := [] }.Quiet p := ⟨hp.stage_of_nil he, hp.range,
      fun hno ↦ (hp.vacant hno).1, rfl, by simpa using hdegraded, hp.up_eq⟩
    rcases hmode with rfl | ⟨rfl, rfl⟩
    · have hserves : Preserves (Serves p) (do
          drainPendingIfAny p
          drainDeferredIfAny
          updateStats p) := serves_drainPendingIfAny.bind fun _ ↦
        (serves_of_told fun _ _ ↦ told_drainDeferredIfAny).bind fun _ ↦
        serves_of_told fun _ _ ↦ told_updateStats
      exact wp_mono (hserves w (serves_of_quiet hw hq hst)) fun _ w hw ↦ hw.rested
    · have htold : Preserves (Told { y with events := [] }) (do
          drainPendingIfAny p
          drainDeferredIfAny
          updateStats p) := (told_drainPendingIfAny (by exact hidle)).bind fun _ ↦
        told_drainDeferredIfAny.bind fun _ ↦ told_updateStats
      exact wp_mono (htold w hw) fun _ w hw ↦ ⟨_, hw, hq, by rw [show _ = y.state from rfl, hst]; simp⟩

end Tail

theorem serves_loopConnected (hmax : p.maxSlots ≤ maxCloseEvents) :
    Triple (Serves p) (loopConnected p) fun _ ↦ Rested p := by
  refine Triple.bind (serves_of_told fun _ _ ↦ told_drainDeferredIfAny) fun _ w hw ↦ ?_
  refine wp_bind (wp_mono (wp_attempts (I := Serves p) (J := fun w ↦ Serves p w ∨ Broken p w)
    (fun _ ↦ .inl) (fun w hw ↦ serves_handleNewConnection w hw) hw) fun _ w hw ↦ ?_)
  rcases hw with ⟨y, hw, hq, hst, hidle⟩ | ⟨y, hw, hq, hst, hidle⟩
  · have hpump : Pumping p .connected false (fun _ ↦ True) w := ⟨y, hw, hq.pumped, hst, hidle, trivial⟩
    exact wp_bind (wp_mono (pumping_pumpAll hmax w hpump) fun _ w hw ↦
      pumping_loopTail hmax (.inl rfl) w hw)
  · have hpump : Pumping p .error true (fun _ ↦ True) w := ⟨y, hw, hq.pumped, hst, hidle, trivial⟩
    exact wp_bind (wp_mono (pumping_pumpAll hmax w hpump) fun _ w hw ↦
      pumping_loopTail hmax (.inr ⟨rfl, rfl⟩) w hw)

theorem rested_loop (hmax : p.maxSlots ≤ maxCloseEvents) : Preserves (Rested p) (loop p) := by
  intro w hw
  rw [loop, wp_get_bind]
  refine wp_ite (fun herr ↦ rested_handleReconnection w ⟨hw, herr⟩) fun herr ↦
    wp_ite (fun _ ↦ wp_pure hw) fun hdis ↦ ?_
  have hs : Serves p w := by
    obtain ⟨y, hy, hq, hne⟩ := hw
    rw [hy.state] at herr hdis
    refine serves_of_quiet hy hq ?_
    cases hst : y.state with
    | connected => rfl
    | error => exact absurd hst herr
    | disconnected => exact absurd hst hdis
    | connecting => exact absurd hst hne
  refine wp_ite (fun _ ↦ wp_mono (serves_enterErrorState w hs) fun _ w hw ↦ hw.rested) fun _ ↦ ?_
  refine wp_bind (wp_mono (serves_checkHealth w hs) fun alive w hw ↦ ?_)
  exact wp_when (fun halive ↦ serves_loopConnected hmax w (hw.2 halive)) fun _ ↦ hw.1

theorem rested_prog (hmax : p.maxSlots ≤ maxCloseEvents) (op : TunnelOp) :
    Preserves (Rested p) (op.prog p) := by
  cases op with
  | connectSSH => exact rested_connectSSH.bind fun _ ↦ Preserves.ret
  | loop => exact rested_loop hmax
  | disconnect => exact rested_disconnect
  | requestReconnect => exact rested_requestReconnect

theorem rested_initial (clock : ℕ) : Rested p (initial clock) := by
  refine ⟨⟨fun _ ↦ .free, false, fun _ ↦ false, .disconnected, [], false, false⟩, ?_, ?_, by simp⟩
  · exact ⟨fun _ ↦ rfl, rfl, fun _ ↦ rfl, rfl, rfl, rfl, fun hno ↦ by cases hno⟩
  · exact ⟨fun _ ↦ rfl, fun _ _ ↦ rfl, fun _ _ ↦ rfl, rfl, rfl, rfl⟩

/-! ### The guarantee -/

/-- **Events come in order**, in every run with no more slots than places for close events: the reports
about each slot go round from bound over opened to closed, ending with opened exactly if the slot is in
use, and the session is reported as connected and disconnected in turn. -/
theorem events_in_order (hw : TunnelRun p w) (hmax : p.maxSlots ≤ maxCloseEvents) :
    (∀ i, slotStage i w.trace =
        some (if (w.st.channels.slots i).active = true then .live else .free)) ∧
      sessionStage w.trace = some (decide (w.st.state = .connected)) := by
  have hrested : Rested p w := hw.invariant rested_initial (by
    rintro _ ⟨op, rfl⟩
    exact rested_prog hmax op)
  obtain ⟨y, hy, hq, -⟩ := hrested
  refine ⟨fun i ↦ ?_, ?_⟩
  · rw [hy.stage i, hq.stage_eq i, hy.active i]
  · rw [hy.up, hq.up_eq, hy.state]

/-! ### Channels come and go -/

/-- The local side hangs up, and time goes by. -/
def leavingWorld : Env Call Call.Reply := worldWith 100 fun _ c ↦
  match c with
  | .io _ (.recv _ _) => some .eof
  | _ => none

/-- A channel is closed and another one takes its slot, until the tunnel is disconnected. -/
def turnoverOps : List (TunnelOp × Env Call Call.Reply) :=
  [(.connectSSH, acceptingWorld 160), (.loop, acceptingWorld 160), (.loop, leavingWorld),
    (.loop, leavingWorld), (.disconnect, leavingWorld)]

/-- The run of them. -/
def turnoverRun : TunnelWorld := afterTunnelOps (smallTunnel 1) turnoverOps

theorem run_turnoverRun : TunnelRun (smallTunnel 1) turnoverRun := tunnelRun_after turnoverOps

theorem events_in_order_turnoverRun :
    turnoverRun.trace.filterMap (sign? 0) =
        [.closed, .opened, .bound, .closed, .opened, .bound] ∧
      slotStage 0 turnoverRun.trace =
        some (if (turnoverRun.st.channels.slots 0).active = true then .live else .free) ∧
      sessionStage turnoverRun.trace = some (decide (turnoverRun.st.state = .connected)) :=
  ⟨by decide +kernel, (events_in_order run_turnoverRun (by decide)).1 0,
    (events_in_order run_turnoverRun (by decide)).2⟩

end ReverseTunnel
