import ReverseTunnel.Lib.Handover
import ReverseTunnel.Minis.Alerts

/-!
# Alerts are delivered

Whatever the tasks do, in any order, an alert that has been queued is either in the queue or has been
answered with 200, **once and in the order of the calls**. The steps of the tasks are steps of a
hand-over (`next_of_step`), which gives this for the time since the last restart. A restart empties the
queue; the marker file survives it, and it is not removed before a notice has been answered.

Nothing is forgotten in the queue either. As long as no request fails, the notifications the heartbeat
task has not taken are at least as many as the alerts in the queue; and when one has failed, every
heartbeat delivers an alert.
-/

namespace ReverseTunnel

namespace Minis

open Handover

/-! ### The hand-over -/

/-- What a step is for the hand-over to the control center. -/
def AlertEvent.reads : AlertEvent → Handover.Event QueuedAlert
  | .queued alert => .put alert
  | .peeked alert => .shown alert
  | .posted alert status => if status = 200 then .given alert else .kept
  | .received _ alert => .removed alert
  | _ => .idle

/-- What the heartbeat task has at hand. -/
def TaskAt.hand : TaskAt → Hand QueuedAlert
  | .post _ alert => .showing alert
  | .receive _ alert => .given alert
  | _ => .free

/-- The hand-over. -/
def AlertWorld.handover (w : AlertWorld) : Handover.State QueuedAlert := ⟨w.alertQueue, w.task.hand⟩

/-- With nothing at hand `sendNextQueuedAlert` returns. -/
theorem next_behind {s : Handover.State QueuedAlert} {e : Handover.Event QueuedAlert} {q : List QueuedAlert}
    (call : SendCall) (result : AlertSendResult) (h : Next alertQueueDepth s e ⟨q, .free⟩) :
    Next alertQueueDepth s e ⟨q, (call.behind result).hand⟩ := by
  rcases call <;> rcases result <;> exact h

/-- The device restarts. -/
def AlertAction.restarts : AlertAction → Bool
  | .restart => true
  | _ => false

/-- Runs, **latest step first**. -/
abbrev AlertHistory := List (AlertAction × AlertEvent)

/-- The steps since the last restart. -/
def sinceRestart (l : AlertHistory) : AlertHistory := l.takeWhile fun x ↦ !x.1.restarts

/-- The alerts that have been queued since the last restart. -/
def queuedAlerts (l : AlertHistory) : List QueuedAlert := puts ((sinceRestart l).map (·.2.reads))

/-- The alerts that have been answered with 200 since the last restart. -/
def answeredAlerts (l : AlertHistory) : List QueuedAlert := gifts ((sinceRestart l).map (·.2.reads))

/-- The alerts that have been removed from the queue since the last restart. -/
def removedAlerts (l : AlertHistory) : List QueuedAlert :=
  removals ((sinceRestart l).map (·.2.reads))

section Steps

variable {w w' : AlertWorld} {action : AlertAction} {event : AlertEvent} {l : AlertHistory}

theorem sinceRestart_cons (h : action.restarts = false) :
    sinceRestart ((action, event) :: l) = (action, event) :: sinceRestart l := by
  rw [sinceRestart, List.takeWhile_cons, h]
  rfl

theorem behind_ne_notRunning (call : SendCall) (result : AlertSendResult) :
    call.behind result ≠ .notRunning := by
  rcases call <;> rcases result <;> exact TaskAt.noConfusion

/-- A step of the heartbeat task is a step of the hand-over. -/
theorem next_of_taskStep {env : TaskEnv}
    (hhead : ∀ alert, w.task.hand = .given alert → w.alertQueue.head? = some alert)
    (h : taskStep w env = some (event, w')) :
    Next alertQueueDepth w.handover event.reads w'.handover ∧
      (w'.task = .notRunning → w'.alertQueue = []) := by
  obtain ⟨queue, notification, notifying, notice, task⟩ := w
  rcases task with - | - | - | call | ⟨call, alert⟩ | ⟨call, alert⟩ | call | - | - | - | - | -
  case notRunning => cases h
  case noticeExists => rcases notice <;> cases h <;> exact ⟨.idle, TaskAt.noConfusion⟩
  case sendNotice =>
    simp only [taskStep] at h
    split at h
    · next hroom =>
      cases h
      exact ⟨.put hroom, TaskAt.noConfusion⟩
    · cases h
      exact ⟨.idle, TaskAt.noConfusion⟩
  case peek =>
    rcases queue with - | ⟨alert, queue⟩ <;> cases h
    · exact ⟨next_behind _ _ .idle, fun hno ↦ absurd hno (behind_ne_notRunning _ _)⟩
    · exact ⟨.shown, TaskAt.noConfusion⟩
  case post =>
    cases h
    rw [AlertEvent.reads, AlertWorld.handover]
    by_cases hstatus : performAlertPost env.connection = 200
    · rw [if_pos hstatus, if_neg (not_not.2 hstatus)]
      exact ⟨.given, TaskAt.noConfusion⟩
    · rw [if_neg hstatus, if_pos hstatus]
      exact ⟨next_behind _ _ .kept, fun hno ↦ absurd hno (behind_ne_notRunning _ _)⟩
  case receive =>
    rcases queue with - | ⟨delivered, queue⟩
    · -- The alert it has looked at is still there.
      exact absurd (hhead alert rfl) (Option.some_ne_none _).symm
    · cases h
      rcases delivered.clearConfigAppliedNotice
      · exact ⟨next_behind _ _ .removed, fun hno ↦ absurd hno (behind_ne_notRunning _ _)⟩
      · exact ⟨.removed, TaskAt.noConfusion⟩
  case removeNotice =>
    cases h
    exact ⟨next_behind _ _ .idle, fun hno ↦ absurd hno (behind_ne_notRunning _ _)⟩
  case take =>
    simp only [taskStep] at h
    split at h <;> cases h <;> exact ⟨.idle, TaskAt.noConfusion⟩
  case clear =>
    cases h
    exact ⟨.idle, TaskAt.noConfusion⟩
  case elapsed =>
    simp only [taskStep] at h
    split at h <;> cases h <;> exact ⟨.idle, TaskAt.noConfusion⟩
  case messagesWaiting =>
    simp only [taskStep] at h
    cases h
    split <;> exact ⟨.idle, TaskAt.noConfusion⟩
  case give =>
    cases h
    exact ⟨.idle, TaskAt.noConfusion⟩

/-- A step of the tasks is a step of the hand-over. -/
theorem next_of_step (hempty : w.task = .notRunning → w.alertQueue = [])
    (hhead : ∀ alert, w.task.hand = .given alert → w.alertQueue.head? = some alert)
    (hrestarts : action.restarts = false) (h : alertStep w action = some (event, w')) :
    Next alertQueueDepth w.handover event.reads w'.handover ∧
      (w'.task = .notRunning → w'.alertQueue = []) := by
  obtain ⟨queue, notification, notifying, notice, task⟩ := w
  rcases action with - | - | ⟨level, title, message, tag⟩ | - | - | - | env
  case restart => cases hrestarts
  case startHeartbeatTask =>
    rcases task
    -- the queue is empty, whether it is created here or was there before
    case notRunning =>
      obtain rfl : queue = [] := hempty rfl
      cases h
      exact ⟨.idle, fun hno ↦ by cases hno⟩
    all_goals
      cases h
      exact ⟨.idle, hempty⟩
  case queueAlert =>
    rw [alertStep] at h
    split at h
    · cases h
      exact ⟨.idle, hempty⟩
    · next hrunning =>
      split at h
      · cases h
        exact ⟨.idle, hempty⟩
      · split at h
        · next hroom =>
          cases h
          exact ⟨.put hroom, fun hno ↦ absurd hno hrunning⟩
        · cases h
          exact ⟨.idle, hempty⟩
  case notify =>
    rw [alertStep] at h
    split at h
    · cases h
    · cases h
      exact ⟨.idle, hempty⟩
  case markConfigAppliedNotice =>
    cases h
    exact ⟨.idle, hempty⟩
  case factoryReset =>
    cases h
    exact ⟨.idle, hempty⟩
  case task => exact next_of_taskStep hhead h

/-- In every run the tasks hand over alerts. -/
theorem sound_run {notice : Bool} (h : alertSystem.Run (.boot notice) l w) :
    Handover.Sound alertQueueDepth ((sinceRestart l).map (·.2.reads)) w.handover ∧
      (w.task = .notRunning → w.alertQueue = []) := by
  induction h with
  | refl => exact ⟨sound_nil, fun _ ↦ rfl⟩
  | @step l w w' action event _ hstep ih =>
    obtain ⟨hsound, hempty⟩ := ih
    rcases hrestarts : action.restarts
    · rw [sinceRestart_cons hrestarts]
      have hhead : ∀ alert, w.task.hand = .given alert → w.alertQueue.head? = some alert :=
        fun alert hgiven ↦ hsound.head_eq alert (.inr hgiven)
      obtain ⟨hnext, hempty'⟩ := next_of_step hempty hhead hrestarts hstep
      exact ⟨hsound.next hnext, hempty'⟩
    · -- A restart empties the queue.
      rcases action <;> cases hrestarts
      cases hstep
      exact ⟨sound_nil, fun _ ↦ rfl⟩

end Steps

/-! ### Runs -/

/-- The control center answers with 200. -/
def answering : TaskEnv where
  connection :=
    { connected := true, memory := true, connects := true, answer := some (ascii "HTTP/1.1 200 OK\r\n") }
  removes := true
  due := false

/-- The control center cannot be reached. -/
def unreachable : TaskEnv :=
  { answering with connection := { answering.connection with connects := false } }

/-- It is time for a heartbeat. -/
def onTime : TaskEnv := { answering with due := true }

/-- A call of `queueAlert`, up to the queue. -/
def alarm (message : String) : AlertAction :=
  .queueAlert (some (ascii "warning")) none (some (ascii message)) none

/-- Two alerts are queued, one before the heartbeat task looks and one while it posts the first. -/
def busyRun : AlertHistory × AlertWorld := Refinement.outcome alertStep (.boot false)
  [.startHeartbeatTask, .task answering, alarm "a", .task answering, alarm "b", .notify,
    .task answering]

/-- **Every alert is delivered once, in the order of the calls.** Since the last restart, what has been
queued is what has been removed and what is in the queue; what has been removed has been answered with
200, and at most one more alert has; and what has been answered is the beginning of what has been
queued. -/
theorem alerts_delivered {notice : Bool} {l : AlertHistory} {w : AlertWorld}
    (h : alertSystem.Run (.boot notice) l w) :
    queuedAlerts l = removedAlerts l ++ w.alertQueue ∧ removedAlerts l <+: answeredAlerts l ∧
      (answeredAlerts l).length ≤ (removedAlerts l).length + 1 ∧
      answeredAlerts l <+: queuedAlerts l ∧ w.alertQueue.length ≤ alertQueueDepth := by
  obtain ⟨hsound, -⟩ := sound_run h
  have hputs : queuedAlerts l = removedAlerts l ++ w.alertQueue := hsound.puts_eq
  have hgifts : answeredAlerts l = removedAlerts l ++ w.task.hand.gift := hsound.gifts_eq
  refine ⟨hputs, ?_, ?_, ?_, hsound.length_le⟩
  · rw [hgifts]
    exact List.prefix_append _ _
  · rw [hgifts, List.length_append]
    exact Nat.add_le_add_left (w.task.hand.length_gift) _
  · rw [hgifts, hputs, List.prefix_append_right_inj]
    exact hsound.gift_prefix

theorem alerts_delivered_busyRun :
    (queuedAlerts busyRun.1).length = 2 ∧ (answeredAlerts busyRun.1).length = 1 ∧
      answeredAlerts busyRun.1 <+: queuedAlerts busyRun.1 ∧ busyRun.2.alertQueue.length ≤ 4 := by
  obtain ⟨-, -, -, hprefix, hlength⟩ :=
    alerts_delivered (Refinement.run_outcome (by decide +kernel) :
      alertSystem.Run (.boot false) busyRun.1 busyRun.2)
  exact ⟨by decide +kernel, by decide +kernel, hprefix, hlength⟩

/-! ### Notifications -/

/-- A request is not answered with 200. -/
def AlertEvent.fails : AlertEvent → Bool
  | .posted _ status => status ≠ 200
  | _ => false

/-- No request has failed. -/
def AllAnswered (l : AlertHistory) : Prop := ∀ x ∈ l, x.2.fails = false

/-- The alerts that the heartbeat task delivers without being notified once more: the one for which it
has been notified, and the notice. -/
def TaskAt.credit : TaskAt → ℕ
  | .peek .heartbeat => 0
  | .peek _ => 1
  | .post .heartbeat _ => 0
  | .post _ _ => 1
  | .receive .heartbeat _ => 0
  | .receive _ _ => 1
  | _ => 0

/-- The heartbeat task will be notified of all alerts in the queue. -/
structure Awake (l : AlertHistory) (w : AlertWorld) : Prop where
  /-- A step notifies at most once. -/
  counted : w.notification.toNat + w.notifying ≤ l.length
  /-- There is a notification for every alert. -/
  enough : w.alertQueue.length ≤ w.notification.toNat + w.notifying + w.task.credit
  /-- Notifications are not dropped. -/
  not_clear : w.task ≠ .clear

section Notifications

variable {w w' : AlertWorld} {action : AlertAction} {event : AlertEvent} {l : AlertHistory}

theorem toNat_give {n : UInt32} (h : n.toNat + 1 < 2 ^ 32) : (n + 1).toNat = n.toNat + 1 := by
  rw [UInt32.toNat_add]
  exact Nat.mod_eq_of_lt h

theorem toNat_take {n : UInt32} (h : n ≠ 0) : (n - 1).toNat + 1 = n.toNat := by
  have hpos : n.toNat ≠ 0 := fun hzero ↦ h (UInt32.toNat_inj.1 hzero)
  have hone : 1 ≤ n := UInt32.le_iff_toNat_le.2 (Nat.one_le_iff_ne_zero.2 hpos)
  rw [UInt32.toNat_sub_of_le _ _ hone]
  exact Nat.succ_pred hpos

/-- Returning from `sendNextQueuedAlert` takes no notification. -/
theorem credit_behind (call : SendCall) (result : AlertSendResult) :
    (call.behind result).credit = 0 := by
  rcases call <;> rcases result <;> rfl

theorem behind_ne_clear {call : SendCall} {result : AlertSendResult} (h : result ≠ .deferred) :
    call.behind result ≠ .clear := by
  rcases result
  case deferred => exact absurd rfl h
  all_goals rcases call <;> exact TaskAt.noConfusion

theorem awake_of_taskStep {env : TaskEnv} (h : taskStep w env = some (event, w'))
    (hawake : Awake l w) (hshort : l.length + 1 < 2 ^ 32)
    (hhead : ∀ alert, w.task.hand = .given alert → w.alertQueue.head? = some alert)
    (hanswered : ∀ alert status, event = .posted alert status → status = 200) :
    Awake ((action, event) :: l) w' := by
  obtain ⟨hcounted, henough, hclear⟩ := hawake
  have hlength : ((action, event) :: l).length = l.length + 1 := rfl
  obtain ⟨queue, notification, notifying, notice, task⟩ := w
  dsimp only at hcounted henough hclear hhead
  -- one case for each place at which the task can be
  rcases task with - | - | - | call | ⟨call, alert⟩ | ⟨call, alert⟩ | call | - | - | - | - | -
  case notRunning => cases h
  case noticeExists =>
    rcases notice <;> cases h
    · exact ⟨Nat.le_succ_of_le hcounted, Nat.le_succ_of_le henough, TaskAt.noConfusion⟩
    · exact ⟨Nat.le_succ_of_le hcounted, henough, TaskAt.noConfusion⟩
  case sendNotice =>
    simp only [taskStep] at h
    split at h <;> cases h
    · refine ⟨Nat.le_succ_of_le hcounted, ?_, TaskAt.noConfusion⟩
      show (queue ++ [configAppliedAlert]).length ≤ _ + 1
      rw [List.length_append]
      exact Nat.succ_le_succ henough
    · exact ⟨Nat.le_succ_of_le hcounted, Nat.le_succ_of_le henough, TaskAt.noConfusion⟩
  case peek =>
    rcases queue with - | ⟨alert, queue⟩ <;> cases h
    · exact ⟨Nat.le_succ_of_le hcounted, Nat.zero_le _, behind_ne_clear AlertSendResult.noConfusion⟩
    · refine ⟨Nat.le_succ_of_le hcounted, ?_, TaskAt.noConfusion⟩
      rcases call <;> exact henough
  case post =>
    cases h
    have hstatus : performAlertPost env.connection = 200 := hanswered alert _ rfl
    rw [hstatus]
    refine ⟨Nat.le_succ_of_le hcounted, ?_, TaskAt.noConfusion⟩
    rcases call <;> exact henough
  case receive =>
    rcases queue with - | ⟨delivered, queue⟩
    · exact absurd (hhead alert rfl) (Option.some_ne_none _).symm
    · cases h
      have hrest : queue.length ≤ notification.toNat + notifying := by
        rcases call <;> simp only [TaskAt.credit, List.length_cons] at henough <;> omega
      rcases delivered.clearConfigAppliedNotice
      · refine ⟨Nat.le_succ_of_le hcounted, ?_, behind_ne_clear AlertSendResult.noConfusion⟩
        show queue.length ≤ notification.toNat + notifying + (call.behind .sent).credit
        rw [credit_behind]
        exact hrest
      · exact ⟨Nat.le_succ_of_le hcounted, hrest, TaskAt.noConfusion⟩
  case removeNotice =>
    cases h
    refine ⟨Nat.le_succ_of_le hcounted, ?_, behind_ne_clear AlertSendResult.noConfusion⟩
    show queue.length ≤ notification.toNat + notifying + (call.behind .sent).credit
    rw [credit_behind]
    exact henough
  case take =>
    simp only [taskStep] at h
    split at h
    · cases h
      exact ⟨Nat.le_succ_of_le hcounted, henough, TaskAt.noConfusion⟩
    · next hsome =>
      cases h
      have htake := toNat_take hsome
      refine ⟨?_, ?_, TaskAt.noConfusion⟩
      · show (notification - 1).toNat + notifying ≤ l.length + 1
        omega
      · show queue.length ≤ (notification - 1).toNat + notifying + 1
        have henough' : queue.length ≤ notification.toNat + notifying := henough
        omega
  case clear => exact absurd rfl hclear
  case elapsed =>
    simp only [taskStep] at h
    split at h <;> cases h <;>
      exact ⟨Nat.le_succ_of_le hcounted, henough, TaskAt.noConfusion⟩
  case messagesWaiting =>
    simp only [taskStep] at h
    split at h <;> cases h <;>
      exact ⟨Nat.le_succ_of_le hcounted, henough, TaskAt.noConfusion⟩
  case give =>
    cases h
    have hgive := toNat_give (n := notification) (by omega)
    refine ⟨?_, ?_, TaskAt.noConfusion⟩
    · show (notification + 1).toNat + notifying ≤ l.length + 1
      omega
    · show queue.length ≤ (notification + 1).toNat + notifying + 0
      have henough' : queue.length ≤ notification.toNat + notifying := henough
      omega

theorem awake_of_step (h : alertStep w action = some (event, w')) (hawake : Awake l w)
    (hshort : l.length + 1 < 2 ^ 32) (hrestarts : action.restarts = false)
    (hempty : w.task = .notRunning → w.alertQueue = [])
    (hhead : ∀ alert, w.task.hand = .given alert → w.alertQueue.head? = some alert)
    (hanswered : ∀ alert status, event = .posted alert status → status = 200) :
    Awake ((action, event) :: l) w' := by
  rcases action with - | - | ⟨level, title, message, tag⟩ | - | - | - | env
  case restart => cases hrestarts
  case task => exact awake_of_taskStep h hawake hshort hhead hanswered
  all_goals
    obtain ⟨hcounted, henough, hclear⟩ := hawake
    obtain ⟨queue, notification, notifying, notice, task⟩ := w
    dsimp only at hcounted henough hclear hempty
  case startHeartbeatTask =>
    rcases task
    case notRunning =>
      cases h
      exact ⟨Nat.le_succ_of_le hcounted, Nat.zero_le _, TaskAt.noConfusion⟩
    all_goals
      cases h
      exact ⟨Nat.le_succ_of_le hcounted, henough, hclear⟩
  case queueAlert =>
    simp only [alertStep] at h
    split at h
    · cases h
      exact ⟨Nat.le_succ_of_le hcounted, henough, hclear⟩
    · split at h
      · cases h
        exact ⟨Nat.le_succ_of_le hcounted, henough, hclear⟩
      · split at h <;> cases h
        · refine ⟨Nat.succ_le_succ hcounted, ?_, hclear⟩
          show (queue ++ [_]).length ≤ notification.toNat + (notifying + 1) + task.credit
          rw [List.length_append, List.length_singleton]
          omega
        · exact ⟨Nat.le_succ_of_le hcounted, henough, hclear⟩
  case notify =>
    simp only [alertStep] at h
    split at h
    · cases h
    · cases h
      have hgive := toNat_give (n := notification) (by omega)
      refine ⟨?_, ?_, hclear⟩
      · show (notification + 1).toNat + (notifying - 1) ≤ l.length + 1
        omega
      · show queue.length ≤ (notification + 1).toNat + (notifying - 1) + task.credit
        omega
  case markConfigAppliedNotice =>
    cases h
    exact ⟨Nat.le_succ_of_le hcounted, henough, hclear⟩
  case factoryReset =>
    cases h
    exact ⟨Nat.le_succ_of_le hcounted, henough, hclear⟩

theorem AllAnswered.of_cons {x : AlertAction × AlertEvent} (h : AllAnswered (x :: l)) :
    AllAnswered l :=
  fun y hy ↦ h y (List.mem_cons_of_mem _ hy)

/-- The step that was just taken. -/
theorem AllAnswered.status (h : AllAnswered ((action, event) :: l)) :
    ∀ alert status, event = .posted alert status → status = 200 := by
  rintro alert status rfl
  have hfails : decide (status ≠ 200) = false := h _ (List.mem_cons_self ..)
  exact not_not.1 (of_decide_eq_false hfails)

theorem awake_run {notice : Bool} (h : alertSystem.Run (.boot notice) l w)
    (hshort : (sinceRestart l).length < 2 ^ 32) (hanswered : AllAnswered (sinceRestart l)) :
    Awake (sinceRestart l) w := by
  induction h with
  | refl => exact ⟨Nat.le_refl 0, Nat.le_refl 0, TaskAt.noConfusion⟩
  | @step l w w' action event hrun hstep ih =>
    rcases hrestarts : action.restarts
    · rw [sinceRestart_cons hrestarts] at hshort hanswered ⊢
      obtain ⟨hsound, hempty⟩ := sound_run hrun
      exact awake_of_step hstep (ih (Nat.lt_of_succ_lt hshort) hanswered.of_cons) hshort hrestarts
        hempty (fun alert hgiven ↦ hsound.head_eq alert (.inr hgiven)) hanswered.status
    · rcases action <;> cases hrestarts
      cases hstep
      exact ⟨Nat.le_refl 0, Nat.le_refl 0, TaskAt.noConfusion⟩

end Notifications

/-- **No alert is forgotten.** As long as no request has failed since the last restart, there is a
notification for every alert in the queue when the heartbeat task waits: it has not been taken, or the
caller is about to give it. (The notification value wraps after `2 ^ 32` of them.) -/
theorem notified_of_every_alert {notice : Bool} {l : AlertHistory} {w : AlertWorld}
    (h : alertSystem.Run (.boot notice) l w) (hshort : (sinceRestart l).length < 2 ^ 32)
    (hanswered : AllAnswered (sinceRestart l)) (hwaits : w.task = .take) :
    w.alertQueue.length ≤ w.notification.toNat + w.notifying := by
  have henough := (awake_run h hshort hanswered).enough
  rw [hwaits] at henough
  exact henough

/-- An alert is queued while the heartbeat task waits, and the task has not been notified yet. -/
def waitingRun : AlertHistory × AlertWorld := Refinement.outcome alertStep (.boot false)
  [.startHeartbeatTask, .task answering, .task answering, alarm "a"]

theorem notified_of_every_alert_waitingRun :
    waitingRun.2.alertQueue.length = 1 ∧
      waitingRun.2.alertQueue.length ≤ waitingRun.2.notification.toNat + waitingRun.2.notifying := by
  refine ⟨by decide +kernel, ?_⟩
  exact notified_of_every_alert (Refinement.run_outcome (by decide +kernel) :
    alertSystem.Run (.boot false) waitingRun.1 waitingRun.2) (by decide +kernel)
    (show ∀ x ∈ _, _ by decide +kernel) (by decide +kernel)

/-! ### The notice -/

/-- A notice has been answered, and the marker has not been removed yet. -/
def TaskAt.noticeAnswered : TaskAt → Bool
  | .receive _ alert => alert.clearConfigAppliedNotice
  | .removeNotice _ => true
  | _ => false

/-- The request for a notice is answered with 200. -/
def AnswersNotice (x : AlertAction × AlertEvent) : Prop :=
  ∃ alert, x.2 = .posted alert 200 ∧ alert.clearConfigAppliedNotice = true

section Notice

variable {w w' : AlertWorld} {action : AlertAction} {event : AlertEvent} {l : AlertHistory}

@[simp] theorem noticeAnswered_behind (call : SendCall) (result : AlertSendResult) :
    (call.behind result).noticeAnswered = false := by
  rcases call <;> rcases result <;> rfl

/-- The heartbeat task keeps the marker until it has an answer. -/
theorem notice_of_taskStep {env : TaskEnv} (h : taskStep w env = some (event, w'))
    (hhead : ∀ alert, w.task.hand = .given alert → w.alertQueue.head? = some alert)
    (hnotice : w.notice = true) (hfree : w.task.noticeAnswered = false) :
    w'.notice = true ∧ w'.task.noticeAnswered = false ∨ AnswersNotice (action, event) := by
  obtain ⟨queue, notification, notifying, notice, task⟩ := w
  obtain rfl : notice = true := hnotice
  rcases task with - | - | - | call | ⟨call, alert⟩ | ⟨call, alert⟩ | call | - | - | - | - | -
  case notRunning => cases h
  case noticeExists =>
    cases h
    exact .inl ⟨rfl, rfl⟩
  case sendNotice =>
    simp only [taskStep] at h
    split at h <;> cases h <;> exact .inl ⟨rfl, rfl⟩
  case peek =>
    rcases queue with - | ⟨alert, queue⟩ <;> cases h
    · exact .inl ⟨rfl, noticeAnswered_behind _ _⟩
    · exact .inl ⟨rfl, rfl⟩
  case post =>
    cases h
    by_cases hstatus : performAlertPost env.connection = 200
    · rw [hstatus]
      rcases hclear : alert.clearConfigAppliedNotice
      · exact .inl ⟨rfl, hclear⟩
      · exact .inr ⟨alert, rfl, hclear⟩
    · rw [if_pos hstatus]
      exact .inl ⟨rfl, noticeAnswered_behind _ _⟩
  case receive =>
    -- What is removed is the alert that was posted, and it is no notice.
    rcases queue with - | ⟨delivered, queue⟩
    · exact absurd (hhead alert rfl) (Option.some_ne_none _).symm
    · obtain rfl : delivered = alert := Option.some.inj (hhead alert rfl)
      have hclear : delivered.clearConfigAppliedNotice = false := hfree
      simp only [taskStep, hclear, Bool.false_eq_true, if_false] at h
      cases h
      exact .inl ⟨rfl, noticeAnswered_behind _ _⟩
  case removeNotice => cases hfree
  case take =>
    simp only [taskStep] at h
    split at h <;> cases h <;> exact .inl ⟨rfl, rfl⟩
  case clear =>
    cases h
    exact .inl ⟨rfl, rfl⟩
  case elapsed =>
    simp only [taskStep] at h
    split at h <;> cases h <;> exact .inl ⟨rfl, rfl⟩
  case messagesWaiting =>
    simp only [taskStep] at h
    split at h <;> cases h <;> exact .inl ⟨rfl, rfl⟩
  case give =>
    cases h
    exact .inl ⟨rfl, rfl⟩

theorem notice_of_step (h : alertStep w action = some (event, w'))
    (hhead : ∀ alert, w.task.hand = .given alert → w.alertQueue.head? = some alert)
    (hnotice : w.notice = true) (hfree : w.task.noticeAnswered = false) :
    w'.notice = true ∧ w'.task.noticeAnswered = false ∨ AnswersNotice (action, event) ∨
      action = .factoryReset := by
  rcases action with - | - | ⟨level, title, message, tag⟩ | - | - | - | env
  case task =>
    rcases notice_of_taskStep h hhead hnotice hfree with hkept | hanswered
    · exact .inl hkept
    · exact .inr (.inl hanswered)
  case restart =>
    cases h
    exact .inl ⟨hnotice, rfl⟩
  case startHeartbeatTask =>
    simp only [alertStep] at h
    split at h <;> cases h
    · exact .inl ⟨hnotice, rfl⟩
    · exact .inl ⟨hnotice, hfree⟩
  case queueAlert =>
    simp only [alertStep] at h
    split at h
    · cases h
      exact .inl ⟨hnotice, hfree⟩
    · split at h
      · cases h
        exact .inl ⟨hnotice, hfree⟩
      · split at h <;> cases h <;> exact .inl ⟨hnotice, hfree⟩
  case notify =>
    simp only [alertStep] at h
    split at h <;> cases h
    exact .inl ⟨hnotice, hfree⟩
  case markConfigAppliedNotice =>
    cases h
    exact .inl ⟨rfl, hfree⟩
  case factoryReset => exact .inr (.inr rfl)

end Notice

/-- **The notice survives until it is answered.** When the marker is there, and no notice has just been
answered, it stays through restarts, failed requests and full queues, until a request for the notice is
answered with 200 or the device is reset to the factory settings. -/
theorem notice_kept {notice : Bool} {l₀ l : AlertHistory} {w w' : AlertWorld}
    (h₀ : alertSystem.Run (.boot notice) l₀ w) (h : alertSystem.Run w l w')
    (hnotice : w.notice = true) (hfree : w.task.noticeAnswered = false) :
    w'.notice = true ∨ (∃ x ∈ l, AnswersNotice x) ∨ ∃ x ∈ l, x.1 = .factoryReset := by
  have hkept : w'.notice = true ∧ w'.task.noticeAnswered = false ∨
      ∃ x ∈ l, AnswersNotice x ∨ x.1 = .factoryReset := by
    induction h with
    | refl => exact .inl ⟨hnotice, hfree⟩
    | @step l u u' action event hrun hstep ih =>
      rcases ih with ⟨hnotice, hfree⟩ | ⟨x, hx, hanswered⟩
      · have hsound := (sound_run (h₀.append hrun)).1
        rcases notice_of_step hstep (fun alert hgiven ↦ hsound.head_eq alert (.inr hgiven)) hnotice
          hfree with hkept | hanswered
        · exact .inl hkept
        · exact .inr ⟨_, List.mem_cons_self .., hanswered⟩
      · exact .inr ⟨x, List.mem_cons_of_mem _ hx, hanswered⟩
  rcases hkept with hkept | ⟨x, hx, hanswered | hreset⟩
  · exact .inl hkept.1
  · exact .inr (.inl ⟨x, hx, hanswered⟩)
  · exact .inr (.inr ⟨x, hx, hreset⟩)

/-- The notice is posted in vain, and the device restarts. -/
def unansweredRun : AlertHistory × AlertWorld := Refinement.outcome alertStep (.boot true)
  [.startHeartbeatTask, .task answering, .task answering, .task answering, .task unreachable,
    .restart]

theorem notice_kept_unansweredRun :
    unansweredRun.2.notice = true ∨ (∃ x ∈ unansweredRun.1, AnswersNotice x) ∨
      ∃ x ∈ unansweredRun.1, x.1 = .factoryReset :=
  notice_kept (.refl : alertSystem.Run (.boot true) [] (.boot true))
    (Refinement.run_outcome (by decide +kernel) :
      alertSystem.Run (.boot true) unansweredRun.1 unansweredRun.2) rfl rfl

-- A marker that is written while the task removes the one whose notice was answered goes with it.
example : (Refinement.outcome alertStep (.boot true)
    [.startHeartbeatTask, .task answering, .task answering, .task answering, .task answering,
      .task answering, .markConfigAppliedNotice, .task answering]).2.notice = false := by
  decide +kernel

/-! ### Progress -/

/-- What these steps have removed from the queue. -/
def sentAlerts (l : AlertHistory) : List QueuedAlert := removals (l.map (·.2.reads))

/-- It is time for a heartbeat. -/
def AlertEvent.isDue : AlertEvent → Bool
  | .due => true
  | _ => false

/-- A heartbeat delivers an alert: the answer was 200, and the alert leaves the queue. -/
def AlertEvent.deliversForHeartbeat : AlertEvent → Bool
  | .received .heartbeat _ => true
  | _ => false

/-- The alerts that heartbeats have delivered. -/
def heartbeatDeliveries (l : AlertHistory) : ℕ := l.countP (·.2.deliversForHeartbeat)

/-- The heartbeats that have become due. -/
def heartbeats (l : AlertHistory) : ℕ := l.countP (·.2.isDue)

/-- The heartbeat task is delivering an alert because of a heartbeat. -/
def TaskAt.inHeartbeat : TaskAt → ℕ
  | .peek .heartbeat => 1
  | .post .heartbeat _ => 1
  | .receive .heartbeat _ => 1
  | _ => 0

section Progress

variable {w w' : AlertWorld} {action : AlertAction} {event : AlertEvent} {l l₀ : AlertHistory}

theorem heartbeats_cons : heartbeats ((action, event) :: l) = heartbeats l + event.isDue.toNat := by
  rw [heartbeats, List.countP_cons]
  rcases event.isDue <;> rfl

theorem heartbeatDeliveries_cons : heartbeatDeliveries ((action, event) :: l) =
    heartbeatDeliveries l + event.deliversForHeartbeat.toNat := by
  rw [heartbeatDeliveries, List.countP_cons]
  rcases event.deliversForHeartbeat <;> rfl

/-- What was delivered stays delivered. -/
theorem length_sentAlerts_cons :
    (sentAlerts l).length ≤ (sentAlerts ((action, event) :: l)).length := by
  rcases event with - | - | - | - | ⟨alert, status⟩ | ⟨call, alert⟩ | -
  case received =>
    show _ ≤ (removals (.removed alert :: _)).length
    rw [removals_removed, List.length_append]
    exact Nat.le_add_right _ _
  case posted =>
    show _ ≤ (removals ((if status = 200 then _ else _) :: _)).length
    split <;> exact Nat.le_refl _
  all_goals exact Nat.le_refl _

/-- A heartbeat goes on until it has delivered an alert, or there is none. -/
theorem heartbeat_of_taskStep {env : TaskEnv} (h : taskStep w env = some (event, w'))
    (hhead : ∀ alert, w.task.hand = .given alert → w.alertQueue.head? = some alert)
    (hanswered : ∀ alert status, event = .posted alert status → status = 200) :
    event.isDue.toNat + w.task.inHeartbeat ≤
        event.deliversForHeartbeat.toNat + w'.task.inHeartbeat ∨
      w.alertQueue = [] := by
  obtain ⟨queue, notification, notifying, notice, task⟩ := w
  rcases task with - | - | - | call | ⟨call, alert⟩ | ⟨call, alert⟩ | call | - | - | - | - | -
  case notRunning => cases h
  case noticeExists =>
    cases h
    exact .inl (Nat.zero_le _)
  case sendNotice =>
    simp only [taskStep] at h
    split at h <;> cases h <;> exact .inl (Nat.zero_le _)
  case peek =>
    rcases queue with - | ⟨alert, queue⟩
    · exact .inr rfl
    · cases h
      rcases call <;> exact .inl (Nat.le_refl _)
  case post =>
    cases h
    have hstatus : performAlertPost env.connection = 200 := hanswered alert _ rfl
    rw [hstatus]
    rcases call <;> exact .inl (Nat.le_refl _)
  case receive =>
    rcases queue with - | ⟨delivered, queue⟩
    · exact .inr rfl
    · cases h
      rcases call
      case heartbeat => exact .inl (Nat.le_add_right 1 _)
      all_goals exact .inl (Nat.zero_le _)
  case removeNotice =>
    cases h
    exact .inl (Nat.zero_le _)
  case take =>
    simp only [taskStep] at h
    split at h <;> cases h <;> exact .inl (Nat.zero_le _)
  case clear =>
    cases h
    exact .inl (Nat.zero_le _)
  case elapsed =>
    simp only [taskStep] at h
    split at h <;> cases h
    · exact .inl (Nat.le_refl 1)
    · exact .inl (Nat.zero_le _)
  case messagesWaiting =>
    cases h
    exact .inl (Nat.zero_le _)
  case give =>
    cases h
    exact .inl (Nat.zero_le _)

theorem heartbeat_of_step (h : alertStep w action = some (event, w'))
    (hrestarts : action.restarts = false)
    (hhead : ∀ alert, w.task.hand = .given alert → w.alertQueue.head? = some alert)
    (hanswered : ∀ alert status, event = .posted alert status → status = 200) :
    event.isDue.toNat + w.task.inHeartbeat ≤
        event.deliversForHeartbeat.toNat + w'.task.inHeartbeat ∨
      w.alertQueue = [] := by
  rcases action with - | - | ⟨level, title, message, tag⟩ | - | - | - | env
  case restart => cases hrestarts
  case task => exact heartbeat_of_taskStep h hhead hanswered
  case startHeartbeatTask =>
    simp only [alertStep] at h
    split at h
    · next hno =>
      cases h
      rw [hno]
      exact .inl (Nat.zero_le _)
    · cases h
      exact .inl (Nat.le_refl _)
  case queueAlert =>
    simp only [alertStep] at h
    split at h
    · cases h
      exact .inl (Nat.le_refl _)
    · split at h
      · cases h
        exact .inl (Nat.le_refl _)
      · split at h <;> cases h <;> exact .inl (Nat.le_refl _)
  case notify =>
    simp only [alertStep] at h
    split at h <;> cases h
    exact .inl (Nat.le_refl _)
  case markConfigAppliedNotice =>
    cases h
    exact .inl (Nat.le_refl _)
  case factoryReset =>
    cases h
    exact .inl (Nat.le_refl _)

theorem sinceRestart_append (h : ∀ x ∈ l, x.1.restarts = false) :
    sinceRestart (l ++ l₀) = l ++ sinceRestart l₀ :=
  List.takeWhile_append_of_pos fun x hx ↦ by rw [h x hx]; rfl

/-- Between two states, as many alerts leave the queue as it gets shorter, and those besides that have
been put into it. -/
theorem length_queue {notice : Bool} (h₀ : alertSystem.Run (.boot notice) l₀ w)
    (h : alertSystem.Run w l w') (hrestarts : ∀ x ∈ l, x.1.restarts = false) :
    w.alertQueue.length ≤ (sentAlerts l).length + w'.alertQueue.length := by
  have hbefore := (sound_run h₀).1.length_removals
  have hafter := (sound_run (h₀.append h)).1.length_removals
  rw [sinceRestart_append hrestarts, List.map_append] at hafter
  have hremovals : ∀ l l' : List (Handover.Event QueuedAlert),
      (removals (l ++ l')).length = (removals l').length + (removals l).length := fun l l' ↦ by
    rw [removals, collect_append, List.length_append]
    rfl
  have hputs : ∀ l l' : List (Handover.Event QueuedAlert), (puts l').length ≤ (puts (l ++ l')).length :=
    fun l l' ↦ by
      rw [puts, puts, collect_append, List.length_append]
      exact Nat.le_add_right _ _
  have hmore := hputs (l.map (·.2.reads)) ((sinceRestart l₀).map (·.2.reads))
  rw [hremovals] at hafter
  show w.handover.waiting.length ≤ _ + w'.handover.waiting.length
  rw [sentAlerts]
  omega

end Progress

/-- **Heartbeats deliver.** While the device runs and requests are answered, there have been as many
deliveries by heartbeats as there were heartbeats, but for the one that is going on, unless all alerts
that were in the queue have been delivered. What notifications deliver does not count for a heartbeat.
By `alerts_delivered` the alerts delivered are the first of the queue. -/
theorem heartbeats_deliver {notice : Bool} {l₀ l : AlertHistory} {w w' : AlertWorld}
    (h₀ : alertSystem.Run (.boot notice) l₀ w) (h : alertSystem.Run w l w')
    (hrestarts : ∀ x ∈ l, x.1.restarts = false) (hanswered : AllAnswered l) :
    heartbeats l ≤ heartbeatDeliveries l + 1 ∨ w.alertQueue.length ≤ (sentAlerts l).length := by
  have hprogress : heartbeats l ≤ heartbeatDeliveries l + w'.task.inHeartbeat ∨
      w.alertQueue.length ≤ (sentAlerts l).length := by
    induction h with
    | refl => exact .inl (Nat.zero_le _)
    | @step l u u' action event hrun hstep ih =>
      have hpast : ∀ x ∈ l, x.1.restarts = false :=
        fun x hx ↦ hrestarts x (List.mem_cons_of_mem _ hx)
      have hsent := @length_sentAlerts_cons action event l
      rw [heartbeats_cons, heartbeatDeliveries_cons]
      rcases ih hpast hanswered.of_cons with hcount | hall
      · have hsound := (sound_run (h₀.append hrun)).1
        rcases heartbeat_of_step hstep (hrestarts _ (List.mem_cons_self ..))
          (fun alert hgiven ↦ hsound.head_eq alert (.inr hgiven)) hanswered.status with hgoes | hempty
        · omega
        · -- Nothing is left of what was in the queue.
          have hlength := length_queue h₀ hrun hpast
          rw [hempty, List.length_nil] at hlength
          omega
      · omega
  have hone : w'.task.inHeartbeat ≤ 1 := by
    rcases w'.task with - | - | - | call | ⟨call, alert⟩ | ⟨call, alert⟩ | call | - | - | - | - | -
    case peek => rcases call <;> decide
    case post => rcases call <;> exact Nat.le_add_left _ _
    case receive => rcases call <;> exact Nat.le_add_left _ _
    all_goals exact Nat.zero_le 1
  omega

/-- Two alerts wait, and nobody has notified the heartbeat task. -/
def silentRun : AlertHistory × AlertWorld := Refinement.outcome alertStep (.boot false)
  [.startHeartbeatTask, .task answering, .task answering, alarm "a", alarm "b"]

/-- Then there is a heartbeat. -/
def heartbeatRun : AlertHistory × AlertWorld := Refinement.outcome alertStep silentRun.2
  [.task answering, .task onTime, .task answering, .task answering, .task answering]

theorem heartbeats_deliver_heartbeatRun :
    (sentAlerts heartbeatRun.1).length = 1 ∧
      (heartbeats heartbeatRun.1 ≤ heartbeatDeliveries heartbeatRun.1 + 1 ∨
        silentRun.2.alertQueue.length ≤ (sentAlerts heartbeatRun.1).length) := by
  refine ⟨by decide +kernel, ?_⟩
  exact heartbeats_deliver
    (Refinement.run_outcome (by decide +kernel) :
      alertSystem.Run (.boot false) silentRun.1 silentRun.2)
    (Refinement.run_outcome (by decide +kernel) :
      alertSystem.Run silentRun.2 heartbeatRun.1 heartbeatRun.2)
    (by decide +kernel) (show ∀ x ∈ _, _ by decide +kernel)

end Minis

end ReverseTunnel
