import ReverseTunnel.Lib.Refinement
import ReverseTunnel.Minis.Http

/-!
# Alerts

`queueAlert`, called by any task, puts an alert into a queue with room for four and notifies
`heartbeatTask`. The heartbeat task looks at the first alert in the queue, posts it to the control
center, and removes it **when the answer is 200**; otherwise the alert stays where it is. A notice that a
managed configuration has been applied is an alert like the others, queued by the heartbeat task itself
when it starts and finds the marker file; it is removed from the queue first, and then the marker file.

The tasks run at the same time. What one of them does to the queue, the notification or the marker is
one step, and the others can take any number of steps before the next. The heartbeat task is therefore
given by **where it is** (`TaskAt`), and `taskStep` takes it to its next such place. The first alert can
not be removed by anybody else, but others can be queued at any time, and at any time the device can
restart: then only the marker file is left.
-/

namespace ReverseTunnel

namespace Minis

/-- `ALERT_QUEUE_DEPTH` -/
def alertQueueDepth : ℕ := 4

/-- `ALERT_LEVEL_SIZE` -/
def alertLevelSize : ℕ := 9

/-- `ALERT_TITLE_SIZE` -/
def alertTitleSize : ℕ := 97

/-- `ALERT_MESSAGE_SIZE` -/
def alertMessageSize : ℕ := 257

/-- `ALERT_TAG_SIZE` -/
def alertTagSize : ℕ := 49

/-- `QueuedAlert`, with the character arrays as the C strings in them -/
structure QueuedAlert where
  /-- `level` -/
  level : Text
  /-- `title` -/
  title : Text := []
  /-- `message` -/
  message : Text
  /-- `tag` -/
  tag : Text := []
  /-- `clearConfigAppliedNotice` -/
  clearConfigAppliedNotice : Bool := false
  deriving DecidableEq

/-- `AlertSendResult` -/
inductive AlertSendResult where
  /-- `None` -/
  | none
  /-- `Sent` -/
  | sent
  /-- `Deferred` -/
  | deferred
  deriving DecidableEq

/-! ### What is queued -/

/-- `normalizedLevel` -/
def normalizedLevel (level : Text) : Option Text :=
  if level = ascii "info" then some (ascii "info")
  else if level = ascii "warn" ∨ level = ascii "warning" then some (ascii "warn")
  else if level = ascii "critical" ∨ level = ascii "error" then some (ascii "critical")
  else none

/-- `strlcpy` into a zeroed array, unless there is nothing to copy -/
def copied (text : Option Text) (size : ℕ) : Text :=
  match text with
  | none => []
  | some text => strlcpy text.cString size

/-- The alert that `queueAlert` sends, unless it rejects its arguments. -/
def alertOf (level title message tag : Option Text) : Option QueuedAlert :=
  match level, message with
  | some level, some message =>
    if message.cString = [] then none
    else (normalizedLevel level.cString).map fun normalized ↦
      { level := strlcpy normalized alertLevelSize
        title := copied title alertTitleSize
        message := strlcpy message.cString alertMessageSize
        tag := copied tag alertTagSize }
  | _, _ => none

/-- What `queueConfigAppliedNoticeIfNeeded` sends. -/
def configAppliedAlert : QueuedAlert where
  level := strlcpy (ascii "info") alertLevelSize
  title := strlcpy (ascii "ESP32 cfg.txt toegepast") alertTitleSize
  message := strlcpy (ascii "Nieuwe Minis cfg.txt is opgeslagen en na herstart toegepast.")
    alertMessageSize
  tag := strlcpy (ascii "cfg-applied") alertTagSize
  clearConfigAppliedNotice := true

/-! ### The tasks -/

/-- From where `sendNextQueuedAlert` is called. -/
inductive SendCall where
  /-- Before the loop. -/
  | first
  /-- After a notification. -/
  | notified
  /-- After the heartbeat. -/
  | heartbeat
  deriving DecidableEq

/-- Where `heartbeatTask` is: what it is about to do with what it shares with others. -/
inductive TaskAt where
  /-- It has not been started: `heartbeatTaskHandle` is null. -/
  | notRunning
  /-- `LittleFS.exists` in `queueConfigAppliedNoticeIfNeeded` -/
  | noticeExists
  /-- `xQueueSend` in `queueConfigAppliedNoticeIfNeeded` -/
  | sendNotice
  /-- `xQueuePeek` in `sendNextQueuedAlert` -/
  | peek (call : SendCall)
  /-- `performAlertPost(alert)` -/
  | post (call : SendCall) (alert : QueuedAlert)
  /-- `xQueueReceive` behind it, with the same `alert` -/
  | receive (call : SendCall) (alert : QueuedAlert)
  /-- `LittleFS.remove` behind that -/
  | removeNotice (call : SendCall)
  /-- `ulTaskNotifyTake(pdFALSE, heartbeatRemaining)` -/
  | take
  /-- `ulTaskNotifyTake(pdTRUE, 0)` -/
  | clear
  /-- What comes after the wait: `heartbeatRemaining` is brought down. -/
  | elapsed
  /-- `uxQueueMessagesWaiting(alertQueue)` -/
  | messagesWaiting
  /-- `xTaskNotifyGive(heartbeatTaskHandle)` -/
  | give
  deriving DecidableEq

/-- Where `heartbeatTask` goes with what `sendNextQueuedAlert` has returned. -/
def SendCall.behind : SendCall → AlertSendResult → TaskAt
  | .first, _ => .take
  | .notified, .deferred => .clear
  | .notified, _ => .elapsed
  | .heartbeat, .sent => .messagesWaiting
  | .heartbeat, _ => .take

/-- What the tasks share. -/
structure AlertWorld where
  /-- `alertQueue` -/
  alertQueue : List QueuedAlert := []
  /-- The notification value of `heartbeatTask`. -/
  notification : UInt32 := 0
  /-- The calls of `queueAlert` that are about to notify the task. -/
  notifying : ℕ := 0
  /-- `LittleFS.exists(CONFIG_APPLIED_NOTICE_PATH)` -/
  notice : Bool
  /-- Where `heartbeatTask` is. -/
  task : TaskAt := .notRunning

/-- What the request of `performAlertPost` meets. -/
structure AlertConnection where
  /-- `WiFi.status() == WL_CONNECTED` -/
  connected : Bool
  /-- `tlsMemoryAvailable` -/
  memory : Bool
  /-- `connect` -/
  connects : Bool
  /-- What the server answers, if it answers in time. -/
  answer : Option Text
  deriving DecidableEq

/-- `performAlertPost`: what it returns -/
def performAlertPost (c : AlertConnection) : Int :=
  if !c.connected then -3
  else if !c.memory then -2
  else if !c.connects then -1
  else match c.answer with
    | none => -1
    | some sent => parseHttpStatus (readBytesUntil lineLimit sent).1

/-- What `heartbeatTask` meets. -/
structure TaskEnv where
  /-- The network. -/
  connection : AlertConnection
  /-- `LittleFS.remove` succeeds. -/
  removes : Bool
  /-- `heartbeatRemaining` is zero. -/
  due : Bool
  deriving DecidableEq

/-- What a step is, for someone who only sees the alerts. -/
inductive AlertEvent where
  /-- Nothing. -/
  | idle
  /-- `xQueueSend` -/
  | queued (alert : QueuedAlert)
  /-- An alert is not queued. -/
  | refused
  /-- `xQueuePeek` -/
  | peeked (alert : QueuedAlert)
  /-- `performAlertPost` -/
  | posted (alert : QueuedAlert) (status : Int)
  /-- `xQueueReceive`, in the call of `sendNextQueuedAlert` that is made from there -/
  | received (call : SendCall) (alert : QueuedAlert)
  /-- It is time for a heartbeat. -/
  | due
  deriving DecidableEq

/-- The next step of `heartbeatTask`. -/
def taskStep (w : AlertWorld) (env : TaskEnv) : Option (AlertEvent × AlertWorld) :=
  match w.task with
  | .notRunning => none
  | .noticeExists =>
    some (.idle, { w with task := if w.notice then .sendNotice else .peek .first })
  | .sendNotice =>
    if w.alertQueue.length < alertQueueDepth then
      some (.queued configAppliedAlert,
        { w with alertQueue := w.alertQueue ++ [configAppliedAlert], task := .peek .first })
    else some (.refused, { w with task := .peek .first })
  | .peek call =>
    match w.alertQueue with
    | [] => some (.idle, { w with task := call.behind .none })
    | alert :: _ => some (.peeked alert, { w with task := .post call alert })
  | .post call alert =>
    let status := performAlertPost env.connection
    some (.posted alert status,
      { w with task := if status ≠ 200 then call.behind .deferred else .receive call alert })
  | .receive call _ =>
    match w.alertQueue with
    | [] => some (.idle, { w with task := call.behind .deferred })
    | delivered :: rest =>
      some (.received call delivered,
        { w with
          alertQueue := rest
          task := if delivered.clearConfigAppliedNotice then .removeNotice call
            else call.behind .sent })
  | .removeNotice call =>
    some (.idle, { w with notice := w.notice && !env.removes, task := call.behind .sent })
  | .take =>
    -- It waits, but not longer than until the heartbeat.
    if w.notification = 0 then some (.idle, { w with task := .elapsed })
    else some (.idle, { w with notification := w.notification - 1, task := .peek .notified })
  | .clear => some (.idle, { w with notification := 0, task := .elapsed })
  | .elapsed =>
    if env.due then some (.due, { w with task := .peek .heartbeat })
    else some (.idle, { w with task := .take })
  | .messagesWaiting =>
    some (.idle, { w with task := if w.alertQueue.length > 0 then .give else .take })
  | .give => some (.idle, { w with notification := w.notification + 1, task := .take })

/-- What can happen. -/
inductive AlertAction where
  /-- The device restarts, or loses its power. -/
  | restart
  /-- `startHeartbeatTask` succeeds. -/
  | startHeartbeatTask
  /-- `queueAlert`, up to the queue -/
  | queueAlert (level title message tag : Option Text)
  /-- `queueAlert`, the notification of the task -/
  | notify
  /-- `markConfigAppliedNotice` creates the marker. -/
  | markConfigAppliedNotice
  /-- The factory reset in `pollConfigResetButton` removes the marker. -/
  | factoryReset
  /-- `heartbeatTask` goes on. -/
  | task (env : TaskEnv)
  deriving DecidableEq

/-- What happens then, unless it cannot happen now. -/
def alertStep (w : AlertWorld) : AlertAction → Option (AlertEvent × AlertWorld)
  | .restart => some (.idle, { notice := w.notice })
  | .startHeartbeatTask =>
    match w.task with
    | .notRunning => some (.idle, { w with alertQueue := [], task := .noticeExists })
    | _ => some (.idle, w)
  | .queueAlert level title message tag =>
    match w.task with
    | .notRunning => some (.refused, w)
    | _ =>
      match alertOf level title message tag with
      | none => some (.refused, w)
      | some alert =>
        if w.alertQueue.length < alertQueueDepth then
          some (.queued alert,
            { w with alertQueue := w.alertQueue ++ [alert], notifying := w.notifying + 1 })
        else some (.refused, w)
  | .notify =>
    if w.notifying = 0 then none
    else some (.idle,
      { w with notifying := w.notifying - 1, notification := w.notification + 1 })
  | .markConfigAppliedNotice => some (.idle, { w with notice := true })
  | .factoryReset => some (.idle, { w with notice := false })
  | .task env => taskStep w env

/-- The tasks, in any order. -/
def alertSystem : Refinement.System AlertAction AlertEvent AlertWorld := .computed alertStep

/-- A device that has just been switched on. -/
def AlertWorld.boot (notice : Bool) : AlertWorld := { notice := notice }

end Minis

end ReverseTunnel
