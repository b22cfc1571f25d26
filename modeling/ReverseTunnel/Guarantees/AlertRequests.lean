import ReverseTunnel.Guarantees.AlertDelivery
import ReverseTunnel.Minis.AlertRequest

/-!
# What the control center is told

Whatever texts `queueAlert` is called with, what is posted is an alert that **fits into its arrays**, of
one of the three levels, and the control center reads its fields off the request as they are in the
queue. No character of a title or a message can be taken for the end of a field.
-/

namespace ReverseTunnel

namespace Minis

open Handover

/-- The texts of an alert are C strings that fit into the arrays. -/
structure QueuedAlert.Fits (alert : QueuedAlert) : Prop where
  /-- One of three levels. -/
  level : alert.level ∈ [ascii "info", ascii "warn", ascii "critical"]
  /-- There is a message. -/
  message_ne : alert.message ≠ []
  /-- There is room for a zero behind every text. -/
  lengths : alert.level.length < alertLevelSize ∧ alert.title.length < alertTitleSize ∧
    alert.message.length < alertMessageSize ∧ alert.tag.length < alertTagSize
  /-- No text contains a zero. -/
  noZero : 0 ∉ alert.level ∧ 0 ∉ alert.title ∧ 0 ∉ alert.message ∧ 0 ∉ alert.tag

section Fits

variable {w w' : AlertWorld} {action : AlertAction} {event : AlertEvent} {l : AlertHistory}
  {alert : QueuedAlert} {text : Text} {size : ℕ}

theorem length_strlcpy (hsize : 0 < size) : (strlcpy text size).length < size := by
  rw [strlcpy, List.length_take]
  omega

theorem notMem_strlcpy {b : UInt8} (h : b ∉ text) : b ∉ strlcpy text size :=
  fun hmem ↦ h (List.mem_of_mem_take hmem)

theorem copied_fits (text : Option Text) (hsize : 0 < size) :
    (copied text size).length < size ∧ 0 ∉ copied text size := by
  rcases text with - | text
  · exact ⟨hsize, List.not_mem_nil⟩
  · exact ⟨length_strlcpy hsize, notMem_strlcpy Text.notMem_cString⟩

/-- What `queueAlert` sends fits. -/
theorem fits_alertOf {level title message tag : Option Text}
    (h : alertOf level title message tag = some alert) : alert.Fits := by
  rcases level with - | level
  · cases h
  rcases message with - | message
  · cases h
  · rw [alertOf] at h
    split at h
    · cases h
    · next hmessage =>
      obtain ⟨normalized, hlevel, rfl⟩ := Option.map_eq_some_iff.1 h
      have hnormalized : strlcpy normalized alertLevelSize ∈
          [ascii "info", ascii "warn", ascii "critical"] := by
        rw [normalizedLevel] at hlevel
        split at hlevel
        · cases hlevel
          decide +kernel
        · split at hlevel
          · cases hlevel
            decide +kernel
          · split at hlevel <;> cases hlevel
            decide +kernel
      have hlevels : ∀ level ∈ [ascii "info", ascii "warn", ascii "critical"],
          level.length < alertLevelSize ∧ 0 ∉ level := by decide +kernel
      obtain ⟨hlength, hzero⟩ := hlevels _ hnormalized
      obtain ⟨htitle, htitle'⟩ := copied_fits title (by decide : 0 < alertTitleSize)
      obtain ⟨htag, htag'⟩ := copied_fits tag (by decide : 0 < alertTagSize)
      refine ⟨hnormalized, ?_, ⟨hlength, htitle, length_strlcpy (by decide), htag⟩,
        ⟨hzero, htitle', notMem_strlcpy Text.notMem_cString, htag'⟩⟩
      show message.cString.take 256 ≠ []
      rcases hm : message.cString with - | ⟨b, rest⟩
      · exact absurd hm hmessage
      · exact List.cons_ne_nil _ _

theorem fits_configAppliedAlert : configAppliedAlert.Fits :=
  ⟨by decide +kernel, by decide +kernel, by decide +kernel, by decide +kernel⟩

/-- Whatever is queued fits. -/
theorem fits_of_step (h : alertStep w action = some (.queued alert, w')) : alert.Fits := by
  rcases action with - | - | ⟨level, title, message, tag⟩ | - | - | - | env
  case queueAlert =>
    simp only [alertStep] at h
    split at h
    · cases h
    · split at h
      · cases h
      · next halert =>
        split at h <;> cases h
        exact fits_alertOf halert
  case startHeartbeatTask =>
    simp only [alertStep] at h
    split at h <;> cases h
  case notify =>
    simp only [alertStep] at h
    split at h <;> cases h
  case task =>
    obtain ⟨queue, notification, notifying, notice, task⟩ := w
    rcases task with - | - | - | call | ⟨call, posted⟩ | ⟨call, posted⟩ | call | - | - | - | - | -
    case sendNotice =>
      simp only [alertStep, taskStep] at h
      split at h <;> cases h
      exact fits_configAppliedAlert
    case peek => rcases queue <;> cases h
    case receive => rcases queue <;> cases h
    case take =>
      simp only [alertStep, taskStep] at h
      split at h <;> cases h
    case elapsed =>
      simp only [alertStep, taskStep] at h
      split at h <;> cases h
    all_goals cases h
  all_goals cases h

theorem fits_of_mem_puts {notice : Bool} (h : alertSystem.Run (.boot notice) l w) :
    ∀ alert ∈ queuedAlerts l, alert.Fits := by
  intro alert halert
  have hall : ∀ x ∈ l, ∀ alert, x.2 = .queued alert → alert.Fits := by
    clear halert
    induction h with
    | refl =>
      intro x hx
      exact absurd hx List.not_mem_nil
    | @step l w w' action event _ hstep ih =>
      intro x hx
      rcases List.mem_cons.1 hx with rfl | hx
      · rintro alert rfl
        exact fits_of_step hstep
      · exact ih x hx
  obtain ⟨e, he, hput⟩ := List.mem_filterMap.1 (List.mem_reverse.1 halert)
  obtain ⟨x, hx, rfl⟩ := List.mem_map.1 he
  have hqueued : x.2 = .queued alert := by
    rcases hevent : x.2 with - | a | - | a | ⟨a, status⟩ | a | - <;> rw [hevent] at hput
    case queued =>
      obtain rfl : a = alert := Option.some.inj hput
      rfl
    case posted =>
      rw [AlertEvent.reads] at hput
      split at hput <;> cases hput
    all_goals cases hput
  exact hall x ((List.takeWhile_sublist _).subset hx) alert hqueued

/-- Nobody posts but the heartbeat task, and it posts what it has looked at. -/
theorem hand_of_posted {status : Int} (h : alertStep w action = some (.posted alert status, w')) :
    w.task.hand = .showing alert := by
  rcases action with - | - | ⟨level, title, message, tag⟩ | - | - | - | env
  case queueAlert =>
    simp only [alertStep] at h
    split at h
    · cases h
    · split at h
      · cases h
      · split at h <;> cases h
  case startHeartbeatTask =>
    simp only [alertStep] at h
    split at h <;> cases h
  case notify =>
    simp only [alertStep] at h
    split at h <;> cases h
  case task =>
    obtain ⟨queue, notification, notifying, notice, task⟩ := w
    rcases task with - | - | - | call | ⟨call, posted⟩ | ⟨call, posted⟩ | call | - | - | - | - | -
    case post =>
      cases h
      rfl
    case sendNotice =>
      simp only [alertStep, taskStep] at h
      split at h <;> cases h
    case peek => rcases queue <;> cases h
    case receive => rcases queue <;> cases h
    case take =>
      simp only [alertStep, taskStep] at h
      split at h <;> cases h
    case elapsed =>
      simp only [alertStep, taskStep] at h
      split at h <;> cases h
    all_goals cases h
  all_goals cases h

/-- What is posted fits. -/
theorem fits_of_posted {notice : Bool} {status : Int} (h : alertSystem.Run (.boot notice) l w)
    (hmem : (action, .posted alert status) ∈ l) : alert.Fits := by
  induction h with
  | refl => exact absurd hmem List.not_mem_nil
  | @step l w w' action' event hrun hstep ih =>
    rcases List.mem_cons.1 hmem with heq | hmem
    · obtain ⟨rfl, rfl⟩ := Prod.mk.inj heq
      obtain ⟨hsound, -⟩ := sound_run hrun
      have hfirst := hsound.head_eq alert (.inl (hand_of_posted hstep))
      have hqueue : alert ∈ w.alertQueue := List.mem_of_head? hfirst
      have hputs : queuedAlerts l = removedAlerts l ++ w.alertQueue := hsound.puts_eq
      exact fits_of_mem_puts hrun alert (hputs ▸ List.mem_append_right _ hqueue)
    · exact ih hmem

end Fits

/-- **What is posted is read as it was queued**: the fields of an alert that fits, whatever the texts
are that `queueAlert` was called with. -/
theorem alert_read_as_queued {notice : Bool} {l : AlertHistory} {w : AlertWorld}
    {action : AlertAction} {alert : QueuedAlert} {status : Int} (chipId : UInt64)
    (h : alertSystem.Run (.boot notice) l w) (hposted : (action, .posted alert status) ∈ l) :
    alert.Fits ∧ readForm (alertRequest (buildSid chipId) alert) =
      some (alertFields (buildSid chipId) alert) := by
  have hfits := fits_of_posted h hposted
  refine ⟨hfits, readForm_alertRequest ?_ hfits.noZero⟩
  intro hzero
  exact absurd (isXDigit_of_mem_buildSid hzero) (by decide)

/-- A run in which an alert with a message in two fields' clothing is posted. -/
def forgedRun : AlertHistory × AlertWorld := Refinement.outcome alertStep (.boot false)
  [.startHeartbeatTask, alarm "a&alert_level=info", .task answering, .task answering,
    .task answering]

/-- The alert that is posted there. -/
def forgedAlert : QueuedAlert where
  level := ascii "warn"
  message := ascii "a&alert_level=info"

theorem alert_read_as_queued_forgedRun :
    readForm (alertRequest (buildSid 0x1234) forgedAlert) =
      some (alertFields (buildSid 0x1234) forgedAlert) := by
  have hrun : alertSystem.Run (.boot false) forgedRun.1 forgedRun.2 :=
    Refinement.run_outcome (by decide +kernel)
  have hposted : (.task answering, .posted forgedAlert 200) ∈ forgedRun.1 := by decide +kernel
  exact (alert_read_as_queued 0x1234 hrun hposted).2

end Minis

end ReverseTunnel
