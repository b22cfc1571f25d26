import ReverseTunnel.Lib.Clock32
import ReverseTunnel.Lib.History

/-!
# The BOOT button

`sampleConfigButton` looks at the button once and decides which of its gestures is complete: three
clicks, a long press or five clicks. It keeps six variables, among them two readings of the 32-bit
clock, and compares times as that clock shows them.

A `Sample` is what one call sees, at a true time. Histories of samples are **newest first**, and `after`
is where the function stands after a history.
-/

namespace ReverseTunnel

open Clock32

/-- `ButtonAction` -/
inductive ButtonAction where
  | none
  | wifiReset
  | edit
  | factoryReset
  deriving DecidableEq

/-- `CONFIG_EDIT_HOLD_MS` -/
def configEditHoldMs : UInt32 := 4000

/-- `CONFIG_CLICK_MIN_MS` -/
def configClickMinMs : UInt32 := 40

/-- `CONFIG_CLICK_WINDOW_MS` -/
def configClickWindowMs : UInt32 := 3000

/-- The variables of the button. -/
structure ButtonState where
  /-- `buttonPressedAt` -/
  pressedAt : UInt32 := 0
  /-- `buttonWasPressed` -/
  wasPressed : Bool := false
  /-- `buttonClickCount` -/
  clickCount : ℕ := 0
  /-- `buttonClickWindowStartedAt` -/
  clickWindowStartedAt : UInt32 := 0
  /-- `buttonHoldActionTriggered` -/
  holdActionTriggered : Bool := false
  /-- `pendingButtonAction` -/
  pendingAction : ButtonAction := .none
  deriving DecidableEq

/-- The window of the clicks counted so far is over. -/
def ButtonState.windowOver (s : ButtonState) (now : UInt32) : Bool :=
  s.clickCount > 0 && now - s.clickWindowStartedAt > configClickWindowMs

/-- The part of `sampleConfigButton` that counts a click. -/
def ButtonState.clicked (s : ButtonState) (now : UInt32) : ButtonState :=
  let s := if s.windowOver now then { s with clickCount := 0 } else s
  let s := if s.clickCount = 0 then { s with clickWindowStartedAt := now } else s
  let s := { s with clickCount := s.clickCount + 1 }
  if s.clickCount ≥ 5 then { s with clickCount := 5, pendingAction := .factoryReset } else s

@[simp] theorem ButtonState.clicked_wasPressed (s : ButtonState) (now : UInt32) :
    (s.clicked now).wasPressed = s.wasPressed := by
  rw [clicked]
  split <;> split <;> split <;> rfl

/-- The part of `sampleConfigButton` that sees the button released. -/
def ButtonState.released (s : ButtonState) (now : UInt32) : ButtonState :=
  let pressDuration := now - s.pressedAt
  let isClick := !s.holdActionTriggered && pressDuration ≥ configClickMinMs &&
    pressDuration < configEditHoldMs
  let s := { s with wasPressed := false, pressedAt := 0 }
  let s := if isClick then s.clicked now else s
  { s with holdActionTriggered := false }

/-- `sampleConfigButton` -/
def sampleConfigButton (s : ButtonState) (pressed : Bool) (now : UInt32) : ButtonState :=
  if s.pendingAction ≠ .none then s
  else if !pressed then
    if s.wasPressed then s.released now
    else if s.windowOver now then
      if s.clickCount = 3 then { s with pendingAction := .wifiReset }
      else { s with clickCount := 0 }
    else s
  else if !s.wasPressed then
    { s with wasPressed := true, pressedAt := now, holdActionTriggered := false }
  else if !s.holdActionTriggered && now - s.pressedAt ≥ configEditHoldMs then
    { s with holdActionTriggered := true, clickCount := 0, pendingAction := .edit }
  else s

/-! ### Samples -/

/-- What one call sees. -/
structure Sample where
  /-- The button is down. -/
  pressed : Bool
  /-- The true time. -/
  time : ℕ
  deriving DecidableEq

namespace Sample

/-- Where `sampleConfigButton` stands after these samples, newest first. -/
def after : List Sample → ButtonState
  | [] => {}
  | x :: past => sampleConfigButton (after past) x.pressed (stamp x.time)

/-- Time does not go back, and there are less than `2 ^ 31` milliseconds between two samples. -/
def Paced : List Sample → Prop :=
  History.Always fun x past ↦ ∀ y ∈ past.head?, y.time ≤ x.time ∧ x.time - y.time < 2147483648

instance (h : List Sample) : Decidable (Paced h) :=
  inferInstanceAs (Decidable (History.Always _ h))

/-- The press that is going on: all pressed samples since the button was last seen released. -/
def press (past : List Sample) : List Sample := past.takeWhile (·.pressed)

/-- With this sample a press ends that was a click: from its first sample to this one it took from 40
to less than 4000 milliseconds. A hold action cannot have fired in it, since that takes a pressed sample
4000 milliseconds after the first. -/
def isClick (x : Sample) (past : List Sample) : Bool :=
  match (press past).getLast? with
  | none => false
  | some first => !x.pressed && 40 ≤ x.time - first.time && x.time - first.time < 4000

/-- When the clicks were released, newest first. -/
def clicks : List Sample → List ℕ
  | [] => []
  | x :: past => if isClick x past then x.time :: clicks past else clicks past

end Sample

end ReverseTunnel
