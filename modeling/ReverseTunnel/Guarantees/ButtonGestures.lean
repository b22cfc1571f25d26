import ReverseTunnel.Provisioning.ConfigButton

/-!
# Gestures of the BOOT button are complete

A gesture that resets the device cannot be undone, so none may be seen where there was none. Here it is
shown what must have been sampled before an action becomes pending, in every history of samples: five
clicks within the window, three clicks and then nothing until the window is over, or an uninterrupted
press of four seconds. Pending actions stay.

Windows are measured with the 32-bit clock, and a window is only closed by a sample that finds the
button up twice in a row. If there is none for a whole turn of the clock, the window **opens again**.
-/

namespace ReverseTunnel

open Clock32

namespace Sample

variable {x : Sample} {past h : List Sample}

/-! ### Times of samples -/

theorem Paced.tail (h : Paced (x :: past)) : Paced past := h.2

theorem Paced.time_le (h : Paced (x :: past)) {y : Sample} (hy : y ∈ past) : y.time ≤ x.time := by
  induction past generalizing x with
  | nil => cases hy
  | cons z past ih =>
    have hz := h.1 z rfl
    rcases List.mem_cons.1 hy with rfl | hy
    · exact hz.1
    · exact Nat.le_trans (ih h.tail hy) hz.1

theorem mem_of_mem_clicks {c : ℕ} (hc : c ∈ clicks h) : ∃ y ∈ h, y.time = c := by
  induction h with
  | nil => cases hc
  | cons x past ih =>
    have hmem : c = x.time ∨ c ∈ clicks past := by
      rw [clicks] at hc
      split at hc
      · exact List.mem_cons.1 hc
      · exact .inr hc
    rcases hmem with rfl | hmem
    · exact ⟨x, List.mem_cons_self .., rfl⟩
    · obtain ⟨y, hy, hyc⟩ := ih hmem
      exact ⟨y, List.mem_cons_of_mem _ hy, hyc⟩

theorem Paced.click_le (h : Paced (x :: past)) {c : ℕ} (hc : c ∈ clicks past) : c ≤ x.time := by
  obtain ⟨y, hy, rfl⟩ := mem_of_mem_clicks hc
  exact h.time_le hy

theorem clicks_of_not_isClick (h : isClick x past = false) : clicks (x :: past) = clicks past := by
  rw [clicks, h]
  rfl

theorem clicks_of_isClick (h : isClick x past = true) :
    clicks (x :: past) = x.time :: clicks past := by
  rw [clicks, h]
  rfl

/-! ### What the variables mean -/

/-- While no action is pending, the variables tell of the press that is going on. -/
structure Pressing (h : List Sample) (s : ButtonState) : Prop where
  /-- No hold action has fired. -/
  hold : s.holdActionTriggered = false
  /-- Whether there is one. -/
  wasPressed : s.wasPressed = !(press h).isEmpty
  /-- When it began, and that it is short. -/
  first : ∀ f ∈ (press h).getLast?, s.pressedAt = stamp f.time ∧
    ∀ y ∈ h.head?, f.time ≤ y.time ∧ y.time - f.time < 4000

/-- The clicks `w` since the window started, newest first, are the latest ones; they are counted, and
by the clock they were all released within the window. -/
structure Window (w : List ℕ) (h : List Sample) (s : ButtonState) : Prop where
  /-- They are the latest. -/
  latest : w <+: clicks h
  /-- They are counted. -/
  count : s.clickCount = w.length
  /-- The first of them started the window. -/
  start : ∀ c ∈ w.getLast?, s.clickWindowStartedAt = stamp c
  /-- The others came in time. -/
  within : ∀ c ∈ w.getLast?, ∀ d ∈ w, (d - c) % 4294967296 ≤ 3000

section Steps

variable {w : List ℕ} {s : ButtonState} {t : ℕ}

theorem Window.sublist (hw : Window w h s) {c : ℕ} (hc : c ∈ w) : c ∈ clicks h :=
  hw.latest.subset hc

/-- The window is over by the clock. -/
theorem Window.over_iff (hw : Window w h s) (ht : ∀ c ∈ w, c ≤ t) :
    s.windowOver (stamp t) = true ↔ ∃ c ∈ w.getLast?, 3000 < (t - c) % 4294967296 := by
  rcases hlast : w.getLast? with - | c
  · have hnil : w = [] := List.getLast?_eq_none_iff.1 hlast
    rw [ButtonState.windowOver, hw.count, hnil]
    simp
  · have hc : c ∈ w := List.mem_of_getLast? hlast
    have hpos : 0 < s.clickCount := by
      rw [hw.count]
      exact List.length_pos_of_mem hc
    have hdiff : (stamp t - s.clickWindowStartedAt).toNat = (t - c) % 4294967296 := by
      rw [hw.start c hlast]
      exact toNat_stamp_sub_stamp (ht c hc)
    rw [ButtonState.windowOver]
    simp only [hpos, decide_true, Bool.true_and, decide_eq_true_eq, gt_iff_lt,
      UInt32.lt_iff_toNat_lt, hdiff, Option.mem_some_iff, exists_eq_left']
    exact Iff.rfl

/-- Other variables do not matter. -/
theorem Window.congr {s' : ButtonState} {h' : List Sample} (hw : Window w h s)
    (hc : s'.clickCount = s.clickCount)
    (hs : s'.clickWindowStartedAt = s.clickWindowStartedAt) (hh : clicks h' = clicks h) :
    Window w h' s' :=
  ⟨hh ▸ hw.latest, hc.trans hw.count, fun c hc ↦ hs.trans (hw.start c hc), hw.within⟩

/-- No click is counted. -/
theorem Window.none (hs : s.clickCount = 0) : Window [] h s :=
  ⟨List.nil_prefix, hs, by simp, by simp⟩

/-- A click is counted: in the window, or as the first one of a new window. -/
theorem Window.clicked (hw : Window w past s) (hlen : w.length ≤ 4) (hp : Paced (x :: past))
    (hclick : isClick x past = true) (hnone : s.pendingAction = .none) :
    ∃ w', Window w' (x :: past) (s.clicked (stamp x.time)) ∧ w'.length ≤ 5 ∧
      (s.clicked (stamp x.time)).pendingAction = if w'.length = 5 then .factoryReset else .none := by
  have ht : ∀ c ∈ w, c ≤ x.time := fun c hc ↦ hp.click_le (hw.sublist hc)
  have hnew : x.time :: clicks past = clicks (x :: past) := (clicks_of_isClick hclick).symm
  by_cases hfresh : s.windowOver (stamp x.time) = true ∨ w = []
  · -- the first click of a window
    have hclicked : s.clicked (stamp x.time) =
        { s with clickCount := 1, clickWindowStartedAt := stamp x.time } := by
      rcases hfresh with hover | rfl
      · simp [ButtonState.clicked, hover]
      · have hzero : s.clickCount = 0 := hw.count
        simp [ButtonState.clicked, ButtonState.windowOver, hzero]
    refine ⟨[x.time], ?_, by simp, ?_⟩
    · rw [hclicked]
      refine ⟨?_, rfl, ?_, ?_⟩
      · rw [← hnew]
        exact List.cons_prefix_cons.2 ⟨rfl, List.nil_prefix⟩
      · intro c hc
        obtain rfl : x.time = c := by simpa using hc
        rfl
      · intro c hc d hd
        obtain rfl : x.time = c := by simpa using hc
        obtain rfl : d = x.time := by simpa using hd
        simp
    · rw [hclicked]
      exact hnone
  · rw [not_or, Bool.not_eq_true] at hfresh
    obtain ⟨hin, hne⟩ := hfresh
    have hpos : s.clickCount ≠ 0 := by
      rw [hw.count]
      exact fun h ↦ hne (List.length_eq_zero_iff.1 h)
    -- one more click of the same window, whose first one stays
    have hlast : ∀ c, c ∈ (x.time :: w).getLast? → c ∈ w.getLast? := by
      intro c hc
      rwa [List.getLast?_cons_of_ne_nil hne] at hc
    have hwithin : ∀ c ∈ w.getLast?, (x.time - c) % 4294967296 ≤ 3000 := by
      intro c hc
      by_contra hgt
      rw [(hw.over_iff ht).2 ⟨c, hc, by omega⟩] at hin
      cases hin
    have hclicked : s.clicked (stamp x.time) =
        if s.clickCount = 4 then { s with clickCount := 5, pendingAction := .factoryReset }
        else { s with clickCount := s.clickCount + 1 } := by
      have hle : s.clickCount ≤ 4 := hw.count ▸ hlen
      simp only [ButtonState.clicked, hin, Bool.false_eq_true, if_false, hpos]
      by_cases hfour : s.clickCount = 4
      · rw [if_pos (by omega), if_pos hfour]
      · rw [if_neg (by omega), if_neg hfour]
    have hcount : (s.clicked (stamp x.time)).clickCount = w.length + 1 := by
      rw [hclicked, ← hw.count]
      split
      · next hfour => rw [hfour]
      · rfl
    have hstart : (s.clicked (stamp x.time)).clickWindowStartedAt = s.clickWindowStartedAt := by
      rw [hclicked]
      split <;> rfl
    refine ⟨x.time :: w, ⟨?_, hcount, ?_, ?_⟩, by rw [List.length_cons]; omega, ?_⟩
    · rw [← hnew]
      exact List.cons_prefix_cons.2 ⟨rfl, hw.latest⟩
    · intro c hc
      rw [hstart]
      exact hw.start c (hlast c hc)
    · intro c hc d hd
      rcases List.mem_cons.1 hd with rfl | hd
      · exact hwithin c (hlast c hc)
      · exact hw.within c (hlast c hc) d hd
    · rw [hclicked, List.length_cons, ← hw.count]
      by_cases hfour : s.clickCount = 4
      · rw [if_pos hfour, if_pos (by omega)]
      · rw [if_neg hfour, if_neg (by omega)]
        exact hnone

end Steps

/-! ### What holds while no action is pending -/

theorem press_of_released (hx : x.pressed = false) : press (x :: past) = [] := by
  rw [press, List.takeWhile_cons_of_neg (by rw [hx]; exact Bool.false_ne_true)]

theorem press_of_pressed (hx : x.pressed = true) : press (x :: past) = x :: press past := by
  rw [press, List.takeWhile_cons_of_pos hx]
  rfl

theorem isClick_of_pressed (hx : x.pressed = true) : isClick x past = false := by
  rw [isClick]
  split
  · rfl
  · rw [hx]
    rfl

theorem isClick_of_no_press (hnil : press past = []) : isClick x past = false := by
  rw [isClick, hnil]
  rfl

section Press

variable {s : ButtonState} {f : Sample}

theorem Pressing.ofReleased (hx : x.pressed = false) (hhold : s.holdActionTriggered = false)
    (hwas : s.wasPressed = false) : Pressing (x :: past) s := by
  have hnil : press (x :: past) = [] := press_of_released hx
  refine ⟨hhold, ?_, ?_⟩
  · rw [hwas, hnil]
    rfl
  · rw [hnil]
    intro f hf
    cases hf

theorem Pressing.press_eq_nil (hs : Pressing h s) (hwas : s.wasPressed = false) :
    press h = [] := by
  have hempty := hs.wasPressed
  rw [hwas, Eq.comm, Bool.not_eq_false', List.isEmpty_iff] at hempty
  exact hempty

theorem Pressing.exists_first (hs : Pressing h s) (hwas : s.wasPressed = true) :
    ∃ f, f ∈ (press h).getLast? := by
  rcases hlast : (press h).getLast? with - | f
  · have hempty := hs.wasPressed
    rw [List.getLast?_eq_none_iff.1 hlast, hwas] at hempty
    cases hempty
  · exact ⟨f, rfl⟩

/-- How long the press has taken by the clock is how long it has taken. -/
theorem Pressing.duration (hs : Pressing past s) (hp : Paced (x :: past))
    (hf : f ∈ (press past).getLast?) :
    f.time ≤ x.time ∧ (stamp x.time - s.pressedAt).toNat = x.time - f.time := by
  obtain ⟨hat, hshort⟩ := hs.first f hf
  have hmem : f ∈ past := (List.takeWhile_sublist _).subset (List.mem_of_getLast? hf)
  rcases past with - | ⟨y, past⟩
  · cases hmem
  · have hy := hshort y rfl
    have hx := hp.1 y rfl
    have hle : f.time ≤ x.time := Nat.le_trans hy.1 hx.1
    refine ⟨hle, ?_⟩
    rw [hat, toNat_stamp_sub_stamp hle]
    omega

/-- The code measures a click as it is. -/
theorem Pressing.isClick_iff (hs : Pressing past s) (hp : Paced (x :: past))
    (hx : x.pressed = false) (hf : f ∈ (press past).getLast?) :
    (!s.holdActionTriggered && stamp x.time - s.pressedAt ≥ configClickMinMs &&
      stamp x.time - s.pressedAt < configEditHoldMs) = isClick x past := by
  obtain ⟨-, hdur⟩ := hs.duration hp hf
  have hmin : configClickMinMs ≤ stamp x.time - s.pressedAt ↔ 40 ≤ x.time - f.time := by
    rw [UInt32.le_iff_toNat_le, hdur]
    exact Iff.rfl
  have hmax : stamp x.time - s.pressedAt < configEditHoldMs ↔ x.time - f.time < 4000 := by
    rw [UInt32.lt_iff_toNat_lt, hdur]
    exact Iff.rfl
  rw [isClick, Option.mem_def.1 hf, hs.hold, hx]
  simp only [ge_iff_le, hmin, hmax, Bool.not_false, Bool.true_and]

end Press

/-- What a sample can do while no action is pending. -/
inductive Sampled (past : List Sample) (s : ButtonState) (x : Sample) : ButtonState → Prop where
  /-- A click ends and is counted. -/
  | click (hclick : isClick x past = true) (s' : ButtonState)
      (hs : s' = { s with wasPressed := false, pressedAt := 0 }) (hx : x.pressed = false) :
      Sampled past s x { s'.clicked (stamp x.time) with holdActionTriggered := false }
  /-- Only the press is noted. -/
  | note (hclick : isClick x past = false) (s' : ButtonState)
      (hcount : s'.clickCount = s.clickCount)
      (hstart : s'.clickWindowStartedAt = s.clickWindowStartedAt)
      (hnone : s'.pendingAction = .none) (hpressing : Pressing (x :: past) s') :
      Sampled past s x s'
  /-- The button stays up, and the window is over: the clicks are forgotten. -/
  | forget (hclick : isClick x past = false) (hpressing : Pressing (x :: past) s) :
      Sampled past s x { s with clickCount := 0 }
  /-- The button stays up, and the window is over with three clicks. -/
  | wifiReset (hover : s.windowOver (stamp x.time) = true) (hthree : s.clickCount = 3) :
      Sampled past s x { s with pendingAction := .wifiReset }
  /-- The button has been down for long. -/
  | edit (hx : x.pressed = true) (f : Sample) (hf : f ∈ (press past).getLast?)
      (hlong : 4000 ≤ x.time - f.time) :
      Sampled past s x { s with holdActionTriggered := true, clickCount := 0, pendingAction := .edit }

section Samples

variable {s : ButtonState}

theorem Pressing.sampled_released (hs : Pressing past s) (hp : Paced (x :: past))
    (hnone : s.pendingAction = .none) (hx : x.pressed = false) :
    Sampled past s x (sampleConfigButton s x.pressed (stamp x.time)) := by
  have hcode : sampleConfigButton s x.pressed (stamp x.time) =
      if s.wasPressed then s.released (stamp x.time)
      else if s.windowOver (stamp x.time) then
        if s.clickCount = 3 then { s with pendingAction := .wifiReset }
        else { s with clickCount := 0 }
      else s := by
    rw [sampleConfigButton, if_neg (not_not.2 hnone), hx]
    rfl
  rw [hcode]
  by_cases hwas : s.wasPressed = true
  · obtain ⟨f, hf⟩ := hs.exists_first hwas
    rw [if_pos hwas, ButtonState.released, hs.isClick_iff hp hx hf]
    cases hclick : isClick x past with
    | true => exact .click hclick _ rfl hx
    | false =>
      refine .note hclick _ rfl rfl hnone ?_
      exact .ofReleased hx rfl rfl
  · rw [Bool.not_eq_true] at hwas
    have hclick : isClick x past = false := isClick_of_no_press (hs.press_eq_nil hwas)
    have hpressing : Pressing (x :: past) s := .ofReleased hx hs.hold hwas
    rw [if_neg (by rw [hwas]; exact Bool.false_ne_true)]
    by_cases hover : s.windowOver (stamp x.time) = true
    · rw [if_pos hover]
      by_cases hthree : s.clickCount = 3
      · rw [if_pos hthree]
        exact .wifiReset hover hthree
      · rw [if_neg hthree]
        exact .forget hclick hpressing
    · rw [if_neg hover]
      exact .note hclick _ rfl rfl hnone hpressing

theorem Pressing.sampled_pressed (hs : Pressing past s) (hp : Paced (x :: past))
    (hnone : s.pendingAction = .none) (hx : x.pressed = true) :
    Sampled past s x (sampleConfigButton s x.pressed (stamp x.time)) := by
  have hclick : isClick x past = false := isClick_of_pressed hx
  have hpress : press (x :: past) = x :: press past := press_of_pressed hx
  rw [sampleConfigButton, if_neg (not_not.2 hnone), hx]
  by_cases hwas : s.wasPressed = true
  · obtain ⟨f, hf⟩ := hs.exists_first hwas
    obtain ⟨hle, hdur⟩ := hs.duration hp hf
    have hlong : stamp x.time - s.pressedAt ≥ configEditHoldMs ↔ 4000 ≤ x.time - f.time := by
      rw [ge_iff_le, UInt32.le_iff_toNat_le, hdur]
      exact Iff.rfl
    have hlast : (press (x :: past)).getLast? = some f := by
      rw [hpress, List.getLast?_cons_of_ne_nil, Option.mem_def.1 hf]
      intro hnil
      rw [hnil] at hf
      cases hf
    have hheld : ((!s.wasPressed) = true) = False := by
      rw [hwas]
      exact eq_false Bool.false_ne_true
    have hhold : (!s.holdActionTriggered) = true := by
      rw [hs.hold]
      rfl
    simp only [Bool.not_true, Bool.false_eq_true, if_false, hheld, hhold, Bool.true_and,
      decide_eq_true_eq, hlong]
    by_cases hle' : 4000 ≤ x.time - f.time
    · rw [if_pos hle']
      exact .edit hx f hf hle'
    · rw [if_neg hle']
      refine .note hclick _ rfl rfl hnone ⟨hs.hold, ?_, ?_⟩
      · rw [hwas, hpress]
        rfl
      · rw [hlast]
        rintro g ⟨⟩
        refine ⟨(hs.first f hf).1, ?_⟩
        rintro y ⟨⟩
        exact ⟨hle, by omega⟩
  · rw [Bool.not_eq_true] at hwas
    rw [hwas]
    refine .note hclick _ rfl rfl hnone ⟨rfl, ?_, ?_⟩
    · rw [hpress]
      rfl
    · rw [hpress, hs.press_eq_nil hwas]
      intro g hg
      obtain rfl : x = g := by simpa using hg
      refine ⟨rfl, ?_⟩
      rintro y ⟨⟩
      exact ⟨Nat.le_refl _, by rw [Nat.sub_self]; decide⟩

theorem Pressing.sampled (hs : Pressing past s) (hp : Paced (x :: past))
    (hnone : s.pendingAction = .none) :
    Sampled past s x (sampleConfigButton s x.pressed (stamp x.time)) := by
  cases hx : x.pressed with
  | false => exact hx ▸ hs.sampled_released hp hnone hx
  | true => exact hx ▸ hs.sampled_pressed hp hnone hx

end Samples

/-- The variables tell of the press that is going on and of the clicks in the window. -/
structure Gesturing (h : List Sample) (s : ButtonState) : Prop where
  /-- The press. -/
  pressing : Pressing h s
  /-- The clicks. There is no action yet, so they are not five. -/
  window : ∃ w, Window w h s ∧ w.length ≤ 4

theorem Gesturing.start : Gesturing [] {} := by
  refine ⟨⟨rfl, rfl, ?_⟩, [], .none rfl, Nat.zero_le _⟩
  intro f hf
  cases hf

theorem Gesturing.sampled {s s' : ButtonState} (hs : Gesturing past s) (hp : Paced (x :: past))
    (hnone : s.pendingAction = .none) (hstep : Sampled past s x s')
    (hnone' : s'.pendingAction = .none) : Gesturing (x :: past) s' := by
  obtain ⟨w, hw, hlen⟩ := hs.window
  cases hstep with
  | click hclick s' hs' hx =>
    have hw' : Window w past s' := hw.congr (by rw [hs']) (by rw [hs']) rfl
    have hsame : s'.pendingAction = .none := by rw [hs', hnone]
    obtain ⟨w', hcounted, hlen', hpending⟩ := hw'.clicked hlen hp hclick hsame
    refine ⟨.ofReleased hx rfl ?_, w', hcounted.congr rfl rfl rfl, ?_⟩
    · rw [ButtonState.clicked_wasPressed, hs']
    · -- five clicks would be a factory reset
      by_contra hfive
      rw [show w'.length = 5 by omega] at hpending
      rw [show (s'.clicked (stamp x.time)).pendingAction = .none from hnone'] at hpending
      cases hpending
  | note hclick s' hcount hstart hpending hpressing =>
    exact ⟨hpressing, w, hw.congr hcount hstart (clicks_of_not_isClick hclick), hlen⟩
  | forget hclick hpressing =>
    exact ⟨⟨hpressing.hold, hpressing.wasPressed, hpressing.first⟩, [], .none rfl, Nat.zero_le _⟩
  | wifiReset => cases hnone'
  | edit => cases hnone'

/-- A pending action stays. -/
theorem after_of_pending (hpending : (after past).pendingAction ≠ .none) :
    after (x :: past) = after past := by
  rw [after, sampleConfigButton, if_pos hpending]

theorem gesturing (hp : Paced h) (hnone : (after h).pendingAction = .none) :
    Gesturing h (after h) := by
  induction h with
  | nil => exact .start
  | cons x past ih =>
    by_cases hpast : (after past).pendingAction = .none
    · have hs := ih hp.tail hpast
      exact hs.sampled hp hpast (hs.pressing.sampled hp hpast) hnone
    · rw [after_of_pending hpast] at hnone
      exact absurd hnone hpast

/-! ### Gestures -/

/-- Milliseconds from `s` to `t` as the 32-bit clock has them. -/
def shown (s t : ℕ) : ℕ := (t - s) % 4294967296

/-- Milliseconds from `s` to `t`. -/
def elapsed (s t : ℕ) : ℕ := t - s

/-- The gesture of an action is complete with the sample `x`, when time is measured by `ms`. -/
def FullGesture (ms : ℕ → ℕ → ℕ) (x : Sample) (past : List Sample) : ButtonAction → Prop
  | .none => True
  | .factoryReset => isClick x past = true ∧ ∃ c₁ c₂ c₃ c₄ older,
      clicks past = c₄ :: c₃ :: c₂ :: c₁ :: older ∧
      ∀ c ∈ [c₂, c₃, c₄, x.time], ms c₁ c ≤ 3000
  | .wifiReset => (after past).clickCount = 3 ∧ ∃ c₁ c₂ c₃ older,
      clicks past = c₃ :: c₂ :: c₁ :: older ∧
      (after past).clickWindowStartedAt = stamp c₁ ∧
      (∀ c ∈ [c₂, c₃], ms c₁ c ≤ 3000) ∧ 3000 < ms c₁ x.time
  | .edit => ∃ held f older, past = held ++ f :: older ∧
      (∀ y ∈ x :: held ++ [f], y.pressed = true) ∧ 4000 ≤ x.time - f.time

section Gestures

variable {s s' : ButtonState}

theorem Window.factoryReset {w : List ℕ} (hw : Window w (x :: past) s) (hlen : w.length = 5)
    (hclick : isClick x past = true) : FullGesture shown x past .factoryReset := by
  obtain ⟨c₅, c₄, c₃, c₂, c₁, rfl⟩ : ∃ c₅ c₄ c₃ c₂ c₁, w = [c₅, c₄, c₃, c₂, c₁] := by
    match w, hlen with
    | [c₅, c₄, c₃, c₂, c₁], _ => exact ⟨c₅, c₄, c₃, c₂, c₁, rfl⟩
  obtain ⟨older, holder⟩ := hw.latest
  rw [clicks_of_isClick hclick] at holder
  obtain ⟨rfl, hrest⟩ := List.cons.inj holder
  refine ⟨hclick, c₁, c₂, c₃, c₄, older, hrest.symm, ?_⟩
  intro c hc
  refine hw.within c₁ rfl c ?_
  simp only [List.mem_cons] at hc ⊢
  tauto

theorem Window.wifiReset {w : List ℕ} (hw : Window w past (after past)) (hp : Paced (x :: past))
    (hover : (after past).windowOver (stamp x.time) = true) (hthree : (after past).clickCount = 3) :
    FullGesture shown x past .wifiReset := by
  obtain ⟨c₃, c₂, c₁, rfl⟩ : ∃ c₃ c₂ c₁, w = [c₃, c₂, c₁] :=
    List.length_eq_three.1 (hw.count.symm.trans hthree)
  obtain ⟨older, holder⟩ := hw.latest
  obtain ⟨c, hc, hlong⟩ := (hw.over_iff fun c hc ↦ hp.click_le (hw.sublist hc)).1 hover
  obtain rfl : c₁ = c := by simpa using hc
  refine ⟨hthree, c₁, c₂, c₃, older, holder.symm, hw.start c₁ rfl, ?_, hlong⟩
  intro c hc
  refine hw.within c₁ rfl c ?_
  simp only [List.mem_cons] at hc ⊢
  tauto

theorem edit_of_press {f : Sample} (hx : x.pressed = true) (hf : f ∈ (press past).getLast?)
    (hlong : 4000 ≤ x.time - f.time) : FullGesture shown x past .edit := by
  have hheld : press past = (press past).dropLast ++ [f] :=
    (List.dropLast_append_getLast? f hf).symm
  refine ⟨(press past).dropLast, f, past.dropWhile (·.pressed), ?_, ?_, hlong⟩
  · rw [List.append_cons, ← hheld]
    exact List.takeWhile_append_dropWhile.symm
  · intro y hy
    rw [List.cons_append, ← hheld] at hy
    rcases List.mem_cons.1 hy with rfl | hy
    · exact hx
    · exact List.all_eq_true.1 List.all_takeWhile y hy

theorem Gesturing.fullGesture (hs : Gesturing past (after past)) (hp : Paced (x :: past))
    (hnone : (after past).pendingAction = .none) (hstep : Sampled past (after past) x s') :
    FullGesture shown x past s'.pendingAction := by
  obtain ⟨w, hw, hlen⟩ := hs.window
  cases hstep with
  | click hclick s' hs' hx =>
    have hw' : Window w past s' := hw.congr (by rw [hs']) (by rw [hs']) rfl
    have hsame : s'.pendingAction = .none := by rw [hs', hnone]
    obtain ⟨w', hcounted, -, hpending⟩ := hw'.clicked hlen hp hclick hsame
    show FullGesture shown x past (s'.clicked (stamp x.time)).pendingAction
    rw [hpending]
    by_cases hfive : w'.length = 5
    · rw [if_pos hfive]
      exact hcounted.factoryReset hfive hclick
    · rw [if_neg hfive]
      trivial
  | note hclick s' hcount hstart hpending hpressing =>
    rw [hpending]
    trivial
  | forget hclick hpressing =>
    show FullGesture shown x past (after past).pendingAction
    rw [hnone]
    trivial
  | wifiReset hover hthree => exact hw.wifiReset hp hover hthree
  | edit hx f hf hlong => exact edit_of_press hx hf hlong

end Gestures

theorem pendingAction_stays (newer : List Sample) (hpending : (after past).pendingAction ≠ .none) :
    after (newer ++ past) = after past := by
  induction newer with
  | nil => rfl
  | cons x newer ih =>
    rw [List.cons_append, after_of_pending, ih]
    rw [ih]
    exact hpending

/-- **Gestures are complete.** When a sample makes an action pending, the gesture of that action is
complete with it, as the 32-bit clock measures time; and a pending action is pending for good. -/
theorem button_gestures (hp : Paced (x :: past)) (hnone : (after past).pendingAction = .none) :
    FullGesture shown x past (after (x :: past)).pendingAction ∧
      ((after (x :: past)).pendingAction ≠ .none → ∀ newer,
        (after (newer ++ x :: past)).pendingAction = (after (x :: past)).pendingAction) := by
  have hs := gesturing hp.tail hnone
  refine ⟨hs.fullGesture hp hnone (hs.pressing.sampled hp hnone), ?_⟩
  intro hpending newer
  rw [pendingAction_stays newer hpending]

/-- Three clicks, and the samples until the window is over. -/
def threeClicks : List Sample :=
  [⟨false, 4000⟩, ⟨false, 3000⟩, ⟨true, 2900⟩, ⟨false, 2000⟩, ⟨true, 1900⟩, ⟨false, 1000⟩,
    ⟨true, 900⟩, ⟨false, 0⟩]

theorem button_gestures_threeClicks :
    (after (⟨false, 4001⟩ :: threeClicks)).pendingAction = .wifiReset ∧
      FullGesture shown ⟨false, 4001⟩ threeClicks
        (after (⟨false, 4001⟩ :: threeClicks)).pendingAction :=
  ⟨by decide, (button_gestures (by decide) (by decide)).1⟩

/-- One click; the button goes down at once, and nothing is sampled until it comes up after nearly 25
days. Another 25 days later there are four clicks more. -/
def turnOfTheClock : List Sample :=
  [⟨true, 4294968900⟩, ⟨false, 4294968800⟩, ⟨true, 4294968700⟩, ⟨false, 4294968600⟩,
    ⟨true, 4294968500⟩, ⟨false, 4294968496⟩, ⟨true, 4294968396⟩, ⟨false, 4294968394⟩,
    ⟨true, 2147484747⟩, ⟨false, 1100⟩, ⟨true, 1000⟩]

/-- The window of the first click has **opened again**: by the clock the five clicks lie within two
seconds. -/
theorem not_elapsed_turnOfTheClock :
    Paced (⟨false, 4294969000⟩ :: turnOfTheClock) ∧
      (after turnOfTheClock).pendingAction = .none ∧
      (after (⟨false, 4294969000⟩ :: turnOfTheClock)).pendingAction = .factoryReset ∧
      ¬ FullGesture elapsed ⟨false, 4294969000⟩ turnOfTheClock .factoryReset := by
  refine ⟨by decide, by decide, by decide, ?_⟩
  rintro ⟨-, c₁, c₂, c₃, c₄, older, hclicks, hwithin⟩
  have hfive : clicks turnOfTheClock = [4294968800, 4294968600, 4294968496, 1100] := by decide
  rw [hfive] at hclicks
  obtain ⟨-, hclicks⟩ := List.cons.inj hclicks
  obtain ⟨-, hclicks⟩ := List.cons.inj hclicks
  obtain ⟨-, hclicks⟩ := List.cons.inj hclicks
  obtain ⟨rfl, -⟩ := List.cons.inj hclicks
  have hlast : elapsed 1100 4294969000 ≤ 3000 := hwithin _ (by simp)
  exact absurd hlast (by decide)

end Sample

end ReverseTunnel
