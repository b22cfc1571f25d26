import Mathlib.Data.List.Basic

/-!
# Histories, newest first

A history is a list whose tail is the past of its head. `Always P` says that `P` held of every entry
together with **its own past**, which is the form of every "whenever this happens, that has happened
before" below.
-/

namespace History

variable {α : Type}

/-- `P x past` for every entry `x` of the history and the `past` behind it. -/
def Always (P : α → List α → Prop) : List α → Prop
  | [] => True
  | x :: past => P x past ∧ Always P past

@[simp] theorem always_nil (P : α → List α → Prop) : Always P [] := trivial

@[simp] theorem always_cons {P : α → List α → Prop} {x : α} {past : List α} :
    Always P (x :: past) ↔ P x past ∧ Always P past := Iff.rfl

/-- The same, by naming the place where the entry stands. -/
theorem always_iff {P : α → List α → Prop} {l : List α} :
    Always P l ↔ ∀ newer x past, l = newer ++ x :: past → P x past := by
  induction l with
  | nil => simp
  | cons y l ih =>
    rw [always_cons, ih]
    constructor
    · rintro ⟨hy, hl⟩ newer x past h
      rcases newer with - | ⟨z, newer⟩
      · obtain ⟨rfl, rfl⟩ : y = x ∧ l = past := by simpa using h
        exact hy
      · obtain ⟨-, rfl⟩ : y = z ∧ l = newer ++ x :: past := by simpa using h
        exact hl newer x past rfl
    · intro h
      exact ⟨h [] y l rfl, fun newer x past hl ↦ h (y :: newer) x past (by simp [hl])⟩

theorem Always.and {P Q : α → List α → Prop} {l : List α} (hP : Always P l) (hQ : Always Q l) :
    Always (fun x past ↦ P x past ∧ Q x past) l := by
  induction l with
  | nil => trivial
  | cons y l ih => exact ⟨⟨hP.1, hQ.1⟩, ih hP.2 hQ.2⟩

/-- Two rules that agree wherever a third one is kept. -/
theorem Always.congr {P Q R : α → List α → Prop} {l : List α} (hR : Always R l)
    (h : ∀ x past, R x past → (P x past ↔ Q x past)) : Always P l ↔ Always Q l := by
  induction l with
  | nil => exact Iff.rfl
  | cons y l ih => rw [always_cons, always_cons, h y l hR.1, ih hR.2]

/-- Entries that are fine with any past may be put in front. -/
theorem Always.append {P : α → List α → Prop} {newer past : List α} (h : Always P past)
    (hn : ∀ x ∈ newer, ∀ rest, P x rest) : Always P (newer ++ past) := by
  induction newer with
  | nil => exact h
  | cons x newer ih =>
    exact ⟨hn x (List.mem_cons_self ..) _, ih fun y hy ↦ hn y (List.mem_cons_of_mem _ hy)⟩

/-- The past of a history. -/
theorem Always.of_append {P : α → List α → Prop} {newer past : List α}
    (h : Always P (newer ++ past)) : Always P past := by
  induction newer with
  | nil => exact h
  | cons x newer ih => exact ih h.2

/-- A history that continues another one, in which each entry is judged by its nearer past alone. -/
theorem Always.append_of {P Q : α → List α → Prop} {newer past : List α} (hn : Always P newer)
    (h : Always Q past) (hPQ : ∀ x near, P x near → Q x (near ++ past)) :
    Always Q (newer ++ past) := by
  induction newer with
  | nil => exact h
  | cons x newer ih => exact ⟨hPQ x newer hn.1, ih hn.2⟩

/-- A history seen through a filter. -/
theorem Always.filterMap {β : Type} {P : α → List α → Prop} {Q : β → List β → Prop}
    {f : α → Option β} {l : List α} (h : Always P l)
    (hPQ : ∀ x past y, f x = some y → P x past → Q y (past.filterMap f)) :
    Always Q (l.filterMap f) := by
  induction l with
  | nil => trivial
  | cons x l ih =>
    rw [List.filterMap_cons]
    split
    · exact ih h.2
    · next y hy => exact ⟨hPQ x l y hy h.1, ih h.2⟩

/-- Where a partial automaton is after a history, if it has not been stuck on the way. -/
def track {σ : Type} (next : σ → α → Option σ) (s : σ) : List α → Option σ
  | [] => some s
  | x :: past => (track next s past).bind (next · x)

section Track

variable {σ : Type} {next : σ → α → Option σ} {s q q' : σ} {x : α} {newer past : List α}

theorem track_cons (h : track next s past = some q) (hx : next q x = some q') :
    track next s (x :: past) = some q' := by
  rw [track, h, Option.bind_some, hx]

/-- Entries that leave the automaton where it is. -/
theorem track_append (h : track next s past = some q) (hn : ∀ x ∈ newer, next q x = some q) :
    track next s (newer ++ past) = some q := by
  induction newer with
  | nil => exact h
  | cons x newer ih =>
    exact track_cons (ih fun y hy ↦ hn y (List.mem_cons_of_mem _ hy)) (hn x (List.mem_cons_self ..))

end Track

instance decidableAlways {P : α → List α → Prop} [∀ x past, Decidable (P x past)] :
    (l : List α) → Decidable (Always P l)
  | [] => .isTrue trivial
  | x :: past =>
    have : Decidable (Always P past) := decidableAlways past
    inferInstanceAs (Decidable (P x past ∧ Always P past))

end History
