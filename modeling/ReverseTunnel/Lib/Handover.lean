import Mathlib.Data.List.Basic

/-!
# Handing over what waits

Anyone may put something behind what is waiting, as long as there is **room**. One receiver takes what
waits from the front, and in three steps: it looks at the first, hands it over, and only then removes
it. When the handing over fails, the first stays where it is.

Between these steps anything may be put. As nobody else removes anything, what is removed is what was
handed over: what was put is what was removed and what waits, in this order, and what was handed over
is what was removed, and the first of what waits when it has not been removed yet.
-/

namespace Handover

variable {α : Type}

/-- What the receiver has at hand. -/
inductive Hand (α : Type) where
  /-- Nothing. -/
  | free
  /-- It has looked at this. -/
  | showing (a : α)
  /-- It has handed this over. -/
  | given (a : α)

/-- What has been handed over and not yet removed. -/
def Hand.gift : Hand α → List α
  | .given a => [a]
  | _ => []

/-- It hands over one thing at a time. -/
theorem Hand.length_gift (hand : Hand α) : hand.gift.length ≤ 1 := by
  rcases hand with - | a | a
  · exact Nat.zero_le 1
  · exact Nat.zero_le 1
  · exact Nat.le_refl 1

/-- What waits, and what the receiver does. -/
structure State (α : Type) where
  /-- First come, first. -/
  waiting : List α := []
  /-- The receiver. -/
  hand : Hand α := .free

/-- What can happen. -/
inductive Event (α : Type) where
  /-- Nothing. -/
  | idle
  /-- Something is put behind the others. -/
  | put (a : α)
  /-- The receiver looks at the first. -/
  | shown (a : α)
  /-- It hands over what it has looked at. -/
  | given (a : α)
  /-- It fails to hand it over. -/
  | kept
  /-- It removes the first. -/
  | removed (a : α)

/-- How it happens, with room for `capacity` things. -/
inductive Next (capacity : ℕ) : State α → Event α → State α → Prop
  | idle {s : State α} : Next capacity s .idle s
  | put {q : List α} {hand : Hand α} {a : α} (hroom : q.length < capacity) :
      Next capacity ⟨q, hand⟩ (.put a) ⟨q ++ [a], hand⟩
  | shown {q : List α} {a : α} : Next capacity ⟨a :: q, .free⟩ (.shown a) ⟨a :: q, .showing a⟩
  | given {q : List α} {a : α} : Next capacity ⟨q, .showing a⟩ (.given a) ⟨q, .given a⟩
  | kept {q : List α} {a : α} : Next capacity ⟨q, .showing a⟩ .kept ⟨q, .free⟩
  | removed {q : List α} {a b : α} : Next capacity ⟨b :: q, .given a⟩ (.removed b) ⟨q, .free⟩

/-! ### What a run has done -/

/-- What this puts. -/
def Event.put? : Event α → Option α
  | .put a => some a
  | _ => none

/-- What this hands over. -/
def Event.given? : Event α → Option α
  | .given a => some a
  | _ => none

/-- What this removes. -/
def Event.removed? : Event α → Option α
  | .removed a => some a
  | _ => none

/-- What the entries of a history are for `f`, **oldest first**. -/
def collect {β : Type} (f : β → Option α) (l : List β) : List α := (l.filterMap f).reverse

section Collect

variable {β : Type} {f : β → Option α} {x : β} {l newer : List β} {a : α}

@[simp] theorem collect_nil : collect f [] = [] := rfl

theorem collect_cons_some (h : f x = some a) : collect f (x :: l) = collect f l ++ [a] := by
  rw [collect, List.filterMap_cons_some h, List.reverse_cons]
  rfl

theorem collect_append : collect f (newer ++ l) = collect f l ++ collect f newer := by
  rw [collect, List.filterMap_append, List.reverse_append]
  rfl

end Collect

/-- What was put. -/
def puts (l : List (Event α)) : List α := collect Event.put? l

/-- What was handed over. -/
def gifts (l : List (Event α)) : List α := collect Event.given? l

/-- What was removed. -/
def removals (l : List (Event α)) : List α := collect Event.removed? l

section History

variable {l : List (Event α)} {a : α}

theorem puts_put : puts (.put a :: l) = puts l ++ [a] := collect_cons_some rfl

theorem gifts_given : gifts (.given a :: l) = gifts l ++ [a] := collect_cons_some rfl

theorem removals_removed : removals (.removed a :: l) = removals l ++ [a] := collect_cons_some rfl

end History

/-! ### Nothing is lost -/

/-- What holds after the history `l`. -/
structure Sound (capacity : ℕ) (l : List (Event α)) (s : State α) : Prop where
  /-- What was put is what was removed and what waits. -/
  puts_eq : puts l = removals l ++ s.waiting
  /-- What was handed over has been removed, or is at hand. -/
  gifts_eq : gifts l = removals l ++ s.hand.gift
  /-- What the receiver has at hand is the first of what waits. -/
  head_eq : ∀ a, s.hand = .showing a ∨ s.hand = .given a → s.waiting.head? = some a
  /-- There is room for all of it. -/
  length_le : s.waiting.length ≤ capacity

variable {capacity : ℕ} {l : List (Event α)} {s s' : State α} {e : Event α}

theorem sound_nil : Sound capacity [] ({} : State α) where
  puts_eq := rfl
  gifts_eq := rfl
  head_eq := by
    rintro a (h | h) <;> cases h
  length_le := Nat.zero_le _

/-- One event keeps it. -/
theorem Sound.next (h : Sound capacity l s) (hstep : Next capacity s e s') :
    Sound capacity (e :: l) s' := by
  obtain ⟨hputs, hgifts, hhead, hlength⟩ := h
  rcases hstep with - | hroom
  case idle => exact ⟨hputs, hgifts, hhead, hlength⟩
  case put q hand a =>
    refine ⟨?_, hgifts, ?_, ?_⟩
    · rw [puts_put, hputs, List.append_assoc]
      rfl
    · -- What is at hand has something before it already.
      intro b hb
      have hq : q.head? = some b := hhead b hb
      show (q ++ [a]).head? = some b
      rw [List.head?_append, hq]
      rfl
    · show (q ++ [a]).length ≤ capacity
      rw [List.length_append]
      exact hroom
  case shown q a =>
    refine ⟨hputs, hgifts, ?_, hlength⟩
    rintro b (hb | hb) <;> cases hb
    rfl
  case given q a =>
    refine ⟨hputs, ?_, ?_, hlength⟩
    · rw [gifts_given, hgifts]
      show (removals l ++ []) ++ [a] = removals l ++ [a]
      rw [List.append_nil]
    · rintro b (hb | hb) <;> cases hb
      exact hhead a (.inl rfl)
  case kept q a =>
    refine ⟨hputs, hgifts, ?_, hlength⟩
    rintro b (hb | hb) <;> cases hb
  case removed q a b =>
    obtain rfl : b = a := Option.some.inj (hhead a (.inr rfl))
    refine ⟨?_, ?_, ?_, ?_⟩
    · rw [removals_removed, List.append_assoc]
      exact hputs
    · rw [removals_removed]
      show gifts l = (removals l ++ [b]) ++ []
      rw [List.append_nil]
      exact hgifts
    · rintro c (hc | hc) <;> cases hc
    · exact Nat.le_of_succ_le hlength

/-- What has been handed over and not yet removed is the first of what waits. -/
theorem Sound.gift_prefix (h : Sound capacity l s) : s.hand.gift <+: s.waiting := by
  rcases hhand : s.hand with - | a | a
  · exact List.nil_prefix
  · exact List.nil_prefix
  · obtain ⟨q, hq⟩ := List.head?_eq_some_iff.1 (h.head_eq a (.inr hhand))
    rw [hq]
    exact List.cons_prefix_cons.2 ⟨rfl, List.nil_prefix⟩

/-- As many as were put and are not removed wait. -/
theorem Sound.length_removals (h : Sound capacity l s) :
    (removals l).length + s.waiting.length = (puts l).length := by
  rw [h.puts_eq, List.length_append]

end Handover
