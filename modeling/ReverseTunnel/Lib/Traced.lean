import Mathlib.Logic.Relation
import Mathlib.Data.List.Basic

/-!
# Programs against an environment, with a recorded trace

A small library for stateful code that talks to the outside world. A program owns a state `σ`,
makes *calls* `c : C` whose replies `R c` are chosen by the environment, samples a clock that the
environment advances, and leaves *marks* `l : L` at places its specification wants to speak about.

What it does is recorded: every call and every mark becomes an `Item` that also holds the state it
was made in, so "whenever the program calls `c`, its state satisfies `P`" is a statement about the
trace and about nothing else. Traces are **newest first**: the tail behind an item is its past.

## The environment

An `Env` answers the call with serial number `n`, says how many milliseconds pass before it, and
resolves silent choices. Nothing ties these together, so quantifying over `Env` is quantifying over
every sequence of results and every non-decreasing sequence of clock readings. A program cannot read
its own trace: `Prog` returns the items it produced and never receives any.

The serial number of a call is available to the program. It is what a fresh handle is made of.
-/

namespace Traced

variable {σ τ C C' L L' α β : Type} {R : C → Type}

/-- What the outside world decides: the reply to call number `n`, the time that passes before it,
and the silent choice made there. -/
structure Env (C : Type) (R : C → Type) where
  /-- The reply to a call, by its serial number. -/
  reply : ℕ → (c : C) → R c
  /-- Milliseconds that pass before the operation with this serial number. -/
  elapse : ℕ → ℕ
  /-- The silent choice taken by the operation with this serial number. -/
  choice : ℕ → ℕ

/-- One entry of a trace, with the state `pre` in which it was made. -/
inductive Item (σ C : Type) (R : C → Type) (L : Type) where
  /-- A call, its serial number and its reply. -/
  | call (id time : ℕ) (pre : σ) (c : C) (r : R c)
  /-- A mark. -/
  | mark (time : ℕ) (pre : σ) (l : L)

namespace Item

/-- When the item was made. -/
def time : Item σ C R L → ℕ
  | call _ t _ _ _ => t
  | mark t _ _ => t

/-- The state the item was made in. -/
def pre : Item σ C R L → σ
  | call _ _ s _ _ => s
  | mark _ s _ => s

/-- Carry an item to another state, another set of calls and another set of marks. -/
def map (s : τ → σ) (f : C' → C) (g : L' → L) :
    Item τ C' (fun c ↦ R (f c)) L' → Item σ C R L
  | call id t p c r => call id t (s p) (f c) r
  | mark t p l => mark t (s p) (g l)

@[simp] theorem time_call (id t : ℕ) (s : σ) (c : C) (r : R c) :
    (call id t s c r : Item σ C R L).time = t := rfl

@[simp] theorem time_mark (t : ℕ) (s : σ) (l : L) : (mark t s l : Item σ C R L).time = t := rfl

@[simp] theorem pre_call (id t : ℕ) (s : σ) (c : C) (r : R c) :
    (call id t s c r : Item σ C R L).pre = s := rfl

@[simp] theorem pre_mark (t : ℕ) (s : σ) (l : L) : (mark t s l : Item σ C R L).pre = s := rfl

@[simp] theorem time_map (s : τ → σ) (f : C' → C) (g : L' → L)
    (x : Item τ C' (fun c ↦ R (f c)) L') : (x.map s f g : Item σ C R L).time = x.time := by
  cases x <;> rfl

@[simp] theorem pre_map (s : τ → σ) (f : C' → C) (g : L' → L)
    (x : Item τ C' (fun c ↦ R (f c)) L') : (x.map s f g : Item σ C R L).pre = s x.pre := by
  cases x <;> rfl

end Item

/-- A trace, newest item first. -/
abbrev Trace (σ C : Type) (R : C → Type) (L : Type) := List (Item σ C R L)

/-- What a program runs on: its state, the true time in milliseconds, and the number of operations
made so far. -/
structure Machine (σ : Type) where
  /-- The program's state. -/
  st : σ
  /-- The true time. -/
  clock : ℕ
  /-- Serial number of the next operation. -/
  serial : ℕ

/-- What one run of a program yields: a value, the machine it leaves and the items it produced. -/
structure Outcome (σ C : Type) (R : C → Type) (L α : Type) where
  /-- The returned value. -/
  val : α
  /-- The machine after the run. -/
  fin : Machine σ
  /-- The items produced by the run, newest first. -/
  out : Trace σ C R L

/-- A program. It sees the machine and the environment, never the trace, and nothing it does turns
back the clock or the numbering. -/
structure Prog (σ C : Type) (R : C → Type) (L α : Type) where
  /-- What it does. -/
  act : Env C R → Machine σ → Outcome σ C R L α
  /-- Time does not go back. -/
  clock_le : ∀ e s, s.clock ≤ (act e s).fin.clock
  /-- Serial numbers are not reused. -/
  serial_le : ∀ e s, s.serial ≤ (act e s).fin.serial

namespace Prog

instance : Monad (Prog σ C R L) where
  pure a := ⟨fun _ s ↦ ⟨a, s, []⟩, fun _ _ ↦ Nat.le_refl _, fun _ _ ↦ Nat.le_refl _⟩
  bind m f :=
    { act := fun e s ↦
        let o := m.act e s
        let p := (f o.val).act e o.fin
        ⟨p.val, p.fin, p.out ++ o.out⟩
      clock_le := fun e s ↦ Nat.le_trans (m.clock_le e s) ((f _).clock_le e _)
      serial_le := fun e s ↦ Nat.le_trans (m.serial_le e s) ((f _).serial_le e _) }

/-- Read the state. -/
def get : Prog σ C R L σ :=
  ⟨fun _ s ↦ ⟨s.st, s, []⟩, fun _ _ ↦ Nat.le_refl _, fun _ _ ↦ Nat.le_refl _⟩

/-- Change the state. -/
def modify (f : σ → σ) : Prog σ C R L Unit :=
  ⟨fun _ s ↦ ⟨(), { s with st := f s.st }, []⟩, fun _ _ ↦ Nat.le_refl _, fun _ _ ↦ Nat.le_refl _⟩

/-- Leave a mark. -/
def mark (l : L) : Prog σ C R L Unit :=
  ⟨fun _ s ↦ ⟨(), s, [.mark s.clock s.st l]⟩, fun _ _ ↦ Nat.le_refl _, fun _ _ ↦ Nat.le_refl _⟩

/-- Make a call: time passes, then the environment answers. Returns the call's serial number
together with the reply. -/
def callId (c : C) : Prog σ C R L (ℕ × R c) :=
  { act := fun e s ↦
      let t := s.clock + e.elapse s.serial
      let r := e.reply s.serial c
      ⟨(s.serial, r), ⟨s.st, t, s.serial + 1⟩, [.call s.serial t s.st c r]⟩
    clock_le := fun _ _ ↦ Nat.le_add_right _ _
    serial_le := fun _ _ ↦ Nat.le_succ _ }

/-- Make a call and keep only its reply. -/
def call (c : C) : Prog σ C R L (R c) := do
  let x ← callId c
  pure x.2

/-- Sample the true time, after some more of it has passed. -/
def tick : Prog σ C R L ℕ :=
  { act := fun e s ↦
      let t := s.clock + e.elapse s.serial
      ⟨t, ⟨s.st, t, s.serial + 1⟩, []⟩
    clock_le := fun _ _ ↦ Nat.le_add_right _ _
    serial_le := fun _ _ ↦ Nat.le_succ _ }

/-- A silent choice of the environment. -/
def choose : Prog σ C R L ℕ :=
  { act := fun e s ↦ ⟨e.choice s.serial, { s with serial := s.serial + 1 }, []⟩
    clock_le := fun _ _ ↦ Nat.le_refl _
    serial_le := fun _ _ ↦ Nat.le_succ _ }

/-- Run `m` when `b` holds, and nothing otherwise. -/
def when (b : Bool) (m : Prog σ C R L Unit) : Prog σ C R L Unit :=
  if b then m else pure ()

/-- Run `f` on every element of a list, in order. -/
def each : List β → (β → Prog σ C R L Unit) → Prog σ C R L Unit
  | [], _ => pure ()
  | b :: l, f => do
    f b
    each l f

/-- Thread an accumulator through a list, in order. -/
def fold : List β → α → (α → β → Prog σ C R L α) → Prog σ C R L α
  | [], a, _ => pure a
  | b :: l, a, f => do
    let a' ← f a b
    fold l a' f

/-- At most `n` rounds of `m`, which asks for another one by returning `true`. -/
def attempts : ℕ → Prog σ C R L Bool → Prog σ C R L Unit
  | 0, _ => pure ()
  | n + 1, m => do
    let again ← m
    if again then attempts n m else pure ()

/-- Run a program for a part of the state. `get`/`put` reach the part, `f` and `g` rename its calls
and marks; the items record the whole state with the part put back in. -/
def zoom (get : σ → τ) (put : τ → σ → σ) (f : C' → C) (g : L' → L)
    (m : Prog τ C' (fun c ↦ R (f c)) L' α) : Prog σ C R L α :=
  { act := fun e s ↦
      let o := m.act ⟨fun n c ↦ e.reply n (f c), e.elapse, e.choice⟩ ⟨get s.st, s.clock, s.serial⟩
      ⟨o.val, ⟨put o.fin.st s.st, o.fin.clock, o.fin.serial⟩,
        o.out.map (Item.map (fun x ↦ put x s.st) f g)⟩
    clock_le := fun _ _ ↦ m.clock_le _ ⟨_, _, _⟩
    serial_le := fun _ _ ↦ m.serial_le _ ⟨_, _, _⟩ }

end Prog

/-! ### Worlds: a machine together with everything that happened so far -/

/-- A machine and its whole trace. -/
structure World (σ C : Type) (R : C → Type) (L : Type) extends Machine σ where
  /-- Everything that happened so far, newest first. -/
  trace : Trace σ C R L

namespace World

/-- The world after a call that returned at time `t`. -/
def after (w : World σ C R L) (c : C) (r : R c) (t : ℕ) : World σ C R L :=
  ⟨⟨w.st, t, w.serial + 1⟩, .call w.serial t w.st c r :: w.trace⟩

/-- The world after the clock was sampled at time `t`, or after a silent choice. -/
def wait (w : World σ C R L) (t : ℕ) : World σ C R L :=
  ⟨⟨w.st, t, w.serial + 1⟩, w.trace⟩

/-- The world after a change of state. -/
def update (w : World σ C R L) (f : σ → σ) : World σ C R L :=
  ⟨⟨f w.st, w.clock, w.serial⟩, w.trace⟩

/-- The world after a mark. -/
def marked (w : World σ C R L) (l : L) : World σ C R L :=
  ⟨w.toMachine, .mark w.clock w.st l :: w.trace⟩

@[simp] theorem after_st (w : World σ C R L) (c : C) (r : R c) (t : ℕ) :
    (w.after c r t).st = w.st := rfl

@[simp] theorem after_clock (w : World σ C R L) (c : C) (r : R c) (t : ℕ) :
    (w.after c r t).clock = t := rfl

@[simp] theorem after_serial (w : World σ C R L) (c : C) (r : R c) (t : ℕ) :
    (w.after c r t).serial = w.serial + 1 := rfl

@[simp] theorem after_trace (w : World σ C R L) (c : C) (r : R c) (t : ℕ) :
    (w.after c r t).trace = .call w.serial t w.st c r :: w.trace := rfl

@[simp] theorem wait_st (w : World σ C R L) (t : ℕ) : (w.wait t).st = w.st := rfl

@[simp] theorem wait_clock (w : World σ C R L) (t : ℕ) : (w.wait t).clock = t := rfl

@[simp] theorem wait_serial (w : World σ C R L) (t : ℕ) : (w.wait t).serial = w.serial + 1 := rfl

@[simp] theorem wait_trace (w : World σ C R L) (t : ℕ) : (w.wait t).trace = w.trace := rfl

@[simp] theorem update_st (w : World σ C R L) (f : σ → σ) : (w.update f).st = f w.st := rfl

@[simp] theorem update_clock (w : World σ C R L) (f : σ → σ) :
    (w.update f).clock = w.clock := rfl

@[simp] theorem update_serial (w : World σ C R L) (f : σ → σ) :
    (w.update f).serial = w.serial := rfl

@[simp] theorem update_trace (w : World σ C R L) (f : σ → σ) :
    (w.update f).trace = w.trace := rfl

@[simp] theorem marked_st (w : World σ C R L) (l : L) : (w.marked l).st = w.st := rfl

@[simp] theorem marked_clock (w : World σ C R L) (l : L) : (w.marked l).clock = w.clock := rfl

@[simp] theorem marked_serial (w : World σ C R L) (l : L) :
    (w.marked l).serial = w.serial := rfl

@[simp] theorem marked_trace (w : World σ C R L) (l : L) :
    (w.marked l).trace = .mark w.clock w.st l :: w.trace := rfl

end World

namespace Prog

/-- Run a program in a world: the items it produced go in front of the trace. -/
def run (m : Prog σ C R L α) (e : Env C R) (w : World σ C R L) : α × World σ C R L :=
  let o := m.act e w.toMachine
  (o.val, ⟨o.fin, o.out ++ w.trace⟩)

/-- The world a program leaves. -/
def exec (m : Prog σ C R L α) (e : Env C R) (w : World σ C R L) : World σ C R L :=
  (m.run e w).2

@[simp] theorem run_pure (a : α) (e : Env C R) (w : World σ C R L) :
    (pure a : Prog σ C R L α).run e w = (a, w) := rfl

theorem bind_apply (m : Prog σ C R L α) (f : α → Prog σ C R L β) (e : Env C R) (s : Machine σ) :
    (m >>= f).act e s =
      ⟨((f (m.act e s).val).act e (m.act e s).fin).val,
        ((f (m.act e s).val).act e (m.act e s).fin).fin,
        ((f (m.act e s).val).act e (m.act e s).fin).out ++ (m.act e s).out⟩ := rfl

@[simp] theorem run_bind (m : Prog σ C R L α) (f : α → Prog σ C R L β) (e : Env C R)
    (w : World σ C R L) :
    (m >>= f).run e w = (f (m.run e w).1).run e (m.run e w).2 := by
  simp only [run, bind_apply, List.append_assoc]

@[simp] theorem run_get (e : Env C R) (w : World σ C R L) :
    (get : Prog σ C R L σ).run e w = (w.st, w) := rfl

@[simp] theorem run_modify (f : σ → σ) (e : Env C R) (w : World σ C R L) :
    (modify f : Prog σ C R L Unit).run e w = ((), w.update f) := rfl

@[simp] theorem run_mark (l : L) (e : Env C R) (w : World σ C R L) :
    (mark l : Prog σ C R L Unit).run e w = ((), w.marked l) := rfl

/-- What a program has done stands in front of what was done before. -/
theorem trace_exec (m : Prog σ C R L α) (e : Env C R) (w : World σ C R L) :
    (m.exec e w).trace = (m.act e w.toMachine).out ++ w.trace := rfl

@[simp] theorem exec_pure (a : α) (e : Env C R) (w : World σ C R L) :
    (pure a : Prog σ C R L α).exec e w = w := rfl

theorem exec_bind (m : Prog σ C R L α) (f : α → Prog σ C R L β) (e : Env C R)
    (w : World σ C R L) :
    (m >>= f).exec e w = (f (m.run e w).1).exec e (m.run e w).2 := by
  rw [exec, run_bind, exec]

end Prog

end Traced
