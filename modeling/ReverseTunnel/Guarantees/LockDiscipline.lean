import ReverseTunnel.System.Discipline

/-!
# The session lock

Every libssh2 call on a channel or a listener is made while the session lock is held, the lock is
never asked for by a task that holds it, and every public operation returns without it: each successful
attempt is matched by exactly one release. This holds for every outcome of every lock attempt.
-/

namespace ReverseTunnel

open Traced

variable {p : Params} {w : TunnelWorld}

/-- The session lock was taken. -/
def acquires : Item SSHTunnel Call Call.Reply Mark → Bool
  | .call _ _ _ (.sys (.lock _)) locked => locked
  | _ => false

/-- The session lock was given back. -/
def releases : Item SSHTunnel Call Call.Reply Mark → Bool
  | .call _ _ _ c _ => c.givesLock
  | .mark _ _ _ => false

/-- How the session lock was used. -/
structure LockDiscipline (tr : Trace SSHTunnel Call Call.Reply Mark) : Prop where
  /-- Calls that need the lock have it. -/
  guarded : ∀ newer id t s c r past, tr = newer ++ .call id t s c r :: past →
    c.needsLock = true → holding past = true
  /-- The lock is not asked for while it is held. -/
  not_recursive : ∀ newer id t s c r past, tr = newer ++ .call id t s c r :: past →
    c.takesLock = true → holding past = false
  /-- It is given back only while it is held. -/
  held_at_release : ∀ newer id t s c r past, tr = newer ++ .call id t s c r :: past →
    c.givesLock = true → holding past = true
  /-- Nobody holds it. -/
  free : holding tr = false
  /-- It was given back as often as it was taken. -/
  matched : tr.countP acquires = tr.countP releases

/-- Under the rule, takes and releases alternate. -/
theorem countP_acquires {tr : Trace SSHTunnel Call Call.Reply Mark}
    (h : History.Always LockRule tr) :
    tr.countP acquires = tr.countP releases + (holding tr).toNat := by
  induction tr with
  | nil => rfl
  | cons x past ih =>
    have ih := ih h.2
    rw [List.countP_cons, List.countP_cons, ih]
    cases x with
    | mark t s m => rfl
    | call id t s c r =>
      cases c with
      | io i c => rfl
      | sys c =>
        cases c with
        | lock ms =>
          have hfree : holding past = false := h.1.2.1 rfl
          rw [hfree]
          cases r with
          | true => rfl
          | false =>
            show _ = _ + (holding past).toNat
            rw [hfree]
            rfl
        | unlock =>
          have hheld : holding past = true := h.1.2.2 rfl
          rw [hheld]
          rfl
        | _ => rfl

/-- **Lock discipline**, in every run and for every outcome of the lock attempts. -/
theorem lock_discipline (hw : TunnelRun p w) : LockDiscipline w.trace := by
  have h := hw.abides
  have hrule := History.always_iff.1 h.lockRule
  refine ⟨?_, ?_, ?_, h.holding_eq, ?_⟩
  · intro newer id t s c r past htr
    exact (hrule newer _ past htr).1
  · intro newer id t s c r past htr
    exact (hrule newer _ past htr).2.1
  · intro newer id t s c r past htr
    exact (hrule newer _ past htr).2.2
  · rw [countP_acquires h.lockRule, h.holding_eq]
    rfl

/-- A connection, a channel that is bound, and a round in which the lock cannot be had. -/
def contendedRun : TunnelWorld := afterTunnelOps (smallTunnel 1)
  [(.connectSSH, acceptingWorld 40), (.loop, acceptingWorld 40),
    (.loop, worldWith 1 fun _ c ↦ match c with
      | .sys (.lock _) => some false
      | _ => none)]

theorem lock_discipline_contendedRun :
    contendedRun.trace.countP acquires = 9 ∧ LockDiscipline contendedRun.trace :=
  ⟨by decide +kernel, lock_discipline (tunnelRun_after _)⟩

end ReverseTunnel
