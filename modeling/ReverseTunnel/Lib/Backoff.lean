import Mathlib.Algebra.Order.Ring.Nat

/-!
# Capped exponential back-off

A delay is doubled once for every failure, but not beyond a cap. `doubled` is the usual loop, which
stops doubling as soon as the cap is reached; cut off at the cap, its result is the closed form.
-/

namespace Backoff

/-- Double `delay` up to `n` times, as long as it is below the cap. -/
def doubled (cap : ℕ) : (n : ℕ) → (delay : ℕ) → ℕ
  | 0, delay => delay
  | n + 1, delay => if delay < cap then doubled cap n (delay * 2) else delay

/-- **The loop computes the closed form.** -/
theorem min_doubled (cap n delay : ℕ) : min cap (doubled cap n delay) = min cap (delay * 2 ^ n) := by
  induction n generalizing delay with
  | zero => rw [doubled, pow_zero, mul_one]
  | succ n ih =>
    rw [doubled]
    split
    · rw [ih, pow_succ', mul_assoc]
    · -- the cap is reached, and doubling on would not bring the delay below it again
      next hcap =>
      have hle : cap ≤ delay := Nat.le_of_not_lt hcap
      have hle' : cap ≤ delay * 2 ^ (n + 1) :=
        hle.trans (Nat.le_mul_of_pos_right _ (Nat.two_pow_pos _))
      rw [min_eq_left hle, min_eq_left hle']

/-- More failures never shorten the delay. -/
theorem min_le_min_mul (cap n delay : ℕ) : min cap delay ≤ min cap (delay * 2 ^ n) :=
  min_le_min_left cap (Nat.le_mul_of_pos_right _ (Nat.two_pow_pos _))

end Backoff
