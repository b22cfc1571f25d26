import Mathlib.Algebra.Group.Nat.Defs
import Mathlib.Data.Nat.Basic

/-!
# A 32-bit millisecond counter

`stamp t` is what a 32-bit counter shows at the true time `t`. Differences of stamps are computed
modulo `2 ^ 32`; as long as the second reading is not older than the first one, such a difference
never **exceeds** the time that has really passed. It may fall short of it, after a full turn of the
counter.
-/

namespace Clock32

/-- The counter at the true time `t`. -/
def stamp (t : ℕ) : UInt32 := UInt32.ofNat t

theorem stamp_add (s t : ℕ) : stamp (s + t) = stamp s + stamp t := UInt32.ofNat_add ..

/-- The counter shows `0` after whole turns. -/
theorem stamp_eq_zero_iff {t : ℕ} : stamp t = 0 ↔ 2 ^ 32 ∣ t := by
  rw [stamp, ← UInt32.toNat_inj, UInt32.toNat_ofNat', UInt32.toNat_zero]
  omega

/-- A computed difference is the true one, less whole turns. -/
theorem toNat_stamp_sub_stamp {s t : ℕ} (h : s ≤ t) :
    (stamp t - stamp s).toNat = (t - s) % 2 ^ 32 := by
  rw [stamp, stamp, UInt32.toNat_sub, UInt32.toNat_ofNat', UInt32.toNat_ofNat']
  omega

/-- A reading that lies before another one, by less than a turn, is a large difference after it. -/
theorem toNat_stamp_sub_of_lt {s t : ℕ} (h : s < t) (hlt : t - s < 2 ^ 32) :
    (stamp s - stamp t).toNat = 2 ^ 32 - (t - s) := by
  rw [stamp, stamp, UInt32.toNat_sub, UInt32.toNat_ofNat', UInt32.toNat_ofNat']
  omega

/-- The computed difference is at most the true one. -/
theorem toNat_stamp_sub_le {s t : ℕ} (h : s ≤ t) : (stamp t - stamp s).toNat ≤ t - s := by
  rw [toNat_stamp_sub_stamp h]
  exact Nat.mod_le ..

/-- A computed difference beyond a bound means that more than the bound has passed. -/
theorem lt_sub_of_lt_stamp_sub {s t : ℕ} {d : UInt32} (h : s ≤ t) (hd : d < stamp t - stamp s) :
    d.toNat < t - s :=
  Nat.lt_of_lt_of_le (UInt32.lt_iff_toNat_lt.1 hd) (toNat_stamp_sub_le h)

/-- A computed difference that reaches a bound means that the bound has passed. -/
theorem le_sub_of_le_stamp_sub {s t : ℕ} {d : UInt32} (h : s ≤ t) (hd : d ≤ stamp t - stamp s) :
    d.toNat ≤ t - s :=
  Nat.le_trans (UInt32.le_iff_toNat_le.1 hd) (toNat_stamp_sub_le h)

/-- A computed difference grows with the time, until the counter has made a full turn. -/
theorem toNat_stamp_sub {s t : ℕ} {u : UInt32} (h : s ≤ t)
    (hlt : (stamp s - u).toNat + (t - s) < 2 ^ 32) :
    (stamp t - u).toNat = (stamp s - u).toNat + (t - s) := by
  rw [stamp, UInt32.toNat_sub, UInt32.toNat_ofNat'] at hlt ⊢
  rw [stamp, UInt32.toNat_sub, UInt32.toNat_ofNat']
  omega

end Clock32
