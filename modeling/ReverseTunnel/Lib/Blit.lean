import Mathlib.Data.List.Basic

/-!
# Block copies inside a fixed array

`blit xs at ys` is what copying the block `ys` over `xs` at position `at` leaves. Reading the source
block before writing makes it the overlapping move as well as the plain copy: `blit xs i
(slice xs j n)` moves `n` cells from `j` to `i` whatever the overlap.
-/

namespace Blit

variable {α : Type}

/-- The block of `n` cells at position `i`. -/
def slice (xs : List α) (i n : ℕ) : List α := (xs.drop i).take n

/-- Copy the block `ys` over `xs`, starting at cell `i`. -/
def blit (xs : List α) (i : ℕ) (ys : List α) : List α :=
  xs.take i ++ ys ++ xs.drop (i + ys.length)

theorem length_slice {xs : List α} {i n : ℕ} (h : i + n ≤ xs.length) :
    (slice xs i n).length = n := by
  rw [slice, List.length_take, List.length_drop]
  omega

/-- A block that lies inside the array does not change its size. -/
theorem length_blit {xs ys : List α} {i : ℕ} (h : i + ys.length ≤ xs.length) :
    (blit xs i ys).length = xs.length := by
  simp only [blit, List.length_append, List.length_take, List.length_drop]
  omega

/-- What was copied can be read back. -/
theorem slice_blit {xs ys : List α} {i : ℕ} (h : i ≤ xs.length) :
    slice (blit xs i ys) i ys.length = ys := by
  have hi : (xs.take i).length = i := by rw [List.length_take]; omega
  rw [slice, blit, List.append_assoc, List.drop_left' hi, List.take_left]

/-- Copying at the start puts the block in front of what lies behind it. -/
theorem blit_zero (xs ys : List α) : blit xs 0 ys = ys ++ xs.drop ys.length := by
  simp [blit]

/-- Two adjacent blocks, the second written first: together they read as their concatenation. -/
theorem slice_blit_blit (xs ys zs : List α) (h : ys.length ≤ xs.length) :
    slice (blit (blit xs ys.length zs) 0 ys) 0 (ys.length + zs.length) = ys ++ zs := by
  have hz : slice (blit xs ys.length zs) ys.length zs.length = zs := slice_blit h
  rw [slice, List.drop_zero, blit_zero, List.take_length_add_append]
  exact congrArg (ys ++ ·) hz

end Blit
