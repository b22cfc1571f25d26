import Mathlib.Data.Nat.Bits
import Mathlib.Tactic.Ring

/-!
# Base64 as a format

RFC 4648 defines base64 on **bits**: those of all bytes in a row, most significant ones first, are taken
six at a time, and every group is a digit. A last group that is short is filled with zeros. The padding
that may follow is not part of the digits.

An encoder works on bytes, three at a time; `groups_three`, `groups_two` and `groups_one` are what the
groups are in terms of these.
-/

namespace Base64

/-- The bits of a byte, the most significant one first. -/
def byteBits (b : UInt8) : List Bool :=
  [b.toNat.testBit 7, b.toNat.testBit 6, b.toNat.testBit 5, b.toNat.testBit 4,
    b.toNat.testBit 3, b.toNat.testBit 2, b.toNat.testBit 1, b.toNat.testBit 0]

/-- The number with these bits, behind bits of value `n`. -/
def ofBitsFrom (n : ℕ) : List Bool → ℕ
  | [] => n
  | b :: rest => ofBitsFrom (n * 2 + b.toNat) rest

/-- The number with these bits. -/
def ofBits (l : List Bool) : ℕ := ofBitsFrom 0 l

/-- Six bits at a time. A last group that is short is filled with zeros. -/
def groups : List Bool → List ℕ
  | a :: b :: c :: d :: e :: f :: rest => ofBits [a, b, c, d, e, f] :: groups rest
  | [] => []
  | rest => [ofBits (rest ++ List.replicate (6 - rest.length) false)]

/-- The digits of the base64 alphabet. -/
def alphabet (n : ℕ) : UInt8 :=
  if n < 26 then UInt8.ofNat ('A'.toNat + n)
  else if n < 52 then UInt8.ofNat ('a'.toNat + (n - 26))
  else if n < 62 then UInt8.ofNat ('0'.toNat + (n - 52))
  else if n = 62 then '+'.toUInt8
  else '/'.toUInt8

/-- **Base64**, without padding. -/
def encode (data : List UInt8) : List UInt8 := (groups (data.flatMap byteBits)).map alphabet

/-- Base64 with its padding. -/
def padded (data : List UInt8) : List UInt8 :=
  encode data ++ List.replicate ((3 - data.length % 3) % 3) '='.toUInt8

/-! ### Bits -/

theorem ofBitsFrom_eq (n : ℕ) (l : List Bool) : ofBitsFrom n l = n * 2 ^ l.length + ofBits l := by
  induction l generalizing n with
  | nil => simp only [ofBitsFrom, ofBits, List.length_nil, Nat.pow_zero, Nat.mul_one, Nat.add_zero]
  | cons b rest ih =>
    have hcons : ofBits (b :: rest) = b.toNat * 2 ^ rest.length + ofBits rest := by
      show ofBitsFrom (0 * 2 + b.toNat) rest = _
      rw [ih, Nat.zero_mul, Nat.zero_add]
    rw [ofBitsFrom, ih, hcons, List.length_cons, Nat.pow_succ]
    ring

/-- Bits behind others count for less. -/
theorem ofBits_append (l l' : List Bool) : ofBits (l ++ l') = ofBits l * 2 ^ l'.length + ofBits l' := by
  have hfrom : ∀ n, ofBitsFrom n (l ++ l') = ofBitsFrom (ofBitsFrom n l) l' := by
    intro n
    induction l generalizing n with
    | nil => rfl
    | cons b rest ih => rw [List.cons_append, ofBitsFrom, ofBitsFrom, ih]
  rw [ofBits, hfrom, ofBitsFrom_eq]
  rfl

/-- The front and the back of a byte, cut at two, four and six bits. -/
theorem ofBits_front (b : UInt8) :
    ofBits ((byteBits b).take 2) = b.toNat / 64 ∧ ofBits ((byteBits b).take 4) = b.toNat / 16 ∧
      ofBits ((byteBits b).take 6) = b.toNat / 4 := by
  have hbyte : ∀ n < 256, ofBits ((byteBits (UInt8.ofNat n)).take 2) = n / 64 ∧
      ofBits ((byteBits (UInt8.ofNat n)).take 4) = n / 16 ∧
      ofBits ((byteBits (UInt8.ofNat n)).take 6) = n / 4 := by
    decide +kernel
  have hb := hbyte b.toNat b.toNat_lt
  rwa [UInt8.ofNat_toNat] at hb

theorem ofBits_back (b : UInt8) :
    ofBits ((byteBits b).drop 2) = b.toNat % 64 ∧ ofBits ((byteBits b).drop 4) = b.toNat % 16 ∧
      ofBits ((byteBits b).drop 6) = b.toNat % 4 := by
  have hbyte : ∀ n < 256, ofBits ((byteBits (UInt8.ofNat n)).drop 2) = n % 64 ∧
      ofBits ((byteBits (UInt8.ofNat n)).drop 4) = n % 16 ∧
      ofBits ((byteBits (UInt8.ofNat n)).drop 6) = n % 4 := by
    decide +kernel
  have hb := hbyte b.toNat b.toNat_lt
  rwa [UInt8.ofNat_toNat] at hb

/-! ### Groups of bytes -/

section Groups

variable (a b c : UInt8) (rest : List Bool)

/-- The back of a byte and the front of the next one. -/
theorem ofBits_across (n m : ℕ) :
    ofBits ((byteBits a).drop n ++ (byteBits b).take m) =
      ofBits ((byteBits a).drop n) * 2 ^ ((byteBits b).take m).length +
        ofBits ((byteBits b).take m) :=
  ofBits_append _ _

/-- **Three bytes** are four groups. -/
theorem groups_three :
    groups (byteBits a ++ (byteBits b ++ (byteBits c ++ rest))) =
      a.toNat / 4 :: (a.toNat % 4 * 16 + b.toNat / 16) :: (b.toNat % 16 * 4 + c.toNat / 64) ::
        c.toNat % 64 :: groups rest := by
  show ofBits ((byteBits a).take 6) :: ofBits ((byteBits a).drop 6 ++ (byteBits b).take 4) ::
    ofBits ((byteBits b).drop 4 ++ (byteBits c).take 2) :: ofBits ((byteBits c).drop 2) ::
      groups rest = _
  rw [ofBits_across, ofBits_across, (ofBits_front a).2.2, (ofBits_back a).2.2, (ofBits_front b).2.1,
    (ofBits_back b).2.1, (ofBits_front c).1, (ofBits_back c).1]
  rfl

/-- **Two bytes** are three groups, with two bits that are zero. -/
theorem groups_two :
    groups (byteBits a ++ byteBits b) =
      [a.toNat / 4, a.toNat % 4 * 16 + b.toNat / 16, b.toNat % 16 * 4] := by
  show [ofBits ((byteBits a).take 6), ofBits ((byteBits a).drop 6 ++ (byteBits b).take 4),
    ofBits ((byteBits b).drop 4 ++ [false, false])] = _
  rw [ofBits_across, ofBits_append, (ofBits_front a).2.2, (ofBits_back a).2.2, (ofBits_front b).2.1,
    (ofBits_back b).2.1]
  rfl

/-- **One byte** is two groups, with four bits that are zero. -/
theorem groups_one : groups (byteBits a) = [a.toNat / 4, a.toNat % 4 * 16] := by
  show [ofBits ((byteBits a).take 6), ofBits ((byteBits a).drop 6 ++ [false, false, false, false])] = _
  rw [ofBits_append, (ofBits_front a).2.2, (ofBits_back a).2.2]
  rfl

end Groups

end Base64
