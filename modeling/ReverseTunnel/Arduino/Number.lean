import ReverseTunnel.Arduino.Text
import Mathlib.Data.Nat.Digits.Defs
import Mathlib.Data.Nat.Digits.Lemmas

/-!
# Numbers in texts

`String(int)` writes a number in decimal. `toInt` is `atol`: it skips blanks, takes a sign and reads
digits as long as there are any; what is beyond the range of a 32-bit `long` becomes the end of that
range.
-/

namespace ReverseTunnel

/-- `isDigit` -/
def isDigit (c : UInt8) : Bool := chr '0' ≤ c && c ≤ chr '9'

/-- `c - '0'` -/
def digitValue (c : UInt8) : ℕ := (c - chr '0').toNat

namespace Text

/-- The value of a sequence of digits, behind digits of value `n`. -/
def digitsValue (n : ℕ) : Text → ℕ
  | [] => n
  | c :: rest => digitsValue (n * 10 + digitValue c) rest

/-- The digits a text begins with. -/
def leadingDigits (t : Text) : Text := t.takeWhile isDigit

/-- `toInt` -/
def toInt (t : Text) : Int :=
  match t.dropWhile isSpace with
  | [] => 0
  | c :: rest =>
    if c = chr '-' then max (-2147483648) (-(digitsValue 0 (leadingDigits rest) : Int))
    else if c = chr '+' then min 2147483647 (digitsValue 0 (leadingDigits rest) : Int)
    else min 2147483647 (digitsValue 0 (leadingDigits (c :: rest)) : Int)

/-- The digits of a natural number. -/
def digits (n : ℕ) : Text :=
  if n = 0 then [chr '0'] else (Nat.digits 10 n).reverse.map fun d ↦ chr '0' + UInt8.ofNat d

/-- `String(int)` -/
def decimal (n : Int) : Text :=
  if n < 0 then chr '-' :: digits n.natAbs else digits n.natAbs

/-! ### Reading what was written -/

theorem isDigit_digit {d : ℕ} (hd : d < 10) : isDigit (chr '0' + UInt8.ofNat d) = true :=
  (show ∀ d < 10, isDigit (chr '0' + UInt8.ofNat d) = true by decide) d hd

theorem digitValue_digit {d : ℕ} (hd : d < 10) : digitValue (chr '0' + UInt8.ofNat d) = d :=
  (show ∀ d < 10, digitValue (chr '0' + UInt8.ofNat d) = d by decide) d hd

theorem isDigit_of_mem_digits {n : ℕ} {c : UInt8} (hc : c ∈ digits n) : isDigit c = true := by
  rw [digits] at hc
  split at hc
  · rw [List.mem_singleton.1 hc]
    decide
  · obtain ⟨d, hd, rfl⟩ := List.mem_map.1 hc
    exact isDigit_digit (Nat.digits_lt_base (by decide) (List.mem_reverse.1 hd))

theorem digits_ne_nil (n : ℕ) : digits n ≠ [] := by
  rw [digits]
  split
  · exact List.cons_ne_nil _ _
  · next hn =>
    intro hnil
    rw [List.map_eq_nil_iff, List.reverse_eq_nil_iff] at hnil
    exact hn (Nat.digits_eq_nil_iff_eq_zero.1 hnil)

theorem digitsValue_map {l : List ℕ} {n : ℕ} (hl : ∀ d ∈ l, d < 10) :
    digitsValue n (l.map fun d ↦ chr '0' + UInt8.ofNat d) = l.foldl (fun n d ↦ n * 10 + d) n := by
  induction l generalizing n with
  | nil => rfl
  | cons d l ih =>
    rw [List.map_cons, digitsValue, digitValue_digit (hl d (List.mem_cons_self ..)),
      ih fun d hd ↦ hl d (List.mem_cons_of_mem _ hd)]
    rfl

/-- The digits of a number stand for it. -/
theorem digitsValue_digits (n : ℕ) : digitsValue 0 (digits n) = n := by
  rw [digits]
  split
  · next hn => rw [hn]; decide
  · rw [digitsValue_map fun d hd ↦ Nat.digits_lt_base (by decide) (List.mem_reverse.1 hd),
      List.foldl_reverse]
    have hdigits := Nat.ofDigits_digits 10 n
    rw [Nat.ofDigits_eq_foldr] at hdigits
    simpa only [Nat.cast_id, Nat.add_comm, Nat.mul_comm] using hdigits

theorem leadingDigits_digits (n : ℕ) : leadingDigits (digits n) = digits n :=
  List.takeWhile_eq_self_iff.2 fun _ hc ↦ isDigit_of_mem_digits hc

theorem toInt_digits (n : ℕ) (hn : n ≤ 2147483647) : toInt (digits n) = n := by
  rcases hdigits : digits n with - | ⟨c, rest⟩
  · exact absurd hdigits (digits_ne_nil n)
  · have hc : isDigit c = true := isDigit_of_mem_digits (hdigits ▸ List.mem_cons_self ..)
    have hchar : ∀ c, isDigit c = true → isSpace c = false ∧ c ≠ chr '-' ∧ c ≠ chr '+' := by
      decide +kernel
    obtain ⟨hblank, hminus, hplus⟩ := hchar c hc
    have hvalue := digitsValue_digits n
    rw [← leadingDigits_digits, hdigits] at hvalue
    rw [toInt, List.dropWhile_cons_of_neg (by rw [hblank]; exact Bool.false_ne_true)]
    simp only [hminus, hplus, if_false, hvalue]
    omega

/-- **A number is read as it was written.** -/
theorem toInt_decimal {n : Int} (hmin : -2147483648 ≤ n) (hmax : n ≤ 2147483647) :
    toInt (decimal n) = n := by
  rw [decimal]
  split
  · have hblank : isSpace (chr '-') = false := by decide
    rw [toInt, List.dropWhile_cons_of_neg (by rw [hblank]; exact Bool.false_ne_true)]
    simp only [if_true, leadingDigits_digits, digitsValue_digits]
    omega
  · rw [toInt_digits _ (by omega)]
    omega

end Text

end ReverseTunnel
