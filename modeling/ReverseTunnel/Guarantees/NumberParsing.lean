import ReverseTunnel.Minis.ManagedConfig

/-!
# Reading a number

`parseUnsigned` reads the ports, the interval and the length of a body. It works in `uint32_t`, where a
product that is too large wraps around silently, so it divides before it multiplies. `IsNumber` says which
texts are numbers at all, and what they denote, in the natural numbers. The division refuses exactly the
numbers that do not fit, at whatever digit that shows, and no product wraps around.
-/

namespace ReverseTunnel

namespace Minis

open Text

/-- The text is a number: digits that denote it, blanks, tabs and carriage returns, and then the end of the
text, of the line, or a comment. -/
def IsNumber (text : Text) (n : ℕ) : Prop :=
  ∃ ds gaps rest, text = ds ++ (gaps ++ rest) ∧ ds ≠ [] ∧ (∀ c ∈ ds, isDigit c = true) ∧
    digitsValue 0 ds = n ∧ (∀ c ∈ gaps, isGap c = true) ∧
    (rest = [] ∨ rest.head? = some (chr '\n') ∨ rest.head? = some (chr '#'))

/-- `parseUnsigned(text, value)`: what is returned, and what is in `value` then. -/
def parseUnsignedInto (text : Text) (value : UInt32) : Bool × UInt32 :=
  match parseUnsigned text with
  | some parsed => (true, parsed)
  | none => (false, value)

/-- The rounds of the loop: what has been parsed, and the next digit. -/
def digitRounds (parsed : UInt32) : Text → List (UInt32 × UInt32)
  | [] => []
  | c :: rest =>
    if isDigit c then
      let digit := (c - chr '0').toUInt32
      (parsed, digit) ::
        if parsed > (4294967295 - digit) / 10 then []
        else digitRounds (parsed * 10 + digit) rest
    else []

/-! ### One digit -/

section Digit

variable {c : UInt8} {parsed : UInt32}

theorem toNat_digit (c : UInt8) : ((c - chr '0').toUInt32).toNat = digitValue c :=
  UInt8.toNat_toUInt32 _

theorem digitValue_le (hc : isDigit c = true) : digitValue c ≤ 9 :=
  (show ∀ c, isDigit c = true → digitValue c ≤ 9 by decide +kernel) c hc

/-- **The guard** is exact: the division rounds the right way. -/
theorem guard_iff (hc : isDigit c = true) :
    parsed > (4294967295 - (c - chr '0').toUInt32) / 10 ↔
      4294967295 < parsed.toNat * 10 + digitValue c := by
  have hdigit := digitValue_le hc
  have hle : (c - chr '0').toUInt32 ≤ 4294967295 := UInt32.le_iff_toNat_le.2 (by
    rw [toNat_digit]
    exact Nat.le_trans hdigit (by decide))
  show (4294967295 - (c - chr '0').toUInt32) / 10 < parsed ↔ _
  rw [UInt32.lt_iff_toNat_lt, UInt32.toNat_div, UInt32.toNat_sub_of_le _ _ hle, toNat_digit]
  show (4294967295 - digitValue c) / 10 < parsed.toNat ↔ _
  omega

/-- **No product wraps around** behind the guard. -/
theorem toNat_accumulate (hfits : parsed.toNat * 10 + digitValue c ≤ 4294967295) :
    (parsed * 10 + (c - chr '0').toUInt32).toNat = parsed.toNat * 10 + digitValue c := by
  rw [UInt32.toNat_add, UInt32.toNat_mul, toNat_digit]
  show (parsed.toNat * 10 % 4294967296 + digitValue c) % 4294967296 = _
  omega

end Digit

/-! ### The digits -/

section Digits

variable {c : UInt8} {text rest : Text} {n : ℕ}

/-- More digits make a number larger. -/
theorem le_digitsValue (n : ℕ) (ds : Text) : n ≤ digitsValue n ds := by
  induction ds generalizing n with
  | nil => exact le_rfl
  | cons c ds ih =>
    have hrest := ih (n * 10 + digitValue c)
    rw [digitsValue]
    omega

/-- What may stand behind the digits. -/
theorem numberEnds_iff :
    numberEnds text = true ↔ ∃ gaps rest, text = gaps ++ rest ∧ (∀ c ∈ gaps, isGap c = true) ∧
      (rest = [] ∨ rest.head? = some (chr '\n') ∨ rest.head? = some (chr '#')) := by
  constructor
  · intro h
    refine ⟨text.takeWhile isGap, text.dropWhile isGap, List.takeWhile_append_dropWhile.symm,
      fun c hc ↦ List.mem_takeWhile_imp hc, ?_⟩
    rw [numberEnds] at h
    rcases hdrop : text.dropWhile isGap with - | ⟨c, rest⟩
    · exact .inl rfl
    · rw [hdrop] at h
      rcases Bool.or_eq_true_iff.1 h with h | h
      · exact .inr (.inl (congrArg some (eq_of_beq h)))
      · exact .inr (.inr (congrArg some (eq_of_beq h)))
  · rintro ⟨gaps, rest, rfl, hgaps, hrest⟩
    rw [numberEnds, List.dropWhile_append_of_pos hgaps]
    rcases rest with - | ⟨c, rest⟩
    · rfl
    · have hc : c = chr '\n' ∨ c = chr '#' := by
        rcases hrest with h | h | h
        · cases h
        · exact .inl (Option.some.inj h)
        · exact .inr (Option.some.inj h)
      have hgap : isGap c = false := by rcases hc with rfl | rfl <;> decide
      rw [List.dropWhile_cons_of_neg (by rw [hgap]; exact Bool.false_ne_true)]
      show (c == chr '\n' || c == chr '#') = true
      rcases hc with rfl | rfl <;> decide

/-- Digits do not end a number. -/
theorem numberEnds_digit (hc : isDigit c = true) : numberEnds (c :: rest) = false := by
  have hbyte : ∀ c, isDigit c = true → isGap c = false ∧ c ≠ chr '\n' ∧ c ≠ chr '#' := by
    decide +kernel
  obtain ⟨hgap, hline, hcomment⟩ := hbyte c hc
  rw [numberEnds, List.dropWhile_cons_of_neg (by rw [hgap]; exact Bool.false_ne_true)]
  show (c == chr '\n' || c == chr '#') = false
  rw [beq_false_of_ne hline, beq_false_of_ne hcomment, Bool.or_false]

/-- The text goes on with digits, which make `n` out of what is parsed already, and ends as a number
does. -/
def GoesOn (parsed : ℕ) (text : Text) (n : ℕ) : Prop :=
  ∃ ds tail, text = ds ++ tail ∧ (∀ c ∈ ds, isDigit c = true) ∧ numberEnds tail = true ∧
    digitsValue parsed ds = n

theorem goesOn_nil {parsed : ℕ} : GoesOn parsed [] n ↔ parsed = n := by
  constructor
  · rintro ⟨ds, tail, hsplit, -, -, hvalue⟩
    rw [(List.append_eq_nil_iff.1 hsplit.symm).1] at hvalue
    exact hvalue
  · rintro rfl
    exact ⟨[], [], rfl, fun c hc ↦ absurd hc List.not_mem_nil, rfl, rfl⟩

/-- A digit is read. -/
theorem goesOn_digit {parsed : ℕ} (hc : isDigit c = true) :
    GoesOn parsed (c :: rest) n ↔ GoesOn (parsed * 10 + digitValue c) rest n := by
  constructor
  · rintro ⟨ds, tail, hsplit, hds, htail, hvalue⟩
    rcases ds with - | ⟨d, ds⟩
    · rw [List.nil_append] at hsplit
      rw [← hsplit, numberEnds_digit hc] at htail
      exact absurd htail Bool.false_ne_true
    · obtain ⟨rfl, rfl⟩ := List.cons_eq_cons.1 hsplit
      exact ⟨ds, tail, rfl, fun c hc ↦ hds c (List.mem_cons_of_mem _ hc), htail, hvalue⟩
  · rintro ⟨ds, tail, rfl, hds, htail, hvalue⟩
    exact ⟨c :: ds, tail, rfl, List.forall_mem_cons.2 ⟨hc, hds⟩, htail, hvalue⟩

/-- Something else is not. -/
theorem goesOn_other {parsed : ℕ} (hc : isDigit c = false) :
    GoesOn parsed (c :: rest) n ↔ numberEnds (c :: rest) = true ∧ parsed = n := by
  constructor
  · rintro ⟨ds, tail, hsplit, hds, htail, hvalue⟩
    rcases ds with - | ⟨d, ds⟩
    · rw [List.nil_append] at hsplit
      exact ⟨hsplit ▸ htail, hvalue⟩
    · obtain ⟨rfl, rfl⟩ := List.cons_eq_cons.1 hsplit
      rw [hds c (List.mem_cons_self ..)] at hc
      exact absurd hc.symm Bool.false_ne_true
  · rintro ⟨htail, rfl⟩
    exact ⟨[], c :: rest, rfl, fun c hc ↦ absurd hc List.not_mem_nil, htail, rfl⟩

/-- **The loop** reads the digits if what they make fits. The induction is on the text. -/
theorem parseDigits_eq_some_iff {parsed v : UInt32} :
    parseDigits parsed text = some v ↔ GoesOn parsed.toNat text v.toNat := by
  induction text generalizing parsed with
  | nil =>
    rw [goesOn_nil, UInt32.toNat_inj]
    exact Option.some_inj
  | cons c rest ih =>
    rw [parseDigits]
    cases hc : isDigit c with
    | true =>
      rw [if_pos rfl, goesOn_digit hc]
      dsimp only
      by_cases hguard : parsed > (4294967295 - (c - chr '0').toUInt32) / 10
      · -- Whatever follows only makes the number larger.
        have hlarge := (guard_iff hc).1 hguard
        rw [if_pos hguard]
        refine ⟨fun h ↦ absurd h (Option.some_ne_none v).symm, ?_⟩
        rintro ⟨ds, tail, -, -, -, hvalue⟩
        have hle := le_digitsValue (parsed.toNat * 10 + digitValue c) ds
        have hv := v.toNat_lt
        omega
      · have hfits := mt (guard_iff hc).2 hguard
        rw [if_neg hguard, ih, toNat_accumulate (by omega)]
    | false =>
      rw [if_neg Bool.false_ne_true, goesOn_other hc]
      cases numberEnds (c :: rest) with
      | true =>
        rw [if_pos rfl, UInt32.toNat_inj, Option.some_inj]
        exact (and_iff_right rfl).symm
      | false =>
        rw [if_neg Bool.false_ne_true]
        exact ⟨fun h ↦ absurd h (Option.some_ne_none v).symm, fun h ↦ absurd h.1 Bool.false_ne_true⟩

/-- A text that is a number begins with a digit and goes on with digits. -/
theorem isNumber_digit (hc : isDigit c = true) : IsNumber (c :: rest) n ↔ GoesOn 0 (c :: rest) n := by
  constructor
  · rintro ⟨ds, gaps, tail, hsplit, -, hds, hvalue, hgaps, htail⟩
    exact ⟨ds, gaps ++ tail, hsplit, hds, numberEnds_iff.2 ⟨gaps, tail, rfl, hgaps, htail⟩, hvalue⟩
  · rintro ⟨ds, tail, hsplit, hds, htail, hvalue⟩
    obtain ⟨gaps, tail', htail', hgaps, hend⟩ := numberEnds_iff.1 htail
    refine ⟨ds, gaps, tail', htail' ▸ hsplit, ?_, hds, hvalue, hgaps, hend⟩
    rintro rfl
    rw [← show c :: rest = tail from hsplit, numberEnds_digit hc] at htail
    exact absurd htail Bool.false_ne_true

theorem not_isNumber_other (hc : isDigit c = false) : ¬IsNumber (c :: rest) n := by
  rintro ⟨ds, gaps, tail, hsplit, hne, hds, -⟩
  rcases ds with - | ⟨d, ds⟩
  · exact hne rfl
  · obtain ⟨rfl, -⟩ := List.cons_eq_cons.1 hsplit
    rw [hds c (List.mem_cons_self ..)] at hc
    exact absurd hc.symm Bool.false_ne_true

/-- **What is read** is what the text denotes. -/
theorem parseUnsigned_eq_some_iff {v : UInt32} :
    parseUnsigned text = some v ↔ IsNumber text v.toNat := by
  rcases text with - | ⟨c, rest⟩
  · refine ⟨fun h ↦ absurd h (Option.some_ne_none v).symm, ?_⟩
    rintro ⟨ds, gaps, tail, hsplit, hne, -⟩
    exact absurd (List.append_eq_nil_iff.1 hsplit.symm).1 hne
  · rw [parseUnsigned]
    cases hc : isDigit c with
    | true =>
      rw [if_pos rfl, parseDigits_eq_some_iff, isNumber_digit hc]
      rfl
    | false =>
      rw [if_neg Bool.false_ne_true]
      exact ⟨fun h ↦ absurd h (Option.some_ne_none v).symm, fun h ↦ absurd h (not_isNumber_other hc)⟩

/-- **Every round** has a digit, and goes on only if the product fits. -/
theorem digitRounds_fit (parsed : UInt32) (text : Text) :
    ∀ r ∈ digitRounds parsed text, r.2.toNat ≤ 9 ∧
      (r.1 > (4294967295 - r.2) / 10 ∨ r.1.toNat * 10 + r.2.toNat ≤ 4294967295) := by
  induction text generalizing parsed with
  | nil => exact fun r hr ↦ absurd hr List.not_mem_nil
  | cons c rest ih =>
    intro r hr
    rw [digitRounds] at hr
    cases hc : isDigit c with
    | true =>
      rw [if_pos hc] at hr
      rcases List.mem_cons.1 hr with rfl | hr
      · refine ⟨?_, ?_⟩
        · rw [toNat_digit]
          exact digitValue_le hc
        · by_cases hguard : parsed > (4294967295 - (c - chr '0').toUInt32) / 10
          · exact .inl hguard
          · have hfits := mt (guard_iff hc).2 hguard
            right
            show parsed.toNat * 10 + ((c - chr '0').toUInt32).toNat ≤ 4294967295
            rw [toNat_digit]
            omega
      · split at hr
        · exact absurd hr List.not_mem_nil
        · exact ih _ r hr
    | false =>
      rw [if_neg (by rw [hc]; exact Bool.false_ne_true)] at hr
      exact absurd hr List.not_mem_nil

end Digits

/-- **`parseUnsigned` is exact**: it is `true` exactly for the numbers below `2 ^ 32`, stores what they
denote and otherwise leaves `value` alone. In no round a difference or a product leaves its range. -/
theorem parseUnsigned_exact (text : Text) (value : UInt32) :
    ((parseUnsignedInto text value).1 = true ↔ ∃ n ≤ 4294967295, IsNumber text n) ∧
      (∀ n ≤ 4294967295, IsNumber text n → (parseUnsignedInto text value).2.toNat = n) ∧
      ((parseUnsignedInto text value).1 = false → (parseUnsignedInto text value).2 = value) ∧
      ∀ r ∈ digitRounds 0 text, r.2.toNat ≤ 9 ∧
        (r.1 > (4294967295 - r.2) / 10 ∨ r.1.toNat * 10 + r.2.toNat ≤ 4294967295) := by
  have hread : ∀ n ≤ 4294967295, IsNumber text n →
      parseUnsigned text = some (UInt32.ofNat n) ∧ (UInt32.ofNat n).toNat = n := by
    intro n hn hnumber
    have hvalue : (UInt32.ofNat n).toNat = n := UInt32.toNat_ofNat_of_lt (Nat.lt_succ_of_le hn)
    exact ⟨parseUnsigned_eq_some_iff.2 (hvalue.symm ▸ hnumber), hvalue⟩
  refine ⟨⟨?_, ?_⟩, ?_, ?_, digitRounds_fit 0 text⟩
  · intro h
    rcases hparse : parseUnsigned text with - | v
    · rw [parseUnsignedInto, hparse] at h
      exact absurd h Bool.false_ne_true
    · exact ⟨v.toNat, Nat.le_of_lt_succ v.toNat_lt, parseUnsigned_eq_some_iff.1 hparse⟩
  · rintro ⟨n, hn, hnumber⟩
    rw [parseUnsignedInto, (hread n hn hnumber).1]
  · intro n hn hnumber
    rw [parseUnsignedInto, (hread n hn hnumber).1]
    exact (hread n hn hnumber).2
  · intro h
    rcases hparse : parseUnsigned text with - | v
    · rw [parseUnsignedInto, hparse]
    · rw [parseUnsignedInto, hparse] at h
      exact absurd h.symm Bool.false_ne_true

/-- The largest number is read, and the next one is not. -/
example : parseUnsigned (ascii "0004294967295 # all") = some 4294967295 ∧
    parseUnsigned (ascii "4294967296") = none := by
  decide +kernel

end Minis

end ReverseTunnel
