import ReverseTunnel.Arduino.Text

/-!
# Percent-encoded values

`encode` writes a text so that it fits between the `=` and the end of a line of the configuration file,
and `decode` reads it back. A `%` without two hexadecimal digits behind it does not decode.
-/

namespace ReverseTunnel

/-- `isAlphaNumeric` -/
def isAlphaNumeric (c : UInt8) : Bool :=
  (chr '0' ≤ c && c ≤ chr '9') || (chr 'A' ≤ c && c ≤ chr 'Z') || (chr 'a' ≤ c && c ≤ chr 'z')

namespace Provisioning

/-- `isUnreserved` -/
def isUnreserved (c : UInt8) : Bool := isAlphaNumeric c || c == chr '-' || c == chr '_' || c == chr '.'

/-- `hexDigit` -/
def hexDigit (n : UInt8) : UInt8 := if n < 10 then chr '0' + n else chr 'A' + n - 10

/-- `hexValue` -/
def hexValue (c : UInt8) : Int :=
  if chr '0' ≤ c && c ≤ chr '9' then (c - chr '0').toNat
  else if chr 'a' ≤ c && c ≤ chr 'f' then (c - chr 'a' + 10).toNat
  else if chr 'A' ≤ c && c ≤ chr 'F' then (c - chr 'A' + 10).toNat
  else -1

/-- What `encode` appends for one character. -/
def encodeByte (c : UInt8) : Text :=
  if isUnreserved c then [c] else [chr '%', hexDigit (c >>> 4), hexDigit (c &&& 15)]

/-- `encode` -/
def encode (value : Text) : Text := value.flatMap encodeByte

/-- `decode` -/
def decode : Text → Option Text
  | [] => some []
  | c :: rest =>
    if c ≠ chr '%' then (decode rest).map (c :: ·)
    else match rest with
      | h :: l :: rest =>
        if hexValue h < 0 || hexValue l < 0 then none
        else (decode rest).map
          (UInt8.ofNat (((hexValue h).toNat <<< 4) ||| (hexValue l).toNat) :: ·)
      | _ => none

/-! ### Round trip -/

theorem decode_cons {c : UInt8} {rest : Text} (hc : c ≠ chr '%') :
    decode (c :: rest) = (decode rest).map (c :: ·) := by
  rw [decode.eq_def]
  exact if_pos hc

/-- An encoded character decodes to itself. -/
theorem decode_encodeByte (c : UInt8) (rest : Text) :
    decode (encodeByte c ++ rest) = (decode rest).map (c :: ·) := by
  by_cases hfree : isUnreserved c = true
  · have hne : c ≠ chr '%' := fun hc ↦ absurd hfree (by rw [hc]; decide)
    rw [encodeByte, if_pos hfree, List.singleton_append, decode_cons hne]
  · have hdigits : ∀ c : UInt8,
        (hexValue (hexDigit (c >>> 4)) < 0 || hexValue (hexDigit (c &&& 15)) < 0) = false ∧
        UInt8.ofNat (((hexValue (hexDigit (c >>> 4))).toNat <<< 4) |||
          (hexValue (hexDigit (c &&& 15))).toNat) = c := by decide +kernel
    obtain ⟨hvalid, hvalue⟩ := hdigits c
    rw [encodeByte, if_neg hfree]
    show decode (chr '%' :: hexDigit (c >>> 4) :: hexDigit (c &&& 15) :: rest) = _
    rw [decode, if_neg (not_not.2 rfl)]
    simp only [hvalid, hvalue, Bool.false_eq_true, if_false]

/-- **Encoded texts decode to themselves**, whatever bytes they consist of. -/
theorem decode_encode (value : Text) : decode (encode value) = some value := by
  induction value with
  | nil => rfl
  | cons c value ih =>
    show decode (encodeByte c ++ encode value) = _
    rw [decode_encodeByte, ih]
    rfl

/-- A character that `encode` writes needs no encoding, or is the `%` of one that does. -/
theorem mem_encode {value : Text} {c : UInt8} (hc : c ∈ encode value) :
    isUnreserved c = true ∨ c = chr '%' := by
  obtain ⟨d, -, hd⟩ := List.mem_flatMap.1 hc
  rw [encodeByte] at hd
  split at hd
  · next hfree =>
    rw [List.mem_singleton.1 hd]
    exact .inl hfree
  · have hdigits : ∀ d : UInt8, isUnreserved (hexDigit (d >>> 4)) = true ∧
        isUnreserved (hexDigit (d &&& 15)) = true := by decide +kernel
    rcases List.mem_cons.1 hd with rfl | hd
    · exact .inr rfl
    · rcases List.mem_cons.1 hd with rfl | hd
      · exact .inl (hdigits d).1
      · rw [List.mem_singleton.1 hd]
        exact .inl (hdigits d).2

/-- An encoded text fits into a line, behind the `=`. -/
theorem notMem_encode (value : Text) :
    chr '=' ∉ encode value ∧ chr '\r' ∉ encode value ∧ chr '\n' ∉ encode value := by
  have hfree : ∀ c : Char, isUnreserved (chr c) = false → chr c ≠ chr '%' →
      chr c ∉ encode value := by
    intro c hreserved hne hc
    rcases mem_encode hc with hfree | heq
    · rw [hreserved] at hfree
      cases hfree
    · exact hne heq
  exact ⟨hfree _ (by decide) (by decide), hfree _ (by decide) (by decide),
    hfree _ (by decide) (by decide)⟩

end Provisioning

end ReverseTunnel
