import ReverseTunnel.Lib.Base64
import ReverseTunnel.Session.HostKey

/-!
# Fingerprints lose nothing

The two encoders against their formats. Hexadecimal is two digits for a byte. Base64 is a matter of
**bits** by its definition, while the encoder takes three bytes at once, with what is missing at the end
read as zeros, pads, and removes the padding again. The digits it prints are those of the format, for
every length, and what the last loop removes is the padding and nothing else.
-/

namespace ReverseTunnel

/-! ### Digits and bits -/

theorem base64Digit_alphabet (n : ℕ) : base64Digit n = Base64.alphabet (n % 64) := by
  rw [base64Digit_eq]
  exact (show ∀ k < 64, base64Table.getD k 0 = Base64.alphabet k by decide +kernel) _
    (Nat.mod_lt n (by decide))

/-- The digits of the encoder are those of the format. -/
theorem base64Body_eq_encode (data : List UInt8) : base64Body data = Base64.encode data := by
  fun_induction base64Body data with
  | case1 => rfl
  | case2 a triple =>
    have ha := a.toNat_lt
    have htriple : triple = a.toNat * 65536 :=
      (tripleOf_eq (by decide) (by decide)).trans (by omega)
    have h₁ : (triple >>> 18) % 64 = a.toNat / 4 := by rw [Nat.shiftRight_eq_div_pow]; omega
    have h₂ : (triple >>> 12) % 64 = a.toNat % 4 * 16 := by rw [Nat.shiftRight_eq_div_pow]; omega
    rw [base64Digit_alphabet, base64Digit_alphabet, h₁, h₂]
    show _ = (Base64.groups (Base64.byteBits a)).map Base64.alphabet
    rw [Base64.groups_one]
    rfl
  | case3 a b triple =>
    have ha := a.toNat_lt
    have hb := b.toNat_lt
    have htriple : triple = a.toNat * 65536 + b.toNat * 256 :=
      (tripleOf_eq hb (by decide)).trans (by omega)
    have h₁ : (triple >>> 18) % 64 = a.toNat / 4 := by rw [Nat.shiftRight_eq_div_pow]; omega
    have h₂ : (triple >>> 12) % 64 = a.toNat % 4 * 16 + b.toNat / 16 := by
      rw [Nat.shiftRight_eq_div_pow]
      omega
    have h₃ : (triple >>> 6) % 64 = b.toNat % 16 * 4 := by rw [Nat.shiftRight_eq_div_pow]; omega
    rw [base64Digit_alphabet, base64Digit_alphabet, base64Digit_alphabet, h₁, h₂, h₃]
    show _ = (Base64.groups (Base64.byteBits a ++ Base64.byteBits b)).map Base64.alphabet
    rw [Base64.groups_two]
    rfl
  | case4 a b c rest triple ih =>
    have ha := a.toNat_lt
    have hb := b.toNat_lt
    have hc := c.toNat_lt
    have htriple : triple = a.toNat * 65536 + b.toNat * 256 + c.toNat := tripleOf_eq hb hc
    have h₁ : (triple >>> 18) % 64 = a.toNat / 4 := by rw [Nat.shiftRight_eq_div_pow]; omega
    have h₂ : (triple >>> 12) % 64 = a.toNat % 4 * 16 + b.toNat / 16 := by
      rw [Nat.shiftRight_eq_div_pow]
      omega
    have h₃ : (triple >>> 6) % 64 = b.toNat % 16 * 4 + c.toNat / 64 := by
      rw [Nat.shiftRight_eq_div_pow]
      omega
    have h₄ : triple % 64 = c.toNat % 64 := by omega
    rw [base64Digit_alphabet, base64Digit_alphabet, base64Digit_alphabet, base64Digit_alphabet, h₁, h₂,
      h₃, h₄, ih, Base64.encode, Base64.encode, List.flatMap_cons, List.flatMap_cons,
      List.flatMap_cons, Base64.groups_three]
    rfl

/-! ### Padding -/

/-- The loop pads to whole groups of four digits. -/
theorem base64Groups_padding (data : List UInt8) :
    base64Groups data =
      base64Body data ++ List.replicate ((3 - data.length % 3) % 3) (chr '=') := by
  fun_induction base64Groups data with
  | case1 => rfl
  | case2 a triple => rfl
  | case3 a b triple => rfl
  | case4 a b c rest triple ih =>
    have hlen : (a :: b :: c :: rest).length % 3 = rest.length % 3 := by
      rw [List.length_cons, List.length_cons, List.length_cons]
      omega
    rw [ih, hlen]
    rfl

theorem pad_notMem_base64Body (data : List UInt8) : chr '=' ∉ base64Body data :=
  fun hmem ↦ base64Table_ne_pad _ (mem_base64Body data _ hmem) rfl

/-- **The encoders of fingerprints lose nothing**, for byte strings of any length: base64 is that of the
format, without padding, and both texts can be read back. -/
theorem fingerprint_encoders (data : List UInt8) :
    encodeFingerprintBase64 data = Base64.encode data ∧
      (encodeFingerprintBase64 data).length = (4 * data.length + 2) / 3 ∧
      fromBase64 (encodeFingerprintBase64 data) = data ∧
      (chr '=' ∉ encodeFingerprintBase64 data ∧ base64Groups data =
        encodeFingerprintBase64 data ++ List.replicate ((3 - data.length % 3) % 3) (chr '=')) ∧
      (∀ data', encodeFingerprintBase64 data' = encodeFingerprintBase64 data → data' = data) ∧
      (encodeFingerprintHex data).length = 2 * data.length ∧
      (∀ b ∈ encodeFingerprintHex data, b ∈ ascii "0123456789abcdef") ∧
      fromHex (encodeFingerprintHex data) = data ∧
      ∀ data', encodeFingerprintHex data' = encodeFingerprintHex data → data' = data := by
  rw [encodeFingerprintBase64_eq]
  refine ⟨base64Body_eq_encode data, length_base64Body data, fromBase64_body data,
    ⟨pad_notMem_base64Body data, base64Groups_padding data⟩, ?_, length_encodeFingerprintHex data,
    fun b hb ↦ mem_encodeFingerprintHex hb, fromHex_encode data, ?_⟩
  · intro data' heq
    rw [encodeFingerprintBase64_eq] at heq
    rw [← fromBase64_body data', heq, fromBase64_body]
  · intro data' heq
    rw [← fromHex_encode data', heq, fromHex_encode]

end ReverseTunnel
