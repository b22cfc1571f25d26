import ReverseTunnel.Arduino.Text

/-!
# Fingerprints of host keys

How a SHA-256 host key fingerprint is printed, in hexadecimal and in unpadded base64, and how the
configured one is brought to the form it is compared in. The configured text is free: whether it is
read as hexadecimal or as base64 depends on that text alone, never on the key of the server.
-/

namespace ReverseTunnel

/-! ### Hexadecimal -/

/-- `kHexDigits` -/
def hexDigits : Text := ascii "0123456789abcdef"

/-- `kHexDigits[n]` -/
def hexDigit (n : ℕ) : UInt8 := hexDigits.getD n 0

/-- `encodeFingerprintHex` -/
def encodeFingerprintHex : List UInt8 → Text
  | [] => []
  | value :: rest =>
    hexDigit ((value.toNat >>> 4) &&& 0x0F) :: hexDigit (value.toNat &&& 0x0F) ::
      encodeFingerprintHex rest

/-- What hexadecimal digits stand for, two of them for a byte. -/
def fromHex : Text → List UInt8
  | a :: b :: rest => UInt8.ofNat (hexDigits.idxOf a * 16 + hexDigits.idxOf b) :: fromHex rest
  | _ => []

theorem hexDigit_mem (n : ℕ) : hexDigit (n &&& 0x0F) ∈ hexDigits := by
  have hlt : n &&& 0x0F < 16 := Nat.lt_of_le_of_lt Nat.and_le_right (by omega)
  exact (show ∀ k < 16, hexDigit k ∈ hexDigits by decide) _ hlt

theorem idxOf_hexDigit {n : ℕ} (h : n < 16) : hexDigits.idxOf (hexDigit n) = n :=
  (show ∀ k < 16, hexDigits.idxOf (hexDigit k) = k by decide) n h

theorem mem_encodeFingerprintHex {data : List UInt8} {b : UInt8}
    (h : b ∈ encodeFingerprintHex data) : b ∈ hexDigits := by
  induction data with
  | nil => exact absurd h (List.not_mem_nil)
  | cons value rest ih =>
    rcases List.mem_cons.1 h with rfl | h
    · exact hexDigit_mem _
    · rcases List.mem_cons.1 h with rfl | h
      · exact hexDigit_mem _
      · exact ih h

@[simp] theorem length_encodeFingerprintHex (data : List UInt8) :
    (encodeFingerprintHex data).length = 2 * data.length := by
  induction data with
  | nil => rfl
  | cons value rest ih =>
    rw [encodeFingerprintHex, List.length_cons, List.length_cons, List.length_cons, ih]
    omega

/-- **The printed digits stand for the bytes they were printed from.** -/
@[simp] theorem fromHex_encode (data : List UInt8) : fromHex (encodeFingerprintHex data) = data := by
  induction data with
  | nil => rfl
  | cons value rest ih =>
    have hvalue := value.toNat_lt
    have hhigh : (value.toNat >>> 4) &&& 0x0F = value.toNat / 16 := by
      rw [Nat.shiftRight_eq_div_pow, show 0x0F = 2 ^ 4 - 1 from rfl, Nat.and_two_pow_sub_one_eq_mod]
      omega
    have hlow : value.toNat &&& 0x0F = value.toNat % 16 := Nat.and_two_pow_sub_one_eq_mod _ 4
    rw [encodeFingerprintHex, fromHex, ih, hhigh, hlow, idxOf_hexDigit (by omega),
      idxOf_hexDigit (by omega), show value.toNat / 16 * 16 + value.toNat % 16 = value.toNat by omega,
      UInt8.ofNat_toNat]

/-- `isValidHexFingerprint` -/
def isValidHexFingerprint (value : Text) : Bool := value.length == 64 && value.all isXDigit

/-! ### Base64 -/

/-- `kBase64Table` -/
def base64Table : Text :=
  ascii "ABCDEFGHIJKLMNOPQRSTUVWXYZabcdefghijklmnopqrstuvwxyz0123456789+/"

/-- `kBase64Table[n & 0x3F]` -/
def base64Digit (n : ℕ) : UInt8 := base64Table.getD (n &&& 0x3F) 0

/-- `(octet_a << 16) | (octet_b << 8) | octet_c` -/
def tripleOf (octetA octetB octetC : ℕ) : ℕ := octetA <<< 16 ||| octetB <<< 8 ||| octetC

/-- The loop of `encodeFingerprintBase64`, one round for three octets or what is left of them. -/
def base64Groups : List UInt8 → Text
  | [] => []
  | [a] =>
    let triple := tripleOf a.toNat 0 0
    [base64Digit (triple >>> 18), base64Digit (triple >>> 12), chr '=', chr '=']
  | [a, b] =>
    let triple := tripleOf a.toNat b.toNat 0
    [base64Digit (triple >>> 18), base64Digit (triple >>> 12), base64Digit (triple >>> 6), chr '=']
  | a :: b :: c :: rest =>
    let triple := tripleOf a.toNat b.toNat c.toNat
    base64Digit (triple >>> 18) :: base64Digit (triple >>> 12) :: base64Digit (triple >>> 6) ::
      base64Digit triple :: base64Groups rest

/-- `encodeFingerprintBase64` -/
def encodeFingerprintBase64 (data : List UInt8) : Text :=
  (base64Groups data).rdropWhile (· == chr '=')

/-- Base64 without padding. -/
def base64Body : List UInt8 → Text
  | [] => []
  | [a] =>
    let triple := tripleOf a.toNat 0 0
    [base64Digit (triple >>> 18), base64Digit (triple >>> 12)]
  | [a, b] =>
    let triple := tripleOf a.toNat b.toNat 0
    [base64Digit (triple >>> 18), base64Digit (triple >>> 12), base64Digit (triple >>> 6)]
  | a :: b :: c :: rest =>
    let triple := tripleOf a.toNat b.toNat c.toNat
    base64Digit (triple >>> 18) :: base64Digit (triple >>> 12) :: base64Digit (triple >>> 6) ::
      base64Digit triple :: base64Body rest

/-- What a base64 digit stands for. -/
def sextet (b : UInt8) : ℕ := base64Table.idxOf b

/-- What unpadded base64 stands for: four digits for three bytes, and what is left over. -/
def fromBase64 : Text → List UInt8
  | a :: b :: c :: d :: rest =>
    let n := ((sextet a * 64 + sextet b) * 64 + sextet c) * 64 + sextet d
    UInt8.ofNat (n / 65536) :: UInt8.ofNat (n / 256 % 256) :: UInt8.ofNat (n % 256) ::
      fromBase64 rest
  | [a, b, c] =>
    let n := (sextet a * 64 + sextet b) * 64 + sextet c
    [UInt8.ofNat (n / 1024), UInt8.ofNat (n / 4 % 256)]
  | [a, b] => [UInt8.ofNat ((sextet a * 64 + sextet b) / 16)]
  | _ => []

theorem tripleOf_eq {a b c : ℕ} (hb : b < 256) (hc : c < 256) :
    tripleOf a b c = a * 65536 + b * 256 + c := by
  have hlow : b <<< 8 + c = b <<< 8 ||| c := Nat.shiftLeft_add_eq_or_of_lt hc b
  have hhigh : a <<< 16 + (b <<< 8 + c) = a <<< 16 ||| (b <<< 8 + c) :=
    Nat.shiftLeft_add_eq_or_of_lt (by rw [Nat.shiftLeft_eq]; omega) a
  rw [tripleOf, Nat.or_assoc, ← hlow, ← hhigh, Nat.shiftLeft_eq, Nat.shiftLeft_eq]
  omega

theorem base64Digit_eq (n : ℕ) : base64Digit n = base64Table.getD (n % 64) 0 :=
  congrArg (base64Table.getD · 0) (Nat.and_two_pow_sub_one_eq_mod n 6)

theorem base64Digit_mem (n : ℕ) : base64Digit n ∈ base64Table := by
  rw [base64Digit_eq]
  exact (show ∀ k < 64, base64Table.getD k 0 ∈ base64Table by decide) _ (Nat.mod_lt n (by omega))

theorem sextet_base64Digit (n : ℕ) : sextet (base64Digit n) = n % 64 := by
  rw [base64Digit_eq]
  exact (show ∀ k < 64, sextet (base64Table.getD k 0) = k by decide) _ (Nat.mod_lt n (by omega))

theorem mem_base64Body (data : List UInt8) : ∀ b ∈ base64Body data, b ∈ base64Table := by
  fun_induction base64Body data with
  | case1 => simp
  | case2 a => simp [base64Digit_mem]
  | case3 a b => simp [base64Digit_mem]
  | case4 a b c rest triple ih => simpa [base64Digit_mem] using ih

@[simp] theorem length_base64Body (data : List UInt8) :
    (base64Body data).length = (4 * data.length + 2) / 3 := by
  fun_induction base64Body data with
  | case1 => rfl
  | case2 a => simp
  | case3 a b => simp
  | case4 a b c rest triple ih =>
    simp only [List.length_cons, ih]
    omega

/-- **The digits stand for the bytes they were made from.** -/
@[simp] theorem fromBase64_body (data : List UInt8) : fromBase64 (base64Body data) = data := by
  fun_induction base64Body data with
  | case1 => rfl
  | case2 a triple =>
    have ha := a.toNat_lt
    have htriple : triple = a.toNat * 65536 :=
      (tripleOf_eq (by omega) (by omega)).trans (by omega)
    clear_value triple
    simp only [fromBase64, sextet_base64Digit, Nat.shiftRight_eq_div_pow]
    rw [show (triple / 2 ^ 18 % 64 * 64 + triple / 2 ^ 12 % 64) / 16 = a.toNat by omega,
      UInt8.ofNat_toNat]
  | case3 a b triple =>
    have ha := a.toNat_lt
    have hb := b.toNat_lt
    have htriple : triple = a.toNat * 65536 + b.toNat * 256 :=
      (tripleOf_eq hb (by omega)).trans (by omega)
    clear_value triple
    simp only [fromBase64, sextet_base64Digit, Nat.shiftRight_eq_div_pow]
    have hn : (triple / 2 ^ 18 % 64 * 64 + triple / 2 ^ 12 % 64) * 64 + triple / 2 ^ 6 % 64
        = a.toNat * 1024 + b.toNat * 4 := by omega
    rw [hn, show (a.toNat * 1024 + b.toNat * 4) / 1024 = a.toNat by omega,
      show (a.toNat * 1024 + b.toNat * 4) / 4 % 256 = b.toNat by omega, UInt8.ofNat_toNat,
      UInt8.ofNat_toNat]
  | case4 a b c rest triple ih =>
    have ha := a.toNat_lt
    have hb := b.toNat_lt
    have hc := c.toNat_lt
    have htriple : triple = a.toNat * 65536 + b.toNat * 256 + c.toNat := tripleOf_eq hb hc
    clear_value triple
    simp only [fromBase64, sextet_base64Digit, Nat.shiftRight_eq_div_pow, ih]
    have hn : ((triple / 2 ^ 18 % 64 * 64 + triple / 2 ^ 12 % 64) * 64 + triple / 2 ^ 6 % 64) * 64
        + triple % 64 = triple := by omega
    rw [hn, show triple / 65536 = a.toNat by omega, show triple / 256 % 256 = b.toNat by omega,
      show triple % 256 = c.toNat by omega]
    simp only [UInt8.ofNat_toNat]

theorem base64Table_ne_pad : ∀ b ∈ base64Table, b ≠ chr '=' := by decide +kernel

/-- The loop prints the digits and then pads. -/
theorem base64Groups_eq (data : List UInt8) :
    ∃ n, base64Groups data = base64Body data ++ List.replicate n (chr '=') := by
  fun_induction base64Groups data with
  | case1 => exact ⟨0, rfl⟩
  | case2 a triple => exact ⟨2, rfl⟩
  | case3 a b triple => exact ⟨1, rfl⟩
  | case4 a b c rest triple ih =>
    obtain ⟨n, hn⟩ := ih
    exact ⟨n, by rw [hn]; rfl⟩

/-- **What is printed is base64 without padding.** -/
theorem encodeFingerprintBase64_eq (data : List UInt8) :
    encodeFingerprintBase64 data = base64Body data := by
  have hstrip : ∀ n, (base64Body data ++ List.replicate n (chr '=')).rdropWhile (· == chr '=')
      = base64Body data := by
    intro n
    induction n with
    | zero =>
      rw [List.replicate_zero, List.append_nil]
      refine List.rdropWhile_eq_self_iff.2 fun hne ↦ ?_
      have hlast := base64Table_ne_pad _ (mem_base64Body data _ (List.getLast_mem hne))
      simpa using hlast
    | succ n ih =>
      rw [List.replicate_succ', ← List.append_assoc, List.rdropWhile_concat_pos _ _ _ (by simp), ih]
  obtain ⟨n, hn⟩ := base64Groups_eq data
  rw [encodeFingerprintBase64, hn, hstrip]

/-! ### The comparison -/

/-- `keyTypeStr`, by the `LIBSSH2_HOSTKEY_TYPE_*` number. -/
def keyTypeStr (hostKeyType : Int) : Text :=
  match hostKeyType with
  | 1 => ascii "ssh-rsa"
  | 2 => ascii "ssh-dss"
  | 3 => ascii "ecdsa-sha2-nistp256"
  | 4 => ascii "ecdsa-sha2-nistp384"
  | 5 => ascii "ecdsa-sha2-nistp521"
  | 6 => ascii "ssh-ed25519"
  | _ => ascii "unknown"

/-- `expectedRaw`, after its clean-up -/
def expectedRaw (fingerprint : Text) : Text :=
  (fingerprint.trim.without '\r').without '\n'

/-- The last clean-up of a fingerprint that is compared in base64. -/
def comparableBase64 (t : Text) : Text :=
  let t := t.trim
  let t : Text :=
    if t.startsWith (ascii "SHA256:") then t.drop 7
    else if t.startsWith (ascii "sha256:") then t.drop 7
    else t
  (((t.without ' ').without '\r').without '\n').without '='

/-- The last clean-up of a fingerprint that is compared in hexadecimal. -/
def comparableHex (t : Text) : Text := (t.toLowerCase.without ' ').without ':'

/-- `expectedIsBase64` and `expectedComparable` -/
def expectedComparable (fingerprint : Text) : Bool × Text :=
  let raw := expectedRaw fingerprint
  if raw.toLowerCase.startsWith (ascii "sha256:") then
    (true, comparableBase64 (raw.substring (raw.indexOf ':' + 1)))
  else
    let candidateLower := ((raw.without ' ').without ':').toLowerCase
    if isValidHexFingerprint candidateLower then (false, comparableHex candidateLower)
    else (true, comparableBase64 raw)

/-- `fingerprintsMatch` -/
def fingerprintsMatch (fingerprint : Text) (hash : List UInt8) : Bool :=
  let expected := expectedComparable fingerprint
  if expected.1 then expected.2 == encodeFingerprintBase64 hash
  else expected.2 == encodeFingerprintHex hash

end ReverseTunnel
