import Mathlib.Data.List.Basic

/-!
# Strings with their lengths before them

The `string` of the SSH wire format: four bytes, the **most significant one first**, say how many bytes
follow. Since its length comes first, a string may consist of any bytes, and several of them can be
written one behind the other. A reader takes exactly as many as it is told and returns what is behind
them.
-/

namespace Wire

/-- A number of 32 bits. -/
def uint32 (n : ℕ) : List UInt8 :=
  [UInt8.ofNat (n / 16777216), UInt8.ofNat (n / 65536), UInt8.ofNat (n / 256), UInt8.ofNat n]

/-- Such a number, and what is behind it. -/
def readUint32 : List UInt8 → Option (ℕ × List UInt8)
  | a :: b :: c :: d :: rest =>
    some (((a.toNat * 256 + b.toNat) * 256 + c.toNat) * 256 + d.toNat, rest)
  | _ => none

/-- Bytes, with their number before them. -/
def string (data : List UInt8) : List UInt8 := uint32 data.length ++ data

/-- Such bytes, and what is behind them. -/
def readString (t : List UInt8) : Option (List UInt8 × List UInt8) :=
  (readUint32 t).bind fun r ↦
    if r.1 ≤ r.2.length then some (r.2.take r.1, r.2.drop r.1) else none

/-- Several of them. -/
def strings (l : List (List UInt8)) : List UInt8 := l.flatMap string

/-- As many of them, and what is behind them. -/
def readStrings : ℕ → List UInt8 → Option (List (List UInt8) × List UInt8)
  | 0, t => some ([], t)
  | n + 1, t =>
    (readString t).bind fun r ↦ (readStrings n r.2).map fun s ↦ (r.1 :: s.1, s.2)

@[simp] theorem length_uint32 (n : ℕ) : (uint32 n).length = 4 := rfl

theorem length_string (data : List UInt8) : (string data).length = data.length + 4 := by
  rw [string, List.length_append, length_uint32, Nat.add_comm]

theorem length_strings (l : List (List UInt8)) :
    (strings l).length = l.flatten.length + 4 * l.length := by
  induction l with
  | nil => rfl
  | cons d l ih =>
    rw [strings, List.flatMap_cons, List.length_append, length_string, List.flatten_cons,
      List.length_append, List.length_cons]
    rw [strings] at ih
    omega

/-! ### Reading what was written -/

theorem readUint32_uint32 {n : ℕ} (h : n < 4294967296) (rest : List UInt8) :
    readUint32 (uint32 n ++ rest) = some (n, rest) := by
  show some ((((UInt8.ofNat (n / 16777216)).toNat * 256 + (UInt8.ofNat (n / 65536)).toNat) * 256 +
    (UInt8.ofNat (n / 256)).toNat) * 256 + (UInt8.ofNat n).toNat, rest) = some (n, rest)
  rw [UInt8.toNat_ofNat', UInt8.toNat_ofNat', UInt8.toNat_ofNat', UInt8.toNat_ofNat']
  congr 2
  omega

theorem readString_string {data : List UInt8} (h : data.length < 4294967296) (rest : List UInt8) :
    readString (string data ++ rest) = some (data, rest) := by
  rw [readString, string, List.append_assoc, readUint32_uint32 h, Option.bind_some,
    if_pos (by rw [List.length_append]; exact Nat.le_add_right _ _), List.take_left,
    List.drop_left]

/-- **Strings are read as they were written**, whatever bytes they consist of. -/
theorem readStrings_strings {l : List (List UInt8)} (h : ∀ data ∈ l, data.length < 4294967296)
    (rest : List UInt8) : readStrings l.length (strings l ++ rest) = some (l, rest) := by
  induction l with
  | nil => rfl
  | cons data l ih =>
    rw [strings, List.flatMap_cons, List.append_assoc, List.length_cons, readStrings,
      readString_string (h data (List.mem_cons_self ..)), Option.bind_some]
    rw [strings] at ih
    rw [ih fun d hd ↦ h d (List.mem_cons_of_mem _ hd)]
    rfl

end Wire
