import Mathlib.Algebra.Group.Nat.Defs
import Mathlib.Data.Nat.Log
import StreamedInference.Wire.Message

/-!
# Reading back variable-length numbers

A number is read back from its bytes, whatever follows them, and takes as many bytes as is reckoned
from its highest bit that is set. Both go by induction on the bytes that may still follow: a writer
that has room for `more` further bytes, the last of which gives one bit, can hold a number below
`2 ^ (7 * more + 1)`.

## Main results

* `Varint.decode_encode`: a number is read back.
* `Varint.length_encode`: how many bytes it takes.
-/

namespace StreamedInference.Varint

/-- Without the lowest seven bits, there is room in one byte fewer. -/
theorem div_128_lt {n more : Nat} (h : n < 2 ^ (7 * (more + 1) + 1)) :
    n / 128 < 2 ^ (7 * more + 1) := by
  apply Nat.div_lt_of_lt_mul
  calc
    n < 2 ^ (7 + (7 * more + 1)) := by rwa [show 7 + (7 * more + 1) = 7 * (more + 1) + 1 by omega]
    _ = 128 * 2 ^ (7 * more + 1) := Nat.pow_add 2 7 _

/-- What has been written is read back, whatever follows it. -/
theorem read_write {more n : Nat} (h : n < 2 ^ (7 * more + 1)) (rest : List UInt8) :
    read more (write more n ++ rest) = some (n, rest) := by
  induction more generalizing n with
  | zero =>
    have hlast : UInt8.ofNat n < 2 := by simp [UInt8.lt_iff_toNat_lt]; omega
    simp [write, read, hlast]
    omega
  | succ more ih =>
    rw [write]
    split_ifs with hn
    · have hlast : UInt8.ofNat n < 128 := by simp [UInt8.lt_iff_toNat_lt]; omega
      simp [read, hlast]
      omega
    · have hmore : ¬ UInt8.ofNat (n % 128 + 128) < 128 := by simp [UInt8.lt_iff_toNat_lt]; omega
      simp only [List.cons_append, read, hmore, if_false, ih (div_128_lt h), Option.map_some]
      simp
      omega

/-- A number is read back from its bytes, whatever follows them. -/
@[simp] theorem decode_encode (n : UInt64) (rest : List UInt8) :
    decode (encode n ++ rest) = some (n, rest) := by
  have h : read 9 (write 9 n.toNat ++ rest) = some (n.toNat, rest) := read_write n.toNat_lt rest
  simp [decode, encode, h]

/-- One byte fewer is seven bits fewer. -/
theorem log2_div_128 (n : Nat) : (n / 128).log2 = n.log2 - 7 := by
  rw [Nat.log2_eq_log_two, Nat.log2_eq_log_two]
  exact Nat.log_div_base_pow 2 n 7

theorem log2_lt_of_lt {n k : Nat} (hk : k ≠ 0) (h : n < 2 ^ k) : n.log2 < k := by
  by_cases hn : n = 0
  · subst hn
    exact Nat.pos_of_ne_zero hk
  · exact (Nat.log2_lt hn).mpr h

/-- What is written has as many bytes as is reckoned from the highest bit. -/
theorem length_write {more n : Nat} (h : n < 2 ^ (7 * more + 1)) (hmore : more ≤ 9) :
    (write more n).length = (n.log2 * 9 + 73) / 64 := by
  induction more generalizing n with
  | zero =>
    obtain rfl | rfl : n = 0 ∨ n = 1 := by omega
    all_goals rfl
  | succ more ih =>
    have hbits : n.log2 < 64 :=
      log2_lt_of_lt (by omega) (Nat.lt_of_lt_of_le h (Nat.pow_le_pow_right (by omega) (by omega)))
    rw [write]
    split_ifs with hn
    · have hlow : n.log2 < 7 := log2_lt_of_lt (by omega) hn
      rw [List.length_singleton]
      omega
    · rw [List.length_cons, ih (div_128_lt h) (by omega), log2_div_128]
      have hhigh : 7 ≤ n.log2 := (Nat.le_log2 (by omega)).mpr (by omega)
      omega

/-- The lowest bit of a number does not count for its highest. -/
theorem log2_lor_one (n : Nat) : (n ||| 1).log2 = n.log2 := by
  by_cases hn : 2 ≤ n
  · have hle : 2 ≤ n ||| 1 := Nat.le_trans hn Nat.left_le_or
    rw [Nat.log2_def, if_pos hle, Nat.or_div_two, Nat.log2_def n, if_pos hn]
    simp
  · obtain rfl | rfl : n = 0 ∨ n = 1 := by omega
    all_goals rfl

theorem byteCount_eq (n : UInt64) : byteCount n = (n.toNat.log2 * 9 + 73) / 64 := by
  rw [byteCount, UInt64.toNat_or, UInt64.toNat_one, log2_lor_one]

/-- A number of seven bits takes one byte. -/
theorem byteCount_of_lt {n : UInt64} (h : n.toNat < 128) : byteCount n = 1 := by
  have hlow : n.toNat.log2 < 7 := log2_lt_of_lt (by omega) h
  rw [byteCount_eq]
  omega

/-- A number takes as many bytes as is reckoned. -/
@[simp] theorem length_encode (n : UInt64) : (encode n).length = byteCount n := by
  rw [encode, byteCount_eq]
  exact length_write n.toNat_lt (Nat.le_refl 9)

end StreamedInference.Varint
