/-!
# Variable-length numbers

A number below `2 ^ 64` as a row of bytes of seven bits each, the least significant first. All
bytes but the last have their top bit set. A row may be longer than it has to be, up to ten bytes
in all, the last of which has one bit to give.

## Main definitions

* `Varint.encode`, `Varint.decode`: a number to bytes and back.
-/

namespace StreamedInference.Varint

/-- The bytes of a number, where `more` bounds how many follow the first. -/
def write : (more : Nat) → Nat → List UInt8
  | 0, n => [UInt8.ofNat n]
  | more + 1, n =>
    if n < 128 then [UInt8.ofNat n]
    else UInt8.ofNat (n % 128 + 128) :: write more (n / 128)

/-- The bytes of a number below `2 ^ 64`. -/
def encode (n : UInt64) : List UInt8 :=
  write 9 n.toNat

/-- Reads at most `room + 1` bytes, of which the last may only have the value `0` or `1` if the
room is used up. -/
def read : (room : Nat) → List UInt8 → Option (Nat × List UInt8)
  | _, [] => none
  | 0, b :: bs => if b < 2 then some (b.toNat, bs) else none
  | room + 1, b :: bs =>
    if b < 128 then some (b.toNat, bs)
    else (read room bs).map fun (n, rest) => (b.toNat - 128 + n * 128, rest)

/-- The number at the front of a row of bytes, and the bytes after it. -/
def decode (bs : List UInt8) : Option (UInt64 × List UInt8) :=
  (read 9 bs).map fun (n, rest) => (UInt64.ofNat n, rest)

/-- Reading takes at least one byte. -/
theorem length_lt_of_read {room n : Nat} {bs rest : List UInt8}
    (h : read room bs = some (n, rest)) : rest.length < bs.length := by
  induction room generalizing bs n rest with
  | zero =>
    cases bs with
    | nil => simp [read] at h
    | cons b bs =>
      simp only [read] at h
      split at h
      · simp only [Option.some.injEq, Prod.mk.injEq] at h
        simp [← h.2]
      · simp at h
  | succ room ih =>
    cases bs with
    | nil => simp [read] at h
    | cons b bs =>
      simp only [read] at h
      split at h
      · simp only [Option.some.injEq, Prod.mk.injEq] at h
        simp [← h.2]
      · simp only [Option.map_eq_some_iff, Prod.mk.injEq] at h
        obtain ⟨⟨m, r⟩, hr, -, hrest⟩ := h
        have := ih hr
        simp only [List.length_cons, ← hrest]
        omega

theorem length_lt_of_decode {n : UInt64} {bs rest : List UInt8}
    (h : decode bs = some (n, rest)) : rest.length < bs.length := by
  simp only [decode, Option.map_eq_some_iff, Prod.mk.injEq] at h
  obtain ⟨⟨m, r⟩, hr, -, rfl⟩ := h
  exact length_lt_of_read hr

end StreamedInference.Varint
