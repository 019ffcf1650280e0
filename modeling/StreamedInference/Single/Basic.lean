/-!
# Single-precision numbers

A `Single` is the 32 bits of an IEEE 754 binary32 number. The service compares such numbers,
passes them on, reads them from text and prints them; it never computes with them.

## Main definitions

* `Single`: a number.
* `Single.rank`, `Single.le`, `Single.lt`: the order of numbers.
* `Single.parts`: a finite number as a multiple of a power of two.
-/

namespace StreamedInference

/-- A binary32 number, given by its bits: a sign, eight exponent bits, 23 fraction bits. -/
structure Single where
  bits : UInt32
deriving DecidableEq, Repr, Inhabited

namespace Single

/-- The bits without the sign; they grow with the absolute value. -/
def magnitude (x : Single) : Nat :=
  x.bits.toNat % 2147483648

/-- The sign bit. -/
def isNegative (x : Single) : Bool :=
  2147483648 ≤ x.bits.toNat

/-- The magnitude of infinity, the least that is no finite number. -/
def infinityMagnitude : Nat := 0x7f800000

/-- A number with the given sign and magnitude. -/
def ofMagnitude (negative : Bool) (magnitude : Nat) : Single :=
  ⟨UInt32.ofNat (magnitude + if negative then 2147483648 else 0)⟩

/-- Not a number. -/
def isNaN (x : Single) : Bool :=
  infinityMagnitude < x.magnitude

/-- Neither infinite nor a NaN. -/
def isFinite (x : Single) : Bool :=
  x.magnitude < infinityMagnitude

/-- The place of a number in the order of all numbers; both zeros have the place 0. -/
def rank (x : Single) : Int :=
  if x.isNegative then -(x.magnitude : Int) else x.magnitude

/-- The order of numbers; a NaN stands in no relation to anything. -/
def le (x y : Single) : Bool :=
  !x.isNaN && !y.isNaN && x.rank ≤ y.rank

/-- The strict order of numbers. -/
def lt (x y : Single) : Bool :=
  !x.isNaN && !y.isNaN && x.rank < y.rank

/-- Either zero. -/
def isZero (x : Single) : Bool :=
  x.magnitude == 0

/-- `0`. -/
def zero : Single := ⟨0⟩

/-- `1`. -/
def one : Single := ⟨0x3f800000⟩

/-- The distance from `1` to the next larger number, `2⁻²³`. -/
def epsilon : Single := ⟨0x34000000⟩

/-- The quiet NaN without a sign. -/
def nan : Single := ⟨0x7fc00000⟩

/-- Infinity. -/
def infinity : Single := ⟨0x7f800000⟩

/-- The significand and the exponent of a finite number, whose absolute value is
`significand · 2 ^ exponent`. -/
def parts (x : Single) : Nat × Int :=
  let field := x.magnitude / 8388608
  let fraction := x.magnitude % 8388608
  if field == 0 then (fraction, -149) else (fraction + 8388608, (field : Int) - 150)

end Single

end StreamedInference
