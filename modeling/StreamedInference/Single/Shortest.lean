import StreamedInference.Single.Basic

/-!
# Printing a number

The text of a number is the shortest row of decimal digits that reads back as the number, the
nearest such row if there are several, written without an exponent.

## Main definitions

* `Single.readsBack`: a row of digits is read as the number.
* `Single.shortest`: the shortest such row.
* `Single.toText`: the text of a number.
-/

namespace StreamedInference.Single

/-- Whether `k · 10 ^ p` reads back as the finite number with these parts: it lies in the
interval of values that round to it, whose ends belong to it if the significand is even. Below a
power of two the interval reaches half as far down. -/
def readsBack (significand : Nat) (exponent : Int) (k : Nat) (p : Int) : Bool :=
  let below := if significand == 8388608 && -149 < exponent then 1 else 2
  let twos := exponent - 2
  let bin := Nat.pow 2 twos.toNat * Nat.pow 10 (-p).toNat
  let dec := k * Nat.pow 10 p.toNat * Nat.pow 2 (-twos).toNat
  let least := (4 * significand - below) * bin
  let greatest := (4 * significand + 2) * bin
  if significand % 2 == 0 then least ≤ dec && dec ≤ greatest
  else least < dec && dec < greatest

/-- The neighbour of a finite number on the grid of multiples of `10 ^ p` that reads back as the
number; the nearer one if both do, the greater one if they are equally near. -/
def onGrid? (significand : Nat) (exponent : Int) (p : Int) : Option Nat :=
  let num := significand * Nat.pow 2 exponent.toNat * Nat.pow 10 (-p).toNat
  let den := Nat.pow 2 (-exponent).toNat * Nat.pow 10 p.toNat
  let k := num / den
  let lower := readsBack significand exponent k p && 0 < k
  let upper := readsBack significand exponent (k + 1) p
  if lower && (!upper || 2 * (num % den) < den) then some k
  else if upper then some (k + 1)
  else none

/-- The least power of ten on whose grid every positive number has a neighbour that reads back
is `10 ^ (-45)`. -/
def finestGrid : Int := -45

/-- The digits of a positive finite number on the coarsest grid that has a point for it, among
the `n + 1` grids down to the finest one, with the exponent of that grid. -/
def digitsOn (significand : Nat) (exponent : Int) : Nat → Nat × Int
  | 0 => ((onGrid? significand exponent finestGrid).getD 0, finestGrid)
  | n + 1 =>
    match onGrid? significand exponent (finestGrid + (n + 1 : Nat)) with
    | some k => (k, finestGrid + (n + 1 : Nat))
    | none => digitsOn significand exponent n

/-- The shortest digits of a positive finite number, and the power of ten they count. -/
def shortest (x : Single) : Nat × Int :=
  let (significand, exponent) := x.parts
  digitsOn significand exponent 85

/-- Digits counting a power of ten, written out without an exponent. -/
def positional (digits : Nat) (exponent : Int) : String :=
  let ds := Nat.toDigits 10 digits
  if 0 ≤ exponent then String.ofList (ds ++ List.replicate exponent.toNat '0')
  else
    let places := (-exponent).toNat
    if places < ds.length then
      String.ofList (ds.take (ds.length - places) ++ '.' :: ds.drop (ds.length - places))
    else String.ofList ('0' :: '.' :: (List.replicate (places - ds.length) '0' ++ ds))

/-- The text of a number. -/
def toText (x : Single) : String :=
  if x.isNaN then "NaN"
  else
    let sign := if x.isNegative then "-" else ""
    if !x.isFinite then sign ++ "inf"
    else if x.isZero then sign ++ "0"
    else
      let (digits, exponent) := x.shortest
      sign ++ positional digits exponent

end StreamedInference.Single
