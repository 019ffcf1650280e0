import StreamedInference.Single.Basic

/-!
# Reading a decimal number

Decimal text to the nearest binary32 number, a tie going to the even significand. The text is
an optional sign and either digits with an optional point and an optional exponent, or one of
the words `inf`, `infinity` and `nan` in letters of either case.

## Main definitions

* `Single.nearestMagnitude`: the nearest number to a ratio.
* `Single.ofText?`: the number of a text.
-/

namespace StreamedInference.Single

/-- A ratio rounded to the nearest natural number, a tie to the even one. -/
def roundRatio (num den : Nat) : Nat :=
  let q := num / den
  let r := num % den
  if den < 2 * r || (2 * r == den && q % 2 == 1) then q + 1 else q

/-- The magnitude of the number nearest to `num / den`. -/
def nearestMagnitude (num den : Nat) : Nat :=
  if num == 0 then 0
  else
    let spread : Int := (num.log2 : Int) - (den.log2 : Int)
    let scaled (e : Int) : Nat × Nat :=
      if 0 ≤ e then (num, den * Nat.pow 2 e.toNat) else (num * Nat.pow 2 (-e).toNat, den)
    let wide := scaled (spread - 23)
    let e := if wide.1 < 8388608 * wide.2 then spread - 24 else spread - 23
    let e := max e (-149)
    let (n, d) := scaled e
    min ((e + 149).toNat * 8388608 + roundRatio n d) infinityMagnitude

/-- The magnitude of the number nearest to `digits · 10 ^ exponent`, where `digits` has `count`
decimal digits at most. -/
def magnitudeOfDecimal (digits count : Nat) (exponent : Int) : Nat :=
  if digits == 0 then 0
  else if 45 < (count : Int) + exponent - (count - (Nat.toDigits 10 digits).length : Nat) then
    infinityMagnitude
  else if (count : Int) + exponent < -60 then 0
  else if 0 ≤ exponent then nearestMagnitude (digits * Nat.pow 10 exponent.toNat) 1
  else nearestMagnitude digits (Nat.pow 10 (-exponent).toNat)

/-- The value of a row of decimal digits. -/
def digitsValue (ds : List Char) : Nat :=
  ds.foldl (fun n c => n * 10 + (c.toNat - '0'.toNat)) 0

/-- A sign at the front: whether it is a minus, and the text after it. -/
def splitSign : List Char → Bool × List Char
  | '-' :: r => (true, r)
  | '+' :: r => (false, r)
  | r => (false, r)

/-- The exponent after the digits: nothing, or `e` or `E` with a whole number. -/
def readExponent : List Char → Option Int
  | [] => some 0
  | c :: r =>
    if c == 'e' || c == 'E' then
      let (negative, ds) := splitSign r
      if ds.isEmpty || !ds.all Char.isDigit then none
      else some (if negative then -(digitsValue ds : Int) else digitsValue ds)
    else none

/-- Digits, an optional point with digits, an optional exponent; at least one digit stands
before the exponent. -/
def readMagnitude (cs : List Char) : Option Nat :=
  let whole := cs.takeWhile Char.isDigit
  let r := cs.dropWhile Char.isDigit
  let (fraction, r) :=
    match r with
    | '.' :: r => (r.takeWhile Char.isDigit, r.dropWhile Char.isDigit)
    | r => ([], r)
  if whole.isEmpty && fraction.isEmpty then none
  else
    (readExponent r).map fun e =>
      let ds := whole ++ fraction
      magnitudeOfDecimal (digitsValue ds) ds.length (e - fraction.length)

/-- The number that a text spells. -/
def ofText? (text : String) : Option Single :=
  let (negative, cs) := splitSign text.toList
  let word := cs.map Char.toLower
  if word == "nan".toList then some (ofMagnitude negative 0x7fc00000)
  else if word == "inf".toList || word == "infinity".toList then
    some (ofMagnitude negative infinityMagnitude)
  else (readMagnitude cs).map (ofMagnitude negative)

end StreamedInference.Single
