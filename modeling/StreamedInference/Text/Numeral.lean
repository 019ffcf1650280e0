/-!
# Whole numbers in text

Decimal digits to a whole number within bounds. A plus sign may stand in front, and a minus sign
where the bounds admit negative numbers. Digits are read from the left; the first fault met
decides.

## Main definitions

* `Numeral.readNat`, `Numeral.readInt`: the number of a text within bounds.
-/

namespace StreamedInference.Numeral

/-- Why a text is no whole number within the bounds. -/
inductive Fault where
  | empty
  | invalidDigit
  | tooLarge
  | tooSmall
deriving DecidableEq, Repr

/-- The wording of a fault. -/
def Fault.message : Fault → String
  | .empty => "cannot parse integer from empty string"
  | .invalidDigit => "invalid digit found in string"
  | .tooLarge => "number too large to fit in target type"
  | .tooSmall => "number too small to fit in target type"

/-- Appends digits to a number, which may not come to exceed `limit`; `overflow` is the fault
if it does. -/
def extend (limit : Nat) (overflow : Fault) : Nat → List Char → Except Fault Nat
  | n, [] => .ok n
  | n, c :: cs =>
    if !c.isDigit then .error .invalidDigit
    else
      let m := n * 10 + (c.toNat - '0'.toNat)
      if limit < m then .error overflow else extend limit overflow m cs

/-- A number of at least one digit. -/
def readDigits (limit : Nat) (overflow : Fault) : List Char → Except Fault Nat
  | [] => .error .invalidDigit
  | cs => extend limit overflow 0 cs

/-- A natural number up to `limit`. -/
def readNat (limit : Nat) (text : String) : Except Fault Nat :=
  match text.toList with
  | [] => .error .empty
  | '+' :: cs => readDigits limit .tooLarge cs
  | cs => readDigits limit .tooLarge cs

/-- An integer from `-least` to `greatest`. -/
def readInt (least greatest : Nat) (text : String) : Except Fault Int :=
  match text.toList with
  | [] => .error .empty
  | '-' :: cs => (readDigits least .tooSmall cs).map fun n => -(n : Int)
  | '+' :: cs => (readDigits greatest .tooLarge cs).map fun n => (n : Int)
  | cs => (readDigits greatest .tooLarge cs).map fun n => (n : Int)

end StreamedInference.Numeral
