import StreamedInference.Text.Utf8

/-!
# Percent-encoding

Characters that may not stand in a part of a URL are written as their bytes, each as a percent
sign and two hexadecimal digits.

## Main definitions

* `Percent.encode`, `Percent.decode`: escaping and its inverse.
* `Percent.inPath`, `Percent.inQuery`, `Percent.inWebQuery`, `Percent.inFragment`,
  `Percent.inUser`: what is escaped where.
-/

namespace StreamedInference.Percent

/-- A hexadecimal digit, in capital letters. -/
def digit (n : Nat) : Char :=
  (Nat.digitChar (n % 16)).toUpper

/-- A byte in its escape. -/
def escapeByte (b : UInt8) : List Char :=
  ['%', digit (b.toNat / 16), digit b.toNat]

/-- Escapes the characters of a text that `escaped` selects, and all beyond the ASCII range and
below the space. -/
def encode (escaped : Char → Bool) (cs : List Char) : List Char :=
  cs.flatMap fun c =>
    if c.toNat < 0x20 || 0x7e < c.toNat || escaped c then
      (String.utf8EncodeChar c).flatMap escapeByte
    else [c]

/-- The value of a hexadecimal digit. -/
def digitValue? (c : Char) : Option Nat :=
  if c.isDigit then some (c.toNat - '0'.toNat)
  else if 'a' ≤ c && c ≤ 'f' then some (c.toNat - 'a'.toNat + 10)
  else if 'A' ≤ c && c ≤ 'F' then some (c.toNat - 'A'.toNat + 10)
  else none

/-- The byte that two digits spell. -/
def byte? (a b : Char) : Option UInt8 :=
  match digitValue? a, digitValue? b with
  | some x, some y => some (UInt8.ofNat (x * 16 + y))
  | _, _ => none

/-- The bytes of a text whose escapes are resolved; a percent sign that begins no escape stands
for itself. -/
def decode : List Char → List UInt8
  | [] => []
  | '%' :: a :: b :: cs =>
    match byte? a b with
    | some x => x :: decode cs
    | none => 0x25 :: decode (a :: b :: cs)
  | c :: cs => String.utf8EncodeChar c ++ decode cs

/-- What is escaped in a path. -/
def inPath (c : Char) : Bool :=
  " \"<>`#?".toList.contains c || c == '\x7b' || c == '\x7d'

/-- What is escaped in a query. -/
def inQuery (c : Char) : Bool :=
  " \"<>#".toList.contains c

/-- What is escaped in a query to a server of the web. -/
def inWebQuery (c : Char) : Bool :=
  inQuery c || c == '\''

/-- What is escaped in a fragment. -/
def inFragment (c : Char) : Bool :=
  " \"<>`".toList.contains c

/-- What is escaped in a user's name and password. -/
def inUser (c : Char) : Bool :=
  inPath c || "/:;=@[\\]^|".toList.contains c

end StreamedInference.Percent
