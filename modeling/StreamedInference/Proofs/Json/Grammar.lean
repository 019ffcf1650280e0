import Mathlib.Data.List.Basic
import StreamedInference.Json.Reading

/-!
# The grammar of JSON

Which texts spell which values, without a word on how a text is read. A value with white space
around it is an element; elements with commas between them are the inside of an array, and members
with commas between them that of an object. A number is kept as it is spelt. A string is spelt by
letters, each of which is a character or a number of 16 bits, and means a text unless one of these
numbers is half of a pair without the other half.

## Main definitions

* `Json.IsNumeral`: the texts of numbers.
* `Json.Letter`, `Json.SpellsLetters`, `Json.textOf?`: what strings are spelt with, and what it
  means.
* `Json.IsEscape`, `Json.IsHexDigit`: what stands behind a backslash.
* `Json.Phrase`, `Json.Spells`: what can be spelt, and by which texts.
-/

namespace StreamedInference.Json

/-- White space and nothing else. -/
def AreSpaces (cs : List Char) : Prop :=
  ∀ c ∈ cs, isSpace c = true

@[simp] theorem areSpaces_nil : AreSpaces [] :=
  nofun

/-! ### Numbers -/

/-- Digits and nothing else. -/
def AreDigits (cs : List Char) : Prop :=
  ∀ c ∈ cs, c.isDigit = true

/-- The digits before the point, of which a zero is the first only if it is the only one. -/
inductive IsWhole : List Char → Prop
  | zero : IsWhole ['0']
  | digits {c : Char} {cs : List Char} (hc : c.isDigit = true) (hzero : c ≠ '0')
      (hcs : AreDigits cs) : IsWhole (c :: cs)

/-- The point and the digits behind it, or nothing. -/
inductive IsFraction : List Char → Prop
  | none : IsFraction []
  | digits {cs : List Char} (hne : cs ≠ []) (hcs : AreDigits cs) : IsFraction ('.' :: cs)

/-- The letter of the exponent with a sign, if there is one, and digits, or nothing. -/
inductive IsExponent : List Char → Prop
  | none : IsExponent []
  | digits {e : Char} {sign cs : List Char} (he : e = 'e' ∨ e = 'E')
      (hsign : sign = [] ∨ sign = ['+'] ∨ sign = ['-']) (hne : cs ≠ []) (hcs : AreDigits cs) :
      IsExponent (e :: (sign ++ cs))

/-- The text of a number. -/
inductive IsNumeral : List Char → Prop
  | mk {sign whole fraction exponent : List Char} (hsign : sign = [] ∨ sign = ['-'])
      (hwhole : IsWhole whole) (hfraction : IsFraction fraction)
      (hexponent : IsExponent exponent) : IsNumeral (sign ++ whole ++ fraction ++ exponent)

/-! ### Strings -/

/-- What stands at one place of a string: a character, or a number of 16 bits. -/
inductive Letter where
  | char (c : Char)
  | unit (u : Nat)

/-- The letters of the escapes of two characters, and what they stand for. -/
inductive IsEscape : Char → Char → Prop
  | quote : IsEscape '"' '"'
  | backslash : IsEscape '\\' '\\'
  | slash : IsEscape '/' '/'
  | backspace : IsEscape 'b' '\x08'
  | formFeed : IsEscape 'f' '\x0c'
  | lineFeed : IsEscape 'n' '\n'
  | carriageReturn : IsEscape 'r' '\r'
  | tab : IsEscape 't' '\t'

/-- A hexadecimal digit stands at the place of its value. -/
def IsHexDigit (c : Char) (v : Nat) : Prop :=
  "0123456789abcdef".toList[v]? = some c ∨ "0123456789ABCDEF".toList[v]? = some c

instance (c : Char) (v : Nat) : Decidable (IsHexDigit c v) :=
  inferInstanceAs (Decidable (_ ∨ _))

/-- A letter is spelt by the character itself, by an escape of two characters or by one with four
hexadecimal digits. -/
inductive SpellsLetter : List Char → Letter → Prop
  | plain {c : Char} (hcontrol : 0x20 ≤ c.toNat) (hquote : c ≠ '"') (hbackslash : c ≠ '\\') :
      SpellsLetter [c] (.char c)
  | escape {e c : Char} (h : IsEscape e c) : SpellsLetter ['\\', e] (.char c)
  | unit {a b c d : Char} {i j k l : Nat} (ha : IsHexDigit a i) (hb : IsHexDigit b j)
      (hc : IsHexDigit c k) (hd : IsHexDigit d l) :
      SpellsLetter ['\\', 'u', a, b, c, d] (.unit (((i * 16 + j) * 16 + k) * 16 + l))

/-- Letters one behind the other. -/
inductive SpellsLetters : List Char → List Letter → Prop
  | nil : SpellsLetters [] []
  | cons {xs cs : List Char} {l : Letter} {ls : List Letter} (h : SpellsLetter xs l)
      (hs : SpellsLetters cs ls) : SpellsLetters (xs ++ cs) (l :: ls)

/-- The first half of a pair. -/
def IsHigh (u : Nat) : Prop :=
  0xd800 ≤ u ∧ u < 0xdc00

/-- The second half of a pair. -/
def IsLow (u : Nat) : Prop :=
  0xdc00 ≤ u ∧ u < 0xe000

instance (u : Nat) : Decidable (IsHigh u) :=
  inferInstanceAs (Decidable (_ ∧ _))

instance (u : Nat) : Decidable (IsLow u) :=
  inferInstanceAs (Decidable (_ ∧ _))

/-- The character that a pair stands for. -/
def pairChar (u v : Nat) : Char :=
  Char.ofNat (0x10000 + (u - 0xd800) * 0x400 + (v - 0xdc00))

/-- The text that letters mean, if no half of a pair is without the other half. -/
def textOf? : List Letter → Option (List Char)
  | [] => some []
  | .char c :: ls => (textOf? ls).map (c :: ·)
  | .unit u :: .unit v :: ls =>
    if IsHigh u ∧ IsLow v then (textOf? ls).map (pairChar u v :: ·)
    else if IsHigh u ∨ IsLow u then none
    else (textOf? (.unit v :: ls)).map (Char.ofNat u :: ·)
  | .unit u :: ls =>
    if IsHigh u ∨ IsLow u then none else (textOf? ls).map (Char.ofNat u :: ·)

/-- A string is spelt by letters within quotation marks. -/
inductive SpellsString : List Char → Option String → Prop
  | mk {cs : List Char} {ls : List Letter} (h : SpellsLetters cs ls) :
      SpellsString ('"' :: (cs ++ ['"'])) ((textOf? ls).map String.ofList)

/-! ### Values -/

/-- What can be spelt. -/
inductive Phrase where
  | value (v : Json)
  /-- A value with white space around it. -/
  | element (v : Json)
  /-- The inside of an array. -/
  | elements (vs : List Json)
  /-- A name and a value. -/
  | member (name : Option String) (v : Json)
  /-- The inside of an object. -/
  | members (ms : List (Option String × Json))

/-- What a text spells. -/
inductive Spells : List Char → Phrase → Prop
  | nullWord : Spells ['n', 'u', 'l', 'l'] (.value .null)
  | trueWord : Spells ['t', 'r', 'u', 'e'] (.value (.bool true))
  | falseWord : Spells ['f', 'a', 'l', 's', 'e'] (.value (.bool false))
  | number {cs : List Char} (h : IsNumeral cs) : Spells cs (.value (.number (String.ofList cs)))
  | string {cs : List Char} {s : Option String} (h : SpellsString cs s) :
      Spells cs (.value (.string s))
  | emptyArray {a : List Char} (ha : AreSpaces a) :
      Spells ('[' :: (a ++ [']'])) (.value (.array []))
  | array {cs : List Char} {vs : List Json} (h : Spells cs (.elements vs)) :
      Spells ('[' :: (cs ++ [']'])) (.value (.array vs))
  | emptyObject {a : List Char} (ha : AreSpaces a) :
      Spells ('{' :: (a ++ ['}'])) (.value (.object []))
  | object {cs : List Char} {ms : List (Option String × Json)} (h : Spells cs (.members ms)) :
      Spells ('{' :: (cs ++ ['}'])) (.value (.object ms))
  | element {a cs b : List Char} {v : Json} (ha : AreSpaces a) (h : Spells cs (.value v))
      (hb : AreSpaces b) : Spells (a ++ cs ++ b) (.element v)
  | lastElement {cs : List Char} {v : Json} (h : Spells cs (.element v)) :
      Spells cs (.elements [v])
  | moreElements {cs ds : List Char} {v : Json} {vs : List Json} (h : Spells cs (.element v))
      (hs : Spells ds (.elements vs)) : Spells (cs ++ ',' :: ds) (.elements (v :: vs))
  | member {a ns b cs : List Char} {name : Option String} {v : Json} (ha : AreSpaces a)
      (hname : SpellsString ns name) (hb : AreSpaces b) (h : Spells cs (.element v)) :
      Spells (a ++ ns ++ b ++ ':' :: cs) (.member name v)
  | lastMember {cs : List Char} {name : Option String} {v : Json} (h : Spells cs (.member name v)) :
      Spells cs (.members [(name, v)])
  | moreMembers {cs ds : List Char} {name : Option String} {v : Json}
      {ms : List (Option String × Json)} (h : Spells cs (.member name v))
      (hs : Spells ds (.members ms)) : Spells (cs ++ ',' :: ds) (.members ((name, v) :: ms))

end StreamedInference.Json
