/-!
# Control sequences

Some characters make a terminal do something instead of showing something; most such orders begin
with the escape character and go on for several characters. A text from outside that is to be shown
must give no orders: either they are taken out of it, or the characters that begin them are
written in a form that shows them.

## Main definitions

* `ControlSequence.strip`: a text without orders.
* `ControlSequence.escape`: a text in which the characters that begin orders are shown.
-/

namespace StreamedInference.ControlSequence

/-! ### Taking out -/

/-- Within what a terminal is. -/
inductive Mode where
  /-- Within a text that is shown. -/
  | text
  /-- Behind the escape character. -/
  | escape
  /-- Within an order that the next character from `0` on ends. -/
  | short
  /-- Within an order with parameters, which a letter or a sign like one ends. -/
  | sequence
  /-- Within the head of an order that carries data. -/
  | header
  /-- Within data that only a sign of their end or another order ends. -/
  | data
  /-- Within a command to the system around the terminal, which a bell ends. -/
  | command
deriving DecidableEq, Repr

/-- The mode that the character behind the escape character begins. -/
def Mode.behindEscape (c : Char) : Mode :=
  if c == '[' then .sequence
  else if c == ']' then .command
  else if c == 'P' then .header
  else if c == 'X' || c == '^' || c == '_' then .data
  else if ' ' ≤ c && c ≤ '/' then .short
  else if '0' ≤ c && c ≤ '~' then .text
  else .escape

/-- One of the bytes of a character is the sign for the end of data. -/
def hasEndOfData (c : Char) : Bool :=
  0x7f < c.toNat && (String.utf8EncodeChar c).contains 0x9c

/-- The mode after a character that is not shown. -/
def Mode.next (m : Mode) (c : Char) : Mode :=
  if c == '\x1b' then .escape
  else if c == '\x18' || c == '\x1a' then .text
  else
    match m with
    | .text => .text
    | .escape => behindEscape c
    | .short => if '0' ≤ c && c ≤ '~' then .text else .short
    | .sequence => if '@' ≤ c && c ≤ '~' then .text else .sequence
    | .header => if '@' ≤ c && c ≤ '~' then .data else .header
    | .data => if hasEndOfData c then .text else .data
    | .command => if c == '\x07' then .text else .command

/-- A line end or a tab, which a terminal obeys also within most orders. -/
def isLayout (c : Char) : Bool :=
  c == '\t' || c == '\n' || c == '\x0c' || c == '\r'

/-- A character is shown in a mode. -/
def Mode.shows (m : Mode) (c : Char) : Bool :=
  match m with
  | .text => isLayout c || (0x20 ≤ c.toNat && c.toNat != 0x7f)
  | .escape | .short | .sequence => isLayout c
  | .header | .data | .command => false

/-- A text without the orders in it. While characters are shown, `showing`, each that can be shown
in a text is shown, even if an order is not at its end. -/
def stripFrom (m : Mode) (showing : Bool) : List Char → List Char
  | [] => []
  | c :: cs =>
    if (if showing then Mode.text else m).shows c then
      c :: stripFrom (if 0x7f < c.toNat then .text else m) true cs
    else stripFrom (m.next c) false cs

/-- A text without orders. -/
def strip (text : String) : String :=
  String.ofList (stripFrom .text false text.toList)

/-! ### Showing -/

/-- A character in the form that shows it, if it begins an order. -/
def escapeChar (c : Char) : List Char :=
  match c with
  | '\x07' => "\\x07".toList
  | '\x08' => "\\x08".toList
  | '\x0c' => "\\x0c".toList
  | '\x1b' => "\\x1b".toList
  | '\x7f' => "\\x7f".toList
  | c =>
    if 0x80 ≤ c.toNat && c.toNat ≤ 0x9f then
      ['\\', 'u', '\x7b'] ++ Nat.toDigits 16 c.toNat ++ ['\x7d']
    else [c]

/-- A text in which the characters that begin orders are shown. -/
def escape (text : String) : String :=
  String.ofList (text.toList.flatMap escapeChar)

end StreamedInference.ControlSequence
