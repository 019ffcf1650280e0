import StreamedInference.Json.Value

/-!
# Reading JSON

A reader takes a JSON text one character at a time. It keeps the containers that are open, the
innermost first, and what it is within: a word, a number, a string or the space between them. A
text is JSON if the reader takes every character of it and has one whole value at the end.

## Main definitions

* `Json.Reader`: how far a text has been read, with `Json.Reader.step` and `Json.Reader.finish?`.
* `Json.ofChars?`, `Json.ofText?`: the value of a text.
-/

namespace StreamedInference.Json

/-- JSON's white space. -/
def isSpace (c : Char) : Bool :=
  c == ' ' || c == '\t' || c == '\n' || c == '\r'

/-! ### Numbers -/

/-- How far a number has been read. -/
inductive NumberPart where
  /-- The sign of a negative number. -/
  | minus
  /-- The digit zero, which no digit may follow. -/
  | zero
  /-- Digits before the point. -/
  | whole
  | point
  /-- Digits after the point. -/
  | fraction
  /-- The letter before the exponent. -/
  | letter
  /-- The sign of the exponent. -/
  | sign
  /-- The digits of the exponent. -/
  | exponent
deriving DecidableEq, Repr

namespace NumberPart

/-- The part that begins a number. -/
def first? (c : Char) : Option NumberPart :=
  if c == '-' then some minus
  else if c == '0' then some zero
  else if c.isDigit then some whole
  else none

/-- What may follow the digits of a number or of its fraction. -/
def exponentLetter? (c : Char) : Option NumberPart :=
  if c == 'e' || c == 'E' then some letter else none

/-- What may follow the digits before the point. -/
def pointOrLetter? (c : Char) : Option NumberPart :=
  if c == '.' then some point else exponentLetter? c

/-- The part that goes on with a number, if the character belongs to it. -/
def next? (p : NumberPart) (c : Char) : Option NumberPart :=
  match p with
  | minus => if c == '-' then none else first? c
  | zero => pointOrLetter? c
  | whole => if c.isDigit then some whole else pointOrLetter? c
  | point => if c.isDigit then some fraction else none
  | fraction => if c.isDigit then some fraction else exponentLetter? c
  | letter =>
    if c == '+' || c == '-' then some sign
    else if c.isDigit then some exponent
    else none
  | sign => if c.isDigit then some exponent else none
  | exponent => if c.isDigit then some exponent else none

/-- Whether a number may end here. -/
def isEnd : NumberPart → Bool
  | zero | whole | fraction | exponent => true
  | minus | point | letter | sign => false

end NumberPart

/-! ### Strings -/

/-- The inside of a string as far as it has been read: the characters, the last one first, unless
they spell no text; and the first half of a surrogate pair if it stands last. -/
structure Letters where
  text : Option (List Char) := some []
  half : Option Nat := none
deriving DecidableEq, Repr

namespace Letters

/-- A half that something else than its partner follows leaves no text. -/
def settle (l : Letters) : Option (List Char) :=
  if l.half.isSome then none else l.text

/-- Adds a character. -/
def push (l : Letters) (c : Char) : Letters :=
  ⟨l.settle.map (c :: ·), none⟩

/-- Adds what an escape of four hexadecimal digits stands for. -/
def pushUnit (l : Letters) (u : Nat) : Letters :=
  if 0xd800 ≤ u && u < 0xdc00 then ⟨l.settle, some u⟩
  else if 0xdc00 ≤ u && u < 0xe000 then
    match l.half with
    | none => ⟨none, none⟩
    | some h =>
      ⟨l.text.map (Char.ofNat (0x10000 + (h - 0xd800) * 0x400 + (u - 0xdc00)) :: ·), none⟩
  else l.push (Char.ofNat u)

/-- The text of the whole string. -/
def close (l : Letters) : Option String :=
  l.settle.map fun cs => String.ofList cs.reverse

end Letters

/-- What the reader is within in a string. -/
inductive StringPlace where
  | plain
  | backslash
  /-- An escape with digits to come; the value of those before. -/
  | digits (left : Nat) (value : Nat)
deriving DecidableEq, Repr

/-- The character that a backslash and a letter stand for. -/
def unescape? (c : Char) : Option Char :=
  match c with
  | '"' => some '"'
  | '\\' => some '\\'
  | '/' => some '/'
  | 'b' => some '\x08'
  | 'f' => some '\x0c'
  | 'n' => some '\n'
  | 'r' => some '\r'
  | 't' => some '\t'
  | _ => none

/-- The value of a hexadecimal digit. -/
def hexValue? (c : Char) : Option Nat :=
  if c.isDigit then some (c.toNat - '0'.toNat)
  else if 'a' ≤ c && c ≤ 'f' then some (c.toNat - 'a'.toNat + 10)
  else if 'A' ≤ c && c ≤ 'F' then some (c.toNat - 'A'.toNat + 10)
  else none

/-! ### The reader -/

/-- An open container, with what is complete in it, the last first. -/
inductive Frame where
  /-- An array, of which an element is being read or has just ended. -/
  | array (elements : List Json)
  /-- An object between two members. -/
  | object (members : List (Option String × Json))
  /-- An object, of which the value of a member is being read. -/
  | member (members : List (Option String × Json)) (name : Option String)
deriving Repr

/-- What the reader is within. -/
inductive Place where
  /-- Before a value. -/
  | value
  /-- Behind the bracket that opens an array. -/
  | arrayStart
  /-- Behind the brace that opens an object. -/
  | objectStart
  /-- Before the name of a member. -/
  | name
  /-- Behind the name of a member. -/
  | colon
  /-- Behind a value within a container. -/
  | separator
  /-- Behind the value that is the whole text. -/
  | done (v : Json)
  | word (rest : List Char) (v : Json)
  | number (part : NumberPart) (lexeme : List Char)
  | string (isName : Bool) (letters : Letters) (place : StringPlace)
deriving Repr

/-- A reader of JSON. -/
structure Reader where
  stack : List Frame := []
  place : Place := .value
deriving Repr, Inhabited

namespace Reader

/-- A value ends: it goes into the innermost container. -/
def deliver (stack : List Frame) (v : Json) : Reader :=
  match stack with
  | [] => ⟨[], .done v⟩
  | .array vs :: fs => ⟨.array (v :: vs) :: fs, .separator⟩
  | .member ms name :: fs => ⟨.object ((name, v) :: ms) :: fs, .separator⟩
  | .object ms :: fs => ⟨.object ms :: fs, .separator⟩

/-- The first character of a value. -/
def beginValue (stack : List Frame) (c : Char) : Option Reader :=
  match c with
  | '[' => some ⟨.array [] :: stack, .arrayStart⟩
  | '{' => some ⟨.object [] :: stack, .objectStart⟩
  | '"' => some ⟨stack, .string false {} .plain⟩
  | 'n' => some ⟨stack, .word ['u', 'l', 'l'] .null⟩
  | 't' => some ⟨stack, .word ['r', 'u', 'e'] (.bool true)⟩
  | 'f' => some ⟨stack, .word ['a', 'l', 's', 'e'] (.bool false)⟩
  | c => (NumberPart.first? c).map fun p => ⟨stack, .number p [c]⟩

/-- The first character of a member. -/
def beginName (stack : List Frame) (c : Char) : Option Reader :=
  if c == '"' then some ⟨stack, .string true {} .plain⟩ else none

/-- The character that closes the innermost container. -/
def closeContainer (stack : List Frame) (c : Char) : Option Reader :=
  match stack with
  | .array vs :: fs => if c == ']' then some (deliver fs (.array vs.reverse)) else none
  | .object ms :: fs => if c == '}' then some (deliver fs (.object ms.reverse)) else none
  | _ => none

/-- A character behind a value within a container. -/
def separate (stack : List Frame) (c : Char) : Option Reader :=
  if c == ',' then
    match stack with
    | .array _ :: _ => some ⟨stack, .value⟩
    | .object _ :: _ => some ⟨stack, .name⟩
    | _ => none
  else closeContainer stack c

/-- The colon behind the name of a member is due: the object waits for the value. -/
def endName (stack : List Frame) (name : Option String) : Option Reader :=
  match stack with
  | .object ms :: fs => some ⟨.member ms name :: fs, .colon⟩
  | _ => none

/-- A character that begins a word, a number or a string, or stands between such. -/
def between (r : Reader) (c : Char) : Option Reader :=
  if isSpace c then some r
  else
    match r.place with
    | .value => beginValue r.stack c
    | .arrayStart =>
      if c == ']' then closeContainer r.stack c else beginValue r.stack c
    | .objectStart =>
      if c == '}' then closeContainer r.stack c else beginName r.stack c
    | .name => beginName r.stack c
    | .colon => if c == ':' then some ⟨r.stack, .value⟩ else none
    | .separator => separate r.stack c
    | _ => none

/-- A character within a string. -/
def inString (stack : List Frame) (isName : Bool) (l : Letters) (place : StringPlace)
    (c : Char) : Option Reader :=
  match place with
  | .plain =>
    if c == '"' then
      if isName then endName stack l.close else some (deliver stack (.string l.close))
    else if c == '\\' then some ⟨stack, .string isName l .backslash⟩
    else if c.toNat < 0x20 then none
    else some ⟨stack, .string isName (l.push c) .plain⟩
  | .backslash =>
    if c == 'u' then some ⟨stack, .string isName l (.digits 4 0)⟩
    else (unescape? c).map fun d => ⟨stack, .string isName (l.push d) .plain⟩
  | .digits left value =>
    (hexValue? c).map fun d =>
      if left ≤ 1 then ⟨stack, .string isName (l.pushUnit (value * 16 + d)) .plain⟩
      else ⟨stack, .string isName l (.digits (left - 1) (value * 16 + d))⟩

/-- The value of a number, given its characters, the last one first. -/
def numberValue (lexeme : List Char) : Json :=
  .number (String.ofList lexeme.reverse)

/-- Takes a character. -/
def step (r : Reader) (c : Char) : Option Reader :=
  match r.place with
  | .word [] _ => none
  | .word [d] v => if c == d then some (deliver r.stack v) else none
  | .word (d :: ds) v => if c == d then some ⟨r.stack, .word ds v⟩ else none
  | .number part lexeme =>
    match part.next? c with
    | some part => some ⟨r.stack, .number part (c :: lexeme)⟩
    | none =>
      if part.isEnd then between (deliver r.stack (numberValue lexeme)) c else none
  | .string isName l place => inString r.stack isName l place c
  | _ => between r c

/-- Takes characters. -/
def run (r : Reader) : List Char → Option Reader
  | [] => some r
  | c :: cs => (r.step c).bind fun r => r.run cs

/-- The value of a text that ends here. -/
def finish? (r : Reader) : Option Json :=
  match r.place, r.stack with
  | .done v, _ => some v
  | .number part lexeme, [] => if part.isEnd then some (numberValue lexeme) else none
  | _, _ => none

/-- A reader takes texts one after the other. -/
theorem run_append (r : Reader) (as bs : List Char) :
    r.run (as ++ bs) = (r.run as).bind fun r => r.run bs := by
  induction as generalizing r with
  | nil => simp [run]
  | cons a as ih =>
    simp only [List.cons_append, run]
    cases r.step a with
    | none => rfl
    | some r => exact ih r

end Reader

/-- The value that a text spells, if it is JSON. -/
def ofChars? (cs : List Char) : Option Json :=
  (Reader.run {} cs).bind Reader.finish?

/-- The value that a string spells, if it is JSON. -/
def ofText? (text : String) : Option Json :=
  ofChars? text.toList

end StreamedInference.Json
