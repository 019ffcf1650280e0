/-!
# JSON values

The values of JSON and their compact text. A string of a JSON text may escape half of a surrogate
pair without the other half; it is grammatical, but spells no text. Strings are therefore kept as
texts that may be absent, and numbers as they are spelt.

## Main definitions

* `Json`: the values.
* `Json.render`, `Json.toText`: their compact text.
-/

namespace StreamedInference

/-- A JSON value; the members of an object keep their order and may repeat a name. -/
inductive Json where
  | null
  | bool (value : Bool)
  | number (lexeme : String)
  | string (text : Option String)
  | array (elements : List Json)
  | object (members : List (Option String × Json))
deriving Repr, Inhabited

namespace Json

/-- A string that spells a text. -/
def text (s : String) : Json :=
  .string (some s)

/-- A natural number. -/
def natural (n : Nat) : Json :=
  .number (String.ofList (Nat.toDigits 10 n))

/-- An object with the given members. -/
def record (members : List (String × Json)) : Json :=
  .object (members.map fun (name, value) => (some name, value))

/-- A hexadecimal digit, in small letters. -/
def hexDigit (n : Nat) : Char :=
  Nat.digitChar (n % 16)

/-- The escape of a character below the space that has no shorter one. -/
def escapeControl (c : Char) : List Char :=
  ['\\', 'u', '0', '0', hexDigit (c.toNat / 16), hexDigit c.toNat]

/-- A character within quotation marks: quotation marks, backslashes and the characters below the
space are escaped, all others stand for themselves. -/
def escape (c : Char) : List Char :=
  if c == '"' then ['\\', '"']
  else if c == '\\' then ['\\', '\\']
  else if c.toNat < 0x20 then
    match c.toNat with
    | 0x08 => ['\\', 'b']
    | 0x09 => ['\\', 't']
    | 0x0a => ['\\', 'n']
    | 0x0c => ['\\', 'f']
    | 0x0d => ['\\', 'r']
    | _ => escapeControl c
  else [c]

/-- A text within quotation marks. -/
def quote (cs : List Char) : List Char :=
  '"' :: (cs.flatMap escape ++ ['"'])

mutual

/-- The compact text of a value. An absent text is written as an empty one. -/
def render : Json → List Char
  | .null => ['n', 'u', 'l', 'l']
  | .bool true => ['t', 'r', 'u', 'e']
  | .bool false => ['f', 'a', 'l', 's', 'e']
  | .number lexeme => lexeme.toList
  | .string s => quote (s.getD "").toList
  | .array vs => '[' :: (renderElements vs ++ [']'])
  | .object ms => '{' :: (renderMembers ms ++ ['}'])

/-- Values with commas between them. -/
def renderElements : List Json → List Char
  | [] => []
  | [v] => render v
  | v :: w :: vs => render v ++ ',' :: renderElements (w :: vs)

/-- A name and a value with a colon between them. -/
def renderMember : Option String × Json → List Char
  | (name, v) => quote (name.getD "").toList ++ ':' :: render v

/-- Members with commas between them. -/
def renderMembers : List (Option String × Json) → List Char
  | [] => []
  | [m] => renderMember m
  | m :: n :: ms => renderMember m ++ ',' :: renderMembers (n :: ms)

end

/-- The compact text of a value, as a string. -/
def toText (v : Json) : String :=
  String.ofList v.render

end Json

end StreamedInference
