import StreamedInference.Single.Reading
import StreamedInference.Text.Alphanumeric

/-!
# Patterns

The value of a field can be given by a pattern: a regular expression. What a pattern matches plays
no part here, only whether it is one: parentheses and brackets are closed, signs of repetition
have something to repeat, and escapes have a meaning. Numbers are patterns, too.

Patterns that look at the edges of words are none: they cannot be matched in one pass.

## Main definitions

* `Pattern.isWellFormed`: a text is a pattern.
-/

namespace StreamedInference.Pattern

/-- What an escape stands for. -/
inductive Escape where
  | char (c : Char)
  | set
  | edge
deriving DecidableEq, Repr

/-- A hexadecimal number of a fixed number of digits, if it is that of a character. -/
def takeCode? : (digits n : Nat) → List Char → Option (Escape × List Char)
  | 0, n, cs => if n.isValidChar then some (.char (Char.ofNat n), cs) else none
  | _ + 1, _, [] => none
  | digits + 1, n, c :: cs =>
    if c.isDigit then takeCode? digits (n * 16 + (c.toNat - '0'.toNat)) cs
    else if 'a' ≤ c.toLower && c.toLower ≤ 'f' then
      takeCode? digits (n * 16 + (c.toLower.toNat - 'a'.toNat + 10)) cs
    else none

/-- The escape at the front of what stands behind a backslash. -/
def takeEscape? (cs : List Char) : Option (Escape × List Char) :=
  match cs with
  | [] => none
  | 'x' :: cs => takeCode? 2 0 cs
  | 'u' :: cs => takeCode? 4 0 cs
  | 'U' :: cs => takeCode? 8 0 cs
  | 'p' :: c :: cs | 'P' :: c :: cs =>
    if "clmnpszCLMNPSZ".toList.contains c then some (.set, cs) else none
  | c :: cs =>
    if "dswDSW".toList.contains c then some (.set, cs)
    else if c == 'A' || c == 'z' then some (.edge, cs)
    else if "afnrtv".toList.contains c then some (.char c, cs)
    else if c.toNat < 0x80 && !c.isAlphanum && c != '<' && c != '>' then some (.char c, cs)
    else none

/-! ### Classes -/

/-- What stands behind the bracket that opens a class and what belongs to it: the sign of the
complement, and dashes or a bracket that stand for themselves. -/
def openClass (cs : List Char) : List Char :=
  let cs := if cs.head? == some '^' then cs.drop 1 else cs
  if cs.head? == some '-' then cs.dropWhile (· == '-')
  else if cs.head? == some ']' then cs.drop 1
  else cs

/-- The names of classes of ASCII characters. -/
def classNames : List String :=
  ["alnum", "alpha", "ascii", "blank", "cntrl", "digit", "graph", "lower", "print", "punct",
    "space", "upper", "word", "xdigit"]

/-- What stands behind a class that is given by its name between colons, if one stands in front;
`cs` stands behind its first bracket. -/
def dropNamedClass? (cs : List Char) : Option (List Char) :=
  match cs with
  | ':' :: cs =>
    let cs := if cs.head? == some '^' then cs.drop 1 else cs
    let name := String.ofList (cs.takeWhile (· != ':'))
    match cs.dropWhile (· != ':') with
    | ':' :: ']' :: rest => if classNames.contains name then some rest else none
    | _ => none
  | _ => none

/-- A member of a class at the front of a text: a character, or nothing for a set of them. -/
def takeMember? (cs : List Char) : Option (Option Char × List Char) :=
  match cs with
  | [] => none
  | '\\' :: cs =>
    match takeEscape? cs with
    | some (.char c, rest) => some (some c, rest)
    | some (.set, rest) => some (none, rest)
    | _ => none
  | c :: cs => some (some c, cs)

/-- What stands behind a member, or behind a row of characters from one member to another, at the
front of a text. -/
def dropRange? (cs : List Char) : Option (List Char) :=
  match takeMember? cs with
  | none => none
  | some (first?, '-' :: rest) =>
    match rest with
    | [] => none
    | c :: _ =>
      if c == ']' || c == '-' then some ('-' :: rest)
      else
        match first?, takeMember? rest with
        | some first, some (some last, rest) => if first ≤ last then some rest else none
        | _, _ => none
  | some (_, rest) => some rest

/-- What stands behind a class within which `depth` classes are open. -/
def dropClass? : (room depth : Nat) → List Char → Option (List Char)
  | 0, _, _ => none
  | _, _, [] => none
  | room + 1, depth, c :: cs =>
    if c == ']' then (if depth ≤ 1 then some cs else dropClass? room (depth - 1) cs)
    else if c == '[' then
      match dropNamedClass? cs with
      | some rest => dropClass? room depth rest
      | none => dropClass? room (depth + 1) (openClass cs)
    else if (c == '&' || c == '-' || c == '~') && cs.head? == some c then
      dropClass? room depth (cs.drop 1)
    else (dropRange? (c :: cs)).bind (dropClass? room depth)

/-! ### Groups -/

/-- What a group begins with. -/
inductive GroupHead where
  /-- What is to be matched. -/
  | group
  /-- Nothing: flags were set for what follows the group. -/
  | flags
deriving DecidableEq, Repr

/-- The flags of a group, the `seen` ones of which are read, up to a colon or to the end. -/
def takeFlags? (seen : List Char) : List Char → Option (GroupHead × List Char)
  | [] => none
  | c :: cs =>
    let dangling := seen.head? == some '-'
    if c == ':' then (if dangling then none else some (.group, cs))
    else if c == ')' then (if dangling || seen.isEmpty then none else some (.flags, cs))
    else if "imsUuRx-".toList.contains c && !seen.contains c then takeFlags? (c :: seen) cs
    else none

/-- What stands behind the name of a group. -/
def dropName? (cs : List Char) : Option (List Char) :=
  let (name, rest) := (cs.takeWhile (· != '>'), cs.dropWhile (· != '>'))
  match name, rest with
  | c :: name, _ :: rest =>
    if (c == '_' || (isAlphanumeric c && !c.isDigit)) &&
        name.all fun c => isAlphanumeric c || "_.[]".toList.contains c then some rest
    else none
  | _, _ => none

/-- The head of a group; `cs` stands behind its parenthesis. -/
def takeGroupHead? (cs : List Char) : Option (GroupHead × List Char) :=
  match cs with
  | '?' :: 'P' :: '<' :: rest => (dropName? rest).map (.group, ·)
  | '?' :: '<' :: rest => (dropName? rest).map (.group, ·)
  | '?' :: rest => takeFlags? [] rest
  | cs => some (.group, cs)

/-! ### Patterns -/

/-- A text goes on as a pattern in which `depth` groups are open; `repeatable` tells that there is
something to repeat. A brace would have to be closed by a number of repetitions, which the end of
the field leaves no room for. -/
def continues : (room depth : Nat) → (repeatable : Bool) → List Char → Bool
  | 0, _, _, _ => false
  | _, depth, _, [] => depth == 0
  | room + 1, depth, repeatable, c :: cs =>
    if c == '(' then
      match takeGroupHead? cs with
      | some (.group, rest) => continues room (depth + 1) false rest
      | some (.flags, rest) => continues room depth false rest
      | none => false
    else if c == ')' then 0 < depth && continues room (depth - 1) true cs
    else if c == '|' then continues room depth false cs
    else if c == '?' || c == '*' || c == '+' then repeatable && continues room depth true cs
    else if c == '\x7b' then false
    else if c == '[' then
      match dropClass? room 1 (openClass cs) with
      | some rest => continues room depth true rest
      | none => false
    else if c == '\\' then
      match takeEscape? cs with
      | some (_, rest) => continues room depth true rest
      | none => false
    else continues room depth true cs

/-- A text is a pattern. -/
def isWellFormed (text : String) : Bool :=
  (Single.ofText? text).isSome || continues (text.length + 1) 0 false text.toList

end StreamedInference.Pattern
