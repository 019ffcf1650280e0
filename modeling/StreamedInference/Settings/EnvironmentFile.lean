import StreamedInference.Settings.CommandLine
import StreamedInference.Text.Alphanumeric
import StreamedInference.Text.Blank

/-!
# Files of variables

A process may find variables in a file beside it: one assignment a line, with comments, quotation
marks, escapes and references to other variables. A quoted value may go on over several lines.
What the environment holds already stays as it is, and reading ends at the first line that is
malformed.

## Main definitions

* `EnvironmentFile.logicalLines`: the lines of a file, some of which go on over several.
* `EnvironmentFile.readLine`: the variable that a line assigns.
* `EnvironmentFile.load`: an environment with the variables of a file.
-/

namespace StreamedInference.EnvironmentFile

/-! ### Lines -/

/-- Where a line stands after some of its characters. -/
inductive LinePlace where
  /-- The line may end here. -/
  | plain
  | blank
  | escaped
  | single
  | singleEscaped
  | double
  | doubleEscaped
deriving DecidableEq, Repr

/-- Where a line stands after one more character; nothing if a comment begins with it. -/
def LinePlace.next? (place : LinePlace) (c : Char) : Option LinePlace :=
  match place with
  | .plain =>
    if isBlank c && c != '\n' && c != '\r' then some .blank
    else if c == '\\' then some .escaped
    else if c == '"' then some .double
    else if c == '\'' then some .single
    else some .plain
  | .blank =>
    if c == '#' then none
    else if c == '\\' then some .escaped
    else if c == '"' then some .double
    else if c == '\'' then some .single
    else some .plain
  | .escaped => some .plain
  | .single => some (if c == '\\' then .singleEscaped else if c == '\'' then .plain else .single)
  | .singleEscaped => some .single
  | .double => some (if c == '\\' then .doubleEscaped else if c == '"' then .plain else .double)
  | .doubleEscaped => some .double

/-- Goes through a line. The characters before a comment come with no place, a line without a
comment with the place where it ends. -/
def scan (place : LinePlace) : List Char → List Char × Option LinePlace
  | [] => ([], some place)
  | c :: cs =>
    match place.next? c with
    | none => ([], none)
    | some place =>
      let (before, last) := scan place cs
      (c :: before, last)

/-- The lines of a text, each with the character that ends it. -/
def physicalLines : List Char → List (List Char)
  | [] => []
  | c :: cs =>
    if c == '\n' then [c] :: physicalLines cs
    else
      match physicalLines cs with
      | [] => [[c]]
      | l :: ls => (c :: l) :: ls

/-- A line without what ends it. -/
def chomp (l : List Char) : List Char :=
  match l.reverse with
  | '\n' :: '\r' :: r => r.reverse
  | '\n' :: r => r.reverse
  | _ => l

/-- The first character that is not blank begins a comment. -/
def isComment (l : List Char) : Bool :=
  (l.dropWhile isBlank).head? == some '#'

/-- Joins lines until quotation marks are closed. `held` is what stands before; a text that ends
where a line may not ends in nothing. -/
def logicalLines (place : LinePlace) (held : List Char) :
    List (List Char) → List (Option (List Char))
  | [] => if place == .plain then [] else [none]
  | l :: ls =>
    if isComment (held ++ l) then some [] :: logicalLines .plain [] ls
    else
      match scan place l with
      | (before, none) => some (held ++ before) :: logicalLines .plain [] ls
      | (_, some .plain) => some (chomp (held ++ l)) :: logicalLines .plain [] ls
      | (_, some place) => logicalLines place (held ++ l) ls

/-! ### Values -/

/-- Where a value stands after some of its characters. -/
inductive ValuePlace where
  | plain
  | escaped
  | single
  /-- Within the name of a variable. -/
  | name (letters : List Char)
  /-- Within the name of a variable in braces. -/
  | braced (letters : List Char)
  /-- Behind the value, where only a comment may follow. -/
  | behind
deriving DecidableEq, Repr

/-- The value of a variable, which is empty if it is not set. -/
def expand (env : Environment) (name : List Char) : List Char :=
  ((env.get? (String.ofList name)).getD "").toList

/-- The character that an escape stands for. -/
def unescape? (c : Char) : Option Char :=
  if c == 'n' then some '\n'
  else if "\\'\"$ ".toList.contains c then some c
  else none

/-- The value that a text spells; `quoted` tells that double quotation marks are open. The
character behind a variable's name always stands for itself. -/
def readValue (env : Environment) :
    (place : ValuePlace) → (quoted : Bool) → List Char → Option (List Char)
  | .single, _, [] => none
  | .braced _, _, [] => none
  | _, true, [] => none
  | .name letters, false, [] => some (expand env letters)
  | _, false, [] => some []
  | .behind, quoted, c :: cs =>
    if c == ' ' || c == '\t' then readValue env .behind quoted cs
    else if c == '#' then some []
    else none
  | .escaped, quoted, c :: cs =>
    (unescape? c).bind fun d => (readValue env .plain quoted cs).map (d :: ·)
  | .single, quoted, c :: cs =>
    if c == '\'' then readValue env .plain quoted cs
    else (readValue env .single quoted cs).map (c :: ·)
  | .name letters, quoted, c :: cs =>
    if isAlphanumeric c then readValue env (.name (letters ++ [c])) quoted cs
    else if c == '\x7b' && letters.isEmpty then readValue env (.braced []) quoted cs
    else if c == '$' then
      (readValue env (.name []) quoted cs).map (expand env letters ++ ·)
    else (readValue env .plain quoted cs).map (expand env letters ++ c :: ·)
  | .braced letters, quoted, c :: cs =>
    if c == '\x7d' then (readValue env .plain quoted cs).map (expand env letters ++ ·)
    else readValue env (.braced (letters ++ [c])) quoted cs
  | .plain, quoted, c :: cs =>
    if c == '$' then readValue env (.name []) quoted cs
    else if c == '\\' then readValue env .escaped quoted cs
    else if c == '"' then readValue env .plain (!quoted) cs
    else if quoted then (readValue env .plain quoted cs).map (c :: ·)
    else if c == '\'' then readValue env .single quoted cs
    else if c == ' ' || c == '\t' then readValue env .behind quoted cs
    else (readValue env .plain quoted cs).map (c :: ·)

/-! ### Assignments -/

/-- A name at the front of a text, and what follows it. -/
def takeName? (cs : List Char) : Option (List Char × List Char) :=
  match cs with
  | c :: _ =>
    if c.isAlpha || c == '_' then
      let inName (c : Char) : Bool := c.isAlphanum || c == '_' || c == '.'
      some (cs.takeWhile inName, (cs.dropWhile inName).dropWhile isBlank)
    else none
  | [] => none

/-- The name of an assignment and what stands behind its equals sign. The word `export` may come
before the name, and may be a name itself. -/
def takeAssigned? (cs : List Char) : Option (List Char × List Char) :=
  match takeName? cs with
  | none => none
  | some (name, '=' :: rest) => some (name, rest)
  | some (name, rest) =>
    if name == "export".toList then
      match takeName? rest with
      | some (name, '=' :: rest) => some (name, rest)
      | _ => none
    else none

/-- What a line says. -/
inductive Line where
  | malformed
  | nothing
  | assignment (name value : String)
deriving DecidableEq, Repr

/-- Reads a line; variables that it refers to are looked up in an environment. -/
def readLine (env : Environment) (l : List Char) : Line :=
  let l := ((l.reverse.dropWhile isBlank).reverse).dropWhile isBlank
  if l.isEmpty || l.head? == some '#' then .nothing
  else
    match takeAssigned? l with
    | none => .malformed
    | some (name, rest) =>
      let rest := rest.dropWhile isBlank
      let value? := if rest.head? == some '#' then some [] else readValue env .plain false rest
      match value? with
      | none => .malformed
      | some value => .assignment (String.ofList name) (String.ofList value)

/-- An environment with the assignments of lines. -/
def addLines (env : Environment) : List (Option (List Char)) → Environment
  | [] => env
  | none :: _ => env
  | some l :: ls =>
    match readLine env l with
    | .malformed => env
    | .nothing => addLines env ls
    | .assignment name value =>
      if (env.get? name).isSome then addLines env ls else addLines (env ++ [(name, value)]) ls

/-- An environment with the assignments of a file; a mark of byte order at its front is no part
of it. -/
def load (env : Environment) (text : String) : Environment :=
  let cs :=
    match text.toList with
    | '\ufeff' :: cs => cs
    | cs => cs
  addLines env (logicalLines .plain [] (physicalLines cs))

end StreamedInference.EnvironmentFile
