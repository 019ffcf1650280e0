import StreamedInference.Settings.Setting
import StreamedInference.Text.ControlSequence

/-!
# The command line and the environment

Flags have the form `--name value` or `--name=value`. The first word of the command line that is
wrong decides how reading ends. The variable of a setting is looked at only if its flag is not
given.

## Main definitions

* `UsageError`: what can be wrong with the words of a command line.
* `CommandLine.read`, `Environment.read`: the settings of each source.
* `readSettings`: the settings of both.
-/

namespace StreamedInference

/-- Why the settings cannot be read, or what is shown instead of running. -/
inductive UsageError where
  | help
  | version
  /-- A word that belongs to no setting. -/
  | unknown (word : String)
  /-- A flag without its value. -/
  | missingValue (s : Setting)
  /-- A flag given twice. -/
  | repeated (s : Setting)
  /-- A value that is no value of the setting. -/
  | badValue (s : Setting) (value : String) (fault : ValueFault)
  /-- A value attached to a flag that takes none. -/
  | unneededValue (flag value : String)
deriving DecidableEq, Repr

namespace UsageError

/-- What is told about an error, in a line that can be followed by others. Words from outside give
no orders to a terminal in it. -/
def message : UsageError → String
  | .help => ""
  | .version => ""
  | .unknown word => "error: unexpected argument '" ++ ControlSequence.strip word ++ "' found"
  | .missingValue s => "error: a value is required for '" ++ s.usage ++ "' but none was supplied"
  | .repeated s => "error: the argument '" ++ s.usage ++ "' cannot be used multiple times"
  | .badValue s "" .notAllowed =>
    "error: a value is required for '" ++ s.usage ++ "' but none was supplied"
  | .badValue s value .notAllowed =>
    "error: invalid value '" ++ ControlSequence.strip value ++ "' for '" ++ s.usage ++ "'"
  | .badValue s value (.unreadable reason) =>
    "error: invalid value '" ++ ControlSequence.strip value ++ "' for '" ++ s.usage ++ "': " ++
      reason
  | .unneededValue flag value =>
    "error: unexpected value '" ++ ControlSequence.strip value ++ "' for '" ++ flag ++
      "' found; no more were expected"

/-- The first line of what is told about an error. -/
def headline (e : UsageError) : String :=
  String.ofList (e.message.toList.takeWhile (· != '\n'))

end UsageError

/-- A word of the command line by its form. -/
inductive Word where
  /-- Two dashes, after which no flag follows. -/
  | separator
  /-- Two dashes and a name, with or without a value behind an equals sign. -/
  | long (name : String) (value : Option String)
  /-- A dash and letters, of which only the first counts. -/
  | short (letter : Char)
  /-- Anything else. -/
  | plain (text : String)
deriving DecidableEq, Repr

namespace Word

/-- A name with what stands behind the first equals sign. -/
def splitAssignment (cs : List Char) : String × Option String :=
  let name := cs.takeWhile (· != '=')
  let value :=
    match cs.dropWhile (· != '=') with
    | [] => none
    | _ :: value => some (String.ofList value)
  (String.ofList name, value)

/-- The form of a word. -/
def ofText (text : String) : Word :=
  match text.toList with
  | ['-', '-'] => .separator
  | '-' :: '-' :: cs => let (name, value) := splitAssignment cs; .long name value
  | '-' :: c :: _ => .short c
  | _ => .plain text

end Word

namespace CommandLine

/-- Sets a setting from a text, unless it is set already. -/
def assign (l : Layer) (s : Setting) (text : String) : Except UsageError Layer :=
  if (l s).isSome then .error (.repeated s)
  else
    match s.kind.read text with
    | .ok v => .ok (l.set s v)
    | .error fault => .error (.badValue s text fault)

/-- What a flag that takes no value does. -/
def display? (name : String) : Option UsageError :=
  if name == "help" then some .help
  else if name == "version" then some .version
  else none

/-- The same for flags of one letter. -/
def displayLetter? (letter : Char) : Option UsageError :=
  if letter == 'h' then some .help else if letter == 'V' then some .version else none

/-- The error of a flag of one letter. -/
def shortError (letter : Char) : UsageError :=
  (displayLetter? letter).getD (.unknown (String.ofList ['-', letter]))

/-- The error of a name that is no setting's flag. -/
def longError (name : String) (value : Option String) : UsageError :=
  match display? name, value with
  | some shown, none => shown
  | some _, some value => .unneededValue ("--" ++ name) value
  | none, _ => .unknown ("--" ++ name)

/-- The error of what follows the separator: nothing may. -/
def afterSeparator (otherwise : Option UsageError) (words : List String) : Option UsageError :=
  match words with
  | [] => otherwise
  | w :: _ => some (.unknown w)

/-- The error of a flag that a word of another form than a value follows. -/
def unservedError (s : Setting) (word : Word) : UsageError :=
  match word with
  | .short letter =>
    if (displayLetter? letter).isSome then .missingValue s else shortError letter
  | .long name value =>
    if (Setting.ofFlagName? name).isSome then .missingValue s
    else if (display? name).isSome && value.isNone then .missingValue s
    else longError name value
  | _ => .missingValue s

/-- Reads words on top of the settings read before. -/
def readFrom (l : Layer) : List String → Except UsageError Layer
  | [] => .ok l
  | w :: ws =>
    match Word.ofText w with
    | .separator =>
      match afterSeparator none ws with
      | some error => .error error
      | none => .ok l
    | .plain text => .error (.unknown text)
    | .short letter => .error (shortError letter)
    | .long name value =>
      match Setting.ofFlagName? name with
      | none => .error (longError name value)
      | some s =>
        match value with
        | some value =>
          match assign l s value with
          | .error error => .error error
          | .ok l => readFrom l ws
        | none =>
          match ws with
          | [] => .error (.missingValue s)
          | v :: ws =>
            match Word.ofText v with
            | .plain value =>
              match assign l s value with
              | .error error => .error error
              | .ok l => readFrom l ws
            | .separator =>
              .error ((afterSeparator (some (.missingValue s)) ws).getD (.missingValue s))
            | word => .error (unservedError s word)

/-- The settings of a command line. -/
def read (words : List String) : Except UsageError Layer :=
  readFrom .empty words

end CommandLine

/-- The variables of a process. -/
abbrev Environment := List (String × String)

namespace Environment

/-- The value of a variable. -/
def get? (env : Environment) (name : String) : Option String :=
  env.lookup name

/-- Reads the variables of the given settings, except those that `given` holds. -/
def readFrom (env : Environment) (given : Layer) (l : Layer) :
    List Setting → Except UsageError Layer
  | [] => .ok l
  | s :: ss =>
    match if (given s).isSome then none else env.get? s.variableName with
    | none => readFrom env given l ss
    | some text =>
      match CommandLine.assign l s text with
      | .error error => .error error
      | .ok l => readFrom env given l ss

/-- The settings of the variables, except those that `given` holds. -/
def read (env : Environment) (given : Layer) : Except UsageError Layer :=
  readFrom env given .empty Setting.all

end Environment

/-- The settings of a command line, and of the environment where the command line leaves them
open. -/
def readSettings (words : List String) (env : Environment) : Except UsageError Layer :=
  match CommandLine.read words with
  | .error error => .error error
  | .ok flags =>
    match env.read flags with
    | .error error => .error error
    | .ok found => .ok (flags.upon found)

end StreamedInference
