import StreamedInference.Log
import StreamedInference.Log.Pattern
import StreamedInference.Text.Alphanumeric
import StreamedInference.Text.Blank
import StreamedInference.Text.Numeral
import StreamedInference.Text.Pieces

/-!
# Log filters

Which events a process writes down. A filter is a row of directives; each sets how much detail is
wanted from one part of the program, or from all parts, and it can speak only of events that tell
certain things. For an event the directive counts that names its part most closely, then the one
that names most of what the event tells, and of several equal ones the last.

## Main definitions

* `LogDirective`, `LogFilter`: filters, with `LogFilter.ofText?`.
* `LogFilter.allows`: whether an event is written down.
-/

namespace StreamedInference

/-- The name of the part of the program that an event comes from. -/
def LogSource.target : LogSource → String
  | .program => "program"
  | .transportClient => "hyper_util::client::legacy::connect::http"
  | .lifecycle => "inferd_server::server::lifecycle"
  | .pool => "inferd_server::server::pool::manager"
  | .registry => "inferd_server::server::registry"
  | .engine => "inferd_server::server::engine::llama"
  | .prompt => "inferd_server::server::prompt"
  | .handler => "inferd_server::server::service::handler"
  | .session => "inferd_server::server::streaming::session"
  | .bridge => "inferd_server::server::streaming::bridge"

/-- A directive: of the events that it speaks of those up to a level are wanted, or none. -/
structure LogDirective where
  /-- It speaks of events from parts whose names begin so; without a name, from all parts. -/
  part : Option String := none
  /-- It speaks of events that tell all of these things. -/
  fields : List String := []
  /-- It speaks only of events within spans of work with some name, or with some value of a field.
  What a process notes of its start and its end is in none. -/
  ofSpans : Bool := false
  level : Option LogLevel
deriving DecidableEq, Repr

namespace LogDirective

/-- The level with a number, or none. -/
def numbered? : Nat → Option (Option LogLevel)
  | 0 => some none
  | 1 => some (some .error)
  | 2 => some (some .warn)
  | 3 => some (some .info)
  | 4 => some (some .debug)
  | 5 => some (some .trace)
  | _ => none

/-- A level, or none, by its number or its name. -/
def level? (text : String) : Option (Option LogLevel) :=
  match Numeral.readNat 5 text with
  | .ok n => numbered? n
  | .error _ => numbered? (["off", "error", "warn", "info", "debug", "trace"].idxOf text.toLower)

/-- A character with which the name of a part can begin. -/
def isFirstChar (c : Char) : Bool :=
  isAlphanumeric c || c == '_' || c == ':' || c == '-'

/-- The level behind an equals sign; where nothing stands, everything is wanted. -/
def levelBehind? (cs : List Char) : Option (Option LogLevel) :=
  if cs.isEmpty then some (some .trace) else level? (String.ofList cs)

/-- A field of a span or of an event: its name, and whether a value behind an equals sign is asked
for, which must be a pattern. -/
def field? (cs : List Char) : Option (String × Bool) :=
  let name := String.ofList (cs.takeWhile (· != '='))
  match cs.dropWhile (· != '=') with
  | [] => if cs.isEmpty then none else some (name, false)
  | _ :: value =>
    if Pattern.isWellFormed (String.ofList (value.takeWhile (· != '='))) then some (name, true)
    else none

/-- What brackets say: the name of a span, or a field in braces, or both. `shown` stands behind the
first bracket, and `cut` is what is cut out of the text for a part of `shown` that is given by what
follows its front and by its length. The result is what the directive speaks of, without a level,
and what stands behind the brackets. -/
def takeBrackets? (cut : List Char → Nat → List Char) (shown : List Char) :
    Option (LogDirective × List Char) :=
  let (name, rest) := Pieces.span (fun c => c == ']' || c == '\x7b') shown
  match rest with
  | [] => none
  | ']' :: rest => some ({ ofSpans := true, level := none }, rest)
  | _ :: inside =>
    let (text, rest) := Pieces.span (· == '\x7d') inside
    match rest, field? (cut inside text.length) with
    | _ :: ']' :: rest, some (field, valued) =>
      some ({ fields := [field], ofSpans := !name.isEmpty || valued, level := none }, rest)
    | _, _ => none

/-- The directive that a text spells: a level, or a part or something in brackets with or without a
level. Blanks at its ends are passed over when the signs between its parts are looked for. The parts
are cut out as if no blanks stood in front, so that a text with blanks is hardly ever what it seems
to be. -/
def ofText? (text : String) : Option LogDirective :=
  let cs := text.toList
  let shown := ((cs.dropWhile isBlank).reverse.dropWhile isBlank).reverse
  let behind (rest : List Char) := cs.drop (shown.length - rest.length)
  let name := shown.takeWhile fun c => c != '=' && c != '['
  let part := if name.isEmpty then none else some (String.ofList (cs.take name.length))
  if !(shown.head?.any fun c => isFirstChar c || c == '[') then none
  else
    match shown.drop name.length with
    | [] =>
      match level? text with
      | some level => some { level := level }
      | none => some { part := some text, level := some .trace }
    | '=' :: rest => (levelBehind? (behind rest)).map fun level => { part := part, level := level }
    | _ :: inside =>
      match takeBrackets? (fun rest length => (behind rest).take length) inside with
      | none => none
      | some (d, rest) =>
        match rest with
        | [] => some { d with part := part, level := some .trace }
        | '=' :: rest =>
          (levelBehind? (behind rest)).map fun level => { d with part := part, level := level }
        | _ => none

/-- The directive speaks of an event. -/
def concerns (d : LogDirective) (e : LogEvent) : Bool :=
  !d.ofSpans && (d.part.map fun name => e.source.target.startsWith name).getD true &&
    d.fields.all e.fields.contains

/-- How closely a directive names a part. -/
def closeness (d : LogDirective) : Nat :=
  (d.part.map (·.length + 1)).getD 0

/-- A directive counts before another one, or instead of it if it stands behind it. -/
def outranks (d other : LogDirective) : Bool :=
  if d.closeness != other.closeness then other.closeness < d.closeness
  else if d.fields.length != other.fields.length then other.fields.length < d.fields.length
  else d.fields == other.fields || other.fields < d.fields

/-- An event of a level is wanted. -/
def wants (d : LogDirective) (level : LogLevel) : Bool :=
  match d.level with
  | none => false
  | some most => level.detail ≤ most.detail

end LogDirective

/-- A row of directives. -/
abbrev LogFilter := List LogDirective

namespace LogFilter

/-- The filter of a process that is given none, or none that can be used. -/
def standard : LogFilter := [{ level := some .info }]

/-- The filter that a text spells; without any directive only errors are wanted. -/
def ofText? (text : String) : Option LogFilter :=
  let pieces := (text.splitOn ",").filter (!·.isEmpty)
  if pieces.isEmpty then some [{ level := some .error }]
  else pieces.mapM LogDirective.ofText?

/-- The directive that counts for an event. -/
def closest? (f : LogFilter) (e : LogEvent) : Option LogDirective :=
  (f.filter (·.concerns e)).foldl (fun best? d =>
    match best? with
    | none => some d
    | some best => if d.outranks best then some d else some best) none

/-- An event is written down. -/
def allows (f : LogFilter) (e : LogEvent) : Bool :=
  ((f.closest? e).map (·.wants e.level)).getD false

end LogFilter

end StreamedInference
