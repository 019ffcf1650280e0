import StreamedInference.Single.Basic
import StreamedInference.Text.ControlSequence

/-!
# Log events

What the service notes about its work: a level, the part of the service it comes from, a message
and named values.
-/

namespace StreamedInference

/-- How weighty an event is; the weightiest first. -/
inductive LogLevel where
  | error
  | warn
  | info
  | debug
  | trace
deriving DecidableEq, Repr

namespace LogLevel

/-- The name of a level. -/
def name : LogLevel → String
  | .error => "ERROR"
  | .warn => "WARN"
  | .info => "INFO"
  | .debug => "DEBUG"
  | .trace => "TRACE"

/-- How many levels are weightier. -/
def detail : LogLevel → Nat
  | .error => 0
  | .warn => 1
  | .info => 2
  | .debug => 3
  | .trace => 4

end LogLevel

/-- The part of the service that an event comes from. -/
inductive LogSource where
  | program
  | transportClient
  | lifecycle
  | pool
  | registry
  | engine
  | prompt
  | handler
  | session
  | bridge
deriving DecidableEq, Repr

/-- A value of an event. -/
inductive LogValue where
  | integer (n : Int)
  | single (x : Single)
  | text (s : String)
deriving DecidableEq, Repr

/-- An event. -/
structure LogEvent where
  source : LogSource
  level : LogLevel
  message : String
  values : List (String × LogValue) := []
deriving DecidableEq, Repr

namespace LogEvent

/-- The names of what an event tells. -/
def fields (e : LogEvent) : List String :=
  "message" :: e.values.map Prod.fst

/-- The message as it is written down: it gives no orders to a terminal. -/
def writtenMessage (e : LogEvent) : String :=
  ControlSequence.escape e.message

end LogEvent

end StreamedInference
