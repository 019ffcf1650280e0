import StreamedInference.Text.Quoted

/-!
# Failures

What can go wrong in the service, in what words it is told, and which status a remote procedure
call ends with because of it.

## Main definitions

* `StatusCode`, `Status`: how a remote procedure call ends.
* `Failure`: what can go wrong, with `Failure.message`, `Failure.clientMessage` and
  `Failure.status`.
-/

namespace StreamedInference

/-- The codes a remote procedure call can end with. -/
inductive StatusCode where
  | ok
  | cancelled
  | unknown
  | invalidArgument
  | deadlineExceeded
  | notFound
  | alreadyExists
  | permissionDenied
  | resourceExhausted
  | failedPrecondition
  | aborted
  | outOfRange
  | unimplemented
  | internal
  | unavailable
  | dataLoss
  | unauthenticated
deriving DecidableEq, Repr

namespace StatusCode

/-- The codes in the order of their numbers, which begin at zero. -/
def all : List StatusCode :=
  [.ok, .cancelled, .unknown, .invalidArgument, .deadlineExceeded, .notFound, .alreadyExists,
    .permissionDenied, .resourceExhausted, .failedPrecondition, .aborted, .outOfRange,
    .unimplemented, .internal, .unavailable, .dataLoss, .unauthenticated]

/-- The number of a code. -/
def number (c : StatusCode) : Nat :=
  all.idxOf c

/-- The code with a number; a number that belongs to none counts as unknown. -/
def ofNumber (n : Nat) : StatusCode :=
  all.getD n .unknown

/-- What a code means. -/
def description : StatusCode → String
  | .ok => "The operation completed successfully"
  | .cancelled => "The operation was cancelled"
  | .unknown => "Unknown error"
  | .invalidArgument => "Client specified an invalid argument"
  | .deadlineExceeded => "Deadline expired before operation could complete"
  | .notFound => "Some requested entity was not found"
  | .alreadyExists => "Some entity that we attempted to create already exists"
  | .permissionDenied => "The caller does not have permission to execute the specified operation"
  | .resourceExhausted => "Some resource has been exhausted"
  | .failedPrecondition =>
    "The system is not in a state required for the operation's execution"
  | .aborted => "The operation was aborted"
  | .outOfRange => "Operation was attempted past the valid range"
  | .unimplemented => "Operation is not implemented or not supported"
  | .internal => "Internal error"
  | .unavailable => "The service is currently unavailable"
  | .dataLoss => "Unrecoverable data loss or corruption"
  | .unauthenticated =>
    "The request does not have valid authentication credentials"

end StatusCode

/-- How a remote procedure call ends. -/
structure Status where
  code : StatusCode
  message : String
deriving DecidableEq, Repr

/-- A status in words: what its code means, and its message if it has one. -/
def Status.describe (s : Status) : String :=
  "code: '" ++ s.code.description ++ "'" ++
    if s.message.isEmpty then "" else ", message: " ++ Quoted.quote s.message

/-- What went wrong. -/
inductive Failure where
  /-- The chat template could not be rendered. -/
  | assembly (reason : String)
  /-- The engine failed during a turn. -/
  | generation (reason : String)
  /-- The registry did not take a registration or a withdrawal. -/
  | registry (reason : String)
  /-- The engine could not be loaded. -/
  | engineLoad (reason : String)
  /-- The service is draining and admits no session. -/
  | shuttingDown
deriving DecidableEq, Repr

namespace Failure

/-- The words of a failure. -/
def message : Failure → String
  | .assembly reason => "Prompt assembly failed: " ++ reason
  | .generation reason => "Generation failed: " ++ reason
  | .registry reason => "Registry error: " ++ reason
  | .engineLoad reason => "Engine load failed: " ++ reason
  | .shuttingDown => "Service is shutting down"

/-- The words a client reads at the end of a turn: for a failed generation the engine's own. -/
def clientMessage : Failure → String
  | .generation reason => reason
  | f => f.message

/-- The status of a call that ends with a failure. -/
def status (f : Failure) : Status :=
  match f with
  | .shuttingDown => ⟨.unavailable, f.message⟩
  | f => ⟨.internal, f.message⟩

/-- What a client hears of an engine that broke down instead of returning. -/
def breakdown : Failure := .generation "generation thread panicked"

end Failure

end StreamedInference
