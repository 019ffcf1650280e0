import StreamedInference.Generation.Unit
import StreamedInference.Settings.Configuration
import StreamedInference.Wire.Message

/-!
# Sessions

A session receives fragments, keeps the transcript of all of them, and makes one turn of each
fragment that is not empty: it assembles a prompt, waits for the gate, lets a unit generate, passes
on each piece of text as a chunk, and ends the turn with one more chunk. A session ends with its
inbound stream, with its client, with a failure, or with the server.

## Main definitions

* `CloseReason`: why a session closed.
* `SessionPhase`, `Session`: where a session stands, and what it has done.
-/

namespace StreamedInference

/-- Why a session closed. -/
inductive CloseReason where
  /-- The client has nothing more to send. -/
  | inboundClosed
  /-- The client is not there any more. -/
  | clientGone
  /-- The inbound stream failed. -/
  | transport (message : String)
  /-- A turn failed, and the policy closes sessions for that. -/
  | generationError
  /-- The server drains, and the session was idle. -/
  | drained
  /-- The server stops. -/
  | terminated
deriving DecidableEq, Repr

/-- The words of a reason. -/
def CloseReason.message : CloseReason → String
  | .inboundClosed => "inbound stream closed"
  | .clientGone => "client went away"
  | .transport message => "transport error: " ++ message
  | .generationError => "generation error"
  | .drained => "server draining"
  | .terminated => "server terminated"

/-- What an inbound stream brings. -/
inductive Inbound where
  | fragment (r : Request)
  /-- The stream fails. -/
  | failure (s : Status)
  /-- The stream ends. -/
  | finish
deriving DecidableEq, Repr

/-- Where a session stands. All but the first and the last are places where it may have to wait. -/
inductive SessionPhase where
  /-- It has not begun. -/
  | opening
  /-- It waits for a fragment. -/
  | idle
  /-- It waits for the gate. -/
  | queued (call : GenerateCall)
  /-- It waits for its unit. -/
  | listening
  /-- It waits for room for a chunk of text. -/
  | sending (chunk : Response)
  /-- It waits for room for the last chunk of a turn, which may have failed. -/
  | ending (chunk : Response) (failure : Option Failure)
  | closed (reason : CloseReason)
deriving DecidableEq, Repr

/-- A session. -/
structure Session where
  phase : SessionPhase := .opening
  /-- What the client has sent and the session has not looked at. -/
  inbound : List Inbound := []
  /-- The fragments that turns were made of. -/
  transcript : List String := []
  /-- The number of turns that have begun. -/
  turns : Nat := 0
  /-- The tokens of all turns that are over. -/
  tokens : Nat := 0
  /-- The tokens of the turn that is under way. -/
  turnTokens : Nat := 0
  /-- The chunks put on the outbound stream. -/
  sent : List Response := []
  /-- How many of them the client has taken. -/
  taken : Nat := 0
  /-- The client does not read any more. -/
  clientGone : Bool := false
deriving Repr

namespace Session

/-- The reason for which a session has closed. -/
def closeReason? (s : Session) : Option CloseReason :=
  match s.phase with
  | .closed reason => some reason
  | _ => none

/-- A session that has closed. -/
def isClosed (s : Session) : Bool :=
  s.closeReason?.isSome

/-- How many chunks wait for the client. -/
def unread (s : Session) : Nat :=
  s.sent.length - s.taken

/-- What is said to the session is kept for it. -/
def receive (s : Session) (item : Inbound) : Session :=
  { s with inbound := s.inbound ++ [item] }

end Session

end StreamedInference
