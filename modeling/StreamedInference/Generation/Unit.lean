import StreamedInference.Generation.Engine

/-!
# Generation units

A unit runs one generate call in the background. Its consumer takes the fragments in order and
then learns how the call ended; or it goes away, and the call runs on to its end unheard.

An error comes right behind the fragments. That the call ended well, or broke down, is told only
when the unit is finished and has left the gate.

## Main definitions

* `GenerationUnit`: the unit of a call.
* `GenerationUnit.offer`, `GenerationUnit.take`: what the consumer gets next.
* `GenerationUnit.callStep?`: the call does the next thing in its script.
-/

namespace StreamedInference

/-- What the stream of a unit has for its consumer. -/
inductive Offer where
  /-- Nothing yet. -/
  | pending
  | fragment (text : String)
  | failed (f : Failure)
  /-- Nothing any more. -/
  | ended
deriving DecidableEq, Repr

/-- The unit of a generate call that a party named in `ι` has started. -/
structure GenerationUnit (ι : Type) where
  owner : ι
  call : GenerateCall
  /-- What the call has still to do; nothing is known of a call that is driven from outside. -/
  script : Option CallScript
  /-- The fragments it has emitted, without empty ones. -/
  emitted : List String := []
  /-- How the call ended, once it has. -/
  ending : Option Ending := none
  /-- The unit has left the gate. -/
  finished : Bool := false
  /-- How many fragments the consumer has taken. -/
  taken : Nat := 0
  /-- The consumer has learned of the failure. -/
  reported : Bool := false
  /-- The consumer has gone. -/
  detached : Bool := false
deriving Repr

namespace GenerationUnit

variable {ι : Type}

/-- The call is in progress. -/
def isRunning (u : GenerationUnit ι) : Bool :=
  u.ending.isNone

/-- What the consumer gets next. -/
def offer (u : GenerationUnit ι) : Offer :=
  match u.emitted[u.taken]? with
  | some text => .fragment text
  | none =>
    match u.ending with
    | none => .pending
    | some (.failure f) =>
      if !u.reported then .failed f else if u.finished then .ended else .pending
    | some .success => if u.finished then .ended else .pending
    | some .breakdown =>
      if !u.finished then .pending else if u.reported then .ended else .failed .breakdown

/-- The consumer takes what it is offered. -/
def take (u : GenerationUnit ι) : GenerationUnit ι :=
  match u.offer with
  | .fragment _ => { u with taken := u.taken + 1 }
  | .failed _ => { u with reported := true }
  | _ => u

/-- The consumer goes away. -/
def detach (u : GenerationUnit ι) : GenerationUnit ι :=
  { u with detached := true }

/-- The call hands over a fragment; an empty one leaves no trace. -/
def emit (u : GenerationUnit ι) (text : String) : GenerationUnit ι :=
  if text.isEmpty then u else { u with emitted := u.emitted ++ [text] }

/-- What is noted about the end of a call. -/
def endingEvents (u : GenerationUnit ι) : Ending → List LogEvent
  | .failure f =>
    [⟨.bridge, .warn, "Generation failed after " ++ toString u.emitted.length ++
      " fragments: " ++ f.message, []⟩]
  | _ => []

/-- The call does the next thing in its script, if it has one: it emits a fragment or ends. -/
def callStep? (u : GenerationUnit ι) : Option (GenerationUnit ι × List LogEvent) :=
  match u.ending, u.script with
  | none, some ⟨text :: emits, ending⟩ =>
    some ({ u with script := some ⟨emits, ending⟩ }.emit text, [])
  | none, some ⟨[], ending⟩ => some ({ u with ending := some ending }, u.endingEvents ending)
  | _, _ => none

end GenerationUnit

end StreamedInference
