import StreamedInference.Session.Step

/-!
# The course of a session

What a session comes to if its client stays and reads, the server neither drains nor terminates,
and each of its calls is answered with a script: a fold over what the client sends. It knows
nothing of the gate, of units, of other sessions or of the room in the outbound buffer, so it tells
which chunks a session owes to its client whatever goes on around it.

## Main definitions

* `CallScript.chunks`: the chunks of one turn.
* `SessionCourse.step`, `SessionCourse.of`: the fold over what the client sends.
-/

namespace StreamedInference

/-- The failure that a consumer learns of at the end of a call. -/
def Ending.failure? : Ending → Option Failure
  | .success => none
  | .failure f => some f
  | .breakdown => some .breakdown

namespace CallScript

/-- The fragments that a consumer gets: all but the empty ones. -/
def texts (script : CallScript) : List String :=
  script.emits.filter (!·.isEmpty)

/-- The chunks of a turn whose call has the script. They are counted from `base`, and the last one
shows the same count as the one before it. -/
def chunks (script : CallScript) (base : Nat) : List Response :=
  let count := Int32.ofNat (base + script.texts.length)
  script.texts.mapIdx (fun k text => Response.partialChunk text (Int32.ofNat (base + k + 1))) ++
    [match script.ending.failure? with
      | none => .finished count
      | some f => .failed f.clientMessage count]

end CallScript

/-- What a session has come to between two turns. -/
structure SessionCourse where
  /-- The fragments that turns were made of. -/
  transcript : List String := []
  /-- The calls that were made, in order. -/
  calls : List GenerateCall := []
  /-- The tokens of all turns. -/
  tokens : Nat := 0
  chunks : List Response := []
  /-- Why the session has closed, if it has. -/
  reason? : Option CloseReason := none
deriving Repr

namespace SessionCourse

/-- The call of a turn that is made of a fragment: its prompt is assembled from all fragments up to
this one, and only this one's wish for a temperature counts. -/
def callFor (setup : SessionSetup) (c : SessionCourse) (r : Request) : GenerateCall where
  prompt :=
    (Prompt.assemble setup.template setup.systemPrompt
      (Session.rawText (c.transcript ++ [r.message]))).1
  sampling := Session.samplingFor setup r.temperature

/-- A turn that is made of a fragment and whose call has a script. -/
def turn (setup : SessionSetup) (c : SessionCourse) (r : Request) (script : CallScript) :
    SessionCourse where
  transcript := c.transcript ++ [r.message]
  calls := c.calls ++ [c.callFor setup r]
  tokens := c.tokens + script.texts.length
  chunks := c.chunks ++ script.chunks (if setup.policy.cumulativeTokenCount then c.tokens else 0)
  reason? :=
    if script.ending.failure?.isSome && setup.policy.closeOnGenerationError then
      some .generationError
    else none

/-- What the next item of the inbound stream leads to, if the session has not closed. The calls are
answered in their order with `answers`. -/
def step (setup : SessionSetup) (answers : Nat → GenerateCall → CallScript) (c : SessionCourse)
    (item : Inbound) : SessionCourse :=
  match c.reason?, item with
  | some _, _ => c
  | none, .finish => { c with reason? := some .inboundClosed }
  | none, .failure status => { c with reason? := some (.transport status.message) }
  | none, .fragment r =>
    if r.message.isEmpty then c
    else c.turn setup r (answers c.calls.length (c.callFor setup r))

/-- The course of a session to which its client has sent `items`. -/
def of (setup : SessionSetup) (answers : Nat → GenerateCall → CallScript)
    (items : List Inbound) : SessionCourse :=
  items.foldl (step setup answers) {}

end SessionCourse

end StreamedInference
