import StreamedInference.Conversation.Prompt
import StreamedInference.Sampling

/-!
# Engines

An engine answers a generate call with a row of fragments of text and an ending. It also brings a
template for conversations and a description of itself.

## Main definitions

* `Ending`, `CallScript`: what a generate call does.
* `CallScript.replay`: a call that replays tokens.
* `Conduct`, `Engine`: how an engine behaves in all its calls.
-/

namespace StreamedInference

/-- How a generate call ends. -/
inductive Ending where
  | success
  | failure (f : Failure)
  /-- It breaks down without returning. -/
  | breakdown
deriving DecidableEq, Repr

/-- What a generate call does: the fragments it emits, which may be empty, and how it ends. -/
structure CallScript where
  emits : List String := []
  ending : Ending := .success
deriving DecidableEq, Repr

namespace CallScript

/-- Replays tokens, of which `handed` have been handed over already. The failure comes when its
number of tokens has been reached; if there are not so many tokens it comes at the end. -/
def replayFrom (failAfter : Option (Nat × String)) (handed : Nat) :
    List String → List String × Ending
  | [] =>
    match failAfter with
    | some (count, reason) =>
      ([], if handed ≤ count then .failure (.generation reason) else .success)
    | none => ([], .success)
  | token :: tokens =>
    match failAfter with
    | some (count, reason) =>
      if handed = count then ([], .failure (.generation reason))
      else
        let (emits, ending) := replayFrom failAfter (handed + 1) tokens
        (token :: emits, ending)
    | none =>
      let (emits, ending) := replayFrom failAfter (handed + 1) tokens
      (token :: emits, ending)

/-- A call that replays tokens, and fails after some number of them if that is wanted. -/
def replay (tokens : List String) (failAfter : Option (Nat × String)) : CallScript :=
  let (emits, ending) := replayFrom failAfter 0 tokens
  ⟨emits, ending⟩

end CallScript

/-- What a generate call is given. -/
structure GenerateCall where
  prompt : String
  sampling : Sampling
deriving DecidableEq, Repr

/-- How an engine behaves in its calls. -/
inductive Conduct where
  /-- Every call is driven from outside. -/
  | driven
  /-- Every call replays the same tokens. -/
  | replay (tokens : List String) (failAfter : Option (Nat × String))
  /-- Each call has a script; the last script is used again for further calls. -/
  | scripted (calls : List CallScript)
  /-- What a call does depends on what it is given. -/
  | computed (script : GenerateCall → CallScript)

namespace Conduct

/-- The script of the `n`-th call, if it is not driven from outside. -/
def script? (c : Conduct) (n : Nat) (call : GenerateCall) : Option CallScript :=
  match c with
  | .driven => none
  | .replay tokens failAfter => some (.replay tokens failAfter)
  | .scripted calls => (calls[n]?).or calls.getLast?
  | .computed script => some (script call)

/-- No script of an engine has more fragments; a computed script has one for a token at most, and
a last one. -/
def longest : Conduct → Nat
  | .driven => 0
  | .replay tokens _ => tokens.length
  | .scripted calls => (calls.map fun s => s.emits.length).foldl max 0
  | .computed _ => UInt32.size

end Conduct

/-- An engine. -/
structure Engine where
  conduct : Conduct := .driven
  template : ChatTemplate := fun ts cue => .ok (ChatMl.render ts cue)
  description : String := "text-generation engine"

/-- The description of an engine that replays tokens. -/
def replayDescription (tokens : List String) : String :=
  "scripted engine (" ++ toString tokens.length ++ " tokens)"

end StreamedInference
