/-!
# The gate

One accelerator serves many parties. A party asks for it, waits for its turn, enters, and leaves.
When the gate is left the party that has waited longest is chosen; it still has to come in, and if
it gives up instead the next one is chosen. A free gate has nobody waiting before it, by the form
of the type.

## Main definitions

* `Gate`: the state of a gate, with `Gate.request`, `Gate.enter`, `Gate.release` and
  `Gate.withdraw`.
* `Gate.holder?`, `Gate.queue`: who is inside, and who waits.
* `GateHistory`: a gate and the parties it has admitted, with `GateHistory.step`.
-/

namespace StreamedInference

/-- The gate to the accelerator: free, or taken by a party that has entered or is about to, with
others waiting behind it. -/
inductive Gate (ι : Type) where
  | free
  | taken (party : ι) (entered : Bool) (waiting : List ι)
deriving DecidableEq, Repr

namespace Gate

variable {ι : Type} [DecidableEq ι]

/-- The gate after the party in it has gone: the first in the queue is chosen. -/
def next : List ι → Gate ι
  | [] => .free
  | p :: waiting => .taken p false waiting

/-- A party asks for the gate. -/
def request (g : Gate ι) (p : ι) : Gate ι :=
  match g with
  | .free => .taken p false []
  | .taken q entered waiting => .taken q entered (waiting ++ [p])

/-- A party has been chosen and may enter. -/
def mayEnter (g : Gate ι) (p : ι) : Bool :=
  match g with
  | .taken q false _ => q == p
  | _ => false

/-- A party that has been chosen enters. -/
def enter (g : Gate ι) (p : ι) : Gate ι :=
  match g with
  | .taken q false waiting => if q = p then .taken q true waiting else g
  | g => g

/-- The party inside leaves. -/
def release (g : Gate ι) (p : ι) : Gate ι :=
  match g with
  | .taken q true waiting => if q = p then next waiting else g
  | g => g

/-- A party that has not entered gives up. -/
def withdraw (g : Gate ι) (p : ι) : Gate ι :=
  match g with
  | .free => .free
  | .taken q entered waiting =>
    if q = p && !entered then next waiting else .taken q entered (waiting.erase p)

/-- The party inside. -/
def holder? : Gate ι → Option ι
  | .taken p true _ => some p
  | _ => none

/-- The parties that have asked and not entered, in the order in which they asked. -/
def queue : Gate ι → List ι
  | .free => []
  | .taken _ true waiting => waiting
  | .taken p false waiting => p :: waiting

end Gate

/-- What a party does at the gate. -/
inductive GateEvent (ι : Type) where
  | request (p : ι)
  | enter (p : ι)
  | release (p : ι)
  | withdraw (p : ι)
deriving DecidableEq, Repr

/-- A gate and the parties it has admitted, in order. -/
structure GateHistory (ι : Type) where
  gate : Gate ι := .free
  admitted : List ι := []
deriving Repr

namespace GateHistory

variable {ι : Type} [DecidableEq ι]

/-- A party that is at the gate. -/
def isPresent (h : GateHistory ι) (p : ι) : Bool :=
  h.gate.holder? == some p || h.gate.queue.contains p

/-- What happens at the gate. Who is there already does not ask, and nobody enters, leaves or
gives up who is not in the place to do so. -/
def step (h : GateHistory ι) : GateEvent ι → GateHistory ι
  | .request p => if h.isPresent p then h else { h with gate := h.gate.request p }
  | .enter p =>
    if h.gate.mayEnter p then ⟨h.gate.enter p, h.admitted ++ [p]⟩ else h
  | .release p => { h with gate := h.gate.release p }
  | .withdraw p =>
    if h.gate.queue.contains p then { h with gate := h.gate.withdraw p } else h

/-- A chosen party enters. -/
def settle (h : GateHistory ι) : GateHistory ι :=
  match h.gate with
  | .taken p false _ => h.step (.enter p)
  | _ => h

end GateHistory

end StreamedInference
