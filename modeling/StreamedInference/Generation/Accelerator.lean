import StreamedInference.Gate
import StreamedInference.Generation.Unit

/-!
# The accelerator

The engine behind its gate, and the units of all generate calls in the order in which they began.
A party enters the gate to start a unit; the unit leaves it when the call has ended.

## Main definitions

* `Accelerator`: the engine, its gate and its units.
* `Accelerator.start`: a party enters the gate with a call.
* `Accelerator.unitStep?`: a unit goes on.
* `Accelerator.emit?`, `Accelerator.conclude?`: a call is driven from outside.
-/

namespace StreamedInference

/-- An engine, its gate and the units of its calls. -/
structure Accelerator (ι : Type) where
  engine : Engine := {}
  gate : Gate ι := .free
  units : List (GenerationUnit ι) := []
  /-- The greatest number of calls that were in progress at once. -/
  peak : Nat := 0

namespace Accelerator

variable {ι : Type} [DecidableEq ι]

/-- The calls in the order in which they began. -/
def calls (a : Accelerator ι) : List GenerateCall :=
  a.units.map (·.call)

/-- The units whose calls are in progress. -/
def running (a : Accelerator ι) : List (GenerationUnit ι) :=
  a.units.filter (·.isRunning)

/-- The units that have not left the gate. -/
def unfinished (a : Accelerator ι) : List (GenerationUnit ι) :=
  a.units.filter (!·.finished)

/-- The place of the unit that a party has started. -/
def place? (a : Accelerator ι) (owner : ι) : Option Nat :=
  a.units.findIdx? (·.owner = owner)

/-- The unit that a party has started. -/
def unit? (a : Accelerator ι) (owner : ι) : Option (GenerationUnit ι) :=
  a.units.find? (·.owner = owner)

/-- Changes the unit that a party has started. -/
def change (a : Accelerator ι) (owner : ι) (f : GenerationUnit ι → GenerationUnit ι) :
    Accelerator ι :=
  { a with units := a.units.map fun u => if u.owner = owner then f u else u }

/-- A party asks for the gate. -/
def request (a : Accelerator ι) (owner : ι) : Accelerator ι :=
  { a with gate := a.gate.request owner }

/-- A party gives up waiting for the gate. -/
def withdraw (a : Accelerator ι) (owner : ι) : Accelerator ι :=
  { a with gate := a.gate.withdraw owner }

/-- A chosen party enters the gate and starts a call. -/
def start (a : Accelerator ι) (owner : ι) (call : GenerateCall) : Accelerator ι :=
  let unit : GenerationUnit ι :=
    { owner := owner, call := call, script := a.engine.conduct.script? a.units.length call }
  { a with
    gate := a.gate.enter owner
    units := a.units ++ [unit]
    peak := max a.peak (a.running.length + 1) }

/-- What a party's unit has for it. -/
def offer (a : Accelerator ι) (owner : ι) : Offer :=
  match a.unit? owner with
  | some u => u.offer
  | none => .pending

/-- A party takes what its unit has for it. -/
def take (a : Accelerator ι) (owner : ι) : Accelerator ι :=
  a.change owner .take

/-- A party leaves its unit alone. -/
def detach (a : Accelerator ι) (owner : ι) : Accelerator ι :=
  a.change owner .detach

/-- What a step of a unit comes to. -/
structure Progress (ι : Type) where
  accelerator : Accelerator ι
  events : List LogEvent := []
  /-- The unit has left the gate in this step. -/
  left : Bool := false

/-- The unit at a place goes on, if it can: its call goes on, or the unit leaves the gate. -/
def unitStep? (a : Accelerator ι) (n : Nat) : Option (Progress ι) :=
  match a.units[n]? with
  | none => none
  | some u =>
    match u.callStep? with
    | some (u', events) => some ⟨{ a with units := a.units.set n u' }, events, false⟩
    | none =>
      if u.ending.isSome && !u.finished then
        some ⟨{ a with
          gate := a.gate.release u.owner
          units := a.units.set n { u with finished := true } }, [], true⟩
      else none

/-! ### Calls driven from outside -/

/-- The place of a call in progress that nothing but the outside drives. -/
def drivenPlace? (a : Accelerator ι) : Option Nat :=
  a.units.findIdx? fun u => u.isRunning && u.script.isNone

/-- What the driver of a call learns when it emits a fragment. -/
structure EmitReport where
  /-- The consumer is still there. -/
  attached : Bool
  /-- How many fragments, without empty ones, the call has emitted. -/
  emitted : Nat
deriving DecidableEq, Repr

/-- The call that is driven from outside emits a fragment, if there is such a call. -/
def emit? (a : Accelerator ι) (text : String) : Option (EmitReport × Accelerator ι) :=
  match a.drivenPlace? with
  | none => none
  | some n =>
    match a.units[n]? with
    | none => none
    | some u =>
      let u := u.emit text
      some (⟨!u.detached, u.emitted.length⟩, { a with units := a.units.set n u })

/-- The call that is driven from outside is to end, if there is such a call. -/
def conclude? (a : Accelerator ι) (ending : Ending) : Option (Accelerator ι) :=
  match a.drivenPlace? with
  | none => none
  | some n =>
    match a.units[n]? with
    | none => none
    | some u => some { a with units := a.units.set n { u with script := some ⟨[], ending⟩ } }

/-! ### Counts -/

/-- The calls that have ended. -/
def completed (a : Accelerator ι) : Nat :=
  (a.units.filter (!·.isRunning)).length

/-- Whether two calls were ever in progress at once. -/
def everOverlapped (a : Accelerator ι) : Bool :=
  1 < a.peak

/-- More steps than the units can make, and their consumers with what they emit, without a new
call. -/
def bound (a : Accelerator ι) : Nat :=
  a.units.foldl (fun n u =>
    n + 4 + ((u.script.map fun s => s.emits.length).getD 0) + (u.emitted.length - u.taken)) 0

end Accelerator

end StreamedInference
