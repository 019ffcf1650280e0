import StreamedInference.Generation.Accelerator
import StreamedInference.Scheduling

/-!
# Consumers of an accelerator

Parties that each want one generate call: they wait for the gate, start a unit, take items from
its stream, and may drop the stream.

## Main definitions

* `Consumers`: an accelerator and where each party stands.
* `Consumers.takeItems`: what a party takes from its stream.
* `Consumers.tasks`: what goes on by itself.
-/

namespace StreamedInference

/-- What a consumer is doing. -/
inductive ConsumerStatus where
  /-- It wants a call; `asked` tells that it has asked for the gate. -/
  | wanting (call : GenerateCall) (asked : Bool)
  | streaming
  | dropped
deriving DecidableEq, Repr

/-- An accelerator and its consumers. -/
structure Consumers (ι : Type) where
  accelerator : Accelerator ι := {}
  parties : List (ι × ConsumerStatus) := []
  log : List LogEvent := []

/-- The tasks around an accelerator. -/
inductive ConsumerTask (ι : Type) where
  | start (p : ι)
  | unit (n : Nat)
deriving DecidableEq, Repr

namespace Consumers

variable {ι : Type} [DecidableEq ι]

/-- What a consumer is doing. -/
def status? (c : Consumers ι) (p : ι) : Option ConsumerStatus :=
  c.parties.lookup p

/-- A consumer begins to do something else. -/
def setStatus (c : Consumers ι) (p : ι) (s : ConsumerStatus) : Consumers ι :=
  { c with parties := c.parties.map fun e => if e.1 = p then (p, s) else e }

/-- A consumer comes in. -/
def want (c : Consumers ι) (p : ι) (call : GenerateCall) : Consumers ι :=
  if (c.status? p).isSome then c
  else { c with parties := c.parties ++ [(p, .wanting call false)] }

/-- A consumer drops its stream. -/
def drop (c : Consumers ι) (p : ι) : Consumers ι :=
  match c.status? p with
  | some .streaming =>
    { c.setStatus p .dropped with accelerator := c.accelerator.detach p }
  | _ => c

/-- A consumer takes an item, if its stream is there. -/
def next (c : Consumers ι) (p : ι) : Option (Offer × Consumers ι) :=
  match c.status? p with
  | some .streaming =>
    some (c.accelerator.offer p, { c with accelerator := c.accelerator.take p })
  | _ => none

/-- A consumer takes a number of items. -/
def takeItems (c : Consumers ι) (p : ι) : Nat → List Offer × Consumers ι
  | 0 => ([], c)
  | n + 1 =>
    match c.next p with
    | none => ([], c)
    | some (item, c) =>
      let (items, c) := c.takeItems p n
      (item :: items, c)

/-- The consumers whose streams are there. -/
def streaming (c : Consumers ι) : List ι :=
  (c.parties.filter fun e => e.2 == .streaming).map Prod.fst

/-- One step of a task. -/
def step? (c : Consumers ι) : ConsumerTask ι → Option (Consumers ι)
  | .start p =>
    match c.status? p with
    | some (.wanting call false) =>
      some { c.setStatus p (.wanting call true) with accelerator := c.accelerator.request p }
    | some (.wanting call true) =>
      if c.accelerator.gate.mayEnter p then
        some { c.setStatus p .streaming with accelerator := c.accelerator.start p call }
      else none
    | _ => none
  | .unit n =>
    (c.accelerator.unitStep? n).map fun progress =>
      { c with accelerator := progress.accelerator, log := c.log ++ progress.events }

/-- The tasks around an accelerator. -/
def tasks : Tasks (Consumers ι) (ConsumerTask ι) where
  step? := step?
  present c :=
    c.parties.map (.start ·.1) ++ (List.range c.accelerator.units.length).map .unit

/-- More steps than the tasks can make without something happening from outside. -/
def bound (c : Consumers ι) : Nat :=
  4 * (c.accelerator.bound +
    (c.parties.length + 1) * (c.accelerator.engine.conduct.longest + 8))

end Consumers

end StreamedInference
