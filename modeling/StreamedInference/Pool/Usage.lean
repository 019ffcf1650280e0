import StreamedInference.Pool.Basic
import StreamedInference.Scheduling

/-!
# A pool in use

Parties that ask for slots, give up, hold slots and run tasks on them, beside background tasks
without a slot.

## Main definitions

* `PoolUsage`: a pool and where each party stands.
* `PoolUsage.act`: what parties and operators do.
* `PoolUsage.tasks`: what goes on by itself.
-/

namespace StreamedInference

/-- What ends a task. -/
inductive TaskEnd where
  | draining
  | terminated
  /-- Only a stop from outside. -/
  | stop
deriving DecidableEq, Repr

/-- What a party is doing. -/
inductive PartyStatus where
  /-- It asks for a slot; `asked` tells that it has done so already. -/
  | waiting (asked : Bool)
  | refused
  | withdrawn
  | admitted
  | released
  /-- It runs a task, on a slot or in the background, until the task ends; one that waits for
  nothing else can be stopped. -/
  | running (onSlot : Bool) (ending : TaskEnd) (stopped : Bool)
  | done
deriving DecidableEq, Repr

/-- A pool and the parties that use it. -/
structure PoolUsage (ι : Type) where
  pool : Pool ι
  parties : List (ι × PartyStatus) := []
  log : List LogEvent := []

/-- What can be done with a pool. -/
inductive PoolAction (ι : Type) where
  | ask (party : ι)
  | cancel (party : ι)
  | release (party : ι)
  | spawn (party : ι) (ending : TaskEnd)
  | background (party : ι)
  | stop (party : ι)
  | shutdown (grace : Nat)
  | advance (ms : Nat)

/-- The tasks around a pool. -/
inductive PoolTask (ι : Type) where
  | party (p : ι)
  | drain (k : Nat)
deriving DecidableEq, Repr

namespace PoolUsage

variable {ι : Type} [DecidableEq ι]

/-- What a party is doing. -/
def status? (u : PoolUsage ι) (p : ι) : Option PartyStatus :=
  u.parties.lookup p

/-- A party begins to do something else. -/
def setStatus (u : PoolUsage ι) (p : ι) (s : PartyStatus) : PoolUsage ι :=
  { u with parties := u.parties.map fun e => if e.1 = p then (p, s) else e }

/-- A party comes in. -/
def join (u : PoolUsage ι) (p : ι) (s : PartyStatus) : PoolUsage ι :=
  if (u.status? p).isSome then u else { u with parties := u.parties ++ [(p, s)] }

/-- Carries out an action; one that does not suit what the party is doing has no effect. -/
def act (u : PoolUsage ι) : PoolAction ι → PoolUsage ι
  | .ask p => u.join p (.waiting false)
  | .cancel p =>
    match u.status? p with
    | some (.waiting _) => { u.setStatus p .withdrawn with pool := u.pool.withdraw p }
    | _ => u
  | .release p =>
    match u.status? p with
    | some .admitted => { u.setStatus p .released with pool := u.pool.release }
    | _ => u
  | .spawn p ending =>
    match u.status? p with
    | some .admitted => { u.setStatus p (.running true ending false) with pool := u.pool.track }
    | _ => u
  | .background p =>
    if (u.status? p).isSome then u
    else { u.join p (.running false .stop false) with pool := u.pool.track }
  | .stop p =>
    match u.status? p with
    | some (.running onSlot .stop _) => u.setStatus p (.running onSlot .stop true)
    | _ => u
  | .shutdown grace => { u with pool := u.pool.shutdown grace }
  | .advance ms => { u with pool := u.pool.advance ms }

/-- Whether a task ends, given the signals of the pool. -/
def ends (pool : Pool ι) : TaskEnd → Bool
  | .draining => pool.draining
  | .terminated => pool.terminated
  | .stop => false

/-- One step of a party. -/
def partyStep? (u : PoolUsage ι) (p : ι) : Option (PoolUsage ι) :=
  match u.status? p with
  | some (.waiting asked) =>
    match u.pool.ask p asked with
    | (.admitted, pool) => some { u.setStatus p .admitted with pool := pool }
    | (.refused, pool) => some { u.setStatus p .refused with pool := pool }
    | (.pending, pool) =>
      if asked then none else some { u.setStatus p (.waiting true) with pool := pool }
  | some (.running onSlot ending stopped) =>
    if stopped || ends u.pool ending then
      let pool := if onSlot then u.pool.release else u.pool
      some { u.setStatus p .done with pool := pool.untrack }
    else none
  | _ => none

/-- One step of a task. -/
def step? (u : PoolUsage ι) : PoolTask ι → Option (PoolUsage ι)
  | .party p => u.partyStep? p
  | .drain k =>
    (u.pool.drainStep? k).map fun (pool, events) =>
      { u with pool := pool, log := u.log ++ events }

/-- The tasks around a pool. -/
def tasks : Tasks (PoolUsage ι) (PoolTask ι) where
  step? := step?
  present u := u.parties.map (.party ·.1) ++ (List.range u.pool.drains.length).map .drain

/-- More steps than the tasks can make without something happening from outside. -/
def bound (u : PoolUsage ι) : Nat :=
  12 * (u.parties.length + u.pool.drains.length + 1)

end PoolUsage

end StreamedInference
