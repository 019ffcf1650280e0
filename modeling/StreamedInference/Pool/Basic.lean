import StreamedInference.Log

/-!
# The session pool

A pool bounds how many sessions are open at once, keeps count of the tasks that a shutdown has to
wait for, and carries the two signals of a shutdown: draining, after which nobody is admitted, and
termination, after which sessions stop.

A party that finds no free slot waits. A slot that is given back goes to the party that has waited
longest, which still has to take it.

## Main definitions

* `Pool`: the state of a pool.
* `Pool.ask`, `Pool.withdraw`, `Pool.release`: slots are asked for, forgone and given back.
* `Pool.track`, `Pool.untrack`: tasks begin and end.
* `Pool.shutdown`, `Pool.drainStep?`: a shutdown is asked for and goes on.
-/

namespace StreamedInference

/-- How a shutdown ended. -/
inductive DrainOutcome where
  /-- All tasks ended within the grace period. -/
  | clean
  /-- All tasks ended, some of them after they had been told to. -/
  | forced
  /-- Some task did not end. -/
  | abandoned
deriving DecidableEq, Repr

/-- The name of an outcome. -/
def DrainOutcome.name : DrainOutcome → String
  | .clean => "Clean"
  | .forced => "Forced"
  | .abandoned => "Abandoned"

/-- How far a shutdown has come; times are in milliseconds. -/
inductive DrainPhase where
  /-- It has been asked for, with a grace period. -/
  | called (grace : Nat)
  /-- Tasks may end by themselves until the deadline. -/
  | draining (deadline : Nat)
  /-- Tasks have been told to end and have time until the deadline. -/
  | terminating (deadline : Nat)
  | ended (outcome : DrainOutcome)
deriving DecidableEq, Repr

/-- A shutdown. -/
structure Drain where
  phase : DrainPhase
  /-- No task was left at some moment since the phase began. -/
  emptied : Bool := false
deriving DecidableEq, Repr

namespace Drain

/-- The outcome of a shutdown that is over. -/
def outcome? (d : Drain) : Option DrainOutcome :=
  match d.phase with
  | .ended outcome => some outcome
  | _ => none

/-- No task is left. -/
def noticeEmpty (d : Drain) : Drain :=
  match d.phase with
  | .draining _ | .terminating _ => { d with emptied := true }
  | _ => d

/-- How long tasks that have been told to end may take. -/
def terminationGrace : Nat := 3000

end Drain

/-- A pool of session slots for parties named by `ι`. -/
structure Pool (ι : Type) where
  /-- The number of slots. -/
  limit : Nat
  /-- The slots that are neither taken nor set aside. -/
  free : Nat
  /-- The parties for which a slot is set aside. -/
  chosen : List ι := []
  /-- The parties that wait, in the order in which they came. -/
  waiting : List ι := []
  /-- The number of taken slots. -/
  inflight : Nat := 0
  /-- The number of tasks that a shutdown waits for. -/
  tracked : Nat := 0
  draining : Bool := false
  terminated : Bool := false
  now : Nat := 0
  drains : List Drain := []
deriving Repr

/-- Why a bound on sessions or on waiting chunks cannot be kept. -/
inductive CapacityFault where
  | tooMany
  | noBuffer
deriving DecidableEq, Repr

/-- The most permits that can be handed out. -/
def maxPermits : Nat := 2305843009213693951

/-- The wording of a fault. -/
def CapacityFault.message : CapacityFault → String
  | .tooMany =>
    "a semaphore may not have more than MAX_PERMITS permits (" ++ toString maxPermits ++ ")"
  | .noBuffer => "mpsc bounded channel requires buffer > 0"

/-- Why an outbound buffer for that many waiting chunks cannot be made, if so. -/
def bufferFault? (size : Nat) : Option CapacityFault :=
  if size = 0 then some .noBuffer else if maxPermits < size then some .tooMany else none

/-- What comes of asking for a slot. -/
inductive Admittance where
  | admitted
  | refused
  | pending
deriving DecidableEq, Repr

namespace Pool

variable {ι : Type} [DecidableEq ι]

/-- A pool of free slots. -/
def ofLimit (limit : Nat) : Pool ι :=
  { limit := limit, free := limit }

/-- A pool of free slots, if there may be so many. -/
def create? (limit : Nat) : Except CapacityFault (Pool ι) :=
  if maxPermits < limit then .error .tooMany else .ok (ofLimit limit)

/-- A slot comes back: it is set aside for the first party in the queue. -/
def giveBack (p : Pool ι) : Pool ι :=
  match p.waiting with
  | [] => { p with free := p.free + 1 }
  | q :: waiting => { p with chosen := p.chosen ++ [q], waiting := waiting }

/-- A party stops asking for a slot; one that was set aside for it comes back. -/
def withdraw (p : Pool ι) (party : ι) : Pool ι :=
  if p.chosen.contains party then giveBack { p with chosen := p.chosen.erase party }
  else { p with waiting := p.waiting.erase party }

/-- A party asks for a slot, for the first time or again. -/
def ask (p : Pool ι) (party : ι) (again : Bool) : Admittance × Pool ι :=
  if p.draining then (.refused, p.withdraw party)
  else if p.chosen.contains party then
    (.admitted, { p with chosen := p.chosen.erase party, inflight := p.inflight + 1 })
  else if again then (.pending, p)
  else if 0 < p.free then (.admitted, { p with free := p.free - 1, inflight := p.inflight + 1 })
  else (.pending, { p with waiting := p.waiting ++ [party] })

/-- A taken slot is given up. -/
def release (p : Pool ι) : Pool ι :=
  giveBack { p with inflight := p.inflight - 1 }

/-- A task begins that a shutdown has to wait for. -/
def track (p : Pool ι) : Pool ι :=
  { p with tracked := p.tracked + 1 }

/-- Such a task ends; shutdowns notice if it was the last. -/
def untrack (p : Pool ι) : Pool ι :=
  let tracked := p.tracked - 1
  { p with
    tracked := tracked
    drains := if tracked = 0 then p.drains.map Drain.noticeEmpty else p.drains }

/-- Time passes. -/
def advance (p : Pool ι) (ms : Nat) : Pool ι :=
  { p with now := p.now + ms }

/-- A shutdown is asked for. -/
def shutdown (p : Pool ι) (grace : Nat) : Pool ι :=
  { p with drains := p.drains ++ [⟨.called grace, false⟩] }

/-- The outcomes of the shutdowns that are over. -/
def outcomes (p : Pool ι) : List DrainOutcome :=
  p.drains.filterMap Drain.outcome?

/-- An event of the pool. -/
def note (level : LogLevel) (message : String) : LogEvent :=
  ⟨.pool, level, message, []⟩

/-- Replaces a shutdown. -/
def setDrain (p : Pool ι) (k : Nat) (d : Drain) : Pool ι :=
  { p with drains := p.drains.set k d }

/-- The signal of termination is given. -/
def terminate (p : Pool ι) : Pool ι :=
  { p with draining := true, terminated := true }

/-- A shutdown begins: nobody is admitted any more, and those who wait are sent away. -/
def beginDrain (p : Pool ι) (k grace : Nat) : Pool ι × List LogEvent :=
  let p := { p with draining := true, waiting := [] }
  (p.setDrain k ⟨.draining (p.now + grace), p.tracked == 0⟩,
    [note .info "Refusing new sessions",
      note .info ("Draining in-flight sessions (" ++ toString p.inflight ++ " active)")])

/-- A shutdown goes on, if it can. That no task is left is seen before the deadline is. -/
def drainStep? (p : Pool ι) (k : Nat) : Option (Pool ι × List LogEvent) :=
  match p.drains[k]? with
  | none => none
  | some d =>
    match d.phase with
    | .called grace => some (p.beginDrain k grace)
    | .draining deadline =>
      if d.emptied then
        some (p.terminate.setDrain k ⟨.ended .clean, true⟩,
          [note .debug "All sessions drained", note .debug "Terminating remaining sessions"])
      else if deadline ≤ p.now then
        some (p.terminate.setDrain k
            ⟨.terminating (p.now + Drain.terminationGrace), p.tracked == 0⟩,
          [note .warn ("Graceful drain timed out (" ++ toString p.inflight ++
              " sessions still active)"),
            note .debug "Terminating remaining sessions"])
      else none
    | .terminating deadline =>
      if d.emptied then some (p.setDrain k ⟨.ended .forced, true⟩, [])
      else if deadline ≤ p.now then
        some (p.setDrain k ⟨.ended .abandoned, false⟩,
          [note .warn (toString p.tracked ++
            " tasks still running after termination; exiting without them")])
      else none
    | .ended _ => none

end Pool

end StreamedInference
