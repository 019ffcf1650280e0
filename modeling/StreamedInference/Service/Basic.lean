import StreamedInference.Generation.Accelerator
import StreamedInference.Pool.Basic
import StreamedInference.Session.Step

/-!
# The service

Clients and their sessions, which share one pool and one accelerator. A client that comes in waits
for a slot; its session then runs as a task of its own. A turn is named by the number of its client
and its own number within the session, and under this name it waits for the gate and owns a unit.

## Main definitions

* `Client`: a client and its session.
* `Service`: all clients with the pool and the accelerator.
* `Service.act`, `Service.reply`: what happens from outside, and what is learnt at once.
-/

namespace StreamedInference

/-- The name of a turn: its client and its number in the session. -/
abbrev TurnName := Nat × Nat

/-- What has become of a client's wish for a session. -/
inductive Admission where
  | arriving
  /-- It has asked the pool and waits. -/
  | queued
  /-- It has a session with the given number. -/
  | admitted (number : Nat)
  | refused
  | withdrawn
  /-- It has been let in, but its session could not be made, and its call has broken down. -/
  | failed (fault : CapacityFault)
deriving DecidableEq, Repr

/-- The failure with which a client learns that it is not let in. -/
def Admission.failure? : Admission → Option Failure
  | .refused => some .shuttingDown
  | _ => none

/-- A client and its session. -/
structure Client where
  admission : Admission := .arriving
  session : Session := {}
  /-- It takes each chunk as soon as it is there. -/
  eager : Bool := true
  /-- It has nothing more to send. -/
  halfClosed : Bool := false
  /-- It has seen the end of its outbound stream. -/
  endSeen : Bool := false
  /-- It is about to stop reading. -/
  leaving : Bool := false
deriving Repr

namespace Client

/-- A client that is still to be admitted. -/
def isWaiting (c : Client) : Bool :=
  match c.admission with
  | .arriving | .queued => true
  | _ => false

/-- A client with a session, open or closed. -/
def isAdmitted (c : Client) : Bool :=
  match c.admission with
  | .admitted _ => true
  | _ => false

/-- What the client sends is kept: it has not ended its stream, and there is a session, or there
may still be one, to look at it. -/
def canSend (c : Client) : Bool :=
  !c.halfClosed && (c.isWaiting || (c.isAdmitted && !c.session.isClosed))

/-- No chunk can follow those that have been sent. -/
def outboundEnded (c : Client) : Bool :=
  !c.isWaiting && (!c.isAdmitted || c.session.isClosed)

/-- The session of the client is open. -/
def isOpen (c : Client) : Bool :=
  c.isAdmitted && !c.session.isClosed

/-- The client takes up to a number of items of its outbound stream; its end counts as one. -/
def read (c : Client) (n : Nat) : Client :=
  if c.session.clientGone then c
  else
    let chunks := min n c.session.unread
    let c := { c with session := { c.session with taken := c.session.taken + chunks } }
    if chunks < n && c.outboundEnded && !c.endSeen then { c with endSeen := true } else c

/-- A client does not read any more. -/
def goAway (c : Client) : Client :=
  { c with session := { c.session with clientGone := true } }

/-- A client that takes everything does so, if there is something; one that leaves goes away. -/
def readStep? (c : Client) : Option Client :=
  if !c.eager || c.session.clientGone then none
  else if c.leaving then some c.goAway
  else if 0 < c.session.unread then
    some { c with session := { c.session with taken := c.session.sent.length } }
  else if c.outboundEnded && !c.endSeen then some { c with endSeen := true }
  else none

end Client

/-- A running service. -/
structure Service where
  setup : SessionSetup := {}
  pool : Pool Nat
  accelerator : Accelerator TurnName := {}
  clients : List Client := []
  /-- The number of the last session. -/
  opened : Nat := 0
  log : List LogEvent := []

namespace Service

/-- A service without clients, if its pool can be made. -/
def create? (setup : SessionSetup) (engine : Engine) (limit : Nat) :
    Except CapacityFault Service :=
  (Pool.create? limit).map fun pool =>
    { setup := { setup with template := engine.template }
      pool := pool
      accelerator := { engine := engine } }

/-- Why no session can be made, if so: what all of them are told about their outbound buffer cannot
be kept. -/
def sessionFault? (s : Service) : Option CapacityFault :=
  bufferFault? s.setup.policy.streamBufferSize.toNat

/-- Changes a client. -/
def changeClient (s : Service) (i : Nat) (f : Client → Client) : Service :=
  { s with clients := s.clients.modify i f }

/-- Events are noted. -/
def noteAll (s : Service) (events : List LogEvent) : Service :=
  { s with log := s.log ++ events }

/-! ### What happens from outside -/

/-- What clients, operators and the clock do. -/
inductive Action where
  /-- A client comes in. -/
  | enter (eager : Bool)
  /-- A client sends an item. -/
  | send (client : Nat) (item : Inbound)
  /-- A client has nothing more to send. -/
  | halfClose (client : Nat)
  /-- A client does not read any more. -/
  | disconnect (client : Nat)
  /-- A client stops reading when it has its turn. -/
  | leave (client : Nat)
  /-- A client that waits to be admitted gives up. -/
  | giveUp (client : Nat)
  /-- A client takes up to a number of items. -/
  | read (client count : Nat)
  /-- The pool is shut down. -/
  | shutdown (grace : Nat)
  | advance (ms : Nat)
  /-- The call that is driven from outside emits a fragment. -/
  | emit (text : String)
  /-- The call that is driven from outside ends. -/
  | conclude (ending : Ending)

/-- Whether what a client sends is kept. -/
def canSend (s : Service) (i : Nat) : Bool :=
  (s.clients[i]?).any Client.canSend

/-- What the outside learns at once. -/
inductive Reply where
  | nothing
  /-- Whether what was sent is kept. -/
  | kept (yes : Bool)
  | emitted (report : Accelerator.EmitReport)
  /-- No call is driven from outside. -/
  | notGenerating
deriving DecidableEq, Repr

/-- The answer to an action. -/
def reply (s : Service) : Action → Reply
  | .send i _ => .kept (s.canSend i)
  | .emit text =>
    match s.accelerator.emit? text with
    | some (report, _) => .emitted report
    | none => .notGenerating
  | .conclude ending =>
    if (s.accelerator.conclude? ending).isSome then .nothing else .notGenerating
  | _ => .nothing

/-- Carries out an action. -/
def act (s : Service) : Action → Service
  | .enter eager => { s with clients := s.clients ++ [{ eager := eager }] }
  | .send i item =>
    if s.canSend i then
      s.changeClient i fun c => { c with session := c.session.receive item }
    else s
  | .halfClose i =>
    if s.canSend i then
      s.changeClient i fun c =>
        { c with session := c.session.receive .finish, halfClosed := true }
    else s
  | .disconnect i => s.changeClient i Client.goAway
  | .leave i => s.changeClient i fun c => { c with leaving := true }
  | .giveUp i =>
    if (s.clients[i]?).any Client.isWaiting then
      { s.changeClient i fun c => { c with admission := .withdrawn } with
        pool := s.pool.withdraw i }
    else s
  | .read i n => s.changeClient i fun c => c.read n
  | .shutdown grace => { s with pool := s.pool.shutdown grace }
  | .advance ms => { s with pool := s.pool.advance ms }
  | .emit text =>
    match s.accelerator.emit? text with
    | some (_, a) => { s with accelerator := a }
    | none => s
  | .conclude ending =>
    match s.accelerator.conclude? ending with
    | some a => { s with accelerator := a }
    | none => s

end Service

end StreamedInference
