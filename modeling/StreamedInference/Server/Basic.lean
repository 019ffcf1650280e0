import StreamedInference.Registry.Client
import StreamedInference.Service.Basic

/-!
# The server

A server announces itself, serves until it is told to stop or its transport ends by itself, and
then stops in order: it withdraws its announcement while it still takes calls, stops listening,
lets the sessions end, and gives the transport some time to close. It stops in this order also when
the transport breaks, but then its run has no outcome.

## Main definitions

* `Server`: a server with its service.
* `Milestone`: what a server has done that others can see.
* `Server.act`, `Server.reply`: what happens from outside, and what is learnt at once.
-/

namespace StreamedInference

/-- The stages of a server's life. -/
inductive LifecycleState where
  | starting
  | serving
  | draining
  | stopped
deriving DecidableEq, Repr

/-- The name of a stage. -/
def LifecycleState.name : LifecycleState → String
  | .starting => "starting"
  | .serving => "serving"
  | .draining => "draining"
  | .stopped => "stopped"

/-- What a server is told about itself. -/
structure ServerSetup where
  name : String := "llm-inference"
  environment : String := "development"
  port : UInt16
  /-- The address it announces, if it need not find one. -/
  advertised : Option IPAddress := none
  /-- The source address of the route outwards, if there is such a route. -/
  route : Option IPAddress := none
  /-- How long sessions may take to end by themselves, in milliseconds. -/
  grace : Nat := 5000
deriving DecidableEq, Repr

namespace ServerSetup

/-- What a configuration tells a server that listens at a port. -/
def of (c : Configuration) (port : UInt16) (route : Option IPAddress) : ServerSetup where
  name := c.serverName
  environment := c.environment
  port := port
  advertised := c.registry.advertised
  route := route
  grace := c.shutdownGraceSecs.toNat * 1000

/-- The address that is announced, and what is noted in finding it. -/
def announcedAddress (setup : ServerSetup) : IPAddress × List LogEvent :=
  match setup.advertised with
  | some address => (address, [])
  | none => reachableAddress setup.route

/-- Under what identity the server announces itself. -/
def registration (setup : ServerSetup) : Registration :=
  (Registration.of setup.name setup.announcedAddress.1 setup.port).withTags
    [setup.name, setup.environment, "grpc"]

end ServerSetup

/-- What a registry answers to a call, given the calls before it. -/
abbrev Registrar := List RegistryCall → RegistryCall → Except Failure Unit × List LogEvent

/-- How a registry answers that is reached over a network. -/
def Registry.registrar (net : Network) (registry : Registry) : Registrar := fun earlier call =>
  let sent := earlier.foldl (fun sent c => sent + (registry.ask net sent c).1.length) 0
  (registry.ask net sent call).2

/-- How a transport has ended. -/
inductive TransportEnd where
  /-- No connection is open and none will come. -/
  | closed
  /-- It broke, for the reason that is told. -/
  | broken (cause : String)
deriving DecidableEq, Repr

/-- What a server's run comes to. -/
inductive ServerResult where
  /-- The sessions have ended, or been left behind. -/
  | drained (outcome : DrainOutcome)
  /-- The transport broke, for the reason that is told. -/
  | broken (cause : String)
deriving DecidableEq, Repr

/-- A run comes to the outcome of its drain, unless the transport broke. -/
def TransportEnd.result (e : TransportEnd) (outcome : DrainOutcome) : ServerResult :=
  match e with
  | .closed => .drained outcome
  | .broken cause => .broken cause

/-- The outcome of the drain in what a run comes to. -/
def ServerResult.outcome? : ServerResult → Option DrainOutcome
  | .drained outcome => some outcome
  | .broken _ => none

/-- The transport: a source of connections, and what keeps connections open besides calls. -/
structure Transport where
  /-- A client has a connection for further calls. -/
  connected : Bool := false
  /-- How many subscriptions to the state of health are open. -/
  watchers : Nat := 0
  /-- No further client can come to have a connection. -/
  sourceClosed : Bool := false
  /-- The server has told the transport to stop. -/
  stopped : Bool := false
  /-- Why it broke, if it did. -/
  fault : Option String := none
deriving DecidableEq, Repr

namespace Transport

/-- No connections come any more. -/
def isEnding (t : Transport) : Bool :=
  t.stopped || (t.sourceClosed && !t.connected)

end Transport

/-- What a server has done that others can see. -/
inductive Milestone where
  | entered (state : LifecycleState)
  | asked (call : RegistryCall)
  /-- The transport was told to stop. -/
  | stoppedListening
  | beganDrain
  | endedDrain (outcome : DrainOutcome)
deriving DecidableEq, Repr

/-- What the server does next; `early` tells how the transport ended, if it ended by itself while
the server served. -/
inductive ServerPhase where
  | registering
  | registered
  | serving
  | deregistering (early : Option TransportEnd)
  | closing (early : Option TransportEnd)
  | draining (early : Option TransportEnd)
  /-- The transport may close by itself until the deadline. -/
  | waiting (outcome : DrainOutcome) (deadline : Nat)
  | stopping (result : ServerResult)
  | ended (result : ServerResult)
deriving DecidableEq, Repr

/-- A server with its service. -/
structure Server where
  setup : ServerSetup
  registrar : Registrar
  service : Service
  transport : Transport := {}
  phase : ServerPhase := .registering
  /-- It has been told to stop. -/
  signalled : Bool := false
  history : List Milestone := []

namespace Server

/-- The stage of life that a history leads to. -/
def stateAfter (history : List Milestone) : LifecycleState :=
  history.foldl (fun state m =>
    match m with
    | .entered next => next
    | _ => state) .starting

/-- The stage of life. -/
def state (s : Server) : LifecycleState :=
  stateAfter s.history

/-- What the server's run has come to, once it is over. -/
def result? (s : Server) : Option ServerResult :=
  match s.phase with
  | .ended result => some result
  | _ => none

/-- The calls that have been made to the registry, in order. -/
def registryCalls (s : Server) : List RegistryCall :=
  s.history.filterMap fun m =>
    match m with
    | .asked call => some call
    | _ => none

/-- The parts of the server whose health is known. -/
def healthKeys (s : Server) : List String :=
  ["", s.setup.name, "inference.InferencerService"]

/-- The name of the state of health that all known parts have while the server runs. -/
def healthName : String := "SERVING"

/-- What is told of the health of a part. -/
def health (s : Server) (key : String) : Except Status String :=
  if s.healthKeys.contains key then .ok healthName
  else .error ⟨.notFound, "service not registered"⟩

/-- A client's call is still open. -/
def isCalling (c : Client) : Bool :=
  c.isWaiting || (c.isAdmitted && !c.endSeen && !c.session.clientGone)

/-- No connection is open and none will come. -/
def isClosed (s : Server) : Bool :=
  s.transport.isEnding && s.transport.watchers == 0 && !s.service.clients.any isCalling

/-- How the transport has ended, if it has. -/
def transportEnd? (s : Server) : Option TransportEnd :=
  match s.transport.fault with
  | some cause => some (.broken cause)
  | none => if s.isClosed then some .closed else none

/-! ### What happens from outside -/

/-- What clients, operators and the clock do. -/
inductive Action where
  /-- Something that only concerns the service. -/
  | serve (action : Service.Action)
  /-- A client asks for the health of a part. -/
  | check (key : String)
  /-- A client subscribes to the health of a part. -/
  | watch (key : String)
  /-- All subscriptions end. -/
  | unwatch
  /-- The server is told to stop. -/
  | signal
  /-- The client gives up its connection; open calls keep theirs. -/
  | forgetClients
  /-- No further client can have a connection. -/
  | closeSource
  /-- The transport breaks, unless it has ended. -/
  | breakTransport (cause : String)

/-- What the outside learns at once. -/
inductive Reply where
  | service (reply : Service.Reply)
  | health (result : Except Status String)

/-- The answer to an action. -/
def reply (s : Server) : Action → Reply
  | .serve a => .service (s.service.reply a)
  | .check key | .watch key => .health (s.health key)
  | _ => .service .nothing

/-- A client that has no connection makes one. -/
def connect (s : Server) : Server :=
  { s with transport := { s.transport with connected := true } }

/-- Carries out an action. -/
def act (s : Server) : Action → Server
  | .serve (.enter eager) => { s.connect with service := s.service.act (.enter eager) }
  | .serve a => { s with service := s.service.act a }
  | .check _ => s.connect
  | .watch key =>
    let s := s.connect
    if s.healthKeys.contains key then
      { s with transport := { s.transport with watchers := s.transport.watchers + 1 } }
    else s
  | .unwatch => { s with transport := { s.transport with watchers := 0 } }
  | .signal => { s with signalled := true }
  | .forgetClients => { s with transport := { s.transport with connected := false } }
  | .closeSource => { s with transport := { s.transport with sourceClosed := true } }
  | .breakTransport cause =>
    match s.transportEnd? with
    | some _ => s
    | none => { s with transport := { s.transport with fault := some cause } }

end Server

end StreamedInference
