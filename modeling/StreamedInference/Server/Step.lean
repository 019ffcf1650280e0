import StreamedInference.Server.Basic
import StreamedInference.Service.Step

/-!
# The tasks of the server

The server's own course is one task beside those of its service. It goes through the stages of
its life in their order, whatever the registry answers and for whichever reason it stops.

## Main definitions

* `Server.mainStep?`: the server's own course.
* `Server.tasks`: its course and the tasks of its service.
* `Server.Running.perform`: actions happen, and everything runs that can.
-/

namespace StreamedInference

namespace Server

/-- How long the transport may take to close, in milliseconds. -/
def closeTimeout : Nat := 2000

/-- An event of the server. -/
def note (level : LogLevel) (message : String) : LogEvent :=
  ⟨.lifecycle, level, message, []⟩

/-- Events are noted. -/
def noteAll (s : Server) (events : List LogEvent) : Server :=
  { s with service := s.service.noteAll events }

/-- Something is done that others can see. -/
def record (s : Server) (m : Milestone) : Server :=
  { s with history := s.history ++ [m] }

/-- The server goes on to a phase. -/
def goOn (s : Server) (phase : ServerPhase) : Server :=
  { s with phase := phase }

/-- The server enters a stage of its life. -/
def enter (s : Server) (next : LifecycleState) : Server :=
  (s.noteAll [note .info ("Lifecycle " ++ s.state.name ++ " -> " ++ next.name)]).record
    (.entered next)

/-- The server asks the registry; `told` is what is noted of the result. -/
def askRegistry (s : Server) (call : RegistryCall) (told : Except Failure Unit → LogEvent) :
    Server :=
  let (result, events) := s.registrar s.registryCalls call
  (s.record (.asked call)).noteAll (events ++ [told result])

/-- What is noted of an announcement. -/
def registerEvent (r : Registration) : Except Failure Unit → LogEvent
  | .ok () => note .info ("Registered " ++ r.id ++ " at " ++ r.checkTarget)
  | .error f => note .warn (f.message ++ "; continuing unregistered")

/-- What is noted of a withdrawal. -/
def deregisterEvent (id : String) : Except Failure Unit → LogEvent
  | .ok () => note .info ("Deregistered " ++ id)
  | .error f => note .warn f.message

/-- The transport is told to stop. -/
def stopListening (s : Server) : Server :=
  { s with transport := { s.transport with stopped := true } }.record .stoppedListening

/-- The sessions are told to end. -/
def beginDrain (s : Server) : Server :=
  { s with service := s.service.act (.shutdown s.setup.grace) }.record .beganDrain

/-- The outcome of the pool's shutdown, once it is over. -/
def drainOutcome? (s : Server) : Option DrainOutcome :=
  s.service.pool.drains.getLast?.bind Drain.outcome?

/-- The server goes on in its course, if it can. -/
def mainStep? (s : Server) : Option Server :=
  let registration := s.setup.registration
  match s.phase with
  | .registering =>
    some (((s.noteAll s.setup.announcedAddress.2).askRegistry (.register registration)
      (registerEvent registration)).goOn .registered)
  | .registered =>
    let ready := s.setup.name ++ " ready, engine: " ++ s.service.accelerator.engine.description
    some (((s.enter .serving).noteAll [note .info ready]).goOn .serving)
  | .serving =>
    if s.signalled then some ((s.enter .draining).goOn (.deregistering none))
    else
      s.transportEnd?.map fun e => (s.enter .draining).goOn (.deregistering (some e))
  | .deregistering early =>
    some ((s.askRegistry (.deregister registration.id)
      (deregisterEvent registration.id)).goOn (.closing early))
  | .closing early => some (s.stopListening.beginDrain.goOn (.draining early))
  | .draining early =>
    s.drainOutcome?.map fun outcome =>
      let s := (s.record (.endedDrain outcome)).noteAll
        [note .info ("Sessions drained (" ++ outcome.name ++ ")")]
      match early with
      | some e => s.goOn (.stopping (e.result outcome))
      | none => s.goOn (.waiting outcome (s.service.pool.now + closeTimeout))
  | .waiting outcome deadline =>
    match s.transportEnd? with
    | some e => some (s.goOn (.stopping (e.result outcome)))
    | none =>
      if deadline ≤ s.service.pool.now then
        some ((s.noteAll
          [note .warn "Transport did not close in time; aborting connections"]).goOn
            (.stopping (.drained outcome)))
      else none
  | .stopping result => some ((s.enter .stopped).goOn (.ended result))
  | .ended _ => none

/-- The tasks of a server: its own course, and those of its service. -/
inductive Task where
  | main
  | service (t : ServiceTask)
deriving DecidableEq, Repr

/-- One step of a task. -/
def step? (s : Server) : Task → Option Server
  | .main => s.mainStep?
  | .service t => (s.service.step? t).map fun service => { s with service := service }

/-- The tasks of a server. -/
def tasks : Tasks Server Task where
  step? := step?
  present s := .main :: (Service.tasks.present s.service).map .service

/-- More steps than the tasks can make without something happening from outside. -/
def bound (s : Server) : Nat :=
  s.service.bound + 64

/-- A server and the order in which its tasks have their turns. -/
structure Running where
  server : Server
  schedule : Schedule Task := {}

namespace Running

/-- Everything runs that can. -/
def settle (r : Running) : Running :=
  let (schedule, s) := tasks.run r.server.bound r.schedule r.server
  ⟨s, schedule⟩

/-- An action happens; the tasks that it lets run join those that wait for their turn. -/
def happen (r : Running) (a : Action) : Running :=
  let s := r.server.act a
  ⟨s, r.schedule.refresh tasks none s⟩

/-- Actions happen at once, and then everything runs that can. -/
def perform (r : Running) (actions : List Action) : Running :=
  (actions.foldl happen r).settle

end Running

/-- A server that has not begun to run, if its pool can be made. -/
def create? (setup : ServerSetup) (registrar : Registrar) (sessions : SessionSetup)
    (engine : Engine) (limit : Nat) : Except CapacityFault Server :=
  (Service.create? sessions engine limit).map fun service =>
    { setup := setup, registrar := registrar, service := service }

end Server

end StreamedInference
