import StreamedInference.Scheduling
import StreamedInference.Service.Basic

/-!
# The tasks of the service

What goes on by itself: clients are admitted, sessions and units run, clients read, shutdowns
proceed. Each task is given by its small steps, and the service can be run until none can be made.

## Main definitions

* `Service.sessionStep?`, `Service.admissionStep?`, `Service.readerStep?`, `Service.unitStep?`,
  `Service.drainStep?`: the steps of each kind of task.
* `Service.tasks`: all tasks.
* `Service.Running.perform`: actions happen, and everything runs that can.
-/

namespace StreamedInference

/-- The tasks of a service. -/
inductive ServiceTask where
  | admission (client : Nat)
  | session (client : Nat)
  | reader (client : Nat)
  | unit (place : Nat)
  | drain (place : Nat)
deriving DecidableEq, Repr

namespace Service

/-- What a session sees of the rest. -/
def view (s : Service) (i : Nat) (session : Session) : SessionView where
  draining := s.pool.draining
  terminated := s.pool.terminated
  mayEnter := s.accelerator.gate.mayEnter (i, session.turns)
  offer := s.accelerator.offer (i, session.turns)

/-- Carries out what a session does to the rest in a turn. -/
def apply (s : Service) (turn : TurnName) : SessionEffect → Service
  | .request => { s with accelerator := s.accelerator.request turn }
  | .withdraw => { s with accelerator := s.accelerator.withdraw turn }
  | .start call =>
    { s with accelerator := s.accelerator.start turn call, pool := s.pool.track }
  | .take => { s with accelerator := s.accelerator.take turn }
  | .detach => { s with accelerator := s.accelerator.detach turn }
  | .note e => { s with log := s.log ++ [e] }

/-- A session that has just closed gives up its slot, and its task ends. -/
def retire (s : Service) (session : Session) : Service :=
  match session.closeReason? with
  | none => s
  | some reason =>
    { s with
      log := s.log ++ [⟨.handler, .info, "Session closed: " ++ reason.message,
        [("turns", .integer session.turns)]⟩]
      pool := s.pool.release.untrack }

/-- One step of a session. -/
def sessionStep? (s : Service) (i : Nat) : Option Service :=
  match s.clients[i]? with
  | none => none
  | some c =>
    if !c.isAdmitted then none
    else
      (c.session.step? s.setup (s.view i c.session)).map fun (session, effects) =>
        let s := s.changeClient i fun c => { c with session := session }
        (effects.foldl (fun s e => s.apply (i, session.turns) e) s).retire session

/-- One step of a client's admission. A client that is admitted has a session at once; if it cannot
be made, the call breaks down and the slot comes back. -/
def admissionStep? (s : Service) (i : Nat) : Option Service :=
  match s.clients[i]? with
  | none => none
  | some c =>
    if !c.isWaiting then none
    else
      let again := c.admission == .queued
      match s.pool.ask i again with
      | (.admitted, pool) =>
        let number := s.opened + 1
        match s.sessionFault? with
        | none =>
          some { s.changeClient i fun c => { c with admission := .admitted number } with
            pool := pool.track
            opened := number }
        | some fault =>
          some { s.changeClient i fun c => { c with admission := .failed fault } with
            pool := pool.release
            opened := number }
      | (.refused, pool) =>
        some { s.changeClient i fun c => { c with admission := .refused } with
          pool := pool
          log := s.log ++ [⟨.handler, .info, "Refusing session: server is draining", []⟩] }
      | (.pending, pool) =>
        if again then none
        else
          some { s.changeClient i fun c => { c with admission := .queued } with pool := pool }

/-- One step of a client that reads. -/
def readerStep? (s : Service) (i : Nat) : Option Service :=
  match s.clients[i]? with
  | none => none
  | some c => c.readStep?.map fun c' => s.changeClient i fun _ => c'

/-- One step of a unit; its task ends when it leaves the gate. -/
def unitStep? (s : Service) (n : Nat) : Option Service :=
  (s.accelerator.unitStep? n).map fun progress =>
    { s with
      accelerator := progress.accelerator
      log := s.log ++ progress.events
      pool := if progress.left then s.pool.untrack else s.pool }

/-- One step of a shutdown. -/
def drainStep? (s : Service) (k : Nat) : Option Service :=
  (s.pool.drainStep? k).map fun (pool, events) =>
    { s with pool := pool, log := s.log ++ events }

/-- One step of a task. -/
def step? (s : Service) : ServiceTask → Option Service
  | .admission i => s.admissionStep? i
  | .session i => s.sessionStep? i
  | .reader i => s.readerStep? i
  | .unit n => s.unitStep? n
  | .drain k => s.drainStep? k

/-- The tasks that a client brings. -/
def clientTasks (i : Nat) (c : Client) : List ServiceTask :=
  .reader i :: .admission i :: if c.isAdmitted then [.session i] else []

/-- The tasks of a service. -/
def tasks : Tasks Service ServiceTask where
  step? := step?
  present s :=
    (s.clients.zipIdx.flatMap fun (c, i) => clientTasks i c) ++
      (List.range s.accelerator.units.length).map .unit ++
      (List.range s.pool.drains.length).map .drain

/-- More steps than the tasks can make without something happening from outside. -/
def bound (s : Service) : Nat :=
  let fragments := s.clients.foldl (fun n c => n + c.session.inbound.length + 2) 0
  8 * (s.accelerator.bound + s.pool.drains.length +
    (fragments + 1) * (s.accelerator.engine.conduct.longest + 16))

/-- A service and the order in which its tasks have their turns. -/
structure Running where
  service : Service
  schedule : Schedule ServiceTask := {}

/-- An action happens; the tasks that it lets run join those that wait for their turn. -/
def Running.happen (r : Running) (a : Action) : Running :=
  let s := r.service.act a
  ⟨s, r.schedule.refresh tasks none s⟩

/-- Actions happen at once; the last answer that says anything is kept. -/
def Running.happenAll (r : Running) : List Action → Running × Reply
  | [] => (r, .nothing)
  | a :: as =>
    let (r', later) := (r.happen a).happenAll as
    (r', if later = .nothing then r.service.reply a else later)

/-- Actions happen at once, and then everything runs that can. -/
def Running.perform (r : Running) (actions : List Action) : Running × Reply :=
  let (r, reply) := r.happenAll actions
  let (schedule, s) := tasks.run r.service.bound r.schedule r.service
  (⟨s, schedule⟩, reply)

end Service

end StreamedInference
