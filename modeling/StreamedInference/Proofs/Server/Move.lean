import StreamedInference.Proofs.Scheduling.History
import StreamedInference.Proofs.Service.Closing
import StreamedInference.Server.Step

/-!
# The moves of a server

A server goes through its course in steps of its own. All that happens besides, be it done by
clients, by the transport, by the clock or by the tasks of the service, leaves its course where it
is: for the pool it is a move in which no shutdown is asked for, because only the server itself
shuts its pool down.

## Main definitions

* `Server.Incident`, `Server.befall`: what can happen to a server from outside.
* `Server.Aside`: what happens while the server's own course rests.
* `Server.Pass`, `Server.Advance`: the steps of its course.

## Main results

* `Server.aside_or_advance`: all that happens to a server is one of the two.
-/

namespace StreamedInference

namespace Server

/-! ### What happens to a server -/

/-- An action that shuts the pool down. -/
def Action.IsShutdown : Action → Prop
  | .serve (.shutdown _) => True
  | _ => False

/-- What can happen to a server from outside. Nobody but the server shuts its pool down. -/
inductive Incident where
  | act (a : Action) (h : ¬ a.IsShutdown)
  /-- The process notes something. -/
  | note (e : LogEvent)

/-- Something happens to a server. -/
def befall (s : Server) : Incident → Server
  | .act a _ => s.act a
  | .note e => s.noteAll [e]

variable {s s' : Server}

/-- What happens while the server's own course rests. The transport does not recover. -/
structure Aside (s s' : Server) : Prop where
  setup_eq : s'.setup = s.setup
  phase_eq : s'.phase = s.phase
  history_eq : s'.history = s.history
  stopped_eq : s'.transport.stopped = s.transport.stopped
  fault_of : ∀ cause, s.transport.fault = some cause → s'.transport.fault = some cause
  signalled_of : s.signalled = true → s'.signalled = true
  exists_poolMove : ∃ m, (∀ grace, m ≠ .inl (.shutdown grace)) ∧ s.service.PoolMove m s'.service

/-- The service goes on, and nothing else happens. -/
theorem aside_service {service : Service} {m : Service.Action ⊕ ServiceTask}
    (hg : ∀ grace, m ≠ .inl (.shutdown grace)) (h : s.service.PoolMove m service) :
    s.Aside { s with service := service } :=
  ⟨rfl, rfl, rfl, rfl, fun _ => id, id, m, hg, h⟩

/-- Something happens to the transport, or the server is told to stop. -/
theorem aside_transport {transport : Transport} {signalled : Bool}
    (hstopped : transport.stopped = s.transport.stopped)
    (hfault : ∀ cause, s.transport.fault = some cause → transport.fault = some cause)
    (hsignal : s.signalled = true → signalled = true) :
    s.Aside { s with transport := transport, signalled := signalled } :=
  ⟨rfl, rfl, rfl, hstopped, hfault, hsignal, .inr (.drain 0), nofun, .rests rfl rfl rfl rfl⟩

theorem aside_act {a : Action} (h : ¬ a.IsShutdown) : s.Aside (s.act a) := by
  have hserve : ∀ b, ¬ (Action.serve b).IsShutdown →
      s.Aside { s with service := s.service.act b } := fun b hb =>
    aside_service (m := .inl b) (fun grace heq => hb (Sum.inl.inj heq ▸ trivial))
      (Service.poolMove_of_leads (m := .inl b) rfl)
  cases a with
  | serve b =>
    cases b with
    | enter eager => exact { hserve (.enter eager) h with }
    | send | halfClose | disconnect | leave | giveUp | read | shutdown | advance | emit
    | conclude => exact hserve _ h
  | check key => exact aside_transport rfl (fun _ => id) id
  | watch key =>
    simp only [act]
    split
    · exact aside_transport rfl (fun _ => id) id
    · exact aside_transport rfl (fun _ => id) id
  | unwatch | forgetClients | closeSource => exact aside_transport rfl (fun _ => id) id
  | signal => exact aside_transport rfl (fun _ => id) fun _ => rfl
  | breakTransport cause =>
    simp only [act]
    split
    · exact aside_transport rfl (fun _ => id) id
    · rename_i hnone
      refine aside_transport rfl (fun cause' hfault => ?_) id
      rw [transportEnd?, hfault] at hnone
      cases hnone

theorem aside_befall (i : Incident) : s.Aside (s.befall i) := by
  cases i with
  | act a h => exact aside_act h
  | note e =>
    exact aside_service (m := .inr (.drain 0)) nofun (s.service.poolMove_noteAll [e] _)

theorem aside_of_step? {t : ServiceTask} {service : Service}
    (h : s.service.step? t = some service) : s.Aside { s with service := service } :=
  aside_service (m := .inr t) nofun (Service.poolMove_of_leads h)

/-! ### The server's own course -/

/-- What a step of the server's course does outside of its service and its transport: it goes on
from one phase to another and passes milestones. -/
inductive Pass (s : Server) : ServerPhase → List Milestone → ServerPhase → Prop
  | registers : Pass s .registering [.asked (.register s.setup.registration)] .registered
  | serves : Pass s .registered [.entered .serving] .serving
  /-- It has been told to stop. -/
  | obeys (h : s.signalled = true) : Pass s .serving [.entered .draining] (.deregistering none)
  /-- Its transport has ended by itself. -/
  | yields {e : TransportEnd} (hs : s.signalled = false) (h : s.transportEnd? = some e) :
      Pass s .serving [.entered .draining] (.deregistering (some e))
  | deregisters (early : Option TransportEnd) : Pass s (.deregistering early)
      [.asked (.deregister s.setup.registration.id)] (.closing early)
  | drained {outcome : DrainOutcome} (h : s.drainOutcome? = some outcome) :
      Pass s (.draining none) [.endedDrain outcome]
        (.waiting outcome (s.service.pool.now + closeTimeout))
  | drainedEarly {outcome : DrainOutcome} {e : TransportEnd} (h : s.drainOutcome? = some outcome) :
      Pass s (.draining (some e)) [.endedDrain outcome] (.stopping (e.result outcome))
  | sees {outcome : DrainOutcome} {deadline : Nat} {e : TransportEnd}
      (h : s.transportEnd? = some e) :
      Pass s (.waiting outcome deadline) [] (.stopping (e.result outcome))
  /-- The transport has not closed in time. -/
  | aborts {outcome : DrainOutcome} {deadline : Nat} (h : s.transportEnd? = none)
      (ht : deadline ≤ s.service.pool.now) :
      Pass s (.waiting outcome deadline) [] (.stopping (.drained outcome))
  | ends (result : ServerResult) : Pass s (.stopping result) [.entered .stopped] (.ended result)

/-- A step of the server's own course. -/
inductive Advance (s : Server) : Server → Prop
  | passes {p p' : ServerPhase} {ms : List Milestone} {log : List LogEvent} (hp : s.phase = p)
      (h : s.Pass p ms p') :
      Advance s { s with
        phase := p'
        history := s.history ++ ms
        service := { s.service with log := log } }
  /-- It stops listening, and its pool is shut down. -/
  | closes {early : Option TransportEnd} (hp : s.phase = .closing early) :
      Advance s { s with
        phase := .draining early
        history := s.history ++ [.stoppedListening, .beganDrain]
        transport := { s.transport with stopped := true }
        service := s.service.act (.shutdown s.setup.grace) }

/-- A step in which the server passes no milestone. -/
theorem advance_of_nil {p p' : ServerPhase} {log : List LogEvent} (hp : s.phase = p)
    (h : s.Pass p [] p') :
    s.Advance { s with phase := p', service := { s.service with log := log } } := by
  have hadvance : s.Advance { s with
      phase := p'
      history := s.history ++ []
      service := { s.service with log := log } } := .passes hp h
  rwa [List.append_nil] at hadvance

theorem advance_of_mainStep? (h : s.mainStep? = some s') : s.Advance s' := by
  unfold mainStep? at h
  cases hp : s.phase with
  | registering =>
    simp only [hp, Option.some.injEq] at h
    exact h ▸ .passes hp .registers
  | registered =>
    simp only [hp, Option.some.injEq] at h
    exact h ▸ .passes hp .serves
  | serving =>
    simp only [hp] at h
    split at h
    · rename_i hs
      exact Option.some.inj h ▸ .passes hp (.obeys hs)
    · rename_i hs
      obtain ⟨e, he, rfl⟩ := Option.map_eq_some_iff.1 h
      exact .passes hp (.yields (Bool.eq_false_iff.2 hs) he)
  | deregistering early =>
    simp only [hp, Option.some.injEq] at h
    exact h ▸ .passes hp (.deregisters early)
  | closing early =>
    simp only [hp, Option.some.injEq] at h
    subst h
    have hhistory : s.history ++ [.stoppedListening, .beganDrain] =
        s.history ++ [.stoppedListening] ++ [.beganDrain] := by simp
    have hadvance := Advance.closes hp
    rw [hhistory] at hadvance
    exact hadvance
  | draining early =>
    simp only [hp] at h
    obtain ⟨outcome, ho, hs⟩ := Option.map_eq_some_iff.1 h
    cases early with
    | none => exact hs ▸ .passes hp (.drained ho)
    | some e => exact hs ▸ .passes hp (.drainedEarly ho)
  | waiting outcome deadline =>
    simp only [hp] at h
    split at h
    · rename_i e he
      exact Option.some.inj h ▸ advance_of_nil hp (.sees he)
    · rename_i he
      split at h
      · rename_i ht
        exact Option.some.inj h ▸ advance_of_nil hp (.aborts he ht)
      · cases h
  | stopping result =>
    simp only [hp, Option.some.injEq] at h
    exact h ▸ .passes hp (.ends result)
  | ended result => simp [hp] at h

/-- **All that happens to a server** leaves its course where it is, or is a step of it. -/
theorem aside_or_advance {m : Incident ⊕ Task} (hm : tasks.Leads befall s m s') :
    s.Aside s' ∨ s.Advance s' := by
  cases m with
  | inl i =>
    obtain rfl : s' = s.befall i := hm
    exact .inl (aside_befall i)
  | inr t =>
    cases t with
    | main => exact .inr (advance_of_mainStep? hm)
    | service t =>
      obtain ⟨service, hs, rfl⟩ := Option.map_eq_some_iff.1 hm
      exact .inl (aside_of_step? hs)

/-- For the clients and the pool, all that happens to a server is a move of its service. -/
theorem exists_poolMove_of_leads {m : Incident ⊕ Task} (hm : tasks.Leads befall s m s') :
    ∃ m', s.service.PoolMove m' s'.service := by
  rcases aside_or_advance hm with ha | ha
  · obtain ⟨m', -, hmove⟩ := ha.exists_poolMove
    exact ⟨m', hmove⟩
  · cases ha with
    | passes => exact ⟨.inr (.drain 0), .rests rfl rfl rfl rfl⟩
    | closes => exact ⟨_, .calls s.setup.grace⟩

theorem Advance.setup_eq (h : s.Advance s') : s'.setup = s.setup := by
  cases h <;> rfl

/-- What a server is told about itself does not change. -/
theorem setup_of_reachable (hr : tasks.Reachable befall s s') : s'.setup = s.setup :=
  hr.of_leads (P := fun s' => s'.setup = s.setup) rfl fun ih hm =>
    ((aside_or_advance hm).elim Aside.setup_eq Advance.setup_eq).trans ih

end Server

end StreamedInference
