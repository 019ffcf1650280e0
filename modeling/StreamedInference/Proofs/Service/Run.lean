import StreamedInference.Proofs.Scheduling.History
import StreamedInference.Proofs.Service.Move

/-!
# Runs of a service

A run begins with a service without clients and goes on by actions from outside and steps of
tasks, in any order. What the clients have sent is kept beside the service, because a session
forgets what it has looked at.

## Main definitions

* `Service.IsReachable`: a service that some run leads to.
* `Service.Run`: a run, with what its clients have sent.
* `Service.Event`, `Service.replay?`: a run given by what happens in it.

## Main results

* `Service.IsReachable.of_move`: what holds at the beginning and is kept by every move holds of
  every service that can be reached.
* `Service.Run.isReachable`, `Service.IsReachable.exists_run`: the two notions agree.
-/

namespace StreamedInference

namespace Service

/-- A service that comes from a service without clients by actions and steps of tasks. -/
def IsReachable (s : Service) : Prop :=
  ∃ setup engine limit start, create? setup engine limit = .ok start ∧
    tasks.Reachable act start s

/-- A run of a service; `received` is what each client has sent in its course. -/
inductive Run : (received : Nat → List Inbound) → Service → Prop
  | start {setup : SessionSetup} {engine : Engine} {limit : Nat} {s : Service}
      (h : create? setup engine limit = .ok s) : Run (fun _ => []) s
  | act {received : Nat → List Inbound} {s : Service} (a : Action) (r : Run received s) :
      Run (fun i => received i ++ s.arrivals a i) (s.act a)
  | step {received : Nat → List Inbound} {s s' : Service} (t : ServiceTask)
      (h : s.step? t = some s') (r : Run received s) : Run received s'

/-- A service at the beginning of a run. -/
structure IsInitial (s : Service) : Prop where
  clients_eq : s.clients = []
  accelerator_eq : ∃ engine, s.accelerator = { engine := engine }
  pool_eq : ∃ limit, s.pool = .ofLimit limit

theorem isInitial_of_create? {setup : SessionSetup} {engine : Engine} {limit : Nat} {s : Service}
    (h : create? setup engine limit = .ok s) : s.IsInitial := by
  unfold create? Pool.create? at h
  split at h
  · cases h
  · obtain rfl := Except.ok.inj h
    exact ⟨rfl, ⟨engine, rfl⟩, ⟨limit, rfl⟩⟩

variable {s s' : Service} {received : Nat → List Inbound}

theorem IsReachable.start {setup : SessionSetup} {engine : Engine} {limit : Nat}
    (h : create? setup engine limit = .ok s) : s.IsReachable :=
  ⟨setup, engine, limit, s, h, .start⟩

theorem IsReachable.act (h : s.IsReachable) (a : Action) : (s.act a).IsReachable := by
  obtain ⟨setup, engine, limit, start, hstart, hr⟩ := h
  exact ⟨setup, engine, limit, start, hstart, .act a hr⟩

theorem IsReachable.step (h : s.IsReachable) {t : ServiceTask} (ht : s.step? t = some s') :
    s'.IsReachable := by
  obtain ⟨setup, engine, limit, start, hstart, hr⟩ := h
  exact ⟨setup, engine, limit, start, hstart, .step t ht hr⟩

theorem IsReachable.of_reachable (h : s.IsReachable) (hr : tasks.Reachable Service.act s s') :
    s'.IsReachable := by
  induction hr with
  | start => exact h
  | act a _ ih => exact ih.act a
  | step t ht _ ih => exact ih.step ht

/-- What holds at the beginning and is kept by every move holds of every service that can be
reached. -/
theorem IsReachable.of_move {P : Service → Prop} (init : ∀ s : Service, s.IsInitial → P s)
    (keep : ∀ (s s' : Service) (arrived : Nat → List Inbound), P s → s.Move arrived s' → P s')
    (h : s.IsReachable) : P s := by
  obtain ⟨setup, engine, limit, start, hstart, hr⟩ := h
  induction hr with
  | start => exact init _ (isInitial_of_create? hstart)
  | act a _ ih => exact keep _ _ _ ih (move_act _ a)
  | step t ht _ ih => exact keep _ _ _ ih (move_of_step? ht)

theorem IsReachable.leads {m : Action ⊕ ServiceTask} (h : s.IsReachable)
    (hm : tasks.Leads Service.act s m s') : s'.IsReachable := by
  obtain ⟨setup, engine, limit, start, hstart, hr⟩ := h
  exact ⟨setup, engine, limit, start, hstart, hr.leads hm⟩

/-- Nothing takes back that the pool drains. -/
theorem draining_of_leads {m : Action ⊕ ServiceTask} (hm : tasks.Leads Service.act s m s')
    (hd : s.pool.draining = true) : s'.pool.draining = true := by
  cases m with
  | inl a =>
    obtain rfl : s' = s.act a := hm
    exact (move_act s a).draining_of hd
  | inr t => exact (move_of_step? hm).draining_of hd

/-- What holds at the beginning and is kept by every move that leads on holds of every service that
can be reached. -/
theorem IsReachable.of_leads {P : Service → Prop} (init : ∀ s : Service, s.IsInitial → P s)
    (keep : ∀ {s s' : Service} {m : Action ⊕ ServiceTask}, s.IsReachable → P s →
      tasks.Leads Service.act s m s' → P s') (h : s.IsReachable) : P s := by
  obtain ⟨setup, engine, limit, start, hstart, hr⟩ := h
  have hinit := init start (isInitial_of_create? hstart)
  refine (hr.of_leads (P := fun s => s.IsReachable ∧ P s) ⟨.start hstart, hinit⟩ ?_).2
  exact fun ⟨hreachable, hp⟩ hm => ⟨hreachable.leads hm, keep hreachable hp hm⟩

theorem Run.isReachable (r : Run received s) : s.IsReachable := by
  induction r with
  | start h => exact .start h
  | act a _ ih => exact ih.act a
  | step t ht _ ih => exact ih.step ht

theorem IsReachable.exists_run (h : s.IsReachable) : ∃ received, Run received s := by
  obtain ⟨setup, engine, limit, start, hstart, hr⟩ := h
  induction hr with
  | start => exact ⟨_, .start hstart⟩
  | act a _ ih =>
    obtain ⟨received, r⟩ := ih
    exact ⟨_, .act a r⟩
  | step t ht _ ih =>
    obtain ⟨received, r⟩ := ih
    exact ⟨_, .step t ht r⟩

/-- What holds at the beginning and is kept by every move holds in every run. -/
theorem Run.of_move {P : (Nat → List Inbound) → Service → Prop}
    (init : ∀ s : Service, s.IsInitial → P (fun _ => []) s)
    (keep : ∀ (received arrived : Nat → List Inbound) (s s' : Service), Run received s →
      P received s → s.Move arrived s' → P (fun i => received i ++ arrived i) s')
    (r : Run received s) : P received s := by
  induction r with
  | start h => exact init _ (isInitial_of_create? h)
  | act a r ih => exact keep _ _ _ _ r ih (move_act _ a)
  | step t ht r ih => simpa using keep _ _ _ _ r ih (move_of_step? ht)

/-! ### Runs event by event -/

/-- Something that happens in a service: an action from outside, or a step of a task. -/
inductive Event where
  | act (a : Action)
  | step (t : ServiceTask)

/-- What a row of events leads to, if the tasks can make their steps. -/
def replay? (s : Service) : List Event → Option Service
  | [] => some s
  | .act a :: events => (s.act a).replay? events
  | .step t :: events => (s.step? t).bind (·.replay? events)

/-- What a row of events adds to the inbound stream of a client. -/
def heard (s : Service) (i : Nat) : List Event → List Inbound
  | [] => []
  | .act a :: events => s.arrivals a i ++ (s.act a).heard i events
  | .step t :: events =>
    match s.step? t with
    | some s' => s'.heard i events
    | none => []

/-- A row of events goes on with a run. -/
theorem Run.replay {events : List Event} (r : Run received s)
    (h : s.replay? events = some s') : Run (fun i => received i ++ s.heard i events) s' := by
  induction events generalizing s received with
  | nil =>
    obtain rfl := Option.some.inj h
    simpa [heard] using r
  | cons e events ih =>
    cases e with
    | act a => simpa [heard] using ih (.act a r) h
    | step t =>
      obtain ⟨s₁, hs₁, h₁⟩ := Option.bind_eq_some_iff.1 h
      simpa [heard, hs₁] using ih (.step t hs₁ r) h₁

theorem IsReachable.replay {events : List Event} (h : s.IsReachable)
    (hr : s.replay? events = some s') : s'.IsReachable := by
  obtain ⟨received, r⟩ := h.exists_run
  exact (r.replay hr).isReachable

end Service

end StreamedInference
