/-!
# Scheduling

Tasks that share a state run one at a time. A task that can run has its turn after all those that
could run before it, and runs until it can run no further; meanwhile other tasks may come to be
able to run, or come into being. The work is over when no task can run.

A task is given by what it does in one small step, if it can do anything.

## Main definitions

* `Tasks`: tasks by their small steps.
* `Tasks.run`: tasks run in turn until none can run.
* `Tasks.Quiet`: no task can run.
* `Tasks.Reaches`, `Tasks.Reachable`: what tasks come to in any order, alone and while things
  happen from outside.
-/

namespace StreamedInference

/-- Tasks over a state: one small step of each, and those that exist in a state. -/
structure Tasks (σ τ : Type) where
  step? : σ → τ → Option σ
  present : σ → List τ

/-- The tasks that are waiting for their turn, and those that cannot run, each in the order in
which it came there. -/
structure Schedule (τ : Type) where
  ready : List τ := []
  parked : List τ := []

variable {σ τ : Type} [DecidableEq τ]

namespace Schedule

/-- Takes up tasks that are new. -/
def adopt (q : Schedule τ) (running : Option τ) (present : List τ) : Schedule τ :=
  { q with
    parked := q.parked ++ present.filter fun t =>
      !(q.parked.contains t || q.ready.contains t || running == some t) }

/-- Tasks that have come to be able to run join those that wait for their turn. -/
def wake (q : Schedule τ) (canRun : τ → Bool) : Schedule τ :=
  ⟨q.ready ++ q.parked.filter canRun, q.parked.filter fun t => !canRun t⟩

/-- Takes up new tasks and wakes those that can run. -/
def refresh (q : Schedule τ) (T : Tasks σ τ) (running : Option τ) (s : σ) : Schedule τ :=
  (q.adopt running (T.present s)).wake fun t => (T.step? s t).isSome

end Schedule

/-- Runs tasks for at most `fuel` steps; `running` is the task that has its turn. -/
def Tasks.runFor (T : Tasks σ τ) :
    (fuel : Nat) → (running : Option τ) → Schedule τ → σ → Schedule τ × σ
  | 0, _, q, s => (q, s)
  | fuel + 1, some t, q, s =>
    match T.step? s t with
    | some s' => runFor T fuel (some t) (q.refresh T (some t) s') s'
    | none => runFor T fuel none ({ q with parked := q.parked ++ [t] }) s
  | fuel + 1, none, q, s =>
    match q.ready with
    | [] => (q, s)
    | t :: ready => runFor T fuel (some t) { q with ready := ready } s

/-- Runs tasks after something happened from outside. -/
def Tasks.run (T : Tasks σ τ) (fuel : Nat) (q : Schedule τ) (s : σ) : Schedule τ × σ :=
  T.runFor fuel none (q.refresh T none s) s

/-- No task can run. -/
def Tasks.Quiet (T : Tasks σ τ) (s : σ) : Prop :=
  ∀ t ∈ T.present s, T.step? s t = none

/-- What tasks can make of a state, in any order. -/
inductive Tasks.Reaches (T : Tasks σ τ) : σ → σ → Prop where
  | refl (s : σ) : Reaches T s s
  | step {s s' s'' : σ} (t : τ) (h : T.step? s t = some s') (r : Reaches T s' s'') :
    Reaches T s s''

/-- Running tasks in turn is one of the orders in which they can run. -/
theorem Tasks.reaches_runFor (T : Tasks σ τ) (fuel : Nat) (running : Option τ)
    (q : Schedule τ) (s : σ) : T.Reaches s (T.runFor fuel running q s).2 := by
  induction fuel generalizing running q s with
  | zero => cases running <;> exact .refl s
  | succ fuel ih =>
    cases running with
    | some t =>
      rw [Tasks.runFor]
      cases h : T.step? s t with
      | some s' => exact .step t h (ih _ _ _)
      | none => exact ih _ _ _
    | none =>
      rw [Tasks.runFor]
      cases q.ready with
      | nil => exact .refl s
      | cons t ready => exact ih _ _ _

/-- What a state comes to when things happen from outside and tasks make steps, in any order. -/
inductive Tasks.Reachable {α : Type} (T : Tasks σ τ) (act : σ → α → σ) (start : σ) :
    σ → Prop where
  | start : Reachable T act start start
  | act {s : σ} (a : α) (r : Reachable T act start s) : Reachable T act start (act s a)
  | step {s s' : σ} (t : τ) (h : T.step? s t = some s') (r : Reachable T act start s) :
    Reachable T act start s'

omit [DecidableEq τ] in
/-- Steps of tasks lead to no further states. -/
theorem Tasks.Reachable.of_reaches {α : Type} {T : Tasks σ τ} {act : σ → α → σ} {start s s' : σ}
    (r : T.Reachable act start s) (h : T.Reaches s s') : T.Reachable act start s' := by
  induction h with
  | refl s => exact r
  | step t h _ ih => exact ih (.step t h r)

/-- What tasks make of a state when they run in turn is among what they can come to. -/
theorem Tasks.Reachable.run {α : Type} {T : Tasks σ τ} {act : σ → α → σ} {start s : σ}
    (r : T.Reachable act start s) (fuel : Nat) (q : Schedule τ) :
    T.Reachable act start (T.run fuel q s).2 :=
  r.of_reaches (T.reaches_runFor fuel none _ s)

end StreamedInference
