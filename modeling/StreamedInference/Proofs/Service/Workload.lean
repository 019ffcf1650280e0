import Mathlib.Algebra.Order.BigOperators.Group.List
import Mathlib.Algebra.Order.Ring.Nat
import StreamedInference.Proofs.Generation.Stream
import StreamedInference.Proofs.Scheduling.Rest
import StreamedInference.Proofs.Service.Turns

/-!
# The tasks of a service come to rest

Left to themselves the tasks of a service cannot run for ever: every step uses up something. What
clients have sent and sessions have not looked at, with the turns that wait for the gate, is the
*intake*; only a step that takes from it can start a call. All other steps lower the *workload*:
what calls have still to emit, what has been emitted and not been passed on, what waits to be read,
and how far sessions, clients and shutdowns are from their ends.

## Main definitions

* `Service.intake`, `Service.workload`: what the steps of tasks use up, the first before the second.
* `Service.Lighter`: something has been used up.

## Main results

* `Session.Move.lighter_or`: what a move of a session uses up.
* `Service.lighter_of_step?`: every step of a task uses something up.
* `Service.wellFounded_lighter`, `Service.exists_quiet`: the tasks come to rest.
-/

namespace StreamedInference

/-! ### Sums over lists -/

/-- Replacing an element of a list replaces its part of a sum. -/
theorem sum_map_set {α : Type} {l : List α} {n : Nat} {a : α} (h : l[n]? = some a) (a' : α)
    (w : α → Nat) : ((l.set n a').map w).sum + w a = (l.map w).sum + w a' := by
  obtain ⟨l₁, l₂, hl, -, hset⟩ := exists_append_set h a'
  rw [hset, hl]
  simp only [List.map_append, List.map_cons, List.sum_append, List.sum_cons]
  omega

theorem sum_map_modify {α : Type} {l : List α} {n : Nat} {a : α} (h : l[n]? = some a)
    (f : α → α) (w : α → Nat) :
    ((l.modify n f).map w).sum + w a = (l.map w).sum + w (f a) := by
  rw [modify_eq_set h f]
  exact sum_map_set h (f a) w

/-! ### Units -/

namespace GenerationUnit

variable {ι : Type} {u u' : GenerationUnit ι}

/-- What the call has still to do. -/
def callWork (u : GenerationUnit ι) : Nat :=
  match u.ending, u.script with
  | none, some script => 4 * script.emits.length + 1
  | _, _ => 0

/-- What the unit has still to do, and what it has for its consumer. -/
def workload (u : GenerationUnit ι) : Nat :=
  u.callWork + 3 * (u.emitted.length - u.taken) + if u.finished then 0 else 1

theorem workload_callStep? {events : List LogEvent} (h : u.callStep? = some (u', events)) :
    u'.workload < u.workload := by
  unfold callStep? at h
  split at h
  · rename_i text emits ending he hs
    obtain ⟨rfl, -⟩ := Prod.mk.inj (Option.some.inj h)
    unfold emit
    split
    · simp only [workload, callWork, he, hs, List.length_cons]
      omega
    · simp only [workload, callWork, he, hs, List.length_cons, List.length_append,
        List.length_nil]
      omega
  · rename_i ending he hs
    obtain ⟨rfl, -⟩ := Prod.mk.inj (Option.some.inj h)
    simp only [workload, callWork, he, hs, List.length_nil]
    omega
  · cases h

theorem workload_finish (h : u.finished = false) :
    ({ u with finished := true } : GenerationUnit ι).workload < u.workload := by
  simp [workload, callWork, h]

/-- A fragment that is taken is used up. -/
theorem workload_take_fragment {text : String} (h : u.offer = .fragment text) :
    u.take.workload + 3 ≤ u.workload := by
  have hlt := lt_of_offer_fragment h
  rw [take, h]
  simp only [workload, callWork]
  omega

theorem workload_take_le (u : GenerationUnit ι) : u.take.workload ≤ u.workload := by
  cases h : u.offer with
  | fragment text =>
    have := workload_take_fragment h
    omega
  | failed f =>
    rw [take, h]
    exact Nat.le_refl _
  | pending | ended => rw [take, h]

end GenerationUnit

namespace Accelerator

variable {ι : Type} [DecidableEq ι]

/-- What all units have still to do, and what they have for their consumers. -/
def workload (a : Accelerator ι) : Nat :=
  (a.units.map (·.workload)).sum

theorem workload_unitStep? {a : Accelerator ι} {n : Nat} {progress : Progress ι}
    (h : a.unitStep? n = some progress) : progress.accelerator.workload < a.workload := by
  obtain ⟨u, hu, ⟨u', events, hstep, rfl⟩ | ⟨-, hf, rfl⟩⟩ := exists_of_unitStep? h
  · have hsum := sum_map_set hu u' (·.workload)
    have hlt := GenerationUnit.workload_callStep? hstep
    simp only [workload]
    omega
  · have hsum := sum_map_set hu { u with finished := true } (·.workload)
    have hlt := GenerationUnit.workload_finish hf
    simp only [workload]
    omega

@[simp] theorem workload_detach (a : Accelerator ι) (p : ι) :
    (a.detach p).workload = a.workload :=
  congrArg List.sum (a.map_units_change p fun _ => rfl)

theorem workload_take_le (a : Accelerator ι) (p : ι) : (a.take p).workload ≤ a.workload := by
  rw [workload, workload, take, change, List.map_map]
  refine List.sum_le_sum fun u _ => ?_
  simp only [Function.comp_apply]
  split
  · exact u.workload_take_le
  · exact Nat.le_refl _

/-- A party that takes a fragment uses it up. -/
theorem workload_take_fragment {a : Accelerator ι} {p : ι} {text : String}
    (h : a.offer p = .fragment text) : (a.take p).workload + 3 ≤ a.workload := by
  unfold offer at h
  split at h
  · rename_i u hu
    obtain ⟨l₁, l₂, hunits⟩ := List.append_of_mem (List.mem_of_find?_eq_some hu)
    have howner : u.owner = p := by simpa using List.find?_some hu
    have hle : ∀ l : List (GenerationUnit ι),
        (l.map fun v => (if v.owner = p then v.take else v).workload).sum ≤
          (l.map (·.workload)).sum := by
      refine fun l => List.sum_le_sum fun v _ => ?_
      split
      · exact v.workload_take_le
      · exact Nat.le_refl _
    have h₁ := hle l₁
    have h₂ := hle l₂
    have htake := GenerationUnit.workload_take_fragment h
    simp only [workload, take, change, hunits, List.map_append, List.map_cons, List.map_map,
      List.sum_append, List.sum_cons, Function.comp_def, howner, if_true] at *
    omega
  · cases h

end Accelerator

/-! ### Shutdowns -/

/-- How far a shutdown is from its end. -/
def DrainPhase.workload : DrainPhase → Nat
  | .called _ => 3
  | .draining _ => 2
  | .terminating _ => 1
  | .ended _ => 0

namespace Pool

variable {ι : Type}

/-- How far all shutdowns are from their ends. -/
def workload (p : Pool ι) : Nat :=
  (p.drains.map (·.phase.workload)).sum

/-- Only a step of a shutdown brings a shutdown further. -/
theorem workload_congr {p p' : Pool ι} (h : p'.stage = p.stage) : p'.workload = p.workload := by
  have hphases := congrArg (fun phases => (phases.map DrainPhase.workload).sum) (phases_congr h)
  simpa [workload, Function.comp_def] using hphases

/-- A step of a shutdown brings it further. -/
theorem DrainMove.workload_lt {p p' : Pool ι} {k : Nat} (h : p.DrainMove k p') :
    p'.workload < p.workload := by
  have hset : ∀ d d' : Drain, p.drains[k]? = some d → d'.phase.workload < d.phase.workload →
      ((p.drains.set k d').map (·.phase.workload)).sum < p.workload := by
    intro d d' hd hlt
    have hsum := sum_map_set hd d' (·.phase.workload)
    simp only [workload]
    omega
  cases h with
  | begins hd hp | cleans hd hp | forces hd hp | ends hd hp | abandons hd hp =>
    exact hset _ _ hd (by simp [hp, DrainPhase.workload])

end Pool

/-! ### Sessions -/

/-- How far a session is from its end in its phase, beside what its unit has for it. -/
def SessionPhase.workload : SessionPhase → Nat
  | .opening => 2
  | .idle => 1
  | .queued _ => 0
  | .listening => 4
  | .sending _ => 6
  | .ending _ _ => 3
  | .closed _ => 0

namespace Session

/-- What a session has not looked at, and the turn that waits for the gate. -/
def intake (s : Session) : Nat :=
  2 * s.inbound.length + if s.phase.isQueued then 1 else 0

/-- How far a session is from its end, and whether something waits for the client. -/
def workload (s : Session) : Nat :=
  s.phase.workload + min 1 s.unread

variable {setup : SessionSetup} {v : SessionView} {s s' : Session} {es : List SessionEffect}

/-- What a move of a session uses up: something of the intake, which may start a call; or the
workload of the session, or the fragment that it takes. -/
theorem Move.lighter_or (hm : Move setup v s s' es) :
    s'.intake < s.intake ∨
    (s'.intake = s.intake ∧ (∀ call, .start call ∉ es) ∧
      (s'.workload < s.workload ∨
        es = [.take] ∧ (∃ text, v.offer = .fragment text) ∧ s'.workload < s.workload + 3)) := by
  cases hm with
  | opens hp =>
    refine .inr ⟨by simp [intake, hp, SessionPhase.isQueued], by simp, .inl ?_⟩
    simp [workload, hp, SessionPhase.workload, unread]
  | interrupted hs hr =>
    cases hp : s.phase with
    | opening => simp [hp, SessionPhase.isSuspended] at hs
    | closed reason => simp [hp, SessionPhase.isSuspended] at hs
    | queued call =>
      left
      simp [intake, hp, close, SessionPhase.isQueued]
    | idle | listening | sending | ending =>
      refine .inr ⟨by simp [intake, hp, close, SessionPhase.isQueued], by simp [parting], .inl ?_⟩
      simp [workload, unread, hp, close, SessionPhase.workload]
  | inboundEnds hp hn hi | inboundFails hp hn hi | ignores hp hn hi =>
    left
    simp [intake, hp, hi, close, SessionPhase.isQueued]
  | begins hp hn hi hr =>
    left
    rw [beginTurn_fst]
    simp only [intake, hp, hi, SessionPhase.isQueued, List.length_cons, if_true]
    omega
  | drains hp hn hi hd =>
    refine .inr ⟨by simp [intake, hp, close, SessionPhase.isQueued], by simp, .inl ?_⟩
    simp [workload, unread, hp, close, SessionPhase.workload]
  | enters hp hn hmay =>
    left
    simp [intake, hp, SessionPhase.isQueued]
  | @hears text hp hn ho =>
    refine .inr ⟨by simp [intake, hp, SessionPhase.isQueued], by simp,
      .inr ⟨rfl, ⟨text, ho⟩, ?_⟩⟩
    simp [workload, unread, hp, SessionPhase.workload]
    omega
  | hearsFailure hp hn ho | hearsEnd hp hn ho =>
    refine .inr ⟨by simp [intake, hp, SessionPhase.isQueued], by simp, .inl ?_⟩
    simp [workload, unread, hp, SessionPhase.workload]
  | puts hp hn hroom =>
    refine .inr ⟨by simp [intake, hp, put, SessionPhase.isQueued], by simp, .inl ?_⟩
    simp only [workload, hp, SessionPhase.workload]
    omega
  | @ends chunk failure hp hn hroom =>
    have hin : ((s.put chunk).endTurn setup failure).1.inbound = s.inbound := by
      rw [endTurn_fst]
      rfl
    refine .inr ⟨?_, ?_, .inl ?_⟩
    · rcases endTurn_phase_or setup (s.put chunk) failure with hphase | hphase
      · simp [intake, hin, hphase, hp, SessionPhase.isQueued]
      · simp [intake, hin, hphase, hp, SessionPhase.isQueued]
    · cases failure <;> simp [endTurn, note]
    · rcases endTurn_phase_or setup (s.put chunk) failure with hphase | hphase
      · simp only [workload, hphase, hp, SessionPhase.workload]
        omega
      · simp only [workload, hphase, hp, SessionPhase.workload]
        omega

end Session

/-! ### Clients -/

/-- How far a client is from having, and from not wanting, a session. -/
def Admission.workload : Admission → Nat
  | .arriving => 2
  | .queued => 1
  | _ => 0

/-- How far a client is from having seen everything, or from going away. -/
def Client.workload (c : Client) : Nat :=
  c.session.workload + c.admission.workload + (if c.session.clientGone then 0 else 1) +
    if c.endSeen then 0 else 1

/-- A client that reads uses something up. -/
theorem Client.workload_readStep? {c c' : Client} (h : c.readStep? = some c') :
    c'.session.intake = c.session.intake ∧ c'.workload < c.workload := by
  unfold readStep? at h
  split at h
  · cases h
  · rename_i hgone
    simp only [Bool.or_eq_true, Bool.not_eq_true', not_or, Bool.not_eq_true,
      Bool.not_eq_false] at hgone
    split at h
    · obtain rfl := Option.some.inj h
      refine ⟨rfl, ?_⟩
      cases hend : c.endSeen with
      | true => simp [workload, goAway, hgone.2, hend, Session.workload, Session.unread]
      | false => simp [workload, goAway, hgone.2, hend, Session.workload, Session.unread]
    · split at h
      · rename_i hunread
        obtain rfl := Option.some.inj h
        refine ⟨rfl, ?_⟩
        simp only [workload, Session.workload, Session.unread, Nat.sub_self] at hunread ⊢
        omega
      · split at h
        · rename_i hend
          simp only [Bool.and_eq_true, Bool.not_eq_true'] at hend
          obtain rfl := Option.some.inj h
          refine ⟨rfl, ?_⟩
          simp [workload, hend.2]
        · cases h

namespace Service

/-- What sessions have not looked at, and the turns that wait for the gate. -/
def intake (s : Service) : Nat :=
  (s.clients.map (·.session.intake)).sum

/-- How far clients, units and shutdowns are from their ends. -/
def workload (s : Service) : Nat :=
  (s.clients.map (·.workload)).sum + s.accelerator.workload + s.pool.workload

/-- Something has been used up: intake, or workload and no intake. -/
def Lighter (s' s : Service) : Prop :=
  s'.intake < s.intake ∨ s'.intake = s.intake ∧ s'.workload < s.workload

variable {s s' : Service}

/-- Only one client changes, and becomes lighter together with the accelerator. -/
theorem lighter_of_modify {i : Nat} {c : Client} (hc : s.clients[i]? = some c)
    {f : Client → Client} (hcs : s'.clients = s.clients.modify i f)
    (hstage : s'.pool.stage = s.pool.stage)
    (h : (f c).session.intake < c.session.intake ∨ (f c).session.intake = c.session.intake ∧
      (f c).workload + s'.accelerator.workload < c.workload + s.accelerator.workload) :
    Lighter s' s := by
  have hintake := sum_map_modify hc f (·.session.intake)
  have hwork := sum_map_modify hc f (·.workload)
  have hpool := Pool.workload_congr hstage
  rcases h with hlt | ⟨heq, hlt⟩
  · left
    simp only [intake, hcs]
    omega
  · right
    simp only [intake, workload, hcs, hpool]
    omega

/-! #### Moves of sessions -/

/-- What a session does to the accelerator without starting a call brings no work. -/
theorem workload_foldl_heed_le (turn : TurnName) {effects : List SessionEffect}
    (h : ∀ call, .start call ∉ effects) (a : Accelerator TurnName) :
    (effects.foldl (heed turn) a).workload ≤ a.workload := by
  induction effects generalizing a with
  | nil => exact Nat.le_refl _
  | cons e effects ih =>
    have hle := ih (fun call hmem => h call (List.mem_cons_of_mem _ hmem)) (heed turn a e)
    refine Nat.le_trans hle ?_
    cases e with
    | request | withdraw | note => exact Nat.le_refl _
    | start call => exact absurd List.mem_cons_self (h call)
    | take => exact a.workload_take_le turn
    | detach => exact Nat.le_of_eq (a.workload_detach turn)

theorem lighter_of_sessionStep? {i : Nat} (h : s.sessionStep? i = some s') : Lighter s' s := by
  obtain ⟨c, session, effects, hc, -, hstep, rfl⟩ := sessionStep?_eq_some.1 h
  have hm := Session.move_of_step? hstep
  have hgone : session.clientGone = c.session.clientGone := hm.clientGone_eq
  refine lighter_of_modify hc (afterMove_clients _ _ _ _) (afterMove_stage _ _ _ _) ?_
  rw [afterMove_accelerator]
  rcases hm.lighter_or with hlt | ⟨heq, hstart, hlt | ⟨rfl, ⟨text, ho⟩, hlt⟩⟩
  · exact .inl hlt
  · have hle := workload_foldl_heed_le (i, session.turns) hstart s.accelerator
    refine .inr ⟨heq, ?_⟩
    simp only [Client.workload, hgone]
    omega
  · -- A fragment weighs more in its unit than in the session that has taken it.
    have hturns : session.turns = c.session.turns := hm.turns_eq_of_take rfl
    have hle := Accelerator.workload_take_fragment ho
    refine .inr ⟨heq, ?_⟩
    simp only [Client.workload, hgone, List.foldl_cons, List.foldl_nil, heed, hturns]
    omega

/-! #### All tasks -/

theorem lighter_of_admissionStep? {i : Nat} (h : s.admissionStep? i = some s') :
    Lighter s' s := by
  obtain ⟨c, a, pool, opened, log, hc, hwait, ha, hqueued, hstage, rfl⟩ :=
    exists_of_admissionStep? h
  have hlt : a.workload < c.admission.workload := by
    cases a with
    | arriving => exact absurd rfl ha
    | queued => rw [hqueued rfl]; decide
    | admitted | refused | withdrawn | failed =>
      unfold Client.isWaiting at hwait
      split at hwait <;> simp_all [Admission.workload]
  refine lighter_of_modify hc rfl hstage (.inr ⟨rfl, ?_⟩)
  simp only [Client.workload, changeClient]
  omega

theorem lighter_of_readerStep? {i : Nat} (h : s.readerStep? i = some s') : Lighter s' s := by
  unfold readerStep? at h
  split at h
  · cases h
  · rename_i c hc
    obtain ⟨c', hc', rfl⟩ := Option.map_eq_some_iff.1 h
    obtain ⟨heq, hlt⟩ := Client.workload_readStep? hc'
    exact lighter_of_modify hc rfl rfl (.inr ⟨heq, Nat.add_lt_add_right hlt _⟩)

theorem lighter_of_unitStep? {n : Nat} (h : s.unitStep? n = some s') : Lighter s' s := by
  obtain ⟨progress, hp, rfl⟩ := Option.map_eq_some_iff.1 h
  have hlt := Accelerator.workload_unitStep? hp
  have hpool : (if progress.left then s.pool.untrack else s.pool).workload = s.pool.workload := by
    split
    · exact Pool.workload_congr s.pool.stage_untrack
    · rfl
  refine .inr ⟨rfl, ?_⟩
  simp only [workload, hpool]
  omega

theorem lighter_of_drainStep? {k : Nat} (h : s.drainStep? k = some s') : Lighter s' s := by
  obtain ⟨⟨pool, events⟩, hp, rfl⟩ := Option.map_eq_some_iff.1 h
  have hlt := (Pool.drainMove_of_drainStep? hp).workload_lt
  refine .inr ⟨rfl, ?_⟩
  simp only [workload]
  omega

/-- **Every step of a task uses something up.** -/
theorem lighter_of_step? {t : ServiceTask} (h : s.step? t = some s') : Lighter s' s := by
  cases t with
  | admission i => exact lighter_of_admissionStep? h
  | session i => exact lighter_of_sessionStep? h
  | reader i => exact lighter_of_readerStep? h
  | unit n => exact lighter_of_unitStep? h
  | drain k => exact lighter_of_drainStep? h

/-- Nothing can be used up for ever. -/
theorem wellFounded_lighter : WellFounded Lighter := by
  refine Subrelation.wf (fun {s' s} h => ?_)
    (InvImage.wf (fun s : Service => (s.intake, s.workload))
      (Prod.lex Nat.lt_wfRel Nat.lt_wfRel).wf)
  exact Prod.lex_def.2 h

/-- No order of steps goes on for ever. -/
theorem exists_not_step (f : Nat → Service) : ∃ n, ∀ t, (f n).step? t ≠ some (f (n + 1)) :=
  Tasks.exists_not_step_of_wellFounded (T := tasks) wellFounded_lighter lighter_of_step? f

/-- **The tasks come to rest.** -/
theorem exists_quiet (s : Service) : ∃ q, tasks.Reaches s q ∧ tasks.Quiet q :=
  Tasks.exists_quiet_of_wellFounded wellFounded_lighter lighter_of_step? s

end Service

end StreamedInference
