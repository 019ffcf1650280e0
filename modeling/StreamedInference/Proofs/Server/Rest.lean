import StreamedInference.Proofs.Server.Course
import StreamedInference.Proofs.Service.Workload

/-!
# Where a server comes to rest

The tasks of a server come to rest, as those of its service do. A server at rest serves and has not
been told to stop, or waits for a deadline, or its run is over. There are three deadlines at the
most, each no further away than one period: the grace period, that in which sessions have to end,
and that in which the transport may close. So a server that has begun to stop is done after three
periods, if it comes to rest in each of them.

## Main definitions

* `Server.periodsLeft`, `Server.deadline?`: for what a server waits.
* `Server.period`: the longest period.
* `Server.Resting`: how a server stands at rest.

## Main results

* `Server.exists_quiet`, `Server.exists_not_step`: the tasks come to rest.
* `Server.Stands.resting`: where they do.
* `Server.Stands.periodsLeft_le_sub`: a period that is over is not waited for again.
* `Server.exists_result_of_rests`: a server that has begun to stop comes to its end.
-/

namespace StreamedInference

/-! ### The tasks come to rest -/

/-- How many steps of its course a server has still to make at the most. -/
def ServerPhase.stepsLeft : ServerPhase → Nat
  | .registering => 8
  | .registered => 7
  | .serving => 6
  | .deregistering _ => 5
  | .closing _ => 4
  | .draining _ => 3
  | .waiting _ _ => 2
  | .stopping _ => 1
  | .ended _ => 0

namespace Server

variable {s s' : Server} {outcome : DrainOutcome}

theorem Advance.stepsLeft_lt (h : s.Advance s') : s'.phase.stepsLeft < s.phase.stepsLeft := by
  cases h with
  | closes hp => simp [hp, ServerPhase.stepsLeft]
  | passes hp hpass =>
    rw [hp]
    cases hpass <;> simp [ServerPhase.stepsLeft]

/-- Something has been used up: a step of the course, or something that the service has. -/
def Lighter (s' s : Server) : Prop :=
  s'.phase.stepsLeft < s.phase.stepsLeft ∨
    s'.phase.stepsLeft = s.phase.stepsLeft ∧ Service.Lighter s'.service s.service

theorem lighter_of_step? {t : Task} (h : s.step? t = some s') : Lighter s' s := by
  cases t with
  | main => exact .inl (advance_of_mainStep? h).stepsLeft_lt
  | service t =>
    obtain ⟨service, hs, rfl⟩ := Option.map_eq_some_iff.1 h
    exact .inr ⟨rfl, Service.lighter_of_step? hs⟩

theorem wellFounded_lighter : WellFounded Lighter := by
  refine Subrelation.wf (fun {s' s} h => ?_)
    (InvImage.wf (fun s : Server => (s.phase.stepsLeft, s.service))
      (Prod.lex Nat.lt_wfRel ⟨Service.Lighter, Service.wellFounded_lighter⟩).wf)
  exact Prod.lex_def.2 h

/-- No order of steps goes on for ever. -/
theorem exists_not_step (f : Nat → Server) : ∃ n, ∀ t, (f n).step? t ≠ some (f (n + 1)) :=
  Tasks.exists_not_step_of_wellFounded (T := tasks) wellFounded_lighter lighter_of_step? f

/-- **The tasks come to rest.** -/
theorem exists_quiet (s : Server) : ∃ q, tasks.Reaches s q ∧ tasks.Quiet q :=
  Tasks.exists_quiet_of_wellFounded wellFounded_lighter lighter_of_step? s

/-! ### What a server waits for -/

/-- How many periods a server waits for at the most, with the one that it is in. -/
def periodsLeft (s : Server) : Nat :=
  match s.phase with
  | .stopping _ | .ended _ => 0
  | .waiting _ _ => 1
  | .draining _ =>
    match s.drainPhases with
    | [.ended _] => 1
    | [.terminating _] => 2
    | _ => 3
  | _ => 3

/-- The deadline of the period that a server waits for. -/
def deadline? (s : Server) : Option Nat :=
  match s.phase with
  | .waiting _ deadline => some deadline
  | .draining _ =>
    match s.drainPhases with
    | [.draining deadline] | [.terminating deadline] => some deadline
    | _ => none
  | _ => none

/-- The longest of the periods that a server waits for. -/
def period (s : Server) : Nat :=
  max s.setup.grace Drain.terminationGrace

theorem periodsLeft_le (s : Server) : s.periodsLeft ≤ 3 := by
  unfold periodsLeft
  repeat' split
  all_goals decide

/-- The period of a deadline is among those that are waited for. -/
theorem periodsLeft_pos {deadline : Nat} (hd : s.deadline? = some deadline) :
    0 < s.periodsLeft := by
  unfold periodsLeft
  cases hp : s.phase with
  | stopping | ended => simp [deadline?, hp] at hd
  | draining =>
    dsimp only
    split <;> decide
  | registering | registered | serving | deregistering | closing | waiting => simp

/-- A period is waited for as before, or is not waited for again. -/
def Follows (s s' : Server) : Prop :=
  s'.periodsLeft < s.periodsLeft ∨ s'.periodsLeft = s.periodsLeft ∧
    ∀ deadline, s.deadline? = some deadline → s'.deadline? = some deadline

theorem Follows.refl (s : Server) : s.Follows s :=
  .inr ⟨rfl, fun _ => id⟩

theorem Follows.trans {s'' : Server} (h : s.Follows s') (h' : s'.Follows s'') :
    s.Follows s'' := by
  rcases h with hlt | ⟨heq, hd⟩ <;> rcases h' with hlt' | ⟨heq', hd'⟩
  · exact .inl (Nat.lt_trans hlt' hlt)
  · exact .inl (heq' ▸ hlt)
  · exact .inl (heq ▸ hlt')
  · exact .inr ⟨heq'.trans heq, fun deadline h => hd' deadline (hd deadline h)⟩

theorem Stands.follows_aside (h : s.Stands outcome) (ha : s.Aside s') : s.Follows s' := by
  obtain ⟨m, hg, hm⟩ := ha.exists_poolMove
  unfold Follows periodsLeft deadline?
  rw [ha.phase_eq]
  cases hp : s.phase with
  | draining early =>
    obtain ⟨phase, hphases, -⟩ := h.exists_phase (by rw [hp]; rfl)
    obtain ⟨phase', hphases', hn⟩ := hm.exists_next hg hphases
    simp only [hphases, show s'.drainPhases = [phase'] from hphases']
    cases hn with
    | rests => exact .inr ⟨rfl, fun _ => id⟩
    | begins => exact .inr ⟨rfl, nofun⟩
    | cleans | forces | ends => exact .inl (by simp)
  | registering | registered | serving | deregistering | closing | waiting | stopping | ended =>
    exact .inr ⟨rfl, fun _ => id⟩

theorem Stands.follows_advance (h : s.Stands outcome) (ha : s.Advance s') : s.Follows s' := by
  cases ha with
  | closes hp =>
    refine .inr ⟨?_, by simp [deadline?, hp]⟩
    obtain ⟨hdrains, -, -⟩ := h.untouched (by rw [hp]; rfl)
    simp [periodsLeft, drainPhases, hp, Service.act, Pool.shutdown, hdrains]
  | passes hp hpass =>
    cases hpass with
    | registers | serves | obeys | yields | deregisters | ends =>
      exact .inr ⟨by simp [periodsLeft, hp], by simp [deadline?, hp]⟩
    | drained ho =>
      have hphases := h.drainPhases_eq (by rw [hp]; rfl) ho
      exact .inr ⟨by simp [periodsLeft, hp, hphases], by simp [deadline?, hp, hphases]⟩
    | drainedEarly ho =>
      have hphases := h.drainPhases_eq (by rw [hp]; rfl) ho
      exact .inl (by simp [periodsLeft, hp, hphases])
    | sees | aborts => exact .inl (by simp [periodsLeft, hp])

theorem Stands.follows (h : s.Stands outcome) (hr : tasks.Reachable befall s s') :
    s.Follows s' := by
  refine (hr.of_leads (P := fun s' => (∃ outcome', s'.Stands outcome') ∧ s.Follows s')
    ⟨⟨outcome, h⟩, .refl s⟩ ?_).2
  rintro s₁ s₂ m ⟨⟨outcome', hs⟩, hfollows⟩ hm
  rcases aside_or_advance hm with ha | ha
  · exact ⟨⟨outcome', hs.aside ha⟩, hfollows.trans (hs.follows_aside ha)⟩
  · exact ⟨hs.advance ha, hfollows.trans (hs.follows_advance ha)⟩

/-! ### At rest -/

/-- How a server stands at rest. -/
inductive Resting (s : Server) : Prop
  /-- It serves, and there is no reason to stop. -/
  | serves (hp : s.phase = .serving) (hs : s.signalled = false) (he : s.transportEnd? = none)
  /-- It waits for a deadline. -/
  | waits {deadline : Nat} (hp : s.phase.hasClosed = true) (hd : s.deadline? = some deadline)
      (hlt : s.service.pool.now < deadline) (hle : deadline ≤ s.service.pool.now + s.period)
  /-- Its run is over. -/
  | ends {result : ServerResult} (hp : s.phase = .ended result)

/-- The tasks of the service are at rest, too. -/
theorem quiet_service (hq : tasks.Quiet s) : Service.tasks.Quiet s.service := by
  intro t ht
  have hnone : (s.service.step? t).map (fun service => { s with service := service }) = none :=
    hq (.service t) (List.mem_cons_of_mem _ (List.mem_map_of_mem ht))
  exact Option.map_eq_none_iff.1 hnone

/-- At rest a server whose pool drains waits for the deadline of the shutdown. -/
theorem Stands.waits_of_draining (h : s.Stands outcome) (hq : tasks.Quiet s)
    {early : Option TransportEnd} (hp : s.phase = .draining early)
    (ho : s.drainOutcome? = none) : s.Resting := by
  have hc : s.phase.hasClosed = true := by rw [hp]; rfl
  obtain ⟨phase, hphases, hin⟩ := h.exists_phase hc
  obtain ⟨d, hd, rfl⟩ := List.map_eq_singleton_iff.1 hphases
  have hdue : ∀ {t : Nat}, s.service.pool.due? 0 = some t → s.service.pool.now < t :=
    Service.lt_of_due? (quiet_service hq)
  have hwaits : ∀ {deadline ms : Nat}, s.deadline? = some deadline →
      s.service.pool.due? 0 = some (if d.emptied then s.service.pool.now else deadline) →
      ms ≤ s.period → deadline ≤ s.service.pool.now + ms → s.Resting := by
    intro deadline ms hdeadline ht hms hle
    have hlt := hdue ht
    split at hlt
    · exact absurd hlt (Nat.lt_irrefl _)
    · exact .waits hc hdeadline hlt (Nat.le_trans hle (Nat.add_le_add_left hms _))
  cases hphase : d.phase with
  | called grace => exact absurd (hdue (by simp [Pool.due?, hd, hphase])) (Nat.lt_irrefl _)
  | draining deadline =>
    rw [hphase] at hin hphases
    exact hwaits (by simp [deadline?, hp, hphases]) (by simp [Pool.due?, hd, hphase])
      (Nat.le_max_left _ _) hin
  | terminating deadline =>
    rw [hphase] at hin hphases
    exact hwaits (by simp [deadline?, hp, hphases]) (by simp [Pool.due?, hd, hphase])
      (Nat.le_max_right _ _) hin
  | ended outcome' => simp [drainOutcome?, hd, Drain.outcome?, hphase] at ho

/-- **Where a server comes to rest.** -/
theorem Stands.resting (h : s.Stands outcome) (hq : tasks.Quiet s) : s.Resting := by
  have hmain : s.mainStep? = none := hq .main List.mem_cons_self
  unfold mainStep? at hmain
  cases hp : s.phase with
  | registering | registered | deregistering | closing | stopping => simp [hp] at hmain
  | serving =>
    simp only [hp] at hmain
    split at hmain
    · cases hmain
    · rename_i hs
      exact .serves hp (Bool.eq_false_iff.2 hs) (Option.map_eq_none_iff.1 hmain)
  | draining early =>
    simp only [hp] at hmain
    exact h.waits_of_draining hq hp (Option.map_eq_none_iff.1 hmain)
  | waiting outcome deadline =>
    have hagrees := h.agrees
    simp only [hp] at hmain
    rw [hp] at hagrees
    split at hmain
    · cases hmain
    · split at hmain
      · cases hmain
      · rename_i hlt
        refine .waits (by rw [hp]; rfl) (by rw [deadline?, hp]) (Nat.not_le.1 hlt) ?_
        refine Nat.le_trans hagrees.2 (Nat.add_le_add_left ?_ _)
        exact Nat.le_trans (by decide) (Nat.le_max_right _ _)
  | ended result => exact .ends hp

/-- **A period that is over is not waited for again.** -/
theorem Stands.periodsLeft_le_sub (h : s.Stands outcome) (hq : tasks.Quiet s)
    (hc : s.phase.hasClosed = true) (hr : tasks.Reachable befall s s') (hq' : tasks.Quiet s')
    (ht : s.service.pool.now + s.period ≤ s'.service.pool.now) :
    s'.periodsLeft ≤ s.periodsLeft - 1 := by
  have hfollows := h.follows hr
  obtain ⟨outcome', h'⟩ := h.of_reachable hr
  cases h.resting hq with
  | serves hp =>
    rw [hp] at hc
    cases hc
  | ends hp =>
    have hnone : s.periodsLeft = 0 := by rw [periodsLeft, hp]
    rcases hfollows with hlt | ⟨heq, -⟩
    · omega
    · omega
  | @waits deadline _ hd _ hle =>
    rcases hfollows with hlt | ⟨-, hkept⟩
    · omega
    · -- The deadline of the period is past, and the server waits for it no longer.
      have hd' := hkept deadline hd
      cases h'.resting hq' with
      | serves hp | ends hp => simp [deadline?, hp] at hd'
      | waits _ hd₁ hlt =>
        obtain rfl := Option.some.inj (hd₁.symm.trans hd')
        omega

/-- **A server that has begun to stop comes to its end**, if it comes to rest again and again and a
period passes in between. -/
theorem exists_result_of_rests {f : Nat → Server} (h : (f 0).Stands outcome)
    (hc : (f 0).phase.hasClosed = true) (hq : ∀ n, tasks.Quiet (f n))
    (hr : ∀ n, tasks.Reachable befall (f n) (f (n + 1)))
    (ht : ∀ n, (f n).service.pool.now + (f n).period ≤ (f (n + 1)).service.pool.now) :
    ∃ result, (f 3).result? = some result := by
  have hall : ∀ n, (∃ outcome', (f n).Stands outcome') ∧ (f n).phase.hasClosed = true ∧
      (f n).periodsLeft ≤ 3 - n := by
    intro n
    induction n with
    | zero => exact ⟨⟨outcome, h⟩, hc, periodsLeft_le _⟩
    | succ n ih =>
      obtain ⟨⟨outcome', hn⟩, hclosed, hle⟩ := ih
      have hlt := hn.periodsLeft_le_sub (hq n) hclosed (hr n) (hq (n + 1)) (ht n)
      exact ⟨hn.of_reachable (hr n), hasClosed_of_reachable (hr n) hclosed, by omega⟩
  obtain ⟨⟨outcome', h₃⟩, hclosed, hle⟩ := hall 3
  cases h₃.resting (hq 3) with
  | serves hp =>
    rw [hp] at hclosed
    cases hclosed
  | waits _ hd =>
    have hpos := periodsLeft_pos hd
    omega
  | @ends result hp => exact ⟨result, by rw [result?, hp]⟩

end Server

end StreamedInference
