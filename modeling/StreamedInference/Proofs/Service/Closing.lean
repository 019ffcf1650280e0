import StreamedInference.Proofs.Service.Refusal
import StreamedInference.Proofs.Service.Tally

/-!
# The only shutdown of a service

A server shuts the pool of its service down once, and nobody else does. Before that no client has
been refused; from then on there is one shutdown to be followed through its phases, and its
deadlines are never further away than the period that it waits for.

## Main definitions

* `DrainPhase.Next`: how a shutdown goes on in a move.
* `DrainPhase.InTime`: a shutdown waits no longer than the period it is in.
* `Service.Untouched`: no shutdown has been asked for.

## Main results

* `Service.PoolMove.stage_or`: what a move does to the shutdowns of a pool if it asks for none.
* `Service.PoolMove.untouched`: without a shutdown nobody is refused.
* `Service.PoolMove.exists_next`: how the only shutdown goes on.
* `Service.lt_of_due?`: at rest no shutdown is due.
-/

namespace StreamedInference

/-! ### Phases -/

/-- How a shutdown goes on in a move that is made at the time `now`. -/
inductive DrainPhase.Next (now : Nat) : DrainPhase → DrainPhase → Prop
  | rests (phase : DrainPhase) : Next now phase phase
  | begins (grace : Nat) : Next now (.called grace) (.draining (now + grace))
  | cleans (deadline : Nat) : Next now (.draining deadline) (.ended .clean)
  | forces (deadline : Nat) :
      Next now (.draining deadline) (.terminating (now + Drain.terminationGrace))
  | ends (deadline : Nat) (outcome : DrainOutcome) :
      Next now (.terminating deadline) (.ended outcome)

/-- A shutdown that has been asked for with a grace period waits no longer than the period it is
in. -/
def DrainPhase.InTime (grace now : Nat) : DrainPhase → Prop
  | .called g => g = grace
  | .draining deadline => deadline ≤ now + grace
  | .terminating deadline => deadline ≤ now + Drain.terminationGrace
  | .ended _ => True

namespace DrainPhase

variable {grace now now' : Nat} {phase phase' : DrainPhase}

theorem InTime.mono (h : phase.InTime grace now) (hle : now ≤ now') :
    phase.InTime grace now' := by
  cases phase with
  | called | ended => exact h
  | draining | terminating => exact Nat.le_trans h (Nat.add_le_add_right hle _)

theorem Next.inTime (h : Next now phase phase') (ht : phase.InTime grace now)
    (hle : now ≤ now') : phase'.InTime grace now' := by
  refine InTime.mono ?_ hle
  cases h with
  | rests => exact ht
  | begins g => exact Nat.le_of_eq (congrArg (now + ·) ht)
  | forces => exact Nat.le_refl _
  | cleans | ends => trivial

end DrainPhase

/-- Only a shutdown that has been asked for makes a step. -/
theorem Pool.DrainMove.drains_ne_nil {ι : Type} {p p' : Pool ι} {k : Nat} (h : p.DrainMove k p') :
    p.drains ≠ [] := by
  intro hnil
  cases h with
  | begins hd | cleans hd | forces hd | ends hd | abandons hd => simp [hnil] at hd

/-- A step of the only shutdown. -/
theorem Pool.DrainMove.next {ι : Type} {p p' : Pool ι} {k : Nat} {phase : DrainPhase}
    (h : p.DrainMove k p') (hp : p.drains.map (·.phase) = [phase]) :
    ∃ phase', p'.drains.map (·.phase) = [phase'] ∧ DrainPhase.Next p.now phase phase' := by
  obtain ⟨d, hdrains, rfl⟩ := List.map_eq_singleton_iff.1 hp
  -- The shutdown that makes the step is the only one, and stays the only one.
  have hset : ∀ {d₁ d' : Drain} {phase₁ : DrainPhase}, p.drains[k]? = some d₁ →
      d₁.phase = phase₁ → DrainPhase.Next p.now phase₁ d'.phase →
        ∃ phase', (p.drains.set k d').map (·.phase) = [phase'] ∧
          DrainPhase.Next p.now d.phase phase' := by
    intro d₁ d' phase₁ hd₁ hphase hn
    obtain ⟨hlt, rfl⟩ := List.getElem?_eq_some_iff.1 hd₁
    obtain rfl : k = 0 := by simpa [hdrains] using hlt
    refine ⟨d'.phase, by simp [hdrains], ?_⟩
    simp only [hdrains, List.getElem_cons_zero] at hphase
    rwa [hphase]
  cases h with
  | begins hd hphase => exact hset hd hphase (.begins _)
  | cleans hd hphase => exact hset hd hphase (.cleans _)
  | forces hd hphase => exact hset hd hphase (.forces _)
  | ends hd hphase | abandons hd hphase => exact hset hd hphase (.ends _ _)

namespace Service

variable {s s' : Service} {m : Action ⊕ ServiceTask}

/-! ### Moves -/

/-- Something is noted, and nothing else happens. -/
theorem poolMove_noteAll (s : Service) (events : List LogEvent) (m : Action ⊕ ServiceTask) :
    s.PoolMove m (s.noteAll events) :=
  .rests rfl rfl rfl rfl

/-- What a move does to the shutdowns of the pool if it asks for none: at most one of them makes a
step. -/
theorem PoolMove.stage_or (hm : s.PoolMove m s') (hg : ∀ grace, m ≠ .inl (.shutdown grace)) :
    s'.pool.stage = s.pool.stage ∧ s.pool.now ≤ s'.pool.now ∨
      ∃ k, s.pool.DrainMove k s'.pool := by
  have hkeeps : s.pool.Keeps s'.pool → s'.pool.stage = s.pool.stage ∧ s.pool.now ≤ s'.pool.now :=
    fun hk => ⟨hk.stage_eq, Nat.le_of_eq hk.now_eq.symm⟩
  cases hm with
  | rests hp | enters hp => exact .inl (hkeeps (hp ▸ .refl _))
  | calls grace => exact absurd rfl (hg grace)
  | advances ms => exact .inl ⟨rfl, Nat.le_add_right _ _⟩
  | drains hm => exact .inr ⟨_, hm⟩
  | givesUp _ _ hp => exact .inl (hkeeps (hp ▸ s.pool.keeps_withdraw _))
  | asks _ _ hask _ hp =>
    split at hp
    · rw [hp]
      exact .inl ⟨hask.keeps.stage_eq, Nat.le_of_eq hask.keeps.now_eq.symm⟩
    · exact .inl (hkeeps (hp ▸ hask.keeps))
  | @fails _ _ _ _ pool _ _ _ hask hp =>
    exact .inl (hkeeps (hp ▸ hask.keeps.trans pool.keeps_release))
  | starts hp => exact .inl (hp ▸ ⟨rfl, Nat.le_refl _⟩)
  | closes _ _ hp =>
    rw [hp]
    refine .inl ⟨?_, Nat.le_of_eq s.pool.keeps_release.now_eq.symm⟩
    rw [Pool.stage_untrack, Pool.stage_release]
  | leaves hp => exact .inl (hp ▸ ⟨s.pool.stage_untrack, Nat.le_refl _⟩)

theorem PoolMove.now_le (hm : s.PoolMove m s') (hg : ∀ grace, m ≠ .inl (.shutdown grace)) :
    s.pool.now ≤ s'.pool.now := by
  rcases hm.stage_or hg with ⟨-, hle⟩ | ⟨k, hk⟩
  · exact hle
  · exact Nat.le_of_eq hk.now_eq.symm

/-- The only shutdown goes on, or stays where it is. -/
theorem PoolMove.exists_next (hm : s.PoolMove m s') (hg : ∀ grace, m ≠ .inl (.shutdown grace))
    {phase : DrainPhase} (hp : s.pool.drains.map (·.phase) = [phase]) :
    ∃ phase', s'.pool.drains.map (·.phase) = [phase'] ∧
      DrainPhase.Next s.pool.now phase phase' := by
  rcases hm.stage_or hg with ⟨hstage, -⟩ | ⟨k, hk⟩
  · exact ⟨phase, (Pool.phases_congr hstage).trans hp, .rests phase⟩
  · exact hk.next hp

/-- At rest no shutdown is due. -/
theorem lt_of_due? (hq : tasks.Quiet s) {k t : Nat} (ht : s.pool.due? k = some t) :
    s.pool.now < t := by
  have hk : k < s.pool.drains.length := by
    refine Nat.lt_of_not_le fun hle => ?_
    rw [Pool.due?, List.getElem?_eq_none hle] at ht
    cases ht
  have hnone : s.step? (.drain k) = none :=
    hq _ (List.mem_append_right _ (List.mem_map_of_mem (List.mem_range.2 hk)))
  have hstep : s.pool.drainStep? k = none := Option.map_eq_none_iff.1 hnone
  refine Nat.lt_of_not_le fun hle => ?_
  have hsome := Pool.isSome_drainStep?_iff.2 ⟨t, ht, hle⟩
  rw [hstep] at hsome
  cases hsome

/-! ### Before the shutdown -/

/-- No shutdown has been asked for: the pool does not drain, and no client has been refused. -/
structure Untouched (s : Service) : Prop where
  drains_eq : s.pool.drains = []
  draining_eq : s.pool.draining = false
  refused_ne : ∀ i, s.admission? i ≠ some .refused

theorem untouched_of_create? {setup : SessionSetup} {engine : Engine} {limit : Nat}
    (h : create? setup engine limit = .ok s) : s.Untouched := by
  have hinit := isInitial_of_create? h
  obtain ⟨limit, hp⟩ := hinit.pool_eq
  exact ⟨by rw [hp]; rfl, by rw [hp]; rfl, fun i => by simp [admission?, hinit.clients_eq]⟩

/-- As long as no shutdown is asked for, the pool does not drain and nobody is refused. -/
theorem PoolMove.untouched (hm : s.PoolMove m s') (hg : ∀ grace, m ≠ .inl (.shutdown grace))
    (h : s.Untouched) : s'.Untouched := by
  have hstage : s'.pool.stage = s.pool.stage :=
    (hm.stage_or hg).elim And.left fun ⟨_, hk⟩ => absurd h.drains_eq hk.drains_ne_nil
  refine ⟨?_, (Pool.draining_congr hstage).trans h.draining_eq, fun i hi => ?_⟩
  · have hphases := Pool.phases_congr hstage
    rw [h.drains_eq] at hphases
    exact List.map_eq_nil_iff.1 hphases
  · have hpasses := hm.passes i
    rw [hi, h.draining_eq] at hpasses
    generalize ha : s.admission? i = a at hpasses
    cases hpasses with
    | rests => exact h.refused_ne i ha
    | refused _ hd => cases hd

end Service

end StreamedInference
