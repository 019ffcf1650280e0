import StreamedInference.Pool.Basic

/-!
# The signals of a pool

Only a shutdown gives the two signals of a pool, and nothing takes them back. Slots come and go,
and so do tasks, without bringing any shutdown further.

## Main definitions

* `Pool.stage`: how far the shutdowns of a pool have come.
* `Pool.Keeps`: only slots have come and gone.
* `Pool.DrainMove`: a step of a shutdown.

## Main results

* `Pool.keeps_ask`, `Pool.keeps_withdraw`, `Pool.keeps_release`: slots do nothing to shutdowns.
* `Pool.stage_track`, `Pool.stage_untrack`: nor do tasks, but that the end of the last one is noted.
* `Pool.drainMove_of_drainStep?`: what a step of a shutdown can be.
* `Pool.DrainMove.draining_of`, `Pool.DrainMove.terminated_of`: such a step keeps the signals that
  have been given.
* `Pool.DrainMove.getElem?_drains`: it does nothing to other shutdowns.
-/

namespace StreamedInference

namespace Pool

variable {ι : Type} [DecidableEq ι]

/-- How far the shutdowns of a pool have come: its two signals, and the phases of all shutdowns. -/
def stage (p : Pool ι) : Bool × Bool × List DrainPhase :=
  (p.draining, p.terminated, p.drains.map (·.phase))

omit [DecidableEq ι] in
theorem draining_congr {p p' : Pool ι} (h : p'.stage = p.stage) : p'.draining = p.draining :=
  congrArg Prod.fst h

omit [DecidableEq ι] in
theorem terminated_congr {p p' : Pool ι} (h : p'.stage = p.stage) :
    p'.terminated = p.terminated :=
  congrArg (·.2.1) h

omit [DecidableEq ι] in
theorem phases_congr {p p' : Pool ι} (h : p'.stage = p.stage) :
    p'.drains.map (·.phase) = p.drains.map (·.phase) :=
  congrArg (·.2.2) h

/-! ### Slots and tasks -/

/-- Slots have come and gone, and nothing else has happened: no task has begun or ended, no shutdown
has come any further, and no time has passed. -/
structure Keeps (p p' : Pool ι) : Prop where
  draining_eq : p'.draining = p.draining
  terminated_eq : p'.terminated = p.terminated
  now_eq : p'.now = p.now
  drains_eq : p'.drains = p.drains
  tracked_eq : p'.tracked = p.tracked

omit [DecidableEq ι] in
theorem Keeps.refl (p : Pool ι) : p.Keeps p :=
  ⟨rfl, rfl, rfl, rfl, rfl⟩

omit [DecidableEq ι] in
theorem Keeps.trans {p p' p'' : Pool ι} (h : p.Keeps p') (h' : p'.Keeps p'') : p.Keeps p'' where
  draining_eq := h'.draining_eq.trans h.draining_eq
  terminated_eq := h'.terminated_eq.trans h.terminated_eq
  now_eq := h'.now_eq.trans h.now_eq
  drains_eq := h'.drains_eq.trans h.drains_eq
  tracked_eq := h'.tracked_eq.trans h.tracked_eq

omit [DecidableEq ι] in
theorem Keeps.stage_eq {p p' : Pool ι} (h : p.Keeps p') : p'.stage = p.stage := by
  rw [stage, h.draining_eq, h.terminated_eq, h.drains_eq, stage]

omit [DecidableEq ι] in
theorem keeps_giveBack (p : Pool ι) : p.Keeps p.giveBack := by
  unfold giveBack
  split <;> exact ⟨rfl, rfl, rfl, rfl, rfl⟩

theorem keeps_withdraw (p : Pool ι) (q : ι) : p.Keeps (p.withdraw q) := by
  unfold withdraw
  split
  · refine Keeps.trans ?_ (keeps_giveBack _)
    exact ⟨rfl, rfl, rfl, rfl, rfl⟩
  · exact ⟨rfl, rfl, rfl, rfl, rfl⟩

theorem keeps_ask (p : Pool ι) (q : ι) (again : Bool) : p.Keeps (p.ask q again).2 := by
  by_cases hdrain : p.draining = true
  · rw [ask, if_pos hdrain]
    exact p.keeps_withdraw q
  · rw [ask, if_neg hdrain]
    repeat' split
    all_goals exact ⟨rfl, rfl, rfl, rfl, rfl⟩

omit [DecidableEq ι] in
theorem keeps_release (p : Pool ι) : p.Keeps p.release := by
  refine Keeps.trans ?_ (keeps_giveBack _)
  exact ⟨rfl, rfl, rfl, rfl, rfl⟩

@[simp] theorem stage_withdraw (p : Pool ι) (q : ι) : (p.withdraw q).stage = p.stage :=
  (p.keeps_withdraw q).stage_eq

@[simp] theorem stage_ask (p : Pool ι) (q : ι) (again : Bool) :
    (p.ask q again).2.stage = p.stage :=
  (p.keeps_ask q again).stage_eq

omit [DecidableEq ι] in
@[simp] theorem stage_release (p : Pool ι) : p.release.stage = p.stage :=
  p.keeps_release.stage_eq

omit [DecidableEq ι] in
@[simp] theorem stage_track (p : Pool ι) : p.track.stage = p.stage := rfl

omit [DecidableEq ι] in
/-- That no task is left is noted, and brings no shutdown further by itself. -/
@[simp] theorem stage_untrack (p : Pool ι) : p.untrack.stage = p.stage := by
  have hphase : ∀ d : Drain, d.noticeEmpty.phase = d.phase := by
    intro d
    unfold Drain.noticeEmpty
    split <;> rfl
  have hphases : p.untrack.drains.map (·.phase) = p.drains.map (·.phase) := by
    unfold untrack
    dsimp only
    split
    · rw [List.map_map]
      exact List.map_congr_left fun d _ => hphase d
    · rfl
  rw [stage, hphases]
  rfl

/-! ### Steps of shutdowns -/

omit [DecidableEq ι] in
/-- A step of the shutdown at place `k`. -/
inductive DrainMove (p : Pool ι) (k : Nat) : Pool ι → Prop
  /-- It begins. -/
  | begins {d : Drain} {grace : Nat} (hd : p.drains[k]? = some d) (hp : d.phase = .called grace) :
      DrainMove p k (p.beginDrain k grace).1
  /-- All tasks have ended in time. -/
  | cleans {d : Drain} {deadline : Nat} (hd : p.drains[k]? = some d)
      (hp : d.phase = .draining deadline) (he : d.emptied = true) :
      DrainMove p k (p.terminate.setDrain k ⟨.ended .clean, true⟩)
  /-- Time is up, and the tasks that are left are told to end. -/
  | forces {d : Drain} {deadline : Nat} (hd : p.drains[k]? = some d)
      (hp : d.phase = .draining deadline) (he : d.emptied = false) (ht : deadline ≤ p.now) :
      DrainMove p k (p.terminate.setDrain k
        ⟨.terminating (p.now + Drain.terminationGrace), p.tracked == 0⟩)
  /-- The tasks that were told to end have ended. -/
  | ends {d : Drain} {deadline : Nat} (hd : p.drains[k]? = some d)
      (hp : d.phase = .terminating deadline) (he : d.emptied = true) :
      DrainMove p k (p.setDrain k ⟨.ended .forced, true⟩)
  /-- Some of them have not, and are not waited for any longer. -/
  | abandons {d : Drain} {deadline : Nat} (hd : p.drains[k]? = some d)
      (hp : d.phase = .terminating deadline) (he : d.emptied = false) (ht : deadline ≤ p.now) :
      DrainMove p k (p.setDrain k ⟨.ended .abandoned, false⟩)

variable {p p' : Pool ι} {k : Nat} {events : List LogEvent}

omit [DecidableEq ι] in
theorem drainMove_of_drainStep? (h : p.drainStep? k = some (p', events)) : p.DrainMove k p' := by
  unfold drainStep? at h
  split at h
  · cases h
  · rename_i d hd
    cases hp : d.phase with
    | called grace =>
      simp only [hp] at h
      obtain ⟨rfl, -⟩ := Prod.mk.inj (Option.some.inj h)
      exact .begins hd hp
    | draining deadline =>
      simp only [hp] at h
      split at h
      · obtain ⟨rfl, -⟩ := Prod.mk.inj (Option.some.inj h)
        exact .cleans hd hp ‹_›
      · rename_i he
        split at h
        · obtain ⟨rfl, -⟩ := Prod.mk.inj (Option.some.inj h)
          exact .forces hd hp (Bool.eq_false_iff.2 he) ‹_›
        · cases h
    | terminating deadline =>
      simp only [hp] at h
      split at h
      · obtain ⟨rfl, -⟩ := Prod.mk.inj (Option.some.inj h)
        exact .ends hd hp ‹_›
      · rename_i he
        split at h
        · obtain ⟨rfl, -⟩ := Prod.mk.inj (Option.some.inj h)
          exact .abandons hd hp (Bool.eq_false_iff.2 he) ‹_›
        · cases h
    | ended outcome => simp [hp] at h

omit [DecidableEq ι] in
/-- A step of a shutdown does not take back that the pool drains. -/
theorem DrainMove.draining_of (h : p.DrainMove k p') (hd : p.draining = true) :
    p'.draining = true := by
  cases h with
  | begins | cleans | forces => rfl
  | ends | abandons => exact hd

omit [DecidableEq ι] in
/-- A step of a shutdown does not take back that tasks have to end. -/
theorem DrainMove.terminated_of (h : p.DrainMove k p') (ht : p.terminated = true) :
    p'.terminated = true := by
  cases h with
  | cleans | forces => rfl
  | begins | ends | abandons => exact ht

omit [DecidableEq ι] in
/-- A step of a shutdown takes no time. -/
theorem DrainMove.now_eq (h : p.DrainMove k p') : p'.now = p.now := by
  cases h <;> rfl

omit [DecidableEq ι] in
/-- A step of a shutdown begins and ends no task. -/
theorem DrainMove.tracked_eq (h : p.DrainMove k p') : p'.tracked = p.tracked := by
  cases h <;> rfl

omit [DecidableEq ι] in
theorem DrainMove.length_drains (h : p.DrainMove k p') : p'.drains.length = p.drains.length := by
  cases h <;> exact List.length_set

omit [DecidableEq ι] in
/-- A step of a shutdown does nothing to the others. -/
theorem DrainMove.getElem?_drains (h : p.DrainMove k p') {j : Nat} (hj : k ≠ j) :
    p'.drains[j]? = p.drains[j]? := by
  cases h <;> exact List.getElem?_set_ne hj

end Pool

end StreamedInference
