import Mathlib.Algebra.GroupWithZero.Nat
import StreamedInference.Proofs.Pool.Parties
import StreamedInference.Proofs.Scheduling.History

/-!
# How shutdowns end

A call for a shutdown is followed through the history of a run, in which parties come and go, tasks
begin and end, time passes and other shutdowns are called for. How it ends is told by the moments at
which no task was left, and when it ends by the clock and by how much the clock has overrun it.

## Main definitions

* `PoolUsage.History`: a run from a pool that nobody has used.
* `PoolUsage.moments`, `PoolUsage.lateness`: what is read off a history.

## Main results

* `PoolUsage.History.counted`: what a pool tracks are the parties that run a task.
* `PoolUsage.History.stands`: where the shutdown of a call stands.
* `PoolUsage.History.exists_call`: every shutdown has been called for.
* `PoolUsage.shutdown_settles`: what becomes of a call for a shutdown.
-/

namespace StreamedInference

namespace PoolUsage

variable {ι : Type} [DecidableEq ι]

/-! ### What is read off a history -/

/-- The moves of a run, the latest first, with the states in which they were made. -/
abbrev Past (ι : Type) := List (PoolUsage ι × (PoolAction ι ⊕ PoolTask ι))

/-- A run from a pool that nobody has used. -/
abbrev History (limit : Nat) : Past ι → PoolUsage ι → Prop :=
  tasks.History act { pool := .ofLimit limit }

/-- The pool as it is and as it has been. -/
def moments (past : Past ι) (u : PoolUsage ι) : List (Pool ι) :=
  u.pool :: past.map (·.1.pool)

/-- By how much the clock has overrun the moments at which a shutdown could go on, all together. -/
def lateness (k : Nat) (past : Past ι) : Nat :=
  (past.map fun e => e.1.pool.overrun k e.2).sum

variable {limit grace : Nat} {u u' v : PoolUsage ι} {past : Past ι}
  {m : PoolAction ι ⊕ PoolTask ι}

omit [DecidableEq ι] in
/-- The clock has overrun nothing if time has never passed beyond what a shutdown waits for. -/
theorem lateness_eq_zero {k : Nat} (hp : ∀ (w : PoolUsage ι) (ms t : Nat),
    (w, .inl (.advance ms)) ∈ past → w.pool.due? k = some t → w.pool.now + ms ≤ t) :
    lateness k past = 0 := by
  refine List.sum_eq_zero_iff_forall_eq_nat.2 fun n hn => ?_
  obtain ⟨⟨w, m⟩, he, rfl⟩ := List.mem_map.1 hn
  dsimp only
  unfold Pool.overrun
  split
  · rename_i ms
    split
    · rename_i t ht
      have hle := hp w ms t he ht
      omega
    · rfl
  · rfl

omit [DecidableEq ι] in
/-- A move adds one moment. -/
theorem exists_moment_cons {P : Pool ι → Prop} :
    (∃ p ∈ moments ((u, m) :: past) u', P p) ↔ P u'.pool ∨ ∃ p ∈ moments past u, P p := by
  simp [moments]

/-- What holds of a pool that nobody has used and is kept by every move holds at any time. -/
theorem History.of_move {P : Past ι → PoolUsage ι → Prop} (init : P [] { pool := .ofLimit limit })
    (keep : ∀ (past : Past ι) (u u' : PoolUsage ι) (m : PoolAction ι ⊕ PoolTask ι),
      History limit past u → P past u → u.Move m u' → P ((u, m) :: past) u')
    (h : History limit past u) : P past u :=
  Tasks.History.of_move move_act move_of_step? init keep h

/-- Shutdowns have not gone away. -/
theorem History.length_le (h : History limit past u) :
    ∀ p ∈ moments past u, p.drains.length ≤ u.pool.drains.length := by
  refine History.of_move
    (P := fun past u => ∀ p ∈ moments past u, p.drains.length ≤ u.pool.drains.length) ?_ ?_ h
  · simp [moments]
  · intro past u u' m _ ih hm p hp
    rcases List.mem_cons.1 hp with rfl | hp
    · exact Nat.le_refl _
    · exact Nat.le_trans (ih p hp) hm.pool_move.length_le

/-- The signal to drain has not been taken back. -/
theorem History.draining_of (h : History limit past u) :
    ∀ p ∈ moments past u, p.draining = true → u.pool.draining = true := by
  refine History.of_move
    (P := fun past u => ∀ p ∈ moments past u, p.draining = true → u.pool.draining = true) ?_ ?_ h
  · simp [moments]
  · intro past u u' m _ ih hm p hp hd
    rcases List.mem_cons.1 hp with rfl | hp
    · exact hd
    · exact hm.pool_move.draining_of (ih p hp hd)

/-- A pool that tells its tasks to end drains. -/
theorem History.draining_of_terminated (h : History limit past u) :
    u.pool.terminated = true → u.pool.draining = true :=
  History.of_move (P := fun _ u => u.pool.terminated = true → u.pool.draining = true) nofun
    (fun _ _ _ _ _ ih hm => hm.pool_move.draining_of_terminated ih) h

/-- The pool has counted the parties that run a task. -/
theorem History.counted (h : History limit past u) : u.Counted :=
  History.of_move (P := fun _ u => u.Counted) (.init limit) (fun _ _ _ _ _ hc hm => hc.move hm) h

/-- A call for a shutdown has just been made: nothing is known of the shutdown but that. -/
theorem History.phase?_of_call (h : History limit past u) {p : Pool ι}
    (hp : p ∈ u.pool.shutdown grace :: moments past u) {phase : DrainPhase}
    (hphase : p.phase? u.pool.drains.length = some phase) : phase = .called grace := by
  rcases List.mem_cons.1 hp with rfl | hp
  · have hlast : (u.pool.shutdown grace).drains[u.pool.drains.length]? =
        some ⟨.called grace, false⟩ := by
      simp [Pool.shutdown]
    rw [Pool.phase?_eq hlast] at hphase
    exact (Option.some.inj hphase).symm
  · have hnone := List.getElem?_eq_none (h.length_le p hp)
    rw [Pool.phase?, hnone] at hphase
    cases hphase

/-- **Where the shutdown of a call stands.** -/
theorem History.stands (h : History limit past u) (hcall : (v, .inl (.shutdown grace)) ∈ past) :
    ∃ d, u.pool.drains[v.pool.drains.length]? = some d ∧
      u.pool.Stands v.pool.now grace (lateness v.pool.drains.length past)
        (∃ p ∈ moments past u, p.IsEased v.pool.drains.length)
        (∃ p ∈ moments past u, p.IsCleared v.pool.drains.length) d := by
  revert v grace
  refine History.of_move (P := fun past u => ∀ {grace : Nat} {v : PoolUsage ι},
    (v, .inl (.shutdown grace)) ∈ past → ∃ d, u.pool.drains[v.pool.drains.length]? = some d ∧
      u.pool.Stands v.pool.now grace (lateness v.pool.drains.length past)
        (∃ p ∈ moments past u, p.IsEased v.pool.drains.length)
        (∃ p ∈ moments past u, p.IsCleared v.pool.drains.length) d) nofun ?_ h
  intro past u u' m hpast ih hm grace v hcall
  rcases List.mem_cons.1 hcall with heq | hcall
  · obtain ⟨rfl, rfl⟩ := Prod.mk.inj heq
    have hpool := hm.pool_move.eq_shutdown
    have hphase : ∀ p ∈ moments ((v, .inl (.shutdown grace)) :: past) u', ∀ phase,
        p.phase? v.pool.drains.length = some phase → phase = .called grace := by
      intro p hp phase
      rw [moments, hpool] at hp
      exact hpast.phase?_of_call hp
    refine ⟨⟨.called grace, false⟩, ?_, .called ?_ ?_ ?_ ?_⟩
    · simp [hpool, Pool.shutdown]
    · exact Nat.le_of_eq (congrArg (·.now) hpool).symm
    · exact Nat.le_add_right_of_le (Nat.le_of_eq (congrArg (·.now) hpool))
    · rintro ⟨p, hp, -, deadline, hdeadline⟩
      cases hphase p hp _ hdeadline
    · rintro ⟨p, hp, -, deadline, hdeadline⟩
      cases hphase p hp _ hdeadline
  · obtain ⟨d, hd, hstands⟩ := ih hcall
    obtain ⟨d', hd', hstands'⟩ := hstands.move hd hm.pool_move
    refine ⟨d', hd', ?_⟩
    rw [exists_moment_cons, exists_moment_cons]
    exact hstands'

/-- Every shutdown has been called for. -/
theorem History.exists_call (h : History limit past u) {k : Nat}
    (hk : k < u.pool.drains.length) : ∃ (v : PoolUsage ι) (grace : Nat),
      (v, .inl (.shutdown grace)) ∈ past ∧ v.pool.drains.length = k := by
  refine History.of_move (P := fun past u => k < u.pool.drains.length →
    ∃ (v : PoolUsage ι) (grace : Nat), (v, .inl (.shutdown grace)) ∈ past ∧
      v.pool.drains.length = k) nofun ?_ h hk
  intro past u u' m _ ih hm hk
  by_cases hlt : k < u.pool.drains.length
  · obtain ⟨v, grace, hcall, hlen⟩ := ih hlt
    exact ⟨v, grace, List.mem_cons_of_mem _ hcall, hlen⟩
  · have hgrows := Nat.lt_of_le_of_lt (Nat.not_lt.1 hlt) hk
    obtain ⟨grace, rfl, hlen⟩ := hm.pool_move.eq_shutdown_of_lt hgrows
    exact ⟨u, grace, List.mem_cons_self, by omega⟩

/-- Tasks are told to end only when a shutdown has found no task left, or its deadline has come. -/
theorem History.exists_reason (h : History limit past u) (ht : u.pool.terminated = true) :
    ∃ p ∈ moments past u, ∃ k deadline, p.phase? k = some (.draining deadline) ∧
      (p.tracked = 0 ∨ deadline ≤ p.now) := by
  refine History.of_move (P := fun past u => u.pool.terminated = true → ∃ p ∈ moments past u,
    ∃ k deadline, p.phase? k = some (.draining deadline) ∧ (p.tracked = 0 ∨ deadline ≤ p.now))
    nofun ?_ h ht
  intro past u u' m hpast ih hm ht
  rw [exists_moment_cons]
  right
  by_cases ht' : u.pool.terminated = true
  · exact ih ht'
  · obtain ⟨k, d, deadline, hd, hp, hreason⟩ :=
      hm.pool_move.of_terminated (Bool.eq_false_iff.2 ht') ht
    have hphase : u.pool.phase? k = some (.draining deadline) := by rw [Pool.phase?_eq hd, hp]
    rcases hreason with hemptied | hdeadline
    · -- That no task was left has been seen at some moment since the shutdown began.
      obtain ⟨v, grace, hcall, rfl⟩ := hpast.exists_call (List.getElem?_eq_some_iff.1 hd).1
      obtain ⟨d', hd', hstands⟩ := hpast.stands hcall
      obtain rfl : d' = d := Option.some.inj (hd'.symm.trans hd)
      cases hstands with
      | draining hs hm hl hdl h0 he hc =>
        obtain ⟨p, hpm, h0, deadline', hphase'⟩ := he.1 hemptied
        exact ⟨p, hpm, _, deadline', hphase', .inl h0⟩
      | called | terminating | clean | forced | abandoned => cases hp
    · exact ⟨u.pool, List.mem_cons_self, k, deadline, hphase, .inr hdeadline⟩

/-- **What becomes of a call for a shutdown.** Take any run of a pool, with any parties, tasks and
shutdowns, and any call for a shutdown in it.

* The tasks that are waited for are those that parties run.
* A pool that tells its tasks to end drains, and it drains for ever. It has come to tell them so
  at a moment at which a shutdown in its grace period found no task left, or its deadline had come.
* The first step of the call can be made at once, and from then on the pool drains.
* When the call has ended, tasks have been told to end. The outcome is clean if at some moment of
  its grace period no task was left. It is forced if this was not so, and no task was left at some
  moment after the deadline; and it is abandoned if this was not so either, until the second
  deadline had come.
* As long as the call has not ended, the time is not past the two periods since it was made, but for
  what the clock has overrun; and at the last moment the call can make a step, and ends with it. The
  clock has overrun nothing if time has never passed beyond what the call waited for. -/
theorem shutdown_settles (h : History limit past u)
    (hcall : (v, .inl (.shutdown grace)) ∈ past) :
    let k := v.pool.drains.length
    let eased := ∃ p ∈ moments past u, p.IsEased k
    let cleared := ∃ p ∈ moments past u, p.IsCleared k
    let latest := v.pool.now + grace + Drain.terminationGrace + lateness k past
    u.pool.tracked = u.countOf (·.isRunning) ∧
    (u.pool.terminated = true → u.pool.draining = true) ∧
    (∀ p ∈ moments past u, p.draining = true → u.pool.draining = true) ∧
    (u.pool.terminated = true → ∃ p ∈ moments past u, ∃ j deadline,
      p.phase? j = some (.draining deadline) ∧ (p.tracked = 0 ∨ deadline ≤ p.now)) ∧
    ∃ d, u.pool.drains[k]? = some d ∧
      (u.pool.draining = true ∨ d.phase = .called grace ∧
        ∃ u', u.step? (.drain k) = some u' ∧ u'.pool.draining = true) ∧
      (∀ outcome, d.outcome? = some outcome → u.pool.terminated = true ∧
        (outcome = .clean ↔ eased) ∧
        (outcome = .forced ↔ ¬ eased ∧ cleared) ∧
        (outcome = .abandoned ↔ ¬ eased ∧ ¬ cleared) ∧
        (outcome ≠ .clean → v.pool.now + grace ≤ u.pool.now) ∧
        (outcome = .abandoned → v.pool.now + grace + Drain.terminationGrace ≤ u.pool.now)) ∧
      (d.outcome? = none → u.pool.now ≤ latest ∧ (u.pool.now = latest →
        ∃ u' d', u.step? (.drain k) = some u' ∧ u'.pool.drains[k]? = some d' ∧
          d'.outcome?.isSome = true)) ∧
      ((∀ (w : PoolUsage ι) (ms t : Nat), (w, .inl (.advance ms)) ∈ past →
        w.pool.due? k = some t → w.pool.now + ms ≤ t) →
          latest = v.pool.now + grace + Drain.terminationGrace) := by
  intro k eased cleared latest
  refine ⟨h.counted.tracked_eq, h.draining_of_terminated, h.draining_of, h.exists_reason, ?_⟩
  obtain ⟨d, hd, hstands⟩ := h.stands hcall
  refine ⟨d, hd, ?_, fun outcome => hstands.of_outcome?, fun ho => ⟨hstands.now_le ho, ?_⟩,
    fun hpunctual => ?_⟩
  · refine (hstands.draining_or_called h.draining_of_terminated).imp_right fun hp => ⟨hp, ?_⟩
    have hbegin : u.pool.drainStep? k = some (u.pool.beginDrain k grace) := by
      rw [Pool.drainStep?, hd]
      simp only [hp]
    have hstep : u.step? (.drain k) = (u.pool.drainStep? k).map _ := rfl
    rw [hstep, hbegin]
    exact ⟨_, rfl, rfl⟩
  · intro hnow
    obtain ⟨deadline, hp, ht⟩ := hstands.terminating_of_le (Nat.le_of_eq hnow.symm) ho
    obtain ⟨p, events, d', hstep, hd', hended⟩ := Pool.exists_drainStep?_of_terminating hd hp ht
    refine ⟨{ u with pool := p, log := u.log ++ events }, d', ?_, hd', hended⟩
    exact congrArg (Option.map _) hstep
  · have hlate : lateness k past = 0 := lateness_eq_zero hpunctual
    exact congrArg (v.pool.now + grace + Drain.terminationGrace + ·) hlate

/-- A party of which the session goes on until it is told to end, and a background task. -/
def revels : Past Nat × PoolUsage Nat :=
  (tasks.follow? act [] { pool := .ofLimit 2 }
    [.inl (.ask 0), .inr (.party 0), .inl (.spawn 0 .terminated), .inl (.background 1)]).get
      (by decide +kernel)

theorem history_revels : History 2 revels.1 revels.2 := by
  have hfollow : tasks.follow? act [] { pool := .ofLimit 2 } _ = some revels :=
    (Option.some_get _).symm
  exact .follow .start hfollow

/-- A shutdown is called for, and a second one with more time. When the time of the first is over,
the session ends, and the background task is stopped. -/
def curfew : Past Nat × PoolUsage Nat :=
  (tasks.follow? act [] (revels.2.act (.shutdown 30))
    [.inr (.drain 0), .inl (.advance 10), .inl (.shutdown 100), .inr (.drain 1),
      .inl (.advance 20), .inr (.drain 0), .inr (.party 0), .inl (.stop 1), .inr (.party 1),
      .inr (.drain 0), .inr (.drain 1)]).get (by decide +kernel)

theorem history_curfew :
    History 2 (curfew.1 ++ (revels.2, .inl (.shutdown 30)) :: revels.1) curfew.2 := by
  have hfollow : tasks.follow? act [] (revels.2.act (.shutdown 30)) _ = some curfew :=
    (Option.some_get _).symm
  exact (Tasks.History.act (.shutdown 30) history_revels).trans (.follow .start hfollow)

/-- The first shutdown has to force what the second finds done. -/
theorem shutdown_settles_of_curfew : ∃ past : Past Nat, History 2 past curfew.2 ∧
    (revels.2, .inl (.shutdown 30)) ∈ past ∧ curfew.2.pool.outcomes = [.forced, .clean] ∧
    curfew.2.pool.draining = true ∧ curfew.2.pool.terminated = true ∧
    (¬ ∃ p ∈ moments past curfew.2, p.IsEased 0) ∧
    (∃ p ∈ moments past curfew.2, p.IsCleared 0) := by
  have hcall : (revels.2, .inl (.shutdown 30)) ∈
      curfew.1 ++ (revels.2, .inl (.shutdown 30)) :: revels.1 :=
    List.mem_append_right _ List.mem_cons_self
  have hlen : revels.2.pool.drains.length = 0 := by decide +kernel
  have houtcomes : curfew.2.pool.outcomes = [.forced, .clean] := by decide +kernel
  have hforced : curfew.2.pool.drains[0]?.bind (·.outcome?) = some .forced := by decide +kernel
  obtain ⟨-, hdraining, -, -, d, hd, -, hended, -⟩ := shutdown_settles history_curfew hcall
  rw [hlen] at hd hended
  rw [hd] at hforced
  obtain ⟨hterminated, -, hiff, -⟩ := hended .forced hforced
  obtain ⟨heased, hcleared⟩ := hiff.1 rfl
  exact ⟨_, history_curfew, hcall, houtcomes, hdraining hterminated, hterminated, heased, hcleared⟩

/-- A background task that nobody stops. -/
def slumber : Past Nat × PoolUsage Nat :=
  (tasks.follow? act [] { pool := .ofLimit 1 } [.inl (.background 0)]).get (by decide +kernel)

/-- A shutdown is called for, and the clock jumps past its first deadline; this moves the second
one, which comes that much later. -/
def oversleeping : Past Nat × PoolUsage Nat :=
  (tasks.follow? act [] (slumber.2.act (.shutdown 30))
    [.inr (.drain 0), .inl (.advance 35), .inr (.drain 0), .inl (.advance 2999)]).get
      (by decide +kernel)

/-- With a clock that jumps, both periods can be over and the call still has to wait, though all
tasks run whenever they can. -/
theorem waits_too_long_of_oversleeping :
    History 1 (oversleeping.1 ++ (slumber.2, .inl (.shutdown 30)) :: slumber.1) oversleeping.2 ∧
    tasks.Quiet oversleeping.2 ∧
    slumber.2.pool.now + 30 + Drain.terminationGrace < oversleeping.2.pool.now ∧
    (oversleeping.2.pool.drains[slumber.2.pool.drains.length]?.map (·.outcome?)) = some none := by
  have hfollow : tasks.follow? act [] { pool := .ofLimit 1 } _ = some slumber :=
    (Option.some_get _).symm
  have hfollow' : tasks.follow? act [] (slumber.2.act (.shutdown 30)) _ = some oversleeping :=
    (Option.some_get _).symm
  have hslumber : History 1 slumber.1 slumber.2 := .follow .start hfollow
  refine ⟨?_, ?_, by decide +kernel, by decide +kernel⟩
  · exact (Tasks.History.act (.shutdown 30) hslumber).trans (.follow .start hfollow')
  · unfold Tasks.Quiet
    decide +kernel

end PoolUsage

end StreamedInference
