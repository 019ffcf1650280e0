import StreamedInference.Proofs.Pool.Turnover

/-!
# What a shutdown leaves behind

A shutdown that reports that all tasks have ended has seen it, but it waits for tasks only. A party
that has been admitted and has not begun a task holds a slot that nobody waits for, and can still
begin a task on it when the shutdown is long over. This is the only way in which a slot can be left:
nobody comes to hold one any more, and no task is left if nothing happens from outside while the
shutdown can go on.

## Main definitions

* `Pool.IsCurrent`: if a shutdown has seen that no task is left, this is still the case.
* `PoolUsage.Prompt`: nothing happens from outside while a shutdown can go on.

## Main results

* `PoolUsage.History.isCurrent`: what has been seen is the case if shutdowns go on promptly.
* `PoolUsage.holds_of_draining`: nobody comes to hold a slot once a pool drains.
* `PoolUsage.drained_iff`: what is left when a shutdown reports that all tasks have ended.
-/

namespace StreamedInference

namespace Pool

variable {ι : Type} {p p' : Pool ι} {m : PoolAction ι ⊕ PoolTask ι} {k : Nat}

/-- If a shutdown has seen that no task is left, this is still the case until it ends. -/
def IsCurrent (p : Pool ι) (k : Nat) : Prop :=
  ∀ d, p.drains[k]? = some d → d.outcome? = none → d.emptied = true → p.tracked = 0

/-- A shutdown that has seen that no task is left and has not ended can go on. -/
theorem isSome_drainStep?_of_emptied {d : Drain} (hd : p.drains[k]? = some d)
    (ho : d.outcome? = none) (he : d.emptied = true) : (p.drainStep? k).isSome = true := by
  rw [isSome_drainStep?_iff]
  refine ⟨p.now, ?_, Nat.le_refl _⟩
  rw [due?, hd]
  cases hp : d.phase with
  | called | draining | terminating => simp [hp, he]
  | ended => simp [Drain.outcome?, hp] at ho

/-- A shutdown that ends and has not to leave tasks behind has seen before that none is left. -/
theorem DrainMove.exists_emptied (hm : p.DrainMove k p') {d : Drain} (hd : p'.drains[k]? = some d)
    {outcome : DrainOutcome} (ho : d.outcome? = some outcome) (hne : outcome ≠ .abandoned) :
    ∃ d₀, p.drains[k]? = some d₀ ∧ d₀.outcome? = none ∧ d₀.emptied = true := by
  cases hm with
  | begins | forces =>
    obtain rfl := eq_of_getElem?_set hd
    cases ho
  | cleans hd₀ hp he | ends hd₀ hp he =>
    refine ⟨_, hd₀, ?_, he⟩
    rw [Drain.outcome?, hp]
  | abandons =>
    obtain rfl := eq_of_getElem?_set hd
    exact absurd (Option.some.inj ho).symm hne

/-- A shutdown that has ended does not wait any more. -/
theorem not_isEmptyWhile_of_outcome? {d : Drain} (hd : p.drains[k]? = some d)
    {outcome : DrainOutcome} (ho : d.outcome? = some outcome) {waits : Nat → DrainPhase}
    (hw : ∀ deadline, waits deadline ≠ .ended outcome) : ¬ p.IsEmptyWhile waits k := by
  rw [isEmptyWhile_iff hd]
  rintro ⟨-, deadline, hp⟩
  cases hphase : d.phase with
  | called | draining | terminating => simp [Drain.outcome?, hphase] at ho
  | ended outcome' =>
    obtain rfl : outcome' = outcome := by simpa [Drain.outcome?, hphase] using ho
    exact hw deadline (hp.symm.trans hphase)

/-- If tasks begin only while a shutdown cannot go on, what it has seen is still the case. -/
theorem IsCurrent.move (h : p.IsCurrent k) (hm : p.Move m p')
    (hprompt : p.tracked < p'.tracked → (p.drainStep? k).isSome = false) : p'.IsCurrent k := by
  intro d hd ho he
  cases hm with
  | keeps hk => exact hk.tracked_eq.trans (h d (hk.drains_eq ▸ hd) ho he)
  | tracks =>
    have hsome := isSome_drainStep?_of_emptied (p := p) hd ho he
    rw [hprompt (Nat.lt_succ_self _)] at hsome
    cases hsome
  | @untracks q p₁ hk =>
    by_cases h0 : p₁.tracked - 1 = 0
    · exact h0
    · have hd' : p₁.drains[k]? = some d := by
        rw [untrack] at hd
        simpa [h0] using hd
      have htracked : p.tracked = 0 := h d (hk.drains_eq ▸ hd') ho he
      exact absurd (by rw [hk.tracked_eq, htracked]) h0
  | calls grace =>
    rw [shutdown, List.getElem?_append] at hd
    split at hd
    · exact h d hd ho he
    · obtain rfl := List.mem_singleton.1 (List.mem_of_getElem? hd)
      cases he
  | advances => exact h d hd ho he
  | @drains j p' hm =>
    rw [hm.tracked_eq]
    by_cases hj : j = k
    · subst hj
      cases hm with
      | begins | forces =>
        obtain rfl := eq_of_getElem?_set hd
        exact beq_iff_eq.1 he
      | cleans | ends | abandons =>
        obtain rfl := eq_of_getElem?_set hd
        cases ho
    · exact h d ((hm.getElem?_drains hj).symm.trans hd) ho he

end Pool

namespace PoolUsage

variable {ι : Type} [DecidableEq ι] {limit k : Nat} {u u' v : PoolUsage ι} {past : Past ι}
  {m : PoolAction ι ⊕ PoolTask ι} {p : ι}

/-! ### Tasks -/

/-- Nothing happens from outside while a shutdown can go on. -/
def Prompt (k : Nat) (past : Past ι) : Prop :=
  ∀ e ∈ past, e.2.isLeft = true → (e.1.pool.drainStep? k).isSome = false

/-- Tasks begin by what happens from outside. -/
theorem Move.exists_action_of_lt (hm : u.Move m u') (hlt : u.pool.tracked < u'.pool.tracked) :
    ∃ a, m = .inl a := by
  cases hm with
  | rests | joins | cancels | releases | spawns | background | stops | calls | advances =>
    exact ⟨_, rfl⟩
  | @admits p asked pool hs ha | @refuses p asked pool hs ha =>
    have hkeeps := u.pool.keeps_ask p asked
    rw [ha] at hkeeps
    exact absurd hkeeps.tracked_eq (Nat.ne_of_gt hlt)
  | @queues p pool hs ha =>
    have hkeeps := u.pool.keeps_ask p false
    rw [ha] at hkeeps
    exact absurd hkeeps.tracked_eq (Nat.ne_of_gt hlt)
  | @ends p onSlot stopped ending hs he =>
    have htracked : (if onSlot then u.pool.release else u.pool).tracked = u.pool.tracked := by
      split
      · exact u.pool.keeps_release.tracked_eq
      · rfl
    simp only [Pool.untrack, htracked] at hlt
    omega
  | drains hd => exact absurd hd.tracked_eq (Nat.ne_of_gt hlt)

/-- What a shutdown has seen is still the case if it always goes on promptly. -/
theorem History.isCurrent (h : History limit past u) (hp : Prompt k past) :
    u.pool.IsCurrent k := by
  refine History.of_move (P := fun past u => Prompt k past → u.pool.IsCurrent k) ?_ ?_ h hp
  · rintro - d hd
    cases hd
  · intro past u u' m _ ih hm hp
    refine (ih fun e he => hp e (List.mem_cons_of_mem _ he)).move hm.pool_move fun hlt => ?_
    obtain ⟨a, rfl⟩ := hm.exists_action_of_lt hlt
    exact hp _ List.mem_cons_self rfl

/-! ### Slots -/

theorem countOf_eq_zero_iff (hn : u.names.Nodup) (f : PartyStatus → Bool) :
    u.countOf f = 0 ↔ ∀ p s, u.status? p = some s → f s = false := by
  rw [countOf, List.countP_eq_zero]
  refine ⟨fun h p s hs => ?_, fun h e he => ?_⟩
  · have hmem : (p, s) ∈ u.parties := (lookup_eq_some_iff_mem hn).1 hs
    simpa using h _ hmem
  · have hs : u.status? e.1 = some e.2 := (lookup_eq_some_iff_mem hn).2 he
    simp [h e.1 e.2 hs]

/-- Nobody comes to hold a slot once a pool drains. -/
theorem holds_of_draining (h : u.Seated limit) (hd : u.pool.draining = true)
    (hv : tasks.Reachable act u v) (hp : v.holds p = true) : u.holds p = true := by
  suffices hkept : v.Seated limit ∧ v.pool.draining = true ∧
      (v.holds p = true → u.holds p = true) from hkept.2.2 hp
  refine hv.of_leads (P := fun v => v.Seated limit ∧ v.pool.draining = true ∧
    (v.holds p = true → u.holds p = true)) ⟨h, hd, id⟩ ?_
  rintro v v' m ⟨hseated, hdraining, hholds⟩ hl
  have hm := move_of_leads hl
  refine ⟨hseated.move hm, hm.pool_move.draining_of hdraining, fun hp => hholds ?_⟩
  cases hseated.turn hl with
  | stays _ _ hrest => exact (hrest p).holds_eq ▸ hp
  | taken q _ _ _ _ hd' =>
    rw [hdraining] at hd'
    cases hd'
  | freed q _ _ hbefore _ _ _ hrest =>
    by_cases hq : p = q
    · exact hq ▸ hbefore
    · exact (hrest p hq).holds_eq ▸ hp

/-- **What is left when a shutdown reports that all tasks have ended.** Take any run of a pool, and
the step with which a shutdown ends in it, clean or forced.

* The report is true of some moment at which the shutdown waited: then no task was left.
* No task is left at the end if nothing has ever happened from outside while the shutdown could go
  on.
* Nobody comes to hold a slot who does not hold one now, whatever happens later.
* No task is left, no slot is taken and no task ever runs on a slot later exactly if no task is left
  and no party has been admitted that has neither begun a task nor given its slot up. -/
theorem drained_iff (h : History limit past u) (hstep : u.step? (.drain k) = some u') {d : Drain}
    (hd : u'.pool.drains[k]? = some d) {outcome : DrainOutcome} (ho : d.outcome? = some outcome)
    (hne : outcome ≠ .abandoned) :
    (∃ q ∈ moments past u, q.IsEased k ∨ q.IsCleared k) ∧
    (Prompt k past → u'.pool.tracked = 0) ∧
    (∀ v p, tasks.Reachable act u' v → v.holds p = true → u'.holds p = true) ∧
    ((u'.pool.tracked = 0 ∧ u'.pool.inflight = 0 ∧
        ∀ v p ending stopped, tasks.Reachable act u' v →
          v.status? p ≠ some (.running true ending stopped)) ↔
      u'.pool.tracked = 0 ∧ ∀ p, u'.status? p ≠ some .admitted) := by
  have hmove := move_of_step? hstep
  have h' : History limit ((u, .inr (.drain k)) :: past) u' := .step (.drain k) hstep h
  obtain ⟨w, grace, hcall, hk⟩ := h'.exists_call (List.getElem?_eq_some_iff.1 hd).1
  obtain ⟨d', hd', hstands⟩ := h'.stands hcall
  rw [hk] at hd' hstands
  obtain rfl : d' = d := Option.some.inj (hd'.symm.trans hd)
  obtain ⟨hterminated, hclean, hforced, -⟩ := hstands.of_outcome? ho
  have hholds : ∀ v p, tasks.Reachable act u' v → v.holds p = true → u'.holds p = true :=
    fun v p => holds_of_draining h'.seated (h'.draining_of_terminated hterminated)
  refine ⟨?_, fun hp => ?_, hholds, ?_⟩
  · cases outcome with
    | clean =>
      obtain ⟨q, hq, heased⟩ := (exists_moment_cons.1 (hclean.1 rfl)).resolve_left
        (Pool.not_isEmptyWhile_of_outcome? hd ho nofun)
      exact ⟨q, hq, .inl heased⟩
    | forced =>
      obtain ⟨q, hq, hcleared⟩ := (exists_moment_cons.1 (hforced.1 rfl).2).resolve_left
        (Pool.not_isEmptyWhile_of_outcome? hd ho nofun)
      exact ⟨q, hq, .inr hcleared⟩
    | abandoned => exact absurd rfl hne
  · cases hmove with
    | drains hm =>
      obtain ⟨d₀, hd₀, ho₀, he₀⟩ := hm.exists_emptied hd ho hne
      exact hm.tracked_eq.trans (h.isCurrent hp d₀ hd₀ ho₀ he₀)
  · have hcounted := h'.counted
    have hnames := hcounted.nodup_names
    refine ⟨fun ⟨htracked, hinflight, _⟩ => ⟨htracked, fun p hs => ?_⟩,
      fun ⟨htracked, hadmitted⟩ => ?_⟩
    · have hzero := h'.seated.inflight_eq.symm.trans hinflight
      cases (countOf_eq_zero_iff hnames _).1 hzero p _ hs
    · have hrunning := (countOf_eq_zero_iff hnames _).1 (hcounted.tracked_eq.symm.trans htracked)
      have hnone : ∀ p s, u'.status? p = some s → s.holdsSlot = false := by
        intro p s hs
        cases s with
        | admitted => exact absurd hs (hadmitted p)
        | running => cases hrunning p _ hs
        | waiting | refused | withdrawn | released | done => rfl
      refine ⟨htracked, h'.seated.inflight_eq.trans ((countOf_eq_zero_iff hnames _).2 hnone), ?_⟩
      intro v p ending stopped hv hs
      obtain ⟨s, hs', hsholds⟩ := Option.any_eq_true _ _ |>.1 (hholds v p hv (holds_eq hs))
      rw [hnone p s hs'] at hsholds
      cases hsholds

/-- A session that ends as soon as the pool drains. A shutdown is called for, and has only to take
notice. -/
def closing : Past Nat × PoolUsage Nat :=
  (tasks.follow? act [] { pool := .ofLimit 1 }
    [.inl (.ask 0), .inr (.party 0), .inl (.spawn 0 .draining), .inl (.shutdown 1000),
      .inr (.drain 0), .inr (.party 0)]).get (by decide +kernel)

theorem history_closing : History 1 closing.1 closing.2 := by
  have hfollow : tasks.follow? act [] { pool := .ofLimit 1 } _ = some closing :=
    (Option.some_get _).symm
  exact .follow .start hfollow

/-- It takes notice. -/
def closed : PoolUsage Nat :=
  (closing.2.step? (.drain 0)).get (by decide +kernel)

/-- The shutdown ends clean, and leaves nothing behind. -/
theorem drained_iff_of_closing : closing.2.step? (.drain 0) = some closed ∧
    closed.pool.outcomes = [.clean] ∧ closed.pool.tracked = 0 ∧ closed.pool.inflight = 0 ∧
    ∀ v p ending stopped, tasks.Reachable act closed v →
      v.status? p ≠ some (.running true ending stopped) := by
  have hstep : closing.2.step? (.drain 0) = some closed := (Option.some_get _).symm
  have houtcomes : closed.pool.outcomes = [.clean] := by decide +kernel
  have hd : closed.pool.drains[0]? = some ⟨.ended .clean, true⟩ := by decide +kernel
  have hprompt : Prompt 0 closing.1 := by
    unfold Prompt
    decide +kernel
  have hparties : closed.parties = [(0, .done)] := by decide +kernel
  have hadmitted : ∀ p, closed.status? p ≠ some .admitted := by
    intro p hp
    rw [status?, hparties, lookup_cons_eq_ite] at hp
    split at hp <;> cases hp
  obtain ⟨-, htracked, -, hiff⟩ := drained_iff history_closing hstep hd rfl (by simp)
  exact ⟨hstep, houtcomes, hiff.2 ⟨htracked hprompt, hadmitted⟩⟩

/-- A party has been admitted and has not begun a task when a shutdown is called for, which finds no
task left and has only to say so. -/
def lingering : Past Nat × PoolUsage Nat :=
  (tasks.follow? act [] { pool := .ofLimit 1 }
    [.inl (.ask 0), .inr (.party 0), .inl (.shutdown 1000), .inr (.drain 0)]).get
      (by decide +kernel)

/-- It says so. -/
def lingered : PoolUsage Nat :=
  (lingering.2.step? (.drain 0)).get (by decide +kernel)

/-- The shutdown ends clean while a slot is taken, and a session can still begin on it. -/
theorem leaves_slot_of_lingering : History 1 lingering.1 lingering.2 ∧ Prompt 0 lingering.1 ∧
    lingering.2.step? (.drain 0) = some lingered ∧ lingered.pool.outcomes = [.clean] ∧
    lingered.pool.inflight = 1 ∧
    (lingered.act (.spawn 0 .terminated)).status? 0 = some (.running true .terminated false) := by
  have hfollow : tasks.follow? act [] { pool := .ofLimit 1 } _ = some lingering :=
    (Option.some_get _).symm
  refine ⟨.follow .start hfollow, ?_, (Option.some_get _).symm, by decide +kernel,
    by decide +kernel, by decide +kernel⟩
  unfold Prompt
  decide +kernel

end PoolUsage

end StreamedInference
