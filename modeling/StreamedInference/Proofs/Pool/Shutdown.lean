import StreamedInference.Pool.Usage
import StreamedInference.Proofs.Pool.Signals

/-!
# Where shutdowns stand

A shutdown goes through its phases by its own steps alone; slots, tasks, time and other shutdowns
only decide which steps these are. What is known of it in each phase are bounds on its deadline and
on the clock, and whether at some moment of the phase no task was left.

A clock that jumps may overrun a moment at which a shutdown could have gone on. By how much it
does so is added up, and deadlines are late by no more than that.

## Main definitions

* `Pool.Move`: what becomes of a pool in a move around it.
* `Pool.due?`, `Pool.overrun`: when a shutdown can go on, and by how much the clock overruns that.
* `Pool.IsEmptyWhile`, `Pool.IsEased`, `Pool.IsCleared`: no task is left while a shutdown waits,
  before and after it has told tasks to end.
* `Pool.Stands`, `Pool.AllStand`: where a shutdown stands, and that all stand somewhere.

## Main results

* `Pool.isSome_drainStep?_iff`: a shutdown can go on when it is due.
* `Pool.exists_drainStep?_of_terminating`: a shutdown whose second period is over ends.
* `Pool.Stands.move`: every move leads a shutdown from one such place to another.
* `Pool.Move.of_awaiting`: only time leads a shutdown that waits to the end of its second period.
-/

namespace StreamedInference

namespace Pool

variable {ι : Type} {p p' : Pool ι} {m : PoolAction ι ⊕ PoolTask ι} {k : Nat} {d : Drain}

/-! ### Moves -/

/-- What becomes of a pool in a move around it. -/
inductive Move (p : Pool ι) : PoolAction ι ⊕ PoolTask ι → Pool ι → Prop
  /-- Slots come and go. -/
  | keeps {m : PoolAction ι ⊕ PoolTask ι} {p' : Pool ι} (hk : p.Keeps p')
      (hg : ∀ grace, m ≠ .inl (.shutdown grace)) (ht : ∀ ms, m ≠ .inl (.advance ms)) : Move p m p'
  /-- A task begins. -/
  | tracks {m : PoolAction ι ⊕ PoolTask ι} (hg : ∀ grace, m ≠ .inl (.shutdown grace))
      (ht : ∀ ms, m ≠ .inl (.advance ms)) : Move p m p.track
  /-- A task ends. -/
  | untracks {q : ι} {p' : Pool ι} (hk : p.Keeps p') : Move p (.inr (.party q)) p'.untrack
  | calls (grace : Nat) : Move p (.inl (.shutdown grace)) (p.shutdown grace)
  | advances (ms : Nat) : Move p (.inl (.advance ms)) (p.advance ms)
  | drains {k : Nat} {p' : Pool ι} (h : p.DrainMove k p') : Move p (.inr (.drain k)) p'

theorem eq_of_getElem?_set {drains : List Drain} {d d' : Drain}
    (h : (drains.set k d')[k]? = some d) : d' = d := by
  obtain ⟨hlt, hget⟩ := List.getElem?_eq_some_iff.1 h
  rwa [List.getElem_set_self] at hget

theorem length_drains_untrack (p : Pool ι) : p.untrack.drains.length = p.drains.length := by
  unfold untrack
  dsimp only
  split
  · exact List.length_map _
  · rfl

/-- Shutdowns do not go away. -/
theorem Move.length_le (hm : p.Move m p') : p.drains.length ≤ p'.drains.length := by
  cases hm with
  | keeps hk => exact Nat.le_of_eq (congrArg List.length hk.drains_eq).symm
  | @untracks q p₁ hk =>
    have hlen : p₁.drains.length = p.drains.length := congrArg List.length hk.drains_eq
    rw [length_drains_untrack]
    exact Nat.le_of_eq hlen.symm
  | calls grace => exact (List.prefix_append _ _).length_le
  | tracks | advances => exact Nat.le_refl _
  | drains h => exact Nat.le_of_eq h.length_drains.symm

/-- A call for a shutdown does nothing else. -/
theorem Move.eq_shutdown {grace : Nat} (hm : p.Move (.inl (.shutdown grace)) p') :
    p' = p.shutdown grace := by
  cases hm with
  | keeps _ hg | tracks hg => exact absurd rfl (hg grace)
  | calls => rfl

/-- Nothing else makes a shutdown come up. -/
theorem Move.eq_shutdown_of_lt (hm : p.Move m p') (hlt : p.drains.length < p'.drains.length) :
    ∃ grace, m = .inl (.shutdown grace) ∧ p'.drains.length = p.drains.length + 1 := by
  cases hm with
  | keeps hk =>
    have hlen : p'.drains.length = p.drains.length := congrArg List.length hk.drains_eq
    omega
  | @untracks q p₁ hk =>
    have hlen : p₁.drains.length = p.drains.length := congrArg List.length hk.drains_eq
    rw [length_drains_untrack] at hlt
    omega
  | calls grace => exact ⟨grace, rfl, List.length_append⟩
  | tracks | advances => exact absurd hlt (Nat.lt_irrefl _)
  | drains h =>
    have hlen := h.length_drains
    omega

/-- No signal is taken back. -/
theorem Move.draining_of (hm : p.Move m p') (hd : p.draining = true) : p'.draining = true := by
  cases hm with
  | keeps hk => exact hk.draining_eq.trans hd
  | untracks hk => exact hk.draining_eq.trans hd
  | tracks | calls | advances => exact hd
  | drains h => exact h.draining_of hd

/-- Tasks are not told to end before the pool drains. -/
theorem Move.draining_of_terminated (hm : p.Move m p')
    (h : p.terminated = true → p.draining = true) (ht : p'.terminated = true) :
    p'.draining = true := by
  cases hm with
  | keeps hk => exact hk.draining_eq.trans (h (hk.terminated_eq ▸ ht))
  | untracks hk =>
    have hdraining := h (hk.terminated_eq ▸ ht)
    exact hk.draining_eq.trans hdraining
  | tracks | calls | advances => exact h ht
  | drains hm =>
    cases hm with
    | begins | cleans | forces => rfl
    | ends | abandons => exact h ht

/-- Tasks are told to end when a shutdown has seen that no task is left, or its deadline has
come. -/
theorem Move.of_terminated (hm : p.Move m p') (ht : p.terminated = false)
    (ht' : p'.terminated = true) : ∃ (k : Nat) (d : Drain) (deadline : Nat),
      p.drains[k]? = some d ∧ d.phase = .draining deadline ∧
        (d.emptied = true ∨ deadline ≤ p.now) := by
  -- Other moves leave the signal as it is.
  have hsame : p'.terminated ≠ p.terminated := by simp [ht, ht']
  cases hm with
  | keeps hk => exact absurd hk.terminated_eq hsame
  | untracks hk => exact absurd hk.terminated_eq hsame
  | tracks | calls | advances => exact absurd rfl hsame
  | @drains k p' h =>
    cases h with
    | cleans hd hp he => exact ⟨k, _, _, hd, hp, .inl he⟩
    | forces hd hp he ht => exact ⟨k, _, _, hd, hp, .inr ht⟩
    | begins | ends | abandons => exact absurd rfl hsame

/-! ### Time -/

/-- When a shutdown can go on, if nothing else happens before that. -/
def due? (p : Pool ι) (k : Nat) : Option Nat :=
  p.drains[k]?.bind fun d =>
    match d.phase with
    | .called _ => some p.now
    | .draining deadline | .terminating deadline => some (if d.emptied then p.now else deadline)
    | .ended _ => none

/-- A shutdown can go on when it is due. -/
theorem isSome_drainStep?_iff :
    (p.drainStep? k).isSome = true ↔ ∃ t, p.due? k = some t ∧ t ≤ p.now := by
  unfold drainStep? due?
  cases p.drains[k]? with
  | none => simp
  | some d =>
    cases hp : d.phase with
    | called grace => simp [hp]
    | draining deadline | terminating deadline =>
      cases he : d.emptied with
      | true => simp [hp, he]
      | false => by_cases ht : deadline ≤ p.now <;> simp [hp, he, ht]
    | ended outcome => simp [hp]

/-- A shutdown whose second period is over ends in its next step. -/
theorem exists_drainStep?_of_terminating (hd : p.drains[k]? = some d) {deadline : Nat}
    (hp : d.phase = .terminating deadline) (ht : deadline ≤ p.now) :
    ∃ p' events d', p.drainStep? k = some (p', events) ∧ p'.drains[k]? = some d' ∧
      d'.outcome?.isSome = true := by
  have hset : ∀ d' : Drain, (p.setDrain k d').drains[k]? = some d' := fun d' =>
    List.getElem?_set_self (List.getElem?_eq_some_iff.1 hd).1
  have hdue : ∃ t, p.due? k = some t ∧ t ≤ p.now := by
    refine ⟨if d.emptied then p.now else deadline, ?_, ?_⟩
    · rw [due?, hd]
      simp [hp]
    · split
      · exact Nat.le_refl _
      · exact ht
  have hphase : ∀ {d₁ : Drain}, p.drains[k]? = some d₁ → d₁.phase = .terminating deadline := by
    intro d₁ hd₁
    rw [← hp, Option.some.inj (hd₁.symm.trans hd)]
  obtain ⟨⟨p', events⟩, hstep⟩ := Option.isSome_iff_exists.1 (isSome_drainStep?_iff.2 hdue)
  cases drainMove_of_drainStep? hstep with
  | begins hd₁ hp₁ | cleans hd₁ hp₁ | forces hd₁ hp₁ => simp [hphase hd₁] at hp₁
  | ends | abandons => exact ⟨_, events, _, hstep, hset _, rfl⟩

/-- By how much the clock overruns the moment at which a shutdown can go on: this is the time that
passes in a move, as far as it lies behind that moment. -/
def overrun (p : Pool ι) (k : Nat) : PoolAction ι ⊕ PoolTask ι → Nat
  | .inl (.advance ms) =>
    match p.due? k with
    | some t => p.now + ms - max p.now t
    | none => 0
  | _ => 0

theorem overrun_eq_zero (ht : ∀ ms, m ≠ .inl (.advance ms)) : p.overrun k m = 0 := by
  unfold overrun
  split
  · exact absurd rfl (ht _)
  · rfl

/-! ### Places -/

/-- How far a shutdown has come. -/
def phase? (p : Pool ι) (k : Nat) : Option DrainPhase :=
  p.drains[k]?.map (·.phase)

theorem phase?_eq (hd : p.drains[k]? = some d) : p.phase? k = some d.phase := by
  rw [phase?, hd]
  rfl

/-- No task is left, while a shutdown waits for tasks in one of its two ways. -/
def IsEmptyWhile (p : Pool ι) (waits : Nat → DrainPhase) (k : Nat) : Prop :=
  p.tracked = 0 ∧ ∃ deadline, p.phase? k = some (waits deadline)

/-- No task is left, while a shutdown lets tasks end by themselves. -/
abbrev IsEased (p : Pool ι) : Nat → Prop :=
  p.IsEmptyWhile .draining

/-- No task is left, while a shutdown waits for tasks that it has told to end. -/
abbrev IsCleared (p : Pool ι) : Nat → Prop :=
  p.IsEmptyWhile .terminating

theorem isEmptyWhile_iff {waits : Nat → DrainPhase} (hd : p.drains[k]? = some d) :
    p.IsEmptyWhile waits k ↔ p.tracked = 0 ∧ ∃ deadline, d.phase = waits deadline := by
  rw [IsEmptyWhile, phase?_eq hd]
  simp

/-- A shutdown that does not wait in this way does not find now what it has not found before. -/
theorem not_isEmptyWhile_or {waits : Nat → DrainPhase} {before : Prop}
    (hd : p.drains[k]? = some d) (hp : ∀ deadline, d.phase ≠ waits deadline) (hn : ¬ before) :
    ¬ (p.IsEmptyWhile waits k ∨ before) := by
  rw [isEmptyWhile_iff hd]
  rintro (⟨-, deadline, h⟩ | h)
  · exact hp deadline h
  · exact hn h

/-- A shutdown that begins to wait in this way finds what is the case now. -/
theorem tracked_iff_isEmptyWhile_or {waits : Nat → DrainPhase} {before : Prop}
    (hd : p.drains[k]? = some d) {deadline : Nat} (hp : d.phase = waits deadline)
    (hn : ¬ before) : (p.tracked == 0) = true ↔ p.IsEmptyWhile waits k ∨ before := by
  rw [isEmptyWhile_iff hd, or_iff_left hn, beq_iff_eq]
  exact ⟨fun h0 => ⟨h0, deadline, hp⟩, fun h => h.1⟩

/-- Where a shutdown stands that was asked for at the time `made`. The clock has overrun it by
`late`; that no task was left has happened before (`eased`) or after (`cleared`) tasks were told to
end. -/
inductive Stands (p : Pool ι) (made grace late : Nat) (eased cleared : Prop) : Drain → Prop
  | called (hm : made ≤ p.now) (hl : p.now ≤ made + late) (he : ¬ eased) (hc : ¬ cleared) :
      Stands p made grace late eased cleared ⟨.called grace, false⟩
  | draining {deadline : Nat} {emptied : Bool} (hs : p.draining = true)
      (hm : made + grace ≤ deadline) (hl : p.now ≤ made + grace + late)
      (hdl : deadline ≤ made + grace + late) (h0 : p.tracked = 0 → emptied = true)
      (he : emptied = true ↔ eased) (hc : ¬ cleared) :
      Stands p made grace late eased cleared ⟨.draining deadline, emptied⟩
  | terminating {deadline : Nat} {emptied : Bool} (hs : p.terminated = true)
      (hg : made + grace ≤ p.now) (hm : made + grace + Drain.terminationGrace ≤ deadline)
      (hl : p.now ≤ made + grace + Drain.terminationGrace + late)
      (hdl : deadline ≤ made + grace + Drain.terminationGrace + late)
      (h0 : p.tracked = 0 → emptied = true) (he : ¬ eased) (hc : emptied = true ↔ cleared) :
      Stands p made grace late eased cleared ⟨.terminating deadline, emptied⟩
  | clean (hs : p.terminated = true) (he : eased) (hc : ¬ cleared) :
      Stands p made grace late eased cleared ⟨.ended .clean, true⟩
  | forced (hs : p.terminated = true) (hg : made + grace ≤ p.now) (he : ¬ eased) (hc : cleared) :
      Stands p made grace late eased cleared ⟨.ended .forced, true⟩
  | abandoned (hs : p.terminated = true)
      (hm : made + grace + Drain.terminationGrace ≤ p.now) (he : ¬ eased) (hc : ¬ cleared) :
      Stands p made grace late eased cleared ⟨.ended .abandoned, false⟩

namespace Stands

variable {made grace late : Nat} {eased cleared : Prop}

theorem eased_of (h : p.Stands made grace late eased cleared d) (hd : p.drains[k]? = some d)
    (he : p.IsEased k) : eased := by
  obtain ⟨h0', deadline, hp⟩ := (isEmptyWhile_iff hd).1 he
  cases h with
  | draining hs hm hl hdl h0 he hc => exact he.1 (h0 h0')
  | called | terminating | clean | forced | abandoned => cases hp

theorem cleared_of (h : p.Stands made grace late eased cleared d) (hd : p.drains[k]? = some d)
    (hc : p.IsCleared k) : cleared := by
  obtain ⟨h0', deadline, hp⟩ := (isEmptyWhile_iff hd).1 hc
  cases h with
  | terminating hs hg hm hl hdl h0 he hc => exact hc.1 (h0 h0')
  | called | draining | clean | forced | abandoned => cases hp

/-- What is the case now is among what has been the case. -/
theorem note (h : p.Stands made grace late eased cleared d) (hd : p.drains[k]? = some d) :
    p.Stands made grace late (p.IsEased k ∨ eased) (p.IsCleared k ∨ cleared) d := by
  rw [or_iff_right_of_imp (h.eased_of hd), or_iff_right_of_imp (h.cleared_of hd)]
  exact h

/-- A shutdown stays where it is while the signals are kept, no time passes and no task ends. -/
theorem of_eq (h : p.Stands made grace late eased cleared d)
    (hdraining : p.draining = true → p'.draining = true)
    (hterminated : p.terminated = true → p'.terminated = true) (hnow : p'.now = p.now)
    (htracked : p'.tracked = 0 → p.tracked = 0) :
    p'.Stands made grace late eased cleared d := by
  cases h with
  | called hm hl he hc => exact .called (hnow ▸ hm) (hnow ▸ hl) he hc
  | draining hs hm hl hdl h0 he hc =>
    exact .draining (hdraining hs) hm (hnow ▸ hl) hdl (fun h => h0 (htracked h)) he hc
  | terminating hs hg hm hl hdl h0 he hc =>
    exact .terminating (hterminated hs) (hnow ▸ hg) hm (hnow ▸ hl) hdl (fun h => h0 (htracked h))
      he hc
  | clean hs he hc => exact .clean (hterminated hs) he hc
  | forced hs hg he hc => exact .forced (hterminated hs) (hnow ▸ hg) he hc
  | abandoned hs hm he hc => exact .abandoned (hterminated hs) (hnow ▸ hm) he hc

theorem of_keeps (h : p.Stands made grace late eased cleared d) (hk : p.Keeps p') :
    p'.Stands made grace late eased cleared d :=
  h.of_eq (fun hd => hk.draining_eq.trans hd) (fun ht => hk.terminated_eq.trans ht) hk.now_eq
    fun h0 => hk.tracked_eq ▸ h0

/-- A task ends; a shutdown notes it if it was the last. -/
theorem untrack (h : p.Stands made grace late eased cleared d) (hd : p.drains[k]? = some d) :
    ∃ d', p.untrack.drains[k]? = some d' ∧
      p.untrack.Stands made grace late (p.untrack.IsEased k ∨ eased)
        (p.untrack.IsCleared k ∨ cleared) d' := by
  by_cases h0 : p.tracked - 1 = 0
  · have hd' : p.untrack.drains[k]? = some d.noticeEmpty := by
      rw [Pool.untrack]
      simp [h0, hd]
    refine ⟨_, hd', ?_⟩
    -- Nothing is noted unless the shutdown waits for tasks.
    cases h with
    | called hm hl he hc =>
      exact .called hm hl (not_isEmptyWhile_or hd' nofun he) (not_isEmptyWhile_or hd' nofun hc)
    | draining hs hm hl hdl _ he hc =>
      have heased : p.untrack.IsEased k := (isEmptyWhile_iff hd').2 ⟨h0, _, rfl⟩
      exact .draining hs hm hl hdl (fun _ => rfl) (iff_of_true rfl (.inl heased))
        (not_isEmptyWhile_or hd' nofun hc)
    | terminating hs hg hm hl hdl _ he hc =>
      have hcleared : p.untrack.IsCleared k := (isEmptyWhile_iff hd').2 ⟨h0, _, rfl⟩
      exact .terminating hs hg hm hl hdl (fun _ => rfl) (not_isEmptyWhile_or hd' nofun he)
        (iff_of_true rfl (.inl hcleared))
    | clean hs he hc => exact .clean hs (.inr he) (not_isEmptyWhile_or hd' nofun hc)
    | forced hs hg he hc => exact .forced hs hg (not_isEmptyWhile_or hd' nofun he) (.inr hc)
    | abandoned hs hm he hc =>
      exact .abandoned hs hm (not_isEmptyWhile_or hd' nofun he) (not_isEmptyWhile_or hd' nofun hc)
  · have hd' : p.untrack.drains[k]? = some d := by
      rw [Pool.untrack]
      simpa [h0] using hd
    refine ⟨d, hd', note ?_ hd'⟩
    exact h.of_eq id id rfl fun h0' => absurd h0' h0

/-- Time passes; the clock may overrun what the shutdown waits for. -/
theorem advance (h : p.Stands made grace late eased cleared d) (hd : p.drains[k]? = some d)
    (ms : Nat) :
    (p.advance ms).Stands made grace (p.overrun k (.inl (.advance ms)) + late) eased cleared d := by
  cases h with
  | called hm hl he hc =>
    have hover : p.overrun k (.inl (.advance ms)) = p.now + ms - max p.now p.now := by
      simp [overrun, due?, hd]
    refine .called ?_ ?_ he hc
    · exact Nat.le_trans hm (Nat.le_add_right _ _)
    · simp only [Pool.advance]
      omega
  | @draining deadline emptied hs hm hl hdl h0 he hc =>
    have hover : p.overrun k (.inl (.advance ms)) =
        p.now + ms - max p.now (if emptied then p.now else deadline) := by
      simp [overrun, due?, hd]
    refine .draining hs hm ?_ (by omega) h0 he hc
    simp only [Pool.advance]
    split at hover <;> omega
  | @terminating deadline emptied hs hg hm hl hdl h0 he hc =>
    have hover : p.overrun k (.inl (.advance ms)) =
        p.now + ms - max p.now (if emptied then p.now else deadline) := by
      simp [overrun, due?, hd]
    refine .terminating hs ?_ hm ?_ (by omega) h0 he hc
    · exact Nat.le_trans hg (Nat.le_add_right _ _)
    · simp only [Pool.advance]
      split at hover <;> omega
  | clean hs he hc => exact .clean hs he hc
  | forced hs hg he hc => exact .forced hs (Nat.le_trans hg (Nat.le_add_right _ _)) he hc
  | abandoned hs hm he hc => exact .abandoned hs (Nat.le_trans hm (Nat.le_add_right _ _)) he hc

/-- The shutdown makes a step of its own. -/
theorem drainMove (h : p.Stands made grace late eased cleared d) (hd : p.drains[k]? = some d)
    (hm : p.DrainMove k p') :
    ∃ d', p'.drains[k]? = some d' ∧
      p'.Stands made grace late (p'.IsEased k ∨ eased) (p'.IsCleared k ∨ cleared) d' := by
  have hset : ∀ d' : Drain, (p.drains.set k d')[k]? = some d' := fun d' =>
    List.getElem?_set_self (List.getElem?_eq_some_iff.1 hd).1
  cases hm with
  | @begins d₁ grace' hd₁ hp =>
    obtain rfl : d₁ = d := Option.some.inj (hd₁.symm.trans hd)
    have hd' : (p.beginDrain k grace').1.drains[k]? =
        some ⟨.draining (p.now + grace'), p.tracked == 0⟩ := hset _
    refine ⟨_, hd', ?_⟩
    cases h with
    | called hm hl he hc =>
      cases hp
      have hmade : made + grace ≤ p.now + grace := Nat.add_le_add_right hm _
      have hnow : p.now ≤ made + grace + late := by omega
      have hdeadline : p.now + grace ≤ made + grace + late := by omega
      exact .draining rfl hmade hnow hdeadline beq_iff_eq.2 (tracked_iff_isEmptyWhile_or hd' rfl he)
        (not_isEmptyWhile_or hd' nofun hc)
    | draining | terminating | clean | forced | abandoned => cases hp
  | @cleans d₁ deadline hd₁ hp hem =>
    obtain rfl : d₁ = d := Option.some.inj (hd₁.symm.trans hd)
    have hd' : (p.terminate.setDrain k ⟨.ended .clean, true⟩).drains[k]? =
        some ⟨.ended .clean, true⟩ := hset _
    refine ⟨_, hd', ?_⟩
    cases h with
    | draining hs hm hl hdl h0 he hc =>
      exact .clean rfl (.inr (he.1 hem)) (not_isEmptyWhile_or hd' nofun hc)
    | called | terminating | clean | forced | abandoned => cases hp
  | @forces d₁ deadline hd₁ hp hem ht =>
    obtain rfl : d₁ = d := Option.some.inj (hd₁.symm.trans hd)
    have hd' : (p.terminate.setDrain k
        ⟨.terminating (p.now + Drain.terminationGrace), p.tracked == 0⟩).drains[k]? =
        some ⟨.terminating (p.now + Drain.terminationGrace), p.tracked == 0⟩ := hset _
    refine ⟨_, hd', ?_⟩
    cases h with
    | draining hs hm hl hdl h0 he hc =>
      cases hp
      have hgrace : made + grace ≤ p.now := Nat.le_trans hm ht
      have hmade : made + grace + Drain.terminationGrace ≤ p.now + Drain.terminationGrace :=
        Nat.add_le_add_right hgrace _
      have hnow : p.now ≤ made + grace + Drain.terminationGrace + late := by omega
      have hdeadline : p.now + Drain.terminationGrace ≤
          made + grace + Drain.terminationGrace + late := by omega
      have hlate : ¬ eased := fun heased => Bool.eq_false_iff.1 hem (he.2 heased)
      exact .terminating rfl hgrace hmade hnow hdeadline beq_iff_eq.2
        (not_isEmptyWhile_or hd' nofun hlate) (tracked_iff_isEmptyWhile_or hd' rfl hc)
    | called | terminating | clean | forced | abandoned => cases hp
  | @ends d₁ deadline hd₁ hp hem =>
    obtain rfl : d₁ = d := Option.some.inj (hd₁.symm.trans hd)
    have hd' : (p.setDrain k ⟨.ended .forced, true⟩).drains[k]? = some ⟨.ended .forced, true⟩ :=
      hset _
    refine ⟨_, hd', ?_⟩
    cases h with
    | terminating hs hg hm hl hdl h0 he hc =>
      exact .forced hs hg (not_isEmptyWhile_or hd' nofun he) (.inr (hc.1 hem))
    | called | draining | clean | forced | abandoned => cases hp
  | @abandons d₁ deadline hd₁ hp hem ht =>
    obtain rfl : d₁ = d := Option.some.inj (hd₁.symm.trans hd)
    have hd' : (p.setDrain k ⟨.ended .abandoned, false⟩).drains[k]? =
        some ⟨.ended .abandoned, false⟩ := hset _
    refine ⟨_, hd', ?_⟩
    cases h with
    | terminating hs hg hm hl hdl h0 he hc =>
      cases hp
      have hleft : ¬ cleared := fun hcleared => Bool.eq_false_iff.1 hem (hc.2 hcleared)
      exact .abandoned hs (Nat.le_trans hm ht) (not_isEmptyWhile_or hd' nofun he)
        (not_isEmptyWhile_or hd' nofun hleft)
    | called | draining | clean | forced | abandoned => cases hp

/-- **Every move leads a shutdown from where it stands to where it stands then.** -/
theorem move (h : p.Stands made grace late eased cleared d) (hd : p.drains[k]? = some d)
    (hm : p.Move m p') :
    ∃ d', p'.drains[k]? = some d' ∧
      p'.Stands made grace (p.overrun k m + late) (p'.IsEased k ∨ eased) (p'.IsCleared k ∨ cleared)
        d' := by
  cases hm with
  | keeps hk hg ht =>
    have hd' : p'.drains[k]? = some d := by rw [hk.drains_eq, hd]
    rw [overrun_eq_zero ht, Nat.zero_add]
    exact ⟨d, hd', (h.of_keeps hk).note hd'⟩
  | tracks hg ht =>
    have hd' : p.track.drains[k]? = some d := hd
    rw [overrun_eq_zero ht, Nat.zero_add]
    refine ⟨d, hd', note ?_ hd'⟩
    exact h.of_eq id id rfl nofun
  | @untracks q p' hk =>
    have hlate : p.overrun k (.inr (.party q)) + late = late := Nat.zero_add late
    rw [hlate]
    exact (h.of_keeps hk).untrack (hk.drains_eq ▸ hd)
  | calls grace' =>
    have hd' : (p.shutdown grace').drains[k]? = some d := by
      rw [Pool.shutdown, List.getElem?_append_left (List.getElem?_eq_some_iff.1 hd).1, hd]
    have hlate : p.overrun k (.inl (.shutdown grace')) + late = late := Nat.zero_add late
    rw [hlate]
    refine ⟨d, hd', note ?_ hd'⟩
    exact h.of_eq id id rfl id
  | advances ms =>
    have hd' : (p.advance ms).drains[k]? = some d := hd
    exact ⟨d, hd', (h.advance hd ms).note hd'⟩
  | @drains j p' hm =>
    have hlate : p.overrun k (.inr (.drain j)) + late = late := Nat.zero_add late
    rw [hlate]
    by_cases hj : j = k
    · subst hj
      exact h.drainMove hd hm
    · have hd' : p'.drains[k]? = some d := (hm.getElem?_drains hj).trans hd
      refine ⟨d, hd', note ?_ hd'⟩
      exact h.of_eq hm.draining_of hm.terminated_of hm.now_eq fun h0 => hm.tracked_eq ▸ h0

/-- The pool drains, or the first step of the shutdown can be made at once. -/
theorem draining_or_called (h : p.Stands made grace late eased cleared d)
    (ht : p.terminated = true → p.draining = true) :
    p.draining = true ∨ d.phase = .called grace := by
  cases h with
  | called => exact .inr rfl
  | draining hs => exact .inl hs
  | terminating hs | clean hs | forced hs | abandoned hs => exact .inl (ht hs)

/-- How a shutdown has ended is told by what has happened. -/
theorem of_outcome? (h : p.Stands made grace late eased cleared d) {outcome : DrainOutcome}
    (ho : d.outcome? = some outcome) : p.terminated = true ∧
      (outcome = .clean ↔ eased) ∧ (outcome = .forced ↔ ¬ eased ∧ cleared) ∧
      (outcome = .abandoned ↔ ¬ eased ∧ ¬ cleared) ∧
      (outcome ≠ .clean → made + grace ≤ p.now) ∧
      (outcome = .abandoned → made + grace + Drain.terminationGrace ≤ p.now) := by
  cases h with
  | called | draining | terminating => cases ho
  | clean hs he hc =>
    cases ho
    simp [hs, he]
  | forced hs hg he hc =>
    cases ho
    simp [hs, he, hc, hg]
  | abandoned hs hm he hc =>
    cases ho
    have hg : made + grace ≤ p.now := Nat.le_trans (Nat.le_add_right _ _) hm
    simp [hs, he, hc, hg, hm]

/-- A shutdown that has not ended is not late, but for what the clock has overrun. -/
theorem now_le (h : p.Stands made grace late eased cleared d) (ho : d.outcome? = none) :
    p.now ≤ made + grace + Drain.terminationGrace + late := by
  cases h with
  | called | draining | terminating => omega
  | clean | forced | abandoned => cases ho

/-- When the last moment has come, the second period of a shutdown that has not ended is over. -/
theorem terminating_of_le (h : p.Stands made grace late eased cleared d)
    (hle : made + grace + Drain.terminationGrace + late ≤ p.now) (ho : d.outcome? = none) :
    ∃ deadline, d.phase = .terminating deadline ∧ deadline ≤ p.now := by
  have hpos : 0 < Drain.terminationGrace := by decide
  cases h with
  | called | draining => omega
  | terminating hs hg hm hl hdl => exact ⟨_, rfl, Nat.le_trans hdl hle⟩
  | clean | forced | abandoned => cases ho

/-- What is known of a shutdown that waits for tasks that it has told to end. -/
theorem of_terminating {deadline : Nat} {emptied : Bool}
    (h : p.Stands made grace late eased cleared ⟨.terminating deadline, emptied⟩) :
    p.terminated = true ∧ (p.tracked = 0 → emptied = true) := by
  cases h with
  | terminating hs hg hm hl hdl h0 => exact ⟨hs, h0⟩

end Stands

/-! ### All shutdowns -/

/-- All shutdowns stand where they can. -/
def AllStand (p : Pool ι) : Prop :=
  ∀ (k : Nat) (d : Drain), p.drains[k]? = some d →
    ∃ (made grace late : Nat) (eased cleared : Prop), p.Stands made grace late eased cleared d

/-- Every move leads all shutdowns to where they can stand. -/
theorem AllStand.move (h : p.AllStand) (hm : p.Move m p') : p'.AllStand := by
  intro k d' hd'
  by_cases hk : k < p.drains.length
  · have hd := List.getElem?_eq_getElem hk
    obtain ⟨made, grace, late, eased, cleared, hstands⟩ := h k _ hd
    obtain ⟨d, hd, hstands'⟩ := hstands.move hd hm
    obtain rfl := Option.some.inj (hd.symm.trans hd')
    exact ⟨_, _, _, _, _, hstands'⟩
  · -- The shutdown has been called for in this move.
    have hk' : k < p'.drains.length := (List.getElem?_eq_some_iff.1 hd').1
    obtain ⟨grace, rfl, -⟩ := hm.eq_shutdown_of_lt (by omega)
    obtain rfl := hm.eq_shutdown
    rw [shutdown, List.getElem?_append_right (Nat.not_lt.1 hk)] at hd'
    obtain rfl := List.mem_singleton.1 (List.mem_of_getElem? hd')
    exact ⟨p.now, grace, 0, False, False, .called (Nat.le_refl _) (Nat.le_refl _) id id⟩

/-- A shutdown that waits for tasks that it has told to end has just come to do so, and its deadline
is still to come; or it was waiting before, and only time can have passed. -/
theorem Move.of_awaiting (hm : p.Move m p') {deadline : Nat}
    (hd' : p'.drains[k]? = some ⟨.terminating deadline, false⟩) :
    p'.now < deadline ∨ p.drains[k]? = some ⟨.terminating deadline, false⟩ ∧
      (p'.now = p.now ∨ ∃ ms, m = .inl (.advance ms) ∧ p'.now = p.now + ms) := by
  cases hm with
  | keeps hk => exact .inr ⟨hk.drains_eq ▸ hd', .inl hk.now_eq⟩
  | tracks => exact .inr ⟨hd', .inl rfl⟩
  | @untracks q p₁ hk =>
    refine .inr ⟨?_, .inl hk.now_eq⟩
    rw [← hk.drains_eq]
    unfold untrack at hd'
    dsimp only at hd'
    split at hd'
    · -- All shutdowns that wait have noted that no task is left.
      rw [List.getElem?_map] at hd'
      obtain ⟨⟨phase, emptied⟩, -, hnotice⟩ := Option.map_eq_some_iff.1 hd'
      cases phase <;> cases hnotice
    · exact hd'
  | calls grace =>
    rw [shutdown, List.getElem?_append] at hd'
    split at hd'
    · exact .inr ⟨hd', .inl rfl⟩
    · cases List.mem_singleton.1 (List.mem_of_getElem? hd')
  | advances ms => exact .inr ⟨hd', .inr ⟨ms, rfl, rfl⟩⟩
  | @drains j p' hm =>
    by_cases hj : j = k
    · subst hj
      cases hm with
      | begins | cleans | ends | abandons => cases eq_of_getElem?_set hd'
      | forces =>
        have hphase := congrArg Drain.phase (eq_of_getElem?_set hd')
        obtain rfl := DrainPhase.terminating.inj hphase
        have hpos : 0 < Drain.terminationGrace := by decide
        exact .inl (Nat.lt_add_of_pos_right hpos)
    · exact .inr ⟨(hm.getElem?_drains hj).symm.trans hd', .inl hm.now_eq⟩

end Pool

end StreamedInference
