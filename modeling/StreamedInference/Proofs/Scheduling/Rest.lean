import Mathlib.Logic.Basic
import StreamedInference.Scheduling

/-!
# Tasks that come to rest

If every step of a task uses something up that cannot be used up for ever, the tasks come to rest,
in whichever order they run. Where it is known what each task does next, the run of the tasks in
turn can be gone through move by move.

## Main definitions

* `Tasks.Settles`: how a run of tasks in turn goes, until none can run.

## Main results

* `Tasks.exists_quiet_of_wellFounded`: some order of steps leads to rest.
* `Tasks.exists_not_step_of_wellFounded`: no order of steps goes on for ever.
* `Tasks.Settles.runFor`: what the run comes to.
-/

namespace StreamedInference

namespace Tasks

variable {σ τ : Type} {T : Tasks σ τ} {lighter : σ → σ → Prop}

theorem exists_quiet_of_wellFounded (hwf : WellFounded lighter)
    (hstep : ∀ {s s' : σ} {t : τ}, T.step? s t = some s' → lighter s' s) (s : σ) :
    ∃ q, T.Reaches s q ∧ T.Quiet q := by
  induction s using hwf.induction with
  | _ s ih =>
    by_cases hq : T.Quiet s
    · exact ⟨s, .refl s, hq⟩
    · simp only [Quiet, not_forall] at hq
      obtain ⟨t, -, ht⟩ := hq
      obtain ⟨s', hs'⟩ := Option.ne_none_iff_exists'.1 ht
      obtain ⟨q, hr, hquiet⟩ := ih s' (hstep hs')
      exact ⟨q, .step t hs' hr, hquiet⟩

theorem exists_not_step_of_wellFounded (hwf : WellFounded lighter)
    (hstep : ∀ {s s' : σ} {t : τ}, T.step? s t = some s' → lighter s' s) (f : Nat → σ) :
    ∃ n, ∀ t, T.step? (f n) t ≠ some (f (n + 1)) := by
  suffices hsuff : ∀ s (f : Nat → σ), f 0 = s →
      ∃ n, ∀ t, T.step? (f n) t ≠ some (f (n + 1)) from hsuff _ f rfl
  intro s
  induction s using hwf.induction with
  | _ s ih =>
    rintro f rfl
    by_cases hnext : ∃ t, T.step? (f 0) t = some (f 1)
    · obtain ⟨t, ht⟩ := hnext
      obtain ⟨n, hn⟩ := ih (f 1) (hstep ht) (fun n => f (n + 1)) rfl
      exact ⟨n + 1, hn⟩
    · exact ⟨0, fun t ht => hnext ⟨t, ht⟩⟩

/-! ### Runs in turn -/

section

variable [DecidableEq τ]

/-- How a run of tasks in turn goes, move by move, until none can run; and what it comes to. -/
inductive Settles (T : Tasks σ τ) (P : Schedule τ → σ → Prop) :
    (fuel : Nat) → (running : Option τ) → Schedule τ → σ → Prop
  | rests {fuel : Nat} {parked : List τ} {s : σ} (h : P ⟨[], parked⟩ s) :
      Settles T P (fuel + 1) none ⟨[], parked⟩ s
  /-- The next task has its turn. -/
  | turns {fuel : Nat} {t : τ} {ready parked : List τ} {s : σ}
      (h : Settles T P fuel (some t) ⟨ready, parked⟩ s) :
      Settles T P (fuel + 1) none ⟨t :: ready, parked⟩ s
  | steps {fuel : Nat} {t : τ} {q : Schedule τ} {s s' : σ} (q' : Schedule τ)
      (hs : T.step? s t = some s') (hq : q.refresh T (some t) s' = q')
      (h : Settles T P fuel (some t) q' s') : Settles T P (fuel + 1) (some t) q s
  /-- The task that has its turn can run no further. -/
  | parks {fuel : Nat} {t : τ} {ready parked : List τ} {s : σ} (hs : T.step? s t = none)
      (h : Settles T P fuel none ⟨ready, parked ++ [t]⟩ s) :
      Settles T P (fuel + 1) (some t) ⟨ready, parked⟩ s

theorem Settles.runFor {P : Schedule τ → σ → Prop} {fuel : Nat} {running : Option τ}
    {q : Schedule τ} {s : σ} (h : T.Settles P fuel running q s) :
    P (T.runFor fuel running q s).1 (T.runFor fuel running q s).2 := by
  induction h with
  | rests h => exact h
  | turns _ ih => exact ih
  | steps q' hs hq _ ih =>
    rw [Tasks.runFor, hs]
    dsimp only
    rwa [hq]
  | parks hs _ ih => rwa [Tasks.runFor, hs]

end

end Tasks

end StreamedInference
