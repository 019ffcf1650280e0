import Mathlib.Tactic.SplitIfs
import StreamedInference.Settings.Configuration

/-!
# What is accepted

A configuration is accepted if it passes all checks, and nothing else is asked of it: what the
checks do not look at may have any value.

## Main definitions

* `Configuration.IsSound`: what the checks look for.

## Main results

* `Configuration.fault?_eq_none_iff`: the checks are passed by what is sound.
* `Configuration.ofLayer?_eq_ok_iff`, `Configuration.load_eq_ok_iff`: what is accepted.
-/

namespace StreamedInference

namespace Configuration

variable {c : Configuration}

/-- What the checks of a configuration look for. -/
structure IsSound (c : Configuration) : Prop where
  maxWorkers : c.maxWorkers ≠ 0
  streamBufferSize : c.policy.streamBufferSize ≠ 0
  contextSize : c.model.contextSize ≠ 0
  sampling : c.sampling.InRange
  serverName : isBlankText c.serverName = false

/-- A configuration passes all checks exactly if it is sound. -/
theorem fault?_eq_none_iff : c.fault? = none ↔ c.IsSound := by
  unfold fault?
  constructor
  · intro h
    split_ifs at h with hworkers htokens hbuffer hcontext htemperature htop hpenalty hname
    simp only [Bool.not_eq_true', Bool.not_eq_false, Bool.and_eq_true, beq_iff_eq,
      Bool.not_eq_true] at hworkers htokens hbuffer hcontext htemperature htop hpenalty hname
    exact ⟨hworkers, hbuffer, hcontext, ⟨htemperature.symm, htop, hpenalty.symm, htokens⟩, hname⟩
  · rintro ⟨hworkers, hbuffer, hcontext, ⟨htemperature, htop, hpenalty, htokens⟩, hname⟩
    simp [hworkers, htokens, hbuffer, hcontext, htemperature, htop, hpenalty, hname]

/-- What is accepted of settings is what they and the defaults make up, if it is sound. -/
theorem ofLayer?_eq_ok_iff {l : Layer} : ofLayer? l = .ok c ↔ c = ofLayer l ∧ c.IsSound := by
  unfold ofLayer?
  cases h : (ofLayer l).fault? with
  | some fault =>
    refine iff_of_false (by simp [h]) ?_
    rintro ⟨rfl, hs⟩
    simp [fault?_eq_none_iff.mpr hs] at h
  | none =>
    simp only [h, Except.ok.injEq]
    constructor
    · rintro rfl
      exact ⟨rfl, fault?_eq_none_iff.mp h⟩
    · rintro ⟨rfl, -⟩
      rfl

/-- What is accepted of a command line and an environment are the settings that are read from
them. -/
theorem load_eq_ok_iff {words : List String} {env : Environment} :
    load words env = .ok c ↔ ∃ l, readSettings words env = .ok l ∧ ofLayer? l = .ok c := by
  unfold load
  cases hread : readSettings words env with
  | error e => simp
  | ok l =>
    cases hlayer : ofLayer? l with
    | error fault => simp [hlayer]
    | ok c' => simp [hlayer]

end Configuration

end StreamedInference
