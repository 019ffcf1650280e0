import StreamedInference.Proofs.Generation.Stream
import StreamedInference.Proofs.Service.Turns
import StreamedInference.Proofs.Session.Course

/-!
# What calls have answered

The course of a session is told for answers that are known beforehand; in a service a call answers
bit by bit. A row of answers is right for the calls of a client if it agrees with what these calls
have done so far. Since calls do not take back anything, answers that are right for a later moment
were right before, and what the calls have done so far is itself one such row.

## Main definitions

* `Service.Answered`: a row of answers is right for the calls of a client.
* `Service.outcomes`: what the calls of a client have done so far.

## Main results

* `Service.Move.answered_of`: answers that are right after a move were right before it.
* `Service.IsReachable.answered_outcomes`: what calls have done so far is right for them.
-/

namespace StreamedInference

namespace Service

/-- The answers, in the order of the client's calls, agree with what these calls have done so
far. -/
def Answered (s : Service) (i : Nat) (answers : Nat → GenerateCall → CallScript) : Prop :=
  ∀ u ∈ s.accelerator.units, ∀ k, u.owner = (i, k + 1) → u.Fits (answers k u.call)

/-- What the calls of a client have done so far, in their order. -/
def outcomes (s : Service) (i k : Nat) (_ : GenerateCall) : CallScript :=
  match s.accelerator.unit? (i, k + 1) with
  | some u => u.outcome
  | none => {}

variable {s s' : Service} {arrived : Nat → List Inbound} {i : Nat}
  {answers : Nat → GenerateCall → CallScript}

/-- Answers that are right after a move were right before it. -/
theorem Move.answered_of (h : s.Move arrived s') (ha : s'.Answered i answers) :
    s.Answered i answers := by
  intro u hu k howner
  obtain ⟨n, hn, rfl⟩ := List.getElem_of_mem hu
  obtain ⟨u', hu', hg, -⟩ := h.step_accelerator.exists_unit (List.getElem?_eq_getElem hn)
  have hfits := ha u' (List.mem_of_getElem? hu') k (hg.owner_eq.trans howner)
  rw [hg.call_eq] at hfits
  exact hfits.of_grows hg

/-- Answers that will be right were right before. -/
theorem answered_of_reachable (h : tasks.Reachable act s s') (ha : s'.Answered i answers) :
    s.Answered i answers := by
  induction h with
  | start => exact ha
  | act a _ ih => exact ih ((move_act _ a).answered_of ha)
  | step t ht _ ih => exact ih ((move_of_step? ht).answered_of ha)

/-- Empty fragments leave no trace. -/
theorem IsReachable.isEmpty_emitted (h : s.IsReachable) :
    ∀ u ∈ s.accelerator.units, ∀ text ∈ u.emitted, text.isEmpty = false := by
  refine IsReachable.of_move
    (P := fun s => ∀ u ∈ s.accelerator.units, ∀ text ∈ u.emitted, text.isEmpty = false)
    (fun s hs => ?_) (fun s s' arrived ih hm u' hu' => ?_) h
  · obtain ⟨engine, ha⟩ := hs.accelerator_eq
    simp [ha]
  · rcases hm.step_accelerator.exists_origin hu' with ⟨u, hu, hg⟩ | hnew
    · exact hg.isEmpty_of (ih u hu)
    · simp [hnew]

/-- What calls have done so far is right for them. -/
theorem IsReachable.answered_outcomes (h : s.IsReachable) (i : Nat) :
    s.Answered i (s.outcomes i) := by
  intro u hu k howner
  have hunit := Accelerator.unit?_eq_some h.orderly.nodup_owners hu
  rw [howner] at hunit
  rw [outcomes, hunit]
  exact GenerationUnit.fits_outcome (h.isEmpty_emitted u hu)

end Service

end StreamedInference
