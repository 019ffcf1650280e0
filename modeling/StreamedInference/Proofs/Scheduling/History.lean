import StreamedInference.Scheduling

/-!
# Histories

That a state can be reached (`Tasks.Reachable`) says nothing of how it has come about. A history
keeps all moves that have been made, each with the state in which it was made. What has been told,
handed over or measured in the course of a run is read off its history.

## Main definitions

* `Tasks.Leads`: one move leads from one state to another.
* `Tasks.History`: the moves that have led from one state to another.
* `Tasks.follow?`: a history given by its moves.

## Main results

* `Tasks.History.reachable`: what a history leads to can be reached.
* `Tasks.History.of_move`, `Tasks.History.of_leads`: what every move keeps holds at any time.
* `Tasks.Reachable.of_leads`: it holds then at any later time, too.
* `Tasks.History.trans`: what comes later is put in front.
-/

namespace StreamedInference

namespace Tasks

variable {σ τ α : Type} {T : Tasks σ τ} {act : σ → α → σ} {start s s' : σ}
  {past past' : List (σ × (α ⊕ τ))}

/-- A move leads from one state to another: something happens from outside, or a task makes a
step. -/
def Leads (T : Tasks σ τ) (act : σ → α → σ) (s : σ) : α ⊕ τ → σ → Prop
  | .inl a, s' => s' = act s a
  | .inr t, s' => T.step? s t = some s'

/-- What every move keeps holds of all that a state comes to. -/
theorem Reachable.of_leads {P : σ → Prop} (h : T.Reachable act start s) (init : P start)
    (keep : ∀ {s s' : σ} {m : α ⊕ τ}, P s → T.Leads act s m s' → P s') : P s := by
  induction h with
  | start => exact init
  | act a _ ih => exact keep (m := .inl a) ih rfl
  | step t ht _ ih => exact keep (m := .inr t) ih ht

theorem Reachable.leads {m : α ⊕ τ} (h : T.Reachable act start s) (hm : T.Leads act s m s') :
    T.Reachable act start s' := by
  cases m with
  | inl a =>
    obtain rfl : s' = act s a := hm
    exact .act a h
  | inr t => exact .step t hm h

/-- The moves that have led from one state to another, the latest first, with the states in which
they were made: things that happened from outside, and steps of tasks. -/
inductive History (T : Tasks σ τ) (act : σ → α → σ) (start : σ) :
    List (σ × (α ⊕ τ)) → σ → Prop where
  | start : History T act start [] start
  | act {past : List (σ × (α ⊕ τ))} {s : σ} (a : α) (h : History T act start past s) :
    History T act start ((s, .inl a) :: past) (act s a)
  | step {past : List (σ × (α ⊕ τ))} {s s' : σ} (t : τ) (ht : T.step? s t = some s')
    (h : History T act start past s) : History T act start ((s, .inr t) :: past) s'

theorem History.reachable (h : T.History act start past s) : T.Reachable act start s := by
  induction h with
  | start => exact .start
  | act a _ ih => exact .act a ih
  | step t ht _ ih => exact .step t ht ih

/-- All states of a history can be reached. -/
theorem History.reachable_of_mem {e : σ × (α ⊕ τ)} (h : T.History act start past s)
    (he : e ∈ past) : T.Reachable act start e.1 := by
  induction h with
  | start => cases he
  | act a h ih =>
    rcases List.mem_cons.1 he with rfl | he
    · exact h.reachable
    · exact ih he
  | step t ht h ih =>
    rcases List.mem_cons.1 he with rfl | he
    · exact h.reachable
    · exact ih he

/-- What holds at the start and is kept by every move holds at any time. What a move is may be said
in any way that covers what happens from outside and the steps of tasks. -/
theorem History.of_move {Move : σ → α ⊕ τ → σ → Prop} (move_act : ∀ s a, Move s (.inl a) (act s a))
    (move_step : ∀ {s s' : σ} {t : τ}, T.step? s t = some s' → Move s (.inr t) s')
    {P : List (σ × (α ⊕ τ)) → σ → Prop} (init : P [] start)
    (keep : ∀ (past : List (σ × (α ⊕ τ))) (s s' : σ) (m : α ⊕ τ),
      T.History act start past s → P past s → Move s m s' → P ((s, m) :: past) s')
    (h : T.History act start past s) : P past s := by
  induction h with
  | start => exact init
  | act a h ih => exact keep _ _ _ _ h ih (move_act _ a)
  | step t ht h ih => exact keep _ _ _ _ h ih (move_step ht)

/-- What holds at the start and is kept by every move that leads on holds at any time. -/
theorem History.of_leads {P : List (σ × (α ⊕ τ)) → σ → Prop} (init : P [] start)
    (keep : ∀ {past : List (σ × (α ⊕ τ))} {s s' : σ} {m : α ⊕ τ},
      T.History act start past s → P past s → T.Leads act s m s' → P ((s, m) :: past) s')
    (h : T.History act start past s) : P past s := by
  induction h with
  | start => exact init
  | act a h ih => exact keep (m := .inl a) h ih rfl
  | step t ht h ih => exact keep (m := .inr t) h ih ht

/-- What comes later is put in front. -/
theorem History.trans (h : T.History act start past s) (h' : T.History act s past' s') :
    T.History act start (past' ++ past) s' := by
  induction h' with
  | start => exact h
  | act a _ ih => exact .act a ih
  | step t ht _ ih => exact .step t ht ih

/-- What moves lead to, if the tasks can make their steps, with the history that they prolong. -/
def follow? (T : Tasks σ τ) (act : σ → α → σ) (past : List (σ × (α ⊕ τ))) (s : σ) :
    List (α ⊕ τ) → Option (List (σ × (α ⊕ τ)) × σ)
  | [] => some (past, s)
  | .inl a :: moves => T.follow? act ((s, .inl a) :: past) (act s a) moves
  | .inr t :: moves => (T.step? s t).bind fun s' => T.follow? act ((s, .inr t) :: past) s' moves

theorem History.follow {moves : List (α ⊕ τ)} {e : List (σ × (α ⊕ τ)) × σ}
    (h : T.History act start past s) (hf : T.follow? act past s moves = some e) :
    T.History act start e.1 e.2 := by
  induction moves generalizing past s with
  | nil =>
    obtain rfl := Option.some.inj hf
    exact h
  | cons move moves ih =>
    cases move with
    | inl a => exact ih (.act a h) hf
    | inr t =>
      obtain ⟨s₁, hs₁, hf⟩ := Option.bind_eq_some_iff.1 hf
      exact ih (.step t hs₁ h) hf

end Tasks

end StreamedInference
