import Mathlib.Data.List.Basic
import StreamedInference.Proofs.Pool.Turnover

/-!
# The order in which slots are handed over

Who comes into the queue of a pool, and for whom a slot is set aside, is read off the moments of a
run. Slots go to those who wait in the order in which they have come, and nobody is passed over who
has not withdrawn.

## Main definitions

* `PoolUsage.entrants`: who has come into a list in the course of time.
* `PoolUsage.QueueMove`: what a move is for those who wait.
* `PoolUsage.InOrder`: slots have gone to those who waited, in the order in which they came.

## Main results

* `PoolUsage.Move.queueMove`: what moves do to those who wait.
* `PoolUsage.InOrder.move`, `PoolUsage.History.inOrder`: nobody has been passed over.
-/

namespace StreamedInference

namespace PoolUsage

variable {ι : Type} [DecidableEq ι] {limit : Nat} {u u' : PoolUsage ι} {past : Past ι}
  {m : PoolAction ι ⊕ PoolTask ι} {p q : ι} {s₀ s : PartyStatus} {pool : Pool ι}

/-! ### The queue in a move -/

/-- What a move is for those who wait and for those who have a slot set aside. -/
inductive QueueMove (u u' : PoolUsage ι) : Prop
  /-- Some leave, but while the pool does not drain, only those leave the queue who have
  withdrawn. -/
  | shrinks (hc : u'.pool.chosen.Sublist u.pool.chosen)
      (hw : u'.pool.waiting.Sublist u.pool.waiting)
      (hk : u'.pool.draining = false →
        ∀ q ∈ u.pool.waiting, q ∈ u'.pool.waiting ∨ u'.status? q = some .withdrawn)
  /-- A slot is set aside for the first of those who wait. -/
  | hands (q : ι) {chosen : List ι} (hc : chosen.Sublist u.pool.chosen)
      (hc' : u'.pool.chosen = chosen ++ [q]) (hw : u.pool.waiting = q :: u'.pool.waiting)
  /-- A party joins the queue. -/
  | joins (q : ι) (hs : u.status? q = some (.waiting false))
      (hs' : u'.status? q = some (.waiting true)) (hc : u'.pool.chosen = u.pool.chosen)
      (hw : u'.pool.waiting = u.pool.waiting ++ [q])

namespace QueueMove

/-- Nothing becomes of those who wait. -/
theorem of_sameSlots (h : u.pool.SameSlots u'.pool) : u.QueueMove u' := by
  refine .shrinks ?_ ?_ fun _ q hq => .inl (h.waiting_eq ▸ hq)
  · rw [h.chosen_eq]
  · rw [h.waiting_eq]

/-- A slot comes back. -/
theorem of_giveBack {p : Pool ι} (hc : p.chosen.Sublist u.pool.chosen)
    (hw : p.waiting = u.pool.waiting) (h : p.giveBack.SameSlots u'.pool) : u.QueueMove u' := by
  have hchosen := h.chosen_eq.trans p.chosen_giveBack
  have hwaiting := h.waiting_eq.trans p.waiting_giveBack
  rw [hw] at hchosen hwaiting
  cases hqueue : u.pool.waiting with
  | nil =>
    simp only [hqueue, List.head?_nil, Option.toList_none, List.append_nil, List.tail_nil]
      at hchosen hwaiting
    refine .shrinks (hchosen ▸ hc) ?_ fun _ q hq => ?_
    · simp [hwaiting]
    · simp [hqueue] at hq
  | cons q waiting =>
    simp only [hqueue, List.head?_cons, Option.toList_some, List.tail_cons] at hchosen hwaiting
    exact .hands q hc hchosen (hwaiting ▸ hqueue)

/-- A party leaves; while the pool does not drain, it has withdrawn then. -/
theorem of_withdraw (h : (u.pool.withdraw p).SameSlots u'.pool)
    (hs : u'.pool.draining = false → u'.status? p = some .withdrawn) : u.QueueMove u' := by
  by_cases hp : p ∈ u.pool.chosen
  · have hwithdraw : u.pool.withdraw p =
        ({ u.pool with chosen := u.pool.chosen.erase p } : Pool ι).giveBack :=
      if_pos (List.contains_iff_mem.2 hp)
    rw [hwithdraw] at h
    exact of_giveBack (p := { u.pool with chosen := u.pool.chosen.erase p })
      List.erase_sublist rfl h
  · have hwithdraw : u.pool.withdraw p = { u.pool with waiting := u.pool.waiting.erase p } :=
      if_neg fun hc => hp (List.contains_iff_mem.1 hc)
    rw [hwithdraw] at h
    have hchosen : u'.pool.chosen = u.pool.chosen := h.chosen_eq
    have hwaiting : u'.pool.waiting = u.pool.waiting.erase p := h.waiting_eq
    refine .shrinks ?_ ?_ fun hd q hq => ?_
    · rw [hchosen]
    · exact hwaiting ▸ List.erase_sublist
    · by_cases hqp : q = p
      · exact .inr (hqp ▸ hs hd)
      · exact .inl (hwaiting ▸ (List.mem_erase_of_ne hqp).2 hq)

end QueueMove

/-- What moves do to those who wait. -/
theorem Move.queueMove (hm : u.Move m u') : u.QueueMove u' := by
  cases hm with
  | rests | joins | stops => exact .of_sameSlots (.refl _)
  | spawns | background => exact .of_sameSlots u.pool.sameSlots_track
  | calls grace => exact .of_sameSlots (u.pool.sameSlots_shutdown grace)
  | advances ms => exact .of_sameSlots (u.pool.sameSlots_advance ms)
  | @cancels p asked hs =>
    refine .of_withdraw (p := p) (.refl _) fun _ => ?_
    rw [status?_set hs, if_pos rfl]
  | releases =>
    exact .of_giveBack (p := { u.pool with inflight := u.pool.inflight - 1 })
      (.refl _) rfl (.refl _)
  | admits _ ha =>
    obtain ⟨-, -, -, -, -, hwaiting, hchosen⟩ := (Pool.askMove_of_ask ha).takes
    refine .shrinks ?_ ?_ fun _ q hq => .inl ?_
    · exact hchosen ▸ List.erase_sublist
    · rw [hwaiting]
    · exact hwaiting ▸ hq
  | @refuses p asked pool hs ha =>
    cases Pool.askMove_of_ask ha with
    | refused hd =>
      refine .of_withdraw (p := p) (.refl _) fun hd' => ?_
      have hdraining := (u.pool.keeps_withdraw p).draining_eq.trans hd
      rw [hdraining] at hd'
      cases hd'
  | @queues p pool hs ha =>
    cases Pool.askMove_of_ask ha with
    | queued =>
      refine .joins p hs ?_ rfl rfl
      rw [status?_set hs, if_pos rfl]
    | waits _ _ hagain => cases hagain
  | @ends p onSlot stopped ending hs he =>
    cases onSlot with
    | false => exact .of_sameSlots u.pool.sameSlots_untrack
    | true =>
      exact .of_giveBack (p := { u.pool with inflight := u.pool.inflight - 1 }) (.refl _) rfl
        u.pool.release.sameSlots_untrack
  | drains hd =>
    rcases hd.slots_cases with hslots | ⟨hdraining, hslots⟩
    · exact .of_sameSlots hslots
    · have hchosen : _ = u.pool.chosen := hslots.chosen_eq
      have hwaiting : _ = [] := hslots.waiting_eq
      refine .shrinks ?_ ?_ fun hd' => ?_
      · rw [hchosen]
      · rw [hwaiting]
        exact List.nil_sublist _
      · rw [hdraining] at hd'
        cases hd'

/-! ### The queue in the course of time -/

/-- Who has come into a list in the course of time, in the order in which they came; the latest
moment stands first. -/
def entrants (f : Pool ι → List ι) : List (Pool ι) → List ι
  | p :: q :: moments => entrants f (q :: moments) ++ (f p).filter (· ∉ f q)
  | _ => []

theorem entrants_moments_cons (f : Pool ι → List ι) :
    entrants f (moments ((u, m) :: past) u') =
      entrants f (moments past u) ++ (f u'.pool).filter (· ∉ f u.pool) :=
  rfl

/-- Nobody has come in where some have only left. -/
theorem filter_not_mem_of_sublist {l l' : List ι} (h : l'.Sublist l) :
    l'.filter (· ∉ l) = [] := by
  rw [List.filter_eq_nil_iff]
  intro q hq
  simpa using h.subset hq

/-- Nobody comes into a list from which some only leave. -/
theorem entrants_of_sublist (past : Past ι) (m : PoolAction ι ⊕ PoolTask ι)
    {f : Pool ι → List ι} (h : (f u'.pool).Sublist (f u.pool)) :
    entrants f (moments ((u, m) :: past) u') = entrants f (moments past u) := by
  rw [entrants_moments_cons, filter_not_mem_of_sublist h, List.append_nil]

/-- One has come into a list, and some may have left it. -/
theorem entrants_of_append (past : Past ι) (m : PoolAction ι ⊕ PoolTask ι)
    {f : Pool ι → List ι} {l : List ι} (hl : l.Sublist (f u.pool))
    (hf : f u'.pool = l ++ [q]) (hq : q ∉ f u.pool) :
    entrants f (moments ((u, m) :: past) u') = entrants f (moments past u) ++ [q] := by
  have hone : (l ++ [q]).filter (· ∉ f u.pool) = [q] := by
    rw [List.filter_append, filter_not_mem_of_sublist hl]
    simp [hq]
  rw [entrants_moments_cons, hf, hone]

/-- Slots have gone to those who waited, in the order in which they came, and those who wait are the
last of these. Nobody has come twice, and until the pool drains nobody has been passed over who has
not withdrawn. -/
structure InOrder (past : Past ι) (u : PoolUsage ι) : Prop where
  sublist : (entrants (·.chosen) (moments past u) ++ u.pool.waiting).Sublist
    (entrants (·.waiting) (moments past u))
  nodup : (entrants (·.waiting) (moments past u)).Nodup
  known : ∀ p ∈ entrants (·.waiting) (moments past u),
    ∃ s, u.status? p = some s ∧ s ≠ .waiting false
  kept : u.pool.draining = false → ∀ p ∈ entrants (·.waiting) (moments past u),
    p ∈ entrants (·.chosen) (moments past u) ∨ p ∈ u.pool.waiting ∨
      u.status? p = some .withdrawn

namespace InOrder

theorem init (limit : Nat) : InOrder [] ({ pool := .ofLimit limit } : PoolUsage ι) where
  sublist := .refl _
  nodup := .nil
  known _ hp := nomatch hp
  kept _ _ hp := nomatch hp

/-- Nobody asks for a slot as if for the first time who has done so before. -/
theorem known_move (h : InOrder past u) (hm : u.Move m u')
    (hp : p ∈ entrants (·.waiting) (moments past u)) :
    ∃ s, u'.status? p = some s ∧ s ≠ .waiting false := by
  obtain ⟨s, hs, hne⟩ := h.known p hp
  have hpasses := hm.passes p
  rw [hs] at hpasses
  cases hpasses' : u'.status? p with
  | none =>
    rw [hpasses'] at hpasses
    cases hpasses
  | some s' =>
    refine ⟨s', rfl, ?_⟩
    rintro rfl
    rw [hpasses'] at hpasses
    cases hpasses
    exact hne rfl

/-- Who has withdrawn does nothing else any more. -/
theorem withdrawn_move (hm : u.Move m u') (hs : u.status? p = some .withdrawn) :
    u'.status? p = some .withdrawn := by
  have hpasses := hm.passes p
  rw [hs] at hpasses
  exact hpasses.eq_of_isOver rfl

theorem draining_eq_false_of_move (hm : u.Move m u') (hd : u'.pool.draining = false) :
    u.pool.draining = false := by
  refine Bool.eq_false_iff.2 fun ht => Bool.eq_false_iff.1 hd ?_
  exact hm.pool_move.draining_of ht

/-- Some leave. -/
theorem shrinks (h : InOrder past u) (hm : u.Move m u')
    (hc : u'.pool.chosen.Sublist u.pool.chosen) (hw : u'.pool.waiting.Sublist u.pool.waiting)
    (hk : u'.pool.draining = false →
      ∀ q ∈ u.pool.waiting, q ∈ u'.pool.waiting ∨ u'.status? q = some .withdrawn) :
    InOrder ((u, m) :: past) u' := by
  have hwaiting := entrants_of_sublist past m (f := (·.waiting)) hw
  have hchosen := entrants_of_sublist past m (f := (·.chosen)) hc
  refine ⟨?_, hwaiting ▸ h.nodup, fun p hp => h.known_move hm (hwaiting ▸ hp), fun hd p hp => ?_⟩
  · rw [hwaiting, hchosen]
    exact (hw.append_left _).trans h.sublist
  · rw [hchosen]
    rcases h.kept (draining_eq_false_of_move hm hd) p (hwaiting ▸ hp) with hmem | hmem | hs
    · exact .inl hmem
    · exact .inr (hk hd p hmem)
    · exact .inr (.inr (withdrawn_move hm hs))

/-- A slot is set aside for the first of those who wait. -/
theorem hands (h : InOrder past u) (hm : u.Move m u') {chosen : List ι}
    (hc : chosen.Sublist u.pool.chosen) (hc' : u'.pool.chosen = chosen ++ [q])
    (hw : u.pool.waiting = q :: u'.pool.waiting) (hq : q ∉ u.pool.chosen) :
    InOrder ((u, m) :: past) u' := by
  have hsub : u'.pool.waiting.Sublist u.pool.waiting := hw ▸ List.sublist_cons_self _ _
  have hwaiting := entrants_of_sublist past m (f := (·.waiting)) hsub
  have hchosen := entrants_of_append past m (f := (·.chosen)) hc hc' hq
  refine ⟨?_, hwaiting ▸ h.nodup, fun p hp => h.known_move hm (hwaiting ▸ hp), fun hd p hp => ?_⟩
  · have hbefore := h.sublist
    rw [hw] at hbefore
    rw [hwaiting, hchosen, List.append_assoc]
    exact hbefore
  · rw [hchosen, List.mem_append, List.mem_singleton]
    rcases h.kept (draining_eq_false_of_move hm hd) p (hwaiting ▸ hp) with hmem | hmem | hs
    · exact .inl (.inl hmem)
    · rw [hw] at hmem
      rcases List.mem_cons.1 hmem with rfl | hmem
      · exact .inl (.inr rfl)
      · exact .inr (.inl hmem)
    · exact .inr (.inr (withdrawn_move hm hs))

/-- A party joins the queue. -/
theorem joins (h : InOrder past u) (hm : u.Move m u') (hs : u.status? q = some (.waiting false))
    (hs' : u'.status? q = some (.waiting true)) (hc : u'.pool.chosen = u.pool.chosen)
    (hw : u'.pool.waiting = u.pool.waiting ++ [q]) (hq : q ∉ u.pool.waiting) :
    InOrder ((u, m) :: past) u' := by
  have hnew : q ∉ entrants (·.waiting) (moments past u) := by
    intro hmem
    obtain ⟨s, hs₁, hne⟩ := h.known q hmem
    rw [hs] at hs₁
    exact hne (Option.some.inj hs₁).symm
  have hsub : u'.pool.chosen.Sublist u.pool.chosen := by rw [hc]
  have hwaiting := entrants_of_append past m (f := (·.waiting)) (.refl _) hw hq
  have hchosen := entrants_of_sublist past m (f := (·.chosen)) hsub
  refine ⟨?_, ?_, fun p hp => ?_, fun hd p hp => ?_⟩
  · rw [hwaiting, hchosen, hw, ← List.append_assoc]
    exact h.sublist.append_right _
  · rw [hwaiting]
    exact List.concat_eq_append ▸ h.nodup.concat hnew
  · rw [hwaiting, List.mem_append, List.mem_singleton] at hp
    rcases hp with hp | rfl
    · exact h.known_move hm hp
    · exact ⟨_, hs', by simp⟩
  · rw [hwaiting, List.mem_append, List.mem_singleton] at hp
    rw [hchosen, hw, List.mem_append, List.mem_singleton]
    rcases hp with hp | rfl
    · rcases h.kept (draining_eq_false_of_move hm hd) p hp with hmem | hmem | hs
      · exact .inl hmem
      · exact .inr (.inl (.inl hmem))
      · exact .inr (.inr (withdrawn_move hm hs))
    · exact .inr (.inl (.inr rfl))

/-- **Every move keeps the order.** -/
theorem move (h : InOrder past u) (hseated : u.Seated limit) (hm : u.Move m u') :
    InOrder ((u, m) :: past) u' := by
  cases hm.queueMove with
  | shrinks hc hw hk => exact h.shrinks hm hc hw hk
  | hands q hc hc' hw =>
    refine h.hands hm hc hc' hw fun hmem => ?_
    have hline := hseated.balanced.nodup_line
    rw [Pool.line, List.nodup_append] at hline
    exact hline.2.2 q hmem q (hw ▸ List.mem_cons_self) rfl
  | joins q hs hs' hc hw =>
    refine h.joins hm hs hs' hc hw fun hmem => ?_
    exact hseated.not_mem_line hs (by simp) (List.mem_append_right _ hmem)

end InOrder

/-- Nobody has been passed over. -/
theorem History.inOrder (h : History limit past u) : InOrder past u :=
  History.of_move (P := InOrder) (.init limit) (fun _ _ _ _ h ho hm => ho.move h.seated hm) h

end PoolUsage

end StreamedInference
