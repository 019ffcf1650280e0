import StreamedInference.Proofs.Pool.Holders

/-!
# How slots change hands

A slot is taken in one move and given back in one move, and in no other move does the number of
taken slots change. What a party has taken and given back in the course of a run is read off the
history: nobody takes a slot twice, and nobody gives back what is not taken, or gives it back twice.

## Main definitions

* `PoolUsage.takes`, `PoolUsage.frees`: a party takes a slot in a move, or its slot comes back.
* `PoolUsage.SlotTurn`: what a move is for slots and those who hold them.

## Main results

* `PoolUsage.Seated.turn`: a move takes one slot, or gives one back, or does neither.
* `PoolUsage.History.countP_takes_eq`: what has been taken has come back, or is still held.
* `PoolUsage.History.countP_takes_le`: nobody takes a slot twice.
-/

namespace StreamedInference

namespace PoolUsage

variable {ι : Type} [DecidableEq ι] {limit : Nat} {u u' : PoolUsage ι} {past : Past ι}
  {m : PoolAction ι ⊕ PoolTask ι} {p q : ι} {s₀ s : PartyStatus} {pool : Pool ι}

/-! ### What happens to slots in a move -/

/-- A party takes a slot in a move: it asks for one and is admitted. -/
def takes (p : ι) (e : PoolUsage ι × (PoolAction ι ⊕ PoolTask ι)) : Bool :=
  match e.2 with
  | .inr (.party q) => q = p &&
    match e.1.status? p with
    | some (.waiting asked) => (e.1.pool.ask p asked).1 = .admitted
    | _ => false
  | _ => false

/-- The slot of a party comes back in a move: its holder gives it up, or the task on it ends. -/
def frees (p : ι) (e : PoolUsage ι × (PoolAction ι ⊕ PoolTask ι)) : Bool :=
  match e.2 with
  | .inl (.release q) => q = p && e.1.status? p = some .admitted
  | .inr (.party q) => q = p && e.1.holds p
  | _ => false

theorem takes_eq_false (hm : m ≠ .inr (.party p)) : takes p (u, m) = false := by
  cases m with
  | inl a => rfl
  | inr t =>
    cases t with
    | party q =>
      have hne : q ≠ p := fun h => hm (h ▸ rfl)
      simp [takes, hne]
    | drain k => rfl

theorem frees_eq_false (hr : m ≠ .inl (.release p)) (hm : m ≠ .inr (.party p)) :
    frees p (u, m) = false := by
  cases m with
  | inl a =>
    cases a with
    | release q =>
      have hne : q ≠ p := fun h => hr (h ▸ rfl)
      simp [frees, hne]
    | ask | cancel | spawn | background | stop | shutdown | advance => rfl
  | inr t =>
    cases t with
    | party q =>
      have hne : q ≠ p := fun h => hm (h ▸ rfl)
      simp [frees, hne]
    | drain k => rfl

/-- Who takes a slot has asked for it and been admitted. -/
theorem exists_ask_of_takes (ht : takes p (u, m) = true) : ∃ asked,
    u.status? p = some (.waiting asked) ∧ (u.pool.ask p asked).1 = .admitted := by
  unfold takes at ht
  dsimp only at ht
  split at ht
  · obtain ⟨-, ht⟩ := Bool.and_eq_true_iff.1 ht
    split at ht
    · exact ⟨_, ‹_›, of_decide_eq_true ht⟩
    · cases ht
  · cases ht

/-- A move is nothing to a party and its slot. -/
structure Bystands (u : PoolUsage ι) (m : PoolAction ι ⊕ PoolTask ι) (u' : PoolUsage ι) (q : ι) :
    Prop where
  holds_eq : u'.holds q = u.holds q
  takes_eq : takes q (u, m) = false
  frees_eq : frees q (u, m) = false

/-- What a move is for slots and those who hold them. -/
inductive SlotTurn (u : PoolUsage ι) (m : PoolAction ι ⊕ PoolTask ι) (u' : PoolUsage ι) : Prop
  | stays (hinflight : u'.pool.inflight = u.pool.inflight)
      (hspare : u'.pool.spare = u.pool.spare) (hrest : ∀ q, u.Bystands m u' q)
  | taken (p : ι) (ht : takes p (u, m) = true) (hf : frees p (u, m) = false)
      (hbefore : u.holds p = false) (hafter : u'.holds p = true)
      (hdraining : u.pool.draining = false) (hinflight : u'.pool.inflight = u.pool.inflight + 1)
      (hspare : u'.pool.spare + 1 = u.pool.spare) (hrest : ∀ q, q ≠ p → u.Bystands m u' q)
  | freed (p : ι) (hf : frees p (u, m) = true) (ht : takes p (u, m) = false)
      (hbefore : u.holds p = true) (hafter : u'.holds p = false)
      (hinflight : u'.pool.inflight + 1 = u.pool.inflight)
      (hspare : u'.pool.spare = u.pool.spare + 1) (hrest : ∀ q, q ≠ p → u.Bystands m u' q)

theorem holds_set (hs : u.status? p = some s₀) (s : PartyStatus) (pool : Pool ι) (q : ι) :
    ({ u.setStatus p s with pool := pool } : PoolUsage ι).holds q =
      if q = p then s.holdsSlot else u.holds q := by
  rw [holds, status?_set hs]
  split <;> rfl

theorem holds_concat (hs : u.status? p = none) (hh : s.holdsSlot = false) (pool : Pool ι)
    (q : ι) : ({ u with parties := u.parties ++ [(p, s)], pool := pool } : PoolUsage ι).holds q =
      u.holds q := by
  rw [holds, status?_concat hs]
  split
  · subst q
    rw [holds, hs]
    exact hh
  · rfl

theorem not_isNew_of_holds (hh : u.holds p = true) : ¬ PartyStatus.IsNew (u.status? p) := by
  intro hnew
  obtain ⟨s, hs, hholds⟩ := Option.any_eq_true _ _ |>.1 hh
  obtain ⟨asked, rfl⟩ := hnew s hs
  cases hholds

/-- The party that makes a move is none of the others. -/
theorem bystands_set (hs : u.status? p = some s₀) (hne : q ≠ p)
    (hr : ∀ r, m = .inl (.release r) → r = p) (hm : ∀ r, m = .inr (.party r) → r = p) :
    u.Bystands m { u.setStatus p s with pool := pool } q where
  holds_eq := by rw [holds_set hs, if_neg hne]
  takes_eq := takes_eq_false fun h => hne (hm q h)
  frees_eq := frees_eq_false (fun h => hne (hr q h)) fun h => hne (hm q h)

namespace SlotTurn

/-- No party takes a slot or gives one back. -/
theorem idle (hinflight : u'.pool.inflight = u.pool.inflight)
    (hspare : u'.pool.spare = u.pool.spare) (hholds : ∀ q, u'.holds q = u.holds q)
    (hr : ∀ q, m ≠ .inl (.release q)) (hm : ∀ q, m ≠ .inr (.party q)) : u.SlotTurn m u' :=
  .stays hinflight hspare fun q =>
    ⟨hholds q, takes_eq_false (hm q), frees_eq_false (hr q) (hm q)⟩

/-- A party goes on to something else without a slot changing hands. -/
theorem of_set (hs : u.status? p = some s₀) (hh : s.holdsSlot = s₀.holdsSlot)
    (hinflight : pool.inflight = u.pool.inflight) (hspare : pool.spare = u.pool.spare)
    (hr : ∀ q, m ≠ .inl (.release q)) (hm : ∀ q, m = .inr (.party q) → q = p)
    (ht : takes p (u, m) = false) (hf : frees p (u, m) = false) :
    u.SlotTurn m { u.setStatus p s with pool := pool } := by
  refine .stays hinflight hspare fun q => ?_
  by_cases hq : q = p
  · subst q
    refine ⟨?_, ht, hf⟩
    rw [holds_set hs, if_pos rfl, hh, holds_eq hs]
  · exact bystands_set hs hq (fun r h => absurd h (hr r)) hm

/-- Who takes a slot holds it then. -/
theorem holds_of_takes (h : u.SlotTurn m u') (ht : takes p (u, m) = true) :
    u'.holds p = true := by
  cases h with
  | stays _ _ hrest =>
    rw [(hrest p).takes_eq] at ht
    cases ht
  | taken q _ _ _ hafter _ _ _ hrest =>
    by_cases hq : p = q
    · exact hq ▸ hafter
    · rw [(hrest p hq).takes_eq] at ht
      cases ht
  | freed q _ hf _ _ _ _ hrest =>
    by_cases hq : p = q
    · rw [hq, hf] at ht
      cases ht
    · rw [(hrest p hq).takes_eq] at ht
      cases ht

end SlotTurn

/-- A party that waits has no slot to give back. -/
theorem frees_of_waiting {asked : Bool} (hs : u.status? p = some (.waiting asked)) :
    frees p (u, .inr (.party p)) = false := by
  simp [frees, holds_eq hs, PartyStatus.holdsSlot]

/-- A party that runs a task does not take a slot. -/
theorem takes_of_running {onSlot stopped : Bool} {ending : TaskEnd}
    (hs : u.status? p = some (.running onSlot ending stopped)) :
    takes p (u, .inr (.party p)) = false := by
  simp [takes, hs]

/-- A party that asks takes a slot if it is admitted. -/
theorem takes_of_ask {asked : Bool} (hs : u.status? p = some (.waiting asked))
    {answer : Admittance} (ha : u.pool.ask p asked = (answer, pool)) :
    takes p (u, .inr (.party p)) = decide (answer = .admitted) := by
  simp [takes, hs, ha]

/-- A slot comes back from the party that held it. -/
theorem Seated.turn_frees (h : u.Seated limit) (hs : u.status? p = some s₀)
    (hbefore : s₀.holdsSlot = true) (hafter : s.holdsSlot = false)
    (hslots : u.pool.release.SameSlots pool) (hf : frees p (u, m) = true)
    (ht : takes p (u, m) = false) (hr : ∀ q, m = .inl (.release q) → q = p)
    (hm : ∀ q, m = .inr (.party q) → q = p) :
    u.SlotTurn m { u.setStatus p s with pool := pool } := by
  have hpos := h.inflight_pos hs hbefore
  refine .freed p hf ht ((holds_eq hs).trans hbefore) ?_ ?_ ?_ fun q hne =>
    bystands_set hs hne hr hm
  · rw [holds_set hs, if_pos rfl, hafter]
  · have hinflight : pool.inflight = u.pool.inflight - 1 :=
      hslots.inflight_eq.trans u.pool.inflight_release
    have hgoal : pool.inflight + 1 = u.pool.inflight := by omega
    exact hgoal
  · exact hslots.spare_eq.trans u.pool.spare_release

/-- **A move takes one slot, or gives one back, or does neither.** -/
theorem Seated.turn (h : u.Seated limit) (hl : tasks.Leads act u m u') : u.SlotTurn m u' := by
  by_cases hrelease : ∃ p, m = .inl (.release p)
  · obtain ⟨p, rfl⟩ := hrelease
    obtain rfl : u' = u.act (.release p) := hl
    by_cases hs : u.status? p = some .admitted
    · have hact : u.act (.release p) = { u.setStatus p .released with pool := u.pool.release } := by
        simp [act, hs]
      rw [hact]
      refine h.turn_frees hs rfl rfl (.refl _) ?_ rfl (fun q hq => ?_) (by simp)
      · simp [frees, hs]
      · exact (PoolAction.release.inj (Sum.inl.inj hq)).symm
    · have hact : u.act (.release p) = u := by
        unfold act
        dsimp only
        split
        · exact absurd ‹_› hs
        · rfl
      rw [hact]
      refine .stays rfl rfl fun q => ⟨rfl, rfl, ?_⟩
      simp only [frees]
      by_cases hq : p = q
      · subst hq
        simp [hs]
      · simp [hq]
  · have hr : ∀ q, m ≠ .inl (.release q) := fun q hq => hrelease ⟨q, hq⟩
    have hself : ∀ {p : ι} (q : ι),
        (.inr (.party p) : PoolAction ι ⊕ PoolTask ι) = .inr (.party q) → q = p :=
      fun q hq => (PoolTask.party.inj (Sum.inr.inj hq)).symm
    cases move_of_leads hl with
    | rests => exact .idle rfl rfl (fun _ => rfl) hr (by simp)
    | joins hs => exact .idle rfl rfl (holds_concat hs rfl _) hr (by simp)
    | background hs => exact .idle rfl rfl (holds_concat hs rfl _) hr (by simp)
    | cancels hs =>
      exact .of_set hs rfl (u.pool.inflight_withdraw _) (u.pool.spare_withdraw _) hr (by simp)
        rfl rfl
    | releases => exact absurd rfl (hr _)
    | spawns hs => exact .of_set hs rfl rfl rfl hr (by simp) rfl rfl
    | stops hs =>
      have hinflight : u.pool.inflight = u.pool.inflight := rfl
      exact .of_set hs rfl hinflight rfl hr (by simp) rfl rfl
    | calls | advances => exact .idle rfl rfl (fun _ => rfl) hr (by simp)
    | @admits p asked pool hs ha =>
      have ht := takes_of_ask hs ha
      obtain ⟨hd, -, -, hinflight, hspare, -⟩ := (Pool.askMove_of_ask ha).takes
      refine .taken p (by simpa using ht) (frees_of_waiting hs) (holds_eq hs) ?_ hd hinflight hspare
        fun q hne => bystands_set hs hne (by simp) (hself)
      rw [holds_set hs, if_pos rfl]
      rfl
    | refuses hs ha =>
      obtain ⟨-, -, hinflight, hspare⟩ := (Pool.askMove_of_ask ha).stays (by simp)
      exact .of_set hs rfl hinflight hspare hr hself (takes_of_ask hs ha) (frees_of_waiting hs)
    | queues hs ha =>
      obtain ⟨-, -, hinflight, hspare⟩ := (Pool.askMove_of_ask ha).stays (by simp)
      exact .of_set hs rfl hinflight hspare hr hself (takes_of_ask hs ha) (frees_of_waiting hs)
    | @ends p onSlot stopped ending hs he =>
      have ht := takes_of_running hs
      have hf : frees p (u, .inr (.party p)) = onSlot := by
        simp [frees, holds_eq hs, PartyStatus.holdsSlot]
      cases onSlot with
      | false => exact .of_set hs rfl rfl rfl hr hself ht hf
      | true =>
        exact h.turn_frees hs rfl rfl u.pool.release.sameSlots_untrack hf ht (by simp) hself
    | drains hd =>
      rcases hd.slots_cases with hslots | ⟨-, hslots⟩
      · exact .idle hslots.inflight_eq hslots.spare_eq (fun _ => rfl) hr (by simp)
      · exact .idle hslots.inflight_eq hslots.spare_eq (fun _ => rfl) hr (by simp)

/-! ### What has been taken -/

/-- **What a party has taken has come back, or is still held.** -/
theorem History.countP_takes_eq (h : History limit past u) (p : ι) :
    past.countP (frees p) + (u.holds p).toNat = past.countP (takes p) := by
  refine Tasks.History.of_leads
    (P := fun past u => past.countP (frees p) + (u.holds p).toNat = past.countP (takes p)) rfl ?_ h
  intro past u u' m hpast ih hl
  rw [List.countP_cons, List.countP_cons]
  have hby : u.Bystands m u' p → past.countP (frees p) + (if frees p (u, m) then 1 else 0) +
      (u'.holds p).toNat = past.countP (takes p) + if takes p (u, m) then 1 else 0 := by
    rintro ⟨hholds, ht, hf⟩
    simp only [hholds, ht, hf]
    exact ih
  cases (History.seated hpast).turn hl with
  | stays _ _ hrest => exact hby (hrest p)
  | taken q ht hf hbefore hafter _ _ _ hrest =>
    by_cases hq : p = q
    · subst hq
      simp only [hbefore, hafter, ht, hf, Bool.toNat_false, Bool.toNat_true] at ih ⊢
      simpa using ih
    · exact hby (hrest p hq)
  | freed q hf ht hbefore hafter _ _ hrest =>
    by_cases hq : p = q
    · subst hq
      simp only [hbefore, hafter, ht, hf, Bool.toNat_false, Bool.toNat_true] at ih ⊢
      simpa using ih
    · exact hby (hrest p hq)

/-- Nobody takes a slot twice, and nobody has taken one who still asks. -/
theorem History.countP_takes_le (h : History limit past u) (p : ι) :
    past.countP (takes p) ≤ 1 ∧ (PartyStatus.IsNew (u.status? p) → past.countP (takes p) = 0) := by
  refine Tasks.History.of_leads (P := fun past u => past.countP (takes p) ≤ 1 ∧
    (PartyStatus.IsNew (u.status? p) → past.countP (takes p) = 0))
    ⟨Nat.zero_le _, fun _ => rfl⟩ ?_ h
  rintro past u u' m hpast ⟨hle, hnew⟩ hl
  rw [List.countP_cons]
  cases ht : takes p (u, m) with
  | false =>
    refine ⟨hle, fun hs' => ?_⟩
    exact hnew (((move_of_leads hl).passes p).isNew_of hs')
  | true =>
    obtain ⟨asked, hasked, -⟩ := exists_ask_of_takes ht
    have hnone : past.countP (takes p) = 0 := by
      refine hnew fun t hs => ⟨asked, ?_⟩
      rw [hasked] at hs
      exact (Option.some.inj hs).symm
    have hholds := ((History.seated hpast).turn hl).holds_of_takes ht
    refine ⟨?_, fun hs' => absurd hs' (not_isNew_of_holds hholds)⟩
    rw [hnone]
    exact Nat.le_refl _

end PoolUsage

end StreamedInference
