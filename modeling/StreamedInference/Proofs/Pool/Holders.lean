import StreamedInference.Proofs.Pool.Outcome
import StreamedInference.Proofs.Pool.Slots
import StreamedInference.Proofs.Scheduling.Directory

/-!
# The holders of slots

A party holds a slot from the moment it is admitted until it gives the slot up or the task that it
runs on it has ended. The pool counts the holders without knowing them, and those who stand in its
line are those who have asked for a slot and are not yet answered.

## Main definitions

* `PartyStatus.holdsSlot`, `PoolUsage.holds`: who holds a slot.
* `PartyStatus.Passes`: what can become of a party in a move.
* `PoolUsage.Seated`: the pool has counted those who hold a slot, and knows those who wait for one.

## Main results

* `PoolUsage.Move.passes`: parties pass in no other ways.
* `PoolUsage.status?_of_isOver`: what is over for a party stays so.
* `PoolUsage.Seated.move`, `PoolUsage.History.seated`: the pool has the count at any time.
-/

namespace StreamedInference

namespace PartyStatus

/-- The party holds a slot: it has been admitted, or it runs a task on its slot. -/
def holdsSlot : PartyStatus → Bool
  | .admitted => true
  | .running onSlot _ _ => onSlot
  | _ => false

/-- What can become of a party in a move. -/
inductive Passes : Option PartyStatus → Option PartyStatus → Prop
  | rests (s : Option PartyStatus) : Passes s s
  | comes : Passes none (some (.waiting false))
  | begins : Passes none (some (.running false .stop false))
  | queues : Passes (some (.waiting false)) (some (.waiting true))
  | admitted (asked : Bool) : Passes (some (.waiting asked)) (some .admitted)
  | refused (asked : Bool) : Passes (some (.waiting asked)) (some .refused)
  | withdraws (asked : Bool) : Passes (some (.waiting asked)) (some .withdrawn)
  | releases : Passes (some .admitted) (some .released)
  | spawns (ending : TaskEnd) : Passes (some .admitted) (some (.running true ending false))
  | stops (onSlot stopped : Bool) :
      Passes (some (.running onSlot .stop stopped)) (some (.running onSlot .stop true))
  | ends (onSlot : Bool) (ending : TaskEnd) (stopped : Bool) :
      Passes (some (.running onSlot ending stopped)) (some .done)

/-- Nothing becomes of a party any more. -/
def isOver : PartyStatus → Bool
  | .refused | .withdrawn | .released | .done => true
  | _ => false

theorem Passes.eq_of_isOver {s : PartyStatus} {s' : Option PartyStatus} (h : Passes (some s) s')
    (hs : s.isOver = true) : s' = some s := by
  cases h with
  | rests => rfl
  | queues | admitted | refused | withdraws | releases | spawns | stops | ends => cases hs

/-- The party has not come yet, or still asks for a slot. -/
def IsNew (s : Option PartyStatus) : Prop :=
  ∀ t ∈ s, ∃ asked, t = .waiting asked

/-- Nobody begins anew. -/
theorem Passes.isNew_of {s s' : Option PartyStatus} (h : Passes s s') (hs' : IsNew s') :
    IsNew s := by
  cases h with
  | rests => exact hs'
  | comes | begins => exact nofun
  | queues | admitted asked | refused asked | withdraws asked =>
    rintro t ⟨⟩
    exact ⟨_, rfl⟩
  | releases | spawns | stops | ends =>
    obtain ⟨asked, hasked⟩ := hs' _ rfl
    cases hasked

end PartyStatus

namespace PoolUsage

variable {ι : Type} [DecidableEq ι] {limit : Nat} {u u' : PoolUsage ι} {past : Past ι}
  {m : PoolAction ι ⊕ PoolTask ι} {p q : ι} {s₀ s : PartyStatus} {pool : Pool ι}

/-! ### What parties are doing -/

theorem status?_set (hs : u.status? p = some s₀) (s : PartyStatus) (pool : Pool ι) (q : ι) :
    ({ u.setStatus p s with pool := pool } : PoolUsage ι).status? q =
      if q = p then some s else u.status? q := by
  simp only [status?] at hs ⊢
  simp [setStatus, lookup_replace, hs]

theorem status?_concat (hs : u.status? p = none) (s : PartyStatus) (pool : Pool ι) (q : ι) :
    ({ u with parties := u.parties ++ [(p, s)], pool := pool } : PoolUsage ι).status? q =
      if q = p then some s else u.status? q :=
  lookup_concat hs q s

theorem mem_names (hs : u.status? p = some s) : p ∈ u.names := by
  by_contra hp
  have hnone : u.parties.lookup p = none := by
    rw [List.lookup_eq_none_iff]
    intro e he
    have hne : p ≠ e.1 := fun h => hp (h ▸ List.mem_map_of_mem he)
    simpa using hne
  rw [status?, hnone] at hs
  cases hs

/-- A move that leads from one state to another is one of those that can happen. -/
theorem move_of_leads (h : tasks.Leads act u m u') : u.Move m u' := by
  cases m with
  | inl a =>
    obtain rfl : u' = u.act a := h
    exact move_act u a
  | inr t => exact move_of_step? h

/-- **Parties pass in no other ways.** -/
theorem Move.passes (hm : u.Move m u') (q : ι) :
    PartyStatus.Passes (u.status? q) (u'.status? q) := by
  -- Only the party that makes the move can begin to do something else.
  have hset : ∀ {p : ι} {s₀ s : PartyStatus} {pool : Pool ι}, u.status? p = some s₀ →
      PartyStatus.Passes (some s₀) (some s) →
        PartyStatus.Passes (u.status? q)
          (({ u.setStatus p s with pool := pool } : PoolUsage ι).status? q) := by
    intro p s₀ s pool hs hpasses
    rw [status?_set hs]
    split
    · subst q
      exact hs ▸ hpasses
    · exact .rests _
  have hconcat : ∀ {p : ι} {s : PartyStatus} {pool : Pool ι}, u.status? p = none →
      PartyStatus.Passes none (some s) →
        PartyStatus.Passes (u.status? q)
          (status? { u with parties := u.parties ++ [(p, s)], pool := pool } q) := by
    intro p s pool hs hpasses
    rw [status?_concat hs]
    split
    · subst q
      exact hs ▸ hpasses
    · exact .rests _
  cases hm with
  | rests | calls | advances | drains => exact .rests _
  | joins hs => exact hconcat hs .comes
  | background hs => exact hconcat hs .begins
  | cancels hs => exact hset hs (.withdraws _)
  | releases hs => exact hset hs .releases
  | spawns hs => exact hset hs (.spawns _)
  | stops hs => exact hset hs (.stops _ _)
  | admits hs => exact hset hs (.admitted _)
  | refuses hs => exact hset hs (.refused _)
  | queues hs => exact hset hs .queues
  | ends hs => exact hset hs (.ends _ _ _)

/-- What is over for a party stays so, whatever happens. -/
theorem status?_of_isOver (h : tasks.Reachable act u u') (hs : u.status? p = some s)
    (ho : s.isOver = true) : u'.status? p = some s :=
  h.of_leads (P := fun v => v.status? p = some s) hs fun ih hleads =>
    (ih ▸ (move_of_leads hleads).passes p).eq_of_isOver ho

/-! ### The count -/

/-- The party holds a slot. -/
def holds (u : PoolUsage ι) (p : ι) : Bool :=
  (u.status? p).any (·.holdsSlot)

theorem holds_eq (hs : u.status? p = some s) : u.holds p = s.holdsSlot := by
  rw [holds, hs]
  rfl

/-- The pool has counted those who hold a slot. Those who stand in its line have asked for a slot
and wait; until it drains, all who do so stand in the line. -/
structure Seated (limit : Nat) (u : PoolUsage ι) : Prop where
  counted : u.Counted
  balanced : u.pool.Balanced
  limit_eq : u.pool.limit = limit
  inflight_eq : u.pool.inflight = u.countOf (·.holdsSlot)
  asked_of_mem : ∀ p ∈ u.pool.line, u.status? p = some (.waiting true)
  mem_of_asked : u.pool.draining = false →
    ∀ p, u.status? p = some (.waiting true) → p ∈ u.pool.line

namespace Seated

omit [DecidableEq ι] in
/-- Where nobody has come yet. -/
theorem init [DecidableEq ι] (limit : Nat) :
    Seated limit ({ pool := .ofLimit limit } : PoolUsage ι) where
  counted := .init limit
  balanced := ⟨rfl, fun _ => rfl, List.nodup_nil⟩
  limit_eq := rfl
  inflight_eq := rfl
  asked_of_mem _ hp := nomatch hp
  mem_of_asked _ _ hp := nomatch hp

theorem inflight_le (h : u.Seated limit) : u.pool.inflight ≤ limit := by
  have htotal := h.balanced.total
  have hlimit := h.limit_eq
  omega

theorem inflight_pos (h : u.Seated limit) (hs : u.status? p = some s₀)
    (hh : s₀.holdsSlot = true) : 0 < u.pool.inflight := by
  have hcount := countOf_setStatus h.counted.nodup_names hs .done (·.holdsSlot)
  have hone : s₀.holdsSlot.toNat = 1 := by rw [hh]; rfl
  have hnone : PartyStatus.done.holdsSlot.toNat = 0 := rfl
  have hinflight := h.inflight_eq
  omega

theorem not_mem_line (h : u.Seated limit) (hs : u.status? p = some s₀)
    (hne : s₀ ≠ .waiting true) : p ∉ u.pool.line := by
  intro hp
  rw [h.asked_of_mem p hp] at hs
  exact hne (Option.some.inj hs).symm

/-- A party begins to do something else: the pool is told if it comes to hold a slot or holds it no
longer, and if it joins the line or leaves it. -/
theorem set (h : u.Seated limit) (hs : u.status? p = some s₀)
    (hcounted : Counted { u.setStatus p s with pool := pool }) (hbalanced : pool.Balanced)
    (hlimit : pool.limit = u.pool.limit)
    (hinflight : pool.inflight + s₀.holdsSlot.toNat = u.pool.inflight + s.holdsSlot.toNat)
    (hself : p ∈ pool.line → s = .waiting true)
    (hline : ∀ q ∈ pool.line, q ≠ p → q ∈ u.pool.line)
    (hmem : pool.draining = false → u.pool.draining = false ∧
      (s = .waiting true → p ∈ pool.line) ∧ ∀ q ∈ u.pool.line, q ≠ p → q ∈ pool.line) :
    Seated limit { u.setStatus p s with pool := pool } where
  counted := hcounted
  balanced := hbalanced
  limit_eq := hlimit.trans h.limit_eq
  inflight_eq := by
    have hcount := countOf_setStatus h.counted.nodup_names hs s (·.holdsSlot)
    have hbefore := h.inflight_eq
    have hgoal : pool.inflight = (u.setStatus p s).countOf (·.holdsSlot) := by omega
    exact hgoal
  asked_of_mem q hq := by
    rw [status?_set hs]
    split
    · subst q
      exact congrArg some (hself hq)
    · exact h.asked_of_mem q (hline q hq ‹_›)
  mem_of_asked hd q hq := by
    obtain ⟨hd', hp, hothers⟩ := hmem hd
    rw [status?_set hs] at hq
    split at hq
    · subst q
      exact hp (Option.some.inj hq)
    · exact hothers q (h.mem_of_asked hd' q hq) ‹_›

/-- A party that does not stand in the line begins to do something else that is not to wait. -/
theorem goesOn (h : u.Seated limit) (hs : u.status? p = some s₀)
    (hcounted : Counted { u.setStatus p s with pool := pool }) (hbalanced : pool.Balanced)
    (hlimit : pool.limit = u.pool.limit) (hline : pool.line = u.pool.line)
    (hdraining : pool.draining = u.pool.draining)
    (hinflight : pool.inflight + s₀.holdsSlot.toNat = u.pool.inflight + s.holdsSlot.toNat)
    (hbefore : s₀ ≠ .waiting true) (hafter : s ≠ .waiting true) :
    Seated limit { u.setStatus p s with pool := pool } := by
  refine h.set hs hcounted hbalanced hlimit hinflight (fun hp => ?_) (fun q hq _ => hline ▸ hq)
    fun hd => ⟨hdraining ▸ hd, fun he => absurd he hafter, fun q hq _ => hline ▸ hq⟩
  exact absurd (hline ▸ hp) (h.not_mem_line hs hbefore)

/-- A party comes in. -/
theorem concat (h : u.Seated limit) (hs : u.status? p = none)
    (hcounted : Counted { u with parties := u.parties ++ [(p, s)], pool := pool })
    (hslots : u.pool.SameSlots pool) (hdraining : pool.draining = u.pool.draining)
    (hholds : s.holdsSlot = false) (hafter : s ≠ .waiting true) :
    Seated limit { u with parties := u.parties ++ [(p, s)], pool := pool } where
  counted := hcounted
  balanced := hslots.balanced h.balanced
  limit_eq := hslots.limit_eq.trans h.limit_eq
  inflight_eq := by
    have hinflight := h.inflight_eq
    simp only [countOf] at hinflight ⊢
    rw [List.countP_append, hslots.inflight_eq, hinflight, List.countP_singleton, hholds]
    rfl
  asked_of_mem q hq := by
    have hasked := h.asked_of_mem q (hslots.line_eq ▸ hq)
    rw [status?_concat hs, if_neg ?_, hasked]
    rintro rfl
    rw [hs] at hasked
    cases hasked
  mem_of_asked hd q hq := by
    rw [status?_concat hs] at hq
    split at hq
    · exact absurd (Option.some.inj hq) hafter
    · exact hslots.line_eq ▸ h.mem_of_asked (hdraining ▸ hd) q hq

/-- Parties go on with what they are doing, while slots and queue stay as they are. -/
theorem of_sameSlots (h : u.Seated limit) {log : List LogEvent}
    (hcounted : Counted { u with pool := pool, log := log }) (hslots : u.pool.SameSlots pool)
    (hdraining : pool.draining = false → u.pool.draining = false) :
    Seated limit { u with pool := pool, log := log } where
  counted := hcounted
  balanced := hslots.balanced h.balanced
  limit_eq := hslots.limit_eq.trans h.limit_eq
  inflight_eq := hslots.inflight_eq.trans h.inflight_eq
  asked_of_mem q hq := h.asked_of_mem q (hslots.line_eq ▸ hq)
  mem_of_asked hd q hq := hslots.line_eq ▸ h.mem_of_asked (hdraining hd) q hq

/-- Those who wait are sent away when the pool begins to drain. -/
theorem clears (h : u.Seated limit) {log : List LogEvent}
    (hcounted : Counted { u with pool := pool, log := log }) (hd : pool.draining = true)
    (hslots : ({ u.pool with waiting := [] } : Pool ι).SameSlots pool) :
    Seated limit { u with pool := pool, log := log } where
  counted := hcounted
  balanced := by
    have hnodup := h.balanced.nodup_line.sublist (List.sublist_append_left _ u.pool.waiting)
    refine hslots.balanced ⟨h.balanced.total, fun _ => rfl, ?_⟩
    rwa [Pool.line, List.append_nil]
  limit_eq := hslots.limit_eq.trans h.limit_eq
  inflight_eq := hslots.inflight_eq.trans h.inflight_eq
  asked_of_mem q hq := by
    rw [hslots.line_eq, Pool.line, List.append_nil] at hq
    exact h.asked_of_mem q (List.mem_append_left _ hq)
  mem_of_asked hd' := by simp [hd] at hd'

/-- A party leaves the line, if it stands there, without having come to a slot. -/
theorem withdraws (h : u.Seated limit) {asked : Bool} (hs : u.status? p = some (.waiting asked))
    (hcounted : Counted { u.setStatus p s with pool := u.pool.withdraw p })
    (hholds : s.holdsSlot = false) (hafter : s ≠ .waiting true) :
    Seated limit { u.setStatus p s with pool := u.pool.withdraw p } := by
  have hline : (u.pool.withdraw p).line = u.pool.line.erase p := u.pool.line_withdraw p
  refine h.set hs hcounted (h.balanced.withdraw p) (u.pool.limit_withdraw p) ?_ (fun hp => ?_)
    (fun q hq _ => ?_) fun hd => ⟨?_, fun he => absurd he hafter, fun q hq hne => ?_⟩
  · rw [u.pool.inflight_withdraw, hholds]
    rfl
  · exact absurd hp (h.balanced.not_mem_line_withdraw p)
  · exact List.mem_of_mem_erase (hline ▸ hq)
  · exact (u.pool.keeps_withdraw p).draining_eq ▸ hd
  · exact hline ▸ (List.mem_erase_of_ne hne).2 hq

/-- A party that asks comes to hold a slot, and leaves the line if it stands there. -/
theorem admits (h : u.Seated limit) {asked : Bool} (hs : u.status? p = some (.waiting asked))
    (hcounted : Counted { u.setStatus p .admitted with pool := pool })
    (hask : u.pool.AskMove p asked .admitted pool) :
    Seated limit { u.setStatus p .admitted with pool := pool } := by
  obtain ⟨hd, hd', hlimit, hinflight, -, hwaiting, hchosen⟩ := hask.takes
  have hbalanced : pool.Balanced := by
    refine h.balanced.ask (fun ha => ?_) hask
    exact h.not_mem_line hs (by simp [ha])
  have hline : ∀ q, q ≠ p → (q ∈ pool.line ↔ q ∈ u.pool.line) := by
    intro q hne
    simp only [Pool.line, hwaiting, hchosen, List.mem_append, List.mem_erase_of_ne hne]
  refine h.set hs hcounted hbalanced hlimit ?_ (fun hp => ?_) (fun q hq hne => (hline q hne).1 hq)
    fun _ => ⟨hd, by simp, fun q hq hne => (hline q hne).2 hq⟩
  · rw [hinflight]
    rfl
  · exfalso
    have hnodup := h.balanced.nodup_line
    rw [Pool.line, List.nodup_append] at hnodup
    obtain ⟨hchosen', -, hdisjoint⟩ := hnodup
    rw [Pool.line, hwaiting, hchosen, List.mem_append] at hp
    cases hask with
    | called _ hq =>
      rcases hp with hp | hp
      · exact hchosen'.not_mem_erase hp
      · exact hdisjoint p hq p hp rfl
    | found _ hq ha =>
      refine h.not_mem_line hs (by simp [ha]) (List.mem_append.2 (hp.imp_left ?_))
      exact List.mem_of_mem_erase

/-- A party that finds no slot joins the queue. -/
theorem queues (h : u.Seated limit) (hs : u.status? p = some (.waiting false))
    (hcounted : Counted { u.setStatus p (.waiting true) with pool := pool })
    (hask : u.pool.AskMove p false .pending pool) :
    Seated limit { u.setStatus p (.waiting true) with pool := pool } := by
  have hp : p ∉ u.pool.line := h.not_mem_line hs nofun
  have hbalanced : pool.Balanced := h.balanced.ask (fun _ => hp) hask
  cases hask with
  | queued hd hq ha hf =>
    have hline : ∀ q, q ∈ ({ u.pool with waiting := u.pool.waiting ++ [p] } : Pool ι).line ↔
        q ∈ u.pool.line ∨ q = p := by
      intro q
      simp only [Pool.line, List.mem_append, List.mem_singleton, or_assoc]
    refine h.set hs hcounted hbalanced rfl rfl (fun _ => rfl)
      (fun q hq hne => ((hline q).1 hq).resolve_right hne)
      fun _ => ⟨hd, fun _ => (hline p).2 (.inr rfl), fun q hq _ => (hline q).2 (.inl hq)⟩
  | waits _ _ ha => cases ha

/-- **Every move keeps the count.** -/
theorem move (h : u.Seated limit) (hm : u.Move m u') : u'.Seated limit := by
  have hcounted := h.counted.move hm
  cases hm with
  | rests => exact h
  | joins hs => exact h.concat hs hcounted (.refl _) rfl rfl nofun
  | background hs => exact h.concat hs hcounted u.pool.sameSlots_track rfl rfl nofun
  | cancels hs => exact h.withdraws hs hcounted rfl nofun
  | @releases p hs =>
    have hpos := h.inflight_pos hs rfl
    refine h.goesOn hs hcounted (h.balanced.release hpos) u.pool.limit_release u.pool.line_release
      u.pool.keeps_release.draining_eq ?_ nofun nofun
    have hinflight := u.pool.inflight_release
    simp only [PartyStatus.holdsSlot, Bool.toNat_true, Bool.toNat_false]
    omega
  | spawns hs =>
    have hslots := u.pool.sameSlots_track
    exact h.goesOn hs hcounted (hslots.balanced h.balanced) rfl rfl rfl rfl nofun nofun
  | stops hs => exact h.goesOn hs hcounted h.balanced rfl rfl rfl rfl nofun nofun
  | calls grace => exact h.of_sameSlots hcounted (u.pool.sameSlots_shutdown grace) id
  | advances ms => exact h.of_sameSlots hcounted (u.pool.sameSlots_advance ms) id
  | admits hs ha => exact h.admits hs hcounted (Pool.askMove_of_ask ha)
  | refuses hs ha =>
    cases Pool.askMove_of_ask ha with
    | refused => exact h.withdraws hs hcounted rfl nofun
  | queues hs ha => exact h.queues hs hcounted (Pool.askMove_of_ask ha)
  | @ends p onSlot stopped ending hs he =>
    cases onSlot with
    | false =>
      have hslots := u.pool.sameSlots_untrack
      exact h.goesOn hs hcounted (hslots.balanced h.balanced) rfl rfl rfl rfl nofun nofun
    | true =>
      have hpos := h.inflight_pos hs rfl
      have hslots := u.pool.release.sameSlots_untrack
      have hinflight := u.pool.inflight_release
      refine h.goesOn hs hcounted (hslots.balanced (h.balanced.release hpos)) u.pool.limit_release
        u.pool.line_release u.pool.keeps_release.draining_eq ?_ nofun nofun
      have hrelease : u.pool.release.untrack.inflight = u.pool.inflight - 1 := hinflight
      simp only [if_true, hrelease, PartyStatus.holdsSlot, Bool.toNat_true, Bool.toNat_false]
      omega
  | drains hd =>
    rcases hd.slots_cases with hslots | ⟨hdraining, hslots⟩
    · refine h.of_sameSlots hcounted hslots fun hf => ?_
      refine Bool.eq_false_iff.2 fun ht => ?_
      exact Bool.eq_false_iff.1 hf (hd.draining_of ht)
    · exact h.clears hcounted hdraining hslots

end Seated

/-- The pool has the count at any time. -/
theorem History.seated (h : History limit past u) : u.Seated limit :=
  History.of_move (P := fun _ u => u.Seated limit) (.init limit) (fun _ _ _ _ _ hs hm => hs.move hm)
    h

end PoolUsage

end StreamedInference
