import StreamedInference.Proofs.Pool.Succession

/-!
# The accounts of a pool

All that is known of the slots of a pool put together: how many are taken and by whom, when somebody
has to wait for one, in which order they are handed over, what becomes of one that is forgone, and
that each comes back once.

## Main results

* `PoolUsage.Seated.full_of_blocked`: who has to wait finds no slot that is not spoken for.
* `PoolUsage.Seated.admits_chosen`: who has a slot set aside has only to take it.
* `PoolUsage.slots_accounted`: what holds of the slots of a pool at any time.
-/

namespace StreamedInference

namespace PoolUsage

variable {ι : Type} [DecidableEq ι] {limit : Nat} {u u' : PoolUsage ι} {past : Past ι} {p q : ι}

/-! ### Those who have to wait -/

/-- A party asks for a slot in its step, and goes by the answer. -/
theorem step?_of_waiting {asked : Bool} (hs : u.status? p = some (.waiting asked)) :
    u.step? (.party p) =
      match u.pool.ask p asked with
      | (.admitted, pool) => some { u.setStatus p .admitted with pool := pool }
      | (.refused, pool) => some { u.setStatus p .refused with pool := pool }
      | (.pending, pool) =>
        if asked then none else some { u.setStatus p (.waiting true) with pool := pool } := by
  have hstep : u.step? (.party p) = u.partyStep? p := rfl
  unfold partyStep? at hstep
  rw [hs] at hstep
  exact hstep

/-- Who has to wait finds all slots taken or set aside. -/
theorem Seated.full_of_blocked (h : u.Seated limit) (hd : u.pool.draining = false) {asked : Bool}
    (hs : u.status? p = some (.waiting asked)) (hstep : u.step? (.party p) = none) :
    u.pool.inflight + u.pool.chosen.length = limit := by
  rw [step?_of_waiting hs] at hstep
  have hask := u.pool.askMove_ask p asked
  generalize u.pool.ask p asked = r at hask hstep
  obtain ⟨answer, pool⟩ := r
  dsimp only at hask
  cases hask with
  | refused | called | found => cases hstep
  | queued _ _ ha =>
    subst ha
    cases hstep
  | waits _ hq ha =>
    subst ha
    have hline := h.mem_of_asked hd p hs
    have hp : p ∈ u.pool.waiting := (List.mem_append.1 hline).resolve_left hq
    have hfree : u.pool.free = 0 := by
      refine Nat.eq_zero_of_not_pos fun hpos => ?_
      rw [h.balanced.waiting_eq hpos] at hp
      cases hp
    have htotal := h.balanced.total
    have hlimit := h.limit_eq
    rw [Pool.spare, hfree] at htotal
    omega

/-- Who has a slot set aside has only to take it. -/
theorem Seated.admits_chosen (h : u.Seated limit) (hd : u.pool.draining = false)
    (hq : q ∈ u.pool.chosen) : ∃ u', u.step? (.party q) = some u' ∧ u'.holds q = true := by
  have hs := h.asked_of_mem q (List.mem_append_left _ hq)
  have hask : (u.pool.ask q true).1 = .admitted := (Pool.fst_ask_eq_admitted_iff hd).2 (.inl hq)
  rw [step?_of_waiting hs]
  generalize u.pool.ask q true = r at hask
  obtain ⟨answer, pool⟩ := r
  obtain rfl : answer = .admitted := hask
  refine ⟨_, rfl, ?_⟩
  rw [holds_set hs, if_pos rfl]
  rfl

theorem mem_present (hs : (u.status? p).isSome = true) : .party p ∈ tasks.present u := by
  obtain ⟨s, hs⟩ := Option.isSome_iff_exists.1 hs
  obtain ⟨e, he, rfl⟩ := List.mem_map.1 (mem_names hs)
  exact List.mem_append_left _ (List.mem_map_of_mem he)

/-- When nothing can go on by itself and somebody waits, all slots are taken. -/
theorem Seated.full_of_quiet (h : u.Seated limit) (hd : u.pool.draining = false) {asked : Bool}
    (hs : u.status? p = some (.waiting asked)) (hquiet : tasks.Quiet u) :
    u.pool.inflight = limit := by
  have hnone : u.pool.chosen = [] := by
    rw [List.eq_nil_iff_forall_not_mem]
    intro q hq
    obtain ⟨u', hstep, -⟩ := h.admits_chosen hd hq
    have hasked := h.asked_of_mem q (List.mem_append_left _ hq)
    have hblocked := hquiet _ (mem_present (Option.isSome_iff_exists.2 ⟨_, hasked⟩))
    have hnone : u.step? (.party q) = none := hblocked
    rw [hstep] at hnone
    cases hnone
  have hblocked := hquiet _ (mem_present (Option.isSome_iff_exists.2 ⟨_, hs⟩))
  have hfull := h.full_of_blocked hd hs hblocked
  rwa [hnone] at hfull

/-- Who takes a slot has had it set aside, or finds nobody waiting. -/
theorem Seated.chosen_or_of_takes (h : u.Seated limit)
    {m : PoolAction ι ⊕ PoolTask ι} (ht : takes p (u, m) = true) :
    p ∈ u.pool.chosen ∨ u.pool.waiting = [] := by
  obtain ⟨asked, -, hask⟩ := exists_ask_of_takes ht
  have hmove := u.pool.askMove_ask p asked
  rw [hask] at hmove
  generalize (u.pool.ask p asked).2 = pool at hmove
  cases hmove with
  | called _ hq => exact .inl hq
  | found _ _ _ hf => exact .inr (h.balanced.waiting_eq hf)

/-! ### Those who withdraw -/

theorem act_cancel {asked : Bool} (hs : u.status? p = some (.waiting asked)) :
    u.act (.cancel p) = { u.setStatus p .withdrawn with pool := u.pool.withdraw p } := by
  simp [act, hs]

theorem status?_of_cancel {asked : Bool} (hs : u.status? p = some (.waiting asked))
    {v : PoolUsage ι} (hv : tasks.Reachable act (u.act (.cancel p)) v) :
    v.status? p = some .withdrawn := by
  refine status?_of_isOver hv ?_ rfl
  rw [act_cancel hs, status?_set hs, if_pos rfl]

/-! ### All accounts -/

/-- **What holds of the slots of a pool at any time.** Take any run of a pool, with any bound on the
number of slots, any parties, tasks and shutdowns.

* The pool has counted those who hold a slot, and they are no more than there are slots.
* Until the pool drains, a party that asks and has to wait finds all slots taken, but for those that
  are set aside for others; each of these has only to take its own. So all slots are taken when
  nothing can go on by itself and somebody waits.
* Slots have been set aside for those who waited in the order in which they came, and those who wait
  are the last of these. Nobody has come twice. Until the pool drains, for each of them a slot has
  been set aside, or it waits, or it has withdrawn; and who takes a slot has had it set aside, or
  finds nobody waiting.
* A party that withdraws while it waits never comes to hold a slot. All others stay in line as they
  are, and so do the numbers of taken slots and of those not taken; a slot that was set aside for
  the party is set aside for the first of those who wait, or is free if nobody waits.
* Each slot that a party has taken has come back, or is still held by it; and nobody takes two.
* In any move that can be made a single slot is taken by a party that asks, or a single slot comes
  back, from a party that gives it up or of which the task ends, or nothing happens to slots. -/
theorem slots_accounted (h : History limit past u) :
    let chosen := entrants (·.chosen) (moments past u)
    let waiting := entrants (·.waiting) (moments past u)
    (u.pool.inflight = u.countOf (·.holdsSlot) ∧ u.pool.inflight ≤ limit) ∧
    (u.pool.draining = false → ∀ p asked, u.status? p = some (.waiting asked) →
      (u.step? (.party p) = none → u.pool.inflight + u.pool.chosen.length = limit ∧
        ∀ q ∈ u.pool.chosen, ∃ u', u.step? (.party q) = some u' ∧ u'.holds q = true) ∧
      (tasks.Quiet u → u.pool.inflight = limit)) ∧
    ((chosen ++ u.pool.waiting).Sublist waiting ∧ waiting.Nodup ∧
      (u.pool.draining = false → ∀ p ∈ waiting,
        p ∈ chosen ∨ p ∈ u.pool.waiting ∨ u.status? p = some .withdrawn) ∧
      (∀ p m, takes p (u, m) = true → p ∈ u.pool.chosen ∨ u.pool.waiting = [])) ∧
    (∀ p asked, u.status? p = some (.waiting asked) →
      (u.act (.cancel p)).pool.inflight = u.pool.inflight ∧
      (u.act (.cancel p)).pool.spare = u.pool.spare ∧
      (u.act (.cancel p)).pool.line = u.pool.line.erase p ∧
      (p ∈ u.pool.chosen → (u.act (.cancel p)).pool.chosen =
        u.pool.chosen.erase p ++ u.pool.waiting.head?.toList) ∧
      ∀ v, tasks.Reachable act (u.act (.cancel p)) v →
        p ∉ v.pool.line ∧ v.status? p = some .withdrawn ∧ v.holds p = false) ∧
    (∀ p, past.countP (frees p) + (u.holds p).toNat = past.countP (takes p) ∧
      past.countP (takes p) ≤ 1) ∧
    ∀ m u', tasks.Leads act u m u' → u.SlotTurn m u' := by
  intro chosen waiting
  have hseated := h.seated
  have horder := h.inOrder
  refine ⟨⟨hseated.inflight_eq, hseated.inflight_le⟩, fun hd p asked hs => ⟨fun hstep => ?_, ?_⟩,
    ⟨horder.sublist, horder.nodup, horder.kept, fun p m => hseated.chosen_or_of_takes⟩,
    fun p asked hs => ?_, fun p => ⟨h.countP_takes_eq p, (h.countP_takes_le p).1⟩,
    fun m u' => hseated.turn⟩
  · exact ⟨hseated.full_of_blocked hd hs hstep, fun q => hseated.admits_chosen hd⟩
  · exact hseated.full_of_quiet hd hs
  · have hact := act_cancel hs
    rw [hact]
    refine ⟨u.pool.inflight_withdraw p, u.pool.spare_withdraw p, u.pool.line_withdraw p,
      Pool.chosen_withdraw, fun v hv => ?_⟩
    have hwithdrawn := status?_of_cancel hs (hact ▸ hv)
    have hmove : tasks.Leads act u (.inl (.cancel p)) (u.act (.cancel p)) := rfl
    have hseated' : v.Seated limit :=
      (hact ▸ hv : tasks.Reachable act (u.act (.cancel p)) v).of_leads
        (hseated.move (move_of_leads hmove)) fun hs hl => hs.move (move_of_leads hl)
    exact ⟨hseated'.not_mem_line hwithdrawn nofun, hwithdrawn, holds_eq hwithdrawn⟩

/-- The only slot is taken while two parties come to wait for it; it is given up, and set aside for
the first of them. -/
def relay : Past Nat × PoolUsage Nat :=
  (tasks.follow? act [] { pool := .ofLimit 1 }
    [.inl (.ask 0), .inr (.party 0), .inl (.ask 1), .inr (.party 1), .inl (.ask 2),
      .inr (.party 2), .inl (.release 0)]).get (by decide +kernel)

theorem history_relay : History 1 relay.1 relay.2 := by
  have hfollow : tasks.follow? act [] { pool := .ofLimit 1 } _ = some relay :=
    (Option.some_get _).symm
  exact .follow .start hfollow

/-- The party for which the slot is set aside withdraws, and passes it on to the other. -/
theorem slots_accounted_of_relay : ∃ past, History 1 past relay.2 ∧ relay.2.pool.chosen = [1] ∧
    (relay.2.act (.cancel 1)).pool.chosen = [2] ∧
    (relay.2.act (.cancel 1)).pool.inflight = 0 ∧
    (∀ v, tasks.Reachable act (relay.2.act (.cancel 1)) v → v.holds 1 = false) ∧
    past.countP (frees 0) = 1 := by
  have hchosen : relay.2.pool.chosen = [1] := by decide +kernel
  have hwaiting : relay.2.pool.waiting = [2] := by decide +kernel
  have hinflight : relay.2.pool.inflight = 0 := by decide +kernel
  have hs : relay.2.status? 1 = some (.waiting true) := by decide +kernel
  have hholds : relay.2.holds 0 = false := by decide +kernel
  have htakes : relay.1.countP (takes 0) = 1 := by decide +kernel
  obtain ⟨-, -, -, hcancel, hcount, -⟩ := slots_accounted history_relay
  obtain ⟨hsame, -, -, hpass, hlater⟩ := hcancel 1 true hs
  obtain ⟨heq, -⟩ := hcount 0
  refine ⟨relay.1, history_relay, hchosen, ?_, hsame.trans hinflight, ?_, ?_⟩
  · rw [hpass (by simp [hchosen]), hchosen, hwaiting]
    rfl
  · exact fun v hv => (hlater v hv).2.2
  · rw [hholds, htakes] at heq
    exact heq

end PoolUsage

end StreamedInference
