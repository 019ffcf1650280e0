import Mathlib.Data.List.Nodup
import StreamedInference.Proofs.Pool.Signals

/-!
# The slots of a pool

A slot is free, set aside for somebody, or taken, and none is lost between these. Those for whom a
slot is set aside and those who wait behind them stand in one line: a slot that comes back lets the
line as it is, and only tells one more of those in it that they may go on.

## Main definitions

* `Pool.spare`: the slots that are not taken.
* `Pool.line`: those who are to have a slot, in their order.
* `Pool.Balanced`: no slot is lost, and none is free while somebody waits.
* `Pool.SameSlots`: slots and queue are the same.
* `Pool.AskMove`: what can come of asking for a slot.

## Main results

* `Pool.line_giveBack`, `Pool.line_withdraw`: what becomes of the line.
* `Pool.spare_release`, `Pool.spare_withdraw`: what becomes of the slots.
* `Pool.askMove_ask`: asking comes to nothing else.
* `Pool.Balanced.ask`, `Pool.Balanced.withdraw`, `Pool.Balanced.release`: the balance is kept.
-/

namespace StreamedInference

namespace Pool

variable {ι : Type} {p p' p'' : Pool ι} {q : ι} {again : Bool}

/-- The slots that are not taken: they are free, or set aside for somebody. -/
def spare (p : Pool ι) : Nat :=
  p.free + p.chosen.length

/-- Those for whom a slot is set aside, and behind them those who wait. -/
def line (p : Pool ι) : List ι :=
  p.chosen ++ p.waiting

/-- No slot is lost, nobody waits while a slot is free, and nobody stands in the line twice. -/
structure Balanced (p : Pool ι) : Prop where
  total : p.spare + p.inflight = p.limit
  waiting_eq : 0 < p.free → p.waiting = []
  nodup_line : p.line.Nodup

/-- Two pools have the same slots and the same queue for them. -/
structure SameSlots (p p' : Pool ι) : Prop where
  limit_eq : p'.limit = p.limit
  free_eq : p'.free = p.free
  chosen_eq : p'.chosen = p.chosen
  waiting_eq : p'.waiting = p.waiting
  inflight_eq : p'.inflight = p.inflight

namespace SameSlots

theorem refl (p : Pool ι) : p.SameSlots p :=
  ⟨rfl, rfl, rfl, rfl, rfl⟩

theorem spare_eq (h : p.SameSlots p') : p'.spare = p.spare := by
  rw [spare, h.free_eq, h.chosen_eq, spare]

theorem line_eq (h : p.SameSlots p') : p'.line = p.line := by
  rw [line, h.chosen_eq, h.waiting_eq, line]

theorem balanced (h : p.SameSlots p') (hp : p.Balanced) : p'.Balanced where
  total := by rw [h.spare_eq, h.inflight_eq, h.limit_eq, hp.total]
  waiting_eq hf := h.waiting_eq.trans (hp.waiting_eq (h.free_eq ▸ hf))
  nodup_line := h.line_eq ▸ hp.nodup_line

end SameSlots

theorem sameSlots_track (p : Pool ι) : p.SameSlots p.track :=
  ⟨rfl, rfl, rfl, rfl, rfl⟩

theorem sameSlots_untrack (p : Pool ι) : p.SameSlots p.untrack :=
  ⟨rfl, rfl, rfl, rfl, rfl⟩

theorem sameSlots_shutdown (p : Pool ι) (grace : Nat) : p.SameSlots (p.shutdown grace) :=
  ⟨rfl, rfl, rfl, rfl, rfl⟩

theorem sameSlots_advance (p : Pool ι) (ms : Nat) : p.SameSlots (p.advance ms) :=
  ⟨rfl, rfl, rfl, rfl, rfl⟩

/-- A shutdown sends away those who wait when it begins, and does nothing else to slots. -/
theorem DrainMove.slots_cases {k : Nat} (h : p.DrainMove k p') :
    p.SameSlots p' ∨ p'.draining = true ∧ ({ p with waiting := [] } : Pool ι).SameSlots p' := by
  cases h with
  | begins => exact .inr ⟨rfl, rfl, rfl, rfl, rfl, rfl⟩
  | cleans | forces | ends | abandons => exact .inl ⟨rfl, rfl, rfl, rfl, rfl⟩

/-! ### Slots that come back -/

@[simp] theorem limit_giveBack (p : Pool ι) : p.giveBack.limit = p.limit := by
  unfold giveBack
  split <;> rfl

@[simp] theorem inflight_giveBack (p : Pool ι) : p.giveBack.inflight = p.inflight := by
  unfold giveBack
  split <;> rfl

@[simp] theorem waiting_giveBack (p : Pool ι) : p.giveBack.waiting = p.waiting.tail := by
  unfold giveBack
  split <;> simp [*]

@[simp] theorem chosen_giveBack (p : Pool ι) :
    p.giveBack.chosen = p.chosen ++ p.waiting.head?.toList := by
  unfold giveBack
  split <;> simp [*]

@[simp] theorem spare_giveBack (p : Pool ι) : p.giveBack.spare = p.spare + 1 := by
  unfold giveBack spare
  split <;> simp <;> omega

/-- A slot that comes back does not change the line. -/
@[simp] theorem line_giveBack (p : Pool ι) : p.giveBack.line = p.line := by
  unfold giveBack line
  split <;> simp [*]

/-- A slot that was missing comes back. -/
theorem balanced_giveBack (htotal : p.spare + 1 + p.inflight = p.limit)
    (hwaiting : 0 < p.free → p.waiting = []) (hline : p.line.Nodup) : p.giveBack.Balanced where
  total := by rw [spare_giveBack, inflight_giveBack, limit_giveBack, htotal]
  waiting_eq hf := by
    rw [waiting_giveBack]
    cases hw : p.waiting with
    | nil => rfl
    | cons r waiting =>
      -- The slot has been set aside, so that none is free.
      have hfree : p.giveBack.free = p.free := by simp [giveBack, hw]
      have hnil := hwaiting (hfree ▸ hf)
      rw [hw] at hnil
      cases hnil
  nodup_line := (line_giveBack p).symm ▸ hline

@[simp] theorem limit_release (p : Pool ι) : p.release.limit = p.limit :=
  limit_giveBack _

@[simp] theorem inflight_release (p : Pool ι) : p.release.inflight = p.inflight - 1 :=
  inflight_giveBack _

@[simp] theorem spare_release (p : Pool ι) : p.release.spare = p.spare + 1 :=
  spare_giveBack _

@[simp] theorem line_release (p : Pool ι) : p.release.line = p.line :=
  line_giveBack _

theorem Balanced.release (h : p.Balanced) (hpos : 0 < p.inflight) : p.release.Balanced := by
  have htotal : p.spare + 1 + (p.inflight - 1) = p.limit := by
    have h := h.total
    omega
  exact balanced_giveBack htotal h.waiting_eq h.nodup_line

/-! ### Parties that withdraw -/

variable [DecidableEq ι]

@[simp] theorem limit_withdraw (p : Pool ι) (q : ι) : (p.withdraw q).limit = p.limit := by
  unfold withdraw
  split <;> simp

@[simp] theorem inflight_withdraw (p : Pool ι) (q : ι) :
    (p.withdraw q).inflight = p.inflight := by
  unfold withdraw
  split <;> simp

@[simp] theorem spare_withdraw (p : Pool ι) (q : ι) : (p.withdraw q).spare = p.spare := by
  unfold withdraw
  split
  · have hlength := List.length_erase_add_one (List.contains_iff_mem.1 ‹_›)
    rw [spare_giveBack]
    simp only [spare]
    omega
  · rfl

/-- Who withdraws leaves the line, and the others stay in it as they are. -/
@[simp] theorem line_withdraw (p : Pool ι) (q : ι) : (p.withdraw q).line = p.line.erase q := by
  unfold withdraw
  split
  · have hq : q ∈ p.chosen := List.contains_iff_mem.1 ‹_›
    rw [line_giveBack, line, line, List.erase_append_left _ hq]
  · rename_i hq
    have hq : q ∉ p.chosen := fun h => hq (List.contains_iff_mem.2 h)
    rw [line, line, List.erase_append_right _ hq]

theorem Balanced.not_mem_line_withdraw (h : p.Balanced) (q : ι) : q ∉ (p.withdraw q).line := by
  rw [line_withdraw]
  exact h.nodup_line.not_mem_erase

/-- A slot that was set aside for who withdraws is set aside for the first of those who wait, or is
free if nobody waits. -/
theorem chosen_withdraw (hq : q ∈ p.chosen) : (p.withdraw q).chosen =
    p.chosen.erase q ++ p.waiting.head?.toList := by
  rw [withdraw, if_pos (List.contains_iff_mem.2 hq), chosen_giveBack]

theorem Balanced.withdraw (h : p.Balanced) (q : ι) : (p.withdraw q).Balanced := by
  have htotal := h.total
  have hnodup : (p.withdraw q).line.Nodup := (line_withdraw p q).symm ▸ h.nodup_line.erase q
  by_cases hq : q ∈ p.chosen
  · have hwithdraw : p.withdraw q = ({ p with chosen := p.chosen.erase q } : Pool ι).giveBack :=
      if_pos (List.contains_iff_mem.2 hq)
    rw [hwithdraw] at hnodup ⊢
    rw [line_giveBack] at hnodup
    refine balanced_giveBack ?_ h.waiting_eq hnodup
    have hlength := List.length_erase_add_one hq
    simp only [spare] at htotal ⊢
    omega
  · have hwithdraw : p.withdraw q = { p with waiting := p.waiting.erase q } :=
      if_neg fun hc => hq (List.contains_iff_mem.1 hc)
    rw [hwithdraw] at hnodup ⊢
    refine ⟨htotal, fun hf => ?_, hnodup⟩
    have hnil := h.waiting_eq hf
    simp [hnil]

/-! ### Parties that ask -/

/-- What comes of asking for a slot, and what becomes of the pool. -/
inductive AskMove (p : Pool ι) (q : ι) (again : Bool) : Admittance → Pool ι → Prop
  | refused (hd : p.draining = true) : AskMove p q again .refused (p.withdraw q)
  /-- A slot was set aside. -/
  | called (hd : p.draining = false) (hq : q ∈ p.chosen) : AskMove p q again .admitted
      { p with chosen := p.chosen.erase q, inflight := p.inflight + 1 }
  /-- A slot was free. -/
  | found (hd : p.draining = false) (hq : q ∉ p.chosen) (ha : again = false) (hf : 0 < p.free) :
      AskMove p q again .admitted { p with free := p.free - 1, inflight := p.inflight + 1 }
  | queued (hd : p.draining = false) (hq : q ∉ p.chosen) (ha : again = false) (hf : p.free = 0) :
      AskMove p q again .pending { p with waiting := p.waiting ++ [q] }
  | waits (hd : p.draining = false) (hq : q ∉ p.chosen) (ha : again = true) :
      AskMove p q again .pending p

/-- Asking for a slot comes to nothing else. -/
theorem askMove_ask (p : Pool ι) (q : ι) (again : Bool) :
    p.AskMove q again (p.ask q again).1 (p.ask q again).2 := by
  unfold ask
  split
  · exact .refused ‹_›
  · have hd : p.draining = false := Bool.eq_false_iff.2 ‹_›
    split
    · exact .called hd (List.contains_iff_mem.1 ‹_›)
    · rename_i hq
      have hq : q ∉ p.chosen := fun h => hq (List.contains_iff_mem.2 h)
      split
      · exact .waits hd hq ‹_›
      · have ha : again = false := Bool.eq_false_iff.2 ‹_›
        split
        · exact .found hd hq ha ‹_›
        · exact .queued hd hq ha (Nat.eq_zero_of_not_pos ‹_›)

theorem askMove_of_ask {answer : Admittance} (h : p.ask q again = (answer, p')) :
    p.AskMove q again answer p' := by
  have hmove := p.askMove_ask q again
  rwa [h] at hmove

/-- Asking for a slot does nothing to tasks and shutdowns. -/
theorem AskMove.keeps {answer : Admittance} (h : p.AskMove q again answer p') : p.Keeps p' := by
  cases h with
  | refused => exact p.keeps_withdraw q
  | called | found | queued | waits => exact ⟨rfl, rfl, rfl, rfl, rfl⟩

/-- A party that has a slot set aside, and one that comes while a slot is free, is admitted. -/
theorem fst_ask_eq_admitted_iff (hd : p.draining = false) :
    (p.ask q again).1 = .admitted ↔ q ∈ p.chosen ∨ again = false ∧ 0 < p.free := by
  have hmove := p.askMove_ask q again
  generalize p.ask q again = r at hmove
  obtain ⟨answer, p'⟩ := r
  dsimp only at hmove ⊢
  cases hmove with
  | refused hd' => simp [hd] at hd'
  | called _ hq => simp [hq]
  | found _ hq ha hf => simp [ha, hf]
  | queued _ hq ha hf => simp [hq, hf]
  | waits _ hq ha => simp [hq, ha]

/-- Who is admitted takes one of the slots that are not taken. -/
theorem AskMove.takes (h : p.AskMove q again .admitted p') :
    p.draining = false ∧ p'.draining = false ∧ p'.limit = p.limit ∧
      p'.inflight = p.inflight + 1 ∧ p'.spare + 1 = p.spare ∧ p'.waiting = p.waiting ∧
      p'.chosen = p.chosen.erase q := by
  cases h with
  | called hd hq =>
    have hlength := List.length_erase_add_one hq
    refine ⟨hd, hd, rfl, rfl, ?_, rfl, rfl⟩
    simp only [spare]
    omega
  | found hd hq ha hf =>
    refine ⟨hd, hd, rfl, rfl, ?_, rfl, (List.erase_of_not_mem hq).symm⟩
    simp only [spare]
    omega

/-- Nobody is let in while the pool drains, nor told to wait. -/
theorem AskMove.eq_refused {answer : Admittance} (h : p.AskMove q again answer p')
    (hd : p.draining = true) : answer = .refused := by
  cases h with
  | refused => rfl
  | called hd' | found hd' | queued hd' | waits hd' =>
    rw [hd] at hd'
    cases hd'

/-- Who is told to wait joins the queue, or stays in it. -/
theorem AskMove.stays {answer : Admittance} (h : p.AskMove q again answer p')
    (hn : answer ≠ .admitted) :
    p'.draining = p.draining ∧ p'.limit = p.limit ∧ p'.inflight = p.inflight ∧
      p'.spare = p.spare := by
  cases h with
  | refused =>
    exact ⟨(p.keeps_withdraw q).draining_eq, limit_withdraw p q, inflight_withdraw p q,
      spare_withdraw p q⟩
  | called | found => exact absurd rfl hn
  | queued | waits => exact ⟨rfl, rfl, rfl, rfl⟩

/-- Asking for a slot keeps the balance, if nobody asks for a second one. -/
theorem Balanced.ask {answer : Admittance} (h : p.Balanced)
    (hq : again = false → q ∉ p.line) (hm : p.AskMove q again answer p') : p'.Balanced := by
  have htotal := h.total
  cases hm with
  | refused => exact h.withdraw q
  | called hd hmem =>
    have hlength := List.length_erase_add_one hmem
    refine ⟨?_, h.waiting_eq, ?_⟩
    · simp only [spare] at htotal ⊢
      omega
    · exact h.nodup_line.sublist (List.erase_sublist.append_right _)
  | found hd hmem ha hf =>
    refine ⟨?_, fun _ => h.waiting_eq hf, h.nodup_line⟩
    simp only [spare] at htotal ⊢
    omega
  | queued hd hmem ha hf =>
    refine ⟨htotal, fun hpos => absurd hf (Nat.pos_iff_ne_zero.1 hpos), ?_⟩
    have hline : ({ p with waiting := p.waiting ++ [q] } : Pool ι).line = p.line ++ [q] :=
      (List.append_assoc _ _ _).symm
    rw [hline]
    exact List.concat_eq_append ▸ h.nodup_line.concat (hq ha)
  | waits => exact h

end Pool

end StreamedInference
