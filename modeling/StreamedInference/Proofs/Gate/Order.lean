import Mathlib.Data.List.Nodup
import StreamedInference.Proofs.Gate.Queue

/-!
# The order at the gate

Whatever parties do at the gate, and in whatever order they do it, some of it takes place and the
rest is done by those who are not in the place to do it. From what has taken place it can be read
off who is inside, who has been admitted, and who still waits, without looking at the gate.

## Main definitions

* `GateHistory.after`: what a row of events leads to.
* `GateHistory.Settled`: nobody is about to enter.
* `GateHistory.takesPlace`, `GateHistory.occurred`: what has taken place in a row of events.
* `GateHistory.admissions`, `GateHistory.applicants`: who has entered, and who has asked and not
  taken it back.

## Main results

* `GateHistory.Accounted.step`, `GateHistory.accounted_after`: what has taken place tells who is
  inside, who has been admitted and who waits.
* `GateHistory.settled_settle`, `GateHistory.holder?_settle`: the first of those who wait enters an
  empty gate, and then nobody is about to enter.
* `GateHistory.Absent.foldl`: who is not at the gate is not admitted unless it asks.
* `GateHistory.Behind.foldl`: nobody comes before a party that has asked earlier and waits.
* `GateHistory.gate_in_order`: all this together.
-/

namespace StreamedInference

namespace GateHistory

variable {ι : Type} [DecidableEq ι] {h : GateHistory ι} {p q : ι} {e : GateEvent ι}
  {es : List (GateEvent ι)}

/-- What a row of events leads to. -/
def after (es : List (GateEvent ι)) : GateHistory ι :=
  es.foldl step {}

/-- Nobody is about to enter. -/
def Settled (h : GateHistory ι) : Prop :=
  ∀ p, h.gate.mayEnter p = false

/-- An event takes place: who does something is in the place to do it. -/
def takesPlace (h : GateHistory ι) : GateEvent ι → Bool
  | .request p => !h.isPresent p
  | .enter p => h.gate.mayEnter p
  | .release p => h.gate.holder? == some p
  | .withdraw p => h.gate.queue.contains p

/-- What takes place in a row of events. -/
def occurredFrom (h : GateHistory ι) : List (GateEvent ι) → List (GateEvent ι)
  | [] => []
  | e :: es =>
    if h.takesPlace e then e :: occurredFrom (h.step e) es else occurredFrom (h.step e) es

/-- What has taken place in a row of events. -/
def occurred (es : List (GateEvent ι)) : List (GateEvent ι) :=
  occurredFrom {} es

/-- Those who have entered, in order. -/
def admissions (done : List (GateEvent ι)) : List ι :=
  done.filterMap fun e =>
    match e with
    | .enter p => some p
    | _ => none

/-- A request joins those that have been made; who gives up takes its last request back. -/
def enlist (ps : List ι) : GateEvent ι → List ι
  | .request p => ps ++ [p]
  | .withdraw p => (ps.reverse.erase p).reverse
  | .enter _ | .release _ => ps

/-- Those who have asked and have not taken it back, in the order in which they asked. -/
def applicants (done : List (GateEvent ι)) : List ι :=
  done.foldl enlist []

/-! ### Single events -/

theorem isPresent_eq_false_iff :
    h.isPresent p = false ↔ h.gate.holder? ≠ some p ∧ p ∉ h.gate.queue := by
  simp [isPresent]

/-- What does not take place changes nothing. -/
theorem step_of_not_takesPlace (he : h.takesPlace e = false) : h.step e = h := by
  cases e with
  | request p => exact if_pos (by simpa [takesPlace] using he)
  | enter p => exact if_neg (Bool.eq_false_iff.1 he)
  | withdraw p => exact if_neg (Bool.eq_false_iff.1 he)
  | release p =>
    obtain ⟨gate, admitted⟩ := h
    rcases gate with _ | ⟨q, _ | _, ps⟩
    · rfl
    · rfl
    · have hne : q ≠ p := by simpa [takesPlace, Gate.holder?] using he
      simp [step, Gate.release_of_ne hne]

theorem step_request (he : h.isPresent p = false) :
    h.step (.request p) = { h with gate := h.gate.request p } :=
  if_neg (Bool.eq_false_iff.1 he)

theorem step_enter (he : h.gate.mayEnter p = true) :
    h.step (.enter p) = ⟨h.gate.enter p, h.admitted ++ [p]⟩ :=
  if_pos he

theorem step_withdraw (he : p ∈ h.gate.queue) :
    h.step (.withdraw p) = { h with gate := h.gate.withdraw p } :=
  if_pos (List.contains_iff_mem.2 he)

theorem admitted_step_of_ne (he : e ≠ .enter p) :
    (h.step e).admitted.count p = h.admitted.count p := by
  cases e with
  | request q => rw [step]; split <;> rfl
  | release q => rfl
  | withdraw q => rw [step]; split <;> rfl
  | enter q =>
    have hne : q ≠ p := fun hqp => he (hqp ▸ rfl)
    rw [step]
    split
    · simp [hne]
    · rfl

/-! ### Nobody is there twice -/

/-- Nobody is at the gate twice. -/
structure Distinct (h : GateHistory ι) : Prop where
  nodup : h.gate.queue.Nodup
  not_mem : ∀ p, h.gate.holder? = some p → p ∉ h.gate.queue

omit [DecidableEq ι] in
theorem Distinct.init : Distinct ({} : GateHistory ι) where
  nodup := .nil
  not_mem _ _ := List.not_mem_nil

/-- Who may enter does not wait twice. -/
theorem Distinct.not_mem_enter (hd : h.Distinct) (hp : h.gate.mayEnter p = true) :
    p ∉ (h.gate.enter p).queue := by
  have hnodup := hd.nodup
  rw [Gate.queue_eq_cons_enter hp, List.nodup_cons] at hnodup
  exact hnodup.1

theorem Distinct.step (hd : h.Distinct) (e : GateEvent ι) : (h.step e).Distinct := by
  by_cases he : h.takesPlace e = true
  swap
  · rwa [step_of_not_takesPlace (Bool.eq_false_iff.2 he)]
  cases e with
  | request p =>
    have hp : h.isPresent p = false := by simpa [takesPlace] using he
    obtain ⟨hholder, hqueue⟩ := isPresent_eq_false_iff.1 hp
    rw [step_request hp]
    refine ⟨?_, fun q hq => ?_⟩
    · rw [Gate.queue_request, ← List.concat_eq_append]
      exact hd.nodup.concat hqueue
    · rw [Gate.holder?_request] at hq
      rw [Gate.queue_request, List.mem_append, List.mem_singleton]
      rintro (hmem | rfl)
      · exact hd.not_mem q hq hmem
      · exact hholder hq
  | enter p =>
    rw [step_enter he]
    have hnodup := hd.nodup
    rw [Gate.queue_eq_cons_enter he] at hnodup
    refine ⟨(List.nodup_cons.1 hnodup).2, fun q hq => ?_⟩
    rw [Gate.holder?_enter he, Option.some.injEq] at hq
    exact hq ▸ hd.not_mem_enter he
  | release p =>
    have hholder : h.gate.holder? = some p := by simpa [takesPlace] using he
    refine ⟨?_, fun q hq => ?_⟩
    · rw [GateHistory.step, Gate.queue_release]
      exact hd.nodup
    · rw [GateHistory.step, Gate.holder?_release, if_pos hholder] at hq
      cases hq
  | withdraw p =>
    rw [step_withdraw (List.contains_iff_mem.1 he)]
    refine ⟨Gate.nodup_queue_withdraw hd.nodup p, fun q hq hmem => ?_⟩
    rw [Gate.holder?_withdraw] at hq
    rw [Gate.mem_queue_withdraw hd.nodup] at hmem
    exact hd.not_mem q hq hmem.2

/-! ### What has taken place -/

omit [DecidableEq ι] in
theorem admissions_concat (done : List (GateEvent ι)) (e : GateEvent ι) :
    admissions (done ++ [e]) = admissions done ++ admissions [e] :=
  List.filterMap_append

theorem applicants_concat (done : List (GateEvent ι)) (e : GateEvent ι) :
    applicants (done ++ [e]) = enlist (applicants done) e := by
  rw [applicants, List.foldl_concat]
  rfl

/-- The last request of a party that waits is the one for which it waits. -/
theorem enlist_withdraw {ps qs : List ι} (hqs : qs.Nodup) (hp : p ∈ qs) :
    enlist (ps ++ qs) (.withdraw p) = ps ++ qs.erase p := by
  have hreverse : (qs.reverse.erase p).reverse = qs.erase p := by
    rw [(List.nodup_reverse.2 hqs).erase_eq_filter, hqs.erase_eq_filter, ← List.filter_reverse,
      List.reverse_reverse]
  rw [enlist, List.reverse_append, List.erase_append_left _ (List.mem_reverse.2 hp),
    List.reverse_append, List.reverse_reverse, hreverse]

/-- What has taken place tells who is inside, who has been admitted and who waits. -/
structure Accounted (done : List (GateEvent ι)) (h : GateHistory ι) : Prop where
  distinct : h.Distinct
  admitted_eq : h.admitted = admissions done
  applicants_eq : applicants done = h.admitted ++ h.gate.queue
  count_eq : ∀ p, done.count (.enter p) =
    done.count (.release p) + if h.gate.holder? = some p then 1 else 0

theorem Accounted.init : Accounted [] ({} : GateHistory ι) :=
  ⟨.init, rfl, rfl, fun _ => rfl⟩

/-- **What takes place is accounted for.** -/
theorem Accounted.step {done : List (GateEvent ι)} (ha : Accounted done h)
    (he : h.takesPlace e = true) : Accounted (done ++ [e]) (h.step e) := by
  have hdistinct := ha.distinct.step e
  cases e with
  | request p =>
    have hp : h.isPresent p = false := by simpa [takesPlace] using he
    rw [step_request hp] at hdistinct ⊢
    refine ⟨hdistinct, ?_, ?_, fun q => ?_⟩
    · rw [admissions_concat]
      exact ha.admitted_eq.trans (List.append_nil _).symm
    · rw [applicants_concat, enlist, ha.applicants_eq, Gate.queue_request, List.append_assoc]
    · simpa [List.count_append] using ha.count_eq q
  | enter p =>
    obtain ⟨hempty, -⟩ := Gate.mayEnter_iff.1 he
    rw [step_enter he] at hdistinct ⊢
    refine ⟨hdistinct, ?_, ?_, fun q => ?_⟩
    · rw [admissions_concat, ← ha.admitted_eq]
      rfl
    · rw [applicants_concat, enlist, ha.applicants_eq, Gate.queue_eq_cons_enter he,
        List.append_assoc]
      rfl
    · have hbefore := ha.count_eq q
      rw [hempty] at hbefore
      rw [List.count_append, List.count_append, hbefore, Gate.holder?_enter he]
      by_cases hqp : p = q <;> simp [hqp]
  | release p =>
    have hholder : h.gate.holder? = some p := by simpa [takesPlace] using he
    refine ⟨hdistinct, ?_, ?_, fun q => ?_⟩
    · rw [admissions_concat]
      exact ha.admitted_eq.trans (List.append_nil _).symm
    · rw [applicants_concat, enlist, ha.applicants_eq]
      exact congrArg _ (Gate.queue_release _ _).symm
    · have hbefore := ha.count_eq q
      rw [GateHistory.step, Gate.holder?_release, if_pos hholder, List.count_append,
        List.count_append, hbefore, hholder]
      by_cases hqp : p = q <;> simp [hqp]
  | withdraw p =>
    have hp : p ∈ h.gate.queue := List.contains_iff_mem.1 he
    rw [step_withdraw hp] at hdistinct ⊢
    refine ⟨hdistinct, ?_, ?_, fun q => ?_⟩
    · rw [admissions_concat]
      exact ha.admitted_eq.trans (List.append_nil _).symm
    · rw [applicants_concat, ha.applicants_eq, enlist_withdraw ha.distinct.nodup hp,
        Gate.queue_withdraw]
    · simpa [List.count_append] using ha.count_eq q

theorem Accounted.foldl {done : List (GateEvent ι)} (ha : Accounted done h)
    (es : List (GateEvent ι)) :
    Accounted (done ++ h.occurredFrom es) (es.foldl GateHistory.step h) := by
  induction es generalizing h done with
  | nil => rwa [occurredFrom, List.append_nil]
  | cons e es ih =>
    rw [occurredFrom, List.foldl_cons]
    by_cases he : h.takesPlace e = true
    · rw [if_pos he, ← List.singleton_append, ← List.append_assoc]
      exact ih (ha.step he)
    · rw [if_neg he]
      rw [step_of_not_takesPlace (Bool.eq_false_iff.2 he)]
      exact ih ha

/-- In every row of events, what has taken place is accounted for. -/
theorem accounted_after (es : List (GateEvent ι)) : Accounted (occurred es) (after es) :=
  Accounted.init.foldl es

/-- A party is inside that has entered more often than it has left. -/
theorem Accounted.holder?_eq_iff {done : List (GateEvent ι)} (ha : Accounted done h) (p : ι) :
    h.gate.holder? = some p ↔ done.count (.release p) < done.count (.enter p) := by
  rw [ha.count_eq p]
  split <;> simp [*]

/-! ### Settled gates -/

/-- Nobody waits at an empty gate that has settled. -/
theorem Settled.queue_eq_nil (hs : h.Settled) (hh : h.gate.holder? = none) :
    h.gate.queue = [] := by
  cases hq : h.gate.queue with
  | nil => rfl
  | cons p ps =>
    have hmay : h.gate.mayEnter p = true := Gate.mayEnter_iff.2 ⟨hh, by rw [hq]; rfl⟩
    rw [hs p] at hmay
    cases hmay

/-- The first of those who wait enters an empty gate. -/
theorem holder?_settle (h : GateHistory ι) :
    h.settle.gate.holder? = h.gate.holder?.or h.gate.queue.head? := by
  obtain ⟨gate, admitted⟩ := h
  rcases gate with _ | ⟨p, _ | _, ps⟩
  · rfl
  · have hmay : (Gate.taken p false ps).mayEnter p = true := by simp [Gate.mayEnter]
    exact (congrArg (·.gate.holder?) (step_enter (h := ⟨_, admitted⟩) hmay)).trans
      (Gate.holder?_enter hmay)
  · rfl

/-- When one has entered nobody is about to enter. -/
theorem settled_settle (h : GateHistory ι) : h.settle.Settled := by
  intro p
  rw [Bool.eq_false_iff]
  intro hmay
  obtain ⟨hempty, hhead⟩ := Gate.mayEnter_iff.1 hmay
  obtain ⟨gate, admitted⟩ := h
  rcases gate with _ | ⟨q, _ | _, ps⟩
  · cases hhead
  · rw [holder?_settle] at hempty
    cases hempty
  · cases hempty

/-- The turn of a party that gives up is passed on. -/
theorem holder?_settle_withdraw (hmay : h.gate.mayEnter p = true) :
    (h.step (.withdraw p)).settle.gate.holder? = h.gate.queue.tail.head? := by
  obtain ⟨hempty, -⟩ := Gate.mayEnter_iff.1 hmay
  have hqueue := Gate.queue_eq_cons_enter hmay
  have hp : p ∈ h.gate.queue := hqueue ▸ List.mem_cons_self
  rw [step_withdraw hp, holder?_settle, Gate.holder?_withdraw, hempty, Gate.queue_withdraw, hqueue,
    List.erase_cons_head]
  rfl

/-! ### What follows on a request and on giving up -/

/-- A party is not at the gate, and has been admitted so many times. -/
structure Absent (p : ι) (n : Nat) (h : GateHistory ι) : Prop where
  isPresent_eq : h.isPresent p = false
  count_eq : h.admitted.count p = n

/-- Who is not at the gate comes there by asking. -/
theorem Absent.step {n : Nat} (ha : Absent p n h) (hd : h.Distinct) (he : e ≠ .request p) :
    Absent p n (h.step e) := by
  obtain ⟨hholder, hqueue⟩ := isPresent_eq_false_iff.1 ha.isPresent_eq
  by_cases htakes : h.takesPlace e = true
  swap
  · rwa [step_of_not_takesPlace (Bool.eq_false_iff.2 htakes)]
  cases e with
  | request q =>
    have hq : h.isPresent q = false := by simpa [takesPlace] using htakes
    rw [step_request hq]
    refine ⟨isPresent_eq_false_iff.2 ⟨?_, ?_⟩, ha.count_eq⟩
    · rwa [Gate.holder?_request]
    · rw [Gate.queue_request, List.mem_append, List.mem_singleton]
      rintro (hmem | rfl)
      · exact hqueue hmem
      · exact he rfl
  | enter q =>
    have hcons := Gate.queue_eq_cons_enter htakes
    have hne : q ≠ p := by
      rintro rfl
      exact hqueue (hcons ▸ List.mem_cons_self)
    refine ⟨?_, (admitted_step_of_ne fun h => hne (GateEvent.enter.inj h)).trans ha.count_eq⟩
    rw [step_enter htakes, isPresent_eq_false_iff, Gate.holder?_enter htakes]
    refine ⟨by simpa using hne, fun hmem => hqueue ?_⟩
    rw [hcons]
    exact List.mem_cons_of_mem q hmem
  | release q =>
    refine ⟨isPresent_eq_false_iff.2 ⟨?_, ?_⟩, ha.count_eq⟩
    · rw [GateHistory.step, Gate.holder?_release]
      split
      · simp
      · exact hholder
    · rwa [GateHistory.step, Gate.queue_release]
  | withdraw q =>
    rw [step_withdraw (List.contains_iff_mem.1 htakes)]
    refine ⟨isPresent_eq_false_iff.2 ⟨?_, fun hmem => hqueue ?_⟩, ha.count_eq⟩
    · rwa [Gate.holder?_withdraw]
    · exact ((Gate.mem_queue_withdraw hd.nodup).1 hmem).2

/-- Who is not at the gate is not admitted unless it asks. -/
theorem Absent.foldl {n : Nat} (ha : Absent p n h) (hd : h.Distinct)
    (hes : .request p ∉ es) : Absent p n (es.foldl GateHistory.step h) := by
  induction es generalizing h with
  | nil => exact ha
  | cons e es ih =>
    rw [List.mem_cons, not_or] at hes
    exact ih (ha.step hd fun h => hes.1 h.symm) (hd.step e) hes.2

/-- Who has given up is not at the gate. -/
theorem absent_withdraw (hd : h.Distinct) (hp : p ∈ h.gate.queue) :
    Absent p (h.admitted.count p) (h.step (.withdraw p)) := by
  rw [step_withdraw hp]
  refine ⟨isPresent_eq_false_iff.2 ⟨?_, fun hmem => ?_⟩, rfl⟩
  · rw [Gate.holder?_withdraw]
    exact fun hholder => hd.not_mem p hholder hp
  · exact ((Gate.mem_queue_withdraw hd.nodup).1 hmem).1 rfl

/-- A party has been admitted since it had been so many times, or it waits; then another one has
not been admitted since, and comes after it if it waits. -/
inductive Behind (q p : ι) (n m : Nat) (h : GateHistory ι) : Prop
  | passed (hq : n < h.admitted.count q)
  | waits (hq : h.admitted.count q = n) (hp : h.admitted.count p = m) (hmem : q ∈ h.gate.queue)
      (hlater : p ∈ h.gate.queue → [q, p].Sublist h.gate.queue)

theorem count_admitted_le_step (h : GateHistory ι) (e : GateEvent ι) (p : ι) :
    h.admitted.count p ≤ (h.step e).admitted.count p := by
  by_cases he : e = .enter p
  · subst he
    rw [GateHistory.step]
    split
    · simp
    · exact Nat.le_refl _
  · exact Nat.le_of_eq (admitted_step_of_ne he).symm

/-- Who waits stays before those who have come later, unless it gives up. -/
theorem Behind.step {n m : Nat} (hb : Behind q p n m h) (hd : h.Distinct) (hne : q ≠ p)
    (he : e ≠ .withdraw q) : Behind q p n m (h.step e) := by
  cases hb with
  | passed hq => exact .passed (Nat.lt_of_lt_of_le hq (count_admitted_le_step h e q))
  | waits hq hp hmem hlater =>
    by_cases htakes : h.takesPlace e = true
    swap
    · rw [step_of_not_takesPlace (Bool.eq_false_iff.2 htakes)]
      exact .waits hq hp hmem hlater
    cases e with
    | request r =>
      have hr : h.isPresent r = false := by simpa [takesPlace] using htakes
      rw [step_request hr]
      refine .waits hq hp ?_ fun hpmem => ?_
      · rw [Gate.queue_request]
        exact List.mem_append_left _ hmem
      · rw [Gate.queue_request] at hpmem ⊢
        by_cases hpq : p ∈ h.gate.queue
        · exact (hlater hpq).trans (List.sublist_append_left _ _)
        · obtain rfl : p = r := by simpa [hpq] using hpmem
          exact (List.singleton_sublist.2 hmem).append (.refl [p])
    | enter r =>
      have hcons := Gate.queue_eq_cons_enter htakes
      have hnodup := hd.nodup
      rw [hcons] at hmem hnodup
      by_cases hrq : r = q
      · subst hrq
        refine .passed ?_
        rw [step_enter htakes, List.count_append, hq, List.count_singleton_self]
        exact Nat.lt_succ_self n
      · have hqmem : q ∈ (h.gate.enter r).queue :=
          (List.mem_cons.1 hmem).resolve_left (Ne.symm hrq)
        have hsub : p ∈ h.gate.queue → [q, p].Sublist (h.gate.enter r).queue := by
          intro hpmem
          have hsublist := hlater hpmem
          rw [hcons] at hsublist
          cases hsublist with
          | cons _ hs => exact hs
          | cons_cons => exact absurd rfl hrq
        have hrp : r ≠ p := by
          rintro rfl
          have hmem' := (hsub (hcons ▸ List.mem_cons_self)).subset (List.mem_cons_of_mem q
            List.mem_cons_self)
          exact (List.nodup_cons.1 hnodup).1 hmem'
        rw [step_enter htakes]
        refine .waits ?_ ?_ hqmem fun hpmem => hsub (hcons ▸ List.mem_cons_of_mem r hpmem)
        · simpa [hrq] using hq
        · simpa [hrp] using hp
    | release r =>
      refine .waits hq hp ?_ fun hpmem => ?_
      · rwa [GateHistory.step, Gate.queue_release]
      · rw [GateHistory.step, Gate.queue_release] at hpmem ⊢
        exact hlater hpmem
    | withdraw r =>
      have hrq : q ≠ r := fun h => he (h ▸ rfl)
      rw [step_withdraw (List.contains_iff_mem.1 htakes)]
      refine .waits hq hp ((Gate.mem_queue_withdraw hd.nodup).2 ⟨hrq, hmem⟩) fun hpmem => ?_
      obtain ⟨hpr, hpmem⟩ := (Gate.mem_queue_withdraw hd.nodup).1 hpmem
      have hfilter := (hlater hpmem).filter (· != r)
      rw [Gate.queue_withdraw, hd.nodup.erase_eq_filter]
      simpa [hrq, hpr] using hfilter

theorem Behind.foldl {n m : Nat} (hb : Behind q p n m h) (hd : h.Distinct) (hne : q ≠ p)
    (hes : .withdraw q ∉ es) : Behind q p n m (es.foldl GateHistory.step h) := by
  induction es generalizing h with
  | nil => exact hb
  | cons e es ih =>
    rw [List.mem_cons, not_or] at hes
    exact ih (hb.step hd hne fun h => hes.1 h.symm) (hd.step e) hes.2

/-- Who asks comes after those who wait. -/
theorem behind_request (hq : q ∈ h.gate.queue) (hp : h.isPresent p = false) :
    Behind q p (h.admitted.count q) (h.admitted.count p) (h.step (.request p)) := by
  rw [step_request hp]
  refine .waits rfl rfl ?_ fun _ => ?_
  · rw [Gate.queue_request]
    exact List.mem_append_left _ hq
  · rw [Gate.queue_request]
    exact (List.singleton_sublist.2 hq).append (.refl [p])

/-! ### All together -/

/-- **The gate keeps the order in which parties ask.** Take any row of events at a gate, with any
number of parties; events that are none in their state change nothing.

* A party is inside exactly if it has entered more often than it has left, and there are no two such
  parties.
* If nobody is about to enter and the gate is empty, nobody waits. One entrance is enough for that:
  the party that has waited longest enters an empty gate.
* Those who have been admitted and, behind them, those who wait are those who have asked and have
  not taken it back, in the order in which they asked.
* A party that gives up while it waits is neither at the gate nor admitted until it asks again. If
  it had been chosen already, the next one that waits enters instead.
* A party that asks while another one waits is not admitted before that one has been admitted or has
  given up. -/
theorem gate_in_order (es : List (GateEvent ι)) :
    let h := after es
    let done := occurred es
    ((∀ p, h.gate.holder? = some p ↔ done.count (.release p) < done.count (.enter p)) ∧
      ∀ p q, done.count (.release p) < done.count (.enter p) →
        done.count (.release q) < done.count (.enter q) → p = q) ∧
    ((h.Settled → h.gate.holder? = none → h.gate.queue = []) ∧
      h.settle.Settled ∧ h.settle.gate.holder? = h.gate.holder?.or h.gate.queue.head?) ∧
    (h.admitted = admissions done ∧ h.admitted ++ h.gate.queue = applicants done) ∧
    (∀ p ∈ h.gate.queue,
      (h.gate.mayEnter p = true →
        (h.step (.withdraw p)).settle.gate.holder? = h.gate.queue.tail.head?) ∧
      ∀ es' : List (GateEvent ι), .request p ∉ es' →
        let h' := es'.foldl step (h.step (.withdraw p))
        h'.isPresent p = false ∧ h'.admitted.count p = h.admitted.count p) ∧
    ∀ p q, q ∈ h.gate.queue → h.isPresent p = false →
      ∀ es' : List (GateEvent ι), .withdraw q ∉ es' →
        let h' := es'.foldl step (h.step (.request p))
        h.admitted.count p < h'.admitted.count p → h.admitted.count q < h'.admitted.count q := by
  intro h done
  have ha : Accounted done h := accounted_after es
  refine ⟨⟨ha.holder?_eq_iff, fun p q hp hq => ?_⟩,
    ⟨Settled.queue_eq_nil, settled_settle h, holder?_settle h⟩,
    ⟨ha.admitted_eq, ha.applicants_eq.symm⟩,
    fun p hp => ⟨holder?_settle_withdraw, fun es' hes => ?_⟩, fun p q hq hp es' hes hadmitted => ?_⟩
  · have hholder := (ha.holder?_eq_iff p).2 hp
    rw [(ha.holder?_eq_iff q).2 hq] at hholder
    exact (Option.some.inj hholder).symm
  · have habsent := (absent_withdraw ha.distinct hp).foldl (ha.distinct.step _) hes
    exact ⟨habsent.isPresent_eq, habsent.count_eq⟩
  · have hne : q ≠ p := by
      rintro rfl
      exact (isPresent_eq_false_iff.1 hp).2 hq
    have hbehind := (behind_request hq hp).foldl (ha.distinct.step _) hne hes
    cases hbehind with
    | passed hpassed => exact hpassed
    | waits _ hcount => exact absurd hadmitted (Nat.not_lt.2 (Nat.le_of_eq hcount))

/-- One party is inside while two others come to wait; it leaves, and the first of them is
chosen. -/
def changeover : List (GateEvent Nat) :=
  [.request 0, .enter 0, .request 1, .request 2, .release 0]

/-- The chosen party gives up, and the other one enters in its place. A party that asks after these
two comes after both. -/
theorem gate_in_order_of_changeover :
    let h := after changeover
    h.gate.queue = [1, 2] ∧ h.gate.mayEnter 1 = true ∧
    (h.step (.withdraw 1)).settle.gate.holder? = some 2 ∧
    ([GateEvent.enter 2, .release 2].foldl step (h.step (.withdraw 1))).admitted.count 1 = 0 ∧
    (let h' := [GateEvent.enter 1, .release 1, .enter 2, .release 2, .enter 3].foldl step
      (h.step (.request 3))
    h'.admitted.count 3 = 1 ∧ 0 < h'.admitted.count 2) ∧
    h.settle.gate.holder? = some 1 := by
  intro h
  have hqueue : h.gate.queue = [1, 2] := by decide
  have hmay : h.gate.mayEnter 1 = true := by decide
  obtain ⟨-, ⟨-, -, hsettle⟩, -, hwithdraw, hrequest⟩ := gate_in_order changeover
  obtain ⟨hpass, hgone⟩ := hwithdraw 1 (by decide)
  have hcount := (hgone [.enter 2, .release 2] (by decide)).2
  refine ⟨hqueue, hmay, (hpass hmay).trans (by decide), hcount.trans (by decide), ⟨by decide, ?_⟩,
    hsettle.trans (by decide)⟩
  exact hrequest 3 2 (by decide) (by decide) _ (by decide) (by decide)

end GateHistory

end StreamedInference
