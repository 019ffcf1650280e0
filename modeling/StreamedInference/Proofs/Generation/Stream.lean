import StreamedInference.Proofs.Generation.Advance
import StreamedInference.Session.Course

/-!
# What a unit tells its consumer

A script agrees with a unit if it goes on where the unit's call stands. Whichever such script is
taken, what the unit offers next is what the script has in the place that the consumer has reached:
its fragments without the empty ones, then its failure if it has one, and from then on its end.

## Main definitions

* `GenerationUnit.Fits`: a script agrees with what a unit's call has done so far.
* `CallScript.item`: what a consumer hears of a call in each place.
* `GenerationUnit.Reads`, `GenerationUnit.Hears`: how many items the consumer of a unit has heard,
  and which.
* `GenerationUnit.Plays`: how far a unit has come with its script.

## Main results

* `GenerationUnit.Fits.offer_fragment`, `GenerationUnit.Fits.offer_failed`,
  `GenerationUnit.Fits.offer_ended`: what a unit offers is what the script has in that place.
* `GenerationUnit.Reads.offer_eq`: what a unit offers is the next item of the script.
* `GenerationUnit.Hears.of_advances`, `GenerationUnit.Hears.take`: neither what the call does nor
  what the consumer takes changes that.
* `GenerationUnit.Plays.callStep?`: a step of a call is the next thing in its script.
-/

namespace StreamedInference

/-! ### What a consumer hears of a script -/

namespace CallScript

/-- What a consumer hears of a call before its end: the fragments but for the empty ones, and the
failure if there is one. -/
def items (script : CallScript) : List Offer :=
  script.texts.map .fragment ++ (script.ending.failure?.map .failed).toList

/-- What a consumer hears in the `k`-th place. Behind everything else it hears of the end, each time
that it asks. -/
def item (script : CallScript) (k : Nat) : Offer :=
  script.items.getD k .ended

variable {script : CallScript}

theorem length_items (script : CallScript) :
    script.items.length = script.texts.length + script.ending.failure?.isSome.toNat := by
  cases h : script.ending.failure? <;> simp [items, h]

theorem item_of_text {k : Nat} {text : String} (h : script.texts[k]? = some text) :
    script.item k = .fragment text := by
  obtain ⟨hlt, rfl⟩ := List.getElem?_eq_some_iff.1 h
  simp [item, items, List.getElem?_append_left, hlt]

theorem item_of_failure {f : Failure} (h : script.ending.failure? = some f) :
    script.item script.texts.length = .failed f := by
  simp [item, items, h]

theorem item_of_length_le {k : Nat} (h : script.items.length ≤ k) : script.item k = .ended := by
  simp [item, List.getElem?_eq_none h]

end CallScript

/-- What a consumer hears when it is offered something. -/
def Offer.toList : Offer → List Offer
  | .pending => []
  | item => [item]

/-! ### What a unit offers -/

namespace GenerationUnit

variable {ι : Type} {u u' : GenerationUnit ι} {script : CallScript}

/-- The script agrees with what the unit's call has done so far: its first fragments are those that
have been emitted, and if the call has ended the script has nothing else and the same ending. -/
structure Fits (u : GenerationUnit ι) (script : CallScript) : Prop where
  emitted_isPrefix : u.emitted <+: script.texts
  ending_eq : ∀ {e : Ending}, u.ending = some e → u.emitted = script.texts ∧ script.ending = e

theorem Fits.of_grows (h : u'.Fits script) (hg : u.Grows u') : u.Fits script where
  emitted_isPrefix := hg.emitted_isPrefix.trans h.emitted_isPrefix
  ending_eq he := by
    obtain ⟨he', hm⟩ := hg.ending_eq he
    exact hm ▸ h.ending_eq he'

/-- What the call has done so far; a call in progress is taken to end well right now. -/
def outcome (u : GenerationUnit ι) : CallScript :=
  ⟨u.emitted, u.ending.getD .success⟩

theorem fits_outcome (h : ∀ text ∈ u.emitted, text.isEmpty = false) : u.Fits u.outcome := by
  have htexts : u.outcome.texts = u.emitted :=
    List.filter_eq_self.2 fun text ht => by rw [h text ht]; rfl
  refine ⟨htexts ▸ List.prefix_refl _, fun he => ⟨htexts.symm, ?_⟩⟩
  rw [outcome, he]
  rfl

theorem lt_of_offer_fragment {text : String} (ho : u.offer = .fragment text) :
    u.taken < u.emitted.length := by
  unfold offer at ho
  cases hnext : u.emitted[u.taken]? with
  | some text => exact (List.getElem?_eq_some_iff.1 hnext).1
  | none =>
    simp only [hnext] at ho
    repeat' split at ho
    all_goals cases ho

theorem Fits.offer_fragment (h : u.Fits script) {text : String}
    (ho : u.offer = .fragment text) :
    script.texts[u.taken]? = some text ∧ u.taken + 1 ≤ u.emitted.length := by
  have hlt := lt_of_offer_fragment ho
  have hnext : u.emitted[u.taken]? = some text := by
    simpa [offer, List.getElem?_eq_getElem hlt] using ho
  refine ⟨?_, hlt⟩
  obtain ⟨more, hmore⟩ := h.emitted_isPrefix
  rw [← hmore, List.getElem?_append_left hlt, hnext]

/-- A failure is offered behind all fragments and only once; that a call broke down is told only
when the unit has left the gate. -/
theorem offer_eq_failed_iff {f : Failure} : u.offer = .failed f ↔
    u.emitted.length ≤ u.taken ∧ u.reported = false ∧
      ∃ e, u.ending = some e ∧ e.failure? = some f ∧ (e = .breakdown → u.finished = true) := by
  unfold offer
  cases hnext : u.emitted[u.taken]? with
  | some text =>
    have hlt := (List.getElem?_eq_some_iff.1 hnext).1
    simp [Nat.not_le.2 hlt]
  | none =>
    have hle := List.getElem?_eq_none_iff.1 hnext
    rcases u.ending with _ | _ | g | _ <;> cases u.reported <;> cases u.finished <;>
      simp [hle, Ending.failure?, eq_comm]

/-- The end is offered behind everything else, when the unit has left the gate. -/
theorem offer_eq_ended_iff : u.offer = .ended ↔
    u.emitted.length ≤ u.taken ∧ u.finished = true ∧
      ∃ e, u.ending = some e ∧ (e.failure?.isSome = true → u.reported = true) := by
  unfold offer
  cases hnext : u.emitted[u.taken]? with
  | some text =>
    have hlt := (List.getElem?_eq_some_iff.1 hnext).1
    simp [Nat.not_le.2 hlt]
  | none =>
    have hle := List.getElem?_eq_none_iff.1 hnext
    rcases u.ending with _ | _ | g | _ <;> cases u.reported <;> cases u.finished <;>
      simp [hle, Ending.failure?]

/-- A consumer waits only when it has taken all fragments, and only for a call in progress or for
its unit to leave the gate. -/
theorem of_offer_pending (ho : u.offer = .pending) :
    u.emitted.length ≤ u.taken ∧ (u.ending = none ∨ u.finished = false) := by
  unfold offer at ho
  cases hnext : u.emitted[u.taken]? with
  | some text => simp [hnext] at ho
  | none =>
    refine ⟨List.getElem?_eq_none_iff.1 hnext, ?_⟩
    rcases he : u.ending with _ | _ | g | _ <;> cases hr : u.reported <;> cases hf : u.finished <;>
      simp_all

theorem Fits.offer_failed (h : u.Fits script) (ht : u.taken ≤ u.emitted.length) {f : Failure}
    (ho : u.offer = .failed f) :
    u.taken = script.texts.length ∧ script.ending.failure? = some f := by
  obtain ⟨hlen, -, e, he, hf, -⟩ := offer_eq_failed_iff.1 ho
  obtain ⟨hm, rfl⟩ := h.ending_eq he
  rw [← hm]
  exact ⟨Nat.le_antisymm ht hlen, hf⟩

theorem Fits.offer_ended (h : u.Fits script) (ht : u.taken ≤ u.emitted.length)
    (ho : u.offer = .ended) (hr : u.reported = false) :
    u.taken = script.texts.length ∧ script.ending.failure? = none := by
  obtain ⟨hlen, -, e, he, hf⟩ := offer_eq_ended_iff.1 ho
  obtain ⟨hm, rfl⟩ := h.ending_eq he
  rw [← hm]
  refine ⟨Nat.le_antisymm ht hlen, ?_⟩
  cases hnone : script.ending.failure? with
  | none => rfl
  | some f => simp [hr, hnone] at hf

/-- A unit whose call has ended and that has left the gate does not keep its consumer waiting. -/
theorem offer_ne_pending {e : Ending} (he : u.ending = some e) (hf : u.finished = true) :
    u.offer ≠ .pending := by
  intro ho
  rcases (of_offer_pending ho).2 with hnone | hfalse
  · simp [he] at hnone
  · simp [hf] at hfalse

/-! ### What the consumer of a unit has heard -/

/-- How much a consumer has heard before the end: fragments, and the failure. -/
def told (u : GenerationUnit ι) : Nat :=
  u.taken + u.reported.toNat

/-- The consumer of a unit has heard `n` items, those after all others of the end. -/
structure Reads (u : GenerationUnit ι) (n : Nat) : Prop where
  taken_le : u.taken ≤ u.emitted.length
  reported_of : u.reported = true →
    u.taken = u.emitted.length ∧ ∃ e, u.ending = some e ∧ e.failure?.isSome = true
  told_le : u.told ≤ n
  ended_of : u.told < n → u.offer = .ended

namespace Reads

variable {n : Nat}

/-- A unit that has just been started has told nothing. -/
theorem init (ht : u.taken = 0) (hr : u.reported = false) : u.Reads 0 where
  taken_le := ht ▸ Nat.zero_le _
  reported_of h := by simp [hr] at h
  told_le := by simp [told, ht, hr]
  ended_of h := absurd h (Nat.not_lt_zero _)

/-- Nothing changes for the consumer by what the call and its unit do. -/
theorem of_advances (h : u.Reads n) (ha : u.Advances u') : u'.Reads n := by
  have htold : u'.told = u.told := by rw [told, told, ha.taken_eq, ha.reported_eq]
  refine ⟨?_, fun hr => ?_, htold ▸ h.told_le, fun hlt => ?_⟩
  · rw [ha.taken_eq]
    exact Nat.le_trans h.taken_le ha.emitted_isPrefix.length_le
  · obtain ⟨ht, e, he, hf⟩ := h.reported_of (ha.reported_eq ▸ hr)
    obtain ⟨he', hm⟩ := ha.ending_eq he
    exact ⟨by rw [ha.taken_eq, hm, ht], e, he', hf⟩
  · obtain ⟨hle, hfin, e, he, hr⟩ := offer_eq_ended_iff.1 (h.ended_of (htold ▸ hlt))
    obtain ⟨he', hm⟩ := ha.ending_eq he
    refine offer_eq_ended_iff.2 ⟨?_, ha.finished_of hfin, e, he', fun hf => ?_⟩
    · rw [hm, ha.taken_eq]
      exact hle
    · rw [ha.reported_eq]
      exact hr hf

theorem detach (h : u.Reads n) : u.detach.Reads n :=
  ⟨h.taken_le, h.reported_of, h.told_le, h.ended_of⟩

/-- While something is offered that is not the end, what has been heard is what has been told. -/
theorem told_eq (h : u.Reads n) (ho : u.offer ≠ .ended) : u.told = n := by
  rcases Nat.lt_or_eq_of_le h.told_le with hlt | heq
  · exact absurd (h.ended_of hlt) ho
  · exact heq

theorem reported_eq_of_fragment (h : u.Reads n) {text : String} (ho : u.offer = .fragment text) :
    u.reported = false := by
  have hlt := lt_of_offer_fragment ho
  cases hr : u.reported with
  | false => rfl
  | true =>
    have := (h.reported_of hr).1
    omega

/-- **What a unit offers is the next item of any script that fits.** -/
theorem offer_eq (h : u.Reads n) (hf : u.Fits script) (hp : u.offer ≠ .pending) :
    u.offer = script.item n := by
  cases ho : u.offer with
  | pending => exact absurd ho hp
  | fragment text =>
    have hn := h.told_eq (by simp [ho])
    rw [told, h.reported_eq_of_fragment ho] at hn
    rw [← hn]
    exact (CallScript.item_of_text (hf.offer_fragment ho).1).symm
  | failed f =>
    have hn := h.told_eq (by simp [ho])
    obtain ⟨htaken, hfail⟩ := hf.offer_failed h.taken_le ho
    rw [told, (offer_eq_failed_iff.1 ho).2.1] at hn
    rw [← hn, htaken]
    exact (CallScript.item_of_failure hfail).symm
  | ended =>
    obtain ⟨hle, -, e, he, hr⟩ := offer_eq_ended_iff.1 ho
    obtain ⟨hm, rfl⟩ := hf.ending_eq he
    have htold := h.told_le
    refine (CallScript.item_of_length_le ?_).symm
    rw [CallScript.length_items, ← hm]
    cases hfail : script.ending.failure?.isSome with
    | false =>
      simp only [told] at htold
      simp only [Bool.toNat_false]
      omega
    | true =>
      rw [told, hr hfail] at htold
      exact Nat.le_trans (Nat.add_le_add_right hle _) htold

/-- An item that is taken has been heard. -/
theorem take (h : u.Reads n) (hp : u.offer ≠ .pending) : u.take.Reads (n + 1) := by
  cases ho : u.offer with
  | pending => exact absurd ho hp
  | fragment text =>
    have hlt := lt_of_offer_fragment ho
    have hr := h.reported_eq_of_fragment ho
    have hn := h.told_eq (by simp [ho])
    rw [told, hr] at hn
    rw [GenerationUnit.take, ho]
    refine ⟨hlt, fun hr' => by simp [hr] at hr', ?_, fun hlt' => ?_⟩
    · simp [told, hr, ← hn]
    · simp [told, hr, ← hn] at hlt'
  | failed f =>
    obtain ⟨hle, hr, e, he, hf, -⟩ := offer_eq_failed_iff.1 ho
    have hn := h.told_eq (by simp [ho])
    rw [told, hr] at hn
    rw [GenerationUnit.take, ho]
    refine ⟨h.taken_le, fun _ => ⟨Nat.le_antisymm h.taken_le hle, e, he, by simp [hf]⟩, ?_,
      fun hlt' => ?_⟩
    · simp [told, ← hn]
    · simp [told, ← hn] at hlt'
  | ended =>
    rw [GenerationUnit.take, ho]
    exact ⟨h.taken_le, h.reported_of, Nat.le_succ_of_le h.told_le, fun _ => ho⟩

/-- A consumer that waits has heard everything so far. -/
theorem length_le_of_pending (h : u.Reads n) (hp : u.offer = .pending) : u.emitted.length ≤ n := by
  have hle := (of_offer_pending hp).1
  have htold := h.told_le
  simp only [told] at htold
  omega

end Reads

/-- The consumer of a unit has heard these items, which are the first ones of every script that
fits. -/
structure Hears (u : GenerationUnit ι) (items : List Offer) : Prop where
  reads : u.Reads items.length
  items_eq : ∀ {script : CallScript}, u.Fits script →
    items = (List.range items.length).map script.item

namespace Hears

variable {items : List Offer}

theorem init (ht : u.taken = 0) (hr : u.reported = false) : u.Hears [] where
  reads := .init ht hr
  items_eq _ := rfl

theorem of_advances (h : u.Hears items) (ha : u.Advances u') : u'.Hears items where
  reads := h.reads.of_advances ha
  items_eq hf := h.items_eq (hf.of_grows ha.toGrows)

theorem detach (h : u.Hears items) : u.detach.Hears items where
  reads := h.reads.detach
  items_eq hf := h.items_eq (hf.of_grows u.grows_detach)

/-- The consumer asks, and may hear one item more. -/
theorem take (h : u.Hears items) : u.take.Hears (items ++ u.offer.toList) := by
  by_cases hp : u.offer = .pending
  · rw [GenerationUnit.take, hp]
    simpa [Offer.toList] using h
  · have hlist : u.offer.toList = [u.offer] := by
      cases ho : u.offer with
      | pending => exact absurd ho hp
      | fragment | failed | ended => rfl
    rw [hlist]
    refine ⟨by simpa using h.reads.take hp, fun {script} hf => ?_⟩
    have hfit : u.Fits script := hf.of_grows u.grows_take
    rw [List.length_append, List.length_singleton, List.range_succ, List.map_append,
      ← h.items_eq hfit, List.map_singleton, ← h.reads.offer_eq hfit hp]

end Hears

/-! ### How a call plays its script -/

/-- Nothing has changed for the call. -/
structure SameCall (u u' : GenerationUnit ι) : Prop where
  call_eq : u'.call = u.call
  script_eq : u'.script = u.script
  emitted_eq : u'.emitted = u.emitted
  ending_eq : u'.ending = u.ending
  finished_eq : u'.finished = u.finished

theorem SameCall.refl (u : GenerationUnit ι) : u.SameCall u :=
  ⟨rfl, rfl, rfl, rfl, rfl⟩

theorem sameCall_take (u : GenerationUnit ι) : u.SameCall u.take :=
  ⟨u.take_call, u.take_script, u.take_emitted, u.take_ending, u.take_finished⟩

theorem sameCall_detach (u : GenerationUnit ι) : u.SameCall u.detach :=
  ⟨rfl, rfl, rfl, rfl, rfl⟩

/-- The unit of a call with a script has made `m` steps: one for each fragment of the script, one in
which the call ends, and one in which the unit leaves the gate. -/
structure Plays (script : CallScript) (m : Nat) (u : GenerationUnit ι) : Prop where
  le : m ≤ script.emits.length + 2
  script_eq : m ≤ script.emits.length → u.script = some ⟨script.emits.drop m, script.ending⟩
  emitted_eq : u.emitted = (script.emits.take m).filter (!·.isEmpty)
  ending_eq : u.ending = if script.emits.length < m then some script.ending else none
  finished_eq : u.finished = decide (script.emits.length + 2 ≤ m)

namespace Plays

variable {m : Nat}

/-- Where the call begins. -/
theorem init (hs : u.script = some script) (hm : u.emitted = []) (he : u.ending = none)
    (hf : u.finished = false) : u.Plays script 0 := by
  constructor <;> simp [hs, hm, he, hf]

theorem of_sameCall (h : u.Plays script m) (hs : u.SameCall u') : u'.Plays script m :=
  ⟨h.le, fun hle => hs.script_eq.trans (h.script_eq hle), hs.emitted_eq.trans h.emitted_eq,
    hs.ending_eq.trans h.ending_eq, hs.finished_eq.trans h.finished_eq⟩

theorem isRunning_iff (h : u.Plays script m) : u.isRunning = true ↔ m ≤ script.emits.length := by
  rw [isRunning, h.ending_eq]
  by_cases hlt : script.emits.length < m
  · simp [hlt]
  · simp [Nat.not_lt.1 hlt]

theorem fits (h : u.Plays script m) : u.Fits script where
  emitted_isPrefix := by
    rw [h.emitted_eq]
    exact (List.take_prefix _ _).filter _
  ending_eq he := by
    rw [h.ending_eq] at he
    split at he
    · rename_i hlt
      rw [h.emitted_eq, List.take_of_length_le (Nat.le_of_lt hlt)]
      exact ⟨rfl, Option.some.inj he⟩
    · cases he

/-- A step of the call is the next thing in its script. -/
theorem callStep? (h : u.Plays script m) {events : List LogEvent}
    (hstep : u.callStep? = some (u', events)) : u'.Plays script (m + 1) := by
  have hle := h.isRunning_iff.1 (isRunning_of_callStep? hstep)
  have hscript := h.script_eq hle
  have hfin : u.finished = false := by simp [h.finished_eq]; omega
  have hending : u.ending = none := by simp [h.ending_eq, hle]
  unfold GenerationUnit.callStep? at hstep
  rw [hending, hscript] at hstep
  cases hdrop : script.emits.drop m with
  | cons text emits =>
    rw [hdrop] at hstep
    obtain ⟨rfl, -⟩ := Prod.mk.inj (Option.some.inj hstep)
    have hlt : m < script.emits.length := by
      refine Nat.lt_of_not_le fun hge => ?_
      rw [List.drop_of_length_le hge] at hdrop
      cases hdrop
    rw [List.drop_eq_getElem_cons hlt] at hdrop
    obtain ⟨rfl, rfl⟩ := List.cons.inj hdrop
    refine ⟨by omega, fun _ => emit_script _ _, ?_, ?_, ?_⟩
    · rw [emit_emitted, List.take_succ_eq_append_getElem hlt, List.filter_append, h.emitted_eq]
    · simp [Nat.not_lt.2 hlt]
    · simp [hfin]
      omega
  | nil =>
    rw [hdrop] at hstep
    obtain ⟨rfl, -⟩ := Prod.mk.inj (Option.some.inj hstep)
    have hm : m = script.emits.length := Nat.le_antisymm hle (List.drop_eq_nil_iff.1 hdrop)
    refine ⟨by omega, fun h' => by omega, ?_, ?_, ?_⟩
    · rw [h.emitted_eq, hm, List.take_length, List.take_of_length_le (Nat.le_succ _)]
    · simp [hm]
    · simp [hfin, hm]

/-- The unit leaves the gate when its call has ended. -/
theorem leave (h : u.Plays script m) (he : u.ending.isSome = true) (hf : u.finished = false) :
    ({ u with finished := true } : GenerationUnit ι).Plays script (m + 1) := by
  have hlt : script.emits.length < m := by
    refine Nat.lt_of_not_le fun hle => ?_
    simp [h.ending_eq, Nat.not_lt.2 hle] at he
  have hm : m < script.emits.length + 2 := by
    simpa [h.finished_eq] using hf
  refine ⟨by omega, fun h' => by omega, ?_, ?_, ?_⟩
  · rw [h.emitted_eq, List.take_of_length_le (by omega), List.take_of_length_le (by omega)]
  · rw [h.ending_eq, if_pos hlt, if_pos (by omega)]
  · exact (decide_eq_true (by omega)).symm

end Plays

end GenerationUnit

end StreamedInference
