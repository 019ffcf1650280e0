import StreamedInference.Generation.Accelerator
import StreamedInference.Proofs.Gate.Queue
import StreamedInference.Proofs.Generation.Advance

/-!
# One call at a time

Whatever parties, units and drivers do to an accelerator is one of a few moves
(`Accelerator.Step`). All of them keep one equation: the owners of the units that have not left
the gate are the party inside the gate, so there is at most one such unit
(`Accelerator.Guarded`). A unit leaves the gate only after its call has ended, so a call in
progress is a call inside the gate.

## Main definitions

* `Accelerator.Works`, `Accelerator.Step`: what a unit does, and any move of an accelerator.
* `Accelerator.roster`: the owners of all units, and which of them have left the gate.
* `Accelerator.Guarded`: the units that have not left the gate are those inside it.

## Main results

* `Accelerator.Guarded.step`: every move keeps an accelerator guarded.
* `Accelerator.Guarded.length_running_le_one`: at most one call is in progress.
* `Accelerator.Step.exists_unit`: a unit stays in its place, and one whose call is in progress
  does not leave the gate in one move.
-/

namespace StreamedInference

/-- An element of a list splits it, and replacing the element changes nothing else. -/
theorem exists_append_set {α : Type} {l : List α} {n : Nat} {a : α} (h : l[n]? = some a)
    (a' : α) : ∃ l₁ l₂, l = l₁ ++ a :: l₂ ∧ l₁.length = n ∧ l.set n a' = l₁ ++ a' :: l₂ := by
  obtain ⟨hn, rfl⟩ := List.getElem?_eq_some_iff.1 h
  exact List.exists_of_set hn

/-- A change of an element replaces it. -/
theorem modify_eq_set {α : Type} {l : List α} {n : Nat} {a : α} (h : l[n]? = some a)
    (f : α → α) : l.modify n f = l.set n (f a) := by
  have : Inhabited α := ⟨a⟩
  rw [List.modify_eq_set, h]
  rfl

/-- A function of the elements does not see a replacement that it does not distinguish. -/
theorem map_set_of_eq {α β : Type} {l : List α} {n : Nat} {a a' : α} {f : α → β}
    (h : l[n]? = some a) (hf : f a' = f a) : (l.set n a').map f = l.map f := by
  obtain ⟨l₁, l₂, hl, -, hset⟩ := exists_append_set h a'
  rw [hset, hl]
  simp only [List.map_append, List.map_cons, hf]

namespace Accelerator

variable {ι : Type} [DecidableEq ι]

/-- A unit does something, or none does: its call goes on, or it leaves the gate after the end of
its call. -/
inductive Works (a : Accelerator ι) : Accelerator ι → Prop
  | rest : Works a a
  | advance {n : Nat} {u u' : GenerationUnit ι} (hu : a.units[n]? = some u) (h : u.Advances u')
      (hf : u'.finished = u.finished) : Works a { a with units := a.units.set n u' }
  | leave {n : Nat} {u : GenerationUnit ι} (hu : a.units[n]? = some u)
      (he : u.ending.isSome = true) (hf : u.finished = false) :
      Works a { a with
        gate := a.gate.release u.owner
        units := a.units.set n { u with finished := true } }

/-- A move of an accelerator: a unit does something; or a party asks for the gate, gives up,
enters with a call, takes something from its unit or leaves it alone. -/
inductive Step (a : Accelerator ι) : Accelerator ι → Prop
  | works {a' : Accelerator ι} (h : a.Works a') : Step a a'
  | request (p : ι) : Step a (a.request p)
  | withdraw (p : ι) : Step a (a.withdraw p)
  | start (p : ι) (call : GenerateCall) (hp : a.gate.mayEnter p = true) : Step a (a.start p call)
  | take (p : ι) : Step a (a.take p)
  | detach (p : ι) : Step a (a.detach p)

/-- A step of a unit is a step of its call, or the unit leaves the gate after the end of its
call. -/
theorem exists_of_unitStep? {a : Accelerator ι} {n : Nat} {progress : Progress ι}
    (h : a.unitStep? n = some progress) : ∃ u, a.units[n]? = some u ∧
      ((∃ u' events, u.callStep? = some (u', events) ∧
        progress = ⟨{ a with units := a.units.set n u' }, events, false⟩) ∨
      (u.ending.isSome = true ∧ u.finished = false ∧
        progress = ⟨{ a with
          gate := a.gate.release u.owner
          units := a.units.set n { u with finished := true } }, [], true⟩)) := by
  unfold unitStep? at h
  split at h
  · cases h
  · rename_i u hu
    refine ⟨u, hu, ?_⟩
    split at h
    · rename_i u' events hstep
      exact .inl ⟨u', events, hstep, (Option.some.inj h).symm⟩
    · split at h
      · rename_i hleave
        simp only [Bool.and_eq_true, Bool.not_eq_true'] at hleave
        exact .inr ⟨hleave.1, hleave.2, (Option.some.inj h).symm⟩
      · cases h

theorem works_of_unitStep? {a : Accelerator ι} {n : Nat} {progress : Progress ι}
    (h : a.unitStep? n = some progress) : a.Works progress.accelerator := by
  obtain ⟨u, hu, ⟨u', events, hstep, rfl⟩ | ⟨he, hf, rfl⟩⟩ := exists_of_unitStep? h
  · obtain ⟨hadv, hf⟩ := GenerationUnit.advances_callStep? hstep
    exact .advance hu hadv hf
  · exact .leave hu he hf

omit [DecidableEq ι] in
/-- A call that is driven from outside is in progress. -/
theorem isRunning_of_drivenPlace? {a : Accelerator ι} {n : Nat} {u : GenerationUnit ι}
    (h : a.drivenPlace? = some n) (hu : a.units[n]? = some u) : u.isRunning = true := by
  obtain ⟨hn, hp, -⟩ := List.findIdx?_eq_some_iff_getElem.1 h
  obtain ⟨-, rfl⟩ := List.getElem?_eq_some_iff.1 hu
  exact (Bool.and_eq_true_iff.1 hp).1

theorem works_of_emit? {a a' : Accelerator ι} {text : String} {report : EmitReport}
    (h : a.emit? text = some (report, a')) : a.Works a' := by
  unfold emit? at h
  split at h
  · cases h
  · rename_i n hn
    split at h
    · cases h
    · rename_i u hu
      obtain ⟨-, rfl⟩ := Prod.mk.inj (Option.some.inj h)
      exact .advance hu
        (GenerationUnit.advances_emit (isRunning_of_drivenPlace? hn hu) u.script text)
        (GenerationUnit.emit_finished u text)

theorem works_of_conclude? {a a' : Accelerator ι} {ending : Ending}
    (h : a.conclude? ending = some a') : a.Works a' := by
  unfold conclude? at h
  split at h
  · cases h
  · split at h
    · cases h
    · rename_i u hu
      obtain rfl := Option.some.inj h
      exact .advance hu (u.advances_script _) rfl

/-! ### The roster of units -/

/-- The owners of all units, and whether the units have left the gate. -/
def roster (a : Accelerator ι) : List (ι × Bool) :=
  a.units.map fun u => (u.owner, u.finished)

omit [DecidableEq ι] in
theorem map_owner_unfinished (a : Accelerator ι) :
    a.unfinished.map (·.owner) = (a.roster.filter (!·.2)).map Prod.fst := by
  simp [unfinished, roster, List.filter_map, Function.comp_def]

/-- A function of the units does not see a change that it does not distinguish. -/
theorem map_units_change {β : Type} (a : Accelerator ι) (p : ι)
    {f : GenerationUnit ι → GenerationUnit ι} {g : GenerationUnit ι → β}
    (hg : ∀ u, g (f u) = g u) : (a.change p f).units.map g = a.units.map g := by
  simp only [change, List.map_map]
  refine List.map_congr_left fun u _ => ?_
  by_cases h : u.owner = p <;> simp [h, hg]

theorem roster_change (a : Accelerator ι) (p : ι) {f : GenerationUnit ι → GenerationUnit ι}
    (ho : ∀ u, (f u).owner = u.owner) (hf : ∀ u, (f u).finished = u.finished) :
    (a.change p f).roster = a.roster :=
  a.map_units_change p fun u => by rw [ho, hf]

@[simp] theorem roster_take (a : Accelerator ι) (p : ι) : (a.take p).roster = a.roster :=
  a.roster_change p GenerationUnit.take_owner GenerationUnit.take_finished

@[simp] theorem roster_detach (a : Accelerator ι) (p : ι) : (a.detach p).roster = a.roster :=
  a.roster_change p (fun _ => rfl) fun _ => rfl

@[simp] theorem roster_start (a : Accelerator ι) (p : ι) (call : GenerateCall) :
    (a.start p call).roster = a.roster ++ [(p, false)] := by
  simp [roster, start]

/-! ### The invariant -/

/-- The units that have not left the gate are those inside it. -/
structure Guarded (a : Accelerator ι) : Prop where
  owner_unfinished : a.unfinished.map (·.owner) = a.gate.holder?.toList
  isSome_ending : ∀ u ∈ a.units, u.finished = true → u.ending.isSome = true
  peak_le_one : a.peak ≤ 1

namespace Guarded

variable {a a' : Accelerator ι}

omit [DecidableEq ι] in
theorem init (engine : Engine) : Guarded ({ engine := engine } : Accelerator ι) where
  owner_unfinished := rfl
  isSome_ending := by simp
  peak_le_one := Nat.zero_le _

omit [DecidableEq ι] in
/-- A unit that has not left the gate is inside it. -/
theorem holder?_eq (ha : a.Guarded) {u : GenerationUnit ι} (hu : u ∈ a.units)
    (hf : u.finished = false) : a.gate.holder? = some u.owner := by
  have hmem : u.owner ∈ a.unfinished.map (·.owner) :=
    List.mem_map_of_mem (List.mem_filter.2 ⟨hu, by simp [hf]⟩)
  rw [ha.owner_unfinished] at hmem
  simpa using hmem

omit [DecidableEq ι] in
theorem finished_of_isRunning (ha : a.Guarded) {u : GenerationUnit ι} (hu : u ∈ a.units)
    (hr : u.isRunning = true) : u.finished = false := by
  cases hf : u.finished with
  | false => rfl
  | true =>
    have he := ha.isSome_ending u hu hf
    simp [Option.isNone_iff_eq_none.1 hr] at he

omit [DecidableEq ι] in
theorem unfinished_eq_nil (ha : a.Guarded) (h : a.gate.holder? = none) : a.unfinished = [] := by
  have hmap := ha.owner_unfinished
  rw [h] at hmap
  exact List.map_eq_nil_iff.1 hmap

omit [DecidableEq ι] in
/-- At most one unit is at the gate. -/
theorem length_unfinished_le_one (ha : a.Guarded) : a.unfinished.length ≤ 1 := by
  have hlen := congrArg List.length ha.owner_unfinished
  rw [List.length_map] at hlen
  rw [hlen]
  cases a.gate.holder? <;> simp

omit [DecidableEq ι] in
/-- A call in progress belongs to a unit at the gate. -/
theorem running_sublist (ha : a.Guarded) : a.running.Sublist a.unfinished := by
  have h : a.running = a.unfinished.filter (·.isRunning) := by
    rw [running, unfinished, List.filter_filter]
    refine List.filter_congr fun u hu => ?_
    cases hr : u.isRunning with
    | false => rfl
    | true => simp [ha.finished_of_isRunning hu hr]
  rw [h]
  exact List.filter_sublist

omit [DecidableEq ι] in
/-- **At most one call is in progress.** -/
theorem length_running_le_one (ha : a.Guarded) : a.running.length ≤ 1 :=
  Nat.le_trans ha.running_sublist.length_le ha.length_unfinished_le_one

omit [DecidableEq ι] in
/-- All units but the one at the gate have left it. -/
theorem finished_of_split (ha : a.Guarded) {l₁ l₂ : List (GenerationUnit ι)}
    {u : GenerationUnit ι} (h : a.units = l₁ ++ u :: l₂) (hf : u.finished = false) :
    ∀ v ∈ l₁ ++ l₂, v.finished = true := by
  have hlen := ha.length_unfinished_le_one
  simp only [unfinished, h, List.filter_append, List.filter_cons, hf, Bool.not_false, if_true,
    List.length_append, List.length_cons] at hlen
  have hnil : (l₁ ++ l₂).filter (!·.finished) = [] := by
    rw [List.filter_append]
    exact List.eq_nil_of_length_eq_zero (by rw [List.length_append]; omega)
  intro v hv
  simpa using List.filter_eq_nil_iff.1 hnil v hv

omit [DecidableEq ι] in
/-- There is only one place at which a unit can be that has not left the gate. -/
theorem place_unique (ha : a.Guarded) {m n : Nat} {u v : GenerationUnit ι}
    (hu : a.units[n]? = some u) (hf : u.finished = false) (hv : a.units[m]? = some v)
    (hf' : v.finished = false) : m = n := by
  obtain ⟨l₁, l₂, hl, hlen, -⟩ := exists_append_set hu u
  have hfin := ha.finished_of_split hl hf
  rw [hl] at hv
  rcases Nat.lt_trichotomy m n with h | h | h
  · rw [List.getElem?_append_left (by omega)] at hv
    have := hfin v (List.mem_append_left _ (List.mem_of_getElem? hv))
    simp [hf'] at this
  · exact h
  · obtain ⟨k, rfl⟩ : ∃ k, m = n + (k + 1) := ⟨m - n - 1, by omega⟩
    rw [List.getElem?_append_right (by omega), show n + (k + 1) - l₁.length = k + 1 by omega,
      List.getElem?_cons_succ] at hv
    have := hfin v (List.mem_append_right _ (List.mem_of_getElem? hv))
    simp [hf'] at this

omit [DecidableEq ι] in
/-- Whoever is inside the gate owns a unit there. -/
theorem exists_unit_of_holder? (ha : a.Guarded) {p : ι} (hp : a.gate.holder? = some p) :
    ∃ (n : Nat) (u : GenerationUnit ι), a.units[n]? = some u ∧ u.finished = false ∧
      u.owner = p := by
  have hmem : p ∈ a.unfinished.map (·.owner) := by simp [ha.owner_unfinished, hp]
  obtain ⟨u, hu, rfl⟩ := List.mem_map.1 hmem
  obtain ⟨hu, hf⟩ := List.mem_filter.1 hu
  obtain ⟨n, hn⟩ := List.getElem?_of_mem hu
  exact ⟨n, u, hn, by simpa using hf, rfl⟩

omit [DecidableEq ι] in
theorem of_roster_eq (ha : a.Guarded) (hr : a'.roster = a.roster)
    (hg : a'.gate.holder? = a.gate.holder?) (hp : a'.peak = a.peak)
    (he : ∀ u ∈ a'.units, u.finished = true → u.ending.isSome = true) : a'.Guarded where
  owner_unfinished := by
    rw [map_owner_unfinished, hr, ← map_owner_unfinished, ha.owner_unfinished, hg]
  isSome_ending := he
  peak_le_one := hp ▸ ha.peak_le_one

theorem change (ha : a.Guarded) (p : ι) {f : GenerationUnit ι → GenerationUnit ι}
    (ho : ∀ u, (f u).owner = u.owner) (hf : ∀ u, (f u).finished = u.finished)
    (he : ∀ u, (f u).ending = u.ending) : (a.change p f).Guarded := by
  refine ha.of_roster_eq (a.roster_change p ho hf) rfl rfl fun u hu hfin => ?_
  obtain ⟨v, hv, rfl⟩ := List.mem_map.1 hu
  by_cases h : v.owner = p
  · simp only [h, if_true, hf, he] at hfin ⊢
    exact ha.isSome_ending v hv hfin
  · simp only [h, if_false] at hfin ⊢
    exact ha.isSome_ending v hv hfin

theorem start (ha : a.Guarded) {p : ι} (call : GenerateCall) (hp : a.gate.mayEnter p = true) :
    (a.start p call).Guarded where
  owner_unfinished := by
    -- The gate is empty, so the new unit is the only one there.
    have hnil := ha.unfinished_eq_nil (Gate.mayEnter_iff.1 hp).1
    have hold : (a.roster.filter (!·.2)).map Prod.fst = [] := by
      rw [← map_owner_unfinished, hnil, List.map_nil]
    have hholder : (a.start p call).gate.holder? = some p := Gate.holder?_enter hp
    rw [map_owner_unfinished, roster_start, List.filter_append, List.map_append, hold, hholder]
    rfl
  isSome_ending u hu hf := by
    rcases List.mem_append.1 hu with hu | hu
    · exact ha.isSome_ending u hu hf
    · obtain rfl := List.mem_singleton.1 hu
      cases hf
  peak_le_one := by
    have hrun : a.running = [] := List.sublist_nil.1
      (ha.unfinished_eq_nil (Gate.mayEnter_iff.1 hp).1 ▸ ha.running_sublist)
    have hpeak := ha.peak_le_one
    simp only [Accelerator.start, hrun, List.length_nil]
    omega

omit [DecidableEq ι] in
theorem advance (ha : a.Guarded) {n : Nat} {u u' : GenerationUnit ι}
    (hu : a.units[n]? = some u) (h : u.Advances u') (hf : u'.finished = u.finished) :
    ({ a with units := a.units.set n u' } : Accelerator ι).Guarded := by
  refine ha.of_roster_eq ?_ rfl rfl fun v hv hfin => ?_
  · exact map_set_of_eq hu (by rw [h.owner_eq, hf])
  · rcases List.mem_or_eq_of_mem_set hv with hv | rfl
    · exact ha.isSome_ending v hv hfin
    · rw [hf] at hfin
      obtain ⟨e, he⟩ :=
        Option.isSome_iff_exists.1 (ha.isSome_ending u (List.mem_of_getElem? hu) hfin)
      simp [(h.ending_eq he).1]

/-- The unit that leaves the gate was the only one there. -/
theorem leave (ha : a.Guarded) {n : Nat} {u : GenerationUnit ι} (hu : a.units[n]? = some u)
    (he : u.ending.isSome = true) (hf : u.finished = false) :
    ({ a with
      gate := a.gate.release u.owner
      units := a.units.set n { u with finished := true } } : Accelerator ι).Guarded := by
  obtain ⟨l₁, l₂, hl, -, hset⟩ := exists_append_set hu { u with finished := true }
  have hfin := ha.finished_of_split hl hf
  have hholder := ha.holder?_eq (List.mem_of_getElem? hu) hf
  refine ⟨?_, fun v hv hv' => ?_, ha.peak_le_one⟩
  · -- Nobody is left at the gate, and nobody is inside.
    have hnil : (l₁ ++ { u with finished := true } :: l₂).filter (!·.finished) = [] := by
      refine List.filter_eq_nil_iff.2 fun v hv => ?_
      rcases List.mem_append.1 hv with hv | hv
      · simp [hfin v (List.mem_append_left _ hv)]
      · rcases List.mem_cons.1 hv with rfl | hv
        · simp
        · simp [hfin v (List.mem_append_right _ hv)]
    simp only [unfinished, hset, hnil, Gate.holder?_release, hholder]
    rfl
  · rcases List.mem_or_eq_of_mem_set hv with hv | rfl
    · exact ha.isSome_ending v hv hv'
    · exact he

theorem works (ha : a.Guarded) (h : a.Works a') : a'.Guarded := by
  cases h with
  | rest => exact ha
  | advance hu hadv hf => exact ha.advance hu hadv hf
  | leave hu he hf => exact ha.leave hu he hf

/-- Every move keeps an accelerator guarded. -/
theorem step (ha : a.Guarded) (h : a.Step a') : a'.Guarded := by
  cases h with
  | works h => exact ha.works h
  | request p => exact ha.of_roster_eq rfl (Gate.holder?_request _ _) rfl ha.isSome_ending
  | withdraw p => exact ha.of_roster_eq rfl (Gate.holder?_withdraw _ _) rfl ha.isSome_ending
  | start p call hp => exact ha.start call hp
  | take p =>
    exact ha.change p GenerationUnit.take_owner GenerationUnit.take_finished
      GenerationUnit.take_ending
  | detach p => exact ha.change p (fun _ => rfl) (fun _ => rfl) fun _ => rfl

end Guarded

/-! ### Units stay in their places -/

theorem exists_unit_change (a : Accelerator ι) (p : ι)
    {f : GenerationUnit ι → GenerationUnit ι} (hg : ∀ u : GenerationUnit ι, u.Grows (f u))
    (hf : ∀ u, (f u).finished = u.finished) {n : Nat} {u : GenerationUnit ι}
    (hu : a.units[n]? = some u) :
    ∃ u', (a.change p f).units[n]? = some u' ∧ u.Grows u' ∧ u'.finished = u.finished := by
  by_cases h : u.owner = p
  · exact ⟨f u, by simp [change, hu, h], hg u, hf u⟩
  · exact ⟨u, by simp [change, hu, h], .refl u, rfl⟩

/-- What a unit does is seen in its place only, and as an advance. -/
theorem Works.exists_advances {a a' : Accelerator ι} (h : a.Works a') {n : Nat}
    {u : GenerationUnit ι} (hu : a.units[n]? = some u) :
    ∃ u', a'.units[n]? = some u' ∧ u.Advances u' ∧
      (u.isRunning = true → u'.finished = u.finished) := by
  have hn : n < a.units.length := (List.getElem?_eq_some_iff.1 hu).1
  cases h with
  | rest => exact ⟨u, hu, .refl u, fun _ => rfl⟩
  | @advance m v v' hv hadv hf =>
    by_cases hmn : m = n
    · subst hmn
      obtain rfl := Option.some.inj (hu.symm.trans hv)
      exact ⟨v', by simp [hn], hadv, fun _ => hf⟩
    · exact ⟨u, by simp [hmn, hu], .refl u, fun _ => rfl⟩
  | @leave m v hv he hf =>
    by_cases hmn : m = n
    · subst hmn
      obtain rfl := Option.some.inj (hu.symm.trans hv)
      refine ⟨{ u with finished := true }, by simp [hn], u.advances_finished, fun hr => ?_⟩
      have hnone : u.ending = none := Option.isNone_iff_eq_none.1 hr
      simp [hnone] at he
    · exact ⟨u, by simp [hmn, hu], .refl u, fun _ => rfl⟩

@[simp] theorem Works.length_units {a a' : Accelerator ι} (h : a.Works a') :
    a'.units.length = a.units.length := by
  cases h <;> simp

/-- What units do does not change who waits. -/
theorem Works.queue_eq {a a' : Accelerator ι} (h : a.Works a') :
    a'.gate.queue = a.gate.queue := by
  cases h <;> simp

/-- After units have done something, every unit has come from one in the same place. -/
theorem Works.exists_origin {a a' : Accelerator ι} (h : a.Works a') {n : Nat}
    {u' : GenerationUnit ι} (hu' : a'.units[n]? = some u') :
    ∃ u, a.units[n]? = some u ∧ u.Advances u' := by
  have hn : n < a.units.length := h.length_units ▸ (List.getElem?_eq_some_iff.1 hu').1
  obtain ⟨v, hv, hadv, -⟩ := h.exists_advances (List.getElem?_eq_getElem hn)
  obtain rfl := Option.some.inj (hu'.symm.trans hv)
  exact ⟨_, List.getElem?_eq_getElem hn, hadv⟩

/-- A move keeps every unit in its place, and does not let a unit leave the gate whose call is in
progress. -/
theorem Step.exists_unit {a a' : Accelerator ι} (h : a.Step a') {n : Nat}
    {u : GenerationUnit ι} (hu : a.units[n]? = some u) :
    ∃ u', a'.units[n]? = some u' ∧ u.Grows u' ∧
      (u.isRunning = true → u'.finished = u.finished) := by
  have hn : n < a.units.length := (List.getElem?_eq_some_iff.1 hu).1
  cases h with
  | works h =>
    obtain ⟨u', hu', hadv, hf⟩ := h.exists_advances hu
    exact ⟨u', hu', hadv.toGrows, hf⟩
  | request p => exact ⟨u, hu, .refl u, fun _ => rfl⟩
  | withdraw p => exact ⟨u, hu, .refl u, fun _ => rfl⟩
  | start p call hp =>
    exact ⟨u, by simp [Accelerator.start, List.getElem?_append_left hn, hu], .refl u,
      fun _ => rfl⟩
  | take p =>
    obtain ⟨u', hu', hg, hf⟩ :=
      a.exists_unit_change p GenerationUnit.grows_take GenerationUnit.take_finished hu
    exact ⟨u', hu', hg, fun _ => hf⟩
  | detach p =>
    obtain ⟨u', hu', hg, hf⟩ :=
      a.exists_unit_change p GenerationUnit.grows_detach (fun _ => rfl) hu
    exact ⟨u', hu', hg, fun _ => hf⟩

/-- Every unit after a move was there before it, or is new. -/
theorem Step.exists_origin {a a' : Accelerator ι} (h : a.Step a') {u' : GenerationUnit ι}
    (hu' : u' ∈ a'.units) : (∃ u ∈ a.units, u.Grows u') ∨ u'.emitted = [] := by
  obtain ⟨n, hn', hn⟩ := List.getElem_of_mem hu'
  by_cases hlt : n < a.units.length
  · obtain ⟨v, hv, hg, -⟩ := h.exists_unit (List.getElem?_eq_getElem hlt)
    rw [List.getElem?_eq_getElem hn', hn] at hv
    obtain rfl := Option.some.inj hv
    exact .inl ⟨_, List.getElem_mem hlt, hg⟩
  · cases h with
    | works h => exact absurd (h.length_units ▸ hn') hlt
    | request p => exact absurd hn' hlt
    | withdraw p => exact absurd hn' hlt
    | take p => exact absurd (by simpa [Accelerator.take, change] using hn') hlt
    | detach p => exact absurd (by simpa [Accelerator.detach, change] using hn') hlt
    | start p call hp =>
      rcases List.mem_append.1 hu' with hold | hnew
      · exact .inl ⟨u', hold, .refl u'⟩
      · rw [List.mem_singleton.1 hnew]
        exact .inr rfl

end Accelerator

end StreamedInference
