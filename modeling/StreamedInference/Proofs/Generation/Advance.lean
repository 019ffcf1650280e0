import StreamedInference.Generation.Unit

/-!
# How units advance

A unit changes in two ways: its consumer takes something or goes away, or its call goes on while
the consumer does nothing. This file describes the second way by what it leaves alone, whoever
drives the call.

## Main definitions

* `GenerationUnit.Grows`: what becomes of a unit whoever does something to it.
* `GenerationUnit.Advances`: a unit has gone on while its consumer did nothing.

## Main results

* `GenerationUnit.advances_emit`, `GenerationUnit.advances_callStep?`: fragments and steps of the
  call are such ways to go on.
-/

namespace StreamedInference

namespace GenerationUnit

variable {ι : Type}

/-- What becomes of a unit whoever does something to it: fragments may have been added, none of
them empty and none after the end of the call, and the call has ended at most once. -/
structure Grows (u u' : GenerationUnit ι) : Prop where
  owner_eq : u'.owner = u.owner
  call_eq : u'.call = u.call
  emitted_isPrefix : u.emitted <+: u'.emitted
  isEmpty_of : (∀ text ∈ u.emitted, text.isEmpty = false) →
    ∀ text ∈ u'.emitted, text.isEmpty = false
  ending_eq : ∀ {e : Ending}, u.ending = some e → u'.ending = some e ∧ u'.emitted = u.emitted

/-- A unit has gone on while its consumer did nothing. -/
structure Advances (u u' : GenerationUnit ι) : Prop extends Grows u u' where
  taken_eq : u'.taken = u.taken
  reported_eq : u'.reported = u.reported
  detached_eq : u'.detached = u.detached
  finished_of : u.finished = true → u'.finished = true

/-- Nothing that counts has changed. -/
theorem Grows.of_eq {u u' : GenerationUnit ι} (ho : u'.owner = u.owner) (hc : u'.call = u.call)
    (hm : u'.emitted = u.emitted) (he : u'.ending = u.ending) : u.Grows u' where
  owner_eq := ho
  call_eq := hc
  emitted_isPrefix := hm ▸ List.prefix_refl _
  isEmpty_of h := hm ▸ h
  ending_eq h := ⟨he ▸ h, hm⟩

theorem Grows.refl (u : GenerationUnit ι) : u.Grows u :=
  .of_eq rfl rfl rfl rfl

namespace Advances

theorem refl (u : GenerationUnit ι) : u.Advances u where
  toGrows := .refl u
  taken_eq := rfl
  reported_eq := rfl
  detached_eq := rfl
  finished_of h := h

end Advances

/-! ### Ways to go on -/

@[simp] theorem emit_finished (u : GenerationUnit ι) (text : String) :
    (u.emit text).finished = u.finished := by
  unfold emit
  split <;> rfl

@[simp] theorem emit_script (u : GenerationUnit ι) (text : String) :
    (u.emit text).script = u.script := by
  unfold emit
  split <;> rfl

@[simp] theorem emit_call (u : GenerationUnit ι) (text : String) : (u.emit text).call = u.call := by
  unfold emit
  split <;> rfl

@[simp] theorem emit_ending (u : GenerationUnit ι) (text : String) :
    (u.emit text).ending = u.ending := by
  unfold emit
  split <;> rfl

@[simp] theorem emit_detached (u : GenerationUnit ι) (text : String) :
    (u.emit text).detached = u.detached := by
  unfold emit
  split <;> rfl

/-- A fragment that is not empty comes behind those that have been emitted. -/
theorem emit_emitted (u : GenerationUnit ι) (text : String) :
    (u.emit text).emitted = u.emitted ++ [text].filter (!·.isEmpty) := by
  unfold emit
  split <;> simp [*]

/-- While the call is in progress a fragment may come. -/
theorem advances_emit {u : GenerationUnit ι} (h : u.isRunning = true)
    (script : Option CallScript) (text : String) :
    u.Advances ({ u with script := script }.emit text) := by
  have he : u.ending = none := Option.isNone_iff_eq_none.1 h
  unfold emit
  split
  · exact { Advances.refl u with ending_eq := fun h => ⟨h, rfl⟩ }
  · rename_i htext
    refine { Advances.refl u with
      emitted_isPrefix := List.prefix_append _ _
      isEmpty_of := fun hall t ht => ?_
      ending_eq := fun h => absurd h (by simp [he]) }
    rcases List.mem_append.1 ht with ht | ht
    · exact hall t ht
    · rw [List.mem_singleton.1 ht]
      exact Bool.eq_false_iff.2 htext

/-- What a call is still to do is nothing that a consumer could see. -/
theorem advances_script (u : GenerationUnit ι) (script : Option CallScript) :
    u.Advances { u with script := script } :=
  { Advances.refl u with ending_eq := fun h => ⟨h, rfl⟩ }

/-- A call in progress may end. -/
theorem advances_ending {u : GenerationUnit ι} (h : u.isRunning = true) (e : Ending) :
    u.Advances { u with ending := some e } :=
  { Advances.refl u with
    ending_eq := fun h' => absurd h' (by simp [Option.isNone_iff_eq_none.1 h]) }

theorem advances_finished (u : GenerationUnit ι) : u.Advances { u with finished := true } :=
  { Advances.refl u with
    ending_eq := fun h => ⟨h, rfl⟩
    finished_of := fun _ => rfl }

/-- A step of a call is a step of a call in progress. -/
theorem isRunning_of_callStep? {u u' : GenerationUnit ι} {events : List LogEvent}
    (h : u.callStep? = some (u', events)) : u.isRunning = true := by
  unfold callStep? at h
  split at h <;> simp_all [isRunning]

/-- A call in progress that has a script goes on. -/
theorem isSome_callStep? {u : GenerationUnit ι} (hr : u.isRunning = true)
    (hs : u.script.isSome = true) : u.callStep?.isSome = true := by
  obtain ⟨⟨emits, ending⟩, hs⟩ := Option.isSome_iff_exists.1 hs
  unfold callStep?
  rw [Option.isNone_iff_eq_none.1 hr, hs]
  cases emits <;> rfl

/-- A step of a call lets the unit advance; the unit stays at the gate. -/
theorem advances_callStep? {u u' : GenerationUnit ι} {events : List LogEvent}
    (h : u.callStep? = some (u', events)) : u.Advances u' ∧ u'.finished = u.finished := by
  have hr := isRunning_of_callStep? h
  unfold callStep? at h
  split at h
  · obtain ⟨rfl, -⟩ := Prod.mk.inj (Option.some.inj h)
    exact ⟨advances_emit hr _ _, emit_finished _ _⟩
  · obtain ⟨rfl, -⟩ := Prod.mk.inj (Option.some.inj h)
    exact ⟨advances_ending hr _, rfl⟩
  · cases h

/-! ### What a consumer changes -/

@[simp] theorem take_owner (u : GenerationUnit ι) : u.take.owner = u.owner := by
  unfold take
  split <;> rfl

@[simp] theorem take_finished (u : GenerationUnit ι) : u.take.finished = u.finished := by
  unfold take
  split <;> rfl

@[simp] theorem take_ending (u : GenerationUnit ι) : u.take.ending = u.ending := by
  unfold take
  split <;> rfl

@[simp] theorem take_emitted (u : GenerationUnit ι) : u.take.emitted = u.emitted := by
  unfold take
  split <;> rfl

@[simp] theorem take_call (u : GenerationUnit ι) : u.take.call = u.call := by
  unfold take
  split <;> rfl

@[simp] theorem take_detached (u : GenerationUnit ι) : u.take.detached = u.detached := by
  unfold take
  split <;> rfl

@[simp] theorem take_script (u : GenerationUnit ι) : u.take.script = u.script := by
  unfold take
  split <;> rfl

theorem grows_take (u : GenerationUnit ι) : u.Grows u.take :=
  .of_eq u.take_owner u.take_call u.take_emitted u.take_ending

theorem grows_detach (u : GenerationUnit ι) : u.Grows u.detach :=
  .of_eq rfl rfl rfl rfl

end GenerationUnit

end StreamedInference
