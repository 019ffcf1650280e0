import StreamedInference.Proofs.Generation.Exclusion

/-!
# Who has started which calls

An accelerator only ever adds to the row of its calls, and a call keeps its owner. The ledger tells
both; the names of the owners, the calls, and the calls of the parties of one group are read off
it, so what leaves the ledger alone leaves all of them alone.

## Main definitions

* `Accelerator.ledger`: the owners of all units with their calls, in order.
* `Accelerator.owners`: the owners alone.
* `Accelerator.callsOf`: the calls whose owners have the same first name.

## Main results

* `Accelerator.Works.ledger_eq`, `Accelerator.ledger_change`, `Accelerator.ledger_start`: only
  starting a call adds to the ledger.
-/

namespace StreamedInference

namespace Accelerator

section Ledger

variable {ι : Type} [DecidableEq ι]

/-- The owners of all units with their calls, in the order in which the calls began. -/
def ledger (a : Accelerator ι) : List (ι × GenerateCall) :=
  a.units.map fun u => (u.owner, u.call)

/-- The names under which units have been started, in order. -/
def owners (a : Accelerator ι) : List ι :=
  a.units.map (·.owner)

omit [DecidableEq ι] in
theorem owners_eq_ledger (a : Accelerator ι) : a.owners = a.ledger.map Prod.fst := by
  simp [owners, ledger]

omit [DecidableEq ι] in
theorem calls_eq_ledger (a : Accelerator ι) : a.calls = a.ledger.map Prod.snd := by
  simp [calls, ledger]

theorem Works.ledger_eq {a a' : Accelerator ι} (h : a.Works a') : a'.ledger = a.ledger := by
  cases h with
  | rest => rfl
  | advance hu hadv hf => exact map_set_of_eq hu (by rw [hadv.owner_eq, hadv.call_eq])
  | leave hu he hf => exact map_set_of_eq hu rfl

theorem ledger_change (a : Accelerator ι) (p : ι) {f : GenerationUnit ι → GenerationUnit ι}
    (hg : ∀ u : GenerationUnit ι, u.Grows (f u)) : (a.change p f).ledger = a.ledger :=
  a.map_units_change p fun u => by rw [(hg u).owner_eq, (hg u).call_eq]

@[simp] theorem ledger_take (a : Accelerator ι) (p : ι) : (a.take p).ledger = a.ledger :=
  a.ledger_change p GenerationUnit.grows_take

@[simp] theorem ledger_detach (a : Accelerator ι) (p : ι) : (a.detach p).ledger = a.ledger :=
  a.ledger_change p GenerationUnit.grows_detach

@[simp] theorem ledger_start (a : Accelerator ι) (p : ι) (call : GenerateCall) :
    (a.start p call).ledger = a.ledger ++ [(p, call)] := by
  simp [ledger, start]

omit [DecidableEq ι] in
theorem owners_congr {a a' : Accelerator ι} (h : a'.ledger = a.ledger) :
    a'.owners = a.owners := by
  rw [owners_eq_ledger, owners_eq_ledger, h]

omit [DecidableEq ι] in
theorem calls_congr {a a' : Accelerator ι} (h : a'.ledger = a.ledger) : a'.calls = a.calls := by
  rw [calls_eq_ledger, calls_eq_ledger, h]

@[simp] theorem owners_start (a : Accelerator ι) (p : ι) (call : GenerateCall) :
    (a.start p call).owners = a.owners ++ [p] := by
  simp [owners_eq_ledger]

omit [DecidableEq ι] in
theorem owner_mem_owners {a : Accelerator ι} {u : GenerationUnit ι} (h : u ∈ a.units) :
    u.owner ∈ a.owners :=
  List.mem_map_of_mem h

/-- If no two units have the same owner, the unit of an owner is found by its name. -/
theorem unit?_eq_some {a : Accelerator ι} (hn : a.owners.Nodup) {u : GenerationUnit ι}
    (hu : u ∈ a.units) : a.unit? u.owner = some u := by
  obtain ⟨before, after, hunits⟩ := List.append_of_mem hu
  have hbefore : ∀ v ∈ before, ¬ v.owner = u.owner := by
    rw [owners, hunits, List.map_append, List.nodup_append] at hn
    exact fun v hv => hn.2.2 _ (List.mem_map_of_mem hv) _ (by simp)
  rw [unit?, hunits, List.find?_append, List.find?_eq_none.2 (by simpa using hbefore)]
  simp

/-- What is offered to a party is what its unit offers. -/
theorem offer_eq {a : Accelerator ι} (hn : a.owners.Nodup) {u : GenerationUnit ι}
    (hu : u ∈ a.units) : a.offer u.owner = u.offer := by
  rw [offer, unit?_eq_some hn hu]

theorem mem_units_change {a : Accelerator ι} {u : GenerationUnit ι} (hu : u ∈ a.units)
    (f : GenerationUnit ι → GenerationUnit ι) : f u ∈ (a.change u.owner f).units :=
  List.mem_map.2 ⟨u, hu, if_pos rfl⟩

theorem mem_units_change_of_ne {a : Accelerator ι} {p : ι} {u : GenerationUnit ι}
    (hu : u ∈ a.units) (hp : u.owner ≠ p) (f : GenerationUnit ι → GenerationUnit ι) :
    u ∈ (a.change p f).units :=
  List.mem_map.2 ⟨u, hu, if_neg hp⟩

end Ledger

/-! ### Calls of one group -/

/-- The calls whose owners have the same first name. -/
def callsOf (a : Accelerator (Nat × Nat)) (i : Nat) : List GenerateCall :=
  (a.units.filter (·.owner.1 = i)).map (·.call)

theorem callsOf_eq_ledger (a : Accelerator (Nat × Nat)) (i : Nat) :
    a.callsOf i = (a.ledger.filter (·.1.1 = i)).map Prod.snd := by
  simp [callsOf, ledger, List.filter_map, Function.comp_def]

theorem callsOf_congr {a a' : Accelerator (Nat × Nat)} (h : a'.ledger = a.ledger) (i : Nat) :
    a'.callsOf i = a.callsOf i := by
  rw [callsOf_eq_ledger, callsOf_eq_ledger, h]

theorem callsOf_start_self (a : Accelerator (Nat × Nat)) (i k : Nat) (call : GenerateCall) :
    (a.start (i, k) call).callsOf i = a.callsOf i ++ [call] := by
  simp [callsOf_eq_ledger]

theorem callsOf_start_of_ne (a : Accelerator (Nat × Nat)) {i j : Nat} (h : j ≠ i) (k : Nat)
    (call : GenerateCall) : (a.start (j, k) call).callsOf i = a.callsOf i := by
  simp [callsOf_eq_ledger, h]

/-- A group that owns no unit has made no call. -/
theorem callsOf_eq_nil {a : Accelerator (Nat × Nat)} {i : Nat}
    (h : ∀ k, (i, k) ∉ a.owners) : a.callsOf i = [] := by
  rw [callsOf, List.filter_eq_nil_iff.2, List.map_nil]
  intro u hu hi
  exact h u.owner.2 (by
    have howner : u.owner = (i, u.owner.2) := by rw [← of_decide_eq_true hi]
    exact howner ▸ owner_mem_owners hu)

end Accelerator

end StreamedInference
