import StreamedInference.Proofs.Service.Run

/-!
# The gate is held as long as a call is in progress

Sessions come and go, but the gate is held by units. A unit is at the gate from the moment in which
a session enters with its call until the call has ended, whatever becomes of the session, and then
it leaves by a step of its own that nobody can hold up. So at most one call is in progress.

## Main results

* `Service.IsReachable.guarded`: in every service that can be reached the units at the gate are
  those inside it.
* `Service.calls_exclusive`: at most one call is in progress, and the gate is held exactly while
  its unit is at the gate.
-/

namespace StreamedInference

namespace Service

theorem IsReachable.guarded {s : Service} (h : s.IsReachable) : s.accelerator.Guarded := by
  refine IsReachable.of_move (P := fun s => s.accelerator.Guarded) (fun s hs => ?_)
    (fun s s' arrived ih hm => ih.step hm.step_accelerator) h
  obtain ⟨engine, ha⟩ := hs.accelerator_eq
  exact ha ▸ .init engine

/-- A unit whose call has ended leaves the gate by its next step, which needs no party. -/
theorem unitStep?_of_ending {s : Service} {n : Nat} {u : GenerationUnit TurnName} {e : Ending}
    (hu : s.accelerator.units[n]? = some u) (he : u.ending = some e) (hf : u.finished = false) :
    s.step? (.unit n) = some { s with
      accelerator := { s.accelerator with
        gate := s.accelerator.gate.release u.owner
        units := s.accelerator.units.set n { u with finished := true } }
      log := s.log ++ []
      pool := s.pool.untrack } := by
  have hcall : u.callStep? = none := by
    unfold GenerationUnit.callStep?
    rw [he]
  simp [step?, unitStep?, Accelerator.unitStep?, hu, hcall, he, hf]

/-- **One call at a time.** In every service that can be reached, with any number of sessions:

* at most one call is in progress, and there never were two;
* a unit that has not left the gate is inside it, and whoever is inside is the owner of exactly
  one such unit;
* whatever happens next, a unit whose call is in progress stays inside the gate;
* a unit whose call has ended, in whichever way, leaves the gate by its own next step; this changes
  no client and no other unit, and nobody is inside the gate any more.

Nothing is assumed of the sessions that own the units: they may have closed long ago. -/
theorem calls_exclusive {s : Service} (h : s.IsReachable) :
    s.accelerator.running.length ≤ 1 ∧ s.accelerator.peak ≤ 1 ∧
    (∀ u ∈ s.accelerator.units, u.finished = false →
      s.accelerator.gate.holder? = some u.owner) ∧
    (∀ p, s.accelerator.gate.holder? = some p → ∃ (n : Nat) (u : GenerationUnit TurnName),
      s.accelerator.units[n]? = some u ∧ u.finished = false ∧ u.owner = p ∧
        ∀ (m : Nat) (v : GenerationUnit TurnName), s.accelerator.units[m]? = some v →
          v.finished = false → m = n) ∧
    (∀ (n : Nat) (u : GenerationUnit TurnName), s.accelerator.units[n]? = some u →
      u.isRunning = true → ∀ s', ((∃ a, s' = s.act a) ∨ ∃ t, s.step? t = some s') →
        s'.accelerator.gate.holder? = some u.owner ∧
        ∃ u', s'.accelerator.units[n]? = some u' ∧ u'.owner = u.owner ∧ u'.finished = false) ∧
    (∀ (n : Nat) (u : GenerationUnit TurnName) (e : Ending),
      s.accelerator.units[n]? = some u → u.ending = some e → u.finished = false →
      ∃ s', s.step? (.unit n) = some s' ∧ s'.clients = s.clients ∧
        s'.accelerator.units = s.accelerator.units.set n { u with finished := true } ∧
        s'.accelerator.gate.holder? = none ∧
        s'.accelerator.gate.queue = s.accelerator.gate.queue) := by
  have hg := h.guarded
  refine ⟨hg.length_running_le_one, hg.peak_le_one, fun u hu hf => hg.holder?_eq hu hf, ?_, ?_, ?_⟩
  · intro p hp
    obtain ⟨n, u, hu, hf, ho⟩ := hg.exists_unit_of_holder? hp
    exact ⟨n, u, hu, hf, ho, fun m v hv hf' => hg.place_unique hu hf hv hf'⟩
  · intro n u hu hr s' hs'
    obtain ⟨arrived, hm⟩ : ∃ arrived, s.Move arrived s' := by
      rcases hs' with ⟨a, rfl⟩ | ⟨t, ht⟩
      · exact ⟨_, s.move_act a⟩
      · exact ⟨_, move_of_step? ht⟩
    obtain ⟨u', hu', hgrows, hf⟩ := hm.step_accelerator.exists_unit hu
    have hf' : u'.finished = false :=
      (hf hr).trans (hg.finished_of_isRunning (List.mem_of_getElem? hu) hr)
    have hholder := (hg.step hm.step_accelerator).holder?_eq (List.mem_of_getElem? hu') hf'
    exact ⟨hgrows.owner_eq ▸ hholder, u', hu', hgrows.owner_eq, hf'⟩
  · intro n u e hu he hf
    refine ⟨_, unitStep?_of_ending hu he hf, rfl, rfl, ?_, Gate.queue_release _ _⟩
    rw [Gate.holder?_release, if_pos (hg.holder?_eq (List.mem_of_getElem? hu) hf)]

/-- Two clients, of whom the first goes away while the engine works for it and the second waits. -/
def desertion : List Event :=
  [.act (.enter false), .act (.enter false),
    .act (.send 0 (.fragment { message := "one" })),
    .act (.send 1 (.fragment { message := "two" })),
    .step (.admission 0), .step (.admission 1),
    .step (.session 0), .step (.session 0), .step (.session 0),
    .step (.session 1), .step (.session 1),
    .act (.disconnect 0), .step (.session 0)]

/-- What they lead to in a service with two slots. -/
def deserted : Service :=
  (replay? { pool := .ofLimit 2 } desertion).get (by decide +kernel)

theorem isReachable_deserted : deserted.IsReachable := by
  have hstart : create? {} {} 2 = .ok { pool := .ofLimit 2 } := rfl
  exact (IsReachable.start hstart).replay (Option.some_get _).symm

/-- A session that has closed leaves its call in progress, and the gate stays held by its unit. -/
theorem calls_exclusive_of_desertion : deserted.IsReachable ∧
    deserted.clients.map (·.session.closeReason?) = [some .clientGone, none] ∧
    deserted.accelerator.gate.queue = [(1, 1)] ∧ deserted.accelerator.running.length = 1 ∧
    deserted.accelerator.gate.holder? = some (0, 1) := by
  refine ⟨isReachable_deserted, by decide +kernel, by decide +kernel, by decide +kernel, ?_⟩
  have hunit : ∃ u ∈ deserted.accelerator.units, u.owner = (0, 1) ∧ u.finished = false := by
    decide +kernel
  obtain ⟨u, hu, howner, hf⟩ := hunit
  rw [← howner]
  exact (calls_exclusive isReachable_deserted).2.2.1 u hu hf

end Service

end StreamedInference
