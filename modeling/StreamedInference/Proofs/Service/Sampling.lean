import StreamedInference.Proofs.Service.Faithful
import StreamedInference.Proofs.Settings.Acceptance
import StreamedInference.Proofs.Single.Order

/-!
# What the engine is told

A configuration is accepted only if its sampling parameters are in range, and a wish for another
temperature counts only if it is finite and positive, so the parameters of every turn are in range.
Since a session makes the calls of its course, each call has the parameters of the fragment with
its own number: a wish does not outlast its turn.

## Main results

* `Sampling.InRange.withTemperature`: a wish keeps parameters in range.
* `Service.Run.call_of_callsOf`: the calls of a client by the numbers of its fragments.
* `Service.calls_sampled`: the parameters of all calls in any run.
-/

namespace StreamedInference

namespace Sampling

variable {p : Sampling} {requested : Single}

/-- A wish changes the temperature at most. -/
theorem withTemperature_eq : p.withTemperature requested =
    { p with temperature := if isOverride requested then requested else p.temperature } := by
  unfold withTemperature
  split_ifs <;> rfl

/-- A wish keeps parameters in range, whatever is wished for. -/
theorem InRange.withTemperature (h : p.InRange) : (p.withTemperature requested).InRange := by
  unfold Sampling.withTemperature
  split_ifs with hwish
  · rw [isOverride_iff] at hwish
    rw [inRange_iff] at h ⊢
    exact ⟨⟨hwish.1, hwish.2.le⟩, h.2⟩
  · exact h

end Sampling

namespace Session

variable {setup : SessionSetup} {requested : Single}

theorem samplingFor_eq : samplingFor setup requested =
    { setup.sampling with
      temperature :=
        if setup.policy.honorTemperatureOverride = true ∧ requested.isFinite = true ∧
          0 < requested.value then requested else setup.sampling.temperature } := by
  unfold samplingFor
  simp only [Sampling.withTemperature_eq, Sampling.isOverride_iff]
  split_ifs <;> simp_all

theorem inRange_samplingFor (h : setup.sampling.InRange) :
    (samplingFor setup requested).InRange := by
  unfold samplingFor
  split_ifs
  · exact h.withTemperature
  · exact h

end Session

namespace Service

variable {received : Nat → List Inbound} {s : Service} {i k : Nat} {call : GenerateCall}

/-- A client who is not there has made no call. -/
theorem IsReachable.callsOf_eq_nil (h : s.IsReachable) (hc : s.clients[i]? = none) :
    s.accelerator.callsOf i = [] :=
  Accelerator.callsOf_eq_nil fun _ hk =>
    absurd (h.orderly.owners_lt _ hk) (Nat.not_lt.mpr (List.getElem?_eq_none_iff.mp hc))

/-- The call of a client with a number is that of its fragment with this number. -/
theorem Run.call_of_callsOf (r : Run received s) (h : (s.accelerator.callsOf i)[k]? = some call) :
    ∃ fragment, (SessionCourse.requests (received i))[k]? = some fragment ∧
      call =
        SessionCourse.numberedCall s.setup (SessionCourse.requests (received i)) k fragment := by
  cases hc : s.clients[i]? with
  | none => simp [r.isReachable.callsOf_eq_nil hc] at h
  | some c =>
    have hfollows := (r.follows i (r.isReachable.answered_outcomes i)).follows c hc
    obtain ⟨hk, rfl⟩ := List.getElem?_eq_some_iff.mp h
    exact (SessionCourse.numbered_of (received i)).call_of k _
      (List.prefix_iff_getElem?.mp hfollows.callsOf_isPrefix k hk)

end Service

/-- Every call is among those of a group. -/
theorem Accelerator.exists_of_mem_calls {a : Accelerator (Nat × Nat)} {call : GenerateCall}
    (h : call ∈ a.calls) : ∃ i k : Nat, (a.callsOf i)[k]? = some call := by
  obtain ⟨u, hu, rfl⟩ := List.mem_map.mp h
  have hmem : u.call ∈ a.callsOf u.owner.1 :=
    List.mem_map_of_mem (List.mem_filter.mpr ⟨hu, by simp⟩)
  obtain ⟨k, hk⟩ := List.getElem?_of_mem hmem
  exact ⟨u.owner.1, k, hk⟩

namespace Service

/-- **The parameters of all calls are in range, and are the configured ones but for a wish.** Take
any configuration that is accepted and any run of a service with its parameters, whatever its
policy, its engine and the requests of its clients are.

* Every call has a finite temperature of `0` at least, a finite share of probability above `0` and
  of `1` at most, a finite penalty above `0`, and may have some tokens.
* Every call of a client belongs to the fragment of this client that has the same number among those
  that are not empty. All its parameters are the configured ones, except that the temperature is the
  fragment's own if the policy honours wishes and this one is finite and positive. -/
theorem calls_sampled {received : Nat → List Inbound} {s : Service} {l : Layer} {c : Configuration}
    (hc : Configuration.ofLayer? l = .ok c) (r : Run received s)
    (hs : s.setup.sampling = c.sampling) :
    (∀ call ∈ s.accelerator.calls,
      (call.sampling.temperature.isFinite = true ∧ 0 ≤ call.sampling.temperature.value) ∧
      (call.sampling.topP.isFinite = true ∧ 0 < call.sampling.topP.value ∧
        call.sampling.topP.value ≤ 1) ∧
      (call.sampling.repetitionPenalty.isFinite = true ∧
        0 < call.sampling.repetitionPenalty.value) ∧
      call.sampling.maxNewTokens ≠ 0) ∧
    ∀ (i k : Nat) (call : GenerateCall), (s.accelerator.callsOf i)[k]? = some call →
      ∃ fragment, (SessionCourse.requests (received i))[k]? = some fragment ∧
        call.sampling =
          { c.sampling with
            temperature :=
              if s.setup.policy.honorTemperatureOverride = true ∧
                fragment.temperature.isFinite = true ∧ 0 < fragment.temperature.value
              then fragment.temperature else c.sampling.temperature } := by
  have hsound := (Configuration.ofLayer?_eq_ok_iff.mp hc).2
  refine ⟨fun call hcall => ?_, fun i k call hcall => ?_⟩
  · obtain ⟨i, k, hk⟩ := Accelerator.exists_of_mem_calls hcall
    obtain ⟨fragment, -, rfl⟩ := r.call_of_callsOf hk
    exact Sampling.inRange_iff.mp (Session.inRange_samplingFor (hs ▸ hsound.sampling))
  · obtain ⟨fragment, hfragment, rfl⟩ := r.call_of_callsOf hcall
    refine ⟨fragment, hfragment, ?_⟩
    rw [SessionCourse.numberedCall, Session.samplingFor_eq, hs]

/-- A client sends a fragment that wishes for `1.5` and one that wishes for no number at all, and
the calls of both begin. -/
def moods : List Event :=
  [.act (.enter true),
    .act (.send 0 (.fragment { message := "one", temperature := ⟨0x3fc00000⟩ })),
    .act (.send 0 (.fragment { message := "two", temperature := .nan })),
    .step (.admission 0), .step (.session 0), .step (.session 0), .step (.session 0),
    .step (.unit 0), .step (.session 0), .step (.session 0), .step (.unit 0), .step (.unit 0),
    .step (.session 0), .step (.session 0), .step (.session 0), .step (.session 0)]

/-- What they lead to. -/
def moody : Service :=
  (stage.replay? moods).get (by decide +kernel)

/-- Of two wishes of one session the first counts, in its own turn. -/
theorem calls_sampled_of_moods : ∃ received c, Configuration.ofLayer? (fun _ => none) = .ok c ∧
    Run received moody ∧ moody.setup.sampling = c.sampling ∧
    (SessionCourse.requests (received 0)).map (·.temperature) = [⟨0x3fc00000⟩, .nan] ∧
    (moody.accelerator.callsOf 0).map (·.sampling) =
      [{ c.sampling with temperature := ⟨0x3fc00000⟩ }, c.sampling] ∧
    ∀ call ∈ moody.accelerator.calls, 0 ≤ call.sampling.temperature.value := by
  have hstart : create? {} { conduct := .replay ["token"] none } 1 = .ok stage := rfl
  have hreplay : stage.replay? moods = some moody := (Option.some_get _).symm
  have hc : Configuration.ofLayer? (fun _ => none) = .ok (Configuration.ofLayer fun _ => none) := by
    decide +kernel
  have hrun := (Run.start hstart).replay hreplay
  have hsetup : moody.setup.sampling = {} := by decide +kernel
  obtain ⟨hall, -⟩ := calls_sampled hc hrun hsetup
  exact ⟨_, _, hc, hrun, hsetup, by decide +kernel, by decide +kernel,
    fun call hcall => (hall call hcall).1.2⟩

end Service

end StreamedInference
