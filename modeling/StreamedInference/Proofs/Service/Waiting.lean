import Mathlib.Logic.ExistsUnique
import StreamedInference.Proofs.Service.Answers
import StreamedInference.Proofs.Service.Exclusion

/-!
# What open sessions wait for

When no task of a service can run, a session that is open waits for something that only the outside
can bring. That is no matter of the session alone: a session that waits for the gate could wait for
somebody who has gone, and one that listens for a call that has ended. It does not come to that,
because the first name in the queue of an empty gate belongs to a session that can go in, and a
unit whose call has ended leaves the gate and has an answer for its listener.

## Main definitions

* `Service.WaitsFor`: a session waits for something that is not there.

## Main results

* `Service.IsReachable.unread_le`: no more chunks wait for a client than there is room for.
* `Service.running_ne_nil_of_mem_queue`: at rest, nobody waits for the gate without a call in
  progress.
* `Service.open_sessions_wait`: at rest every open session waits for exactly one thing, which is
  still to come.
-/

namespace StreamedInference

namespace Service

/-- The session of the client at place `i` waits for something, and it is not there. -/
def WaitsFor (s : Service) (i : Nat) (c : Client) (w : Wait) : Prop :=
  c.session.phase.wait? = some w ∧
    match w with
    | .inbound => c.session.inbound = [] ∧ s.pool.draining = false
    | .gate =>
      (i, c.session.turns) ∈ s.accelerator.gate.queue ∧ s.accelerator.running ≠ []
    | .item =>
      ∃ u ∈ s.accelerator.running, u.owner = (i, c.session.turns) ∧ u.offer = .pending
    | .room => c.session.unread = s.setup.policy.streamBufferSize.toNat

variable {s : Service} {i : Nat} {c : Client}

/-- A session waits for one thing at a time. -/
theorem WaitsFor.unique {w w' : Wait} (h : s.WaitsFor i c w) (h' : s.WaitsFor i c w') :
    w = w' :=
  Option.some.inj (h.1.symm.trans h'.1)

/-! ### Room for chunks -/

/-- In every service that can be reached, no more chunks wait for a client than there is room
for. -/
theorem IsReachable.unread_le (h : s.IsReachable) : ∀ (i : Nat) (c : Client),
    s.clients[i]? = some c → c.session.unread ≤ s.setup.policy.streamBufferSize.toNat := by
  refine IsReachable.of_move
    (P := fun s => ∀ (i : Nat) (c : Client), s.clients[i]? = some c →
      c.session.unread ≤ s.setup.policy.streamBufferSize.toNat)
    (fun s hs i c hc => ?_) (fun s s' arrived ih hm i c' hc' => ?_) h
  · simp [hs.clients_eq] at hc
  · rw [hm.setup_eq]
    obtain ⟨-, hs, -⟩ | ⟨c, hc, hkeep⟩ | ⟨c, session, effects, hc, -, hmove, -, rfl⟩ :=
      hm.client_cases hc'
    · rw [hs]
      exact Nat.zero_le _
    · exact Nat.le_trans hkeep.unread_le (ih i c hc)
    · exact hmove.unread_le (ih i c hc)

/-! ### Tasks at rest -/

/-- Where no task can run, none of those that a client brings can. -/
theorem step?_eq_none_of_quiet (hq : tasks.Quiet s) (hc : s.clients[i]? = some c)
    {t : ServiceTask} (ht : t ∈ clientTasks i c) : s.step? t = none := by
  refine hq t ?_
  simp only [tasks, List.mem_append, List.mem_flatMap]
  exact .inl (.inl ⟨(c, i), List.mk_mem_zipIdx_iff_getElem?.2 hc, ht⟩)

/-- Where no task can run, the session of a client cannot go on. -/
theorem rests_of_quiet (hq : tasks.Quiet s) (hc : s.clients[i]? = some c)
    (ha : c.isAdmitted = true) : c.session.Rests s.setup (s.view i c.session) := by
  have hnone : s.step? (.session i) = none :=
    step?_eq_none_of_quiet hq hc (by simp [clientTasks, ha])
  exact Session.rests_iff.2 (by simpa [step?, sessionStep?, hc, ha] using hnone)

theorem step?_unit_eq_none (hq : tasks.Quiet s) {n : Nat} (hn : n < s.accelerator.units.length) :
    s.step? (.unit n) = none := by
  refine hq (.unit n) ?_
  simp only [tasks, List.mem_append]
  exact .inl (.inr (List.mem_map_of_mem (List.mem_range.2 hn)))

/-- A unit whose call has ended and that cannot go on has left the gate. -/
theorem finished_of_blocked {n : Nat} {u : GenerationUnit TurnName} {e : Ending}
    (hu : s.accelerator.units[n]? = some u) (he : u.ending = some e)
    (hstep : s.step? (.unit n) = none) : u.finished = true := by
  cases hf : u.finished with
  | true => rfl
  | false =>
    rw [unitStep?_of_ending hu he hf] at hstep
    cases hstep

/-- At rest, a unit whose call has ended has left the gate. -/
theorem running_or_finished (hq : tasks.Quiet s) {u : GenerationUnit TurnName}
    (hu : u ∈ s.accelerator.units) :
    u ∈ s.accelerator.running ∨ (∃ e, u.ending = some e) ∧ u.finished = true := by
  cases he : u.ending with
  | none => exact .inl (List.mem_filter.2 ⟨hu, by rw [GenerationUnit.isRunning, he]; rfl⟩)
  | some e =>
    obtain ⟨n, hn, rfl⟩ := List.getElem_of_mem hu
    exact .inr ⟨⟨e, rfl⟩,
      finished_of_blocked (List.getElem?_eq_getElem hn) he (step?_unit_eq_none hq hn)⟩

/-- At rest, nobody waits for the gate without a call in progress. -/
theorem running_ne_nil_of_mem_queue (h : s.IsReachable) (hq : tasks.Quiet s) {p : TurnName}
    (hp : p ∈ s.accelerator.gate.queue) : s.accelerator.running ≠ [] := by
  cases hholder : s.accelerator.gate.holder? with
  | some p =>
    obtain ⟨n, u, hu, hf, -⟩ := h.guarded.exists_unit_of_holder? hholder
    rcases running_or_finished hq (List.mem_of_getElem? hu) with hrun | ⟨-, hf'⟩
    · exact List.ne_nil_of_mem hrun
    · simp [hf] at hf'
  | none =>
    -- The first name in the queue is that of a session that waits; as the gate is empty, the
    -- session could go in, so the service would not be at rest.
    exfalso
    obtain ⟨⟨j, k⟩, hhead⟩ : ∃ p, s.accelerator.gate.queue.head? = some p :=
      Option.isSome_iff_exists.1 (List.isSome_head?.2 (List.ne_nil_of_mem hp))
    have hmem : (j, k) ∈ s.accelerator.gate.queue := List.mem_of_head? hhead
    have hj : j < s.clients.length := h.orderly.queue_lt _ hmem
    have hc := List.getElem?_eq_getElem hj
    obtain ⟨hqueued, rfl⟩ := ((h.orderly.stands hc).mem_queue_iff k).1 hmem
    obtain ⟨call, hphase⟩ := SessionPhase.isQueued_iff.1 hqueued
    have hadm := h.orderly.isAdmitted_of_ne_opening hc (by simp [hphase])
    have hmay := Gate.mayEnter_iff.2 ⟨hholder, hhead⟩
    cases rests_of_quiet hq hc hadm with
    | queued hp hn hm => simp [view, hmay] at hm
    | closed hp | idle hp | listening hp => simp [hphase] at hp
    | full hp => simp [hphase, SessionPhase.wait?] at hp

/-- At rest, an open session waits for something that is not there. -/
theorem exists_waitsFor (h : s.IsReachable) (hq : tasks.Quiet s) (hc : s.clients[i]? = some c)
    (ho : c.isOpen = true) : ∃ w, s.WaitsFor i c w := by
  obtain ⟨hadm, hopen⟩ := Bool.and_eq_true_iff.1 ho
  have hstands := h.orderly.stands hc
  cases rests_of_quiet hq hc hadm with
  | closed hp => simp [Session.isClosed, Session.closeReason?, hp] at hopen
  | idle hp hn hi hd => exact ⟨.inbound, by rw [hp]; rfl, hi, hd⟩
  | queued hp hn hm =>
    have hmem := (hstands.mem_queue_iff _).2 ⟨by rw [hp]; rfl, rfl⟩
    exact ⟨.gate, by rw [hp]; rfl, hmem, running_ne_nil_of_mem_queue h hq hmem⟩
  | listening hp hn hoffer =>
    obtain ⟨u, hu, howner⟩ := List.mem_map.1 (hstands.mem_owners (by rw [hp]; rfl))
    have hpending : u.offer = .pending := by
      rw [← Accelerator.offer_eq h.orderly.nodup_owners hu, howner]
      exact hoffer
    rcases running_or_finished hq hu with hrun | ⟨⟨e, he⟩, hf⟩
    · exact ⟨.item, by rw [hp]; rfl, u, hrun, howner, hpending⟩
    · exact absurd hpending (GenerationUnit.offer_ne_pending he hf)
  | full hp hn hroom =>
    have hle := h.unread_le i c hc
    have hge := Nat.le_of_not_lt (of_decide_eq_false hroom)
    exact ⟨.room, hp, Nat.le_antisymm hle hge⟩

/-- **No session is ever stuck.** In every service that can be reached and in which no task can run,
every open session waits for exactly one thing:

* for the next thing that its client sends, when nothing that it has sent is left and the server
  does not drain;
* for the gate, when its name is in the queue there and a call is in progress;
* for its own call, which is in progress and has nothing for it yet;
* for its client, which has left exactly as many chunks unread as there is room for.

So nobody waits for the gate when no call is in progress. -/
theorem open_sessions_wait (h : s.IsReachable) (hq : tasks.Quiet s) :
    (∀ (i : Nat) (c : Client), s.clients[i]? = some c → c.isOpen = true →
      ∃! w, s.WaitsFor i c w) ∧
    (s.accelerator.running = [] → ∀ (i : Nat) (c : Client), s.clients[i]? = some c →
      c.session.phase.isQueued = false) := by
  refine ⟨fun i c hc ho => ?_, fun hnone i c hc => ?_⟩
  · obtain ⟨w, hw⟩ := exists_waitsFor h hq hc ho
    exact ⟨w, hw, fun w' hw' => hw'.unique hw⟩
  · refine Bool.eq_false_iff.2 fun hqueued => ?_
    have hmem := ((h.orderly.stands hc).mem_queue_iff _).2 ⟨hqueued, rfl⟩
    exact running_ne_nil_of_mem_queue h hq hmem hnone

/-- Four clients who do not read. The call of the last one emits more than there is room for and
ends, the second has a call that nobody drives, and the third comes behind it. -/
def lull : List Event :=
  [.act (.enter false), .act (.enter false), .act (.enter false), .act (.enter false),
    .step (.admission 0), .step (.admission 1), .step (.admission 2), .step (.admission 3),
    .step (.session 0), .step (.session 1), .step (.session 2), .step (.session 3),
    .act (.send 3 (.fragment { message := "three" })),
    .step (.session 3), .step (.session 3),
    .act (.emit "a"), .act (.emit "b"), .act (.conclude .success),
    .step (.session 3), .step (.session 3), .step (.session 3),
    .step (.unit 0), .step (.unit 0),
    .act (.send 1 (.fragment { message := "one" })),
    .act (.send 2 (.fragment { message := "two" })),
    .step (.session 1), .step (.session 1), .step (.session 2)]

/-- The service in which this happens. There is room for one chunk. -/
def saloon : Service :=
  { setup := { policy := { streamBufferSize := 1 } }, pool := .ofLimit 4 }

/-- What it leads to. -/
def lulled : Service :=
  (saloon.replay? lull).get (by decide +kernel)

theorem isReachable_lulled : lulled.IsReachable := by
  have hstart : create? { policy := { streamBufferSize := 1 } } {} 4 = .ok saloon := rfl
  exact (IsReachable.start hstart).replay (Option.some_get _).symm

/-- There are services at rest in which all kinds of waiting occur at once. -/
theorem open_sessions_wait_of_lull : lulled.IsReachable ∧ tasks.Quiet lulled ∧
    lulled.clients.map (·.session.phase.wait?) =
      [some .inbound, some .item, some .gate, some .room] ∧
    ∀ (i : Nat) (c : Client), lulled.clients[i]? = some c → ∃! w, lulled.WaitsFor i c w := by
  have hquiet : tasks.Quiet lulled := by
    unfold Tasks.Quiet
    decide +kernel
  have hopen : ∀ c ∈ lulled.clients, c.isOpen = true := by decide +kernel
  refine ⟨isReachable_lulled, hquiet, by decide +kernel, fun i c hc => ?_⟩
  exact (open_sessions_wait isReachable_lulled hquiet).1 i c hc (hopen c (List.mem_of_getElem? hc))

end Service

end StreamedInference
