import StreamedInference.Proofs.Service.Interruption
import StreamedInference.Proofs.Service.Tally
import StreamedInference.Proofs.Service.Waiting

/-!
# What a shutdown abandons

A shutdown that has told tasks to end waits for them once more, and abandons those that are left
when this time is over. Sessions are never among them if they are let run: each closes by itself,
with two steps at the most, and neither its client nor its outbound buffer nor the gate can hold it
up. Nor are units whose call has ended, because they have only to leave the gate. So what is left is
a unit whose call is in progress, and there is only one of these.

How fast steps are made is not up to the service. What is asked of the clock is that nothing but
calls can go on when the time is over.

## Main definitions

* `Service.History`: a run with all its moves.
* `Service.CanTerminate`: a session can close by itself.
* `Service.Expires`: the time of a shutdown is over when some time passes.
* `Service.LeftToCalls`: nothing but calls can go on.

## Main results

* `Service.canTerminate`: every open session can close by itself once the server
  terminates.
* `Service.LeftToCalls.openSessions_eq_zero`, `Service.LeftToCalls.unfinished_eq`: all sessions
  have closed, and units have calls in progress, if nothing but calls can go on.
* `Service.History.exists_expiry`: the time of a shutdown is over because time has passed.
* `Service.abandons_call`: a shutdown abandons a call in progress and nothing else.
-/

namespace StreamedInference

namespace Service

/-- The moves of a run, the latest first, with the services in which they were made. -/
abbrev Past := List (Service × (Action ⊕ ServiceTask))

/-- A run that begins with a service without clients, with all its moves. -/
def History (past : Past) (s : Service) : Prop :=
  ∃ setup engine limit start, create? setup engine limit = .ok start ∧
    tasks.History act start past s

variable {past : Past} {s s' : Service} {i k : Nat} {c : Client}

theorem History.isReachable (h : History past s) : s.IsReachable := by
  obtain ⟨setup, engine, limit, start, hstart, h⟩ := h
  exact ⟨setup, engine, limit, start, hstart, h.reachable⟩

theorem History.isReachable_of_mem (h : History past s) {e : Service × (Action ⊕ ServiceTask)}
    (he : e ∈ past) : e.1.IsReachable := by
  obtain ⟨setup, engine, limit, start, hstart, h⟩ := h
  exact ⟨setup, engine, limit, start, hstart, h.reachable_of_mem he⟩

/-! ### Sessions -/

/-- The session of a client has closed because the server terminates. -/
def HasTerminated (s : Service) (i : Nat) : Prop :=
  ∃ c, s.clients[i]? = some c ∧ c.session.phase = .closed .terminated

/-- The session of a client can close by itself because the server terminates: it does so in its
next step, or in the second one if it has still to begin. -/
def CanTerminate (s : Service) (i : Nat) : Prop :=
  ∃ s₁, s.step? (.session i) = some s₁ ∧
    (s₁.HasTerminated i ∨ ∃ s₂, s₁.step? (.session i) = some s₂ ∧ s₂.HasTerminated i)

theorem exists_terminated_of_isSuspended (hc : s.clients[i]? = some c) (ha : c.isAdmitted = true)
    (hs : c.session.phase.isSuspended = true) (ht : s.pool.terminated = true) :
    ∃ s', s.step? (.session i) = some s' ∧ s'.HasTerminated i := by
  have hr : Session.interruption? (s.view i c.session) c.session = some .terminated := by
    simp [Session.interruption?, view, ht]
  exact ⟨_, step?_session_of_interruption? hc ha hs hr, _,
    by rw [afterMove_clients, List.getElem?_modify_eq, hc]; rfl, rfl⟩

/-- A session that has still to begin does so in its next step. -/
theorem step?_session_of_opening (hc : s.clients[i]? = some c) (ha : c.isAdmitted = true)
    (hp : c.session.phase = .opening) : ∃ effects, s.step? (.session i) =
      some (s.afterMove i { c.session with phase := .idle } effects) :=
  ⟨_, sessionStep?_eq_some.2 ⟨c, _, _, hc, ha, by rw [Session.step?, hp], rfl⟩⟩

/-- Once the server terminates, every open session can close by itself, whatever it waits for. -/
theorem canTerminate (ht : s.pool.terminated = true) (hc : s.clients[i]? = some c)
    (ho : c.isOpen = true) : s.CanTerminate i := by
  obtain ⟨ha, hopen⟩ := Bool.and_eq_true_iff.1 ho
  have hsuspended : c.session.phase.isSuspended = true → s.CanTerminate i := fun hs => by
    obtain ⟨s₁, hstep, hterminated⟩ := exists_terminated_of_isSuspended hc ha hs ht
    exact ⟨s₁, hstep, .inl hterminated⟩
  cases hp : c.session.phase with
  | opening =>
    obtain ⟨effects, hstep⟩ := step?_session_of_opening hc ha hp
    have hc₁ : (s.afterMove i { c.session with phase := .idle } effects).clients[i]? =
        some { c with session := { c.session with phase := .idle } } := by
      rw [afterMove_clients, List.getElem?_modify_eq, hc]
      rfl
    have ht₁ := (afterMove_terminated s i { c.session with phase := .idle } effects).trans ht
    exact ⟨_, hstep, .inr (exists_terminated_of_isSuspended hc₁ ha rfl ht₁)⟩
  | closed reason => simp [Session.isClosed, Session.closeReason?, hp] at hopen
  | idle | queued | listening | sending | ending =>
    exact hsuspended (by rw [hp]; rfl)

/-! ### What is left to calls -/

/-- Nothing but calls can go on: no session can make a step, nor can a unit whose call has ended. -/
def LeftToCalls (s : Service) : Prop :=
  (∀ i, i < s.clients.length → s.step? (.session i) = none) ∧
    ∀ (n : Nat) (hn : n < s.accelerator.units.length),
      s.accelerator.units[n].isRunning = false → s.step? (.unit n) = none

/-- At rest, nothing but calls can go on. -/
theorem leftToCalls_of_quiet (hq : tasks.Quiet s) : s.LeftToCalls := by
  refine ⟨fun i hi => ?_, fun n hn _ => step?_unit_eq_none hq hn⟩
  have hc := List.getElem?_eq_getElem hi
  cases ha : s.clients[i].isAdmitted with
  | true => exact step?_eq_none_of_quiet hq hc (by simp [clientTasks, ha])
  | false => simp [step?, sessionStep?, hc, ha]

/-- If nothing but calls can go on once the server terminates, all sessions have closed. -/
theorem LeftToCalls.openSessions_eq_zero (h : s.LeftToCalls) (ht : s.pool.terminated = true) :
    s.openSessions = 0 := by
  refine List.countP_eq_zero.2 fun c hc ho => ?_
  obtain ⟨i, hi, rfl⟩ := List.getElem_of_mem hc
  obtain ⟨s₁, hstep, -⟩ := canTerminate ht (List.getElem?_eq_getElem hi) ho
  rw [h.1 i hi] at hstep
  cases hstep

/-- If nothing but calls can go on, the units that have not left the gate are those whose calls are
in progress. -/
theorem LeftToCalls.unfinished_eq (h : s.LeftToCalls) (hg : s.accelerator.Guarded) :
    s.accelerator.unfinished = s.accelerator.running := by
  refine List.filter_congr fun u hu => ?_
  obtain ⟨n, hn, rfl⟩ := List.getElem_of_mem hu
  cases he : s.accelerator.units[n].ending with
  | none =>
    have hr : s.accelerator.units[n].isRunning = true := by rw [GenerationUnit.isRunning, he]; rfl
    rw [hg.finished_of_isRunning hu hr, hr, Bool.not_false]
  | some e =>
    have hr : s.accelerator.units[n].isRunning = false := by rw [GenerationUnit.isRunning, he]; rfl
    rw [finished_of_blocked (List.getElem?_eq_getElem hn) he (h.2 n hn hr), hr, Bool.not_true]

/-! ### Time -/

/-- When the given time passes, the time is over for which a shutdown waits for tasks that it has
told to end. It has not seen that no task is left. -/
def Expires (s : Service) (k ms : Nat) : Prop :=
  ∃ deadline, s.pool.drains[k]? = some ⟨.terminating deadline, false⟩ ∧
    s.pool.now < deadline ∧ deadline ≤ s.pool.now + ms

theorem Expires.terminated_eq {ms : Nat} (h : s.Expires k ms) (hr : s.IsReachable) :
    s.pool.terminated = true := by
  obtain ⟨deadline, hd, -⟩ := h
  exact (hr.of_terminating hd).1

/-- The time of a shutdown is over because time has passed, and not before tasks have been told to
end. -/
theorem History.exists_expiry (h : History past s) {deadline : Nat}
    (hd : s.pool.drains[k]? = some ⟨.terminating deadline, false⟩)
    (ht : deadline ≤ s.pool.now) : ∃ w ms, (w, .inl (.advance ms)) ∈ past ∧ w.Expires k ms ∧
      tasks.Reachable act w s := by
  obtain ⟨setup, engine, limit, start, hstart, h⟩ := h
  refine h.of_leads (P := fun past s =>
    s.pool.drains[k]? = some ⟨.terminating deadline, false⟩ → deadline ≤ s.pool.now →
      ∃ w ms, (w, .inl (.advance ms)) ∈ past ∧ w.Expires k ms ∧ tasks.Reachable act w s)
    (fun hd => ?_) ?_ hd ht
  · obtain ⟨limit, hp⟩ := (isInitial_of_create? hstart).pool_eq
    rw [hp] at hd
    cases hd
  · intro past s s' m _ ih hl hd' ht'
    obtain ⟨pool, around, hkeeps, hmove, hadvance⟩ := (poolMove_of_leads hl).exists_move
    obtain ⟨hd, hnow⟩ := (hmove.of_awaiting hd').resolve_left (Nat.not_lt.2 ht')
    rw [hkeeps.drains_eq] at hd
    rw [hkeeps.now_eq] at hnow
    by_cases hover : deadline ≤ s.pool.now
    · obtain ⟨w, ms, hmem, hexpires, hreach⟩ := ih hd hover
      exact ⟨w, ms, List.mem_cons_of_mem _ hmem, hexpires, hreach.leads hl⟩
    · rcases hnow with hnow | ⟨ms, haround, hnow⟩
      · exact absurd (hnow ▸ ht') hover
      · obtain rfl := hadvance ms haround
        exact ⟨s, ms, List.mem_cons_self, ⟨deadline, hd, Nat.not_le.1 hover, hnow ▸ ht'⟩,
          Tasks.Reachable.start.leads hl⟩

/-- A shutdown that ends abandoned has waited till its time was over, and has not seen that no task
is left. -/
theorem exists_of_abandons (hstep : s.step? (.drain k) = some s') {d : Drain}
    (hd : s'.pool.drains[k]? = some d) (ho : d.outcome? = some .abandoned) : ∃ deadline,
      s.pool.drains[k]? = some ⟨.terminating deadline, false⟩ ∧ deadline ≤ s.pool.now := by
  obtain ⟨⟨pool, events⟩, hpool, rfl⟩ := Option.map_eq_some_iff.1 hstep
  cases Pool.drainMove_of_drainStep? hpool with
  | begins | forces | cleans | ends =>
    obtain rfl := Pool.eq_of_getElem?_set hd
    cases ho
  | @abandons d₀ deadline hd₀ hp he ht =>
    obtain ⟨phase, emptied⟩ := d₀
    subst hp he
    exact ⟨deadline, hd₀, ht⟩

/-- **A shutdown abandons a call in progress and nothing else.** Take any run, and the step with
which a shutdown in it ends abandoned.

* The server terminates. Taken slots are those of open sessions; tasks are open sessions and units
  that have not left the gate, and some task is left.
* At any moment of the run at which the server terminated, every open session could close by itself,
  whatever its client had done or not done, and whatever else it waited for.
* There is a move of the run in which time passed and the time of the shutdown was over. Suppose
  that nothing but calls could go on then. Then a single task was left: the unit of a call, which
  was in progress. All sessions had closed, and no slot was taken. So it is still when the shutdown
  ends. -/
theorem abandons_call (h : History past s) (hstep : s.step? (.drain k) = some s') {d : Drain}
    (hd : s'.pool.drains[k]? = some d) (ho : d.outcome? = some .abandoned) :
    (s.pool.terminated = true ∧ s.pool.inflight = s.openSessions ∧
      s.pool.tracked = s.openSessions + s.accelerator.unfinished.length ∧
      0 < s.pool.tracked) ∧
    (∀ e ∈ past, e.1.pool.terminated = true → ∀ (i : Nat) (c : Client),
      e.1.clients[i]? = some c → c.isOpen = true → e.1.CanTerminate i) ∧
    ∃ w ms, (w, .inl (.advance ms)) ∈ past ∧ w.Expires k ms ∧ (w.LeftToCalls →
      (∃ u, w.accelerator.running = [u] ∧ w.accelerator.unfinished = [u]) ∧
      (w.openSessions = 0 ∧ w.pool.inflight = 0 ∧ w.pool.tracked = 1) ∧
      s.openSessions = 0 ∧ s.pool.inflight = 0 ∧ s.pool.tracked = 1 ∧
        s.accelerator.unfinished.length = 1) := by
  obtain ⟨deadline, hd₀, ht⟩ := exists_of_abandons hstep hd ho
  obtain ⟨hterminated, hleft⟩ := h.isReachable.of_terminating hd₀
  have htally := h.isReachable.tallied
  refine ⟨⟨hterminated, htally.inflight_eq, htally.tracked_eq, hleft rfl⟩,
    fun e _ hterminated i c => canTerminate hterminated, ?_⟩
  obtain ⟨w, ms, hmem, hexpires, hreach⟩ := h.exists_expiry hd₀ ht
  refine ⟨w, ms, hmem, hexpires, fun hcalls => ?_⟩
  have hw := h.isReachable_of_mem hmem
  have hterminated_w := hexpires.terminated_eq hw
  have htally_w := hw.tallied
  have hnone_w := hcalls.openSessions_eq_zero hterminated_w
  -- A task is left, it is a unit, and there is no more than one at a time.
  have hsingle : ∀ {v : Service}, v.IsReachable → v.openSessions = 0 → 0 < v.pool.tracked →
      v.accelerator.unfinished.length = 1 := by
    intro v hv hnone hpos
    have hle := hv.guarded.length_unfinished_le_one
    rw [hv.tallied.tracked_eq, hnone, Nat.zero_add] at hpos
    exact Nat.le_antisymm hle hpos
  obtain ⟨deadline', hd_w, -⟩ := id hexpires
  have hone_w := hsingle hw hnone_w ((hw.of_terminating hd_w).2 rfl)
  obtain ⟨u, hu⟩ := List.length_eq_one_iff.1 hone_w
  have hnone : s.openSessions = 0 := Nat.le_zero.1 <| hnone_w ▸
    openSessions_le_of_reachable hreach (hw.draining_of_terminated hterminated_w)
  have hone := hsingle h.isReachable hnone (hleft rfl)
  have hcall := (hcalls.unfinished_eq hw.guarded).symm.trans hu
  refine ⟨⟨u, hcall, hu⟩, ⟨hnone_w, ?_, ?_⟩, hnone, ?_, ?_, hone⟩
  · rw [htally_w.inflight_eq, hnone_w]
  · rw [htally_w.tracked_eq, hnone_w, hone_w]
  · rw [htally.inflight_eq, hnone]
  · rw [htally.tracked_eq, hnone, hone]

/-- A call that never returns. A shutdown without grace has told its session to end, which has
closed, and waits for the unit; nothing can go on any more. -/
def vigil : Past × Service :=
  (tasks.follow? act [] { pool := .ofLimit 1 }
    [.inl (.enter false), .inl (.send 0 (.fragment { message := "one" })), .inr (.admission 0),
      .inr (.session 0), .inr (.session 0), .inr (.session 0), .inl (.shutdown 0),
      .inr (.drain 0), .inr (.drain 0), .inr (.session 0)]).get (by decide +kernel)

theorem history_vigil : History vigil.1 vigil.2 := by
  have hstart : create? {} {} 1 = .ok { pool := .ofLimit 1 } := rfl
  have hfollow : tasks.follow? act [] { pool := .ofLimit 1 } _ = some vigil :=
    (Option.some_get _).symm
  exact ⟨{}, {}, 1, _, hstart, Tasks.History.start.follow hfollow⟩

/-- When the time is over. -/
def forsaken : Service :=
  ((vigil.2.act (.advance 3000)).step? (.drain 0)).get (by decide +kernel)

/-- The shutdown ends abandoned; the session has closed, and the call is still in progress. -/
theorem abandons_call_of_vigil : tasks.Quiet vigil.2 ∧
    (vigil.2.act (.advance 3000)).step? (.drain 0) = some forsaken ∧
    forsaken.pool.outcomes = [.abandoned] ∧
    (∃ u, vigil.2.accelerator.running = [u] ∧ vigil.2.accelerator.unfinished = [u]) ∧
    (vigil.2.act (.advance 3000)).pool.inflight = 0 ∧
    (vigil.2.act (.advance 3000)).pool.tracked = 1 := by
  have hquiet : tasks.Quiet vigil.2 := by
    unfold Tasks.Quiet
    decide +kernel
  have hstep : (vigil.2.act (.advance 3000)).step? (.drain 0) = some forsaken :=
    (Option.some_get _).symm
  have houtcomes : forsaken.pool.outcomes = [.abandoned] := by decide +kernel
  have hd : forsaken.pool.drains[0]? = some ⟨.ended .abandoned, false⟩ := by decide +kernel
  have hpast : ∀ e ∈ vigil.1, e.1.pool.terminated = true → e.2.isRight = true := by
    decide +kernel
  obtain ⟨setup, engine, limit, start, hstart, hvigil⟩ := history_vigil
  have h : History ((vigil.2, .inl (.advance 3000)) :: vigil.1) (vigil.2.act (.advance 3000)) :=
    ⟨setup, engine, limit, start, hstart, .act (.advance 3000) hvigil⟩
  obtain ⟨-, -, w, ms, hmem, hexpires, hcalls⟩ := abandons_call h hstep hd rfl
  have hw : w = vigil.2 := by
    rcases List.mem_cons.1 hmem with heq | hmem
    · exact (Prod.mk.inj heq).1
    · have hw := hexpires.terminated_eq (h.isReachable_of_mem (List.mem_cons_of_mem _ hmem))
      exact absurd (hpast _ hmem hw) Bool.false_ne_true
  rw [hw] at hcalls
  obtain ⟨hcall, -, -, hinflight, htracked, -⟩ := hcalls (leftToCalls_of_quiet hquiet)
  exact ⟨hquiet, hstep, houtcomes, hcall, hinflight, htracked⟩

end Service

end StreamedInference
