import StreamedInference.Proofs.Service.Exclusion
import StreamedInference.Proofs.Service.Turns

/-!
# Interrupted sessions

A session that waits has to close when the server terminates or its client is gone, whatever it
waits for and whatever else is ready. It can do so at once, because its step then depends on
nothing but the signal. So nothing is sent and no call is started once the server terminates.

## Main definitions

* `Service.sentTo`: the chunks put on the outbound stream of a client.

## Main results

* `Service.step?_session_of_interruption?`: the step of a suspended session that has to close.
* `Service.Move.silent`: no move sends or starts anything once the server terminates.
* `Service.interrupted_at_once`: in every service that can be reached a suspended session closes
  by its next step for the right reason, and termination is followed by silence.
-/

namespace StreamedInference

namespace Service

/-- The chunks put on the outbound stream of a client. -/
def sentTo (s : Service) (i : Nat) : List Response :=
  match s.clients[i]? with
  | some c => c.session.sent
  | none => []

theorem sentTo_eq {s : Service} {i : Nat} {c : Client} (hc : s.clients[i]? = some c) :
    s.sentTo i = c.session.sent := by
  simp [sentTo, hc]

/-- Only the session that makes a move can send anything. -/
theorem sentTo_afterMove_of_ne {s : Service} {i j : Nat} (h : i ≠ j) (session : Session)
    (effects : List SessionEffect) : (s.afterMove i session effects).sentTo j = s.sentTo j := by
  simp [sentTo, h]

theorem sentTo_afterMove {s : Service} {i : Nat} {c : Client} (hc : s.clients[i]? = some c)
    (session : Session) (effects : List SessionEffect) :
    (s.afterMove i session effects).sentTo i = session.sent := by
  simp [sentTo, hc]

/-- While no session makes a step nothing is sent. -/
theorem Aside.sentTo_eq {s s' : Service} {arrived : Nat → List Inbound} (h : Aside arrived s s')
    (i : Nat) : s'.sentTo i = s.sentTo i := by
  cases hc : s.clients[i]? with
  | some c =>
    obtain ⟨c', hc', hkeep⟩ := h.clients_keep.exists_keeps hc
    obtain ⟨taken, gone, hs, -⟩ := hkeep.session_eq
    rw [Service.sentTo_eq hc, Service.sentTo_eq hc', hs]
  | none =>
    cases hc' : s'.clients[i]? with
    | some c' =>
      obtain ⟨hs, -⟩ := h.clients_keep.newcomer hc' hc
      simp [sentTo, hc, hc', hs]
    | none => simp [sentTo, hc, hc']

/-- What an interrupted session does to the rest starts no call. -/
theorem ledger_foldl_parting (turn : TurnName) (a : Accelerator TurnName) (p : SessionPhase) :
    ((Session.parting p).foldl (heed turn) a).ledger = a.ledger := by
  cases p with
  | queued call => rfl
  | listening | sending | ending => exact a.ledger_detach turn
  | _ => rfl

/-- The gate is not entered or left by an interrupted session. -/
theorem holder?_foldl_parting (turn : TurnName) (a : Accelerator TurnName) (p : SessionPhase) :
    ((Session.parting p).foldl (heed turn) a).gate.holder? = a.gate.holder? := by
  cases p with
  | queued call => exact a.gate.holder?_withdraw turn
  | _ => rfl

/-- A suspended session that has to close does so by its next step. -/
theorem step?_session_of_interruption? {s : Service} {i : Nat} {c : Client} {reason : CloseReason}
    (hc : s.clients[i]? = some c) (ha : c.isAdmitted = true)
    (hs : c.session.phase.isSuspended = true)
    (hr : Session.interruption? (s.view i c.session) c.session = some reason) :
    s.step? (.session i) = some
      (s.afterMove i (c.session.abandon.close reason) (Session.parting c.session.phase)) :=
  sessionStep?_eq_some.2
    ⟨c, _, _, hc, ha, Session.step?_of_interruption? hs hr, rfl⟩

/-- A session that waits has been admitted. -/
theorem Orderly.isAdmitted_of_isSuspended {s : Service} (ho : s.Orderly) {i : Nat} {c : Client}
    (hc : s.clients[i]? = some c) (hs : c.session.phase.isSuspended = true) :
    c.isAdmitted = true :=
  ho.isAdmitted_of_ne_opening hc fun hp => by simp [hp, SessionPhase.isSuspended] at hs

/-- **Silence.** Once the server terminates, no move starts a call or sends a chunk. -/
theorem Move.silent {s s' : Service} {arrived : Nat → List Inbound} (h : s.Move arrived s')
    (ht : s.pool.terminated = true) :
    s'.accelerator.calls = s.accelerator.calls ∧ ∀ i, s'.sentTo i = s.sentTo i := by
  cases h with
  | aside h => exact ⟨Accelerator.calls_congr h.works.ledger_eq, h.sentTo_eq⟩
  | @session i c session effects hc ha hm =>
    have hr : Session.interruption? (s.view i c.session) c.session = some .terminated := by
      simp [Session.interruption?, view, ht]
    have hsent : ∀ session', session'.sent = c.session.sent →
        ∀ j, (s.afterMove i session' effects).sentTo j = s.sentTo j := by
      intro session' hsame j
      by_cases hij : i = j
      · subst hij
        rw [sentTo_afterMove hc, hsame, sentTo_eq hc]
      · exact sentTo_afterMove_of_ne hij _ _
    rw [afterMove_accelerator]
    rcases hm.of_interruption? hr with ⟨-, rfl, e, rfl⟩ | ⟨-, rfl, rfl⟩
    · exact ⟨rfl, hsent _ rfl⟩
    · exact ⟨Accelerator.calls_congr (ledger_foldl_parting _ _ _),
        hsent _ (Session.abandon_sent _)⟩

/-- Whatever happens after the server terminates, nothing is sent and no call is started. -/
theorem silent_of_reachable {s s' : Service} (ht : s.pool.terminated = true)
    (h : tasks.Reachable act s s') :
    s'.accelerator.calls = s.accelerator.calls ∧ ∀ i, s'.sentTo i = s.sentTo i := by
  suffices hsuff : s'.pool.terminated = true ∧
      s'.accelerator.calls = s.accelerator.calls ∧ ∀ i, s'.sentTo i = s.sentTo i from hsuff.2
  induction h with
  | start => exact ⟨ht, rfl, fun _ => rfl⟩
  | @act s₁ a _ ih =>
    obtain ⟨ht₁, hcalls, hsent⟩ := ih
    have hm := s₁.move_act a
    obtain ⟨hcalls', hsent'⟩ := hm.silent ht₁
    exact ⟨hm.terminated_of ht₁, hcalls'.trans hcalls, fun i => (hsent' i).trans (hsent i)⟩
  | step t hstep _ ih =>
    obtain ⟨ht₁, hcalls, hsent⟩ := ih
    have hm := move_of_step? hstep
    obtain ⟨hcalls', hsent'⟩ := hm.silent ht₁
    exact ⟨hm.terminated_of ht₁, hcalls'.trans hcalls, fun i => (hsent' i).trans (hsent i)⟩

/-- A session keeps waiting, and keeps its reason to close, until it makes a step. -/
theorem suspended_until_step {s s' : Service} {i : Nat} {c : Client}
    (hc : s.clients[i]? = some c)
    (h : (∃ a, s' = s.act a) ∨ ∃ t, t ≠ .session i ∧ s.step? t = some s') :
    ∃ c', s'.clients[i]? = some c' ∧ c'.session.phase = c.session.phase ∧
      (c.session.clientGone = true → c'.session.clientGone = true) ∧
      (s.pool.terminated = true → s'.pool.terminated = true) := by
  have haside : ∀ {arrived : Nat → List Inbound}, Aside arrived s s' →
      ∃ c', s'.clients[i]? = some c' ∧ c'.session.phase = c.session.phase ∧
        (c.session.clientGone = true → c'.session.clientGone = true) ∧
        (s.pool.terminated = true → s'.pool.terminated = true) := by
    intro arrived ha
    obtain ⟨c', hc', hkeep⟩ := ha.clients_keep.exists_keeps hc
    obtain ⟨taken, gone, hs, hgone⟩ := hkeep.session_eq
    exact ⟨c', hc', by rw [hs], by rw [hs]; exact hgone, ha.terminated_of⟩
  rcases h with ⟨a, rfl⟩ | ⟨t, ht, hstep⟩
  · exact haside (s.aside_act a)
  · cases t with
    | admission j => exact haside (aside_of_admissionStep? hstep)
    | reader j => exact haside (aside_of_readerStep? hstep)
    | unit n => exact haside (aside_of_unitStep? hstep)
    | drain k => exact haside (aside_of_drainStep? hstep)
    | session j =>
      obtain ⟨d, session, effects, hd, -, -, rfl⟩ := sessionStep?_eq_some.1 hstep
      have hji : j ≠ i := fun hji => ht (by rw [hji])
      exact ⟨c, by simp [hji, hc], rfl, id, by simp⟩

/-- **Interruption.** In every service that can be reached, a session that waits for a fragment,
for the gate, for its unit or for room has to close with `terminated` if the server terminates,
and else with `clientGone` if its client is gone. It can make that step at once, whatever the rest
does; the step sends nothing, starts no call, does not change who is inside the gate, leaves no
name of the session at the gate but that of a unit that is still there, and touches no other
client. Until it makes the step it keeps its reason to close. Once the server terminates, nothing
is ever sent again and no call is ever started. -/
theorem interrupted_at_once {s : Service} (h : s.IsReachable) :
    (∀ (i : Nat) (c : Client) (reason : CloseReason), s.clients[i]? = some c →
      c.session.phase.isSuspended = true →
      (s.pool.terminated = true ∧ reason = .terminated) ∨
        (s.pool.terminated = false ∧ c.session.clientGone = true ∧ reason = .clientGone) →
      (∃ s', s.step? (.session i) = some s' ∧
        (s'.clients[i]?).map (·.session.phase) = some (.closed reason) ∧
        (∀ j, s'.sentTo j = s.sentTo j) ∧
        s'.accelerator.calls = s.accelerator.calls ∧
        s'.accelerator.gate.holder? = s.accelerator.gate.holder? ∧
        (∀ k, (i, k) ∉ s'.accelerator.gate.queue) ∧
        (∀ p, s'.accelerator.gate.holder? = some p →
          ∃ u ∈ s'.accelerator.units, u.owner = p ∧ u.finished = false) ∧
        ∀ j, j ≠ i → s'.clients[j]? = s.clients[j]?) ∧
      ∀ s', ((∃ a, s' = s.act a) ∨ ∃ t, t ≠ .session i ∧ s.step? t = some s') →
        ∃ c', s'.clients[i]? = some c' ∧ c'.session.phase = c.session.phase ∧
          (c.session.clientGone = true → c'.session.clientGone = true) ∧
          (s.pool.terminated = true → s'.pool.terminated = true)) ∧
    (s.pool.terminated = true → ∀ s', tasks.Reachable act s s' →
      s'.accelerator.calls = s.accelerator.calls ∧ ∀ i, s'.sentTo i = s.sentTo i) := by
  refine ⟨fun i c reason hc hs hsignal => ⟨?_, fun s' => suspended_until_step hc⟩,
    fun ht s' => silent_of_reachable ht⟩
  have hr : Session.interruption? (s.view i c.session) c.session = some reason := by
    rcases hsignal with ⟨ht, rfl⟩ | ⟨ht, hgone, rfl⟩
    · simp [Session.interruption?, view, ht]
    · simp [Session.interruption?, view, ht, hgone]
  have hstep := step?_session_of_interruption? hc (h.orderly.isAdmitted_of_isSuspended hc hs) hs hr
  have h' := h.step hstep
  have hc' : (s.afterMove i (c.session.abandon.close reason)
      (Session.parting c.session.phase)).clients[i]? =
        some { c with session := c.session.abandon.close reason } := by
    simp [hc]
  refine ⟨_, hstep, ?_, fun j => ?_, ?_, ?_, fun k hk => ?_, fun p hp => ?_, fun j hj => ?_⟩
  · rw [hc']
    rfl
  · by_cases hij : i = j
    · subst hij
      rw [sentTo_afterMove hc, sentTo_eq hc]
      exact Session.abandon_sent _
    · exact sentTo_afterMove_of_ne hij _ _
  · rw [afterMove_accelerator, Accelerator.calls_congr (ledger_foldl_parting _ _ _)]
  · rw [afterMove_accelerator, holder?_foldl_parting]
  · -- Only sessions that wait for the gate have their names there, and this one has closed.
    have hqueued := (((h'.orderly.stands hc').mem_queue_iff k).1 hk).1
    cases hqueued
  · obtain ⟨n, u, hu, hf, ho⟩ := h'.guarded.exists_unit_of_holder? hp
    exact ⟨u, List.mem_of_getElem? hu, ho, hf⟩
  · simp [Ne.symm hj]

/-- The server terminates when the gate has just chosen a session, which has not come in yet. -/
def siege : List Event :=
  [.act (.enter false), .act (.send 0 (.fragment { message := "one" })), .step (.admission 0),
    .step (.session 0), .step (.session 0), .act (.shutdown 0), .step (.drain 0), .step (.drain 0)]

/-- What this leads to. -/
def besieged : Service :=
  (replay? { pool := .ofLimit 1 } siege).get (by decide +kernel)

theorem isReachable_besieged : besieged.IsReachable := by
  have hstart : create? {} {} 1 = .ok { pool := .ofLimit 1 } := rfl
  exact (IsReachable.start hstart).replay (Option.some_get _).symm

/-- A session that has been chosen does not come in any more once the server terminates. -/
theorem interrupted_at_once_of_siege : besieged.IsReachable ∧ besieged.pool.terminated = true ∧
    besieged.accelerator.gate.mayEnter (0, 1) = true ∧
    ∃ s', besieged.step? (.session 0) = some s' ∧
      (s'.clients[0]?).map (·.session.phase) = some (.closed .terminated) ∧
      (0, 1) ∉ s'.accelerator.gate.queue ∧ s'.accelerator.calls = [] := by
  have ht : besieged.pool.terminated = true := by decide +kernel
  have hwaits : (besieged.clients[0]?).any (·.session.phase.isSuspended) = true := by
    decide +kernel
  have hcalls : besieged.accelerator.calls = [] := by decide +kernel
  obtain ⟨c, hc, hs⟩ := (Option.any_eq_true _ _).1 hwaits
  refine ⟨isReachable_besieged, ht, by decide +kernel, ?_⟩
  obtain ⟨⟨s', hstep, hclosed, -, hsame, -, hqueue, -⟩, -⟩ :=
    (interrupted_at_once isReachable_besieged).1 0 c .terminated hc hs (.inl ⟨ht, rfl⟩)
  exact ⟨s', hstep, hclosed, hqueue 1, hsame.trans hcalls⟩

end Service

end StreamedInference
