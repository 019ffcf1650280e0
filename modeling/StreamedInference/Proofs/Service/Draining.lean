import StreamedInference.Proofs.Service.Faithful

/-!
# Draining

A server that drains takes nothing away from a session that has something to do. Draining is looked
at in one place only, between two turns and behind everything that the client has sent; within a
turn a session makes the same steps whether the server drains or not. So a session that has closed
because the server drains has looked at all that was ever sent to it, and has made a whole turn of
each fragment that is not empty.

## Main definitions

* `Service.HasDrained`: the session of a client has closed because the server drains.

## Main results

* `Service.Move.of_hasDrained`: when a session closes because the server drains.
* `Service.IsReachable.drainedEmpty`: nothing is left of what was sent to a session that has done
  so.
* `Service.drains_when_settled`: draining closes only sessions that have nothing left to do.
-/

namespace StreamedInference

namespace Service

/-- The session of a client has closed because the server drains. -/
def HasDrained (s : Service) (i : Nat) : Prop :=
  ∃ c, s.clients[i]? = some c ∧ c.session.phase = .closed .drained

variable {s s' : Service} {received arrived : Nat → List Inbound} {i : Nat} {c : Client}

/-- When a session closes for draining. -/
theorem Move.of_hasDrained (h : s.Move arrived s') (hd : s'.HasDrained i)
    (hn : ¬ s.HasDrained i) :
    ∃ c, s.clients[i]? = some c ∧ c.session.phase = .idle ∧ c.session.inbound = [] ∧
      c.session.clientGone = false ∧ s.pool.draining = true ∧ s.pool.terminated = false := by
  obtain ⟨c', hc', hp'⟩ := hd
  obtain ⟨-, hs, -⟩ | ⟨c, hc, hkeep⟩ | ⟨c, session, effects, hc, -, hm, -, rfl⟩ :=
    h.client_cases hc'
  · simp [hs] at hp'
  · obtain ⟨taken, gone, hs, -⟩ := hkeep.session_eq
    exact absurd ⟨c, hc, by simpa [hs] using hp'⟩ hn
  · obtain ⟨-, hp, hinter, hi, hdrain⟩ := hm.of_drained hp'
    obtain ⟨hterm, hgone⟩ := Session.interruption?_eq_none.1 hinter
    exact ⟨c, hc, hp, hi, hgone, hdrain, hterm⟩

/-- Nothing arrives any more at a session that has closed. -/
theorem arrivals_of_closed (hc : s.clients[i]? = some c) (ha : c.isAdmitted = true)
    {reason : CloseReason} (hp : c.session.phase = .closed reason) (a : Action) :
    s.arrivals a i = [] := by
  have hwait : c.isWaiting = false := by
    unfold Client.isAdmitted at ha
    unfold Client.isWaiting
    split at ha <;> simp_all
  have hsend : s.canSend i = false := by
    simp [canSend, hc, Client.canSend, hwait, Session.isClosed, Session.closeReason?, hp]
  cases a with
  | send j item | halfClose j =>
    refine if_neg ?_
    rintro ⟨rfl, hj⟩
    simp [hsend] at hj
  | _ => rfl

/-- Nothing is left of what was sent to a session that has closed because the server drains. -/
def DrainedEmpty (s : Service) : Prop :=
  ∀ (i : Nat) (c : Client), s.clients[i]? = some c → c.session.phase = .closed .drained →
    c.session.inbound = []

theorem Move.drainedEmpty (h : s.Move arrived s') (hs : s.DrainedEmpty)
    (harr : ∀ (i : Nat) (c : Client), s.clients[i]? = some c →
      c.session.phase = .closed .drained → arrived i = []) : s'.DrainedEmpty := by
  intro i c' hc' hp'
  obtain ⟨-, hsession, -⟩ | ⟨c, hc, hkeep⟩ | ⟨c, session, effects, -, -, hm, -, rfl⟩ :=
    h.client_cases hc'
  · rw [hsession]
  · obtain ⟨taken, gone, hsession, -⟩ := hkeep.session_eq
    rw [hsession] at hp' ⊢
    rw [hs i c hc hp', harr i c hc hp', List.nil_append]
  · obtain ⟨heq, -, -, hi, -⟩ := hm.of_drained hp'
    dsimp only at heq ⊢
    rw [heq]
    exact hi

theorem IsReachable.drainedEmpty (h : s.IsReachable) : s.DrainedEmpty := by
  obtain ⟨received, r⟩ := h.exists_run
  induction r with
  | start hstart =>
    intro i c hc
    simp [(isInitial_of_create? hstart).clients_eq] at hc
  | @act _ s a r ih =>
    refine (s.move_act a).drainedEmpty (ih r.isReachable) fun i c hc hp => ?_
    have hadm := r.isReachable.orderly.isAdmitted_of_ne_opening hc (by simp [hp])
    exact arrivals_of_closed hc hadm hp a
  | step t ht r ih =>
    exact (move_of_step? ht).drainedEmpty (ih r.isReachable) fun _ _ _ _ => rfl

/-- **Draining costs nothing.** Take any run, with any number of clients.

* A session closes because the server drains only by a move made when the server drains and does
  not terminate, the client is there, no turn is under way, and nothing is left of what the client
  has sent, be it a fragment, a failure or the end of the stream.
* While a turn is under way, the steps of the session are the same whether the server drains or
  not.
* A session that has closed because the server drains has been sent nothing but fragments, and has
  begun one turn of each that is not empty. Its course over all of them, with any answers that are
  right for its calls now or later, has one call for each; all these calls have been made, and all
  chunks of the course have been sent, among them one last chunk for each. -/
theorem drains_when_settled (r : Run received s) :
    (∀ (i : Nat) (s' : Service), ((∃ a, s' = s.act a) ∨ ∃ t, s.step? t = some s') →
      s'.HasDrained i → ¬ s.HasDrained i → ∃ c : Client, s.clients[i]? = some c ∧
        c.session.phase = .idle ∧ c.session.inbound = [] ∧ c.session.clientGone = false ∧
        s.pool.draining = true ∧ s.pool.terminated = false) ∧
    (∀ (i : Nat) (c : Client) (draining : Bool), s.clients[i]? = some c → c.session.phase ≠ .idle →
      c.session.step? s.setup { s.view i c.session with draining := draining } =
        c.session.step? s.setup (s.view i c.session)) ∧
    (∀ (i : Nat) (c : Client), s.clients[i]? = some c → c.session.phase = .closed .drained →
      let fragments := SessionCourse.requests (received i)
      (∀ item ∈ received i, ∃ request, item = .fragment request) ∧
      c.session.turns = fragments.length ∧
      ∀ s' answers, tasks.Reachable act s s' → s'.Answered i answers →
        let course := SessionCourse.of s.setup answers (received i)
        course.Numbered s.setup answers fragments ∧ course.calls.length = fragments.length ∧
          s.accelerator.callsOf i = course.calls ∧ s.sentTo i = course.chunks ∧
          ((s.sentTo i).filter (·.isFinished)).length = fragments.length) := by
  refine ⟨fun i s' hnext hd hn => ?_, fun i c draining _ hp =>
    Session.step?_draining _ _ hp draining, fun i c hc hp => ?_⟩
  · rcases hnext with ⟨a, rfl⟩ | ⟨t, ht⟩
    · exact (s.move_act a).of_hasDrained hd hn
    · exact (move_of_step? ht).of_hasDrained hd hn
  · -- All that has been sent has been looked at, and the course over it has not closed.
    have hcourse : ∀ answers, s.Answered i answers →
        (SessionCourse.of s.setup answers (received i)).reason? = none ∧
          Session.Settled (.of s.setup answers (received i)) (s.accelerator.callsOf i)
            c.session := by
      intro answers ha
      obtain ⟨done, hrec, hreason, hsettled⟩ :=
        ((r.follows i ha).follows c hc).of_closed hp nofun nofun
      rw [r.isReachable.drainedEmpty i c hc hp, List.append_nil] at hrec
      subst hrec
      rcases hreason with hreason | ⟨-, hnone⟩
      · exact absurd hreason (SessionCourse.reason?_ne_drained _)
      · exact ⟨hnone, hsettled⟩
    have hlength : ∀ answers, s.Answered i answers →
        (SessionCourse.of s.setup answers (received i)).calls.length =
          (SessionCourse.requests (received i)).length :=
      fun answers ha => (SessionCourse.numbered_of _).length_eq (hcourse answers ha).1
    have hout := r.isReachable.answered_outcomes i
    refine ⟨fun item hitem => ?_, (hcourse _ hout).2.turns_eq.trans (hlength _ hout),
      fun s' answers hreach ha => ?_⟩
    · cases item with
      | fragment request => exact ⟨request, rfl⟩
      | failure | finish =>
        have hsome : (SessionCourse.of s.setup (s.outcomes i) (received i)).reason?.isSome = true :=
          SessionCourse.isSome_reason? hitem nofun
        simp [(hcourse _ hout).1] at hsome
    · have ha' := answered_of_reachable hreach ha
      obtain ⟨-, hsettled⟩ := hcourse answers ha'
      rw [sentTo_eq hc, hsettled.sent_eq]
      exact ⟨SessionCourse.numbered_of _, hlength _ ha', hsettled.calls_eq, rfl,
        (SessionCourse.length_finished _).trans (hlength _ ha')⟩

/-- Two clients with a fragment each. The server begins to drain while the first session has its
call in progress and the second waits for the gate; then the second client sends one more. -/
def farewell : List Event :=
  [.act (.enter true), .act (.enter true),
    .act (.send 0 (.fragment { message := "one" })),
    .act (.send 1 (.fragment { message := "two" })),
    .step (.admission 0), .step (.admission 1),
    .step (.session 0), .step (.session 0), .step (.session 0),
    .step (.session 1), .step (.session 1),
    .act (.shutdown 1000), .step (.drain 0),
    .act (.send 1 (.fragment { message := "three" })),
    .step (.unit 0), .step (.unit 0), .step (.unit 0),
    .step (.session 0), .step (.session 0), .step (.session 0), .step (.session 0),
    .step (.session 0),
    .step (.session 1), .step (.unit 1), .step (.unit 1), .step (.unit 1),
    .step (.session 1), .step (.session 1), .step (.session 1), .step (.session 1),
    .step (.session 1), .step (.session 1), .step (.unit 2), .step (.unit 2), .step (.unit 2),
    .step (.session 1), .step (.session 1), .step (.session 1), .step (.session 1),
    .step (.session 1)]

/-- The service in which this happens, which has two slots. -/
def parlour : Service :=
  { pool := .ofLimit 2, accelerator := { engine := { conduct := .replay ["token"] none } } }

/-- What it leads to. -/
def parted : Service :=
  (parlour.replay? farewell).get (by decide +kernel)

theorem run_parted : Run (fun i => [] ++ parlour.heard i farewell) parted := by
  have hstart : create? {} { conduct := .replay ["token"] none } 2 = .ok parlour := rfl
  exact (Run.start hstart).replay (Option.some_get _).symm

/-- A session that waited for the gate when the server began to drain makes its turn, and one more
of what was sent after that. -/
theorem drains_when_settled_of_farewell :
    ∃ received, Run received parted ∧ parted.HasDrained 1 ∧
      received 1 = [.fragment { message := "two" }, .fragment { message := "three" }] ∧
      parted.sentTo 1 =
        (SessionCourse.of parted.setup (parted.outcomes 1) (received 1)).chunks ∧
      ((parted.sentTo 1).filter (·.isFinished)).length = 2 := by
  have hclosed : (parted.clients[1]?).any (·.session.phase = .closed .drained) = true := by
    decide +kernel
  have hreceived : [] ++ parlour.heard 1 farewell =
      [.fragment { message := "two" }, .fragment { message := "three" }] := by
    decide +kernel
  obtain ⟨c, hc, hp⟩ := (Option.any_eq_true _ _).1 hclosed
  obtain ⟨-, -, hdrained⟩ := drains_when_settled run_parted
  obtain ⟨-, -, hwhole⟩ := hdrained 1 c hc (of_decide_eq_true hp)
  obtain ⟨-, -, -, hsent, hcount⟩ :=
    hwhole parted _ .start (run_parted.isReachable.answered_outcomes 1)
  refine ⟨_, run_parted, ⟨c, hc, of_decide_eq_true hp⟩, hreceived, hsent, ?_⟩
  rw [hcount, hreceived]
  decide +kernel

end Service

end StreamedInference
