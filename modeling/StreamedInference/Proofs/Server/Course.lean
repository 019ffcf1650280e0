import StreamedInference.Proofs.Server.Move

/-!
# The course of a server

A server passes the milestones of its course in one order, whatever its registry answers and for
whichever reason it stops: how far it has come is said by its phase, and its history is that part
of the full course. Only from the point on at which it shuts its pool down can a client be refused,
and there is no other shutdown.

What the run comes to is the outcome of the drain, unless the transport has broken. If it breaks
before the server has looked at how it has ended, the run comes to that.

## Main definitions

* `Server.fullCourse`: all milestones of a server's course.
* `Server.stages`: the stages of life that a server has gone through.
* `Server.Stands`: how a server stands in its course.
* `Server.Heeds`: the transport has broken, and the run will come to that.

## Main results

* `Server.Stands.aside`, `Server.Stands.advance`: every move leads from one such standing to
  another.
* `Server.Stands.of_reachable`: a server always has such a standing.
* `Server.result_of_broken`: what a run comes to whose transport has broken.
-/

namespace StreamedInference

namespace Server

/-- All milestones of a server's course, in their order. -/
def fullCourse (r : Registration) (outcome : DrainOutcome) : List Milestone :=
  [.asked (.register r), .entered .serving, .entered .draining, .asked (.deregister r.id),
    .stoppedListening, .beganDrain, .endedDrain outcome, .entered .stopped]

/-- The stages of life that a server has gone through. -/
def stages (s : Server) : List LifecycleState :=
  .starting :: s.history.filterMap fun m =>
    match m with
    | .entered state => some state
    | _ => none

end Server

/-! ### Phases -/

namespace ServerPhase

/-- How many milestones of its course a server has passed. -/
def passed : ServerPhase → Nat
  | .registering => 0
  | .registered => 1
  | .serving => 2
  | .deregistering _ => 3
  | .closing _ => 4
  | .draining _ => 6
  | .waiting _ _ | .stopping _ => 7
  | .ended _ => 8

/-- The server has stopped listening and has shut its pool down. -/
def hasClosed : ServerPhase → Bool
  | .draining _ | .waiting _ _ | .stopping _ | .ended _ => true
  | _ => false

/-- The shutdown of its pool has ended. -/
def hasDrained : ServerPhase → Bool
  | .waiting _ _ | .stopping _ | .ended _ => true
  | _ => false

/-- The server has still to look at how its transport has ended. -/
def awaitsTransport : ServerPhase → Bool
  | .registering | .registered | .serving | .deregistering none | .closing none | .draining none
  | .waiting _ _ => true
  | _ => false

/-- What is kept in the phase agrees with the transport, the clock and the outcome of the drain. -/
def Agrees (fault : Option String) (now : Nat) (outcome : DrainOutcome) : ServerPhase → Prop
  | .registering | .registered | .serving => True
  | .deregistering early | .closing early | .draining early =>
    ∀ cause, early = some (.broken cause) → fault = some cause
  | .waiting o deadline => o = outcome ∧ deadline ≤ now + Server.closeTimeout
  | .stopping result | .ended result =>
    result = .drained outcome ∨ ∃ cause, fault = some cause ∧ result = .broken cause

theorem Agrees.mono {fault fault' : Option String} {now now' : Nat} {outcome : DrainOutcome}
    {p : ServerPhase} (h : p.Agrees fault now outcome)
    (hfault : ∀ cause, fault = some cause → fault' = some cause) (hnow : now ≤ now') :
    p.Agrees fault' now' outcome := by
  cases p with
  | registering | registered | serving => trivial
  | deregistering early | closing early | draining early =>
    exact fun cause he => hfault cause (h cause he)
  | waiting o deadline => exact ⟨h.1, Nat.le_trans h.2 (Nat.add_le_add_right hnow _)⟩
  | stopping result | ended result =>
    exact h.imp_right fun ⟨cause, hc, hr⟩ => ⟨cause, hfault cause hc, hr⟩

/-- A transport that has broken is what the run comes to, if the server goes on from here. -/
def Heeds (cause : String) : ServerPhase → Prop
  | .registering | .registered | .serving | .waiting _ _ => True
  | .deregistering early | .closing early | .draining early =>
    ∀ e, early = some e → e = .broken cause
  | .stopping result | .ended result => result = .broken cause

theorem Heeds.of_awaitsTransport {p : ServerPhase} (cause : String)
    (h : p.awaitsTransport = true) : p.Heeds cause := by
  cases p with
  | registering | registered | serving | waiting => trivial
  | deregistering early | closing early | draining early =>
    cases early with
    | none => exact nofun
    | some e => cases h
  | stopping | ended => cases h

end ServerPhase

namespace Server

variable {s s' : Server} {outcome : DrainOutcome}

theorem fault_of_transportEnd? {cause : String} (h : s.transportEnd? = some (.broken cause)) :
    s.transport.fault = some cause := by
  unfold transportEnd? at h
  split at h
  · rename_i cause' hfault
    cases h
    exact hfault
  · split at h <;> cases h

theorem transportEnd?_of_fault {cause : String} (h : s.transport.fault = some cause) :
    s.transportEnd? = some (.broken cause) := by
  rw [transportEnd?, h]

/-- How a transport has ended agrees with what is made of it. -/
theorem result_agrees {e : TransportEnd} (h : ∀ cause, e = .broken cause →
    s.transport.fault = some cause) (outcome : DrainOutcome) :
    e.result outcome = .drained outcome ∨
      ∃ cause, s.transport.fault = some cause ∧ e.result outcome = .broken cause := by
  cases e with
  | closed => exact .inl rfl
  | broken cause => exact .inr ⟨cause, h cause rfl, rfl⟩

/-- The phases of the shutdowns of the pool. -/
def drainPhases (s : Server) : List DrainPhase :=
  s.service.pool.drains.map (·.phase)

/-! ### Standings -/

/-- How a server stands in its course. -/
structure Stands (s : Server) (outcome : DrainOutcome) : Prop where
  history_eq : s.history = (fullCourse s.setup.registration outcome).take s.phase.passed
  stopped_eq : s.transport.stopped = s.phase.hasClosed
  untouched : s.phase.hasClosed = false → s.service.Untouched
  exists_phase : s.phase.hasClosed = true → ∃ phase, s.drainPhases = [phase] ∧
    phase.InTime s.setup.grace s.service.pool.now
  drained : s.phase.hasDrained = true → s.drainPhases = [.ended outcome]
  agrees : s.phase.Agrees s.transport.fault s.service.pool.now outcome

theorem stands_of_create? {setup : ServerSetup} {registrar : Registrar} {sessions : SessionSetup}
    {engine : Engine} {limit : Nat} (h : create? setup registrar sessions engine limit = .ok s) :
    s.Stands .clean := by
  unfold create? at h
  cases hs : Service.create? sessions engine limit with
  | error f =>
    rw [hs] at h
    cases h
  | ok service =>
    rw [hs] at h
    obtain rfl := Except.ok.inj h
    exact ⟨rfl, rfl, fun _ => Service.untouched_of_create? hs, nofun, nofun, trivial⟩

/-- The only shutdown has ended if the server has learnt its outcome. -/
theorem Stands.drainPhases_eq {outcome' : DrainOutcome} (h : s.Stands outcome)
    (hc : s.phase.hasClosed = true) (ho : s.drainOutcome? = some outcome') :
    s.drainPhases = [.ended outcome'] := by
  obtain ⟨phase, hp, -⟩ := h.exists_phase hc
  obtain ⟨d, hd, rfl⟩ := List.map_eq_singleton_iff.1 hp
  simp only [drainOutcome?, hd, List.getLast?_singleton, Option.bind_some, Drain.outcome?] at ho
  split at ho
  · rename_i outcome₁ hphase
    rw [hp, hphase, Option.some.inj ho]
  · cases ho

/-- What happens around a server leaves it where it stands. -/
theorem Stands.aside (h : s.Stands outcome) (ha : s.Aside s') : s'.Stands outcome := by
  obtain ⟨m, hg, hm⟩ := ha.exists_poolMove
  constructor
  · rw [ha.history_eq, ha.setup_eq, ha.phase_eq]
    exact h.history_eq
  · rw [ha.stopped_eq, ha.phase_eq]
    exact h.stopped_eq
  · rw [ha.phase_eq]
    exact fun hc => hm.untouched hg (h.untouched hc)
  · rw [ha.phase_eq, ha.setup_eq]
    intro hc
    obtain ⟨phase, hp, ht⟩ := h.exists_phase hc
    obtain ⟨phase', hp', hn⟩ := hm.exists_next hg hp
    exact ⟨phase', hp', hn.inTime ht (hm.now_le hg)⟩
  · rw [ha.phase_eq]
    intro hd
    obtain ⟨phase', hp', hn⟩ := hm.exists_next hg (h.drained hd)
    cases hn with
    | rests => exact hp'
  · rw [ha.phase_eq]
    exact h.agrees.mono ha.fault_of (hm.now_le hg)

/-- The server goes on to a phase in which it listens, and its pool is shut down, as before. -/
theorem Stands.passes {outcome' : DrainOutcome} {p p' : ServerPhase} {ms : List Milestone}
    {log : List LogEvent} (h : s.Stands outcome) (hp : s.phase = p)
    (hc : p'.hasClosed = p.hasClosed)
    (hm : (fullCourse s.setup.registration outcome).take p.passed ++ ms =
      (fullCourse s.setup.registration outcome').take p'.passed)
    (hd : p'.hasDrained = true → s.drainPhases = [.ended outcome'])
    (ha : p'.Agrees s.transport.fault s.service.pool.now outcome') :
    Stands { s with
      phase := p'
      history := s.history ++ ms
      service := { s.service with log := log } } outcome' := by
  subst hp
  refine ⟨(congrArg (· ++ ms) h.history_eq).trans hm, h.stopped_eq.trans hc.symm, ?_, ?_, hd, ha⟩
  · intro hopen
    obtain ⟨hdrains, hdraining, hrefused⟩ := h.untouched (hc ▸ hopen)
    exact ⟨hdrains, hdraining, hrefused⟩
  · exact fun hclosed => h.exists_phase (hc ▸ hclosed)

/-- A step of its course leads a server to the next standing. -/
theorem Stands.advance (h : s.Stands outcome) (ha : s.Advance s') :
    ∃ outcome', s'.Stands outcome' := by
  have hagrees := h.agrees
  cases ha with
  | closes hp =>
    have hhistory := h.history_eq
    obtain ⟨hdrains, -, -⟩ := h.untouched (by rw [hp]; rfl)
    rw [hp] at hagrees hhistory
    have hphases : (s.service.pool.shutdown s.setup.grace).drains.map (·.phase) =
        [.called s.setup.grace] := by
      simp [Pool.shutdown, hdrains]
    refine ⟨outcome, ⟨?_, rfl, ?_, fun _ => ⟨_, hphases, rfl⟩, ?_, hagrees⟩⟩
    · exact congrArg (· ++ [.stoppedListening, .beganDrain]) hhistory
    · intro hopen
      cases hopen
    · intro hdrained
      cases hdrained
  | @passes p p' ms log hp hpass =>
    rw [hp] at hagrees
    have hearly : ∀ {q : ServerPhase}, q.hasDrained = false → q.hasDrained = true →
        s.drainPhases = [.ended outcome] :=
      fun hf ht => absurd ht (Bool.eq_false_iff.1 hf)
    cases hpass with
    | registers | serves => exact ⟨outcome, h.passes hp rfl rfl (hearly rfl) trivial⟩
    | obeys =>
      refine ⟨outcome, h.passes hp rfl rfl (hearly rfl) fun cause hbroken => ?_⟩
      cases hbroken
    | yields hs he =>
      refine ⟨outcome, h.passes hp rfl rfl (hearly rfl) fun cause hbroken => ?_⟩
      exact fault_of_transportEnd? (Option.some.inj hbroken ▸ he)
    | deregisters early => exact ⟨outcome, h.passes hp rfl rfl (hearly rfl) hagrees⟩
    | @drained outcome' ho =>
      have hphases := h.drainPhases_eq (by rw [hp]; rfl) ho
      exact ⟨outcome', h.passes hp rfl rfl (fun _ => hphases) ⟨rfl, Nat.le_refl _⟩⟩
    | @drainedEarly outcome' e ho =>
      have hphases := h.drainPhases_eq (by rw [hp]; rfl) ho
      refine ⟨outcome', h.passes hp rfl rfl (fun _ => hphases) (result_agrees ?_ outcome')⟩
      exact fun cause hbroken => hagrees cause (congrArg some hbroken)
    | @sees o deadline e he =>
      obtain ⟨rfl, -⟩ := hagrees
      have hdrained := h.drained (by rw [hp]; rfl)
      refine ⟨o, h.passes hp rfl rfl (fun _ => hdrained) (result_agrees ?_ o)⟩
      exact fun cause hbroken => fault_of_transportEnd? (hbroken ▸ he)
    | @aborts o deadline he ht =>
      obtain ⟨rfl, -⟩ := hagrees
      have hdrained := h.drained (by rw [hp]; rfl)
      exact ⟨o, h.passes hp rfl rfl (fun _ => hdrained) (.inl rfl)⟩
    | ends result =>
      have hdrained := h.drained (by rw [hp]; rfl)
      exact ⟨outcome, h.passes hp rfl rfl (fun _ => hdrained) hagrees⟩

/-- A server always stands somewhere in its course. -/
theorem Stands.of_reachable (h : s.Stands outcome) (hr : tasks.Reachable befall s s') :
    ∃ outcome', s'.Stands outcome' := by
  refine hr.of_leads (P := fun s => ∃ outcome, s.Stands outcome) ⟨outcome, h⟩ ?_
  rintro s s' m ⟨outcome, hs⟩ hm
  exact (aside_or_advance hm).elim (fun ha => ⟨outcome, hs.aside ha⟩) hs.advance

/-! ### What a standing says -/

/-- The history is a part of the full course. -/
theorem Stands.history_isPrefix (h : s.Stands outcome) :
    s.history <+: fullCourse s.setup.registration outcome :=
  h.history_eq ▸ List.take_prefix _ _

theorem Stands.stages_isPrefix (h : s.Stands outcome) :
    s.stages <+: [.starting, .serving, .draining, .stopped] :=
  (List.prefix_cons_inj _).2 (h.history_isPrefix.filterMap _)

theorem Stands.registryCalls_isPrefix (h : s.Stands outcome) :
    s.registryCalls <+: [.register s.setup.registration, .deregister s.setup.registration.id] :=
  h.history_isPrefix.filterMap _

/-- A server that has stopped listening and shut its pool down has done all else before. -/
theorem Stands.milestones_isPrefix (h : s.Stands outcome) (hc : s.phase.hasClosed = true) :
    [.asked (.register s.setup.registration), .entered .serving, .entered .draining,
      .asked (.deregister s.setup.registration.id), .stoppedListening, .beganDrain] <+:
        s.history := by
  have hpassed : 6 ≤ s.phase.passed := by
    cases hp : s.phase with
    | draining | waiting | stopping | ended => simp [ServerPhase.passed]
    | registering | registered | serving | deregistering | closing =>
      rw [hp] at hc
      cases hc
  rw [h.history_eq]
  exact List.take_prefix_take_left (l := fullCourse s.setup.registration outcome) hpassed

/-- Whatever a client can notice of the end comes after the server has shut its pool down. -/
theorem Stands.hasClosed_of (h : s.Stands outcome) (hn : s.transport.stopped = true ∨
    s.service.pool.draining = true ∨ ∃ i, s.service.admission? i = some .refused) :
    s.phase.hasClosed = true := by
  by_contra hopen
  obtain ⟨-, hdraining, hrefused⟩ := h.untouched (Bool.eq_false_iff.2 hopen)
  rcases hn with hstopped | hd | ⟨i, hi⟩
  · exact hopen (h.stopped_eq ▸ hstopped)
  · simp [hdraining] at hd
  · exact hrefused i hi

/-- The pool is shut down once, and this is seen in the history. -/
theorem Stands.length_drains (h : s.Stands outcome) :
    s.service.pool.drains.length = s.history.count .beganDrain := by
  have hopen : s.phase.hasClosed = false → s.service.pool.drains.length = 0 := fun hc => by
    rw [(h.untouched hc).drains_eq, List.length_nil]
  have hclosed : s.phase.hasClosed = true → s.service.pool.drains.length = 1 := fun hc => by
    obtain ⟨phase, hphases, -⟩ := h.exists_phase hc
    simpa [drainPhases] using congrArg List.length hphases
  rw [h.history_eq]
  cases hp : s.phase with
  | registering | registered | serving | deregistering | closing =>
    rw [hopen (by rw [hp]; rfl)]
    simp [fullCourse, ServerPhase.passed]
  | draining | waiting | stopping | ended =>
    rw [hclosed (by rw [hp]; rfl)]
    simp [fullCourse, ServerPhase.passed]

theorem Stands.outcomes_eq (h : s.Stands outcome) (hd : s.phase.hasDrained = true) :
    s.service.pool.outcomes = [outcome] := by
  obtain ⟨d, hdrains, hphase⟩ := List.map_eq_singleton_iff.1 (h.drained hd)
  simp [Pool.outcomes, hdrains, Drain.outcome?, hphase]

theorem phase_of_result? {result : ServerResult} (h : s.result? = some result) :
    s.phase = .ended result := by
  unfold result? at h
  split at h
  · rename_i result' hp
    rw [hp, Option.some.inj h]
  · cases h

/-- A run that is over has passed all milestones of its course. -/
theorem Stands.of_result? {result : ServerResult} (h : s.Stands outcome)
    (hr : s.result? = some result) :
    s.history = fullCourse s.setup.registration outcome ∧ s.service.pool.outcomes = [outcome] ∧
      (result = .drained outcome ∨
        ∃ cause, s.transport.fault = some cause ∧ result = .broken cause) := by
  have hp := phase_of_result? hr
  have hhistory := h.history_eq
  have hagrees := h.agrees
  rw [hp] at hhistory hagrees
  exact ⟨hhistory, h.outcomes_eq (by rw [hp]; rfl), hagrees⟩

/-- What has been closed stays so. -/
theorem hasClosed_of_reachable (hr : tasks.Reachable befall s s')
    (hc : s.phase.hasClosed = true) : s'.phase.hasClosed = true := by
  refine hr.of_leads (P := fun s => s.phase.hasClosed = true) hc ?_
  intro s s' m hc hm
  rcases aside_or_advance hm with ha | ha
  · exact ha.phase_eq ▸ hc
  · cases ha with
    | closes => rfl
    | passes hp hpass =>
      rw [hp] at hc
      cases hpass with
      | registers | serves | obeys | yields | deregisters => cases hc
      | drained | drainedEarly | sees | aborts | ends => rfl

/-! ### A transport that breaks -/

/-- The transport has broken, and the run has come to that or will. -/
structure Heeds (s : Server) (cause : String) : Prop where
  fault_eq : s.transport.fault = some cause
  heeds : s.phase.Heeds cause

theorem Heeds.aside {cause : String} (h : s.Heeds cause) (ha : s.Aside s') : s'.Heeds cause :=
  ⟨ha.fault_of cause h.fault_eq, ha.phase_eq ▸ h.heeds⟩

theorem Heeds.advance {cause : String} (h : s.Heeds cause) (ha : s.Advance s') :
    s'.Heeds cause := by
  obtain ⟨hfault, hphase⟩ := h
  have hend : ∀ {e : TransportEnd}, s.transportEnd? = some e → e = .broken cause := fun he =>
    (Option.some.inj ((transportEnd?_of_fault hfault).symm.trans he)).symm
  cases ha with
  | closes hp =>
    rw [hp] at hphase
    exact ⟨hfault, hphase⟩
  | passes hp hpass =>
    rw [hp] at hphase
    refine ⟨hfault, ?_⟩
    cases hpass with
    | registers | serves | drained => trivial
    | obeys => exact nofun
    | yields hs he => exact fun e heq => hend (heq ▸ he)
    | deregisters => exact hphase
    | drainedEarly => rw [hphase _ rfl]; rfl
    | sees he => rw [hend he]; rfl
    | aborts he => simp [transportEnd?_of_fault hfault] at he
    | ends => exact hphase

/-- **A transport that breaks** before the server has looked at how it has ended is what the run
comes to. -/
theorem result_of_broken {cause : String} (hf : s.transport.fault = some cause)
    (ha : s.phase.awaitsTransport = true) (hr : tasks.Reachable befall s s')
    {result : ServerResult} (hresult : s'.result? = some result) : result = .broken cause := by
  have hheeds : s'.Heeds cause := by
    refine hr.of_leads (P := fun s => s.Heeds cause) ⟨hf, .of_awaitsTransport cause ha⟩ ?_
    intro s s' m h hm
    exact (aside_or_advance hm).elim h.aside h.advance
  have hphase := hheeds.heeds
  rw [phase_of_result? hresult] at hphase
  exact hphase

end Server

end StreamedInference
