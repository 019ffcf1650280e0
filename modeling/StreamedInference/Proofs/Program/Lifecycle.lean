import StreamedInference.Program
import StreamedInference.Proofs.Server.Rest

/-!
# The life of a process

A process either does not come to serve, and then has asked no registry anything, or it makes a
server, which goes through its course as the registry, the transport and its clients may behave.

## Main definitions

* `Program.server?`: the server that a process makes.
* `Program.FailsToStart`: why it makes none.
* `Program.unvisited`: a server without clients.

## Main results

* `Program.server?_eq_none_iff`: a process makes a server unless there is a reason not to.
* `Program.run_of_none`: a process that makes no server ends and asks no registry anything.
* `Program.reachable_interrupt`, `Program.result?_interrupt`: the run that a signal ends.
* `Program.lives_in_order`: the order of what a process does.
-/

namespace StreamedInference

namespace Program

/-! ### The start -/

/-- The server that a process makes, if it comes to serve. -/
def server? (w : Surroundings) (words : List String) (env : Environment)
    (beside : Option String) : Option Server :=
  match Configuration.load words (environment env beside) with
  | .error _ => none
  | .ok c => (prepare w c).2.toOption

/-- Why a process does not come to serve. -/
inductive FailsToStart (w : Surroundings) (words : List String) (env : Environment)
    (beside : Option String) : Prop
  /-- Its settings cannot be used, or it is only asked to tell about itself. -/
  | settings {fault : Configuration.LoadFault}
      (h : Configuration.load words (environment env beside) = .error fault)
  /-- There is no model file. -/
  | model {c : Configuration} {fault : ModelFault}
      (hc : Configuration.load words (environment env beside) = .ok c)
      (h : ModelFile.resolve c.model.path (w.look c.model.path) = .error fault)
  /-- The model cannot be loaded. -/
  | engine {c : Configuration} {file : String} {failure : Failure}
      (hc : Configuration.load words (environment env beside) = .ok c)
      (hm : ModelFile.resolve c.model.path (w.look c.model.path) = .ok file)
      (h : (Decoder.load w.backend (decoderOptions c file)).result = .error failure)
  /-- The port cannot be bound, for instance because it is in use. -/
  | binding {c : Configuration} {cause : String}
      (hc : Configuration.load words (environment env beside) = .ok c)
      (h : w.bind c.listenAddress = .error cause)
  /-- There cannot be a pool of so many slots. -/
  | capacity {c : Configuration}
      (hc : Configuration.load words (environment env beside) = .ok c)
      (h : maxPermits < c.maxWorkers.toNat)

variable {w : Surroundings} {words : List String} {env : Environment} {beside : Option String}
  {start : Server}

/-- Nothing stands in the way of a process that has got as far as this. -/
theorem not_failsToStart {c : Configuration} {file : String} {engine : Engine} {port : UInt16}
    (hc : Configuration.load words (environment env beside) = .ok c)
    (hm : ModelFile.resolve c.model.path (w.look c.model.path) = .ok file)
    (he : (Decoder.load w.backend (decoderOptions c file)).result = .ok engine)
    (hb : w.bind c.listenAddress = .ok port) (hs : ¬ maxPermits < c.maxWorkers.toNat) :
    ¬ FailsToStart w words env beside := by
  intro h
  cases h with
  | settings h => simp [hc] at h
  | model hc' h =>
    obtain rfl := Except.ok.inj (hc.symm.trans hc')
    simp [hm] at h
  | engine hc' hm' h =>
    obtain rfl := Except.ok.inj (hc.symm.trans hc')
    obtain rfl := Except.ok.inj (hm.symm.trans hm')
    simp [he] at h
  | binding hc' h =>
    obtain rfl := Except.ok.inj (hc.symm.trans hc')
    simp [hb] at h
  | capacity hc' h =>
    obtain rfl := Except.ok.inj (hc.symm.trans hc')
    exact hs h

/-- The server that a process makes, given its service. -/
def serverOf (w : Surroundings) (c : Configuration) (registrar : Registry → Registrar)
    (service : Service) : Server where
  setup := .of c c.port w.route
  registrar := registrar (.of c.registry.enabled c.registry.agentAddress)
  service := service

/-- What a process prepares once its configuration is accepted: a service, or there is a reason why
not. The registry is not asked anything; it is only handed to the server. -/
theorem exists_prepare {c : Configuration}
    (hc : Configuration.load words (environment env beside) = .ok c) :
    ∃ result : Except StartFault Service,
      (∀ registrar, prepare { w with registrar := registrar } c =
        ((prepare w c).1, result.map (serverOf w c registrar))) ∧
      ((∃ fault, result = .error fault ∧ FailsToStart w words env beside) ∨
        ∃ engine service, result = .ok service ∧ ¬ FailsToStart w words env beside ∧
          Service.create? (sessionSetup c) engine c.maxWorkers.toNat = .ok service) := by
  cases hm : ModelFile.resolve c.model.path (w.look c.model.path) with
  | error fault =>
    refine ⟨.error (.model fault), fun registrar => ?_, .inl ⟨_, rfl, .model hc hm⟩⟩
    simp only [prepare, hm]
    rfl
  | ok file =>
    cases he : (Decoder.load w.backend (decoderOptions c file)).result with
    | error failure =>
      refine ⟨.error (.engine failure), fun registrar => ?_, .inl ⟨_, rfl, .engine hc hm he⟩⟩
      simp only [prepare, hm, prepareEngine, he]
      rfl
    | ok engine =>
      cases hb : w.bind c.listenAddress with
      | error cause =>
        refine ⟨.error (.binding c.listenAddress cause), fun registrar => ?_,
          .inl ⟨_, rfl, .binding hc hb⟩⟩
        simp only [prepare, hm, prepareEngine, he, prepareServer, hb]
        rfl
      | ok port =>
        by_cases hs : maxPermits < c.maxWorkers.toNat
        · refine ⟨.error (.capacity .tooMany), fun registrar => ?_,
            .inl ⟨_, rfl, .capacity hc hs⟩⟩
          simp only [prepare, hm, prepareEngine, he, prepareServer, hb, Server.create?,
            Service.create?, Pool.create?, if_pos hs]
          rfl
        · obtain ⟨service, hcreate⟩ : ∃ service,
              Service.create? (sessionSetup c) engine c.maxWorkers.toNat = .ok service := by
            rw [Service.create?, Pool.create?, if_neg hs]
            exact ⟨_, rfl⟩
          refine ⟨.ok service, fun registrar => ?_,
            .inr ⟨engine, service, rfl, not_failsToStart hc hm he hb hs, hcreate⟩⟩
          simp only [prepare, hm, prepareEngine, he, prepareServer, hb, Server.create?, hcreate]
          rfl

/-- A process makes a server unless there is a reason not to. -/
theorem server?_eq_none_iff :
    server? w words env beside = none ↔ FailsToStart w words env beside := by
  unfold server?
  cases hc : Configuration.load words (environment env beside) with
  | error fault => exact iff_of_true rfl (.settings hc)
  | ok c =>
    obtain ⟨result, hprepare, hresult⟩ := exists_prepare (w := w) hc
    have hw : (prepare w c).2 = result.map (serverOf w c w.registrar) :=
      congrArg Prod.snd (hprepare w.registrar)
    rcases hresult with ⟨fault, rfl, hfails⟩ | ⟨engine, service, rfl, hfails, -⟩
    · exact iff_of_true (by simp only [hw]; rfl) hfails
    · exact iff_of_false (by simp only [hw]; exact nofun) hfails

/-- A process makes its server of a service and of what the configuration tells. -/
theorem exists_service_of_server? {c : Configuration}
    (hc : Configuration.load words (environment env beside) = .ok c)
    (h : server? w words env beside = some start) :
    ∃ engine service, start = serverOf w c w.registrar service ∧
      ¬ FailsToStart w words env beside ∧
      Service.create? (sessionSetup c) engine c.maxWorkers.toNat = .ok service := by
  obtain ⟨result, hprepare, hresult⟩ := exists_prepare (w := w) hc
  have hw : (prepare w c).2 = result.map (serverOf w c w.registrar) :=
    congrArg Prod.snd (hprepare w.registrar)
  simp only [server?, hc, hw] at h
  rcases hresult with ⟨fault, rfl, -⟩ | ⟨engine, service, rfl, hfails, hcreate⟩
  · cases h
  · obtain rfl := Option.some.inj h
    exact ⟨engine, service, rfl, hfails, hcreate⟩

/-- A process that makes a server has accepted a configuration. -/
theorem exists_load_of_server? (h : server? w words env beside = some start) :
    ∃ c, Configuration.load words (environment env beside) = .ok c := by
  unfold server? at h
  split at h
  · cases h
  · exact ⟨_, ‹_›⟩

/-- The server has not begun to run. -/
theorem exists_create?_of_server? (h : server? w words env beside = some start) :
    ∃ setup registrar sessions engine limit,
      Server.create? setup registrar sessions engine limit = .ok start := by
  obtain ⟨c, hc⟩ := exists_load_of_server? h
  obtain ⟨engine, service, rfl, -, hcreate⟩ := exists_service_of_server? hc h
  refine ⟨.of c c.port w.route, w.registrar (.of c.registry.enabled c.registry.agentAddress),
    sessionSetup c, engine, c.maxWorkers.toNat, ?_⟩
  rw [Server.create?, hcreate]
  rfl

/-- **A process that makes no server** ends, has no history, and does not ask any registry. -/
theorem run_of_none (h : server? w words env beside = none) (signal : StopSignal) :
    (run w words env beside signal).history = [] ∧
      (run w words env beside signal).status ≠ none ∧
      ∀ registrar, run { w with registrar := registrar } words env beside signal =
        run w words env beside signal := by
  cases hc : Configuration.load words (environment env beside) with
  | error fault =>
    have hrun : ∀ registrar, run { w with registrar := registrar } words env beside signal =
        faultEnd fault := fun _ => by rw [run, hc]
    have hend : (faultEnd fault).history = [] ∧ (faultEnd fault).status ≠ none := by
      cases fault with
      | rejected => exact ⟨rfl, nofun⟩
      | usage error => cases error <;> exact ⟨rfl, nofun⟩
    have hw := hrun w.registrar
    exact ⟨hw ▸ hend.1, hw ▸ hend.2, fun registrar => (hrun registrar).trans hw.symm⟩
  | ok c =>
    obtain ⟨result, hprepare, hresult⟩ := exists_prepare (w := w) hc
    generalize (prepare w c).1 = log at hprepare
    rcases hresult with ⟨fault, rfl, -⟩ | ⟨engine, service, rfl, hfails, -⟩
    · have hrun : ∀ registrar, run { w with registrar := registrar } words env beside signal =
          { status := some fault.ending.1
            log := log
            filter := filterOf (environment env beside)
            errors := fault.ending.2 } := fun registrar => by
        simp only [run, hc, hprepare]
        rfl
      have hw := hrun w.registrar
      exact ⟨by rw [hw], by rw [hw]; exact nofun, fun registrar => (hrun registrar).trans hw.symm⟩
    · exact absurd (server?_eq_none_iff.1 h) hfails

/-- A process that makes a server goes on as this server does. -/
theorem run_of_some (h : server? w words env beside = some start) (signal : StopSignal) :
    (run w words env beside signal).status = (serverEnd (interrupt (begin start) signal)).status ∧
      (run w words env beside signal).history =
        (serverEnd (interrupt (begin start) signal)).history := by
  unfold server? at h
  unfold run
  split at h
  · cases h
  · rename_i c hc
    cases hp : prepare w c with
    | mk log result =>
      cases result with
      | error fault => simp [hp, Except.toOption] at h
      | ok server =>
        obtain rfl : server = start := by simpa [hp, Except.toOption] using h
        simp [hc, hp]

/-! ### The run that a signal ends -/

theorem settle_reachable {r : Server.Running}
    (h : Server.tasks.Reachable Server.befall start r.server) :
    Server.tasks.Reachable Server.befall start r.settle.server :=
  h.run r.server.bound r.schedule

/-- The run is among those that a server can have. -/
theorem reachable_interrupt (start : Server) (signal : StopSignal) :
    Server.tasks.Reachable Server.befall start (interrupt (begin start) signal).server := by
  have hbegin : Server.tasks.Reachable Server.befall start (begin start).server :=
    settle_reachable .start
  have hnote := hbegin.act (.note (Server.note .info ("Received " ++ signal.name ++ " signal")))
  have hsignal := hnote.act (.act .signal id)
  exact settle_reachable hsignal

theorem settle_of_settles {r : Server.Running} {P : Schedule Server.Task → Server → Prop}
    (q : Schedule Server.Task) (hq : r.schedule.refresh Server.tasks none r.server = q)
    (h : Server.tasks.Settles P (r.server.service.bound + 64) none q r.server) :
    P r.settle.schedule r.settle.server := by
  subst hq
  exact h.runFor

section

variable (setup : ServerSetup) (registrar : Registrar) (sessions : SessionSetup) (engine : Engine)

/-- A server without clients. What it does next does not depend on what it has done and noted. -/
def unvisited (pool : Pool Nat) (transport : Transport) (signalled : Bool) (phase : ServerPhase)
    (history : List Milestone) (log : List LogEvent) : Server where
  setup := setup
  registrar := registrar
  service := { setup := sessions, pool := pool, accelerator := { engine := engine }, log := log }
  transport := transport
  signalled := signalled
  phase := phase
  history := history

variable (limit : Nat) (history : List Milestone) (log : List LogEvent)

/-- A server that begins to run serves, and waits then. -/
theorem settles_registering (n : Nat) :
    Server.tasks.Settles
      (fun q s => q = ⟨[], [.main]⟩ ∧ ∃ history log, s =
        unvisited setup registrar sessions engine (.ofLimit limit) {} false .serving history log)
      (n + 5) none ⟨[.main], []⟩
      (unvisited setup registrar sessions engine (.ofLimit limit) {} false .registering history
        log) := by
  refine .turns (.steps {} rfl rfl (.steps {} rfl rfl ?_))
  -- It serves. Its transport has not ended, and nobody has told it to stop.
  exact .parks rfl (.rests ⟨rfl, _, _, rfl⟩)

/-- When its pool has been shut down, nothing keeps its transport open, and its run is over. -/
theorem settles_drained (n : Nat) :
    Server.tasks.Settles (fun _ s => s.result? = some (.drained .clean)) (n + 6) none
      ⟨[.main], [.service (.drain 0)]⟩
      (unvisited setup registrar sessions engine
        { limit := limit, free := limit, draining := true, terminated := true
          drains := [⟨.ended .clean, true⟩] }
        { stopped := true } true (.draining none) history log) := by
  let parked : Schedule Server.Task := ⟨[], [.service (.drain 0)]⟩
  -- The transport ends at once, since it has been told to stop and has no clients.
  refine .turns (.steps parked rfl rfl (.steps parked rfl rfl (.steps parked rfl rfl ?_)))
  exact .parks rfl (.rests rfl)

/-- The shutdown of its pool finds no task and ends at once. -/
theorem settles_draining (n : Nat) :
    Server.tasks.Settles (fun _ s => s.result? = some (.drained .clean)) (n + 10) none
      ⟨[.service (.drain 0)], [.main]⟩
      (unvisited setup registrar sessions engine ((Pool.ofLimit limit).shutdown setup.grace)
        { stopped := true } true (.draining none) history log) := by
  -- The second step ends the shutdown, which lets the server go on.
  refine .turns (.steps ⟨[], [.main]⟩ rfl rfl (.steps ⟨[.main], []⟩ rfl rfl ?_))
  exact .parks rfl (settles_drained setup registrar sessions engine limit _ _ n)

/-- A server that has been told to stop while it serves goes on to the shutdown of its pool. -/
theorem settles_signalled (n : Nat) :
    Server.tasks.Settles (fun _ s => s.result? = some (.drained .clean)) (n + 15) none
      ⟨[.main], []⟩
      (unvisited setup registrar sessions engine (.ofLimit limit) {} true .serving history
        log) := by
  refine .turns (.steps {} rfl rfl (.steps {} rfl rfl ?_))
  -- It begins the shutdown, waits, and leaves the turn to it.
  refine .steps ⟨[.service (.drain 0)], []⟩ rfl rfl (.parks rfl ?_)
  exact settles_draining setup registrar sessions engine limit _ _ n

end

/-- A server without clients that gets a signal comes to its end at once. -/
theorem result?_interrupt {setup : ServerSetup} {registrar : Registrar} {sessions : SessionSetup}
    {engine : Engine} {limit : Nat}
    (h : Server.create? setup registrar sessions engine limit = .ok start) (signal : StopSignal) :
    (interrupt (begin start) signal).server.result? = some (.drained .clean) := by
  unfold Server.create? Service.create? Pool.create? at h
  split at h
  · cases h
  · obtain rfl := Except.ok.inj h
    have hbegin := settle_of_settles (r := ⟨_, {}⟩) ⟨[.main], []⟩ rfl
      (settles_registering setup registrar { sessions with template := engine.template } engine
        limit [] [] _)
    rw [begin]
    generalize Server.Running.settle _ = r at hbegin ⊢
    obtain ⟨server, schedule⟩ := r
    obtain ⟨rfl, history, log, rfl⟩ := hbegin
    rw [interrupt, Server.Running.perform]
    exact settle_of_settles (P := fun _ s => s.result? = some (.drained .clean)) ⟨[.main], []⟩ rfl
      (settles_signalled setup registrar { sessions with template := engine.template } engine limit
        _ _ _)

theorem serverEnd_of_drained {r : Server.Running} {outcome : DrainOutcome}
    (h : r.server.result? = some (.drained outcome)) :
    (serverEnd r).status = some 0 ∧ (serverEnd r).history = r.server.history := by
  simp [serverEnd, h]

/-! ### The order -/

/-- **The order of what a process does.** Take any surroundings, command line and environment.

* A process makes no server if and only if its settings cannot be used, there is no model file, the
  model cannot be loaded, the port cannot be bound, or there cannot be so many slots.
* If it makes none, it ends without a history, in the same way however registries answer.
* If it makes one, take any run of the server, whatever clients, the transport, the clock and those
  who can stop it do, and whatever the registry answers. At any moment the history is a beginning of
  the full course: the server announces itself, serves, drains, withdraws the announcement under the
  same name, stops listening, begins the shutdown of its pool, sees it end, and has stopped. If the
  transport has been told to stop, or the pool drains, or a client has been refused, then all of
  these up to the shutdown have come before. The pool is shut down as often as the history says.
* A run that is over has passed the full course. It comes to the outcome of the only shutdown of the
  pool, unless the transport has broken; and it comes to that if the transport has broken before the
  server has looked at how it has ended.
* The tasks come to rest, in whichever order they run. A server at rest serves, has not been told to
  stop, and its transport has not ended; or it waits for a deadline, which is at most a period away;
  or its run is over. If it rests and does not serve, its run is over when it has come to rest three
  more times, each a period later at least.
* The process itself, which gets a signal as soon as it serves, is such a run, and succeeds. -/
theorem lives_in_order (w : Surroundings) (words : List String) (env : Environment)
    (beside : Option String) :
    (server? w words env beside = none ↔ FailsToStart w words env beside) ∧
    (server? w words env beside = none → ∀ signal,
      (run w words env beside signal).history = [] ∧
      (run w words env beside signal).status ≠ none ∧
      ∀ registrar, run { w with registrar := registrar } words env beside signal =
        run w words env beside signal) ∧
    ∀ start, server? w words env beside = some start →
      let r := start.setup.registration
      (∀ s, Server.tasks.Reachable Server.befall start s →
        (∃ outcome, s.history <+: Server.fullCourse r outcome) ∧
        s.stages <+: [.starting, .serving, .draining, .stopped] ∧
        s.registryCalls <+: [.register r, .deregister r.id] ∧
        (s.transport.stopped = true ∨ s.service.pool.draining = true ∨
            (∃ i, s.service.admission? i = some .refused) →
          [.asked (.register r), .entered .serving, .entered .draining, .asked (.deregister r.id),
            .stoppedListening, .beganDrain] <+: s.history) ∧
        s.service.pool.drains.length = s.history.count .beganDrain ∧
        (∀ result, s.result? = some result → ∃ outcome,
          s.history = Server.fullCourse r outcome ∧ s.service.pool.outcomes = [outcome] ∧
          (result = .drained outcome ∨
            ∃ cause, s.transport.fault = some cause ∧ result = .broken cause)) ∧
        (∀ cause s' result, s.transport.fault = some cause → s.phase.awaitsTransport = true →
          Server.tasks.Reachable Server.befall s s' → s'.result? = some result →
            result = .broken cause) ∧
        (∃ q, Server.tasks.Reaches s q ∧ Server.tasks.Quiet q) ∧
        (Server.tasks.Quiet s → s.Resting)) ∧
      (∀ f : Nat → Server, ∃ n, ∀ t, (f n).step? t ≠ some (f (n + 1))) ∧
      (∀ f : Nat → Server, Server.tasks.Reachable Server.befall start (f 0) →
        (f 0).phase ≠ .serving → (∀ n, Server.tasks.Quiet (f n)) →
        (∀ n, Server.tasks.Reachable Server.befall (f n) (f (n + 1))) →
        (∀ n, (f n).service.pool.now + (f n).period ≤ (f (n + 1)).service.pool.now) →
          ∃ result, (f 3).result? = some result) ∧
      ∀ signal, ∃ s, Server.tasks.Reachable Server.befall start s ∧
        s.result? = some (.drained .clean) ∧
        (run w words env beside signal).history = s.history ∧
        (run w words env beside signal).status = some 0 := by
  refine ⟨server?_eq_none_iff, run_of_none, fun start hstart => ?_⟩
  obtain ⟨setup, registrar, sessions, engine, limit, hcreate⟩ := exists_create?_of_server? hstart
  have hstands := Server.stands_of_create? hcreate
  refine ⟨fun s hr => ?_, Server.exists_not_step, fun f hr hserves hq hnext hnow => ?_,
    fun signal => ?_⟩
  · obtain ⟨outcome, hs⟩ := hstands.of_reachable hr
    have hsetup := Server.setup_of_reachable hr
    refine ⟨⟨outcome, hsetup ▸ hs.history_isPrefix⟩, hs.stages_isPrefix,
      hsetup ▸ hs.registryCalls_isPrefix, fun hn => ?_, hs.length_drains, fun result hresult => ?_,
      fun cause s' result hf ha hr' hresult => Server.result_of_broken hf ha hr' hresult,
      s.exists_quiet, hs.resting⟩
    · exact hsetup ▸ hs.milestones_isPrefix (hs.hasClosed_of hn)
    · exact ⟨outcome, hsetup ▸ hs.of_result? hresult⟩
  · obtain ⟨outcome, hs⟩ := hstands.of_reachable hr
    refine Server.exists_result_of_rests hs ?_ hq hnext hnow
    cases hs.resting (hq 0) with
    | serves hp => exact absurd hp hserves
    | waits hc => exact hc
    | ends hp => rw [hp]; rfl
  · have hresult := result?_interrupt hcreate signal
    obtain ⟨hstatus, hhistory⟩ := run_of_some hstart signal
    obtain ⟨hzero, hsame⟩ := serverEnd_of_drained hresult
    exact ⟨_, reachable_interrupt start signal, hresult, hhistory.trans hsame,
      hstatus.trans hzero⟩

/-- A model file, a free port, and a registry that cannot be reached. -/
def harbour : Surroundings where
  look _ := .file
  backend :=
    { start := .ok ()
      load := .ok ()
      parameters := 1
      template := .error "none"
      openContext := .ok ()
      tokenize := fun _ => .ok []
      add := fun _ => .ok ()
      decode := fun _ => .ok ()
      sample := fun _ => 0
      isEnd := fun _ => true
      bytes := fun _ _ => .ok [] }
  registrar _ _ _ := (.error (.registry "connection refused"), [])
  bind _ := .ok 8083

/-- The process goes through its full course and succeeds. -/
theorem lives_in_order_of_harbour : ∃ start, server? harbour [] [] none = some start ∧
    (run harbour [] [] none .terminate).history =
      Server.fullCourse start.setup.registration .clean ∧
    (run harbour [] [] none .terminate).status = some 0 := by
  have hsome : (server? harbour [] [] none).isSome = true := by decide +kernel
  obtain ⟨start, hstart⟩ := Option.isSome_iff_exists.1 hsome
  obtain ⟨-, -, hruns⟩ := lives_in_order harbour [] [] none
  obtain ⟨hmoments, -, -, hrun⟩ := hruns start hstart
  obtain ⟨s, hr, hresult, hhistory, hstatus⟩ := hrun .terminate
  obtain ⟨-, -, -, -, -, hends, -⟩ := hmoments s hr
  obtain ⟨outcome, hcourse, -, hdrained | ⟨cause, -, hbroken⟩⟩ := hends _ hresult
  · cases hdrained
    exact ⟨start, hstart, hhistory.trans hcourse, hstatus⟩
  · cases hbroken

end Program

end StreamedInference
