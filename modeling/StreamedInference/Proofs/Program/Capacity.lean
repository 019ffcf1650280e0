import StreamedInference.Proofs.Program.Lifecycle
import StreamedInference.Proofs.Settings.Acceptance

/-!
# What is accepted and what can be served

The checks of a configuration ask of the bounds on sessions and on waiting chunks only that they
are not zero. What keeps these bounds hands out permits and has only so many: a pool is made when
the process starts, after the model has been loaded, and an outbound buffer for each session. So
there are configurations that are accepted and cannot be served, and they are exactly those with a
bound beyond the permits. The grace period of the shutdown may have any length.

## Main definitions

* `Admission.Agrees`: what can have become of a client's wish, given why no session can be made.

## Main results

* `Configuration.IsSound.withBounds`: all bounds but zero are accepted.
* `Program.run_of_tooMany`: a process that breaks down.
* `Server.agrees_of_reachable`: whose sessions are made, and whose are not.
* `Program.serves_within_permits`: which of the accepted configurations are served.
-/

namespace StreamedInference

/-- A configuration is accepted with whatever bounds, unless one of them is zero. -/
theorem Configuration.IsSound.withBounds {c : Configuration} (h : c.IsSound)
    {workers size : UInt64} (hw : workers ≠ 0) (hs : size ≠ 0) :
    Configuration.IsSound
      { c with maxWorkers := workers, policy := { c.policy with streamBufferSize := size } } :=
  { h with maxWorkers := hw, streamBufferSize := hs }

/-- A buffer for some chunks can be made if there are permits for them. -/
theorem bufferFault?_eq_none_iff {size : Nat} (h : size ≠ 0) :
    bufferFault? size = none ↔ size ≤ maxPermits := by
  unfold bufferFault?
  rw [if_neg h]
  split <;> simp <;> omega

/-- A buffer of some size cannot be made if there are too few permits, and for no other reason. -/
theorem bufferFault?_eq_some_iff {size : Nat} (h : size ≠ 0) {fault : CapacityFault} :
    bufferFault? size = some fault ↔ fault = .tooMany ∧ maxPermits < size := by
  unfold bufferFault?
  rw [if_neg h]
  split <;> simp [*, eq_comm]

/-! ### Whose sessions are made -/

/-- What can have become of a client's wish for a session, given why none can be made, if so. -/
def Admission.Agrees (fault? : Option CapacityFault) : Admission → Prop
  | .admitted _ => fault? = none
  | .failed fault => fault? = some fault
  | .arriving | .queued | .refused | .withdrawn => True

theorem Admission.Passes.agrees {draining : Bool} {fault? : Option CapacityFault}
    {a a' : Option Admission} (h : Passes draining fault? a a')
    (ha : ∀ b, a = some b → b.Agrees fault?) : ∀ b, a' = some b → b.Agrees fault? := by
  cases h with
  | rests => exact ha
  | comes | withdraws | refused | queues =>
    rintro _ ⟨⟩
    trivial
  | admitted _ _ hf | fails _ _ hf =>
    rintro _ ⟨⟩
    exact hf

/-! ### What sessions are told -/

theorem Service.policy_of_create? {setup : SessionSetup} {engine : Engine} {limit : Nat}
    {s : Service} (h : create? setup engine limit = .ok s) : s.setup.policy = setup.policy := by
  unfold create? Pool.create? at h
  split at h
  · cases h
  · obtain rfl := Except.ok.inj h
    rfl

namespace Server

variable {s s' : Server}

theorem sessions_act (s : Server) (a : Action) : (s.act a).service.setup = s.service.setup := by
  have hserve : ∀ b, (s.service.act b).setup = s.service.setup := fun b =>
    (Service.move_act s.service b).setup_eq
  cases a with
  | serve b => cases b <;> exact hserve _
  | watch | breakTransport =>
    simp only [act]
    split <;> rfl
  | check | unwatch | signal | forgetClients | closeSource => rfl

theorem sessions_of_leads {m : Incident ⊕ Task} (hm : tasks.Leads befall s m s') :
    s'.service.setup = s.service.setup := by
  cases m with
  | inl i =>
    obtain rfl : s' = s.befall i := hm
    cases i with
    | act a h => exact sessions_act s a
    | note e => rfl
  | inr t =>
    cases t with
    | main =>
      cases advance_of_mainStep? hm with
      | passes => rfl
      | closes => exact (Service.move_act s.service _).setup_eq
    | service t =>
      obtain ⟨service, hs, rfl⟩ := Option.map_eq_some_iff.1 hm
      exact (Service.move_of_step? hs).setup_eq

/-- What all sessions of a server are told does not change. -/
theorem sessions_of_reachable (hr : tasks.Reachable befall s s') :
    s'.service.setup = s.service.setup :=
  hr.of_leads (P := fun s' => s'.service.setup = s.service.setup) rfl fun ih hm =>
    (sessions_of_leads hm).trans ih

/-- From a server without clients on, a client has a session only if one can be made, and its call
breaks down only for the reason for which none can. -/
theorem agrees_of_reachable (hr : tasks.Reachable befall s s') (hs : s.service.clients = [])
    (i : Nat) (a : Admission) (ha : s'.service.admission? i = some a) :
    a.Agrees s'.service.sessionFault? := by
  refine hr.of_leads (P := fun s => ∀ i a, s.service.admission? i = some a →
    a.Agrees s.service.sessionFault?) (fun i a h => ?_) (fun {q q' m} ih hm i => ?_) i a ha
  · simp [Service.admission?, hs] at h
  · obtain ⟨m', hmove⟩ := exists_poolMove_of_leads hm
    have hfault : q'.service.sessionFault? = q.service.sessionFault? := by
      rw [Service.sessionFault?, Service.sessionFault?, sessions_of_leads hm]
    exact hfault ▸ (hmove.passes i).agrees (ih i)

end Server

namespace Program

variable {w : Surroundings} {words : List String} {env : Environment} {beside : Option String}
  {c : Configuration} {file : String} {engine : Engine} {port : UInt16} {start : Server}

/-- A process with more slots than there are permits breaks down when it has bound its port. -/
theorem run_of_tooMany (hc : Configuration.load words (environment env beside) = .ok c)
    (hm : ModelFile.resolve c.model.path (w.look c.model.path) = .ok file)
    (he : (Decoder.load w.backend (decoderOptions c file)).result = .ok engine)
    (hb : w.bind c.listenAddress = .ok port) (hs : maxPermits < c.maxWorkers.toNat)
    (signal : StopSignal) :
    (run w words env beside signal).status = some 101 ∧
      (run w words env beside signal).errors = CapacityFault.tooMany.message ++ "\n" := by
  have hprepare : (prepare w c).2 = .error (.capacity .tooMany) := by
    simp only [prepare, hm, prepareEngine, he, prepareServer, hb, Server.create?,
      Service.create?, Pool.create?, if_pos hs]
    rfl
  cases hp : prepare w c with
  | mk log result =>
    rw [hp] at hprepare
    subst hprepare
    simp only [run, hc, hp]
    exact ⟨rfl, rfl⟩

/-- A process that has bound its port makes a server if there are permits for its slots. -/
theorem isSome_server?_iff (hc : Configuration.load words (environment env beside) = .ok c)
    (hm : ModelFile.resolve c.model.path (w.look c.model.path) = .ok file)
    (he : (Decoder.load w.backend (decoderOptions c file)).result = .ok engine)
    (hb : w.bind c.listenAddress = .ok port) :
    (server? w words env beside).isSome = true ↔ c.maxWorkers.toNat ≤ maxPermits := by
  rw [← Option.not_isNone, Bool.not_eq_true', ← Bool.not_eq_true, Option.isNone_iff_eq_none,
    server?_eq_none_iff, ← Nat.not_lt]
  exact not_congr ⟨fun h => by_contra fun hs => not_failsToStart hc hm he hb hs h, .capacity hc⟩

/-- **Which of the accepted configurations are served.** Take a configuration that a process has
accepted, and a model that can be loaded and a port that can be bound.

* It would have accepted any other bounds on sessions and on waiting chunks but zero.
* It makes a server exactly if there are permits for its slots; otherwise it breaks down.
* If it makes a server, then at any moment the outbound buffer of a session can be made exactly if
  there are permits for its chunks. If there are, no client's call has broken down for that; and if
  there are not, no client has a session.
* Whatever the grace period is, the server comes to its end once it has been told to stop, when its
  tasks have come to rest three more times, each a period later at least; and the process, which
  gets a signal as soon as it serves, succeeds. -/
theorem serves_within_permits (hc : Configuration.load words (environment env beside) = .ok c)
    (hm : ModelFile.resolve c.model.path (w.look c.model.path) = .ok file)
    (he : (Decoder.load w.backend (decoderOptions c file)).result = .ok engine)
    (hb : w.bind c.listenAddress = .ok port) :
    (∀ workers size : UInt64, workers ≠ 0 → size ≠ 0 →
      Configuration.fault?
        { c with maxWorkers := workers, policy := { c.policy with streamBufferSize := size } } =
          none) ∧
    ((server? w words env beside).isSome = true ↔ c.maxWorkers.toNat ≤ maxPermits) ∧
    (maxPermits < c.maxWorkers.toNat → ∀ signal,
      (run w words env beside signal).status = some 101 ∧
      (run w words env beside signal).errors = CapacityFault.tooMany.message ++ "\n") ∧
    ∀ start, server? w words env beside = some start →
      (∀ s, Server.tasks.Reachable Server.befall start s →
        (bufferFault? s.service.setup.policy.streamBufferSize.toNat = none ↔
          c.policy.streamBufferSize.toNat ≤ maxPermits) ∧
        ∀ client ∈ s.service.clients,
          (client.isAdmitted = true → c.policy.streamBufferSize.toNat ≤ maxPermits) ∧
          ∀ fault, client.admission = .failed fault →
            fault = .tooMany ∧ maxPermits < c.policy.streamBufferSize.toNat) ∧
      start.setup.grace = c.shutdownGraceSecs.toNat * 1000 ∧
      (∀ f : Nat → Server, Server.tasks.Reachable Server.befall start (f 0) →
        (f 0).phase.hasClosed = true → (∀ n, Server.tasks.Quiet (f n)) →
        (∀ n, Server.tasks.Reachable Server.befall (f n) (f (n + 1))) →
        (∀ n, (f n).service.pool.now + (f n).period ≤ (f (n + 1)).service.pool.now) →
          ∃ result, (f 3).result? = some result) ∧
      ∀ signal, (run w words env beside signal).status = some 0 := by
  obtain ⟨l, -, hl⟩ := Configuration.load_eq_ok_iff.mp hc
  have hsound := (Configuration.ofLayer?_eq_ok_iff.mp hl).2
  refine ⟨fun workers size hw hs => Configuration.fault?_eq_none_iff.mpr (hsound.withBounds hw hs),
    isSome_server?_iff hc hm he hb, run_of_tooMany hc hm he hb, fun start hstart => ?_⟩
  obtain ⟨setup, registrar, sessions, engine', limit, hmade⟩ := exists_create?_of_server? hstart
  have hstands := Server.stands_of_create? hmade
  obtain ⟨engine'', service, rfl, -, hcreate⟩ := exists_service_of_server? hc hstart
  refine ⟨fun s hr => ?_, rfl, fun f hr hclosed hq hnext hnow => ?_, fun signal => ?_⟩
  · have hsize : c.policy.streamBufferSize.toNat ≠ 0 := by
      simpa [← UInt64.toNat_inj] using hsound.streamBufferSize
    have hpolicy : s.service.setup.policy = c.policy := by
      rw [Server.sessions_of_reachable hr]
      exact Service.policy_of_create? hcreate
    refine ⟨by rw [hpolicy, bufferFault?_eq_none_iff hsize], fun client hclient => ?_⟩
    obtain ⟨i, hi⟩ := List.getElem?_of_mem hclient
    have hagrees := Server.agrees_of_reachable hr (Service.isInitial_of_create? hcreate).clients_eq
      i _ (Service.admission?_eq hi)
    rw [Service.sessionFault?, hpolicy] at hagrees
    refine ⟨fun hadmitted => ?_, fun fault hfailed => ?_⟩
    · obtain ⟨number, hnumber⟩ := Client.isAdmitted_iff.1 hadmitted
      rw [hnumber] at hagrees
      exact (bufferFault?_eq_none_iff hsize).1 hagrees
    · rw [hfailed] at hagrees
      exact (bufferFault?_eq_some_iff hsize).1 hagrees
  · obtain ⟨outcome, hs⟩ := hstands.of_reachable hr
    exact Server.exists_result_of_rests hs hclosed hq hnext hnow
  · obtain ⟨hstatus, -⟩ := run_of_some hstart signal
    exact hstatus.trans (serverEnd_of_drained (result?_interrupt hmade signal)).1

/-- The configuration of a process that is told the bounds alone. -/
def bounded (workers size : UInt64) : Configuration :=
  { Configuration.ofLayer fun _ => none with
    maxWorkers := workers
    policy := { streamBufferSize := size } }

/-- The model of such a process is loaded. -/
theorem exists_engine_bounded (workers size : UInt64) :
    ∃ file engine,
      ModelFile.resolve (bounded workers size).model.path .file = .ok file ∧
        (Decoder.load harbour.backend (decoderOptions (bounded workers size) file)).result =
          .ok engine :=
  ⟨_, _, rfl, rfl⟩

/-- The smallest bounds are kept, and the process succeeds. -/
theorem serves_within_permits_of_harbour :
    let words := ["--max-workers", "1", "--stream-buffer-size=1"]
    Configuration.load words (environment [] none) = .ok (bounded 1 1) ∧
      ∃ start, server? harbour words [] none = some start ∧
        bufferFault? start.service.setup.policy.streamBufferSize.toNat = none ∧
        (run harbour words [] none .interrupt).status = some 0 := by
  intro words
  have hc : Configuration.load words (environment [] none) = .ok (bounded 1 1) := by
    decide +kernel
  obtain ⟨file, engine, hm, he⟩ := exists_engine_bounded 1 1
  obtain ⟨-, hserver, -, hserved⟩ := serves_within_permits (w := harbour) hc hm he rfl
  obtain ⟨start, hstart⟩ := Option.isSome_iff_exists.mp (hserver.mpr (by decide))
  obtain ⟨hbuffer, -, -, hsuccess⟩ := hserved start hstart
  exact ⟨hc, start, hstart, (hbuffer start .start).1.mpr (by decide), hsuccess .interrupt⟩

/-- More slots than there are permits are accepted, and more waiting chunks are; but the process
breaks down when it makes its pool, or the buffer of a session cannot be made, and so the call of
the first client breaks down. -/
theorem breaks_down_of_throng :
    let words := ["--max-workers", "18446744073709551615"]
    (Configuration.load words (environment [] none) = .ok (bounded 18446744073709551615 32) ∧
      server? harbour words [] none = none ∧
      (run harbour words [] none .terminate).status = some 101) ∧
    Configuration.load ["--stream-buffer-size", "18446744073709551615"] (environment [] none) =
      .ok (bounded 10 18446744073709551615) ∧
    bufferFault? (bounded 10 18446744073709551615).policy.streamBufferSize.toNat =
      some .tooMany ∧
    ∃ start s, server? harbour ["--stream-buffer-size", "18446744073709551615"] [] none =
        some start ∧
      Server.tasks.Reachable Server.befall start s ∧
      s.service.admission? 0 = some (.failed .tooMany) := by
  intro words
  have hc : Configuration.load words (environment [] none) =
      .ok (bounded 18446744073709551615 32) := by
    decide +kernel
  have hs : maxPermits < (bounded 18446744073709551615 32).maxWorkers.toNat := by decide
  obtain ⟨file, engine, hm, he⟩ := exists_engine_bounded 18446744073709551615 32
  have hc' : Configuration.load ["--stream-buffer-size", "18446744073709551615"]
      (environment [] none) = .ok (bounded 10 18446744073709551615) := by
    decide +kernel
  refine ⟨⟨hc, server?_eq_none_iff.mpr (.capacity hc hs), ?_⟩, hc', by decide, ?_⟩
  · exact (run_of_tooMany hc hm he rfl hs .terminate).1
  · obtain ⟨file', engine', hm', he'⟩ := exists_engine_bounded 10 18446744073709551615
    obtain ⟨start, hstart⟩ := Option.isSome_iff_exists.mp
      ((isSome_server?_iff (w := harbour) hc' hm' he' rfl).mpr (by decide))
    obtain ⟨engine'', service, rfl, -, hcreate⟩ := exists_service_of_server? hc' hstart
    obtain rfl := Except.ok.inj hcreate
    exact ⟨_, _, hstart, .step (.service (.admission 0)) rfl
      (.act (.act (.serve (.enter true)) nofun) .start), rfl⟩

end Program

end StreamedInference
