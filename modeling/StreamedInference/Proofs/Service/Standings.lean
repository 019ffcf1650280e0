import StreamedInference.Proofs.Pool.Shutdown
import StreamedInference.Proofs.Pool.Slots
import StreamedInference.Proofs.Scheduling.History
import StreamedInference.Proofs.Service.Run

/-!
# Clients and their pool

The pool of a service knows nothing of what its clients say, and little of what its units do. What
matters to it is who has been let in, whose session has closed, and how many units have not left the
gate. This file says once what a move of the service is for these, so that a statement about the
pool need not look at sessions and units again.

## Main definitions

* `Client.standing`, `Service.standings`: how far clients have come.
* `Service.PoolMove`: what a move is for the pool and for those it knows of.

## Main results

* `Service.poolMove_of_leads`: all that happens is such a move.
-/

namespace StreamedInference

/-! ### Lists -/

/-- A function of the elements does not see a change that it does not distinguish. -/
theorem map_modify_of_eq {α β : Type} {l : List α} {i : Nat} {f : α → α} {g : α → β}
    (h : ∀ a, l[i]? = some a → g (f a) = g a) : (l.modify i f).map g = l.map g := by
  refine List.ext_getElem? fun j => ?_
  rw [List.getElem?_map, List.getElem?_map, List.getElem?_modify]
  by_cases hij : i = j
  · subst hij
    cases ha : l[i]? with
    | none => rfl
    | some a => simp [h a ha]
  · cases l[j]? <;> simp [hij]

/-- When one element is replaced, the count changes by that element alone. -/
theorem countP_set_add {α : Type} {l : List α} {i : Nat} {a : α} (h : l[i]? = some a) (b : α)
    (p : α → Bool) : (l.set i b).countP p + (p a).toNat = l.countP p + (p b).toNat := by
  obtain ⟨l₁, l₂, hl, -, hset⟩ := exists_append_set h b
  rw [hset, hl]
  simp only [List.countP_append, List.countP_cons]
  cases p a <;> cases p b <;> simp <;> omega

/-! ### Units -/

namespace Accelerator

variable {ι : Type} {a a' : Accelerator ι}

theorem length_unfinished (a : Accelerator ι) :
    a.unfinished.length = a.roster.countP fun e => !e.2 := by
  simp [unfinished, roster, List.countP_eq_length_filter, List.filter_map, Function.comp_def]

theorem length_unfinished_congr (h : a'.roster = a.roster) :
    a'.unfinished.length = a.unfinished.length := by
  rw [length_unfinished, length_unfinished, h]

theorem length_unfinished_start [DecidableEq ι] (a : Accelerator ι) (p : ι)
    (call : GenerateCall) : (a.start p call).unfinished.length = a.unfinished.length + 1 := by
  rw [length_unfinished, length_unfinished, roster_start, List.countP_append]
  rfl

theorem roster_set {n : Nat} {u u' : GenerationUnit ι} (hu : a.units[n]? = some u)
    (ho : u'.owner = u.owner) (hf : u'.finished = u.finished) :
    ({ a with units := a.units.set n u' } : Accelerator ι).roster = a.roster :=
  map_set_of_eq hu (by rw [ho, hf])

theorem roster_of_emit? {text : String} {report : EmitReport}
    (h : a.emit? text = some (report, a')) : a'.roster = a.roster := by
  unfold emit? at h
  split at h
  · cases h
  · split at h
    · cases h
    · rename_i u hu
      obtain ⟨-, rfl⟩ := Prod.mk.inj (Option.some.inj h)
      have hadv := GenerationUnit.advances_emit (isRunning_of_drivenPlace? ‹_› hu) u.script text
      exact roster_set hu hadv.owner_eq (u.emit_finished text)

theorem roster_of_conclude? {ending : Ending} (h : a.conclude? ending = some a') :
    a'.roster = a.roster := by
  unfold conclude? at h
  split at h
  · cases h
  · split at h
    · cases h
    · rename_i u hu
      obtain rfl := Option.some.inj h
      exact roster_set hu rfl rfl

/-- A unit leaves the gate in a step, or its call goes on. -/
theorem length_unfinished_of_unitStep? [DecidableEq ι] {n : Nat} {progress : Progress ι}
    (h : a.unitStep? n = some progress) :
    progress.accelerator.unfinished.length + progress.left.toNat = a.unfinished.length := by
  obtain ⟨u, hu, ⟨u', events, hstep, rfl⟩ | ⟨he, hf, rfl⟩⟩ := exists_of_unitStep? h
  · obtain ⟨hadv, hf⟩ := GenerationUnit.advances_callStep? hstep
    exact length_unfinished_congr (roster_set hu hadv.owner_eq hf)
  · have hroster : a.roster[n]? = some (u.owner, false) := by
      simp [roster, hu, hf]
    have hset : (({ a with
        gate := a.gate.release u.owner
        units := a.units.set n { u with finished := true } } : Accelerator ι)).roster =
          a.roster.set n (u.owner, true) := by
      simp [roster, List.map_set]
    have hcount := countP_set_add hroster (u.owner, true) fun e => !e.2
    rw [length_unfinished, length_unfinished, hset]
    simpa using hcount

end Accelerator

/-! ### Sessions -/

namespace Session

variable {setup : SessionSetup} {v : SessionView} {s s' : Session} {es : List SessionEffect}

theorem isClosed_eq_false_of_isSuspended (h : s.phase.isSuspended = true) :
    s.isClosed = false := by
  unfold isClosed closeReason?
  split
  · simp [SessionPhase.isSuspended, *] at h
  · rfl

/-- A closed session makes no move. -/
theorem Move.isClosed_eq_false (hm : Move setup v s s' es) : s.isClosed = false := by
  have hphase : ∀ {phase : SessionPhase}, s.phase = phase →
      (∀ reason, phase ≠ .closed reason) → s.isClosed = false := by
    intro phase hp hne
    unfold isClosed closeReason?
    split
    · exact absurd (hp.symm.trans ‹_›) (hne _)
    · rfl
  cases hm with
  | interrupted hs => exact isClosed_eq_false_of_isSuspended hs
  | opens hp | inboundEnds hp | inboundFails hp | ignores hp | begins hp | drains hp | enters hp
  | hears hp | hearsFailure hp | hearsEnd hp | puts hp | ends hp => exact hphase hp nofun

/-- A session starts a unit when it enters the gate, and in no other move. -/
theorem Move.start_or (hm : Move setup v s s' es) :
    (∃ call, es = [.start call] ∧ s'.isClosed = false) ∨ ∀ call, .start call ∉ es := by
  cases hm with
  | enters hp hn hm => exact .inl ⟨_, rfl, rfl⟩
  | interrupted hs hr =>
    right
    cases s.phase <;> simp [parting]
  | begins => simp [beginTurn, note]
  | @ends chunk failure => cases failure <;> simp [endTurn, note]
  | inboundFails | ignores | opens | inboundEnds | drains | hears | hearsFailure | hearsEnd
  | puts => simp [note]

end Session

/-! ### Clients -/

theorem Client.isWaiting_iff {c : Client} :
    c.isWaiting = true ↔ c.admission = .arriving ∨ c.admission = .queued := by
  unfold Client.isWaiting
  cases c.admission <;> simp

theorem Client.isAdmitted_iff {c : Client} :
    c.isAdmitted = true ↔ ∃ number, c.admission = .admitted number := by
  unfold Client.isAdmitted
  cases c.admission <;> simp

/-- How far a client has come: what has become of its wish for a session, and whether its session
has closed. -/
def Client.standing (c : Client) : Admission × Bool :=
  (c.admission, c.session.isClosed)

theorem Client.standing_read (c : Client) (n : Nat) : (c.read n).standing = c.standing := by
  unfold Client.read
  split
  · rfl
  · dsimp only
    split <;> rfl

theorem Client.standing_of_readStep? {c c' : Client} (h : c.readStep? = some c') :
    c'.standing = c.standing := by
  unfold Client.readStep? at h
  split at h
  · cases h
  · split at h
    · obtain rfl := Option.some.inj h
      rfl
    · split at h
      · obtain rfl := Option.some.inj h
        rfl
      · split at h
        · obtain rfl := Option.some.inj h
          rfl
        · cases h

namespace Service

variable {s s' : Service} {m : Action ⊕ ServiceTask} {i : Nat} {c : Client}

/-- How far the clients have come. -/
def standings (s : Service) : List (Admission × Bool) :=
  s.clients.map Client.standing

theorem standings_changeClient {f : Client → Client}
    (hf : ∀ c, s.clients[i]? = some c → (f c).standing = c.standing) :
    (s.changeClient i f).standings = s.standings :=
  map_modify_of_eq hf

theorem standings_changeClient_eq_set (hc : s.clients[i]? = some c) (f : Client → Client) :
    (s.changeClient i f).standings = s.standings.set i (f c).standing := by
  rw [standings, changeClient, modify_eq_set hc f, List.map_set]
  rfl

/-! ### Moves -/

/-- What a move of the service is for the pool, for those who have been let in or wait for it, and
for the number of units that have not left the gate. -/
inductive PoolMove (s : Service) : Action ⊕ ServiceTask → Service → Prop
  /-- Sessions and units go on, or clients do something. -/
  | rests {m : Action ⊕ ServiceTask} {s' : Service} (hp : s'.pool = s.pool)
      (hc : s'.standings = s.standings)
      (hu : s'.accelerator.unfinished.length = s.accelerator.unfinished.length)
      (ho : s'.opened = s.opened) : PoolMove s m s'
  | enters {eager : Bool} {s' : Service} (hp : s'.pool = s.pool)
      (hc : s'.standings = s.standings ++ [(.arriving, false)])
      (hu : s'.accelerator.unfinished.length = s.accelerator.unfinished.length)
      (ho : s'.opened = s.opened) : PoolMove s (.inl (.enter eager)) s'
  | calls (grace : Nat) :
      PoolMove s (.inl (.shutdown grace)) { s with pool := s.pool.shutdown grace }
  | advances (ms : Nat) : PoolMove s (.inl (.advance ms)) { s with pool := s.pool.advance ms }
  | drains {k : Nat} {pool : Pool Nat} {log : List LogEvent} (h : s.pool.DrainMove k pool) :
      PoolMove s (.inr (.drain k)) { s with pool := pool, log := log }
  /-- A client that waits gives up. -/
  | givesUp {i : Nat} {c : Client} {s' : Service} (hi : s.clients[i]? = some c)
      (hw : c.isWaiting = true) (hp : s'.pool = s.pool.withdraw i)
      (hc : s'.standings = s.standings.set i (.withdrawn, c.session.isClosed))
      (hu : s'.accelerator.unfinished.length = s.accelerator.unfinished.length)
      (ho : s'.opened = s.opened) : PoolMove s (.inl (.giveUp i)) s'
  /-- A client that waits asks for a slot, and is admitted, refused, or told to wait. -/
  | asks {i : Nat} {c : Client} {again : Bool} {answer : Admittance} {a : Admission}
      {pool : Pool Nat} {s' : Service} (hi : s.clients[i]? = some c) (hw : c.isWaiting = true)
      (hask : s.pool.AskMove i again answer pool)
      (ha : a = match answer with
        | .admitted => .admitted (s.opened + 1)
        | .refused => .refused
        | .pending => .queued)
      (hp : s'.pool = if answer = .admitted then pool.track else pool)
      (hc : s'.standings = s.standings.set i (a, c.session.isClosed))
      (hu : s'.accelerator.unfinished.length = s.accelerator.unfinished.length)
      (ho : s'.opened = if answer = .admitted then s.opened + 1 else s.opened)
      (hf : answer = .admitted → s.sessionFault? = none) : PoolMove s (.inr (.admission i)) s'
  /-- A client that waits is admitted, but its session cannot be made: its slot comes back. -/
  | fails {i : Nat} {c : Client} {again : Bool} {fault : CapacityFault} {pool : Pool Nat}
      {s' : Service} (hi : s.clients[i]? = some c) (hw : c.isWaiting = true)
      (hask : s.pool.AskMove i again .admitted pool) (hp : s'.pool = pool.release)
      (hc : s'.standings = s.standings.set i (.failed fault, c.session.isClosed))
      (hu : s'.accelerator.unfinished.length = s.accelerator.unfinished.length)
      (ho : s'.opened = s.opened + 1) (hf : s.sessionFault? = some fault) :
      PoolMove s (.inr (.admission i)) s'
  /-- A session starts a unit. -/
  | starts {i : Nat} {s' : Service} (hp : s'.pool = s.pool.track)
      (hc : s'.standings = s.standings)
      (hu : s'.accelerator.unfinished.length = s.accelerator.unfinished.length + 1)
      (ho : s'.opened = s.opened) : PoolMove s (.inr (.session i)) s'
  /-- A session closes, and its slot comes back. -/
  | closes {i : Nat} {c : Client} {s' : Service} (hi : s.clients[i]? = some c)
      (hopen : c.isOpen = true) (hp : s'.pool = s.pool.release.untrack)
      (hc : s'.standings = s.standings.set i (c.admission, true))
      (hu : s'.accelerator.unfinished.length = s.accelerator.unfinished.length)
      (ho : s'.opened = s.opened) : PoolMove s (.inr (.session i)) s'
  /-- A unit leaves the gate. -/
  | leaves {n : Nat} {s' : Service} (hp : s'.pool = s.pool.untrack)
      (hc : s'.standings = s.standings)
      (hu : s'.accelerator.unfinished.length + 1 = s.accelerator.unfinished.length)
      (ho : s'.opened = s.opened) : PoolMove s (.inr (.unit n)) s'

/-! ### What sessions do -/

/-- A session that starts no unit leaves the pool alone, and all units where they are. -/
theorem foldl_apply_pool (turn : TurnName) {effects : List SessionEffect}
    (h : ∀ call, .start call ∉ effects) (s : Service) :
    (effects.foldl (fun s e => s.apply turn e) s).pool = s.pool ∧
      (effects.foldl (fun s e => s.apply turn e) s).accelerator.roster =
        s.accelerator.roster := by
  induction effects generalizing s with
  | nil => exact ⟨rfl, rfl⟩
  | cons e effects ih =>
    have hrest : ∀ call, .start call ∉ effects := fun call hmem => h call (.tail _ hmem)
    obtain ⟨hpool, hroster⟩ := ih hrest (s.apply turn e)
    have hself : (s.apply turn e).pool = s.pool ∧
        (s.apply turn e).accelerator.roster = s.accelerator.roster := by
      cases e with
      | start call => exact absurd List.mem_cons_self (h call)
      | take => exact ⟨rfl, s.accelerator.roster_take turn⟩
      | detach => exact ⟨rfl, s.accelerator.roster_detach turn⟩
      | request | withdraw | note => exact ⟨rfl, rfl⟩
    exact ⟨hpool.trans hself.1, hroster.trans hself.2⟩

theorem foldl_apply_opened (turn : TurnName) (effects : List SessionEffect) (s : Service) :
    (effects.foldl (fun s e => s.apply turn e) s).opened = s.opened :=
  foldl_apply_of_eq (f := opened) (fun _ e => by cases e <;> rfl) effects s

theorem retire_pool (s : Service) (session : Session) : (s.retire session).pool =
    if session.isClosed then s.pool.release.untrack else s.pool := by
  unfold retire Session.isClosed
  split <;> simp [*]

theorem retire_opened (s : Service) (session : Session) :
    (s.retire session).opened = s.opened := by
  unfold retire
  split <;> rfl

theorem afterMove_opened (s : Service) (i : Nat) (session : Session)
    (effects : List SessionEffect) : (s.afterMove i session effects).opened = s.opened := by
  rw [afterMove, retire_opened, foldl_apply_opened]
  rfl

/-- The session of a client goes on, starts a unit, or closes. -/
theorem poolMove_session {session : Session} {effects : List SessionEffect}
    (hc : s.clients[i]? = some c) (ha : c.isAdmitted = true)
    (hm : Session.Move s.setup (s.view i c.session) c.session session effects) :
    s.PoolMove (.inr (.session i)) (s.afterMove i session effects) := by
  have hbefore := hm.isClosed_eq_false
  have hopened := s.afterMove_opened i session effects
  have hself : session.isClosed = false →
      (s.afterMove i session effects).standings = s.standings := by
    intro hopen
    rw [standings, afterMove_clients]
    refine map_modify_of_eq fun d hd => ?_
    obtain rfl := Option.some.inj (hc.symm.trans hd)
    rw [Client.standing, Client.standing, hbefore, hopen]
  rcases hm.start_or with ⟨call, rfl, hopen⟩ | hstart
  · refine .starts ?_ (hself hopen) ?_ hopened
    · rw [afterMove, retire_pool, if_neg (by simp [hopen])]
      rfl
    · rw [afterMove_accelerator]
      exact Accelerator.length_unfinished_start _ _ _
  · have hkeeps := foldl_apply_pool (i, session.turns) hstart
      (s.changeClient i fun c => { c with session := session })
    have hpool : (s.afterMove i session effects).pool =
        if session.isClosed then s.pool.release.untrack else s.pool := by
      rw [afterMove, retire_pool, hkeeps.1]
      rfl
    have hunits : (s.afterMove i session effects).accelerator.unfinished.length =
        s.accelerator.unfinished.length := by
      refine Accelerator.length_unfinished_congr ?_
      rw [afterMove, retire_accelerator, hkeeps.2]
      rfl
    cases hclosed : session.isClosed with
    | false =>
      rw [hclosed] at hpool
      exact .rests hpool (hself hclosed) hunits hopened
    | true =>
      have hopen : c.isOpen = true := by simp [Client.isOpen, ha, hbefore]
      rw [hclosed] at hpool
      refine .closes hc hopen hpool ?_ hunits hopened
      rw [standings, afterMove_clients, ← hclosed]
      exact standings_changeClient_eq_set hc fun c => { c with session := session }

/-! ### All moves -/

/-- Only one client changes, and its standing does not. -/
theorem PoolMove.changeClient {f : Client → Client}
    (hf : ∀ c, s.clients[i]? = some c → (f c).standing = c.standing) :
    s.PoolMove m (s.changeClient i f) :=
  .rests rfl (standings_changeClient hf) rfl rfl

/-- Nothing happens. -/
theorem PoolMove.refl (s : Service) (m : Action ⊕ ServiceTask) : s.PoolMove m s :=
  .rests rfl rfl rfl rfl

theorem poolMove_act (s : Service) (a : Action) : s.PoolMove (.inl a) (s.act a) := by
  cases a with
  | enter eager =>
    refine .enters rfl ?_ rfl rfl
    rw [standings, act, List.map_append]
    rfl
  | send i item =>
    rw [act]
    split
    · exact .changeClient (fun _ _ => rfl)
    · exact .refl _ _
  | halfClose i =>
    rw [act]
    split
    · exact .changeClient (fun _ _ => rfl)
    · exact .refl _ _
  | disconnect i => exact .changeClient (fun _ _ => rfl)
  | leave i => exact .changeClient (fun _ _ => rfl)
  | giveUp i =>
    rw [act]
    split
    · rename_i hwait
      obtain ⟨c, hc, hw⟩ := Option.any_eq_true _ _ |>.1 hwait
      exact .givesUp hc hw rfl (standings_changeClient_eq_set hc _) rfl rfl
    · exact .refl _ _
  | read i n => exact .changeClient (fun c _ => c.standing_read n)
  | shutdown grace => exact .calls grace
  | advance ms => exact .advances ms
  | emit text =>
    simp only [act]
    split
    · rename_i h
      have hroster := Accelerator.roster_of_emit? h
      exact .rests rfl rfl (Accelerator.length_unfinished_congr hroster) rfl
    · exact .refl _ _
  | conclude ending =>
    simp only [act]
    split
    · rename_i h
      have hroster := Accelerator.roster_of_conclude? h
      exact .rests rfl rfl (Accelerator.length_unfinished_congr hroster) rfl
    · exact .refl _ _

theorem poolMove_admission (h : s.admissionStep? i = some s') :
    s.PoolMove (.inr (.admission i)) s' := by
  unfold admissionStep? at h
  split at h
  · cases h
  · rename_i c hc
    split at h
    · cases h
    · rename_i hwait
      have hw : c.isWaiting = true := by simpa using hwait
      dsimp only at h
      split at h
      · have hask := Pool.askMove_of_ask ‹_›
        split at h
        · rename_i hf
          obtain rfl := Option.some.inj h
          exact .asks hc hw hask rfl rfl (standings_changeClient_eq_set hc _) rfl rfl fun _ => hf
        · rename_i fault hf
          obtain rfl := Option.some.inj h
          exact .fails hc hw hask rfl (standings_changeClient_eq_set hc _) rfl rfl hf
      · have hask := Pool.askMove_of_ask ‹_›
        obtain rfl := Option.some.inj h
        exact .asks hc hw hask rfl rfl (standings_changeClient_eq_set hc _) rfl rfl nofun
      · have hask := Pool.askMove_of_ask ‹_›
        split at h
        · cases h
        · obtain rfl := Option.some.inj h
          exact .asks hc hw hask rfl rfl (standings_changeClient_eq_set hc _) rfl rfl nofun

/-- All that happens in a service is such a move. -/
theorem poolMove_of_leads (h : tasks.Leads act s m s') : s.PoolMove m s' := by
  cases m with
  | inl a =>
    obtain rfl : s' = s.act a := h
    exact poolMove_act s a
  | inr t =>
    cases t with
    | admission i => exact poolMove_admission h
    | session i =>
      obtain ⟨c, session, effects, hc, ha, hstep, rfl⟩ := sessionStep?_eq_some.1 h
      exact poolMove_session hc ha (Session.move_of_step? hstep)
    | reader i =>
      have hstep : s.readerStep? i = some s' := h
      unfold readerStep? at hstep
      split at hstep
      · cases hstep
      · rename_i c hc
        obtain ⟨c', hc', rfl⟩ := Option.map_eq_some_iff.1 hstep
        refine .changeClient (fun d hd => ?_)
        obtain rfl := Option.some.inj (hc.symm.trans hd)
        exact Client.standing_of_readStep? hc'
    | unit n =>
      obtain ⟨progress, hp, rfl⟩ := Option.map_eq_some_iff.1 h
      have hunits := Accelerator.length_unfinished_of_unitStep? hp
      cases hleft : progress.left with
      | false =>
        rw [hleft] at hunits
        exact .rests rfl rfl hunits rfl
      | true =>
        rw [hleft] at hunits
        exact .leaves rfl rfl hunits rfl
    | drain k =>
      obtain ⟨⟨pool, events⟩, hp, rfl⟩ := Option.map_eq_some_iff.1 h
      exact .drains (Pool.drainMove_of_drainStep? hp)

end Service

end StreamedInference
