import StreamedInference.Proofs.Generation.Ledger
import StreamedInference.Proofs.Pool.Signals
import StreamedInference.Proofs.Session.Move
import StreamedInference.Service.Step

/-!
# The moves of a service

Something happens in a service when the outside acts or a task makes a step. For one session there
are two kinds of such moves: its own steps, and all others, which leave alone everything that the
session has done and only add to what it can see. This file draws that line once, so that later
statements have two cases instead of one for each action and each task.

## Main definitions

* `Service.arrivals`: what an action adds to the inbound stream of a client.
* `Client.Keeps`, `ClientsKeep`: what may become of clients while no session makes a step.
* `Service.Aside`: a move in which no session makes a step.
* `Service.afterMove`: the service after a move of a session.
* `Service.Move`: a move of a service.

## Main results

* `Service.move_act`, `Service.move_of_step?`: all that happens in a service is a move.
* `Service.Move.client_cases`: what a move is for one client.
* `Service.Move.step_accelerator`: a move of a service is a move of its accelerator.
-/

namespace StreamedInference

/-! ### Clients while no session makes a step -/

/-- What may become of a client while its session makes no step and `arrived` is added to its
inbound stream. -/
structure Client.Keeps (arrived : List Inbound) (c c' : Client) : Prop where
  session_eq : ∃ taken clientGone, c'.session = { c.session with
    inbound := c.session.inbound ++ arrived, taken := taken, clientGone := clientGone } ∧
    (c.session.clientGone = true → clientGone = true)
  unread_le : c'.session.unread ≤ c.session.unread
  admitted_of : c.isAdmitted = true → c'.isAdmitted = true

namespace Client.Keeps

variable {arrived : List Inbound} {c c' : Client}

theorem refl (c : Client) : c.Keeps [] c where
  session_eq := ⟨c.session.taken, c.session.clientGone, by simp, id⟩
  unread_le := Nat.le_refl _
  admitted_of := id

/-- A change that is not seen in the session. -/
theorem of_session_eq (h : c'.session = c.session)
    (ha : c.isAdmitted = true → c'.isAdmitted = true) : c.Keeps [] c' where
  session_eq := ⟨c.session.taken, c.session.clientGone, by simp [h], id⟩
  unread_le := Nat.le_of_eq (by rw [h])
  admitted_of := ha

theorem receive (c : Client) (item : Inbound) :
    c.Keeps [item] { c with session := c.session.receive item } where
  session_eq := ⟨c.session.taken, c.session.clientGone, rfl, id⟩
  unread_le := Nat.le_refl _
  admitted_of := id

theorem goAway (c : Client) : c.Keeps [] c.goAway where
  session_eq := ⟨c.session.taken, true, by simp [Client.goAway], fun _ => rfl⟩
  unread_le := Nat.le_refl _
  admitted_of := id

/-- The client takes chunks. -/
theorem of_taken {taken : Nat} (h : c'.session = { c.session with taken := taken })
    (hle : c'.session.unread ≤ c.session.unread)
    (ha : c.isAdmitted = true → c'.isAdmitted = true) : c.Keeps [] c' where
  session_eq := ⟨taken, c.session.clientGone, by simp [h], id⟩
  unread_le := hle
  admitted_of := ha

theorem read (c : Client) (n : Nat) : c.Keeps [] (c.read n) := by
  unfold Client.read
  split
  · exact refl c
  · have hle : ({ c.session with
        taken := c.session.taken + min n c.session.unread } : Session).unread ≤
          c.session.unread := Nat.sub_le_sub_left (Nat.le_add_right _ _) _
    dsimp only
    split
    · exact of_taken rfl hle id
    · exact of_taken rfl hle id

theorem readStep? (h : c.readStep? = some c') : c.Keeps [] c' := by
  unfold Client.readStep? at h
  split at h
  · cases h
  · split at h
    · obtain rfl := Option.some.inj h
      exact goAway c
    · split at h
      · obtain rfl := Option.some.inj h
        exact of_taken rfl (Nat.le_trans (Nat.le_of_eq (Nat.sub_self _)) (Nat.zero_le _)) id
      · split at h
        · obtain rfl := Option.some.inj h
          exact of_session_eq rfl id
        · cases h

end Client.Keeps

/-- What may become of all clients while no session makes a step; some may come in. -/
structure ClientsKeep (arrived : Nat → List Inbound) (cs cs' : List Client) : Prop where
  exists_keeps : ∀ {i : Nat} {c : Client}, cs[i]? = some c →
    ∃ c', cs'[i]? = some c' ∧ c.Keeps (arrived i) c'
  newcomer : ∀ {i : Nat} {c' : Client}, cs'[i]? = some c' → cs[i]? = none →
    c'.session = {} ∧ c'.isAdmitted = false
  arrived_eq : ∀ {i : Nat}, cs[i]? = none → arrived i = []

namespace ClientsKeep

theorem refl (cs : List Client) : ClientsKeep (fun _ => []) cs cs where
  exists_keeps {i c} h := ⟨c, h, .refl c⟩
  newcomer h h' := by simp [h] at h'
  arrived_eq _ := rfl

theorem modify {cs : List Client} {i : Nat} {f : Client → Client} {arrived : Nat → List Inbound}
    (hf : ∀ c, cs[i]? = some c → c.Keeps (arrived i) (f c))
    (ho : ∀ j, i ≠ j ∨ cs[j]? = none → arrived j = []) :
    ClientsKeep arrived cs (cs.modify i f) where
  exists_keeps {j c} h := by
    by_cases hij : i = j
    · subst hij
      exact ⟨f c, by simp [h], hf c h⟩
    · exact ⟨c, by simp [hij, h], ho j (.inl hij) ▸ .refl c⟩
  newcomer {j c'} h h' := by
    have hlen := (List.getElem?_eq_some_iff.1 h).1
    rw [List.length_modify] at hlen
    simp [hlen] at h'
  arrived_eq h := ho _ (.inr h)

/-- A client's wish for a session comes to something. -/
theorem modify_admission {cs : List Client} {i : Nat} {admission : Admission}
    (hi : ∀ c, cs[i]? = some c → c.isAdmitted = false) :
    ClientsKeep (fun _ => []) cs (cs.modify i fun c => { c with admission := admission }) :=
  modify (fun c hc => .of_session_eq rfl fun ha => by simp [hi c hc] at ha) fun _ _ => rfl

theorem append (cs : List Client) (c : Client) (hs : c.session = {})
    (ha : c.isAdmitted = false) : ClientsKeep (fun _ => []) cs (cs ++ [c]) where
  exists_keeps {i d} h :=
    ⟨d, by rw [List.getElem?_append_left (List.getElem?_eq_some_iff.1 h).1, h], .refl d⟩
  newcomer {i c'} h h' := by
    rw [List.getElem?_append_right (by simpa using h')] at h
    obtain rfl := List.mem_singleton.1 (List.mem_of_getElem? h)
    exact ⟨hs, ha⟩
  arrived_eq _ := rfl

end ClientsKeep

namespace Service

/-! ### Moves in which no session makes a step -/

/-- What an action adds to the inbound stream of a client. -/
def arrivals (s : Service) (a : Action) (i : Nat) : List Inbound :=
  match a with
  | .send j item => if j = i ∧ s.canSend j = true then [item] else []
  | .halfClose j => if j = i ∧ s.canSend j = true then [.finish] else []
  | _ => []

/-- A move in which no session makes a step. -/
structure Aside (arrived : Nat → List Inbound) (s s' : Service) : Prop where
  setup_eq : s'.setup = s.setup
  clients_keep : ClientsKeep arrived s.clients s'.clients
  works : s.accelerator.Works s'.accelerator
  draining_of : s.pool.draining = true → s'.pool.draining = true
  terminated_of : s.pool.terminated = true → s'.pool.terminated = true

namespace Aside

variable {s s' : Service}

theorem refl (s : Service) : Aside (fun _ => []) s s :=
  ⟨rfl, .refl _, .rest, id, id⟩

/-- Only one client changes. -/
theorem changeClient {arrived : Nat → List Inbound} {i : Nat} {f : Client → Client}
    (hf : ∀ c, s.clients[i]? = some c → c.Keeps (arrived i) (f c))
    (ho : ∀ j, i ≠ j ∨ s.clients[j]? = none → arrived j = []) :
    Aside arrived s (s.changeClient i f) :=
  ⟨rfl, .modify hf ho, .rest, id, id⟩

/-- A client's wish for a session comes to something, and the pool goes on by no shutdown. -/
theorem admission {i : Nat} {a : Admission} {pool : Pool Nat}
    (hi : ∀ c, s.clients[i]? = some c → c.isAdmitted = false) (hstage : pool.stage = s.pool.stage)
    {opened : Nat} {log : List LogEvent} :
    Aside (fun _ => []) s { s.changeClient i fun c => { c with admission := a } with
      pool := pool, opened := opened, log := log } :=
  ⟨rfl, .modify_admission hi, .rest, fun h => (Pool.draining_congr hstage).trans h,
    fun h => (Pool.terminated_congr hstage).trans h⟩

end Aside

theorem not_isAdmitted_of_isWaiting {c : Client} (h : c.isWaiting = true) :
    c.isAdmitted = false := by
  unfold Client.isWaiting at h
  unfold Client.isAdmitted
  split at h <;> simp_all

/-- Who is not there cannot send anything. -/
theorem canSend_of_none {s : Service} {i : Nat} (h : s.clients[i]? = none) :
    s.canSend i = false := by
  rw [canSend, h]
  rfl

/-- Only what is sent arrives, and only with the client who sends it. -/
theorem arrivals_send_of_ne {s : Service} {i j : Nat} {item : Inbound}
    (h : i ≠ j ∨ s.clients[j]? = none) : s.arrivals (.send i item) j = [] := by
  refine if_neg ?_
  rintro ⟨rfl, hsend⟩
  rcases h with h | h
  · exact h rfl
  · simp [canSend_of_none h] at hsend

theorem arrivals_halfClose_of_ne {s : Service} {i j : Nat} (h : i ≠ j ∨ s.clients[j]? = none) :
    s.arrivals (.halfClose i) j = [] := by
  have hsend : s.arrivals (.send i .finish) j = [] := arrivals_send_of_ne h
  exact hsend

theorem aside_act (s : Service) (a : Action) : Aside (s.arrivals a) s (s.act a) := by
  cases a with
  | enter eager => exact ⟨rfl, .append _ _ rfl rfl, .rest, id, id⟩
  | send i item =>
    rw [act]
    split
    · rename_i hsend
      refine .changeClient (fun c _ => ?_) fun j => arrivals_send_of_ne
      have harr : s.arrivals (.send i item) i = [item] := by simp [arrivals, hsend]
      exact harr ▸ .receive c item
    · rename_i hsend
      have harr : s.arrivals (.send i item) = fun _ => [] := by
        funext j
        simp [arrivals, hsend]
      exact harr ▸ .refl s
  | halfClose i =>
    rw [act]
    split
    · rename_i hsend
      refine .changeClient (fun c _ => ?_) fun j => arrivals_halfClose_of_ne
      have harr : s.arrivals (.halfClose i) i = [.finish] := by simp [arrivals, hsend]
      exact harr ▸ ⟨⟨c.session.taken, c.session.clientGone, rfl, id⟩, Nat.le_refl _, id⟩
    · rename_i hsend
      have harr : s.arrivals (.halfClose i) = fun _ => [] := by
        funext j
        simp [arrivals, hsend]
      exact harr ▸ .refl s
  | disconnect i => exact .changeClient (fun c _ => .goAway c) fun _ _ => rfl
  | leave i => exact .changeClient (fun c _ => .of_session_eq rfl id) fun _ _ => rfl
  | giveUp i =>
    rw [act]
    split
    · rename_i hwait
      have hi : ∀ c, s.clients[i]? = some c → c.isAdmitted = false := fun c hc =>
        not_isAdmitted_of_isWaiting (by simpa [hc] using hwait)
      exact .admission hi (s.pool.stage_withdraw i)
    · exact .refl s
  | read i n => exact .changeClient (fun c _ => .read c n) fun _ _ => rfl
  | shutdown grace => exact ⟨rfl, .refl _, .rest, id, id⟩
  | advance ms => exact ⟨rfl, .refl _, .rest, id, id⟩
  | emit text =>
    simp only [act]
    split
    · rename_i h
      exact ⟨rfl, .refl _, Accelerator.works_of_emit? h, id, id⟩
    · exact .refl s
  | conclude ending =>
    simp only [act]
    split
    · rename_i h
      exact ⟨rfl, .refl _, Accelerator.works_of_conclude? h, id, id⟩
    · exact .refl s

/-- A step of an admission: a client that waits is admitted, fails, is refused, or begins to
queue. -/
theorem exists_of_admissionStep? {s s' : Service} {i : Nat} (h : s.admissionStep? i = some s') :
    ∃ c a pool opened log, s.clients[i]? = some c ∧ c.isWaiting = true ∧ a ≠ .arriving ∧
      (a = .queued → c.admission = .arriving) ∧ pool.stage = s.pool.stage ∧
      s' = { s.changeClient i fun c => { c with admission := a } with
        pool := pool, opened := opened, log := log } := by
  unfold admissionStep? at h
  split at h
  · cases h
  · rename_i c hc
    split at h
    · cases h
    · rename_i hwait
      have hwait' : c.isWaiting = true := by simpa using hwait
      have hstage := s.pool.stage_ask i (c.admission == .queued)
      dsimp only at h
      split at h
      · rename_i pool hask
        rw [hask] at hstage
        split at h
        · obtain rfl := Option.some.inj h
          exact ⟨c, .admitted (s.opened + 1), pool.track, s.opened + 1, s.log, hc, hwait', nofun,
            nofun, pool.stage_track.trans hstage, rfl⟩
        · rename_i fault _
          obtain rfl := Option.some.inj h
          exact ⟨c, .failed fault, pool.release, s.opened + 1, s.log, hc, hwait', nofun, nofun,
            pool.stage_release.trans hstage, rfl⟩
      · rename_i pool hask
        rw [hask] at hstage
        obtain rfl := Option.some.inj h
        exact ⟨c, .refused, pool, s.opened, _, hc, hwait', nofun, nofun, hstage, rfl⟩
      · rename_i pool hask
        rw [hask] at hstage
        split at h
        · cases h
        · rename_i hagain
          obtain rfl := Option.some.inj h
          refine ⟨c, .queued, pool, s.opened, s.log, hc, hwait', nofun, fun _ => ?_, hstage, rfl⟩
          unfold Client.isWaiting at hwait'
          split at hwait' <;> simp_all

theorem aside_of_admissionStep? {s s' : Service} {i : Nat} (h : s.admissionStep? i = some s') :
    Aside (fun _ => []) s s' := by
  obtain ⟨c, a, pool, opened, log, hc, hwait, -, -, hstage, rfl⟩ := exists_of_admissionStep? h
  refine .admission (fun d hd => ?_) hstage
  obtain rfl := Option.some.inj (hc.symm.trans hd)
  exact not_isAdmitted_of_isWaiting hwait

theorem aside_of_readerStep? {s s' : Service} {i : Nat} (h : s.readerStep? i = some s') :
    Aside (fun _ => []) s s' := by
  unfold readerStep? at h
  split at h
  · cases h
  · rename_i c hc
    obtain ⟨c', hc', rfl⟩ := Option.map_eq_some_iff.1 h
    refine .changeClient (fun d hd => ?_) fun _ _ => rfl
    obtain rfl := Option.some.inj (hc.symm.trans hd)
    exact .readStep? hc'

theorem aside_of_unitStep? {s s' : Service} {n : Nat} (h : s.unitStep? n = some s') :
    Aside (fun _ => []) s s' := by
  obtain ⟨progress, hp, rfl⟩ := Option.map_eq_some_iff.1 h
  have hstage : (if progress.left then s.pool.untrack else s.pool).stage = s.pool.stage := by
    split
    · exact s.pool.stage_untrack
    · rfl
  exact ⟨rfl, .refl _, Accelerator.works_of_unitStep? hp,
    fun h => (Pool.draining_congr hstage).trans h,
    fun h => (Pool.terminated_congr hstage).trans h⟩

theorem aside_of_drainStep? {s s' : Service} {k : Nat} (h : s.drainStep? k = some s') :
    Aside (fun _ => []) s s' := by
  obtain ⟨⟨pool, events⟩, hp, rfl⟩ := Option.map_eq_some_iff.1 h
  have hmove := Pool.drainMove_of_drainStep? hp
  exact ⟨rfl, .refl _, .rest, hmove.draining_of, hmove.terminated_of⟩

/-! ### Moves of a session -/

/-- What a session does to the accelerator under the name of a turn. -/
def heed (turn : TurnName) (a : Accelerator TurnName) : SessionEffect → Accelerator TurnName
  | .request => a.request turn
  | .withdraw => a.withdraw turn
  | .start call => a.start turn call
  | .take => a.take turn
  | .detach => a.detach turn
  | .note _ => a

/-- The service after a move of the session of a client. -/
def afterMove (s : Service) (i : Nat) (session : Session) (effects : List SessionEffect) :
    Service :=
  (effects.foldl (fun s e => s.apply (i, session.turns) e)
    (s.changeClient i fun c => { c with session := session })).retire session

/-- What no single effect changes is changed by no row of them. -/
theorem foldl_apply_of_eq {β : Type} {f : Service → β} {turn : TurnName}
    (hf : ∀ s e, f (s.apply turn e) = f s) (effects : List SessionEffect) (s : Service) :
    f (effects.foldl (fun s e => s.apply turn e) s) = f s := by
  induction effects generalizing s with
  | nil => rfl
  | cons e effects ih => rw [List.foldl_cons, ih, hf]

@[simp] theorem foldl_apply_setup (turn : TurnName) (effects : List SessionEffect)
    (s : Service) : (effects.foldl (fun s e => s.apply turn e) s).setup = s.setup :=
  foldl_apply_of_eq (f := setup) (fun _ e => by cases e <;> rfl) effects s

@[simp] theorem foldl_apply_clients (turn : TurnName) (effects : List SessionEffect)
    (s : Service) : (effects.foldl (fun s e => s.apply turn e) s).clients = s.clients :=
  foldl_apply_of_eq (f := clients) (fun _ e => by cases e <;> rfl) effects s

@[simp] theorem foldl_apply_stage (turn : TurnName) (effects : List SessionEffect)
    (s : Service) :
    (effects.foldl (fun s e => s.apply turn e) s).pool.stage = s.pool.stage :=
  foldl_apply_of_eq (f := fun s => s.pool.stage) (fun _ e => by cases e <;> rfl) effects s

@[simp] theorem foldl_apply_accelerator (turn : TurnName) (effects : List SessionEffect)
    (s : Service) : (effects.foldl (fun s e => s.apply turn e) s).accelerator =
      effects.foldl (heed turn) s.accelerator := by
  induction effects generalizing s with
  | nil => rfl
  | cons e effects ih =>
    rw [List.foldl_cons, List.foldl_cons, ih]
    cases e <;> rfl

@[simp] theorem retire_setup (s : Service) (session : Session) :
    (s.retire session).setup = s.setup := by
  unfold retire
  split <;> rfl

@[simp] theorem retire_clients (s : Service) (session : Session) :
    (s.retire session).clients = s.clients := by
  unfold retire
  split <;> rfl

@[simp] theorem retire_accelerator (s : Service) (session : Session) :
    (s.retire session).accelerator = s.accelerator := by
  unfold retire
  split <;> rfl

@[simp] theorem retire_stage (s : Service) (session : Session) :
    (s.retire session).pool.stage = s.pool.stage := by
  unfold retire
  split
  · rfl
  · rw [Pool.stage_untrack, Pool.stage_release]

section afterMove

variable (s : Service) (i : Nat) (session : Session) (effects : List SessionEffect)

@[simp] theorem afterMove_setup : (s.afterMove i session effects).setup = s.setup := by
  simp [afterMove, changeClient]

@[simp] theorem afterMove_clients : (s.afterMove i session effects).clients =
    s.clients.modify i fun c => { c with session := session } := by
  simp [afterMove, changeClient]

@[simp] theorem afterMove_accelerator : (s.afterMove i session effects).accelerator =
    effects.foldl (heed (i, session.turns)) s.accelerator := by
  simp [afterMove, changeClient]

@[simp] theorem afterMove_stage :
    (s.afterMove i session effects).pool.stage = s.pool.stage := by
  simp [afterMove, changeClient]

@[simp] theorem afterMove_draining :
    (s.afterMove i session effects).pool.draining = s.pool.draining :=
  Pool.draining_congr (s.afterMove_stage i session effects)

@[simp] theorem afterMove_terminated :
    (s.afterMove i session effects).pool.terminated = s.pool.terminated :=
  Pool.terminated_congr (s.afterMove_stage i session effects)

end afterMove

@[simp] theorem foldl_heed_notes (turn : TurnName) (a : Accelerator TurnName)
    (events : List LogEvent) : (events.map .note).foldl (heed turn) a = a := by
  induction events with
  | nil => rfl
  | cons e events ih => exact ih

/-- Beginning a turn is asking for the gate. -/
@[simp] theorem foldl_heed_beginTurn (turn : TurnName) (a : Accelerator TurnName)
    (setup : SessionSetup) (session : Session) (r : Request) :
    (session.beginTurn setup r).2.foldl (heed turn) a = a.request turn := by
  simp [Session.beginTurn, heed, Session.note]

/-- Ending a turn is leaving the unit alone. -/
@[simp] theorem foldl_heed_endTurn (turn : TurnName) (a : Accelerator TurnName)
    (setup : SessionSetup) (session : Session) (failure : Option Failure) :
    (session.endTurn setup failure).2.foldl (heed turn) a = a.detach turn := by
  cases failure <;> rfl

/-- What a session does under the name of another turn is not done to a unit. -/
theorem mem_units_foldl_heed {turn : TurnName} {u : GenerationUnit TurnName}
    (h : u.owner ≠ turn) (effects : List SessionEffect) {a : Accelerator TurnName}
    (hu : u ∈ a.units) : u ∈ (effects.foldl (heed turn) a).units := by
  induction effects generalizing a with
  | nil => exact hu
  | cons e effects ih =>
    refine ih ?_
    cases e with
    | request | withdraw | note => exact hu
    | start call => exact List.mem_append_left _ hu
    | take => exact Accelerator.mem_units_change_of_ne hu h _
    | detach => exact Accelerator.mem_units_change_of_ne hu h _

/-- What a session does is not counted among the calls of other clients. -/
theorem callsOf_foldl_heed {turn : TurnName} {i : Nat} (h : turn.1 ≠ i)
    (effects : List SessionEffect) (a : Accelerator TurnName) :
    (effects.foldl (heed turn) a).callsOf i = a.callsOf i := by
  induction effects generalizing a with
  | nil => rfl
  | cons e effects ih =>
    rw [List.foldl_cons, ih]
    cases e with
    | request | withdraw | note => rfl
    | start call => exact Accelerator.callsOf_start_of_ne a h turn.2 call
    | take => exact Accelerator.callsOf_congr (a.ledger_take turn) i
    | detach => exact Accelerator.callsOf_congr (a.ledger_detach turn) i

/-! ### All moves -/

/-- A move of a service, and what it adds to the inbound streams of the clients. -/
inductive Move (s : Service) : (Nat → List Inbound) → Service → Prop
  | session {i : Nat} {c : Client} {session : Session} {effects : List SessionEffect}
      (hc : s.clients[i]? = some c) (ha : c.isAdmitted = true)
      (hm : Session.Move s.setup (s.view i c.session) c.session session effects) :
      Move s (fun _ => []) (s.afterMove i session effects)
  | aside {arrived : Nat → List Inbound} {s' : Service} (h : Aside arrived s s') :
      Move s arrived s'

/-- What happens from outside is a move. -/
theorem move_act (s : Service) (a : Action) : s.Move (s.arrivals a) (s.act a) :=
  .aside (s.aside_act a)

theorem sessionStep?_eq_some {s s' : Service} {i : Nat} :
    s.sessionStep? i = some s' ↔ ∃ c session effects, s.clients[i]? = some c ∧
      c.isAdmitted = true ∧
      c.session.step? s.setup (s.view i c.session) = some (session, effects) ∧
      s' = s.afterMove i session effects := by
  unfold sessionStep?
  constructor
  · intro h
    split at h
    · cases h
    · rename_i c hc
      split at h
      · cases h
      · rename_i ha
        obtain ⟨⟨session, effects⟩, hstep, rfl⟩ := Option.map_eq_some_iff.1 h
        exact ⟨c, session, effects, hc, by simpa using ha, hstep, rfl⟩
  · rintro ⟨c, session, effects, hc, ha, hstep, rfl⟩
    simp [hc, ha, hstep, afterMove]

/-- A step of a task is a move. -/
theorem move_of_step? {s s' : Service} {t : ServiceTask} (h : s.step? t = some s') :
    s.Move (fun _ => []) s' := by
  cases t with
  | admission i => exact .aside (aside_of_admissionStep? h)
  | session i =>
    obtain ⟨c, session, effects, hc, ha, hstep, rfl⟩ := sessionStep?_eq_some.1 h
    exact .session hc ha (Session.move_of_step? hstep)
  | reader i => exact .aside (aside_of_readerStep? h)
  | unit n => exact .aside (aside_of_unitStep? h)
  | drain k => exact .aside (aside_of_drainStep? h)

/-- What a move is for one client: it has come in, or its session has made no step, or its session
has made the move. -/
theorem Move.client_cases {s s' : Service} {arrived : Nat → List Inbound} (h : s.Move arrived s')
    {i : Nat} {c' : Client} (hc' : s'.clients[i]? = some c') :
    (s.clients[i]? = none ∧ c'.session = {} ∧ c'.isAdmitted = false) ∨
    (∃ c, s.clients[i]? = some c ∧ c.Keeps (arrived i) c') ∨
    ∃ c session effects, s.clients[i]? = some c ∧ c.isAdmitted = true ∧
      Session.Move s.setup (s.view i c.session) c.session session effects ∧
      s' = s.afterMove i session effects ∧ c' = { c with session := session } := by
  cases h with
  | aside h =>
    cases hc : s.clients[i]? with
    | some c =>
      obtain ⟨d, hd, hkeep⟩ := h.clients_keep.exists_keeps hc
      obtain rfl := Option.some.inj (hc'.symm.trans hd)
      exact .inr (.inl ⟨c, rfl, hkeep⟩)
    | none => exact .inl ⟨rfl, h.clients_keep.newcomer hc' hc⟩
  | @session j c session effects hc ha hm =>
    have hc'' := hc'
    rw [afterMove_clients] at hc''
    by_cases hji : j = i
    · subst hji
      rw [List.getElem?_modify_eq, hc] at hc''
      exact .inr (.inr ⟨c, session, effects, hc, ha, hm, rfl, (Option.some.inj hc'').symm⟩)
    · rw [List.getElem?_modify_ne _ _ hji] at hc''
      exact .inr (.inl ⟨c', hc'', .refl c'⟩)

/-- What a session does is one move of the accelerator. -/
theorem step_foldl_heed {s : Service} {i : Nat} {session session' : Session}
    {effects : List SessionEffect}
    (hm : Session.Move s.setup (s.view i session) session session' effects) :
    s.accelerator.Step (effects.foldl (heed (i, session'.turns)) s.accelerator) := by
  cases hm with
  | opens => exact .works .rest
  | interrupted hs hr =>
    cases session.phase with
    | queued => exact .withdraw _
    | listening | sending | ending => exact .detach _
    | _ => exact .works .rest
  | inboundEnds => exact .works .rest
  | inboundFails => exact .works .rest
  | ignores => exact .works .rest
  | begins hp hn hi hr => exact foldl_heed_beginTurn _ _ _ _ _ ▸ .request _
  | drains => exact .works .rest
  | enters hp hn hm => exact .start _ _ hm
  | hears => exact .take _
  | hearsFailure => exact .take _
  | hearsEnd => exact .take _
  | puts => exact .works .rest
  | ends => exact foldl_heed_endTurn _ _ _ _ _ ▸ .detach _

/-- **A move of a service is a move of its accelerator.** -/
theorem Move.step_accelerator {s s' : Service} {arrived : Nat → List Inbound}
    (h : s.Move arrived s') : s.accelerator.Step s'.accelerator := by
  cases h with
  | session hc ha hm => exact afterMove_accelerator _ _ _ _ ▸ step_foldl_heed hm
  | aside h => exact .works h.works

theorem Move.setup_eq {s s' : Service} {arrived : Nat → List Inbound} (h : s.Move arrived s') :
    s'.setup = s.setup := by
  cases h with
  | session hc ha hm => exact afterMove_setup _ _ _ _
  | aside h => exact h.setup_eq

theorem Move.draining_of {s s' : Service} {arrived : Nat → List Inbound}
    (h : s.Move arrived s') (hd : s.pool.draining = true) : s'.pool.draining = true := by
  cases h with
  | session hc ha hm => simpa using hd
  | aside h => exact h.draining_of hd

theorem Move.terminated_of {s s' : Service} {arrived : Nat → List Inbound}
    (h : s.Move arrived s') (ht : s.pool.terminated = true) : s'.pool.terminated = true := by
  cases h with
  | session hc ha hm => simpa using ht
  | aside h => exact h.terminated_of ht

end Service

end StreamedInference
