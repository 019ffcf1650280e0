import StreamedInference.Proofs.Service.Standings
import StreamedInference.Proofs.Service.Turns

/-!
# What the pool of a service has counted

A pool counts slots and tasks and does not know whose they are. In a service each open session has
one slot and is one task, each unit that has not left the gate is one more task, and there is
nothing else. Nobody waits while holding a slot, because a client that is let in has its session at
once.

## Main definitions

* `Service.openSessions`: the number of open sessions.
* `Service.Tallied`: the pool has counted open sessions and units.

## Main results

* `Service.PoolMove.openSessions_le`: no session opens while the pool drains.
* `Service.IsReachable.tallied`: the tally is right in every service that can be reached.
* `Service.IsReachable.allStand`: all its shutdowns stand where they can.
-/

namespace StreamedInference

/-- Whether a client that has come so far has an open session. -/
def hasOpenSession : Admission × Bool → Bool
  | (.admitted _, closed) => !closed
  | _ => false

@[simp] theorem hasOpenSession_closed (a : Admission) : hasOpenSession (a, true) = false := by
  cases a <;> rfl

theorem Client.isOpen_eq (c : Client) : c.isOpen = hasOpenSession c.standing := by
  unfold isOpen isAdmitted standing
  cases c.admission <;> rfl

namespace Service

variable {s s' : Service} {m : Action ⊕ ServiceTask} {i : Nat} {c : Client}

/-! ### Open sessions -/

/-- The number of open sessions. -/
def openSessions (s : Service) : Nat :=
  s.clients.countP Client.isOpen

theorem openSessions_eq (s : Service) : s.openSessions = s.standings.countP hasOpenSession := by
  rw [openSessions, standings, List.countP_map]
  exact List.countP_congr fun c _ => by rw [c.isOpen_eq, Function.comp_apply]

theorem openSessions_congr (h : s'.standings = s.standings) :
    s'.openSessions = s.openSessions := by
  rw [openSessions_eq, openSessions_eq, h]

theorem openSessions_set (hc : s.clients[i]? = some c) {e : Admission × Bool}
    (h : s'.standings = s.standings.set i e) :
    s'.openSessions + c.isOpen.toNat = s.openSessions + (hasOpenSession e).toNat := by
  have hget : s.standings[i]? = some c.standing := by
    rw [standings, List.getElem?_map, hc]
    rfl
  rw [openSessions_eq, openSessions_eq, h, c.isOpen_eq]
  exact countP_set_add hget e hasOpenSession

theorem isOpen_eq_false_of_isWaiting (hw : c.isWaiting = true) : c.isOpen = false := by
  rw [Client.isOpen, not_isAdmitted_of_isWaiting hw, Bool.false_and]

/-- Who waits has a session that has not begun. -/
theorem Orderly.isClosed_of_isWaiting (ho : s.Orderly) (hc : s.clients[i]? = some c)
    (hw : c.isWaiting = true) : c.session.isClosed = false := by
  have hphase := (ho.stands hc).opening_of (not_isAdmitted_of_isWaiting hw)
  rw [Session.isClosed, Session.closeReason?, hphase]
  rfl

/-- No session opens while the pool drains. -/
theorem PoolMove.openSessions_le (hm : s.PoolMove m s') (hd : s.pool.draining = true) :
    s'.openSessions ≤ s.openSessions := by
  -- It is enough that the client that makes the move has no open session then.
  have hset : ∀ {i : Nat} {c : Client} {e : Admission × Bool}, s.clients[i]? = some c →
      s'.standings = s.standings.set i e → hasOpenSession e = false →
        s'.openSessions ≤ s.openSessions := by
    intro i c e hi hc he
    have hsum := openSessions_set hi hc
    rw [he, Bool.toNat_false, Nat.add_zero] at hsum
    exact hsum ▸ Nat.le_add_right _ _
  cases hm with
  | rests _ hc | starts _ hc | leaves _ hc => exact Nat.le_of_eq (openSessions_congr hc)
  | calls | advances | drains => exact Nat.le_refl _
  | enters _ hc =>
    rw [openSessions_eq, openSessions_eq, hc, List.countP_append]
    exact Nat.le_refl _
  | givesUp hi _ _ hc => exact hset hi hc rfl
  | closes hi _ _ hc => exact hset hi hc (hasOpenSession_closed _)
  | asks hi _ hask ha _ hc =>
    obtain rfl := hask.eq_refused hd
    exact hset hi (ha ▸ hc) rfl
  | fails hi _ _ _ hc => exact hset hi hc rfl

theorem openSessions_le_of_reachable (h : tasks.Reachable act s s')
    (hd : s.pool.draining = true) : s'.openSessions ≤ s.openSessions := by
  refine (h.of_leads (P := fun s' => s'.pool.draining = true ∧ s'.openSessions ≤ s.openSessions)
    ⟨hd, Nat.le_refl _⟩ ?_).2
  exact fun ⟨hd, hle⟩ hl =>
    ⟨draining_of_leads hl hd, Nat.le_trans ((poolMove_of_leads hl).openSessions_le hd) hle⟩

/-! ### The tally -/

/-- The pool has counted a slot and a task for each open session, and a task for each unit that has
not left the gate. -/
structure Tallied (s : Service) : Prop where
  inflight_eq : s.pool.inflight = s.openSessions
  tracked_eq : s.pool.tracked = s.openSessions + s.accelerator.unfinished.length

theorem Tallied.of_isInitial (h : s.IsInitial) : s.Tallied := by
  obtain ⟨engine, ha⟩ := h.accelerator_eq
  obtain ⟨limit, hp⟩ := h.pool_eq
  constructor <;> simp [openSessions, h.clients_eq, ha, hp, Pool.ofLimit, Accelerator.unfinished]

/-- The tally is kept if the clients stay as they are, and tasks begin and end as units do. -/
theorem Tallied.of_standings (h : s.Tallied) (hc : s'.standings = s.standings)
    (hinflight : s'.pool.inflight = s.pool.inflight)
    (htracked : s'.pool.tracked + s.accelerator.unfinished.length =
      s.pool.tracked + s'.accelerator.unfinished.length) : s'.Tallied := by
  have hsame := openSessions_congr hc
  have hbefore := h.tracked_eq
  exact ⟨by rw [hinflight, h.inflight_eq, hsame], by omega⟩

/-- The tally is kept if one client goes on, and a slot is taken and a task begins if a session
opens, and the slot comes back and the task ends if it closes. -/
theorem Tallied.set (h : s.Tallied) (hi : s.clients[i]? = some c) {e : Admission × Bool}
    (hc : s'.standings = s.standings.set i e)
    (hu : s'.accelerator.unfinished.length = s.accelerator.unfinished.length)
    (hinflight : s'.pool.inflight + c.isOpen.toNat =
      s.pool.inflight + (hasOpenSession e).toNat)
    (htracked : s'.pool.tracked + c.isOpen.toNat = s.pool.tracked + (hasOpenSession e).toNat) :
    s'.Tallied := by
  have hset := openSessions_set hi hc
  obtain ⟨hinflight_s, htracked_s⟩ := h
  constructor <;> omega

/-- The tally is kept if a client that waits goes on without a session. -/
theorem Tallied.setWaiting (h : s.Tallied) (hi : s.clients[i]? = some c) (hw : c.isWaiting = true)
    {e : Admission × Bool} (he : hasOpenSession e = false)
    (hc : s'.standings = s.standings.set i e)
    (hu : s'.accelerator.unfinished.length = s.accelerator.unfinished.length)
    (hinflight : s'.pool.inflight = s.pool.inflight) (htracked : s'.pool.tracked = s.pool.tracked) :
    s'.Tallied := by
  have hopen := isOpen_eq_false_of_isWaiting hw
  exact h.set hi hc hu (by rw [hinflight, hopen, he]) (by rw [htracked, hopen, he])

/-- **Every move keeps the tally.** -/
theorem Tallied.move (h : s.Tallied) (ho : s.Orderly) (hm : s.PoolMove m s') : s'.Tallied := by
  cases hm with
  | rests hp hc hu => exact h.of_standings hc (by rw [hp]) (by rw [hp, hu])
  | enters hp hc hu =>
    have hsame : s'.openSessions = s.openSessions := by
      rw [openSessions_eq, openSessions_eq, hc, List.countP_append]
      rfl
    exact ⟨by rw [hp, hsame, h.inflight_eq], by rw [hp, hsame, hu, h.tracked_eq]⟩
  | calls | advances => exact h.of_standings rfl rfl rfl
  | drains hm =>
    refine h.of_standings rfl ?_ (congrArg (· + _) hm.tracked_eq)
    rcases hm.slots_cases with hslots | ⟨-, hslots⟩ <;> exact hslots.inflight_eq
  | givesUp hi hw hp hc hu =>
    refine h.setWaiting hi hw rfl hc hu ?_ ?_
    · rw [hp, Pool.inflight_withdraw]
    · rw [hp, (s.pool.keeps_withdraw _).tracked_eq]
  | @asks i c again answer a pool s' hi hw hask ha hp hc hu =>
    subst ha
    have htracked := hask.keeps.tracked_eq
    cases answer with
    | admitted =>
      obtain ⟨-, -, -, htaken, -⟩ := hask.takes
      rw [ho.isClosed_of_isWaiting hi hw] at hc
      rw [if_pos rfl] at hp
      refine h.set hi hc hu ?_ ?_
      · rw [hp, (Pool.sameSlots_track pool).inflight_eq, htaken, isOpen_eq_false_of_isWaiting hw]
        rfl
      · rw [hp, Pool.track, htracked, isOpen_eq_false_of_isWaiting hw]
        rfl
    | refused | pending =>
      obtain ⟨-, -, hinflight, -⟩ := hask.stays (by simp)
      rw [if_neg (by simp)] at hp
      exact h.setWaiting hi hw rfl hc hu (by rw [hp, hinflight]) (by rw [hp, htracked])
  | @fails i c again fault pool s' hi hw hask hp hc hu =>
    -- The slot that the client took has come back.
    obtain ⟨-, -, -, htaken, -⟩ := hask.takes
    refine h.setWaiting hi hw rfl hc hu ?_ ?_
    · rw [hp, Pool.inflight_release, htaken, Nat.add_sub_cancel]
    · rw [hp, pool.keeps_release.tracked_eq, hask.keeps.tracked_eq]
  | starts hp hc hu =>
    refine h.of_standings hc (by rw [hp, (Pool.sameSlots_track _).inflight_eq]) ?_
    rw [hp, hu, Pool.track, Nat.add_right_comm, Nat.add_assoc]
  | @closes i c s' hi hopen hp hc hu =>
    -- The slot and the task of the session have been counted.
    have hpos : 0 < s.openSessions :=
      List.countP_pos_iff.2 ⟨c, List.mem_of_getElem? hi, hopen⟩
    have hinflight := h.inflight_eq
    have htracked := h.tracked_eq
    refine h.set hi hc hu ?_ ?_
    · rw [hp, (Pool.sameSlots_untrack _).inflight_eq, Pool.inflight_release, hopen,
        hasOpenSession_closed, Bool.toNat_true, Bool.toNat_false]
      omega
    · rw [hp, Pool.untrack, s.pool.keeps_release.tracked_eq, hopen, hasOpenSession_closed,
        Bool.toNat_true, Bool.toNat_false]
      dsimp only
      omega
  | leaves hp hc hu =>
    have htracked := h.tracked_eq
    refine h.of_standings hc (by rw [hp, (Pool.sameSlots_untrack _).inflight_eq]) ?_
    rw [hp, Pool.untrack]
    dsimp only
    omega

/-- In every service that can be reached, the pool has counted open sessions and units. -/
theorem IsReachable.tallied (h : s.IsReachable) : s.Tallied :=
  h.of_leads (P := Tallied) (fun _ => .of_isInitial)
    fun hr ht hl => ht.move hr.orderly (poolMove_of_leads hl)

/-! ### Shutdowns -/

/-- A move of the service is for its pool one move, at most after slots have come and gone. Time
passes for the pool when it passes. -/
theorem PoolMove.exists_move (hm : s.PoolMove m s') : ∃ pool around, s.pool.Keeps pool ∧
    pool.Move around s'.pool ∧ ∀ ms, around = .inl (.advance ms) → m = .inl (.advance ms) := by
  have hkeeps : s.pool.Keeps s'.pool → ∃ pool around, s.pool.Keeps pool ∧
      pool.Move around s'.pool ∧ ∀ ms, around = .inl (.advance ms) → m = .inl (.advance ms) :=
    fun hk => ⟨_, .inr (.drain 0), .refl _, .keeps hk nofun nofun, nofun⟩
  cases hm with
  | rests hp | enters hp => exact hkeeps (hp ▸ .refl _)
  | calls grace => exact ⟨_, _, .refl _, .calls grace, nofun⟩
  | advances ms => exact ⟨_, _, .refl _, .advances ms, fun _ h => by cases h; rfl⟩
  | drains hm => exact ⟨_, _, .refl _, .drains hm, nofun⟩
  | givesUp _ _ hp => exact hkeeps (hp ▸ s.pool.keeps_withdraw _)
  | asks _ _ hask _ hp =>
    split at hp
    · exact ⟨_, .inr (.drain 0), hask.keeps, hp ▸ .tracks nofun nofun, nofun⟩
    · exact hkeeps (hp ▸ hask.keeps)
  | @fails _ _ _ _ pool _ _ _ hask hp =>
    exact hkeeps (hp ▸ hask.keeps.trans pool.keeps_release)
  | starts hp => exact ⟨_, .inr (.drain 0), .refl _, hp ▸ .tracks nofun nofun, nofun⟩
  | @closes i _ _ _ _ hp =>
    exact ⟨_, .inr (.party i), s.pool.keeps_release, hp ▸ .untracks (.refl _), nofun⟩
  | @leaves n _ hp => exact ⟨_, .inr (.party n), .refl _, hp ▸ .untracks (.refl _), nofun⟩

/-- What holds of a fresh pool and is kept by all that can happen to a pool holds of the pool of
every service that can be reached. -/
theorem IsReachable.pool_induction {P : Pool Nat → Prop} (init : ∀ limit, P (.ofLimit limit))
    (keep : ∀ {p p' : Pool Nat} {m : PoolAction Nat ⊕ PoolTask Nat}, P p → p.Move m p' → P p')
    (h : s.IsReachable) : P s.pool := by
  refine h.of_leads (P := fun s => P s.pool) (fun s hs => ?_) fun _ ih hl => ?_
  · obtain ⟨limit, hp⟩ := hs.pool_eq
    exact hp ▸ init limit
  · obtain ⟨pool, around, hkeeps, hmove, -⟩ := (poolMove_of_leads hl).exists_move
    exact keep (keep ih (.keeps (m := .inr (.drain 0)) hkeeps nofun nofun)) hmove

/-- Sessions are not told to end before the pool drains. -/
theorem IsReachable.draining_of_terminated (h : s.IsReachable) :
    s.pool.terminated = true → s.pool.draining = true :=
  h.pool_induction (P := fun p => p.terminated = true → p.draining = true) (fun _ => nofun)
    fun ih hm => hm.draining_of_terminated ih

/-- In every service that can be reached, all shutdowns stand where they can. -/
theorem IsReachable.allStand (h : s.IsReachable) : s.pool.AllStand :=
  h.pool_induction (P := fun p => p.AllStand) (fun _ _ _ => nofun) fun ih hm => ih.move hm

/-- A shutdown that waits for tasks that it has told to end: the server terminates, and some task
is left if the shutdown has not seen that none is. -/
theorem IsReachable.of_terminating (h : s.IsReachable) {k deadline : Nat} {emptied : Bool}
    (hd : s.pool.drains[k]? = some ⟨.terminating deadline, emptied⟩) :
    s.pool.terminated = true ∧ (emptied = false → 0 < s.pool.tracked) := by
  obtain ⟨made, grace, late, eased, cleared, hstands⟩ := h.allStand k _ hd
  obtain ⟨hterminated, hemptied⟩ := hstands.of_terminating
  refine ⟨hterminated, fun he => Nat.pos_of_ne_zero fun h0 => ?_⟩
  rw [hemptied h0] at he
  cases he

end Service

end StreamedInference
