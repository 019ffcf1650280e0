import StreamedInference.Proofs.Service.Standings
import StreamedInference.Proofs.Service.Waiting
import StreamedInference.Proofs.Service.Workload

/-!
# Clients that are turned away

Once the pool of a service drains nobody is let in any more, whatever slots are free or set aside.
A client that still waits is refused in its next step, as is one that comes in later. Neither this
nor giving up does anything to slots, tasks and sessions of others.

## Main definitions

* `Admission.Passes`: what can become of a client's wish for a session.
* `Service.TurnedAway`: a client has not been let in, and nothing else has happened.

## Main results

* `Service.PoolMove.passes`: wishes pass in no other ways.
* `Service.turnedAway_of_draining`, `Service.turnedAway_of_giveUp`: what becomes of those who wait.
* `Service.turned_away`: nobody is let in while the pool drains.
-/

namespace StreamedInference

/-- What can become of a client's wish for a session in a move. -/
inductive Admission.Passes (draining : Bool) (fault? : Option CapacityFault) :
    Option Admission → Option Admission → Prop
  | rests (a : Option Admission) : Passes draining fault? a a
  | comes : Passes draining fault? none (some .arriving)
  | withdraws {a : Admission} (ha : a = .arriving ∨ a = .queued) :
      Passes draining fault? (some a) (some .withdrawn)
  | refused {a : Admission} (ha : a = .arriving ∨ a = .queued) (hd : draining = true) :
      Passes draining fault? (some a) (some .refused)
  | queues {a : Admission} (ha : a = .arriving ∨ a = .queued) (hd : draining = false) :
      Passes draining fault? (some a) (some .queued)
  | admitted {a : Admission} (ha : a = .arriving ∨ a = .queued) (hd : draining = false)
      (hf : fault? = none) (number : Nat) :
      Passes draining fault? (some a) (some (.admitted number))
  | fails {a : Admission} {fault : CapacityFault} (ha : a = .arriving ∨ a = .queued)
      (hd : draining = false) (hf : fault? = some fault) :
      Passes draining fault? (some a) (some (.failed fault))

/-- What has been answered stays so. -/
theorem Admission.Passes.eq_of_ne {draining : Bool} {fault? : Option CapacityFault} {a : Admission}
    {a' : Option Admission} (h : Passes draining fault? (some a) a') (ha : a ≠ .arriving)
    (hq : a ≠ .queued) : a' = some a := by
  cases h with
  | rests => rfl
  | withdraws hw | refused hw | queues hw | admitted hw | fails hw =>
    rcases hw with rfl | rfl
    · exact absurd rfl ha
    · exact absurd rfl hq

namespace Service

variable {s s' : Service} {m : Action ⊕ ServiceTask} {i : Nat} {c c' : Client}

/-- What has become of a client's wish for a session. -/
def admission? (s : Service) (i : Nat) : Option Admission :=
  (s.clients[i]?).map (·.admission)

theorem admission?_eq (hc : s.clients[i]? = some c) : s.admission? i = some c.admission := by
  rw [admission?, hc]
  rfl

theorem admission?_eq_standings (s : Service) (i : Nat) :
    s.admission? i = (s.standings[i]?).map Prod.fst := by
  rw [admission?, standings, List.getElem?_map, Option.map_map]
  rfl

theorem admission?_of_set {a : Admission} {closed : Bool} (hc : s.clients[i]? = some c)
    (h : s'.standings = s.standings.set i (a, closed)) (j : Nat) :
    s'.admission? j = if j = i then some a else s.admission? j := by
  have hlt : i < s.standings.length := by
    rw [standings, List.length_map]
    exact (List.getElem?_eq_some_iff.1 hc).1
  rw [admission?_eq_standings, admission?_eq_standings, h, List.getElem?_set]
  by_cases hij : i = j
  · subst hij
    simp [hlt]
  · simp [hij, Ne.symm hij]

/-- **Wishes pass in no other ways.** -/
theorem PoolMove.passes (hm : s.PoolMove m s') (j : Nat) :
    Admission.Passes s.pool.draining s.sessionFault? (s.admission? j) (s'.admission? j) := by
  have heq : s'.standings = s.standings →
      Admission.Passes s.pool.draining s.sessionFault? (s.admission? j) (s'.admission? j) := by
    intro h
    rw [admission?_eq_standings, admission?_eq_standings, h]
    exact .rests _
  have hset : ∀ {i : Nat} {c : Client} {a : Admission} {closed : Bool},
      s.clients[i]? = some c → s'.standings = s.standings.set i (a, closed) →
      Admission.Passes s.pool.draining s.sessionFault? (some c.admission) (some a) →
        Admission.Passes s.pool.draining s.sessionFault? (s.admission? j) (s'.admission? j) := by
    intro i c a closed hc h hpasses
    rw [admission?_of_set hc h]
    split
    · subst j
      rw [admission?_eq hc]
      exact hpasses
    · exact .rests _
  cases hm with
  | rests _ hc | starts _ hc | leaves _ hc => exact heq hc
  | calls | advances | drains => exact .rests _
  | enters _ hc =>
    rw [admission?_eq_standings, admission?_eq_standings, hc, List.getElem?_append]
    split
    · exact .rests _
    · rename_i hlt
      rw [List.getElem?_eq_none (Nat.not_lt.1 hlt)]
      cases hnew : ([(Admission.arriving, false)] : List _)[j - s.standings.length]? with
      | none => exact .rests _
      | some e =>
        obtain rfl := List.mem_singleton.1 (List.mem_of_getElem? hnew)
        exact .comes
  | givesUp hi hw _ hc => exact hset hi hc (.withdraws (Client.isWaiting_iff.1 hw))
  | closes hi _ _ hc => exact hset hi hc (.rests _)
  | asks hi hw hask ha _ hc _ _ hf =>
    have hwaiting := Client.isWaiting_iff.1 hw
    subst ha
    refine hset hi hc ?_
    cases hask with
    | refused hd => exact .refused hwaiting hd
    | called hd | found hd => exact .admitted hwaiting hd (hf rfl) _
    | queued hd | waits hd => exact .queues hwaiting hd
  | fails hi hw hask _ hc _ _ hf =>
    exact hset hi hc (.fails (Client.isWaiting_iff.1 hw) hask.takes.1 hf)

/-- Sessions are numbered when they are let in, and nobody is let in while the pool drains. -/
theorem PoolMove.opened_eq (hm : s.PoolMove m s') (hd : s.pool.draining = true) :
    s'.opened = s.opened := by
  cases hm with
  | rests _ _ _ ho | enters _ _ _ ho | givesUp _ _ _ _ _ ho | starts _ _ _ ho
  | closes _ _ _ _ _ ho | leaves _ _ _ ho => exact ho
  | calls | advances | drains => rfl
  | asks _ _ hask _ _ _ _ ho =>
    obtain rfl := hask.eq_refused hd
    exact ho
  | fails _ _ hask => cases hask.eq_refused hd

/-! ### Those who are turned away -/

/-- A client has not been let in, and nothing else has happened: other clients are as before, and so
are units, the numbers of sessions, the tasks that a shutdown waits for, and the slots, taken or
not. -/
structure TurnedAway (s s' : Service) (i : Nat) (a : Admission) : Prop where
  clients_eq : s'.clients = s.clients.modify i fun c => { c with admission := a }
  accelerator_eq : s'.accelerator = s.accelerator
  opened_eq : s'.opened = s.opened
  keeps : s.pool.Keeps s'.pool
  inflight_eq : s'.pool.inflight = s.pool.inflight
  spare_eq : s'.pool.spare = s.pool.spare
  line_eq : s'.pool.line = s.pool.line.erase i

theorem turnedAway_withdraw (s : Service) (i : Nat) (a : Admission) (log : List LogEvent) :
    s.TurnedAway { s.changeClient i fun c => { c with admission := a } with
      pool := s.pool.withdraw i, log := log } i a where
  clients_eq := rfl
  accelerator_eq := rfl
  opened_eq := rfl
  keeps := s.pool.keeps_withdraw i
  inflight_eq := s.pool.inflight_withdraw i
  spare_eq := s.pool.spare_withdraw i
  line_eq := s.pool.line_withdraw i

/-- Who waits while the pool drains is refused in its next step. -/
theorem turnedAway_of_draining (hd : s.pool.draining = true) (hc : s.clients[i]? = some c)
    (hw : c.isWaiting = true) :
    ∃ s', s.step? (.admission i) = some s' ∧ s.TurnedAway s' i .refused := by
  have hask : ∀ again, s.pool.ask i again = (.refused, s.pool.withdraw i) := fun _ => if_pos hd
  refine ⟨_, ?_, s.turnedAway_withdraw i .refused
    (s.log ++ [⟨.handler, .info, "Refusing session: server is draining", []⟩])⟩
  simp only [step?, admissionStep?, hc, hw, hask]
  rfl

/-- Who waits can give up. -/
theorem turnedAway_of_giveUp (hc : s.clients[i]? = some c) (hw : c.isWaiting = true) :
    s.TurnedAway (s.act (.giveUp i)) i .withdrawn := by
  have hact : s.act (.giveUp i) =
      { s.changeClient i fun c => { c with admission := .withdrawn } with
        pool := s.pool.withdraw i } := by
    simp [act, hc, hw]
  rw [hact]
  exact s.turnedAway_withdraw i .withdrawn s.log

/-! ### What comes of it -/

/-- What has been answered stays so, whatever happens. -/
theorem admission?_of_answered {a : Admission} (h : tasks.Reachable act s s')
    (ha : s.admission? i = some a) (hne : a ≠ .arriving) (hq : a ≠ .queued) :
    s'.admission? i = some a :=
  h.of_leads (P := fun s => s.admission? i = some a) ha fun ih hl =>
    (ih ▸ (poolMove_of_leads hl).passes i).eq_of_ne hne hq

/-- While the pool drains, and from then on, no session gets a number. -/
theorem opened_of_draining (h : tasks.Reachable act s s') (hd : s.pool.draining = true) :
    s'.pool.draining = true ∧ s'.opened = s.opened := by
  refine h.of_leads (P := fun s' => s'.pool.draining = true ∧ s'.opened = s.opened) ⟨hd, rfl⟩ ?_
  rintro s₁ s₂ m ⟨hdraining, hopened⟩ hl
  have hmove := poolMove_of_leads hl
  exact ⟨draining_of_leads hl hdraining, (hmove.opened_eq hdraining).trans hopened⟩

/-- Who is not let in when the pool begins to drain is never let in. -/
theorem not_admitted_of_draining (h : tasks.Reachable act s s') (hd : s.pool.draining = true)
    (hi : ∀ a, s.admission? i = some a → a = .arriving ∨ a = .queued) {a : Admission}
    (ha : s'.admission? i = some a) :
    (a = .arriving ∨ a = .queued) ∨ a = .refused ∨ a = .withdrawn := by
  refine (h.of_leads (P := fun s' => s'.pool.draining = true ∧ ∀ a, s'.admission? i = some a →
    (a = .arriving ∨ a = .queued) ∨ a = .refused ∨ a = .withdrawn)
    ⟨hd, fun a ha => .inl (hi a ha)⟩ ?_).2 a ha
  rintro s₁ s₂ m ⟨hdraining, hadmission⟩ hl
  refine ⟨draining_of_leads hl hdraining, fun a ha => ?_⟩
  have hpasses := (poolMove_of_leads hl).passes i
  rw [hdraining, ha] at hpasses
  generalize s₁.admission? i = before at hpasses hadmission
  cases hpasses with
  | rests => exact hadmission a rfl
  | comes => exact .inl (.inl rfl)
  | withdraws => exact .inr (.inr rfl)
  | refused => exact .inr (.inl rfl)
  | queues _ hd' | admitted _ hd' | fails _ hd' => cases hd'

/-- While the pool drains, what has become of a client's wish is what had become of it before, or
the client waits, has been refused, or has given up. -/
theorem admission_of_draining (h : tasks.Reachable act s s') (hd : s.pool.draining = true)
    (hc' : s'.clients[i]? = some c') :
    (∃ c, s.clients[i]? = some c ∧ c.isWaiting = false ∧ c'.admission = c.admission) ∨
      c'.isWaiting = true ∨ c'.admission = .refused ∨ c'.admission = .withdrawn := by
  by_cases hanswered : ∃ c, s.clients[i]? = some c ∧ c.isWaiting = false
  · obtain ⟨c, hc, hw⟩ := hanswered
    have hne : ¬ (c.admission = .arriving ∨ c.admission = .queued) := fun hwaits => by
      rw [Client.isWaiting_iff.2 hwaits] at hw
      cases hw
    rw [not_or] at hne
    have hsame := admission?_of_answered h (admission?_eq hc) hne.1 hne.2
    rw [admission?_eq hc'] at hsame
    exact .inl ⟨c, hc, hw, Option.some.inj hsame⟩
  · refine .inr ?_
    rw [Client.isWaiting_iff]
    refine not_admitted_of_draining h hd (fun a ha => ?_) (admission?_eq hc')
    obtain ⟨c, hc, rfl⟩ := Option.map_eq_some_iff.1 ha
    refine Client.isWaiting_iff.1 (Bool.not_eq_false _ ▸ fun hw => hanswered ⟨c, hc, hw⟩)

/-- **Nobody is let in while the pool drains.** Take any service at all.

* If its pool drains, each client that waits is refused in its next step, which it can make at
  once. From then on, whatever happens, the pool drains and no session gets a number. Only those
  have a session who had one before, and the same. Whoever had not been answered before waits, has
  been refused, or has given up; and tasks that run come to rest, when nobody waits any more.
* A client that waits can give up, and is never let in then.
* Who is refused or gives up leaves everything as it was: other clients, units, the numbers of
  sessions, the tasks that a shutdown waits for, and the slots, whether they are taken or not.
* A client that is refused learns that the service is shutting down, as a status that tells it that
  the service is not available. -/
theorem turned_away (s : Service) :
    (s.pool.draining = true →
      (∀ (i : Nat) (c : Client), s.clients[i]? = some c → c.isWaiting = true →
        ∃ s', s.step? (.admission i) = some s' ∧ s.TurnedAway s' i .refused) ∧
      ∀ s', tasks.Reachable act s s' → s'.pool.draining = true ∧ s'.opened = s.opened ∧
        (∀ (i : Nat) (c' : Client), s'.clients[i]? = some c' →
          (∃ c, s.clients[i]? = some c ∧ c.isWaiting = false ∧ c'.admission = c.admission) ∨
          c'.isWaiting = true ∨ c'.admission = .refused ∨ c'.admission = .withdrawn) ∧
        (tasks.Quiet s' → ∀ c' ∈ s'.clients, c'.isWaiting = false) ∧
        ∃ q, tasks.Reaches s' q ∧ tasks.Quiet q) ∧
    (∀ (i : Nat) (c : Client), s.clients[i]? = some c → c.isWaiting = true →
      s.TurnedAway (s.act (.giveUp i)) i .withdrawn ∧
      ∀ s', tasks.Reachable act (s.act (.giveUp i)) s' → s'.admission? i = some .withdrawn) ∧
    Admission.refused.failure?.map (·.status) =
      some ⟨.unavailable, "Service is shutting down"⟩ := by
  refine ⟨fun hd => ⟨fun i c => turnedAway_of_draining hd, fun s' hr => ?_⟩,
    fun i c hc hw => ⟨turnedAway_of_giveUp hc hw, fun s' hr => ?_⟩, rfl⟩
  · obtain ⟨hdraining, hopened⟩ := opened_of_draining hr hd
    refine ⟨hdraining, hopened, fun i c' => admission_of_draining hr hd, fun hq c' hc' => ?_,
      exists_quiet s'⟩
    obtain ⟨i, hi⟩ := List.getElem?_of_mem hc'
    refine Bool.eq_false_iff.2 fun hw => ?_
    obtain ⟨s₁, hstep, -⟩ := turnedAway_of_draining hdraining hi hw
    rw [step?_eq_none_of_quiet hq hi (by simp [clientTasks])] at hstep
    cases hstep
  · have hset : (s.act (.giveUp i)).admission? i = some .withdrawn := by
      rw [admission?, (turnedAway_of_giveUp hc hw).clients_eq, List.getElem?_modify_eq, hc]
      rfl
    exact admission?_of_answered hr hset (by simp) (by simp)

/-- The only session closes while a second client waits, for which its slot is set aside; and the
server begins to drain before that client has taken it. -/
def doorstep : Service :=
  (replay? { pool := .ofLimit 1 }
    [.act (.enter true), .step (.admission 0), .act (.enter true), .step (.admission 1),
      .step (.session 0), .act (.disconnect 0), .step (.session 0), .act (.shutdown 1000),
      .step (.drain 0)]).get (by decide +kernel)

/-- The client is refused all the same, and the slot is free. -/
theorem turned_away_of_doorstep : doorstep.pool.chosen = [1] ∧ doorstep.pool.draining = true ∧
    ∃ s', doorstep.step? (.admission 1) = some s' ∧ s'.admission? 1 = some .refused ∧
      s'.pool.free = 1 ∧ s'.pool.inflight = 0 ∧ s'.pool.tracked = 0 ∧ s'.opened = 1 := by
  have hchosen : doorstep.pool.chosen = [1] := by decide +kernel
  have hd : doorstep.pool.draining = true := by decide +kernel
  have hwaits : (doorstep.clients[1]?).any Client.isWaiting = true := by decide +kernel
  have hcounts : doorstep.pool.inflight = 0 ∧ doorstep.pool.tracked = 0 ∧ doorstep.opened = 1 ∧
      doorstep.pool.spare = 1 ∧ doorstep.pool.line = [1] := by
    decide +kernel
  obtain ⟨c, hc, hw⟩ := (Option.any_eq_true _ _).1 hwaits
  obtain ⟨hdraining, -⟩ := turned_away doorstep
  obtain ⟨s', hstep, haway⟩ := (hdraining hd).1 1 c hc hw
  have hline : s'.pool.line = [] := haway.line_eq.trans (by simp [hcounts])
  have hfree : s'.pool.free = 1 := by
    have hspare := haway.spare_eq.trans hcounts.2.2.2.1
    rw [Pool.spare, (List.append_eq_nil_iff.1 hline).1] at hspare
    exact hspare
  refine ⟨hchosen, hd, s', hstep, ?_, hfree, haway.inflight_eq.trans hcounts.1,
    haway.keeps.tracked_eq.trans hcounts.2.1, haway.opened_eq.trans hcounts.2.2.1⟩
  rw [admission?, haway.clients_eq, List.getElem?_modify_eq, hc]
  rfl

end Service

end StreamedInference
