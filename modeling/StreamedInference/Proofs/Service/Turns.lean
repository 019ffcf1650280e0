import StreamedInference.Proofs.Service.Run

/-!
# The names of turns

A turn waits for the gate and owns a unit under one name, the number of its client and its own
number within the session. In every service that can be reached, the names that wait at the gate
are those of the sessions that wait for it, no two units have the same name, and a session that
listens to a unit is the owner of one.

## Main definitions

* `Client.Stands`: how a client's session stands to the names at the gate and of the units.
* `Service.Orderly`: all clients stand so, and no name occurs twice.

## Main results

* `Service.IsReachable.orderly`: every service that can be reached is orderly.
-/

namespace StreamedInference

/-- The session waits for the gate. -/
def SessionPhase.isQueued : SessionPhase → Bool
  | .queued _ => true
  | _ => false

/-- The session has started the unit of its turn and has not left it. -/
def SessionPhase.hasUnit : SessionPhase → Bool
  | .listening | .sending _ | .ending _ _ => true
  | _ => false

theorem SessionPhase.isQueued_iff {p : SessionPhase} :
    p.isQueued = true ↔ ∃ call, p = .queued call := by
  cases p <;> simp [isQueued]

/-! ### How a client stands -/

/-- How a client's session stands to the names that wait at the gate and the names of the units:
its turn waits at the gate if and only if the session waits for the gate, its units belong to turns
that have begun, and a session that listens has started the unit of its turn. -/
structure Client.Stands (i : Nat) (queue owners : List TurnName) (c : Client) : Prop where
  opening_of : c.isAdmitted = false → c.session.phase = .opening
  mem_queue_iff : ∀ k, (i, k) ∈ queue ↔
    c.session.phase.isQueued = true ∧ k = c.session.turns
  turn_le : ∀ k, (i, k) ∈ owners → k ≤ c.session.turns
  turn_ne : c.session.phase.isQueued = true → (i, c.session.turns) ∉ owners
  mem_owners : c.session.phase.hasUnit = true → (i, c.session.turns) ∈ owners

namespace Client.Stands

variable {i : Nat} {queue owners queue' owners' : List TurnName} {c c' : Client}

/-- Only the phase and the number of the turn count. -/
theorem congr (h : c.Stands i queue owners) (hp : c'.session.phase = c.session.phase)
    (ht : c'.session.turns = c.session.turns)
    (ha : c.isAdmitted = true → c'.isAdmitted = true) : c'.Stands i queue owners where
  opening_of hna := by
    rw [hp]
    refine h.opening_of (Bool.eq_false_iff.2 fun hadm => ?_)
    simp [ha hadm] at hna
  mem_queue_iff := hp ▸ ht ▸ h.mem_queue_iff
  turn_le := ht ▸ h.turn_le
  turn_ne := hp ▸ ht ▸ h.turn_ne
  mem_owners := hp ▸ ht ▸ h.mem_owners

/-- A session that does not wait for the gate goes on in its turn, or leaves it. -/
theorem goOn (h : c.Stands i queue owners) (ha : c'.isAdmitted = true)
    (hq : c.session.phase.isQueued = false) (hq' : c'.session.phase.isQueued = false)
    (ht : c'.session.turns = c.session.turns)
    (hu : c'.session.phase.hasUnit = true → c.session.phase.hasUnit = true) :
    c'.Stands i queue owners where
  opening_of hna := by simp [ha] at hna
  mem_queue_iff k := by simp [h.mem_queue_iff k, hq, hq']
  turn_le := ht ▸ h.turn_le
  turn_ne hq := by simp [hq'] at hq
  mem_owners hu' := ht ▸ h.mem_owners (hu hu')

/-- The names of other clients do not count. -/
theorem congr_names (h : c.Stands i queue owners)
    (hq : ∀ k, (i, k) ∈ queue' ↔ (i, k) ∈ queue)
    (ho : ∀ k, (i, k) ∈ owners' ↔ (i, k) ∈ owners) : c.Stands i queue' owners' where
  opening_of := h.opening_of
  mem_queue_iff k := (hq k).trans (h.mem_queue_iff k)
  turn_le k hk := h.turn_le k ((ho k).1 hk)
  turn_ne hp hk := h.turn_ne hp ((ho _).1 hk)
  mem_owners hp := (ho _).2 (h.mem_owners hp)

end Client.Stands

namespace Service

/-- Every client stands as it should to the names at the gate and of the units, and no name occurs
twice. -/
structure Orderly (s : Service) : Prop where
  stands : ∀ {i : Nat} {c : Client}, s.clients[i]? = some c →
    c.Stands i s.accelerator.gate.queue s.accelerator.owners
  queue_lt : ∀ p ∈ s.accelerator.gate.queue, p.1 < s.clients.length
  owners_lt : ∀ p ∈ s.accelerator.owners, p.1 < s.clients.length
  nodup_queue : s.accelerator.gate.queue.Nodup
  nodup_owners : s.accelerator.owners.Nodup

namespace Orderly

variable {s s' : Service}

theorem of_isInitial (h : s.IsInitial) : s.Orderly := by
  obtain ⟨engine, ha⟩ := h.accelerator_eq
  constructor <;> simp [ha, h.clients_eq, Accelerator.owners, Gate.queue]

/-- Only a client that has been admitted has a session that has begun. -/
theorem isAdmitted_of_ne_opening (ho : s.Orderly) {i : Nat} {c : Client}
    (hc : s.clients[i]? = some c) (hp : c.session.phase ≠ .opening) : c.isAdmitted = true := by
  cases ha : c.isAdmitted with
  | true => rfl
  | false => exact absurd ((ho.stands hc).opening_of ha) hp

theorem aside (ho : s.Orderly) {arrived : Nat → List Inbound} (h : Aside arrived s s') :
    s'.Orderly := by
  have hlen : ∀ i, i < s.clients.length → i < s'.clients.length := fun i hi => by
    obtain ⟨c', hc', -⟩ := h.clients_keep.exists_keeps (List.getElem?_eq_getElem hi)
    exact (List.getElem?_eq_some_iff.1 hc').1
  refine ⟨fun {i c'} hc' => ?_, ?_, ?_, ?_, ?_⟩
  · rw [h.works.queue_eq, Accelerator.owners_congr h.works.ledger_eq]
    cases hc : s.clients[i]? with
    | some c =>
      obtain ⟨d, hd, hkeep⟩ := h.clients_keep.exists_keeps hc
      obtain rfl := Option.some.inj (hc'.symm.trans hd)
      obtain ⟨taken, gone, hs, -⟩ := hkeep.session_eq
      exact (ho.stands hc).congr (by rw [hs]) (by rw [hs]) hkeep.admitted_of
    | none =>
      obtain ⟨hs, ha⟩ := h.clients_keep.newcomer hc' hc
      have hi : s.clients.length ≤ i := List.getElem?_eq_none_iff.1 hc
      have hq : ∀ k, (i, k) ∉ s.accelerator.gate.queue := fun k hk =>
        absurd (ho.queue_lt _ hk) (by simpa using hi)
      have hu : ∀ k, (i, k) ∉ s.accelerator.owners := fun k hk =>
        absurd (ho.owners_lt _ hk) (by simpa using hi)
      constructor <;> simp [hs, hq, hu, SessionPhase.isQueued, SessionPhase.hasUnit]
  · rw [h.works.queue_eq]
    exact fun p hp => hlen _ (ho.queue_lt p hp)
  · rw [Accelerator.owners_congr h.works.ledger_eq]
    exact fun p hp => hlen _ (ho.owners_lt p hp)
  · exact h.works.queue_eq ▸ ho.nodup_queue
  · exact Accelerator.owners_congr h.works.ledger_eq ▸ ho.nodup_owners

/-! #### Moves of a session -/

/-- A client and an accelerator may be what a client and the accelerator of an orderly service
become by a move of the client's session. -/
structure Admits (s : Service) (i : Nat) (c' : Client) (a' : Accelerator TurnName) : Prop where
  stands : c'.Stands i a'.gate.queue a'.owners
  mem_queue_iff : ∀ j k, j ≠ i → ((j, k) ∈ a'.gate.queue ↔ (j, k) ∈ s.accelerator.gate.queue)
  mem_owners_iff : ∀ j k, j ≠ i → ((j, k) ∈ a'.owners ↔ (j, k) ∈ s.accelerator.owners)
  nodup_queue : a'.gate.queue.Nodup
  nodup_owners : a'.owners.Nodup

variable {i : Nat} {c c' : Client} {a' : Accelerator TurnName}

/-- The session goes on without the gate. -/
theorem admits_goOn (ho : s.Orderly) (hc : s.clients[i]? = some c)
    (hq : a'.gate.queue = s.accelerator.gate.queue) (hl : a'.ledger = s.accelerator.ledger)
    (ha : c'.isAdmitted = true) (hp : c.session.phase.isQueued = false)
    (hp' : c'.session.phase.isQueued = false) (ht : c'.session.turns = c.session.turns)
    (hh : c'.session.phase.hasUnit = true → c.session.phase.hasUnit = true) :
    Admits s i c' a' := by
  have hu := Accelerator.owners_congr hl
  exact {
    stands := hq ▸ hu ▸ (ho.stands hc).goOn ha hp hp' ht hh
    mem_queue_iff := fun _ _ _ => by rw [hq]
    mem_owners_iff := fun _ _ _ => by rw [hu]
    nodup_queue := hq ▸ ho.nodup_queue
    nodup_owners := hu ▸ ho.nodup_owners }

/-- A turn begins: its name is new. -/
theorem admits_begins (ho : s.Orderly) (hc : s.clients[i]? = some c)
    (ha : c'.isAdmitted = true) (hp : c.session.phase.isQueued = false)
    (hp' : c'.session.phase.isQueued = true) (hh : c'.session.phase.hasUnit = false)
    (ht : c'.session.turns = c.session.turns + 1) :
    Admits s i c' (s.accelerator.request (i, c'.session.turns)) := by
  have hs := ho.stands hc
  have hq : ∀ k, (i, k) ∉ s.accelerator.gate.queue := fun k hk => by
    have hqueued := ((hs.mem_queue_iff k).1 hk).1
    simp [hp] at hqueued
  have hu : (i, c'.session.turns) ∉ s.accelerator.owners := fun hk => by
    have := hs.turn_le _ hk
    omega
  refine ⟨⟨fun hna => by simp [ha] at hna, fun k => ?_, fun k hk => ?_, fun _ => hu,
    fun hu' => by simp [hh] at hu'⟩, fun j k hj => ?_, fun j k hj => Iff.rfl, ?_, ho.nodup_owners⟩
  · simp [Accelerator.request, hq, hp']
  · have := hs.turn_le k hk
    omega
  · simp [Accelerator.request, hj]
  · rw [Accelerator.request, Gate.queue_request, List.nodup_append]
    refine ⟨ho.nodup_queue, by simp, fun p hp q hq' => ?_⟩
    rw [List.mem_singleton.1 hq']
    rintro rfl
    exact hq _ hp

/-- The session gives up waiting for the gate: its name is not there any more. -/
theorem admits_withdraws (ho : s.Orderly) (hc : s.clients[i]? = some c)
    (ha : c'.isAdmitted = true) (hp' : c'.session.phase.isQueued = false)
    (hh : c'.session.phase.hasUnit = false) (ht : c'.session.turns = c.session.turns) :
    Admits s i c' (s.accelerator.withdraw (i, c'.session.turns)) := by
  have hs := ho.stands hc
  refine ⟨⟨fun hna => by simp [ha] at hna, fun k => ?_, ht ▸ hs.turn_le,
    fun hq => by simp [hp'] at hq, fun hu => by simp [hh] at hu⟩, fun j k hj => ?_,
    fun j k hj => Iff.rfl, ?_, ho.nodup_owners⟩
  · simp only [Accelerator.withdraw, Gate.mem_queue_withdraw ho.nodup_queue, hp',
      Bool.false_eq_true, false_and, iff_false, not_and]
    intro hne hmem
    rw [((hs.mem_queue_iff k).1 hmem).2, ht] at hne
    exact hne rfl
  · simp [Accelerator.withdraw, hj]
  · exact Gate.nodup_queue_withdraw ho.nodup_queue _

/-- The session enters the gate: its name goes from the queue to the units. -/
theorem admits_enters (ho : s.Orderly) (hc : s.clients[i]? = some c)
    (hm : s.accelerator.gate.mayEnter (i, c.session.turns) = true) (ha : c'.isAdmitted = true)
    (hp : c.session.phase.isQueued = true) (hp' : c'.session.phase.isQueued = false)
    (ht : c'.session.turns = c.session.turns) (call : GenerateCall) :
    Admits s i c' (s.accelerator.start (i, c'.session.turns) call) := by
  have hs := ho.stands hc
  have hqueue := Gate.queue_eq_cons_enter hm
  have hnodup := ho.nodup_queue
  rw [hqueue, List.nodup_cons] at hnodup
  have hnew := hs.turn_ne hp
  refine ⟨⟨fun hna => by simp [ha] at hna, fun k => ?_, fun k hk => ?_,
    fun hq => by simp [hp'] at hq, fun _ => by simp⟩, fun j k hj => ?_, fun j k hj => ?_, ?_, ?_⟩
  · -- The name was at the head of the queue, and it stood there only once.
    simp only [hp', Bool.false_eq_true, false_and, iff_false, ht]
    intro hmem
    have hk : k = c.session.turns := by
      refine ((hs.mem_queue_iff k).1 ?_).2
      rw [hqueue]
      exact List.mem_cons_of_mem _ hmem
    rw [hk] at hmem
    exact hnodup.1 hmem
  · rw [Accelerator.owners_start, List.mem_append] at hk
    rcases hk with hk | hk
    · exact ht ▸ hs.turn_le k hk
    · exact Nat.le_of_eq (by simpa using hk)
  · rw [hqueue, List.mem_cons]
    simp [Accelerator.start, hj, ht]
  · simp [hj]
  · exact ht ▸ hnodup.2
  · rw [Accelerator.owners_start, List.nodup_append]
    refine ⟨ho.nodup_owners, by simp, fun p hp q hq => ?_⟩
    rw [List.mem_singleton.1 hq, ht]
    exact fun h => hnew (h ▸ hp)

/-- What a session does is admitted. -/
theorem admits_of_move (ho : s.Orderly) (hc : s.clients[i]? = some c) {session : Session}
    {effects : List SessionEffect} (ha : c.isAdmitted = true)
    (hm : Session.Move s.setup (s.view i c.session) c.session session effects) :
    Admits s i { c with session := session }
      (effects.foldl (heed (i, session.turns)) s.accelerator) := by
  cases hm with
  | opens hp =>
    exact ho.admits_goOn hc rfl rfl ha (by rw [hp]; rfl) rfl rfl (by simp [SessionPhase.hasUnit])
  | interrupted hs hr =>
    cases hp : c.session.phase with
    | opening => simp [hp, SessionPhase.isSuspended] at hs
    | closed reason => simp [hp, SessionPhase.isSuspended] at hs
    | idle =>
      exact ho.admits_goOn hc rfl rfl ha (by rw [hp]; rfl) rfl (Session.abandon_turns _)
        (by simp [SessionPhase.hasUnit, Session.close])
    | queued call => exact ho.admits_withdraws hc ha rfl rfl (Session.abandon_turns _)
    | listening | sending | ending =>
      exact ho.admits_goOn hc rfl (Accelerator.ledger_detach _ _) ha (by rw [hp]; rfl) rfl
        (Session.abandon_turns _) (by simp [SessionPhase.hasUnit, Session.close])
  | inboundEnds hp | inboundFails hp | ignores hp | drains hp =>
    exact ho.admits_goOn hc rfl rfl ha (by rw [hp]; rfl) (by first | rfl | rw [hp]; rfl) rfl
      (by simp [hp, SessionPhase.hasUnit, Session.close])
  | begins hp hn hi hr =>
    rw [foldl_heed_beginTurn]
    exact ho.admits_begins hc ha (by rw [hp]; rfl) rfl rfl rfl
  | enters hp hn hm =>
    have ha' : Client.isAdmitted { c with session := { c.session with phase := .listening } } :=
      ha
    exact ho.admits_enters hc hm ha' (by rw [hp]; rfl) rfl rfl _
  | hears hp | hearsFailure hp | hearsEnd hp =>
    exact ho.admits_goOn hc rfl (Accelerator.ledger_take _ _) ha (by rw [hp]; rfl) rfl rfl
      fun _ => by rw [hp]; rfl
  | puts hp =>
    exact ho.admits_goOn hc rfl rfl ha (by rw [hp]; rfl) rfl rfl fun _ => by rw [hp]; rfl
  | @ends chunk failure hp =>
    rw [foldl_heed_endTurn]
    refine ho.admits_goOn hc rfl (Accelerator.ledger_detach _ _) ha (by rw [hp]; rfl) ?_ ?_
      fun _ => by rw [hp]; rfl
    · rcases Session.endTurn_phase_or s.setup (c.session.put chunk) failure with hphase | hphase
      · simp [hphase, SessionPhase.isQueued]
      · simp [hphase, SessionPhase.isQueued]
    · rw [Session.endTurn_fst]
      rfl

/-- A service stays orderly if one client and the accelerator change as admitted. -/
theorem of_admits (ho : s.Orderly) (hc : s.clients[i]? = some c) {f : Client → Client}
    (h : Admits s i (f c) a') (hcs : s'.clients = s.clients.modify i f)
    (ha : s'.accelerator = a') : s'.Orderly := by
  have hi : i < s.clients.length := (List.getElem?_eq_some_iff.1 hc).1
  have hlen : s'.clients.length = s.clients.length := by rw [hcs, List.length_modify]
  refine ⟨fun {j d} hd => ?_, fun p hp => ?_, fun p hp => ?_, ?_, ?_⟩
  · rw [hcs] at hd
    rw [ha]
    by_cases hij : i = j
    · subst hij
      rw [List.getElem?_modify_eq, hc] at hd
      obtain rfl := Option.some.inj hd
      exact h.stands
    · rw [List.getElem?_modify_ne _ _ hij] at hd
      exact (ho.stands hd).congr_names (fun k => h.mem_queue_iff j k (Ne.symm hij))
        fun k => h.mem_owners_iff j k (Ne.symm hij)
  · rw [ha] at hp
    rw [hlen]
    by_cases hpi : p.1 = i
    · exact hpi ▸ hi
    · exact ho.queue_lt p ((h.mem_queue_iff p.1 p.2 hpi).1 hp)
  · rw [ha] at hp
    rw [hlen]
    by_cases hpi : p.1 = i
    · exact hpi ▸ hi
    · exact ho.owners_lt p ((h.mem_owners_iff p.1 p.2 hpi).1 hp)
  · exact ha ▸ h.nodup_queue
  · exact ha ▸ h.nodup_owners

/-- **Every move keeps a service orderly.** -/
theorem move (ho : s.Orderly) {arrived : Nat → List Inbound} (h : s.Move arrived s') :
    s'.Orderly := by
  cases h with
  | session hc ha hm =>
    exact ho.of_admits hc (ho.admits_of_move hc ha hm) (afterMove_clients _ _ _ _)
      (afterMove_accelerator _ _ _ _)
  | aside h => exact ho.aside h

end Orderly

theorem IsReachable.orderly {s : Service} (h : s.IsReachable) : s.Orderly :=
  IsReachable.of_move (P := Orderly) (fun _ hs => .of_isInitial hs)
    (fun _ _ _ ho hm => ho.move hm) h

end Service

end StreamedInference
