import StreamedInference.Session.Step

/-!
# The moves of a session

`Session.step?` is a function of the session and of what it sees of the rest. This file lists what
it can do, one constructor for each kind of move, so that a statement about all steps of a session
is proved by cases on `Session.Move`.

## Main definitions

* `SessionPhase.isSuspended`, `SessionPhase.wait?`: the session waits, and for what.
* `Session.parting`, `Session.abandon`: what a session does to the rest when it is interrupted,
  and what becomes of its tokens.
* `Session.Move`: a move of a session.
* `Session.Rests`: a session cannot go on.

## Main results

* `Session.move_of_step?`: every step is a move.
* `Session.rests_iff`: when a session can make no step.
* `Session.step?_of_interruption?`: a suspended session that has to close does so at once.
* `Session.Move.of_drained`, `Session.step?_draining`: when a session closes because the server
  drains, and that draining is not seen within a turn.
-/

namespace StreamedInference

/-- The session waits: for a fragment, for the gate, for its unit, or for room for a chunk. -/
def SessionPhase.isSuspended : SessionPhase → Bool
  | .opening | .closed _ => false
  | _ => true

/-- What a session can wait for. -/
inductive Wait where
  /-- The next thing that its client sends. -/
  | inbound
  | gate
  /-- The next thing that its own call has for it. -/
  | item
  /-- Its client, which has to take chunks before there is room for the next one. -/
  | room
deriving DecidableEq, Repr

/-- What a session waits for in a phase. -/
def SessionPhase.wait? : SessionPhase → Option Wait
  | .opening | .closed _ => none
  | .idle => some .inbound
  | .queued _ => some .gate
  | .listening => some .item
  | .sending _ | .ending _ _ => some .room

namespace Session

/-- What an interrupted session does to the rest: it gives up waiting for the gate, or leaves its
unit alone. -/
def parting : SessionPhase → List SessionEffect
  | .queued _ => [.withdraw]
  | .listening | .sending _ | .ending _ _ => [.detach]
  | _ => []

/-- The tokens of an interrupted turn count for the session. -/
def abandon (s : Session) : Session :=
  match s.phase with
  | .listening | .sending _ | .ending _ _ => s.settleTokens
  | _ => s

theorem abandon_eq_or (s : Session) : s.abandon = s ∨ s.abandon = s.settleTokens := by
  unfold abandon
  split <;> simp

@[simp] theorem abandon_sent (s : Session) : s.abandon.sent = s.sent := by
  rcases s.abandon_eq_or with h | h
  · rw [h]
  · rw [h]
    rfl

@[simp] theorem abandon_taken (s : Session) : s.abandon.taken = s.taken := by
  rcases s.abandon_eq_or with h | h
  · rw [h]
  · rw [h]
    rfl

@[simp] theorem abandon_inbound (s : Session) : s.abandon.inbound = s.inbound := by
  rcases s.abandon_eq_or with h | h
  · rw [h]
  · rw [h]
    rfl

@[simp] theorem abandon_turns (s : Session) : s.abandon.turns = s.turns := by
  rcases s.abandon_eq_or with h | h
  · rw [h]
  · rw [h]
    rfl

@[simp] theorem abandon_clientGone (s : Session) : s.abandon.clientGone = s.clientGone := by
  rcases s.abandon_eq_or with h | h
  · rw [h]
  · rw [h]
    rfl

/-- A turn waits for the gate as soon as it has begun. -/
theorem beginTurn_fst (setup : SessionSetup) (s : Session) (r : Request) :
    (s.beginTurn setup r).1 = { s with
      transcript := s.transcript ++ [r.message]
      turns := s.turns + 1
      turnTokens := 0
      phase := .queued
        ⟨(Prompt.assemble setup.template setup.systemPrompt
            (rawText (s.transcript ++ [r.message]))).1,
          samplingFor setup r.temperature⟩ } :=
  rfl

/-- A turn that is over leaves the session idle, or closed. -/
theorem endTurn_fst (setup : SessionSetup) (s : Session) (failure : Option Failure) :
    (s.endTurn setup failure).1 = { s.settleTokens with
      phase := if failure.isSome && setup.policy.closeOnGenerationError then
        .closed .generationError else .idle } := by
  cases failure with
  | none => rfl
  | some f =>
    cases h : setup.policy.closeOnGenerationError <;> simp [endTurn, h, close]

theorem endTurn_phase_or (setup : SessionSetup) (s : Session) (failure : Option Failure) :
    (s.endTurn setup failure).1.phase = .idle ∨
      (s.endTurn setup failure).1.phase = .closed .generationError := by
  rw [endTurn_fst]
  dsimp only
  split
  · exact .inr rfl
  · exact .inl rfl

/-- A move of a session that sees `v` of the rest, with what it does to the rest. -/
inductive Move (setup : SessionSetup) (v : SessionView) (s : Session) :
    Session → List SessionEffect → Prop
  /-- It begins. -/
  | opens (hp : s.phase = .opening) :
      Move setup v s { s with phase := .idle } [.note ⟨.handler, .info, "Session opened", []⟩]
  /-- It has to close, wherever it waits. -/
  | interrupted {reason : CloseReason} (hs : s.phase.isSuspended = true)
      (hr : interruption? v s = some reason) :
      Move setup v s (s.abandon.close reason) (parting s.phase)
  /-- The client has nothing more to send. -/
  | inboundEnds {rest : List Inbound} (hp : s.phase = .idle) (hn : interruption? v s = none)
      (hi : s.inbound = .finish :: rest) :
      Move setup v s ({ s with inbound := rest }.close .inboundClosed) []
  /-- The inbound stream fails. -/
  | inboundFails {status : Status} {rest : List Inbound} (hp : s.phase = .idle)
      (hn : interruption? v s = none) (hi : s.inbound = .failure status :: rest) :
      Move setup v s ({ s with inbound := rest }.close (.transport status.message))
        [note .warn ("Inbound stream failed: " ++ status.describe) []]
  /-- A fragment is empty. -/
  | ignores {r : Request} {rest : List Inbound} (hp : s.phase = .idle)
      (hn : interruption? v s = none) (hi : s.inbound = .fragment r :: rest)
      (hr : r.message.isEmpty = true) :
      Move setup v s { s with inbound := rest }
        [note .debug "Ignoring empty fragment" [("session_id", .text r.sessionId)]]
  /-- A fragment begins a turn. -/
  | begins {r : Request} {rest : List Inbound} (hp : s.phase = .idle)
      (hn : interruption? v s = none) (hi : s.inbound = .fragment r :: rest)
      (hr : r.message.isEmpty = false) :
      Move setup v s (beginTurn setup { s with inbound := rest } r).1
        (beginTurn setup { s with inbound := rest } r).2
  /-- The server drains, and nothing has been sent. -/
  | drains (hp : s.phase = .idle) (hn : interruption? v s = none) (hi : s.inbound = [])
      (hd : v.draining = true) : Move setup v s (s.close .drained) []
  /-- It enters the gate. -/
  | enters {call : GenerateCall} (hp : s.phase = .queued call) (hn : interruption? v s = none)
      (hm : v.mayEnter = true) : Move setup v s { s with phase := .listening } [.start call]
  /-- Its unit has a fragment. -/
  | hears {text : String} (hp : s.phase = .listening) (hn : interruption? v s = none)
      (ho : v.offer = .fragment text) :
      Move setup v s
        { s with
          turnTokens := s.turnTokens + 1
          phase := .sending (.partialChunk text (s.shownCount setup (s.turnTokens + 1))) }
        [.take]
  /-- Its call has failed. -/
  | hearsFailure {f : Failure} (hp : s.phase = .listening) (hn : interruption? v s = none)
      (ho : v.offer = .failed f) :
      Move setup v s
        { s with
          phase := .ending (.failed f.clientMessage (s.shownCount setup s.turnTokens)) (some f) }
        [.take]
  /-- Its call has ended well. -/
  | hearsEnd (hp : s.phase = .listening) (hn : interruption? v s = none)
      (ho : v.offer = .ended) :
      Move setup v s
        { s with phase := .ending (.finished (s.shownCount setup s.turnTokens)) none } [.take]
  /-- There is room for a chunk of text. -/
  | puts {chunk : Response} (hp : s.phase = .sending chunk) (hn : interruption? v s = none)
      (hroom : s.hasRoom setup = true) :
      Move setup v s { s.put chunk with phase := .listening } []
  /-- There is room for the last chunk of a turn. -/
  | ends {chunk : Response} {failure : Option Failure} (hp : s.phase = .ending chunk failure)
      (hn : interruption? v s = none) (hroom : s.hasRoom setup = true) :
      Move setup v s (endTurn setup (s.put chunk) failure).1
        (endTurn setup (s.put chunk) failure).2

variable {setup : SessionSetup} {v : SessionView} {s s' : Session} {es : List SessionEffect}

theorem interruption?_eq_none : interruption? v s = none ↔
    v.terminated = false ∧ s.clientGone = false := by
  unfold interruption?
  cases v.terminated <;> cases s.clientGone <;> simp

/-- A suspended session that has to close does so at once, whatever it waits for. -/
theorem step?_of_interruption? {reason : CloseReason} (hs : s.phase.isSuspended = true)
    (hr : interruption? v s = some reason) :
    s.step? setup v = some (s.abandon.close reason, parting s.phase) := by
  cases hp : s.phase with
  | opening => simp [hp, SessionPhase.isSuspended] at hs
  | closed reason => simp [hp, SessionPhase.isSuspended] at hs
  | _ => simp [step?, hp, hr, abandon, parting]

/-- A session that has to close begins, or closes. -/
theorem Move.of_interruption? (hm : Move setup v s s' es) {reason : CloseReason}
    (hr : interruption? v s = some reason) :
    (s.phase = .opening ∧ s' = { s with phase := .idle } ∧ ∃ e, es = [.note e]) ∨
      (s.phase.isSuspended = true ∧ s' = s.abandon.close reason ∧ es = parting s.phase) := by
  cases hm with
  | opens hp => exact .inl ⟨hp, rfl, _, rfl⟩
  | interrupted hs hr' =>
    obtain rfl := Option.some.inj (hr.symm.trans hr')
    exact .inr ⟨hs, rfl, rfl⟩
  | inboundEnds hp hn | inboundFails hp hn | ignores hp hn | begins hp hn | drains hp hn
  | enters hp hn | hears hp hn | hearsFailure hp hn | hearsEnd hp hn | puts hp hn
  | ends hp hn => simp [hn] at hr

/-- Whether the client is there is not up to the session. -/
theorem Move.clientGone_eq (hm : Move setup v s s' es) : s'.clientGone = s.clientGone := by
  cases hm with
  | interrupted hs hr => exact s.abandon_clientGone
  | ends hp hn hroom =>
    rw [endTurn_fst]
    rfl
  | _ => rfl

/-- No more chunks wait for the client than there is room for. -/
theorem Move.unread_le (hm : Move setup v s s' es)
    (h : s.unread ≤ setup.policy.streamBufferSize.toNat) :
    s'.unread ≤ setup.policy.streamBufferSize.toNat := by
  have hput : ∀ chunk, s.hasRoom setup = true →
      (s.put chunk).unread ≤ setup.policy.streamBufferSize.toNat := by
    intro chunk hroom
    have hlt := of_decide_eq_true hroom
    simp only [unread, put, List.length_append, List.length_singleton] at hlt ⊢
    omega
  cases hm with
  | interrupted hs hr =>
    simp only [unread, close, abandon_sent, abandon_taken]
    exact h
  | puts hp hn hroom => exact hput _ hroom
  | @ends chunk failure hp hn hroom =>
    rw [endTurn_fst]
    exact hput chunk hroom
  | _ => exact h

/-- A turn does not begin where something is taken from a unit. -/
theorem Move.turns_eq_of_take (hm : Move setup v s s' es) (he : es = [.take]) :
    s'.turns = s.turns := by
  cases hm with
  | interrupted hs hr => exact s.abandon_turns
  | begins hp hn hi hr => simp [beginTurn, note] at he
  | ends hp hn hroom =>
    rw [endTurn_fst]
    rfl
  | _ => rfl

theorem move_of_idleStep? (hp : s.phase = .idle) (hn : interruption? v s = none)
    (h : idleStep? setup v s = some (s', es)) : Move setup v s s' es := by
  unfold idleStep? at h
  split at h
  · obtain ⟨rfl, rfl⟩ := Prod.mk.inj (Option.some.inj h)
    exact .inboundEnds hp hn (by assumption)
  · obtain ⟨rfl, rfl⟩ := Prod.mk.inj (Option.some.inj h)
    exact .inboundFails hp hn (by assumption)
  · rename_i r rest hi
    split at h
    · obtain ⟨rfl, rfl⟩ := Prod.mk.inj (Option.some.inj h)
      exact .ignores hp hn hi (by assumption)
    · rename_i hr
      obtain ⟨rfl, rfl⟩ := Prod.mk.inj (Option.some.inj h)
      exact .begins hp hn hi (Bool.eq_false_iff.2 hr)
  · split at h
    · obtain ⟨rfl, rfl⟩ := Prod.mk.inj (Option.some.inj h)
      exact .drains hp hn (by assumption) (by assumption)
    · cases h

theorem move_of_listeningStep? (hp : s.phase = .listening) (hn : interruption? v s = none)
    (h : listeningStep? setup v s = some (s', es)) : Move setup v s s' es := by
  unfold listeningStep? at h
  split at h
  · cases h
  · obtain ⟨rfl, rfl⟩ := Prod.mk.inj (Option.some.inj h)
    exact .hears hp hn (by assumption)
  · obtain ⟨rfl, rfl⟩ := Prod.mk.inj (Option.some.inj h)
    exact .hearsFailure hp hn (by assumption)
  · obtain ⟨rfl, rfl⟩ := Prod.mk.inj (Option.some.inj h)
    exact .hearsEnd hp hn (by assumption)

/-- **Every step of a session is a move.** -/
theorem move_of_step? (h : s.step? setup v = some (s', es)) : Move setup v s s' es := by
  by_cases hs : s.phase.isSuspended = true
  · cases hr : interruption? v s with
    | some reason =>
      rw [step?_of_interruption? hs hr] at h
      obtain ⟨rfl, rfl⟩ := Prod.mk.inj (Option.some.inj h)
      exact .interrupted hs hr
    | none =>
      cases hp : s.phase with
      | opening => simp [hp, SessionPhase.isSuspended] at hs
      | closed reason => simp [hp, SessionPhase.isSuspended] at hs
      | idle =>
        simp only [step?, hp, hr] at h
        exact move_of_idleStep? hp hr h
      | listening =>
        simp only [step?, hp, hr] at h
        exact move_of_listeningStep? hp hr h
      | queued call =>
        simp only [step?, hp, hr] at h
        split at h
        · obtain ⟨rfl, rfl⟩ := Prod.mk.inj (Option.some.inj h)
          exact .enters hp hr (by assumption)
        · cases h
      | sending chunk =>
        simp only [step?, hp, hr] at h
        split at h
        · obtain ⟨rfl, rfl⟩ := Prod.mk.inj (Option.some.inj h)
          exact .puts hp hr (by assumption)
        · cases h
      | ending chunk failure =>
        simp only [step?, hp, hr] at h
        split at h
        · obtain ⟨rfl, rfl⟩ := Prod.mk.inj (Option.some.inj h)
          exact .ends hp hr (by assumption)
        · cases h
  · cases hp : s.phase with
    | opening =>
      simp only [step?, hp] at h
      obtain ⟨rfl, rfl⟩ := Prod.mk.inj (Option.some.inj h)
      exact .opens hp
    | closed reason => simp [step?, hp] at h
    | _ => simp [hp, SessionPhase.isSuspended] at hs

/-! ### Sessions that cannot go on -/

/-- A session that sees `v` of the rest cannot go on: it has closed, or there is no reason to close
and what it waits for is not there. -/
inductive Rests (setup : SessionSetup) (v : SessionView) (s : Session) : Prop
  | closed {reason : CloseReason} (hp : s.phase = .closed reason) : Rests setup v s
  | idle (hp : s.phase = .idle) (hn : interruption? v s = none) (hi : s.inbound = [])
      (hd : v.draining = false) : Rests setup v s
  | queued {call : GenerateCall} (hp : s.phase = .queued call) (hn : interruption? v s = none)
      (hm : v.mayEnter = false) : Rests setup v s
  | listening (hp : s.phase = .listening) (hn : interruption? v s = none)
      (ho : v.offer = .pending) : Rests setup v s
  | full (hp : s.phase.wait? = some .room) (hn : interruption? v s = none)
      (hroom : s.hasRoom setup = false) : Rests setup v s

theorem idleStep?_eq_none : idleStep? setup v s = none ↔ s.inbound = [] ∧ v.draining = false := by
  unfold idleStep?
  split
  · simp_all
  · simp_all
  · rename_i r rest hi
    cases r.message.isEmpty <;> simp [hi]
  · rename_i hi
    cases v.draining <;> simp [hi]

theorem listeningStep?_eq_none : listeningStep? setup v s = none ↔ v.offer = .pending := by
  unfold listeningStep?
  split <;> simp_all

theorem interruption?_of_step?_eq_none (h : s.step? setup v = none)
    (hs : s.phase.isSuspended = true) : interruption? v s = none := by
  cases hr : interruption? v s with
  | none => rfl
  | some reason =>
    rw [step?_of_interruption? hs hr] at h
    cases h

/-- **A session makes no step exactly if it rests.** -/
theorem rests_iff : s.Rests setup v ↔ s.step? setup v = none := by
  constructor
  · rintro (hp | ⟨hp, hn, hi, hd⟩ | ⟨hp, hn, hm⟩ | ⟨hp, hn, ho⟩ | ⟨hp, hn, hroom⟩)
    · simp only [step?, hp]
    · simpa only [step?, hp, hn] using idleStep?_eq_none.2 ⟨hi, hd⟩
    · simp [step?, hp, hn, hm]
    · simpa only [step?, hp, hn] using listeningStep?_eq_none.2 ho
    · cases hphase : s.phase with
      | sending chunk => simp [step?, hphase, hn, hroom]
      | ending chunk failure => simp [step?, hphase, hn, hroom]
      | _ => simp [hphase, SessionPhase.wait?] at hp
  · intro h
    cases hp : s.phase with
    | opening => simp [step?, hp] at h
    | closed reason => exact .closed hp
    | idle =>
      have hn := interruption?_of_step?_eq_none h (by rw [hp]; rfl)
      simp only [step?, hp, hn] at h
      obtain ⟨hi, hd⟩ := idleStep?_eq_none.1 h
      exact .idle hp hn hi hd
    | queued call =>
      have hn := interruption?_of_step?_eq_none h (by rw [hp]; rfl)
      exact .queued hp hn (by simpa [step?, hp, hn] using h)
    | listening =>
      have hn := interruption?_of_step?_eq_none h (by rw [hp]; rfl)
      simp only [step?, hp, hn] at h
      exact .listening hp hn (listeningStep?_eq_none.1 h)
    | sending | ending =>
      have hn := interruption?_of_step?_eq_none h (by rw [hp]; rfl)
      exact .full (by rw [hp]; rfl) hn (by simpa [step?, hp, hn] using h)

/-! ### Why sessions close -/

/-- A session closes for draining if the server drains and there is no reason to close at once, no
turn under way, and nothing that has been sent. -/
theorem Move.of_drained (hm : Move setup v s s' es) (hp' : s'.phase = .closed .drained) :
    s' = s.close .drained ∧ s.phase = .idle ∧ interruption? v s = none ∧ s.inbound = [] ∧
      v.draining = true := by
  cases hm with
  | drains hp hn hi hd => exact ⟨rfl, hp, hn, hi, hd⟩
  | @interrupted reason hs hr =>
    obtain rfl : reason = .drained := SessionPhase.closed.inj hp'
    unfold interruption? at hr
    split at hr
    · cases hr
    · split at hr <;> cases hr
  | @ends chunk failure hp hn hroom =>
    rcases endTurn_phase_or setup (s.put chunk) failure with hphase | hphase
    · rw [hphase] at hp'
      cases hp'
    · rw [hphase] at hp'
      cases hp'
  | ignores hp =>
    rw [hp] at hp'
    cases hp'
  | opens | inboundEnds | inboundFails | begins | enters | hears | hearsFailure | hearsEnd
  | puts => cases hp'

/-- Within a turn a session does not see whether the server drains. -/
theorem step?_draining (setup : SessionSetup) (v : SessionView) (h : s.phase ≠ .idle)
    (draining : Bool) : s.step? setup { v with draining := draining } = s.step? setup v := by
  cases hp : s.phase with
  | idle => exact absurd hp h
  | opening | closed => simp only [step?, hp]
  | queued | listening | sending | ending =>
    simp only [step?, hp]
    rfl

end Session

end StreamedInference
