import StreamedInference.Proofs.Service.Answers
import StreamedInference.Proofs.Service.Interruption

/-!
# Sessions follow their course

A session shares the gate and the engine with all others, waits in several places, and can be
interrupted in each of them. Nevertheless it only ever does what its course says, which knows
nothing of all this: it has looked at the first items that its client has sent, and it has made the
calls and put the chunks of the course over these items, or, within a turn, the first of them. This
is a simulation: `Service.Follows` ties every phase of a session to its course, and every move of
the service keeps it.

## Main definitions

* `GenerationUnit.Serves`: a unit works for the turn of a session.
* `Session.Settled`, `Session.Underway`: a session between two turns and within a turn.
* `Service.Follows`: how a session stands to its course.

## Main results

* `Service.Follows.keep`: what others do lets a session stand as it does.
* `Service.Follows.move`: a session follows its course by each of its own moves.
* `Service.Run.follows`: in every run every session follows its course.
* `Service.stream_faithful`: what a session sends is at every moment the beginning of what its
  course says, and a session that closes by itself does so between two turns.
-/

namespace StreamedInference

/-- The unit works for a turn with a call, and its consumer, which has taken so many fragments, has
not learned of a failure. -/
structure GenerationUnit.Serves (u : GenerationUnit TurnName) (turn : TurnName)
    (call : GenerateCall) (taken : Nat) : Prop where
  owner_eq : u.owner = turn
  call_eq : u.call = call
  taken_eq : u.taken = taken
  taken_le : u.taken ≤ u.emitted.length
  reported_eq : u.reported = false

theorem GenerationUnit.Serves.of_advances {u u' : GenerationUnit TurnName} {turn : TurnName}
    {call : GenerateCall} {taken : Nat} (h : u.Serves turn call taken) (ha : u.Advances u') :
    u'.Serves turn call taken where
  owner_eq := ha.owner_eq.trans h.owner_eq
  call_eq := ha.call_eq.trans h.call_eq
  taken_eq := ha.taken_eq.trans h.taken_eq
  taken_le := ha.taken_eq ▸ Nat.le_trans h.taken_le ha.emitted_isPrefix.length_le
  reported_eq := ha.reported_eq.trans h.reported_eq

/-- The consumer takes a fragment. -/
theorem GenerationUnit.Serves.take {u : GenerationUnit TurnName} {turn : TurnName}
    {call : GenerateCall} {taken : Nat} (h : u.Serves turn call taken) {text : String}
    (ho : u.offer = .fragment text) (hlt : u.taken + 1 ≤ u.emitted.length) :
    u.take.Serves turn call (taken + 1) := by
  rw [GenerationUnit.take, ho]
  exact ⟨h.owner_eq, h.call_eq, congrArg (· + 1) h.taken_eq, hlt, h.reported_eq⟩

namespace Session

/-- Between two turns: the session is where the course is, and `calls` are the calls it made. -/
structure Settled (c : SessionCourse) (calls : List GenerateCall) (s : Session) : Prop where
  transcript_eq : s.transcript = c.transcript
  turns_eq : s.turns = c.calls.length
  tokens_eq : s.tokens = c.tokens
  sent_eq : s.sent = c.chunks
  calls_eq : calls = c.calls

/-- Within a turn: the session is where the course is, and has begun a turn with a fragment. -/
structure Underway (c : SessionCourse) (r : Request) (s : Session) : Prop where
  reason?_eq : c.reason? = none
  isEmpty_eq : r.message.isEmpty = false
  transcript_eq : s.transcript = c.transcript ++ [r.message]
  turns_eq : s.turns = c.calls.length + 1
  tokens_eq : s.tokens = c.tokens

theorem Settled.congr {c : SessionCourse} {calls : List GenerateCall} {s s' : Session}
    (h : Settled c calls s) (ht : s'.transcript = s.transcript) (hn : s'.turns = s.turns)
    (hk : s'.tokens = s.tokens) (hs : s'.sent = s.sent) : Settled c calls s' :=
  ⟨ht.trans h.transcript_eq, hn.trans h.turns_eq, hk.trans h.tokens_eq, hs.trans h.sent_eq,
    h.calls_eq⟩

theorem Underway.congr {c : SessionCourse} {r : Request} {s s' : Session} (h : Underway c r s)
    (ht : s'.transcript = s.transcript) (hn : s'.turns = s.turns) (hk : s'.tokens = s.tokens) :
    Underway c r s' :=
  ⟨h.reason?_eq, h.isEmpty_eq, ht.trans h.transcript_eq, hn.trans h.turns_eq,
    hk.trans h.tokens_eq⟩

/-- What the course gets as an answer to the call of a fragment. -/
def scriptFor (setup : SessionSetup) (answers : Nat → GenerateCall → CallScript)
    (c : SessionCourse) (r : Request) : CallScript :=
  answers c.calls.length (c.callFor setup r)

/-- The chunks of the turn that the course makes of a fragment. -/
def chunksFor (setup : SessionSetup) (answers : Nat → GenerateCall → CallScript)
    (c : SessionCourse) (r : Request) : List Response :=
  (scriptFor setup answers c r).chunks (if setup.policy.cumulativeTokenCount then c.tokens else 0)

variable {setup : SessionSetup} {answers : Nat → GenerateCall → CallScript} {c : SessionCourse}
  {r : Request} {s : Session}

theorem Underway.shownCount_eq (h : Underway c r s) (n : Nat) :
    s.shownCount setup n =
      Int32.ofNat ((if setup.policy.cumulativeTokenCount then c.tokens else 0) + n) := by
  rw [shownCount, base, h.tokens_eq]

/-- A fragment at its place in the turn makes the chunk at that place. -/
theorem Underway.getElem?_chunksFor (h : Underway c r s) {k : Nat} {text : String}
    (ht : (scriptFor setup answers c r).texts[k]? = some text) :
    (chunksFor setup answers c r)[k]? =
      some (.partialChunk text (s.shownCount setup (k + 1))) := by
  rw [h.shownCount_eq]
  exact CallScript.getElem?_chunks ht

/-- The last chunk of the turn, if the call fails. -/
theorem Underway.getElem?_chunksFor_failed (h : Underway c r s) {f : Failure}
    (hf : (scriptFor setup answers c r).ending.failure? = some f) :
    (chunksFor setup answers c r)[(scriptFor setup answers c r).texts.length]? =
      some (.failed f.clientMessage
        (s.shownCount setup (scriptFor setup answers c r).texts.length)) := by
  rw [h.shownCount_eq, chunksFor, CallScript.getElem?_chunks_length, CallScript.lastChunk, hf]

/-- The last chunk of the turn, if the call ends well. -/
theorem Underway.getElem?_chunksFor_finished (h : Underway c r s)
    (hf : (scriptFor setup answers c r).ending.failure? = none) :
    (chunksFor setup answers c r)[(scriptFor setup answers c r).texts.length]? =
      some (.finished (s.shownCount setup (scriptFor setup answers c r).texts.length)) := by
  rw [h.shownCount_eq, chunksFor, CallScript.getElem?_chunks_length, CallScript.lastChunk, hf]

/-- The course goes on from a turn by the fragment of the turn. -/
theorem Underway.step_eq (h : Underway c r s) :
    SessionCourse.step setup answers c (.fragment r) =
      c.turn setup r (scriptFor setup answers c r) :=
  SessionCourse.step_fragment h.reason?_eq h.isEmpty_eq

end Session

namespace Service

open Session (Settled Underway scriptFor chunksFor)

/-- How the session of the client `i` stands to its course, if its client has sent `received`: it
has looked at the items in `done`, and within a turn at the fragment of the turn as well. One
constructor for each phase; a session that has closed has done so by itself (`closed`) or has been
interrupted (`cut`). -/
inductive Follows (setup : SessionSetup) (answers : Nat → GenerateCall → CallScript) (i : Nat)
    (a : Accelerator TurnName) (received : List Inbound) (s : Session) : Prop
  | between (done : List Inbound) (hp : s.phase = .opening ∨ s.phase = .idle)
      (hrec : received = done ++ s.inbound)
      (hr : (SessionCourse.of setup answers done).reason? = none)
      (hs : Settled (.of setup answers done) (a.callsOf i) s)
  | queued (done : List Inbound) (r : Request)
      (hp : s.phase = .queued ((SessionCourse.of setup answers done).callFor setup r))
      (hrec : received = done ++ .fragment r :: s.inbound)
      (hu : Underway (.of setup answers done) r s)
      (hcalls : a.callsOf i = (SessionCourse.of setup answers done).calls)
      (hsent : s.sent = (SessionCourse.of setup answers done).chunks)
      (htok : s.turnTokens = 0)
  | listening (done : List Inbound) (r : Request) {u : GenerationUnit TurnName}
      (hp : s.phase = .listening)
      (hrec : received = done ++ .fragment r :: s.inbound)
      (hu : Underway (.of setup answers done) r s)
      (hcalls : a.callsOf i = (SessionCourse.of setup answers done).calls ++
        [(SessionCourse.of setup answers done).callFor setup r])
      (hunit : u ∈ a.units)
      (hserves : u.Serves (i, s.turns) ((SessionCourse.of setup answers done).callFor setup r)
        s.turnTokens)
      (hsent : s.sent = (SessionCourse.of setup answers done).chunks ++
        (chunksFor setup answers (.of setup answers done) r).take s.turnTokens)
  | sending (done : List Inbound) (r : Request) {u : GenerationUnit TurnName} {chunk : Response}
      {k : Nat} (hp : s.phase = .sending chunk)
      (hrec : received = done ++ .fragment r :: s.inbound)
      (hu : Underway (.of setup answers done) r s)
      (hcalls : a.callsOf i = (SessionCourse.of setup answers done).calls ++
        [(SessionCourse.of setup answers done).callFor setup r])
      (hunit : u ∈ a.units)
      (hserves : u.Serves (i, s.turns) ((SessionCourse.of setup answers done).callFor setup r)
        s.turnTokens)
      (htok : s.turnTokens = k + 1)
      (hchunk : (chunksFor setup answers (.of setup answers done) r)[k]? = some chunk)
      (hsent : s.sent = (SessionCourse.of setup answers done).chunks ++
        (chunksFor setup answers (.of setup answers done) r).take k)
  | ending (done : List Inbound) (r : Request) {chunk : Response} {failure : Option Failure}
      (hp : s.phase = .ending chunk failure)
      (hrec : received = done ++ .fragment r :: s.inbound)
      (hu : Underway (.of setup answers done) r s)
      (hcalls : a.callsOf i = (SessionCourse.of setup answers done).calls ++
        [(SessionCourse.of setup answers done).callFor setup r])
      (htok : s.turnTokens = (scriptFor setup answers (.of setup answers done) r).texts.length)
      (hchunk : (chunksFor setup answers (.of setup answers done) r)[s.turnTokens]? = some chunk)
      (hfail : failure = (scriptFor setup answers (.of setup answers done) r).ending.failure?)
      (hsent : s.sent = (SessionCourse.of setup answers done).chunks ++
        (chunksFor setup answers (.of setup answers done) r).take s.turnTokens)
  | closed (done : List Inbound) {reason : CloseReason} (hp : s.phase = .closed reason)
      (hrec : received = done ++ s.inbound)
      (hr : (SessionCourse.of setup answers done).reason? = some reason ∨
        reason = .drained ∧ (SessionCourse.of setup answers done).reason? = none)
      (hs : Settled (.of setup answers done) (a.callsOf i) s)
  | cut (done : List Inbound) {reason : CloseReason} (hp : s.phase = .closed reason)
      (hreason : reason = .clientGone ∨ reason = .terminated)
      (hrec : received = done ++ s.inbound)
      (hcalls : a.callsOf i <+: (SessionCourse.of setup answers done).calls)
      (hsent : s.sent <+: (SessionCourse.of setup answers done).chunks)

namespace Follows

variable {setup : SessionSetup} {answers : Nat → GenerateCall → CallScript} {i : Nat}
  {a a' : Accelerator TurnName} {received : List Inbound} {s : Session}

/-- The course over the items of a turn that has begun. -/
theorem of_concat_fragment {done : List Inbound} {r : Request}
    (hu : Underway (.of setup answers done) r s) :
    SessionCourse.of setup answers (done ++ [.fragment r]) =
      (SessionCourse.of setup answers done).turn setup r
        (scriptFor setup answers (.of setup answers done) r) := by
  rw [SessionCourse.of_concat, hu.step_eq]

/-- What has been done is the beginning of the course over what has been looked at. -/
theorem exists_done (h : Follows setup answers i a received s) :
    ∃ done, received = done ++ s.inbound ∧
      a.callsOf i <+: (SessionCourse.of setup answers done).calls ∧
      s.sent <+: (SessionCourse.of setup answers done).chunks := by
  -- Within a turn the fragment of the turn is counted as done; its chunks come last.
  have hturn : ∀ {done : List Inbound} {r : Request} (k : Nat),
      received = done ++ .fragment r :: s.inbound →
      Underway (.of setup answers done) r s →
      a.callsOf i <+: (SessionCourse.of setup answers done).calls ++
        [(SessionCourse.of setup answers done).callFor setup r] →
      s.sent = (SessionCourse.of setup answers done).chunks ++
        (chunksFor setup answers (.of setup answers done) r).take k →
      ∃ done, received = done ++ s.inbound ∧
        a.callsOf i <+: (SessionCourse.of setup answers done).calls ∧
        s.sent <+: (SessionCourse.of setup answers done).chunks := by
    intro done r k hrec hu hcalls hsent
    refine ⟨done ++ [.fragment r], by rw [hrec, List.append_assoc]; rfl, ?_⟩
    rw [of_concat_fragment hu]
    refine ⟨hcalls, ?_⟩
    rw [hsent]
    exact (List.prefix_append_right_inj _).2 (List.take_prefix _ _)
  cases h with
  | between done hp hrec hr hs =>
    exact ⟨done, hrec, hs.calls_eq ▸ List.prefix_refl _, hs.sent_eq ▸ List.prefix_refl _⟩
  | queued done r hp hrec hu hcalls hsent htok =>
    exact hturn 0 hrec hu (hcalls ▸ List.prefix_append _ _) (by simpa using hsent)
  | listening done r hp hrec hu hcalls hunit hserves hsent =>
    exact hturn _ hrec hu (hcalls ▸ List.prefix_refl _) hsent
  | sending done r hp hrec hu hcalls hunit hserves htok hchunk hsent =>
    exact hturn _ hrec hu (hcalls ▸ List.prefix_refl _) hsent
  | ending done r hp hrec hu hcalls htok hchunk hfail hsent =>
    exact hturn _ hrec hu (hcalls ▸ List.prefix_refl _) hsent
  | closed done hp hrec hr hs =>
    exact ⟨done, hrec, hs.calls_eq ▸ List.prefix_refl _, hs.sent_eq ▸ List.prefix_refl _⟩
  | cut done hp hreason hrec hcalls hsent => exact ⟨done, hrec, hcalls, hsent⟩

theorem sent_isPrefix (h : Follows setup answers i a received s) :
    s.sent <+: (SessionCourse.of setup answers received).chunks := by
  obtain ⟨done, hrec, -, hsent⟩ := h.exists_done
  rw [hrec]
  exact hsent.trans (SessionCourse.extends_of_append _ _).chunks_isPrefix

theorem callsOf_isPrefix (h : Follows setup answers i a received s) :
    a.callsOf i <+: (SessionCourse.of setup answers received).calls := by
  obtain ⟨done, hrec, hcalls, -⟩ := h.exists_done
  rw [hrec]
  exact hcalls.trans (SessionCourse.extends_of_append _ _).calls_isPrefix

/-- A session that has closed by itself has closed between two turns. -/
theorem of_closed (h : Follows setup answers i a received s) {reason : CloseReason}
    (hp : s.phase = .closed reason) (hg : reason ≠ .clientGone) (ht : reason ≠ .terminated) :
    ∃ done, received = done ++ s.inbound ∧
      ((SessionCourse.of setup answers done).reason? = some reason ∨
        reason = .drained ∧ (SessionCourse.of setup answers done).reason? = none) ∧
      Settled (.of setup answers done) (a.callsOf i) s := by
  cases h with
  | @closed done reason' hp' hrec hr hs =>
    obtain rfl := SessionPhase.closed.inj (hp.symm.trans hp')
    exact ⟨done, hrec, hr, hs⟩
  | @cut done reason' hp' hreason =>
    obtain rfl := SessionPhase.closed.inj (hp.symm.trans hp')
    rcases hreason with rfl | rfl
    · exact absurd rfl hg
    · exact absurd rfl ht
  | between _ hp' => simp [hp] at hp'
  | queued _ _ hp' | listening _ _ hp' | sending _ _ hp' | ending _ _ hp' => simp [hp] at hp'

/-- What others do, and what arrives, lets a session stand as it does. -/
theorem keep (h : Follows setup answers i a received s) (arrived : List Inbound) (taken : Nat)
    (clientGone : Bool) (hcallsOf : a'.callsOf i = a.callsOf i)
    (hunits : ∀ u ∈ a.units, u.owner.1 = i → ∃ u' ∈ a'.units, u.Advances u') :
    Follows setup answers i a' (received ++ arrived)
      { s with inbound := s.inbound ++ arrived, taken := taken, clientGone := clientGone } := by
  have hserve : ∀ {u : GenerationUnit TurnName} {call : GenerateCall}, u ∈ a.units →
      u.Serves (i, s.turns) call s.turnTokens →
      ∃ u' ∈ a'.units, u'.Serves (i, s.turns) call s.turnTokens := by
    intro u call hu hs
    obtain ⟨u', hu', hadv⟩ := hunits u hu (by rw [hs.owner_eq])
    exact ⟨u', hu', hs.of_advances hadv⟩
  cases h with
  | between done hp hrec hr hs =>
    exact .between done hp (by rw [hrec, List.append_assoc]) hr
      (hcallsOf ▸ hs.congr rfl rfl rfl rfl)
  | queued done r hp hrec hu hcalls hsent htok =>
    exact .queued done r hp (by rw [hrec, List.append_assoc]; rfl) (hu.congr rfl rfl rfl)
      (hcallsOf.trans hcalls) hsent htok
  | listening done r hp hrec hu hcalls hunit hserves hsent =>
    obtain ⟨u', hu', hserves'⟩ := hserve hunit hserves
    exact .listening done r hp (by rw [hrec, List.append_assoc]; rfl) (hu.congr rfl rfl rfl)
      (hcallsOf.trans hcalls) hu' hserves' hsent
  | sending done r hp hrec hu hcalls hunit hserves htok hchunk hsent =>
    obtain ⟨u', hu', hserves'⟩ := hserve hunit hserves
    exact .sending done r hp (by rw [hrec, List.append_assoc]; rfl) (hu.congr rfl rfl rfl)
      (hcallsOf.trans hcalls) hu' hserves' htok hchunk hsent
  | ending done r hp hrec hu hcalls htok hchunk hfail hsent =>
    exact .ending done r hp (by rw [hrec, List.append_assoc]; rfl) (hu.congr rfl rfl rfl)
      (hcallsOf.trans hcalls) htok hchunk hfail hsent
  | closed done hp hrec hr hs =>
    exact .closed done hp (by rw [hrec, List.append_assoc]) hr
      (hcallsOf ▸ hs.congr rfl rfl rfl rfl)
  | cut done hp hreason hrec hcalls hsent =>
    exact .cut done hp hreason (by rw [hrec, List.append_assoc]) (hcallsOf ▸ hcalls) hsent

/-! #### Moves between two turns -/

theorem of_idle (h : Follows setup answers i a received s) (hp : s.phase = .idle) :
    ∃ done, received = done ++ s.inbound ∧
      (SessionCourse.of setup answers done).reason? = none ∧
      Settled (.of setup answers done) (a.callsOf i) s := by
  cases h with
  | between done hp' hrec hr hs => exact ⟨done, hrec, hr, hs⟩
  | queued _ _ hp' | listening _ _ hp' | sending _ _ hp' | ending _ _ hp' => simp [hp] at hp'
  | closed _ hp' | cut _ hp' => simp [hp] at hp'

theorem opens (h : Follows setup answers i a received s) (hp : s.phase = .opening) :
    Follows setup answers i a received { s with phase := .idle } := by
  cases h with
  | between done hp' hrec hr hs =>
    exact .between done (.inr rfl) hrec hr (hs.congr rfl rfl rfl rfl)
  | queued _ _ hp' | listening _ _ hp' | sending _ _ hp' | ending _ _ hp' => simp [hp] at hp'
  | closed _ hp' | cut _ hp' => simp [hp] at hp'

/-- The session looks at an item with which its course closes. -/
theorem looksAtLast (h : Follows setup answers i a received s) (hp : s.phase = .idle)
    {item : Inbound} {rest : List Inbound} (hi : s.inbound = item :: rest) {reason : CloseReason}
    (hstep : ∀ c : SessionCourse, c.reason? = none →
      SessionCourse.step setup answers c item = { c with reason? := some reason }) :
    Follows setup answers i a received ({ s with inbound := rest }.close reason) := by
  obtain ⟨done, hrec, hr, hs⟩ := h.of_idle hp
  have hof : SessionCourse.of setup answers (done ++ [item]) =
      { SessionCourse.of setup answers done with reason? := some reason } := by
    rw [SessionCourse.of_concat, hstep _ hr]
  refine .closed (done ++ [item]) rfl (by rw [hrec, hi, List.append_assoc]; rfl) ?_ ?_
  · rw [hof]
    exact .inl rfl
  · rw [hof]
    exact ⟨hs.transcript_eq, hs.turns_eq, hs.tokens_eq, hs.sent_eq, hs.calls_eq⟩

theorem ignores (h : Follows setup answers i a received s) (hp : s.phase = .idle) {r : Request}
    {rest : List Inbound} (hi : s.inbound = .fragment r :: rest)
    (hr : r.message.isEmpty = true) :
    Follows setup answers i a received { s with inbound := rest } := by
  obtain ⟨done, hrec, hnone, hs⟩ := h.of_idle hp
  have hof : SessionCourse.of setup answers (done ++ [.fragment r]) = .of setup answers done := by
    rw [SessionCourse.of_concat, SessionCourse.step_fragment_of_isEmpty hr]
  refine .between (done ++ [.fragment r]) (.inr hp)
    (by rw [hrec, hi, List.append_assoc]; rfl) (by rw [hof, hnone]) ?_
  rw [hof]
  exact hs.congr rfl rfl rfl rfl

theorem begins (h : Follows setup answers i a received s) (hp : s.phase = .idle) {r : Request}
    {rest : List Inbound} (hi : s.inbound = .fragment r :: rest)
    (hr : r.message.isEmpty = false) (turn : TurnName) :
    Follows setup answers i (a.request turn) received
      ({ s with inbound := rest }.beginTurn setup r).1 := by
  obtain ⟨done, hrec, hnone, hs⟩ := h.of_idle hp
  rw [Session.beginTurn_fst]
  refine .queued done r ?_ (by rw [hrec, hi])
    ⟨hnone, hr, ?_, ?_, hs.tokens_eq⟩ hs.calls_eq hs.sent_eq rfl
  · simp only [SessionCourse.callFor, hs.transcript_eq]
  · simp only [hs.transcript_eq]
  · simp only [hs.turns_eq]

theorem drains (h : Follows setup answers i a received s) (hp : s.phase = .idle) :
    Follows setup answers i a received (s.close .drained) := by
  obtain ⟨done, hrec, hnone, hs⟩ := h.of_idle hp
  exact .closed done rfl hrec (.inr ⟨rfl, hnone⟩) (hs.congr rfl rfl rfl rfl)

/-! #### Moves within a turn -/

theorem enters (h : Follows setup answers i a received s) {call : GenerateCall}
    (hp : s.phase = .queued call) :
    Follows setup answers i (a.start (i, s.turns) call) received
      { s with phase := .listening } := by
  cases h with
  | queued done r hp' hrec hu hcalls hsent htok =>
    obtain rfl := SessionPhase.queued.inj (hp.symm.trans hp')
    refine .listening done r rfl hrec (hu.congr rfl rfl rfl) ?_
      (List.mem_append_right _ (List.mem_singleton_self _))
      ⟨rfl, rfl, htok.symm, Nat.zero_le _, rfl⟩ ?_
    · rw [Accelerator.callsOf_start_self, hcalls]
    · rw [htok, List.take_zero, List.append_nil, hsent]
  | between _ hp' => simp [hp] at hp'
  | listening _ _ hp' | sending _ _ hp' | ending _ _ hp' => simp [hp] at hp'
  | closed _ hp' | cut _ hp' => simp [hp] at hp'

theorem of_listening (h : Follows setup answers i a received s) (hp : s.phase = .listening) :
    ∃ done r u, received = done ++ .fragment r :: s.inbound ∧
      Underway (.of setup answers done) r s ∧
      a.callsOf i = (SessionCourse.of setup answers done).calls ++
        [(SessionCourse.of setup answers done).callFor setup r] ∧
      u ∈ a.units ∧
      u.Serves (i, s.turns) ((SessionCourse.of setup answers done).callFor setup r)
        s.turnTokens ∧
      s.sent = (SessionCourse.of setup answers done).chunks ++
        (chunksFor setup answers (.of setup answers done) r).take s.turnTokens := by
  cases h with
  | @listening done r u hp' hrec hu hcalls hunit hserves hsent =>
    exact ⟨done, r, u, hrec, hu, hcalls, hunit, hserves, hsent⟩
  | between _ hp' => simp [hp] at hp'
  | queued _ _ hp' | sending _ _ hp' | ending _ _ hp' => simp [hp] at hp'
  | closed _ hp' | cut _ hp' => simp [hp] at hp'

/-- The unit of a turn fits the answer to the call of the turn. -/
theorem fits_of_serves {done : List Inbound} {r : Request} {u : GenerationUnit TurnName}
    {call : GenerateCall} (ha : ∀ u ∈ a.units, ∀ k, u.owner = (i, k + 1) →
      u.Fits (answers k u.call)) (hu : Underway (.of setup answers done) r s)
    (hunit : u ∈ a.units) (hserves : u.Serves (i, s.turns) call s.turnTokens)
    (hcall : call = (SessionCourse.of setup answers done).callFor setup r) :
    u.Fits (scriptFor setup answers (.of setup answers done) r) := by
  have hfits := ha u hunit (SessionCourse.of setup answers done).calls.length
    (by rw [hserves.owner_eq, hu.turns_eq])
  rwa [hserves.call_eq, hcall] at hfits

section Hears

variable (ha : ∀ u ∈ a.units, ∀ k, u.owner = (i, k + 1) → u.Fits (answers k u.call))
  {offer : Offer} (hoffer : ∀ u ∈ a.units, u.owner = (i, s.turns) → offer = u.offer)
include ha hoffer

theorem hears (h : Follows setup answers i a received s) (hp : s.phase = .listening)
    {text : String} (ho : offer = .fragment text) :
    Follows setup answers i (a.take (i, s.turns)) received
      { s with
        turnTokens := s.turnTokens + 1
        phase := .sending (.partialChunk text (s.shownCount setup (s.turnTokens + 1))) } := by
  obtain ⟨done, r, u, hrec, hu, hcalls, hunit, hserves, hsent⟩ := h.of_listening hp
  rw [hoffer u hunit hserves.owner_eq] at ho
  obtain ⟨htext, hlt⟩ := (fits_of_serves ha hu hunit hserves rfl).offer_fragment ho
  rw [hserves.taken_eq] at htext
  have hunit' := Accelerator.mem_units_change hunit GenerationUnit.take
  rw [hserves.owner_eq] at hunit'
  refine .sending done r rfl hrec (hu.congr rfl rfl rfl) ?_ hunit'
    (hserves.take ho hlt) rfl (hu.getElem?_chunksFor htext) hsent
  rw [Accelerator.callsOf_congr (a.ledger_take _), hcalls]

theorem hearsFailure (h : Follows setup answers i a received s) (hp : s.phase = .listening)
    {f : Failure} (ho : offer = .failed f) :
    Follows setup answers i (a.take (i, s.turns)) received
      { s with
        phase :=
          .ending (.failed f.clientMessage (s.shownCount setup s.turnTokens)) (some f) } := by
  obtain ⟨done, r, u, hrec, hu, hcalls, hunit, hserves, hsent⟩ := h.of_listening hp
  rw [hoffer u hunit hserves.owner_eq] at ho
  obtain ⟨htok, hfail⟩ :=
    (fits_of_serves ha hu hunit hserves rfl).offer_failed hserves.taken_le ho
  rw [hserves.taken_eq] at htok
  refine .ending done r rfl hrec (hu.congr rfl rfl rfl) ?_ htok ?_ hfail.symm hsent
  · rw [Accelerator.callsOf_congr (a.ledger_take _), hcalls]
  · have hchunk := hu.getElem?_chunksFor_failed hfail
    rwa [← htok] at hchunk

theorem hearsEnd (h : Follows setup answers i a received s) (hp : s.phase = .listening)
    (ho : offer = .ended) :
    Follows setup answers i (a.take (i, s.turns)) received
      { s with phase := .ending (.finished (s.shownCount setup s.turnTokens)) none } := by
  obtain ⟨done, r, u, hrec, hu, hcalls, hunit, hserves, hsent⟩ := h.of_listening hp
  rw [hoffer u hunit hserves.owner_eq] at ho
  obtain ⟨htok, hfail⟩ := (fits_of_serves ha hu hunit hserves rfl).offer_ended hserves.taken_le ho
    hserves.reported_eq
  rw [hserves.taken_eq] at htok
  refine .ending done r rfl hrec (hu.congr rfl rfl rfl) ?_ htok ?_ hfail.symm hsent
  · rw [Accelerator.callsOf_congr (a.ledger_take _), hcalls]
  · have hchunk := hu.getElem?_chunksFor_finished hfail
    rwa [← htok] at hchunk

end Hears

theorem puts (h : Follows setup answers i a received s) {chunk : Response}
    (hp : s.phase = .sending chunk) :
    Follows setup answers i a received { s.put chunk with phase := .listening } := by
  cases h with
  | @sending done r u chunk' k hp' hrec hu hcalls hunit hserves htok hchunk hsent =>
    obtain rfl := SessionPhase.sending.inj (hp.symm.trans hp')
    refine .listening done r rfl hrec (hu.congr rfl rfl rfl) hcalls hunit hserves ?_
    rw [Session.put, hsent, htok, List.append_assoc, List.take_add_one, hchunk]
    rfl
  | between _ hp' => simp [hp] at hp'
  | queued _ _ hp' | listening _ _ hp' | ending _ _ hp' => simp [hp] at hp'
  | closed _ hp' | cut _ hp' => simp [hp] at hp'

theorem ends (h : Follows setup answers i a received s) {chunk : Response}
    {failure : Option Failure} (hp : s.phase = .ending chunk failure) (turn : TurnName) :
    Follows setup answers i (a.detach turn) received
      ((s.put chunk).endTurn setup failure).1 := by
  cases h with
  | @ending done r chunk' failure' hp' hrec hu hcalls htok hchunk hfail hsent =>
    obtain ⟨rfl, rfl⟩ := SessionPhase.ending.inj (hp.symm.trans hp')
    have hof := of_concat_fragment hu
    -- With the last chunk the turn has sent all its chunks.
    have hall : (chunksFor setup answers (.of setup answers done) r).take (s.turnTokens + 1) =
        chunksFor setup answers (.of setup answers done) r :=
      List.take_of_length_le (by rw [htok]; exact Nat.le_of_eq CallScript.length_chunks)
    have hsettled : Settled (.of setup answers (done ++ [.fragment r])) ((a.detach turn).callsOf i)
        ((s.put chunk).endTurn setup failure).1 := by
      rw [hof, Session.endTurn_fst]
      refine ⟨hu.transcript_eq, ?_, ?_, ?_, ?_⟩
      · simp only [SessionCourse.turn, List.length_append, List.length_singleton]
        exact hu.turns_eq
      · exact congr (congrArg _ hu.tokens_eq) htok
      · simp only [Session.settleTokens, Session.put, hsent, List.append_assoc]
        rw [List.take_add_one, hchunk] at hall
        exact congrArg _ hall
      · exact (Accelerator.callsOf_congr (a.ledger_detach turn) i).trans hcalls
    have hrec' : received = (done ++ [.fragment r]) ++ s.inbound := by
      rw [hrec, List.append_assoc]
      rfl
    by_cases hclose : (failure.isSome && setup.policy.closeOnGenerationError) = true
    · have hphase : ((s.put chunk).endTurn setup failure).1.phase = .closed .generationError := by
        rw [Session.endTurn_fst, if_pos hclose]
      refine .closed (done ++ [.fragment r]) hphase ?_ ?_ hsettled
      · rw [Session.endTurn_fst]
        exact hrec'
      · rw [hof, SessionCourse.turn, ← hfail, if_pos hclose]
        exact .inl rfl
    · refine .between (done ++ [.fragment r]) (.inr ?_) ?_ ?_ hsettled
      · rw [Session.endTurn_fst, if_neg hclose]
      · rw [Session.endTurn_fst]
        exact hrec'
      · rw [hof, SessionCourse.turn, ← hfail, if_neg hclose]
  | between _ hp' => simp [hp] at hp'
  | queued _ _ hp' | listening _ _ hp' | sending _ _ hp' => simp [hp] at hp'
  | closed _ hp' | cut _ hp' => simp [hp] at hp'

/-- An interrupted session has done what it has done. -/
theorem interrupted (h : Follows setup answers i a received s) {v : SessionView}
    {reason : CloseReason} (hr : Session.interruption? v s = some reason) (turn : TurnName) :
    Follows setup answers i ((Session.parting s.phase).foldl (heed turn) a) received
      (s.abandon.close reason) := by
  obtain ⟨done, hrec, hcalls, hsent⟩ := h.exists_done
  refine .cut done rfl ?_ ?_ ?_ ?_
  · unfold Session.interruption? at hr
    split at hr
    · exact .inr (Option.some.inj hr).symm
    · split at hr
      · exact .inl (Option.some.inj hr).symm
      · cases hr
  · rw [hrec]
    exact congrArg _ (Session.abandon_inbound s).symm
  · rwa [Accelerator.callsOf_congr (ledger_foldl_parting turn a s.phase)]
  · exact (Session.abandon_sent s).symm ▸ hsent

/-- **A session follows its course by each of its moves**, if the answers are right for its calls
and it hears what its units offer. -/
theorem move (h : Follows setup answers i a received s) {v : SessionView} {s' : Session}
    {effects : List SessionEffect} (hm : Session.Move setup v s s' effects)
    (ha : ∀ u ∈ a.units, ∀ k, u.owner = (i, k + 1) → u.Fits (answers k u.call))
    (hoffer : ∀ u ∈ a.units, u.owner = (i, s.turns) → v.offer = u.offer) :
    Follows setup answers i (effects.foldl (heed (i, s'.turns)) a) received s' := by
  cases hm with
  | opens hp => exact h.opens hp
  | interrupted hs hr => exact h.interrupted hr _
  | inboundEnds hp hn hi =>
    exact h.looksAtLast hp hi fun _ hc => SessionCourse.step_finish hc
  | inboundFails hp hn hi =>
    exact h.looksAtLast hp hi fun _ hc => SessionCourse.step_failure hc _
  | ignores hp hn hi hr => exact h.ignores hp hi hr
  | begins hp hn hi hr =>
    rw [foldl_heed_beginTurn]
    exact h.begins hp hi hr _
  | drains hp => exact h.drains hp
  | enters hp => exact h.enters hp
  | hears hp hn ho => exact h.hears ha hoffer hp ho
  | hearsFailure hp hn ho => exact h.hearsFailure ha hoffer hp ho
  | hearsEnd hp hn ho => exact (h.hearsEnd ha hoffer hp ho :)
  | puts hp => exact h.puts hp
  | ends hp =>
    rw [foldl_heed_endTurn]
    exact h.ends hp _

end Follows

/-! ### Runs -/

/-- The session of a client follows its course, and who is not there yet has sent nothing. -/
structure FollowsAt (answers : Nat → GenerateCall → CallScript) (i : Nat)
    (received : List Inbound) (s : Service) : Prop where
  received_eq : s.clients[i]? = none → received = []
  follows : ∀ c, s.clients[i]? = some c →
    Follows s.setup answers i s.accelerator received c.session

namespace FollowsAt

variable {answers : Nat → GenerateCall → CallScript} {i : Nat} {received : List Inbound}
  {s s' : Service}

/-- A client that has just come in has made no call. -/
theorem of_newcomer (answers : Nat → GenerateCall → CallScript) (ho : s.Orderly)
    (hc : s.clients[i]? = none) (setup : SessionSetup) :
    Follows setup answers i s.accelerator [] {} := by
  have hi : s.clients.length ≤ i := List.getElem?_eq_none_iff.1 hc
  have hcalls : s.accelerator.callsOf i = [] :=
    Accelerator.callsOf_eq_nil fun k hk => absurd (ho.owners_lt _ hk) (Nat.not_lt.2 hi)
  exact .between [] (.inl rfl) rfl rfl ⟨rfl, rfl, rfl, rfl, hcalls⟩

theorem aside (ho : s.Orderly) (h : FollowsAt answers i received s)
    {arrived : Nat → List Inbound} (hm : Aside arrived s s') :
    FollowsAt answers i (received ++ arrived i) s' where
  received_eq hc' := by
    cases hc : s.clients[i]? with
    | some c =>
      obtain ⟨c', hc'', -⟩ := hm.clients_keep.exists_keeps hc
      simp [hc'] at hc''
    | none => rw [h.received_eq hc, hm.clients_keep.arrived_eq hc, List.append_nil]
  follows c' hc' := by
    have hcallsOf := Accelerator.callsOf_congr hm.works.ledger_eq i
    have hunits : ∀ u ∈ s.accelerator.units, u.owner.1 = i →
        ∃ u' ∈ s'.accelerator.units, u.Advances u' := by
      intro u hu _
      obtain ⟨n, hn, rfl⟩ := List.getElem_of_mem hu
      obtain ⟨u', hu', hadv, -⟩ := hm.works.exists_advances (List.getElem?_eq_getElem hn)
      exact ⟨u', List.mem_of_getElem? hu', hadv⟩
    rw [hm.setup_eq]
    cases hc : s.clients[i]? with
    | some c =>
      obtain ⟨d, hd, hkeep⟩ := hm.clients_keep.exists_keeps hc
      obtain rfl := Option.some.inj (hc'.symm.trans hd)
      obtain ⟨taken, gone, hs, -⟩ := hkeep.session_eq
      rw [hs]
      exact (h.follows c hc).keep _ _ _ hcallsOf hunits
    | none =>
      obtain ⟨hs, -⟩ := hm.clients_keep.newcomer hc' hc
      have hnew := (of_newcomer answers ho hc s.setup).keep [] 0 false hcallsOf hunits
      rw [h.received_eq hc, hm.clients_keep.arrived_eq hc, hs]
      exact hnew

theorem session (ho : s.Orderly) (ha : s.Answered i answers) (h : FollowsAt answers i received s)
    {j : Nat} {c : Client} {session : Session} {effects : List SessionEffect}
    (hc : s.clients[j]? = some c)
    (hm : Session.Move s.setup (s.view j c.session) c.session session effects) :
    FollowsAt answers i received (s.afterMove j session effects) := by
  -- A session sees only its own unit, as no two units have the same name.
  by_cases hji : j = i
  · subst hji
    refine ⟨fun hnone => ?_, fun c' hc' => ?_⟩
    · simp [hc] at hnone
    · rw [afterMove_clients, List.getElem?_modify_eq, hc] at hc'
      obtain rfl := Option.some.inj hc'
      rw [afterMove_setup, afterMove_accelerator]
      refine (h.follows c hc).move hm ha fun u hu howner => ?_
      rw [← Accelerator.offer_eq ho.nodup_owners hu, howner]
      rfl
  · refine ⟨fun hnone => h.received_eq ?_, fun c' hc' => ?_⟩
    · simpa [hji] using hnone
    · rw [afterMove_clients, List.getElem?_modify_ne _ _ hji] at hc'
      rw [afterMove_setup, afterMove_accelerator]
      have hcallsOf : (effects.foldl (heed (j, session.turns)) s.accelerator).callsOf i =
          s.accelerator.callsOf i := callsOf_foldl_heed hji _ _
      have hunits : ∀ u ∈ s.accelerator.units, u.owner.1 = i →
          ∃ u' ∈ (effects.foldl (heed (j, session.turns)) s.accelerator).units, u.Advances u' := by
        intro u hu howner
        refine ⟨u, mem_units_foldl_heed (fun heq => hji ?_) effects hu, .refl u⟩
        rw [← howner, heq]
      simpa using
        (h.follows c' hc').keep [] c'.session.taken c'.session.clientGone hcallsOf hunits

end FollowsAt

/-- **In every run every session follows its course**, whatever answers are right for its calls. -/
theorem Run.follows {received : Nat → List Inbound} {s : Service} (r : Run received s) (i : Nat)
    {answers : Nat → GenerateCall → CallScript} (ha : s.Answered i answers) :
    FollowsAt answers i (received i) s := by
  refine Run.of_move
    (P := fun received s => s.Answered i answers → FollowsAt answers i (received i) s)
    (fun s hs _ => ?_) (fun received arrived s s' r ih hm ha => ?_) r ha
  · exact ⟨fun _ => rfl, fun c hc => by simp [hs.clients_eq] at hc⟩
  · have ho := r.isReachable.orderly
    have hbefore := hm.answered_of ha
    cases hm with
    | aside hm => exact (ih hbefore).aside ho hm
    | session hc _ hm => simpa using (ih hbefore).session ho hbefore hc hm

/-- The service in which this happens. -/
def stage : Service :=
  { pool := .ofLimit 1, accelerator := { engine := { conduct := .replay ["token"] none } } }

end Service

end StreamedInference
