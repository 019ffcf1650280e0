import StreamedInference.Proofs.Service.Faithful

/-!
# What the last chunk of a turn tells

A client learns from the `error` of the last chunk of a turn whether the turn has failed: the chunks
before it have none, and the last one has the words of the failure, if there is one. These are words
that nobody has checked. An engine may fail without a word, and then the chunk looks like that of a
turn that has ended well.

The last chunk is known from the course of the session, which is told for answers known beforehand.
That the call of the turn has really ended when the chunk is sent follows from there being more than
one course: a call that goes on can still end well or break down, and no session follows the courses
of both.

## Main definitions

* `Ending.words`: what the last chunk of a turn says of the end of its call.
* `SessionCourse.Tells`: what the chunks of a course say of the ends of its calls.

## Main results

* `Ending.words_eq_empty_iff`: an ending has no words if it is a success, or a failure without a
  reason.
* `SessionCourse.tells_of`: what the chunks of a course say of the ends of its calls.
* `Service.IsReachable.exists_ended`: a turn whose last chunk has been sent has a call that has
  ended, and the chunk has its words.
* `Service.last_chunk_tells`: what clients learn about the ends of their turns.
-/

namespace StreamedInference

/-- A failure has words for the client, unless it is a failure of the engine without a reason. -/
theorem Failure.clientMessage_eq_empty_iff {f : Failure} :
    f.clientMessage = "" ↔ f = .generation "" := by
  have happend : ∀ {prefaced reason : String}, prefaced ≠ "" → prefaced ++ reason ≠ "" :=
    fun hne h => hne (String.append_eq_empty_iff.1 h).1
  cases f with
  | generation reason => exact Failure.generation.injEq _ _ ▸ Iff.rfl
  | shuttingDown => exact iff_of_false (by decide) nofun
  | assembly | registry | engineLoad => exact iff_of_false (happend (by decide)) nofun

/-- What the last chunk of a turn says of the end of its call. -/
def Ending.words (e : Ending) : String :=
  (e.failure?.map Failure.clientMessage).getD ""

/-- An ending has no words if it is a success, or a failure without a reason. -/
theorem Ending.words_eq_empty_iff {e : Ending} :
    e.words = "" ↔ e = .success ∨ e = .failure (.generation "") := by
  cases e with
  | success => simp [words, failure?]
  | failure f => simp [words, failure?, Failure.clientMessage_eq_empty_iff]
  | breakdown => simp [words, failure?, Failure.breakdown, Failure.clientMessage]

theorem CallScript.lastChunk_error (script : CallScript) (base : Nat) :
    (script.lastChunk base).error = script.ending.words := by
  unfold lastChunk Ending.words
  cases script.ending.failure? <;> rfl

/-- The chunks of a turn before its last one have no error. -/
theorem CallScript.error_of_mem_chunks {script : CallScript} {base : Nat} {chunk : Response}
    (hmem : chunk ∈ script.chunks base) (hf : chunk.isFinished = false) : chunk.error = "" := by
  rw [chunks_eq, List.mem_append, List.mem_singleton] at hmem
  rcases hmem with hmem | rfl
  · obtain ⟨k, hk, rfl⟩ := List.mem_mapIdx.1 hmem
    rfl
  · unfold lastChunk at hf
    split at hf <;> cases hf

/-! ### Courses -/

namespace SessionCourse

variable {setup : SessionSetup} {answers : Nat → GenerateCall → CallScript} {c : SessionCourse}

/-- Only last chunks have errors, and the errors of the last chunks are the words of the ends of the
calls, in the order of the calls. -/
structure Tells (answers : Nat → GenerateCall → CallScript) (c : SessionCourse) : Prop where
  error_eq : ∀ chunk ∈ c.chunks, chunk.isFinished = false → chunk.error = ""
  errors_eq : (c.chunks.filter (·.isFinished)).map (·.error) =
    c.calls.mapIdx fun k call => (answers k call).ending.words

namespace Tells

/-- Only chunks and calls count. -/
theorem congr {c' : SessionCourse} (h : c.Tells answers) (hchunks : c'.chunks = c.chunks)
    (hcalls : c'.calls = c.calls) : c'.Tells answers where
  error_eq := hchunks ▸ h.error_eq
  errors_eq := by rw [hchunks, hcalls, h.errors_eq]

/-- A turn adds its chunks, and its last chunk has the words of the end of its call. -/
theorem turn (h : c.Tells answers) (r : Request) :
    (c.turn setup r (answers c.calls.length (c.callFor setup r))).Tells answers where
  error_eq chunk hmem hf := by
    rcases List.mem_append.1 hmem with hmem | hmem
    · exact h.error_eq chunk hmem hf
    · exact CallScript.error_of_mem_chunks hmem hf
  errors_eq := by
    rw [SessionCourse.turn, List.filter_append, CallScript.filter_isFinished_chunks,
      List.map_append, h.errors_eq, List.mapIdx_concat, List.map_singleton,
      CallScript.lastChunk_error]

theorem step (h : c.Tells answers) (item : Inbound) :
    (SessionCourse.step setup answers c item).Tells answers := by
  cases hr : c.reason? with
  | some reason => rwa [step_of_reason? hr]
  | none =>
    cases item with
    | finish => exact step_finish hr ▸ h.congr rfl rfl
    | failure status => exact step_failure hr status ▸ h.congr rfl rfl
    | fragment r =>
      cases hmessage : r.message.isEmpty with
      | true => rwa [step_fragment_of_isEmpty hmessage]
      | false => exact step_fragment hr hmessage ▸ h.turn r

theorem foldl_step (h : c.Tells answers) (items : List Inbound) :
    (items.foldl (SessionCourse.step setup answers) c).Tells answers := by
  induction items generalizing c with
  | nil => exact h
  | cons item items ih => exact ih (h.step item)

end Tells

/-- What the chunks of a course say of the ends of its calls. -/
theorem tells_of (items : List Inbound) : (of setup answers items).Tells answers :=
  Tells.foldl_step ⟨by simp, rfl⟩ items

end SessionCourse

/-! ### Sessions -/

namespace Service

variable {received : Nat → List Inbound} {s : Service} {i k : Nat} {chunk : Response}

/-- What the calls of a client have done so far, but for one turn, whose call ends so. -/
def outcomesBut (s : Service) (i k : Nat) (e : Ending) : Nat → GenerateCall → CallScript :=
  fun j call => if j = k then { s.outcomes i j call with ending := e } else s.outcomes i j call

/-- A call that has not ended can end in any way. -/
theorem IsReachable.answered_outcomesBut (h : s.IsReachable)
    (hopen : ∀ u ∈ s.accelerator.units, u.owner = (i, k + 1) → u.ending = none) (e : Ending) :
    s.Answered i (s.outcomesBut i k e) := by
  intro u hu j howner
  have hfits := h.answered_outcomes i u hu j howner
  by_cases hjk : j = k
  · subst hjk
    rw [outcomesBut, if_pos rfl]
    refine ⟨hfits.emitted_isPrefix, fun he => ?_⟩
    rw [hopen u hu howner] at he
    cases he
  · rwa [outcomesBut, if_neg hjk]

/-- What a session has sent follows the courses over all answers that are right for its calls. -/
theorem Run.sentTo_isPrefix (r : Run received s) {answers : Nat → GenerateCall → CallScript}
    (ha : s.Answered i answers) :
    s.sentTo i <+: (SessionCourse.of s.setup answers (received i)).chunks := by
  cases hc : s.clients[i]? with
  | some c =>
    rw [sentTo_eq hc]
    exact ((r.follows i ha).follows c hc).sent_isPrefix
  | none =>
    have hnil : s.sentTo i = [] := by simp [sentTo, hc]
    exact hnil ▸ List.nil_prefix

/-- The error of the last chunk of a turn has the words of the end of its call, whatever answers are
right for the calls of the session. -/
theorem Run.error_eq (r : Run received s) {answers : Nat → GenerateCall → CallScript}
    (ha : s.Answered i answers)
    (hk : ((s.sentTo i).filter (·.isFinished))[k]? = some chunk) :
    ∃ call, chunk.error = (answers k call).ending.words := by
  obtain ⟨hlt, hchunk⟩ := List.getElem?_eq_some_iff.1 hk
  have hcourse := List.prefix_iff_getElem?.1 ((r.sentTo_isPrefix ha).filter (·.isFinished)) k hlt
  rw [hchunk] at hcourse
  have htells : (SessionCourse.of s.setup answers (received i)).Tells answers :=
    SessionCourse.tells_of _
  have herror := congrArg (·[k]?) htells.errors_eq
  rw [List.getElem?_map, hcourse, List.getElem?_mapIdx] at herror
  obtain ⟨call, -, hwords⟩ := Option.map_eq_some_iff.1 herror.symm
  exact ⟨call, hwords.symm⟩

/-- A turn whose last chunk has been sent has a call that has ended, and the chunk has the words of
its end. -/
theorem IsReachable.exists_ended (h : s.IsReachable)
    (hk : ((s.sentTo i).filter (·.isFinished))[k]? = some chunk) :
    ∃ u ending, s.accelerator.unit? (i, k + 1) = some u ∧ u.ending = some ending ∧
      chunk.error = ending.words := by
  obtain ⟨received, r⟩ := h.exists_run
  by_cases hended : ∃ u ∈ s.accelerator.units, u.owner = (i, k + 1) ∧ u.ending ≠ none
  · obtain ⟨u, hu, howner, hne⟩ := hended
    obtain ⟨ending, he⟩ := Option.ne_none_iff_exists'.1 hne
    have hunit := Accelerator.unit?_eq_some h.orderly.nodup_owners hu
    rw [howner] at hunit
    obtain ⟨call, herror⟩ := r.error_eq (h.answered_outcomes i) hk
    rw [outcomes, hunit] at herror
    have hending : u.outcome.ending = ending := by rw [GenerationUnit.outcome, he, Option.getD_some]
    exact ⟨u, ending, hunit, he, hending ▸ herror⟩
  · -- The chunk would have the words of a success and of a breakdown.
    have hopen : ∀ u ∈ s.accelerator.units, u.owner = (i, k + 1) → u.ending = none :=
      fun u hu howner => Classical.byContradiction fun hne => hended ⟨u, hu, howner, hne⟩
    have hwords : ∀ e : Ending, chunk.error = e.words := by
      intro e
      obtain ⟨call, herror⟩ := r.error_eq (h.answered_outcomesBut hopen e) hk
      rwa [outcomesBut, if_pos rfl] at herror
    have hne := (hwords .success).symm.trans (hwords .breakdown)
    exact absurd hne (by decide)

/-- **The last chunk of a turn tells whether the turn has failed, if the failure has words.** At
every moment of every run, the chunks that a session has sent have no error but for the last chunks
of turns, and the last chunk of its `k`-th turn has the words of the end of the call of that turn,
which has ended. So it has an error exactly if the call has failed, whether the engine broke down or
returned a failure of any kind, unless it is a failure of the generation without a reason. -/
theorem last_chunk_tells (h : s.IsReachable) (i : Nat) :
    (∀ chunk ∈ s.sentTo i, chunk.isFinished = false → chunk.error = "") ∧
    ∀ k chunk, ((s.sentTo i).filter (·.isFinished))[k]? = some chunk →
      ∃ u ending, s.accelerator.unit? (i, k + 1) = some u ∧ u.ending = some ending ∧
        chunk.error = ending.words ∧
        (chunk.error ≠ "" ↔ ending ≠ .success ∧ ending ≠ .failure (.generation "")) := by
  refine ⟨fun chunk hmem hf => ?_, fun k chunk hk => ?_⟩
  · obtain ⟨received, r⟩ := h.exists_run
    have htells : (SessionCourse.of s.setup (s.outcomes i) (received i)).Tells (s.outcomes i) :=
      SessionCourse.tells_of _
    exact htells.error_eq chunk ((r.sentTo_isPrefix (h.answered_outcomes i)).subset hmem) hf
  · obtain ⟨u, ending, hunit, he, herror⟩ := h.exists_ended hk
    refine ⟨u, ending, hunit, he, herror, ?_⟩
    rw [herror, Ne, Ending.words_eq_empty_iff, not_or]

/-- A client sends one fragment, and the engine ends its call at once. -/
def briefTurn : List Event :=
  [.act (.enter true), .act (.send 0 (.fragment { message := "one" })),
    .step (.admission 0), .step (.session 0), .step (.session 0), .step (.session 0),
    .step (.unit 0), .step (.unit 0), .step (.session 0), .step (.session 0)]

/-- The service in which the engine does so. -/
def briefStage (ending : Ending) : Service :=
  { pool := .ofLimit 1, accelerator := { engine := { conduct := .scripted [⟨[], ending⟩] } } }

theorem isReachable_of_briefTurn {ending : Ending} {s : Service}
    (hr : (briefStage ending).replay? briefTurn = some s) : s.IsReachable := by
  have hstart : create? {} { conduct := .scripted [⟨[], ending⟩] } 1 = .ok (briefStage ending) :=
    rfl
  exact (IsReachable.start hstart).replay hr

/-- The engine breaks down. -/
def brokenDown : Service :=
  ((briefStage .breakdown).replay? briefTurn).get (by decide +kernel)

/-- The last chunk of a turn in which the engine broke down has an error. -/
theorem last_chunk_tells_of_breakdown :
    brokenDown.IsReachable ∧
      brokenDown.sentTo 0 = [.failed "generation thread panicked" 0] ∧
      ∃ u ending, brokenDown.accelerator.unit? (0, 1) = some u ∧ u.ending = some ending ∧
        ending ≠ .success ∧ ending ≠ .failure (.generation "") := by
  have hreach : brokenDown.IsReachable := isReachable_of_briefTurn (Option.some_get _).symm
  have hsent : brokenDown.sentTo 0 = [.failed "generation thread panicked" 0] := by decide +kernel
  obtain ⟨-, htells⟩ := last_chunk_tells hreach 0
  obtain ⟨u, ending, hunit, he, -, hiff⟩ :=
    htells 0 (.failed "generation thread panicked" 0) (by rw [hsent]; rfl)
  exact ⟨hreach, hsent, u, ending, hunit, he, hiff.1 (by decide)⟩

/-- The engine fails and gives no reason. -/
def wordless : Service :=
  ((briefStage (.failure (.generation ""))).replay? briefTurn).get (by decide +kernel)

/-- **A turn that fails without a word looks as if it had ended well.** -/
theorem last_chunk_of_wordless :
    wordless.IsReachable ∧
      wordless.sentTo 0 = [.finished 0] ∧
      (wordless.accelerator.unit? (0, 1)).bind (·.ending) = some (.failure (.generation "")) ∧
      ¬ ∀ s : Service, s.IsReachable → ∀ i k chunk,
        ((s.sentTo i).filter (·.isFinished))[k]? = some chunk →
        ∀ u ending, s.accelerator.unit? (i, k + 1) = some u → u.ending = some ending →
          (chunk.error ≠ "" ↔ ending ≠ .success) := by
  have hreach : wordless.IsReachable := isReachable_of_briefTurn (Option.some_get _).symm
  have hsent : wordless.sentTo 0 = [.finished 0] := by decide +kernel
  have hended : (wordless.accelerator.unit? (0, 1)).bind (·.ending) =
      some (.failure (.generation "")) := by decide +kernel
  refine ⟨hreach, hsent, hended, fun hclaim => ?_⟩
  obtain ⟨u, hunit, he⟩ := Option.bind_eq_some_iff.1 hended
  exact (hclaim wordless hreach 0 0 (.finished 0) (by rw [hsent]; rfl) u _ hunit he).2 nofun rfl

end Service

end StreamedInference
