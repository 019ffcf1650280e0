import StreamedInference.Proofs.Conversation.Extension
import StreamedInference.Proofs.Service.Sampling

/-!
# What the prompts of a session are made of

The prompt of a turn is made of all fragments of its client up to the turn's own. While these make a
conversation the prompt has its turns; as soon as something else than white space comes behind it,
they are one utterance, at that turn and at every later one.

## Main definitions

* `SessionCourse.textUpTo`: the fragments up to one, as one text.
* `Service.HasCall`: a call of a client's turn.

## Main results

* `Service.Run.prompt_of_hasCall`: the prompt of every turn in any run.
* `Service.continues_as_text`: a conversation with something behind it, as a text and in any run.
-/

namespace StreamedInference

open Json (AreSpaces)

namespace Session

variable {as bs : List String}

theorem rawText_append : rawText (as ++ bs) = rawText as ++ rawText bs :=
  List.flatMap_append

/-- One text with something else than white space is enough. -/
theorem not_areSpaces_rawText {t : String} (ht : t ∈ as) (h : ¬AreSpaces t.toList) :
    ¬AreSpaces (rawText as) :=
  fun hall => h fun c hc => hall c (List.mem_flatMap.2 ⟨t, ht, hc⟩)

end Session

namespace SessionCourse

variable {rs : List Request} {j k m : Nat} {r : Request}

/-- The fragments up to the one at place `k`, as one text. -/
def textUpTo (rs : List Request) (k : Nat) : List Char :=
  Session.rawText ((rs.take (k + 1)).map (·.message))

/-- Between two fragments comes what the later ones say. -/
theorem textUpTo_eq_append (hjk : j ≤ k) :
    textUpTo rs k =
      textUpTo rs j ++ Session.rawText (((rs.take (k + 1)).drop (j + 1)).map (·.message)) := by
  have htake : (rs.take (k + 1)).take (j + 1) = rs.take (j + 1) := by
    rw [List.take_take, Nat.min_eq_left (Nat.succ_le_succ hjk)]
  rw [textUpTo, textUpTo, ← Session.rawText_append, ← List.map_append, ← htake,
    List.take_append_drop]

/-- A fragment behind place `j` and up to place `k` is among those that come between. -/
theorem mem_drop_take (hjm : j < m) (hmk : m ≤ k) (hm : rs[m]? = some r) :
    r ∈ (rs.take (k + 1)).drop (j + 1) := by
  refine List.mem_of_getElem? (i := m - (j + 1)) ?_
  rw [List.getElem?_drop, Nat.add_sub_cancel' hjm, List.getElem?_take_of_lt (Nat.lt_succ_of_le hmk),
    hm]

end SessionCourse

namespace Service

variable {setup : SessionSetup} {answers : Nat → GenerateCall → CallScript} {i k : Nat}
  {a : Accelerator TurnName} {items : List Inbound} {received : Nat → List Inbound}
  {session : Session} {s : Service} {call : GenerateCall}

/-- The turn of a client with the number `k` has a call: it has been made, or waits for the gate. -/
def HasCall (s : Service) (i k : Nat) (call : GenerateCall) : Prop :=
  (s.accelerator.callsOf i)[k]? = some call ∨
    ∃ c, s.clients[i]? = some c ∧ c.session.phase = .queued call ∧ c.session.turns = k + 1

/-- The call that waits for the gate is the next one of the course. -/
theorem Follows.getElem?_calls_of_queued (h : Follows setup answers i a items session)
    (hp : session.phase = .queued call) (hk : session.turns = k + 1) :
    (SessionCourse.of setup answers items).calls[k]? = some call := by
  cases h with
  | queued done r hp' hrec hu hcalls hsent htok =>
    obtain rfl := SessionPhase.queued.inj (hp.symm.trans hp')
    obtain rfl : (SessionCourse.of setup answers done).calls.length = k :=
      Nat.succ.inj (hu.turns_eq.symm.trans hk)
    -- The fragment of the turn is the next item of the course, and the rest only adds to it.
    have hextends : (SessionCourse.of setup answers (done ++ [.fragment r])).Extends
        (SessionCourse.of setup answers (done ++ [.fragment r] ++ session.inbound)) :=
      SessionCourse.extends_of_append _ _
    have hprefix := hextends.calls_isPrefix
    rw [of_concat_fragment hu, List.append_assoc, List.singleton_append, ← hrec] at hprefix
    refine (List.prefix_iff_getElem?.1 hprefix _ ?_).trans ?_
    · simp [SessionCourse.turn]
    · simp [SessionCourse.turn]
  | between _ hp' => simp [hp] at hp'
  | listening _ _ hp' | sending _ _ hp' | ending _ _ hp' => simp [hp] at hp'
  | closed _ hp' | cut _ hp' => simp [hp] at hp'

/-- The call of a turn is that of the fragment with the same number. -/
theorem Run.eq_numberedCall_of_hasCall (r : Run received s) (h : s.HasCall i k call) :
    ∃ fragment, (SessionCourse.requests (received i))[k]? = some fragment ∧
      call =
        SessionCourse.numberedCall s.setup (SessionCourse.requests (received i)) k fragment := by
  rcases h with h | ⟨c, hc, hp, hk⟩
  · exact r.call_of_callsOf h
  · have hfollows := (r.follows i (r.isReachable.answered_outcomes i)).follows c hc
    exact (SessionCourse.numbered_of (received i)).call_of k call
      (hfollows.getElem?_calls_of_queued hp hk)

/-- **The prompt of every turn** is that of the turns which all fragments up to its own make. -/
theorem Run.prompt_of_hasCall (r : Run received s) (h : s.HasCall i k call) :
    call.prompt = Prompt.rendered s.setup.template (Prompt.turns s.setup.systemPrompt
      (SessionCourse.textUpTo (SessionCourse.requests (received i)) k)) := by
  obtain ⟨fragment, -, rfl⟩ := r.eq_numberedCall_of_hasCall h
  exact Prompt.assemble_fst _ _ _

/-- **Behind a conversation only white space leaves a conversation.**

* Take any text that is a conversation. With white space behind it, it has the same turns; with
  anything else behind it, it is one utterance of the user, as it stands, behind instructions.
* Take any run of a service and any of its clients. If the fragments of this client up to one make a
  conversation, and a later one has something else than white space in it, then from that one on
  the prompt of every turn is made of instructions and of all fragments up to the turn's own, as one
  utterance of the user. -/
theorem continues_as_text :
    (∀ (systemPrompt : String) (raw t : List Char), Prompt.structured? raw ≠ none →
      (AreSpaces t → Prompt.turns systemPrompt (raw ++ t) = Prompt.turns systemPrompt raw) ∧
      (¬AreSpaces t → Prompt.turns systemPrompt (raw ++ t) =
        [⟨.system, systemPrompt⟩, ⟨.user, String.ofList (raw ++ t)⟩])) ∧
    ∀ {received : Nat → List Inbound} {s : Service}, Run received s →
      ∀ (i j m k : Nat) (fragment : Request) (call : GenerateCall), j < m → m ≤ k →
        Prompt.structured? (SessionCourse.textUpTo (SessionCourse.requests (received i)) j) ≠
          none →
        (SessionCourse.requests (received i))[m]? = some fragment →
        ¬AreSpaces fragment.message.toList → s.HasCall i k call →
        call.prompt = Prompt.rendered s.setup.template
          [⟨.system, s.setup.systemPrompt⟩, ⟨.user, String.ofList
            (SessionCourse.textUpTo (SessionCourse.requests (received i)) k)⟩] := by
  constructor
  · intro systemPrompt raw t hraw
    obtain ⟨ts, hts⟩ := Option.ne_none_iff_exists'.1 hraw
    exact ⟨Prompt.turns_append_of_areSpaces hts, Prompt.turns_append hts⟩
  · intro received s r i j m k fragment call hjm hmk htext hm hfragment hcall
    obtain ⟨ts, hts⟩ := Option.ne_none_iff_exists'.1 htext
    have hmem := SessionCourse.mem_drop_take hjm hmk hm
    have hbehind := Session.not_areSpaces_rawText (List.mem_map_of_mem hmem) hfragment
    rw [r.prompt_of_hasCall hcall,
      SessionCourse.textUpTo_eq_append (Nat.le_of_lt (Nat.lt_of_lt_of_le hjm hmk)),
      Prompt.turns_append hts hbehind]

/-- A conversation of one turn. -/
def greeting : String :=
  "[\x7b\"role\":\"user\",\"content\":\"hi\"\x7d]"

/-- A client sends a conversation, white space, and the same conversation once more. The calls of
the first two turns are answered, and the third turn waits for the gate. -/
def postscript : List Event :=
  let said (text : String) : Event := .act (.send 0 (.fragment { message := text }))
  let turn (n : Nat) : List Event :=
    [.step (.session 0), .step (.session 0), .step (.unit n), .step (.session 0),
      .step (.session 0), .step (.unit n), .step (.unit n), .step (.session 0), .step (.session 0)]
  [.act (.enter true), said greeting, said " \n", said greeting,
    .step (.admission 0), .step (.session 0)] ++ turn 0 ++ turn 1 ++ [.step (.session 0)]

/-- What it leads to. -/
def postscripted : Service :=
  (stage.replay? postscript).get (by decide +kernel)

/-- White space leaves the conversation as it was, and the second conversation is none behind the
first one. -/
theorem continues_as_text_of_postscript :
    Prompt.turns defaultSystemPrompt (greeting.toList ++ " \n".toList) =
      [⟨.system, defaultSystemPrompt⟩, ⟨.user, "hi"⟩] ∧
    ∃ received call, Run received postscripted ∧
      (SessionCourse.requests (received 0)).map (·.message) = [greeting, " \n", greeting] ∧
      postscripted.HasCall 0 2 call ∧
      call.prompt =
        "<|im_start|>system\nYou are a helpful AI assistant.<|im_end|>\n<|im_start|>user\n" ++
          greeting ++ " \n" ++ greeting ++ "<|im_end|>\n<|im_start|>assistant\n" := by
  have hstart : create? {} { conduct := .replay ["token"] none } 1 = .ok stage := rfl
  have hreplay : stage.replay? postscript = some postscripted := (Option.some_get _).symm
  have hrun := (Run.start hstart).replay hreplay
  have hwaits : (postscripted.clients[0]?).any (fun c =>
      c.session.phase.isQueued ∧ c.session.turns = 3) = true := by decide +kernel
  obtain ⟨c, hc, hp⟩ := (Option.any_eq_true _ _).1 hwaits
  obtain ⟨hqueued, hturns⟩ := of_decide_eq_true hp
  obtain ⟨call, hphase⟩ : ∃ call, c.session.phase = .queued call := by
    revert hqueued
    cases c.session.phase <;> simp [SessionPhase.isQueued]
  have hcall : postscripted.HasCall 0 2 call := .inr ⟨c, hc, hphase, hturns⟩
  obtain ⟨htext, hservice⟩ := continues_as_text
  have hsame := (htext defaultSystemPrompt greeting.toList " \n".toList (by decide)).1
    (by simp [AreSpaces, Json.isSpace])
  have hprompt := hservice hrun 0 0 2 2 { message := greeting } call (by decide) (by decide)
    (by decide +kernel) (by decide +kernel) (fun h => absurd (h '[') (by decide)) hcall
  exact ⟨hsame.trans (by decide), _, call, hrun, by decide +kernel, hcall,
    hprompt.trans (by decide +kernel)⟩

end Service

end StreamedInference
