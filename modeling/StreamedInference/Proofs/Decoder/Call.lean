import StreamedInference.Proofs.Decoder.Course

/-!
# What a generate call turns into text

A prompt must leave room in the context, and the library must evaluate it. Behind it, the call turns
the longest run of tokens into text that the model, the wanted number and the context allow, unless
it is cut short; each token is evaluated in a batch of its own, at the next position.

## Main definitions

* `Decoding.promptFault?`: how the library fails at a prompt.
* `Decoding.EndsWanted`: a batch of which only what may follow the last token is wanted.

## Main results

* `Decoding.afterTokens_of_none`: a call goes on behind its prompt.
* `Decoding.turns_longest_prefix`: what a call turns into text, and what it evaluates.
-/

namespace StreamedInference

namespace Decoding

variable {r : Reckoning} {b : Backend} {size : Nat} {attached : Nat → Bool} {first wanted n : Nat}

/-! ### The prompt -/

/-- How the library fails at the batch of a prompt, if it does. -/
def promptFault? (b : Backend) (count : Nat) : Option Ending :=
  match addFault? b count with
  | some e => some (failed "batch" e)
  | none =>
    match b.decode 0 with
    | .error e => some (failed "decode prompt" e)
    | .ok () => none

variable {p : Sampling} {tokens : List Token}

theorem afterTokens_of_le (h : size ≤ tokens.length) :
    afterTokens r b size attached p tokens = ([], tooLong tokens.length size) := by
  rw [afterTokens, if_pos h]

/-- If the library fails at the prompt, the call fails, with the batch evaluated or not. -/
theorem afterTokens_of_promptFault (r : Reckoning) (attached : Nat → Bool) (p : Sampling)
    (hne : tokens ≠ []) (h : tokens.length < size) {fault : Ending}
    (hf : promptFault? b tokens.length = some fault) :
    ∃ evaluated, (evaluated = [] ∨ evaluated = [.called (.decode (promptBatch r tokens))]) ∧
      afterTokens r b size attached p tokens = (.called (.newBatch size) :: evaluated, fault) := by
  have hsome : tokens.isEmpty = false := by simpa using hne
  rw [afterTokens, if_neg (Nat.not_le_of_lt h), if_neg (by simp [hsome])]
  unfold promptFault? at hf
  cases hadd : addFault? b tokens.length with
  | some e =>
    rw [hadd] at hf
    obtain rfl := Option.some.inj hf
    exact ⟨[], .inl rfl, rfl⟩
  | none =>
    cases hdecode : b.decode 0 with
    | error e =>
      rw [hadd, hdecode] at hf
      obtain rfl := Option.some.inj hf
      exact ⟨_, .inr rfl, rfl⟩
    | ok => simp [hadd, hdecode] at hf

/-- Where a call stands behind its prompt. -/
def start (r : Reckoning) (first : Nat) : DecodingState where
  position := r.position first
  entries := first
  added := first

theorem start_eq_behind (hr : r.IsFaithful) (hhas : r.Has first) :
    start r first = behind b first 0 := by
  rw [start, hr.position_eq hhas]
  rfl

/-- If the prompt is evaluated, the call goes on behind it. -/
theorem afterTokens_of_none (r : Reckoning) (attached : Nat → Bool) (p : Sampling)
    (hne : tokens ≠ []) (h : tokens.length < size)
    (hf : promptFault? b tokens.length = none) :
    afterTokens r b size attached p tokens =
      (.called (.newBatch size) :: .called (.decode (promptBatch r tokens)) ::
          .called (.buildSampler (samplerStages p)) ::
          (loop r b size attached p.maxNewTokens.toNat (start r tokens.length)).1,
        (loop r b size attached p.maxNewTokens.toNat (start r tokens.length)).2) := by
  have hsome : tokens.isEmpty = false := by simpa using hne
  rw [afterTokens, if_neg (Nat.not_le_of_lt h), if_neg (by simp [hsome])]
  unfold promptFault? at hf
  cases hadd : addFault? b tokens.length with
  | some e => simp [hadd] at hf
  | none =>
    cases hdecode : b.decode 0 with
    | error e => simp [hadd, hdecode] at hf
    | ok => rfl

/-- The events of a call whose prompt is evaluated, turn by turn. -/
theorem exists_stops_afterTokens (b : Backend) (attached : Nat → Bool) (p : Sampling)
    (hne : tokens ≠ []) (hlt : tokens.length < size) (hf : promptFault? b tokens.length = none) :
    ∃ n tail ending,
      (∀ i < n, Passes b attached tokens.length i ∧ tokens.length + i < size) ∧
      Stops .exact b size attached tokens.length p.maxNewTokens.toNat n tail ending ∧
      afterTokens .exact b size attached p tokens =
        (.called (.newBatch size) :: .called (.decode (promptBatch .exact tokens)) ::
          .called (.buildSampler (samplerStages p)) :: (turns b tokens.length n ++ tail),
          ending) := by
  have hfirst : 1 ≤ tokens.length := List.length_pos_iff.mpr hne
  have hhas : Reckoning.exact.Has tokens.length := Reckoning.has_exact _
  obtain ⟨n, tail, hpasses, -, hstops, hevents⟩ :=
    exists_stops b size attached p.maxNewTokens.toNat Reckoning.isFaithful_exact hfirst hhas
  refine ⟨n, tail, _, hpasses, hstops, ?_⟩
  rw [afterTokens_of_none .exact attached p hne hlt hf,
    start_eq_behind Reckoning.isFaithful_exact hhas, hevents]

/-- Only what may follow the last token of a batch is wanted. -/
def EndsWanted (batch : List BatchEntry) : Prop :=
  ∃ front last, batch = front ++ [last] ∧ last.wanted = true ∧ ∀ e ∈ front, e.wanted = false

theorem endsWanted_promptBatch (r : Reckoning) (hne : tokens ≠ []) :
    EndsWanted (promptBatch r tokens) := by
  obtain ⟨front, last, rfl⟩ := (List.eq_nil_or_concat tokens).resolve_left hne
  rw [promptBatch, List.concat_eq_append, List.zipIdx_append, List.map_append]
  refine ⟨_, _, rfl, by simp, fun e he => ?_⟩
  obtain ⟨⟨t, i⟩, ht, rfl⟩ := List.mem_map.mp he
  have hlt := List.snd_lt_of_mem_zipIdx ht
  simp
  omega

theorem length_promptBatch (r : Reckoning) (tokens : List Token) :
    (promptBatch r tokens).length = tokens.length := by
  simp [promptBatch]

/-- The tokens of a prompt are at the positions of the first numbers. -/
theorem map_position_promptBatch (r : Reckoning) :
    (promptBatch r tokens).map BatchEntry.position =
      (List.range tokens.length).map r.position := by
  have hplaces : tokens.zipIdx.map Prod.snd = List.range tokens.length := by
    rw [List.zipIdx_map_snd, List.range_eq_range']
  rw [promptBatch, List.map_map, ← hplaces, List.map_map]
  rfl

theorem map_token_promptBatch (r : Reckoning) :
    (promptBatch r tokens).map BatchEntry.token = tokens := by
  rw [promptBatch, List.map_map]
  exact List.zipIdx_map_fst 0 tokens

/-! ### Endings and notes -/

/-- A failure of the library is none of a prompt that is too long. -/
theorem failed_ne_tooLong {what : String} {c : Char} (hwhat : what.toList.head? = some c)
    (hc : c ≠ 'p') (reason : String) (count : Nat) : failed what reason ≠ tooLong count size := by
  intro h
  have htext := Failure.generation.inj (Ending.failure.inj h)
  have hhead := congrArg (fun s => s.toList.head?) htext
  simp [String.toList_append, List.head?_append, hwhat, hc] at hhead

theorem success_ne_tooLong (count : Nat) : .success ≠ tooLong count size := by
  simp [tooLong]

theorem exists_failed_of_promptFault {fault : Ending} (h : promptFault? b n = some fault) :
    ∃ what reason, (what = "batch" ∨ what = "decode prompt") ∧ fault = failed what reason := by
  unfold promptFault? at h
  split at h
  · exact ⟨_, _, .inl rfl, (Option.some.inj h).symm⟩
  · split at h
    · exact ⟨_, _, .inr rfl, (Option.some.inj h).symm⟩
    · cases h

theorem ne_tooLong_of_promptFault {fault : Ending} (h : promptFault? b n = some fault)
    (count : Nat) : fault ≠ tooLong count size := by
  obtain ⟨what, reason, rfl | rfl, rfl⟩ := exists_failed_of_promptFault h
  all_goals exact failed_ne_tooLong rfl (by decide) _ count

theorem Cut.ne_tooLong {turned : Nat} {ending : Ending}
    (h : Cut b attached first n turned ending) (count : Nat) : ending ≠ tooLong count size := by
  cases h with
  | unheard => exact success_ne_tooLong count
  | unspelt | unadded | undecoded => exact failed_ne_tooLong rfl (by decide) _ count

theorem Outcome.ne_tooLong {longest sampled : Nat} {texts : List String} {ending : Ending}
    (h : Outcome b size attached first wanted longest texts sampled ending) (count : Nat) :
    ending ≠ tooLong count size := by
  cases h with
  | finished => exact success_ne_tooLong count
  | cut _ _ hcut => exact hcut.ne_tooLong count

theorem noted_not_mem_turns (event : LogEvent) : .noted event ∉ turns b first n := by
  simp [turns, turn, utterance, sampling, evaluation]

theorem fullEvent_ne_detachedEvent (position : Int) : fullEvent position ≠ detachedEvent := by
  intro h
  have hletter := congrArg (fun e => e.message.toList[3]?) h
  simp [fullEvent, detachedEvent, String.toList_append] at hletter

/-- Nothing happens behind a fragment that has found its consumer gone. -/
theorem detached_last {tail : List DecodingEvent} {ending : Ending}
    (hstops : Stops r b size attached first wanted n tail ending)
    (h : .noted detachedEvent ∈ tail) :
    ∃ front text, tail = front ++ [.emitted text, .noted detachedEvent] := by
  cases hstops with
  | wanted => simp at h
  | turned hn hturn =>
    cases hturn with
    | full => simp [(fullEvent_ne_detachedEvent _).symm] at h
    | unheard _ _ _ _ => exact ⟨[sampling first n], _, rfl⟩
    | _ => simp [turn, utterance, sampling, evaluation] at h

/-! ### Batches -/

/-- Batches by which tokens are evaluated one after the other, first those of a prompt and then
those sampled: at the positions from the first one on, as far as a context reaches. -/
structure EvaluatesInOrder (b : Backend) (size : Nat) (tokens : List Token)
    (batches : List (List BatchEntry)) : Prop where
  positions : batches.flatten.map BatchEntry.position =
    (List.range batches.flatten.length).map Nat.cast
  fits : batches.flatten.length ≤ size
  tokens : ∃ k, batches.flatten.map BatchEntry.token <+: tokens ++ (List.range k).map b.sample
  capacity : ∀ batch ∈ batches, batch.length ≤ size
  wanted : ∀ batch ∈ batches, EndsWanted batch

theorem evaluatesInOrder_nil (b : Backend) (size : Nat) (tokens : List Token) :
    EvaluatesInOrder b size tokens [] where
  positions := rfl
  fits := Nat.zero_le size
  tokens := ⟨0, List.nil_prefix⟩
  capacity := by simp
  wanted := by simp

/-- The batch of a prompt, and then one batch for each sampled token. -/
theorem evaluatesInOrder_cons (hne : tokens ≠ []) {k : Nat} (hfits : tokens.length + k ≤ size) :
    EvaluatesInOrder b size tokens
      (promptBatch .exact tokens ::
        (List.range k).map fun i => [⟨b.sample i, (tokens.length + i : Nat), true⟩]) := by
  have hflatten : (promptBatch .exact tokens :: (List.range k).map fun i =>
      [(⟨b.sample i, (tokens.length + i : Nat), true⟩ : BatchEntry)]).flatten =
        promptBatch .exact tokens ++
          (List.range k).map fun i => ⟨b.sample i, (tokens.length + i : Nat), true⟩ := by
    rw [List.flatten_cons, ← List.flatMap_def, ← List.map_eq_flatMap]
  have hlength := length_promptBatch .exact tokens
  have hpos : 0 < tokens.length := List.length_pos_iff.mpr hne
  constructor
  · rw [hflatten, List.map_append, map_position_promptBatch, List.length_append, hlength,
      List.length_map, List.length_range, List.range_add, List.map_append, List.map_map,
      List.map_map]
    rfl
  · rwa [hflatten, List.length_append, hlength, List.length_map, List.length_range]
  · refine ⟨k, ?_⟩
    rw [hflatten, List.map_append, map_token_promptBatch, List.map_map]
    exact List.prefix_rfl
  · intro batch hbatch
    rcases List.mem_cons.mp hbatch with rfl | hbatch
    · omega
    · obtain ⟨i, -, rfl⟩ := List.mem_map.mp hbatch
      rw [List.length_singleton]
      omega
  · intro batch hbatch
    rcases List.mem_cons.mp hbatch with rfl | hbatch
    · exact endsWanted_promptBatch .exact hne
    · obtain ⟨i, -, rfl⟩ := List.mem_map.mp hbatch
      exact ⟨[], _, rfl, rfl, by simp⟩

/-- Whatever becomes of a call, its tokens are evaluated in order. -/
theorem evaluatesInOrder_afterTokens (b : Backend) (size : Nat) (attached : Nat → Bool)
    (p : Sampling) (hne : tokens ≠ []) :
    EvaluatesInOrder b size tokens
      (batches (afterTokens .exact b size attached p tokens).1) := by
  rcases Nat.lt_or_ge tokens.length size with hlt | hle
  · cases hf : promptFault? b tokens.length with
    | some fault =>
      obtain ⟨evaluated, rfl | rfl, heq⟩ :=
        afterTokens_of_promptFault .exact attached p hne hlt hf
      · rw [heq]
        exact evaluatesInOrder_nil b size tokens
      · rw [heq]
        exact evaluatesInOrder_cons (k := 0) hne hlt.le
    | none =>
      obtain ⟨n, tail, ending, hpasses, hstops, heq⟩ :=
        exists_stops_afterTokens b attached p hne hlt hf
      obtain ⟨k, hfits, hbatches⟩ := exists_batches_of_stops hlt.le hpasses hstops
      rw [heq]
      have hcons := evaluatesInOrder_cons (b := b) hne hfits
      rw [← hbatches] at hcons
      exact hcons
  · rw [afterTokens_of_le hle]
    exact evaluatesInOrder_nil b size tokens

/-! ### The whole call -/

theorem inContext_of_error {call : GenerateCall} {e : String}
    (he : b.tokenize call.prompt = .error e) :
    inContext r b size attached call =
      ([.called (.tokenize call.prompt.utf8ByteSize)], failed "tokenize" e) := by
  simp only [inContext, he]

theorem inContext_of_ok {call : GenerateCall} (ht : b.tokenize call.prompt = .ok tokens) :
    inContext r b size attached call =
      (.called (.tokenize call.prompt.utf8ByteSize) ::
          (afterTokens r b size attached call.sampling tokens).1,
        (afterTokens r b size attached call.sampling tokens).2) := by
  simp only [inContext, ht]

/-- Behind its prompt a call comes to what its outcome says, and ends with the fragment that finds
its consumer gone, if one does. -/
theorem outcome_afterTokens (b : Backend) (attached : Nat → Bool) (p : Sampling) (hne : tokens ≠ [])
    (hlt : tokens.length < size) (hf : promptFault? b tokens.length = none) {longest : Nat}
    (hl : IsGreatest {n | IsUsable b size tokens.length p.maxNewTokens.toNat n} longest) :
    let run := afterTokens .exact b size attached p tokens
    Outcome b size attached tokens.length p.maxNewTokens.toNat longest (fragments run.1)
        (samples run.1).length run.2 ∧
      (.noted detachedEvent ∈ run.1 →
        ∃ front text, run.1 = front ++ [.emitted text, .noted detachedEvent]) := by
  obtain ⟨n, tail, ending, hpasses, hstops, heq⟩ :=
    exists_stops_afterTokens b attached p hne hlt hf
  intro run
  have hrun : run = _ := heq
  rw [hrun]
  refine ⟨outcome_of_stops hlt.le hl hpasses hstops, fun hgone => ?_⟩
  have htail : .noted detachedEvent ∈ tail := by
    simpa [noted_not_mem_turns] using hgone
  obtain ⟨front, text, rfl⟩ := detached_last hstops htail
  exact ⟨.called (.newBatch size) :: .called (.decode (promptBatch .exact tokens)) ::
    .called (.buildSampler (samplerStages p)) :: (turns b tokens.length n ++ front), text, by simp⟩

/-- A call fails because its prompt is too long exactly if the prompt leaves no room. -/
theorem afterTokens_eq_tooLong_iff (b : Backend) (size : Nat) (attached : Nat → Bool) (p : Sampling)
    (hne : tokens ≠ []) :
    (afterTokens .exact b size attached p tokens).2 = tooLong tokens.length size ↔
      size ≤ tokens.length := by
  refine ⟨fun h => Nat.le_of_not_lt fun hlt => ?_, fun h => by rw [afterTokens_of_le h]⟩
  cases hf : promptFault? b tokens.length with
  | some fault =>
    obtain ⟨_, -, heq⟩ := afterTokens_of_promptFault .exact attached p hne hlt hf
    rw [heq] at h
    exact ne_tooLong_of_promptFault hf _ h
  | none =>
    obtain ⟨longest, hl⟩ := exists_longest b p.maxNewTokens.toNat hlt.le
    obtain ⟨hout, -⟩ := outcome_afterTokens b attached p hne hlt hf hl
    exact hout.ne_tooLong _ h

/-- **What a call turns into text.** Let a call, reckoned exactly, have a prompt with some tokens,
or one that the library fails to cut into tokens.

* In the latter case the call fails, and nothing is evaluated, sampled or emitted.
* The prompt is rejected exactly if it has as many tokens as the context or more, and then nothing
  is evaluated, sampled or emitted.
* Otherwise the call fails if the library fails at the prompt; and if it does not, the longest run
  of tokens is turned into text that has no token which ends what the model has to say, is not
  longer than wanted and fits into the context behind the prompt, unless it is cut short by a
  failure of the library or a fragment that finds the consumer gone.
* Nothing happens behind such a fragment.
* The tokens of the prompt and then the sampled ones are evaluated at the positions from the first
  one on within the context. No batch is empty or larger than the context, and what may follow is
  wanted of its last entry alone. -/
theorem turns_longest_prefix (b : Backend) (size : Nat) (attached : Nat → Bool)
    (call : GenerateCall) (hprompt : b.tokenize call.prompt ≠ .ok []) :
    let run := inContext .exact b size attached call
    let wanted := call.sampling.maxNewTokens.toNat
    (∀ e, b.tokenize call.prompt = .error e →
      run.2 = failed "tokenize" e ∧ batches run.1 = [] ∧ samples run.1 = [] ∧
        fragments run.1 = []) ∧
    ∀ tokens, b.tokenize call.prompt = .ok tokens →
      (run.2 = tooLong tokens.length size ↔ size ≤ tokens.length) ∧
      (size ≤ tokens.length → batches run.1 = [] ∧ samples run.1 = [] ∧ fragments run.1 = []) ∧
      (tokens.length < size →
        (∀ fault, promptFault? b tokens.length = some fault →
          run.2 = fault ∧ samples run.1 = [] ∧ fragments run.1 = []) ∧
        (promptFault? b tokens.length = none → ∃ longest,
          IsGreatest {n | IsUsable b size tokens.length wanted n} longest ∧
          Outcome b size attached tokens.length wanted longest (fragments run.1)
            (samples run.1).length run.2 ∧
          (.noted detachedEvent ∈ run.1 →
            ∃ front text, run.1 = front ++ [.emitted text, .noted detachedEvent]))) ∧
      EvaluatesInOrder b size tokens (batches run.1) := by
  intro run wanted
  refine ⟨fun e he => ?_, fun tokens htokens => ?_⟩
  · have hrun : run = _ := inContext_of_error he
    rw [hrun]
    exact ⟨rfl, rfl, rfl, rfl⟩
  have hne : tokens ≠ [] := by
    rintro rfl
    exact hprompt htokens
  have hrun : run = _ := inContext_of_ok htokens
  rw [hrun]
  refine ⟨afterTokens_eq_tooLong_iff b size attached call.sampling hne, fun hle => ?_,
    fun hlt => ⟨fun fault hf => ?_, fun hf => ?_⟩,
    evaluatesInOrder_afterTokens b size attached call.sampling hne⟩
  · rw [afterTokens_of_le hle]
    exact ⟨rfl, rfl, rfl⟩
  · obtain ⟨evaluated, rfl | rfl, heq⟩ :=
      afterTokens_of_promptFault .exact attached call.sampling hne hlt hf
    all_goals
      rw [heq]
      exact ⟨rfl, rfl, rfl⟩
  · obtain ⟨longest, hl⟩ := exists_longest b wanted hlt.le
    obtain ⟨hout, hlast⟩ := outcome_afterTokens b attached call.sampling hne hlt hf hl
    refine ⟨longest, hl, hout, fun hgone => ?_⟩
    obtain ⟨front, text, heq⟩ := hlast (by simpa using hgone)
    exact ⟨.called (.tokenize call.prompt.utf8ByteSize) :: front, text, by rw [heq]; rfl⟩

/-- A library that never fails. It cuts every prompt into the same tokens, and the `n`-th token that
it samples has the `n`-th of some pieces of bytes; the model has no more to say where there is
none. -/
def steady (prompt : List Token) (said : Nat → Option (List UInt8)) : Backend where
  start := .ok ()
  load := .ok ()
  parameters := 1
  template := .error "none"
  openContext := .ok ()
  tokenize _ := .ok prompt
  add _ := .ok ()
  decode _ := .ok ()
  sample n := n
  isEnd t := (said t).isNone
  bytes _ t := .ok ((said t).getD [])

/-- Two tokens of a prompt leave room for three in a context of five: the bytes of a snowman. -/
theorem turns_longest_prefix_of_snowman :
    let b := steady [7, 8] fun n => [[0xe2], [0x98], [0x83], [0x21]][n]?
    let run := inContext .exact b 5 (fun _ => true) ⟨"hi", {}⟩
    b.tokenize "hi" ≠ .ok [] ∧
      (∃ longest, IsGreatest {n | IsUsable b 5 2 100 n} longest ∧
        Outcome b 5 (fun _ => true) 2 100 longest (fragments run.1) (samples run.1).length run.2) ∧
      fragments run.1 = ["☃"] ∧ run.2 = .success := by
  intro b run
  have hprompt : b.tokenize "hi" ≠ .ok [] := by simp [b, steady]
  have hrun : fragments run.1 = ["☃"] ∧ run.2 = .success := by decide +kernel
  obtain ⟨-, hcall⟩ := turns_longest_prefix b 5 (fun _ => true) ⟨"hi", {}⟩ hprompt
  obtain ⟨-, -, hroom, -⟩ := hcall [7, 8] rfl
  obtain ⟨-, hbehind⟩ := hroom (by decide)
  obtain ⟨longest, hl, hout, -⟩ := hbehind rfl
  exact ⟨hprompt, ⟨longest, hl, hout⟩, hrun⟩

end Decoding

end StreamedInference
