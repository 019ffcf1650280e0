import Mathlib.Algebra.Group.Nat.Defs
import StreamedInference.Proofs.Decoder.Call
import StreamedInference.Settings.Configuration

/-!
# Positions of 32 bits

A call that does not break down is the one that is reckoned exactly, if there is a position for each
token of its prompt. It breaks down when it has evaluated a token at the greatest position and there
is none for the next one, which takes a context that is larger and as many wanted tokens. And every
call breaks down whose prompt has no tokens, since it looks for the last of them.

A prompt that goes beyond the greatest position is taken for one that fills the context.

## Main definitions

* `Decoding.Overruns`: a call that gets beyond the greatest position.

## Main results

* `Decoding.loop_eq_exact`: a call that does not break down behind its prompt.
* `Decoding.loop_eq_breakdown_iff`: when a call breaks down behind its prompt.
* `Decoding.breaks_down_iff`: when a call breaks down, and what it comes to otherwise.
-/

namespace StreamedInference

namespace Decoding

variable {r : Reckoning} {b : Backend} {size : Nat} {attached : Nat → Bool} {first wanted n : Nat}
  {p : Sampling} {tokens : List Token}

/-! ### Calls that are reckoned exactly -/

theorem evaluate_eq_exact (hr : r.IsFaithful) {s : DecodingState} {token : Token}
    {buffer : TextBuffer} (h : (evaluate r b s token buffer).2 ≠ .stopped .breakdown) :
    evaluate r b s token buffer = evaluate .exact b s token buffer := by
  have hexact : Reckoning.exact.result? (s.position + 1) = some (s.position + 1) := rfl
  unfold evaluate at h ⊢
  cases hadd : b.add s.added with
  | error e => rfl
  | ok =>
    cases hdecode : b.decode s.decoded with
    | error e => rfl
    | ok =>
      cases hnext : r.result? (s.position + 1) with
      | none => simp [hadd, hdecode, hnext] at h
      | some position => simp only [hexact, hr.eq_of_result? hnext]

theorem utter_eq_exact (hr : r.IsFaithful) {s : DecodingState} {token : Token}
    {bytes : List UInt8} (h : (utter r b attached s token bytes).2 ≠ .stopped .breakdown) :
    utter r b attached s token bytes = utter .exact b attached s token bytes := by
  rcases hpush : s.buffer.push bytes with ⟨text, buffer⟩
  simp only [utter, hpush] at h ⊢
  cases hgone : text.isSome && !attached s.sampled with
  | true => rfl
  | false =>
    simp only [hgone, Bool.false_eq_true, if_false] at h ⊢
    rw [evaluate_eq_exact hr h]

/-- A token at which a call does not break down is reckoned exactly. -/
theorem step_eq_exact (b : Backend) (size : Nat) (attached : Nat → Bool) (hr : r.IsFaithful)
    (hfirst : 1 ≤ first) (hhas : r.Has (first + n))
    (h : (step r b size attached (behind b first n)).2 ≠ .stopped .breakdown) :
    step r b size attached (behind b first n) = step .exact b size attached (behind b first n) := by
  have hexact := Reckoning.isFaithful_exact
  rw [step, isFull_behind, result?_behind hr hfirst hhas] at h ⊢
  rw [step, isFull_behind, result?_behind hexact hfirst (Reckoning.has_exact _)]
  cases hfull : decide (size ≤ first + n) with
  | true => rfl
  | false =>
    cases hend : b.isEnd (b.sample (behind b first n).sampled) with
    | true => simp [hend]
    | false =>
      cases hbytes : b.bytes (behind b first n).sampled (b.sample (behind b first n).sampled) with
      | error e => simp [hend, hbytes]
      | ok bytes =>
        simp only [hfull, hend, hbytes, Bool.false_eq_true, if_false] at h ⊢
        rw [utter_eq_exact hr h]

/-- Behind its prompt a call that does not break down is reckoned exactly. -/
theorem loop_eq_exact {left : Nat} (hr : r.IsFaithful) (hfirst : 1 ≤ first)
    (hhas : r.Has (first + n))
    (h : (loop r b size attached left (behind b first n)).2 ≠ .breakdown) :
    loop r b size attached left (behind b first n) =
      loop .exact b size attached left (behind b first n) := by
  induction left generalizing n with
  | zero => rfl
  | succ left ih =>
    have hturn := turn_step b size attached hr hfirst hhas
    have hstep := step_eq_exact b size attached hr hfirst hhas
    rw [loop] at h ⊢
    rw [loop]
    rcases hs : step r b size attached (behind b first n) with ⟨events, ending | s⟩
    · rw [hs] at h hstep
      rw [← hstep fun hbreak => h (DecodingProgress.stopped.inj hbreak)]
    · rw [hs] at hturn h hstep
      rw [← hstep (by simp)]
      cases hturn with
      | passed hroom hpasses hnext =>
        have hlater := ih hnext h
        simp only [hlater]

/-- There is a position for each token of a prompt that does not go beyond the greatest one. -/
theorem promptBatch_word (h : tokens.length ≤ Reckoning.greatest) :
    promptBatch .word tokens = promptBatch .exact tokens := by
  refine List.map_congr_left fun ⟨t, i⟩ hi => ?_
  have hplace : i < tokens.length := by simpa using List.snd_lt_of_mem_zipIdx hi
  have hhas : Reckoning.word.Has i := Reckoning.has_word_iff.mpr (by omega)
  have hposition : Reckoning.word.position i = Reckoning.exact.position i :=
    Reckoning.isFaithful_word.position_eq hhas
  simp only [hposition]

theorem start_word (b : Backend) (h : first ≤ Reckoning.greatest) :
    start .word first = behind b first 0 :=
  start_eq_behind Reckoning.isFaithful_word (Reckoning.has_word_iff.mpr h)

/-- A call that does not break down is reckoned exactly if there is a position for each token of its
prompt. -/
theorem afterTokens_eq_exact
    (hle : tokens.length < size → tokens.length ≤ Reckoning.greatest)
    (h : (afterTokens .word b size attached p tokens).2 ≠ .breakdown) :
    afterTokens .word b size attached p tokens = afterTokens .exact b size attached p tokens := by
  rcases Nat.lt_or_ge tokens.length size with hlt | hfull
  · have hbatch := promptBatch_word (hle hlt)
    rcases List.eq_nil_or_concat tokens with rfl | ⟨front, last, hlast⟩
    · rfl
    have hne : tokens ≠ [] := by simp [hlast]
    have hfirst : 1 ≤ tokens.length := List.length_pos_iff.mpr hne
    have hexact := start_eq_behind (b := b) Reckoning.isFaithful_exact
      (Reckoning.has_exact tokens.length)
    cases hf : promptFault? b tokens.length with
    | some fault =>
      unfold promptFault? at hf
      simp only [afterTokens, hbatch]
      cases hadd : addFault? b tokens.length with
      | some e => rfl
      | none =>
        cases hdecode : b.decode 0 with
        | error e => rfl
        | ok => simp [hadd, hdecode] at hf
    | none =>
      rw [afterTokens_of_none .word attached p hne hlt hf] at h ⊢
      rw [start_word b (hle hlt)] at h ⊢
      rw [afterTokens_of_none .exact attached p hne hlt hf, hbatch, hexact,
        loop_eq_exact Reckoning.isFaithful_word hfirst (Reckoning.has_word_iff.mpr (hle hlt)) h]
  · rw [afterTokens_of_le hfull, afterTokens_of_le hfull]

/-! ### Calls that break down -/

/-- A call goes on behind a token at the greatest position, and there is room for another one. -/
def Overruns (b : Backend) (size : Nat) (attached : Nat → Bool) (first wanted : Nat) : Prop :=
  ∃ n, first + n = Reckoning.greatest ∧ n < wanted ∧ Reckoning.greatest < size ∧
    ∀ i ≤ n, Passes b attached first i

theorem failed_ne_breakdown (what reason : String) : failed what reason ≠ .breakdown := by
  simp [failed]

/-- A token that stops a call breaks it down exactly if it passes. -/
theorem Turn.eq_breakdown_iff {tail : List DecodingEvent} {ending : Ending}
    (h : Turn r b size attached first n tail (.stopped ending)) :
    ending = .breakdown ↔ first + n < size ∧ Passes b attached first n := by
  cases h with
  | full hfull => exact iff_of_false (by simp) fun ⟨hroom, _⟩ => by omega
  | ended hroom hend =>
    exact iff_of_false (by simp) fun ⟨_, hpasses⟩ =>
      Bool.false_ne_true (hpasses.isSpelt.unended.symm.trans hend)
  | unspelt hroom hend he =>
    refine iff_of_false (failed_ne_breakdown _ _) fun ⟨_, hpasses⟩ => ?_
    obtain ⟨bytes, hbytes⟩ := hpasses.isSpelt.spelt
    cases hbytes.symm.trans he
  | unheard hroom hspelt htext hgone =>
    exact iff_of_false (by simp) fun ⟨_, hpasses⟩ =>
      Bool.false_ne_true (hgone.symm.trans (hpasses.isHeard (by simp [htext])))
  | unadded hroom hspelt hheard he =>
    refine iff_of_false (failed_ne_breakdown _ _) fun ⟨_, hpasses⟩ => ?_
    cases hpasses.added.symm.trans he
  | undecoded hroom hspelt hheard hadd he =>
    refine iff_of_false (failed_ne_breakdown _ _) fun ⟨_, hpasses⟩ => ?_
    cases hpasses.decoded.symm.trans he
  | overrun hroom hpasses hnext => exact iff_of_true rfl ⟨hroom, hpasses⟩

/-- A call breaks down at a token for want of a position for the next one. -/
theorem Turn.not_has {tail : List DecodingEvent}
    (h : Turn r b size attached first n tail (.stopped .breakdown)) : ¬ r.Has (first + n + 1) := by
  cases h with
  | overrun hroom hpasses hnext => exact hnext

/-- **When a call breaks down behind its prompt.** -/
theorem loop_eq_breakdown_iff (b : Backend) (size : Nat) (attached : Nat → Bool) (wanted : Nat)
    (hfirst : 1 ≤ first) (hle : first ≤ Reckoning.greatest) :
    (loop .word b size attached wanted (behind b first 0)).2 = .breakdown ↔
      Overruns b size attached first wanted := by
  obtain ⟨n, tail, hpasses, hhas, hstops, -⟩ :=
    exists_stops b size attached wanted Reckoning.isFaithful_word hfirst
      (Reckoning.has_word_iff.mpr hle)
  rw [Reckoning.has_word_iff] at hhas
  generalize (loop .word b size attached wanted (behind b first 0)).2 = ending at hstops
  cases hstops with
  | wanted h =>
    -- no token is left that could go beyond the greatest position
    refine iff_of_false (by simp) fun ⟨last, hlast, hwanted, _⟩ => ?_
    omega
  | turned h hturn =>
    constructor
    · rintro rfl
      obtain ⟨hroom, hlast⟩ := hturn.eq_breakdown_iff.mp rfl
      have hnext := hturn.not_has
      rw [Reckoning.has_word_iff] at hnext
      refine ⟨n, by omega, h, by omega, fun i hi => ?_⟩
      rcases Nat.eq_or_lt_of_le hi with rfl | hlt
      · exact hlast
      · exact (hpasses i hlt).1
    · rintro ⟨last, hlast, hwanted, hsize, hall⟩
      exact hturn.eq_breakdown_iff.mpr ⟨by omega, hall n (by omega)⟩

/-! ### Prompts that go beyond the greatest position -/

/-- A prompt that goes beyond the greatest position is taken for one that fills the context. -/
theorem isFull_start_word (size : Nat) (hbeyond : Reckoning.greatest < first)
    (hsize : first < 2 ^ 32) :
    (start .word first).isFull size = true := by
  have hposition : (start .word first).position < 0 := by
    show (Int32.ofNat first).toInt < 0
    rw [Int32.toInt_ofNat', Int.bmod_def]
    simp only [Reckoning.greatest, Int32.size] at hbeyond ⊢
    omega
  simp only [DecodingState.isFull, hposition, decide_true, Bool.true_or]

/-- Behind such a prompt nothing is sampled. -/
theorem loop_start_word (b : Backend) (size : Nat) (attached : Nat → Bool)
    (hbeyond : Reckoning.greatest < first) (hsize : first < 2 ^ 32) (left : Nat) :
    (loop .word b size attached left (start .word first)).2 = .success ∧
      samples (loop .word b size attached left (start .word first)).1 = [] := by
  have hfull := isFull_start_word size hbeyond hsize
  cases left with
  | zero => simp [loop, samples, DecodingState.flush]
  | succ left => simp [loop, step, hfull, samples, DecodingState.flush]

/-! ### The whole call -/

/-- A call that fails does so at its generation. -/
def FailsAtGeneration (ending : Ending) : Prop :=
  ∀ f, ending = .failure f → ∃ reason, f = .generation reason

theorem failsAtGeneration_failed (what reason : String) : FailsAtGeneration (failed what reason) :=
  fun _ h => ⟨_, (Ending.failure.inj h).symm⟩

theorem failsAtGeneration_success : FailsAtGeneration .success := fun _ h => nomatch h

theorem failsAtGeneration_breakdown : FailsAtGeneration .breakdown := fun _ h => nomatch h

theorem failsAtGeneration_evaluate {s : DecodingState} {token : Token} {buffer : TextBuffer}
    {ending : Ending} (h : (evaluate r b s token buffer).2 = .stopped ending) :
    FailsAtGeneration ending := by
  unfold evaluate at h
  cases hadd : b.add s.added with
  | error e =>
    rw [hadd] at h
    exact DecodingProgress.stopped.inj h ▸ failsAtGeneration_failed _ _
  | ok =>
    cases hdecode : b.decode s.decoded with
    | error e =>
      rw [hadd, hdecode] at h
      exact DecodingProgress.stopped.inj h ▸ failsAtGeneration_failed _ _
    | ok =>
      cases hnext : r.result? (s.position + 1) with
      | none =>
        rw [hadd, hdecode, hnext] at h
        exact DecodingProgress.stopped.inj h ▸ failsAtGeneration_breakdown
      | some position => simp [hadd, hdecode, hnext] at h

theorem failsAtGeneration_utter {s : DecodingState} {token : Token} {bytes : List UInt8}
    {ending : Ending} (h : (utter r b attached s token bytes).2 = .stopped ending) :
    FailsAtGeneration ending := by
  simp only [utter] at h
  split at h
  · exact DecodingProgress.stopped.inj h ▸ failsAtGeneration_success
  · exact failsAtGeneration_evaluate h

theorem failsAtGeneration_step {s : DecodingState} {ending : Ending}
    (h : (step r b size attached s).2 = .stopped ending) : FailsAtGeneration ending := by
  unfold step at h
  split at h
  · exact DecodingProgress.stopped.inj h ▸ failsAtGeneration_success
  · split at h
    · exact DecodingProgress.stopped.inj h ▸ failsAtGeneration_breakdown
    · dsimp only at h
      split at h
      · exact DecodingProgress.stopped.inj h ▸ failsAtGeneration_success
      · split at h
        · exact DecodingProgress.stopped.inj h ▸ failsAtGeneration_failed _ _
        · exact failsAtGeneration_utter h

theorem failsAtGeneration_loop (left : Nat) (s : DecodingState) :
    FailsAtGeneration (loop r b size attached left s).2 := by
  induction left generalizing s with
  | zero => exact failsAtGeneration_success
  | succ left ih =>
    rw [loop]
    rcases hs : step r b size attached s with ⟨events, ending | s'⟩
    · exact failsAtGeneration_step (congrArg Prod.snd hs)
    · exact ih s'

theorem failsAtGeneration_afterTokens :
    FailsAtGeneration (afterTokens r b size attached p tokens).2 := by
  unfold afterTokens
  split
  · exact fun _ h => ⟨_, (Ending.failure.inj h).symm⟩
  · split
    · exact failsAtGeneration_breakdown
    · split
      · exact failsAtGeneration_failed _ _
      · split
        · exact failsAtGeneration_failed _ _
        · exact failsAtGeneration_loop _ _

theorem afterTokens_eq_breakdown_iff (b : Backend) (attached : Nat → Bool) (p : Sampling)
    (tokens : List Token) (hsize : size < 2 ^ 32) :
    (afterTokens .word b size attached p tokens).2 = .breakdown ↔
      tokens.length < size ∧ (tokens = [] ∨ promptFault? b tokens.length = none ∧
        Overruns b size attached tokens.length p.maxNewTokens.toNat) := by
  rcases Nat.lt_or_ge tokens.length size with hlt | hfull
  · rcases List.eq_nil_or_concat tokens with rfl | ⟨front, last, hlast⟩
    · rw [afterTokens, if_neg (Nat.not_le_of_lt hlt)]
      exact iff_of_true rfl ⟨hlt, .inl rfl⟩
    have hne : tokens ≠ [] := by simp [hlast]
    have hfirst : 1 ≤ tokens.length := List.length_pos_iff.mpr hne
    simp only [hlt, hne, true_and, false_or]
    cases hf : promptFault? b tokens.length with
    | some fault =>
      obtain ⟨what, reason, -, rfl⟩ := exists_failed_of_promptFault hf
      obtain ⟨_, -, heq⟩ := afterTokens_of_promptFault .word attached p hne hlt hf
      simp [heq, failed_ne_breakdown]
    | none =>
      rw [afterTokens_of_none .word attached p hne hlt hf]
      simp only [true_and]
      rcases Nat.lt_or_ge Reckoning.greatest tokens.length with hbeyond | hle
      · refine iff_of_false ?_ ?_
        · simp [loop_start_word b size attached hbeyond (hlt.trans hsize)]
        · rintro ⟨last, hlast, -⟩
          omega
      · rw [start_word b hle]
        exact loop_eq_breakdown_iff b size attached _ hfirst hle
  · rw [afterTokens_of_le hfull]
    refine iff_of_false (by simp [tooLong]) ?_
    rintro ⟨hlt, -⟩
    omega

theorem run_of_error {e : String} (h : b.openContext = .error e) (call : GenerateCall) :
    run r b size attached call = ([.called (.openContext size)], failed "context" e) := by
  simp only [run, h]

theorem run_of_tokenize_error {e : String} {call : GenerateCall} (h : b.openContext = .ok ())
    (ht : b.tokenize call.prompt = .error e) :
    run r b size attached call =
      ([.called (.openContext size), .called (.tokenize call.prompt.utf8ByteSize)],
        failed "tokenize" e) := by
  simp only [run, h, inContext_of_error ht]

theorem run_of_tokens {call : GenerateCall} (h : b.openContext = .ok ())
    (ht : b.tokenize call.prompt = .ok tokens) :
    run r b size attached call =
      (.called (.openContext size) :: .called (.tokenize call.prompt.utf8ByteSize) ::
          (afterTokens r b size attached call.sampling tokens).1,
        (afterTokens r b size attached call.sampling tokens).2) := by
  simp only [run, h, inContext_of_ok ht]

theorem failsAtGeneration_run (call : GenerateCall) :
    FailsAtGeneration (run r b size attached call).2 := by
  cases hopen : b.openContext with
  | error e =>
    rw [run_of_error hopen]
    exact failsAtGeneration_failed _ _
  | ok =>
    cases ht : b.tokenize call.prompt with
    | error e =>
      rw [run_of_tokenize_error hopen ht]
      exact failsAtGeneration_failed _ _
    | ok tokens =>
      rw [run_of_tokens hopen ht]
      exact failsAtGeneration_afterTokens

theorem run_eq_breakdown_iff (b : Backend) (attached : Nat → Bool) (call : GenerateCall)
    (hsize : size < 2 ^ 32) :
    (run .word b size attached call).2 = .breakdown ↔ b.openContext = .ok () ∧ ∃ tokens,
      b.tokenize call.prompt = .ok tokens ∧ tokens.length < size ∧
        (tokens = [] ∨ promptFault? b tokens.length = none ∧
          Overruns b size attached tokens.length call.sampling.maxNewTokens.toNat) := by
  cases hopen : b.openContext with
  | error e => simp [run_of_error hopen, failed_ne_breakdown]
  | ok =>
    cases ht : b.tokenize call.prompt with
    | error e => simp [run_of_tokenize_error hopen ht, failed_ne_breakdown]
    | ok tokens =>
      rw [run_of_tokens hopen ht,
        afterTokens_eq_breakdown_iff b attached call.sampling tokens hsize]
      simp

theorem run_eq_exact {call : GenerateCall}
    (hle : ∀ tokens, b.tokenize call.prompt = .ok tokens → tokens.length < size →
      tokens.length ≤ Reckoning.greatest)
    (h : (run .word b size attached call).2 ≠ .breakdown) :
    run .word b size attached call = run .exact b size attached call := by
  cases hopen : b.openContext with
  | error e => rw [run_of_error hopen, run_of_error hopen]
  | ok =>
    cases ht : b.tokenize call.prompt with
    | error e => rw [run_of_tokenize_error hopen ht, run_of_tokenize_error hopen ht]
    | ok tokens =>
      rw [run_of_tokens hopen ht] at h ⊢
      rw [run_of_tokens hopen ht, afterTokens_eq_exact (hle tokens ht) h]

theorem samples_run_of_beyond (b : Backend) (attached : Nat → Bool) {call : GenerateCall}
    (hsize : size < 2 ^ 32) (ht : b.tokenize call.prompt = .ok tokens) (hlt : tokens.length < size)
    (hbeyond : Reckoning.greatest < tokens.length) :
    samples (run .word b size attached call).1 = [] := by
  have hne : tokens ≠ [] := List.length_pos_iff.mp (by omega)
  cases hopen : b.openContext with
  | error e => simp [run_of_error hopen, samples]
  | ok =>
    rw [run_of_tokens hopen ht]
    cases hf : promptFault? b tokens.length with
    | some fault =>
      obtain ⟨_, rfl | rfl, heq⟩ :=
        afterTokens_of_promptFault .word attached call.sampling hne hlt hf
      all_goals simp [heq, samples]
    | none =>
      have hloop := (loop_start_word b size attached hbeyond (hlt.trans hsize)
        call.sampling.maxNewTokens.toNat).2
      rw [samples] at hloop
      simp [afterTokens_of_none .word attached call.sampling hne hlt hf, samples, hloop]

/-- **When a call breaks down**, in a context of any size.

* It breaks down exactly if its prompt is cut into no tokens, or it evaluates a token at the
  greatest position and goes on.
* Otherwise it succeeds, or fails at its generation.
* If it does not break down, and there is a position for each token of a prompt that leaves room, it
  is the call that is reckoned exactly.
* Behind a prompt that leaves room but goes beyond the greatest position, nothing is sampled. -/
theorem breaks_down_iff (b : Backend) (size : UInt32) (attached : Nat → Bool)
    (call : GenerateCall) :
    let run := run .word b size.toNat attached call
    (run.2 = .breakdown ↔ b.openContext = .ok () ∧ ∃ tokens,
      b.tokenize call.prompt = .ok tokens ∧ tokens.length < size.toNat ∧
        (tokens = [] ∨ promptFault? b tokens.length = none ∧
          Overruns b size.toNat attached tokens.length call.sampling.maxNewTokens.toNat)) ∧
    (run.2 ≠ .breakdown →
      run.2 = .success ∨ ∃ reason, run.2 = .failure (.generation reason)) ∧
    (run.2 ≠ .breakdown →
      (∀ tokens, b.tokenize call.prompt = .ok tokens → tokens.length < size.toNat →
        tokens.length ≤ Reckoning.greatest) →
      run = Decoding.run .exact b size.toNat attached call) ∧
    (∀ tokens, b.tokenize call.prompt = .ok tokens → tokens.length < size.toNat →
      Reckoning.greatest < tokens.length → samples run.1 = []) := by
  have hsize : size.toNat < 2 ^ 32 := size.toNat_lt
  intro run
  refine ⟨run_eq_breakdown_iff b attached call hsize, fun h => ?_, fun h hle => run_eq_exact hle h,
    fun tokens ht hlt hbeyond => samples_run_of_beyond b attached hsize ht hlt hbeyond⟩
  have hfails : FailsAtGeneration run.2 := failsAtGeneration_run call
  cases hending : run.2 with
  | success => exact .inl rfl
  | failure f =>
    obtain ⟨reason, rfl⟩ := hfails f hending
    exact .inr ⟨reason, rfl⟩
  | breakdown => exact absurd hending h

theorem passes_steady (prompt : List Token) {said : Nat → Option (List UInt8)}
    (h : (said n).isSome = true) (first : Nat) :
    Passes (steady prompt said) (fun _ => true) first n where
  isSpelt := ⟨by simpa [steady] using h, _, rfl⟩
  isHeard _ := rfl
  added := rfl
  decoded := rfl

/-- A model that always goes on gets beyond the greatest position, if it may. -/
theorem overruns_steady (prompt : List Token) (bytes : List UInt8)
    (hfirst : first ≤ Reckoning.greatest) (hwanted : Reckoning.greatest < first + wanted)
    (hsize : Reckoning.greatest < size) :
    Overruns (steady prompt fun _ => some bytes) size (fun _ => true) first wanted :=
  ⟨Reckoning.greatest - first, by omega, by omega, hsize, fun _ _ => passes_steady prompt rfl first⟩

/-- A model that always goes on breaks a call down in the largest context, and does not in a small
one. A prompt beyond the greatest position gets no answer. -/
theorem breaks_down_iff_of_endless :
    let b := steady [7] fun _ => some [0x61]
    let long := steady (List.replicate 2147483648 7) fun _ => some [0x61]
    let call : GenerateCall := ⟨"hi", { maxNewTokens := 4294967295 }⟩
    (run .word b 4294967295 (fun _ => true) call).2 = .breakdown ∧
      ((run .word b 4 (fun _ => true) call).2 ≠ .breakdown ∧
        run .word b 4 (fun _ => true) call = run .exact b 4 (fun _ => true) call) ∧
      samples (run .word long 4294967295 (fun _ => true) call).1 = [] := by
  intro b long call
  obtain ⟨hiff, -⟩ := breaks_down_iff b 4294967295 (fun _ => true) call
  obtain ⟨hsmall, -, hexact, -⟩ := breaks_down_iff b 4 (fun _ => true) call
  obtain ⟨-, -, -, hbeyond⟩ := breaks_down_iff long 4294967295 (fun _ => true) call
  refine ⟨hiff.mpr ⟨rfl, [7], rfl, by decide, .inr ⟨rfl, ?_⟩⟩, ?_, ?_⟩
  · exact overruns_steady [7] [0x61] (by decide) (by decide) (by decide)
  · have hreturns : (run .word b 4 (fun _ => true) call).2 ≠ .breakdown := by
      refine fun hbreak => ?_
      obtain ⟨-, tokens, ht, -, rfl | ⟨-, last, -, -, hsize, -⟩⟩ := hsmall.mp hbreak
      · cases ht
      · exact absurd hsize (by decide)
    refine ⟨hreturns, hexact hreturns fun tokens ht _ => ?_⟩
    obtain rfl : [7] = tokens := Except.ok.inj ht
    decide
  · refine hbeyond _ rfl ?_ ?_
    · rw [List.length_replicate]
      decide
    · rw [List.length_replicate]
      decide

/-- The configuration of a process that is told the size of the context and the number of tokens
alone. -/
def sized (size count : UInt32) : Configuration :=
  { Configuration.ofLayer fun _ => none with
    model := { contextSize := size }
    sampling := { maxNewTokens := count } }

/-- What a process is told by default is accepted, and so are the greatest sizes; but a call breaks
down at a prompt without tokens, and one of the greatest size gets beyond the greatest position. -/
theorem breaks_down_of_accepted :
    (Configuration.load [] [] = .ok (sized 4096 100) ∧
      (run .word (steady [] fun _ => none) 4096 (fun _ => true)
        ⟨"hi", (sized 4096 100).sampling⟩).2 = .breakdown) ∧
    Configuration.load [] [("CONTEXT_SIZE", "4294967295"), ("MAX_TOKENS", "4294967295")] =
        .ok (sized 4294967295 4294967295) ∧
      (run .word (steady [7] fun _ => some [0x61]) 4294967295 (fun _ => true)
        ⟨"hi", (sized 4294967295 4294967295).sampling⟩).2 = .breakdown := by
  refine ⟨⟨by decide +kernel, rfl⟩, by decide +kernel, ?_⟩
  refine (run_eq_breakdown_iff _ _ _ (by decide)).mpr ⟨rfl, [7], rfl, by decide, .inr ⟨rfl, ?_⟩⟩
  exact overruns_steady [7] [0x61] (by decide) (by decide) (by decide)

end Decoding

end StreamedInference
