import Mathlib.Data.List.Basic
import Mathlib.Data.Nat.Find
import Mathlib.Order.Bounds.Defs
import StreamedInference.Proofs.Decoder.Step

/-!
# The course of a generate call

A call goes through tokens that pass, one turn after the other, and stops at the first that does
not, or at the wanted number. So its events are the turns of some number of tokens and what happens
where it stops (`Decoding.exists_stops`), and what can be read off the events is read off these two
parts: fragments, batches and samples.

Reckoned exactly, the number of tokens that are turned into text is the greatest that the model, the
wanted number and the context allow, unless the library fails before or the consumer is found gone
(`Decoding.Outcome`).

## Main definitions

* `Decoding.batches`, `Decoding.samples`: the batches that are evaluated, and where is sampled.
* `Decoding.Stops`: how a call stops behind some number of tokens.
* `Decoding.IsUsable`: a number of tokens that can be turned into text.
* `Decoding.Outcome`: what a call comes to, by the greatest such number.

## Main results

* `Decoding.exists_stops`: the events of a call, turn by turn.
* `Decoding.outcome_of_stops`, `Decoding.exists_batches_of_stops`: what the events tell.
-/

namespace StreamedInference

namespace Decoding

/-! ### What can be read off events -/

/-- The batches that are evaluated, in order. -/
def batches (events : List DecodingEvent) : List (List BatchEntry) :=
  (calls events).filterMap fun
    | .decode batch => some batch
    | _ => none

/-- The entries behind which tokens are sampled, in order. -/
def samples (events : List DecodingEvent) : List Int :=
  (calls events).filterMap fun
    | .sample entry => some entry
    | _ => none

section

variable (events more : List DecodingEvent)

@[simp] theorem calls_append : calls (events ++ more) = calls events ++ calls more :=
  List.filterMap_append

@[simp] theorem fragments_append :
    fragments (events ++ more) = fragments events ++ fragments more :=
  List.filterMap_append

@[simp] theorem calls_nil : calls [] = [] := rfl

@[simp] theorem fragments_nil : fragments [] = [] := rfl

@[simp] theorem calls_emitted (fragment : String) :
    calls (.emitted fragment :: events) = calls events := rfl

@[simp] theorem calls_called (call : BackendCall) :
    calls (.called call :: events) = call :: calls events := rfl

@[simp] theorem calls_noted (event : LogEvent) :
    calls (.noted event :: events) = calls events := rfl

@[simp] theorem fragments_called (call : BackendCall) :
    fragments (.called call :: events) = fragments events := rfl

@[simp] theorem fragments_emitted (fragment : String) :
    fragments (.emitted fragment :: events) = fragment :: fragments events := rfl

@[simp] theorem fragments_noted (event : LogEvent) :
    fragments (.noted event :: events) = fragments events := rfl

@[simp] theorem batches_append : batches (events ++ more) = batches events ++ batches more := by
  simp [batches, List.filterMap_append]

@[simp] theorem samples_append : samples (events ++ more) = samples events ++ samples more := by
  simp [samples, List.filterMap_append]

end

variable (r : Reckoning) (b : Backend) (size : Nat) (attached : Nat → Bool) (first : Nat)

/-- All that happens with the first tokens, if they pass. -/
def turns (n : Nat) : List DecodingEvent :=
  (List.range n).flatMap (turn b first)

theorem turns_succ (n : Nat) : turns b first (n + 1) = turns b first n ++ turn b first n := by
  simp [turns, List.range_succ]

@[simp] theorem fragments_map_emitted (l : List String) : fragments (l.map .emitted) = l := by
  simp [fragments]

@[simp] theorem calls_map_emitted (l : List String) : calls (l.map .emitted) = [] := by
  simp [calls]

@[simp] theorem fragments_utterance (i : Nat) :
    fragments (utterance b first i) = (text? b i).toList := by
  simp [utterance, sampling]

@[simp] theorem calls_utterance (i : Nat) :
    calls (utterance b first i) = [.sample ((if i = 0 then first else 1) - 1 : Nat)] := by
  simp [utterance, sampling]

@[simp] theorem fragments_turn (i : Nat) : fragments (turn b first i) = (text? b i).toList := by
  simp [turn, evaluation]

@[simp] theorem calls_turn (i : Nat) :
    calls (turn b first i) =
      [.sample ((if i = 0 then first else 1) - 1 : Nat),
        .decode [⟨b.sample i, (first + i : Nat), true⟩]] := by
  simp [turn, evaluation]

theorem fragments_turns (n : Nat) : fragments (turns b first n) = texts b n := by
  induction n with
  | zero => rfl
  | succ n ih => rw [turns_succ, fragments_append, ih, fragments_turn, texts_succ]

/-- Each token that passes is evaluated in a batch of its own. -/
theorem batches_turns (n : Nat) :
    batches (turns b first n) =
      (List.range n).map fun i => [⟨b.sample i, (first + i : Nat), true⟩] := by
  induction n with
  | zero => rfl
  | succ n ih =>
    rw [turns_succ, batches_append, ih, List.range_succ, List.map_append, batches, calls_turn]
    rfl

theorem length_samples_turns (n : Nat) : (samples (turns b first n)).length = n := by
  induction n with
  | zero => rfl
  | succ n ih =>
    rw [turns_succ, samples_append, List.length_append, ih, samples, calls_turn]
    rfl

/-! ### A call behind its prompt -/

/-- How a call stops that has gone through `n` tokens: as many are wanted, or the next one does not
pass. -/
inductive Stops (wanted n : Nat) : List DecodingEvent → Ending → Prop
  | wanted (h : n = wanted) : Stops wanted n ((rest b n).map .emitted) .success
  | turned {tail : List DecodingEvent} {ending : Ending} (h : n < wanted)
      (hturn : Turn r b size attached first n tail (.stopped ending)) : Stops wanted n tail ending

variable {r b size attached first}

/-- The events of a call behind its prompt are the turns of tokens that pass, and what happens where
it stops. -/
theorem exists_stops_of_behind (b : Backend) (size : Nat) (attached : Nat → Bool) (left : Nat)
    (hr : r.IsFaithful) (hfirst : 1 ≤ first) {i : Nat} (hhas : r.Has (first + i)) :
    ∃ n tail, i ≤ n ∧
      (∀ j, i ≤ j → j < n → Passes b attached first j ∧ first + j < size) ∧ r.Has (first + n) ∧
      Stops r b size attached first (i + left) n tail
        (loop r b size attached left (behind b first i)).2 ∧
      turns b first i ++ (loop r b size attached left (behind b first i)).1 =
        turns b first n ++ tail := by
  induction left generalizing i with
  | zero =>
    exact ⟨i, _, le_rfl, fun j hij hji => absurd hij (Nat.not_le_of_lt hji), hhas, .wanted rfl, rfl⟩
  | succ left ih =>
    have hturn := turn_step b size attached hr hfirst hhas
    rw [loop]
    -- what the step does decides between stopping here and the tokens to come
    rcases hstep : step r b size attached (behind b first i) with ⟨events, ending | s⟩
    · rw [hstep] at hturn
      exact ⟨i, events, le_rfl, fun j hij hji => absurd hij (Nat.not_le_of_lt hji), hhas,
        .turned (by omega) hturn, rfl⟩
    · rw [hstep] at hturn
      cases hturn with
      | passed hroom hpasses hnext =>
        obtain ⟨n, tail, hin, hall, hlast, hstops, hevents⟩ := ih (i := i + 1) hnext
        refine ⟨n, tail, by omega, fun j hij hjn => ?_, hlast, ?_, ?_⟩
        · rcases Nat.eq_or_lt_of_le hij with rfl | hlt
          · exact ⟨hpasses, hroom⟩
          · exact hall j hlt hjn
        · rwa [Nat.add_right_comm] at hstops
        · rw [← hevents, turns_succ, List.append_assoc]
          rfl

/-- **The events of a call behind its prompt**, turn by turn. -/
theorem exists_stops (b : Backend) (size : Nat) (attached : Nat → Bool) (wanted : Nat)
    (hr : r.IsFaithful) (hfirst : 1 ≤ first) (hhas : r.Has first) :
    ∃ n tail, (∀ i < n, Passes b attached first i ∧ first + i < size) ∧ r.Has (first + n) ∧
      Stops r b size attached first wanted n tail
        (loop r b size attached wanted (behind b first 0)).2 ∧
      (loop r b size attached wanted (behind b first 0)).1 = turns b first n ++ tail := by
  obtain ⟨n, tail, -, hall, hlast, hstops, hevents⟩ :=
    exists_stops_of_behind b size attached wanted (i := 0) hr hfirst hhas
  rw [Nat.zero_add] at hstops
  exact ⟨n, tail, fun i hi => hall i (Nat.zero_le i) hi, hlast, hstops, hevents⟩

/-! ### The greatest number of tokens -/

/-- A number of tokens that can be turned into text: none of them ends what the model has to say,
they are wanted, and there is room for them behind the prompt. -/
structure IsUsable (b : Backend) (size first wanted n : Nat) : Prop where
  unended : ∀ i < n, b.isEnd (b.sample i) = false
  wanted : n ≤ wanted
  fits : first + n ≤ size

theorem exists_longest (b : Backend) {size first : Nat} (wanted : Nat) (h : first ≤ size) :
    ∃ longest, IsGreatest {n | IsUsable b size first wanted n} longest := by
  classical
  have hzero : IsUsable b size first wanted 0 := ⟨by simp, by omega, h⟩
  refine ⟨Nat.findGreatest (IsUsable b size first wanted) wanted, ?_, fun n hn => ?_⟩
  · exact Nat.findGreatest_spec (Nat.zero_le wanted) hzero
  · exact Nat.le_findGreatest hn.wanted hn

variable {b : Backend} {size : Nat} {attached : Nat → Bool} {first wanted longest n : Nat}

theorem isUsable_of_passes (hfirst : first ≤ size) (hn : n ≤ wanted)
    (h : ∀ i < n, Passes b attached first i ∧ first + i < size) :
    IsUsable b size first wanted n where
  unended i hi := (h i hi).1.isSpelt.unended
  wanted := hn
  fits := by
    rcases n with _ | n
    · exact hfirst
    · exact (h n (Nat.lt_succ_self n)).2

theorem IsUsable.succ (h : IsUsable b size first wanted n) (hn : n < wanted)
    (hroom : first + n < size) (hend : b.isEnd (b.sample n) = false) :
    IsUsable b size first wanted (n + 1) where
  unended i hi := by
    rcases Nat.lt_succ_iff_lt_or_eq.mp hi with hi | rfl
    · exact h.unended i hi
    · exact hend
  wanted := hn
  fits := hroom

/-- A usable number is the greatest if no more are wanted, there is no room for more, or the next
token ends what the model has to say. -/
theorem IsUsable.eq_longest (h : IsUsable b size first wanted n)
    (hl : IsGreatest {n | IsUsable b size first wanted n} longest)
    (hstop : n < wanted → first + n < size → b.isEnd (b.sample n) = true) : n = longest := by
  refine le_antisymm (hl.2 h) (Nat.le_of_not_lt fun hlt => ?_)
  have hgreatest : IsUsable b size first wanted longest := hl.1
  have hend := hstop (lt_of_lt_of_le hlt hgreatest.wanted)
    (lt_of_lt_of_le (Nat.add_lt_add_left hlt first) hgreatest.fits)
  exact Bool.false_ne_true ((hgreatest.unended n hlt).symm.trans hend)

/-- What cuts a call short at its `n`-th token: the number of tokens that have been turned into
text, and the ending. -/
inductive Cut (b : Backend) (attached : Nat → Bool) (first n : Nat) : Nat → Ending → Prop
  | unspelt {e : String} (he : b.bytes n (b.sample n) = .error e) :
      Cut b attached first n n (failed "detokenize" e)
  | unheard (hspelt : IsSpelt b n) (htext : (text? b n).isSome = true)
      (hgone : attached n = false) : Cut b attached first n (n + 1) .success
  | unadded {e : String} (hspelt : IsSpelt b n) (hheard : IsHeard b attached n)
      (he : b.add (first + n) = .error e) : Cut b attached first n (n + 1) (failed "batch" e)
  | undecoded {e : String} (hspelt : IsSpelt b n) (hheard : IsHeard b attached n)
      (hadd : b.add (first + n) = .ok ()) (he : b.decode (n + 1) = .error e) :
      Cut b attached first n (n + 1) (failed "decode" e)

/-- What a call comes to behind its prompt: the greatest number of tokens is turned into text, or it
is cut short before. Told are its fragments, how often it samples, and its ending. -/
inductive Outcome (b : Backend) (size : Nat) (attached : Nat → Bool) (first wanted longest : Nat) :
    List String → Nat → Ending → Prop
  | finished (hpasses : ∀ i < longest, Passes b attached first i) :
      Outcome b size attached first wanted longest (texts b longest ++ rest b longest)
        (if longest < wanted ∧ first + longest < size then longest + 1 else longest) .success
  | cut {n turned : Nat} {ending : Ending} (hpasses : ∀ i < n, Passes b attached first i)
      (hn : n < longest) (hcut : Cut b attached first n turned ending) :
      Outcome b size attached first wanted longest (texts b turned) (n + 1) ending

/-- Behind its prompt a call comes to what its outcome says. -/
theorem outcome_of_stops {tail : List DecodingEvent} {ending : Ending} (hfirst : first ≤ size)
    (hl : IsGreatest {n | IsUsable b size first wanted n} longest)
    (hpasses : ∀ i < n, Passes b attached first i ∧ first + i < size)
    (hstops : Stops .exact b size attached first wanted n tail ending) :
    Outcome b size attached first wanted longest (fragments (turns b first n ++ tail))
      (samples (turns b first n ++ tail)).length ending := by
  have hall : ∀ i < n, Passes b attached first i := fun i hi => (hpasses i hi).1
  rw [fragments_append, samples_append, List.length_append, fragments_turns, length_samples_turns]
  cases hstops with
  | wanted h =>
    have husable := isUsable_of_passes hfirst h.le hpasses
    obtain rfl := husable.eq_longest hl fun hlt => absurd h hlt.ne
    have hout : Outcome b size attached first wanted n _ _ _ := .finished hall
    rw [if_neg fun hlt => hlt.1.ne h] at hout
    simpa [samples] using hout
  | @turned tail ending h hturn =>
    have husable := isUsable_of_passes hfirst h.le hpasses
    cases hturn with
    | full hfull =>
      obtain rfl := husable.eq_longest hl fun _ hroom => absurd hfull (Nat.not_le_of_lt hroom)
      have hout : Outcome b size attached first wanted n _ _ _ := .finished hall
      rw [if_neg fun hlt => absurd hfull (Nat.not_le_of_lt hlt.2)] at hout
      simpa [samples] using hout
    | ended hroom hend =>
      obtain rfl := husable.eq_longest hl fun _ _ => hend
      have hout : Outcome b size attached first wanted n _ _ _ := .finished hall
      rw [if_pos ⟨h, hroom⟩] at hout
      simpa [samples, sampling] using hout
    | unspelt hroom hend he =>
      have hn : n < longest := hl.2 (husable.succ h hroom hend)
      simpa [samples, sampling] using
        Outcome.cut (b := b) hall hn (.unspelt he)
    | unheard hroom hspelt htext hgone =>
      have hn : n < longest := hl.2 (husable.succ h hroom hspelt.unended)
      have hcut : Cut b attached first n (n + 1) .success := .unheard hspelt (by simp [htext]) hgone
      simpa [samples, sampling, texts_succ, htext] using Outcome.cut hall hn hcut
    | unadded hroom hspelt hheard he =>
      have hn : n < longest := hl.2 (husable.succ h hroom hspelt.unended)
      simpa [samples, texts_succ] using Outcome.cut hall hn (.unadded hspelt hheard he)
    | undecoded hroom hspelt hheard hadd he =>
      have hn : n < longest := hl.2 (husable.succ h hroom hspelt.unended)
      simpa [samples, texts_succ] using Outcome.cut hall hn (.undecoded hspelt hheard hadd he)
    | overrun hroom hpasses hnext => exact absurd (Reckoning.has_exact _) hnext

/-- The batches of tokens: one for each token that passes, and for one that the library fails to
evaluate. -/
theorem exists_batches_of_stops {r : Reckoning} {tail : List DecodingEvent} {ending : Ending}
    (hfirst : first ≤ size) (hpasses : ∀ i < n, Passes b attached first i ∧ first + i < size)
    (hstops : Stops r b size attached first wanted n tail ending) :
    ∃ k, first + k ≤ size ∧ batches (turns b first n ++ tail) =
      (List.range k).map fun i => [⟨b.sample i, (first + i : Nat), true⟩] := by
  have hfits : first + n ≤ size := by
    rcases n with _ | n
    · exact hfirst
    · exact (hpasses n (Nat.lt_succ_self n)).2
  have hnone : batches tail = [] → ∃ k, first + k ≤ size ∧ batches (turns b first n ++ tail) =
      (List.range k).map fun i => [⟨b.sample i, (first + i : Nat), true⟩] := fun h =>
    ⟨n, hfits, by rw [batches_append, batches_turns, h, List.append_nil]⟩
  have hone : first + n < size → ∃ k, first + k ≤ size ∧
      batches (turns b first n ++ turn b first n) =
        (List.range k).map fun i => [⟨b.sample i, (first + i : Nat), true⟩] := fun h =>
    ⟨n + 1, h, by rw [← turns_succ, batches_turns]⟩
  cases hstops with
  | wanted => exact hnone (by simp [batches])
  | turned h hturn =>
    cases hturn with
    | full | ended | unspelt | unheard | unadded => exact hnone (by simp [batches, sampling])
    | undecoded hroom | overrun hroom => exact hone hroom

end Decoding

end StreamedInference
