import StreamedInference.Decoder.Generation
import StreamedInference.Proofs.Text.Buffer

/-!
# One token of a generate call

Where a call stands behind some tokens is told by their number: the tokens sampled are the first
ones of the library's, and the bytes of each have gone through the buffer once, in order
(`Decoding.behind`). From such a standing a token either passes, and the call stands behind it, or
it stops the call, and `Decoding.Turn` has a constructor for each reason. All that is asked of the
reckoning with positions is that a result, if there is one, is right.

## Main definitions

* `Reckoning.IsFaithful`: what there is a position for is reckoned rightly.
* `Decoding.texts`, `Decoding.buffer`, `Decoding.text?`: what comes of the first tokens' bytes.
* `Decoding.Passes`: a token behind which a call goes on.
* `Decoding.Turn`: what may become of a token.

## Main results

* `Reckoning.isFaithful_word`, `Reckoning.has_word_iff`: positions of 32 bits.
* `Decoding.turn_step`: what becomes of a token.
-/

namespace StreamedInference

/-! ### Reckoning with positions -/

namespace Reckoning

/-- There is a position for a number. -/
def Has (r : Reckoning) (n : Nat) : Prop :=
  r.result? n = some (n : Int)

/-- What there is a position for is reckoned rightly. -/
structure IsFaithful (r : Reckoning) : Prop where
  eq_of_result? : ∀ {x y : Int}, r.result? x = some y → y = x
  position_eq : ∀ {n : Nat}, r.Has n → r.position n = n
  has_of_le : ∀ {m n : Nat}, m ≤ n → r.Has n → r.Has m

/-- The greatest position of 32 bits. -/
def greatest : Nat := 2147483647

theorem has_exact (n : Nat) : exact.Has n := rfl

theorem isFaithful_exact : exact.IsFaithful where
  eq_of_result? h := (Option.some.inj h).symm
  position_eq _ := rfl
  has_of_le _ _ := rfl

theorem has_word_iff {n : Nat} : word.Has n ↔ n ≤ greatest := by
  have hleast : Int32.minValue.toInt = -2147483648 := by decide
  have hgreatest : Int32.maxValue.toInt = 2147483647 := by decide
  simp only [Has, word, hleast, hgreatest, greatest, Option.ite_none_right_eq_some, and_true]
  omega

theorem isFaithful_word : word.IsFaithful where
  eq_of_result? h := (Option.ite_none_right_eq_some.mp h).2 |> Option.some.inj |> Eq.symm
  position_eq {n} h := by
    rw [has_word_iff, greatest] at h
    exact Int32.toInt_ofNat_of_lt (by omega)
  has_of_le hle h := by
    rw [has_word_iff] at h ⊢
    omega

end Reckoning

namespace Decoding

variable (r : Reckoning) (b : Backend) (size : Nat) (attached : Nat → Bool) (first : Nat)

/-! ### The text of the first tokens -/

/-- The bytes of the `i`-th token, if the library has them. -/
def piece (i : Nat) : List UInt8 :=
  (b.bytes i (b.sample i)).toOption.getD []

/-- The bytes of the first tokens, one piece for each. -/
def pieces (n : Nat) : List (List UInt8) :=
  (List.range n).map (piece b)

/-- What is given out for the first tokens. -/
def texts (n : Nat) : List String :=
  (TextBuffer.pushAll {} (pieces b n)).1

/-- What is held behind the first tokens. -/
def buffer (n : Nat) : TextBuffer :=
  (TextBuffer.pushAll {} (pieces b n)).2

/-- What is given out for the `i`-th token. -/
def text? (i : Nat) : Option String :=
  ((buffer b i).push (piece b i)).1

/-- What is given out when the call stops behind some tokens and all has gone well. -/
def rest (n : Nat) : List String :=
  (buffer b n).finish.1.toList

theorem pushAll_pieces_succ (n : Nat) :
    TextBuffer.pushAll {} (pieces b (n + 1)) =
      (texts b n ++ (text? b n).toList, ((buffer b n).push (piece b n)).2) := by
  rw [pieces, List.range_succ, List.map_append, TextBuffer.pushAll_append]
  simp [texts, text?, buffer, pieces, TextBuffer.pushAll_cons]

theorem texts_succ (n : Nat) : texts b (n + 1) = texts b n ++ (text? b n).toList := by
  rw [texts, pushAll_pieces_succ]

theorem buffer_succ (n : Nat) : buffer b (n + 1) = ((buffer b n).push (piece b n)).2 := by
  rw [buffer, pushAll_pieces_succ]

theorem piece_eq {i : Nat} {bytes : List UInt8} (h : b.bytes i (b.sample i) = .ok bytes) :
    piece b i = bytes := by
  simp [piece, h, Except.toOption]

/-! ### What becomes of a token -/

/-- The `i`-th token has text of its own: the model goes on with it, and the library has its
bytes. -/
structure IsSpelt (i : Nat) : Prop where
  unended : b.isEnd (b.sample i) = false
  spelt : ∃ bytes, b.bytes i (b.sample i) = .ok bytes

/-- The consumer is there for the text of the `i`-th token, if there is any. -/
def IsHeard (i : Nat) : Prop :=
  (text? b i).isSome = true → attached i = true

/-- A call goes on behind the `i`-th token, `first` tokens of the prompt being before all of
them. -/
structure Passes (i : Nat) : Prop where
  isSpelt : IsSpelt b i
  isHeard : IsHeard b attached i
  added : b.add (first + i) = .ok ()
  decoded : b.decode (i + 1) = .ok ()

/-- Where a call stands behind the first `i` tokens. -/
def behind (i : Nat) : DecodingState where
  position := (first + i : Nat)
  entries := if i = 0 then first else 1
  added := first + i
  decoded := i + 1
  sampled := i
  buffer := buffer b i

/-- The `i`-th token is sampled, behind the last entry of the batch before it. -/
def sampling (i : Nat) : DecodingEvent :=
  .called (.sample ((if i = 0 then first else 1) - 1 : Nat))

/-- The `i`-th token is sampled and its text is given out. -/
def utterance (i : Nat) : List DecodingEvent :=
  sampling first i :: (text? b i).toList.map .emitted

/-- The `i`-th token is evaluated. -/
def evaluation (i : Nat) : DecodingEvent :=
  .called (.decode [⟨b.sample i, (first + i : Nat), true⟩])

/-- All that happens with the `i`-th token. -/
def turn (i : Nat) : List DecodingEvent :=
  utterance b first i ++ [evaluation b first i]

/-- What may become of the `i`-th token: one constructor for each reason to stop, and one for a
token that passes. -/
inductive Turn (i : Nat) : List DecodingEvent → DecodingProgress → Prop
  | full (hfull : size ≤ first + i) :
      Turn i (.noted (fullEvent (first + i : Nat)) :: (rest b i).map .emitted) (.stopped .success)
  | ended (hroom : first + i < size) (hend : b.isEnd (b.sample i) = true) :
      Turn i (sampling first i :: (rest b i).map .emitted) (.stopped .success)
  | unspelt {e : String} (hroom : first + i < size) (hend : b.isEnd (b.sample i) = false)
      (he : b.bytes i (b.sample i) = .error e) :
      Turn i [sampling first i] (.stopped (failed "detokenize" e))
  | unheard {text : String} (hroom : first + i < size) (hspelt : IsSpelt b i)
      (htext : text? b i = some text) (hgone : attached i = false) :
      Turn i [sampling first i, .emitted text, .noted detachedEvent] (.stopped .success)
  | unadded {e : String} (hroom : first + i < size) (hspelt : IsSpelt b i)
      (hheard : IsHeard b attached i) (he : b.add (first + i) = .error e) :
      Turn i (utterance b first i) (.stopped (failed "batch" e))
  | undecoded {e : String} (hroom : first + i < size) (hspelt : IsSpelt b i)
      (hheard : IsHeard b attached i) (hadd : b.add (first + i) = .ok ())
      (he : b.decode (i + 1) = .error e) :
      Turn i (turn b first i) (.stopped (failed "decode" e))
  | overrun (hroom : first + i < size) (hpasses : Passes b attached first i)
      (hnext : ¬ r.Has (first + i + 1)) :
      Turn i (turn b first i) (.stopped .breakdown)
  | passed (hroom : first + i < size) (hpasses : Passes b attached first i)
      (hnext : r.Has (first + i + 1)) :
      Turn i (turn b first i) (.reached (behind b first (i + 1)))

variable {r b size attached first}

theorem isFull_behind (i : Nat) : (behind b first i).isFull size = decide (size ≤ first + i) := by
  have hpos : ¬ ((first + i : Nat) : Int) < 0 := by omega
  simp only [behind, DecodingState.isFull, hpos, decide_false, Bool.false_or, Int.toNat_natCast]
  congr

/-- The place behind which the `i`-th token is sampled is reckoned rightly. -/
theorem result?_behind (hr : r.IsFaithful) {i : Nat} (hfirst : 1 ≤ first)
    (hhas : r.Has (first + i)) :
    r.result? (r.position (behind b first i).entries - 1) =
      some (((if i = 0 then first else 1) - 1 : Nat) : Int) := by
  have hentries : 1 ≤ (behind b first i).entries ∧ (behind b first i).entries ≤ first + i := by
    simp only [behind]
    split <;> omega
  rw [hr.position_eq (hr.has_of_le hentries.2 hhas), ← Int.natCast_one,
    ← Int.natCast_sub hentries.1]
  exact hr.has_of_le (by omega) hhas

/-- A token whose text has been given out is evaluated. -/
theorem turn_evaluate (hr : r.IsFaithful) {i : Nat} (hroom : first + i < size)
    (hspelt : IsSpelt b i) (hheard : IsHeard b attached i) :
    Turn r b size attached first i
      (utterance b first i ++
        (evaluate r b (behind b first i) (b.sample i) (buffer b (i + 1))).1)
      (evaluate r b (behind b first i) (b.sample i) (buffer b (i + 1))).2 := by
  have hsucc : ((first + i : Nat) : Int) + 1 = (first + i + 1 : Nat) := rfl
  cases hadd : b.add (first + i) with
  | error e =>
    simp only [evaluate, behind, hadd, List.append_nil]
    exact .unadded hroom hspelt hheard hadd
  | ok =>
    cases hdecode : b.decode (i + 1) with
    | error e =>
      simp only [evaluate, behind, hadd, hdecode]
      exact .undecoded hroom hspelt hheard hadd hdecode
    | ok =>
      have hpasses : Passes b attached first i := ⟨hspelt, hheard, hadd, hdecode⟩
      cases hnext : r.result? (first + i + 1 : Nat) with
      | none =>
        simp only [evaluate, behind, hadd, hdecode, hsucc, hnext]
        refine .overrun hroom hpasses fun hhas => ?_
        cases hnext.symm.trans hhas
      | some position =>
        obtain rfl := hr.eq_of_result? hnext
        simp only [evaluate, behind, hadd, hdecode, hsucc, hnext]
        exact .passed hroom hpasses hnext

/-- A token whose bytes the library has is given out, if the consumer is there for its text. -/
theorem turn_utter (hr : r.IsFaithful) {i : Nat} (hroom : first + i < size)
    (hend : b.isEnd (b.sample i) = false) {bytes : List UInt8}
    (hbytes : b.bytes i (b.sample i) = .ok bytes) :
    Turn r b size attached first i
      (sampling first i :: (utter r b attached (behind b first i) (b.sample i) bytes).1)
      (utter r b attached (behind b first i) (b.sample i) bytes).2 := by
  have hspelt : IsSpelt b i := ⟨hend, bytes, hbytes⟩
  have hpush : (buffer b i).push bytes = (text? b i, buffer b (i + 1)) := by
    rw [text?, buffer_succ, piece_eq b hbytes]
  have hstate : (behind b first i).buffer.push bytes = (text? b i, buffer b (i + 1)) := hpush
  by_cases hheard : IsHeard b attached i
  · have hgo : ((text? b i).isSome && !attached i) = false := by
      cases htext : (text? b i).isSome with
      | false => rfl
      | true => simp [hheard htext]
    have hgo' : ((text? b i).isSome && !attached (behind b first i).sampled) = false := hgo
    simp only [utter, hstate, hgo', Bool.false_eq_true, if_false]
    exact turn_evaluate hr hroom hspelt hheard
  · obtain ⟨htext, hgone⟩ := Classical.not_imp.mp hheard
    obtain ⟨text, htext⟩ := Option.isSome_iff_exists.mp htext
    have hgone : attached i = false := by simpa using hgone
    have hstop : attached (behind b first i).sampled = false := hgone
    simp only [utter, hstate, htext, hstop, Option.isSome_some, Bool.not_false, Bool.and_self,
      if_true]
    exact .unheard hroom hspelt htext hgone

/-- **What becomes of a token.** -/
theorem turn_step (b : Backend) (size : Nat) (attached : Nat → Bool) (hr : r.IsFaithful) {i : Nat}
    (hfirst : 1 ≤ first) (hhas : r.Has (first + i)) :
    Turn r b size attached first i (step r b size attached (behind b first i)).1
      (step r b size attached (behind b first i)).2 := by
  rw [step, isFull_behind, result?_behind hr hfirst hhas]
  by_cases hfull : size ≤ first + i
  · simp only [hfull, decide_true, if_true]
    exact .full hfull
  have hroom : first + i < size := Nat.lt_of_not_le hfull
  have htoken : (behind b first i).sampled = i := rfl
  simp only [hfull, decide_false, Bool.false_eq_true, if_false, htoken]
  cases hend : b.isEnd (b.sample i) with
  | true => exact .ended hroom hend
  | false =>
    cases hbytes : b.bytes i (b.sample i) with
    | error e => exact .unspelt hroom hend hbytes
    | ok bytes => exact turn_utter hr hroom hend hbytes

end Decoding

end StreamedInference
