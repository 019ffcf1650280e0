import StreamedInference.Proofs.Text.Scan
import StreamedInference.Text.Buffer

/-!
# Text from pieces of bytes

As long as some text begins with the bytes of the pieces, a buffer gives out every character as soon
as its last byte has come, and holds the beginning of one character at most. Bytes with which no
text begins are given out at once, together with all others that are held; a beginning of a
character behind them is lost with them. So the text of a stream depends on how it is cut, and it
does exactly if the rest of such a character comes with a later piece: each of its bytes is then
replaced, where one character would have stood for them and the beginning.

## Main definitions

* `TextBuffer.textOf`: what is given out for some pieces in all.
* `TextBuffer.Breaks`: a character is given out although its rest is still to come.

## Main results

* `TextBuffer.gives_whole_characters`: characters are neither held back nor broken.
* `TextBuffer.textOf_eq_lossy_iff`: when the text does not depend on the cuts.
-/

namespace StreamedInference

namespace TextBuffer

open Utf8

variable {b : TextBuffer} {piece : List UInt8}

/-! ### One piece -/

theorem finish_of_eq_nil (h : b.held = []) : b.finish = (none, ⟨[]⟩) := by
  simp [finish, h]

theorem finish_of_ne_nil (h : b.held ≠ []) :
    b.finish = (some (String.ofList (lossy b.held)), ⟨[]⟩) := by
  simp [finish, h]

/-- What is given out in the end are the held bytes, read with replacement characters. -/
theorem join_finish (b : TextBuffer) :
    String.join b.finish.1.toList = String.ofList (lossy b.held) := by
  by_cases h : b.held = []
  · simp [finish, h]
  · simp [finish_of_ne_nil h]

theorem finish_ne_empty (b : TextBuffer) : b.finish.1 ≠ some "" := by
  by_cases h : b.held = []
  · simp [finish, h]
  · simp [finish_of_ne_nil h, lossy_ne_nil h]

/-- As long as a text begins with the bytes, the whole characters are given out and the rest is
held. -/
theorem push_of_isOpening (h : IsOpening (b.held ++ piece)) :
    b.push piece =
      (if (span (b.held ++ piece)).1 = [] then none
        else some (String.ofList (span (b.held ++ piece)).1), ⟨(span (b.held ++ piece)).2⟩) := by
  have hwhole := encode_span (b.held ++ piece)
  simp only [push]
  split
  · rename_i rest hrest
    exact absurd ⟨rest, hrest⟩ (isOpening_iff.mp h)
  · by_cases hnone : (span (b.held ++ piece)).1 = []
    · simp_all
    · simp [hnone]

/-- If no text begins with the bytes, all of them are given out. -/
theorem push_of_not_isOpening (h : ¬ IsOpening (b.held ++ piece)) :
    b.push piece = (some (String.ofList (lossy (b.held ++ piece))), ⟨[]⟩) := by
  obtain ⟨rest, hrest⟩ := not_not.mp (mt isOpening_iff.mpr h)
  have hheld : b.held ++ piece ≠ [] := by
    intro hnil
    exact h ⟨"", by simp [hnil]⟩
  simp only [push, hrest]
  exact finish_of_ne_nil hheld

/-- No more than the beginning of a character is held. -/
theorem length_held_push (b : TextBuffer) (piece : List UInt8) :
    (b.push piece).2.held.length ≤ 3 := by
  by_cases h : IsOpening (b.held ++ piece)
  · rw [push_of_isOpening h]
    obtain hnil | hbegins | hinvalid := span_snd (b.held ++ piece)
    · simp [hnil]
    · exact hbegins.length_le
    · exact absurd hinvalid (isOpening_iff.mp h)
  · simp [push_of_not_isOpening h]

theorem push_ne_empty (b : TextBuffer) (piece : List UInt8) : (b.push piece).1 ≠ some "" := by
  by_cases h : IsOpening (b.held ++ piece)
  · rw [push_of_isOpening h]
    split <;> simp_all
  · have hheld : b.held ++ piece ≠ [] := by
      intro hnil
      exact h ⟨"", by simp [hnil]⟩
    simpa [push_of_not_isOpening h] using lossy_ne_nil hheld

/-! ### Any number of pieces -/

@[simp] theorem pushAll_nil (b : TextBuffer) : b.pushAll [] = ([], b) := rfl

theorem pushAll_cons (b : TextBuffer) (piece : List UInt8) (pieces : List (List UInt8)) :
    b.pushAll (piece :: pieces) =
      ((b.push piece).1.toList ++ ((b.push piece).2.pushAll pieces).1,
        ((b.push piece).2.pushAll pieces).2) := rfl

theorem pushAll_append (b : TextBuffer) (pieces more : List (List UInt8)) :
    b.pushAll (pieces ++ more) =
      ((b.pushAll pieces).1 ++ ((b.pushAll pieces).2.pushAll more).1,
        ((b.pushAll pieces).2.pushAll more).2) := by
  induction pieces generalizing b with
  | nil => rfl
  | cons piece pieces ih => rw [List.cons_append, pushAll_cons, ih, pushAll_cons, List.append_assoc]

theorem length_held_pushAll (h : b.held.length ≤ 3) (pieces : List (List UInt8)) :
    (b.pushAll pieces).2.held.length ≤ 3 := by
  induction pieces generalizing b with
  | nil => exact h
  | cons piece pieces ih => exact ih (length_held_push b piece)

theorem ne_empty_of_mem_pushAll {pieces : List (List UInt8)} {text : String}
    (h : text ∈ (b.pushAll pieces).1) : text ≠ "" := by
  induction pieces generalizing b with
  | nil => cases h
  | cons piece pieces ih =>
    rw [pushAll_cons, List.mem_append, Option.mem_toList] at h
    rcases h with h | h
    · rintro rfl
      exact push_ne_empty b piece h
    · exact ih h

/-- As long as a text begins with all bytes, the whole characters have been given out and the rest
is held, however the bytes were cut. -/
theorem pushAll_of_isOpening {pieces : List (List UInt8)} (hb : (span b.held).1 = [])
    (h : IsOpening (b.held ++ pieces.flatten)) :
    String.join (b.pushAll pieces).1 = String.ofList (span (b.held ++ pieces.flatten)).1 ∧
      (b.pushAll pieces).2.held = (span (b.held ++ pieces.flatten)).2 := by
  induction pieces generalizing b with
  | nil =>
    have hwhole := encode_span b.held
    simp_all
  | cons piece pieces ih =>
    rw [List.flatten_cons, ← List.append_assoc] at h ⊢
    have hpush := push_of_isOpening h.of_append
    obtain ⟨htexts, hheld⟩ := ih (b := (b.push piece).2) (by rw [hpush, span_span_snd]) (by
      rw [isOpening_iff, span_append] at h
      rw [isOpening_iff, hpush]
      exact h)
    rw [pushAll_cons, span_append, String.join_append, htexts, hheld, hpush, String.ofList_append]
    refine ⟨congrArg (· ++ _) ?_, rfl⟩
    split <;> simp_all

/-- **Characters are neither held back nor broken.** Let a text begin with the bytes of some
pieces. Then after each piece,

* the text given out so far is the longest one whose bytes have come, and the bytes behind it, three
  at most, are held;
* in the end a replacement character would be given out if the bytes stop within a character, and
  otherwise nothing.

Of any other pieces, too, no more than three bytes are held behind the last one, and no text that is
given out is empty. -/
theorem gives_whole_characters (pieces : List (List UInt8)) :
    (IsOpening pieces.flatten → ∀ before, before <+: pieces → ∃ chars,
      String.join (pushAll {} before).1 = String.ofList chars ∧
      before.flatten = encode chars ++ (pushAll {} before).2.held ∧
      (∀ cs, encode cs <+: before.flatten → cs <+: chars) ∧
      (pushAll {} before).2.held.length ≤ 3 ∧
      (pushAll {} before).2.finish.1 =
        if (decode? before.flatten).isSome then none else some (String.ofList [replacement])) ∧
    (pushAll {} pieces).2.held.length ≤ 3 ∧
    (∀ text ∈ (pushAll {} pieces).1, text ≠ "") ∧
    (pushAll {} pieces).2.finish.1 ≠ some "" := by
  refine ⟨?_, length_held_pushAll (by simp) pieces, fun _ => ne_empty_of_mem_pushAll,
    finish_ne_empty _⟩
  rintro hpieces before ⟨after, rfl⟩
  rw [List.flatten_append] at hpieces
  have hopening : IsOpening before.flatten := hpieces.of_append
  have hempty : (span []).1 = [] := by rw [span]; rfl
  obtain ⟨htexts, hheld⟩ := pushAll_of_isOpening (b := {}) hempty hopening
  rw [List.nil_append] at htexts hheld
  refine ⟨(span before.flatten).1, htexts, ?_, fun _ => isPrefix_span,
    length_held_pushAll (by simp) before, ?_⟩
  · rw [hheld]
    exact (encode_span _).symm
  · simp only [isSome_decode?_iff]
    obtain hnil | hbegins | hinvalid := span_snd before.flatten
    · rw [if_pos hnil, finish_of_eq_nil (hheld.trans hnil)]
    · have hne : (pushAll {} before).2.held ≠ [] := hheld ▸ hbegins.ne_nil
      rw [if_neg hbegins.ne_nil, finish_of_ne_nil hne, hheld, hbegins.lossy_eq]
    · exact absurd hinvalid (isOpening_iff.mp hopening)

/-- A snowman behind a letter, in three pieces: behind two of them its last byte is missing. -/
theorem gives_whole_characters_of_snowman :
    IsOpening [0x61, 0xe2, 0x98, 0x83] ∧ ∃ chars,
      String.join (pushAll {} [[0x61, 0xe2], [0x98]]).1 = String.ofList chars ∧
      [0x61, 0xe2, 0x98] = encode chars ++ (pushAll {} [[0x61, 0xe2], [0x98]]).2.held ∧
      (pushAll {} [[0x61, 0xe2], [0x98]]).2.finish.1 = some (String.ofList [replacement]) := by
  have hopening : IsOpening [0x61, 0xe2, 0x98, 0x83] := ⟨"a☃", [], by decide +kernel⟩
  have hcut : (decode? [0x61, 0xe2, 0x98]).isSome = false := by decide +kernel
  obtain ⟨hwhole, -⟩ := gives_whole_characters [[0x61, 0xe2], [0x98], [0x83]]
  obtain ⟨chars, htexts, hbytes, -, -, hend⟩ :=
    hwhole hopening [[0x61, 0xe2], [0x98]] ⟨[[0x83]], rfl⟩
  refine ⟨hopening, chars, htexts, hbytes, hend.trans ?_⟩
  simp [hcut]

/-! ### The text of all pieces -/

/-- What is given out for some pieces in all. -/
def textOf (b : TextBuffer) (pieces : List (List UInt8)) : String :=
  String.join ((b.pushAll pieces).1 ++ (b.pushAll pieces).2.finish.1.toList)

/-- Some piece has bytes with which no text begins, so that all bytes are given out, and the bytes
behind it go on with a character that begins at its end. -/
inductive Breaks : TextBuffer → List (List UInt8) → Prop
  | here {b : TextBuffer} {piece : List UInt8} {pieces : List (List UInt8)}
      (hbad : ¬ IsOpening (b.held ++ piece)) (hbegins : Begins (unfinished (b.held ++ piece)))
      (hgoes : GoesOn (unfinished (b.held ++ piece)) pieces.flatten) : Breaks b (piece :: pieces)
  | later {b : TextBuffer} {piece : List UInt8} {pieces : List (List UInt8)}
      (h : Breaks (b.push piece).2 pieces) : Breaks b (piece :: pieces)

theorem toList_textOf_nil (b : TextBuffer) : (b.textOf []).toList = lossy b.held := by
  simp [textOf, join_finish]

theorem toList_textOf_of_isOpening (h : IsOpening (b.held ++ piece))
    (pieces : List (List UInt8)) :
    (b.textOf (piece :: pieces)).toList =
      (span (b.held ++ piece)).1 ++ ((b.push piece).2.textOf pieces).toList := by
  rw [textOf, textOf, pushAll_cons, List.append_assoc, String.join_append, String.toList_append]
  refine congrArg (· ++ _) ?_
  rw [push_of_isOpening h]
  split <;> simp_all

theorem toList_textOf_of_not_isOpening (h : ¬ IsOpening (b.held ++ piece))
    (pieces : List (List UInt8)) :
    (b.textOf (piece :: pieces)).toList =
      lossy (b.held ++ piece) ++ (textOf {} pieces).toList := by
  rw [textOf, textOf, pushAll_cons, List.append_assoc, String.join_append, String.toList_append]
  simp [push_of_not_isOpening h]

/-- The bytes held behind a piece are read together with those to come. -/
theorem lossy_of_isOpening (h : IsOpening (b.held ++ piece)) (bs : List UInt8) :
    lossy (b.held ++ (piece ++ bs)) =
      (span (b.held ++ piece)).1 ++ lossy ((b.push piece).2.held ++ bs) := by
  rw [push_of_isOpening h, ← lossy_encode_append, ← List.append_assoc, ← List.append_assoc,
    encode_span]

/-- If no character breaks, the text does not depend on the cuts. -/
theorem toList_textOf_of_not_breaks {pieces : List (List UInt8)} (h : ¬ Breaks b pieces) :
    (b.textOf pieces).toList = lossy (b.held ++ pieces.flatten) := by
  induction pieces generalizing b with
  | nil => simp [toList_textOf_nil]
  | cons piece pieces ih =>
    have hlater := ih fun hb => h (.later hb)
    by_cases hopening : IsOpening (b.held ++ piece)
    · rw [toList_textOf_of_isOpening hopening, hlater, List.flatten_cons,
        lossy_of_isOpening hopening]
    · simp only [push_of_not_isOpening hopening, List.nil_append] at hlater
      rw [toList_textOf_of_not_isOpening hopening, hlater, List.flatten_cons, ← List.append_assoc,
        lossy_append_of_not fun ⟨hbegins, hgoes⟩ => h (.here hopening hbegins hgoes)]

theorem length_lossy_le (b : TextBuffer) (pieces : List (List UInt8)) :
    (lossy (b.held ++ pieces.flatten)).length ≤ (b.textOf pieces).toList.length := by
  induction pieces generalizing b with
  | nil => simp [toList_textOf_nil]
  | cons piece pieces ih =>
    have hlater := ih (b.push piece).2
    rw [List.flatten_cons]
    by_cases hopening : IsOpening (b.held ++ piece)
    · rw [toList_textOf_of_isOpening hopening, lossy_of_isOpening hopening]
      simpa using hlater
    · simp only [push_of_not_isOpening hopening, List.nil_append] at hlater
      have hparts := length_lossy_append_le (b.held ++ piece) pieces.flatten
      rw [toList_textOf_of_not_isOpening hopening, List.length_append, ← List.append_assoc]
      omega

/-- If a character breaks, there are more characters than without the cuts. -/
theorem length_lossy_lt {pieces : List (List UInt8)} (h : Breaks b pieces) :
    (lossy (b.held ++ pieces.flatten)).length < (b.textOf pieces).toList.length := by
  induction h with
  | @here b piece pieces hbad hbegins hgoes =>
    have hparts := length_lossy_append_lt hbegins hgoes
    have hlater := length_lossy_le {} pieces
    rw [List.nil_append] at hlater
    rw [toList_textOf_of_not_isOpening hbad, List.length_append, List.flatten_cons,
      ← List.append_assoc]
    omega
  | @later b piece pieces h ih =>
    rw [List.flatten_cons]
    by_cases hopening : IsOpening (b.held ++ piece)
    · rw [toList_textOf_of_isOpening hopening, lossy_of_isOpening hopening]
      simpa using ih
    · simp only [push_of_not_isOpening hopening, List.nil_append] at ih
      have hparts := length_lossy_append_le (b.held ++ piece) pieces.flatten
      rw [toList_textOf_of_not_isOpening hopening, List.length_append, ← List.append_assoc]
      omega

/-- **When a text does not depend on the cuts.** What is given out for pieces, the last bytes
included, is what is read of all bytes at once with replacement characters, exactly if no character
is given out in a piece with which no text begins while its rest comes later. Otherwise there are
more characters. -/
theorem textOf_eq_lossy_iff (pieces : List (List UInt8)) :
    (textOf {} pieces = String.ofList (lossy pieces.flatten) ↔ ¬ Breaks {} pieces) ∧
    (Breaks {} pieces → (lossy pieces.flatten).length < (textOf {} pieces).length) := by
  have hlonger : Breaks {} pieces → (lossy pieces.flatten).length < (textOf {} pieces).length :=
    fun h => by
      rw [← String.length_toList]
      exact length_lossy_lt h
  refine ⟨⟨fun heq hbreaks => ?_, fun h => ?_⟩, hlonger⟩
  · have hlt := hlonger hbreaks
    rw [heq, String.length_ofList] at hlt
    exact Nat.lt_irrefl _ hlt
  · rw [← String.toList_inj, toList_textOf_of_not_breaks h, String.toList_ofList, List.nil_append]

/-- **A cut may break a character.** The first piece has a byte that is in no text, and the first
byte of a snowman; the other two come with the second piece. -/
theorem breaks_snowman :
    textOf {} [[0xff, 0xe2], [0x98, 0x83]] = "\ufffd\ufffd\ufffd\ufffd" ∧
      String.ofList (lossy [0xff, 0xe2, 0x98, 0x83]) = "\ufffd☃" ∧
      ¬ ∀ pieces, textOf {} pieces = String.ofList (lossy pieces.flatten) := by
  have htext : textOf {} [[0xff, 0xe2], [0x98, 0x83]] = "\ufffd\ufffd\ufffd\ufffd" := by
    decide +kernel
  have hwhole : String.ofList (lossy [0xff, 0xe2, 0x98, 0x83]) = "\ufffd☃" := by decide +kernel
  refine ⟨htext, hwhole, fun h => ?_⟩
  have hsame := (htext.symm.trans (h _)).trans hwhole
  exact absurd hsame (by decide)

end TextBuffer

end StreamedInference
