import Mathlib.Data.List.Basic
import StreamedInference.Net.Percent

/-!
# What escapes stand for

Escaping a part of a URL does not change what it stands for, since a percent sign is never escaped:
where the text before had an escape, the text after has the same one. So a text stands for itself
exactly if there is no escape in it; with one it stands for something shorter.

## Main definitions

* `Percent.escape?`: the byte of an escape whose percent sign has been read.
* `Percent.hasEscape`: an escape stands somewhere in a text.
* `Percent.Spares`: what a part of a URL has to leave as it is for escapes to keep their meaning.

## Main results

* `Percent.decode_encode`: a text stands for the same before and after escaping.
* `Percent.decode_eq_encode_iff`: a text stands for itself exactly if there is no escape in it.
-/

namespace StreamedInference

/-! ### Numbers of bytes -/

namespace Utf8

variable {cs cs' : List Char}

theorem length_encode_cons (c : Char) (cs : List Char) :
    (encode (c :: cs)).length = c.utf8Size + (encode cs).length := by
  rw [encode, List.flatMap_cons, List.length_append, String.length_utf8EncodeChar]
  rfl

theorem length_encode_le (h : cs'.Sublist cs) : (encode cs').length ≤ (encode cs).length := by
  induction h with
  | slnil => exact Nat.le_refl _
  | cons c _ ih => exact Nat.le_trans ih (length_encode_cons c _ ▸ Nat.le_add_left _ _)
  | cons_cons c _ ih =>
    rw [length_encode_cons, length_encode_cons]
    exact Nat.add_le_add_left ih _

/-- What is left of a text has fewer bytes, unless nothing has been left out. -/
theorem eq_of_sublist (h : cs'.Sublist cs) (hle : (encode cs).length ≤ (encode cs').length) :
    cs' = cs := by
  induction h with
  | slnil => rfl
  | cons c hs ih =>
    rw [length_encode_cons] at hle
    have hpos := c.utf8Size_pos
    have hsub := length_encode_le hs
    omega
  | cons_cons c _ ih =>
    rw [length_encode_cons, length_encode_cons] at hle
    rw [ih (Nat.le_of_add_le_add_left hle)]

end Utf8

namespace Percent

/-- The byte of an escape whose percent sign stands before a text, and what stands behind it. -/
def escape? : List Char → Option (UInt8 × List Char)
  | a :: b :: cs => (byte? a b).map (·, cs)
  | _ => none

/-- An escape stands somewhere in a text. -/
def hasEscape : List Char → Bool
  | [] => false
  | c :: cs => (c == '%' && (escape? cs).isSome) || hasEscape cs

/-- Neither percent signs nor hexadecimal digits are escaped. -/
structure Spares (escaped : Char → Bool) : Prop where
  percent : escaped '%' = false
  digit : ∀ c, (digitValue? c).isSome = true → escaped c = false

variable {escaped : Char → Bool} {a b c : Char} {cs rest : List Char} {x : UInt8}

/-! ### Digits -/

theorem isSome_digitValue?_iff : (digitValue? c).isSome = true ↔
    c.isDigit = true ∨ ('a' ≤ c ∧ c ≤ 'f') ∨ ('A' ≤ c ∧ c ≤ 'F') := by
  unfold digitValue?
  split
  · simp [*]
  · split
    · simp_all
    · split <;> simp_all

/-- A digit is neither a control character nor beyond the ASCII range. -/
theorem toNat_of_digitValue? (h : (digitValue? c).isSome = true) :
    0x20 ≤ c.toNat ∧ c.toNat ≤ 0x7e := by
  rcases isSome_digitValue?_iff.1 h with hd | ⟨hl, hu⟩ | ⟨hl, hu⟩
  · obtain ⟨hl, hu⟩ : 48 ≤ c.toNat ∧ c.toNat ≤ 57 := by
      simpa [Char.isDigit, UInt32.le_iff_toNat_le] using hd
    omega
  · have hl' : 97 ≤ c.toNat := hl
    have hu' : c.toNat ≤ 102 := hu
    omega
  · have hl' : 65 ≤ c.toNat := hl
    have hu' : c.toNat ≤ 70 := hu
    omega

theorem digitValue?_digit (n : Nat) : digitValue? (digit n) = some (n % 16) := by
  have hlt : n % 16 < 16 := Nat.mod_lt n (by decide)
  have hall : ∀ k < 16, digitValue? (Nat.digitChar k).toUpper = some k := by decide
  exact hall _ hlt

/-! ### Escapes -/

theorem escape?_cons (ha : digitValue? a = none) (cs : List Char) : escape? (a :: cs) = none := by
  match cs with
  | [] => rfl
  | b :: cs => simp [escape?, byte?, ha]

theorem escape?_cons_cons (hb : digitValue? b = none) (a : Char) (cs : List Char) :
    escape? (a :: b :: cs) = none := by
  cases ha : digitValue? a <;> simp [escape?, byte?, ha, hb]

/-- An escape ends with the two digits behind its percent sign. -/
theorem exists_of_escape? (h : escape? cs = some (x, rest)) :
    ∃ a b, cs = a :: b :: rest := by
  match cs with
  | [] => cases h
  | [a] => cases h
  | a :: b :: cs =>
    obtain ⟨y, -, hy⟩ := Option.map_eq_some_iff.1 h
    exact ⟨a, b, by rw [(Prod.mk.inj hy).2]⟩

/-- What a percent sign begins. -/
theorem decode_percent (cs : List Char) :
    decode ('%' :: cs) =
      match escape? cs with
      | some (x, rest) => x :: decode rest
      | none => 0x25 :: decode cs := by
  match cs with
  | [] => rfl
  | [a] => rfl
  | a :: b :: cs =>
    rw [decode, escape?]
    cases byte? a b <;> rfl

theorem decode_cons (hc : c ≠ '%') (cs : List Char) :
    decode (c :: cs) = String.utf8EncodeChar c ++ decode cs := by
  rw [decode]
  rintro a b cs rfl
  exact absurd rfl hc

/-- The escape of a byte stands for the byte. -/
theorem decode_escapeByte (x : UInt8) (cs : List Char) :
    decode (escapeByte x ++ cs) = x :: decode cs := by
  have hbyte : byte? (digit (x.toNat / 16)) (digit x.toNat) = some x := by
    rw [byte?, digitValue?_digit, digitValue?_digit]
    have hx : x.toNat < 256 := x.toNat_lt
    have hsum : x.toNat / 16 % 16 * 16 + x.toNat % 16 = x.toNat := by omega
    exact congrArg some ((congrArg UInt8.ofNat hsum).trans (UInt8.ofNat_toNat))
  rw [escapeByte, List.cons_append, decode_percent]
  simp only [List.cons_append, List.nil_append, escape?, hbyte, Option.map_some]

theorem decode_flatMap_escapeByte (bs : List UInt8) (cs : List Char) :
    decode (bs.flatMap escapeByte ++ cs) = bs ++ decode cs := by
  induction bs with
  | nil => rfl
  | cons b bs ih => rw [List.flatMap_cons, List.append_assoc, decode_escapeByte, ih]; rfl

/-! ### Escaping -/

/-- A character that is not left as it is. -/
def isEscaped (escaped : Char → Bool) (c : Char) : Bool :=
  c.toNat < 0x20 || 0x7e < c.toNat || escaped c

theorem encode_cons (escaped : Char → Bool) (c : Char) (cs : List Char) :
    encode escaped (c :: cs) =
      (if isEscaped escaped c then (String.utf8EncodeChar c).flatMap escapeByte else [c]) ++
        encode escaped cs :=
  rfl

theorem encode_cons_of_not (hc : isEscaped escaped c = false) (cs : List Char) :
    encode escaped (c :: cs) = c :: encode escaped cs := by
  rw [encode_cons, hc]
  rfl

/-- What is escaped becomes a percent sign and more. -/
theorem exists_encode_cons (hc : isEscaped escaped c = true) (cs : List Char) :
    ∃ rest, encode escaped (c :: cs) = '%' :: rest := by
  have hlen := String.length_utf8EncodeChar c
  rw [encode_cons, if_pos hc]
  cases hbytes : String.utf8EncodeChar c with
  | nil =>
    rw [hbytes, List.length_nil] at hlen
    exact absurd hlen (Nat.ne_of_lt c.utf8Size_pos)
  | cons x bs => exact ⟨_, rfl⟩

namespace Spares

theorem isEscaped_percent (h : Spares escaped) : isEscaped escaped '%' = false := by
  simp [isEscaped, h.percent]

theorem isEscaped_digit (h : Spares escaped) (hc : (digitValue? c).isSome = true) :
    isEscaped escaped c = false := by
  obtain ⟨hl, hu⟩ := toNat_of_digitValue? hc
  simp [isEscaped, h.digit c hc, Nat.not_lt.2 hl, Nat.not_lt.2 hu]

theorem digitValue?_of_isEscaped (h : Spares escaped) (hc : isEscaped escaped c = true) :
    digitValue? c = none := by
  cases hd : digitValue? c with
  | none => rfl
  | some n => simp [h.isEscaped_digit (c := c) (by simp [hd])] at hc

/-- A percent sign begins the same escape before and after escaping. -/
theorem escape?_encode (h : Spares escaped) (cs : List Char) :
    escape? (encode escaped cs) = (escape? cs).map fun (x, rest) => (x, encode escaped rest) := by
  match cs with
  | [] => rfl
  | a :: cs =>
    cases ha : isEscaped escaped a with
    | true =>
      obtain ⟨rest, hrest⟩ := exists_encode_cons ha cs
      rw [hrest, escape?_cons rfl, escape?_cons (h.digitValue?_of_isEscaped ha), Option.map_none]
    | false =>
      rw [encode_cons_of_not ha]
      match cs with
      | [] => rfl
      | b :: cs =>
        cases hb : isEscaped escaped b with
        | true =>
          obtain ⟨rest, hrest⟩ := exists_encode_cons hb cs
          rw [hrest, escape?_cons_cons rfl, escape?_cons_cons (h.digitValue?_of_isEscaped hb),
            Option.map_none]
        | false =>
          rw [encode_cons_of_not hb, escape?, escape?]
          cases byte? a b <;> rfl

end Spares

/-- Escapes keep their meaning in a path. -/
theorem spares_inPath : Spares inPath where
  percent := by decide
  digit c hc := by
    have hall : (" \"<>`#?".toList ++ ['\x7b', '\x7d']).all (fun d => (digitValue? d).isNone) =
        true := by decide
    rw [Bool.eq_false_iff]
    intro hpath
    have hmem : c ∈ " \"<>`#?".toList ++ ['\x7b', '\x7d'] := by
      simpa [inPath, or_assoc] using hpath
    have hnone := List.all_eq_true.1 hall c hmem
    rw [Option.isNone_iff_eq_none.1 hnone] at hc
    cases hc

/-- **A text stands for the same before and after escaping.** -/
theorem decode_encode (h : Spares escaped) (cs : List Char) :
    decode (encode escaped cs) = decode cs := by
  match cs with
  | [] => rfl
  | c :: cs =>
    by_cases hc : c = '%'
    · subst hc
      rw [encode_cons_of_not h.isEscaped_percent, decode_percent, decode_percent,
        h.escape?_encode]
      cases he : escape? cs with
      | none => exact congrArg _ (decode_encode h cs)
      | some e =>
        obtain ⟨a, b, rfl⟩ := exists_of_escape? he
        exact congrArg _ (decode_encode h e.2)
    · rw [decode_cons hc, encode_cons, ← decode_encode h cs]
      split
      · exact decode_flatMap_escapeByte _ _
      · exact decode_cons hc _
termination_by cs.length

/-! ### Texts in which no escape begins -/

theorem hasEscape_cons (c : Char) (cs : List Char) :
    hasEscape (c :: cs) = ((c == '%' && (escape? cs).isSome) || hasEscape cs) :=
  rfl

theorem hasEscape_of_not_mem (h : '%' ∉ cs) : hasEscape cs = false := by
  induction cs with
  | nil => rfl
  | cons c cs ih =>
    rw [List.mem_cons, not_or] at h
    rw [hasEscape, ih h.2, beq_false_of_ne (Ne.symm h.1)]
    rfl

/-- Neither does an escape begin behind a character that is no digit, nor does one go beyond it. -/
theorem hasEscape_append_cons {d : Char} (hd : digitValue? d = none) (hne : d ≠ '%')
    (hcs : '%' ∉ cs) (xs : List Char) : hasEscape (xs ++ d :: cs) = hasEscape xs := by
  induction xs with
  | nil =>
    rw [List.nil_append, hasEscape_cons, hasEscape_of_not_mem hcs, beq_false_of_ne hne]
    rfl
  | cons c xs ih =>
    have hescape : (escape? (xs ++ d :: cs)).isSome = (escape? xs).isSome := by
      match xs with
      | [] => rw [List.nil_append, escape?_cons hd]; rfl
      | [a] => rw [List.cons_append, List.nil_append, escape?_cons_cons hd]; rfl
      | a :: b :: xs => simp [escape?]
    rw [List.cons_append, hasEscape_cons, hasEscape_cons, ih, hescape]

/-! ### What a text stands for -/

/-- A text stands for no more bytes than it has. -/
theorem length_decode_le (cs : List Char) : (decode cs).length ≤ (Utf8.encode cs).length := by
  match cs with
  | [] => exact Nat.le_refl 0
  | c :: cs =>
    rw [Utf8.length_encode_cons]
    by_cases hc : c = '%'
    · subst hc
      have hone : '%'.utf8Size = 1 := rfl
      rw [decode_percent, hone, Nat.add_comm]
      cases he : escape? cs with
      | none => exact Nat.succ_le_succ (length_decode_le cs)
      | some e =>
        obtain ⟨a, b, rfl⟩ := exists_of_escape? he
        refine Nat.succ_le_succ (Nat.le_trans (length_decode_le e.2) ?_)
        exact Utf8.length_encode_le (((List.Sublist.refl e.2).cons b).cons a)
    · rw [decode_cons hc, List.length_append, String.length_utf8EncodeChar]
      exact Nat.add_le_add_left (length_decode_le cs) _
termination_by cs.length

/-- With an escape a text stands for fewer bytes than it has. -/
theorem length_decode_lt (h : hasEscape cs = true) :
    (decode cs).length < (Utf8.encode cs).length := by
  induction cs with
  | nil => cases h
  | cons c cs ih =>
    rw [hasEscape, Bool.or_eq_true, Bool.and_eq_true, beq_iff_eq] at h
    rw [Utf8.length_encode_cons]
    by_cases hc : c = '%'
    · subst hc
      have hone : '%'.utf8Size = 1 := rfl
      rw [decode_percent, hone, Nat.add_comm]
      cases he : escape? cs with
      | none => exact Nat.succ_lt_succ (ih (by simpa [he] using h))
      | some e =>
        obtain ⟨a, b, rfl⟩ := exists_of_escape? he
        refine Nat.succ_lt_succ (Nat.lt_of_le_of_lt (length_decode_le e.2) ?_)
        rw [Utf8.length_encode_cons, Utf8.length_encode_cons]
        have ha := a.utf8Size_pos
        omega
    · rw [decode_cons hc, List.length_append, String.length_utf8EncodeChar]
      exact Nat.add_lt_add_left (ih (h.resolve_left fun hp => hc hp.1)) _

/-- Without escapes a text stands for itself. -/
theorem decode_of_not_hasEscape (h : hasEscape cs = false) : decode cs = Utf8.encode cs := by
  induction cs with
  | nil => rfl
  | cons c cs ih =>
    rw [hasEscape, Bool.or_eq_false_iff] at h
    rw [Utf8.encode, List.flatMap_cons, ← Utf8.encode, ← ih h.2]
    by_cases hc : c = '%'
    · subst hc
      have hnone : escape? cs = none := by simpa using h.1
      rw [decode_percent, hnone]
      rfl
    · exact decode_cons hc cs

/-- **A text stands for itself exactly if there is no escape in it.** -/
theorem decode_eq_encode_iff : decode cs = Utf8.encode cs ↔ hasEscape cs = false := by
  refine ⟨fun h => ?_, decode_of_not_hasEscape⟩
  rw [Bool.eq_false_iff]
  intro he
  exact Nat.ne_of_lt (length_decode_lt he) (congrArg _ h)

end Percent

end StreamedInference
