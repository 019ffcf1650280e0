import Mathlib.Tactic.SplitIfs
import StreamedInference.Proofs.Json.Grammar

/-!
# Reading numbers and strings

The parts of a number follow one another as the grammar says: what may come behind a part, so that
the number is complete, is what the grammar leaves. The letters of a string are taken one by one;
the text read so far is kept, and with it the first half of a pair until the next letter shows what
it means.

## Main definitions

* `Json.NumberPart.Completes`: what completes a number behind one of its parts.
* `Json.NumberPart.Ends`: the parts of a number go through some characters to an end.
* `Json.Letters.add`: a letter behind those of a string.

## Main results

* `Json.NumberPart.ends_iff`, `Json.isNumeral_iff`: the texts of numbers, part by part.
* `Json.unescape?_eq_some_iff`, `Json.hexValue?_eq_some_iff`: the escapes of a string.
* `Json.Letters.close_foldl_add`: the text of a string.
-/

namespace StreamedInference.Json

/-! ### Numbers -/

namespace NumberPart

variable {p q : NumberPart} {c : Char} {cs ds : List Char}

/-- The parts of a number go on from one of them through some characters, and the number may end
behind these. -/
def Ends (p : NumberPart) (cs : List Char) : Prop :=
  ∃ q, cs.foldlM next? p = some q ∧ q.isEnd = true

@[simp] theorem ends_nil : Ends p [] ↔ p.isEnd = true := by
  simp [Ends]

@[simp] theorem ends_cons : Ends p (c :: cs) ↔ ∃ q, p.next? c = some q ∧ Ends q cs := by
  simp only [Ends, List.foldlM_cons, Option.bind_eq_bind, Option.bind_eq_some_iff]
  exact ⟨fun ⟨q, ⟨r, hr, hq⟩, hend⟩ => ⟨r, hr, q, hq, hend⟩,
    fun ⟨r, hr, q, hq, hend⟩ => ⟨q, ⟨r, hr, hq⟩, hend⟩⟩

/-- What completes a number behind a part. -/
inductive Completes : NumberPart → List Char → Prop
  | minus {whole fraction exponent : List Char} (hwhole : IsWhole whole)
      (hfraction : IsFraction fraction) (hexponent : IsExponent exponent) :
      Completes .minus (whole ++ fraction ++ exponent)
  | zero {fraction exponent : List Char} (hfraction : IsFraction fraction)
      (hexponent : IsExponent exponent) : Completes .zero (fraction ++ exponent)
  | whole {digits fraction exponent : List Char} (hdigits : AreDigits digits)
      (hfraction : IsFraction fraction) (hexponent : IsExponent exponent) :
      Completes .whole (digits ++ fraction ++ exponent)
  | point {digits exponent : List Char} (hne : digits ≠ []) (hdigits : AreDigits digits)
      (hexponent : IsExponent exponent) : Completes .point (digits ++ exponent)
  | fraction {digits exponent : List Char} (hdigits : AreDigits digits)
      (hexponent : IsExponent exponent) : Completes .fraction (digits ++ exponent)
  | letter {sign digits : List Char} (hsign : sign = [] ∨ sign = ['+'] ∨ sign = ['-'])
      (hne : digits ≠ []) (hdigits : AreDigits digits) : Completes .letter (sign ++ digits)
  | sign {digits : List Char} (hne : digits ≠ []) (hdigits : AreDigits digits) :
      Completes .sign digits
  | exponent {digits : List Char} (hdigits : AreDigits digits) : Completes .exponent digits

theorem areDigits_nil : AreDigits [] :=
  nofun

theorem areDigits_cons (hc : c.isDigit = true) (hcs : AreDigits cs) : AreDigits (c :: cs) :=
  List.forall_mem_cons.2 ⟨hc, hcs⟩

theorem completes_of_isEnd (h : p.isEnd = true) : Completes p [] := by
  cases p with
  | zero => exact .zero .none .none
  | whole => exact .whole areDigits_nil .none .none
  | fraction => exact .fraction areDigits_nil .none
  | exponent => exact .exponent areDigits_nil
  | _ => cases h

/-- The letter of an exponent begins one. -/
theorem isExponent_of_exponentLetter? (h : exponentLetter? c = some q) (hcs : Completes q cs) :
    IsExponent (c :: cs) := by
  unfold exponentLetter? at h
  split_ifs at h with he
  obtain rfl := Option.some.inj h
  cases hcs with
  | letter hsign hne hdigits => exact .digits (by simpa using he) hsign hne hdigits

/-- A point begins a fraction. -/
theorem exists_of_pointOrLetter? (h : pointOrLetter? c = some q) (hcs : Completes q cs) :
    ∃ fraction exponent, IsFraction fraction ∧ IsExponent exponent ∧
      c :: cs = fraction ++ exponent := by
  unfold pointOrLetter? at h
  split_ifs at h with hpoint
  · obtain rfl := beq_iff_eq.1 hpoint
    obtain rfl := Option.some.inj h
    cases hcs with
    | point hne hdigits hexponent => exact ⟨_, _, .digits hne hdigits, hexponent, rfl⟩
  · exact ⟨[], _, .none, isExponent_of_exponentLetter? h hcs, rfl⟩

theorem first?_eq_minus_iff : first? c = some .minus ↔ c = '-' := by
  unfold first?
  split_ifs with hminus hzero hdigit <;> simp_all

/-- The digits before the point begin with one that is no zero, or they are a zero. -/
theorem exists_of_first? (h : first? c = some q) (hne : q ≠ .minus) (hcs : Completes q cs) :
    ∃ whole fraction exponent, IsWhole whole ∧ IsFraction fraction ∧ IsExponent exponent ∧
      c :: cs = whole ++ fraction ++ exponent := by
  unfold first? at h
  split_ifs at h with hminus hzero hdigit
  · exact absurd (Option.some.inj h).symm hne
  · obtain rfl := beq_iff_eq.1 hzero
    obtain rfl := Option.some.inj h
    cases hcs with
    | zero hfraction hexponent => exact ⟨['0'], _, _, .zero, hfraction, hexponent, rfl⟩
  · obtain rfl := Option.some.inj h
    cases hcs with
    | whole hdigits hfraction hexponent =>
      exact ⟨_, _, _, .digits hdigit (by simpa using hzero) hdigits, hfraction, hexponent, rfl⟩

/-- What completes a number behind the next part completes it, with the character of this part in
front, behind a part. -/
theorem Completes.of_next (h : p.next? c = some q) (hcs : Completes q cs) :
    Completes p (c :: cs) := by
  cases p with
  | minus =>
    simp only [next?] at h
    split_ifs at h with hminus
    have hne : q ≠ .minus := by
      rintro rfl
      exact hminus (beq_iff_eq.2 (first?_eq_minus_iff.1 h))
    obtain ⟨whole, fraction, exponent, hwhole, hfraction, hexponent, heq⟩ :=
      exists_of_first? h hne hcs
    rw [heq]
    exact .minus hwhole hfraction hexponent
  | zero =>
    obtain ⟨fraction, exponent, hfraction, hexponent, heq⟩ := exists_of_pointOrLetter? h hcs
    rw [heq]
    exact .zero hfraction hexponent
  | whole =>
    simp only [next?] at h
    split_ifs at h with hdigit
    · obtain rfl := Option.some.inj h
      cases hcs with
      | whole hdigits hfraction hexponent =>
        exact .whole (areDigits_cons hdigit hdigits) hfraction hexponent
    · obtain ⟨fraction, exponent, hfraction, hexponent, heq⟩ := exists_of_pointOrLetter? h hcs
      rw [heq]
      exact .whole areDigits_nil hfraction hexponent
  | point =>
    simp only [next?] at h
    split_ifs at h with hdigit
    obtain rfl := Option.some.inj h
    cases hcs with
    | fraction hdigits hexponent =>
      exact .point (List.cons_ne_nil _ _) (areDigits_cons hdigit hdigits) hexponent
  | fraction =>
    simp only [next?] at h
    split_ifs at h with hdigit
    · obtain rfl := Option.some.inj h
      cases hcs with
      | fraction hdigits hexponent => exact .fraction (areDigits_cons hdigit hdigits) hexponent
    · show Completes .fraction ([] ++ c :: cs)
      exact .fraction areDigits_nil (isExponent_of_exponentLetter? h hcs)
  | letter =>
    simp only [next?] at h
    split_ifs at h with hsign hdigit
    · obtain rfl := Option.some.inj h
      cases hcs with
      | sign hne hdigits =>
        show Completes .letter ([c] ++ cs)
        exact .letter (.inr (by simpa using hsign)) hne hdigits
    · obtain rfl := Option.some.inj h
      cases hcs with
      | exponent hdigits =>
        show Completes .letter ([] ++ c :: cs)
        exact .letter (.inl rfl) (List.cons_ne_nil _ _) (areDigits_cons hdigit hdigits)
  | sign =>
    simp only [next?] at h
    split_ifs at h with hdigit
    obtain rfl := Option.some.inj h
    cases hcs with
    | exponent hdigits => exact .sign (List.cons_ne_nil _ _) (areDigits_cons hdigit hdigits)
  | exponent =>
    simp only [next?] at h
    split_ifs at h with hdigit
    obtain rfl := Option.some.inj h
    cases hcs with
    | exponent hdigits => exact .exponent (areDigits_cons hdigit hdigits)

theorem Ends.completes (h : Ends p cs) : Completes p cs := by
  induction cs generalizing p with
  | nil => exact completes_of_isEnd (ends_nil.1 h)
  | cons c cs ih =>
    obtain ⟨q, hq, hcs⟩ := ends_cons.1 h
    exact (ih hcs).of_next hq

/-- Digits go on with a part behind which they change nothing. -/
theorem ends_append_of_areDigits (hp : ∀ c : Char, c.isDigit = true → p.next? c = some p)
    (hds : AreDigits ds) (hcs : Ends p cs) : Ends p (ds ++ cs) := by
  induction ds with
  | nil => exact hcs
  | cons d ds ih =>
    rw [AreDigits, List.forall_mem_cons] at hds
    exact ends_cons.2 ⟨p, hp d hds.1, ih hds.2⟩

theorem ends_exponent (hds : AreDigits ds) : Ends .exponent ds :=
  List.append_nil ds ▸ ends_append_of_areDigits (fun c hc => by simp [next?, hc]) hds
    (ends_nil.2 rfl)

theorem ends_sign (hne : ds ≠ []) (hds : AreDigits ds) : Ends .sign ds := by
  obtain ⟨d, ds, rfl⟩ := List.exists_cons_of_ne_nil hne
  rw [AreDigits, List.forall_mem_cons] at hds
  exact ends_cons.2 ⟨.exponent, by simp [next?, hds.1], ends_exponent hds.2⟩

theorem ends_letter {sign : List Char} (hsign : sign = [] ∨ sign = ['+'] ∨ sign = ['-'])
    (hne : ds ≠ []) (hds : AreDigits ds) : Ends .letter (sign ++ ds) := by
  rcases hsign with rfl | rfl | rfl
  · obtain ⟨d, ds, rfl⟩ := List.exists_cons_of_ne_nil hne
    rw [AreDigits, List.forall_mem_cons] at hds
    have hsign : d ≠ '+' ∧ d ≠ '-' := by
      constructor <;> rintro rfl <;> exact absurd hds.1 (by decide)
    exact ends_cons.2 ⟨.exponent, by simp [next?, hsign, hds.1], ends_exponent hds.2⟩
  all_goals exact ends_cons.2 ⟨.sign, rfl, ends_sign hne hds⟩

/-- An exponent completes a number behind a part that may end it and that the letter may follow. -/
theorem ends_of_isExponent (hend : p.isEnd = true)
    (hp : ∀ c : Char, c = 'e' ∨ c = 'E' → p.next? c = some .letter) (hcs : IsExponent cs) :
    Ends p cs := by
  cases hcs with
  | none => exact ends_nil.2 hend
  | digits he hsign hne hds => exact ends_cons.2 ⟨.letter, hp _ he, ends_letter hsign hne hds⟩

theorem ends_fraction {exponent : List Char} (hds : AreDigits ds)
    (hexponent : IsExponent exponent) : Ends .fraction (ds ++ exponent) := by
  refine ends_append_of_areDigits (fun c hc => by simp [next?, hc]) hds ?_
  exact ends_of_isExponent rfl (by rintro c (rfl | rfl) <;> rfl) hexponent

theorem ends_point {exponent : List Char} (hne : ds ≠ []) (hds : AreDigits ds)
    (hexponent : IsExponent exponent) : Ends .point (ds ++ exponent) := by
  obtain ⟨d, ds, rfl⟩ := List.exists_cons_of_ne_nil hne
  rw [AreDigits, List.forall_mem_cons] at hds
  exact ends_cons.2 ⟨.fraction, by simp [next?, hds.1], ends_fraction hds.2 hexponent⟩

/-- A fraction and an exponent complete a number behind a part that may end it and that the point
and the letter may follow. -/
theorem ends_of_isFraction {fraction exponent : List Char} (hend : p.isEnd = true)
    (hpoint : p.next? '.' = some .point)
    (hp : ∀ c : Char, c = 'e' ∨ c = 'E' → p.next? c = some .letter)
    (hfraction : IsFraction fraction) (hexponent : IsExponent exponent) :
    Ends p (fraction ++ exponent) := by
  cases hfraction with
  | none => exact ends_of_isExponent hend hp hexponent
  | digits hne hds => exact ends_cons.2 ⟨.point, hpoint, ends_point hne hds hexponent⟩

theorem ends_zero {fraction exponent : List Char} (hfraction : IsFraction fraction)
    (hexponent : IsExponent exponent) : Ends .zero (fraction ++ exponent) :=
  ends_of_isFraction rfl rfl (by rintro c (rfl | rfl) <;> rfl) hfraction hexponent

theorem ends_whole {fraction exponent : List Char} (hds : AreDigits ds)
    (hfraction : IsFraction fraction) (hexponent : IsExponent exponent) :
    Ends .whole (ds ++ fraction ++ exponent) := by
  rw [List.append_assoc]
  refine ends_append_of_areDigits (fun c hc => by simp [next?, hc]) hds ?_
  exact ends_of_isFraction rfl rfl (by rintro c (rfl | rfl) <;> rfl) hfraction hexponent

/-- A number that begins with a digit before the point. -/
theorem exists_first?_of_isWhole {whole fraction exponent : List Char} (hwhole : IsWhole whole)
    (hfraction : IsFraction fraction) (hexponent : IsExponent exponent) :
    ∃ c cs p, whole ++ fraction ++ exponent = c :: cs ∧ c ≠ '-' ∧ first? c = some p ∧
      Ends p cs := by
  cases hwhole with
  | zero => exact ⟨'0', _, .zero, rfl, by decide, rfl, ends_zero hfraction hexponent⟩
  | @digits c cs hc hzero hds =>
    have hminus : c ≠ '-' := by rintro rfl; exact absurd hc (by decide)
    exact ⟨c, _, .whole, rfl, hminus, by simp [first?, hminus, hzero, hc],
      ends_whole hds hfraction hexponent⟩

theorem Completes.ends (h : Completes p cs) : Ends p cs := by
  cases h with
  | minus hwhole hfraction hexponent =>
    obtain ⟨c, cs, p, heq, hminus, hp, hcs⟩ :=
      exists_first?_of_isWhole hwhole hfraction hexponent
    rw [heq]
    exact ends_cons.2 ⟨p, by simp [next?, hminus, hp], hcs⟩
  | zero hfraction hexponent => exact ends_zero hfraction hexponent
  | whole hds hfraction hexponent => exact ends_whole hds hfraction hexponent
  | point hne hds hexponent => exact ends_point hne hds hexponent
  | fraction hds hexponent => exact ends_fraction hds hexponent
  | letter hsign hne hds => exact ends_letter hsign hne hds
  | sign hne hds => exact ends_sign hne hds
  | exponent hds => exact ends_exponent hds

/-- What goes through the parts of a number to an end is what the grammar has behind a part. -/
theorem ends_iff : Ends p cs ↔ Completes p cs :=
  ⟨Ends.completes, Completes.ends⟩

end NumberPart

/-- The text of a number has a first part, and the others go through its other characters. -/
theorem isNumeral_iff {cs : List Char} :
    IsNumeral cs ↔ ∃ c ds p, cs = c :: ds ∧ NumberPart.first? c = some p ∧ p.Ends ds := by
  constructor
  · rintro ⟨rfl | rfl, hwhole, hfraction, hexponent⟩
    · obtain ⟨c, cs, p, heq, -, hp, hcs⟩ :=
        NumberPart.exists_first?_of_isWhole hwhole hfraction hexponent
      exact ⟨c, cs, p, heq, hp, hcs⟩
    · exact ⟨'-', _, .minus, rfl, rfl, NumberPart.ends_iff.2 (.minus hwhole hfraction hexponent)⟩
  · rintro ⟨c, ds, p, rfl, hp, hds⟩
    have hds := NumberPart.ends_iff.1 hds
    by_cases hminus : p = .minus
    · subst hminus
      obtain rfl := NumberPart.first?_eq_minus_iff.1 hp
      cases hds with
      | minus hwhole hfraction hexponent => exact .mk (.inr rfl) hwhole hfraction hexponent
    · obtain ⟨whole, fraction, exponent, hwhole, hfraction, hexponent, heq⟩ :=
        NumberPart.exists_of_first? hp hminus hds
      rw [heq]
      exact .mk (.inl rfl) hwhole hfraction hexponent

/-! ### Strings -/

theorem unescape?_eq_some_iff {e c : Char} : unescape? e = some c ↔ IsEscape e c := by
  constructor
  · intro h
    unfold unescape? at h
    split at h <;> cases h <;> constructor
  · rintro (_ | _) <;> rfl

/-- What holds of each character of a range by its place there holds of the characters in it. -/
theorem of_mem_range {p : Char → Nat → Prop} {lo hi c : Char} (hlo : lo ≤ c) (hhi : c ≤ hi)
    (h : ∀ k ≤ hi.toNat - lo.toNat, p (Char.ofNat (lo.toNat + k)) k) :
    p c (c.toNat - lo.toNat) := by
  have hlo : lo.toNat ≤ c.toNat := hlo
  have hhi : c.toNat ≤ hi.toNat := hhi
  have hc := h (c.toNat - lo.toNat) (by omega)
  rwa [Nat.add_sub_cancel' hlo, Char.ofNat_toNat] at hc

theorem isHexDigit_of_hexValue? {c : Char} {v : Nat} (h : hexValue? c = some v) :
    IsHexDigit c v := by
  unfold hexValue? at h
  split_ifs at h with hdigit hsmall hlarge
  · have hc : '0' ≤ c ∧ c ≤ '9' := by rwa [Char.isDigit, Bool.and_eq_true, decide_eq_true_iff,
      decide_eq_true_iff] at hdigit
    obtain rfl := Option.some.inj h
    exact of_mem_range hc.1 hc.2 (by decide)
  · have hc : 'a' ≤ c ∧ c ≤ 'f' := by simpa using hsmall
    obtain rfl := Option.some.inj h
    exact of_mem_range (p := fun c k => IsHexDigit c (k + 10)) hc.1 hc.2 (by decide)
  · have hc : 'A' ≤ c ∧ c ≤ 'F' := by simpa using hlarge
    obtain rfl := Option.some.inj h
    exact of_mem_range (p := fun c k => IsHexDigit c (k + 10)) hc.1 hc.2 (by decide)

/-- A hexadecimal digit has the value of its place. -/
theorem hexValue?_eq_some_iff {c : Char} {v : Nat} : hexValue? c = some v ↔ IsHexDigit c v := by
  refine ⟨isHexDigit_of_hexValue?, ?_⟩
  have hsmall : ∀ v : Fin 16, hexValue? ("0123456789abcdef".toList.get v) = some v.1 := by decide
  have hlarge : ∀ v : Fin 16, hexValue? ("0123456789ABCDEF".toList.get v) = some v.1 := by decide
  rintro (h | h)
  · obtain ⟨hv, rfl⟩ := List.getElem?_eq_some_iff.1 h
    exact hsmall ⟨v, hv⟩
  · obtain ⟨hv, rfl⟩ := List.getElem?_eq_some_iff.1 h
    exact hlarge ⟨v, hv⟩

section Text

variable {u v : Nat} {c : Char} {ls : List Letter}

@[simp] theorem textOf?_nil : textOf? [] = some [] := by
  rw [textOf?]

@[simp] theorem textOf?_char : textOf? (.char c :: ls) = (textOf? ls).map (c :: ·) := by
  rw [textOf?]

theorem not_isHigh_and_isLow : ¬(IsHigh u ∧ IsLow u) := by
  unfold IsHigh IsLow
  omega

theorem textOf?_pair (hu : IsHigh u) (hv : IsLow v) :
    textOf? (.unit u :: .unit v :: ls) = (textOf? ls).map (pairChar u v :: ·) := by
  rw [textOf?, if_pos ⟨hu, hv⟩]

/-- A second half that does not stand behind a first one. -/
theorem textOf?_of_isLow (hu : IsLow u) : textOf? (.unit u :: ls) = none := by
  have hnot : ¬IsHigh u := fun h => not_isHigh_and_isLow ⟨h, hu⟩
  rcases ls with - | ⟨c | v, ls⟩ <;> simp [textOf?, hu, hnot]

/-- A number that is no half of a pair stands for a character. -/
theorem textOf?_single (hhigh : ¬IsHigh u) (hlow : ¬IsLow u) :
    textOf? (.unit u :: ls) = (textOf? ls).map (Char.ofNat u :: ·) := by
  rcases ls with - | ⟨c | v, ls⟩ <;> simp [textOf?, hhigh, hlow]

theorem textOf?_of_isHigh_nil (hu : IsHigh u) : textOf? [.unit u] = none := by
  simp [textOf?, hu]

theorem textOf?_of_isHigh_char (hu : IsHigh u) : textOf? (.unit u :: .char c :: ls) = none := by
  simp [textOf?, hu]

theorem textOf?_of_isHigh_unit (hu : IsHigh u) (hv : ¬IsLow v) :
    textOf? (.unit u :: .unit v :: ls) = none := by
  simp [textOf?, hu, hv]

end Text

namespace Letters

/-- The next letter of a string. -/
def add (l : Letters) : Letter → Letters
  | .char c => l.push c
  | .unit u => l.pushUnit u

/-- The letter that waits for the next one to show what it means. -/
def pending (l : Letters) : List Letter :=
  (l.half.map Letter.unit).toList

/-- What waits is the first half of a pair. -/
def Waits (l : Letters) : Prop :=
  ∀ u ∈ l.half, IsHigh u

theorem pushUnit_of_isHigh {l : Letters} {u : Nat} (h : IsHigh u) :
    l.pushUnit u = ⟨l.settle, some u⟩ := by
  obtain ⟨hle, hlt⟩ := h
  simp [pushUnit, hle, hlt]

theorem pushUnit_of_isLow {l : Letters} {u : Nat} (h : IsLow u) :
    l.pushUnit u = ⟨l.half.bind fun h => l.text.map (pairChar h u :: ·), none⟩ := by
  obtain ⟨hle, hlt⟩ := h
  have hhigh : ¬u < 0xdc00 := by omega
  rcases l with ⟨text, half | half⟩ <;> simp [pushUnit, hle, hlt, hhigh, pairChar]

theorem pushUnit_single {l : Letters} {u : Nat} (hhigh : ¬IsHigh u) (hlow : ¬IsLow u) :
    l.pushUnit u = l.push (Char.ofNat u) := by
  rw [pushUnit, if_neg (by simpa [IsHigh] using hhigh), if_neg (by simpa [IsLow] using hlow)]

theorem waits_add {l : Letters} (x : Letter) : (l.add x).Waits := by
  rcases x with c | u
  · simp [add, push, Waits]
  · rw [add]
    by_cases hhigh : IsHigh u
    · simp [pushUnit_of_isHigh hhigh, Waits, hhigh]
    · by_cases hlow : IsLow u
      · simp [pushUnit_of_isLow hlow, Waits]
      · simp [pushUnit_single hhigh hlow, push, Waits]

/-- The text behind which some letters stand, and what waits there. -/
def textWith? (l : Letters) (ls : List Letter) : Option (List Char) :=
  l.text.bind fun cs => (textOf? (l.pending ++ ls)).map fun ds => ds.reverse ++ cs

theorem textWith?_nil {l : Letters} (h : l.Waits) : l.textWith? [] = l.settle := by
  rcases l with ⟨text, half | u⟩
  · simp [textWith?, pending, settle]
  · have hu : IsHigh u := h u rfl
    simp [textWith?, pending, settle, textOf?_of_isHigh_nil hu]

/-- A letter means the same whether it has been taken or is still to come. -/
theorem textWith?_cons {l : Letters} (h : l.Waits) (x : Letter) (ls : List Letter) :
    l.textWith? (x :: ls) = (l.add x).textWith? ls := by
  -- Only with a half waiting does the meaning of the next letter depend on the one before.
  rcases l with ⟨text, half | u⟩
  · rcases x with c | v
    · cases text <;> cases hls : textOf? ls <;>
        simp [textWith?, pending, add, push, settle, hls]
    · by_cases hhigh : IsHigh v
      · simp [textWith?, pending, add, pushUnit_of_isHigh hhigh, settle]
      · by_cases hlow : IsLow v
        · simp [textWith?, pending, add, pushUnit_of_isLow hlow, textOf?_of_isLow hlow]
        · cases text <;> cases hls : textOf? ls <;>
            simp [textWith?, pending, add, pushUnit_single hhigh hlow, push, settle,
              textOf?_single hhigh hlow, hls]
  · have hu : IsHigh u := h u rfl
    rcases x with c | v
    · simp [textWith?, pending, add, push, settle, textOf?_of_isHigh_char hu]
    · by_cases hlow : IsLow v
      · cases text <;> cases hls : textOf? ls <;>
          simp [textWith?, pending, add, pushUnit_of_isLow hlow, textOf?_pair hu hlow, hls]
      · by_cases hhigh : IsHigh v
        · simp [textWith?, pending, add, pushUnit_of_isHigh hhigh, settle,
            textOf?_of_isHigh_unit hu hlow]
        · simp [textWith?, pending, add, pushUnit_single hhigh hlow, push, settle,
            textOf?_of_isHigh_unit hu hlow]

theorem settle_foldl_add {l : Letters} (h : l.Waits) (ls : List Letter) :
    (ls.foldl add l).settle = l.textWith? ls := by
  induction ls generalizing l with
  | nil => exact (textWith?_nil h).symm
  | cons x ls ih => rw [List.foldl_cons, ih (waits_add x), textWith?_cons h]

/-- The letters of a whole string give the text that they mean. -/
theorem close_foldl_add (ls : List Letter) :
    (ls.foldl add {}).close = (textOf? ls).map String.ofList := by
  rw [close, settle_foldl_add (by simp [Waits])]
  cases h : textOf? ls <;> simp [textWith?, pending, h]

end Letters

end StreamedInference.Json
