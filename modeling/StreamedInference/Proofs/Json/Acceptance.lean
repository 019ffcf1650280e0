import Mathlib.Data.List.TakeWhile
import StreamedInference.Proofs.Json.Lexeme

/-!
# What a reader accepts

A reader accepts characters if, behind them, it has one whole value. Between words, numbers and
strings it skips white space. From the first character of a word, a number or a string on it takes
a spelling of this word, number or string, and then goes on as behind its value or its name.

## Main definitions

* `Json.Reader.Accepts`: the characters complete a text with a value.

## Main results

* `Json.Reader.accepts_word_iff`, `Json.Reader.accepts_number_iff`,
  `Json.Reader.accepts_string_iff`: what is accepted within a word, a number and a string.
-/

namespace StreamedInference.Json.Reader

variable {r s : Reader} {fs : List Frame} {c : Char} {cs a rest : List Char} {v w : Json}

/-- From the reader on, the characters complete a text with the value. -/
def Accepts (r : Reader) (cs : List Char) (w : Json) : Prop :=
  (r.run cs).bind finish? = some w

@[simp] theorem accepts_nil : r.Accepts [] w ↔ r.finish? = some w :=
  Iff.rfl

theorem accepts_cons : r.Accepts (c :: cs) w ↔ ∃ s, r.step c = some s ∧ s.Accepts cs w := by
  simp only [Accepts, run, Option.bind_assoc]
  exact Option.bind_eq_some_iff

theorem accepts_cons_of_step (h : r.step c = some s) :
    r.Accepts (c :: cs) w ↔ s.Accepts cs w := by
  simp [accepts_cons, h]

/-! ### Between words, numbers and strings -/

/-- The reader is not within a word, a number or a string. -/
def IsBetween (r : Reader) : Prop :=
  ∀ c, r.step c = r.between c

theorem isBetween_deliver : (deliver fs v).IsBetween := by
  rcases fs with - | ⟨us | ms | ⟨ms, name⟩, fs⟩ <;> exact fun _ => rfl

theorem step_space (h : r.IsBetween) (hc : isSpace c = true) : r.step c = some r := by
  rw [h, between, if_pos hc]

theorem accepts_spaces (h : r.IsBetween) (ha : AreSpaces a) :
    r.Accepts (a ++ cs) w ↔ r.Accepts cs w := by
  induction a with
  | nil => rfl
  | cons c a ih =>
    rw [AreSpaces, List.forall_mem_cons] at ha
    rw [List.cons_append, accepts_cons_of_step (step_space h ha.1), ih ha.2]

/-- Every text begins with white space, of which there may be none, and goes on without. -/
theorem exists_areSpaces (cs : List Char) :
    ∃ a ds, cs = a ++ ds ∧ AreSpaces a ∧ ∀ c ∈ ds.head?, isSpace c = false :=
  ⟨cs.takeWhile isSpace, cs.dropWhile isSpace, List.takeWhile_append_dropWhile.symm,
    fun _ => List.mem_takeWhile_imp, fun c hc => by
      have h := List.head?_dropWhile_not isSpace cs
      rwa [Option.mem_def.1 hc] at h⟩

/-- Behind white space a character is taken as the place has it. -/
theorem accepts_iff_of_isBetween (h : r.IsBetween) (hfinish : r.finish? = none) :
    r.Accepts cs w ↔ ∃ a c rest s, cs = a ++ c :: rest ∧ AreSpaces a ∧ isSpace c = false ∧
      r.between c = some s ∧ s.Accepts rest w := by
  constructor
  · intro hr
    obtain ⟨a, ds, rfl, ha, hds⟩ := exists_areSpaces cs
    rw [accepts_spaces h ha] at hr
    cases ds with
    | nil => simp [hfinish] at hr
    | cons c ds =>
      obtain ⟨s, hs, hr⟩ := accepts_cons.1 hr
      exact ⟨a, c, ds, s, rfl, ha, hds c rfl, (h c).symm.trans hs, hr⟩
  · rintro ⟨a, c, ds, s, rfl, ha, -, hs, hr⟩
    rw [accepts_spaces h ha]
    exact accepts_cons.2 ⟨s, (h c).trans hs, hr⟩

/-- Behind white space one of two characters is due, if the place has no other. -/
theorem accepts_iff_of_two {d e : Char} {t u : Reader} (h : r.IsBetween)
    (hfinish : r.finish? = none) (hd : r.between d = some t) (he : r.between e = some u)
    (honly : ∀ c s, isSpace c = false → r.between c = some s → c = d ∧ s = t ∨ c = e ∧ s = u) :
    r.Accepts cs w ↔ ∃ a rest, AreSpaces a ∧
      (cs = a ++ d :: rest ∧ t.Accepts rest w ∨ cs = a ++ e :: rest ∧ u.Accepts rest w) := by
  constructor
  · intro hr
    obtain ⟨a, c, rest, s, rfl, ha, hc, hs, hr⟩ := (accepts_iff_of_isBetween h hfinish).1 hr
    obtain ⟨rfl, rfl⟩ | ⟨rfl, rfl⟩ := honly c s hc hs
    · exact ⟨a, rest, ha, .inl ⟨rfl, hr⟩⟩
    · exact ⟨a, rest, ha, .inr ⟨rfl, hr⟩⟩
  · rintro ⟨a, rest, ha, ⟨rfl, hr⟩ | ⟨rfl, hr⟩⟩ <;> rw [accepts_spaces h ha]
    · exact accepts_cons.2 ⟨t, (h d).trans hd, hr⟩
    · exact accepts_cons.2 ⟨u, (h e).trans he, hr⟩

/-- What may stand behind a value: white space, a comma or the end of a container. -/
theorem of_step_deliver (h : (deliver fs v).step c = some s) :
    isSpace c = true ∨ c = ',' ∨ c = ']' ∨ c = '}' := by
  rw [isBetween_deliver, between] at h
  by_cases hspace : isSpace c = true
  · exact .inl hspace
  · rw [if_neg hspace] at h
    refine .inr ?_
    rcases fs with - | ⟨us | ms | ⟨ms, name⟩, fs⟩ <;>
      simp only [deliver, separate, closeContainer, reduceCtorEq] at h <;> split_ifs at h <;>
      simp_all

/-! ### Words -/

/-- Within a word its other characters are due. -/
theorem accepts_word_iff {d : Char} {ds : List Char} :
    Accepts ⟨fs, .word (d :: ds) v⟩ cs w ↔
      ∃ rest, cs = d :: ds ++ rest ∧ (deliver fs v).Accepts rest w := by
  induction ds generalizing d cs with
  | nil =>
    cases cs with
    | nil => simp [finish?]
    | cons c cs => by_cases hc : c = d <;> simp [accepts_cons, step, hc]
  | cons e ds ih =>
    cases cs with
    | nil => simp [finish?]
    | cons c cs => by_cases hc : c = d <;> simp [accepts_cons, step, hc, ih]

/-! ### Numbers -/

/-- No number goes on with what may stand behind a value. -/
theorem next?_eq_none_of_step_deliver (p : NumberPart) (h : (deliver fs v).step c = some s) :
    p.next? c = none := by
  have hc := of_step_deliver h
  simp only [isSpace, Bool.or_eq_true, beq_iff_eq] at hc
  rcases hc with (((rfl | rfl) | rfl) | rfl) | rfl | rfl | rfl <;> cases p <;> rfl

theorem step_number {p q : NumberPart} {lexeme : List Char} (h : p.next? c = some q) :
    step ⟨fs, .number p lexeme⟩ c = some ⟨fs, .number q (c :: lexeme)⟩ := by
  simp [step, h]

/-- Where a number does not go on, it ends. -/
theorem step_number_of_none {p : NumberPart} {lexeme : List Char} (h : p.next? c = none)
    (hp : p.isEnd = true) :
    step ⟨fs, .number p lexeme⟩ c = (deliver fs (numberValue lexeme)).step c := by
  rw [isBetween_deliver c]
  simp [step, h, hp]

theorem finish?_deliver : (deliver fs v).finish? = some w ↔ fs = [] ∧ v = w := by
  rcases fs with - | ⟨us | ms | ⟨ms, name⟩, fs⟩ <;> simp [deliver, finish?]

/-- Within a number the characters that complete it are due. -/
theorem accepts_number_iff {p : NumberPart} {lexeme : List Char} :
    Accepts ⟨fs, .number p lexeme⟩ cs w ↔
      ∃ ds rest, cs = ds ++ rest ∧ p.Ends ds ∧
        (deliver fs (numberValue (ds.reverse ++ lexeme))).Accepts rest w := by
  constructor
  · intro h
    induction cs generalizing p lexeme with
    | nil =>
      cases fs with
      | nil =>
        simp only [accepts_nil, finish?, Option.ite_none_right_eq_some] at h
        exact ⟨[], [], rfl, NumberPart.ends_nil.2 h.1, h.2⟩
      | cons f fs => cases h
    | cons c cs ih =>
      obtain ⟨s, hs, h⟩ := accepts_cons.1 h
      cases hq : p.next? c with
      | some q =>
        rw [step_number hq] at hs
        obtain rfl := Option.some.inj hs
        obtain ⟨ds, rest, rfl, hds, h⟩ := ih h
        exact ⟨c :: ds, rest, rfl, NumberPart.ends_cons.2 ⟨q, hq, hds⟩, by simpa using h⟩
      | none =>
        by_cases hp : p.isEnd = true
        · rw [step_number_of_none hq hp] at hs
          exact ⟨[], c :: cs, rfl, NumberPart.ends_nil.2 hp, accepts_cons.2 ⟨s, hs, h⟩⟩
        · simp [step, hq, hp] at hs
  · rintro ⟨ds, rest, rfl, hds, h⟩
    induction ds generalizing p lexeme with
    | nil =>
      -- The number is over, but the reader knows it only by the next character or the end.
      rw [NumberPart.ends_nil] at hds
      cases rest with
      | nil =>
        obtain ⟨rfl, rfl⟩ := finish?_deliver.1 h
        simp [finish?, hds]
      | cons c rest =>
        obtain ⟨s, hs, h⟩ := accepts_cons.1 h
        have hnext := next?_eq_none_of_step_deliver p hs
        exact accepts_cons.2 ⟨s, (step_number_of_none hnext hds).trans hs, h⟩
    | cons d ds ih =>
      obtain ⟨q, hq, hds⟩ := NumberPart.ends_cons.1 hds
      exact accepts_cons.2 ⟨_, step_number hq, ih hds (by simpa using h)⟩

/-! ### Strings -/

section String

variable {isName : Bool} {l : Letters} {x : Letter} {ls : List Letter} {raw : List Char}

/-- The reader behind a string. -/
def afterString (fs : List Frame) (isName : Bool) (s : Option String) : Option Reader :=
  if isName then endName fs s else some (deliver fs (.string s))

/-- The spelling of a letter leads from the letters before it to those with it. -/
theorem accepts_letter_iff (h : SpellsLetter raw x) :
    Accepts ⟨fs, .string isName l .plain⟩ (raw ++ cs) w ↔
      Accepts ⟨fs, .string isName (l.add x) .plain⟩ cs w := by
  cases h with
  | plain hcontrol hquote hbackslash =>
    have hcontrol := Nat.not_lt.2 hcontrol
    exact accepts_cons_of_step (by simp [step, inString, hquote, hbackslash, hcontrol, Letters.add])
  | @escape e c h =>
    rw [← unescape?_eq_some_iff] at h
    have hu : e ≠ 'u' := by rintro rfl; cases h
    rw [List.cons_append, accepts_cons_of_step rfl]
    exact accepts_cons_of_step (by simp [step, inString, hu, h, Letters.add])
  | unit ha hb hc hd =>
    rw [← hexValue?_eq_some_iff] at ha hb hc hd
    simp [accepts_cons, step, inString, ha, hb, hc, hd, Letters.add]

theorem accepts_letters_iff (h : SpellsLetters raw ls) :
    Accepts ⟨fs, .string isName l .plain⟩ (raw ++ cs) w ↔
      Accepts ⟨fs, .string isName (ls.foldl Letters.add l) .plain⟩ cs w := by
  induction h generalizing l with
  | nil => rfl
  | cons h _ ih => rw [List.append_assoc, accepts_letter_iff h, ih, List.foldl_cons]

/-- Within an escape of four digits those that are left are due. -/
theorem exists_isHexDigit_of_accepts {left value : Nat}
    (h : Accepts ⟨fs, .string isName l (.digits left value)⟩ cs w) :
    ∃ c ds d, cs = c :: ds ∧ IsHexDigit c d ∧
      (1 < left → Accepts ⟨fs, .string isName l (.digits (left - 1) (value * 16 + d))⟩ ds w) := by
  cases cs with
  | nil => cases h
  | cons c ds =>
    obtain ⟨s, hs, h⟩ := accepts_cons.1 h
    obtain ⟨d, hd, rfl⟩ := Option.map_eq_some_iff.1 hs
    refine ⟨c, ds, d, rfl, hexValue?_eq_some_iff.1 hd, fun hleft => ?_⟩
    rwa [if_neg (Nat.not_le.2 hleft)] at h

/-- Behind a backslash the rest of an escape is due. -/
theorem exists_escape_of_accepts (h : Accepts ⟨fs, .string isName l .backslash⟩ cs w) :
    ∃ raw x rest, '\\' :: cs = raw ++ rest ∧ raw ≠ [] ∧ SpellsLetter raw x := by
  cases cs with
  | nil => cases h
  | cons c cs =>
    obtain ⟨s, hs, h⟩ := accepts_cons.1 h
    simp only [step, inString] at hs
    split_ifs at hs with hu
    · obtain rfl := beq_iff_eq.1 hu
      obtain rfl := Option.some.inj hs
      obtain ⟨a, cs, i, rfl, ha, h⟩ := exists_isHexDigit_of_accepts h
      obtain ⟨b, cs, j, rfl, hb, h⟩ := exists_isHexDigit_of_accepts (h (by decide))
      obtain ⟨c, cs, k, rfl, hc, h⟩ := exists_isHexDigit_of_accepts (h (by decide))
      obtain ⟨d, cs, l, rfl, hd, -⟩ := exists_isHexDigit_of_accepts (h (by decide))
      exact ⟨_, _, cs, rfl, List.cons_ne_nil _ _, .unit ha hb hc hd⟩
    · obtain ⟨d, hd, -⟩ := Option.map_eq_some_iff.1 hs
      exact ⟨_, _, cs, rfl, List.cons_ne_nil _ _, .escape (unescape?_eq_some_iff.1 hd)⟩

/-- Within a string a letter or the end of the string is due. -/
theorem exists_letter_of_accepts (h : Accepts ⟨fs, .string isName l .plain⟩ cs w) :
    (∃ rest, cs = '"' :: rest) ∨
      ∃ raw x rest, cs = raw ++ rest ∧ raw ≠ [] ∧ SpellsLetter raw x := by
  cases cs with
  | nil => cases h
  | cons c cs =>
    obtain ⟨s, hs, h⟩ := accepts_cons.1 h
    simp only [step, inString] at hs
    split_ifs at hs with hquote hname hbackslash hcontrol
    iterate 2 exact .inl ⟨cs, by simpa using hquote⟩
    · obtain rfl := beq_iff_eq.1 hbackslash
      obtain rfl := Option.some.inj hs
      exact .inr (exists_escape_of_accepts h)
    · exact .inr ⟨[c], .char c, cs, rfl, List.cons_ne_nil _ _,
        .plain (Nat.not_lt.1 hcontrol) (by simpa using hquote) (by simpa using hbackslash)⟩

/-- Letters stand before the end of a string. -/
theorem exists_letters_of_accepts (h : Accepts ⟨fs, .string isName l .plain⟩ cs w) :
    ∃ raw ls rest, cs = raw ++ '"' :: rest ∧ SpellsLetters raw ls := by
  induction hn : cs.length using Nat.strong_induction_on generalizing cs l with
  | _ n ih =>
    obtain ⟨rest, rfl⟩ | ⟨raw, x, ds, rfl, hne, hx⟩ := exists_letter_of_accepts h
    · exact ⟨[], [], rest, rfl, .nil⟩
    · rw [accepts_letter_iff hx] at h
      have hlt : ds.length < n := by
        have := List.length_pos_iff.2 hne
        simp only [List.length_append] at hn
        omega
      obtain ⟨raws, ls, rest, rfl, hls⟩ := ih _ hlt h rfl
      exact ⟨raw ++ raws, x :: ls, rest, (List.append_assoc _ _ _).symm, .cons hx hls⟩

theorem step_quote :
    step ⟨fs, .string isName l .plain⟩ '"' = afterString fs isName l.close := by
  cases isName <;> rfl

/-- Within a string the letters and the end of it are due. -/
theorem accepts_string_iff :
    Accepts ⟨fs, .string isName {} .plain⟩ cs w ↔
      ∃ raw name rest r, cs = raw ++ rest ∧ SpellsString ('"' :: raw) name ∧
        afterString fs isName name = some r ∧ r.Accepts rest w := by
  constructor
  · intro h
    obtain ⟨raw, ls, rest, rfl, hls⟩ := exists_letters_of_accepts h
    rw [accepts_letters_iff hls, accepts_cons, step_quote, Letters.close_foldl_add] at h
    obtain ⟨r, hr, h⟩ := h
    exact ⟨raw ++ ['"'], _, rest, r, by simp, .mk hls, hr, h⟩
  · rintro ⟨raw, name, rest, r, rfl, ⟨hls⟩, hr, h⟩
    rw [List.append_assoc, accepts_letters_iff hls]
    refine accepts_cons.2 ⟨r, ?_, h⟩
    rw [step_quote, Letters.close_foldl_add]
    exact hr

end String

end StreamedInference.Json.Reader
