import StreamedInference.Proofs.Json.Reading

/-!
# Reading back what is written

The compact text of a value spells it, and reading it gives the value back, as long as every string
of the value is a text and every number is spelt as one. A string without a text has no spelling of
its own.

## Main definitions

* `Json.IsWritable`: the values that their text gives back.

## Main results

* `Json.spellsString_quote`: a text within quotation marks.
* `Json.ofChars?_render`: a value from its text.
-/

namespace StreamedInference.Json

variable {v : Json} {c : Char} {cs : List Char}

/-! ### Strings -/

theorem isHexDigit_hexDigit (n : ℕ) : IsHexDigit (hexDigit n) (n % 16) := by
  have h : ∀ m < 16, "0123456789abcdef".toList[m]? = some (Nat.digitChar m) := by decide
  exact .inl (h _ (Nat.mod_lt n (by decide)))

/-- The letter stands for the character, whatever follows. -/
def Letter.StandsFor (x : Letter) (c : Char) : Prop :=
  ∀ ls, textOf? (x :: ls) = (textOf? ls).map (c :: ·)

theorem standsFor_char : (Letter.char c).StandsFor c :=
  fun _ => textOf?_char

/-- A character below the space stands for itself where it is written as a number. -/
theorem standsFor_unit (hc : c.toNat < 0x20) : (Letter.unit c.toNat).StandsFor c := by
  have hhigh : ¬IsHigh c.toNat := by unfold IsHigh; omega
  have hlow : ¬IsLow c.toNat := by unfold IsLow; omega
  intro ls
  rw [textOf?_single hhigh hlow, Char.ofNat_toNat]

theorem spellsLetter_escapeControl (hc : c.toNat < 0x20) :
    SpellsLetter (escapeControl c) (.unit c.toNat) := by
  have hzero := isHexDigit_hexDigit 0
  have h := SpellsLetter.unit hzero hzero (isHexDigit_hexDigit (c.toNat / 16))
    (isHexDigit_hexDigit c.toNat)
  have hvalue : ((0 * 16 + 0) * 16 + c.toNat / 16 % 16) * 16 + c.toNat % 16 = c.toNat := by omega
  rwa [hvalue] at h

theorem spellsLetter_short {e d : Char} (hd : IsEscape e d) (hc : c.toNat = d.toNat) :
    SpellsLetter ['\\', e] (.char c) := by
  rw [← Char.toNat_inj.1 hc] at hd
  exact .escape hd

/-- The spelling of a character is that of a letter which stands for it. -/
theorem exists_standsFor_escape (c : Char) : ∃ x, SpellsLetter (escape c) x ∧ x.StandsFor c := by
  unfold escape
  split_ifs with hquote hbackslash hcontrol
  · obtain rfl := beq_iff_eq.1 hquote
    exact ⟨.char '"', .escape .quote, standsFor_char⟩
  · obtain rfl := beq_iff_eq.1 hbackslash
    exact ⟨.char '\\', .escape .backslash, standsFor_char⟩
  · split
    case h_6 =>
      exact ⟨.unit c.toNat, spellsLetter_escapeControl hcontrol, standsFor_unit hcontrol⟩
    all_goals exact ⟨.char c, spellsLetter_short (by constructor) ‹_›, standsFor_char⟩
  · exact ⟨.char c, .plain (Nat.not_lt.1 hcontrol) (by simpa using hquote)
      (by simpa using hbackslash), standsFor_char⟩

theorem exists_spellsLetters_escape (cs : List Char) :
    ∃ ls, SpellsLetters (cs.flatMap escape) ls ∧ textOf? ls = some cs := by
  induction cs with
  | nil => exact ⟨[], .nil, textOf?_nil⟩
  | cons c cs ih =>
    obtain ⟨ls, hls, htext⟩ := ih
    obtain ⟨x, hx, hc⟩ := exists_standsFor_escape c
    exact ⟨x :: ls, .cons hx hls, by rw [hc, htext]; rfl⟩

/-- A text within quotation marks spells the text. -/
theorem spellsString_quote (cs : List Char) :
    SpellsString (quote cs) (some (String.ofList cs)) := by
  obtain ⟨ls, hls, htext⟩ := exists_spellsLetters_escape cs
  have h := SpellsString.mk hls
  rwa [htext] at h

/-! ### Values -/

/-- Every string of the value is a text, and every number is spelt as one. -/
inductive IsWritable : Json → Prop
  | null : IsWritable .null
  | bool (b : Bool) : IsWritable (.bool b)
  | number {lexeme : String} (h : IsNumeral lexeme.toList) : IsWritable (.number lexeme)
  | string (s : String) : IsWritable (.string (some s))
  | array {vs : List Json} (h : ∀ v ∈ vs, IsWritable v) : IsWritable (.array vs)
  | object {ms : List (Option String × Json)} (hnames : ∀ m ∈ ms, ∃ s, m.1 = some s)
      (h : ∀ m ∈ ms, IsWritable m.2) : IsWritable (.object ms)

theorem Spells.toElement (h : Spells cs (.value v)) : Spells cs (.element v) := by
  simpa using Spells.element areSpaces_nil h areSpaces_nil

theorem spells_renderElements {vs : List Json} (hne : vs ≠ [])
    (h : ∀ v ∈ vs, Spells v.render (.value v)) : Spells (renderElements vs) (.elements vs) := by
  induction vs with
  | nil => exact absurd rfl hne
  | cons v vs ih =>
    rw [List.forall_mem_cons] at h
    cases vs with
    | nil => exact .lastElement h.1.toElement
    | cons u vs => exact .moreElements h.1.toElement (ih (List.cons_ne_nil u vs) h.2)

theorem spells_renderMember {s : String} (h : Spells v.render (.value v)) :
    Spells (renderMember (some s, v)) (.member (some s) v) := by
  have hname := spellsString_quote s.toList
  rw [String.ofList_toList] at hname
  simpa [renderMember] using Spells.member areSpaces_nil hname areSpaces_nil h.toElement

theorem spells_renderMembers {ms : List (Option String × Json)} (hne : ms ≠ [])
    (hnames : ∀ m ∈ ms, ∃ s, m.1 = some s) (h : ∀ m ∈ ms, Spells m.2.render (.value m.2)) :
    Spells (renderMembers ms) (.members ms) := by
  induction ms with
  | nil => exact absurd rfl hne
  | cons m ms ih =>
    rw [List.forall_mem_cons] at hnames h
    obtain ⟨name, v⟩ := m
    obtain ⟨⟨s, rfl⟩, hnames⟩ := hnames
    cases ms with
    | nil => exact .lastMember (spells_renderMember h.1)
    | cons n ms =>
      exact .moreMembers (spells_renderMember h.1) (ih (List.cons_ne_nil n ms) hnames h.2)

/-- The text of a value spells it. -/
theorem IsWritable.spells (h : v.IsWritable) : Spells v.render (.value v) := by
  induction h with
  | null => exact .nullWord
  | bool b => cases b with
    | true => exact .trueWord
    | false => exact .falseWord
  | @number lexeme h =>
    have h := Spells.number h
    rwa [String.ofList_toList] at h
  | string s =>
    have h := Spells.string (spellsString_quote s.toList)
    rwa [String.ofList_toList] at h
  | @array vs _ ih =>
    by_cases hvs : vs = []
    · subst hvs
      exact .emptyArray areSpaces_nil
    · exact .array (spells_renderElements hvs ih)
  | @object ms hnames _ ih =>
    by_cases hms : ms = []
    · subst hms
      exact .emptyObject areSpaces_nil
    · exact .object (spells_renderMembers hms hnames ih)

/-- Reading the text of a value gives the value back. -/
theorem ofChars?_render (h : v.IsWritable) : ofChars? v.render = some v :=
  ofChars?_eq_some_iff.2 h.spells.toElement

end StreamedInference.Json
