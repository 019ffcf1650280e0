import Mathlib.Data.List.Forall2
import StreamedInference.Conversation.Prompt
import StreamedInference.Proofs.Json.Reading

/-!
# Which texts are conversations

A text is taken for a conversation if it spells an array each element of which gives a turn. An
object with one role and one content gives a turn, and members with other names do not matter; but
an array of a role and a content gives one too, and a known role may stand as the name of an object
with nothing in it. Every other text is what the user said.

## Main definitions

* `Turn.HasShape`: the objects with one role and one content.
* `Turn.IsGivenBy`: the turns that JSON values give.

## Main results

* `Prompt.turns_of_text`: the turns of every text.
* `Prompt.takes_pair_for_turn`: a text that is a conversation without an object in it.
-/

namespace StreamedInference

/-! ### Turns -/

/-- A value is that of the only member with a name. -/
def Turn.HasOnly (members : List (Option String × Json)) (name : String) (v : Json) : Prop :=
  ∃ before after, members = before ++ (some name, v) :: after ∧
    ∀ m ∈ before ++ after, m.1 ≠ some name

theorem Turn.only?_eq_some_iff {name : String} {ms : List (Option String × Json)} {v : Json} :
    only? name ms = some v ↔ HasOnly ms name v := by
  have hfilter : only? name ms = some v ↔
      ms.filter (fun m => m.1 == some name) = [(some name, v)] := by
    unfold only?
    constructor
    · intro h
      split at h
      · next n u heq =>
        obtain rfl := Option.some.inj h
        have hmem : (n, u) ∈ ms.filter fun m => m.1 == some name := heq ▸ List.mem_singleton_self _
        obtain rfl : n = some name := by simpa using (List.mem_filter.1 hmem).2
        exact heq
      · cases h
    · intro h
      rw [h]
  rw [hfilter, List.filter_eq_cons_iff]
  constructor
  · rintro ⟨before, after, rfl, hbefore, -, hafter⟩
    refine ⟨before, after, rfl, fun m hm => ?_⟩
    rcases List.mem_append.1 hm with hm | hm
    · simpa using hbefore m hm
    · simpa using List.filter_eq_nil_iff.1 hafter m hm
  · rintro ⟨before, after, rfl, hothers⟩
    rw [List.forall_mem_append] at hothers
    exact ⟨before, after, rfl, by simpa using hothers.1, by simp, by simpa using hothers.2⟩

/-- A string gives the role with this text; an object with nothing but the name of a known role
gives this role. -/
inductive Role.IsGivenBy : Role → Json → Prop
  | string (name : String) : IsGivenBy (ofText name) (.string (some name))
  | object {name : String} {r : Role} (h : named? name = some r) :
      IsGivenBy r (.object [(some name, .null)])

theorem Role.ofJson?_eq_some_iff {v : Json} {r : Role} : ofJson? v = some r ↔ r.IsGivenBy v := by
  constructor
  · intro h
    unfold ofJson? at h
    split at h
    · obtain rfl := Option.some.inj h
      exact .string _
    · exact .object h
    · cases h
  · rintro (name | h)
    · rfl
    · exact h

namespace Turn

/-- An object with one role and one content, both strings. -/
def HasShape (v : Json) : Prop :=
  ∃ ms role content, v = .object ms ∧ HasOnly ms "role" (.string role) ∧
    HasOnly ms "content" (.string content)

/-- What gives a turn: an object with one role and one content, of which all names are texts, or an
array of a role and a content. -/
inductive IsGivenBy : Turn → Json → Prop
  | object {ms : List (Option String × Json)} {role : Json} {r : Role} {content : String}
      (hnames : ∀ m ∈ ms, ∃ name, m.1 = some name) (hrole : HasOnly ms "role" role)
      (hcontent : HasOnly ms "content" (.string (some content))) (h : r.IsGivenBy role) :
      IsGivenBy ⟨r, content⟩ (.object ms)
  | pair {role : Json} {r : Role} {content : String} (h : r.IsGivenBy role) :
      IsGivenBy ⟨r, content⟩ (.array [role, .string (some content)])

theorem ofParts?_eq_some_iff {role content : Json} {t : Turn} :
    ofParts? role content = some t ↔
      content = .string (some t.content) ∧ t.role.IsGivenBy role := by
  constructor
  · intro h
    unfold ofParts? at h
    split at h
    · obtain ⟨r, hr, rfl⟩ := Option.map_eq_some_iff.1 h
      exact ⟨rfl, Role.ofJson?_eq_some_iff.1 hr⟩
    · cases h
  · rintro ⟨rfl, hrole⟩
    exact Option.map_eq_some_iff.2 ⟨t.role, Role.ofJson?_eq_some_iff.2 hrole, rfl⟩

/-- The turn of a value is the one that it gives. -/
theorem ofJson?_eq_some_iff {v : Json} {t : Turn} : ofJson? v = some t ↔ t.IsGivenBy v := by
  constructor
  · intro h
    unfold ofJson? at h
    split at h
    · next ms =>
      split_ifs at h with hnames
      split at h
      · next role content hrole hcontent =>
        obtain ⟨rfl, hr⟩ := ofParts?_eq_some_iff.1 h
        have hrole := only?_eq_some_iff.1 hrole
        have hcontent := only?_eq_some_iff.1 hcontent
        refine .object (fun m hm => ?_) hrole hcontent hr
        exact Option.isSome_iff_exists.1 (List.all_eq_true.1 hnames m hm)
      · cases h
    · obtain ⟨rfl, hr⟩ := ofParts?_eq_some_iff.1 h
      exact .pair hr
    · cases h
  · rintro (@⟨ms, role, r, content, hnames, hrole, hcontent, hr⟩ | hr)
    · have hall : ms.all (fun m => m.1.isSome) = true :=
        List.all_eq_true.2 fun m hm => Option.isSome_iff_exists.2 (hnames m hm)
      simp only [ofJson?, hall, if_true, only?_eq_some_iff.2 hrole, only?_eq_some_iff.2 hcontent]
      exact ofParts?_eq_some_iff.2 ⟨rfl, hr⟩
    · rw [ofJson?]
      exact ofParts?_eq_some_iff.2 ⟨rfl, hr⟩

theorem mapM_ofJson?_eq_some_iff {vs : List Json} {ts : List Turn} :
    vs.mapM ofJson? = some ts ↔ List.Forall₂ IsGivenBy ts vs := by
  induction vs generalizing ts with
  | nil => simp [eq_comm]
  | cons v vs ih =>
    rw [List.forall₂_cons_right_iff]
    simp only [List.mapM_cons, Option.bind_eq_bind, Option.bind_eq_some_iff, Option.pure_def,
      Option.some.injEq, ofJson?_eq_some_iff, ih]
    constructor
    · rintro ⟨t, hv, us, hvs, rfl⟩
      exact ⟨t, us, hv, hvs, rfl⟩
    · rintro ⟨t, us, hv, hvs, rfl⟩
      exact ⟨t, hv, us, hvs, rfl⟩

/-- The turns of an array are those of its elements. -/
theorem listOfJson?_eq_some_iff {v : Json} {ts : List Turn} :
    listOfJson? v = some ts ↔ ∃ vs, v = .array vs ∧ List.Forall₂ IsGivenBy ts vs := by
  constructor
  · intro h
    unfold listOfJson? at h
    split at h
    · exact ⟨_, rfl, mapM_ofJson?_eq_some_iff.1 h⟩
    · cases h
  · rintro ⟨vs, rfl, h⟩
    exact mapM_ofJson?_eq_some_iff.2 h

end Turn

namespace Prompt

theorem withInstructions_eq (systemPrompt : String) (ts : List Turn) :
    withInstructions systemPrompt ts =
      if ∃ t ∈ ts, t.role = .system then ts else ⟨.system, systemPrompt⟩ :: ts := by
  simp [withInstructions, List.any_eq_true, Turn.isSystem]

/-- A text is a conversation if it spells an array of what gives the turns. -/
theorem structured?_eq_some_iff {raw : List Char} {ts : List Turn} :
    structured? raw = some ts ↔
      ∃ vs, Json.Spells raw (.element (.array vs)) ∧ List.Forall₂ Turn.IsGivenBy ts vs := by
  simp only [structured?, Option.bind_eq_some_iff, Json.ofChars?_eq_some_iff,
    Turn.listOfJson?_eq_some_iff]
  constructor
  · rintro ⟨-, hraw, vs, rfl, hvs⟩
    exact ⟨vs, hraw, hvs⟩
  · rintro ⟨vs, hraw, hvs⟩
    exact ⟨_, hraw, vs, rfl, hvs⟩

/-- A text that spells an array of what gives turns is the conversation of these turns, behind
instructions if none of them is of the system; any other text is what the user said, as it stands,
behind instructions. -/
theorem turns_of_text (systemPrompt : String) (raw : List Char) :
    (∃ vs ts, Json.Spells raw (.element (.array vs)) ∧ List.Forall₂ Turn.IsGivenBy ts vs ∧
      structured? raw = some ts ∧ turns systemPrompt raw =
        if ∃ t ∈ ts, t.role = .system then ts else ⟨.system, systemPrompt⟩ :: ts) ∨
    (¬∃ vs ts, Json.Spells raw (.element (.array vs)) ∧ List.Forall₂ Turn.IsGivenBy ts vs) ∧
      structured? raw = none ∧
      turns systemPrompt raw = [⟨.system, systemPrompt⟩, ⟨.user, String.ofList raw⟩] := by
  cases h : structured? raw with
  | some ts =>
    obtain ⟨vs, hraw, hvs⟩ := structured?_eq_some_iff.1 h
    refine .inl ⟨vs, ts, hraw, hvs, rfl, ?_⟩
    rw [turns, h]
    exact withInstructions_eq systemPrompt ts
  | none =>
    refine .inr ⟨?_, rfl, by rw [turns, h]⟩
    rintro ⟨vs, ts, hraw, hvs⟩
    rw [structured?_eq_some_iff.2 ⟨vs, hraw, hvs⟩] at h
    cases h

/-- An array of two strings is a conversation of one turn, though there is no object in it. -/
theorem takes_pair_for_turn :
    (structured? "[[\"user\",\"a\"]]".toList = some [⟨.user, "a"⟩] ∧
      turns defaultSystemPrompt "[[\"user\",\"a\"]]".toList =
        [⟨.system, defaultSystemPrompt⟩, ⟨.user, "a"⟩]) ∧
    ¬∃ vs, Json.Spells "[[\"user\",\"a\"]]".toList (.element (.array vs)) ∧
      ∀ v ∈ vs, Turn.HasShape v := by
  refine ⟨⟨by decide, by decide⟩, ?_⟩
  rintro ⟨vs, hraw, hvs⟩
  have hread : Json.ofChars? "[[\"user\",\"a\"]]".toList =
      some (.array [.array [.text "user", .text "a"]]) := by rfl
  rw [Json.ofChars?_eq_some_iff.2 hraw] at hread
  obtain rfl : vs = [.array [.text "user", .text "a"]] := by simpa using hread
  obtain ⟨ms, role, content, hv, -⟩ := hvs _ (List.mem_singleton_self _)
  cases hv

end Prompt

end StreamedInference
