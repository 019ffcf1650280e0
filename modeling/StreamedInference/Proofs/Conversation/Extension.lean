import StreamedInference.Proofs.Conversation.Shape

/-!
# Texts that go on behind a conversation

A conversation ends with the bracket that closes its array. White space behind it changes nothing;
anything else leaves a text that is no conversation any more, and whatever comes after that does not
make it one again, since it too stands behind the bracket.

## Main definitions

* `Prompt.rendered`: the prompt of turns.

## Main results

* `Prompt.structured?_append_of_areSpaces`, `Prompt.structured?_append_eq_none`: a conversation with
  something behind it.
* `Prompt.turns_append_of_areSpaces`, `Prompt.turns_append`: its turns.
* `Prompt.assemble_fst`: the prompt of a text depends on its turns only.
-/

namespace StreamedInference

namespace Prompt

open Json (AreSpaces)

variable {systemPrompt : String} {raw s : List Char} {ts us : List Turn}

theorem structured?_append_eq_some_iff (h : structured? raw = some ts) :
    structured? (raw ++ s) = some us ↔ AreSpaces s ∧ ts = us := by
  obtain ⟨v, hread, hlist⟩ := Option.bind_eq_some_iff.1 h
  obtain ⟨vs, rfl, -⟩ := Turn.listOfJson?_eq_some_iff.1 hlist
  have hlexeme : ∀ lexeme, Json.array vs ≠ .number lexeme := fun _ => Json.noConfusion
  simp only [structured?, Option.bind_eq_some_iff,
    Json.ofChars?_append_eq_some_iff hread hlexeme]
  constructor
  · rintro ⟨v, ⟨hs, rfl⟩, hus⟩
    exact ⟨hs, Option.some.inj (hlist.symm.trans hus)⟩
  · rintro ⟨hs, rfl⟩
    exact ⟨_, ⟨hs, rfl⟩, hlist⟩

/-- White space behind a conversation changes nothing. -/
theorem structured?_append_of_areSpaces (h : structured? raw = some ts) (hs : AreSpaces s) :
    structured? (raw ++ s) = some ts :=
  (structured?_append_eq_some_iff h).2 ⟨hs, rfl⟩

/-- With anything else behind it a conversation is none any more. -/
theorem structured?_append_eq_none (h : structured? raw = some ts) (hs : ¬AreSpaces s) :
    structured? (raw ++ s) = none :=
  Option.eq_none_iff_forall_ne_some.2 fun _ hus =>
    hs ((structured?_append_eq_some_iff h).1 hus).1

theorem turns_append_of_areSpaces (h : structured? raw = some ts) (hs : AreSpaces s) :
    turns systemPrompt (raw ++ s) = turns systemPrompt raw := by
  rw [turns, turns, structured?_append_of_areSpaces h hs, h]

theorem turns_append (h : structured? raw = some ts) (hs : ¬AreSpaces s) :
    turns systemPrompt (raw ++ s) =
      [⟨.system, systemPrompt⟩, ⟨.user, String.ofList (raw ++ s)⟩] := by
  rw [turns, structured?_append_eq_none h hs]

/-! ### Prompts -/

/-- The prompt of turns: as the template renders them, or as ChatML does if the template fails or
renders nothing. -/
def rendered (template : ChatTemplate) (ts : List Turn) : String :=
  match template ts true with
  | .error _ => ChatMl.render ts true
  | .ok text => if text.isEmpty then ChatMl.render ts true else text

/-- The prompt of a text is that of its turns. -/
theorem assemble_fst (template : ChatTemplate) (systemPrompt : String) (raw : List Char) :
    (assemble template systemPrompt raw).1 = rendered template (turns systemPrompt raw) := by
  unfold assemble rendered
  cases h : template (turns systemPrompt raw) true with
  | error failure => simp only [h]
  | ok text =>
    simp only [h]
    split_ifs <;> rfl

end Prompt

end StreamedInference
