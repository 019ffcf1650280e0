import StreamedInference.Proofs.Conversation.Shape
import StreamedInference.Proofs.Json.Writing

/-!
# Conversations from their JSON

The JSON of a conversation is a text that gives its turns back. A speaker of another kind who has
the name of a known one would come back as the known one; no turn that is read has such a speaker,
since the known names are looked for first.

## Main definitions

* `Role.IsProper`: a speaker of another kind does not have a known name.

## Main results

* `Turn.ofJson?_toJson`, `Turn.listOfJson?_listToJson`: turns from their JSON.
* `Prompt.conversation_survives`: a conversation through its text.
-/

namespace StreamedInference

namespace Role

variable {r : Role} {v : Json}

/-- A speaker of another kind does not have the name of a known one. -/
def IsProper : Role → Prop
  | .system | .user | .assistant => True
  | .other name => name ≠ "system" ∧ name ≠ "user" ∧ name ≠ "assistant"

instance : DecidablePred IsProper
  | .system | .user | .assistant => .isTrue trivial
  | .other _ => inferInstanceAs (Decidable (_ ∧ _ ∧ _))

theorem ofText_text (h : r.IsProper) : ofText r.text = r := by
  cases r with
  | other name =>
    obtain ⟨hsystem, huser, hassistant⟩ := h
    simp [ofText, text, named?, hsystem, huser, hassistant]
  | _ => rfl

theorem text_eq_system_iff (h : r.IsProper) : r.text = "system" ↔ r = .system := by
  cases r with
  | other name => simpa [text] using h.1
  | _ => decide

theorem isProper_of_named? {name : String} (h : named? name = some r) : r.IsProper := by
  unfold named? at h
  split_ifs at h <;> obtain rfl := Option.some.inj h <;> trivial

theorem isProper_ofText (name : String) : (ofText name).IsProper := by
  unfold ofText
  cases h : named? name with
  | some r => exact isProper_of_named? h
  | none =>
    unfold named? at h
    split_ifs at h with hsystem huser hassistant
    exact ⟨by simpa using hsystem, by simpa using huser, by simpa using hassistant⟩

/-- The role that a value gives is proper. -/
theorem IsGivenBy.isProper (h : r.IsGivenBy v) : r.IsProper := by
  cases h with
  | string name => exact isProper_ofText name
  | object h => exact isProper_of_named? h

end Role

namespace Turn

variable {t : Turn} {v : Json}

/-- The role of a turn that a value gives is proper. -/
theorem IsGivenBy.isProper_role (h : t.IsGivenBy v) : t.role.IsProper := by
  cases h with
  | object _ _ _ h => exact h.isProper
  | pair h => exact h.isProper

theorem isGivenBy_toJson (h : t.role.IsProper) : t.IsGivenBy t.toJson := by
  have hrole := Role.IsGivenBy.string t.role.text
  rw [Role.ofText_text h] at hrole
  refine .object ?_ ⟨[], [_], rfl, ?_⟩ ⟨[_], [], rfl, ?_⟩ hrole <;> simp

/-- A turn comes back from its JSON. -/
theorem ofJson?_toJson (h : t.role.IsProper) : ofJson? t.toJson = some t :=
  ofJson?_eq_some_iff.2 (isGivenBy_toJson h)

theorem listOfJson?_listToJson {ts : List Turn} (h : ∀ t ∈ ts, t.role.IsProper) :
    listOfJson? (listToJson ts) = some ts := by
  refine listOfJson?_eq_some_iff.2 ⟨ts.map toJson, rfl, ?_⟩
  rw [List.forall₂_map_right_iff, List.forall₂_same]
  exact fun t ht => isGivenBy_toJson (h t ht)

theorem isWritable_toJson (t : Turn) : t.toJson.IsWritable := by
  refine .object ?_ ?_
  · simp
  · simp [Json.text, Json.IsWritable.string]

theorem isWritable_listToJson (ts : List Turn) : (listToJson ts).IsWritable :=
  .array (List.forall_mem_map.2 fun t _ => isWritable_toJson t)

end Turn

namespace Prompt

theorem structured?_render {ts : List Turn} (h : ∀ t ∈ ts, t.role.IsProper) :
    structured? (Turn.listToJson ts).render = some ts := by
  rw [structured?, Json.ofChars?_render (Turn.isWritable_listToJson ts)]
  exact Turn.listOfJson?_listToJson h

/-- The text of a conversation gives its turns, behind instructions if none of them is of the
system. A turn that any value gives comes back from its text, and it is of the system if and only
if the text of its role says so. -/
theorem conversation_survives (systemPrompt : String) :
    (∀ ts : List Turn, (∀ t ∈ ts, t.role.IsProper) →
      turns systemPrompt (Turn.listToJson ts).render =
        if ∃ t ∈ ts, t.role = .system then ts else ⟨.system, systemPrompt⟩ :: ts) ∧
    ∀ (v : Json) (t : Turn), Turn.ofJson? v = some t →
      (Json.ofText? t.toJson.toText).bind Turn.ofJson? = some t ∧
        (t.isSystem = true ↔ t.role.text = "system") := by
  constructor
  · intro ts hts
    rw [turns, structured?_render hts]
    exact withInstructions_eq systemPrompt ts
  · intro v t h
    -- A name that is known never stands in a speaker of another kind that was read.
    have hproper := (Turn.ofJson?_eq_some_iff.1 h).isProper_role
    constructor
    · rw [Json.ofText?, Json.toText, String.toList_ofList,
        Json.ofChars?_render (Turn.isWritable_toJson t)]
      exact Turn.ofJson?_toJson hproper
    · rw [Role.text_eq_system_iff hproper, Turn.isSystem, beq_iff_eq]

/-- A speaker of another kind whose name has to be escaped, and a control character and one beyond
the first plane in what is said; and a turn that was given as a pair. -/
theorem conversation_survives_of_guest :
    (Turn.listToJson [⟨.other "to\"ol\\", "\x01\n😀"⟩]).render =
        "[\x7b\"role\":\"to\\\"ol\\\\\",\"content\":\"\\u0001\\n😀\"\x7d]".toList ∧
      turns "Be brief." (Turn.listToJson [⟨.other "to\"ol\\", "\x01\n😀"⟩]).render =
        [⟨.system, "Be brief."⟩, ⟨.other "to\"ol\\", "\x01\n😀"⟩] ∧
      (Json.ofText? (Turn.toJson ⟨.user, "hi"⟩).toText).bind Turn.ofJson? = some ⟨.user, "hi"⟩ :=
  ⟨by decide, (conversation_survives "Be brief.").1 _ (by decide),
    ((conversation_survives "Be brief.").2
      (.array [.object [(some "user", .null)], .text "hi"]) ⟨.user, "hi"⟩ rfl).1⟩

end Prompt

end StreamedInference
