import StreamedInference.Conversation.ChatMl
import StreamedInference.Failure
import StreamedInference.Log

/-!
# Prompts

From the text of a session to the prompt of a generate call. A text that is a conversation in
JSON gives its turns, any other text is what the user said; a conversation without instructions
gets default ones. The engine's template renders the turns, and ChatML if the template fails or
renders nothing.

## Main definitions

* `Prompt.structured?`: the turns of a text that is a conversation in JSON.
* `Prompt.turns`: the turns of any text.
* `Prompt.assemble`: the prompt of a text, and what is noted in assembling it.
-/

namespace StreamedInference

/-- The instructions of a conversation that brings none. -/
def defaultSystemPrompt : String := "You are a helpful AI assistant."

/-- How an engine renders a conversation, with or without the assistant's cue. -/
abbrev ChatTemplate := List Turn → Bool → Except Failure String

namespace Prompt

/-- A conversation with instructions: its own, or the given ones in front. -/
def withInstructions (systemPrompt : String) (ts : List Turn) : List Turn :=
  if ts.any Turn.isSystem then ts else ⟨.system, systemPrompt⟩ :: ts

/-- The turns that a text spells as JSON. -/
def structured? (raw : List Char) : Option (List Turn) :=
  (Json.ofChars? raw).bind Turn.listOfJson?

/-- The turns of a text. -/
def turns (systemPrompt : String) (raw : List Char) : List Turn :=
  match structured? raw with
  | some ts => withInstructions systemPrompt ts
  | none => [⟨.system, systemPrompt⟩, ⟨.user, String.ofList raw⟩]

/-- A warning that ChatML stands in for the template. -/
def fallbackEvent (cause : String) : LogEvent :=
  ⟨.prompt, .warn, cause ++ ", using ChatML", []⟩

/-- The prompt of a text, and what is noted on the way. -/
def assemble (template : ChatTemplate) (systemPrompt : String) (raw : List Char) :
    String × List LogEvent :=
  let ts := turns systemPrompt raw
  match template ts true with
  | .error failure => (ChatMl.render ts true, [fallbackEvent failure.message])
  | .ok rendered =>
    if rendered.isEmpty then
      (ChatMl.render ts true, [fallbackEvent "Chat template rendered an empty prompt"])
    else (rendered, [])

end Prompt

end StreamedInference
