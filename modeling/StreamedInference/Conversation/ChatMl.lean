import StreamedInference.Conversation.Turn

/-!
# ChatML

The template of conversations that is used where a model brings none: each turn stands between
two markers, and a last marker without its partner cues the assistant.
-/

namespace StreamedInference.ChatMl

/-- The marker before the role of a turn. -/
def opening : String := "<|im_start|>"

/-- The marker after the content of a turn. -/
def closing : String := "<|im_end|>"

/-- A turn in its markers. -/
def renderTurn (t : Turn) : String :=
  opening ++ t.role.text ++ "\n" ++ t.content ++ closing ++ "\n"

/-- The beginning of the assistant's next turn. -/
def cueText : String := opening ++ "assistant\n"

/-- The turns in order, with the assistant's cue after them if it is asked for. -/
def render (ts : List Turn) (cue : Bool) : String :=
  ts.foldr (fun t rest => renderTurn t ++ rest) (if cue then cueText else "")

end StreamedInference.ChatMl
