import StreamedInference.Decoder.Generation

/-!
# The engine of a token model

A model is loaded once. Its template renders conversations if it has one; a role or a content
with a NUL character cannot be handed to it.

## Main definitions

* `Decoder.load`: a model is loaded, with what is asked of the library and noted on the way.
* `Decoder.template`: the model's own template.
* `Decoder.engine`: the engine of a loaded model.
-/

namespace StreamedInference

/-- How a model is loaded. -/
structure DecoderOptions where
  path : String
  gpuLayers : UInt32
  contextSize : UInt32
deriving DecidableEq, Repr

/-- What loading a model comes to. -/
structure Loading where
  calls : List BackendCall := []
  log : List LogEvent := []
  result : Except Failure Engine

namespace Decoder

/-- The place, in bytes, of the first NUL character. -/
def nulPosition? (text : String) : Option Nat :=
  let before := text.toList.takeWhile (· != '\x00')
  if before.length == text.length then none
  else some (String.ofList before).utf8ByteSize

/-- A message of a conversation; a NUL character in its role or content is told by its place. -/
def message (t : Turn) : Except Failure (String × String) :=
  match (nulPosition? t.role.text).or (nulPosition? t.content) with
  | none => .ok (t.role.text, t.content)
  | some n =>
    .error (.assembly ("nul byte found in provided data at position: " ++ toString n))

/-- The template of a model, or ChatML if it has none. -/
def template (b : Backend) : ChatTemplate := fun ts cue =>
  match b.template with
  | .error _ => .ok (ChatMl.render ts cue)
  | .ok render => do
    let messages ← ts.mapM message
    (render messages cue).mapError .assembly

/-- What the start-up log tells of a model. -/
def description (b : Backend) (o : DecoderOptions) : String :=
  "llama.cpp " ++ o.path ++ " (" ++ toString b.parameters ++ " params, " ++
    toString o.contextSize ++ " ctx, " ++ toString o.gpuLayers ++ " gpu layers)"

/-- What a generate call hands to a consumer that stays, and how it ends. -/
def script (b : Backend) (o : DecoderOptions) (call : GenerateCall) : CallScript :=
  let (events, ending) := Decoding.run .word b o.contextSize.toNat (fun _ => true) call
  ⟨Decoding.fragments events, ending⟩

/-- The engine of a loaded model. -/
def engine (b : Backend) (o : DecoderOptions) : Engine :=
  { conduct := .computed (script b o), template := template b, description := description b o }

/-- A warning that the model brings no template. -/
def noTemplateEvent (cause : String) : LogEvent :=
  ⟨.engine, .warn, "Model has no usable chat template (" ++ cause ++ "); using ChatML", []⟩

/-- Loads a model. -/
def load (b : Backend) (o : DecoderOptions) : Loading :=
  match b.start with
  | .error e => { result := .error (.engineLoad ("backend init: " ++ e)) }
  | .ok () =>
    let calls := [.load o.path o.gpuLayers]
    match b.load with
    | .error e => { calls := calls, result := .error (.engineLoad (o.path ++ ": " ++ e)) }
    | .ok () =>
      let log :=
        match b.template with
        | .ok _ => []
        | .error e => [noTemplateEvent e]
      { calls := calls, log := log, result := .ok (engine b o) }

end Decoder

end StreamedInference
