import StreamedInference.Conversation.Turn
import StreamedInference.Single.Basic

/-!
# Token models

A token model continues a row of tokens by further tokens. Behind it stands a library that loads
the model, cuts a prompt into tokens, evaluates batches of them and samples the next one. What
the library answers may depend on how often it was asked; how it finds its answers is left open.

## Main definitions

* `BackendCall`: what the library is asked to do.
* `Backend`: a library, by what it answers.
-/

namespace StreamedInference

/-- A token by its number. -/
abbrev Token := Nat

/-- A token in a batch. -/
structure BatchEntry where
  token : Token
  position : Int
  /-- What may follow the token is to be computed. -/
  wanted : Bool
deriving DecidableEq, Repr

/-- A stage in the choice of a token. -/
inductive SamplerStage where
  /-- Makes the tokens among the last ones less likely. -/
  | penalties (last : Nat) (repetition frequency presence : Single)
  /-- Keeps the likeliest tokens; all of them if the number is not positive. -/
  | topK (count : Int32)
  /-- Keeps the likeliest tokens that make up a share of probability. -/
  | topP (share : Single) (least : Nat)
  | temperature (t : Single)
  /-- Draws a token. -/
  | draw
  /-- Takes the likeliest token. -/
  | greedy
deriving DecidableEq, Repr

/-- What the library is asked to do. -/
inductive BackendCall where
  | load (path : String) (gpuLayers : UInt32)
  /-- A context for a number of tokens, which may all come in one batch. -/
  | openContext (size : Nat)
  /-- A text of some bytes is cut into tokens, with the mark of the beginning in front. -/
  | tokenize (bytes : Nat)
  | newBatch (capacity : Nat)
  | decode (batch : List BatchEntry)
  | buildSampler (stages : List SamplerStage)
  /-- A token is sampled that may follow the entry of a batch. -/
  | sample (entry : Int)
deriving DecidableEq, Repr

/-- How a model's own template renders messages, each a role and a content. -/
abbrev MessageTemplate := List (String × String) → Bool → Except String String

/-- A library and the model it loads. -/
structure Backend where
  start : Except String Unit
  load : Except String Unit
  /-- The number of the model's parameters. -/
  parameters : Nat
  /-- The model's template, or why there is none. -/
  template : Except String MessageTemplate
  openContext : Except String Unit
  tokenize : String → Except String (List Token)
  /-- Adds an entry to a batch; entries are counted over the whole call. -/
  add : Nat → Except String Unit
  /-- Evaluates a batch; batches are counted over the whole call. -/
  decode : Nat → Except String Unit
  /-- The tokens sampled in a call, in order. -/
  sample : Nat → Token
  /-- The token ends what the model has to say. -/
  isEnd : Token → Bool
  /-- The bytes of a token; what is asked for is counted over the whole call. -/
  bytes : Nat → Token → Except String (List UInt8)

end StreamedInference
