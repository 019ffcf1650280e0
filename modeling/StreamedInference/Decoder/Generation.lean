import StreamedInference.Decoder.Backend
import StreamedInference.Generation.Engine
import StreamedInference.Text.Buffer

/-!
# Generation token by token

A generate call evaluates the prompt in one batch and then, again and again, samples a token,
gives out its text and evaluates it in a batch of its own. It stops at a token that ends what the
model has to say, at the wanted number of tokens, when the context is full, or when a fragment
finds its consumer gone. The text of a call comes from bytes whose characters may be cut between
two tokens; what is left of them is given out in the end.

The library counts positions in 32 bits. How a call reckons with them is told to it, so that it can
be compared with one that has a position for every number.

## Main definitions

* `Reckoning`: how positions are reckoned with, in 32 bits or exactly.
* `DecodingEvent`, `DecodingRun`: what happens in a call, in order, and how the call ends.
* `Decoding.step`, `Decoding.loop`: one token, and token after token by the number of tokens that
  are still wanted.
* `Decoding.inContext`, `Decoding.run`: a call in an open context, and a whole call.
* `Decoding.calls`, `Decoding.fragments`, `Decoding.notes`: one kind of event each.
-/

namespace StreamedInference

/-- How positions are reckoned with. -/
structure Reckoning where
  /-- What a count becomes as a position. -/
  position : Nat → Int
  /-- The result of an addition or a subtraction, if there is a position for it. -/
  result? : Int → Option Int

namespace Reckoning

/-- Every number is a position. -/
def exact : Reckoning where
  position n := n
  result? := some

/-- Positions are numbers of 32 bits with a sign. A count is cut down to its lowest bits; a result
that is out of range is none, and the call breaks down there, as in a build that checks for
overflow. In one that does not, the result would wrap around. -/
def word : Reckoning where
  position n := (Int32.ofNat n).toInt
  result? x := if Int32.minValue.toInt ≤ x ∧ x ≤ Int32.maxValue.toInt then some x else none

end Reckoning

/-- What happens in a generate call, from outside. -/
inductive DecodingEvent where
  | called (call : BackendCall)
  | emitted (fragment : String)
  | noted (event : LogEvent)
deriving DecidableEq, Repr

/-- What a generate call does, and how it ends. -/
abbrev DecodingRun := List DecodingEvent × Ending

/-- How many of the last tokens count as repeated. -/
def penaltyWindow : Nat := 64

/-- The stages in which tokens are chosen. -/
def samplerStages (p : Sampling) : List SamplerStage :=
  let penalties := .penalties penaltyWindow p.repetitionPenalty .zero .zero
  if p.temperature.le .epsilon then [penalties, .greedy]
  else
    [penalties, .topK p.topK.toInt32, .topP p.topP 1, .temperature p.temperature, .draw]

/-- Where a call stands between two tokens. -/
structure DecodingState where
  /-- The position of the next token. -/
  position : Int
  /-- The number of entries in the last batch. -/
  entries : Nat
  added : Nat
  decoded : Nat := 1
  sampled : Nat := 0
  buffer : TextBuffer := {}
deriving DecidableEq, Repr

namespace DecodingState

/-- What is given out when the tokens are at their end. -/
def flush (s : DecodingState) : List DecodingEvent :=
  s.buffer.finish.1.toList.map .emitted

/-- The next position is outside a context of a size; a negative one counts as a large one. -/
def isFull (s : DecodingState) (size : Nat) : Bool :=
  s.position < 0 || size ≤ s.position.toNat

end DecodingState

/-- What a token comes to: the call stops, or stands behind the token. -/
inductive DecodingProgress where
  | stopped (ending : Ending)
  | reached (s : DecodingState)
deriving DecidableEq, Repr

namespace Decoding

/-- A call that fails. -/
def failed (what reason : String) : Ending :=
  .failure (.generation (what ++ ": " ++ reason))

/-- A call whose prompt leaves no room in the context. -/
def tooLong (count size : Nat) : Ending :=
  .failure (.generation ("prompt of " ++ toString count ++
    " tokens exceeds the " ++ toString size ++ " token context window"))

/-- What is noted when the context is full. -/
def fullEvent (position : Int) : LogEvent :=
  ⟨.engine, .debug, "Context window full after " ++ toString position ++ " tokens", []⟩

/-- What is noted when a fragment finds its consumer gone. -/
def detachedEvent : LogEvent :=
  ⟨.engine, .debug, "Consumer detached, stopping generation early", []⟩

section

variable (r : Reckoning) (b : Backend) (size : Nat) (attached : Nat → Bool)

/-- A token is evaluated in a batch of its own, with its text already given out. -/
def evaluate (s : DecodingState) (token : Token) (buffer : TextBuffer) :
    List DecodingEvent × DecodingProgress :=
  match b.add s.added with
  | .error e => ([], .stopped (failed "batch" e))
  | .ok () =>
    let decoded := DecodingEvent.called (.decode [⟨token, s.position, true⟩])
    match b.decode s.decoded with
    | .error e => ([decoded], .stopped (failed "decode" e))
    | .ok () =>
      match r.result? (s.position + 1) with
      | none => ([decoded], .stopped .breakdown)
      | some position =>
        ([decoded], .reached
          { position := position
            entries := 1
            added := s.added + 1
            decoded := s.decoded + 1
            sampled := s.sampled + 1
            buffer := buffer })

/-- The bytes of a token are given out, as far as they make up text. `attached` tells whether the
consumer is there for the text of the `n`-th token. -/
def utter (s : DecodingState) (token : Token) (bytes : List UInt8) :
    List DecodingEvent × DecodingProgress :=
  let (text, buffer) := s.buffer.push bytes
  let given := text.toList.map DecodingEvent.emitted
  if text.isSome && !attached s.sampled then
    (given ++ [.noted detachedEvent], .stopped .success)
  else
    let (events, progress) := evaluate r b s token buffer
    (given ++ events, progress)

/-- One token in a context of a size. -/
def step (s : DecodingState) : List DecodingEvent × DecodingProgress :=
  if s.isFull size then (.noted (fullEvent s.position) :: s.flush, .stopped .success)
  else
    match r.result? (r.position s.entries - 1) with
    | none => ([], .stopped .breakdown)
    | some entry =>
      let token := b.sample s.sampled
      let sampling := DecodingEvent.called (.sample entry)
      if b.isEnd token then (sampling :: s.flush, .stopped .success)
      else
        match b.bytes s.sampled token with
        | .error e => ([sampling], .stopped (failed "detokenize" e))
        | .ok bytes =>
          let (events, progress) := utter r b attached s token bytes
          (sampling :: events, progress)

/-- Up to `left` tokens. -/
def loop : (left : Nat) → DecodingState → DecodingRun
  | 0, s => (s.flush, .success)
  | left + 1, s =>
    match step r b size attached s with
    | (events, .stopped ending) => (events, ending)
    | (events, .reached s') =>
      let (more, ending) := loop left s'
      (events ++ more, ending)

/-- The batch of a prompt: only what may follow the last token is wanted. -/
def promptBatch (tokens : List Token) : List BatchEntry :=
  tokens.zipIdx.map fun (t, i) => ⟨t, r.position i, i + 1 == tokens.length⟩

/-- The first entry of a batch that cannot be added to it, if there is one. -/
def addFault? (count : Nat) : Option String :=
  (List.range count).findSome? fun n =>
    match b.add n with
    | .ok () => none
    | .error e => some e

/-- Goes on behind the prompt's tokens. A call cannot bear a prompt without tokens. -/
def afterTokens (p : Sampling) (tokens : List Token) : DecodingRun :=
  if size ≤ tokens.length then ([], tooLong tokens.length size)
  else
    let opened := DecodingEvent.called (.newBatch size)
    if tokens.isEmpty then ([opened], .breakdown)
    else
      match addFault? b tokens.length with
      | some e => ([opened], failed "batch" e)
      | none =>
        let decoded := DecodingEvent.called (.decode (promptBatch r tokens))
        match b.decode 0 with
        | .error e => ([opened, decoded], failed "decode prompt" e)
        | .ok () =>
          let (events, ending) := loop r b size attached p.maxNewTokens.toNat
            { position := r.position tokens.length
              entries := tokens.length
              added := tokens.length }
          (opened :: decoded :: .called (.buildSampler (samplerStages p)) :: events, ending)

/-- A generate call in an open context of a size. -/
def inContext (call : GenerateCall) : DecodingRun :=
  let tokenized := DecodingEvent.called (.tokenize call.prompt.utf8ByteSize)
  match b.tokenize call.prompt with
  | .error e => ([tokenized], failed "tokenize" e)
  | .ok tokens =>
    let (events, ending) := afterTokens r b size attached call.sampling tokens
    (tokenized :: events, ending)

/-- A generate call in a context of a size. -/
def run (call : GenerateCall) : DecodingRun :=
  let opened := DecodingEvent.called (.openContext size)
  match b.openContext with
  | .error e => ([opened], failed "context" e)
  | .ok () =>
    let (events, ending) := inContext r b size attached call
    (opened :: events, ending)

end

/-! ### What a call leaves behind -/

/-- What the library was asked. -/
def calls (events : List DecodingEvent) : List BackendCall :=
  events.filterMap fun
    | .called c => some c
    | _ => none

/-- The fragments that were emitted. -/
def fragments (events : List DecodingEvent) : List String :=
  events.filterMap fun
    | .emitted s => some s
    | _ => none

/-- What was noted. -/
def notes (events : List DecodingEvent) : List LogEvent :=
  events.filterMap fun
    | .noted e => some e
    | _ => none

/-- What happens before the `n`-th token is sampled. -/
def beforeSample : (n : Nat) → List DecodingEvent → List DecodingEvent
  | _, [] => []
  | 0, .called (.sample _) :: _ => []
  | n + 1, .called (.sample e) :: events => .called (.sample e) :: beforeSample n events
  | n, event :: events => event :: beforeSample n events

end Decoding

end StreamedInference
