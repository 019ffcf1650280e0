import StreamedInference.Session.Basic

/-!
# The steps of a session

What a session does next depends on its own state and on what it sees of the rest: the signals of
the pool, whether the gate has chosen it, and what its unit has for it. It answers with a new state
and with what it does to the rest.

Wherever a session waits, termination comes first and the client's absence second. Draining closes
a session only between turns and only if nothing has been sent to it.

## Main definitions

* `SessionView`, `SessionEffect`: what a session sees of the rest and does to it.
* `Session.step?`: one step of a session.
-/

namespace StreamedInference

/-- What all sessions of a service have in common. -/
structure SessionSetup where
  sampling : Sampling := {}
  policy : SessionPolicy := {}
  systemPrompt : String := defaultSystemPrompt
  template : ChatTemplate := fun ts cue => .ok (ChatMl.render ts cue)

/-- What a session sees of the rest. -/
structure SessionView where
  draining : Bool := false
  terminated : Bool := false
  /-- The gate has chosen the session. -/
  mayEnter : Bool := false
  /-- What the session's unit has for it. -/
  offer : Offer := .pending
deriving Repr

/-- What a session does to the rest. -/
inductive SessionEffect where
  /-- It asks for the gate. -/
  | request
  /-- It gives up waiting for the gate. -/
  | withdraw
  /-- It enters the gate and starts a unit. -/
  | start (call : GenerateCall)
  /-- It takes what its unit has for it. -/
  | take
  /-- It leaves its unit alone. -/
  | detach
  | note (e : LogEvent)
deriving DecidableEq, Repr

namespace Session

/-- The parameters of a turn whose fragment wishes for a temperature. -/
def samplingFor (setup : SessionSetup) (requested : Single) : Sampling :=
  if setup.policy.honorTemperatureOverride then setup.sampling.withTemperature requested
  else setup.sampling

/-- The number of tokens from which a turn counts. -/
def base (setup : SessionSetup) (s : Session) : Nat :=
  if setup.policy.cumulativeTokenCount then s.tokens else 0

/-- The count that a chunk shows. It wraps around beyond 32 bits, as in a build that does not check
for overflow; in one that does, the session would break down there. -/
def shownCount (setup : SessionSetup) (s : Session) (turnTokens : Nat) : Int32 :=
  Int32.ofNat (s.base setup + turnTokens)

/-- The session closes. -/
def close (s : Session) (reason : CloseReason) : Session :=
  { s with phase := .closed reason }

/-- The tokens of the turn under way count for the session. -/
def settleTokens (s : Session) : Session :=
  { s with tokens := s.tokens + s.turnTokens, turnTokens := 0 }

/-- An event of a session. -/
def note (level : LogLevel) (message : String) (values : List (String × LogValue)) :
    SessionEffect :=
  .note ⟨.session, level, message, values⟩

/-- Why a waiting session has to close at once, if it has to. -/
def interruption? (v : SessionView) (s : Session) : Option CloseReason :=
  if v.terminated then some .terminated
  else if s.clientGone then some .clientGone
  else none

/-- The whole transcript as one text. -/
def rawText (transcript : List String) : List Char :=
  transcript.flatMap String.toList

/-- A turn begins with a fragment that is not empty. -/
def beginTurn (setup : SessionSetup) (s : Session) (r : Request) :
    Session × List SessionEffect :=
  let transcript := s.transcript ++ [r.message]
  let (prompt, events) :=
    Prompt.assemble setup.template setup.systemPrompt (rawText transcript)
  let sampling := samplingFor setup r.temperature
  let turns := s.turns + 1
  ({ s with
      transcript := transcript
      turns := turns
      turnTokens := 0
      phase := .queued ⟨prompt, sampling⟩ },
    [note .info "Received fragment"
      [("session_id", .text r.sessionId),
        ("message_len", .integer r.message.utf8ByteSize),
        ("temperature", .single r.temperature)]] ++
    events.map .note ++
    [note .info "Starting turn"
      [("turn", .integer turns), ("prompt_len", .integer prompt.utf8ByteSize),
        ("temperature", .single sampling.temperature)],
      .request])

/-- A step between turns: what has been sent is looked at before the server's draining is. -/
def idleStep? (setup : SessionSetup) (v : SessionView) (s : Session) :
    Option (Session × List SessionEffect) :=
  match s.inbound with
  | .finish :: rest => some ({ s with inbound := rest }.close .inboundClosed, [])
  | .failure status :: rest =>
    some ({ s with inbound := rest }.close (.transport status.message),
      [note .warn ("Inbound stream failed: " ++ status.describe) []])
  | .fragment r :: rest =>
    if r.message.isEmpty then
      some ({ s with inbound := rest },
        [note .debug "Ignoring empty fragment" [("session_id", .text r.sessionId)]])
    else some (beginTurn setup { s with inbound := rest } r)
  | [] => if v.draining then some (s.close .drained, []) else none

/-- A step of a session that listens to its unit. -/
def listeningStep? (setup : SessionSetup) (v : SessionView) (s : Session) :
    Option (Session × List SessionEffect) :=
  match v.offer with
  | .pending => none
  | .fragment text =>
    let turnTokens := s.turnTokens + 1
    let chunk := Response.partialChunk text (s.shownCount setup turnTokens)
    some ({ s with turnTokens := turnTokens, phase := .sending chunk }, [.take])
  | .failed f =>
    let chunk := Response.failed f.clientMessage (s.shownCount setup s.turnTokens)
    some ({ s with phase := .ending chunk (some f) }, [.take])
  | .ended =>
    let chunk := Response.finished (s.shownCount setup s.turnTokens)
    some ({ s with phase := .ending chunk none }, [.take])

/-- There is room for a chunk. -/
def hasRoom (setup : SessionSetup) (s : Session) : Bool :=
  s.unread < setup.policy.streamBufferSize.toNat

/-- A chunk is put on the outbound stream. -/
def put (s : Session) (chunk : Response) : Session :=
  { s with sent := s.sent ++ [chunk] }

/-- A turn is over. -/
def endTurn (setup : SessionSetup) (s : Session) (failure : Option Failure) :
    Session × List SessionEffect :=
  let turn := ("turn", LogValue.integer s.turns)
  let tokens := ("tokens", LogValue.integer s.turnTokens)
  let s := s.settleTokens
  match failure with
  | none =>
    ({ s with phase := .idle }, [note .info "Turn finished" [turn, tokens], .detach])
  | some f =>
    (if setup.policy.closeOnGenerationError then s.close .generationError
      else { s with phase := .idle },
      [note .warn ("Turn failed: " ++ f.message) [turn, tokens], .detach])

/-- One step of a session, unless it is closed or has to wait. -/
def step? (setup : SessionSetup) (v : SessionView) (s : Session) :
    Option (Session × List SessionEffect) :=
  match s.phase with
  | .opening => some ({ s with phase := .idle }, [.note ⟨.handler, .info, "Session opened", []⟩])
  | .idle =>
    match interruption? v s with
    | some reason => some (s.close reason, [])
    | none => idleStep? setup v s
  | .queued call =>
    match interruption? v s with
    | some reason => some (s.close reason, [.withdraw])
    | none =>
      if v.mayEnter then some ({ s with phase := .listening }, [.start call]) else none
  | .listening =>
    match interruption? v s with
    | some reason => some (s.settleTokens.close reason, [.detach])
    | none => listeningStep? setup v s
  | .sending chunk =>
    match interruption? v s with
    | some reason => some (s.settleTokens.close reason, [.detach])
    | none =>
      if s.hasRoom setup then some ({ s.put chunk with phase := .listening }, []) else none
  | .ending chunk failure =>
    match interruption? v s with
    | some reason => some (s.settleTokens.close reason, [.detach])
    | none =>
      if s.hasRoom setup then some (endTurn setup (s.put chunk) failure) else none
  | .closed _ => none

end Session

end StreamedInference
