import StreamedInference.Net.Address
import StreamedInference.Single.Reading
import StreamedInference.Text.Numeral

/-!
# Settings

What can be set from outside: each setting has a flag of the command line, a variable of the
environment, and a kind of value that its text is read as. A `Layer` holds the settings that one
source gives.

## Main definitions

* `SettingKind.read`: the value of a text, by its kind.
* `Setting`: the settings, with `Setting.flagName` and `Setting.variableName`.
* `Layer`: the settings of one source.
-/

namespace StreamedInference

/-- Why a text is no value of a setting. -/
inductive ValueFault where
  /-- The text is not one of those that are allowed. -/
  | notAllowed
  /-- The text cannot be read. -/
  | unreadable (reason : String)
deriving DecidableEq, Repr

/-- The kinds of values. -/
inductive SettingKind where
  | text
  | path
  | switch
  | single
  | word16
  | word32
  | word64
  | address
deriving DecidableEq, Repr

namespace SettingKind

/-- The values of a kind. -/
@[reducible] def Value : SettingKind → Type
  | .text => String
  | .path => String
  | .switch => Bool
  | .single => Single
  | .word16 => UInt16
  | .word32 => UInt32
  | .word64 => UInt64
  | .address => IPAddress

/-- A number up to `limit`, read as a signed one first. -/
def readBounded (limit : Nat) (text : String) : Except ValueFault Nat :=
  match Numeral.readInt 9223372036854775808 9223372036854775807 text with
  | .error fault => .error (.unreadable fault.message)
  | .ok n =>
    if 0 ≤ n && n ≤ limit then .ok n.toNat
    else .error (.unreadable (toString n ++ " is not in 0..=" ++ toString limit))

/-- The value that a text spells. -/
def read : (k : SettingKind) → String → Except ValueFault k.Value
  | .text, s => .ok s
  | .path, s => if s.isEmpty then .error .notAllowed else .ok s
  | .switch, s =>
    if s == "true" then .ok true else if s == "false" then .ok false else .error .notAllowed
  | .single, s =>
    if s.isEmpty then .error (.unreadable "cannot parse float from empty string")
    else
      match Single.ofText? s with
      | some x => .ok x
      | none => .error (.unreadable "invalid float literal")
  | .word16, s => (readBounded 65535 s).map UInt16.ofNat
  | .word32, s => (readBounded 4294967295 s).map UInt32.ofNat
  | .word64, s =>
    match Numeral.readNat 18446744073709551615 s with
    | .ok n => .ok (UInt64.ofNat n)
    | .error fault => .error (.unreadable fault.message)
  | .address, s =>
    match IPAddress.ofText? s with
    | some x => .ok x
    | none => .error (.unreadable "invalid IP address syntax")

end SettingKind

/-- The settings. -/
inductive Setting where
  | serverName
  | environment
  | listenHost
  | grpcPort
  | modelName
  | modelDir
  | modelPath
  | maxTokens
  | temperature
  | repetitionPenalty
  | topP
  | topK
  | maxWorkers
  | streamBufferSize
  | shutdownGraceSecs
  | advertiseIp
  | consulAddress
  | disableRegistry
  | closeOnGenerationError
  | cumulativeTokenCount
  | honorTemperatureOverride
  | gpuLayers
  | contextSize
deriving DecidableEq, Repr

namespace Setting

/-- All settings, in the order in which the environment is looked through. -/
def all : List Setting :=
  [.serverName, .environment, .listenHost, .grpcPort, .modelName, .modelDir, .modelPath,
    .maxTokens, .temperature, .repetitionPenalty, .topP, .topK, .maxWorkers, .streamBufferSize,
    .shutdownGraceSecs, .advertiseIp, .consulAddress, .disableRegistry, .closeOnGenerationError,
    .cumulativeTokenCount, .honorTemperatureOverride, .gpuLayers, .contextSize]

/-- The variable of a setting. -/
def variableName : Setting → String
  | .serverName => "SERVER_NAME"
  | .environment => "ENVIRONMENT"
  | .listenHost => "LISTEN_HOST"
  | .grpcPort => "GRPC_PORT"
  | .modelName => "MODEL_NAME"
  | .modelDir => "MODEL_DIR"
  | .modelPath => "MODEL_PATH"
  | .maxTokens => "MAX_TOKENS"
  | .temperature => "TEMPERATURE"
  | .repetitionPenalty => "REPETITION_PENALTY"
  | .topP => "TOP_P"
  | .topK => "TOP_K"
  | .maxWorkers => "MAX_WORKERS"
  | .streamBufferSize => "STREAM_BUFFER_SIZE"
  | .shutdownGraceSecs => "SHUTDOWN_GRACE_SECS"
  | .advertiseIp => "ADVERTISE_IP"
  | .consulAddress => "CONSUL_ADDRESS"
  | .disableRegistry => "DISABLE_REGISTRY"
  | .closeOnGenerationError => "CLOSE_ON_GENERATION_ERROR"
  | .cumulativeTokenCount => "CUMULATIVE_TOKEN_COUNT"
  | .honorTemperatureOverride => "HONOR_TEMPERATURE_OVERRIDE"
  | .gpuLayers => "GPU_LAYERS"
  | .contextSize => "CONTEXT_SIZE"

/-- The name of a setting's flag, without the dashes in front. -/
def flagName (s : Setting) : String :=
  String.ofList (s.variableName.toList.map fun c => if c == '_' then '-' else c.toLower)

/-- The setting whose flag has a name. -/
def ofFlagName? (name : String) : Option Setting :=
  all.find? fun s => s.flagName == name

/-- A flag and the name of its value. -/
def usage (s : Setting) : String :=
  "--" ++ s.flagName ++ " <" ++ s.variableName ++ ">"

/-- The kind of a setting's value. -/
@[reducible] def kind : Setting → SettingKind
  | .serverName | .environment | .listenHost | .modelName | .consulAddress => .text
  | .modelDir | .modelPath => .path
  | .grpcPort => .word16
  | .maxTokens | .topK | .gpuLayers | .contextSize => .word32
  | .maxWorkers | .streamBufferSize | .shutdownGraceSecs => .word64
  | .temperature | .repetitionPenalty | .topP => .single
  | .advertiseIp => .address
  | .disableRegistry | .closeOnGenerationError | .cumulativeTokenCount
  | .honorTemperatureOverride => .switch

/-- The values of a setting. -/
abbrev Value (s : Setting) : Type := s.kind.Value

end Setting

/-- The settings that one source gives. -/
def Layer : Type := (s : Setting) → Option s.Value

namespace Layer

/-- No setting at all. -/
def empty : Layer := fun _ => none

/-- The layer with one more setting. -/
def set (l : Layer) (s : Setting) (v : s.Value) : Layer := fun t =>
  if h : s = t then some (h ▸ v) else l t

/-- What the upper layer leaves open comes from the lower one. -/
def upon (upper lower : Layer) : Layer := fun s => (upper s).or (lower s)

theorem set_same (l : Layer) (s : Setting) (v : s.Value) : l.set s v s = some v := by
  simp [set]

theorem set_other (l : Layer) {s t : Setting} (v : s.Value) (h : s ≠ t) :
    l.set s v t = l t := by
  simp [set, h]

end Layer

end StreamedInference
