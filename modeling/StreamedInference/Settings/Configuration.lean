import StreamedInference.Model.Path
import StreamedInference.Sampling
import StreamedInference.Settings.CommandLine
import StreamedInference.Single.Shortest
import StreamedInference.Text.Blank

/-!
# The configuration of a server

Settings that were read are completed by defaults and checked. The checks come in a fixed order,
and the first that fails decides.

## Main definitions

* `Configuration`: everything a server is told.
* `Configuration.fault?`: the checks.
* `Configuration.load`: from flags and variables to a configuration.
-/

namespace StreamedInference

/-- How sessions behave. -/
structure SessionPolicy where
  /-- A turn that fails ends its session. -/
  closeOnGenerationError : Bool := false
  /-- Tokens are counted through the whole session, not in each turn. -/
  cumulativeTokenCount : Bool := false
  /-- A request's wish for a temperature counts in its turn. -/
  honorTemperatureOverride : Bool := true
  /-- How many chunks may wait for the client. -/
  streamBufferSize : UInt64 := 32
deriving DecidableEq, Repr

/-- Which model is served and how. -/
structure ModelSource where
  name : String := "Qwen/Qwen3-0.6B"
  path : String := "model/Qwen/Qwen3-0.6B"
  gpuLayers : UInt32 := 99
  contextSize : UInt32 := 4096
deriving DecidableEq, Repr

/-- Where the server announces itself. -/
structure RegistrySettings where
  enabled : Bool := true
  agentAddress : String := "localhost:8500"
  advertised : Option IPAddress := none
deriving DecidableEq, Repr

/-- Everything a server has to know. -/
structure Configuration where
  serverName : String := "llm-inference"
  environment : String := "development"
  listenAddress : String
  port : UInt16
  model : ModelSource := {}
  sampling : Sampling := {}
  policy : SessionPolicy := {}
  maxWorkers : UInt64 := 10
  shutdownGraceSecs : UInt64 := 5
  registry : RegistrySettings := {}
deriving DecidableEq, Repr

/-- Why a server cannot run with its settings. -/
inductive ConfigurationFault where
  | noWorkers
  | noTokens
  | noBuffer
  | noContext
  | temperature (value : Single)
  | topP (value : Single)
  | repetitionPenalty (value : Single)
  | noName
deriving DecidableEq, Repr

/-- The wording of a fault. -/
def ConfigurationFault.message : ConfigurationFault → String
  | .noWorkers => "MAX_WORKERS must be greater than 0"
  | .noTokens => "MAX_TOKENS must be greater than 0"
  | .noBuffer => "STREAM_BUFFER_SIZE must be greater than 0"
  | .noContext => "CONTEXT_SIZE must be greater than 0"
  | .temperature x => "TEMPERATURE (" ++ x.toText ++ ") must be a finite value >= 0"
  | .topP x => "TOP_P (" ++ x.toText ++ ") must be in (0, 1]"
  | .repetitionPenalty x => "REPETITION_PENALTY (" ++ x.toText ++ ") must be a finite value > 0"
  | .noName => "SERVER_NAME must not be empty"

namespace Configuration

/-- The configuration of a server that listens at a socket, with the defaults for all else. It
does not announce itself. -/
def ofSocket (socket : SocketAddress) : Configuration where
  listenAddress := socket.toText
  port := socket.port
  registry := { enabled := false }

/-- The value of a setting, or a default. -/
def setting (l : Layer) (s : Setting) (default : s.Value) : s.Value :=
  (l s).getD default

/-- The directory of models where none is set. -/
def defaultModelDir : String := "model"

/-- The port where none is set. -/
def defaultPort : UInt16 := 8083

/-- The host where none is set. -/
def defaultHost : String := "0.0.0.0"

/-- The parameters of generate calls. -/
def samplingOf (l : Layer) : Sampling :=
  let d : Sampling := {}
  { maxNewTokens := setting l .maxTokens d.maxNewTokens
    temperature := setting l .temperature d.temperature
    repetitionPenalty := setting l .repetitionPenalty d.repetitionPenalty
    topP := setting l .topP d.topP
    topK := setting l .topK d.topK }

/-- The behaviour of sessions. -/
def policyOf (l : Layer) : SessionPolicy :=
  let d : SessionPolicy := {}
  { closeOnGenerationError := setting l .closeOnGenerationError d.closeOnGenerationError
    cumulativeTokenCount := setting l .cumulativeTokenCount d.cumulativeTokenCount
    honorTemperatureOverride := setting l .honorTemperatureOverride d.honorTemperatureOverride
    streamBufferSize := setting l .streamBufferSize d.streamBufferSize }

/-- The model: at its own path if there is one, else at its name within the directory. -/
def modelOf (l : Layer) : ModelSource :=
  let d : ModelSource := {}
  let name := setting l .modelName d.name
  { name := name
    path := (l .modelPath).getD (Path.join (setting l .modelDir defaultModelDir) name)
    gpuLayers := setting l .gpuLayers d.gpuLayers
    contextSize := setting l .contextSize d.contextSize }

/-- The registry. -/
def registryOf (l : Layer) : RegistrySettings :=
  let d : RegistrySettings := {}
  { enabled := !setting l .disableRegistry false
    agentAddress := setting l .consulAddress d.agentAddress
    advertised := l .advertiseIp }

/-- The configuration that settings and defaults make up, unchecked. -/
def ofLayer (l : Layer) : Configuration :=
  let port := setting l .grpcPort defaultPort
  { serverName := setting l .serverName "llm-inference"
    environment := setting l .environment "development"
    listenAddress := setting l .listenHost defaultHost ++ ":" ++ toString port.toNat
    port := port
    model := modelOf l
    sampling := samplingOf l
    policy := policyOf l
    maxWorkers := setting l .maxWorkers 10
    shutdownGraceSecs := setting l .shutdownGraceSecs 5
    registry := registryOf l }

/-- The first check that a configuration fails. -/
def fault? (c : Configuration) : Option ConfigurationFault :=
  if c.maxWorkers == 0 then some .noWorkers
  else if c.sampling.maxNewTokens == 0 then some .noTokens
  else if c.policy.streamBufferSize == 0 then some .noBuffer
  else if c.model.contextSize == 0 then some .noContext
  else if !(Single.zero.le c.sampling.temperature && c.sampling.temperature.isFinite) then
    some (.temperature c.sampling.temperature)
  else if !(Single.zero.lt c.sampling.topP && c.sampling.topP.le .one) then
    some (.topP c.sampling.topP)
  else if !(Single.zero.lt c.sampling.repetitionPenalty &&
      c.sampling.repetitionPenalty.isFinite) then
    some (.repetitionPenalty c.sampling.repetitionPenalty)
  else if isBlankText c.serverName then some .noName
  else none

/-- The configuration that settings and defaults make up, if it passes the checks. -/
def ofLayer? (l : Layer) : Except ConfigurationFault Configuration :=
  let c := ofLayer l
  match c.fault? with
  | some fault => .error fault
  | none => .ok c

/-- Why a configuration cannot be loaded. -/
inductive LoadFault where
  | usage (error : UsageError)
  | rejected (fault : ConfigurationFault)
deriving DecidableEq, Repr

/-- The configuration of a command line and an environment. -/
def load (words : List String) (env : Environment) : Except LoadFault Configuration :=
  match readSettings words env with
  | .error error => .error (.usage error)
  | .ok l =>
    match ofLayer? l with
    | .error fault => .error (.rejected fault)
    | .ok c => .ok c

end Configuration

end StreamedInference
