import StreamedInference.Decoder.Engine
import StreamedInference.Log.Filter
import StreamedInference.Model.FileTree
import StreamedInference.Server.Step
import StreamedInference.Settings.EnvironmentFile

/-!
# The program

From the start of the process to its end: the variables beside it are added to the environment,
the configuration is loaded, the model is found and loaded, the port is bound, and the server runs
until a signal stops it. A start that fails says why and contacts nobody.

## Main definitions

* `Surroundings`: what the process finds around it.
* `Program.prepare`: from a configuration to a server.
* `Program.run`: a process from its start to its end, a `ProgramEnd`.
-/

namespace StreamedInference

/-- What the process finds around it. -/
structure Surroundings where
  /-- What stands at a path. -/
  look : String → FileTree
  backend : Backend
  /-- How a registry answers. -/
  registrar : Registry → Registrar
  /-- The source address of the route outwards, if there is such a route. -/
  route : Option IPAddress := none
  /-- Binds an address: the port, or the words in which the system refuses. -/
  bind : String → Except String UInt16

/-- The signals that stop the process. -/
inductive StopSignal where
  | terminate
  | interrupt
deriving DecidableEq, Repr

/-- The name of a signal. -/
def StopSignal.name : StopSignal → String
  | .terminate => "SIGTERM"
  | .interrupt => "Ctrl+C"

/-- Why a process does not come to serve although its configuration is accepted. -/
inductive StartFault where
  | model (fault : ModelFault)
  | engine (failure : Failure)
  | binding (address cause : String)
  | capacity (fault : CapacityFault)
deriving DecidableEq, Repr

/-- What a process leaves behind. -/
structure ProgramEnd where
  /-- The exit status; nothing while the process runs on. -/
  status : Option Nat
  /-- What its server has done that others can see. -/
  history : List Milestone := []
  /-- All events, whether they are written down or not. -/
  log : List LogEvent := []
  filter : LogFilter := .standard
  output : String := ""
  errors : String := ""

namespace Program

/-- The line that tells the version. -/
def versionLine : String := "inferd-server 0.3.0\n"

/-- The words of a start that failed, with what caused it. -/
def report (message : String) (cause? : Option String) : String :=
  "Error: " ++ message ++ (cause?.map ("\n\nCaused by:\n    " ++ ·)).getD "" ++ "\n"

end Program

/-- The exit status of a start that failed, and the words for it. A breakdown has a status of its
own. -/
def StartFault.ending : StartFault → Nat × String
  | .model f => (1, Program.report f.message none)
  | .engine f => (1, Program.report f.message none)
  | .binding address cause => (1, Program.report ("binding " ++ address) (some cause))
  | .capacity f => (101, f.message ++ "\n")

namespace Program

/-- An event of the program itself. -/
def note (message : String) : LogEvent :=
  ⟨.program, .info, message, []⟩

/-- What a configuration tells all sessions. -/
def sessionSetup (c : Configuration) : SessionSetup :=
  { sampling := c.sampling, policy := c.policy }

/-- Where a model is loaded from, and how. -/
def decoderOptions (c : Configuration) (file : String) : DecoderOptions :=
  ⟨file, c.model.gpuLayers, c.model.contextSize⟩

/-- What is noted on the way to a server, and the server before it has begun to run. -/
abbrev Preparation := List LogEvent × Except StartFault Server

/-- From a loaded engine to a server: its port is bound. -/
def prepareServer (w : Surroundings) (c : Configuration) (engine : Engine) : Preparation :=
  match w.bind c.listenAddress with
  | .error cause => ([], .error (.binding c.listenAddress cause))
  | .ok _ =>
    let registry := Registry.of c.registry.enabled c.registry.agentAddress
    let setup := ServerSetup.of c c.port w.route
    ([note ("Listening on " ++ c.listenAddress)],
      (Server.create? setup (w.registrar registry) (sessionSetup c) engine
        c.maxWorkers.toNat).mapError .capacity)

/-- From a model file to a server: the model is loaded. -/
def prepareEngine (w : Surroundings) (c : Configuration) (file : String) : Preparation :=
  let loading := Decoder.load w.backend (decoderOptions c file)
  match loading.result with
  | .error f => (loading.log, .error (.engine f))
  | .ok engine =>
    let (log, result) := prepareServer w c engine
    (loading.log ++ note ("Loaded " ++ engine.description) :: log, result)

/-- From a configuration to a server: the model file is found. -/
def prepare (w : Surroundings) (c : Configuration) : Preparation :=
  let starting := note ("Starting " ++ c.serverName ++ " (" ++ c.environment ++ ")")
  match ModelFile.resolve c.model.path (w.look c.model.path) with
  | .error f => ([starting], .error (.model f))
  | .ok file =>
    let (log, result) := prepareEngine w c file
    (starting :: log, result)

/-- The server runs until it waits for something from outside. -/
def begin (server : Server) : Server.Running :=
  Server.Running.settle ⟨server, {}⟩

/-- A signal comes in and the server runs on. -/
def interrupt (r : Server.Running) (signal : StopSignal) : Server.Running :=
  let received := Server.note .info ("Received " ++ signal.name ++ " signal")
  { r with server := r.server.noteAll [received] }.perform [.signal]

/-- The filter that an environment chooses. -/
def filterOf (env : Environment) : LogFilter :=
  ((env.get? "RUST_LOG").bind LogFilter.ofText?).getD .standard

/-- The end of a process whose settings cannot be used. -/
def faultEnd : Configuration.LoadFault → ProgramEnd
  | .usage .help => { status := some 0 }
  | .usage .version => { status := some 0, output := versionLine }
  | .usage e => { status := some 2, errors := e.headline }
  | .rejected f => { status := some 1, errors := report f.message none }

/-- The end of a process whose server has got a signal. -/
def serverEnd (r : Server.Running) : ProgramEnd :=
  let running : ProgramEnd :=
    { status := none, history := r.server.history, log := r.server.service.log }
  match r.server.result? with
  | none => running
  | some (.broken cause) => { running with status := some 1, errors := report cause none }
  | some (.drained outcome) =>
    { running with
      status := some 0
      log := running.log ++ [note ("Service shut down (" ++ outcome.name ++ ")")] }

/-- The environment of a process with the variables of the file beside it. -/
def environment (env : Environment) (beside : Option String) : Environment :=
  match beside with
  | none => env
  | some text => EnvironmentFile.load env text

/-- A process from its start to its end: it gets a signal as soon as it serves. -/
def run (w : Surroundings) (words : List String) (env : Environment) (beside : Option String)
    (signal : StopSignal) : ProgramEnd :=
  let env := environment env beside
  match Configuration.load words env with
  | .error f => faultEnd f
  | .ok c =>
    match prepare w c with
    | (log, .error f) =>
      let (status, errors) := f.ending
      { status := some status, log := log, filter := filterOf env, errors := errors }
    | (log, .ok server) =>
      let e := serverEnd (interrupt (begin server) signal)
      { e with log := log ++ e.log, filter := filterOf env }

end Program

/-- The events that a process writes down. -/
def ProgramEnd.written (e : ProgramEnd) : List LogEvent :=
  e.log.filter e.filter.allows

end StreamedInference
