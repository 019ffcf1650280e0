import StreamedInference.Program

/-!
# The process

Reads what the process finds around it, runs the program, and prints what it writes down. No
library for token models is linked to this process, and it is connected to no network, so that a
start whose configuration is accepted and whose model is found ends with the library's absence.
-/

namespace StreamedInference.Process

/-- The library that is not there. -/
def absentBackend : Backend where
  start := .error "no library for token models is linked"
  load := .ok ()
  parameters := 0
  template := .error "no template"
  openContext := .ok ()
  tokenize _ := .ok []
  add _ := .ok ()
  decode _ := .ok ()
  sample _ := 0
  isEnd _ := true
  bytes _ _ := .ok []

/-- The variables that the program knows. -/
def variableNames : List String :=
  "RUST_LOG" :: Setting.all.map Setting.variableName

/-- The environment of the process, as far as the program knows it. -/
def readEnvironment : IO Environment := do
  let values ← variableNames.mapM fun name => do
    return (← IO.getEnv name).map (name, ·)
  return values.filterMap id

/-- A file that may not be there. -/
def readIfPresent (path : String) : IO (Option String) := do
  try
    return some (← IO.FS.readFile path)
  catch _ =>
    return none

/-- What a name leads to, by the kind of what is there. -/
def entryOf : IO.FS.FileType → FileEntry
  | .file => .file
  | .dir => .directory
  | _ => .other

/-- What stands at a path. A name that leads nowhere is that of no file. -/
def lookAt (path : String) : IO FileTree := do
  try
    let place ← IO.FS.realPath path
    match entryOf (← place.metadata).type with
    | .file => return .file
    | .directory =>
      let entries ← (← place.readDir).toList.mapM fun e => do
        try
          return (e.fileName, entryOf (← e.path.metadata).type)
        catch _ =>
          return (e.fileName, .other)
      return .directory entries
    | .other => return .other
  catch _ =>
    return .absent

/-- What stands at the path of the model that the settings name. -/
def lookForModel (words : List String) (env : Environment) : IO FileTree :=
  match Configuration.load words env with
  | .error _ => return .absent
  | .ok c => lookAt c.model.path

/-- An event as a line. -/
def line (e : LogEvent) : String :=
  e.level.name ++ " " ++ e.source.target ++ ": " ++ e.writtenMessage

end StreamedInference.Process

open StreamedInference in
/-- Runs the program. -/
def main (words : List String) : IO UInt32 := do
  let env := Program.environment (← Process.readEnvironment) (← Process.readIfPresent ".env")
  let tree ← Process.lookForModel words env
  let surroundings : Surroundings :=
    { look := fun _ => tree
      backend := Process.absentBackend
      registrar := Registry.registrar ⟨fun _ => false, fun _ => none⟩
      bind := fun _ => .error "Operation not supported (os error 95)" }
  let e := Program.run surroundings words env none .terminate
  for event in e.written do
    IO.println (Process.line event)
  IO.print e.output
  IO.eprint e.errors
  return UInt32.ofNat (e.status.getD 0)
