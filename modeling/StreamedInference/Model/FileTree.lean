import StreamedInference.Model.Path
import StreamedInference.Text.Utf8

/-!
# Model files

A model path names a model file, or a directory that holds one. In a directory the least name with
the extension of model files counts, in the order of bytes.

## Main definitions

* `FileTree`: what stands at a path.
* `ModelFile.resolve`: the model file at a path.
-/

namespace StreamedInference

/-- What a name in a directory can lead to. -/
inductive FileEntry where
  | file
  | directory
  /-- Neither a file nor a directory, such as a device or a link that leads nowhere. -/
  | other
deriving DecidableEq, Repr

/-- What stands at a path. -/
inductive FileTree where
  | absent
  | file
  /-- A directory with what stands directly in it, in any order. -/
  | directory (entries : List (String × FileEntry))
  /-- Neither a file nor a directory. -/
  | other
deriving DecidableEq, Repr

/-- Why a path names no model file. -/
inductive ModelFault where
  | missing (path : String)
  | noModel (path : String)
deriving DecidableEq, Repr

/-- The wording of a fault. -/
def ModelFault.message : ModelFault → String
  | .missing path => "model path " ++ path ++ " does not exist"
  | .noModel path => "no .gguf model file found in " ++ path

namespace ModelFile

/-- The extension of model files. -/
def extension : List Char := ['g', 'g', 'u', 'f']

/-- A name of a model file, whatever the case of its extension. -/
def isModelName (name : String) : Bool :=
  (Path.extension? name.toList).any (Path.sameLetters · extension)

/-- The order of bytes. -/
def bytesLE : List UInt8 → List UInt8 → Bool
  | [], _ => true
  | _ :: _, [] => false
  | a :: as, b :: bs => a < b || (a == b && bytesLE as bs)

/-- The order of names by their bytes. -/
def nameLE (a b : String) : Bool :=
  bytesLE (Utf8.bytes a) (Utf8.bytes b)

/-- The lesser of two names. -/
def lesser (a b : String) : String :=
  if nameLE a b then a else b

/-- The least of some names. -/
def least? : List String → Option String
  | [] => none
  | n :: ns => some (ns.foldl lesser n)

/-- The names of the model files among the entries of a directory. -/
def candidates (entries : List (String × FileEntry)) : List String :=
  (entries.filter fun e => e.2 == .file && isModelName e.1).map Prod.fst

/-- The model file that a path names, given what stands there. -/
def resolve (path : String) : FileTree → Except ModelFault String
  | .absent | .other => .error (.missing path)
  | .file => .ok path
  | .directory entries =>
    match least? (candidates entries) with
    | some name => .ok (Path.join path name)
    | none => .error (.noModel path)

end ModelFile

end StreamedInference
