import StreamedInference.Model.FileTree

/-!
# Looking up paths

A working directory given by the paths of its files and directories, and what stands at a path in
it. A directory exists if it is listed or if something is listed within it.

## Main definitions

* `FileSystem`: a working directory.
* `FileSystem.walk`, `FileSystem.place?`: where a path leads.
* `FileSystem.look`: what stands there.
-/

namespace StreamedInference

/-- What a working directory holds, as paths relative to it. -/
structure FileSystem where
  files : List String := []
  directories : List String := []
deriving DecidableEq, Repr

namespace FileSystem

/-- The parts of a path between slashes. -/
def parts (path : String) : List String :=
  ((Pieces.between '/' path.toList).map String.ofList).filter (!·.isEmpty)

/-- The non-empty beginnings of a row of parts. -/
def beginnings (ps : List String) : List (List String) :=
  (List.range ps.length).map fun n => ps.take (n + 1)

/-- The files, by their parts. -/
def filePaths (fs : FileSystem) : List (List String) :=
  fs.files.map parts

/-- The directories, by their parts: those that are listed, and those with something in them. -/
def directoryPaths (fs : FileSystem) : List (List String) :=
  [] :: (fs.directories.flatMap (beginnings ∘ parts) ++
    fs.files.flatMap fun f => beginnings (parts f).dropLast).eraseDups

/-- What stands at a place given by its parts. -/
def entry? (fs : FileSystem) (ps : List String) : Option FileEntry :=
  if fs.directoryPaths.contains ps then some .directory
  else if fs.filePaths.contains ps then some .file
  else none

/-- The name of what lies directly in a directory, given its path. -/
def nameWithin? (dir : List String) (ps : List String) : Option String :=
  if ps.dropLast == dir then ps.getLast? else none

/-- What lies directly in a directory. -/
def entries (fs : FileSystem) (dir : List String) : List (String × FileEntry) :=
  (fs.directoryPaths.filterMap (nameWithin? dir)).map (·, .directory) ++
    ((fs.filePaths.filter fun ps => fs.entry? ps == some .file).filterMap
      (nameWithin? dir)).map (·, .file)

/-- Goes from a directory along parts of a path; every part but the last has to end in a
directory. -/
def walk (fs : FileSystem) (here : List String) : List String → Option (List String)
  | [] => some here
  | p :: ps =>
    if fs.entry? here != some .directory then none
    else if p == "." then fs.walk here ps
    else if p == ".." then fs.walk here.dropLast ps
    else if (fs.entry? (here ++ [p])).isSome then fs.walk (here ++ [p]) ps
    else none

/-- The place that a path leads to. The empty path leads nowhere, and so does a path out of the
working directory. -/
def place? (fs : FileSystem) (path : String) : Option (List String) :=
  if path.isEmpty || Path.isAbsolute path then none else fs.walk [] (parts path)

/-- What stands at a path. Nothing stands at the path of a file with a slash behind it. -/
def look (fs : FileSystem) (path : String) : FileTree :=
  match fs.place? path with
  | none => .absent
  | some place =>
    match fs.entry? place with
    | some .directory => .directory (fs.entries place)
    | some .file => if path.toList.getLast? == some '/' then .absent else .file
    | some .other => .other
    | none => .absent

end FileSystem

end StreamedInference
