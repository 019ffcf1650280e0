import StreamedInference.Text.Pieces

/-!
# Paths

Paths of files as texts: joining them, and the extension of a file's name.
-/

namespace StreamedInference.Path

/-- A path that does not depend on a directory. -/
def isAbsolute (path : String) : Bool :=
  path.toList.head? == some '/'

/-- A path within a directory. An absolute path stands for itself. -/
def join (dir path : String) : String :=
  if isAbsolute path then path
  else if dir.isEmpty || dir.toList.getLast? == some '/' then dir ++ path
  else dir ++ "/" ++ path

/-- The part of a name behind its last dot. A dot at the front of a name begins no extension. -/
def extension? (name : List Char) : Option (List Char) :=
  if name == ['.', '.'] then none
  else
    match Pieces.spanLast '.' name with
    | (some (_ :: _), behind) => some behind
    | _ => none

/-- Equality up to the case of letters of the ASCII range. -/
def sameLetters (a b : List Char) : Bool :=
  a.map Char.toLower == b.map Char.toLower

end StreamedInference.Path
