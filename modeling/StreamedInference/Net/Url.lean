import StreamedInference.Net.Host

/-!
# URLs

The URLs of servers, as web clients read them: backslashes count as slashes in those of the web,
dots in a path are resolved, host names are brought into their ASCII form, and what may not stand in
a part is escaped.

## Main definitions

* `Scheme`, `Url`: the parts of a URL.
* `Url.toText`, `Url.target`: the normal text of a URL, and what a request for it names.
* `Url.ofServer?`: the reader for what stands behind the scheme and the slashes.
* `Url.ofFileServer?`: the same for files.
-/

namespace StreamedInference

/-- The ways to ask a server. All but the last belong to the web. -/
inductive Scheme where
  | http
  | https
  | ws
  | wss
  | ftp
  | file
  | other (name : List Char)
deriving DecidableEq, Repr

namespace Scheme

/-- The name of a scheme. -/
def name : Scheme → List Char
  | .http => "http".toList
  | .https => "https".toList
  | .ws => "ws".toList
  | .wss => "wss".toList
  | .ftp => "ftp".toList
  | .file => "file".toList
  | .other name => name

/-- The scheme with a name. -/
def ofName (name : List Char) : Scheme :=
  ([.http, .https, .ws, .wss, .ftp, .file].find? fun s => s.name == name).getD (.other name)

/-- A scheme of the web. -/
def isOfWeb : Scheme → Bool
  | .other _ => false
  | _ => true

/-- The port of a scheme, if it has one. -/
def defaultPort? : Scheme → Option Nat
  | .http | .ws => some 80
  | .https | .wss => some 443
  | .ftp => some 21
  | .file | .other _ => none

end Scheme

/-- The URL of a server; its parts are kept as they are written in it. -/
structure Url where
  scheme : Scheme
  user : List Char := []
  password : List Char := []
  host : Host
  /-- The port, if it is not the one of the scheme. -/
  port : Option Nat := none
  /-- The segments of the path, each of which follows a slash. -/
  path : List (List Char)
  query : Option (List Char) := none
  fragment : Option (List Char) := none
deriving DecidableEq, Repr

namespace Url

/-! ### Texts -/

/-- The path of a URL. -/
def pathChars (u : Url) : List Char :=
  u.path.flatMap ('/' :: ·)

/-- What a client asks the server for: path and query. -/
def target (u : Url) : List Char :=
  u.pathChars ++ (u.query.map ('?' :: ·)).getD []

/-- The host and, if it is not the scheme's, the port. -/
def hostAndPort (u : Url) : List Char :=
  u.host.chars ++ (u.port.map fun p => ':' :: decimal p).getD []

/-- The user's name and password with what separates them from the host. -/
def credentials (u : Url) : List Char :=
  if u.user.isEmpty && u.password.isEmpty then []
  else u.user ++ (if u.password.isEmpty then [] else ':' :: u.password) ++ ['@']

/-- The text of a URL, without its fragment. -/
def charsBeforeFragment (u : Url) : List Char :=
  u.scheme.name ++ "://".toList ++ u.credentials ++ u.hostAndPort ++ u.target

/-- The text of a URL. -/
def toText (u : Url) : String :=
  String.ofList (u.charsBeforeFragment ++ (u.fragment.map ('#' :: ·)).getD [])

/-- The URL without a user's name and password. -/
def anonymous (u : Url) : Url :=
  { u with user := [], password := [] }

/-- The URL without its fragment. -/
def whole (u : Url) : Url :=
  { u with fragment := none }

/-! ### Paths -/

/-- A slash, in the URLs of the web of either kind. -/
def isSlash (ofWeb : Bool) (c : Char) : Bool :=
  c == '/' || (ofWeb && c == '\\')

/-- A segment that stands for the directory itself. -/
def isSingleDot (s : List Char) : Bool :=
  s == ['.'] || s.map Char.toLower == ['%', '2', 'e']

/-- A segment that stands for the directory above. -/
def isDoubleDot (s : List Char) : Bool :=
  ["..", ".%2e", "%2e.", "%2e%2e"].any fun d => s.map Char.toLower == d.toList

/-- A segment that names a drive: a letter and a colon or a bar. -/
def isDrive (s : List Char) : Bool :=
  match s with
  | [a, b] => a.isAlpha && (b == ':' || b == '|')
  | _ => false

/-- The directory above a path that is given with its last segment first; nothing lies above a
drive. -/
def above (path : List (List Char)) : List (List Char) :=
  if path.head?.any isDrive then path else path.drop 1

/-- Adds segments to a path that is given with its last segment first. -/
def addSegments (path : List (List Char)) : List (List Char) → List (List Char)
  | [] => path
  | [s] =>
    if isDoubleDot s then [] :: above path
    else if isSingleDot s then [] :: path
    else Percent.encode Percent.inPath s :: path
  | s :: ss =>
    if isDoubleDot s then addSegments (above path) ss
    else if isSingleDot s then addSegments path ss
    else addSegments (Percent.encode Percent.inPath s :: path) ss

/-- The pieces of a text between slashes. -/
def segments (ofWeb : Bool) (cs : List Char) : List (List Char) :=
  Pieces.between '/' (cs.map fun c => if isSlash ofWeb c then '/' else c)

/-- A text without a slash in front. -/
def dropSlash (ofWeb : Bool) (cs : List Char) : List Char :=
  match cs with
  | c :: r => if isSlash ofWeb c then r else c :: r
  | [] => []

/-- The path that a text behind the host spells. -/
def readPath (ofWeb : Bool) (cs : List Char) : List (List Char) :=
  (addSegments [] (segments ofWeb (dropSlash ofWeb cs))).reverse

/-! ### Other parts -/

/-- A text without its fragment, and the fragment. -/
def splitFragment (cs : List Char) : List Char × Option (List Char) :=
  let (before, behind) := Pieces.span (· == '#') cs
  (before, behind.tail?.map (Percent.encode Percent.inFragment))

/-- A text without its query, and the query. -/
def splitQuery (ofWeb : Bool) (cs : List Char) : List Char × Option (List Char) :=
  let (before, behind) := Pieces.span (· == '?') cs
  let escaped := if ofWeb then Percent.inWebQuery else Percent.inQuery
  (before, behind.tail?.map (Percent.encode escaped))

/-- The port that a text spells; an empty text spells none. -/
def readPort? (scheme : Scheme) (cs : List Char) : Option (Option Nat) :=
  if cs.isEmpty then some none
  else if !cs.all Char.isDigit then none
  else
    let n := ofDigitValues 10 (takeDigits 10 cs).1
    if 65535 < n then none
    else if some n == scheme.defaultPort? then some none
    else some (some n)

/-- A host and what stands behind the colon after it. -/
def splitPort (cs : List Char) : List Char × List Char :=
  match cs with
  | '[' :: _ =>
    let (host, rest) := Pieces.span (· == ']') cs
    match rest with
    | ']' :: ':' :: port => (host ++ [']'], port)
    | ']' :: rest => (host ++ ']' :: rest, [])
    | _ => (cs, [])
  | cs =>
    let (host, behind) := Pieces.span (· == ':') cs
    (host, behind.drop 1)

/-- The user's name and password before a host. -/
def readCredentials (cs : List Char) : List Char × List Char :=
  let (user, behind) := Pieces.span (· == ':') cs
  (Percent.encode Percent.inUser user, Percent.encode Percent.inUser (behind.drop 1))

/-! ### Readers -/

/-- The URL of a server that is spelt by what stands behind the scheme and two slashes. A backslash
ends the port in all URLs. -/
def ofServer? (scheme : Scheme) (cs : List Char) : Option Url :=
  let ofWeb := scheme.isOfWeb
  let (cs, fragment) := splitFragment cs
  let (cs, query) := splitQuery ofWeb cs
  let (authority, path) := Pieces.span (isSlash ofWeb) cs
  let (before, hostAndPort) := Pieces.spanLast '@' authority
  let (user, password) := readCredentials (before.getD [])
  let (host, portAndMore) := splitPort hostAndPort
  let (port, more) := Pieces.span (· == '\\') portAndMore
  let host? := if ofWeb then Host.ofChars? host else Host.ofPlainChars? host
  match host?, readPort? scheme port with
  | some host, some port =>
    some ⟨scheme, user, password, host, port, readPath ofWeb (more ++ path), query, fragment⟩
  | _, _ => none

/-- The URL of a file on another host that is spelt by what stands behind the scheme and two
slashes. Files on drives, and those of the own host, belong to no other. -/
def ofFileServer? (cs : List Char) : Option Url :=
  let (cs, fragment) := splitFragment cs
  let (cs, query) := splitQuery true cs
  let (host, path) := Pieces.span (isSlash true) cs
  if isDrive host || (segments true (dropSlash true path)).any isDrive then none
  else
    match Host.ofChars? host with
    | none => none
    | some host =>
      if host == .domain "localhost".toList then none
      else
        let path := (readPath true path).dropWhile List.isEmpty
        some
          { scheme := .file, host := host, path := if path.isEmpty then [[]] else path
            query := query, fragment := fragment }

end Url

end StreamedInference
