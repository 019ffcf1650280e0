import StreamedInference.Net.Url

/-!
# Destinations

A client is told where to go by a whole address, or by the end of one, the rest of which is taken
from where it is. Not every address is that of a server, and not every address can be sent to.

## Main definitions

* `Destination`: what an address leads to.
* `Destination.ofText?`: the reader for whole addresses.
* `Url.join?`: the reader for a client that is somewhere.
* `Destination.isSendable`: a client can try to send there.
-/

namespace StreamedInference

/-- What an address leads to. -/
inductive Destination where
  /-- A server. -/
  | server (url : Url)
  /-- Something without a server, known by a name of a scheme and what stands behind its colon. -/
  | named (scheme rest : List Char)
deriving DecidableEq, Repr

namespace Destination

/-- The text of a destination. -/
def toText : Destination → String
  | .server url => url.toText
  | .named scheme rest => String.ofList (scheme ++ ':' :: rest)

/-- The destination without a fragment. -/
def whole : Destination → Destination
  | .server url => .server url.whole
  | .named scheme rest => .named scheme rest

/-- The URL of a server that a client asks over the web. -/
def web? : Destination → Option Url
  | .server url => if url.scheme == .http || url.scheme == .https then some url else none
  | .named _ _ => none

/-! ### Reading -/

/-- Blanks and controls at the ends do not belong to an address, nor do tabs and line ends in it. -/
def clean (cs : List Char) : List Char :=
  let blank (c : Char) : Bool := c.toNat ≤ 0x20
  let trimmed := ((cs.dropWhile blank).reverse.dropWhile blank).reverse
  trimmed.filter fun c => !(c == '\t' || c == '\n' || c == '\r')

/-- A scheme in front of a colon, and what stands behind the colon. -/
def splitScheme (cs : List Char) : Option (List Char × List Char) :=
  let (name, behind) := Pieces.span (· == ':') cs
  match name, behind with
  | c :: _, _ :: rest =>
    if c.isAlpha && name.all fun c => c.isAlphanum || c == '+' || c == '-' || c == '.' then
      some (name.map Char.toLower, rest)
    else none
  | _, _ => none

/-- What is spelt by what stands behind a scheme and its colon. Any number of slashes may stand
before the server of a web address; elsewhere there are two. -/
def behindScheme? (name cs : List Char) : Option Destination :=
  match Scheme.ofName name with
  | .file =>
    match cs with
    | a :: b :: rest =>
      if Url.isSlash true a && Url.isSlash true b then (Url.ofFileServer? rest).map .server
      else none
    | _ => none
  | .other name =>
    match cs with
    | '/' :: '/' :: rest => (Url.ofServer? (.other name) rest).map .server
    | cs => some (.named name (Percent.encode (fun _ => false) cs))
  | scheme => (Url.ofServer? scheme (cs.dropWhile (Url.isSlash true))).map .server

/-- The destination that a whole address names. -/
def ofText? (text : String) : Option Destination :=
  (splitScheme (clean text.toList)).bind fun (name, rest) => behindScheme? name rest

end Destination

namespace Url

/-- The URL of the same server with a path, given as what is kept of it with its last segment
first and what is added, with the query and the fragment behind it. -/
def withPath (u : Url) (kept : List (List Char)) (cs : List Char) : Url :=
  let (cs, fragment) := splitFragment cs
  let (cs, query) := splitQuery u.scheme.isOfWeb cs
  { u with
    path := (addSegments kept (segments u.scheme.isOfWeb cs)).reverse
    query := query
    fragment := fragment }

/-- Where the end of an address leads from a URL: to another server behind two slashes, to another
path of the same server behind one, else to a place beside the URL, to another query of it or to
the URL itself. -/
def joinEnd? (u : Url) (cs : List Char) : Option Url :=
  match cs with
  | [] => some u.whole
  | '?' :: _ =>
    let (cs, fragment) := splitFragment cs
    let (_, query) := splitQuery u.scheme.isOfWeb cs
    some { u with query := query, fragment := fragment }
  | '#' :: _ => some { u with fragment := (splitFragment cs).2 }
  | '/' :: '/' :: rest => ofServer? u.scheme rest
  | a :: b :: rest =>
    if isSlash true a && isSlash true b then ofServer? u.scheme (rest.dropWhile (isSlash true))
    else if isSlash true a then some (u.withPath [] (b :: rest))
    else some (u.withPath (u.path.reverse.drop 1) cs)
  | [a] =>
    if isSlash true a then some (u.withPath [] []) else some (u.withPath (u.path.reverse.drop 1) cs)

/-- Where an address, or the end of one, leads from a URL. The scheme of the URL may stand also
before the end of an address. -/
def join? (u : Url) (text : String) : Option Destination :=
  let cs := Destination.clean text.toList
  match Destination.splitScheme cs with
  | none => (u.joinEnd? cs).map .server
  | some (name, rest) =>
    if u.scheme.isOfWeb && name == u.scheme.name && (rest.takeWhile (isSlash true)).length < 2 then
      (u.joinEnd? rest).map .server
    else Destination.behindScheme? name rest

end Url

namespace Destination

/-! ### Sending -/

/-- What has been seen of the front of an address, as far as the text of a host and what may stand
around it goes. -/
structure Survey where
  /-- How many colons stand behind the user and behind brackets. -/
  colons : Nat := 0
  /-- An escape stands there. -/
  escaped : Bool := false
  opened : Bool := false
  closed : Bool := false
  /-- The last character, if there is one. -/
  last : Option Char := none

/-- Takes a character into account, if it may stand where it does. -/
def Survey.step (s : Survey) (c : Char) : Option Survey :=
  let s := { s with last := some c }
  match c with
  | ':' => if 8 ≤ s.colons then none else some { s with colons := s.colons + 1 }
  | '[' => if s.escaped || s.opened then none else some { s with opened := true }
  | ']' =>
    if !s.opened || s.closed then none
    else some { s with closed := true, colons := 0, escaped := false }
  | '@' => some { s with colons := 0, escaped := false }
  | '%' => some { s with escaped := true }
  | c => if c.isAlphanum || "!$&'()*+,-.;=_~".toList.contains c then some s else none

/-- A text could be that of a host, with a user before it and a port behind it: there is at most
one colon behind the user, no escape in the host, and no bracket alone. -/
def isAuthority (cs : List Char) : Bool :=
  match cs.foldlM Survey.step ({} : Survey) with
  | none => false
  | some s =>
    !cs.isEmpty && s.opened == s.closed && s.colons ≤ 1 && !s.escaped && s.last != some '@'

/-- The greatest length of an address that a client can send to. -/
def greatestLength : Nat := 65534

/-- The greatest length of the name of a scheme that a client can send by. -/
def greatestScheme : Nat := 64

/-- A client can try to send there. The name of something without a server has to look like a host
for that. -/
def isSendable (d : Destination) : Bool :=
  d.toText.utf8ByteSize ≤ greatestLength &&
    match d with
    | .server u =>
      u.scheme.name.length ≤ greatestScheme && isAuthority (u.credentials ++ u.hostAndPort)
    | .named scheme rest => isAuthority (scheme ++ ':' :: rest)

end Destination

end StreamedInference
