import StreamedInference.Json.Value
import StreamedInference.Net.Destination

/-!
# Requests to web servers

A client sends a request and follows the answer when it leads elsewhere, up to a limit. Whether a
server takes connections, and what it answers, is what a client knows of the network.

## Main definitions

* `HttpRequest`, `HttpResponse`, `Network`: requests, answers, and who answers.
* `HttpResponse.ofHead?`: the reader for answers.
* `HttpRequest.redirection?`: where an answer leads.
* `HttpRequest.follow`: a request with all that its answers lead to.
* `Network.put`: a request that hands something over, and whether it was taken.
-/

namespace StreamedInference

/-- The methods of requests. -/
inductive HttpMethod where
  | get
  | put
deriving DecidableEq, Repr

/-- The name of a method. -/
def HttpMethod.name : HttpMethod → String
  | .get => "GET"
  | .put => "PUT"

/-- A request as it reaches a server. -/
structure HttpRequest where
  method : HttpMethod
  /-- Where it is sent, without a fragment. -/
  url : Url
  body : Option Json
deriving Repr

/-- The kind of a request's body; a request without one has none. -/
def HttpRequest.contentType (r : HttpRequest) : Option String :=
  r.body.map fun _ => "application/json"

/-- The answer of a server. -/
structure HttpResponse where
  code : Nat
  reason : String
  /-- Where the answer leads. -/
  location : Option String := none
deriving DecidableEq, Repr

namespace HttpResponse

/-- The lines of a text. A carriage return may stand only before the end of a line; `before` is
what stands before `cs` in its line, the last character first. -/
def lines? (before : List Char) : List Char → Option (List (List Char))
  | [] => some [before.reverse]
  | ['\r'] => none
  | '\r' :: c :: cs => if c == '\n' then (lines? [] cs).map (before.reverse :: ·) else none
  | c :: cs =>
    if c == '\n' then (lines? [] cs).map (before.reverse :: ·) else lines? (c :: before) cs

/-- A character of a reason or of the value of a header: no control but the tab. -/
def isTextChar (c : Char) : Bool :=
  c == '\t' || (0x20 ≤ c.toNat && c.toNat != 0x7f)

/-- A character of the name of a header. -/
def isNameChar (c : Char) : Bool :=
  c.isAlphanum || "!#$%&'*+-.^_|~".toList.contains c || c == '\x60'

/-- A text without blanks and tabs at its ends. -/
def trim (cs : List Char) : List Char :=
  let blank (c : Char) : Bool := c == ' ' || c == '\t'
  ((cs.dropWhile blank).reverse.dropWhile blank).reverse

/-- A header: a name in small letters, and a value. -/
def header? (line : List Char) : Option (String × String) :=
  let (name, behind) := Pieces.span (· == ':') line
  match behind with
  | [] => none
  | _ :: value =>
    if !name.isEmpty && name.all isNameChar && value.all isTextChar then
      some (String.ofList (name.map Char.toLower), String.ofList (trim value))
    else none

/-- A code of three digits, the first of which is not zero, and a reason behind a blank. -/
def status? (line : List Char) : Option (Nat × String) :=
  match line with
  | a :: b :: c :: rest =>
    let code := ofDigitValues 10 (takeDigits 10 [a, b, c]).1
    let reason? : Option String :=
      match rest with
      | [] => some ""
      | ' ' :: reason => if reason.all isTextChar then some (String.ofList reason) else none
      | _ => none
    if 100 ≤ code && [a, b, c].all Char.isDigit then reason?.map (code, ·) else none
  | _ => none

/-- The answer that some lines spell, the first of which is that of the status. The headers go on
to an empty line. -/
def ofLines? : List (List Char) → Option HttpResponse
  | [] => none
  | line :: rest =>
    match status? line, (rest.takeWhile (!·.isEmpty)).mapM header? with
    | some (code, reason), some headers => some ⟨code, reason, headers.lookup "location"⟩
    | _, _ => none

/-- An answer that only tells that another one will come. -/
def isInterim (a : HttpResponse) : Bool :=
  a.code < 200 && a.code != 101

/-- The answer that a server gives whose only message begins so, from its status on. A server that
promises an answer and gives none has not answered. -/
def ofHead? (head : String) : Option HttpResponse :=
  ((lines? [] head.toList).bind ofLines?).filter (!·.isInterim)

end HttpResponse

/-- The network as far as a client meets it: which servers take connections, and what each
request is answered that reaches one of them, by its number. An answer may be none that a client
can read. -/
structure Network where
  reaches : Url → Bool
  answer : Nat → Option HttpResponse

/-- Why a request was not carried out. -/
inductive HttpFault where
  /-- No request could be made of the address. -/
  | unusable (url : Option String)
  /-- The server was not reached, or gave no answer. -/
  | unanswered (url : String)
  /-- The answers led elsewhere too often. -/
  | tooManyRedirections (url : String)
  /-- The server refused. -/
  | refused (code : Nat) (reason : String) (url : String)
deriving DecidableEq, Repr

namespace HttpFault

/-- A character of a server's reason; a few are escaped. -/
def reasonChar (c : Char) : List Char :=
  if c == '"' || c == '\\' then ['\\', c]
  else if c == '\t' then ['\\', 't']
  else [c]

/-- The address at the end of a message. -/
def forUrl (url : String) : String :=
  " for url (" ++ url ++ ")"

/-- The words of a fault. -/
def message : HttpFault → String
  | .unusable url => "builder error" ++ (url.map forUrl).getD ""
  | .unanswered url => "error sending request" ++ forUrl url
  | .tooManyRedirections url => "error following redirect" ++ forUrl url
  | .refused code reason url =>
    "HTTP status " ++ (if code < 500 then "client" else "server") ++ " error (" ++
      String.ofList (decimal code) ++ " " ++ String.ofList (reason.toList.flatMap reasonChar) ++
      ")" ++ forUrl url

end HttpFault

/-- The reason as a client takes it: one with characters beyond the ASCII range is ignored. -/
def HttpResponse.plainReason (a : HttpResponse) : String :=
  if a.reason.toList.all fun c => c.toNat < 0x80 then a.reason else ""

namespace HttpRequest

/-- Where an answer leads a request, if it leads elsewhere. -/
def redirection? (r : HttpRequest) (a : HttpResponse) : Option Destination :=
  if [301, 302, 303, 307, 308].contains a.code then
    (a.location.bind r.url.join?).filter (·.isSendable)
  else none

/-- The request that follows a redirection; where another place is only to be looked at, the
client gets it. -/
def redirected (r : HttpRequest) (code : Nat) (url : Url) : HttpRequest :=
  if code == 303 then ⟨.get, url.whole, none⟩ else { r with url := url.whole }

/-- How an answer that leads nowhere else is taken. -/
def judge (r : HttpRequest) (a : HttpResponse) : Except HttpFault Unit :=
  if 400 ≤ a.code && a.code < 600 then .error (.refused a.code a.plainReason r.url.toText)
  else .ok ()

/-- Sends a request and those its answers lead to, `left` of these at most. `sent` requests went
out before; `first` is the address of the first. -/
def follow (net : Network) (first : String) :
    (left sent : Nat) → HttpRequest → List HttpRequest × Except HttpFault Unit
  | left, sent, r =>
    if !net.reaches r.url then ([], .error (.unanswered first))
    else
      match net.answer sent with
      | none => ([r], .error (.unanswered first))
      | some a =>
        match left, r.redirection? a with
        | _, none => ([r], r.judge a)
        | 0, some _ => ([r], .error (.tooManyRedirections r.url.toText))
        | left + 1, some destination =>
          match destination.web? with
          | none => ([r], .error (.unusable (some destination.whole.toText)))
          | some url =>
            let (rs, result) := follow net first left (sent + 1) (r.redirected a.code url)
            (r :: rs, result)

end HttpRequest

/-- How often a client follows an answer elsewhere. -/
def mostRedirections : Nat := 10

/-- Puts a body to the address that a text spells, as a client does before whose requests `sent`
others reached a server: which requests reach one now, and with what result. A user's name and
password are no part of the address. -/
def Network.put (net : Network) (sent : Nat) (address : String) (body : Option Json) :
    List HttpRequest × Except HttpFault Unit :=
  match Destination.ofText? address with
  | none => ([], .error (.unusable none))
  | some destination =>
    match destination.web? with
    | none => ([], .error (.unusable (some destination.toText)))
    | some url =>
      let url := url.anonymous
      if !(Destination.server url).isSendable then ([], .error (.unusable (some url.toText)))
      else HttpRequest.follow net url.toText mostRedirections sent ⟨.put, url.whole, body⟩

end StreamedInference
