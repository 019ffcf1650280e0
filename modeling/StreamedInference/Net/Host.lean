import StreamedInference.Net.Address
import StreamedInference.Net.DomainName
import StreamedInference.Net.Percent

/-!
# Hosts

The host that a URL names: a domain, or an internet address. Of web servers the names of domains are
brought into ASCII, and a name that ends in a number is read as a dotted address; hosts of other
kinds keep the name that they are given.

## Main definitions

* `Host`: hosts, with `Host.chars`.
* `Host.ofChars?`, `Host.ofPlainChars?`: the readers.
-/

namespace StreamedInference

/-- The host of a URL. -/
inductive Host where
  | domain (name : List Char)
  | v4 (address : IPv4)
  | v6 (address : IPv6)
deriving DecidableEq, Repr

namespace Host

/-- The groups of an address with colons between them, the longest run of zeros left out. -/
def bracketed (x : IPv6) : List Char :=
  let zeros := longestZeros 0 x.groups
  if zeros.length < 2 then IPv6.joinGroups x.groups
  else
    IPv6.joinGroups (x.groups.take zeros.start) ++ ':' :: ':' ::
      IPv6.joinGroups (x.groups.drop (zeros.start + zeros.length))

/-- The text of a host. -/
def chars : Host → List Char
  | .domain name => name
  | .v4 x => x.chars
  | .v6 x => '[' :: (bracketed x ++ [']'])

/-! ### Dotted addresses -/

/-- A number of a dotted address: decimal, hexadecimal behind `0x`, or octal behind `0`. -/
def readNumber? (cs : List Char) : Option Nat :=
  let (base, cs) : Nat × List Char :=
    match cs with
    | '0' :: 'x' :: r => (16, r)
    | '0' :: 'X' :: r => (16, r)
    | '0' :: c :: r => (8, c :: r)
    | cs => (10, cs)
  let (vs, rest) := takeDigits base cs
  if rest.isEmpty then some (ofDigitValues base vs) else none

/-- The pieces of a host name; a dot at its end makes no piece. -/
def pieces (cs : List Char) : List (List Char) :=
  let ps := Pieces.between '.' cs
  if 1 < ps.length && ps.getLast? == some [] then ps.dropLast else ps

/-- The last piece of a host name is a number. -/
def endsInNumber (cs : List Char) : Bool :=
  match (pieces cs).getLast? with
  | none => false
  | some p => !p.isEmpty && (p.all Char.isDigit || (readNumber? p).isSome)

/-- Numbers of a dotted address as one number: each but the last stands for one octet, the last
for all that are left. -/
def combine : (room : Nat) → List Nat → Option Nat
  | _, [] => none
  | room, [n] => if n < Nat.pow 256 room then some n else none
  | room, n :: ns =>
    if 255 < n then none
    else
      match room with
      | 0 => none
      | room + 1 => (combine room ns).map (n * Nat.pow 256 room + ·)

/-- A dotted address whose pieces are all numbers. -/
def readIPv4? (cs : List Char) : Option IPv4 :=
  let ps := pieces cs
  if 4 < ps.length || ps.any List.isEmpty then none
  else
    (ps.mapM readNumber?).bind (combine 4) |>.map fun n =>
      ⟨UInt8.ofNat (n / 16777216), UInt8.ofNat (n / 65536), UInt8.ofNat (n / 256),
        UInt8.ofNat n⟩

/-! ### Readers -/

/-- An address in brackets; `cs` stands behind the first of them. -/
def readBracketed? (cs : List Char) : Option Host :=
  if cs.getLast? == some ']' then (IPv6.ofText? (String.ofList cs.dropLast)).map .v6 else none

/-- The host of a web server that a text spells. -/
def ofChars? (cs : List Char) : Option Host :=
  match cs with
  | '[' :: r => readBracketed? r
  | cs =>
    match DomainName.toAscii? (Utf8.lossy (Percent.decode cs)) with
    | none => none
    | some name =>
      if name.isEmpty then none
      else if endsInNumber name then (readIPv4? name).map .v4
      else some (.domain name)

/-- What may not stand in the name of any host. -/
def isForbidden (c : Char) : Bool :=
  c == '\x00' || "\t\n\r #/:<>?@[\\]^|".toList.contains c

/-- The host of another kind of server that a text spells. -/
def ofPlainChars? (cs : List Char) : Option Host :=
  match cs with
  | [] => none
  | '[' :: r => readBracketed? r
  | cs => if cs.any isForbidden then none else some (.domain (Percent.encode (fun _ => false) cs))

end Host

end StreamedInference
