/-!
# Internet addresses

IPv4 and IPv6 addresses and sockets, their texts and the readers of these texts. An IPv6 address
is written with its leftmost longest run of two or more zero groups left out, and with a dotted
end if it stands for an IPv4 address.

## Main definitions

* `IPv4`, `IPv6`, `IPAddress`, `SocketAddress`: addresses.
* `IPAddress.toText`, `SocketAddress.toText`: their texts.
* `IPAddress.ofText?`, `SocketAddress.ofText?`: the readers.
-/

namespace StreamedInference

/-- Four octets. -/
structure IPv4 where
  a : UInt8
  b : UInt8
  c : UInt8
  d : UInt8
deriving DecidableEq, Repr

/-- Eight groups of 16 bits. -/
structure IPv6 where
  groups : List UInt16
  length_groups : groups.length = 8
deriving DecidableEq, Repr

/-- An address of either kind. -/
inductive IPAddress where
  | v4 (address : IPv4)
  | v6 (address : IPv6)
deriving DecidableEq, Repr

/-- An address and a port; an IPv6 address may lie in a numbered scope, where `0` stands for
none. -/
inductive SocketAddress where
  | v4 (address : IPv4) (port : UInt16)
  | v6 (address : IPv6) (scope : UInt32) (port : UInt16)
deriving DecidableEq, Repr

/-! ### Texts -/

/-- The decimal digits of a number. -/
def decimal (n : Nat) : List Char :=
  Nat.toDigits 10 n

/-- The hexadecimal digits of a number, in small letters. -/
def hexadecimal (n : Nat) : List Char :=
  Nat.toDigits 16 n

namespace IPv4

/-- The octets in decimal, with dots between them. -/
def chars (x : IPv4) : List Char :=
  decimal x.a.toNat ++ '.' :: decimal x.b.toNat ++ '.' :: decimal x.c.toNat ++ '.' ::
    decimal x.d.toNat

/-- The address `127.0.0.1`. -/
def loopback : IPv4 := ⟨127, 0, 0, 1⟩

/-- The two groups that an IPv4 address takes up at the end of an IPv6 address. -/
def groups (x : IPv4) : List UInt16 :=
  [x.a.toUInt16 * 256 + x.b.toUInt16, x.c.toUInt16 * 256 + x.d.toUInt16]

/-- The IPv4 address with these two groups. -/
def ofGroups (g h : UInt16) : IPv4 :=
  ⟨(g / 256).toUInt8, g.toUInt8, (h / 256).toUInt8, h.toUInt8⟩

end IPv4

/-- A row of elements within a list. -/
structure Run where
  start : Nat
  length : Nat
deriving DecidableEq, Repr

/-- The length of the row of zeros at the front of a list. -/
def leadingZeros (gs : List UInt16) : Nat :=
  (gs.takeWhile (· == 0)).length

/-- The longest row of zeros in a list, the leftmost of several; `start` is the place of the
first element. -/
def longestZeros (start : Nat) : List UInt16 → Run
  | [] => ⟨start, 0⟩
  | g :: gs =>
    let here := leadingZeros (g :: gs)
    let later := longestZeros (start + 1) gs
    if later.length ≤ here then ⟨start, here⟩ else later

namespace IPv6

/-- Groups with colons between them. -/
def joinGroups : List UInt16 → List Char
  | [] => []
  | [g] => hexadecimal g.toNat
  | g :: gs => hexadecimal g.toNat ++ ':' :: joinGroups gs

/-- The text of an address. -/
def chars (x : IPv6) : List Char :=
  match x.groups with
  | [0, 0, 0, 0, 0, 0xffff, g, h] => "::ffff:".toList ++ (IPv4.ofGroups g h).chars
  | gs =>
    let zeros := longestZeros 0 gs
    if zeros.length < 2 then joinGroups gs
    else
      joinGroups (gs.take zeros.start) ++ ':' :: ':' ::
        joinGroups (gs.drop (zeros.start + zeros.length))

end IPv6

namespace IPAddress

/-- The text of an address, as characters. -/
def chars : IPAddress → List Char
  | .v4 x => x.chars
  | .v6 x => x.chars

/-- The text of an address. -/
def toText (x : IPAddress) : String :=
  String.ofList x.chars

/-- The address of the own host. -/
def loopback : IPAddress := .v4 .loopback

/-- All bits are zero: no address in particular. -/
def isUnspecified : IPAddress → Bool
  | .v4 x => x == ⟨0, 0, 0, 0⟩
  | .v6 x => x.groups.all (· == 0)

end IPAddress

namespace SocketAddress

/-- The port of a socket. -/
def port : SocketAddress → UInt16
  | .v4 _ p => p
  | .v6 _ _ p => p

/-- The text of a socket; brackets keep the colons of an IPv6 address apart from the port. -/
def toText : SocketAddress → String
  | .v4 x p => String.ofList (x.chars ++ ':' :: decimal p.toNat)
  | .v6 x scope p =>
    let within := if scope == 0 then [] else '%' :: decimal scope.toNat
    String.ofList ('[' :: (x.chars ++ within ++ ']' :: ':' :: decimal p.toNat))

end SocketAddress

/-! ### Readers

Each reader takes what it reads from the front of the text and returns the rest. -/

/-- The value of a digit to a base up to 16. -/
def digitValue? (base : Nat) (c : Char) : Option Nat :=
  let v? : Option Nat :=
    if c.isDigit then some (c.toNat - '0'.toNat)
    else if 'a' ≤ c && c ≤ 'f' then some (c.toNat - 'a'.toNat + 10)
    else if 'A' ≤ c && c ≤ 'F' then some (c.toNat - 'A'.toNat + 10)
    else none
  v?.filter (· < base)

/-- The digits at the front of a text, as values. -/
def takeDigits (base : Nat) : List Char → List Nat × List Char
  | [] => ([], [])
  | c :: cs =>
    match digitValue? base c with
    | none => ([], c :: cs)
    | some v => let (vs, rest) := takeDigits base cs; (v :: vs, rest)

/-- The number with the given digits. -/
def ofDigitValues (base : Nat) (vs : List Nat) : Nat :=
  vs.foldl (fun n v => n * base + v) 0

/-- A number up to `limit` of at least one digit and at most `most`, if that is given. -/
def takeNumber (base limit : Nat) (most : Option Nat) (cs : List Char) :
    Option (Nat × List Char) :=
  let (vs, rest) := takeDigits base cs
  let n := ofDigitValues base vs
  if vs.isEmpty || most.any (· < vs.length) || limit < n then none else some (n, rest)

/-- An octet, written without needless zeros. -/
def takeOctet (cs : List Char) : Option (UInt8 × List Char) :=
  match takeNumber 10 255 (some 3) cs with
  | none => none
  | some (n, rest) =>
    if cs.head? == some '0' && rest.length + 1 < cs.length then none
    else some (UInt8.ofNat n, rest)

/-- A given character. -/
def takeChar (c : Char) : List Char → Option (List Char)
  | [] => none
  | d :: ds => if c == d then some ds else none

/-- An IPv4 address. -/
def takeIPv4 (cs : List Char) : Option (IPv4 × List Char) := do
  let (a, cs) ← takeOctet cs
  let cs ← takeChar '.' cs
  let (b, cs) ← takeOctet cs
  let cs ← takeChar '.' cs
  let (c, cs) ← takeOctet cs
  let cs ← takeChar '.' cs
  let (d, cs) ← takeOctet cs
  return (⟨a, b, c, d⟩, cs)

/-- A group of an IPv6 address. -/
def takeGroup (cs : List Char) : Option (UInt16 × List Char) :=
  (takeNumber 16 65535 (some 4) cs).map fun (n, rest) => (UInt16.ofNat n, rest)

/-- Groups read from a text, whether a dotted IPv4 address ended them, and the rest. -/
structure Groups where
  groups : List UInt16
  dotted : Bool
  rest : List Char

/-- Up to `room` groups with colons between them, the last two of which may be written as an
IPv4 address; `first` tells that no colon goes before the next one. -/
def takeGroups : (room : Nat) → (first : Bool) → List Char → Groups
  | 0, _, cs => ⟨[], false, cs⟩
  | room + 1, first, cs =>
    let separated := if first then some cs else takeChar ':' cs
    match if room == 0 then none else separated.bind takeIPv4 with
    | some (x, rest) => ⟨x.groups, true, rest⟩
    | none =>
      match separated.bind takeGroup with
      | none => ⟨[], false, cs⟩
      | some (g, rest) =>
        let more := takeGroups room false rest
        { more with groups := g :: more.groups }

/-- An IPv6 address from its groups. -/
def IPv6.ofGroups? (groups : List UInt16) : Option IPv6 :=
  if h : groups.length = 8 then some ⟨groups, h⟩ else none

/-- An IPv6 address: eight groups, or fewer with `::` for the zeros left out. -/
def takeIPv6 (cs : List Char) : Option (IPv6 × List Char) :=
  let head := takeGroups 8 true cs
  if head.groups.length == 8 then (IPv6.ofGroups? head.groups).map (·, head.rest)
  else if head.dotted then none
  else do
    let cs ← takeChar ':' head.rest
    let cs ← takeChar ':' cs
    let tail := takeGroups (7 - head.groups.length) true cs
    let zeros := List.replicate (8 - head.groups.length - tail.groups.length) 0
    let x ← IPv6.ofGroups? (head.groups ++ zeros ++ tail.groups)
    return (x, tail.rest)

/-- A result that leaves nothing over. -/
def whole {α : Type} (r : Option (α × List Char)) : Option α :=
  r.bind fun (x, rest) => if rest.isEmpty then some x else none

/-- The IPv4 address that a text spells. -/
def IPv4.ofText? (text : String) : Option IPv4 :=
  whole (takeIPv4 text.toList)

/-- The IPv6 address that a text spells. -/
def IPv6.ofText? (text : String) : Option IPv6 :=
  whole (takeIPv6 text.toList)

/-- The address that a text spells. -/
def IPAddress.ofText? (text : String) : Option IPAddress :=
  ((IPv4.ofText? text).map .v4).or ((IPv6.ofText? text).map .v6)

/-- A colon and a port. -/
def takePort (cs : List Char) : Option (UInt16 × List Char) := do
  let cs ← takeChar ':' cs
  let (n, cs) ← takeNumber 10 65535 none cs
  return (UInt16.ofNat n, cs)

/-- A percent sign and the number of a scope, or nothing. -/
def takeScope (cs : List Char) : UInt32 × List Char :=
  match (takeChar '%' cs).bind (takeNumber 10 4294967295 none) with
  | some (n, rest) => (UInt32.ofNat n, rest)
  | none => (0, cs)

/-- The socket that a text spells. -/
def SocketAddress.ofText? (text : String) : Option SocketAddress :=
  let v4? : Option (SocketAddress × List Char) := do
    let (x, cs) ← takeIPv4 text.toList
    let (p, cs) ← takePort cs
    return (.v4 x p, cs)
  let v6? : Option (SocketAddress × List Char) := do
    let cs ← takeChar '[' text.toList
    let (x, cs) ← takeIPv6 cs
    let (scope, cs) := takeScope cs
    let cs ← takeChar ']' cs
    let (p, cs) ← takePort cs
    return (.v6 x scope p, cs)
  (whole v4?).or (whole v6?)

end StreamedInference
