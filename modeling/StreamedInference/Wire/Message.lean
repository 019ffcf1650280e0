import StreamedInference.Single.Basic
import StreamedInference.Text.Utf8
import StreamedInference.Wire.Record

/-!
# Messages

The two messages of the streaming call and their form on the wire. A reader takes the records of a
message in order. The last of several records for a field counts; records for unknown fields are
skipped, groups as a whole, nested up to a limit. A writer leaves out the fields that have their
default value.

## Main definitions

* `Request`, `Response`: the messages.
* `Request.encode`, `Response.encode`: their form on the wire.
* `Request.decode?`, `Response.decode?`: the messages of rows of bytes.
* `Request.encodedSize`, `Response.encodedSize`: how long their forms are.
-/

namespace StreamedInference

/-- A fragment that a client sends. -/
structure Request where
  sessionId : String := ""
  message : String := ""
  /-- The wished temperature; `0` is no wish. -/
  temperature : Single := .zero
deriving DecidableEq, Repr

/-- A chunk that a client receives. -/
structure Response where
  chunk : String := ""
  isFinished : Bool := false
  error : String := ""
  generatedTokens : Int32 := 0
deriving DecidableEq, Repr

namespace Response

/-- A chunk of text. -/
def partialChunk (text : String) (count : Int32) : Response :=
  { chunk := text, generatedTokens := count }

/-- The chunk that ends a turn. -/
def finished (count : Int32) : Response :=
  { isFinished := true, generatedTokens := count }

/-- The chunk that ends a turn that failed. -/
def failed (reason : String) (count : Int32) : Response :=
  { isFinished := true, error := reason, generatedTokens := count }

end Response

namespace Wire

/-! ### Reading -/

/-- How deep groups may be nested within a message. -/
def nestingLimit : Nat := 100

/-- What a reader knows: the message so far, and the numbers of the groups that are open, the
innermost first. -/
structure Reading (α : Type) where
  message : α
  openGroups : List Nat := []

/-- A record of an unknown field within the open groups. -/
def skip (openGroups : List Nat) (r : Record) : Option (List Nat) :=
  match r.payload with
  | .groupEnd =>
    match openGroups with
    | [] => none
    | g :: gs => if g == r.field then some gs else none
  | .groupStart =>
    if nestingLimit ≤ openGroups.length then none else some (r.field :: openGroups)
  | _ => if nestingLimit ≤ openGroups.length then none else some openGroups

/-- How a kind of message takes a record: nothing if the field is unknown, else the changed
message, unless the payload does not suit the field. -/
abbrev Taker (α : Type) := α → Record → Option (Option α)

/-- Takes a record. -/
def Reading.step {α : Type} (take : Taker α) (s : Reading α) (r : Record) :
    Option (Reading α) :=
  match if s.openGroups.isEmpty then take s.message r else none with
  | some message? => message?.map fun m => { s with message := m }
  | none => (skip s.openGroups r).map fun gs => { s with openGroups := gs }

/-- Takes records in order. -/
def Reading.run {α : Type} (take : Taker α) (s : Reading α) : List Record → Option (Reading α)
  | [] => some s
  | r :: rs => (s.step take r).bind fun s => s.run take rs

/-- The message that records make up; no group may be left open. -/
def ofRecords? {α : Type} (take : Taker α) (empty : α) (rs : List Record) : Option α :=
  (Reading.run take ⟨empty, []⟩ rs).bind fun s =>
    if s.openGroups.isEmpty then some s.message else none

/-- The text of a payload. -/
def text? : Payload → Option String
  | .bytes bs => Utf8.decodeString? bs
  | _ => none

/-- The number of a payload of four bytes. -/
def single? : Payload → Option Single
  | .fixed32 bits => some ⟨bits⟩
  | _ => none

/-- The truth value of a payload: every number but zero is true. -/
def bool? : Payload → Option Bool
  | .varint n => some (n != 0)
  | _ => none

/-- The signed number of a payload: its lowest 32 bits. -/
def int32? : Payload → Option Int32
  | .varint n => some n.toUInt32.toInt32
  | _ => none

/-! ### Writing -/

/-- A record for a text that is not empty. -/
def textRecord (field : Nat) (s : String) : List Record :=
  if s.isEmpty then [] else [⟨field, .bytes (Utf8.bytes s)⟩]

/-- A record for a number other than either zero. -/
def singleRecord (field : Nat) (x : Single) : List Record :=
  if x.isZero then [] else [⟨field, .fixed32 x.bits⟩]

/-- A record for what is true. -/
def boolRecord (field : Nat) (b : Bool) : List Record :=
  if b then [⟨field, .varint 1⟩] else []

/-- A record for a signed number other than zero, which is widened to 64 bits. -/
def int32Record (field : Nat) (n : Int32) : List Record :=
  if n == 0 then [] else [⟨field, .varint n.toInt64.toUInt64⟩]

/-- The bytes of records. -/
def encodeRecords (rs : List Record) : List UInt8 :=
  rs.flatMap Record.encode

end Wire

namespace Request

/-- Takes a record of a request. -/
def take : Wire.Taker Request := fun m r =>
  match r.field with
  | 1 => some ((Wire.text? r.payload).map fun s => { m with sessionId := s })
  | 2 => some ((Wire.text? r.payload).map fun s => { m with message := s })
  | 3 => some ((Wire.single? r.payload).map fun x => { m with temperature := x })
  | _ => none

/-- The records of a request. -/
def records (m : Request) : List Record :=
  Wire.textRecord 1 m.sessionId ++ Wire.textRecord 2 m.message ++
    Wire.singleRecord 3 m.temperature

/-- The bytes of a request. -/
def encode (m : Request) : List UInt8 :=
  Wire.encodeRecords m.records

/-- The request that bytes spell. -/
def decode? (bs : List UInt8) : Option Request :=
  (Record.decodeAll bs).bind (Wire.ofRecords? take {})

end Request

namespace Response

/-- Takes a record of a response. -/
def take : Wire.Taker Response := fun m r =>
  match r.field with
  | 1 => some ((Wire.text? r.payload).map fun s => { m with chunk := s })
  | 2 => some ((Wire.bool? r.payload).map fun b => { m with isFinished := b })
  | 3 => some ((Wire.text? r.payload).map fun s => { m with error := s })
  | 4 => some ((Wire.int32? r.payload).map fun n => { m with generatedTokens := n })
  | _ => none

/-- The records of a response. -/
def records (m : Response) : List Record :=
  Wire.textRecord 1 m.chunk ++ Wire.boolRecord 2 m.isFinished ++ Wire.textRecord 3 m.error ++
    Wire.int32Record 4 m.generatedTokens

/-- The bytes of a response. -/
def encode (m : Response) : List UInt8 :=
  Wire.encodeRecords m.records

/-- The response that bytes spell. -/
def decode? (bs : List UInt8) : Option Response :=
  (Record.decodeAll bs).bind (Wire.ofRecords? take {})

end Response

/-! ### Lengths -/

namespace Varint

/-- How many bytes a number takes: one for each seven bits up to the highest that is set. -/
def byteCount (n : UInt64) : Nat :=
  ((n ||| 1).toNat.log2 * 9 + 73) / 64

end Varint

namespace Wire

/-- How many bytes a field with a short number and a text takes. -/
def textSize (s : String) : Nat :=
  if s.isEmpty then 0
  else 1 + Varint.byteCount (UInt64.ofNat s.utf8ByteSize) + s.utf8ByteSize

end Wire

/-- How many bytes a request takes, found without writing it. -/
def Request.encodedSize (m : Request) : Nat :=
  Wire.textSize m.sessionId + Wire.textSize m.message + (if m.temperature.isZero then 0 else 5)

/-- How many bytes a response takes, found without writing it. -/
def Response.encodedSize (m : Response) : Nat :=
  Wire.textSize m.chunk + (if m.isFinished then 2 else 0) + Wire.textSize m.error +
    (if m.generatedTokens == 0 then 0
      else 1 + Varint.byteCount m.generatedTokens.toInt64.toUInt64)

end StreamedInference
