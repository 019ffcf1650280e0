import StreamedInference.Wire.Varint

/-!
# Wire records

A message on the wire is a row of records. Each begins with a key, which gives the number of a
field and the form of what follows; a group is everything between two records that open and close
it under one number.

## Main definitions

* `Record`, `Payload`: a record and what it carries.
* `Record.encode`, `Record.decode`: one record.
* `Record.decodeAll`: all records of a message.
-/

namespace StreamedInference

/-- What a record holds. -/
inductive Payload where
  | varint (n : UInt64)
  | fixed64 (bytes : List UInt8)
  | bytes (bytes : List UInt8)
  | groupStart
  | groupEnd
  | fixed32 (bits : UInt32)
deriving DecidableEq, Repr

/-- A record: the number of its field and what it holds. -/
structure Record where
  field : Nat
  payload : Payload
deriving DecidableEq, Repr

/-- Four bytes, the least significant first. -/
def UInt32.littleEndian (n : UInt32) : List UInt8 :=
  [n.toUInt8, (n / 256).toUInt8, (n / 65536).toUInt8, (n / 16777216).toUInt8]

/-- The number that four bytes make up, the least significant first. -/
def UInt32.ofLittleEndian (a b c d : UInt8) : UInt32 :=
  a.toUInt32 + b.toUInt32 * 256 + c.toUInt32 * 65536 + d.toUInt32 * 16777216

namespace Payload

/-- The number by which a key tells the form of a payload. -/
def form : Payload → Nat
  | .varint _ => 0
  | .fixed64 _ => 1
  | .bytes _ => 2
  | .groupStart => 3
  | .groupEnd => 4
  | .fixed32 _ => 5

/-- The bytes of a payload. -/
def encode : Payload → List UInt8
  | .varint n => Varint.encode n
  | .fixed64 bs => bs
  | .bytes bs => Varint.encode (UInt64.ofNat bs.length) ++ bs
  | .groupStart => []
  | .groupEnd => []
  | .fixed32 n => UInt32.littleEndian n

/-- The payload of a form at the front of a row of bytes, and the bytes after it. -/
def decode (form : Nat) (bs : List UInt8) : Option (Payload × List UInt8) :=
  match form with
  | 0 => (Varint.decode bs).map fun (n, rest) => (.varint n, rest)
  | 1 => if bs.length < 8 then none else some (.fixed64 (bs.take 8), bs.drop 8)
  | 2 =>
    (Varint.decode bs).bind fun (n, rest) =>
      if rest.length < n.toNat then none
      else some (.bytes (rest.take n.toNat), rest.drop n.toNat)
  | 3 => some (.groupStart, bs)
  | 4 => some (.groupEnd, bs)
  | 5 =>
    match bs with
    | a :: b :: c :: d :: rest => some (.fixed32 (UInt32.ofLittleEndian a b c d), rest)
    | _ => none
  | _ => none

theorem length_le_of_decode {form : Nat} {p : Payload} {bs rest : List UInt8}
    (h : decode form bs = some (p, rest)) : rest.length ≤ bs.length := by
  unfold decode at h
  split at h
  · simp only [Option.map_eq_some_iff, Prod.mk.injEq] at h
    obtain ⟨⟨n, r⟩, hr, -, rfl⟩ := h
    exact Nat.le_of_lt (Varint.length_lt_of_decode hr)
  · split at h
    · simp at h
    · simp only [Option.some.injEq, Prod.mk.injEq] at h
      simp [← h.2]
  · simp only [Option.bind_eq_some_iff] at h
    obtain ⟨⟨n, r⟩, hr, h⟩ := h
    have := Varint.length_lt_of_decode hr
    split at h
    · simp at h
    · simp only [Option.some.injEq, Prod.mk.injEq] at h
      simp only [← h.2, List.length_drop]
      omega
  · simp only [Option.some.injEq, Prod.mk.injEq] at h
    simp [h.2]
  · simp only [Option.some.injEq, Prod.mk.injEq] at h
    simp [h.2]
  · split at h
    · simp only [Option.some.injEq, Prod.mk.injEq] at h
      obtain ⟨-, rfl⟩ := h
      simp only [List.length_cons]
      omega
    · simp at h
  · simp at h

end Payload

namespace Record

/-- The bytes of a record. -/
def encode (r : Record) : List UInt8 :=
  Varint.encode (UInt64.ofNat (r.field * 8 + r.payload.form)) ++ r.payload.encode

/-- The record at the front of a row of bytes, and the bytes after it. A key has 32 bits at most,
and no field has the number `0`. -/
def decode (bs : List UInt8) : Option (Record × List UInt8) :=
  (Varint.decode bs).bind fun (key, rest) =>
    let field := key.toNat / 8
    if 4294967295 < key.toNat || field == 0 then none
    else (Payload.decode (key.toNat % 8) rest).map fun (p, rest) => (⟨field, p⟩, rest)

/-- Reading a record takes at least one byte. -/
theorem length_lt_of_decode {r : Record} {bs rest : List UInt8}
    (h : decode bs = some (r, rest)) : rest.length < bs.length := by
  simp only [decode, Option.bind_eq_some_iff] at h
  obtain ⟨⟨key, mid⟩, hkey, h⟩ := h
  have hlt := Varint.length_lt_of_decode hkey
  split at h
  · simp at h
  · simp only [Option.map_eq_some_iff, Prod.mk.injEq] at h
    obtain ⟨⟨p, last⟩, hp, -, hlast⟩ := h
    have hle := Payload.length_le_of_decode hp
    rw [← hlast]
    exact Nat.lt_of_le_of_lt hle hlt

/-- The records that a row of bytes consists of. -/
def decodeAll (bs : List UInt8) : Option (List Record) :=
  if bs.isEmpty then some []
  else
    match _h : decode bs with
    | none => none
    | some (r, rest) => (decodeAll rest).map (r :: ·)
termination_by bs.length
decreasing_by exact length_lt_of_decode _h

end Record

end StreamedInference
