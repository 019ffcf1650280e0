import StreamedInference.Proofs.Wire.Varint

/-!
# Reading back records

A record can be written if its key has 32 bits and its payload the length that its form allows.
Such records are read back from their bytes, one by one and in a row, and no others are ever read.

## Main definitions

* `Payload.IsWritable`, `Record.IsWritable`: what can be written.

## Main results

* `Record.decodeAll_encodeRecords`: records are read back.
* `Record.isWritable_of_decodeAll`: what has been read can be written.
-/

namespace StreamedInference

/-- Four bytes make up the number they have been taken from. -/
theorem UInt32.ofLittleEndian_toUInt8 (n : UInt32) :
    UInt32.ofLittleEndian n.toUInt8 (n / 256).toUInt8 (n / 65536).toUInt8 (n / 16777216).toUInt8 =
      n := by
  have hn := n.toNat_lt
  rw [← UInt32.toNat_inj]
  simp [UInt32.ofLittleEndian]
  omega

namespace Payload

variable {p : Payload} {form : Nat} {bs rest : List UInt8}

/-- The payload has the length that its form allows. -/
def IsWritable : Payload → Prop
  | .fixed64 bs => bs.length = 8
  | .bytes bs => bs.length < 2 ^ 64
  | _ => True

/-- A form has three bits. -/
theorem form_lt (p : Payload) : p.form < 8 := by
  cases p <;> simp [form]

/-- A payload is read back from its bytes, whatever follows them. -/
theorem decode_encode (h : p.IsWritable) (rest : List UInt8) :
    decode p.form (p.encode ++ rest) = some (p, rest) := by
  cases p with
  | varint n => simp [form, encode, decode]
  | fixed64 bs =>
    have hlen : bs.length = 8 := h
    have htake : (bs ++ rest).take 8 = bs := List.take_left' hlen
    have hdrop : (bs ++ rest).drop 8 = rest := List.drop_left' hlen
    simp [form, encode, decode, hlen, htake, hdrop]
  | bytes bs =>
    have hlen : bs.length < 18446744073709551616 := h
    simp [form, encode, decode, Nat.mod_eq_of_lt hlen]
  | groupStart => rfl
  | groupEnd => rfl
  | fixed32 n => simp [form, encode, decode, UInt32.littleEndian, UInt32.ofLittleEndian_toUInt8]

/-- What has been read has the length that its form allows. -/
theorem isWritable_of_decode (h : decode form bs = some (p, rest)) : p.IsWritable := by
  unfold decode at h
  split at h
  · simp only [Option.map_eq_some_iff, Prod.mk.injEq] at h
    obtain ⟨-, -, rfl, -⟩ := h
    trivial
  · split_ifs at h with hlen
    simp only [Option.some.injEq, Prod.mk.injEq] at h
    obtain ⟨rfl, -⟩ := h
    simp only [IsWritable, List.length_take]
    omega
  · simp only [Option.bind_eq_some_iff] at h
    obtain ⟨⟨n, mid⟩, -, h⟩ := h
    split_ifs at h
    simp only [Option.some.injEq, Prod.mk.injEq] at h
    obtain ⟨rfl, -⟩ := h
    exact Nat.lt_of_le_of_lt (List.length_take_le n.toNat mid) n.toNat_lt
  · simp only [Option.some.injEq, Prod.mk.injEq] at h
    obtain ⟨rfl, -⟩ := h
    trivial
  · simp only [Option.some.injEq, Prod.mk.injEq] at h
    obtain ⟨rfl, -⟩ := h
    trivial
  · split at h
    · simp only [Option.some.injEq, Prod.mk.injEq] at h
      obtain ⟨rfl, -⟩ := h
      trivial
    · cases h
  · cases h

end Payload

namespace Record

variable {r : Record} {rs : List Record} {bs rest : List UInt8}

/-- The key of the record has 32 bits and its payload the length that its form allows. -/
structure IsWritable (r : Record) : Prop where
  field_pos : 0 < r.field
  field_lt : r.field < 2 ^ 29
  payload : r.payload.IsWritable

/-- The number of a key. -/
theorem IsWritable.toNat_key (h : r.IsWritable) :
    (UInt64.ofNat (r.field * 8 + r.payload.form)).toNat = r.field * 8 + r.payload.form := by
  have hform := r.payload.form_lt
  have hlt := h.field_lt
  rw [UInt64.toNat_ofNat']
  exact Nat.mod_eq_of_lt (by omega)

/-- A record is read back from its bytes, whatever follows them. -/
theorem decode_encode (h : r.IsWritable) (rest : List UInt8) :
    decode (r.encode ++ rest) = some (r, rest) := by
  have hform := r.payload.form_lt
  have hpos := h.field_pos
  have hlt := h.field_lt
  have hfield : (r.field * 8 + r.payload.form) / 8 = r.field := by omega
  have hmod : (r.field * 8 + r.payload.form) % 8 = r.payload.form := by omega
  have hle : ¬ (4294967295 < r.field * 8 + r.payload.form) := by omega
  have hne : ¬ r.field = 0 := by omega
  simp only [encode, decode, List.append_assoc, Varint.decode_encode, Option.bind_some,
    h.toNat_key, hfield, hmod, hle, Payload.decode_encode h.payload]
  simpa using hne

/-- What has been read can be written. -/
theorem isWritable_of_decode (h : decode bs = some (r, rest)) : r.IsWritable := by
  simp only [decode, Option.bind_eq_some_iff] at h
  obtain ⟨⟨key, mid⟩, -, h⟩ := h
  split_ifs at h with hkey
  simp only [Option.map_eq_some_iff, Prod.mk.injEq] at h
  obtain ⟨⟨p, last⟩, hp, rfl, -⟩ := h
  simp only [Bool.or_eq_true, decide_eq_true_eq, beq_iff_eq, not_or] at hkey
  exact ⟨Nat.pos_of_ne_zero hkey.2, by simp only; omega, Payload.isWritable_of_decode hp⟩

theorem decodeAll_of_decode (h : decode bs = some (r, rest)) :
    decodeAll bs = (decodeAll rest).map (r :: ·) := by
  have hbs : bs ≠ [] := List.ne_nil_of_length_pos (Nat.zero_lt_of_lt (length_lt_of_decode h))
  rw [decodeAll, if_neg (by simpa using hbs)]
  split <;> simp_all

/-- Records are read back from their bytes. -/
theorem decodeAll_encodeRecords (h : ∀ r ∈ rs, r.IsWritable) :
    decodeAll (Wire.encodeRecords rs) = some rs := by
  induction rs with
  | nil => rw [decodeAll]; rfl
  | cons r rs ih =>
    rw [List.forall_mem_cons] at h
    rw [Wire.encodeRecords, List.flatMap_cons, decodeAll_of_decode (decode_encode h.1 _),
      ← Wire.encodeRecords, ih h.2, Option.map_some]

/-- All that has been read can be written. -/
theorem isWritable_of_decodeAll (h : decodeAll bs = some rs) : ∀ r ∈ rs, r.IsWritable := by
  fun_induction decodeAll bs generalizing rs with
  | case1 =>
    obtain rfl := Option.some.inj h
    simp
  | case2 => cases h
  | case3 bs _ r rest hr ih =>
    obtain ⟨rs, hrs, rfl⟩ := Option.map_eq_some_iff.mp h
    exact List.forall_mem_cons.mpr ⟨isWritable_of_decode hr, ih hrs⟩

end Record

end StreamedInference
