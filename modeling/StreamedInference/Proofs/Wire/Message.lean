import StreamedInference.Proofs.Text.Utf8
import StreamedInference.Proofs.Wire.Record

/-!
# Messages arrive as they were sent

A message is read back from its bytes. A field that has been left out has its default value, and
that is the value it was left out for, with one exception: both zeros are left out as temperatures,
and what arrives is the zero without a sign. A text needs a length below `2 ^ 64`, for which its
prefix has room; whatever has been read has such texts only, so that a message read from any bytes,
however they were written, is read again from the bytes it is then written with.

## Main definitions

* `Single.plain`, `Request.plain`: without the sign of a zero.
* `Request.IsStorable`, `Response.IsStorable`: all texts have a length that can be written.

## Main results

* `Request.decode?_encode`, `Response.decode?_encode`: messages are read back.
* `Request.isStorable_of_decode?`, `Response.isStorable_of_decode?`: what has been read can be
  written.
* `Request.length_encode`, `Response.length_encode`: how long messages are.
* `messages_arrive`: both messages, read back and measured.
-/

namespace StreamedInference

/-! ### The zeros -/

namespace Single

/-- Zero with a sign. -/
def negZero : Single := ⟨0x80000000⟩

/-- The number, without the sign if it is a zero. -/
def plain (x : Single) : Single :=
  if x = negZero then zero else x

theorem isZero_iff {x : Single} : x.isZero = true ↔ x = zero ∨ x = negZero := by
  obtain ⟨bits⟩ := x
  have hbits := bits.toNat_lt
  simp only [isZero, magnitude, zero, negZero, mk.injEq, ← UInt32.toNat_inj, beq_iff_eq,
    UInt32.reduceToNat]
  omega

theorem plain_of_isZero {x : Single} (h : x.isZero = true) : x.plain = zero := by
  obtain rfl | rfl := isZero_iff.mp h <;> rfl

theorem plain_of_not_isZero {x : Single} (h : ¬ x.isZero = true) : x.plain = x :=
  if_neg fun hx => h (isZero_iff.mpr (.inr hx))

end Single

namespace Wire

/-! ### Reading records in a row -/

section Reading

variable {α : Type} {take : Taker α} {m m' : α} {rs rs' : List Record}

namespace Reading

theorem run_append (s : Reading α) :
    s.run take (rs ++ rs') = (s.run take rs).bind fun s => s.run take rs' := by
  induction rs generalizing s with
  | nil => rfl
  | cons r rs ih => simp [run, ih, Option.bind_assoc]

/-- One record of a known field. -/
theorem run_singleton {r : Record} (h : take m r = some (some m')) :
    run take ⟨m, []⟩ [r] = some ⟨m', []⟩ := by
  simp [run, step, h]

/-- A record that has been left out for what is the message's value anyway. -/
theorem run_ite {p : Prop} [Decidable p] {r : Record} (hp : p → m = m')
    (hr : ¬p → take m r = some (some m')) :
    run take ⟨m, []⟩ (if p then [] else [r]) = some ⟨m', []⟩ := by
  split_ifs with h
  · rw [hp h]
    rfl
  · exact run_singleton (hr h)

variable {P : α → Prop} {s s' : Reading α}

/-- A record changes the message as a taker does, or not at all. -/
theorem step_induct {r : Record}
    (htake : ∀ m r m', P m → r.IsWritable → take m r = some (some m') → P m')
    (hs : P s.message) (hr : r.IsWritable) (h : s.step take r = some s') : P s'.message := by
  unfold step at h
  split at h
  next message? htaken =>
    obtain ⟨m, rfl, rfl⟩ := Option.map_eq_some_iff.mp h
    split_ifs at htaken
    exact htake _ _ _ hs hr htaken
  next =>
    obtain ⟨gs, -, rfl⟩ := Option.map_eq_some_iff.mp h
    exact hs

/-- What holds before a message is read and is kept by each record, holds afterwards. -/
theorem run_induct (htake : ∀ m r m', P m → r.IsWritable → take m r = some (some m') → P m')
    (hs : P s.message) (hrs : ∀ r ∈ rs, r.IsWritable) (h : s.run take rs = some s') :
    P s'.message := by
  induction rs generalizing s with
  | nil =>
    obtain rfl := Option.some.inj h
    exact hs
  | cons r rs ih =>
    obtain ⟨s₁, hs₁, h⟩ := Option.bind_eq_some_iff.mp h
    rw [List.forall_mem_cons] at hrs
    exact ih (step_induct htake hs hrs.1 hs₁) hrs.2 h

end Reading

theorem ofRecords?_eq_some_iff {empty : α} :
    ofRecords? take empty rs = some m ↔ Reading.run take ⟨empty, []⟩ rs = some ⟨m, []⟩ := by
  simp only [ofRecords?, Option.bind_eq_some_iff]
  constructor
  · rintro ⟨⟨m, gs⟩, hrun, h⟩
    simp_all
  · intro h
    exact ⟨_, h, rfl⟩

/-- A message is read back from the bytes of records that make it up. -/
theorem decodeAll_bind_ofRecords? {empty : α} (hrs : ∀ r ∈ rs, r.IsWritable)
    (h : Reading.run take ⟨empty, []⟩ rs = some ⟨m, []⟩) :
    (Record.decodeAll (encodeRecords rs)).bind (ofRecords? take empty) = some m := by
  rw [Record.decodeAll_encodeRecords hrs, Option.bind_some]
  exact ofRecords?_eq_some_iff.mpr h

/-- What holds of the empty message and is kept by each record that can be written, holds of every
message that has been read. -/
theorem decodeAll_induct {P : α → Prop} {empty : α} {bs : List UInt8}
    (htake : ∀ m r m', P m → r.IsWritable → take m r = some (some m') → P m') (hempty : P empty)
    (h : (Record.decodeAll bs).bind (ofRecords? take empty) = some m) : P m := by
  obtain ⟨rs, hrs, h⟩ := Option.bind_eq_some_iff.mp h
  exact Reading.run_induct htake hempty (Record.isWritable_of_decodeAll hrs)
    (ofRecords?_eq_some_iff.mp h)

end Reading

/-! ### Fields -/

/-- A text has a length that can be written: lengths are written as numbers of 64 bits, which is
enough for every text that an address space of 64 bits holds. -/
def IsStorable (s : String) : Prop :=
  s.utf8ByteSize < 2 ^ 64

instance : DecidablePred IsStorable :=
  fun s => inferInstanceAs (Decidable (s.utf8ByteSize < 2 ^ 64))

theorem isStorable_empty : IsStorable "" := by
  decide

@[simp] theorem text?_bytes (s : String) : text? (.bytes (Utf8.bytes s)) = some s :=
  Utf8.decodeString?_bytes s

theorem isStorable_of_text? {p : Payload} {s : String} (hp : p.IsWritable)
    (h : text? p = some s) : IsStorable s := by
  cases p with
  | bytes bs =>
    obtain rfl := Utf8.decodeString?_eq_some_iff.mp h
    rwa [Payload.IsWritable, Utf8.length_bytes] at hp
  | _ => cases h

/-- The lowest bits of a signed number that has been widened are those it had. -/
@[simp] theorem int32?_toUInt64 (n : Int32) : int32? (.varint n.toInt64.toUInt64) = some n := by
  have hbits : (n.toBitVec.signExtend 64).setWidth 32 = n.toBitVec := by
    ext i hi
    simp only [BitVec.getElem_setWidth, BitVec.getLsbD_signExtend, hi, if_true,
      BitVec.getLsbD_eq_getElem]
    simp
    omega
  exact congrArg some (Int32.toBitVec_inj.mp hbits)

section Writing

variable {field : Nat} {s : String} {rs rs' : List Record}

@[simp] theorem encodeRecords_append :
    encodeRecords (rs ++ rs') = encodeRecords rs ++ encodeRecords rs' :=
  List.flatMap_append

theorem boolRecord_eq (field : Nat) (b : Bool) :
    boolRecord field b = if b = false then [] else [⟨field, .varint 1⟩] := by
  cases b <;> rfl

theorem isWritable_of_mem_ite {p : Prop} [Decidable p] {r : Record} (h : r.IsWritable) :
    ∀ r' ∈ if p then [] else [r], r'.IsWritable := by
  split_ifs <;> simp [h]

theorem isWritable_textRecord (h : 0 < field ∧ field < 16) (hs : IsStorable s) :
    ∀ r ∈ textRecord field s, r.IsWritable :=
  isWritable_of_mem_ite
    ⟨h.1, by simp only; omega, by rwa [Payload.IsWritable, Utf8.length_bytes]⟩

theorem isWritable_singleRecord (h : 0 < field ∧ field < 16) (x : Single) :
    ∀ r ∈ singleRecord field x, r.IsWritable :=
  isWritable_of_mem_ite ⟨h.1, by simp only; omega, trivial⟩

theorem isWritable_boolRecord (h : 0 < field ∧ field < 16) (b : Bool) :
    ∀ r ∈ boolRecord field b, r.IsWritable :=
  boolRecord_eq field b ▸ isWritable_of_mem_ite ⟨h.1, by simp only; omega, trivial⟩

theorem isWritable_int32Record (h : 0 < field ∧ field < 16) (n : Int32) :
    ∀ r ∈ int32Record field n, r.IsWritable :=
  isWritable_of_mem_ite ⟨h.1, by simp only; omega, trivial⟩

/-- The key of a field with a short number takes one byte. -/
theorem length_encode {r : Record} (h : r.field < 16) :
    r.encode.length = 1 + r.payload.encode.length := by
  have hform := r.payload.form_lt
  rw [Record.encode, List.length_append, Varint.length_encode, Varint.byteCount_of_lt]
  rw [UInt64.toNat_ofNat']
  omega

theorem length_textRecord (h : field < 16) :
    (encodeRecords (textRecord field s)).length = textSize s := by
  unfold textRecord textSize
  split_ifs
  · rfl
  · simp [encodeRecords, length_encode, h, Payload.encode]
    omega

theorem length_singleRecord (h : field < 16) (x : Single) :
    (encodeRecords (singleRecord field x)).length = if x.isZero then 0 else 5 := by
  unfold singleRecord
  split_ifs
  · rfl
  · simp [encodeRecords, length_encode, h, Payload.encode, UInt32.littleEndian]

theorem length_boolRecord (h : field < 16) (b : Bool) :
    (encodeRecords (boolRecord field b)).length = if b then 2 else 0 := by
  unfold boolRecord
  split_ifs
  · simp [encodeRecords, length_encode, h, Payload.encode, Varint.byteCount_of_lt]
  · rfl

theorem length_int32Record (h : field < 16) (n : Int32) :
    (encodeRecords (int32Record field n)).length =
      if n == 0 then 0 else 1 + Varint.byteCount n.toInt64.toUInt64 := by
  unfold int32Record
  split_ifs
  · rfl
  · simp [encodeRecords, length_encode, h, Payload.encode]

end Writing

end Wire

open Wire

namespace Request

/-- The request, without the sign of a zero. -/
def plain (m : Request) : Request :=
  { m with temperature := m.temperature.plain }

/-- All texts have a length that can be written. -/
structure IsStorable (m : Request) : Prop where
  sessionId : Wire.IsStorable m.sessionId
  message : Wire.IsStorable m.message

/-- The records of a request make it up, but for the sign of a zero. -/
theorem run_records (m : Request) : Reading.run take ⟨{}, []⟩ m.records = some ⟨m.plain, []⟩ := by
  have hid : Reading.run take ⟨{}, []⟩ (textRecord 1 m.sessionId) =
      some ⟨{ sessionId := m.sessionId }, []⟩ :=
    Reading.run_ite (by simp +contextual) (by simp [take])
  have hmessage : Reading.run take ⟨{ sessionId := m.sessionId }, []⟩ (textRecord 2 m.message) =
      some ⟨{ m with temperature := .zero }, []⟩ :=
    Reading.run_ite (by simp +contextual) (by simp [take])
  have htemperature : Reading.run take ⟨{ m with temperature := .zero }, []⟩
      (singleRecord 3 m.temperature) = some ⟨m.plain, []⟩ :=
    Reading.run_ite (fun h => by simp [plain, Single.plain_of_isZero h])
      (fun h => by simp [take, plain, Single.plain_of_not_isZero h, single?])
  simp only [records, Reading.run_append, hid, hmessage, htemperature, Option.bind_some]

theorem isWritable_of_mem_records {m : Request} (h : m.IsStorable) :
    ∀ r ∈ m.records, r.IsWritable := by
  simp only [records, List.forall_mem_append]
  exact ⟨⟨isWritable_textRecord (by decide) h.sessionId,
    isWritable_textRecord (by decide) h.message⟩, isWritable_singleRecord (by decide) _⟩

/-- A request is read back from its bytes, but for the sign of a zero. -/
theorem decode?_encode {m : Request} (h : m.IsStorable) : decode? m.encode = some m.plain :=
  decodeAll_bind_ofRecords? (isWritable_of_mem_records h) m.run_records

/-- Taking a record that can be written leaves texts that can be written. -/
theorem IsStorable.take {m m' : Request} {r : Record} (h : m.IsStorable) (hr : r.IsWritable)
    (htake : Request.take m r = some (some m')) : m'.IsStorable := by
  unfold Request.take at htake
  split at htake
  · obtain ⟨s, hs, rfl⟩ := Option.map_eq_some_iff.mp (Option.some.inj htake)
    exact ⟨isStorable_of_text? hr.payload hs, h.message⟩
  · obtain ⟨s, hs, rfl⟩ := Option.map_eq_some_iff.mp (Option.some.inj htake)
    exact ⟨h.sessionId, isStorable_of_text? hr.payload hs⟩
  · obtain ⟨x, -, rfl⟩ := Option.map_eq_some_iff.mp (Option.some.inj htake)
    exact ⟨h.sessionId, h.message⟩
  · cases htake

/-- A request that has been read can be written. -/
theorem isStorable_of_decode? {bs : List UInt8} {m : Request} (h : decode? bs = some m) :
    m.IsStorable :=
  decodeAll_induct (fun _ _ _ => IsStorable.take) ⟨isStorable_empty, isStorable_empty⟩ h

/-- A request is as long as is reckoned. -/
theorem length_encode (m : Request) : m.encode.length = m.encodedSize := by
  simp only [encode, records, encodedSize, encodeRecords_append, List.length_append,
    length_textRecord, length_singleRecord, Nat.reduceLT]

end Request

namespace Response

/-- All texts have a length that can be written. -/
structure IsStorable (m : Response) : Prop where
  chunk : Wire.IsStorable m.chunk
  error : Wire.IsStorable m.error

/-- The records of a response make it up. -/
theorem run_records (m : Response) : Reading.run take ⟨{}, []⟩ m.records = some ⟨m, []⟩ := by
  have hchunk : Reading.run take ⟨{}, []⟩ (textRecord 1 m.chunk) =
      some ⟨{ chunk := m.chunk }, []⟩ :=
    Reading.run_ite (by simp +contextual) (by simp [take])
  have hfinished : Reading.run take ⟨{ chunk := m.chunk }, []⟩ (boolRecord 2 m.isFinished) =
      some ⟨{ chunk := m.chunk, isFinished := m.isFinished }, []⟩ :=
    boolRecord_eq 2 m.isFinished ▸
      Reading.run_ite (by simp +contextual) (by simp +contextual [take, bool?])
  have herror : Reading.run take ⟨{ chunk := m.chunk, isFinished := m.isFinished }, []⟩
      (textRecord 3 m.error) = some ⟨{ m with generatedTokens := 0 }, []⟩ :=
    Reading.run_ite (by simp +contextual) (by simp [take])
  have hcount : Reading.run take ⟨{ m with generatedTokens := 0 }, []⟩
      (int32Record 4 m.generatedTokens) = some ⟨m, []⟩ :=
    Reading.run_ite (fun h => by rw [← beq_iff_eq.mp h]) (by simp [take])
  simp only [records, Reading.run_append, hchunk, hfinished, herror, hcount, Option.bind_some]

theorem isWritable_of_mem_records {m : Response} (h : m.IsStorable) :
    ∀ r ∈ m.records, r.IsWritable := by
  simp only [records, List.forall_mem_append]
  exact ⟨⟨⟨isWritable_textRecord (by decide) h.chunk, isWritable_boolRecord (by decide) _⟩,
    isWritable_textRecord (by decide) h.error⟩, isWritable_int32Record (by decide) _⟩

/-- A response is read back from its bytes. -/
theorem decode?_encode {m : Response} (h : m.IsStorable) : decode? m.encode = some m :=
  decodeAll_bind_ofRecords? (isWritable_of_mem_records h) m.run_records

/-- Taking a record that can be written leaves texts that can be written. -/
theorem IsStorable.take {m m' : Response} {r : Record} (h : m.IsStorable) (hr : r.IsWritable)
    (htake : Response.take m r = some (some m')) : m'.IsStorable := by
  unfold Response.take at htake
  split at htake
  · obtain ⟨s, hs, rfl⟩ := Option.map_eq_some_iff.mp (Option.some.inj htake)
    exact ⟨isStorable_of_text? hr.payload hs, h.error⟩
  · obtain ⟨b, -, rfl⟩ := Option.map_eq_some_iff.mp (Option.some.inj htake)
    exact ⟨h.chunk, h.error⟩
  · obtain ⟨s, hs, rfl⟩ := Option.map_eq_some_iff.mp (Option.some.inj htake)
    exact ⟨h.chunk, isStorable_of_text? hr.payload hs⟩
  · obtain ⟨n, -, rfl⟩ := Option.map_eq_some_iff.mp (Option.some.inj htake)
    exact ⟨h.chunk, h.error⟩
  · cases htake

/-- A response that has been read can be written. -/
theorem isStorable_of_decode? {bs : List UInt8} {m : Response} (h : decode? bs = some m) :
    m.IsStorable :=
  decodeAll_induct (fun _ _ _ => IsStorable.take) ⟨isStorable_empty, isStorable_empty⟩ h

/-- A response is as long as is reckoned. -/
theorem length_encode (m : Response) : m.encode.length = m.encodedSize := by
  simp only [encode, records, encodedSize, encodeRecords_append, List.length_append,
    length_textRecord, length_boolRecord, length_int32Record, Nat.reduceLT]

end Response

/-- Both messages arrive as they were sent, but for the sign of a zero, and are as long as is
reckoned; whatever has been read from bytes is read again from the bytes it is written with. -/
theorem messages_arrive :
    (∀ m : Request, m.IsStorable → Request.decode? m.encode = some m.plain) ∧
    (∀ m : Response, m.IsStorable → Response.decode? m.encode = some m) ∧
    (∀ m : Request, m.encodedSize = m.encode.length) ∧
    (∀ m : Response, m.encodedSize = m.encode.length) ∧
    (∀ (bs : List UInt8) (m : Request), Request.decode? bs = some m →
      Request.decode? m.encode = some m.plain) ∧
    ∀ (bs : List UInt8) (m : Response), Response.decode? bs = some m →
      Response.decode? m.encode = some m :=
  ⟨fun _ => Request.decode?_encode, fun _ => Response.decode?_encode,
    fun m => m.length_encode.symm, fun m => m.length_encode.symm,
    fun _ _ h => Request.decode?_encode (Request.isStorable_of_decode? h),
    fun _ _ h => Response.decode?_encode (Response.isStorable_of_decode? h)⟩

/-- A request with a temperature of zero with a sign, a response with a negative number, and bytes
that no writer writes: the key and the length of a text with more bytes than they take, and the
fields out of order. -/
theorem messages_arrive_from_padded :
    let request : Request := { sessionId := "a", temperature := Single.negZero }
    let response : Response := { chunk := "é", generatedTokens := -1 }
    let padded : List UInt8 := [0x1d, 0x00, 0x00, 0x00, 0x80, 0x8a, 0x00, 0x81, 0x00, 0x61]
    (Request.decode? request.encode = some { sessionId := "a" } ∧
      Response.decode? response.encode = some response) ∧
    (request.encodedSize = request.encode.length ∧
      response.encodedSize = response.encode.length) ∧
    Request.decode? padded = some request ∧
    Request.decode? request.encode = some request.plain ∧
    Response.decode? response.encode = some response := by
  intro request response padded
  have hpadded : Request.decode? padded = some request := by decide +kernel
  have hread : Response.decode? response.encode = some response := by decide +kernel
  obtain ⟨hrequest, hresponse, hsize, hsize', hagain, hagain'⟩ := messages_arrive
  exact ⟨⟨hrequest request ⟨by decide, by decide⟩, hresponse response ⟨by decide, by decide⟩⟩,
    ⟨hsize request, hsize' response⟩, hpadded, hagain padded request hpadded,
    hagain' response.encode response hread⟩

end StreamedInference
