import Mathlib.Data.List.Nodup
import StreamedInference.Proofs.Wire.Fields

/-!
# Messages one behind the other

The bytes of two messages, one behind the other, are a message again: each field has its value from
the second one if the second one contains the field, be it with the default, and else from the first
one. And a field of an unknown number may stand between any two fields, and changes nothing, as long
as groups are not nested too deep.

## Main definitions

* `Wire.SpellFields`, `Wire.SpellFront`: bytes that are whole fields, and bytes behind which groups
  are open.
* `Wire.Contains`: a message contains a field.
* `Wire.IsLatest`: the later of two values, if there is one.
* `Wire.MessageField`: a field by its number, its reader and its part of a message.

## Main results

* `Wire.exists_message_append`, `Wire.message_insert`: messages of any kind.
* `Wire.MessageField.isLawful_taker`, `Wire.MessageField.sets_taker`: messages with given fields,
  which those of both kinds are.
* `Wire.messages_merge`: both of it, for both of them.
-/

namespace StreamedInference

namespace Wire

/-- The bytes are whole fields with these numbers, with groups nested at most `room` deep. -/
def SpellFields (room : ℕ) (bs : List UInt8) (ns : List ℕ) : Prop :=
  ∃ rs, Record.AreSpeltBy rs bs ∧ AreFields room rs ns

/-- Behind the bytes groups with these numbers are open, the innermost first, and no field is left
unfinished. -/
def SpellFront (gs : List ℕ) (bs : List UInt8) : Prop :=
  ∃ rs, Record.AreSpeltBy rs bs ∧ IsFront gs rs

/-- A message contains a field with the number, outside of groups. -/
def Contains (bs : List UInt8) (n : ℕ) : Prop :=
  ∃ ns, SpellFields nestingLimit bs ns ∧ n ∈ ns

/-- The new value if there is one, or else the old one. -/
def IsLatest {β : Type} (isNew : Prop) (old new value : β) : Prop :=
  (isNew → value = new) ∧ (¬isNew → value = old)

/-! ### Messages of any kind -/

section Kinds

variable {α : Type} {take : Taker α} {empty m m' : α} {as bs cs fs : List UInt8}
variable {gs ns : List ℕ} {rs : List Record}

/-- The message that bytes spell. -/
theorem decodeAll_bind_eq_some_iff :
    (Record.decodeAll bs).bind (ofRecords? take empty) = some m ↔
      ∃ rs, Record.AreSpeltBy rs bs ∧ Reading.run take ⟨empty, []⟩ rs = some ⟨m, []⟩ := by
  simp only [Option.bind_eq_some_iff, Record.decodeAll_eq_some_iff, ofRecords?_eq_some_iff]

/-- Two messages one behind the other are one message, with the later value of each part. -/
theorem exists_message_append (hl : take.IsLawful)
    (ha : (Record.decodeAll as).bind (ofRecords? take empty) = some m)
    (hb : (Record.decodeAll bs).bind (ofRecords? take empty) = some m') :
    ∃ r, (Record.decodeAll (as ++ bs)).bind (ofRecords? take empty) = some r ∧
      ∀ {β : Type} {n : ℕ} {part : α → β}, take.Sets n part →
        IsLatest (Contains bs n) (part m) (part m') (part r) := by
  obtain ⟨rs, hrs, hm⟩ := decodeAll_bind_eq_some_iff.1 ha
  obtain ⟨ss, hss, hm'⟩ := decodeAll_bind_eq_some_iff.1 hb
  obtain ⟨ns, hns⟩ := exists_areFields_of_run hl hm'
  obtain ⟨r, hr, -⟩ := hns.exists_run hl le_rfl hm' m
  refine ⟨r, decodeAll_bind_eq_some_iff.2 ⟨rs ++ ss, hrs.append hss, ?_⟩, fun hset => ⟨?_, ?_⟩⟩
  · rw [Reading.run_append, hm, Option.bind_some, hr]
  · rintro ⟨ns', ⟨ss', hss', hfields⟩, hn⟩
    -- The bytes spell these records only.
    obtain rfl : ss' = ss := Option.some.inj
      ((Record.decodeAll_eq_some_iff.2 hss').symm.trans (Record.decodeAll_eq_some_iff.2 hss))
    obtain ⟨r', hr', hparts⟩ := hfields.exists_run hl le_rfl hm' m
    obtain rfl : r' = r := by simpa using hr'.symm.trans hr
    exact hparts hset hn
  · intro hn
    exact (hns.of_run hl le_rfl hr).2 hset fun hmem => hn ⟨ns, ⟨ss, hss, hns⟩, hmem⟩

/-- Unknown fields between two others change nothing. -/
theorem message_insert (hl : take.IsLawful) (has : SpellFront gs as)
    (hfs : SpellFields (nestingLimit - gs.length) fs ns) (hns : ∀ n ∈ ns, take.Ignores n) :
    (Record.decodeAll (as ++ fs ++ bs)).bind (ofRecords? take empty) =
      (Record.decodeAll (as ++ bs)).bind (ofRecords? take empty) := by
  obtain ⟨rs, hrs, hfront⟩ := has
  obtain ⟨inner, hinner, hfields⟩ := hfs
  rw [(hrs.append hinner).decodeAll_append, hrs.decodeAll_append]
  cases Record.decodeAll bs with
  | none => rfl
  | some ss => simp only [Option.map_some, Option.bind_some, ofRecords?,
      hfront.run_insert hl hfields hns]

end Kinds

/-! ### Messages by their fields -/

/-- A reader of payloads that reads no groups reads scalars. -/
theorem isScalar_of_read {β : Type} {read : Payload → Option β} {p : Payload} {x : β}
    (hgroup : read .groupStart = none ∧ read .groupEnd = none) (h : read p = some x) :
    p.IsScalar := by
  constructor
  · rintro rfl
    cases hgroup.1.symm.trans h
  · rintro rfl
    cases hgroup.2.symm.trans h

/-- A field of messages: how it is read, and the part of a message that it sets. -/
structure MessageField (α : Type) where
  number : ℕ
  Value : Type
  read : Payload → Option Value
  part : α → Value
  set : α → Value → α

namespace MessageField

variable {α : Type} {fields : List (MessageField α)} {f : MessageField α} {m m' : α}
variable {r : Record} {n : ℕ}

/-- Takes the records of some fields. -/
def taker (fields : List (MessageField α)) : Taker α := fun m r =>
  (fields.find? fun f => f.number == r.field).map fun f => (f.read r.payload).map (f.set m)

/-- Fields with different numbers and different parts, none of which is a group. -/
structure AreSeparate (fields : List (MessageField α)) : Prop where
  nodup : (fields.map number).Nodup
  read_group : ∀ f ∈ fields, f.read .groupStart = none ∧ f.read .groupEnd = none
  part_set : ∀ f ∈ fields, ∀ m x, f.part (f.set m x) = x
  part_set_of_ne : ∀ f ∈ fields, ∀ g ∈ fields, f.number ≠ g.number →
    ∀ m x, f.part (g.set m x) = f.part m

/-- A field with the same number is the same field. -/
theorem AreSeparate.eq_of_number {g : MessageField α} (h : AreSeparate fields) (hf : f ∈ fields)
    (hg : g ∈ fields) (heq : f.number = g.number) : f = g :=
  List.inj_on_of_nodup_map h.nodup hf hg heq

theorem AreSeparate.find?_eq_some_iff (h : AreSeparate fields) :
    fields.find? (fun f => f.number == n) = some f ↔ f ∈ fields ∧ f.number = n := by
  constructor
  · intro hfind
    exact ⟨List.mem_of_find?_eq_some hfind, by simpa using List.find?_some hfind⟩
  · rintro ⟨hf, rfl⟩
    have hsome : (fields.find? fun g => g.number == f.number).isSome :=
      List.find?_isSome.2 ⟨f, hf, beq_self_eq_true f.number⟩
    obtain ⟨g, hfind⟩ := Option.isSome_iff_exists.1 hsome
    have hnumber : g.number = f.number := by simpa using List.find?_some hfind
    rw [hfind, h.eq_of_number (List.mem_of_find?_eq_some hfind) hf hnumber]

theorem taker_eq_none_iff : taker fields m r = none ↔ r.field ∉ fields.map number := by
  simp [taker]

theorem taker_eq_some_iff (h : AreSeparate fields) : taker fields m r = some (some m') ↔
    ∃ f ∈ fields, f.number = r.field ∧ ∃ x, f.read r.payload = some x ∧ f.set m x = m' := by
  simp only [taker, Option.map_eq_some_iff, h.find?_eq_some_iff, and_assoc]

theorem isLawful_taker (h : AreSeparate fields) : (taker fields).IsLawful where
  isScalar htake := by
    obtain ⟨f, hf, -, x, hx, -⟩ := (taker_eq_some_iff h).1 htake
    exact isScalar_of_read (h.read_group f hf) hx
  eq_none htake _ := taker_eq_none_iff.2 (taker_eq_none_iff.1 htake)
  exists_some htake m₂ := by
    obtain ⟨f, hf, hnumber, x, hx, -⟩ := (taker_eq_some_iff h).1 htake
    exact ⟨f.set m₂ x, (taker_eq_some_iff h).2 ⟨f, hf, hnumber, x, hx, rfl⟩⟩

theorem ignores_taker (hn : n ∉ fields.map number) : (taker fields).Ignores n :=
  fun _ _ => taker_eq_none_iff.2 hn

/-- Each field sets its part. -/
theorem sets_taker (h : AreSeparate fields) (hf : f ∈ fields) :
    (taker fields).Sets f.number f.part where
  ne_none hr := by
    rw [Ne, taker_eq_none_iff, not_not, hr]
    exact List.mem_map_of_mem hf
  eq_of_field hr h₁ h₂ := by
    obtain ⟨g, hg, hnumber, x, hx, rfl⟩ := (taker_eq_some_iff h).1 h₁
    obtain rfl := h.eq_of_number hg hf (hnumber.trans hr)
    obtain ⟨g', hg', hnumber', y, hy, rfl⟩ := (taker_eq_some_iff h).1 h₂
    obtain rfl := h.eq_of_number hg' hg (hnumber'.trans hr)
    rw [h.part_set g' hg', h.part_set g' hg']
    exact Option.some.inj (hx.symm.trans hy)
  eq_of_ne hr htake := by
    obtain ⟨g, hg, hnumber, x, -, rfl⟩ := (taker_eq_some_iff h).1 htake
    exact h.part_set_of_ne f hf g hg (fun heq => hr (heq.trans hnumber).symm) _ x

end MessageField

end Wire

open Wire

namespace Request

/-- The fields of a request. -/
def fields : List (MessageField Request) :=
  [⟨1, String, text?, sessionId, fun m s => { m with sessionId := s }⟩,
    ⟨2, String, text?, message, fun m s => { m with message := s }⟩,
    ⟨3, Single, single?, temperature, fun m x => { m with temperature := x }⟩]

theorem take_eq : take = MessageField.taker fields := by
  funext m r
  obtain ⟨n, p⟩ := r
  rcases n with - | - | - | - | n <;> rfl

theorem areSeparate_fields : MessageField.AreSeparate fields where
  nodup := by decide
  read_group := by simp [fields, text?, single?]
  part_set := by simp [fields]
  part_set_of_ne := by simp [fields]

theorem isLawful_take : Taker.IsLawful take :=
  take_eq ▸ MessageField.isLawful_taker areSeparate_fields

theorem sets_take : ∀ f ∈ fields, Taker.Sets take f.number f.part :=
  fun _ hf => take_eq ▸ MessageField.sets_taker areSeparate_fields hf

theorem ignores_take {n : ℕ} (hn : n ∉ [1, 2, 3]) : Taker.Ignores take n := by
  rw [take_eq]
  exact MessageField.ignores_taker hn

end Request

namespace Response

/-- The fields of a response. -/
def fields : List (MessageField Response) :=
  [⟨1, String, text?, chunk, fun m s => { m with chunk := s }⟩,
    ⟨2, Bool, bool?, isFinished, fun m b => { m with isFinished := b }⟩,
    ⟨3, String, text?, error, fun m s => { m with error := s }⟩,
    ⟨4, Int32, int32?, generatedTokens, fun m k => { m with generatedTokens := k }⟩]

theorem take_eq : take = MessageField.taker fields := by
  funext m r
  obtain ⟨n, p⟩ := r
  rcases n with - | - | - | - | - | n <;> rfl

theorem areSeparate_fields : MessageField.AreSeparate fields where
  nodup := by decide
  read_group := by simp [fields, text?, bool?, int32?]
  part_set := by simp [fields]
  part_set_of_ne := by simp [fields]

theorem isLawful_take : Taker.IsLawful take :=
  take_eq ▸ MessageField.isLawful_taker areSeparate_fields

theorem sets_take : ∀ f ∈ fields, Taker.Sets take f.number f.part :=
  fun _ hf => take_eq ▸ MessageField.sets_taker areSeparate_fields hf

theorem ignores_take {n : ℕ} (hn : n ∉ [1, 2, 3, 4]) : Taker.Ignores take n := by
  rw [take_eq]
  exact MessageField.ignores_taker hn

end Response

namespace Wire

/-- **Messages merge, and unknown fields do not matter.**

* The bytes of two requests, one behind the other, are a request, and so are those of two responses
  a response. Each of its fields has its value from the later bytes if these contain the field, and
  from the earlier ones otherwise.
* Bytes that are a field of an unknown number may stand between two fields of a message, or of a
  group in it, if groups are nested at most a hundred deep in all: the message is the same with
  them as without. -/
theorem messages_merge :
    (∀ (as bs : List UInt8) (m m' : Request),
      Request.decode? as = some m → Request.decode? bs = some m' →
      ∃ r, Request.decode? (as ++ bs) = some r ∧
        IsLatest (Contains bs 1) m.sessionId m'.sessionId r.sessionId ∧
        IsLatest (Contains bs 2) m.message m'.message r.message ∧
        IsLatest (Contains bs 3) m.temperature m'.temperature r.temperature) ∧
    (∀ (as bs : List UInt8) (m m' : Response),
      Response.decode? as = some m → Response.decode? bs = some m' →
      ∃ r, Response.decode? (as ++ bs) = some r ∧
        IsLatest (Contains bs 1) m.chunk m'.chunk r.chunk ∧
        IsLatest (Contains bs 2) m.isFinished m'.isFinished r.isFinished ∧
        IsLatest (Contains bs 3) m.error m'.error r.error ∧
        IsLatest (Contains bs 4) m.generatedTokens m'.generatedTokens r.generatedTokens) ∧
    ∀ (gs : List ℕ) (as fs bs : List UInt8) (n : ℕ), SpellFront gs as →
      SpellFields (nestingLimit - gs.length) fs [n] →
      (n ∉ [1, 2, 3] → Request.decode? (as ++ fs ++ bs) = Request.decode? (as ++ bs)) ∧
      (n ∉ [1, 2, 3, 4] → Response.decode? (as ++ fs ++ bs) = Response.decode? (as ++ bs)) := by
  have hrequest := Request.sets_take
  have hresponse := Response.sets_take
  simp only [Request.fields, List.forall_mem_cons] at hrequest
  simp only [Response.fields, List.forall_mem_cons] at hresponse
  refine ⟨fun as bs m m' ha hb => ?_, fun as bs m m' ha hb => ?_, fun gs as fs bs n has hfs => ?_⟩
  · obtain ⟨hsessionId, hmessage, htemperature, -⟩ := hrequest
    obtain ⟨r, hr, hparts⟩ := exists_message_append Request.isLawful_take ha hb
    exact ⟨r, hr, hparts hsessionId, hparts hmessage, hparts htemperature⟩
  · obtain ⟨hchunk, hisFinished, herror, hgeneratedTokens, -⟩ := hresponse
    obtain ⟨r, hr, hparts⟩ := exists_message_append Response.isLawful_take ha hb
    exact ⟨r, hr, hparts hchunk, hparts hisFinished, hparts herror, hparts hgeneratedTokens⟩
  · constructor
    · intro hn
      exact message_insert Request.isLawful_take has hfs
        (List.forall_mem_singleton.2 (Request.ignores_take hn))
    · intro hn
      exact message_insert Response.isLawful_take has hfs
        (List.forall_mem_singleton.2 (Response.ignores_take hn))

/-- A greeting in two rows of bytes, the later one of which takes the session's name back; two
chunks of an answer; and an unknown field `5`, a group with a number in it, between the two rows. -/
theorem messages_merge_of_greeting :
    let as : List UInt8 := [0x0a, 1, 0x73, 0x12, 2, 0x68, 0x69]
    let bs : List UInt8 := [0x0a, 0]
    let fs : List UInt8 := [0x2b, 0x38, 1, 0x2c]
    let chunk := Response.partialChunk "a" 1
    Request.decode? as = some { sessionId := "s", message := "hi" } ∧
      (∃ r, Request.decode? (as ++ bs) = some r ∧ r.sessionId = "") ∧
      (∃ r, Response.decode? (chunk.encode ++ (Response.finished 2).encode) = some r ∧
        r.isFinished = true) ∧
      Request.decode? (as ++ fs ++ bs) = Request.decode? (as ++ bs) := by
  intro as bs fs chunk
  have hrequest : Request.decode? as = some { sessionId := "s", message := "hi" } := by
    decide +kernel
  have hblank : Contains bs 1 :=
    ⟨[1], ⟨[⟨1, .bytes []⟩], Record.decodeAll_eq_some_iff.1 (by decide +kernel),
      .single (by decide) .nil⟩, by decide⟩
  have hfinished : Contains (Response.finished 2).encode 2 :=
    ⟨[2, 4], ⟨[⟨2, .varint 1⟩, ⟨4, .varint 2⟩],
      Record.decodeAll_eq_some_iff.1 (by decide +kernel),
      .single (by decide) (.single (by decide) .nil)⟩, by decide⟩
  have hfront : SpellFront [] as :=
    ⟨[⟨1, .bytes [0x73]⟩, ⟨2, .bytes [0x68, 0x69]⟩],
      Record.decodeAll_eq_some_iff.1 (by decide +kernel),
      .fields (.single (by decide) (.single (by decide) .nil))⟩
  have hgroup : SpellFields nestingLimit fs [5] :=
    ⟨[⟨5, .groupStart⟩, ⟨7, .varint 1⟩, ⟨5, .groupEnd⟩],
      Record.decodeAll_eq_some_iff.1 (by decide +kernel),
      .group (.single (r := ⟨7, .varint 1⟩) (by decide) .nil) .nil⟩
  obtain ⟨hrequests, hresponses, hinsert⟩ := messages_merge
  obtain ⟨r, hr, hname, -⟩ := hrequests as bs _ {} hrequest (by decide +kernel)
  obtain ⟨r', hr', -, hend, -⟩ := hresponses chunk.encode (Response.finished 2).encode chunk
    (.finished 2) (by decide +kernel) (by decide +kernel)
  exact ⟨hrequest, ⟨r, hr, hname.1 hblank⟩, ⟨r', hr', hend.1 hfinished⟩,
    (hinsert [] as fs bs 5 hfront hgroup).1 (by decide)⟩

end Wire

end StreamedInference
