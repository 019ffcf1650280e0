import StreamedInference.Proofs.Wire.Record

/-!
# The grammar of records

Which bytes spell which numbers, payloads and records, without a word on how they are read. A number
may be spelt by more bytes than it takes, up to ten; a payload follows its key, and one of bytes
stands behind its length. What is read at the front of a row of bytes is what the bytes in front
spell, whatever follows them.

## Main definitions

* `Varint.IsSpeltBy`, `Payload.IsSpeltBy`, `Record.IsSpeltBy`: the bytes of a number, of a payload
  and of a record.
* `Record.AreSpeltBy`: the bytes of records in a row.

## Main results

* `Varint.decode_eq_some_iff`, `Payload.decode_eq_some_iff`, `Record.decode_eq_some_iff`: what is
  read in front.
* `Record.decodeAll_eq_some_iff`: the records of a row of bytes.
-/

namespace StreamedInference

/-! ### Numbers -/

namespace Varint

variable {room n : ℕ} {bs cs rest : List UInt8}

/-- Bytes with seven bits of a number each, the least significant first. All bytes but the last have
their top bit set. -/
inductive Carry : List UInt8 → ℕ → Prop
  | last {b : UInt8} (hb : b < 128) : Carry [b] b.toNat
  | more {b : UInt8} {bs : List UInt8} {n : ℕ} (hb : ¬b < 128) (h : Carry bs n) :
      Carry (b :: bs) (b.toNat - 128 + n * 128)

/-- A number of 64 bits is spelt by ten bytes at most. -/
structure IsSpeltBy (n : ℕ) (bs : List UInt8) : Prop where
  carry : Carry bs n
  length_le : bs.length ≤ 10
  lt : n < 2 ^ 64

theorem Carry.length_pos (h : Carry bs n) : 0 < bs.length := by
  cases h <;> simp

/-- Behind seven bits there is room for seven bits less. -/
theorem add_mul_lt_iff {b : UInt8} {k : ℕ} :
    b.toNat - 128 + k * 128 < 2 ^ (7 * (room + 1) + 1) ↔ k < 2 ^ (7 * room + 1) := by
  have hb := b.toNat_lt
  have hpow : 2 ^ (7 * (room + 1) + 1) = 128 * 2 ^ (7 * room + 1) := by
    rw [show 7 * (room + 1) + 1 = 7 + (7 * room + 1) by omega, Nat.pow_add]
  omega

theorem toNat_lt_pow (b : UInt8) : b.toNat < 2 ^ (7 * (room + 1) + 1) := by
  have hpow : 2 ^ 8 ≤ 2 ^ (7 * (room + 1) + 1) := Nat.pow_le_pow_right (by omega) (by omega)
  exact Nat.lt_of_lt_of_le b.toNat_lt hpow

theorem read_append (h : Carry cs n) (hlength : cs.length ≤ room + 1)
    (hlt : n < 2 ^ (7 * room + 1)) : read room (cs ++ rest) = some (n, rest) := by
  induction h generalizing room with
  | @last b hb =>
    cases room with
    | zero =>
      have hsmall : b < 2 := UInt8.lt_iff_toNat_lt.2 (by simpa using hlt)
      simp [read, hsmall]
    | succ room => simp [read, hb]
  | @more b bs k hb h ih =>
    have hpos := h.length_pos
    rw [List.length_cons] at hlength
    cases room with
    | zero => omega
    | succ room =>
      rw [List.cons_append, read, if_neg hb, ih (by omega) (add_mul_lt_iff.1 hlt), Option.map_some]

theorem exists_carry_of_read (h : read room bs = some (n, rest)) :
    ∃ cs, bs = cs ++ rest ∧ Carry cs n ∧ cs.length ≤ room + 1 ∧ n < 2 ^ (7 * room + 1) := by
  induction room generalizing bs n with
  | zero =>
    cases bs with
    | nil => cases h
    | cons b bs =>
      simp only [read, Option.ite_none_right_eq_some, Option.some.injEq, Prod.mk.injEq] at h
      obtain ⟨hb, rfl, rfl⟩ := h
      have hsmall : b.toNat < 2 := UInt8.lt_iff_toNat_lt.1 hb
      have hlast : b < 128 := UInt8.lt_iff_toNat_lt.2 (Nat.lt_trans hsmall (by decide))
      exact ⟨[b], rfl, .last hlast, le_rfl, by simpa using hsmall⟩
  | succ room ih =>
    cases bs with
    | nil => cases h
    | cons b bs =>
      rw [read] at h
      split_ifs at h with hb
      · simp only [Option.some.injEq, Prod.mk.injEq] at h
        obtain ⟨rfl, rfl⟩ := h
        exact ⟨[b], rfl, .last hb, by simp, toNat_lt_pow b⟩
      · obtain ⟨⟨k, tail⟩, hk, heq⟩ := Option.map_eq_some_iff.1 h
        obtain ⟨rfl, rfl⟩ := Prod.mk.inj heq
        obtain ⟨cs, rfl, hcs, hlength, hlt⟩ := ih hk
        exact ⟨b :: cs, rfl, .more hb hcs, Nat.succ_le_succ hlength, add_mul_lt_iff.2 hlt⟩

/-- The number in front is what the bytes in front spell. -/
theorem decode_eq_some_iff {n : UInt64} :
    decode bs = some (n, rest) ↔ ∃ cs, bs = cs ++ rest ∧ IsSpeltBy n.toNat cs := by
  constructor
  · intro h
    obtain ⟨⟨k, tail⟩, hk, heq⟩ := Option.map_eq_some_iff.1 h
    obtain ⟨rfl, rfl⟩ := Prod.mk.inj heq
    obtain ⟨cs, rfl, hcs, hlength, hlt⟩ := exists_carry_of_read hk
    have hmod : (UInt64.ofNat k).toNat = k := UInt64.toNat_ofNat_of_lt' hlt
    exact ⟨cs, rfl, by rwa [hmod], hlength, by rwa [hmod]⟩
  · rintro ⟨cs, rfl, hcs, hlength, hlt⟩
    rw [decode, read_append hcs hlength hlt]
    exact congrArg (fun m => some (m, rest)) UInt64.ofNat_toNat

end Varint

/-! ### Payloads -/

namespace Payload

variable {form : ℕ} {bs rest : List UInt8} {p : Payload}

/-- The bytes of a payload behind its key. -/
inductive IsSpeltBy : Payload → List UInt8 → Prop
  | varint {n : UInt64} {cs : List UInt8} (h : Varint.IsSpeltBy n.toNat cs) :
      IsSpeltBy (.varint n) cs
  | fixed64 {bs : List UInt8} (h : bs.length = 8) : IsSpeltBy (.fixed64 bs) bs
  | bytes {cs bs : List UInt8} (h : Varint.IsSpeltBy bs.length cs) :
      IsSpeltBy (.bytes bs) (cs ++ bs)
  | groupStart : IsSpeltBy .groupStart []
  | groupEnd : IsSpeltBy .groupEnd []
  | fixed32 (a b c d : UInt8) :
      IsSpeltBy (.fixed32 (UInt32.ofLittleEndian a b c d)) [a, b, c, d]

/-- The payload in front is what the bytes in front spell. -/
theorem decode_eq_some_iff : decode form bs = some (p, rest) ↔
    ∃ cs, bs = cs ++ rest ∧ p.form = form ∧ p.IsSpeltBy cs := by
  constructor
  · intro h
    unfold decode at h
    split at h
    · obtain ⟨⟨n, tail⟩, hn, heq⟩ := Option.map_eq_some_iff.1 h
      obtain ⟨rfl, rfl⟩ := Prod.mk.inj heq
      obtain ⟨cs, rfl, hcs⟩ := Varint.decode_eq_some_iff.1 hn
      exact ⟨cs, rfl, rfl, .varint hcs⟩
    · split_ifs at h with hlength
      obtain ⟨rfl, rfl⟩ := Prod.mk.inj (Option.some.inj h)
      exact ⟨bs.take 8, (List.take_append_drop 8 bs).symm, rfl, .fixed64 (by simp; omega)⟩
    · obtain ⟨⟨n, tail⟩, hn, h⟩ := Option.bind_eq_some_iff.1 h
      dsimp only at h
      split_ifs at h with hlength
      obtain ⟨rfl, rfl⟩ := Prod.mk.inj (Option.some.inj h)
      obtain ⟨cs, rfl, hcs⟩ := Varint.decode_eq_some_iff.1 hn
      refine ⟨cs ++ tail.take n.toNat, by simp, rfl, .bytes ?_⟩
      rwa [List.length_take_of_le (Nat.not_lt.1 hlength)]
    · obtain ⟨rfl, rfl⟩ := Prod.mk.inj (Option.some.inj h)
      exact ⟨[], rfl, rfl, .groupStart⟩
    · obtain ⟨rfl, rfl⟩ := Prod.mk.inj (Option.some.inj h)
      exact ⟨[], rfl, rfl, .groupEnd⟩
    · split at h
      · next a b c d tail =>
        obtain ⟨rfl, rfl⟩ := Prod.mk.inj (Option.some.inj h)
        exact ⟨[a, b, c, d], rfl, rfl, .fixed32 a b c d⟩
      · cases h
    · cases h
  · rintro ⟨cs, rfl, rfl, h⟩
    cases h with
    | varint h => simp [decode, form, Varint.decode_eq_some_iff.2 ⟨_, rfl, h⟩]
    | fixed64 h => simp [decode, form, h, List.take_left' h, List.drop_left' h]
    | @bytes cs bs h =>
      have hmod : (UInt64.ofNat bs.length).toNat = bs.length := UInt64.toNat_ofNat_of_lt' h.lt
      have hread : Varint.decode (cs ++ (bs ++ rest)) =
          some (UInt64.ofNat bs.length, bs ++ rest) :=
        Varint.decode_eq_some_iff.2 ⟨cs, rfl, by rwa [hmod]⟩
      simp [decode, form, hread, hmod]
    | groupStart => rfl
    | groupEnd => rfl
    | fixed32 a b c d => rfl

end Payload

/-! ### Records -/

namespace Record

variable {r : Record} {rs ss : List Record} {bs cs rest : List UInt8}

/-- A record is spelt by its key, which has 32 bits at most and no field `0`, and by its payload. -/
inductive IsSpeltBy : Record → List UInt8 → Prop
  | mk {field : ℕ} {p : Payload} {key body : List UInt8} (hpos : 0 < field)
      (hlt : field < 2 ^ 29) (hkey : Varint.IsSpeltBy (field * 8 + p.form) key)
      (hbody : p.IsSpeltBy body) : IsSpeltBy ⟨field, p⟩ (key ++ body)

/-- The record in front is what the bytes in front spell. -/
theorem decode_eq_some_iff :
    decode bs = some (r, rest) ↔ ∃ cs, bs = cs ++ rest ∧ r.IsSpeltBy cs := by
  constructor
  · intro h
    obtain ⟨⟨key, tail⟩, hkey, h⟩ := Option.bind_eq_some_iff.1 h
    dsimp only at h
    split_ifs at h with hrange
    simp only [Bool.or_eq_true, decide_eq_true_eq, beq_iff_eq, not_or, not_lt] at hrange
    obtain ⟨⟨p, last⟩, hp, heq⟩ := Option.map_eq_some_iff.1 h
    obtain ⟨rfl, rfl⟩ := Prod.mk.inj heq
    obtain ⟨cs, rfl, hcs⟩ := Varint.decode_eq_some_iff.1 hkey
    obtain ⟨ds, rfl, hform, hds⟩ := Payload.decode_eq_some_iff.1 hp
    refine ⟨cs ++ ds, by simp, .mk (Nat.pos_of_ne_zero hrange.2) (by omega) ?_ hds⟩
    rwa [hform, Nat.div_add_mod']
  · rintro ⟨cs, rfl, @⟨field, p, key, body, hpos, hlt, hkey, hbody⟩⟩
    have hform := p.form_lt
    have hmod : (UInt64.ofNat (field * 8 + p.form)).toNat = field * 8 + p.form :=
      UInt64.toNat_ofNat_of_lt' hkey.lt
    have hread : Varint.decode (key ++ (body ++ rest)) =
        some (UInt64.ofNat (field * 8 + p.form), body ++ rest) :=
      Varint.decode_eq_some_iff.2 ⟨key, rfl, by rwa [hmod]⟩
    have hfield : (field * 8 + p.form) / 8 = field := by omega
    have hrest : (field * 8 + p.form) % 8 = p.form := by omega
    have hrange : ¬(4294967295 < field * 8 + p.form ∨ field = 0) := by omega
    have hpayload : Payload.decode p.form (body ++ rest) = some (p, rest) :=
      Payload.decode_eq_some_iff.2 ⟨body, rfl, rfl, hbody⟩
    simp only [decode, List.append_assoc, hread, Option.bind_some, hmod, hfield, hrest, hpayload]
    simpa using hrange

/-- Records one behind the other. -/
inductive AreSpeltBy : List Record → List UInt8 → Prop
  | nil : AreSpeltBy [] []
  | cons {r : Record} {rs : List Record} {cs bs : List UInt8} (h : r.IsSpeltBy cs)
      (hs : AreSpeltBy rs bs) : AreSpeltBy (r :: rs) (cs ++ bs)

theorem AreSpeltBy.append (h : AreSpeltBy rs bs) (h' : AreSpeltBy ss cs) :
    AreSpeltBy (rs ++ ss) (bs ++ cs) := by
  induction h with
  | nil => exact h'
  | cons h _ ih => simpa using AreSpeltBy.cons h ih

/-- The records of a row of bytes are those that it spells. -/
theorem decodeAll_eq_some_iff : decodeAll bs = some rs ↔ AreSpeltBy rs bs := by
  constructor
  · intro h
    fun_induction decodeAll bs generalizing rs with
    | case1 bs hbs =>
      obtain rfl := Option.some.inj h
      obtain rfl := List.isEmpty_iff.1 hbs
      exact .nil
    | case2 => cases h
    | case3 bs _ r rest hr ih =>
      obtain ⟨rs, hrs, rfl⟩ := Option.map_eq_some_iff.1 h
      obtain ⟨cs, rfl, hcs⟩ := decode_eq_some_iff.1 hr
      exact .cons hcs (ih hrs)
  · intro h
    induction h with
    | nil => rw [decodeAll]; rfl
    | cons h hs ih => rw [decodeAll_of_decode (decode_eq_some_iff.2 ⟨_, rfl, h⟩), ih]; rfl

/-- Behind records that are read as a whole the others are read as they are. -/
theorem AreSpeltBy.decodeAll_append (h : AreSpeltBy rs bs) (cs : List UInt8) :
    decodeAll (bs ++ cs) = (decodeAll cs).map (rs ++ ·) := by
  induction h with
  | nil => simp
  | cons h hs ih =>
    rw [List.append_assoc, decodeAll_of_decode (decode_eq_some_iff.2 ⟨_, rfl, h⟩), ih,
      Option.map_map]
    rfl

end Record

end StreamedInference
