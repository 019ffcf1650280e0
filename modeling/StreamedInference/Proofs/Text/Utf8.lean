import Mathlib.Tactic.SplitIfs
import StreamedInference.Text.Utf8

/-!
# Bytes and the texts they spell

The bytes of a character are those that the scanner takes for it, no more and no fewer. Both
directions go through `Utf8.Spells`, which tells the bytes of a character by their ranges: the
bounds on the second byte are those that keep out overlong forms, surrogates and what lies beyond
the last character.

## Main definitions

* `Utf8.Spells`: the bytes that a number is spelt with.

## Main results

* `Utf8.scan_encodeChar`, `Utf8.eq_of_scan_eq_char`: reading a character, and what has been read.
* `Utf8.decode?_eq_some_iff`, `Utf8.decodeString?_eq_some_iff`: bytes spell a text exactly if they
  are its bytes.
-/

namespace StreamedInference.Utf8

/-- The bytes that a number is spelt with; one constructor for each number of bytes. -/
inductive Spells : List UInt8 → Nat → Prop
  | one {a : UInt8} {v : Nat} (ha : a.toNat < 0x80) (hv : v = a.toNat) : Spells [a] v
  | two {a b : UInt8} {v : Nat} (ha : 0xc2 ≤ a.toNat) (ha' : a.toNat ≤ 0xdf)
      (hb : 0x80 ≤ b.toNat) (hb' : b.toNat ≤ 0xbf)
      (hv : v = a.toNat % 32 * 64 + tailBits b) : Spells [a, b] v
  | three {a b c : UInt8} {v : Nat} (ha : 0xe0 ≤ a.toNat) (ha' : a.toNat ≤ 0xef)
      (hb : (if a.toNat = 0xe0 then 0xa0 else 0x80) ≤ b.toNat)
      (hb' : b.toNat ≤ if a.toNat = 0xed then 0x9f else 0xbf)
      (hc : 0x80 ≤ c.toNat) (hc' : c.toNat ≤ 0xbf)
      (hv : v = a.toNat % 16 * 4096 + tailBits b * 64 + tailBits c) : Spells [a, b, c] v
  | four {a b c d : UInt8} {v : Nat} (ha : 0xf0 ≤ a.toNat) (ha' : a.toNat ≤ 0xf4)
      (hb : (if a.toNat = 0xf0 then 0x90 else 0x80) ≤ b.toNat)
      (hb' : b.toNat ≤ if a.toNat = 0xf4 then 0x8f else 0xbf)
      (hc : 0x80 ≤ c.toNat) (hc' : c.toNat ≤ 0xbf) (hd : 0x80 ≤ d.toNat) (hd' : d.toNat ≤ 0xbf)
      (hv : v = a.toNat % 8 * 262144 + tailBits b * 4096 + tailBits c * 64 + tailBits d) :
      Spells [a, b, c, d] v

theorem isTail_iff {b : UInt8} : isTail b = true ↔ 0x80 ≤ b.toNat ∧ b.toNat ≤ 0xbf := by
  simp [isTail, UInt8.le_iff_toNat_le]

/-- The leading bytes by their values. -/
theorem lead?_eq (a : UInt8) : lead? a =
    if 0xc2 ≤ a.toNat ∧ a.toNat ≤ 0xdf then some ⟨1, 0x80, 0xbf⟩
    else if 0xe0 ≤ a.toNat ∧ a.toNat ≤ 0xef then
      some ⟨2, if a.toNat = 0xe0 then 0xa0 else 0x80, if a.toNat = 0xed then 0x9f else 0xbf⟩
    else if 0xf0 ≤ a.toNat ∧ a.toNat ≤ 0xf4 then
      some ⟨3, if a.toNat = 0xf0 then 0x90 else 0x80, if a.toNat = 0xf4 then 0x8f else 0xbf⟩
    else none := by
  simp only [lead?, UInt8.le_iff_toNat_le, ← UInt8.toNat_inj, beq_iff_eq, Bool.and_eq_true,
    decide_eq_true_eq, UInt8.reduceToNat]
  split_ifs <;> first | rfl | omega

theorem of_lead?_eq_some {a : UInt8} {l : Lead} (h : lead? a = some l) :
    (0xc2 ≤ a.toNat ∧ a.toNat ≤ 0xdf ∧ l = ⟨1, 0x80, 0xbf⟩) ∨
    (0xe0 ≤ a.toNat ∧ a.toNat ≤ 0xef ∧
      l = ⟨2, if a.toNat = 0xe0 then 0xa0 else 0x80, if a.toNat = 0xed then 0x9f else 0xbf⟩) ∨
    (0xf0 ≤ a.toNat ∧ a.toNat ≤ 0xf4 ∧
      l = ⟨3, if a.toNat = 0xf0 then 0x90 else 0x80, if a.toNat = 0xf4 then 0x8f else 0xbf⟩) := by
  rw [lead?_eq] at h
  split at h
  · simp_all
  split at h
  · simp_all
  split at h
  · simp_all
  · cases h

/-- The bytes of a number are read as one character, whatever follows them. -/
theorem Spells.scan {bs : List UInt8} {v : Nat} (h : Spells bs v) (rest : List UInt8) :
    scan (bs ++ rest) = .char (Char.ofNat v) rest := by
  cases h with
  | one ha hv => simp [Utf8.scan, UInt8.lt_iff_toNat_lt, ha, hv]
  | @two a b _ ha ha' hb hb' hv =>
    have hascii : ¬ a.toNat < 0x80 := by omega
    simp [Utf8.scan, lead?_eq, UInt8.lt_iff_toNat_lt, UInt8.le_iff_toNat_le, hascii, ha, ha', hb,
      hb', hv]
  | @three a b c _ ha ha' hb hb' hc hc' hv =>
    have hascii : ¬ a.toNat < 0x80 := by omega
    have htwo : ¬ a.toNat ≤ 0xdf := by omega
    have htail : isTail c = true := isTail_iff.mpr ⟨hc, hc'⟩
    simp [Utf8.scan, lead?_eq, UInt8.lt_iff_toNat_lt, UInt8.le_iff_toNat_le, hascii, htwo, ha, ha',
      apply_ite UInt8.toNat, hb, hb', htail, hv]
  | @four a b c d _ ha ha' hb hb' hc hc' hd hd' hv =>
    have hascii : ¬ a.toNat < 0x80 := by omega
    have htwo : ¬ a.toNat ≤ 0xdf := by omega
    have hthree : ¬ a.toNat ≤ 0xef := by omega
    have htail : isTail c = true := isTail_iff.mpr ⟨hc, hc'⟩
    have htail' : isTail d = true := isTail_iff.mpr ⟨hd, hd'⟩
    simp [Utf8.scan, lead?_eq, UInt8.lt_iff_toNat_lt, UInt8.le_iff_toNat_le, hascii, htwo, hthree,
      ha, ha', apply_ite UInt8.toNat, hb, hb', htail, htail', hv]

/-- The bytes of a character spell its number. -/
theorem spells_encodeChar (c : Char) : Spells (String.utf8EncodeChar c) c.toNat := by
  obtain ⟨v, hv⟩ : ∃ v, c.toNat = v := ⟨_, rfl⟩
  have hvalid : v < 0xd800 ∨ 0xdfff < v ∧ v < 0x110000 := hv ▸ c.valid
  have hval : c.val.toNat = v := hv
  simp only [String.utf8EncodeChar, hval, hv]
  split_ifs with h1 h2 h3
  · apply Spells.one <;> simp <;> omega
  · apply Spells.two <;> simp [tailBits] <;> omega
  · apply Spells.three <;> simp [tailBits] <;> (try split_ifs) <;> omega
  · apply Spells.four <;> simp [tailBits] <;> (try split_ifs) <;> omega

/-- Only the numbers of characters are spelt: neither a surrogate nor anything beyond the last
character. -/
theorem Spells.isValidChar {bs : List UInt8} {v : Nat} (h : Spells bs v) : v.isValidChar := by
  cases h with
  | one ha hv => exact .inl (by omega)
  | two ha ha' hb hb' hv => exact .inl (by simp only [tailBits] at hv; omega)
  | three ha ha' hb hb' hc hc' hv =>
    simp only [Nat.isValidChar, tailBits] at hv ⊢
    split_ifs at hb hb' <;> omega
  | four ha ha' hb hb' hc hc' hd hd' hv =>
    simp only [Nat.isValidChar, tailBits] at hv ⊢
    split_ifs at hb hb' <;> omega

/-- A number is spelt in one way only: by the bytes of its character. -/
theorem Spells.eq_encodeChar {bs : List UInt8} {v : Nat} (h : Spells bs v) :
    bs = String.utf8EncodeChar (Char.ofNat v) := by
  have hval : (Char.ofNat v).val.toNat = v := by
    rw [Char.ofNat, dif_pos h.isValidChar]
    rfl
  simp only [String.utf8EncodeChar, hval]
  cases h with
  | one ha hv =>
    rw [if_pos (by omega)]
    simp [hv]
  | two ha ha' hb hb' hv =>
    simp only [tailBits] at hv
    rw [if_neg (by omega), if_pos (by omega)]
    simp only [List.cons.injEq, and_true, ← UInt8.toNat_inj, UInt8.toNat_ofNat']
    omega
  | three ha ha' hb hb' hc hc' hv =>
    simp only [tailBits] at hv
    have hlow : 0x7ff < v := by split_ifs at hb hb' <;> omega
    rw [if_neg (by omega), if_neg (by omega), if_pos (by omega)]
    simp only [List.cons.injEq, and_true, ← UInt8.toNat_inj, UInt8.toNat_ofNat']
    split_ifs at hb hb' <;> omega
  | four ha ha' hb hb' hc hc' hd hd' hv =>
    simp only [tailBits] at hv
    have hlow : 0xffff < v := by split_ifs at hb hb' <;> omega
    rw [if_neg (by omega), if_neg (by omega), if_neg (by omega)]
    simp only [List.cons.injEq, and_true, ← UInt8.toNat_inj, UInt8.toNat_ofNat']
    split_ifs at hb hb' <;> omega

theorem ite_invalid_eq_char_iff {p : Prop} [Decidable p] {r rest : List UInt8} {x : Char}
    {s : Scan} : (if p then .invalid r else s) = .char x rest ↔ ¬p ∧ s = .char x rest := by
  split_ifs with h <;> simp [h]

/-- What was read as one character are bytes that spell it. -/
theorem exists_spells {bs rest : List UInt8} {x : Char} (h : Utf8.scan bs = .char x rest) :
    ∃ front v, Spells front v ∧ bs = front ++ rest ∧ x = Char.ofNat v := by
  unfold Utf8.scan at h
  simp only [UInt8.lt_iff_toNat_lt, UInt8.le_iff_toNat_le, Bool.not_eq_true', ← Bool.not_eq_true,
    isTail_iff, Bool.and_eq_true, decide_eq_true_eq] at h
  split at h
  · cases h
  rename_i a r
  split_ifs at h with hone
  · obtain ⟨rfl, rfl⟩ := Scan.char.inj h
    exact ⟨[a], _, .one hone rfl, rfl, rfl⟩
  split at h
  · cases h
  rename_i l hl
  -- the leading byte decides how many bytes there must be
  obtain ⟨ha, ha', rfl⟩ | ⟨ha, ha', rfl⟩ | ⟨ha, ha', rfl⟩ := of_lead?_eq_some hl
  · rcases r with _ | ⟨b, r⟩
    · cases h
    simp only [UInt8.reduceToNat, not_and, Nat.not_le, BEq.rfl, ↓reduceIte,
      ite_invalid_eq_char_iff, Classical.not_imp, Nat.not_lt, Scan.char.injEq] at h
    obtain ⟨⟨hb, hb'⟩, rfl, rfl⟩ := h
    exact ⟨[a, b], _, .two ha ha' hb hb' rfl, rfl, rfl⟩
  · rcases r with _ | ⟨b, _ | ⟨c, r⟩⟩
    · cases h
    · simp [ite_invalid_eq_char_iff] at h
    simp only [apply_ite UInt8.toNat, UInt8.reduceToNat, not_and, Nat.not_le, Nat.reduceBEq,
      Bool.false_eq_true, ↓reduceIte, BEq.rfl, ite_invalid_eq_char_iff, Classical.not_imp,
      Nat.not_lt, Scan.char.injEq] at h
    obtain ⟨⟨hb, hb'⟩, ⟨hc, hc'⟩, rfl, rfl⟩ := h
    exact ⟨[a, b, c], _, .three ha ha' hb hb' hc hc' rfl, rfl, rfl⟩
  · rcases r with _ | ⟨b, _ | ⟨c, _ | ⟨d, r⟩⟩⟩
    · cases h
    · simp [ite_invalid_eq_char_iff] at h
    · simp [ite_invalid_eq_char_iff] at h
    simp only [apply_ite UInt8.toNat, UInt8.reduceToNat, not_and, Nat.not_le, Nat.reduceBEq,
      Bool.false_eq_true, ↓reduceIte, ite_invalid_eq_char_iff, Classical.not_imp, Nat.not_lt,
      Scan.char.injEq] at h
    obtain ⟨⟨hb, hb'⟩, ⟨hc, hc'⟩, ⟨hd, hd'⟩, rfl, rfl⟩ := h
    exact ⟨[a, b, c, d], _, .four ha ha' hb hb' hc hc' hd hd' rfl, rfl, rfl⟩

/-- A character is read from its bytes, whatever follows them. -/
@[simp] theorem scan_encodeChar (c : Char) (rest : List UInt8) :
    scan (String.utf8EncodeChar c ++ rest) = .char c rest := by
  simpa using (spells_encodeChar c).scan rest

/-- What was read as one character were its bytes. -/
theorem eq_of_scan_eq_char {bs rest : List UInt8} {c : Char} (h : scan bs = .char c rest) :
    bs = String.utf8EncodeChar c ++ rest := by
  obtain ⟨front, v, hspells, rfl, rfl⟩ := exists_spells h
  rw [← hspells.eq_encodeChar]

@[simp] theorem encode_nil : encode [] = [] := rfl

@[simp] theorem encode_cons (c : Char) (cs : List Char) :
    encode (c :: cs) = String.utf8EncodeChar c ++ encode cs := rfl

/-- Only no bytes at all are read as nothing. -/
theorem scan_eq_empty_iff {bs : List UInt8} : scan bs = .empty ↔ bs = [] := by
  constructor
  · intro h
    cases bs with
    | nil => rfl
    | cons a r =>
      rw [scan] at h
      repeat' split at h
      all_goals cases h
  · rintro rfl
    rfl

/-- Characters are read back from their bytes. -/
@[simp] theorem decode?_encode (cs : List Char) : decode? (encode cs) = some cs := by
  induction cs with
  | nil => rw [decode?]; rfl
  | cons c cs ih =>
    rw [decode?]
    split <;> simp_all

/-- Bytes that were read are the bytes of what was read. -/
theorem encode_of_decode? {bs : List UInt8} {cs : List Char} (h : decode? bs = some cs) :
    encode cs = bs := by
  fun_induction decode? bs generalizing cs with
  | case1 bs hs =>
    obtain rfl := Option.some.inj h
    exact (scan_eq_empty_iff.mp hs).symm
  | case2 bs c rest hs ih =>
    obtain ⟨cs, hcs, rfl⟩ := Option.map_eq_some_iff.mp h
    rw [encode_cons, ih hcs, eq_of_scan_eq_char hs]
  | case3 => cases h
  | case4 => cases h

theorem decode?_eq_some_iff {bs : List UInt8} {cs : List Char} :
    decode? bs = some cs ↔ bs = encode cs := by
  refine ⟨fun h => (encode_of_decode? h).symm, ?_⟩
  rintro rfl
  exact decode?_encode cs

/-- Bytes spell a string exactly if they are its bytes. -/
theorem decodeString?_eq_some_iff {bs : List UInt8} {s : String} :
    decodeString? bs = some s ↔ bs = bytes s := by
  simp only [decodeString?, Option.map_eq_some_iff, decode?_eq_some_iff, bytes]
  constructor
  · rintro ⟨cs, rfl, rfl⟩
    simp
  · rintro rfl
    exact ⟨s.toList, rfl, String.ofList_toList⟩

@[simp] theorem decodeString?_bytes (s : String) : decodeString? (bytes s) = some s :=
  decodeString?_eq_some_iff.mpr rfl

/-- A text has as many bytes as its size says. -/
@[simp] theorem length_bytes (s : String) : (bytes s).length = s.utf8ByteSize := by
  rw [String.utf8ByteSize, ← String.utf8Encode_toList, List.utf8Encode, List.size_toByteArray]
  rfl

end StreamedInference.Utf8
