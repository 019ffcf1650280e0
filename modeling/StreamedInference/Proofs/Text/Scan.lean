import Mathlib.Order.Basic
import StreamedInference.Proofs.Text.Utf8

/-!
# Beginnings of characters

Of what is read of some bytes, only the beginning of a character at their end is open to further
bytes; a character, and bytes that begin none, stay what they are. One more byte behind a beginning
is either refused, and then begins something new, or it is a continuation byte that brings the
character nearer to its end (`Utf8.Begins.step`). From this step follows what any number of further
bytes does, here and in reading with replacement characters, without a look at the ranges of bytes.

## Main definitions

* `Utf8.Begins`: the beginnings of characters.
* `Utf8.IsOpening`: bytes with which a text begins.
* `Utf8.unfinished`: the beginning of a character with which bytes end.

## Main results

* `Utf8.scan_append`: what is read of bytes with others behind them.
* `Utf8.isOpening_iff`: texts begin with whole characters and at most a beginning of one.
* `Utf8.lossy_append`: reading with replacement characters in two parts.
* `Utf8.Begins.lossy_append`: a character is lost if it is read in two parts.
-/

namespace StreamedInference.Utf8

/-! ### One more byte -/

/-- The beginnings of characters; one constructor for each number of bytes. -/
inductive Begins : List UInt8 → Prop
  | one {a : UInt8} {l : Lead} (hl : lead? a = some l) : Begins [a]
  | two {a b : UInt8} {l : Lead} (hl : lead? a = some l) (hb : l.least ≤ b ∧ b ≤ l.greatest)
      (hmore : l.following ≠ 1) : Begins [a, b]
  | three {a b c : UInt8} {l : Lead} (hl : lead? a = some l)
      (hb : l.least ≤ b ∧ b ≤ l.greatest) (hmore : l.following ≠ 1 ∧ l.following ≠ 2)
      (hc : isTail c = true) : Begins [a, b, c]

theorem not_lt_of_lead? {a : UInt8} {l : Lead} (h : lead? a = some l) : ¬ a < 0x80 := by
  rw [UInt8.lt_iff_toNat_lt]
  obtain ⟨ha, -, -⟩ | ⟨ha, -, -⟩ | ⟨ha, -, -⟩ := of_lead?_eq_some h <;> simp <;> omega

/-- Within its bounds, the byte behind a leading byte is a continuation byte. -/
theorem isTail_of_bounds {a b : UInt8} {l : Lead} (h : lead? a = some l)
    (hb : l.least ≤ b ∧ b ≤ l.greatest) : isTail b = true := by
  rw [isTail_iff]
  simp only [UInt8.le_iff_toNat_le] at hb
  obtain ⟨-, -, rfl⟩ | ⟨-, -, rfl⟩ | ⟨-, -, rfl⟩ := of_lead?_eq_some h
  · exact hb
  all_goals
    simp only [apply_ite UInt8.toNat, UInt8.reduceToNat] at hb
    split_ifs at hb <;> omega

theorem least_le_greatest {a : UInt8} {l : Lead} (h : lead? a = some l) :
    l.least ≤ l.greatest := by
  obtain ⟨-, -, rfl⟩ | ⟨-, -, rfl⟩ | ⟨-, -, rfl⟩ := of_lead?_eq_some h
  · decide
  all_goals
    simp only [UInt8.le_iff_toNat_le, apply_ite UInt8.toNat, UInt8.reduceToNat]
    split_ifs <;> omega

/-- A continuation byte begins nothing. -/
theorem scan_of_isTail {x : UInt8} (h : isTail x = true) (r : List UInt8) :
    scan (x :: r) = .invalid r := by
  rw [isTail_iff] at h
  have hascii : ¬ x.toNat < 0x80 := by omega
  have hlead : lead? x = none := by
    rw [lead?_eq]
    split_ifs <;> first | rfl | omega
  simp [scan, UInt8.lt_iff_toNat_lt, hascii, hlead]

namespace Begins

variable {t : List UInt8}

theorem scan_eq (h : Begins t) : scan t = .cut := by
  cases h with
  | one hl => simp [scan, not_lt_of_lead? hl, hl]
  | two hl hb hmore => simp [scan, not_lt_of_lead? hl, hl, hb, hmore]
  | three hl hb hmore hc => simp [scan, not_lt_of_lead? hl, hl, hb, hmore, hc]

theorem ne_nil (h : Begins t) : t ≠ [] := by
  cases h <;> simp

theorem length_le (h : Begins t) : t.length ≤ 3 := by
  cases h <;> simp

/-- **One more byte behind a beginning**: it is refused and stays to be read, or it is a
continuation byte behind which there is a beginning again, or the whole character. -/
theorem step (h : Begins t) (x : UInt8) :
    (∀ r, scan (t ++ x :: r) = .invalid (x :: r)) ∨
      isTail x = true ∧ (Begins (t ++ [x]) ∨ ∃ c, ∀ r, scan (t ++ x :: r) = .char c r) := by
  cases h with
  | @one a l hl =>
    have hascii := not_lt_of_lead? hl
    by_cases hx : l.least ≤ x ∧ x ≤ l.greatest
    · refine .inr ⟨isTail_of_bounds hl hx, ?_⟩
      by_cases hlast : l.following = 1
      · exact .inr ⟨Char.ofNat (a.toNat % 32 * 64 + tailBits x), fun r => by
          simp [scan, hascii, hl, hx, hlast]⟩
      · exact .inl (.two hl hx hlast)
    · exact .inl fun r => by simp [scan, hascii, hl, hx]
  | @two a b l hl hb hmore =>
    have hascii := not_lt_of_lead? hl
    by_cases hx : isTail x = true
    · refine .inr ⟨hx, ?_⟩
      by_cases hlast : l.following = 2
      · exact .inr ⟨Char.ofNat (a.toNat % 16 * 4096 + tailBits b * 64 + tailBits x), fun r => by
          simp [scan, hascii, hl, hb, hlast, hx]⟩
      · exact .inl (.three hl hb ⟨hmore, hlast⟩ hx)
    · exact .inl fun r => by simp [scan, hascii, hl, hb, hmore, hx]
  | @three a b c l hl hb hmore hc =>
    have hascii := not_lt_of_lead? hl
    by_cases hx : isTail x = true
    · refine .inr ⟨hx, .inr ⟨Char.ofNat (a.toNat % 8 * 262144 + tailBits b * 4096 +
        tailBits c * 64 + tailBits x), fun r => ?_⟩⟩
      simp [scan, hascii, hl, hb, hmore, hc, hx]
    · exact .inl fun r => by simp [scan, hascii, hl, hb, hmore, hc, hx]

/-- Some byte brings a beginning nearer to its end. -/
theorem exists_next (h : Begins t) :
    ∃ x, Begins (t ++ [x]) ∨ ∃ c, scan (t ++ [x]) = .char c [] := by
  have htail : isTail 0x80 = true := by decide
  cases h with
  | @one a l hl =>
    have hleast : l.least ≤ l.least ∧ l.least ≤ l.greatest :=
      ⟨UInt8.le_refl _, least_le_greatest hl⟩
    by_cases hlast : l.following = 1
    · exact ⟨l.least, .inr ⟨Char.ofNat (a.toNat % 32 * 64 + tailBits l.least), by
        simp [scan, not_lt_of_lead? hl, hl, hleast, hlast]⟩⟩
    · exact ⟨l.least, .inl (.two hl hleast hlast)⟩
  | @two a b l hl hb hmore =>
    by_cases hlast : l.following = 2
    · exact ⟨0x80, .inr ⟨Char.ofNat (a.toNat % 16 * 4096 + tailBits b * 64 + tailBits 0x80), by
        simp [scan, not_lt_of_lead? hl, hl, hb, hlast, htail]⟩⟩
    · exact ⟨0x80, .inl (.three hl hb ⟨hmore, hlast⟩ htail)⟩
  | @three a b c l hl hb hmore hc =>
    exact ⟨0x80, .inr ⟨Char.ofNat (a.toNat % 8 * 262144 + tailBits b * 4096 + tailBits c * 64 +
      tailBits 0x80), by simp [scan, not_lt_of_lead? hl, hl, hb, hmore, hc, htail]⟩⟩

/-- A beginning can be completed. -/
theorem exists_completion {t : List UInt8} (h : Begins t) : ∃ r c, scan (t ++ r) = .char c [] := by
  obtain ⟨x, hmore | ⟨c, hc⟩⟩ := h.exists_next
  · obtain ⟨r, c, hr⟩ := exists_completion hmore
    exact ⟨x :: r, c, by simpa using hr⟩
  · exact ⟨[x], c, hc⟩
termination_by 4 - t.length
decreasing_by
  have hlen := hmore.length_le
  simp at hlen ⊢
  omega

/-! ### Any number of further bytes -/

/-- Behind a beginning there is a beginning as long as all bytes are taken; what else is read does
not depend on what follows. -/
theorem scan_append (h : Begins t) (r : List UInt8) :
    Begins (t ++ r) ∨ (∃ c rest, ∀ more, scan (t ++ r ++ more) = .char c (rest ++ more)) ∨
      ∃ rest, ∀ more, scan (t ++ r ++ more) = .invalid (rest ++ more) := by
  induction r generalizing t with
  | nil => exact .inl (by simpa using h)
  | cons x r ih =>
    obtain hrefused | ⟨-, hmore | ⟨c, hc⟩⟩ := h.step x
    · exact .inr (.inr ⟨x :: r, fun more => by simpa using hrefused (r ++ more)⟩)
    · simpa using ih hmore
    · exact .inr (.inl ⟨c, r, fun more => by simpa using hc (r ++ more)⟩)

end Begins

/-- **What is read of bytes with others behind them**: only a beginning at their end is open to
them. -/
theorem scan_append (bs : List UInt8) :
    bs = [] ∨ Begins bs ∨ (∃ c rest, ∀ more, scan (bs ++ more) = .char c (rest ++ more)) ∨
      ∃ rest, ∀ more, scan (bs ++ more) = .invalid (rest ++ more) := by
  rcases bs with _ | ⟨a, r⟩
  · exact .inl rfl
  right
  by_cases hascii : a < 0x80
  · exact .inr (.inl ⟨Char.ofNat a.toNat, r, fun more => by simp [scan, hascii]⟩)
  cases hl : lead? a with
  | none => exact .inr (.inr ⟨r, fun more => by simp [scan, hascii, hl]⟩)
  | some l => exact (Begins.one hl).scan_append r

/-- Only a beginning is read as cut short. -/
theorem scan_eq_cut_iff {bs : List UInt8} : scan bs = .cut ↔ Begins bs := by
  refine ⟨fun h => ?_, Begins.scan_eq⟩
  obtain rfl | hbegins | ⟨c, rest, hc⟩ | ⟨rest, hrest⟩ := scan_append bs
  · cases h
  · exact hbegins
  · cases h.symm.trans (by simpa using hc [])
  · cases h.symm.trans (by simpa using hrest [])

/-- Bytes that begin no character begin none whatever follows them. -/
theorem scan_append_of_invalid {bs rest : List UInt8} (h : scan bs = .invalid rest)
    (more : List UInt8) : scan (bs ++ more) = .invalid (rest ++ more) := by
  obtain rfl | hbegins | ⟨c, rest', hc⟩ | ⟨rest', hrest⟩ := scan_append bs
  · cases h
  · cases h.symm.trans hbegins.scan_eq
  · cases h.symm.trans (by simpa using hc [])
  · have hself : scan bs = .invalid rest' := by simpa using hrest []
    obtain rfl := Scan.invalid.inj (h.symm.trans hself)
    exact hrest more

/-! ### Whole characters at the front -/

theorem encode_append (cs ds : List Char) : encode (cs ++ ds) = encode cs ++ encode ds := by
  simp [encode]

/-- The whole characters at the front, and what is left of the bytes. -/
theorem encode_span (bs : List UInt8) : encode (span bs).1 ++ (span bs).2 = bs := by
  fun_induction span bs with
  | case1 bs c rest h ih => rw [encode_cons, List.append_assoc, ih, eq_of_scan_eq_char h]
  | case2 => rfl

/-- No whole character is at the front of what is left. -/
theorem scan_span_ne_char (bs : List UInt8) (c : Char) (rest : List UInt8) :
    scan (span bs).2 ≠ .char c rest := by
  fun_induction span bs with
  | case1 bs d r h ih => exact ih
  | case2 bs h => exact h c rest

/-- What is left is nothing, a beginning, or something that begins no character. -/
theorem span_snd (bs : List UInt8) :
    (span bs).2 = [] ∨ Begins (span bs).2 ∨ ∃ rest, scan (span bs).2 = .invalid rest := by
  cases h : scan (span bs).2 with
  | empty => exact .inl (scan_eq_empty_iff.mp h)
  | char c rest => exact absurd h (scan_span_ne_char bs c rest)
  | cut => exact .inr (.inl (scan_eq_cut_iff.mp h))
  | invalid rest => exact .inr (.inr ⟨rest, rfl⟩)

/-- The whole characters at the front are the longest text whose bytes are there. -/
theorem isPrefix_span {cs : List Char} {bs : List UInt8} (h : encode cs <+: bs) :
    cs <+: (span bs).1 := by
  induction cs generalizing bs with
  | nil => exact List.nil_prefix
  | cons c cs ih =>
    obtain ⟨more, rfl⟩ := h
    have hscan : scan (encode (c :: cs) ++ more) = .char c (encode cs ++ more) := by simp
    rw [span]
    split
    · rename_i d rest hd
      obtain ⟨rfl, rfl⟩ := Scan.char.inj (hscan.symm.trans hd)
      exact List.cons_prefix_cons.mpr ⟨rfl, ih (List.prefix_append ..)⟩
    · rename_i hnone
      exact absurd hscan (hnone c _)

theorem decode?_encode_append (cs : List Char) (bs : List UInt8) :
    decode? (encode cs ++ bs) = (decode? bs).map (cs ++ ·) := by
  induction cs with
  | nil => simp
  | cons c cs ih =>
    rw [encode_cons, List.append_assoc, decode?, scan_encodeChar]
    simp only
    rw [ih]
    cases decode? bs <;> rfl

/-- Bytes are a text exactly if nothing is left behind the whole characters. -/
theorem isSome_decode?_iff (bs : List UInt8) : (decode? bs).isSome = true ↔ (span bs).2 = [] := by
  have hleft : decode? bs = (decode? (span bs).2).map ((span bs).1 ++ ·) := by
    rw [← decode?_encode_append, encode_span]
  rw [hleft, Option.isSome_map]
  obtain hnil | hbegins | ⟨rest, hrest⟩ := span_snd bs
  · simp [hnil, ← encode_nil]
  · rw [decode?]
    split <;> simp_all [hbegins.scan_eq, hbegins.ne_nil]
  · rw [decode?]
    split <;> simp_all [← scan_eq_empty_iff]

/-- Some text begins with these bytes. -/
def IsOpening (bs : List UInt8) : Prop :=
  ∃ s : String, bs <+: bytes s

/-- A text begins with bytes exactly if at most a beginning of a character is left behind the whole
ones. -/
theorem isOpening_iff {bs : List UInt8} :
    IsOpening bs ↔ ¬ ∃ rest, scan (span bs).2 = .invalid rest := by
  constructor
  · rintro ⟨s, more, hs⟩ ⟨rest, hrest⟩
    have hdecode : decode? (bs ++ more) = none := by
      rw [← encode_span bs, List.append_assoc, decode?_encode_append, decode?]
      split <;> simp_all [scan_append_of_invalid hrest more]
    rw [hs, bytes, decode?_encode] at hdecode
    cases hdecode
  · intro h
    obtain hnil | hbegins | hinvalid := span_snd bs
    · refine ⟨String.ofList (span bs).1, [], ?_⟩
      rw [bytes, String.toList_ofList, List.append_nil]
      simpa [hnil] using (encode_span bs).symm
    · obtain ⟨r, c, hc⟩ := hbegins.exists_completion
      refine ⟨String.ofList ((span bs).1 ++ [c]), r, ?_⟩
      rw [bytes, String.toList_ofList, encode_append, encode_cons, encode_nil,
        ← eq_of_scan_eq_char hc, ← List.append_assoc, encode_span]
    · exact absurd hinvalid h

/-- A text begins with what a character begins with. -/
theorem isOpening_of_scan_append {bs r : List UInt8} {c : Char} (h : scan (bs ++ r) = .char c []) :
    IsOpening bs := by
  refine ⟨String.ofList [c], r, ?_⟩
  rw [bytes, String.toList_ofList, encode_cons, encode_nil, ← eq_of_scan_eq_char h]

/-- No text begins with bytes that begin no character. -/
theorem not_isOpening_of_invalid {bs rest : List UInt8} (h : scan bs = .invalid rest) :
    ¬ IsOpening bs := by
  have hspan : span bs = ([], bs) := by
    rw [span]
    split <;> simp_all
  rw [isOpening_iff, hspan, not_not]
  exact ⟨rest, h⟩

theorem IsOpening.of_append {bs more : List UInt8} (h : IsOpening (bs ++ more)) : IsOpening bs :=
  let ⟨s, hs⟩ := h
  ⟨s, (List.prefix_append bs more).trans hs⟩

theorem span_encode_append (cs : List Char) (bs : List UInt8) :
    span (encode cs ++ bs) = (cs ++ (span bs).1, (span bs).2) := by
  induction cs with
  | nil => rfl
  | cons c cs ih =>
    rw [encode_cons, List.append_assoc, span]
    split <;> simp_all

/-- The whole characters that are left may be read later. -/
theorem span_append (bs more : List UInt8) :
    span (bs ++ more) =
      ((span bs).1 ++ (span ((span bs).2 ++ more)).1, (span ((span bs).2 ++ more)).2) := by
  rw [← span_encode_append, ← List.append_assoc, encode_span]

/-- No character is read twice. -/
theorem span_span_snd (bs : List UInt8) : span (span bs).2 = ([], (span bs).2) := by
  rw [span]
  split
  · rename_i c rest h
    exact absurd h (scan_span_ne_char bs c rest)
  · rfl

/-! ### Reading with replacement characters -/

@[simp] theorem lossy_nil : lossy [] = [] := by
  rw [lossy]
  rfl

theorem lossy_of_char {bs rest : List UInt8} {c : Char} (h : scan bs = .char c rest) :
    lossy bs = c :: lossy rest := by
  rw [lossy]
  split <;> simp_all

theorem lossy_of_invalid {bs rest : List UInt8} (h : scan bs = .invalid rest) :
    lossy bs = replacement :: lossy rest := by
  rw [lossy]
  split <;> simp_all

theorem Begins.lossy_eq {t : List UInt8} (h : Begins t) : lossy t = [replacement] := by
  rw [lossy]
  split <;> simp_all [h.scan_eq]

/-- Whole characters are read as they are. -/
theorem lossy_encode_append (cs : List Char) (bs : List UInt8) :
    lossy (encode cs ++ bs) = cs ++ lossy bs := by
  induction cs with
  | nil => rfl
  | cons c cs ih =>
    rw [encode_cons, List.append_assoc, lossy_of_char (scan_encodeChar c _), ih, List.cons_append]

/-- Each continuation byte that stands alone is replaced. -/
theorem lossy_append_of_isTail {xs : List UInt8} (h : ∀ x ∈ xs, isTail x = true)
    (bs : List UInt8) : lossy (xs ++ bs) = List.replicate xs.length replacement ++ lossy bs := by
  induction xs with
  | nil => rfl
  | cons x xs ih =>
    have htail := scan_of_isTail (h x List.mem_cons_self) (xs ++ bs)
    rw [List.cons_append, lossy_of_invalid htail, ih fun y hy => h y (List.mem_cons_of_mem x hy)]
    rfl

theorem lossy_ne_nil {bs : List UInt8} (h : bs ≠ []) : lossy bs ≠ [] := by
  rw [lossy]
  split <;> simp_all [scan_eq_empty_iff]

/-- The beginning of a character with which bytes end, or nothing. -/
def unfinished (bs : List UInt8) : List UInt8 :=
  match _h : scan bs with
  | .empty => []
  | .char _ rest => unfinished rest
  | .cut => bs
  | .invalid rest => unfinished rest
termination_by bs.length
decreasing_by
  · exact length_lt_of_scan_eq_char _h
  · exact length_lt_of_scan_eq_invalid _h

theorem unfinished_eq_nil_or (bs : List UInt8) : unfinished bs = [] ∨ Begins (unfinished bs) := by
  fun_induction unfinished bs with
  | case1 => exact .inl rfl
  | case2 bs c rest h ih => exact ih
  | case3 bs h => exact .inr (scan_eq_cut_iff.mp h)
  | case4 bs rest h ih => exact ih

/-- **Reading in two parts**: only a beginning of a character at the end of the first part is read
anew. -/
theorem lossy_append (bs : List UInt8) :
    ∃ front, ∀ more, lossy (bs ++ more) = front ++ lossy (unfinished bs ++ more) := by
  fun_induction unfinished bs with
  | case1 bs h =>
    obtain rfl := scan_eq_empty_iff.mp h
    exact ⟨[], fun more => rfl⟩
  | case2 bs c rest h ih =>
    obtain ⟨front, hfront⟩ := ih
    refine ⟨c :: front, fun more => ?_⟩
    rw [eq_of_scan_eq_char h, List.append_assoc, lossy_of_char (scan_encodeChar c _), hfront,
      List.cons_append]
  | case3 bs h => exact ⟨[], fun more => rfl⟩
  | case4 bs rest h ih =>
    obtain ⟨front, hfront⟩ := ih
    refine ⟨replacement :: front, fun more => ?_⟩
    rw [lossy_of_invalid (scan_append_of_invalid h more), hfront, List.cons_append]

/-- The bytes go on with the character that begins with `t`. -/
def GoesOn (t bs : List UInt8) : Prop :=
  ∃ x rest, bs = x :: rest ∧ IsOpening (t ++ [x])

/-- **What is read of a beginning and the bytes behind it**: one character for the beginning and
the continuation bytes that it takes. It takes one exactly if they go on with the character. -/
theorem Begins.lossy_append {t : List UInt8} (h : Begins t) (bs : List UInt8) :
    ∃ c taken rest, bs = taken ++ rest ∧ (∀ x ∈ taken, isTail x = true) ∧
      lossy (t ++ bs) = c :: lossy rest ∧ (taken = [] → c = replacement) ∧
      (taken ≠ [] ↔ GoesOn t bs) := by
  induction bs generalizing t with
  | nil =>
    refine ⟨replacement, [], [], rfl, by simp, by simp [h.lossy_eq], fun _ => rfl, ?_⟩
    simp [GoesOn]
  | cons x r ih =>
    obtain hrefused | ⟨hx, hmore | ⟨c, hc⟩⟩ := h.step x
    · refine ⟨replacement, [], x :: r, rfl, by simp, lossy_of_invalid (hrefused r),
        fun _ => rfl, ?_⟩
      simpa [GoesOn] using not_isOpening_of_invalid (hrefused [])
    · obtain ⟨c, taken, rest, rfl, htaken, hlossy, -, -⟩ := ih hmore
      obtain ⟨r', d, hd⟩ := hmore.exists_completion
      refine ⟨c, x :: taken, rest, rfl, by simpa [hx] using htaken, by simpa using hlossy,
        by simp, ?_⟩
      simpa [GoesOn] using isOpening_of_scan_append hd
    · refine ⟨c, [x], r, rfl, by simpa using hx, lossy_of_char (hc r), by simp, ?_⟩
      have hopening : IsOpening (t ++ [x]) :=
        isOpening_of_scan_append (r := []) (by simpa using hc [])
      simpa [GoesOn] using hopening

/-- Unless the second part goes on with a character of the first, nothing is lost by reading in two
parts. -/
theorem lossy_append_of_not {bs more : List UInt8}
    (h : ¬ (Begins (unfinished bs) ∧ GoesOn (unfinished bs) more)) :
    lossy (bs ++ more) = lossy bs ++ lossy more := by
  obtain ⟨front, hfront⟩ := lossy_append bs
  have hself : lossy bs = front ++ lossy (unfinished bs) := by simpa using hfront []
  rw [hfront, hself, List.append_assoc]
  refine congrArg (front ++ ·) ?_
  obtain hnil | hbegins := unfinished_eq_nil_or bs
  · simp [hnil]
  · obtain ⟨c, taken, rest, rfl, -, hlossy, hreplaced, hgoes⟩ := hbegins.lossy_append more
    obtain rfl : taken = [] := by
      by_contra hne
      exact h ⟨hbegins, hgoes.mp hne⟩
    rw [hlossy, hreplaced rfl, hbegins.lossy_eq]
    rfl

/-- If the second part goes on with a character of the first, then reading in two parts gives more
characters. -/
theorem length_lossy_append_lt {bs more : List UInt8} (h : Begins (unfinished bs))
    (hgoes : GoesOn (unfinished bs) more) :
    (lossy (bs ++ more)).length < (lossy bs).length + (lossy more).length := by
  obtain ⟨front, hfront⟩ := lossy_append bs
  have hself : lossy bs = front ++ [replacement] := by simpa [h.lossy_eq] using hfront []
  obtain ⟨c, taken, rest, rfl, htaken, hlossy, -, htakes⟩ := h.lossy_append more
  have hpos : 0 < taken.length := List.length_pos_iff.mpr (htakes.mpr hgoes)
  rw [hfront, hself, hlossy, lossy_append_of_isTail htaken]
  simp only [List.length_append, List.length_cons, List.length_nil, List.length_replicate]
  omega

theorem length_lossy_append_le (bs more : List UInt8) :
    (lossy (bs ++ more)).length ≤ (lossy bs).length + (lossy more).length := by
  by_cases h : Begins (unfinished bs) ∧ GoesOn (unfinished bs) more
  · exact Nat.le_of_lt (length_lossy_append_lt h.1 h.2)
  · exact Nat.le_of_eq (by rw [lossy_append_of_not h, List.length_append])

end StreamedInference.Utf8
