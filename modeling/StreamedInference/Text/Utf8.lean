/-!
# UTF-8

Characters as sequences of bytes, and the three ways to read bytes back: strictly
(`Utf8.decode?`), with replacement characters for what is not UTF-8 (`Utf8.lossy`), and one
character at a time (`Utf8.scan`), which tells a sequence that is merely cut short from one
that no further byte can mend.
-/

namespace StreamedInference.Utf8

/-- The bytes of a text. -/
def encode (cs : List Char) : List UInt8 :=
  cs.flatMap String.utf8EncodeChar

/-- The bytes of a string. -/
def bytes (s : String) : List UInt8 :=
  encode s.toList

/-- The replacement character, which stands for bytes that are not UTF-8. -/
def replacement : Char := '\ufffd'

/-- A continuation byte. -/
def isTail (b : UInt8) : Bool :=
  0x80 ≤ b && b ≤ 0xbf

/-- What a leading byte above the ASCII range promises: how many bytes follow it, and the
least and the greatest value that the first of them may have. -/
structure Lead where
  following : Nat
  least : UInt8
  greatest : UInt8
deriving DecidableEq, Repr

/-- The leading bytes of UTF-8; the bounds exclude overlong forms, surrogates and values beyond
the last character. -/
def lead? (b : UInt8) : Option Lead :=
  if 0xc2 ≤ b && b ≤ 0xdf then some ⟨1, 0x80, 0xbf⟩
  else if b == 0xe0 then some ⟨2, 0xa0, 0xbf⟩
  else if b == 0xed then some ⟨2, 0x80, 0x9f⟩
  else if 0xe1 ≤ b && b ≤ 0xef then some ⟨2, 0x80, 0xbf⟩
  else if b == 0xf0 then some ⟨3, 0x90, 0xbf⟩
  else if 0xf1 ≤ b && b ≤ 0xf3 then some ⟨3, 0x80, 0xbf⟩
  else if b == 0xf4 then some ⟨3, 0x80, 0x8f⟩
  else none

/-- The payload bits of a continuation byte. -/
def tailBits (b : UInt8) : Nat :=
  b.toNat % 64

/-- What stands at the front of a sequence of bytes. -/
inductive Scan where
  /-- Nothing. -/
  | empty
  /-- A whole character, and the bytes after it. -/
  | char (c : Char) (rest : List UInt8)
  /-- A proper beginning of a character, and no further byte. -/
  | cut
  /-- Bytes that begin no character, and the bytes after the longest sequence of them that
  began like one. -/
  | invalid (rest : List UInt8)
deriving DecidableEq, Repr

/-- Reads the front of a sequence of bytes. -/
def scan : List UInt8 → Scan
  | [] => .empty
  | a :: r =>
    if a < 0x80 then .char (Char.ofNat a.toNat) r
    else
      match lead? a with
      | none => .invalid r
      | some l =>
        match r with
        | [] => .cut
        | b :: r₁ =>
          if !(l.least ≤ b && b ≤ l.greatest) then .invalid (b :: r₁)
          else if l.following == 1 then
            .char (Char.ofNat (a.toNat % 32 * 64 + tailBits b)) r₁
          else
            match r₁ with
            | [] => .cut
            | c :: r₂ =>
              if !isTail c then .invalid (c :: r₂)
              else if l.following == 2 then
                .char (Char.ofNat (a.toNat % 16 * 4096 + tailBits b * 64 + tailBits c)) r₂
              else
                match r₂ with
                | [] => .cut
                | d :: r₃ =>
                  if !isTail d then .invalid (d :: r₃)
                  else
                    .char (Char.ofNat (a.toNat % 8 * 262144 + tailBits b * 4096 +
                      tailBits c * 64 + tailBits d)) r₃

theorem length_lt_of_scan_eq_char {bs : List UInt8} {c : Char} {rest : List UInt8}
    (h : scan bs = .char c rest) : rest.length < bs.length := by
  unfold scan at h
  repeat' split at h
  all_goals first
    | (simp only [Scan.char.injEq] at h; obtain ⟨-, rfl⟩ := h; simp; try omega)
    | simp at h

theorem length_lt_of_scan_eq_invalid {bs rest : List UInt8}
    (h : scan bs = .invalid rest) : rest.length < bs.length := by
  unfold scan at h
  repeat' split at h
  all_goals first
    | (simp only [Scan.invalid.injEq] at h; subst h; simp; try omega)
    | simp at h

/-- Reads bytes that are UTF-8 throughout. -/
def decode? (bs : List UInt8) : Option (List Char) :=
  match _h : scan bs with
  | .empty => some []
  | .char c rest => (decode? rest).map (c :: ·)
  | .cut => none
  | .invalid _ => none
termination_by bs.length
decreasing_by exact length_lt_of_scan_eq_char _h

/-- Reads any bytes: each longest sequence that began like a character without being one, and a
character cut short by the end, becomes one replacement character. -/
def lossy (bs : List UInt8) : List Char :=
  match _h : scan bs with
  | .empty => []
  | .char c rest => c :: lossy rest
  | .cut => [replacement]
  | .invalid rest => replacement :: lossy rest
termination_by bs.length
decreasing_by
  · exact length_lt_of_scan_eq_char _h
  · exact length_lt_of_scan_eq_invalid _h

/-- The whole characters at the front of a sequence of bytes, and the bytes from the first that
does not belong to one. -/
def span (bs : List UInt8) : List Char × List UInt8 :=
  match _h : scan bs with
  | .char c rest => ((c :: (span rest).1), (span rest).2)
  | _ => ([], bs)
termination_by bs.length
decreasing_by all_goals exact length_lt_of_scan_eq_char _h

/-- The string that bytes spell, if they are UTF-8. -/
def decodeString? (bs : List UInt8) : Option String :=
  (decode? bs).map String.ofList

end StreamedInference.Utf8
