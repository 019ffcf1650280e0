/-!
# Tables of characters

A property of characters that follows no short rule is given by a table: a row of bands, each of
which says one thing of all characters from a first to a last one. Bands do not overlap and stand
in the order of their characters; of the characters in none the table says nothing.

A table is written as words between blanks. A word begins with the number of a character, or with
those of the first and the last one with a dash between them, in hexadecimal digits; what the
table says of them follows.

## Main definitions

* `Band`, `CodeTable`: tables.
* `CodeTable.ofText`: the reader.
* `CodeTable.band?`, `CodeTable.get?`, `CodeTable.has`: what a table says of a character.
-/

namespace StreamedInference

/-- The characters from a first to a last one, by their numbers, and what is said of them. -/
structure Band (α : Type) where
  first : Nat
  last : Nat
  value : α

/-- Bands in the order of their characters. -/
abbrev CodeTable (α : Type) := Array (Band α)

namespace CodeTable

/-! ### Reading -/

/-- The value of a hexadecimal digit in capital letters. -/
def digit? (c : Char) : Option Nat :=
  if '0' ≤ c && c ≤ '9' then some (c.toNat - '0'.toNat)
  else if 'A' ≤ c && c ≤ 'F' then some (c.toNat - 'A'.toNat + 10)
  else none

/-- The number at the front of a text, counted on from `n`, and what follows it. -/
def takeNumber (n : Nat) : List Char → Nat × List Char
  | [] => (n, [])
  | c :: cs =>
    match digit? c with
    | some d => takeNumber (n * 16 + d) cs
    | none => (n, c :: cs)

/-- The numbers of a text with dots between them. -/
def numbers (n : Nat) : List Char → List Nat
  | [] => [n]
  | c :: cs =>
    match digit? c with
    | some d => numbers (n * 16 + d) cs
    | none => n :: numbers 0 cs

/-- The band that a word spells; `read` reads what follows the numbers. -/
def readBand {α : Type} (read : List Char → α) (word : List Char) : Band α :=
  match takeNumber 0 word with
  | (first, '-' :: rest) => let (last, rest) := takeNumber 0 rest; ⟨first, last, read rest⟩
  | (first, rest) => ⟨first, first, read rest⟩

/-- Words read so far, and the beginning of the next one, its last character first. -/
structure Words (α : Type) where
  bands : CodeTable α
  word : List Char

/-- A word is complete. -/
def Words.close {α : Type} (read : List Char → α) (w : Words α) : Words α :=
  if w.word.isEmpty then w else ⟨w.bands.push (readBand read w.word.reverse), []⟩

/-- Reads one character of a table. -/
def Words.step {α : Type} (read : List Char → α) (w : Words α) (c : Char) : Words α :=
  if c.isWhitespace then w.close read else { w with word := c :: w.word }

/-- The table that a text spells. -/
def ofText {α : Type} (read : List Char → α) (text : String) : CodeTable α :=
  ((text.toList.foldl (Words.step read) ⟨#[], []⟩).close read).bands

/-! ### Looking up -/

/-- The band with a character among those from place `low` up to `high`, halving their number
until it is found. -/
def search {α : Type} (t : CodeTable α) (n low high : Nat) : Option (Band α) :=
  if low < high then
    match t[(low + high) / 2]? with
    | none => none
    | some b =>
      if b.last < n then search t n ((low + high) / 2 + 1) high
      else if n < b.first then search t n low ((low + high) / 2)
      else some b
  else none
termination_by high - low
decreasing_by all_goals omega

/-- The band with a character. -/
def band? {α : Type} (t : CodeTable α) (c : Char) : Option (Band α) :=
  search t c.toNat 0 t.size

/-- What the table says of a character. -/
def get? {α : Type} (t : CodeTable α) (c : Char) : Option α :=
  (t.band? c).map Band.value

/-- The table has the character. -/
def has {α : Type} (t : CodeTable α) (c : Char) : Bool :=
  (t.band? c).isSome

end CodeTable

end StreamedInference
