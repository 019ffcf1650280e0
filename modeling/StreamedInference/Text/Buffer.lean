import StreamedInference.Text.Utf8

/-!
# Text from a stream of bytes

A generator hands over its output in pieces of bytes, and a character may be cut between two
pieces. A `TextBuffer` holds back the bytes of a character that is not whole yet. Bytes that no
further byte can turn into UTF-8 are given out at once, with replacement characters.

## Main definitions

* `TextBuffer.push`, `TextBuffer.finish`: a piece comes in, and the last bytes are given out.
-/

namespace StreamedInference

/-- Bytes received and not yet given out as text. -/
structure TextBuffer where
  held : List UInt8 := []
deriving DecidableEq, Repr

namespace TextBuffer

/-- The held bytes as text, however incomplete they are; nothing if no byte is held. -/
def finish (b : TextBuffer) : Option String × TextBuffer :=
  if b.held.isEmpty then (none, ⟨[]⟩)
  else (some (String.ofList (Utf8.lossy b.held)), ⟨[]⟩)

/-- Adds a piece and gives out the whole characters held so far, if there are any; what remains
is the beginning of a character. If the bytes after the whole characters begin no character,
everything held is given out. -/
def push (b : TextBuffer) (piece : List UInt8) : Option String × TextBuffer :=
  let held := b.held ++ piece
  let (chars, rest) := Utf8.span held
  match Utf8.scan rest with
  | .invalid _ => finish ⟨held⟩
  | _ =>
    if chars.isEmpty then (none, ⟨held⟩)
    else (some (String.ofList chars), ⟨rest⟩)

/-- The texts given out for a sequence of pieces, and the bytes still held after them. -/
def pushAll (b : TextBuffer) : List (List UInt8) → List String × TextBuffer
  | [] => ([], b)
  | piece :: pieces =>
    let (text, b) := b.push piece
    let (texts, b) := b.pushAll pieces
    (text.toList ++ texts, b)

end TextBuffer

end StreamedInference
