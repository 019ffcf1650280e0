import StreamedInference.Net.DomainName.Direction
import StreamedInference.Net.DomainName.Joining
import StreamedInference.Net.DomainName.Mapping
import StreamedInference.Net.Punycode

/-!
# Domain names

A domain name may be typed in any script. Each of its labels is brought into the form in which
labels are compared, and if that has characters beyond the ASCII range it is encoded in ASCII
characters behind a mark. A label can also be given in its encoded form, which must then be the one
that it is brought into.

## Main definitions

* `DomainName.Label`: a label in both forms, with `DomainName.Label.ofChars?`.
* `DomainName.toAscii?`: a name in ASCII.
-/

namespace StreamedInference.DomainName

/-- What may not stand in a name. -/
def isForbidden (c : Char) : Bool :=
  c.toNat ≤ 0x20 || c.toNat == 0x7f || "#/:<>?@[\\]^|%".toList.contains c

/-- The mark of encoded labels. -/
def encodedMark : List Char := "xn--".toList

/-- The greatest length of a label that is to be encoded. -/
def greatestLabel : Nat := 1000

/-- The greatest length of an encoded label behind the mark. -/
def greatestEncodedLabel : Nat := 2000

/-- A label in the form in which it is read, and in ASCII. -/
structure Label where
  shown : List Char
  ascii : List Char

/-- A label made of characters in which names are kept obeys the rules for single labels. -/
def isProper (label : List Char) : Bool :=
  !label.any isForbidden && !label.head?.any isMark && joinersFit [] label &&
    (label.all (·.toNat < 0x80) || label.length ≤ greatestLabel)

/-- A label is in the form in which labels are compared. -/
def isNormal (label : List Char) : Bool :=
  label.all isKept && Composition.composed label == label

/-- The label that an encoded label stands for; `rest` is what stands behind the mark. -/
def Label.decode? (rest : List Char) : Option (List Char) :=
  if rest.isEmpty || rest.getLast? == some '-' || greatestEncodedLabel < rest.length ||
      rest.any (0x7f < ·.toNat) then none
  else
    (Punycode.decode? rest).filter fun label =>
      isNormal label && isProper label && !encodedMark.isPrefixOf label

/-- The label that a text spells whose characters are those in which names are kept. -/
def Label.ofChars? (label : List Char) : Option Label :=
  if encodedMark.isPrefixOf label then
    (Label.decode? (label.drop encodedMark.length)).map (⟨·, label⟩)
  else if isProper label then some ⟨label, Punycode.encodeLabel label⟩
  else none

/-- A name in ASCII, if it is the name of a domain. -/
def toAscii? (cs : List Char) : Option (List Char) := do
  let mapped ← cs.mapM mapped?
  let labels ← (Pieces.between '.' (Composition.composed mapped.flatten)).mapM Label.ofChars?
  if isDirected (labels.map Label.shown) then
    return ['.'].intercalate (labels.map Label.ascii)
  else none

end StreamedInference.DomainName
