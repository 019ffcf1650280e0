import StreamedInference.Text.Pieces

/-!
# Punycode

A label of a domain name in ASCII letters and digits. The ASCII characters come first; each other
character follows as the distance from the one before it in the order of characters, in digits
whose weights adapt to the distances seen.

## Main definitions

* `Punycode.encodeLabel`: a label in its ASCII form.
* `Punycode.decode?`: the label that such a form stands for.
-/

namespace StreamedInference.Punycode

/-- A digit to the base 36: letters before numerals. -/
def digitChar (d : Nat) : Char :=
  if d < 26 then Char.ofNat ('a'.toNat + d) else Char.ofNat ('0'.toNat + d - 26)

/-- The threshold below which the digit at place `k` ends a number. -/
def threshold (k bias : Nat) : Nat :=
  if k ≤ bias then 1 else if bias + 26 ≤ k then 26 else k - bias

/-- The digits of a number from place `k` on, with room for `room` of them. -/
def digits (bias : Nat) : (room : Nat) → (k q : Nat) → List Char
  | 0, _, _ => []
  | room + 1, k, q =>
    let t := threshold k bias
    if q < t then [digitChar q]
    else digitChar (t + (q - t) % (36 - t)) :: digits bias room (k + 36) ((q - t) / (36 - t))

/-- Scales a distance down. -/
def scale : (room : Nat) → (k delta : Nat) → Nat
  | 0, k, _ => k
  | room + 1, k, delta =>
    if 455 < delta then scale room (k + 36) (delta / 35)
    else k + 36 * delta / (delta + 38)

/-- The weights after a distance. -/
def adapt (delta points : Nat) (first : Bool) : Nat :=
  let delta := if first then delta / 700 else delta / 2
  scale 64 0 (delta + delta / points)

/-- What an encoder keeps while it goes through a label. -/
structure Progress where
  delta : Nat
  bias : Nat
  handled : Nat
  out : List Char

/-- Goes through the label once for the character `m`. -/
def pass (basic m : Nat) (s : Progress) : List Char → Progress
  | [] => s
  | c :: cs =>
    if c.toNat < m then pass basic m { s with delta := s.delta + 1 } cs
    else if c.toNat == m then
      pass basic m
        { delta := 0
          bias := adapt s.delta (s.handled + 1) (s.handled == basic)
          handled := s.handled + 1
          out := s.out ++ digits s.bias 64 36 s.delta } cs
    else pass basic m s cs

/-- The characters of a label that are not ASCII, each once, in their order. -/
def others (cs : List Char) : List Nat :=
  ((cs.map Char.toNat).filter (128 ≤ ·)).eraseDups.mergeSort

/-- Encodes a label, one character value after the other. -/
def encodeFrom (cs : List Char) (basic : Nat) : (n : Nat) → Progress → List Nat → Progress
  | _, s, [] => s
  | n, s, m :: ms =>
    let s := { s with delta := s.delta + (m - n) * (s.handled + 1) }
    let s := pass basic m s cs
    encodeFrom cs basic (m + 1) { s with delta := s.delta + 1 } ms

/-- A label as it stands in a domain name. -/
def encodeLabel (cs : List Char) : List Char :=
  let ascii := cs.filter (·.toNat < 128)
  if ascii.length == cs.length then cs
  else
    let basic := ascii.length
    let start := if basic == 0 then [] else ascii ++ ['-']
    let s := encodeFrom cs basic 128 ⟨0, 72, basic, start⟩ (others cs)
    "xn--".toList ++ s.out

/-! ### Reading -/

/-- The value of a digit. -/
def digitValue? (c : Char) : Option Nat :=
  if 'a' ≤ c && c ≤ 'z' then some (c.toNat - 'a'.toNat)
  else if c.isDigit then some (c.toNat - '0'.toNat + 26)
  else none

/-- No number that is read may be greater. -/
def greatest : Nat := 4294967295

/-- Reads a number from its digits, the first of which stands at place `k` and weighs `weight`, and
adds it to `n`. -/
def takeNumber? (bias : Nat) : (n weight k : Nat) → List Char → Option (Nat × List Char)
  | _, _, _, [] => none
  | n, weight, k, c :: cs =>
    match digitValue? c with
    | none => none
    | some d =>
      let n := n + d * weight
      let t := threshold k bias
      if greatest < n then none
      else if d < t then some (n, cs)
      else if greatest < weight * (36 - t) then none
      else takeNumber? bias n (weight * (36 - t)) (k + 36) cs

/-- Puts the characters of the encoded part into a label. `n` is the character last put in, `i` the
place behind it, and `room` a bound on how many follow. -/
def insertFrom? : (room n i bias : Nat) → (label : List Char) → List Char → Option (List Char)
  | _, _, _, _, label, [] => some label
  | 0, _, _, _, _, _ :: _ => none
  | room + 1, n, i, bias, label, c :: cs =>
    match takeNumber? bias i 1 36 (c :: cs) with
    | none => none
    | some (distance, rest) =>
      let count := label.length + 1
      let n := n + distance / count
      let place := distance % count
      if n.isValidChar then
        insertFrom? room n (place + 1) (adapt (distance - i) count (i == 0))
          (label.take place ++ Char.ofNat n :: label.drop place) rest
      else none

/-- The label that stands, in its ASCII form, behind the mark of such forms. -/
def decode? (cs : List Char) : Option (List Char) :=
  match Pieces.spanLast '-' cs with
  | (some (c :: basic), rest) => insertFrom? rest.length 128 0 72 (c :: basic) rest
  | _ => insertFrom? cs.length 128 0 72 [] cs

end StreamedInference.Punycode
