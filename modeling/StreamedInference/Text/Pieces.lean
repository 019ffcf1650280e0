/-!
# Pieces of a text

A text is cut at characters that part it: once at the first of them or at the last, or at each.

## Main definitions

* `Pieces.span`: what stands before the first of some characters, and from there on.
* `Pieces.spanLast`: what stands before the last occurrence of a character, and behind it.
* `Pieces.between`: the pieces between all occurrences of a character.
-/

namespace StreamedInference.Pieces

/-- A text up to the first of some characters, and from there on. -/
def span (stop : Char → Bool) (cs : List Char) : List Char × List Char :=
  (cs.takeWhile (!stop ·), cs.dropWhile (!stop ·))

/-- A text up to the last occurrence of a character, if there is one, and behind it. -/
def spanLast (c : Char) (cs : List Char) : Option (List Char) × List Char :=
  let behind := (cs.reverse.takeWhile (· != c)).reverse
  if behind.length == cs.length then (none, cs)
  else (some (cs.take (cs.length - behind.length - 1)), behind)

/-- A text is cut at a character behind which there is no other such. -/
theorem spanLast_append_cons {c : Char} {ys : List Char} (h : c ∉ ys) (xs : List Char) :
    spanLast c (xs ++ c :: ys) = (some xs, ys) := by
  have hne : ∀ d ∈ ys.reverse, (d != c) = true := by
    intro d hd
    exact bne_iff_ne.2 fun heq => h (heq ▸ List.mem_reverse.1 hd)
  have hbehind : ((xs ++ c :: ys).reverse.takeWhile (· != c)).reverse = ys := by
    rw [List.reverse_append, List.reverse_cons, List.append_assoc,
      List.takeWhile_append_of_pos hne]
    simp
  have hlonger : ys.length ≠ (xs ++ c :: ys).length := by
    rw [List.length_append, List.length_cons]
    omega
  have hfront : (xs ++ c :: ys).length - ys.length - 1 = xs.length := by
    rw [List.length_append, List.length_cons]
    omega
  rw [spanLast]
  simp only [hbehind, beq_iff_eq, hlonger, if_false, hfront, List.take_left]

/-- A text without such a character is not cut. -/
theorem spanLast_of_notMem {c : Char} {cs : List Char} (h : c ∉ cs) :
    spanLast c cs = (none, cs) := by
  have hne : ∀ d ∈ cs.reverse, (d != c) = true := by
    intro d hd
    exact bne_iff_ne.2 fun heq => h (heq ▸ List.mem_reverse.1 hd)
  have hall : (cs.reverse ++ []).takeWhile (· != c) = cs.reverse ++ [] :=
    List.takeWhile_append_of_pos hne
  rw [List.append_nil] at hall
  simp [spanLast, hall]

/-- Where a text is cut. -/
theorem spanLast_eq_some_iff {c : Char} {cs xs ys : List Char} :
    spanLast c cs = (some xs, ys) ↔ cs = xs ++ c :: ys ∧ c ∉ ys := by
  constructor
  · intro h
    by_cases hc : c ∈ cs
    · -- the last occurrence is the first one from behind
      obtain ⟨behind, before, heq, hnot⟩ :=
        List.eq_append_cons_of_mem (List.mem_reverse.2 hc)
      have hcs : cs = before.reverse ++ c :: behind.reverse := by
        rw [← List.reverse_reverse cs, heq]
        simp
      rw [hcs, spanLast_append_cons (by simpa using hnot)] at h
      obtain ⟨hxs, rfl⟩ := Prod.mk.inj h
      obtain rfl := Option.some.inj hxs
      exact ⟨hcs, by simpa using hnot⟩
    · rw [spanLast_of_notMem hc] at h
      cases h
  · rintro ⟨rfl, h⟩
    exact spanLast_append_cons h xs

/-- The pieces of a text between occurrences of a character. -/
def between (sep : Char) : List Char → List (List Char)
  | [] => [[]]
  | c :: cs =>
    match between sep cs with
    | [] => [[]]
    | piece :: pieces => if c == sep then [] :: piece :: pieces else (c :: piece) :: pieces

/-- Even an empty text has a piece. -/
theorem between_ne_nil (sep : Char) (cs : List Char) : between sep cs ≠ [] := by
  cases cs with
  | nil => simp [between]
  | cons c cs =>
    unfold between
    split
    · simp
    · split <;> simp

end StreamedInference.Pieces
