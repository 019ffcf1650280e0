/-!
# Directories

Parties are listed with what they are doing. One that comes in is put at the end of the list, and
one that begins to do something else keeps its place. This file says what becomes of the entry of
each party.

## Main results

* `lookup_replace`: a party begins to do something else.
* `lookup_concat`: a party comes in.
* `lookup_eq_some_iff_mem`: where no name occurs twice, all that is listed is found.
-/

namespace StreamedInference

variable {ι β : Type} [DecidableEq ι]

theorem lookup_cons_eq_ite (p q : ι) (b : β) (l : List (ι × β)) :
    ((p, b) :: l).lookup q = if q = p then some b else l.lookup q := by
  by_cases h : q = p
  · simp [h]
  · have hne : (q == p) = false := by simpa using h
    simp [List.lookup_cons, h, hne]

/-- A party begins to do something else, and nobody else does. -/
theorem lookup_replace (l : List (ι × β)) (p q : ι) (b : β) :
    (l.map fun e => if e.1 = p then (p, b) else e).lookup q =
      if q = p then (l.lookup p).map fun _ => b else l.lookup q := by
  induction l with
  | nil => simp
  | cons e l ih =>
    obtain ⟨r, c⟩ := e
    by_cases hr : r = p
    · by_cases hq : q = p <;> simp [lookup_cons_eq_ite, hr, hq, ih]
    · by_cases hq : q = p
      · subst hq
        simpa [lookup_cons_eq_ite, hr, Ne.symm hr] using ih
      · simp [lookup_cons_eq_ite, hr, hq, ih]

/-- A party comes in, and nobody else does. -/
theorem lookup_concat {l : List (ι × β)} {p : ι} (h : l.lookup p = none) (q : ι) (b : β) :
    (l ++ [(p, b)]).lookup q = if q = p then some b else l.lookup q := by
  rw [List.lookup_append]
  by_cases hq : q = p
  · simp [hq, h]
  · simp [lookup_cons_eq_ite, hq]

/-- Where no name occurs twice, all that is listed is found. -/
theorem lookup_eq_some_iff_mem {l : List (ι × β)} (hn : (l.map Prod.fst).Nodup) {p : ι} {b : β} :
    l.lookup p = some b ↔ (p, b) ∈ l := by
  induction l with
  | nil => simp
  | cons e l ih =>
    obtain ⟨q, c⟩ := e
    obtain ⟨hq, hn⟩ := List.nodup_cons.1 hn
    rw [lookup_cons_eq_ite, List.mem_cons]
    by_cases hp : p = q
    · subst hp
      have hnot : (p, b) ∉ l := fun hmem => hq (List.mem_map.2 ⟨_, hmem, rfl⟩)
      simp [hnot, eq_comm]
    · simp [hp, ih hn]

end StreamedInference
