import StreamedInference.Gate

/-!
# Who is inside the gate and who waits

What a gate is good for is told by two views of it: the party inside, `Gate.holder?`, and the
parties that have asked and not entered, `Gate.queue`. This file says what each operation does to
both, so that nothing below has to look into the constructors of `Gate`.

## Main results

* `Gate.queue_request`, `Gate.queue_withdraw`, `Gate.queue_release`: asking appends, giving up
  erases, leaving changes nothing in the queue.
* `Gate.mem_queue_withdraw`: who gives up does not wait any more.
* `Gate.mayEnter_iff`: a party may enter exactly if the gate is empty and the party is the first
  that waits.
* `Gate.queue_eq_cons_enter`, `Gate.holder?_enter`: who enters leaves the queue at its head.
-/

namespace StreamedInference

namespace Gate

variable {ι : Type} [DecidableEq ι]

omit [DecidableEq ι] in
@[simp] theorem holder?_next (ps : List ι) : (next ps).holder? = none := by
  cases ps <;> rfl

omit [DecidableEq ι] in
@[simp] theorem queue_next (ps : List ι) : (next ps).queue = ps := by
  cases ps <;> rfl

omit [DecidableEq ι] in
@[simp] theorem holder?_request (g : Gate ι) (p : ι) : (g.request p).holder? = g.holder? := by
  rcases g with _ | ⟨q, _ | _, ps⟩ <;> rfl

omit [DecidableEq ι] in
/-- Who asks goes to the end of the queue. -/
@[simp] theorem queue_request (g : Gate ι) (p : ι) : (g.request p).queue = g.queue ++ [p] := by
  rcases g with _ | ⟨q, _ | _, ps⟩ <;> rfl

theorem withdraw_self (p : ι) (ps : List ι) : (taken p false ps).withdraw p = next ps := by
  simp [withdraw]

theorem withdraw_of_ne {p q : ι} (h : q ≠ p) (entered : Bool) (ps : List ι) :
    (taken q entered ps).withdraw p = taken q entered (ps.erase p) := by
  simp [withdraw, h]

theorem withdraw_entered (p q : ι) (ps : List ι) :
    (taken q true ps).withdraw p = taken q true (ps.erase p) := by
  simp [withdraw]

theorem release_self (p : ι) (ps : List ι) : (taken p true ps).release p = next ps := by
  simp [release]

theorem release_of_ne {p q : ι} (h : q ≠ p) (ps : List ι) :
    (taken q true ps).release p = taken q true ps := by
  simp [release, h]

/-- Giving up does not touch the party inside. -/
@[simp] theorem holder?_withdraw (g : Gate ι) (p : ι) : (g.withdraw p).holder? = g.holder? := by
  rcases g with _ | ⟨q, _ | _, ps⟩
  · rfl
  · by_cases h : q = p
    · subst h
      rw [withdraw_self, holder?_next]
      rfl
    · rw [withdraw_of_ne h]
      rfl
  · rw [withdraw_entered]
    rfl

/-- Giving up passes on the turn of a party that had been chosen. -/
@[simp] theorem queue_withdraw (g : Gate ι) (p : ι) :
    (g.withdraw p).queue = g.queue.erase p := by
  rcases g with _ | ⟨q, _ | _, ps⟩
  · rfl
  · by_cases h : q = p
    · subst h
      rw [withdraw_self, queue_next]
      exact (List.erase_cons_head q ps).symm
    · rw [withdraw_of_ne h]
      exact (List.erase_cons_tail (by simpa using h)).symm
  · rw [withdraw_entered]
    rfl

/-- Who gives up does not wait any more. -/
theorem mem_queue_withdraw {g : Gate ι} {p q : ι} (h : g.queue.Nodup) :
    q ∈ (g.withdraw p).queue ↔ q ≠ p ∧ q ∈ g.queue := by
  rw [queue_withdraw, h.mem_erase_iff]

theorem nodup_queue_withdraw {g : Gate ι} (h : g.queue.Nodup) (p : ι) :
    (g.withdraw p).queue.Nodup := by
  rw [queue_withdraw]
  exact h.erase p

@[simp] theorem queue_release (g : Gate ι) (p : ι) : (g.release p).queue = g.queue := by
  rcases g with _ | ⟨q, _ | _, ps⟩
  · rfl
  · rfl
  · by_cases h : q = p
    · subst h
      rw [release_self, queue_next]
      rfl
    · rw [release_of_ne h]

/-- Only the party inside can leave the gate. -/
theorem holder?_release (g : Gate ι) (p : ι) :
    (g.release p).holder? = if g.holder? = some p then none else g.holder? := by
  rcases g with _ | ⟨q, _ | _, ps⟩
  · rfl
  · rfl
  · by_cases h : q = p
    · subst h
      rw [release_self, holder?_next]
      exact (if_pos rfl).symm
    · rw [release_of_ne h]
      exact (if_neg (by simpa [holder?] using h)).symm

/-- A party may enter if nobody is inside and it is the first that waits. -/
theorem mayEnter_iff {g : Gate ι} {p : ι} :
    g.mayEnter p = true ↔ g.holder? = none ∧ g.queue.head? = some p := by
  rcases g with _ | ⟨q, _ | _, ps⟩ <;> simp [mayEnter, holder?, queue]

theorem holder?_enter {g : Gate ι} {p : ι} (h : g.mayEnter p = true) :
    (g.enter p).holder? = some p := by
  rcases g with _ | ⟨q, _ | _, ps⟩ <;> simp [mayEnter] at h
  simp [enter, holder?, h]

/-- Who enters was at the head of the queue. -/
theorem queue_eq_cons_enter {g : Gate ι} {p : ι} (h : g.mayEnter p = true) :
    g.queue = p :: (g.enter p).queue := by
  rcases g with _ | ⟨q, _ | _, ps⟩ <;> simp [mayEnter] at h
  simp [enter, queue, h]

end Gate

end StreamedInference
