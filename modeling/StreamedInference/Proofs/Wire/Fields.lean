import StreamedInference.Proofs.Wire.Grammar
import StreamedInference.Proofs.Wire.Message

/-!
# Fields and groups

Records make up fields: a record that opens a group and one that closes it, with fields between
them, are one field as well. How a reader goes through records is settled by the fields alone. A
field of an unknown number, and every field within a group, leaves the message as it is; a field of
a known number changes its own part of the message, to the same value whatever the message was
before. And whatever a reader goes through to the end is fields, nested as deep as there is room.

## Main definitions

* `Payload.IsScalar`, `Wire.AreFields`: the fields that records make up.
* `Wire.IsFront`: records behind which some groups are open.
* `Wire.Taker.IsLawful`, `Wire.Taker.Sets`: takers that change a part of the message for each field.

## Main results

* `Wire.AreFields.run_skip`: unknown fields change nothing.
* `Wire.AreFields.exists_run`: known fields change their own parts.
* `Wire.exists_areFields_of_run`: what a reader goes through is fields.
* `Wire.IsFront.run_insert`: unknown fields between two others.
-/

namespace StreamedInference

/-- A payload that neither opens nor closes a group. -/
def Payload.IsScalar (p : Payload) : Prop :=
  p ≠ .groupStart ∧ p ≠ .groupEnd

instance : DecidablePred Payload.IsScalar :=
  fun _ => inferInstanceAs (Decidable (_ ∧ _))

namespace Wire

/-- Records that make up whole fields, by the numbers of these. There is room for groups within
groups, as many as `room`, and the innermost has room for nothing. -/
inductive AreFields : (room : ℕ) → List Record → (numbers : List ℕ) → Prop
  | nil {room : ℕ} : AreFields room [] []
  | single {room : ℕ} {r : Record} {rs : List Record} {ns : List ℕ} (hr : r.payload.IsScalar)
      (hs : AreFields (room + 1) rs ns) : AreFields (room + 1) (r :: rs) (r.field :: ns)
  | group {room n : ℕ} {inner rs : List Record} {ms ns : List ℕ} (hin : AreFields room inner ms)
      (hs : AreFields (room + 1) rs ns) :
      AreFields (room + 1) (⟨n, .groupStart⟩ :: (inner ++ ⟨n, .groupEnd⟩ :: rs)) (n :: ns)

/-- Records behind which groups of these numbers are open, the innermost first. -/
inductive IsFront : (openGroups : List ℕ) → List Record → Prop
  | fields {rs : List Record} {ns : List ℕ} (h : AreFields nestingLimit rs ns) : IsFront [] rs
  | inside {gs : List ℕ} {g : ℕ} {rs inner : List Record} {ns : List ℕ} (h : IsFront gs rs)
      (hlt : gs.length < nestingLimit)
      (hin : AreFields (nestingLimit - (gs.length + 1)) inner ns) :
      IsFront (g :: gs) (rs ++ ⟨g, .groupStart⟩ :: inner)

/-- What a taker takes are scalar payloads, and which records it takes does not depend on the
message. -/
structure Taker.IsLawful {α : Type} (take : Taker α) : Prop where
  isScalar {m m' : α} {r : Record} (h : take m r = some (some m')) : r.payload.IsScalar
  eq_none {m : α} {r : Record} (h : take m r = none) (m₂ : α) : take m₂ r = none
  exists_some {m m' : α} {r : Record} (h : take m r = some (some m')) (m₂ : α) :
    ∃ m₂', take m₂ r = some (some m₂')

/-- A part of the message is set by the records of one field, and by no others. -/
structure Taker.Sets {α β : Type} (take : Taker α) (n : ℕ) (part : α → β) : Prop where
  ne_none {m : α} {r : Record} (hr : r.field = n) : take m r ≠ none
  eq_of_field {m₁ m₂ m₁' m₂' : α} {r : Record} (hr : r.field = n)
    (h₁ : take m₁ r = some (some m₁')) (h₂ : take m₂ r = some (some m₂')) : part m₁' = part m₂'
  eq_of_ne {m m' : α} {r : Record} (hr : r.field ≠ n) (h : take m r = some (some m')) :
    part m' = part m

/-- No record of the field is taken. -/
def Taker.Ignores {α : Type} (take : Taker α) (n : ℕ) : Prop :=
  ∀ m p, take m ⟨n, p⟩ = none

variable {α β : Type} {take : Taker α} {m m₁ m₂ m' : α} {s : Reading α} {r : Record}
variable {rs ss inner : List Record} {gs ns ms : List ℕ} {room n : ℕ}

/-! ### Single steps -/

theorem skip_scalar (hr : r.payload.IsScalar) :
    skip gs r = if nestingLimit ≤ gs.length then none else some gs := by
  unfold skip
  obtain ⟨hstart, hend⟩ := hr
  split
  · contradiction
  · contradiction
  · rfl

theorem skip_scalar_of_lt (hr : r.payload.IsScalar) (hgs : gs.length < nestingLimit) :
    skip gs r = some gs := by
  rw [skip_scalar hr, if_neg (Nat.not_le.2 hgs)]

theorem skip_groupStart (hgs : gs.length < nestingLimit) :
    skip gs ⟨n, .groupStart⟩ = some (n :: gs) :=
  if_neg (Nat.not_le.2 hgs)

theorem skip_groupEnd : skip (n :: gs) ⟨n, .groupEnd⟩ = some gs := by
  simp [skip]

namespace Reading

/-- Within a group, or without being taken, a record is skipped. -/
theorem step_of_skip (h : gs ≠ [] ∨ take m r = none) :
    step take ⟨m, gs⟩ r = (skip gs r).map fun gs => ⟨m, gs⟩ := by
  unfold step
  rcases gs with - | ⟨g, gs⟩
  · rw [h.resolve_left (by simp)]
    rfl
  · rfl

theorem step_of_take (h : take m r = some (some m')) :
    step take ⟨m, []⟩ r = some ⟨m', []⟩ := by
  simp [step, h]

theorem eq_of_step_groupStart (hl : take.IsLawful)
    (h : step take ⟨m, gs⟩ ⟨n, .groupStart⟩ = some s) : s = ⟨m, n :: gs⟩ := by
  unfold step at h
  dsimp only at h
  split at h
  · next message? htaken =>
    obtain ⟨m', rfl, -⟩ := Option.map_eq_some_iff.1 h
    exact absurd rfl (hl.isScalar (Option.ite_none_right_eq_some.1 htaken).2).1
  · obtain ⟨gs', hgs', rfl⟩ := Option.map_eq_some_iff.1 h
    simp only [skip, Option.ite_none_left_eq_some, Option.some.injEq] at hgs'
    rw [← hgs'.2]

end Reading

open Reading

/-! ### Skipped fields -/

/-- Within a group, or with unknown numbers, fields leave everything as it is. -/
theorem AreFields.run_skip (h : AreFields room rs ns) (hroom : gs.length + room ≤ nestingLimit)
    (hskip : gs ≠ [] ∨ ∀ n ∈ ns, take.Ignores n) :
    run take ⟨m, gs⟩ rs = some ⟨m, gs⟩ := by
  induction h generalizing gs with
  | nil => rfl
  | @single room r rs ns hr _ ih =>
    have htail : gs ≠ [] ∨ ∀ n ∈ ns, take.Ignores n :=
      hskip.imp_right fun h n hn => h n (List.mem_cons_of_mem _ hn)
    have hstep : gs ≠ [] ∨ take m r = none :=
      hskip.imp_right fun h => h r.field List.mem_cons_self m r.payload
    rw [run, step_of_skip hstep, skip_scalar_of_lt hr (by omega)]
    exact ih hroom htail
  | @group room n inner rs ms ns _ _ ihin ih =>
    have htail : gs ≠ [] ∨ ∀ n ∈ ns, take.Ignores n :=
      hskip.imp_right fun h n hn => h n (List.mem_cons_of_mem _ hn)
    have hstep : gs ≠ [] ∨ take m ⟨n, .groupStart⟩ = none :=
      hskip.imp_right fun h => h n List.mem_cons_self m _
    have hinner : run take ⟨m, n :: gs⟩ inner = some ⟨m, n :: gs⟩ :=
      ihin (by simpa [Nat.add_assoc, Nat.add_comm 1] using hroom) (.inl (List.cons_ne_nil n gs))
    rw [run, step_of_skip hstep, skip_groupStart (by omega), Option.map_some, Option.bind_some,
      run_append, hinner, Option.bind_some, run, step_of_skip (.inl (List.cons_ne_nil n gs)),
      skip_groupEnd]
    exact ih hroom htail

/-! ### Fields of the message itself -/

/-- A field of one record is taken or skipped. -/
theorem run_single_iff (hr : r.payload.IsScalar) :
    run take ⟨m, []⟩ (r :: rs) = some s ↔
      (take m r = none ∧ run take ⟨m, []⟩ rs = some s) ∨
        ∃ m', take m r = some (some m') ∧ run take ⟨m', []⟩ rs = some s := by
  rcases h : take m r with - | - | m'
  · rw [run, step_of_skip (.inr h), skip_scalar_of_lt hr (by decide)]
    simp
  · simp [run, step, h]
  · rw [run, step_of_take h]
    simp

/-- A group is skipped as a whole. -/
theorem run_group_iff (hl : take.IsLawful) (hin : AreFields room inner ms)
    (hroom : room + 1 ≤ nestingLimit) :
    run take ⟨m, []⟩ (⟨n, .groupStart⟩ :: (inner ++ ⟨n, .groupEnd⟩ :: rs)) = some s ↔
      take m ⟨n, .groupStart⟩ = none ∧ run take ⟨m, []⟩ rs = some s := by
  rcases h : take m ⟨n, .groupStart⟩ with - | - | m'
  · have hinner : run take ⟨m, [n]⟩ inner = some ⟨m, [n]⟩ :=
      hin.run_skip (by simpa [Nat.add_comm 1] using hroom) (.inl (List.cons_ne_nil n []))
    rw [run, step_of_skip (.inr h), skip_groupStart (by decide), Option.map_some, Option.bind_some,
      run_append, hinner, Option.bind_some, run, step_of_skip (.inl (List.cons_ne_nil n [])),
      skip_groupEnd]
    simp
  · simp [run, step, h]
  · exact absurd rfl (hl.isScalar h).1

/-- Behind whole fields no group is open, and a part is as before without a field of its number. -/
theorem AreFields.of_run (hl : take.IsLawful) (h : AreFields room rs ns)
    (hroom : room ≤ nestingLimit) (hrun : run take ⟨m, []⟩ rs = some s) :
    s.openGroups = [] ∧ ∀ {β : Type} {n : ℕ} {part : α → β}, take.Sets n part → n ∉ ns →
      part s.message = part m := by
  induction h generalizing m with
  | nil =>
    obtain rfl := Option.some.inj hrun
    exact ⟨rfl, fun _ _ => rfl⟩
  | @single room r rs ns hr _ ih =>
    rcases (run_single_iff hr).1 hrun with ⟨-, hrun⟩ | ⟨m', hm', hrun⟩
    · obtain ⟨hgroups, hparts⟩ := ih hroom hrun
      exact ⟨hgroups, fun hset hn => hparts hset (List.not_mem_of_not_mem_cons hn)⟩
    · obtain ⟨hgroups, hparts⟩ := ih hroom hrun
      refine ⟨hgroups, fun hset hn => ?_⟩
      rw [List.mem_cons, not_or] at hn
      rw [hparts hset hn.2, hset.eq_of_ne (Ne.symm hn.1) hm']
  | @group room n inner rs ms ns hin _ _ ih =>
    obtain ⟨-, hrun⟩ := (run_group_iff hl hin hroom).1 hrun
    obtain ⟨hgroups, hparts⟩ := ih hroom hrun
    exact ⟨hgroups, fun hset hn => hparts hset (List.not_mem_of_not_mem_cons hn)⟩

/-- Fields that are read behind one message are read behind any other, and set the same parts to the
same values. -/
theorem AreFields.exists_run (hl : take.IsLawful) (h : AreFields room rs ns)
    (hroom : room ≤ nestingLimit) (hrun : run take ⟨m₁, []⟩ rs = some s) (m₂ : α) :
    ∃ m', run take ⟨m₂, []⟩ rs = some ⟨m', []⟩ ∧
      ∀ {β : Type} {n : ℕ} {part : α → β}, take.Sets n part → n ∈ ns →
        part m' = part s.message := by
  induction h generalizing m₁ m₂ with
  | nil => exact ⟨m₂, rfl, fun _ hn => absurd hn List.not_mem_nil⟩
  | @single room r rs ns hr htail ih =>
    rcases (run_single_iff hr).1 hrun with ⟨hnone, hrun⟩ | ⟨m₁', hm₁', hrun⟩
    · obtain ⟨m', hm', hparts⟩ := ih hroom hrun m₂
      refine ⟨m', (run_single_iff hr).2 (.inl ⟨hl.eq_none hnone m₂, hm'⟩), fun hset hn => ?_⟩
      rcases List.mem_cons.1 hn with rfl | hn
      · exact absurd hnone (hset.ne_none rfl)
      · exact hparts hset hn
    · obtain ⟨m₂', hm₂'⟩ := hl.exists_some hm₁' m₂
      obtain ⟨m', hm', hparts⟩ := ih hroom hrun m₂'
      refine ⟨m', (run_single_iff hr).2 (.inr ⟨m₂', hm₂', hm'⟩), fun {β n part} hset hn => ?_⟩
      by_cases hmem : n ∈ ns
      · exact hparts hset hmem
      · -- The record is the last one of its field.
        obtain rfl := (List.mem_cons.1 hn).resolve_right hmem
        rw [(htail.of_run hl hroom hm').2 hset hmem, (htail.of_run hl hroom hrun).2 hset hmem]
        exact hset.eq_of_field rfl hm₂' hm₁'
  | @group room n inner rs ms ns hin _ _ ih =>
    obtain ⟨hnone, hrun⟩ := (run_group_iff hl hin hroom).1 hrun
    obtain ⟨m', hm', hparts⟩ := ih hroom hrun m₂
    refine ⟨m', (run_group_iff hl hin hroom).2 ⟨hl.eq_none hnone m₂, hm'⟩, fun hset hn => ?_⟩
    rcases List.mem_cons.1 hn with rfl | hn
    · exact absurd hnone (hset.ne_none rfl)
    · exact hparts hset hn

/-! ### What a reader goes through -/

theorem AreFields.append (h : AreFields room rs ns) (h' : AreFields room ss ms) :
    AreFields room (rs ++ ss) (ns ++ ms) := by
  induction h with
  | nil => exact h'
  | single hr _ ih => exact .single hr (ih h')
  | group hin _ _ ih => simpa using AreFields.group hin (ih h')

/-- More fields in the innermost group. -/
theorem IsFront.append (h : IsFront gs rs) (h' : AreFields (nestingLimit - gs.length) ss ms) :
    IsFront gs (rs ++ ss) := by
  cases h with
  | fields h => exact .fields (h.append h')
  | inside h hlt hin => simpa using h.inside hlt (hin.append h')

theorem AreFields.of_single (hr : r.payload.IsScalar) (hroom : 0 < room) :
    AreFields room [r] [r.field] := by
  obtain ⟨room, rfl⟩ := Nat.exists_eq_succ_of_ne_zero (Nat.ne_of_gt hroom)
  exact .single hr .nil

/-- A record of one field more. -/
theorem IsFront.single (h : IsFront gs rs) (hr : r.payload.IsScalar)
    (hlt : gs.length < nestingLimit) : IsFront gs (rs ++ [r]) :=
  h.append (.of_single hr (by omega))

/-- A reader that goes on by one record goes on in its fields. -/
theorem IsFront.step (hl : take.IsLawful) (h : IsFront gs rs)
    (hstep : Reading.step take ⟨m, gs⟩ r = some s) : IsFront s.openGroups (rs ++ [r]) := by
  unfold Reading.step at hstep
  dsimp only at hstep
  split at hstep
  · next message? htaken =>
    obtain ⟨m', rfl, rfl⟩ := Option.map_eq_some_iff.1 hstep
    obtain ⟨hgs, htaken⟩ := Option.ite_none_right_eq_some.1 htaken
    obtain rfl := List.isEmpty_iff.1 hgs
    exact h.single (hl.isScalar htaken) (by decide)
  · obtain ⟨gs', hgs', rfl⟩ := Option.map_eq_some_iff.1 hstep
    obtain ⟨field, payload⟩ := r
    cases payload with
    | groupStart =>
      simp only [skip, Option.ite_none_left_eq_some, not_le, Option.some.injEq] at hgs'
      obtain ⟨hlt, rfl⟩ := hgs'
      exact h.inside hlt .nil
    | groupEnd =>
      cases h with
      | fields h => cases hgs'
      | @inside gs g rs inner ns h hlt hin =>
        simp only [skip, beq_iff_eq, Option.ite_none_right_eq_some, Option.some.injEq] at hgs'
        obtain ⟨rfl, rfl⟩ := hgs'
        have hgroup : AreFields (nestingLimit - gs.length)
            (⟨g, .groupStart⟩ :: (inner ++ [⟨g, .groupEnd⟩])) [g] := by
          have hroom : nestingLimit - gs.length = nestingLimit - (gs.length + 1) + 1 := by omega
          rw [hroom]
          exact .group hin .nil
        simpa using h.append hgroup
    | varint | fixed64 | bytes | fixed32 =>
      simp only [skip, Option.ite_none_left_eq_some, not_le, Option.some.injEq] at hgs'
      obtain ⟨hlt, rfl⟩ := hgs'
      exact h.single ⟨nofun, nofun⟩ hlt

theorem IsFront.run (hl : take.IsLawful) (h : IsFront gs rs)
    (hrun : Reading.run take ⟨m, gs⟩ ss = some s) : IsFront s.openGroups (rs ++ ss) := by
  induction ss generalizing m gs rs with
  | nil =>
    obtain rfl := Option.some.inj hrun
    simpa using h
  | cons r ss ih =>
    obtain ⟨t, hstep, hrun⟩ := Option.bind_eq_some_iff.1 hrun
    simpa using ih (h.step hl hstep) hrun

/-- What a reader goes through, so that no group is left open, is fields. -/
theorem exists_areFields_of_run (hl : take.IsLawful)
    (hrun : Reading.run take ⟨m, []⟩ rs = some ⟨m', []⟩) : ∃ ns, AreFields nestingLimit rs ns := by
  have hfront := (IsFront.fields (.nil : AreFields nestingLimit [] [])).run hl hrun
  cases hfront with
  | fields h => exact ⟨_, h⟩

/-! ### Between two fields -/

theorem IsFront.length_le (h : IsFront gs rs) : gs.length ≤ nestingLimit := by
  cases h with
  | fields => exact Nat.zero_le _
  | inside _ hlt => exact hlt

/-- Behind a front its groups are open. -/
theorem IsFront.openGroups_eq (hl : take.IsLawful) (h : IsFront gs rs)
    (hrun : Reading.run take ⟨m, []⟩ rs = some s) : s.openGroups = gs := by
  induction h generalizing s with
  | fields h => exact (h.of_run hl le_rfl hrun).1
  | @inside gs g rs inner ns h hlt hin ih =>
    rw [run_append] at hrun
    obtain ⟨⟨m, gs'⟩, ht, hrun⟩ := Option.bind_eq_some_iff.1 hrun
    obtain rfl : gs' = gs := ih ht
    obtain ⟨t, hstep, hrun⟩ := Option.bind_eq_some_iff.1 hrun
    obtain rfl := eq_of_step_groupStart hl hstep
    have hinner : Reading.run take ⟨m, g :: gs'⟩ inner = some ⟨m, g :: gs'⟩ :=
      hin.run_skip (by rw [List.length_cons]; omega) (.inl (List.cons_ne_nil g gs'))
    obtain rfl := Option.some.inj (hinner.symm.trans hrun)
    rfl

/-- Unknown fields between two others change nothing. -/
theorem IsFront.run_insert (hl : take.IsLawful) (h : IsFront gs rs)
    (hfields : AreFields (nestingLimit - gs.length) inner ns) (hns : ∀ n ∈ ns, take.Ignores n) :
    Reading.run take ⟨m, []⟩ (rs ++ inner ++ ss) = Reading.run take ⟨m, []⟩ (rs ++ ss) := by
  rw [run_append, run_append, run_append]
  cases hrun : Reading.run take ⟨m, []⟩ rs with
  | none => rfl
  | some s =>
    obtain ⟨m', gs'⟩ := s
    obtain rfl : gs' = gs := h.openGroups_eq hl hrun
    have hroom := h.length_le
    rw [Option.bind_some, hfields.run_skip (by omega) (.inr hns)]

end Wire

end StreamedInference
