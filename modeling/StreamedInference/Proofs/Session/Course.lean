import Mathlib.Algebra.GroupWithZero.Nat
import StreamedInference.Session.Course

/-!
# The course of a session, item by item

The course of a session is a fold, so what a client sends later adds to what the session has come
to and changes nothing of it, and once the course has closed nothing is added any more. The chunks
of one turn are numbered through: one for each fragment of the call that is not empty, and one at
the end.

## Main definitions

* `SessionCourse.Extends`: a course has come further than another.
* `SessionCourse.requests`, `SessionCourse.Numbered`: the fragments that make turns, and the calls
  of a course by their numbers.

## Main results

* `CallScript.getElem?_chunks`, `CallScript.getElem?_chunks_length`: the chunks of a turn by their
  places.
* `SessionCourse.extends_of_append`: what a client sends later only adds to the course.
* `SessionCourse.length_finished`: every turn of a course has exactly one last chunk.
* `SessionCourse.isSome_reason?`: the course of a stream that ends or fails has closed.
* `SessionCourse.numbered_of`: the call with a number is that of the fragment with this number.
-/

namespace StreamedInference

namespace CallScript

variable {script : CallScript} {base k : Nat}

/-- The last chunk of a turn. -/
def lastChunk (script : CallScript) (base : Nat) : Response :=
  match script.ending.failure? with
  | none => .finished (Int32.ofNat (base + script.texts.length))
  | some f => .failed f.clientMessage (Int32.ofNat (base + script.texts.length))

theorem chunks_eq (script : CallScript) (base : Nat) :
    script.chunks base =
      script.texts.mapIdx (fun k text => .partialChunk text (Int32.ofNat (base + k + 1))) ++
        [script.lastChunk base] :=
  rfl

theorem length_chunks : (script.chunks base).length = script.texts.length + 1 := by
  rw [chunks_eq, List.length_append, List.length_mapIdx, List.length_singleton]

/-- The chunk of a fragment shows the fragment's place in the turn. -/
theorem getElem?_chunks {text : String} (h : script.texts[k]? = some text) :
    (script.chunks base)[k]? = some (.partialChunk text (Int32.ofNat (base + (k + 1)))) := by
  have hk : k < script.texts.length := (List.getElem?_eq_some_iff.1 h).1
  rw [chunks_eq, List.getElem?_append_left (by rwa [List.length_mapIdx]), List.getElem?_mapIdx, h]
  rfl

/-- Behind the chunks of all fragments stands the last chunk. -/
theorem getElem?_chunks_length :
    (script.chunks base)[script.texts.length]? = some (script.lastChunk base) := by
  rw [chunks_eq, List.getElem?_append_right (by simp), List.length_mapIdx, Nat.sub_self]
  rfl

/-- The last chunk of a turn is the only one that tells the end of the turn. -/
theorem filter_isFinished_chunks (script : CallScript) (base : Nat) :
    (script.chunks base).filter (·.isFinished) = [script.lastChunk base] := by
  have hpartial : (script.texts.mapIdx fun k text =>
      Response.partialChunk text (Int32.ofNat (base + k + 1))).filter (·.isFinished) = [] := by
    refine List.filter_eq_nil_iff.2 fun chunk hchunk => ?_
    obtain ⟨k, hk, rfl⟩ := List.mem_mapIdx.1 hchunk
    exact Bool.false_ne_true
  have hlast : (script.lastChunk base).isFinished = true := by
    unfold lastChunk
    split <;> rfl
  rw [chunks_eq, List.filter_append, hpartial, List.nil_append]
  exact List.filter_cons_of_pos hlast

end CallScript

namespace SessionCourse

/-- A course has come further: calls and chunks may have been added. -/
structure Extends (c c' : SessionCourse) : Prop where
  calls_isPrefix : c.calls <+: c'.calls
  chunks_isPrefix : c.chunks <+: c'.chunks

namespace Extends

theorem refl (c : SessionCourse) : c.Extends c :=
  ⟨List.prefix_refl _, List.prefix_refl _⟩

theorem trans {c₁ c₂ c₃ : SessionCourse} (h : c₁.Extends c₂) (h' : c₂.Extends c₃) :
    c₁.Extends c₃ :=
  ⟨h.calls_isPrefix.trans h'.calls_isPrefix, h.chunks_isPrefix.trans h'.chunks_isPrefix⟩

end Extends

variable {setup : SessionSetup} {answers : Nat → GenerateCall → CallScript}

/-- A course that has closed goes no further. -/
theorem step_of_reason? {c : SessionCourse} {reason : CloseReason} (h : c.reason? = some reason)
    (item : Inbound) : step setup answers c item = c := by
  unfold step
  rw [h]

theorem foldl_step_of_reason? {c : SessionCourse} {reason : CloseReason}
    (h : c.reason? = some reason) (items : List Inbound) :
    items.foldl (step setup answers) c = c := by
  induction items with
  | nil => rfl
  | cons item items ih => rw [List.foldl_cons, step_of_reason? h, ih]

theorem step_finish {c : SessionCourse} (h : c.reason? = none) :
    step setup answers c .finish = { c with reason? := some .inboundClosed } := by
  simp [step, h]

theorem step_failure {c : SessionCourse} (h : c.reason? = none) (status : Status) :
    step setup answers c (.failure status) =
      { c with reason? := some (.transport status.message) } := by
  simp [step, h]

/-- A fragment that is not empty makes a turn. -/
theorem step_fragment {c : SessionCourse} {r : Request} (h : c.reason? = none)
    (hr : r.message.isEmpty = false) :
    step setup answers c (.fragment r) =
      c.turn setup r (answers c.calls.length (c.callFor setup r)) := by
  simp [step, h, hr]

theorem step_fragment_of_isEmpty {c : SessionCourse} {r : Request}
    (hr : r.message.isEmpty = true) : step setup answers c (.fragment r) = c := by
  unfold step
  cases c.reason? with
  | none => exact if_pos hr
  | some reason => rfl

theorem extends_turn (c : SessionCourse) (r : Request) (script : CallScript) :
    c.Extends (c.turn setup r script) :=
  ⟨List.prefix_append _ _, List.prefix_append _ _⟩

theorem extends_step (c : SessionCourse) (item : Inbound) :
    c.Extends (step setup answers c item) := by
  unfold step
  split
  · exact .refl c
  · exact ⟨List.prefix_refl _, List.prefix_refl _⟩
  · exact ⟨List.prefix_refl _, List.prefix_refl _⟩
  · split
    · exact .refl c
    · exact c.extends_turn _ _

theorem extends_foldl (c : SessionCourse) (items : List Inbound) :
    c.Extends (items.foldl (step setup answers) c) := by
  induction items generalizing c with
  | nil => exact .refl c
  | cons item items ih => exact (c.extends_step item).trans (ih _)

theorem of_append (items more : List Inbound) :
    of setup answers (items ++ more) = more.foldl (step setup answers) (of setup answers items) :=
  List.foldl_append

theorem of_concat (items : List Inbound) (item : Inbound) :
    of setup answers (items ++ [item]) = step setup answers (of setup answers items) item :=
  of_append items [item]

/-- What a client sends later only adds to the course. -/
theorem extends_of_append (items more : List Inbound) :
    (of setup answers items).Extends (of setup answers (items ++ more)) := by
  rw [of_append]
  exact extends_foldl _ _

/-- A course that has closed does not depend on what comes later. -/
theorem of_append_of_reason? {items : List Inbound} {reason : CloseReason}
    (h : (of setup answers items).reason? = some reason) (more : List Inbound) :
    of setup answers (items ++ more) = of setup answers items := by
  rw [of_append, foldl_step_of_reason? h]

/-- The course of a stream that ends or fails has closed. -/
theorem isSome_reason? {items : List Inbound} {item : Inbound} (hmem : item ∈ items)
    (hitem : ∀ r, item ≠ .fragment r) : (of setup answers items).reason?.isSome = true := by
  obtain ⟨before, after, rfl⟩ := List.append_of_mem hmem
  have hstep : (of setup answers (before ++ [item])).reason?.isSome = true := by
    rw [of_concat]
    unfold step
    split
    · rename_i reason hreason
      rw [hreason]
      rfl
    · rfl
    · rfl
    · rename_i r _
      exact absurd rfl (hitem r)
  obtain ⟨reason, hreason⟩ := Option.isSome_iff_exists.1 hstep
  rw [List.append_cons, of_append_of_reason? hreason, hreason]
  rfl

theorem reason?_ne_drained_step {c : SessionCourse} (h : c.reason? ≠ some .drained)
    (item : Inbound) : (step setup answers c item).reason? ≠ some .drained := by
  unfold step
  split
  · exact h
  · exact nofun
  · exact nofun
  · split
    · exact h
    · dsimp only [turn]
      split <;> exact nofun

theorem reason?_ne_drained_foldl {c : SessionCourse} (h : c.reason? ≠ some .drained)
    (items : List Inbound) :
    (items.foldl (step setup answers) c).reason? ≠ some .drained := by
  induction items generalizing c with
  | nil => exact h
  | cons item items ih => exact ih (reason?_ne_drained_step h item)

/-- The course of a session knows nothing of draining. -/
theorem reason?_ne_drained (items : List Inbound) :
    (of setup answers items).reason? ≠ some .drained :=
  reason?_ne_drained_foldl (by simp) items

/-- A turn adds one last chunk and one call. -/
theorem length_finished_step {c : SessionCourse} (item : Inbound)
    (h : (c.chunks.filter (·.isFinished)).length = c.calls.length) :
    ((step setup answers c item).chunks.filter (·.isFinished)).length =
      (step setup answers c item).calls.length := by
  unfold step
  split
  · exact h
  · exact h
  · exact h
  · split
    · exact h
    · simp [turn, CallScript.filter_isFinished_chunks, h]

theorem length_finished_foldl {c : SessionCourse} (items : List Inbound)
    (h : (c.chunks.filter (·.isFinished)).length = c.calls.length) :
    ((items.foldl (step setup answers) c).chunks.filter (·.isFinished)).length =
      (items.foldl (step setup answers) c).calls.length := by
  induction items generalizing c with
  | nil => exact h
  | cons item items ih => exact ih (length_finished_step item h)

/-- Every turn of a course has exactly one last chunk. -/
theorem length_finished (items : List Inbound) :
    ((of setup answers items).chunks.filter (·.isFinished)).length =
      (of setup answers items).calls.length :=
  length_finished_foldl items rfl

/-! ### Calls by their numbers -/

/-- The fragments of an inbound stream that are not empty. -/
def requests (items : List Inbound) : List Request :=
  items.filterMap fun
    | .fragment r => if r.message.isEmpty then none else some r
    | _ => none

/-- The call of the fragment at place `k` among those that are not empty: its prompt is assembled
from all of them up to this one, and only this one's wish for a temperature counts. -/
def numberedCall (setup : SessionSetup) (rs : List Request) (k : Nat) (r : Request) :
    GenerateCall where
  prompt :=
    (Prompt.assemble setup.template setup.systemPrompt
      (Session.rawText ((rs.take (k + 1)).map (·.message)))).1
  sampling := Session.samplingFor setup r.temperature

/-- The calls of a course by their numbers: each is that of the fragment with the same number, and
as long as the course has not closed there is one for every fragment. The tokens of the course are
those of all its calls, however these ended. -/
structure Numbered (setup : SessionSetup) (answers : Nat → GenerateCall → CallScript)
    (rs : List Request) (c : SessionCourse) : Prop where
  length_le : c.calls.length ≤ rs.length
  length_eq : c.reason? = none → c.calls.length = rs.length
  transcript_eq : c.transcript = (rs.take c.calls.length).map (·.message)
  call_of : ∀ k call, c.calls[k]? = some call →
    ∃ r, rs[k]? = some r ∧ call = numberedCall setup rs k r
  tokens_eq : c.tokens = (c.calls.mapIdx fun k call => (answers k call).texts.length).sum

namespace Numbered

variable {rs : List Request} {c : SessionCourse}

theorem numberedCall_append {k : Nat} (hk : k < rs.length) (more : List Request) (r : Request) :
    numberedCall setup (rs ++ more) k r = numberedCall setup rs k r := by
  rw [numberedCall, List.take_append_of_le_length hk]
  rfl

/-- Fragments that come after the end of the course have no numbers. -/
theorem append (h : Numbered setup answers rs c) (hr : c.reason? ≠ none) (more : List Request) :
    Numbered setup answers (rs ++ more) c where
  length_le := Nat.le_trans h.length_le (by simp)
  length_eq hnone := absurd hnone hr
  transcript_eq := by rw [List.take_append_of_le_length h.length_le, h.transcript_eq]
  call_of k call hcall := by
    obtain ⟨r, hr, rfl⟩ := h.call_of k call hcall
    have hk : k < rs.length := (List.getElem?_eq_some_iff.1 hr).1
    exact ⟨r, by rw [List.getElem?_append_left hk, hr], (numberedCall_append hk more r).symm⟩
  tokens_eq := h.tokens_eq

/-- A course that closes between two turns keeps its numbers. -/
theorem close (h : Numbered setup answers rs c) (reason : CloseReason) :
    Numbered setup answers rs { c with reason? := some reason } where
  length_le := h.length_le
  length_eq := nofun
  transcript_eq := h.transcript_eq
  call_of := h.call_of
  tokens_eq := h.tokens_eq

/-- A turn gives the next number to its fragment. -/
theorem turn (h : Numbered setup answers rs c) (hr : c.reason? = none) (r : Request) :
    Numbered setup answers (rs ++ [r])
      (c.turn setup r (answers c.calls.length (c.callFor setup r))) := by
  have hlen := h.length_eq hr
  have htranscript : c.transcript = rs.map (·.message) := by
    rw [h.transcript_eq, hlen, List.take_length]
  refine ⟨?_, fun _ => ?_, ?_, fun k call hcall => ?_, ?_⟩
  · simp [SessionCourse.turn, hlen]
  · simp [SessionCourse.turn, hlen]
  · simp [SessionCourse.turn, hlen, htranscript, List.take_of_length_le]
  · rcases Nat.lt_trichotomy k c.calls.length with hk | hk | hk
    · rw [SessionCourse.turn, List.getElem?_append_left hk] at hcall
      obtain ⟨r', hr', rfl⟩ := h.call_of k call hcall
      have hk' : k < rs.length := hlen ▸ hk
      exact ⟨r', by rw [List.getElem?_append_left hk', hr'],
        (numberedCall_append hk' [r] r').symm⟩
    · subst hk
      rw [SessionCourse.turn, List.getElem?_concat_length] at hcall
      obtain rfl := Option.some.inj hcall
      refine ⟨r, by rw [hlen, List.getElem?_concat_length], ?_⟩
      rw [numberedCall, SessionCourse.callFor, htranscript, List.take_of_length_le (by simp [hlen]),
        List.map_append]
      rfl
    · have hlt := (List.getElem?_eq_some_iff.1 hcall).1
      simp only [SessionCourse.turn, List.length_append, List.length_singleton] at hlt
      omega
  · simp [SessionCourse.turn, h.tokens_eq]

theorem step (h : Numbered setup answers rs c) (item : Inbound) :
    Numbered setup answers (rs ++ requests [item]) (SessionCourse.step setup answers c item) := by
  cases hr : c.reason? with
  | some reason =>
    rw [step_of_reason? hr]
    exact h.append (by simp [hr]) _
  | none =>
    cases item with
    | finish =>
      rw [step_finish hr]
      exact (List.append_nil rs).symm ▸ h.close _
    | failure status =>
      rw [step_failure hr]
      exact (List.append_nil rs).symm ▸ h.close _
    | fragment r =>
      cases hmessage : r.message.isEmpty with
      | true =>
        have hreq : requests [.fragment r] = [] := by
          simp only [requests, List.filterMap, hmessage, if_true]
        rw [step_fragment_of_isEmpty hmessage, hreq, List.append_nil]
        exact h
      | false =>
        have hreq : requests [.fragment r] = [r] := by
          simp only [requests, List.filterMap, hmessage, Bool.false_eq_true, if_false]
        rw [step_fragment hr hmessage, hreq]
        exact h.turn hr r

theorem foldl_step (h : Numbered setup answers rs c) (items : List Inbound) :
    Numbered setup answers (rs ++ requests items)
      (items.foldl (SessionCourse.step setup answers) c) := by
  induction items generalizing rs c with
  | nil => simpa [requests] using h
  | cons item items ih =>
    have hsplit : requests (item :: items) = requests [item] ++ requests items := by
      simp [requests, List.filterMap_cons]
      split <;> rfl
    rw [List.foldl_cons, hsplit, ← List.append_assoc]
    exact ih (h.step item)

end Numbered

/-- The calls of the course of a stream are those of its fragments, by their numbers. -/
theorem numbered_of (items : List Inbound) :
    Numbered setup answers (requests items) (of setup answers items) := by
  have hinit : Numbered setup answers [] ({} : SessionCourse) :=
    ⟨Nat.le_refl _, fun _ => rfl, rfl, by simp, rfl⟩
  exact hinit.foldl_step items

end SessionCourse

end StreamedInference
