import StreamedInference.Generation.Consumers
import StreamedInference.Proofs.Generation.Ledger
import StreamedInference.Proofs.Scheduling.Directory

/-!
# The moves of consumers

What happens around an accelerator with consumers is one of a few moves, each of them told from the
others by what has happened. All of them keep consumers orderly: those whose names wait at the gate
want a call, those who own a unit have a stream or have dropped one, and a unit has been left alone
exactly if its consumer has dropped the stream.

## Main definitions

* `Consumers.Action`, `Consumers.act`: what consumers do, and those who drive a call from outside.
* `Consumers.Move`: a move.
* `Consumers.Orderly`: how consumers stand to the names at the gate and of the units.

## Main results

* `Consumers.move_act`, `Consumers.move_of_step?`: all that happens is a move.
* `Consumers.Orderly.move`: every move keeps consumers orderly.
-/

namespace StreamedInference

namespace Consumers

/-- What consumers do, and those who drive a call from outside. -/
inductive Action (ι : Type) where
  /-- A consumer comes in and wants a call. -/
  | want (p : ι) (call : GenerateCall)
  /-- A consumer drops its stream. -/
  | drop (p : ι)
  /-- A consumer asks its stream for the next item. -/
  | poll (p : ι)
  /-- The call that is driven from outside emits a fragment. -/
  | emit (text : String)
  /-- The call that is driven from outside is to end. -/
  | conclude (ending : Ending)
deriving DecidableEq, Repr

variable {ι : Type} [DecidableEq ι]

/-- Carries out an action; one that does not suit has no effect. -/
def act (c : Consumers ι) : Action ι → Consumers ι
  | .want p call => c.want p call
  | .drop p => c.drop p
  | .poll p =>
    match c.next p with
    | some (_, c') => c'
    | none => c
  | .emit text =>
    match c.accelerator.emit? text with
    | some (_, a) => { c with accelerator := a }
    | none => c
  | .conclude ending =>
    match c.accelerator.conclude? ending with
    | some a => { c with accelerator := a }
    | none => c

/-! ### Moves -/

/-- A move, and what has happened in it. -/
inductive Move (c : Consumers ι) : Action ι ⊕ ConsumerTask ι → Consumers ι → Prop
  /-- An action does not suit. -/
  | rests {a : Action ι}
      (hs : ∀ p, a = .poll p ∨ a = .drop p → c.status? p ≠ some .streaming)
      (hd : ∀ text, a = .emit text → c.accelerator.drivenPlace? = none) : Move c (.inl a) c
  | wants {p : ι} {call : GenerateCall} (hs : c.status? p = none) :
      Move c (.inl (.want p call)) { c with parties := c.parties ++ [(p, .wanting call false)] }
  | polls {p : ι} (hs : c.status? p = some .streaming) :
      Move c (.inl (.poll p)) { c with accelerator := c.accelerator.take p }
  | drops {p : ι} (hs : c.status? p = some .streaming) :
      Move c (.inl (.drop p))
        { c.setStatus p .dropped with accelerator := c.accelerator.detach p }
  | emits {n : Nat} {u : GenerationUnit ι} {text : String}
      (hn : c.accelerator.drivenPlace? = some n) (hu : c.accelerator.units[n]? = some u) :
      Move c (.inl (.emit text)) { c with accelerator :=
        { c.accelerator with units := c.accelerator.units.set n (u.emit text) } }
  | concludes {n : Nat} {u : GenerationUnit ι} {ending : Ending}
      (hn : c.accelerator.drivenPlace? = some n) (hu : c.accelerator.units[n]? = some u) :
      Move c (.inl (.conclude ending)) { c with accelerator :=
        { c.accelerator with
          units := c.accelerator.units.set n { u with script := some ⟨[], ending⟩ } } }
  | asks {p : ι} {call : GenerateCall} (hs : c.status? p = some (.wanting call false)) :
      Move c (.inr (.start p))
        { c.setStatus p (.wanting call true) with accelerator := c.accelerator.request p }
  | starts {p : ι} {call : GenerateCall} (hs : c.status? p = some (.wanting call true))
      (hm : c.accelerator.gate.mayEnter p = true) :
      Move c (.inr (.start p))
        { c.setStatus p .streaming with accelerator := c.accelerator.start p call }
  /-- The call of a unit goes on. -/
  | calls {n : Nat} {u u' : GenerationUnit ι} {events : List LogEvent}
      (hu : c.accelerator.units[n]? = some u) (h : u.callStep? = some (u', events)) :
      Move c (.inr (.unit n)) { c with
        accelerator := { c.accelerator with units := c.accelerator.units.set n u' }
        log := c.log ++ events }
  /-- A unit leaves the gate. -/
  | leaves {n : Nat} {u : GenerationUnit ι} (hu : c.accelerator.units[n]? = some u)
      (he : u.ending.isSome = true) (hf : u.finished = false) :
      Move c (.inr (.unit n)) { c with
        accelerator := { c.accelerator with
          gate := c.accelerator.gate.release u.owner
          units := c.accelerator.units.set n { u with finished := true } }
        log := c.log ++ [] }

theorem next_eq_none {c : Consumers ι} {p : ι} (h : c.status? p ≠ some .streaming) :
    c.next p = none := by
  unfold next
  split
  · exact absurd ‹_› h
  · rfl

theorem next_eq_some {c : Consumers ι} {p : ι} (h : c.status? p = some .streaming) :
    c.next p = some (c.accelerator.offer p, { c with accelerator := c.accelerator.take p }) := by
  simp [next, h]

/-- What happens from outside is a move. -/
theorem move_act (c : Consumers ι) (a : Action ι) : c.Move (.inl a) (c.act a) := by
  cases a with
  | want p call =>
    rw [act, want]
    split
    · exact .rests nofun nofun
    · rename_i hs
      exact .wants (by simpa using hs)
  | drop p =>
    rw [act, drop]
    split
    · exact .drops ‹_›
    · rename_i hs
      refine .rests ?_ nofun
      rintro q (h | h)
      · cases h
      · obtain rfl := Action.drop.inj h
        exact hs
  | poll p =>
    rw [act]
    by_cases hs : c.status? p = some .streaming
    · rw [next_eq_some hs]
      exact .polls hs
    · rw [next_eq_none hs]
      refine .rests ?_ nofun
      rintro q (h | h)
      · obtain rfl := Action.poll.inj h
        exact hs
      · cases h
  | emit text =>
    rw [act, Accelerator.emit?]
    cases hn : c.accelerator.drivenPlace? with
    | none => exact .rests nofun fun _ _ => hn
    | some n =>
      have hlt := (List.findIdx?_eq_some_iff_getElem.1 hn).1
      simp only [List.getElem?_eq_getElem hlt]
      exact .emits hn (List.getElem?_eq_getElem hlt)
  | conclude ending =>
    rw [act, Accelerator.conclude?]
    cases hn : c.accelerator.drivenPlace? with
    | none => exact .rests nofun nofun
    | some n =>
      have hlt := (List.findIdx?_eq_some_iff_getElem.1 hn).1
      simp only [List.getElem?_eq_getElem hlt]
      exact .concludes hn (List.getElem?_eq_getElem hlt)

/-- A step of a task is a move. -/
theorem move_of_step? {c c' : Consumers ι} {t : ConsumerTask ι} (h : c.step? t = some c') :
    c.Move (.inr t) c' := by
  cases t with
  | start p =>
    unfold step? at h
    dsimp only at h
    split at h
    · obtain rfl := Option.some.inj h
      exact .asks ‹_›
    · split at h
      · obtain rfl := Option.some.inj h
        exact .starts ‹_› ‹_›
      · cases h
    · cases h
  | unit n =>
    obtain ⟨progress, hp, rfl⟩ := Option.map_eq_some_iff.1 h
    obtain ⟨u, hu, ⟨u', events, hstep, rfl⟩ | ⟨he, hf, rfl⟩⟩ := Accelerator.exists_of_unitStep? hp
    · exact .calls hu hstep
    · exact .leaves hu he hf

/-! #### What units do -/

theorem works_of_emits {a : Accelerator ι} {n : Nat} {u : GenerationUnit ι}
    (hn : a.drivenPlace? = some n) (hu : a.units[n]? = some u) (text : String) :
    a.Works { a with units := a.units.set n (u.emit text) } :=
  .advance hu
    (GenerationUnit.advances_emit (Accelerator.isRunning_of_drivenPlace? hn hu) u.script text)
    (GenerationUnit.emit_finished u text)

theorem works_of_concludes {a : Accelerator ι} {n : Nat} {u : GenerationUnit ι}
    (hu : a.units[n]? = some u) (script : Option CallScript) :
    a.Works { a with units := a.units.set n { u with script := script } } :=
  .advance hu (u.advances_script script) rfl

theorem works_of_calls {a : Accelerator ι} {n : Nat} {u u' : GenerationUnit ι}
    {events : List LogEvent} (hu : a.units[n]? = some u) (h : u.callStep? = some (u', events)) :
    a.Works { a with units := a.units.set n u' } :=
  .advance hu (GenerationUnit.advances_callStep? h).1 (GenerationUnit.advances_callStep? h).2

/-! ### What consumers are doing -/

/-- Nobody else begins to do something else. -/
theorem status?_setStatus {c : Consumers ι} {p : ι} {s₀ : ConsumerStatus}
    (h : c.status? p = some s₀) (s : ConsumerStatus) (a : Accelerator ι) (q : ι) :
    ({ c.setStatus p s with accelerator := a } : Consumers ι).status? q =
      if q = p then some s else c.status? q := by
  simp only [status?] at h ⊢
  simp [setStatus, lookup_replace, h]

/-- Nobody else comes in. -/
theorem status?_append {c : Consumers ι} {p : ι} (h : c.status? p = none) (s : ConsumerStatus)
    (q : ι) : ({ c with parties := c.parties ++ [(p, s)] } : Consumers ι).status? q =
      if q = p then some s else c.status? q := by
  exact lookup_concat h q s

/-! ### How consumers stand to the gate and to the units -/

omit [DecidableEq ι] in
theorem owner_ne_of_not_mem {a : Accelerator ι} {p : ι} (hp : p ∉ a.owners)
    {u : GenerationUnit ι} (hu : u ∈ a.units) : u.owner ≠ p :=
  ne_of_mem_of_not_mem (Accelerator.owner_mem_owners hu) hp

/-- Who waits at the gate wants a call; who owns a unit has a stream or has dropped it; no name
occurs twice; and a unit is left alone when its stream is dropped. -/
structure Orderly (c : Consumers ι) : Prop where
  guarded : c.accelerator.Guarded
  wanting_of : ∀ p ∈ c.accelerator.gate.queue, ∃ call, c.status? p = some (.wanting call true)
  mem_owners_iff : ∀ p, p ∈ c.accelerator.owners ↔
    c.status? p = some .streaming ∨ c.status? p = some .dropped
  nodup_queue : c.accelerator.gate.queue.Nodup
  nodup_owners : c.accelerator.owners.Nodup
  detached_iff : ∀ u ∈ c.accelerator.units,
    u.detached = true ↔ c.status? u.owner = some .dropped

namespace Orderly

variable {c c' : Consumers ι}

/-- Before anybody has come in. -/
theorem init (engine : Engine) :
    Orderly ({ accelerator := { engine := engine } } : Consumers ι) where
  guarded := .init engine
  wanting_of _ h := by cases h
  mem_owners_iff p := by simp [status?, Accelerator.owners]
  nodup_queue := List.nodup_nil
  nodup_owners := List.nodup_nil
  detached_iff _ h := by cases h

/-- Units do something. -/
theorem works (h : c.Orderly) {a : Accelerator ι} (hw : c.accelerator.Works a)
    (log : List LogEvent) : Orderly { c with accelerator := a, log := log } where
  guarded := h.guarded.works hw
  wanting_of := hw.queue_eq ▸ h.wanting_of
  mem_owners_iff := Accelerator.owners_congr hw.ledger_eq ▸ h.mem_owners_iff
  nodup_queue := hw.queue_eq ▸ h.nodup_queue
  nodup_owners := Accelerator.owners_congr hw.ledger_eq ▸ h.nodup_owners
  detached_iff u' hu' := by
    obtain ⟨n, hn⟩ := List.getElem?_of_mem hu'
    obtain ⟨u, hu, hadv⟩ := hw.exists_origin hn
    rw [hadv.detached_eq, hadv.owner_eq]
    exact h.detached_iff u (List.mem_of_getElem? hu)

theorem not_mem_queue (h : c.Orderly) {p : ι}
    (hs : ∀ call, c.status? p ≠ some (.wanting call true)) : p ∉ c.accelerator.gate.queue :=
  fun hp => by
    obtain ⟨call, hp⟩ := h.wanting_of p hp
    exact hs call hp

theorem not_mem_owners (h : c.Orderly) {p : ι} (hs : c.status? p ≠ some .streaming)
    (hd : c.status? p ≠ some .dropped) : p ∉ c.accelerator.owners := fun hp =>
  ((h.mem_owners_iff p).1 hp).elim hs hd

/-- Consumers stay orderly if one of them begins to do something else, and the gate and the units
agree with it. -/
theorem of_status (h : c.Orderly) {p : ι} {s : ConsumerStatus}
    (hstatus : ∀ q, c'.status? q = if q = p then some s else c.status? q)
    (hg : c'.accelerator.Guarded)
    (hqueue : ∀ q ∈ c'.accelerator.gate.queue,
      (q = p ∧ ∃ call, s = .wanting call true) ∨ (q ≠ p ∧ q ∈ c.accelerator.gate.queue))
    (hnodup : c'.accelerator.gate.queue.Nodup)
    (howners : ∀ q, q ∈ c'.accelerator.owners ↔
      (q = p ∧ (s = .streaming ∨ s = .dropped)) ∨ (q ≠ p ∧ q ∈ c.accelerator.owners))
    (hnodup' : c'.accelerator.owners.Nodup)
    (hunits : ∀ u ∈ c'.accelerator.units,
      (u.owner = p ∧ (u.detached = true ↔ s = .dropped)) ∨
        (u.owner ≠ p ∧ u ∈ c.accelerator.units)) : c'.Orderly where
  guarded := hg
  wanting_of q hq := by
    rw [hstatus]
    obtain ⟨rfl, call, rfl⟩ | ⟨hne, hq⟩ := hqueue q hq
    · exact ⟨call, if_pos rfl⟩
    · rw [if_neg hne]
      exact h.wanting_of q hq
  mem_owners_iff q := by
    rw [hstatus, howners]
    by_cases hq : q = p
    · simp [hq]
    · simp [hq, h.mem_owners_iff]
  nodup_queue := hnodup
  nodup_owners := hnodup'
  detached_iff u hu := by
    rw [hstatus]
    obtain ⟨hp, hd⟩ | ⟨hne, hu⟩ := hunits u hu
    · simp [hp, hd]
    · rw [if_neg hne]
      exact h.detached_iff u hu

theorem wants (h : c.Orderly) {p : ι} (hs : c.status? p = none) (call : GenerateCall) :
    Orderly { c with parties := c.parties ++ [(p, .wanting call false)] } := by
  have hq := h.not_mem_queue (p := p) (by simp [hs])
  have ho := h.not_mem_owners (p := p) (by simp [hs]) (by simp [hs])
  refine h.of_status (status?_append hs _) h.guarded
    (fun q hq' => .inr ⟨ne_of_mem_of_not_mem hq' hq, hq'⟩) h.nodup_queue (fun q => ?_)
    h.nodup_owners fun u hu => .inr ⟨owner_ne_of_not_mem ho hu, hu⟩
  simpa using fun hq' => ne_of_mem_of_not_mem hq' ho

theorem asks (h : c.Orderly) {p : ι} {call : GenerateCall}
    (hs : c.status? p = some (.wanting call false)) :
    Orderly { c.setStatus p (.wanting call true) with accelerator := c.accelerator.request p } := by
  have hq := h.not_mem_queue (p := p) (by simp [hs])
  have ho := h.not_mem_owners (p := p) (by simp [hs]) (by simp [hs])
  refine h.of_status (status?_setStatus hs _ _) (h.guarded.step (.request p)) (fun q hq' => ?_) ?_
    (fun q => ?_) h.nodup_owners fun u hu => .inr ⟨owner_ne_of_not_mem ho hu, hu⟩
  · rw [Accelerator.request, Gate.queue_request] at hq'
    rcases List.mem_append.1 hq' with hq' | hq'
    · exact .inr ⟨ne_of_mem_of_not_mem hq' hq, hq'⟩
    · exact .inl ⟨List.mem_singleton.1 hq', call, rfl⟩
  · rw [Accelerator.request, Gate.queue_request, List.nodup_append]
    refine ⟨h.nodup_queue, by simp, fun q hq' r hr => ?_⟩
    rw [List.mem_singleton.1 hr]
    exact ne_of_mem_of_not_mem hq' hq
  · simpa [Accelerator.request, Accelerator.owners] using
      fun hq' => ne_of_mem_of_not_mem hq' ho

/-- The consumer leaves the queue at its head, and its unit is new. -/
theorem starts (h : c.Orderly) {p : ι} {call : GenerateCall}
    (hs : c.status? p = some (.wanting call true)) (hm : c.accelerator.gate.mayEnter p = true) :
    Orderly { c.setStatus p .streaming with accelerator := c.accelerator.start p call } := by
  have ho := h.not_mem_owners (p := p) (by simp [hs]) (by simp [hs])
  have hqueue := Gate.queue_eq_cons_enter hm
  have hnodup := h.nodup_queue
  rw [hqueue, List.nodup_cons] at hnodup
  refine h.of_status (status?_setStatus hs _ _) (h.guarded.step (.start p call hm))
    (fun q hq' => ?_) hnodup.2 (fun q => ?_) ?_ fun u hu => ?_
  · refine .inr ⟨ne_of_mem_of_not_mem hq' hnodup.1, ?_⟩
    rw [hqueue]
    exact List.mem_cons_of_mem _ hq'
  · rw [Accelerator.owners_start, List.mem_append, List.mem_singleton]
    constructor
    · rintro (hq' | rfl)
      · exact .inr ⟨ne_of_mem_of_not_mem hq' ho, hq'⟩
      · exact .inl ⟨rfl, .inl rfl⟩
    · rintro (⟨rfl, -⟩ | ⟨-, hq'⟩)
      · exact .inr rfl
      · exact .inl hq'
  · rw [Accelerator.owners_start, List.nodup_append]
    refine ⟨h.nodup_owners, by simp, fun q hq' r hr => ?_⟩
    rw [List.mem_singleton.1 hr]
    exact ne_of_mem_of_not_mem hq' ho
  · rcases List.mem_append.1 hu with hu | hu
    · exact .inr ⟨owner_ne_of_not_mem ho hu, hu⟩
    · rw [List.mem_singleton.1 hu]
      exact .inl ⟨rfl, by simp⟩

theorem drops (h : c.Orderly) {p : ι} (hs : c.status? p = some .streaming) :
    Orderly { c.setStatus p .dropped with accelerator := c.accelerator.detach p } := by
  have hq := h.not_mem_queue (p := p) (by simp [hs])
  have howners := Accelerator.owners_congr (c.accelerator.ledger_detach p)
  refine h.of_status (status?_setStatus hs _ _) (h.guarded.step (.detach p))
    (fun q hq' => .inr ⟨ne_of_mem_of_not_mem hq' hq, hq'⟩) h.nodup_queue (fun q => ?_)
    (howners ▸ h.nodup_owners) fun u' hu' => ?_
  · rw [howners]
    by_cases hqp : q = p
    · simp [hqp, h.mem_owners_iff, hs]
    · simp [hqp]
  · obtain ⟨u, hu, rfl⟩ := List.mem_map.1 hu'
    by_cases hp : u.owner = p
    · rw [if_pos hp]
      exact .inl ⟨hp, by simp [GenerationUnit.detach]⟩
    · rw [if_neg hp]
      exact .inr ⟨hp, hu⟩

theorem polls (h : c.Orderly) (p : ι) :
    Orderly { c with accelerator := c.accelerator.take p } where
  guarded := h.guarded.step (.take p)
  wanting_of := h.wanting_of
  mem_owners_iff := Accelerator.owners_congr (c.accelerator.ledger_take p) ▸ h.mem_owners_iff
  nodup_queue := h.nodup_queue
  nodup_owners := Accelerator.owners_congr (c.accelerator.ledger_take p) ▸ h.nodup_owners
  detached_iff u' hu' := by
    obtain ⟨u, hu, rfl⟩ := List.mem_map.1 hu'
    have hd := h.detached_iff u hu
    split
    · rw [GenerationUnit.take_detached, GenerationUnit.take_owner]
      exact hd
    · exact hd

/-- **Every move keeps consumers orderly.** -/
theorem move {m : Action ι ⊕ ConsumerTask ι} (h : c.Orderly) (hm : c.Move m c') : c'.Orderly := by
  cases hm with
  | rests => exact h
  | wants hs => exact h.wants hs _
  | asks hs => exact h.asks hs
  | starts hs hm => exact h.starts hs hm
  | drops hs => exact h.drops hs
  | polls hs => exact h.polls _
  | emits hn hu => exact h.works (works_of_emits hn hu _) _
  | concludes hn hu => exact h.works (works_of_concludes hu _) _
  | calls hu hstep => exact h.works (works_of_calls hu hstep) _
  | leaves hu he hf => exact h.works (.leave hu he hf) _

end Orderly

end Consumers

end StreamedInference
