import StreamedInference.Proofs.Generation.Consumers
import StreamedInference.Proofs.Generation.Stream
import StreamedInference.Proofs.Scheduling.History

/-!
# What reaches the consumer of a call

A call and its consumer go on side by side, with other consumers around them, in any order. This
file reads off the history of such a run what a consumer has heard, what the call has handed over,
how many steps its unit has made and whether the consumer has dropped its stream, and compares
them. What is heard is the beginning of what the call's script has for a consumer, whatever the
order; what the call does depends on nothing but its own steps.

## Main definitions

* `Consumers.History`: a run from the moment before anybody has come in.
* `Consumers.heard`, `Consumers.handed`, `Consumers.unitSteps`, `Consumers.hasDropped`: what is read
  off a history.
* `Consumers.CallMove`: what a move is for the call of one unit.
* `Consumers.Told`, `Consumers.Kept`, `Consumers.Played`: how this agrees with the units.

## Main results

* `Consumers.History.told`: what consumers have heard are the first items of every script that fits.
* `Consumers.History.kept`: what a unit keeps is what its call has handed over, without the empty
  fragments.
* `Consumers.History.played`: how far a call has come is told by the steps of its unit.
* `Consumers.History.hasDropped_iff`: who has dropped a stream.
* `Consumers.stream_delivers`: what a stream delivers.
-/

namespace StreamedInference

/-- The fragment that the call hands over in its next step, if it does. -/
def GenerationUnit.fragment? {ι : Type} (u : GenerationUnit ι) : Option String :=
  match u.ending, u.script with
  | none, some ⟨text :: _, _⟩ => some text
  | _, _ => none

/-- In a step of its call a unit keeps what is handed over, unless it is empty. -/
theorem GenerationUnit.emitted_of_callStep? {ι : Type} {u u' : GenerationUnit ι}
    {events : List LogEvent} (h : u.callStep? = some (u', events)) :
    u'.emitted = u.emitted ++ u.fragment?.toList.filter (!·.isEmpty) := by
  unfold callStep? at h
  split at h
  · rename_i text emits ending he hs
    obtain ⟨rfl, -⟩ := Prod.mk.inj (Option.some.inj h)
    simp [emit_emitted, fragment?, he, hs]
  · rename_i ending he hs
    obtain ⟨rfl, -⟩ := Prod.mk.inj (Option.some.inj h)
    simp [fragment?, he, hs]
  · cases h

/-- When the call of a unit ends, there is nothing left in its script but that ending. -/
theorem GenerationUnit.script_of_callStep? {ι : Type} {u u' : GenerationUnit ι}
    {events : List LogEvent} {e : Ending} (h : u.callStep? = some (u', events))
    (he' : u'.ending = some e) : u'.script = some ⟨[], e⟩ := by
  unfold callStep? at h
  split at h
  · rename_i he hs
    obtain ⟨rfl, -⟩ := Prod.mk.inj (Option.some.inj h)
    rw [emit_ending] at he'
    exact absurd he' (by simp [he])
  · rename_i ending he hs
    obtain ⟨rfl, -⟩ := Prod.mk.inj (Option.some.inj h)
    obtain rfl : ending = e := Option.some.inj he'
    exact hs
  · cases h

theorem GenerationUnit.fragment?_of_ending {ι : Type} {u : GenerationUnit ι}
    (h : u.ending.isSome = true) : u.fragment? = none := by
  obtain ⟨e, he⟩ := Option.isSome_iff_exists.1 h
  simp [fragment?, he]

namespace Consumers

variable {ι : Type} [DecidableEq ι]

/-! ### What is read off a history -/

/-- The moves of a run, the latest first, with the states in which they were made. -/
abbrev Past (ι : Type) := List (Consumers ι × (Action ι ⊕ ConsumerTask ι))

/-- A run from the moment before anybody has come in. -/
abbrev History (engine : Engine) : Past ι → Consumers ι → Prop :=
  tasks.History act { accelerator := { engine := engine } }

/-- What a consumer hears in a move. -/
def hears (p : ι) : Consumers ι × (Action ι ⊕ ConsumerTask ι) → List Offer
  | (c, .inl (.poll q)) => if q = p then (c.next q).elim [] (·.1.toList) else []
  | _ => []

/-- All that a consumer has heard, in order. -/
def heard (p : ι) (past : Past ι) : List Offer :=
  past.reverse.flatMap (hears p)

/-- What the call of the unit at a place hands over in a move. -/
def hands (n : Nat) : Consumers ι × (Action ι ⊕ ConsumerTask ι) → List String
  | (c, .inl (.emit text)) => if c.accelerator.drivenPlace? = some n then [text] else []
  | (c, .inr (.unit m)) =>
    if m = n then (c.accelerator.units[n]?.bind (·.fragment?)).toList else []
  | _ => []

/-- All that the call of the unit at a place has handed over, in order, the empty fragments among
it. -/
def handed (n : Nat) (past : Past ι) : List String :=
  past.reverse.flatMap (hands n)

/-- How many steps the unit at a place has made. -/
def unitSteps (n : Nat) (past : Past ι) : Nat :=
  past.countP fun e => e.2 = .inr (.unit n)

/-- The consumer has dropped its stream. -/
def hasDropped (p : ι) (past : Past ι) : Bool :=
  past.any fun e => e.2 = .inl (.drop p) ∧ e.1.status? p = some .streaming

variable {engine : Engine} {c c' : Consumers ι} {m : Action ι ⊕ ConsumerTask ι} {n : Nat}
  {past : Past ι} {u u' : GenerationUnit ι}

theorem heard_cons (p : ι) (e : Consumers ι × (Action ι ⊕ ConsumerTask ι)) :
    heard p (e :: past) = heard p past ++ hears p e := by
  simp [heard]

omit [DecidableEq ι] in
theorem handed_cons (n : Nat) (e : Consumers ι × (Action ι ⊕ ConsumerTask ι)) :
    handed n (e :: past) = handed n past ++ hands n e := by
  simp [handed]

/-- What holds before anybody has come in and is kept by every move holds at any time. -/
theorem History.of_move {P : Past ι → Consumers ι → Prop}
    (init : P [] { accelerator := { engine := engine } })
    (keep : ∀ (past : Past ι) (c c' : Consumers ι) (m : Action ι ⊕ ConsumerTask ι),
      History engine past c → P past c → c.Move m c' → P ((c, m) :: past) c')
    (h : History engine past c) : P past c :=
  Tasks.History.of_move move_act move_of_step? init keep h

theorem History.orderly (h : History engine past c) : c.Orderly :=
  History.of_move (P := fun _ c => c.Orderly) (.init engine) (fun _ _ _ _ _ ho hm => ho.move hm) h

theorem History.engine_eq (h : History engine past c) : c.accelerator.engine = engine := by
  refine History.of_move (P := fun _ c => c.accelerator.engine = engine) rfl
    (fun _ _ _ _ _ he hm => ?_) h
  cases hm <;> exact he

/-! ### Who has dropped a stream -/

theorem Move.status?_eq_dropped_iff (hm : c.Move m c') (q : ι) :
    c'.status? q = some .dropped ↔
      c.status? q = some .dropped ∨ m = .inl (.drop q) ∧ c.status? q = some .streaming := by
  cases hm with
  | rests hs hd =>
    refine ⟨.inl, fun h => h.resolve_right ?_⟩
    rintro ⟨heq, hq⟩
    exact hs q (.inr (Sum.inl.inj heq)) hq
  | @wants p call hs =>
    rw [status?_append hs]
    by_cases hq : q = p <;> simp [hq, hs]
  | @asks p call hs | @starts p call hs =>
    rw [status?_setStatus hs]
    by_cases hq : q = p <;> simp [hq, hs]
  | @drops p hs =>
    rw [status?_setStatus hs]
    by_cases hq : q = p
    · simp [hq, hs]
    · simp [hq, Ne.symm hq]
  | polls | emits | concludes | calls | leaves => simp [status?]

theorem History.hasDropped_iff (h : History engine past c) (p : ι) :
    hasDropped p past = true ↔ c.status? p = some .dropped := by
  refine History.of_move (P := fun past c => hasDropped p past = true ↔ c.status? p = some .dropped)
    (by simp [hasDropped, status?]) (fun past c c' m _ ih hm => ?_) h
  rw [hm.status?_eq_dropped_iff, ← ih]
  simp [hasDropped, or_comm]

/-! ### What consumers have heard -/

/-- The consumers of all units have heard what they should, and all others have heard nothing. -/
structure Told (past : Past ι) (c : Consumers ι) :
    Prop where
  hears : ∀ u ∈ c.accelerator.units, u.Hears (heard u.owner past)
  heard_eq_nil : ∀ p, p ∉ c.accelerator.owners → heard p past = []

namespace Told

theorem init (engine : Engine) : Told ([] : Past ι) { accelerator := { engine := engine } } where
  hears _ h := by cases h
  heard_eq_nil _ _ := rfl

/-- A move in which nobody hears anything: units may do something, and be left alone, and new ones
may come. -/
theorem of_silent (h : Told past c) (hm : ∀ p, Consumers.hears p (c, m) = [])
    (hunits : ∀ u' ∈ c'.accelerator.units,
      (∃ u ∈ c.accelerator.units, u'.owner = u.owner ∧ ∀ items, u.Hears items → u'.Hears items) ∨
        (u'.owner ∉ c.accelerator.owners ∧ u'.Hears []))
    (howners : ∀ p ∈ c.accelerator.owners, p ∈ c'.accelerator.owners) :
    Told ((c, m) :: past) c' := by
  have heq : ∀ p, heard p ((c, m) :: past) = heard p past := fun p => by
    rw [heard_cons, hm, List.append_nil]
  refine ⟨fun u' hu' => ?_, fun p hp => ?_⟩
  · rw [heq]
    obtain ⟨u, hu, howner, hkeep⟩ | ⟨hnew, hinit⟩ := hunits u' hu'
    · rw [howner]
      exact hkeep _ (h.hears u hu)
    · rw [h.heard_eq_nil _ hnew]
      exact hinit
  · rw [heq]
    exact h.heard_eq_nil p fun hp' => hp (howners p hp')

theorem of_works (h : Told past c) {a : Accelerator ι} (hw : c.accelerator.Works a)
    (log : List LogEvent) (hm : ∀ p, Consumers.hears p (c, m) = []) :
    Told ((c, m) :: past) { c with accelerator := a, log := log } := by
  refine h.of_silent hm (fun u' hu' => .inl ?_) fun p hp => ?_
  · obtain ⟨n, hn⟩ := List.getElem?_of_mem hu'
    obtain ⟨u, hu, hadv⟩ := hw.exists_origin hn
    exact ⟨u, List.mem_of_getElem? hu, hadv.owner_eq, fun _ hh => hh.of_advances hadv⟩
  · exact Accelerator.owners_congr hw.ledger_eq ▸ hp

/-- A consumer asks its stream for the next item. -/
theorem polls (h : Told past c) (ho : c.Orderly) {p : ι} (hs : c.status? p = some .streaming) :
    Told ((c, .inl (.poll p)) :: past) { c with accelerator := c.accelerator.take p } := by
  have howners := Accelerator.owners_congr (c.accelerator.ledger_take p)
  have hheard : ∀ q, heard q ((c, .inl (.poll p)) :: past) =
      heard q past ++ if p = q then (c.accelerator.offer p).toList else [] := by
    intro q
    rw [heard_cons, Consumers.hears, next_eq_some hs]
    rfl
  refine ⟨fun u' hu' => ?_, fun q hq => ?_⟩
  · obtain ⟨u, hu, rfl⟩ := List.mem_map.1 hu'
    have hhears := h.hears u hu
    by_cases hp : u.owner = p
    · rw [if_pos hp, GenerationUnit.take_owner, hheard, if_pos hp.symm, ← hp,
        Accelerator.offer_eq ho.nodup_owners hu]
      exact hhears.take
    · rw [if_neg hp, hheard, if_neg (Ne.symm hp), List.append_nil]
      exact hhears
  · rw [howners] at hq
    have hp : p ≠ q := by
      rintro rfl
      exact hq ((ho.mem_owners_iff p).2 (.inl hs))
    rw [hheard, if_neg hp, List.append_nil]
    exact h.heard_eq_nil q hq

/-- **Whatever happens, consumers have heard what they should.** -/
theorem move (h : Told past c) (ho : c.Orderly) (hm : c.Move m c') : Told ((c, m) :: past) c' := by
  cases hm with
  | @rests a hs hd =>
    refine h.of_silent (fun p => ?_) (fun u hu => .inl ⟨u, hu, rfl, fun _ => id⟩) fun _ => id
    cases a with
    | poll q =>
      rw [Consumers.hears, next_eq_none (hs q (.inl rfl))]
      exact ite_self _
    | _ => rfl
  | wants | asks =>
    exact h.of_silent (fun _ => rfl) (fun u hu => .inl ⟨u, hu, rfl, fun _ => id⟩) fun _ => id
  | @starts p call hs hmay =>
    have hp := ho.not_mem_owners (p := p) (by simp [hs]) (by simp [hs])
    refine h.of_silent (fun _ => rfl) (fun u hu => ?_) fun q hq => ?_
    · rcases List.mem_append.1 hu with hu | hu
      · exact .inl ⟨u, hu, rfl, fun _ => id⟩
      · rw [List.mem_singleton.1 hu]
        exact .inr ⟨hp, .init rfl rfl⟩
    · rw [Accelerator.owners_start]
      exact List.mem_append_left _ hq
  | @drops p hs =>
    refine h.of_silent (fun _ => rfl) (fun u' hu' => .inl ?_) fun q hq => ?_
    · obtain ⟨u, hu, rfl⟩ := List.mem_map.1 hu'
      refine ⟨u, hu, ?_⟩
      split
      · exact ⟨rfl, fun _ hh => hh.detach⟩
      · exact ⟨rfl, fun _ => id⟩
    · exact Accelerator.owners_congr (c.accelerator.ledger_detach p) ▸ hq
  | polls hs => exact h.polls ho hs
  | emits hn hu => exact h.of_works (works_of_emits hn hu _) _ fun _ => rfl
  | concludes hn hu => exact h.of_works (works_of_concludes hu _) _ fun _ => rfl
  | calls hu hstep => exact h.of_works (works_of_calls hu hstep) _ fun _ => rfl
  | leaves hu he hf => exact h.of_works (.leave hu he hf) _ fun _ => rfl

end Told

theorem History.told (h : History engine past c) : Told past c :=
  History.of_move (P := Told) (.init engine) (fun _ _ _ _ h ht hm => ht.move h.orderly hm) h

/-! ### How calls go on -/

/-- What a move is for the call of the unit at place `n`. -/
inductive CallMove (c : Consumers ι) (n : Nat) : Action ι ⊕ ConsumerTask ι → GenerationUnit ι → Prop
  /-- The move is none of the call's. -/
  | aside {m : Action ι ⊕ ConsumerTask ι} {u u' : GenerationUnit ι}
      (hu : c.accelerator.units[n]? = some u) (hsame : u.SameCall u') (hm : m ≠ .inr (.unit n))
      (hd : ∀ text, m = .inl (.emit text) → c.accelerator.drivenPlace? ≠ some n) :
      CallMove c n m u'
  | begins {p : ι} {u' : GenerationUnit ι} (hn : c.accelerator.units.length ≤ n)
      (hs : u'.script = c.accelerator.engine.conduct.script? n u'.call) (hm : u'.emitted = [])
      (he : u'.ending = none) (hf : u'.finished = false) : CallMove c n (.inr (.start p)) u'
  | emits {u : GenerationUnit ι} {text : String} (hn : c.accelerator.drivenPlace? = some n)
      (hu : c.accelerator.units[n]? = some u) : CallMove c n (.inl (.emit text)) (u.emit text)
  | concludes {u : GenerationUnit ι} {ending : Ending} (hn : c.accelerator.drivenPlace? = some n)
      (hu : c.accelerator.units[n]? = some u) :
      CallMove c n (.inl (.conclude ending)) { u with script := some ⟨[], ending⟩ }
  | calls {u u' : GenerationUnit ι} {events : List LogEvent}
      (hu : c.accelerator.units[n]? = some u) (h : u.callStep? = some (u', events)) :
      CallMove c n (.inr (.unit n)) u'
  | leaves {u : GenerationUnit ι} (hu : c.accelerator.units[n]? = some u)
      (he : u.ending.isSome = true) (hf : u.finished = false) :
      CallMove c n (.inr (.unit n)) { u with finished := true }

theorem Move.callMove (hm : c.Move m c') {u' : GenerationUnit ι}
    (hu' : c'.accelerator.units[n]? = some u') : c.CallMove n m u' := by
  -- Only one unit is replaced, the one at place `k`.
  have hset : ∀ {k : Nat} {v : GenerationUnit ι},
      (c.accelerator.units.set k v)[n]? = some u' →
        k = n ∧ u' = v ∨ k ≠ n ∧ c.accelerator.units[n]? = some u' := by
    intro k v h
    by_cases hkn : k = n
    · subst hkn
      have hlt : k < c.accelerator.units.length := by
        simpa using (List.getElem?_eq_some_iff.1 h).1
      rw [List.getElem?_set_self hlt] at h
      exact .inl ⟨rfl, (Option.some.inj h).symm⟩
    · rw [List.getElem?_set_ne hkn] at h
      exact .inr ⟨hkn, h⟩
  have hchange : ∀ {p : ι} {f : GenerationUnit ι → GenerationUnit ι},
      (∀ u : GenerationUnit ι, u.SameCall (f u)) →
        (c.accelerator.change p f).units[n]? = some u' →
          ∃ u, c.accelerator.units[n]? = some u ∧ u.SameCall u' := by
    intro p f hf h
    rw [Accelerator.change, List.getElem?_map] at h
    obtain ⟨u, hu, rfl⟩ := Option.map_eq_some_iff.1 h
    refine ⟨u, hu, ?_⟩
    split
    · exact hf u
    · exact .refl u
  cases hm with
  | rests hs hd =>
    exact .aside hu' (.refl u') (by simp) fun text heq => by simp [hd text (Sum.inl.inj heq)]
  | wants | asks => exact .aside hu' (.refl u') (by simp) (by simp)
  | starts hs hmay =>
    rcases Nat.lt_or_ge n c.accelerator.units.length with hlt | hge
    · rw [Accelerator.start, List.getElem?_append_left hlt] at hu'
      exact .aside hu' (.refl u') (by simp) (by simp)
    · rw [Accelerator.start, List.getElem?_append_right hge] at hu'
      have hn : n = c.accelerator.units.length := by
        have := (List.getElem?_eq_some_iff.1 hu').1
        rw [List.length_singleton] at this
        omega
      subst hn
      obtain rfl : _ = u' := by simpa using hu'
      exact .begins (Nat.le_refl _) rfl rfl rfl rfl
  | polls hs =>
    obtain ⟨u, hu, hsame⟩ := hchange GenerationUnit.sameCall_take hu'
    exact .aside hu hsame (by simp) (by simp)
  | drops hs =>
    obtain ⟨u, hu, hsame⟩ := hchange GenerationUnit.sameCall_detach hu'
    exact .aside hu hsame (by simp) (by simp)
  | emits hk hu =>
    obtain ⟨rfl, rfl⟩ | ⟨hkn, hu'⟩ := hset hu'
    · exact .emits hk hu
    · exact .aside hu' (.refl u') (by simp) fun _ _ => by simp [hk, hkn]
  | concludes hk hu =>
    obtain ⟨rfl, rfl⟩ | ⟨hkn, hu'⟩ := hset hu'
    · exact .concludes hk hu
    · exact .aside hu' (.refl u') (by simp) (by simp)
  | calls hu hstep =>
    obtain ⟨rfl, rfl⟩ | ⟨hkn, hu'⟩ := hset hu'
    · exact .calls hu hstep
    · exact .aside hu' (.refl u') (by simp [hkn]) (by simp)
  | leaves hu he hf =>
    obtain ⟨rfl, rfl⟩ | ⟨hkn, hu'⟩ := hset hu'
    · exact .leaves hu he hf
    · exact .aside hu' (.refl u') (by simp [hkn]) (by simp)

/-- Units do not go away. -/
theorem Move.length_le (hm : c.Move m c') :
    c.accelerator.units.length ≤ c'.accelerator.units.length := by
  cases hm with
  | polls | drops => simp [Accelerator.take, Accelerator.detach, Accelerator.change]
  | starts => simp [Accelerator.start]
  | _ => simp [Accelerator.request]

/-- Only a unit that is there makes a step. -/
theorem Move.lt_of_unit (hm : c.Move (.inr (.unit n)) c') : n < c.accelerator.units.length := by
  cases hm with
  | calls hu | leaves hu => exact (List.getElem?_eq_some_iff.1 hu).1

omit [DecidableEq ι] in
theorem hands_eq_nil (hm : m ≠ .inr (.unit n))
    (hd : ∀ text, m = .inl (.emit text) → c.accelerator.drivenPlace? ≠ some n) :
    hands n (c, m) = [] := by
  rcases m with a | t
  · cases a with
    | emit text => exact if_neg (hd text rfl)
    | _ => rfl
  · cases t with
    | start p => rfl
    | unit k => exact if_neg fun h => hm (by rw [h])

omit [DecidableEq ι] in
theorem hands_unit (hu : c.accelerator.units[n]? = some u) :
    hands n (c, .inr (.unit n)) = u.fragment?.toList := by
  simp [hands, hu]

/-- Nothing is handed over in a place without a unit. -/
theorem Move.hands_eq_nil (hm : c.Move m c') (hn : c.accelerator.units.length ≤ n) :
    hands n (c, m) = [] := by
  refine Consumers.hands_eq_nil ?_ fun text _ hd => ?_
  · rintro rfl
    exact Nat.not_lt.2 hn hm.lt_of_unit
  · exact Nat.not_lt.2 hn (List.findIdx?_eq_some_iff_getElem.1 hd).1

/-- What units keep is what their calls have handed over, but for the empty fragments, and calls
have ended as they were to; nothing has been handed over in a place without a unit. -/
structure Kept (past : Past ι) (c : Consumers ι) : Prop where
  emitted_eq : ∀ {n : Nat} {u : GenerationUnit ι}, c.accelerator.units[n]? = some u →
    u.emitted = (handed n past).filter (!·.isEmpty)
  script_eq : ∀ {n : Nat} {u : GenerationUnit ι} {e : Ending}, c.accelerator.units[n]? = some u →
    u.ending = some e → u.script = some ⟨[], e⟩
  handed_eq_nil : ∀ {n : Nat}, c.accelerator.units.length ≤ n → handed n past = []

theorem Kept.move (h : Kept past c) (hm : c.Move m c') : Kept ((c, m) :: past) c' where
  emitted_eq {n u'} hu' := by
    rw [handed_cons, List.filter_append]
    cases hm.callMove hu' with
    | aside hu hsame hm hd =>
      rw [Consumers.hands_eq_nil hm hd, hsame.emitted_eq, h.emitted_eq hu]
      simp
    | begins hn hs hemitted he hf =>
      rw [h.handed_eq_nil hn, hm.hands_eq_nil hn, hemitted]
      rfl
    | emits hn hu =>
      rw [GenerationUnit.emit_emitted, h.emitted_eq hu, hands, if_pos hn]
    | concludes hn hu => simpa [hands] using h.emitted_eq hu
    | calls hu hstep =>
      rw [hands_unit hu, GenerationUnit.emitted_of_callStep? hstep, h.emitted_eq hu]
    | leaves hu he hf =>
      rw [hands_unit hu, GenerationUnit.fragment?_of_ending he]
      simpa using h.emitted_eq hu
  script_eq {n u' e} hu' hend := by
    cases hm.callMove hu' with
    | aside hu hsame hm hd =>
      rw [hsame.script_eq]
      exact h.script_eq hu (hsame.ending_eq ▸ hend)
    | begins hn hs hemitted he hf => simp [he] at hend
    | emits hn hu =>
      rw [GenerationUnit.emit_script]
      exact h.script_eq hu (GenerationUnit.emit_ending _ _ ▸ hend)
    | concludes hn hu =>
      have hrun := Accelerator.isRunning_of_drivenPlace? hn hu
      rw [GenerationUnit.isRunning, hend] at hrun
      cases hrun
    | calls hu hstep => exact GenerationUnit.script_of_callStep? hstep hend
    | leaves hu he hf =>
      have hscript := h.script_eq hu hend
      exact hscript
  handed_eq_nil {n} hn := by
    have hn' := Nat.le_trans hm.length_le hn
    rw [handed_cons, h.handed_eq_nil hn', hm.hands_eq_nil hn', List.append_nil]

omit [DecidableEq ι] in
/-- What is left of a script goes on where the call stands. -/
theorem Kept.fits (h : Kept past c) (hu : c.accelerator.units[n]? = some u) {rest : CallScript}
    (hs : u.script = some rest) : u.Fits ⟨handed n past ++ rest.emits, rest.ending⟩ where
  emitted_isPrefix := by
    rw [h.emitted_eq hu]
    exact (List.prefix_append _ _).filter _
  ending_eq he := by
    obtain rfl := Option.some.inj (hs.symm.trans (h.script_eq hu he))
    rw [List.append_nil]
    exact ⟨h.emitted_eq hu, rfl⟩

theorem History.kept (h : History engine past c) : Kept past c :=
  History.of_move (P := Kept) ⟨by simp, by simp, fun _ => rfl⟩ (fun _ _ _ _ _ hk hm => hk.move hm) h

/-- Units with a script play it, one move in each of their steps; no steps have been made in a place
without a unit. -/
structure Played (engine : Engine) (past : Past ι) (c : Consumers ι) : Prop where
  plays : ∀ {n : Nat} {u : GenerationUnit ι} {script : CallScript},
    c.accelerator.units[n]? = some u → engine.conduct.script? n u.call = some script →
      u.Plays script (unitSteps n past)
  unitSteps_eq_zero : ∀ {n : Nat}, c.accelerator.units.length ≤ n → unitSteps n past = 0

/-- A call that has a script is not driven from outside. -/
theorem Played.drivenPlace?_ne (h : Played engine past c) (hu : c.accelerator.units[n]? = some u)
    {script : CallScript} (hs : engine.conduct.script? n u.call = some script) :
    c.accelerator.drivenPlace? ≠ some n := by
  intro hn
  obtain ⟨hlt, hd, -⟩ := List.findIdx?_eq_some_iff_getElem.1 hn
  obtain rfl : c.accelerator.units[n] = u :=
    Option.some.inj ((List.getElem?_eq_getElem hlt).symm.trans hu)
  obtain ⟨hrun, hnone⟩ := Bool.and_eq_true_iff.1 hd
  have hplays := h.plays hu hs
  rw [hplays.script_eq (hplays.isRunning_iff.1 hrun)] at hnone
  cases hnone

theorem unitSteps_cons (n : Nat) (e : Consumers ι × (Action ι ⊕ ConsumerTask ι)) :
    unitSteps n (e :: past) = unitSteps n past + if e.2 = .inr (.unit n) then 1 else 0 := by
  simp [unitSteps, List.countP_cons]

theorem Played.move (h : Played engine past c) (hengine : c.accelerator.engine = engine)
    (hm : c.Move m c') : Played engine ((c, m) :: past) c' where
  plays {n u' script} hu' hs := by
    rw [unitSteps_cons]
    cases hm.callMove hu' with
    | aside hu hsame hm hd =>
      rw [if_neg hm]
      exact (h.plays hu (hsame.call_eq ▸ hs)).of_sameCall hsame
    | begins hn hscript hemitted he hf =>
      rw [h.unitSteps_eq_zero hn, if_neg nofun]
      exact .init (hscript.trans (hengine ▸ hs)) hemitted he hf
    | emits hn hu =>
      rw [GenerationUnit.emit_call] at hs
      exact absurd hn (h.drivenPlace?_ne hu hs)
    | concludes hn hu => exact absurd hn (h.drivenPlace?_ne hu hs)
    | calls hu hstep =>
      rw [if_pos rfl]
      refine (h.plays hu ?_).callStep? hstep
      rw [← (GenerationUnit.advances_callStep? hstep).1.call_eq]
      exact hs
    | leaves hu he hf =>
      rw [if_pos rfl]
      exact (h.plays hu hs).leave he hf
  unitSteps_eq_zero {n} hn := by
    have hn' := Nat.le_trans hm.length_le hn
    rw [unitSteps_cons, h.unitSteps_eq_zero hn', if_neg]
    rintro rfl
    exact Nat.not_lt.2 hn' hm.lt_of_unit

theorem History.played (h : History engine past c) : Played engine past c :=
  History.of_move (P := Played engine) ⟨by simp, fun _ => rfl⟩
    (fun _ _ _ _ h hp hm => hp.move h.engine_eq hm) h

/-! ### What a stream delivers -/

/-- A call with a script goes on by itself, and its unit stays in its place. -/
theorem exists_step?_unit (hu : c.accelerator.units[n]? = some u) (hr : u.isRunning = true)
    (hs : u.script.isSome = true) : ∃ c' u', tasks.step? c (.unit n) = some c' ∧
      c'.accelerator.units[n]? = some u' ∧ u'.call = u.call := by
  obtain ⟨⟨u', events⟩, hstep⟩ :=
    Option.isSome_iff_exists.1 (GenerationUnit.isSome_callStep? hr hs)
  have hlt := (List.getElem?_eq_some_iff.1 hu).1
  refine ⟨{ c with
    accelerator := { c.accelerator with units := c.accelerator.units.set n u' }
    log := c.log ++ events }, u', ?_, List.getElem?_set_self hlt,
    (GenerationUnit.advances_callStep? hstep).1.call_eq⟩
  simp only [tasks, step?, Accelerator.unitStep?, hu, hstep, Option.map_some]

/-- A unit that has not left the gate goes on by itself, unless its call is driven from outside. -/
theorem isSome_step?_or_driven (hg : c.accelerator.Guarded)
    (hu : c.accelerator.units[n]? = some u) (hf : u.finished = false) :
    (c.step? (.unit n)).isSome = true ∨ c.accelerator.drivenPlace? = some n := by
  cases he : u.ending with
  | some e =>
    left
    have hcall : u.callStep? = none := by
      unfold GenerationUnit.callStep?
      rw [he]
    simp [step?, Accelerator.unitStep?, hu, hcall, he, hf]
  | none =>
    have hrun : u.isRunning = true := by rw [GenerationUnit.isRunning, he]; rfl
    cases hs : u.script with
    | some script =>
      obtain ⟨c', u', hstep, -⟩ := exists_step?_unit hu hrun (by rw [hs]; rfl)
      exact .inl (Option.isSome_iff_exists.2 ⟨c', hstep⟩)
    | none =>
      right
      -- There is a call that is driven from outside, and no two units are at the gate.
      obtain ⟨k, hk⟩ : ∃ k, c.accelerator.drivenPlace? = some k := by
        refine Option.isSome_iff_exists.1 (List.findIdx?_isSome.trans ?_)
        exact List.any_eq_true.2 ⟨u, List.mem_of_getElem? hu, by simp [hrun, hs]⟩
      obtain ⟨hlt, -, -⟩ := List.findIdx?_eq_some_iff_getElem.1 hk
      have hv := List.getElem?_eq_getElem hlt
      have hrunning := Accelerator.isRunning_of_drivenPlace? hk hv
      have hunfinished := hg.finished_of_isRunning (List.mem_of_getElem? hv) hrunning
      rw [hk, hg.place_unique hu hf hv hunfinished]

/-- **What a stream delivers.** Take any engine, any run with any consumers, and in it any unit.

* Whatever script agrees with what the unit's call has done so far, its consumer has heard the
  first items of it and is offered the next one, unless it has to wait: these are the fragments in
  order but for the empty ones, then the failure if the call fails or breaks down, and from then on
  the end, each time that it asks.
* A consumer that has not dropped the stream is given what is offered. It has to wait only when it
  has heard everything that has been emitted and the unit is still at the gate.
* The end, and that a call broke down, are offered only when the unit has left the gate.
* What the unit keeps is what its call has handed over, but for the empty fragments; what the call
  is still to do agrees with it. If the engine has a script for the call, this agrees with it too,
  and how far the unit has come with the script is told by the number of its own steps. A unit that
  is still at the gate can make its next step, or its call is driven from outside. All this is the
  same whether the stream has been dropped or not.
* A call that hands over a fragment, empty or not, is told that its consumer is there until the
  stream is dropped, and that it is not from then on. -/
theorem stream_delivers (h : History engine past c) (hu : c.accelerator.units[n]? = some u) :
    let items := heard u.owner past
    (∀ script, u.Fits script → items = (List.range items.length).map script.item ∧
      (u.offer = .pending ∨ u.offer = script.item items.length)) ∧
    (hasDropped u.owner past = false → ∃ c', c.next u.owner = some (u.offer, c')) ∧
    (u.offer = .pending → u.emitted.length ≤ items.length ∧ u.finished = false) ∧
    (u.offer = .ended ∨ (∃ f, u.offer = .failed f) ∧ u.ending = some .breakdown →
      u.finished = true ∧ c.accelerator.gate.holder? ≠ some u.owner) ∧
    u.emitted = (handed n past).filter (!·.isEmpty) ∧
    (∀ rest, u.script = some rest → u.Fits ⟨handed n past ++ rest.emits, rest.ending⟩) ∧
    (∀ script, engine.conduct.script? n u.call = some script →
      u.Fits script ∧ u.Plays script (unitSteps n past)) ∧
    (u.finished = false →
      (c.step? (.unit n)).isSome = true ∨ c.accelerator.drivenPlace? = some n) ∧
    u.detached = hasDropped u.owner past ∧
    (c.accelerator.drivenPlace? = some n → ∀ text, ∃ report a,
      c.accelerator.emit? text = some (report, a) ∧
        report.attached = !hasDropped u.owner past) := by
  intro items
  have ho := h.orderly
  have hmem := List.mem_of_getElem? hu
  have hhears := h.told.hears u hmem
  have hdropped : u.detached = hasDropped u.owner past := by
    rw [Bool.eq_iff_iff, ho.detached_iff u hmem, h.hasDropped_iff]
  refine ⟨fun script hf => ⟨hhears.items_eq hf, ?_⟩, fun hd => ?_, fun hp => ?_, fun hend => ?_,
    h.kept.emitted_eq hu, fun rest hs => h.kept.fits hu hs, fun script hs => ?_,
    isSome_step?_or_driven ho.guarded hu, hdropped, fun hn text => ?_⟩
  · by_cases hp : u.offer = .pending
    · exact .inl hp
    · exact .inr (hhears.reads.offer_eq hf hp)
  · have hstatus := (ho.mem_owners_iff u.owner).1 (Accelerator.owner_mem_owners hmem)
    have hstreaming := hstatus.resolve_right fun hs => by simp [(h.hasDropped_iff _).2 hs] at hd
    rw [next_eq_some hstreaming, Accelerator.offer_eq ho.nodup_owners hmem]
    exact ⟨_, rfl⟩
  · refine ⟨hhears.reads.length_le_of_pending hp, ?_⟩
    rcases (GenerationUnit.of_offer_pending hp).2 with he | hf
    · exact ho.guarded.finished_of_isRunning hmem (by rw [GenerationUnit.isRunning, he]; rfl)
    · exact hf
  · have hfin : u.finished = true := by
      rcases hend with hend | ⟨⟨f, hfail⟩, he⟩
      · exact (GenerationUnit.offer_eq_ended_iff.1 hend).2.1
      · obtain ⟨-, -, e, he', -, hfin⟩ := GenerationUnit.offer_eq_failed_iff.1 hfail
        exact hfin (Option.some.inj (he'.symm.trans he))
    refine ⟨hfin, fun hholder => ?_⟩
    -- Whoever is inside the gate owns a unit there, and nobody owns two.
    obtain ⟨k, v, hv, hf, howner⟩ := ho.guarded.exists_unit_of_holder? hholder
    have hvu := Accelerator.unit?_eq_some ho.nodup_owners (List.mem_of_getElem? hv)
    rw [howner, Accelerator.unit?_eq_some ho.nodup_owners hmem] at hvu
    rw [Option.some.inj hvu, hf] at hfin
    cases hfin
  · have hplays := h.played.plays hu hs
    exact ⟨hplays.fits, hplays⟩
  · rw [← hdropped]
    simp [Accelerator.emit?, hn, hu]

/-- What the calls at the salon do. -/
def breakingOff : CallScript := ⟨["a", "", "b"], .breakdown⟩

@[inherit_doc breakingOff]
def losingThread : CallScript := ⟨["c", "d"], .failure (.generation "lost")⟩

/-- Two consumers. The first asks again and again, also before there is anything and after the end.
The second drops its stream when its call has handed over one fragment of two, and the call goes on
alone. -/
def gossip : List (Action Nat ⊕ ConsumerTask Nat) :=
  [.inl (.want 0 ⟨"one", {}⟩), .inl (.want 1 ⟨"two", {}⟩),
    .inr (.start 0), .inr (.start 1), .inr (.start 0),
    .inl (.poll 0), .inr (.unit 0), .inl (.poll 0), .inr (.unit 0), .inr (.unit 0),
    .inr (.unit 0), .inl (.poll 0), .inl (.poll 0), .inr (.unit 0),
    .inl (.poll 0), .inl (.poll 0), .inl (.poll 0),
    .inr (.start 1), .inr (.unit 1), .inl (.drop 1), .inr (.unit 1), .inr (.unit 1),
    .inr (.unit 1)]

/-- The engine with which this happens. -/
def salon : Engine := { conduct := .scripted [breakingOff, losingThread] }

/-- What it leads to, and how. -/
def gossiped : Past Nat × Consumers Nat :=
  (tasks.follow? act [] { accelerator := { engine := salon } } gossip).get (by decide +kernel)

theorem history_gossiped : History salon gossiped.1 gossiped.2 := by
  have hfollow : tasks.follow? act [] { accelerator := { engine := salon } } gossip =
      some gossiped := (Option.some_get _).symm
  exact .follow .start hfollow

/-- The first consumer hears the two fragments, once of the breakdown, and of the end as often as
it asks; the second call comes to its end without its consumer. -/
theorem stream_delivers_of_gossip : ∃ u v : GenerationUnit Nat,
    gossiped.2.accelerator.units[0]? = some u ∧ gossiped.2.accelerator.units[1]? = some v ∧
    heard u.owner gossiped.1 = (List.range 5).map breakingOff.item ∧
    (∃ c', gossiped.2.next u.owner = some (.ended, c')) ∧ u.finished = true ∧
    hasDropped v.owner gossiped.1 = true ∧ v.detached = true ∧
    v.emitted = losingThread.texts ∧ v.ending = some losingThread.ending := by
  have hfirst : (gossiped.2.accelerator.units[0]?).any (fun u =>
      (heard u.owner gossiped.1).length = 5 ∧ hasDropped u.owner gossiped.1 = false ∧
        u.offer = .ended) = true := by
    decide +kernel
  have hsecond : (gossiped.2.accelerator.units[1]?).any
      (fun v => hasDropped v.owner gossiped.1) = true := by
    decide +kernel
  obtain ⟨u, hu, hfirst⟩ := (Option.any_eq_true _ _).1 hfirst
  obtain ⟨hheard, hhere, hended⟩ := of_decide_eq_true hfirst
  obtain ⟨v, hv, hgone⟩ := (Option.any_eq_true _ _).1 hsecond
  have hsteps : unitSteps 1 gossiped.1 = 4 := by decide +kernel
  obtain ⟨htold, hgiven, -, hleft, -, -, hplays, -⟩ := stream_delivers history_gossiped hu
  obtain ⟨-, -, -, -, -, -, hplays', -, hdropped, -⟩ := stream_delivers history_gossiped hv
  obtain ⟨hfits, -⟩ := hplays breakingOff rfl
  obtain ⟨-, hplayed⟩ := hplays' losingThread rfl
  obtain ⟨hitems, -⟩ := htold breakingOff hfits
  rw [hheard] at hitems
  rw [hsteps] at hplayed
  exact ⟨u, v, hu, hv, hitems, hended ▸ hgiven hhere, (hleft (.inl hended)).1, hgone,
    hdropped.trans hgone, hplayed.emitted_eq, hplayed.ending_eq⟩

end Consumers

end StreamedInference
