import StreamedInference.Proofs.Pool.Shutdown

/-!
# The parties of a pool

A pool knows its parties by number only. This file says once what can happen around a pool, with
what a party does before and after and what the pool is told of it, and shows from this that the
number of tasks that a shutdown waits for is the number of parties that run one.

## Main definitions

* `PoolUsage.Move`: a move around a pool.
* `PoolUsage.countOf`: how many parties are doing something.
* `PoolUsage.Counted`: parties have names of their own, and the pool has counted their tasks.

## Main results

* `PoolUsage.move_act`, `PoolUsage.move_of_step?`: all that happens is a move.
* `PoolUsage.Move.pool_move`: what a move is for the pool.
* `PoolUsage.Counted.move`: every move keeps the count.
-/

namespace StreamedInference

/-- The party runs a task. -/
def PartyStatus.isRunning : PartyStatus → Bool
  | .running _ _ _ => true
  | _ => false

namespace PoolUsage

variable {ι : Type} [DecidableEq ι]

/-! ### Moves -/

/-- A move around a pool. -/
inductive Move (u : PoolUsage ι) : PoolAction ι ⊕ PoolTask ι → PoolUsage ι → Prop
  /-- An action does not suit what the party is doing. -/
  | rests {a : PoolAction ι} (hg : ∀ grace, a ≠ .shutdown grace) (ht : ∀ ms, a ≠ .advance ms) :
      Move u (.inl a) u
  | joins {p : ι} (hs : u.status? p = none) :
      Move u (.inl (.ask p)) { u with parties := u.parties ++ [(p, .waiting false)] }
  | cancels {p : ι} {asked : Bool} (hs : u.status? p = some (.waiting asked)) :
      Move u (.inl (.cancel p)) { u.setStatus p .withdrawn with pool := u.pool.withdraw p }
  | releases {p : ι} (hs : u.status? p = some .admitted) :
      Move u (.inl (.release p)) { u.setStatus p .released with pool := u.pool.release }
  | spawns {p : ι} {ending : TaskEnd} (hs : u.status? p = some .admitted) :
      Move u (.inl (.spawn p ending))
        { u.setStatus p (.running true ending false) with pool := u.pool.track }
  | background {p : ι} (hs : u.status? p = none) :
      Move u (.inl (.background p))
        { u with parties := u.parties ++ [(p, .running false .stop false)], pool := u.pool.track }
  | stops {p : ι} {onSlot stopped : Bool}
      (hs : u.status? p = some (.running onSlot .stop stopped)) :
      Move u (.inl (.stop p)) (u.setStatus p (.running onSlot .stop true))
  | calls (grace : Nat) :
      Move u (.inl (.shutdown grace)) { u with pool := u.pool.shutdown grace }
  | advances (ms : Nat) : Move u (.inl (.advance ms)) { u with pool := u.pool.advance ms }
  | admits {p : ι} {asked : Bool} {pool : Pool ι} (hs : u.status? p = some (.waiting asked))
      (ha : u.pool.ask p asked = (.admitted, pool)) :
      Move u (.inr (.party p)) { u.setStatus p .admitted with pool := pool }
  | refuses {p : ι} {asked : Bool} {pool : Pool ι} (hs : u.status? p = some (.waiting asked))
      (ha : u.pool.ask p asked = (.refused, pool)) :
      Move u (.inr (.party p)) { u.setStatus p .refused with pool := pool }
  | queues {p : ι} {pool : Pool ι} (hs : u.status? p = some (.waiting false))
      (ha : u.pool.ask p false = (.pending, pool)) :
      Move u (.inr (.party p)) { u.setStatus p (.waiting true) with pool := pool }
  /-- A task ends, and gives back its slot if it has one. -/
  | ends {p : ι} {onSlot stopped : Bool} {ending : TaskEnd}
      (hs : u.status? p = some (.running onSlot ending stopped))
      (he : (stopped || PoolUsage.ends u.pool ending) = true) :
      Move u (.inr (.party p)) { u.setStatus p .done with
        pool := (if onSlot then u.pool.release else u.pool).untrack }
  | drains {k : Nat} {pool : Pool ι} {events : List LogEvent} (h : u.pool.DrainMove k pool) :
      Move u (.inr (.drain k)) { u with pool := pool, log := u.log ++ events }

variable {u u' : PoolUsage ι} {m : PoolAction ι ⊕ PoolTask ι}

/-- What parties and operators do is a move. -/
theorem move_act (u : PoolUsage ι) (a : PoolAction ι) : u.Move (.inl a) (u.act a) := by
  cases a with
  | shutdown grace => exact .calls grace
  | advance ms => exact .advances ms
  | ask p =>
    cases hs : u.status? p with
    | none =>
      have hact : u.act (.ask p) = { u with parties := u.parties ++ [(p, .waiting false)] } := by
        simp [act, join, hs]
      exact hact ▸ .joins hs
    | some s =>
      have hact : u.act (.ask p) = u := by simp [act, join, hs]
      exact hact.symm ▸ .rests nofun nofun
  | background p =>
    cases hs : u.status? p with
    | none =>
      have hact : u.act (.background p) = { u with
          parties := u.parties ++ [(p, .running false .stop false)], pool := u.pool.track } := by
        simp [act, join, hs]
      exact hact ▸ .background hs
    | some s =>
      have hact : u.act (.background p) = u := by simp [act, hs]
      exact hact.symm ▸ .rests nofun nofun
  | cancel p =>
    unfold act
    dsimp only
    split
    · exact .cancels ‹_›
    · exact .rests nofun nofun
  | release p =>
    unfold act
    dsimp only
    split
    · exact .releases ‹_›
    · exact .rests nofun nofun
  | spawn p ending =>
    unfold act
    dsimp only
    split
    · exact .spawns ‹_›
    · exact .rests nofun nofun
  | stop p =>
    unfold act
    dsimp only
    split
    · exact .stops ‹_›
    · exact .rests nofun nofun

/-- What goes on by itself is a move. -/
theorem move_of_step? {t : PoolTask ι} (h : u.step? t = some u') : u.Move (.inr t) u' := by
  cases t with
  | drain k =>
    obtain ⟨⟨p, events⟩, hstep, rfl⟩ := Option.map_eq_some_iff.1 h
    exact .drains (Pool.drainMove_of_drainStep? hstep)
  | party p =>
    unfold step? partyStep? at h
    dsimp only at h
    split at h
    · rename_i asked hs
      split at h
      · obtain rfl := Option.some.inj h
        exact .admits hs ‹_›
      · obtain rfl := Option.some.inj h
        exact .refuses hs ‹_›
      · cases asked with
        | true => cases h
        | false =>
          obtain rfl := Option.some.inj h
          exact .queues hs ‹_›
    · rename_i onSlot ending stopped hs
      split at h
      · obtain rfl := Option.some.inj h
        exact .ends hs ‹_›
      · cases h
    · cases h

/-- What a move is for the pool. -/
theorem Move.pool_move (hm : u.Move m u') : u.pool.Move m u'.pool := by
  cases hm with
  | rests hg ht =>
    refine .keeps (.refl _) (fun grace h => ?_) fun ms h => ?_
    · exact hg grace (Sum.inl.inj h)
    · exact ht ms (Sum.inl.inj h)
  | joins | stops => exact .keeps (.refl _) nofun nofun
  | cancels => exact .keeps (u.pool.keeps_withdraw _) nofun nofun
  | releases => exact .keeps u.pool.keeps_release nofun nofun
  | spawns | background => exact .tracks nofun nofun
  | calls grace => exact .calls grace
  | advances ms => exact .advances ms
  | @admits p asked pool hs ha | @refuses p asked pool hs ha =>
    have hkeeps := u.pool.keeps_ask p asked
    rw [ha] at hkeeps
    exact .keeps hkeeps nofun nofun
  | @queues p pool hs ha =>
    have hkeeps := u.pool.keeps_ask p false
    rw [ha] at hkeeps
    exact .keeps hkeeps nofun nofun
  | @ends p onSlot stopped ending hs he =>
    refine .untracks ?_
    split
    · exact u.pool.keeps_release
    · exact .refl _
  | drains h => exact .drains h

/-! ### Counts -/

/-- The names of all parties. -/
def names (u : PoolUsage ι) : List ι :=
  u.parties.map Prod.fst

/-- How many parties are doing something of a kind. -/
def countOf (u : PoolUsage ι) (f : PartyStatus → Bool) : Nat :=
  u.parties.countP fun e => f e.2

@[simp] theorem names_setStatus (u : PoolUsage ι) (p : ι) (s : PartyStatus) :
    (u.setStatus p s).names = u.names := by
  unfold names setStatus
  dsimp only
  rw [List.map_map]
  refine List.map_congr_left fun e _ => ?_
  by_cases he : e.1 = p <;> simp [he]

theorem not_mem_names {p : ι} (hs : u.status? p = none) : p ∉ u.names := by
  intro hp
  obtain ⟨e, he, rfl⟩ := List.mem_map.1 hp
  have hne := List.lookup_eq_none_iff.1 hs e he
  simp at hne

/-- When one party begins to do something else, the count changes by that party alone. -/
theorem countOf_setStatus (hn : u.names.Nodup) {p : ι} {s₀ : PartyStatus}
    (hs : u.status? p = some s₀) (s : PartyStatus) (f : PartyStatus → Bool) :
    (u.setStatus p s).countOf f + (f s₀).toNat = u.countOf f + (f s).toNat := by
  have hcount : ∀ parties : List (ι × PartyStatus), (parties.map Prod.fst).Nodup →
      parties.lookup p = some s₀ →
        (parties.map fun e => if e.1 = p then (p, s) else e).countP (fun e => f e.2) +
          (f s₀).toNat = parties.countP (fun e => f e.2) + (f s).toNat := by
    intro parties hn hs
    induction parties with
    | nil => cases hs
    | cons e parties ih =>
      obtain ⟨q, t⟩ := e
      obtain ⟨hq, hn⟩ := List.nodup_cons.1 hn
      by_cases hqp : q = p
      · subst hqp
        obtain rfl : t = s₀ := by simpa using hs
        -- The name does not occur again.
        have hrest : (parties.map fun e => if e.1 = q then (q, s) else e) = parties := by
          refine (List.map_congr_left fun e he => if_neg ?_).trans (List.map_id _)
          exact ne_of_mem_of_not_mem (List.mem_map_of_mem he) hq
        rw [List.map_cons, if_pos rfl, hrest, List.countP_cons, List.countP_cons]
        cases f s <;> cases f t <;> simp
      · have hs' : parties.lookup p = some s₀ := by
          have hne : (p == q) = false := by simpa using Ne.symm hqp
          simpa [List.lookup_cons, hne] using hs
        have hih := ih hn hs'
        rw [List.map_cons, if_neg hqp, List.countP_cons, List.countP_cons]
        omega
  exact hcount u.parties hn hs

/-- Parties have names of their own, and the pool has counted those that run a task. -/
structure Counted (u : PoolUsage ι) : Prop where
  nodup_names : u.names.Nodup
  tracked_eq : u.pool.tracked = u.countOf (·.isRunning)

namespace Counted

omit [DecidableEq ι] in
/-- Where nobody has come yet. -/
theorem init (limit : Nat) : Counted ({ pool := .ofLimit limit } : PoolUsage ι) :=
  ⟨List.nodup_nil, rfl⟩

theorem tracked_pos (h : u.Counted) {p : ι} {s₀ : PartyStatus} (hs : u.status? p = some s₀)
    (hr : s₀.isRunning = true) : 0 < u.pool.tracked := by
  have hcount := countOf_setStatus h.nodup_names hs .done (·.isRunning)
  have hone : s₀.isRunning.toNat = 1 := by rw [hr]; rfl
  have hnone : PartyStatus.done.isRunning.toNat = 0 := rfl
  have htracked := h.tracked_eq
  omega

/-- A party begins to do something else, and the pool is told if that begins or ends a task. -/
theorem set (h : u.Counted) {p : ι} {s₀ s : PartyStatus} {pool : Pool ι}
    (hs : u.status? p = some s₀)
    (ht : pool.tracked + s₀.isRunning.toNat = u.pool.tracked + s.isRunning.toNat) :
    Counted { u.setStatus p s with pool := pool } where
  nodup_names := by
    have hnames := u.names_setStatus p s
    exact hnames ▸ h.nodup_names
  tracked_eq := by
    have hcount := countOf_setStatus h.nodup_names hs s (·.isRunning)
    have htracked := h.tracked_eq
    have hgoal : pool.tracked = (u.setStatus p s).countOf (·.isRunning) := by omega
    exact hgoal

/-- A party comes in. -/
theorem append (h : u.Counted) {p : ι} {s : PartyStatus} {pool : Pool ι}
    (hs : u.status? p = none) (ht : pool.tracked = u.pool.tracked + s.isRunning.toNat) :
    Counted { u with parties := u.parties ++ [(p, s)], pool := pool } where
  nodup_names := by
    have hp := not_mem_names hs
    rw [names, List.map_append, List.nodup_append]
    refine ⟨h.nodup_names, by simp, fun q hq r hr => ?_⟩
    obtain rfl : r = p := by simpa using hr
    rintro rfl
    exact hp hq
  tracked_eq := by
    have htracked := h.tracked_eq
    simp only [countOf] at htracked ⊢
    rw [List.countP_append, ht, htracked, List.countP_singleton]
    cases s.isRunning <;> rfl

omit [DecidableEq ι] in
/-- The parties go on with what they are doing. -/
theorem of_tracked (h : u.Counted) {pool : Pool ι} {log : List LogEvent}
    (ht : pool.tracked = u.pool.tracked) : Counted { u with pool := pool, log := log } :=
  ⟨h.nodup_names, ht.trans h.tracked_eq⟩

/-- **Every move keeps the count.** -/
theorem move (h : u.Counted) (hm : u.Move m u') : u'.Counted := by
  cases hm with
  | rests => exact h
  | joins hs => exact h.append hs rfl
  | cancels hs => exact h.set hs (u.pool.keeps_withdraw _).tracked_eq
  | releases hs => exact h.set hs u.pool.keeps_release.tracked_eq
  | spawns hs => exact h.set hs rfl
  | background hs => exact h.append hs rfl
  | stops hs => exact h.set hs rfl
  | calls | advances => exact h.of_tracked rfl
  | @admits p asked pool hs ha | @refuses p asked pool hs ha =>
    have hkeeps := u.pool.keeps_ask p asked
    rw [ha] at hkeeps
    exact h.set hs hkeeps.tracked_eq
  | @queues p pool hs ha =>
    have hkeeps := u.pool.keeps_ask p false
    rw [ha] at hkeeps
    exact h.set hs hkeeps.tracked_eq
  | @ends p onSlot stopped ending hs he =>
    have hpos := h.tracked_pos hs rfl
    have htracked : (if onSlot then u.pool.release else u.pool).tracked = u.pool.tracked := by
      split
      · exact u.pool.keeps_release.tracked_eq
      · rfl
    refine h.set hs ?_
    simp only [Pool.untrack, htracked, PartyStatus.isRunning, Bool.toNat_true, Bool.toNat_false]
    omega
  | drains hd => exact h.of_tracked hd.tracked_eq

end Counted

end PoolUsage

end StreamedInference
