import StreamedInference.Proofs.Generation.Delivery

/-!
# Calls that replay tokens

An engine that replays tokens hands over as many of them as there are before its failure is due, the
empty ones among them, and fails then; if no failure is set, it hands over all and succeeds. This
holds of every call in every run, whatever its consumer and other consumers do meanwhile: what a
call has handed over, and whether it has ended, is told by the number of its own steps.

## Main definitions

* `CallScript.dueAfter`, `CallScript.verdict`: after how many tokens a replay ends, and how.

## Main results

* `CallScript.replay_eq`: a replay in one piece.
* `Consumers.History.handed_eq`: what a call hands over is what its script says.
* `Consumers.exists_ended`: a call with a script comes to its end.
* `Consumers.replay_hands_over`: what becomes of a call that replays tokens.
-/

namespace StreamedInference

namespace CallScript

/-- After how many tokens a replay ends. -/
def dueAfter (tokens : List String) : Option (Nat × String) → Nat
  | none => tokens.length
  | some (count, _) => min count tokens.length

/-- How a replay ends. -/
def verdict : Option (Nat × String) → Ending
  | none => .success
  | some (_, reason) => .failure (.generation reason)

theorem replayFrom_none (handed : Nat) (tokens : List String) :
    replayFrom none handed tokens = (tokens, .success) := by
  induction tokens generalizing handed with
  | nil => rfl
  | cons token tokens ih => rw [replayFrom, ih]

/-- Until its failure is due a replay goes on; if there are too few tokens it fails behind them. -/
theorem replayFrom_some {count handed : Nat} (h : handed ≤ count) (reason : String)
    (tokens : List String) :
    replayFrom (some (count, reason)) handed tokens =
      (tokens.take (count - handed), .failure (.generation reason)) := by
  induction tokens generalizing handed with
  | nil => simp [replayFrom, h]
  | cons token tokens ih =>
    rw [replayFrom]
    by_cases hdue : handed = count
    · simp [hdue]
    · have hnext : handed + 1 ≤ count := by omega
      have hleft : count - handed = count - (handed + 1) + 1 := by omega
      rw [if_neg hdue, ih hnext, hleft, List.take_succ_cons]

/-- The tokens that a replay hands over, and how it ends. -/
theorem replay_eq (tokens : List String) (failAfter : Option (Nat × String)) :
    replay tokens failAfter = ⟨tokens.take (dueAfter tokens failAfter), verdict failAfter⟩ := by
  rcases failAfter with _ | ⟨count, reason⟩
  · rw [replay, replayFrom_none, dueAfter, List.take_length, verdict]
  · rw [replay, replayFrom_some (Nat.zero_le _), Nat.sub_zero, dueAfter, verdict,
      ← List.take_eq_take_min]

theorem length_take_dueAfter (tokens : List String) (failAfter : Option (Nat × String)) :
    (tokens.take (dueAfter tokens failAfter)).length = dueAfter tokens failAfter := by
  rcases failAfter with _ | ⟨count, reason⟩ <;> simp [dueAfter]

end CallScript

/-- The fragment that comes next is the next one of the script. -/
theorem GenerationUnit.Plays.fragment?_eq {ι : Type} {u : GenerationUnit ι} {script : CallScript}
    {m : Nat} (h : u.Plays script m) : u.fragment? = script.emits[m]? := by
  rcases Nat.lt_or_ge script.emits.length m with hlt | hle
  · have hending := h.ending_eq
    rw [if_pos hlt] at hending
    rw [fragment?_of_ending (by rw [hending]; rfl), List.getElem?_eq_none (Nat.le_of_lt hlt)]
  · have hending := h.ending_eq
    rw [if_neg (Nat.not_lt.2 hle)] at hending
    rw [fragment?, hending, h.script_eq hle, ← List.head?_drop]
    cases script.emits.drop m <;> rfl

namespace Consumers

variable {ι : Type} [DecidableEq ι] {engine : Engine} {c : Consumers ι} {n : Nat} {past : Past ι}
  {u : GenerationUnit ι} {script : CallScript}

/-- **What a call has handed over are the first fragments of its script**, the empty ones among
them, one in each step of its unit. -/
theorem History.handed_eq (h : History engine past c) (hu : c.accelerator.units[n]? = some u)
    (hs : engine.conduct.script? n u.call = some script) :
    handed n past = script.emits.take (unitSteps n past) := by
  revert u
  refine History.of_move (P := fun past c => ∀ {u : GenerationUnit ι},
    c.accelerator.units[n]? = some u → engine.conduct.script? n u.call = some script →
      handed n past = script.emits.take (unitSteps n past)) (by simp)
    (fun past c c' m hpast ih hm u' hu' hs => ?_) h
  -- Both moves of the unit itself, on with the call and out of the gate, count as a step.
  have hstep : ∀ {u : GenerationUnit ι}, c.accelerator.units[n]? = some u →
      engine.conduct.script? n u.call = some script →
        handed n past ++ hands n (c, .inr (.unit n)) =
          script.emits.take (unitSteps n past + 1) := by
    intro u hu hs
    rw [ih hu hs, hands_unit hu, (hpast.played.plays hu hs).fragment?_eq, List.take_add_one]
  rw [handed_cons, unitSteps_cons]
  cases hm.callMove hu' with
  | aside hu hsame hne hd =>
    rw [hands_eq_nil hne hd, List.append_nil, if_neg hne]
    exact ih hu (hsame.call_eq ▸ hs)
  | begins hn =>
    rw [hpast.kept.handed_eq_nil hn, hm.hands_eq_nil hn, hpast.played.unitSteps_eq_zero hn,
      if_neg (by simp)]
    rfl
  | emits hn hu =>
    rw [GenerationUnit.emit_call] at hs
    exact absurd hn (hpast.played.drivenPlace?_ne hu hs)
  | concludes hn hu => exact absurd hn (hpast.played.drivenPlace?_ne hu hs)
  | calls hu hcall =>
    rw [if_pos rfl]
    exact hstep hu ((GenerationUnit.advances_callStep? hcall).1.call_eq ▸ hs)
  | leaves hu =>
    rw [if_pos rfl]
    exact hstep hu hs

/-- **A call with a script comes to its end** from wherever it stands; nobody else need do anything
for that. -/
theorem exists_ended (h : History engine past c) (hu : c.accelerator.units[n]? = some u)
    (hs : engine.conduct.script? n u.call = some script) :
    ∃ c' u', tasks.Reaches c c' ∧ c'.accelerator.units[n]? = some u' ∧
      u'.ending = some script.ending := by
  -- on the steps of the unit that are left until its call has ended
  induction hleft : script.emits.length + 1 - unitSteps n past generalizing past c u with
  | zero =>
    refine ⟨c, u, .refl c, hu, ?_⟩
    rw [(h.played.plays hu hs).ending_eq, if_pos (by omega)]
  | succ k ih =>
    have hplays := h.played.plays hu hs
    have hle : unitSteps n past ≤ script.emits.length := by omega
    obtain ⟨c₁, u₁, hstep, hu₁, hcall⟩ :=
      exists_step?_unit hu (hplays.isRunning_iff.2 hle) (by rw [hplays.script_eq hle]; rfl)
    have hnext : script.emits.length + 1 - unitSteps n ((c, .inr (.unit n)) :: past) = k := by
      rw [unitSteps_cons, if_pos rfl]
      omega
    obtain ⟨c', u', hreaches, hu', hended⟩ := ih (h.step _ hstep) hu₁ (hcall ▸ hs) hnext
    exact ⟨c', u', .step _ hstep hreaches, hu', hended⟩

/-- **What becomes of a call that replays tokens.** Take any run with any consumers, and in it any
unit. With a failure after a number of tokens the call is due when that many have been handed over,
or all if there are fewer, and without one when all have been.

* What it has handed over are the first tokens, the empty ones among them, one for each step that
  its unit has made, up to those that are due; it has ended if its unit has made one step more.
  So nothing that consumers do makes a difference, neither to take what comes nor to drop the
  stream: only the steps of the unit count.
* When it has ended it has handed over exactly what is due, and it has failed with the words that
  are set, or succeeded if none are set.
* Until then it can make its next step, whether anybody hears of it or not, and it comes to that
  end.
* What its unit keeps for the consumer is what it has handed over, but for the empty tokens. -/
theorem replay_hands_over {tokens : List String} {failAfter : Option (Nat × String)}
    (h : History engine past c) (hengine : engine.conduct = .replay tokens failAfter)
    (hu : c.accelerator.units[n]? = some u) :
    let due := CallScript.dueAfter tokens failAfter
    handed n past = (tokens.take due).take (unitSteps n past) ∧
    u.ending = (if due < unitSteps n past then some (CallScript.verdict failAfter) else none) ∧
    (∀ e, u.ending = some e →
      handed n past = tokens.take due ∧ e = CallScript.verdict failAfter) ∧
    (u.ending = none → (c.step? (.unit n)).isSome = true) ∧
    (∃ c' u', tasks.Reaches c c' ∧ c'.accelerator.units[n]? = some u' ∧
      u'.ending = some (CallScript.verdict failAfter)) ∧
    u.emitted = (handed n past).filter (!·.isEmpty) := by
  intro due
  have hs : engine.conduct.script? n u.call =
      some ⟨tokens.take due, CallScript.verdict failAfter⟩ := by
    rw [hengine, Conduct.script?, CallScript.replay_eq]
  have hplays := h.played.plays hu hs
  have hhanded := h.handed_eq hu hs
  have hending := hplays.ending_eq
  rw [CallScript.length_take_dueAfter] at hending
  refine ⟨hhanded, hending, fun e he => ?_, fun he => ?_, exists_ended h hu hs,
    h.kept.emitted_eq hu⟩
  · rw [hending] at he
    split at he
    · rename_i hdue
      rw [hhanded, List.take_of_length_le]
      · exact ⟨rfl, (Option.some.inj he).symm⟩
      · rw [CallScript.length_take_dueAfter]
        exact Nat.le_of_lt hdue
    · cases he
  · have hrun : u.isRunning = true := by rw [GenerationUnit.isRunning, he]; rfl
    have hscript := hplays.script_eq (hplays.isRunning_iff.1 hrun)
    obtain ⟨c', u', hstep, -⟩ := exists_step?_unit hu hrun (by rw [hscript]; rfl)
    exact Option.isSome_iff_exists.2 ⟨c', hstep⟩

/-- An engine that is to fail behind the second of its tokens, an empty one. -/
def prompter : Engine := { conduct := .replay ["a", "", "b"] (some (2, "lost")) }

/-- A consumer drops its stream after the first token, and the call goes on alone. -/
def walkout : List (Action Nat ⊕ ConsumerTask Nat) :=
  [.inl (.want 0 ⟨"one", {}⟩), .inr (.start 0), .inr (.start 0), .inr (.unit 0), .inl (.drop 0),
    .inr (.unit 0), .inr (.unit 0)]

/-- What it leads to, and how. -/
def walkedOut : Past Nat × Consumers Nat :=
  (tasks.follow? act [] { accelerator := { engine := prompter } } walkout).get (by decide +kernel)

theorem history_walkedOut : History prompter walkedOut.1 walkedOut.2 := by
  have hfollow : tasks.follow? act [] { accelerator := { engine := prompter } } walkout =
      some walkedOut := (Option.some_get _).symm
  exact .follow .start hfollow

/-- The two tokens are handed over and the call fails, although nobody hears of it. -/
theorem replay_hands_over_of_walkout : ∃ u : GenerationUnit Nat,
    walkedOut.2.accelerator.units[0]? = some u ∧ hasDropped u.owner walkedOut.1 = true ∧
    handed 0 walkedOut.1 = ["a", ""] ∧ u.emitted = ["a"] ∧
    u.ending = some (.failure (.generation "lost")) := by
  have hgone : (walkedOut.2.accelerator.units[0]?).any
      (fun u => hasDropped u.owner walkedOut.1) = true := by
    decide +kernel
  obtain ⟨u, hu, hgone⟩ := (Option.any_eq_true _ _).1 hgone
  have hsteps : unitSteps 0 walkedOut.1 = 3 := by decide +kernel
  obtain ⟨-, hending, htokens, -, -, hkept⟩ := replay_hands_over history_walkedOut rfl hu
  rw [hsteps] at hending
  have hfails : u.ending = some (.failure (.generation "lost")) := hending
  obtain ⟨hhanded, -⟩ := htokens _ hfails
  rw [hhanded] at hkept
  exact ⟨u, hu, hgone, hhanded, hkept.trans (by decide), hfails⟩

end Consumers

end StreamedInference
