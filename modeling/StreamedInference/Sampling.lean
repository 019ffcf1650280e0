import StreamedInference.Single.Basic

/-!
# Sampling parameters

What a generate call is told about how to choose tokens, and the wish for another temperature
that a request may carry.

## Main definitions

* `Sampling`: the parameters.
* `Sampling.withTemperature`: the parameters of a request that may wish for a temperature.
* `Sampling.InRange`: what an engine may rely on.
-/

namespace StreamedInference

/-- The parameters of a generate call. -/
structure Sampling where
  /-- The most tokens a turn may have. -/
  maxNewTokens : UInt32 := 100
  /-- The temperature; `0` asks for the likeliest token each time. -/
  temperature : Single := ⟨0x3f333333⟩
  /-- The penalty on tokens that occurred; `1` is none. -/
  repetitionPenalty : Single := ⟨0x3f866666⟩
  /-- The share of probability that the candidates must make up. -/
  topP : Single := ⟨0x3f333333⟩
  /-- The number of candidates; `0` is no bound. -/
  topK : UInt32 := 40
deriving DecidableEq, Repr

namespace Sampling

/-- A wish for a temperature counts if it is a positive finite number. -/
def isOverride (requested : Single) : Bool :=
  Single.zero.lt requested && requested.isFinite

/-- The parameters with the requested temperature, if the wish counts. -/
def withTemperature (p : Sampling) (requested : Single) : Sampling :=
  if isOverride requested then { p with temperature := requested } else p

/-- What every generate call may rely on. -/
structure InRange (p : Sampling) : Prop where
  temperature : p.temperature.isFinite ∧ Single.zero.le p.temperature
  topP : Single.zero.lt p.topP ∧ p.topP.le Single.one
  repetitionPenalty : p.repetitionPenalty.isFinite ∧ Single.zero.lt p.repetitionPenalty
  maxNewTokens : p.maxNewTokens ≠ 0

end Sampling

end StreamedInference
