import Mathlib.Algebra.Order.Field.Power
import Mathlib.Algebra.Order.Field.Rat
import Mathlib.Order.Monotone.Basic
import Mathlib.Tactic.Linarith
import Mathlib.Tactic.NormNum
import Mathlib.Tactic.Positivity
import Mathlib.Tactic.Ring
import StreamedInference.Sampling

/-!
# The order of numbers

Numbers are compared by their bits. For finite numbers this is the order of the rational numbers
they stand for: the absolute value grows with the magnitude, within each exponent and from one
exponent to the next, so that the place of a number in the order grows with its value.

## Main definitions

* `Single.value`: what a finite number stands for.

## Main results

* `Single.le_iff_value_le`, `Single.lt_iff_value_lt`: the order of finite numbers.
* `Sampling.inRange_iff`, `Sampling.isOverride_iff`: what is asked of parameters, by values.
-/

namespace StreamedInference

namespace Single

/-- What a finite number stands for. -/
def value (x : Single) : ℚ :=
  (if x.isNegative then -1 else 1) * (x.parts.1 * 2 ^ x.parts.2)

/-- The absolute value that belongs to a magnitude. -/
def absValue (m : Nat) : ℚ :=
  if m / 8388608 = 0 then (m % 8388608 : Nat) * 2 ^ (-149 : Int)
  else (m % 8388608 + 8388608 : Nat) * 2 ^ ((m / 8388608 : Nat) - 150 : Int)

theorem value_eq (x : Single) :
    x.value = if x.isNegative then -absValue x.magnitude else absValue x.magnitude := by
  have habs : (x.parts.1 : ℚ) * 2 ^ x.parts.2 = absValue x.magnitude := by
    simp only [parts, absValue, beq_iff_eq]
    split_ifs <;> rfl
  rw [value, habs]
  split_ifs <;> ring

@[simp] theorem absValue_zero : absValue 0 = 0 := by
  simp [absValue]

/-- The next magnitude belongs to a greater value: the significand grows by one, or the exponent
does and the significand begins anew. -/
theorem absValue_lt_succ (m : Nat) : absValue m < absValue (m + 1) := by
  by_cases hlast : m % 8388608 = 8388607
  · have hquot : (m + 1) / 8388608 = m / 8388608 + 1 := by omega
    have hrem : (m + 1) % 8388608 = 0 := by omega
    have hscale : (2 : ℚ) ^ ((m / 8388608 + 1 : Nat) - 150 : Int) =
        2 ^ ((m / 8388608 : Nat) - 150 : Int) * 2 := by
      rw [← zpow_add_one₀ two_ne_zero]
      congr 1
      omega
    simp only [absValue, hquot, hrem, hlast, Nat.succ_ne_zero, if_false, hscale]
    split_ifs with he
    · rw [he]
      norm_num
    · have hpos : (0 : ℚ) < 2 ^ ((m / 8388608 : Nat) - 150 : Int) := by positivity
      generalize (2 : ℚ) ^ ((m / 8388608 : Nat) - 150 : Int) = scale at hpos ⊢
      norm_num
      linarith
  · have hquot : (m + 1) / 8388608 = m / 8388608 := by omega
    have hrem : (m + 1) % 8388608 = m % 8388608 + 1 := by omega
    simp only [absValue, hquot, hrem]
    split_ifs
    · exact mul_lt_mul_of_pos_right (by exact_mod_cast Nat.lt_succ_self _) (by positivity)
    · exact mul_lt_mul_of_pos_right (by exact_mod_cast by omega) (by positivity)

theorem absValue_strictMono : StrictMono absValue :=
  strictMono_nat_of_lt_succ absValue_lt_succ

theorem absValue_nonneg (m : Nat) : 0 ≤ absValue m :=
  absValue_zero ▸ absValue_strictMono.monotone (Nat.zero_le m)

/-- A number stands the further in the order the greater its value is. -/
theorem value_le_iff (x y : Single) : x.value ≤ y.value ↔ x.rank ≤ y.rank := by
  have hle := absValue_strictMono.le_iff_le (a := x.magnitude) (b := y.magnitude)
  have hge := absValue_strictMono.le_iff_le (a := y.magnitude) (b := x.magnitude)
  have hx := absValue_nonneg x.magnitude
  have hy := absValue_nonneg y.magnitude
  rw [value_eq, value_eq, rank, rank]
  split_ifs
  · rw [neg_le_neg_iff, hge]
    omega
  · constructor
    · omega
    · intro
      linarith
  · have hx0 := absValue_strictMono.le_iff_le (a := x.magnitude) (b := 0)
    have hy0 := absValue_strictMono.le_iff_le (a := y.magnitude) (b := 0)
    rw [absValue_zero] at hx0 hy0
    constructor
    · intro h
      have := hx0.mp (by linarith)
      have := hy0.mp (by linarith)
      omega
    · intro h
      have := hx0.mpr (by omega)
      have := hy0.mpr (by omega)
      linarith
  · rw [hle]
    omega

/-- The order of finite numbers is that of their values. -/
theorem le_iff_value_le {x y : Single} (hx : x.isFinite = true) (hy : y.isFinite = true) :
    x.le y = true ↔ x.value ≤ y.value := by
  simp only [isFinite, decide_eq_true_eq] at hx hy
  simp [le, isNaN, value_le_iff, Nat.le_of_lt hx, Nat.le_of_lt hy]

/-- The strict order of finite numbers is that of their values. -/
theorem lt_iff_value_lt {x y : Single} (hx : x.isFinite = true) (hy : y.isFinite = true) :
    x.lt y = true ↔ x.value < y.value := by
  simp only [isFinite, decide_eq_true_eq] at hx hy
  rw [← not_le, value_le_iff]
  simp [lt, isNaN, Nat.le_of_lt hx, Nat.le_of_lt hy]

@[simp] theorem value_zero : zero.value = 0 := by
  have h : zero.parts = (0, -149) := rfl
  simp [value, h]

@[simp] theorem value_one : one.value = 1 := by
  have h : one.parts = (8388608, -23) := rfl
  have hsign : one.isNegative = false := rfl
  rw [value, h, hsign]
  norm_num

/-- A number that is greater than `0` and at most another finite one is finite. -/
theorem isFinite_of_lt_of_le {x y : Single} (hx : zero.lt x = true) (hxy : x.le y = true)
    (hy : y.isFinite = true) : x.isFinite = true := by
  have hpos : 0 < x.rank := by
    simp only [lt, Bool.and_eq_true, decide_eq_true_eq] at hx
    exact hx.2
  have hle : x.rank ≤ y.rank := by
    simp only [le, Bool.and_eq_true, decide_eq_true_eq] at hxy
    exact hxy.2
  simp only [isFinite, rank, decide_eq_true_eq] at hpos hle hy ⊢
  split_ifs at hpos hle <;> omega

end Single

namespace Sampling

/-- A wish for a temperature counts exactly if it is finite and positive. -/
theorem isOverride_iff {requested : Single} : isOverride requested = true ↔
    requested.isFinite = true ∧ 0 < requested.value := by
  rw [isOverride, Bool.and_eq_true, and_comm, and_congr_right_iff]
  intro h
  rw [Single.lt_iff_value_lt rfl h, Single.value_zero]

/-- Parameters are in range exactly if their values are. -/
theorem inRange_iff {p : Sampling} : p.InRange ↔
    (p.temperature.isFinite = true ∧ 0 ≤ p.temperature.value) ∧
    (p.topP.isFinite = true ∧ 0 < p.topP.value ∧ p.topP.value ≤ 1) ∧
    (p.repetitionPenalty.isFinite = true ∧ 0 < p.repetitionPenalty.value) ∧
    p.maxNewTokens ≠ 0 := by
  constructor
  · intro h
    have htop := Single.isFinite_of_lt_of_le h.topP.1 h.topP.2 rfl
    refine ⟨⟨h.temperature.1, ?_⟩, ⟨htop, ?_, ?_⟩, ⟨h.repetitionPenalty.1, ?_⟩, h.maxNewTokens⟩
    · simpa using (Single.le_iff_value_le rfl h.temperature.1).mp h.temperature.2
    · simpa using (Single.lt_iff_value_lt rfl htop).mp h.topP.1
    · simpa using (Single.le_iff_value_le htop rfl).mp h.topP.2
    · simpa using (Single.lt_iff_value_lt rfl h.repetitionPenalty.1).mp h.repetitionPenalty.2
  · rintro ⟨⟨htemp, htemp'⟩, ⟨htop, hpos, hle⟩, ⟨hpen, hpen'⟩, hmax⟩
    refine ⟨⟨htemp, ?_⟩, ⟨?_, ?_⟩, ⟨hpen, ?_⟩, hmax⟩
    · exact (Single.le_iff_value_le rfl htemp).mpr (by simpa using htemp')
    · exact (Single.lt_iff_value_lt rfl htop).mpr (by simpa using hpos)
    · exact (Single.le_iff_value_le htop rfl).mpr (by simpa using hle)
    · exact (Single.lt_iff_value_lt rfl hpen).mpr (by simpa using hpen')

end Sampling

end StreamedInference
