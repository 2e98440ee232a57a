import Mathlib.Algebra.Order.Round
import Mathlib.Data.Rat.Floor
import Mathlib.Tactic.FieldSimp
import Mathlib.Tactic.Linarith
import Mathlib.Tactic.Push

/-!
# Rounding to the nearest integer

The nearest integer of a rational number, with ties away from zero, and how truncating division
computes it.
-/

namespace Regain.Lib

/-- The nearest integer, ties away from zero. -/
def roundAway (value : ℚ) : ℤ :=
  if 0 ≤ value then ⌊value + 1 / 2⌋ else ⌈value - 1 / 2⌉

theorem roundAway_of_nonneg {value : ℚ} (h : 0 ≤ value) : roundAway value = ⌊value + 1 / 2⌋ :=
  if_pos h

theorem roundAway_of_neg {value : ℚ} (h : value < 0) : roundAway value = ⌈value - 1 / 2⌉ :=
  if_neg (not_le.mpr h)

theorem roundAway_nonneg {value : ℚ} (h : 0 ≤ value) : 0 ≤ roundAway value := by
  rw [roundAway_of_nonneg h]
  exact Int.floor_nonneg.mpr (by linarith)

theorem roundAway_nonpos {value : ℚ} (h : value < 0) : roundAway value ≤ 0 := by
  rw [roundAway_of_neg h]
  exact Int.ceil_le.mpr (by push_cast; linarith)

theorem roundAway_mono {first second : ℚ} (hle : first ≤ second) :
    roundAway first ≤ roundAway second := by
  by_cases hfirst : 0 ≤ first
  · rw [roundAway_of_nonneg hfirst, roundAway_of_nonneg (hfirst.trans hle)]
    exact Int.floor_le_floor (by linarith)
  by_cases hsecond : 0 ≤ second
  · exact (roundAway_nonpos (not_le.mp hfirst)).trans (roundAway_nonneg hsecond)
  · rw [roundAway_of_neg (not_le.mp hfirst), roundAway_of_neg (not_le.mp hsecond)]
    exact Int.ceil_le_ceil (by linarith)

theorem abs_roundAway_sub_le (value : ℚ) : |(roundAway value : ℚ) - value| ≤ 1 / 2 := by
  by_cases h : 0 ≤ value
  · have hfloor := Int.floor_le (value + 1 / 2)
    have hlt := Int.lt_floor_add_one (value + 1 / 2)
    rw [roundAway_of_nonneg h, abs_le]
    constructor <;> linarith
  · have hceil := Int.le_ceil (value - 1 / 2)
    have hlt := Int.ceil_lt_add_one (value - 1 / 2)
    rw [roundAway_of_neg (not_le.mp h), abs_le]
    constructor <;> linarith

/-- The quotient of a nonnegative dividend, rounded half up. -/
theorem floor_half_eq {dividend divisor : ℤ} (hdividend : 0 ≤ dividend) (hdivisor : 0 < divisor) :
    ⌊(dividend / divisor : ℚ) + 1 / 2⌋
      = if divisor ≤ (dividend.tmod divisor).natAbs * 2 then dividend.tdiv divisor + 1
        else dividend.tdiv divisor := by
  have hdiv : dividend.tdiv divisor = dividend / divisor :=
    Int.tdiv_eq_ediv_of_nonneg hdividend
  have hmod : dividend.tmod divisor = dividend % divisor :=
    Int.tmod_eq_emod_of_nonneg hdividend
  have hrest := Int.emod_nonneg dividend hdivisor.ne'
  have hbound := Int.emod_lt_of_pos dividend hdivisor
  have hsplit : (dividend : ℚ) = divisor * (dividend / divisor : ℤ) + (dividend % divisor : ℤ) := by
    exact_mod_cast (Int.mul_ediv_add_emod dividend divisor).symm
  have hpos : (0 : ℚ) < divisor := by exact_mod_cast hdivisor
  rw [hdiv, hmod, Int.natAbs_of_nonneg hrest]
  rw [Int.floor_eq_iff, hsplit]
  generalize dividend / divisor = quotient at hsplit ⊢
  generalize dividend % divisor = rest at hsplit hrest hbound ⊢
  have hrestq : (0 : ℚ) ≤ rest := by exact_mod_cast hrest
  have hboundq : (rest : ℚ) < divisor := by exact_mod_cast hbound
  have hquotient : ((divisor * quotient + rest : ℚ) / divisor) = quotient + rest / divisor := by
    field_simp
  rw [hquotient]
  have hfrac : (rest : ℚ) / divisor < 1 := (div_lt_one hpos).mpr hboundq
  have hfrac0 : (0 : ℚ) ≤ (rest : ℚ) / divisor := by positivity
  by_cases hhalf : divisor ≤ rest * 2
  · have hhalfq : (1 : ℚ) / 2 ≤ rest / divisor := by
      rw [div_le_div_iff₀ (by norm_num) hpos]
      exact_mod_cast (by omega : 1 * divisor ≤ rest * 2)
    rw [if_pos hhalf]
    push_cast
    constructor <;> linarith
  · have hhalfq : (rest : ℚ) / divisor < 1 / 2 := by
      rw [div_lt_div_iff₀ hpos (by norm_num)]
      exact_mod_cast (by omega : rest * 2 < 1 * divisor)
    rw [if_neg hhalf]
    constructor <;> linarith

/-- Rounding away from zero by a truncating quotient and its remainder. -/
theorem roundAway_div {dividend divisor : ℤ} (hdivisor : 0 < divisor) :
    roundAway (dividend / divisor) = if divisor ≤ (dividend.tmod divisor).natAbs * 2 then
          dividend.tdiv divisor + dividend.sign else dividend.tdiv divisor := by
  have hpos : (0 : ℚ) < divisor := by exact_mod_cast hdivisor
  rcases lt_trichotomy dividend 0 with hneg | rfl | hdividend
  · have hvalue : (dividend / divisor : ℚ) < 0 :=
      div_neg_of_neg_of_pos (by exact_mod_cast hneg) hpos
    have hopposite : (dividend / divisor : ℚ) - 1 / 2
        = -(((-dividend : ℤ) / divisor : ℚ) + 1 / 2) := by
      push_cast
      ring
    rw [roundAway_of_neg hvalue, hopposite, Int.ceil_neg,
      floor_half_eq (by omega : 0 ≤ -dividend) hdivisor, Int.neg_tmod, Int.natAbs_neg,
      Int.neg_tdiv, Int.sign_eq_neg_one_of_neg hneg]
    split <;> omega
  · have hnot : ¬divisor ≤ 0 := by omega
    simp [roundAway, hnot]
    norm_num
  · have hvalue : (0 : ℚ) ≤ dividend / divisor :=
      div_nonneg (by exact_mod_cast hdividend.le) hpos.le
    rw [roundAway_of_nonneg hvalue, floor_half_eq hdividend.le hdivisor,
      Int.sign_eq_one_of_pos hdividend]

end Regain.Lib
