import Regain.Hub.Coordination.Focuser
import Regain.Lib.Rounding

/-!
# Calibrated targets of a focuser group

The target of a member in exact arithmetic: the scaled logical position, rounded to the nearest step
with ties away from zero, and the offset. The source computes it in `i64`, where no operation
overflows.
-/

namespace Regain.Hub.FocuserCalibration

open Lib

def i64 (value : Int) : Option Int :=
  if -0x8000000000000000 ≤ value ∧ value ≤ 0x7fffffffffffffff then some value else none

def wideTarget (calibration : FocuserCalibration) (logical : Int32) : Option Int := do
  let numerator ← i64 (logical.toInt * calibration.scaleNumerator.toInt)
  let denominator := calibration.scaleDenominator.toInt
  let scaled ← i64 (numerator.tdiv denominator)
  let remainder ← i64 (numerator.tmod denominator)
  let remainder ← i64 remainder.natAbs
  let doubled ← i64 (remainder * 2)
  let scaled ← if denominator ≤ doubled then i64 (scaled + numerator.sign) else some scaled
  i64 (scaled + calibration.offset.toInt)

def exactTarget (calibration : FocuserCalibration) (logical : Int32) : Int :=
  roundAway (logical.toInt * calibration.scaleNumerator.toInt / calibration.scaleDenominator.toInt)
    + calibration.offset.toInt

theorem i64_eq {value : Int} (hlower : -0x8000000000000000 ≤ value)
    (hupper : value ≤ 0x7fffffffffffffff) : i64 value = some value :=
  if_pos ⟨hlower, hupper⟩

theorem toInt_bounds (value : Int32) : -0x80000000 ≤ value.toInt ∧ value.toInt ≤ 0x7fffffff := by
  have hlower := value.le_toInt
  have hupper := value.toInt_lt
  omega

section

variable {calibration : FocuserCalibration}

theorem validate_ok (h : calibration.validate = .ok ()) :
    calibration.scaleNumerator ≠ 0 ∧ 0 < calibration.scaleDenominator
      ∧ ¬calibration.minimum < 0 := by
  unfold validate at h
  split at h
  · cases h
  · rename_i hvalid
    simp only [Bool.or_eq_true, decide_eq_true_eq, not_or] at hvalid
    exact ⟨hvalid.1.1.1.2, Int32.not_le.mp hvalid.1.1.2, hvalid.1.2⟩

theorem denominator_pos (h : calibration.validate = .ok ()) :
    0 < calibration.scaleDenominator.toInt :=
  Int32.lt_iff_toInt_lt.mp (validate_ok h).2.1

theorem scaled_eq (h : calibration.validate = .ok ()) (logical : Int32) : calibration.scaled logical
      = roundAway (logical.toInt * calibration.scaleNumerator.toInt
          / calibration.scaleDenominator.toInt) := by
  rw [← Int.cast_mul, roundAway_div (denominator_pos h)]
  rfl

theorem product_bound (first second : Int32) :
    (first.toInt * second.toInt).natAbs ≤ 0x4000000000000000 := by
  have hfirst := toInt_bounds first
  have hsecond := toInt_bounds second
  have hproduct := Nat.mul_le_mul (by omega : first.toInt.natAbs ≤ 0x80000000)
    (by omega : second.toInt.natAbs ≤ 0x80000000)
  rw [Int.natAbs_mul]
  omega

theorem wideTarget_eq (h : calibration.validate = .ok ()) (logical : Int32) :
    calibration.wideTarget logical
      = some (calibration.scaled logical + calibration.offset.toInt) := by
  have hpositive := denominator_pos h
  obtain ⟨hoffset, hoffset'⟩ := toInt_bounds calibration.offset
  obtain ⟨-, hdenominator⟩ := toInt_bounds calibration.scaleDenominator
  have hproduct := product_bound logical calibration.scaleNumerator
  unfold wideTarget scaled
  generalize logical.toInt * calibration.scaleNumerator.toInt = numerator at hproduct ⊢
  generalize calibration.scaleDenominator.toInt = denominator at hpositive hdenominator ⊢
  have hquotient : (numerator.tdiv denominator).natAbs ≤ numerator.natAbs := by
    rw [Int.natAbs_tdiv]
    exact Nat.div_le_self _ _
  have hremainder : (numerator.tmod denominator).natAbs < denominator.natAbs := by
    rw [Int.natAbs_tmod]
    exact Nat.mod_lt _ (by omega)
  have hsign : -1 ≤ numerator.sign ∧ numerator.sign ≤ 1 := by
    rcases Int.sign_trichotomy numerator with hsign | hsign | hsign <;> omega
  rw [i64_eq (by omega) (by omega)]
  simp only [Option.bind_eq_bind, Option.bind_some]
  rw [i64_eq (by omega) (by omega)]
  simp only [Option.bind_some]
  rw [i64_eq (by omega) (by omega)]
  simp only [Option.bind_some]
  rw [i64_eq (by omega) (by omega)]
  simp only [Option.bind_some]
  rw [i64_eq (by omega) (by omega)]
  simp only [Option.bind_some]
  split
  · rw [i64_eq (by omega) (by omega)]
    exact i64_eq (by omega) (by omega)
  · exact i64_eq (by omega) (by omega)

theorem exactTarget_eq (h : calibration.validate = .ok ()) (logical : Int32) :
    calibration.exactTarget logical = calibration.scaled logical + calibration.offset.toInt := by
  rw [exactTarget, scaled_eq h]

/-- Whether an exact target is a step of the device within the configured travel. -/
def Reachable (calibration : FocuserCalibration) (target : Int) : Prop :=
  Int32.minValue.toInt ≤ target ∧ target ≤ Int32.maxValue.toInt
    ∧ calibration.minimum.toInt ≤ target ∧ target ≤ calibration.maximum.toInt

theorem target_cases (h : calibration.validate = .ok ()) (logical : Int32) :
    (calibration.Reachable (calibration.exactTarget logical)
        ∧ ∃ target, calibration.target logical = .ok target
          ∧ target.toInt = calibration.exactTarget logical)
      ∨ (¬calibration.Reachable (calibration.exactTarget logical)
        ∧ ∃ error, calibration.target logical = .error error) := by
  rw [exactTarget_eq h]
  simp only [target, h, bind, Except.bind, pure, Except.pure, throw, throwThe, MonadExceptOf.throw]
  generalize calibration.scaled logical + calibration.offset.toInt = exact
  by_cases hwide : exact < Int32.minValue.toInt ∨ Int32.maxValue.toInt < exact
  · right
    rw [if_pos hwide]
    refine ⟨fun hreachable => ?_, _, rfl⟩
    have hlower := hreachable.1
    have hupper := hreachable.2.1
    omega
  · have hmin : Int32.minValue.toInt = -0x80000000 := by decide
    have hmax : Int32.maxValue.toInt = 0x7fffffff := by decide
    have hnarrow : (Int32.ofInt exact).toInt = exact :=
      Int32.toInt_ofInt_of_le (by omega) (by omega)
    rw [if_neg hwide]
    by_cases htravel : Int32.ofInt exact < calibration.minimum
        ∨ calibration.maximum < Int32.ofInt exact
    · right
      rw [if_pos htravel]
      refine ⟨fun hreachable => ?_, _, rfl⟩
      obtain ⟨-, -, hlower, hupper⟩ := hreachable
      rw [Int32.lt_iff_toInt_lt, Int32.lt_iff_toInt_lt, hnarrow] at htravel
      omega
    · left
      rw [if_neg htravel]
      rw [Int32.lt_iff_toInt_lt, Int32.lt_iff_toInt_lt, hnarrow] at htravel
      exact ⟨⟨by omega, by omega, by omega, by omega⟩, _, rfl, hnarrow⟩

end

theorem exactTarget_mono {calibration : FocuserCalibration} (h : calibration.validate = .ok ())
    {first second : Int32} (hle : first ≤ second) : (0 < calibration.scaleNumerator →
        calibration.exactTarget first ≤ calibration.exactTarget second)
      ∧ (calibration.scaleNumerator < 0 →
        calibration.exactTarget second ≤ calibration.exactTarget first) := by
  have hpositive : (0 : ℚ) < calibration.scaleDenominator.toInt := by
    exact_mod_cast denominator_pos h
  have hposition : (first.toInt : ℚ) ≤ second.toInt := by
    exact_mod_cast Int32.le_iff_toInt_le.mp hle
  constructor
  · intro hnumerator
    have hscale : (0 : ℚ) ≤ calibration.scaleNumerator.toInt := by
      exact_mod_cast (Int32.lt_iff_toInt_lt.mp hnumerator).le
    have hquotient := div_le_div_of_nonneg_right
      (mul_le_mul_of_nonneg_right hposition hscale) hpositive.le
    exact Int.add_le_add_right (roundAway_mono hquotient) _
  · intro hnumerator
    have hscale : (calibration.scaleNumerator.toInt : ℚ) ≤ 0 := by
      exact_mod_cast (Int32.lt_iff_toInt_lt.mp hnumerator).le
    have hquotient := div_le_div_of_nonneg_right
      (mul_le_mul_of_nonpos_right hposition hscale) hpositive.le
    exact Int.add_le_add_right (roundAway_mono hquotient) _

/-- The target of a valid calibration is the exact rounding and keeps the order of positions. -/
theorem calibratedTarget (calibration : FocuserCalibration) (h : calibration.validate = .ok ())
    (logical : Int32) : calibration.wideTarget logical = some (calibration.exactTarget logical)
      ∧ (∀ target, calibration.target logical = .ok target
          ↔ calibration.Reachable (calibration.exactTarget logical)
            ∧ target.toInt = calibration.exactTarget logical)
      ∧ (¬calibration.Reachable (calibration.exactTarget logical) →
          ∃ error, calibration.target logical = .error error)
      ∧ ∀ later target laterTarget, logical ≤ later →
          calibration.target logical = .ok target → calibration.target later = .ok laterTarget →
            (0 < calibration.scaleNumerator → target ≤ laterTarget)
              ∧ (calibration.scaleNumerator < 0 → laterTarget ≤ target) := by
  have hok : ∀ position target, calibration.target position = .ok target →
      calibration.Reachable (calibration.exactTarget position)
        ∧ target.toInt = calibration.exactTarget position := by
    intro position target htarget
    rcases target_cases h position with ⟨hreachable, found, hfound, hexact⟩ | ⟨-, error, hfailed⟩
    · rw [hfound] at htarget
      cases htarget
      exact ⟨hreachable, hexact⟩
    · rw [hfailed] at htarget
      cases htarget
  refine ⟨?_, ?_, ?_, ?_⟩
  · rw [exactTarget_eq h]
    exact wideTarget_eq h logical
  · intro target
    refine ⟨hok logical target, ?_⟩
    rintro ⟨hreachable, hexact⟩
    rcases target_cases h logical with ⟨-, found, hfound, hsame⟩ | ⟨hnot, -⟩
    · rw [hfound, Int32.toInt_inj.mp (hsame.trans hexact.symm)]
    · exact absurd hreachable hnot
  · intro hnot
    rcases target_cases h logical with ⟨hreachable, -⟩ | ⟨-, hfailed⟩
    · exact absurd hreachable hnot
    · exact hfailed
  · intro later target laterTarget hle htarget hlater
    have hmono := exactTarget_mono h hle
    have hexact := (hok _ _ htarget).2
    have hexact' := (hok _ _ hlater).2
    rw [Int32.le_iff_toInt_le, Int32.le_iff_toInt_le, hexact, hexact']
    exact hmono

def reversed : FocuserCalibration where
  source := 1
  scaleNumerator := -2
  scaleDenominator := 3
  offset := 100
  minimum := 0
  maximum := 1000

theorem calibratedTarget_reversed :
    reversed.validate = .ok () ∧ reversed.wideTarget 4 = some (reversed.exactTarget 4) :=
  ⟨by decide, (calibratedTarget reversed (by decide) 4).1⟩

end Regain.Hub.FocuserCalibration
