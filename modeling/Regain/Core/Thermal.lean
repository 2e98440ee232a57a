import Mathlib.Algebra.Order.Field.Rat
import Mathlib.Algebra.Order.Group.Unbundled.Abs
import Mathlib.Data.Rat.Cast.Order
import Mathlib.Tactic.Linarith
import Mathlib.Tactic.Positivity

/-!
# The shared cooler policy

A proportional and integral regulator of a cooler's power in exact arithmetic. `f64::clamp` panics
when its bounds are out of order, so it is partial here.
-/

namespace Regain.Core.Thermal

def clamp (value low high : ℚ) : Option ℚ :=
  if low ≤ high then some (if value < low then low else if high < value then high else value)
  else none

def proportional : ℚ := 8

def integralGain : ℚ := 12 / 100

def recoveryState (power prior current target previousTarget : ℚ) : Option (ℚ × ℚ) :=
  if previousTarget < target then some (0, 0)
  else do
    let integral ← clamp (power - proportional * (prior - previousTarget)) 0 100
    let boosted ← clamp
      (power + proportional * max (current - prior + previousTarget - target) 0) 0 100
    return (boosted, integral)

def targetChange (power integral temperature previous target : ℚ) : Option (ℚ × ℚ) :=
  if temperature ≤ target then some (0, 0)
  else do
    let demand ← clamp (integral + proportional * (temperature - target)) 0 100
    return (if target < previous then max power demand else min power demand, integral)

def limitPower (power demand elapsed maximum : ℚ) : Option ℚ := do
  let elapsed ← clamp elapsed 0 2
  let change := maximum / 5 * elapsed
  let demand ← clamp demand 0 100
  clamp demand (max (power - change) 0) (min (power + change) 100)

def regulate (power integral error elapsed maximum : ℚ) : Option (ℚ × ℚ) := do
  let dt ← clamp elapsed 0 2
  let candidate ← clamp (integral + error * integralGain * dt) 0 100
  let demand := candidate + proportional * error
  let integral :=
    if (demand ≤ 100 ∨ error < 0) ∧ (0 ≤ demand ∨ 0 < error) then candidate else integral
  let power ← limitPower power (integral + proportional * error) dt maximum
  return (power, integral)

theorem clamp_eq {value low high : ℚ} (h : low ≤ high) :
    clamp value low high = some (max low (min value high)) := by
  unfold clamp
  rw [if_pos h]
  congr 1
  split
  · rename_i hlow
    rw [min_eq_left (hlow.le.trans h), max_eq_left hlow.le]
  · rename_i hlow
    split
    · rename_i hhigh
      rw [min_eq_right hhigh.le, max_eq_right h]
    · rename_i hhigh
      rw [min_eq_left (not_lt.mp hhigh), max_eq_right (not_lt.mp hlow)]

theorem clamp_bounds (value : ℚ) {low high : ℚ} (h : low ≤ high) :
    ∃ clamped, clamp value low high = some clamped ∧ low ≤ clamped ∧ clamped ≤ high :=
  ⟨_, clamp_eq h, le_max_left _ _, max_le h (min_le_right _ _)⟩

def Percent (value : ℚ) : Prop :=
  0 ≤ value ∧ value ≤ 100

theorem clamp_percent (value : ℚ) : ∃ clamped, clamp value 0 100 = some clamped ∧ Percent clamped :=
  clamp_bounds _ (by norm_num)

def credit (elapsed : ℚ) : ℚ :=
  min (max elapsed 0) 2

theorem clamp_credit (elapsed : ℚ) : clamp elapsed 0 2 = some (credit elapsed) := by
  rw [clamp_eq (by norm_num), credit, max_min_distrib_left, max_comm 0 elapsed,
    max_eq_right (by norm_num : (0 : ℚ) ≤ 2)]

theorem credit_bounds (elapsed : ℚ) : 0 ≤ credit elapsed ∧ credit elapsed ≤ 2 :=
  ⟨le_min (le_max_right _ _) (by norm_num), min_le_right _ _⟩

theorem credit_credit (elapsed : ℚ) : credit (credit elapsed) = credit elapsed := by
  obtain ⟨hlower, hupper⟩ := credit_bounds elapsed
  rw [credit, max_eq_left hlower, min_eq_left hupper]

structure Limited (power elapsed maximum next : ℚ) : Prop where
  percent : Percent next
  change : |next - power| ≤ maximum / 5 * credit elapsed

theorem limitPower_limited {power maximum : ℚ} (elapsed : ℚ) (hpower : Percent power)
    (hmaximum : 0 ≤ maximum) (demand : ℚ) :
    ∃ next, limitPower power demand elapsed maximum = some next
      ∧ Limited power elapsed maximum next := by
  obtain ⟨hcredit, -⟩ := credit_bounds elapsed
  obtain ⟨clamped, hclamped, -⟩ := clamp_percent demand
  have hchange : 0 ≤ maximum / 5 * credit elapsed := by positivity
  have hordered : max (power - maximum / 5 * credit elapsed) 0
      ≤ min (power + maximum / 5 * credit elapsed) 100 := by
    obtain ⟨hlower, hupper⟩ := hpower
    apply max_le
    · apply le_min <;> linarith
    · apply le_min <;> linarith
  obtain ⟨next, hnext, hlow, hhigh⟩ := clamp_bounds clamped hordered
  obtain ⟨hlow, hzero⟩ := max_le_iff.mp hlow
  obtain ⟨hhigh, hfull⟩ := le_min_iff.mp hhigh
  refine ⟨next, ?_, ⟨hzero, hfull⟩, ?_⟩
  · simp only [limitPower, clamp_credit, Option.bind_eq_bind, Option.bind_some, hclamped, hnext]
  · rw [abs_le]
    constructor <;> linarith

/-- An integral that does not follow a demand out of the deliverable range. -/
structure AntiWindup (integral error next : ℚ) : Prop where
  above : 100 ≤ integral + proportional * error ∨ 100 < next + proportional * error →
    next ≤ integral
  below : integral + proportional * error ≤ 0 ∨ next + proportional * error < 0 →
    integral ≤ next

theorem AntiWindup.kept (integral error : ℚ) : AntiWindup integral error integral :=
  ⟨fun _ => le_rfl, fun _ => le_rfl⟩

theorem AntiWindup.accepted {integral error seconds candidate : ℚ} (hintegral : Percent integral)
    (hseconds : 0 ≤ seconds)
    (hcandidate : candidate = max 0 (min (integral + error * integralGain * seconds) 100))
    (hhigh : candidate + proportional * error ≤ 100 ∨ error < 0)
    (hlow : 0 ≤ candidate + proportional * error ∨ 0 < error) :
    AntiWindup integral error candidate := by
  obtain ⟨hlower, hupper⟩ := hintegral
  have hrises : 0 ≤ error → integral ≤ candidate := by
    intro herror
    have hgain : 0 ≤ error * integralGain * seconds := by
      unfold integralGain
      positivity
    rw [hcandidate]
    exact le_max_of_le_right (le_min (by linarith) hupper)
  have hfalls : error ≤ 0 → candidate ≤ integral := by
    intro herror
    have hgain : error * integralGain * seconds ≤ 0 := by
      unfold integralGain
      exact mul_nonpos_of_nonpos_of_nonneg (by linarith) hseconds
    rw [hcandidate]
    exact max_le hlower ((min_le_left _ _).trans (by linarith))
  constructor
  · intro habove
    by_cases herror : error ≤ 0
    · exact hfalls herror
    · have hrise := hrises (not_le.mp herror).le
      rcases hhigh with hhigh | hhigh
      · rcases habove with habove | habove <;> linarith
      · linarith
  · intro hbelow
    by_cases herror : 0 ≤ error
    · exact hrises herror
    · have hfall := hfalls (not_le.mp herror).le
      rcases hlow with hlow | hlow
      · rcases hbelow with hbelow | hbelow <;> linarith
      · linarith

theorem regulate_limited {power integral maximum : ℚ} (elapsed : ℚ) (hpower : Percent power)
    (hintegral : Percent integral) (hmaximum : 0 ≤ maximum) (error : ℚ) :
    ∃ next nextIntegral, regulate power integral error elapsed maximum = some (next, nextIntegral)
      ∧ Limited power elapsed maximum next ∧ Percent nextIntegral
      ∧ AntiWindup integral error nextIntegral := by
  obtain ⟨hcredit, -⟩ := credit_bounds elapsed
  obtain ⟨candidate, hcandidate, hbounds⟩ :=
    clamp_percent (integral + error * integralGain * credit elapsed)
  have hvalue : candidate
      = max 0 (min (integral + error * integralGain * credit elapsed) 100) := by
    rw [clamp_eq (by norm_num)] at hcandidate
    exact (Option.some.inj hcandidate).symm
  simp only [regulate, clamp_credit, Option.bind_eq_bind, Option.bind_some, hcandidate]
  by_cases haccept : (candidate + proportional * error ≤ 100 ∨ error < 0)
      ∧ (0 ≤ candidate + proportional * error ∨ 0 < error)
  · rw [if_pos haccept]
    obtain ⟨next, hnext, hlimited⟩ := limitPower_limited (credit elapsed) hpower
      hmaximum (candidate + proportional * error)
    rw [hnext]
    refine ⟨next, candidate, rfl, ⟨hlimited.percent, ?_⟩, hbounds, ?_⟩
    · rw [← credit_credit]
      exact hlimited.change
    · exact AntiWindup.accepted hintegral hcredit hvalue haccept.1 haccept.2
  · rw [if_neg haccept]
    obtain ⟨next, hnext, hlimited⟩ := limitPower_limited (credit elapsed) hpower
      hmaximum (integral + proportional * error)
    rw [hnext]
    refine ⟨next, integral, rfl, ⟨hlimited.percent, ?_⟩, hintegral, AntiWindup.kept _ _⟩
    rw [← credit_credit]
    exact hlimited.change

theorem targetChange_integral {integral : ℚ} (hintegral : Percent integral)
    (power temperature previous target : ℚ) :
    ∃ demand next, targetChange power integral temperature previous target = some (demand, next)
      ∧ Percent next ∧ (target < temperature → next = integral)
      ∧ (temperature ≤ target → next = 0) := by
  unfold targetChange
  split
  · rename_i hcold
    exact ⟨0, 0, rfl, ⟨le_rfl, by norm_num⟩, fun hwarm => absurd hwarm (not_lt.mpr hcold),
      fun _ => rfl⟩
  · rename_i hwarm
    obtain ⟨demand, hdemand, -⟩ := clamp_percent (integral + proportional * (temperature - target))
    simp only [hdemand, Option.bind_eq_bind, Option.bind_some]
    exact ⟨_, integral, rfl, hintegral, fun _ => rfl, fun hcold => absurd hcold hwarm⟩

theorem recoveryState_integral (power prior current target previousTarget : ℚ) :
    ∃ demand next, recoveryState power prior current target previousTarget = some (demand, next)
      ∧ Percent next := by
  unfold recoveryState
  split
  · exact ⟨0, 0, rfl, le_rfl, by norm_num⟩
  · obtain ⟨integral, hintegral, hpercent⟩ :=
      clamp_percent (power - proportional * (prior - previousTarget))
    obtain ⟨boosted, hboosted, -⟩ := clamp_percent
      (power + proportional * max (current - prior + previousTarget - target) 0)
    simp only [hintegral, hboosted, Option.bind_eq_bind, Option.bind_some]
    exact ⟨boosted, integral, rfl, hpercent⟩

structure Regulator where
  power : ℚ
  integral : ℚ

/-- One use of the policy.  The demand of every use goes through `limitPower` with the seconds and
the maximum of the use. -/
inductive Use where
  | regulate (error : ℚ)
  /-- `regulate` whose power goes through the limit of the host once more. -/
  | regulateLimited (error seconds limit : ℚ)
  | targetChange (temperature previous target : ℚ)
  | recover (prior current target previousTarget : ℚ)

structure Op where
  use : Use
  elapsed : ℚ
  maximum : ℚ

namespace Regulator

def step (regulator : Regulator) (op : Op) : Option Regulator :=
  match op.use with
  | .regulate error => do
    let (power, integral) ←
      regulate regulator.power regulator.integral error op.elapsed op.maximum
    return ⟨power, integral⟩
  | .regulateLimited error seconds limit => do
    let (demand, integral) ←
      regulate regulator.power regulator.integral error seconds limit
    return ⟨← limitPower regulator.power demand op.elapsed op.maximum, integral⟩
  | .targetChange temperature previous target => do
    let (demand, integral) ←
      targetChange regulator.power regulator.integral temperature previous target
    return ⟨← limitPower regulator.power demand op.elapsed op.maximum, integral⟩
  | .recover prior current target previousTarget => do
    let (demand, integral) ←
      recoveryState regulator.power prior current target previousTarget
    return ⟨← limitPower regulator.power demand op.elapsed op.maximum, integral⟩

def run (regulator : Regulator) : List Op → Option (List (Regulator × Op × Regulator))
  | [] => some []
  | op :: ops => do
    let next ← regulator.step op
    let steps ← run next ops
    return (regulator, op, next) :: steps

structure Bounded (regulator : Regulator) : Prop where
  power : Percent regulator.power
  integral : Percent regulator.integral

/-- The maximum of a use, and of the limit inside it, as configuration accepts it. -/
def Configured (op : Op) : Prop :=
  (1 ≤ op.maximum ∧ op.maximum ≤ 100)
    ∧ ∀ error seconds limit, op.use = .regulateLimited error seconds limit →
        1 ≤ limit ∧ limit ≤ 100

structure Moves (before : Regulator) (op : Op) (after : Regulator) : Prop where
  bounded : after.Bounded
  change : |after.power - before.power| ≤ op.maximum / 5 * min (max op.elapsed 0) 2
  regulated : ∀ error, (op.use = .regulate error
      ∨ ∃ seconds limit, op.use = .regulateLimited error seconds limit) →
    AntiWindup before.integral error after.integral
  changed : ∀ temperature previous target, op.use = .targetChange temperature previous target →
    target < temperature → after.integral = before.integral
  reset : ∀ temperature previous target, op.use = .targetChange temperature previous target →
    temperature ≤ target → after.integral = 0

theorem step_moves {regulator : Regulator} (h : regulator.Bounded) {op : Op}
    (hop : Configured op) : ∃ next, regulator.step op = some next ∧ Moves regulator op next := by
  obtain ⟨use, elapsed, maximum⟩ := op
  obtain ⟨⟨hone, -⟩, hinner⟩ := hop
  have hmaximum : 0 ≤ maximum := by linarith
  cases use with
  | regulate error =>
    obtain ⟨next, integral, hnext, hlimited, hpercent, hwindup⟩ :=
      regulate_limited elapsed h.power h.integral hmaximum error
    refine ⟨⟨next, integral⟩, ?_, ⟨hlimited.percent, hpercent⟩, hlimited.change, ?_, ?_, ?_⟩
    · simp only [step, hnext, Option.bind_eq_bind, Option.bind_some]
      rfl
    · rintro _ (huse | ⟨_, _, huse⟩)
      · cases huse
        exact hwindup
      · cases huse
    · intro _ _ _ huse
      cases huse
    · intro _ _ _ huse
      cases huse
  | regulateLimited error seconds limit =>
    have hlimit : 0 ≤ limit := by linarith [(hinner error seconds limit rfl).1]
    obtain ⟨demand, integral, hdemand, -, hpercent, hwindup⟩ :=
      regulate_limited seconds h.power h.integral hlimit error
    obtain ⟨next, hnext, hlimited⟩ :=
      limitPower_limited elapsed h.power hmaximum demand
    refine ⟨⟨next, integral⟩, ?_, ⟨hlimited.percent, hpercent⟩, hlimited.change, ?_, ?_, ?_⟩
    · simp only [step, hdemand, hnext, Option.bind_eq_bind, Option.bind_some]
      rfl
    · rintro _ (huse | ⟨_, _, huse⟩)
      · cases huse
      · cases huse
        exact hwindup
    · intro _ _ _ huse
      cases huse
    · intro _ _ _ huse
      cases huse
  | targetChange temperature previous target =>
    obtain ⟨demand, integral, hdemand, hpercent, hkept, hreset⟩ :=
      targetChange_integral h.integral regulator.power temperature previous target
    obtain ⟨next, hnext, hlimited⟩ :=
      limitPower_limited elapsed h.power hmaximum demand
    refine ⟨⟨next, integral⟩, ?_, ⟨hlimited.percent, hpercent⟩, hlimited.change, ?_, ?_, ?_⟩
    · simp only [step, hdemand, hnext, Option.bind_eq_bind, Option.bind_some]
      rfl
    · rintro _ (huse | ⟨_, _, huse⟩) <;> cases huse
    · intro _ _ _ huse hwarm
      cases huse
      exact hkept hwarm
    · intro _ _ _ huse hcold
      cases huse
      exact hreset hcold
  | recover prior current target previousTarget =>
    obtain ⟨demand, integral, hdemand, hpercent⟩ :=
      recoveryState_integral regulator.power prior current target previousTarget
    obtain ⟨next, hnext, hlimited⟩ :=
      limitPower_limited elapsed h.power hmaximum demand
    refine ⟨⟨next, integral⟩, ?_, ⟨hlimited.percent, hpercent⟩, hlimited.change, ?_, ?_, ?_⟩
    · simp only [step, hdemand, hnext, Option.bind_eq_bind, Option.bind_some]
      rfl
    · rintro _ (huse | ⟨_, _, huse⟩) <;> cases huse
    · intro _ _ _ huse
      cases huse
    · intro _ _ _ huse
      cases huse

/-- Every run stays in percent, within its limits, and never panics. -/
theorem coolerPolicy (regulator : Regulator) (h : regulator.Bounded) (ops : List Op)
    (hops : ∀ op ∈ ops, Configured op) : ∃ steps, regulator.run ops = some steps
      ∧ ∀ before op after, (before, op, after) ∈ steps → Moves before op after := by
  induction ops generalizing regulator with
  | nil => exact ⟨[], rfl, by simp⟩
  | cons op ops ih =>
    obtain ⟨next, hnext, hmoves⟩ := step_moves h (hops op List.mem_cons_self)
    obtain ⟨steps, hsteps, hall⟩ :=
      ih next hmoves.bounded (fun other hmem => hops other (List.mem_cons_of_mem _ hmem))
    refine ⟨(regulator, op, next) :: steps, ?_, ?_⟩
    · simp only [run, hnext, hsteps, Option.bind_eq_bind, Option.bind_some]
      rfl
    · intro before other after hmem
      rcases List.mem_cons.mp hmem with heq | htail
      · cases heq
        exact hmoves
      · exact hall before other after htail

/-- A warm camera is regulated, asked for a lower target, recovers and is limited by its host; in the
end its target rises above its temperature. -/
def warmOps : List Op :=
  [⟨.regulate 2, 1, 25⟩, ⟨.targetChange 12 5 2, 3, 25⟩, ⟨.recover 5 6 2 2, 1, 60⟩,
    ⟨.regulateLimited (-4) 2 100, 2, 50⟩, ⟨.targetChange 8 2 10, 1, 50⟩]

theorem warmOps_configured : ∀ op ∈ warmOps, Configured op := by
  intro op hmem
  simp only [warmOps, List.mem_cons, List.not_mem_nil, or_false] at hmem
  rcases hmem with rfl | rfl | rfl | rfl | rfl
  all_goals
    refine ⟨⟨by norm_num, by norm_num⟩, fun _ _ _ huse => ?_⟩
    cases huse
  exact ⟨by norm_num, by norm_num⟩

theorem coolerPolicy_warm : ((Regulator.mk 40 40).run warmOps).map
        (fun steps => steps.map fun step => (step.2.2.power, step.2.2.integral))
      = some [(45, 1006 / 25), (55, 1006 / 25), (63, 31), (43, 31), (33, 0)]
      ∧ ∃ steps, (Regulator.mk 40 40).run warmOps = some steps
        ∧ ∀ before op after, (before, op, after) ∈ steps → Moves before op after :=
  ⟨by decide +kernel, coolerPolicy ⟨40, 40⟩ ⟨⟨by norm_num, by norm_num⟩, ⟨by norm_num, by norm_num⟩⟩
    warmOps warmOps_configured⟩

/-- A camera that is already colder than its new target starts again without an integral, although
the demand is as low as it gets. -/
theorem targetChange_winds : ¬ ∀ (regulator : Regulator) (ops : List Op) steps, regulator.Bounded →
      (∀ op ∈ ops, Configured op) → regulator.run ops = some steps →
        ∀ before op after, (before, op, after) ∈ steps → ∀ temperature previous target,
          op.use = .targetChange temperature previous target →
            AntiWindup before.integral (temperature - target) after.integral := by
  intro hclaim
  have hrun : (Regulator.mk 50 50).run [⟨.targetChange 0 5 10, 1, 25⟩]
      = some [(⟨50, 50⟩, ⟨.targetChange 0 5 10, 1, 25⟩, ⟨45, 0⟩)] := by
    norm_num [run, step, targetChange, limitPower, clamp]
  have hwindup := hclaim ⟨50, 50⟩ [⟨.targetChange 0 5 10, 1, 25⟩] _
    ⟨⟨by norm_num, by norm_num⟩, ⟨by norm_num, by norm_num⟩⟩
    (fun op hmem => by
      obtain rfl := List.mem_singleton.mp hmem
      exact ⟨⟨by norm_num, by norm_num⟩, fun _ _ _ huse => by cases huse⟩)
    hrun _ _ _ List.mem_cons_self 0 5 10 rfl
  have hbelow := hwindup.below (.inl (by norm_num [proportional]))
  norm_num at hbelow

end Regulator
end Regain.Core.Thermal
