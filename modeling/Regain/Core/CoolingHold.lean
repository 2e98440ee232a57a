import Mathlib.Algebra.Order.Field.Rat
import Mathlib.Algebra.Order.Group.Unbundled.Abs
import Mathlib.Data.List.Induction
import Mathlib.Data.Rat.Cast.Order
import Mathlib.Tactic.Linarith

/-!
# The hold of a cooled setpoint

After a recovery the session waits until the camera has held its setpoint for half a minute. The
detector keeps the time and the temperature of the first sample of its window and the time of the
last one, in exact arithmetic.
-/

namespace Regain.Core

inductive Reading where
  | finite (value : ℚ)
  | notFinite

structure Observation where
  temperature : Option Reading
  power : Option ℤ
  target : ℚ
  tolerance : ℚ
  sample : ℚ
  elapsed : ℚ

namespace Observation

def holds (observation : Observation) (temperature : ℚ) (power : ℤ) : Bool :=
  decide (|temperature - observation.target| ≤ min observation.tolerance 1)
    && (decide (0 ≤ power) && decide (power ≤ 100)
      && (decide (0 < power) || decide (temperature ≤ observation.target)))

def valid (observation : Observation) : Option ℚ :=
  match observation.temperature, observation.power with
  | some (.finite temperature), some power =>
    if observation.holds temperature power then some temperature else none
  | _, _ => none

def gap (observation : Observation) : ℚ :=
  max 5 (observation.sample * 2)

end Observation

structure CoolingHold where
  since : Option ℚ := none
  first : ℚ := 0
  last : Option ℚ := none

namespace CoolingHold

def restarts (hold : CoolingHold) (observation : Observation) (temperature : ℚ) : Bool :=
  hold.since.isNone
    || hold.last.any (fun last =>
      decide (observation.elapsed < last) || decide (observation.gap < observation.elapsed - last))
    || decide (hold.first + 2 / 10 < temperature)

def observe (hold : CoolingHold) (observation : Observation) : Bool × CoolingHold :=
  match observation.valid with
  | none => (false, { hold with since := none, last := none })
  | some temperature =>
    let hold :=
      if hold.restarts observation temperature then
        { hold with since := some observation.elapsed, first := temperature }
      else hold
    (decide (30 ≤ observation.elapsed - hold.since.getD 0),
      { hold with last := some observation.elapsed })

def after (history : List Observation) : CoolingHold :=
  history.foldl (fun hold observation => (hold.observe observation).2) {}

def detects (history : List Observation) (last : Observation) : Bool :=
  ((after history).observe last).1

end CoolingHold

def Follows (earlier later : Observation) : Prop :=
  earlier.elapsed ≤ later.elapsed ∧ later.elapsed - earlier.elapsed ≤ later.gap

/-- A block whose first observation is `first`: valid observations without a gap, none of them
warmer than the first by more than 0.2. -/
inductive Block (first : Observation) (temperature : ℚ) : List Observation → Observation → Prop
  where
  | single (h : first.valid = some temperature) : Block first temperature [first] first
  | snoc {block : List Observation} {last next : Observation} {value : ℚ}
      (h : Block first temperature block last) (hvalid : next.valid = some value)
      (hfollows : Follows last next) (hcool : value ≤ temperature + 2 / 10) :
      Block first temperature (block ++ [next]) next

/-- The window of the detector starts at an observation: nothing valid comes before it without a
gap, or it is too warm for the window before it. -/
inductive Starts : List Observation → Observation → Prop where
  | first {observation : Observation} (h : observation.valid.isSome = true) :
      Starts [] observation
  | afterInvalid {history : List Observation} {previous observation : Observation}
      (hprevious : previous.valid = none) (h : observation.valid.isSome = true) :
      Starts (history ++ [previous]) observation
  | afterGap {history : List Observation} {previous observation : Observation}
      (hgap : ¬Follows previous observation) (h : observation.valid.isSome = true) :
      Starts (history ++ [previous]) observation
  | warmer {history block : List Observation} {first last observation : Observation}
      {temperature value : ℚ} (hfirst : Starts history first)
      (hblock : Block first temperature block last) (h : observation.valid = some value)
      (hwarm : temperature + 2 / 10 < value) :
      Starts (history ++ block) observation

theorem Block.valid_first {first last : Observation} {temperature : ℚ} {block : List Observation}
    (h : Block first temperature block last) : first.valid = some temperature := by
  induction h with
  | single h => exact h
  | snoc _ _ _ _ ih => exact ih

theorem Block.valid_last {first last : Observation} {temperature : ℚ} {block : List Observation}
    (h : Block first temperature block last) : last.valid.isSome = true := by
  cases h with
  | single h => simp [h]
  | snoc _ hvalid _ _ => simp [hvalid]

namespace CoolingHold

@[simp] theorem after_snoc (history : List Observation) (observation : Observation) :
    after (history ++ [observation]) = ((after history).observe observation).2 := by
  simp [after]

def started (observation : Observation) (temperature : ℚ) : CoolingHold :=
  ⟨some observation.elapsed, temperature, some observation.elapsed⟩

variable {temperature : ℚ} {observation last : Observation} {hold : CoolingHold}
  {history : List Observation}

theorem observe_invalid (hold : CoolingHold) (h : observation.valid = none) :
    hold.observe observation = (false, { hold with since := none, last := none }) := by
  simp [observe, h]

theorem observe_restart (hvalid : observation.valid = some temperature)
    (hrestart : hold.restarts observation temperature = true) :
    (hold.observe observation).2 = started observation temperature := by
  simp [observe, hvalid, hrestart, started]

theorem observe_continue (hvalid : observation.valid = some temperature)
    (hrestart : hold.restarts observation temperature = false) :
    (hold.observe observation).2 = { hold with last := some observation.elapsed } := by
  simp [observe, hvalid, hrestart]

theorem observe_result (hvalid : observation.valid = some temperature) :
    (hold.observe observation).1
      = decide (30 ≤ observation.elapsed - (hold.observe observation).2.since.getD 0) := by
  simp [observe, hvalid]

theorem restarts_of_gap {previous : Observation} (hlast : hold.last = some previous.elapsed)
    (hgap : ¬Follows previous observation) : hold.restarts observation temperature = true := by
  unfold Follows at hgap
  rw [not_and_or, not_le, not_le] at hgap
  simp only [restarts, hlast, Option.any_some, Bool.or_eq_true, decide_eq_true_eq]
  exact .inl (.inr hgap)

theorem restarts_eq_false {since value : ℚ}
    (h : hold = ⟨some since, temperature, some last.elapsed⟩) (hfollows : Follows last observation)
    (hcool : value ≤ temperature + 2 / 10) : hold.restarts observation value = false := by
  obtain ⟨htime, hgap⟩ := hfollows
  subst h
  simp [restarts, htime, hgap, hcool]

theorem last_of_valid (h : observation.valid.isSome = true) :
    (hold.observe observation).2.last = some observation.elapsed := by
  obtain ⟨temperature, hvalid⟩ := Option.isSome_iff_exists.mp h
  simp [observe, hvalid]

theorem after_block {block : List Observation} {first : Observation}
    (hstart : after (history ++ [first]) = started first temperature)
    (hblock : Block first temperature block last) :
    after (history ++ block) = ⟨some first.elapsed, temperature, some last.elapsed⟩ := by
  induction hblock with
  | single _ => exact hstart
  | snoc _ hvalid hfollows hcool ih =>
    rw [← List.append_assoc, after_snoc,
      observe_continue hvalid (restarts_eq_false ih hfollows hcool), ih]

theorem after_start {first : Observation} (hstarts : Starts history first)
    (hvalid : first.valid = some temperature) :
    after (history ++ [first]) = started first temperature := by
  induction hstarts generalizing temperature with
  | first _ => exact observe_restart hvalid rfl
  | afterInvalid hprevious _ =>
    rw [after_snoc]
    apply observe_restart hvalid
    rw [after_snoc, observe_invalid _ hprevious]
    rfl
  | @afterGap history previous _ hgap _ =>
    rw [after_snoc]
    apply observe_restart hvalid
    by_cases hprevious : previous.valid.isSome = true
    · apply restarts_of_gap _ hgap
      rw [after_snoc, last_of_valid hprevious]
    · rw [Bool.not_eq_true, Option.isSome_eq_false_iff, Option.isNone_iff_eq_none] at hprevious
      rw [after_snoc, observe_invalid _ hprevious]
      rfl
  | warmer _ hblock hvalue hwarm ih =>
    rw [hvalue] at hvalid
    obtain rfl := Option.some.inj hvalid
    rw [after_snoc]
    apply observe_restart hvalue
    rw [after_block (ih hblock.valid_first) hblock]
    simp [restarts, hwarm]

theorem exists_window (history : List Observation) (h : last.valid.isSome = true) :
    ∃ earlier first temperature block, history ++ [last] = earlier ++ block
      ∧ Block first temperature block last ∧ Starts earlier first := by
  induction history using List.reverseRecOn generalizing last with
  | nil =>
    obtain ⟨temperature, hvalid⟩ := Option.isSome_iff_exists.mp h
    exact ⟨[], last, temperature, [last], rfl, .single hvalid, .first h⟩
  | append_singleton history previous ih =>
    obtain ⟨temperature, hvalid⟩ := Option.isSome_iff_exists.mp h
    have halone : ∀ hstarts : Starts (history ++ [previous]) last,
        ∃ earlier first temperature block, history ++ [previous] ++ [last] = earlier ++ block
          ∧ Block first temperature block last ∧ Starts earlier first :=
      fun hstarts => ⟨_, last, temperature, [last], rfl, .single hvalid, hstarts⟩
    by_cases hprevious : previous.valid.isSome = true
    · by_cases hfollows : Follows previous last
      · obtain ⟨earlier, first, start, block, heq, hblock, hstarts⟩ := ih hprevious
        by_cases hcool : temperature ≤ start + 2 / 10
        · refine ⟨earlier, first, start, block ++ [last], ?_, .snoc hblock hvalid hfollows hcool,
            hstarts⟩
          rw [heq, List.append_assoc]
        · apply halone
          rw [heq]
          exact .warmer hstarts hblock hvalid (not_le.mp hcool)
      · exact halone (.afterGap hfollows h)
    · rw [Bool.not_eq_true, Option.isSome_eq_false_iff, Option.isNone_iff_eq_none] at hprevious
      exact halone (.afterInvalid hprevious h)

theorem detects_of_window {earlier block : List Observation} {first : Observation}
    (heq : history ++ [last] = earlier ++ block) (hblock : Block first temperature block last)
    (hstarts : Starts earlier first) :
    detects history last = decide (30 ≤ last.elapsed - first.elapsed) := by
  obtain ⟨value, hvalid⟩ := Option.isSome_iff_exists.mp hblock.valid_last
  have hafter := after_block (after_start hstarts hblock.valid_first) hblock
  rw [← heq, after_snoc] at hafter
  rw [detects, observe_result hvalid, hafter]
  rfl

/-- The detector reports a block of half a minute that starts with its window. -/
theorem detects_iff (history : List Observation) (last : Observation) : detects history last = true
      ↔ ∃ earlier first temperature block, history ++ [last] = earlier ++ block
        ∧ Block first temperature block last ∧ 30 ≤ last.elapsed - first.elapsed
        ∧ Starts earlier first := by
  constructor
  · intro hdetects
    have hvalid : last.valid.isSome = true := by
      by_contra hnot
      rw [Bool.not_eq_true, Option.isSome_eq_false_iff, Option.isNone_iff_eq_none] at hnot
      rw [detects, observe_invalid _ hnot] at hdetects
      cases hdetects
    obtain ⟨earlier, first, temperature, block, heq, hblock, hstarts⟩ :=
      exists_window history hvalid
    rw [detects_of_window heq hblock hstarts, decide_eq_true_eq] at hdetects
    exact ⟨earlier, first, temperature, block, heq, hblock, hdetects, hstarts⟩
  · rintro ⟨earlier, first, temperature, block, heq, hblock, hspan, hstarts⟩
    rw [detects_of_window heq hblock hstarts, decide_eq_true_eq]
    exact hspan

/-- A sample of a series at intervals of fifteen seconds, at a setpoint of ten degrees below zero. -/
def sampled (temperature elapsed : ℚ) : Observation where
  temperature := some (.finite temperature)
  power := some 20
  target := -10
  tolerance := 2
  sample := 15
  elapsed := elapsed

theorem sampled_valid (elapsed : ℚ) : (sampled (-10) elapsed).valid = some (-10)
      ∧ (sampled (-985 / 100) elapsed).valid = some (-985 / 100)
      ∧ (sampled (-975 / 100) elapsed).valid = some (-975 / 100) := by
  refine ⟨?_, ?_, ?_⟩ <;> simp [sampled, Observation.valid, Observation.holds] <;> norm_num [abs_le]

/-- The second and the third sample hold the setpoint for half a minute, but the third is too warm
for the window that the first one has started. -/
theorem detects_incomplete : ¬∀ (history : List Observation) (last : Observation),
      detects history last = true
        ↔ ∃ earlier first temperature block, history ++ [last] = earlier ++ block
          ∧ Block first temperature block last ∧ 30 ≤ last.elapsed - first.elapsed := by
  intro hclaim
  have hdetects := (hclaim [sampled (-10) 0, sampled (-985 / 100) 2] (sampled (-975 / 100) 32)).mpr
    ⟨[sampled (-10) 0], sampled (-985 / 100) 2, -985 / 100,
      [sampled (-985 / 100) 2] ++ [sampled (-975 / 100) 32], rfl,
      .snoc (.single (sampled_valid 2).2.1) (sampled_valid 32).2.2
        ⟨by norm_num [sampled], by norm_num [sampled, Observation.gap]⟩ (by norm_num),
      by norm_num [sampled]⟩
  revert hdetects
  decide +kernel

end CoolingHold
end Regain.Core
