import Mathlib.Algebra.BigOperators.Group.List.Basic
import Mathlib.Data.List.Chain
import Mathlib.Data.Rat.Cast.Order
import Mathlib.Tactic.FieldSimp
import Mathlib.Tactic.Linarith
import Mathlib.Tactic.Positivity
import Mathlib.Tactic.Ring
import Regain.Hub.Weather.Engine

/-!
# Averages in exact arithmetic

What the engine keeps of the samples of a metric makes the average of a read a mean: the weights
of the points are the parts of the window in which they were the last, so they sum to one.
-/

namespace Regain.Hub.Weather

open Lib
open Duration (toSecs)

def weighted (value : β → ℚ) (entries : List (ℚ × β)) : ℚ :=
  (entries.map fun entry => entry.1 * value entry.2).sum

theorem exists_le_weighted (value : β → ℚ) {entries : List (ℚ × β)} (hne : entries ≠ [])
    (hnonneg : ∀ entry ∈ entries, 0 ≤ entry.1) :
    ∃ entry ∈ entries, value entry.2 * (entries.map Prod.fst).sum ≤ weighted value entries := by
  induction entries with
  | nil => exact absurd rfl hne
  | cons entry rest ih =>
    have hweight := hnonneg entry List.mem_cons_self
    by_cases hrest : rest = []
    · refine ⟨entry, List.mem_cons_self, ?_⟩
      rw [hrest]
      simp only [weighted, List.map_cons, List.map_nil, List.sum_cons, List.sum_nil, add_zero]
      exact (mul_comm _ _).le
    obtain ⟨other, hother, hle⟩ := ih hrest fun e he => hnonneg e (List.mem_cons_of_mem _ he)
    have htotal : 0 ≤ (rest.map Prod.fst).sum := by
      apply List.sum_nonneg
      intro weight hmem
      obtain ⟨e, he, rfl⟩ := List.mem_map.mp hmem
      exact hnonneg e (List.mem_cons_of_mem _ he)
    simp only [weighted, List.map_cons, List.sum_cons] at hle ⊢
    rcases le_total (value entry.2) (value other.2) with hsmall | hsmall
    · refine ⟨entry, List.mem_cons_self, ?_⟩
      have hproduct := mul_le_mul_of_nonneg_right hsmall htotal
      linarith [mul_comm entry.1 (value entry.2),
        mul_add (value entry.2) entry.1 (rest.map Prod.fst).sum]
    · refine ⟨other, List.mem_cons_of_mem _ hother, ?_⟩
      have hproduct := mul_le_mul_of_nonneg_left hsmall hweight
      linarith [mul_comm entry.1 (value other.2),
        mul_add (value other.2) entry.1 (rest.map Prod.fst).sum]

theorem exists_weighted_le (value : β → ℚ) {entries : List (ℚ × β)} (hne : entries ≠ [])
    (hnonneg : ∀ entry ∈ entries, 0 ≤ entry.1) :
    ∃ entry ∈ entries, weighted value entries ≤ value entry.2 * (entries.map Prod.fst).sum := by
  obtain ⟨entry, hmem, hle⟩ := exists_le_weighted (fun point => -value point) hne hnonneg
  have hopposite : weighted (fun point => -value point) entries = -weighted value entries := by
    clear hmem hle hne hnonneg
    unfold weighted
    induction entries with
    | nil => simp
    | cons entry rest ih =>
      simp only [List.map_cons, List.sum_cons, ih]
      ring
  refine ⟨entry, hmem, ?_⟩
  rw [hopposite] at hle
  linarith [neg_mul (value entry.2) (entries.map Prod.fst).sum]

section

variable {trigonometry : Arithmetic.Trigonometry}

theorem weightedSum_eq (value : Point ℚ → ℚ) (entries : List (ℚ × Point ℚ)) :
    weightedSum (.exact trigonometry) value entries = weighted value entries := by
  have hfold : ∀ (sum : ℚ), entries.foldl
      (fun sum entry => sum + entry.1 * value entry.2) sum = sum + weighted value entries := by
    induction entries with
    | nil => simp [weighted]
    | cons entry rest ih =>
      intro sum
      rw [List.foldl_cons, ih]
      simp only [weighted, List.map_cons, List.sum_cons]
      ring
  have hzero := hfold 0
  rw [zero_add] at hzero
  exact hzero

/-- Points in the order of time, all but the first behind the start of the window. -/
structure Windowed (now start : ℚ) (points : List (Point ℚ)) : Prop where
  ordered : points.Pairwise fun first second => first.at_ ≤ second.at_
  recent : ∀ point ∈ points, point.at_ ≤ now
  inside : ∀ point ∈ points.tail, start < point.at_

variable {rest : List (Point ℚ)}

theorem Windowed.tail {now start : ℚ} {point : Point ℚ} (h : Windowed now start (point :: rest)) :
    Windowed now start rest where
  ordered := (List.pairwise_cons.mp h.ordered).2
  recent other hother := h.recent other (List.mem_cons_of_mem _ hother)
  inside other hother := h.inside other (List.mem_of_mem_tail hother)

theorem max_exact (a b : ℚ) : (Arithmetic.exact trigonometry).max a b = max a b := by
  rw [max_def]
  rfl

theorem weights_cons {now start span : ℚ} (hspan : 0 < span) (point : Point ℚ)
    (rest : List (Point ℚ)) : weights (.exact trigonometry) now start span (point :: rest)
      = (max ((rest.head?.map Point.at_).getD now - max point.at_ start) 0 / span, point)
        :: weights (.exact trigonometry) now start span rest := by
  have hpositive : (Arithmetic.exact trigonometry).lt (Arithmetic.exact trigonometry).zero span
      = true := decide_eq_true hspan
  simp only [weights, hpositive, if_true, max_exact]
  rfl

theorem weights_points (now start span : ℚ) (points : List (Point ℚ)) :
    (weights (.exact trigonometry) now start span points).map Prod.snd = points := by
  induction points with
  | nil => rfl
  | cons point rest ih => simp only [weights, List.map_cons, ih]

theorem Windowed.next_le {now start : ℚ} (hstart : start ≤ now) {point : Point ℚ}
    (h : Windowed now start (point :: rest)) :
    max point.at_ start ≤ (rest.head?.map Point.at_).getD now := by
  cases rest with
  | nil => exact max_le (h.recent point List.mem_cons_self) hstart
  | cons next rest =>
    have hordered := (List.pairwise_cons.mp h.ordered).1 next List.mem_cons_self
    exact max_le hordered (h.inside next List.mem_cons_self).le

theorem weights_nonneg {now start span : ℚ} (hspan : 0 < span) (points : List (Point ℚ)) :
    ∀ entry ∈ weights (.exact trigonometry) now start span points, 0 ≤ entry.1 := by
  induction points with
  | nil => simp [weights]
  | cons point rest ih =>
    rw [weights_cons hspan]
    intro entry hmem
    rcases List.mem_cons.mp hmem with rfl | htail
    · exact div_nonneg (le_max_right _ _) hspan.le
    · exact ih entry htail

theorem sum_weights {now start span : ℚ} (hspan : 0 < span) (hstart : start ≤ now) {point : Point ℚ}
    (h : Windowed now start (point :: rest)) :
    ((weights (.exact trigonometry) now start span (point :: rest)).map Prod.fst).sum
      = (now - max point.at_ start) / span := by
  induction rest generalizing point with
  | nil =>
    have hnext := h.next_le hstart
    rw [weights_cons hspan]
    simp only [List.head?_nil, Option.map_none, Option.getD_none] at hnext ⊢
    simp [weights, max_eq_left (sub_nonneg.mpr hnext)]
  | cons next rest ih =>
    have hnext := h.next_le hstart
    have hinside := h.inside next List.mem_cons_self
    rw [weights_cons hspan, List.map_cons, List.sum_cons, ih h.tail]
    simp only [List.head?_cons, Option.map_some, Option.getD_some] at hnext ⊢
    rw [max_eq_left (sub_nonneg.mpr hnext), max_eq_left hinside.le]
    ring

end

section

variable {trigonometry : Arithmetic.Trigonometry} {now start maximumAge : ℚ}

theorem prune_suffix (trigonometry : Arithmetic.Trigonometry) (now start maximumAge : ℚ)
    (points : List (Point ℚ)) :
    prune (.exact trigonometry) now start maximumAge points <:+ points := by
  induction points with
  | nil => exact List.suffix_refl _
  | cons point rest ih =>
    cases rest with
    | nil => exact List.suffix_refl _
    | cons next rest =>
      rw [prune]
      split
      · exact ih.trans (List.suffix_cons _ _)
      · exact List.suffix_refl _

variable {points : List (Point ℚ)}

theorem prune_ne_nil (h : points ≠ []) :
    prune (.exact trigonometry) now start maximumAge points ≠ [] := by
  induction points with
  | nil => exact absurd rfl h
  | cons point rest ih =>
    cases rest with
    | nil => exact List.cons_ne_nil _ _
    | cons next rest =>
      rw [prune]
      split
      · exact ih (List.cons_ne_nil _ _)
      · exact List.cons_ne_nil _ _

theorem prune_front {rest : List (Point ℚ)} {first second : Point ℚ}
    (h : prune (.exact trigonometry) now start maximumAge points = first :: second :: rest) :
    start < second.at_ ∧ first.age + now - first.at_ < maximumAge := by
  induction points with
  | nil => cases h
  | cons point tail ih =>
    cases tail with
    | nil => cases h
    | cons next tail =>
      rw [prune] at h
      split at h
      · exact ih h
      · rename_i hkept
        cases h
        simp only [Arithmetic.exact, Bool.or_eq_true, decide_eq_true_eq, not_or, not_le]
          at hkept
        exact ⟨hkept.1.1, hkept.1.2⟩

theorem prune_windowed (hordered : points.Pairwise fun first second => first.at_ ≤ second.at_)
    (hrecent : ∀ point ∈ points, point.at_ ≤ now) :
    Windowed now start (prune (.exact trigonometry) now start maximumAge points) := by
  have hsuffix := prune_suffix trigonometry now start maximumAge points
  have hkept := hordered.sublist hsuffix.sublist
  refine ⟨hkept, fun point hpoint => hrecent point (hsuffix.subset hpoint), ?_⟩
  cases hpruned : prune (.exact trigonometry) now start maximumAge points with
  | nil => simp
  | cons first rest =>
    cases rest with
    | nil => simp
    | cons second rest =>
      have hsecond := (prune_front hpruned).1
      rw [hpruned] at hkept
      intro point hpoint
      rcases List.mem_cons.mp hpoint with rfl | hlater
      · exact hsecond
      · have horder := (List.pairwise_cons.mp (List.pairwise_cons.mp hkept).2).1 point hlater
        exact hsecond.trans_le horder

end

section

variable {α : Type} {arithmetic : Arithmetic α}

theorem candidate_some {metric : Metric} {maximumAge : α} {now : Nat}
    {state : Option SourceSnapshot} {readout : Readout} {sample : ScalarSample α}
    (h : Engine.candidate arithmetic metric maximumAge now state readout = some sample) :
    arithmetic.lt sample.ageSeconds maximumAge = true
      ∧ metric.accepts arithmetic sample.value = true := by
  unfold Engine.candidate at h
  obtain ⟨_, -, h⟩ := Option.bind_eq_some_iff.mp h
  obtain ⟨value, -, h⟩ := Option.bind_eq_some_iff.mp h
  cases value with
  | number number =>
    dsimp only at h
    split at h
    · split at h
      · rename_i hvalid
        obtain rfl := Option.some.inj h
        simpa using hvalid
      · cases h
    · cases h
  | null => cases h
  | bool value => cases h
  | string text => cases h
  | array items => cases h
  | object fields => cases h

/-- A selected sample is fresh and valid, and comes from one of the sources. -/
theorem select_ok {engine : Engine α} {metric : Metric} {now index : Nat}
    {sample : ScalarSample α} (h : engine.select arithmetic metric now = .ok (index, sample)) :
    ∃ measurement, engine.measurements metric = some measurement
      ∧ (∃ readout, measurement.sources[index]? = some readout)
      ∧ arithmetic.lt sample.ageSeconds measurement.maximumAgeSeconds = true
      ∧ metric.accepts arithmetic sample.value = true := by
  unfold Engine.select at h
  split at h
  · cases h
  · rename_i measurement hmeasurement
    split at h
    · rename_i found hfound
      cases h
      obtain ⟨⟨readout, position⟩, hmem, hoffered⟩ := List.exists_of_findSome?_eq_some hfound
      obtain ⟨chosen, hchosen, heq⟩ := Option.map_eq_some_iff.mp hoffered
      cases heq
      exact ⟨measurement, hmeasurement, ⟨readout, List.mk_mem_zipIdx_iff_getElem?.mp hmem⟩,
        candidate_some hchosen⟩
    · cases h

structure ReadOf (arithmetic : Arithmetic α) (engine : Engine α) (metric : Metric) (now : Nat)
    (reading : Reading α) (measurement : Measurement α) (index : Nat) (sample : ScalarSample α) :
    Prop where
  configured : engine.measurements metric = some measurement
  select : (engine.tick arithmetic now).2.select arithmetic metric now = .ok (index, sample)
  readout : measurement.sources[index]? = some reading.readout
  generation : reading.generation = sample.generation
  revision : reading.revision = sample.revision
  average : reading.averageSeconds = engine.averageOf arithmetic metric
  fresh : arithmetic.lt sample.ageSeconds measurement.maximumAgeSeconds = true
  accepted : metric.accepts arithmetic sample.value = true
  value : mean arithmetic metric (arithmetic.seconds now) (engine.averageOf arithmetic metric)
    sample.value ((engine.tick arithmetic now).2.recorded arithmetic metric
      measurement.maximumAgeSeconds index sample now).points = .ok reading.value
  age : reading.ageSeconds = sample.ageSeconds
  sequence : reading.sequence = sample.sequence
  count : reading.sampleCount = ((engine.tick arithmetic now).2.recorded arithmetic metric
    measurement.maximumAgeSeconds index sample now).points.length
  kept : (engine.readOne arithmetic metric now).2.history metric
    = some ((engine.tick arithmetic now).2.recorded arithmetic metric
      measurement.maximumAgeSeconds index sample now)

theorem tick_averageOf (engine : Engine α) (metric : Metric) (now : Nat) :
    (engine.tick arithmetic now).2.averageOf arithmetic metric
      = engine.averageOf arithmetic metric := by
  unfold Engine.averageOf Engine.tick
  split
  · rfl
  · split <;> rfl

theorem readOne_ok {engine : Engine α} {metric : Metric} {now : Nat} {reading : Reading α}
    (h : (engine.readOne arithmetic metric now).1 = .ok reading) :
    ∃ measurement index sample, ReadOf arithmetic engine metric now reading measurement index sample := by
  have hmeasurements : (engine.tick arithmetic now).2.measurements = engine.measurements := by
    unfold Engine.tick
    split <;> rfl
  unfold Engine.readOne at h
  dsimp only at h
  cases htick : (engine.tick arithmetic now).1 with
  | error error =>
    rw [htick] at h
    cases h
  | ok =>
  cases hselect : (engine.tick arithmetic now).2.select arithmetic metric now with
  | error error =>
    rw [htick, hselect] at h
    cases hmeasurement : (engine.tick arithmetic now).2.measurements metric <;>
      rw [hmeasurement] at h <;> cases h
  | ok chosen =>
  obtain ⟨index, sample⟩ := chosen
  obtain ⟨measurement, hmeasurement, -, hfresh, haccepted⟩ := select_ok hselect
  rw [htick, hselect, hmeasurement] at h
  dsimp only at h
  cases hmean : mean arithmetic metric (arithmetic.seconds now)
      ((engine.tick arithmetic now).2.averageOf arithmetic metric) sample.value
      ((engine.tick arithmetic now).2.recorded arithmetic metric
        measurement.maximumAgeSeconds index sample now).points with
  | error error =>
    rw [hmean] at h
    cases h
  | ok value =>
    rw [hmean] at h
    simp only [bind, Except.bind] at h
    split at h
    · split at h
      · rename_i readout hreadout
        cases h
        refine ⟨measurement, index, sample, hmeasurements ▸ hmeasurement, hselect, hreadout,
          rfl, rfl, tick_averageOf _ _ _, hfresh, haccepted, ?_, rfl, rfl, rfl, ?_⟩
        · rw [tick_averageOf] at hmean
          exact hmean
        · unfold Engine.readOne
          dsimp only
          rw [htick, hselect, hmeasurement]
          simp only [Function.update_self]
      · cases h
    · cases h

end

section

variable {trigonometry : Arithmetic.Trigonometry}

def Unskipped (first second : Point ℚ) : Prop :=
  second.sequence ≤ first.sequence + 1 ∧ second.sequence ≠ first.sequence

/-- The points of a history, up to the last tick of the engine. -/
structure Kept (trigonometry : Arithmetic.Trigonometry) (metric : Metric) (history : History ℚ)
    (lastNow : ℚ) : Prop where
  ordered : history.points.Pairwise fun first second => first.at_ ≤ second.at_
  recent : ∀ point ∈ history.points, point.at_ ≤ lastNow
  same : ∀ point ∈ history.points, history.identity = some point.identity
  accepted : ∀ point ∈ history.points,
    metric.accepts (.exact trigonometry) point.value = true
  unskipped : history.points.IsChain Unskipped
  last : ∀ point ∈ history.points.getLast?, point.sequence = history.sequence

theorem Kept.empty (metric : Metric) (identity : Option Identity) (lastNow : ℚ) :
    Kept trigonometry metric { identity := identity } lastNow := by
  constructor <;> simp

variable {history : History ℚ}

variable {metric : Metric}

theorem Kept.later {lastNow now : ℚ}
    (h : Kept trigonometry metric history lastNow) (hle : lastNow ≤ now) :
    Kept trigonometry metric history now :=
  { h with recent := fun point hpoint => (h.recent point hpoint).trans hle }

theorem Kept.matching {lastNow : ℚ} (h : Kept trigonometry metric history lastNow)
    (identity : Identity) (sequence : Nat) :
    Kept trigonometry metric (history.matching identity sequence) lastNow
      ∧ (history.matching identity sequence).identity = some identity
      ∧ ((history.matching identity sequence).points ≠ [] →
        sequence ≤ (history.matching identity sequence).sequence + 1) := by
  unfold History.matching
  split
  · exact ⟨Kept.empty _ _ _, rfl, fun hne => absurd rfl hne⟩
  · rename_i hmatch
    rw [not_or, not_not, not_lt] at hmatch
    exact ⟨h, hmatch.1, fun _ => hmatch.2.trans (Nat.min_le_left _ _)⟩

theorem Kept.push {now : Nat}
    (h : Kept trigonometry metric history (toSecs now)) {identity : Identity}
    (hidentity : history.identity = some identity) {sample : ScalarSample ℚ}
    (haccepted : metric.accepts (.exact trigonometry) sample.value = true)
    (hnext : history.points ≠ [] → sample.sequence ≤ history.sequence + 1) :
    Kept trigonometry metric (history.push (.exact trigonometry) identity sample now)
      (toSecs now) := by
  unfold History.push
  split
  · rename_i hnew
    constructor
    · refine List.pairwise_append.mpr ⟨h.ordered, List.pairwise_singleton _ _, ?_⟩
      intro point hpoint other hother
      rw [List.mem_singleton.mp hother]
      exact h.recent point hpoint
    · intro point hpoint
      rcases List.mem_append.mp hpoint with hold | hold
      · exact h.recent point hold
      · rw [List.mem_singleton.mp hold]
        exact le_rfl
    · intro point hpoint
      rcases List.mem_append.mp hpoint with hold | hold
      · exact h.same point hold
      · rw [List.mem_singleton.mp hold]
        exact hidentity
    · intro point hpoint
      rcases List.mem_append.mp hpoint with hold | hold
      · exact h.accepted point hold
      · rw [List.mem_singleton.mp hold]
        exact haccepted
    · refine List.isChain_append.mpr ⟨h.unskipped, List.isChain_singleton _, ?_⟩
      intro point hpoint other hother
      cases hother
      have hlast := h.last point hpoint
      have hne : history.points ≠ [] := by
        intro hnil
        simp [hnil] at hpoint
      refine ⟨hlast ▸ hnext hne, ?_⟩
      rw [hlast]
      rcases hnew with hnew | hnil
      · exact fun heq => hnew heq.symm
      · exact absurd hnil hne
    · intro point hpoint
      rw [List.getLast?_concat] at hpoint
      cases hpoint
      rfl
  · exact h

theorem Kept.prune {lastNow : ℚ} (h : Kept trigonometry metric history lastNow)
    (now start maximumAge : ℚ) :
    Kept trigonometry metric
      { history with points := prune (.exact trigonometry) now start maximumAge history.points }
      lastNow := by
  have hsuffix := prune_suffix trigonometry now start maximumAge history.points
  constructor
  · exact h.ordered.sublist hsuffix.sublist
  · exact fun point hpoint => h.recent point (hsuffix.subset hpoint)
  · exact fun point hpoint => h.same point (hsuffix.subset hpoint)
  · exact fun point hpoint => h.accepted point (hsuffix.subset hpoint)
  · exact h.unskipped.suffix hsuffix
  · intro point hpoint
    have hne : history.points ≠ [] := by
      intro hnil
      simp [hnil, Weather.prune] at hpoint
    apply h.last
    obtain ⟨dropped, happend⟩ := hsuffix
    rw [← happend, List.getLast?_append_of_ne_nil _ (prune_ne_nil hne)]
    exact hpoint

theorem recorded_kept {engine : Engine ℚ} {now : Nat}
    (h : ∀ history, engine.history metric = some history →
      Kept trigonometry metric history (toSecs now))
    (maximumAge : ℚ) (index : Nat) {sample : ScalarSample ℚ}
    (haccepted : metric.accepts (.exact trigonometry) sample.value = true) :
    Kept trigonometry metric
        (engine.recorded (.exact trigonometry) metric maximumAge index sample now) (toSecs now)
      ∧ (engine.recorded (.exact trigonometry) metric maximumAge index sample now).identity
        = some (index, sample.generation, sample.revision) ∧ Windowed (toSecs now)
        (toSecs now - engine.averageOf (.exact trigonometry) metric)
        (engine.recorded (.exact trigonometry) metric maximumAge index sample now).points := by
  have hkept : Kept trigonometry metric ((engine.history metric).getD {}) (toSecs now) := by
    cases hhistory : engine.history metric with
    | none => exact Kept.empty _ _ _
    | some history => exact h history hhistory
  obtain ⟨hmatching, hidentity, hnext⟩ :=
    hkept.matching (index, sample.generation, sample.revision) sample.sequence
  have hpushed := hmatching.push hidentity haccepted hnext
  refine ⟨hpushed.prune _ _ _, ?_, prune_windowed hpushed.ordered hpushed.recent⟩
  simp only [Engine.recorded, History.push]
  split
  · exact hidentity
  · exact hidentity

end

/-- An average is asked for, and the retained samples cover a part of its window. -/
def Covers (trigonometry : Arithmetic.Trigonometry) (history : History ℚ) (now : Nat)
    (average : ℚ) : Prop :=
  0 < average ∧ 1 < history.points.length
    ∧ 0 < total (.exact trigonometry) (toSecs now) (toSecs now - average) history.points

/-- A reading is the mean of the entries, and these are what is retained of the metric. -/
structure Averaged (trigonometry : Arithmetic.Trigonometry) (metric : Metric)
    (measurement : Measurement ℚ) (history : History ℚ) (now : Nat) (reading : Reading ℚ)
    (entries : List (ℚ × Point ℚ)) : Prop where
  nonneg : ∀ entry ∈ entries, 0 ≤ entry.1
  one : (entries.map Prod.fst).sum = 1
  value : reading.value = weighted Point.value entries
  /-- Every retained sample weighs the part of the window in which it was the last. -/
  timed : Covers trigonometry history now reading.averageSeconds →
    entries = weights (.exact trigonometry) (toSecs now) (toSecs now - reading.averageSeconds)
      (total (.exact trigonometry) (toSecs now) (toSecs now - reading.averageSeconds)
        history.points) history.points
  /-- Without such a window the sample of the read stands alone. -/
  alone : ¬ Covers trigonometry history now reading.averageSeconds → ∃ index,
    entries = [(1, ⟨toSecs now, reading.ageSeconds, reading.value,
      (index, reading.generation, reading.revision), reading.sequence⟩)]
  count : reading.sampleCount = history.points.length
  source : ∃ index, measurement.sources[index]? = some reading.readout
    ∧ ∀ entry ∈ entries, entry.2.identity = (index, reading.generation, reading.revision)
  unskipped : (entries.map Prod.snd).IsChain Unskipped
  accepted : ∀ entry ∈ entries, metric.accepts (.exact trigonometry) entry.2.value = true

section

variable {trigonometry : Arithmetic.Trigonometry} {metric : Metric} {measurement : Measurement ℚ}
  {history : History ℚ} {now : Nat} {reading : Reading ℚ} {entries : List (ℚ × Point ℚ)}

theorem Averaged.ne_nil (h : Averaged trigonometry metric measurement history now reading entries) :
    entries ≠ [] := by
  intro hnil
  have hone := h.one
  simp [hnil] at hone

theorem Averaged.between
    (h : Averaged trigonometry metric measurement history now reading entries) :
    (∃ entry ∈ entries, entry.2.value ≤ reading.value)
      ∧ ∃ entry ∈ entries, reading.value ≤ entry.2.value := by
  obtain ⟨least, hleast, hle⟩ := exists_le_weighted Point.value h.ne_nil h.nonneg
  obtain ⟨greatest, hgreatest, hge⟩ := exists_weighted_le Point.value h.ne_nil h.nonneg
  rw [h.one, mul_one, ← h.value] at hle hge
  exact ⟨⟨least, hleast, hle⟩, greatest, hgreatest, hge⟩

theorem accepts_between {least value greatest : ℚ}
    (hleast : metric.accepts (.exact trigonometry) least = true)
    (hgreatest : metric.accepts (.exact trigonometry) greatest = true)
    (hle : least ≤ value) (hge : value ≤ greatest) :
    metric.accepts (.exact trigonometry) value = true := by
  unfold Metric.accepts at *
  simp only [Arithmetic.exact, id, Bool.and_eq_true, Option.all_eq_true, true_and,
    decide_eq_true_eq] at *
  constructor
  · intro minimum hminimum
    have hbound := hleast.1 minimum hminimum
    split
    · rename_i hstrict
      rw [if_pos hstrict] at hbound
      exact decide_eq_true ((of_decide_eq_true hbound).trans_le hle)
    · rename_i hstrict
      rw [if_neg hstrict] at hbound
      exact decide_eq_true ((of_decide_eq_true hbound).trans hle)
  · intro maximum hmaximum
    exact hge.trans (hgreatest.2 maximum hmaximum)

theorem Averaged.accepts
    (h : Averaged trigonometry metric measurement history now reading entries) :
    metric.accepts (.exact trigonometry) reading.value = true := by
  obtain ⟨⟨least, hleast, hle⟩, greatest, hgreatest, hge⟩ := h.between
  exact accepts_between (h.accepted least hleast) (h.accepted greatest hgreatest) hle hge

def entriesOf (trigonometry : Arithmetic.Trigonometry) (engine : Engine ℚ) (metric : Metric)
    (now : Nat) (maximumAge : ℚ) (index : Nat) (sample : ScalarSample ℚ) : List (ℚ × Point ℚ) :=
  let seconds := toSecs now
  let average := engine.averageOf (.exact trigonometry) metric
  let points := ((engine.tick (.exact trigonometry) now).2.recorded (.exact trigonometry) metric
    maximumAge index sample now).points
  let span := total (.exact trigonometry) seconds (seconds - average) points
  if 0 < average ∧ 1 < points.length ∧ 0 < span then
    weights (.exact trigonometry) seconds (seconds - average) span points
  else
    [(1, ⟨seconds, sample.ageSeconds, sample.value,
      (index, sample.generation, sample.revision), sample.sequence⟩)]

variable {sample : ScalarSample ℚ}

theorem mean_entries {engine : Engine ℚ} (hmetric : metric ≠ .windDirection) {index : Nat}
    (h : ReadOf (.exact trigonometry) engine metric now reading measurement index sample) :
    reading.value = weighted Point.value
      (entriesOf trigonometry engine metric now measurement.maximumAgeSeconds index sample) := by
  have hvalue := h.value
  unfold mean at hvalue
  unfold entriesOf
  dsimp only at hvalue ⊢
  split at hvalue
  · rename_i haveraged
    obtain ⟨haverage, hlength⟩ := haveraged
    have haverage := of_decide_eq_true haverage
    split at hvalue
    · rename_i hspan
      have hspan := of_decide_eq_true hspan
      rw [if_pos ⟨haverage, hlength, hspan⟩, ← weightedSum_eq]
      exact (Except.ok.inj hvalue).symm
    · rename_i hspan
      rw [if_neg (fun hall => hspan (decide_eq_true hall.2.2)), ← Except.ok.inj hvalue]
      simp [weighted]
  · rename_i hsingle
    rw [if_neg (fun hall => hsingle ⟨decide_eq_true hall.1, hall.2.1⟩), ← Except.ok.inj hvalue]
    simp [weighted]

theorem total_eq {seconds start : ℚ} {point : Point ℚ} {rest : List (Point ℚ)}
    (hspan : 0 < total (.exact trigonometry) seconds start (point :: rest)) :
    total (.exact trigonometry) seconds start (point :: rest) = seconds - max point.at_ start := by
  simp only [total, List.head?_cons, max_exact] at hspan ⊢
  exact max_eq_left_of_lt ((lt_max_iff.mp hspan).resolve_right (lt_irrefl _)) 

/-- The samples that a read of a metric takes its mean over, with their weights. -/
def evidence (trigonometry : Arithmetic.Trigonometry) (engine : Engine ℚ) (metric : Metric)
    (now : Nat) : List (ℚ × Point ℚ) :=
  match engine.measurements metric,
    (engine.tick (.exact trigonometry) now).2.select (.exact trigonometry) metric now with
  | some measurement, .ok (index, sample) =>
    entriesOf trigonometry engine metric now measurement.maximumAgeSeconds index sample
  | _, _ => []

theorem evidence_eq {engine : Engine ℚ} {metric : Metric} {now index : Nat} {reading : Reading ℚ}
    {measurement : Measurement ℚ}
    (h : ReadOf (.exact trigonometry) engine metric now reading measurement index sample) :
    evidence trigonometry engine metric now
      = entriesOf trigonometry engine metric now measurement.maximumAgeSeconds index sample := by
  unfold evidence
  rw [h.configured, h.select]

theorem Averaged.of_window {index : Nat} (hcovers : Covers trigonometry history now
      reading.averageSeconds)
    (hwindow : Windowed (toSecs now) (toSecs now - reading.averageSeconds) history.points)
    (hkept : Kept trigonometry metric history (toSecs now))
    (hidentity : history.identity = some (index, reading.generation, reading.revision))
    (hreadout : measurement.sources[index]? = some reading.readout)
    (hcount : reading.sampleCount = history.points.length)
    (hentries : entries = weights (.exact trigonometry) (toSecs now)
      (toSecs now - reading.averageSeconds) (total (.exact trigonometry) (toSecs now)
        (toSecs now - reading.averageSeconds) history.points) history.points)
    (hvalue : reading.value = weighted Point.value entries) :
    Averaged trigonometry metric measurement history now reading entries := by
  obtain ⟨haverage, hlength, hspan⟩ := hcovers
  have hpoints : entries.map Prod.snd = history.points := by
    rw [hentries, weights_points]
  have hsnd : ∀ entry ∈ entries, entry.2 ∈ history.points := by
    intro entry hentry
    rw [← hpoints]
    exact List.mem_map_of_mem hentry
  exact {
    nonneg := by
      rw [hentries]
      exact weights_nonneg hspan _
    one := by
      rw [hentries]
      cases hlist : history.points with
      | nil => simp [hlist] at hlength
      | cons first rest =>
        rw [hlist] at hwindow hspan
        rw [sum_weights hspan (by linarith) hwindow, ← total_eq hspan]
        exact div_self hspan.ne'
    value := hvalue
    timed := fun _ => hentries
    alone := fun hnot => absurd ⟨haverage, hlength, hspan⟩ hnot
    count := hcount
    source := by
      refine ⟨index, hreadout, fun entry hentry => ?_⟩
      have hsame := hkept.same entry.2 (hsnd entry hentry)
      rw [hidentity] at hsame
      exact (Option.some.inj hsame).symm
    unskipped := by
      rw [hpoints]
      exact hkept.unskipped
    accepted := fun entry hentry => hkept.accepted entry.2 (hsnd entry hentry) }

theorem averaged {engine : Engine ℚ} (hmetric : metric ≠ .windDirection)
    (hkept : ∀ history, (engine.tick (.exact trigonometry) now).2.history metric = some history →
      Kept trigonometry metric history (toSecs now)) {index : Nat}
    (h : ReadOf (.exact trigonometry) engine metric now reading measurement index sample) :
    Averaged trigonometry metric measurement
      ((engine.tick (.exact trigonometry) now).2.recorded (.exact trigonometry) metric
        measurement.maximumAgeSeconds index sample now) now reading
      (entriesOf trigonometry engine metric now measurement.maximumAgeSeconds index sample) := by
  have hvalue := mean_entries hmetric h
  obtain ⟨hrecorded, hidentity, hwindow⟩ :=
    recorded_kept hkept measurement.maximumAgeSeconds index h.accepted
  rw [tick_averageOf, ← h.average] at hwindow
  unfold entriesOf at hvalue ⊢
  rw [← h.average] at hvalue ⊢
  dsimp only at hvalue ⊢
  by_cases hall : 0 < reading.averageSeconds
      ∧ 1 < ((engine.tick (.exact trigonometry) now).2.recorded (.exact trigonometry) metric
        measurement.maximumAgeSeconds index sample now).points.length
      ∧ 0 < total (.exact trigonometry) (toSecs now)
        (toSecs now - reading.averageSeconds)
        ((engine.tick (.exact trigonometry) now).2.recorded (.exact trigonometry) metric
          measurement.maximumAgeSeconds index sample now).points
  · rw [if_pos hall] at hvalue ⊢
    refine Averaged.of_window hall hwindow hrecorded ?_ h.readout h.count rfl hvalue
    rw [hidentity, h.generation, h.revision]
  · rw [if_neg hall] at hvalue ⊢
    have hsame : reading.value = sample.value := by simpa [weighted] using hvalue
    exact {
      nonneg := by simp
      one := by simp
      value := hvalue
      timed := fun hcovers => absurd hcovers hall
      alone := fun _ => ⟨index, by
        rw [h.age, hsame, h.generation, h.revision, h.sequence]⟩
      count := h.count
      source := ⟨index, h.readout, by simp [h.generation, h.revision]⟩
      unskipped := List.isChain_singleton _
      accepted := by simpa using h.accepted }

end

end Regain.Hub.Weather
