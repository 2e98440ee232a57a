import Mathlib.Data.List.Basic
import Regain.Hub.Weather.Engine

/-!
# Diagnostic reads of a weather engine

Diagnostics read a private copy of the engine. A read of the copy agrees with the read of the
engine, whatever the arithmetic.
-/

namespace Regain.Hub

open Lib
open Std (TreeMap)

def SourceSnapshot.projectSamples (state : SourceSnapshot) (keys : List String) : SourceSnapshot :=
  { state with
    values := state.values.filter fun key value =>
      decide (key ∈ keys) && (value.asF64.isSome || value.asBool.isSome)
    sampleErrors := state.sampleErrors.filter fun key _ => decide (key ∈ keys)
    sampleAges := state.sampleAges.filter fun key _ => decide (key ∈ keys)
    sampleStarted := state.sampleStarted.filter fun key _ => decide (key ∈ keys)
    sampleSequences := state.sampleSequences.filter fun key _ => decide (key ∈ keys) }

namespace Weather

variable {α : Type} {arithmetic : Arithmetic α}

namespace Engine

def needed (metrics : List Metric) : List Metric :=
  if .windDirection ∈ metrics then .windSpeed :: metrics else metrics

def readouts (measurements : Metric → Option (Measurement α)) : List Readout :=
  Metric.all.flatMap fun metric => ((measurements metric).map Measurement.sources).getD []

def keys (measurements : Metric → Option (Measurement α)) (source : Uuid) : List String :=
  ((readouts measurements).filter fun readout => readout.source = source).map sampleKey

def diagnosticCopy (engine : Engine α) (metrics : List Metric) : Engine α :=
  let kept := fun metric => decide (metric ∈ needed metrics)
  let measurements := fun metric => if kept metric then engine.measurements metric else none
  { engine with
    measurements := measurements
    states := fun source =>
      if keys measurements source = [] then none
      else (engine.states source).map fun state => state.projectSamples (keys measurements source)
    history := fun metric => if kept metric then engine.history metric else none
    lastValid := fun metric => if kept metric then engine.lastValid metric else none }

def diagnosticRead (arithmetic : Arithmetic α) (engine : Engine α) (metrics : List Metric)
    (metric : Metric) (now : Nat) : Except SourceError (Reading α) × Engine α :=
  (((engine.diagnosticCopy metrics).read arithmetic metric now).1, engine)

structure Alike (readout : Readout) (live copy : SourceSnapshot) : Prop where
  source : copy.source = live.source
  revision : copy.revision = live.revision
  generation : copy.generation = live.generation
  sequence : copy.sequence = live.sequence
  transportConnected : copy.transportConnected = live.transportConnected
  error : copy.error = live.error
  sampledAt : copy.sampledAt = live.sampledAt
  values : copy.values[sampleKey readout]?
    = live.values[sampleKey readout]?.filter fun value => value.asF64.isSome || value.asBool.isSome
  sampleErrors : copy.sampleErrors[sampleKey readout]? = live.sampleErrors[sampleKey readout]?
  sampleAges : copy.sampleAges[sampleKey readout]? = live.sampleAges[sampleKey readout]?
  sampleStarted : copy.sampleStarted[sampleKey readout]? = live.sampleStarted[sampleKey readout]?
  sampleSequences : copy.sampleSequences[sampleKey readout]?
    = live.sampleSequences[sampleKey readout]?

theorem filter_all {β : Type} (option : Option β) : option.filter (fun _ => true) = option := by
  cases option <;> rfl

theorem alike_project (state : SourceSnapshot) (readout : Readout) {keys : List String}
    (h : sampleKey readout ∈ keys) : Alike readout state (state.projectSamples keys) where
  source := rfl
  revision := rfl
  generation := rfl
  sequence := rfl
  transportConnected := rfl
  error := rfl
  sampledAt := rfl
  values := by simp [SourceSnapshot.projectSamples, TreeMap.getElem?_filter, h]
  sampleErrors := by simp [SourceSnapshot.projectSamples, TreeMap.getElem?_filter, h, filter_all]
  sampleAges := by simp [SourceSnapshot.projectSamples, TreeMap.getElem?_filter, h, filter_all]
  sampleStarted := by simp [SourceSnapshot.projectSamples, TreeMap.getElem?_filter, h, filter_all]
  sampleSequences := by simp [SourceSnapshot.projectSamples, TreeMap.getElem?_filter, h, filter_all]

theorem Alike.scalar {readout : Readout} {live copy : SourceSnapshot} (h : Alike readout live copy)
    (now : Nat) {number : JsonNumber} (hvalue : live.values[sampleKey readout]? = some (.number number)) :
    scalar arithmetic copy readout now = scalar arithmetic live readout now := by
  have hcopy : copy.values[sampleKey readout]? = some (.number number) := by
    rw [h.values, hvalue]
    cases number <;> rfl
  unfold Weather.scalar
  rw [h.source, h.transportConnected, h.error, h.sampleErrors, hcopy, hvalue, h.sampleStarted,
    h.sampledAt, h.sampleAges, h.sampleSequences, h.generation, h.sequence, h.revision]

theorem Alike.candidate {readout : Readout} {live copy : SourceSnapshot}
    (h : Alike readout live copy) (metric : Metric) (maximumAge : α) (now : Nat) :
    candidate arithmetic metric maximumAge now (some copy) readout
      = candidate arithmetic metric maximumAge now (some live) readout := by
  unfold Engine.candidate
  simp only [Option.bind_eq_bind, Option.bind_some]
  rw [h.values]
  cases hvalue : live.values[sampleKey readout]? with
  | none => rfl
  | some value =>
    cases value with
    | number number =>
      have hkept : (some (Json.number number)).filter
          (fun value => value.asF64.isSome || value.asBool.isSome)
          = some (.number number) := by
        cases number <;> rfl
      rw [hkept]
      simp only [Option.bind_some, h.scalar now hvalue]
    | null => rfl
    | bool value => rfl
    | string text => rfl
    | array items => rfl
    | object fields => rfl

/-- A copy that a read of a metric cannot tell from the engine. -/
structure Agrees (metric : Metric) (live copy : Engine α) : Prop where
  measurements : copy.measurements metric = live.measurements metric
  history : copy.history metric = live.history metric
  average : copy.average = live.average
  lastNow : copy.lastNow = live.lastNow
  clockFault : copy.clockFault = live.clockFault
  states : ∀ measurement, live.measurements metric = some measurement →
    ∀ readout ∈ measurement.sources,
      (live.states readout.source = none ∧ copy.states readout.source = none)
        ∨ ∃ state projected, live.states readout.source = some state
          ∧ copy.states readout.source = some projected ∧ Alike readout state projected

section

variable {metric : Metric} {live copy : Engine α}

theorem Agrees.select (h : Agrees metric live copy) (now : Nat) :
    copy.select arithmetic metric now = live.select arithmetic metric now := by
  unfold Engine.select
  rw [h.measurements]
  cases hmeasurement : live.measurements metric with
  | none => rfl
  | some measurement =>
    have hsame : measurement.sources.zipIdx.findSome?
          (offered arithmetic metric measurement.maximumAgeSeconds now copy.states)
        = measurement.sources.zipIdx.findSome?
          (offered arithmetic metric measurement.maximumAgeSeconds now live.states) := by
      rw [← List.head?_filterMap, ← List.head?_filterMap]
      congr 1
      apply List.filterMap_congr
      rintro ⟨readout, index⟩ hmem
      have hsource := List.mem_of_getElem? (List.mk_mem_zipIdx_iff_getElem?.mp hmem)
      unfold offered
      rcases h.states measurement hmeasurement readout hsource with
        ⟨hlive, hcopy⟩ | ⟨state, projected, hlive, hcopy, halike⟩
      · rw [hlive, hcopy]
      · rw [hlive, hcopy, halike.candidate]
    simp only [hsame]

theorem Agrees.tick (h : Agrees metric live copy) (arithmetic : Arithmetic α) (now : Nat) :
    (copy.tick arithmetic now).1 = (live.tick arithmetic now).1
      ∧ Agrees metric (live.tick arithmetic now).2 (copy.tick arithmetic now).2 := by
  unfold Engine.tick
  rw [h.lastNow]
  split
  · exact ⟨rfl, h.measurements, rfl, h.average, rfl, rfl, fun _ _ _ _ => .inl ⟨rfl, rfl⟩⟩
  · dsimp only
    rw [h.clockFault]
    exact ⟨rfl, h.measurements, h.history, h.average, rfl, rfl, h.states⟩

theorem Agrees.averageOf (h : Agrees metric live copy) (other : Metric) :
    copy.averageOf arithmetic other = live.averageOf arithmetic other := by
  unfold Engine.averageOf
  rw [h.average]

theorem Agrees.recorded (h : Agrees metric live copy) (maximumAge : α) (index : Nat)
    (sample : ScalarSample α) (now : Nat) :
    copy.recorded arithmetic metric maximumAge index sample now
      = live.recorded arithmetic metric maximumAge index sample now := by
  unfold Engine.recorded
  rw [h.history, h.averageOf]

theorem Agrees.readOne (h : Agrees metric live copy) (arithmetic : Arithmetic α) (now : Nat) :
    (copy.readOne arithmetic metric now).1 = (live.readOne arithmetic metric now).1 := by
  obtain ⟨hresult, hticked⟩ := h.tick arithmetic now
  unfold Engine.readOne
  dsimp only
  rw [hresult, hticked.measurements, hticked.select, hticked.averageOf]
  split
  · rfl
  · rfl
  · rfl
  · rw [hticked.recorded]

end

structure Untouched (arithmetic : Arithmetic α) (metric : Metric) (now : Nat)
    (before after : Engine α) : Prop where
  measurements : after.measurements = before.measurements
  states : after.states = (before.tick arithmetic now).2.states
  history : ∀ other, other ≠ metric →
    after.history other = (before.tick arithmetic now).2.history other
  average : after.average = before.average
  lastNow : after.lastNow = arithmetic.seconds now
  clockFault : after.clockFault = (before.tick arithmetic now).2.clockFault

theorem tick_measurements (arithmetic : Arithmetic α) (engine : Engine α) (now : Nat) :
    (engine.tick arithmetic now).2.measurements = engine.measurements := by
  unfold Engine.tick
  split <;> rfl

theorem tick_average (arithmetic : Arithmetic α) (engine : Engine α) (now : Nat) :
    (engine.tick arithmetic now).2.average = engine.average := by
  unfold Engine.tick
  split <;> rfl

theorem readOne_untouched (arithmetic : Arithmetic α) (engine : Engine α) (metric : Metric)
    (now : Nat) :
    Untouched arithmetic metric now engine (engine.readOne arithmetic metric now).2 := by
  have hmeasurements := tick_measurements arithmetic engine now
  have haverage := tick_average arithmetic engine now
  unfold Engine.readOne
  dsimp only
  split
  · exact ⟨hmeasurements, rfl, fun _ _ => rfl, haverage, rfl, rfl⟩
  · exact ⟨hmeasurements, rfl, fun _ _ => rfl, haverage, rfl, rfl⟩
  · exact ⟨hmeasurements, rfl, fun _ hother => Function.update_of_ne hother _ _, haverage, rfl, rfl⟩
  · exact ⟨hmeasurements, rfl, fun _ hother => Function.update_of_ne hother _ _, haverage, rfl, rfl⟩

theorem Agrees.readOther {metric other : Metric} {live copy : Engine α}
    (h : Agrees other live copy) (hother : other ≠ metric) (arithmetic : Arithmetic α) (now : Nat) :
    Agrees other (live.readOne arithmetic metric now).2 (copy.readOne arithmetic metric now).2 := by
  have hlive := readOne_untouched arithmetic live metric now
  have hcopy := readOne_untouched arithmetic copy metric now
  obtain ⟨-, hticked⟩ := h.tick arithmetic now
  constructor
  · rw [hcopy.measurements, hlive.measurements, h.measurements]
  · rw [hcopy.history other hother, hlive.history other hother, hticked.history]
  · rw [hcopy.average, hlive.average, h.average]
  · rw [hcopy.lastNow, hlive.lastNow]
  · rw [hcopy.clockFault, hlive.clockFault, hticked.clockFault]
  · intro measurement hmeasurement
    rw [hcopy.states, hlive.states]
    apply hticked.states
    rw [tick_measurements, ← hlive.measurements]
    exact hmeasurement

theorem Agrees.read {metric : Metric} {live copy : Engine α} (h : Agrees metric live copy)
    (hspeed : metric = .windDirection → Agrees .windSpeed live copy) (arithmetic : Arithmetic α)
    (now : Nat) : (copy.read arithmetic metric now).1 = (live.read arithmetic metric now).1 := by
  have hone := h.readOne arithmetic now
  unfold Engine.read
  dsimp only
  split
  · rename_i hdirection
    have hdistinct : Metric.windSpeed ≠ metric := by simp [hdirection]
    have hcalm := ((hspeed hdirection).readOther hdistinct arithmetic now).readOne arithmetic now
    rw [hone]
    split
    · rfl
    · rw [hcalm]
      split <;> rfl
  · exact hone

theorem mem_all (metric : Metric) : metric ∈ Metric.all := by
  cases metric <;> decide

theorem agrees_copy (engine : Engine α) (metrics : List Metric) {metric : Metric}
    (h : metric ∈ needed metrics) : Agrees metric engine (engine.diagnosticCopy metrics) := by
  have hkept : (engine.diagnosticCopy metrics).measurements metric = engine.measurements metric := by
    simp [diagnosticCopy, h]
  refine ⟨hkept, by simp [diagnosticCopy, h], rfl, rfl, rfl, ?_⟩
  intro measurement hmeasurement readout hreadout
  have hkey : sampleKey readout
      ∈ keys (engine.diagnosticCopy metrics).measurements readout.source := by
    apply List.mem_map_of_mem
    rw [List.mem_filter]
    refine ⟨List.mem_flatMap.mpr ⟨metric, mem_all metric, ?_⟩, by simp⟩
    rw [hkept, hmeasurement]
    exact hreadout
  have hsome : keys (engine.diagnosticCopy metrics).measurements readout.source ≠ [] :=
    List.ne_nil_of_mem hkey
  have hstates : (engine.diagnosticCopy metrics).states readout.source
      = (engine.states readout.source).map fun state => state.projectSamples
        (keys (engine.diagnosticCopy metrics).measurements readout.source) :=
    if_neg hsome
  rw [hstates]
  cases hstate : engine.states readout.source with
  | none => exact .inl ⟨rfl, rfl⟩
  | some state => exact .inr ⟨state, _, rfl, rfl, alike_project state readout hkey⟩

theorem mem_needed {metrics : List Metric} {metric : Metric} (h : metric ∈ metrics) :
    metric ∈ needed metrics := by
  unfold needed
  split
  · exact List.mem_cons_of_mem _ h
  · exact h

/-- Diagnostic reads are live reads, and the engine stays as it is. -/
theorem diagnosticRead_eq (arithmetic : Arithmetic α) (engine : Engine α) (metrics : List Metric)
    (metric : Metric) (hmetric : metric ∈ metrics) (now : Nat) :
    diagnosticRead arithmetic engine metrics metric now
      = ((engine.read arithmetic metric now).1, engine) := by
  have hread := (agrees_copy engine metrics (mem_needed hmetric)).read
    (fun hdirection => agrees_copy engine metrics (by
      rw [hdirection] at hmetric
      simp [needed, hmetric])) arithmetic now
  rw [diagnosticRead, hread]

/-- A station whose thermometer rose from 20 to 24 degrees ten seconds ago. -/
def risen : Engine ℚ :=
  ((new (.exact noAngles) station).observe (.exact noAngles)
      (sampled 20 1 1000000000 (.finite 0)) 1000000000).observe (.exact noAngles)
    (sampled 24 2 11000000000 (.finite 0)) 11000000000

/-- The copy keeps the history of the temperature, not that of the humidity, and reads the same. -/
theorem diagnosticRead_risen : Metric.temperature ∈ [Metric.temperature]
      ∧ [Metric.temperature, .humidity].map (fun metric =>
          ((risen.history metric).map (·.points.length),
            ((risen.diagnosticCopy [.temperature]).history metric).map (·.points.length)))
        = [(some 2, some 2), (some 2, none)]
      ∧ (risen.read (.exact noAngles) .temperature 21000000000).1.toOption.map
        (fun reading => (reading.value, reading.sampleCount)) = some (22, 2)
      ∧ diagnosticRead (.exact noAngles) risen [.temperature] .temperature 21000000000
        = ((risen.read (.exact noAngles) .temperature 21000000000).1, risen) :=
  ⟨by decide, by decide +kernel, by decide +kernel, diagnosticRead_eq _ _ _ _ (by decide) _⟩

end Engine
end Weather
end Regain.Hub
