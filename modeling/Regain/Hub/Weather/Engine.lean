import Regain.Hub.Configuration.Config

/-!
# Weather selection and averaging

The engine of a weather output keeps the last snapshot of every source and, per metric, the samples
that its average is taken over. The first fresh and valid source of a metric wins; another source,
another generation or a gap in the sequence starts the samples anew.
-/

namespace Regain.Hub.Weather

open Lib
open Std (TreeMap)

/-- The operations on seconds and values. -/
structure Arithmetic (α : Type) where
  ofF64 : F64 → α
  ofRat : ℚ → α
  /-- `Duration::as_secs_f64`. -/
  seconds : Nat → α
  isFinite : α → Bool
  lt : α → α → Bool
  le : α → α → Bool
  add : α → α → α
  sub : α → α → α
  mul : α → α → α
  div : α → α → α
  max : α → α → α
  /-- The sine and the cosine of an angle in degrees. -/
  sin : α → α
  cos : α → α
  hypot : α → α → α
  /-- `atan2` in degrees, between 0 and 360. -/
  direction : α → α → α

namespace Arithmetic

def zero (arithmetic : Arithmetic α) : α :=
  arithmetic.ofRat 0

/-- Functions of angles, which exact arithmetic does not have. -/
structure Trigonometry where
  sin : ℚ → ℚ
  cos : ℚ → ℚ
  hypot : ℚ → ℚ → ℚ
  direction : ℚ → ℚ → ℚ

def exact (trigonometry : Trigonometry) : Arithmetic ℚ where
  ofF64 := F64.toRat
  ofRat := id
  seconds := Duration.toSecs
  isFinite := fun _ => true
  lt := fun a b => decide (a < b)
  le := fun a b => decide (a ≤ b)
  add := fun a b => a + b
  sub := fun a b => a - b
  mul := fun a b => a * b
  div := fun a b => a / b
  max := fun a b => if a ≤ b then b else a
  sin := trigonometry.sin
  cos := trigonometry.cos
  hypot := trigonometry.hypot
  direction := trigonometry.direction

end Arithmetic

def unavailable (message : String) : SourceError :=
  .new .unavailable message

def invalid (message : String) : SourceError :=
  .new .invalidValue message

def sampleKey : Readout → String
  | .property _ property _ => property
  | .channel _ channel _ => "channel/" ++ toString channel

structure ScalarSample (α : Type) where
  value : α
  ageSeconds : α
  source : Uuid
  generation : Uuid
  sequence : Nat
  revision : Uuid

def scalarValue (readout : Readout) (value : Json) : Option F64 :=
  match value.asF64 with
  | some number => some number
  | none =>
    match readout with
    | .property _ property _ =>
      if property = "issafe" then value.asBool.map fun safe => if safe then 1 else 0 else none
    | .channel _ _ _ => none

def scalar (arithmetic : Arithmetic α) (state : SourceSnapshot) (readout : Readout) (now : Nat) :
    Except SourceError (ScalarSample α) :=
  if state.source ≠ readout.source then
    .error (invalid "Sample source does not match the configured readout")
  else if !state.transportConnected then .error (.new .disconnected "Source is disconnected")
  else
    match state.error, state.sampleErrors[sampleKey readout]? with
    | some error, _ => .error error
    | none, some error => .error error
    | none, none =>
      match (state.values[sampleKey readout]?.bind (scalarValue readout)).filter F64.isFinite with
      | none => .error (unavailable "No valid scalar reading")
      | some value =>
        match state.sampleStarted[sampleKey readout]?.or state.sampledAt with
        | none => .error (unavailable "No sample has been received")
        | some sampled =>
          let upstream := state.sampleAges[sampleKey readout]?.getD 0
          let elapsed := arithmetic.sub (arithmetic.seconds now) (arithmetic.seconds sampled)
          if !arithmetic.isFinite elapsed || arithmetic.lt elapsed arithmetic.zero
              || !isAge upstream then
            .error (unavailable "Sample clock or sensor age is invalid")
          else
            let age := arithmetic.add elapsed (arithmetic.ofF64 upstream)
            if !arithmetic.isFinite age then .error (unavailable "Sample age is invalid")
            else
              .ok {
                value := arithmetic.ofF64 value
                ageSeconds := age
                source := state.source
                generation := state.generation
                sequence := state.sampleSequences[sampleKey readout]?.getD state.sequence
                revision := state.revision }

inductive Metric where
  | cloudCover
  | dewPoint
  | humidity
  | pressure
  | rainRate
  | skyBrightness
  | skyQuality
  | skyTemperature
  | starFwhm
  | temperature
  | windDirection
  | windGust
  | windSpeed
  deriving DecidableEq

namespace Metric

def all : List Metric :=
  [cloudCover, dewPoint, humidity, pressure, rainRate, skyBrightness, skyQuality, skyTemperature,
    starFwhm, temperature, windDirection, windGust, windSpeed]

def unit : Metric → String
  | cloudCover => "%"
  | humidity => "%"
  | dewPoint => "°C"
  | skyTemperature => "°C"
  | temperature => "°C"
  | pressure => "hPa"
  | rainRate => "mm/h"
  | skyBrightness => "lux"
  | skyQuality => "mag/arcsec²"
  | starFwhm => "arcsec"
  | windDirection => "deg"
  | windGust => "m/s"
  | windSpeed => "m/s"

/-- The least and the greatest value, and whether the least one is excluded. -/
def bounds : Metric → Option ℚ × Option ℚ × Bool
  | cloudCover => (some 0, some 100, false)
  | humidity => (some 0, some 100, false)
  | windDirection => (some 0, some 360, false)
  | dewPoint => (some (-27315 / 100), none, false)
  | skyTemperature => (some (-27315 / 100), none, false)
  | temperature => (some (-27315 / 100), none, false)
  | pressure => (some 0, none, true)
  | skyQuality => (none, none, false)
  | rainRate => (some 0, none, false)
  | skyBrightness => (some 0, none, false)
  | starFwhm => (some 0, none, false)
  | windGust => (some 0, none, false)
  | windSpeed => (some 0, none, false)

def accepts (arithmetic : Arithmetic α) (metric : Metric) (value : α) : Bool :=
  arithmetic.isFinite value
    && metric.bounds.1.all (fun minimum =>
      if metric.bounds.2.2 then arithmetic.lt (arithmetic.ofRat minimum) value
      else arithmetic.le (arithmetic.ofRat minimum) value)
    && metric.bounds.2.1.all (fun maximum => arithmetic.le value (arithmetic.ofRat maximum))

end Metric

structure Measurement (α : Type) where
  sources : List Readout
  maximumAgeSeconds : α
  averageSeconds : α

structure Reading (α : Type) where
  value : α
  unit : String
  source : Uuid
  revision : Uuid
  generation : Uuid
  sequence : Nat
  readout : Readout
  ageSeconds : α
  sampleCount : Nat
  averageSeconds : α

/-- The index of a source among the sources of its metric, its generation and its revision. -/
abbrev Identity := Nat × Uuid × Uuid

structure Point (α : Type) where
  at_ : α
  age : α
  value : α
  /-- Where the sample comes from; nothing reads it. -/
  identity : Identity
  /-- The sequence number of the sample; nothing reads it. -/
  sequence : Nat

structure History (α : Type) where
  identity : Option Identity := none
  sequence : Nat := 0
  points : List (Point α) := []

def maxPoints : Nat := 36002

def maxSequence : Nat := 18446744073709551615

def History.matching (history : History α) (identity : Identity) (sequence : Nat) : History α :=
  if history.identity ≠ some identity ∨ Nat.min (history.sequence + 1) maxSequence < sequence then
    { identity := some identity }
  else history

def History.push (arithmetic : Arithmetic α) (history : History α) (identity : Identity)
    (sample : ScalarSample α) (now : Nat) : History α :=
  if history.sequence ≠ sample.sequence ∨ history.points = [] then
    { history with
      sequence := sample.sequence
      points := history.points
        ++ [⟨arithmetic.seconds now, sample.ageSeconds, sample.value, identity, sample.sequence⟩] }
  else history

/-- Drop the points before the window, those that have expired at the front, and those beyond the
bound; one of them stays. -/
def prune (arithmetic : Arithmetic α) (now start maximumAge : α) : List (Point α) → List (Point α)
  | [] => []
  | [point] => [point]
  | point :: next :: rest =>
    if arithmetic.le next.at_ start
        || arithmetic.le maximumAge (arithmetic.sub (arithmetic.add point.age now) point.at_)
        || decide (maxPoints < rest.length + 2) then
      prune arithmetic now start maximumAge (next :: rest)
    else point :: next :: rest

def weights (arithmetic : Arithmetic α) (now start total : α) : List (Point α) → List (α × Point α)
  | [] => []
  | point :: rest =>
    let next := (rest.head?.map Point.at_).getD now
    let weight :=
      if arithmetic.lt arithmetic.zero total then
        arithmetic.div
          (arithmetic.max (arithmetic.sub next (arithmetic.max point.at_ start)) arithmetic.zero)
          total
      else arithmetic.zero
    (weight, point) :: weights arithmetic now start total rest

/-- The seconds between the start of the first point in the window and now. -/
def total (arithmetic : Arithmetic α) (now start : α) (points : List (Point α)) : α :=
  match points.head? with
  | some point => arithmetic.max (arithmetic.sub now (arithmetic.max point.at_ start)) arithmetic.zero
  | none => arithmetic.zero

def weightedSum (arithmetic : Arithmetic α) (value : Point α → α) (entries : List (α × Point α)) :
    α :=
  entries.foldl
    (fun sum entry => arithmetic.add sum (arithmetic.mul entry.1 (value entry.2))) arithmetic.zero

def mean (arithmetic : Arithmetic α) (metric : Metric) (now average : α) (sample : α)
    (points : List (Point α)) : Except SourceError α :=
  let start := arithmetic.sub now average
  if arithmetic.lt arithmetic.zero average ∧ 1 < points.length then
    let total := total arithmetic now start points
    let entries := weights arithmetic now start total points
    if arithmetic.lt arithmetic.zero total then
      if metric = .windDirection then
        let sum := weightedSum arithmetic (fun point => arithmetic.sin point.value) entries
        let cosine := weightedSum arithmetic (fun point => arithmetic.cos point.value) entries
        if arithmetic.le (arithmetic.hypot sum cosine) (arithmetic.ofRat (1 / 1000000000000)) then
          .error (unavailable "Wind directions have no defined circular mean")
        else .ok (arithmetic.direction sum cosine)
      else .ok (weightedSum arithmetic Point.value entries)
    else .ok sample
  else .ok sample

structure Engine (α : Type) where
  resumeEpoch : Nat
  measurements : Metric → Option (Measurement α)
  states : Uuid → Option SourceSnapshot
  history : Metric → Option (History α)
  average : α
  lastNow : α
  clockFault : Bool
  lastValid : Metric → Option (α × α)

namespace Engine

variable (arithmetic : Arithmetic α)

def new (measurements : Metric → Option (Measurement α)) : Engine α where
  resumeEpoch := 0
  measurements := measurements
  states := fun _ => none
  history := fun _ => none
  average := ((Metric.all.filter (· ≠ .windGust)).findSome? fun metric =>
    (measurements metric).map Measurement.averageSeconds).getD arithmetic.zero
  lastNow := arithmetic.zero
  clockFault := false
  lastValid := fun _ => none

/-- `sync_resume`; the epoch and whether the resume clock is valid are the clock's. -/
def syncResume (engine : Engine α) (epoch : Nat) (valid : Bool) : Engine α :=
  if engine.resumeEpoch ≠ epoch || !valid then
    { engine with
      resumeEpoch := epoch
      states := fun _ => none
      history := fun _ => none
      lastValid := fun _ => none }
  else engine

def tick (engine : Engine α) (now : Nat) : Except SourceError Unit × Engine α :=
  let engine :=
    if arithmetic.lt (arithmetic.seconds now) engine.lastNow then
      { engine with clockFault := true, history := fun _ => none, states := fun _ => none }
    else engine
  let engine := { engine with lastNow := arithmetic.seconds now }
  (if engine.clockFault then
      .error (unavailable "Weather clock changed; reconnect the output") else .ok (), engine)

def candidate (metric : Metric) (maximumAge : α) (now : Nat) (state : Option SourceSnapshot)
    (readout : Readout) : Option (ScalarSample α) := do
  let state ← state
  let value ← state.values[sampleKey readout]?
  match value with
  | .number _ =>
    match scalar arithmetic state readout now with
    | .ok sample =>
      if arithmetic.lt sample.ageSeconds maximumAge && metric.accepts arithmetic sample.value then
        some sample
      else none
    | .error _ => none
  | _ => none

/-- The sample that one of the readouts of a metric offers, with its index. -/
def offered (metric : Metric) (maximumAge : α) (now : Nat) (states : Uuid → Option SourceSnapshot)
    (entry : Readout × Nat) : Option (Nat × ScalarSample α) :=
  (candidate arithmetic metric maximumAge now (states entry.1.source) entry.1).map fun sample =>
    (entry.2, sample)

def select (engine : Engine α) (metric : Metric) (now : Nat) :
    Except SourceError (Nat × ScalarSample α) :=
  match engine.measurements metric with
  | none => .error (.new .unsupported "Weather measurement is not configured")
  | some measurement =>
    match measurement.sources.zipIdx.findSome?
        (offered arithmetic metric measurement.maximumAgeSeconds now engine.states) with
    | some found => .ok found
    | none => .error (unavailable "No fresh valid source for this weather measurement")

def averageOf (engine : Engine α) (metric : Metric) : α :=
  if metric = .windGust then arithmetic.zero else engine.average

def recorded (engine : Engine α) (metric : Metric) (maximumAge : α) (index : Nat)
    (sample : ScalarSample α) (now : Nat) : History α :=
  let identity := (index, sample.generation, sample.revision)
  let history := (((engine.history metric).getD {}).matching identity sample.sequence).push
    arithmetic identity sample now
  let seconds := arithmetic.seconds now
  { history with
    points := prune arithmetic seconds (arithmetic.sub seconds (engine.averageOf arithmetic metric))
      maximumAge history.points }

def readOne (engine : Engine α) (metric : Metric) (now : Nat) :
    Except SourceError (Reading α) × Engine α :=
  let ticked := engine.tick arithmetic now
  let engine := ticked.2
  match ticked.1, engine.measurements metric, engine.select arithmetic metric now with
  | .error error, _, _ => (.error error, engine)
  | .ok (), none, .ok _ => (.error (.new .unsupported "Weather measurement is not configured"), engine)
  | .ok (), _, .error error =>
    (.error error, { engine with history := Function.update engine.history metric none })
  | .ok (), some measurement, .ok (index, sample) =>
    let history := engine.recorded arithmetic metric measurement.maximumAgeSeconds index sample now
    let seconds := arithmetic.seconds now
    let average := engine.averageOf arithmetic metric
    let engine := { engine with
      history := Function.update engine.history metric (some history)
      lastValid := Function.update engine.lastValid metric (some (seconds, sample.ageSeconds)) }
    (do
      let value ← mean arithmetic metric seconds average sample.value history.points
      if arithmetic.isFinite value then
        match measurement.sources[index]? with
        | some readout =>
          return {
            value := value
            unit := metric.unit
            source := sample.source
            revision := sample.revision
            generation := sample.generation
            sequence := sample.sequence
            readout := readout
            ageSeconds := sample.ageSeconds
            sampleCount := history.points.length
            averageSeconds := average }
        -- the index comes from these sources
        | none => .error (unavailable "No fresh valid source for this weather measurement")
      else .error (unavailable "Weather average is outside the numeric range"),
      engine)

def read (engine : Engine α) (metric : Metric) (now : Nat) :
    Except SourceError (Reading α) × Engine α :=
  let one := engine.readOne arithmetic metric now
  if metric = .windDirection then
    match one.1 with
    | .error error => (.error error, one.2)
    | .ok reading =>
      let speed := one.2.readOne arithmetic .windSpeed now
      match speed.1 with
      | .error error => (.error error, speed.2)
      | .ok calm =>
        (.ok (if arithmetic.le calm.value arithmetic.zero && arithmetic.le arithmetic.zero calm.value
            then { reading with value := arithmetic.zero } else reading), speed.2)
  else one

def configured (engine : Engine α) : List Metric :=
  Metric.all.filter fun metric => (engine.measurements metric).isSome

def outdated (engine : Engine α) (state : SourceSnapshot) : Bool :=
  (engine.states state.source).any fun old =>
    decide (old.generation = state.generation) && decide (old.revision = state.revision)
      && decide (state.sequence < old.sequence)

def observe (engine : Engine α) (state : SourceSnapshot) (now : Nat) : Engine α :=
  if state.resumeEpoch ≠ engine.resumeEpoch then engine
  else
    let ticked := engine.tick arithmetic now
    let engine := ticked.2
    match ticked.1 with
    | .error _ => engine
    | .ok () =>
      if engine.outdated state then engine
      else
        let engine := { engine with
          states := Function.update engine.states state.source (some state) }
        engine.configured.foldl (fun engine metric => (engine.read arithmetic metric now).2) engine

def setAverage (engine : Engine α) (hours : α) : Except SourceError Unit × Engine α :=
  if !arithmetic.isFinite hours || !(arithmetic.le arithmetic.zero hours
      && arithmetic.le hours (arithmetic.ofRat 1)) then
    (.error (invalid "Averaging period must be between zero and one hour"), engine)
  else
    let average := arithmetic.mul hours (arithmetic.ofRat 3600)
    if arithmetic.le engine.average average && arithmetic.le average engine.average then
      (.ok (), engine)
    else (.ok (), { engine with average := average, history := fun _ => none })

end Engine

/-! ## A station

A thermometer and a hygrometer, averaged over half a minute; what they measure expires after one.
-/

def noAngles : Arithmetic.Trigonometry :=
  ⟨id, id, fun sine _ => sine, fun sine _ => sine⟩

def station : Metric → Option (Measurement ℚ)
  | .temperature => some ⟨[.property 1 "temperature" none], 60, 30⟩
  | .humidity => some ⟨[.property 1 "humidity" none], 60, 30⟩
  | _ => none

def sampled (degrees sequence started : Nat) (age : F64) : SourceSnapshot where
  resumeEpoch := 0
  source := 1
  revision := 1
  generation := 1
  sequence := sequence
  transportConnected := true
  writeUncertain := false
  leaseCount := 0
  values := .ofList [("temperature", Json.number (.unsigned degrees)),
    ("humidity", Json.number (.unsigned 40))]
  sampleErrors := ∅
  sampleAges := .ofList [("temperature", age)]
  sampleStarted := .ofList [("temperature", started), ("humidity", started)]
  sampleSequences := ∅
  completedPasses := 0
  sampledAt := none
  error := none

end Regain.Hub.Weather
