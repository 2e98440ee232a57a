import Regain.Hub.Weather.Average

/-!
# Runs of a weather engine

Snapshots arrive, metrics are read, the averaging period changes and the host resumes, in any
order and at times that never decrease.  Every step keeps what the means of the reads rest on.
-/

namespace Regain.Hub.Weather

open Lib
open Duration (toSecs)

inductive Op where
  | observe (state : SourceSnapshot) (now : Nat)
  | read (metric : Metric) (now : Nat)
  | setAverage (hours : ℚ)
  | resume (epoch : Nat) (valid : Bool)

def Op.time : Op → Option Nat
  | observe _ now => some now
  | read _ now => some now
  | setAverage _ => none
  | resume _ _ => none

def Op.Timely (ops : List Op) : Prop :=
  (ops.filterMap time).Pairwise (· ≤ ·)

abbrev Answer := Option (Except SourceError (Reading ℚ))

def machine (trigonometry : Arithmetic.Trigonometry) : Machine (Engine ℚ) Op Answer where
  step engine
    | .observe state now => (none, engine.observe (.exact trigonometry) state now)
    | .read metric now =>
      let result := engine.read (.exact trigonometry) metric now
      (some result.1, result.2)
    | .setAverage hours => (none, (engine.setAverage (.exact trigonometry) hours).2)
    | .resume epoch valid => (none, engine.syncResume epoch valid)

section

variable {trigonometry : Arithmetic.Trigonometry}

abbrev Fact := Metric → History ℚ → ℚ → Prop

def Engine.Holds (fact : Fact) (engine : Engine ℚ) : Prop :=
  ∀ metric history, engine.history metric = some history → fact metric history engine.lastNow

/-- A fact that lasts while time passes, and that a read establishes of what it records. -/
structure Stable (trigonometry : Arithmetic.Trigonometry) (fact : Fact)
    (allowed : Engine ℚ → Metric → Nat → Prop) : Prop where
  later : ∀ {metric history lastNow now}, fact metric history lastNow → lastNow ≤ now →
    fact metric history now
  recorded : ∀ {engine : Engine ℚ} {metric : Metric} {now index : Nat} {sample : ScalarSample ℚ}
    {measurement : Measurement ℚ},
    (∀ history, engine.history metric = some history →
      fact metric history (toSecs now)) →
    engine.measurements metric = some measurement →
    engine.select (.exact trigonometry) metric now = .ok (index, sample) →
    allowed engine metric now →
    fact metric (engine.recorded (.exact trigonometry) metric measurement.maximumAgeSeconds index
      sample now) (toSecs now)
  /-- A read of another metric, or an earlier one at the same time, allows the read. -/
  kept : ∀ {engine : Engine ℚ} {metric : Metric} (other : Metric) {now : Nat},
    engine.lastNow ≤ toSecs now →
    allowed (engine.tick (.exact trigonometry) now).2 metric now →
    allowed (((engine.readOne (.exact trigonometry) other now).2.tick (.exact trigonometry) now).2)
      metric now

variable {fact : Fact} {allowed : Engine ℚ → Metric → Nat → Prop}

variable {engine : Engine ℚ} {now : Nat} {metric : Metric}

theorem tick_eq (h : engine.lastNow ≤ toSecs now) :
    (engine.tick (.exact trigonometry) now).2 = { engine with lastNow := toSecs now } := by
  have hnot : (Arithmetic.exact trigonometry).lt
      ((Arithmetic.exact trigonometry).seconds now) engine.lastNow = false :=
    decide_eq_false (not_lt.mpr h)
  unfold Engine.tick
  rw [hnot]
  rfl

theorem Stable.tick (hstable : Stable trigonometry fact allowed) (h : engine.Holds fact)
    (hnow : engine.lastNow ≤ toSecs now) :
    (engine.tick (.exact trigonometry) now).2.Holds fact := by
  rw [tick_eq hnow]
  intro metric history hhistory
  exact hstable.later (h metric history hhistory) hnow

theorem readOne_cases (trigonometry : Arithmetic.Trigonometry) (engine : Engine ℚ)
    (metric : Metric) (now : Nat) :
    (engine.readOne (.exact trigonometry) metric now).2
        = (engine.tick (.exact trigonometry) now).2
      ∨ (engine.readOne (.exact trigonometry) metric now).2
        = { (engine.tick (.exact trigonometry) now).2 with
          history := Function.update
            (engine.tick (.exact trigonometry) now).2.history metric none }
      ∨ ∃ measurement index sample lastValid,
        (engine.tick (.exact trigonometry) now).2.measurements metric = some measurement
          ∧ (engine.tick (.exact trigonometry) now).2.select (.exact trigonometry) metric now
            = .ok (index, sample)
          ∧ (engine.readOne (.exact trigonometry) metric now).2
            = { (engine.tick (.exact trigonometry) now).2 with
              history := Function.update
                (engine.tick (.exact trigonometry) now).2.history metric
                (some ((engine.tick (.exact trigonometry) now).2.recorded (.exact trigonometry)
                  metric measurement.maximumAgeSeconds index sample now))
              lastValid := lastValid } := by
  unfold Engine.readOne
  dsimp only
  cases (engine.tick (.exact trigonometry) now).1 with
  | error error => exact .inl rfl
  | ok =>
    cases hselect : (engine.tick (.exact trigonometry) now).2.select (.exact trigonometry)
      metric now with
    | error error =>
      cases (engine.tick (.exact trigonometry) now).2.measurements metric <;>
        exact .inr (.inl rfl)
    | ok chosen =>
      obtain ⟨index, sample⟩ := chosen
      obtain ⟨measurement, hmeasurement, -⟩ := select_ok hselect
      simp only [hmeasurement]
      exact .inr (.inr ⟨measurement, index, sample, _, rfl, rfl, rfl⟩)

theorem Stable.readOne (hstable : Stable trigonometry fact allowed) (h : engine.Holds fact)
    (hnow : engine.lastNow ≤ toSecs now)
    (hallowed : allowed (engine.tick (.exact trigonometry) now).2 metric now) :
    (engine.readOne (.exact trigonometry) metric now).2.Holds fact
      ∧ (engine.readOne (.exact trigonometry) metric now).2.lastNow = toSecs now := by
  have hticked := hstable.tick h hnow
  have hlast : (engine.tick (.exact trigonometry) now).2.lastNow = toSecs now := by
    rw [tick_eq hnow]
  rcases readOne_cases trigonometry engine metric now with heq | heq | hrest
  · rw [heq]
    exact ⟨hticked, hlast⟩
  · rw [heq]
    refine ⟨fun other history hhistory => ?_, hlast⟩
    by_cases hother : other = metric
    · rw [hother] at hhistory
      simp at hhistory
    · simp only [Function.update_of_ne hother] at hhistory
      exact hticked other history hhistory
  · obtain ⟨measurement, index, sample, lastValid, hmeasurement, hselect, heq⟩ := hrest
    rw [heq]
    refine ⟨fun other history hhistory => ?_, hlast⟩
    by_cases hother : other = metric
    · subst hother
      simp only [Function.update_self, Option.some.injEq] at hhistory
      rw [← hhistory]
      dsimp only
      rw [hlast]
      refine hstable.recorded (fun kept hkept => ?_) hmeasurement hselect hallowed
      rw [← hlast]
      exact hticked _ kept hkept
    · simp only [Function.update_of_ne hother] at hhistory
      exact hticked other history hhistory

def Permits (trigonometry : Arithmetic.Trigonometry) (allowed : Engine ℚ → Metric → Nat → Prop)
    (engine : Engine ℚ) (metric : Metric) (now : Nat) : Prop :=
  allowed (engine.tick (.exact trigonometry) now).2 metric now

theorem Stable.read (hstable : Stable trigonometry fact allowed) (h : engine.Holds fact)
    (hnow : engine.lastNow ≤ toSecs now) (hallowed : Permits trigonometry allowed engine metric now)
    (hspeed : metric = .windDirection → Permits trigonometry allowed engine .windSpeed now) :
    (engine.read (.exact trigonometry) metric now).2.Holds fact
      ∧ (engine.read (.exact trigonometry) metric now).2.lastNow = toSecs now := by
  obtain ⟨hone, hlast⟩ := hstable.readOne h hnow hallowed
  unfold Engine.read
  dsimp only
  split
  · rename_i hdirection
    split
    · exact ⟨hone, hlast⟩
    · have hcalm := hstable.readOne hone hlast.le (hstable.kept metric hnow (hspeed hdirection))
      split <;> exact hcalm
  · exact ⟨hone, hlast⟩

theorem Stable.permits_read (hstable : Stable trigonometry fact allowed) {other : Metric}
    (h : engine.Holds fact) (hnow : engine.lastNow ≤ toSecs now)
    (hall : ∀ metric, Permits trigonometry allowed engine metric now) :
    Permits trigonometry allowed (engine.read (.exact trigonometry) other now).2 metric now := by
  have hone := hstable.kept other hnow (hall metric)
  unfold Engine.read
  dsimp only
  split
  · split
    · exact hone
    · have hlast := (hstable.readOne h hnow (hall other)).2
      have hcalm := hstable.kept .windSpeed hlast.le hone
      split <;> exact hcalm
  · exact hone

theorem Stable.reads (hstable : Stable trigonometry fact allowed) (metrics : List Metric)
    (h : engine.Holds fact) (hnow : engine.lastNow ≤ toSecs now)
    (hall : ∀ metric, Permits trigonometry allowed engine metric now) :
    (metrics.foldl (fun engine metric => (engine.read (.exact trigonometry) metric now).2)
        engine).Holds fact
      ∧ (metrics.foldl (fun engine metric => (engine.read (.exact trigonometry) metric now).2)
        engine).lastNow ≤ toSecs now := by
  induction metrics generalizing engine with
  | nil => exact ⟨h, hnow⟩
  | cons metric metrics ih =>
    obtain ⟨hread, hlast⟩ := hstable.read h hnow (hall metric) (fun _ => hall .windSpeed)
    exact ih hread hlast.le (fun other => hstable.permits_read h hnow hall)

def Op.Allowed (trigonometry : Arithmetic.Trigonometry)
    (allowed : Engine ℚ → Metric → Nat → Prop) (engine : Engine ℚ) : Op → Prop
  | .observe state now => ∀ metric, Permits trigonometry allowed
      { engine with states := Function.update engine.states state.source (some state) } metric now
  | .read metric now => Permits trigonometry allowed engine metric now
      ∧ (metric = .windDirection → Permits trigonometry allowed engine .windSpeed now)
  | .setAverage _ => True
  | .resume _ _ => True

theorem Stable.observe (hstable : Stable trigonometry fact allowed) {state : SourceSnapshot}
    (h : engine.Holds fact) (hnow : engine.lastNow ≤ toSecs now)
    (hallowed : Op.Allowed trigonometry allowed engine (.observe state now)) :
    (engine.observe (.exact trigonometry) state now).Holds fact
      ∧ (engine.observe (.exact trigonometry) state now).lastNow ≤ toSecs now := by
  have hticked := hstable.tick h hnow
  have hlast : (engine.tick (.exact trigonometry) now).2.lastNow = toSecs now := by
    rw [tick_eq hnow]
  unfold Engine.observe
  split
  · exact ⟨h, hnow⟩
  · dsimp only
    split
    · exact ⟨hticked, hlast.le⟩
    · split
      · exact ⟨hticked, hlast.le⟩
      · refine hstable.reads _ hticked hlast.le (fun metric => ?_)
        have hmetric := hallowed metric
        have hobserved : (Engine.tick (.exact trigonometry) { engine with
            states := Function.update engine.states state.source (some state) } now).2 = _ :=
          tick_eq hnow
        unfold Permits at hmetric ⊢
        rw [hobserved] at hmetric
        rw [tick_eq hnow, tick_eq le_rfl]
        exact hmetric

theorem holds_none (h : engine.history = fun _ => none) : engine.Holds fact := by
  intro metric history hhistory
  simp [h] at hhistory

theorem Stable.step (hstable : Stable trigonometry fact allowed) {op : Op} (h : engine.Holds fact)
    (hnow : ∀ now ∈ op.time, engine.lastNow ≤ toSecs now)
    (hallowed : Op.Allowed trigonometry allowed engine op) :
    ((machine trigonometry).next engine op).Holds fact
      ∧ (((machine trigonometry).next engine op).lastNow = engine.lastNow
        ∨ ∃ now ∈ op.time, ((machine trigonometry).next engine op).lastNow ≤ toSecs now) := by
  cases op with
  | observe state now =>
    obtain ⟨hkept, hlast⟩ := hstable.observe h (hnow now rfl) hallowed
    exact ⟨hkept, .inr ⟨now, rfl, hlast⟩⟩
  | read metric now =>
    obtain ⟨hkept, hlast⟩ := hstable.read h (hnow now rfl) hallowed.1 hallowed.2
    exact ⟨hkept, .inr ⟨now, rfl, hlast.le⟩⟩
  | setAverage hours =>
    simp only [Machine.next, machine, Engine.setAverage]
    split
    · exact ⟨h, .inl rfl⟩
    · split
      · exact ⟨h, .inl rfl⟩
      · exact ⟨holds_none rfl, .inl rfl⟩
  | resume epoch valid =>
    simp only [Machine.next, machine, Engine.syncResume]
    split
    · exact ⟨holds_none rfl, .inl rfl⟩
    · exact ⟨h, .inl rfl⟩

theorem toSecs_mono {first second : Nat} (h : first ≤ second) : toSecs first ≤ toSecs second := by
  unfold toSecs
  exact div_le_div_of_nonneg_right (by exact_mod_cast h) (by positivity)

theorem Stable.run (hstable : Stable trigonometry fact allowed) {ops : List Op}
    (htimely : Op.Timely ops) {engine : Engine ℚ} (h : engine.Holds fact)
    (hnow : ∀ now ∈ ops.filterMap Op.time, engine.lastNow ≤ toSecs now)
    (hallowed : ∀ t ∈ (machine trigonometry).run engine ops,
      Op.Allowed trigonometry allowed t.before t.op) : ∀ t ∈ (machine trigonometry).run engine ops,
      t.before.Holds fact ∧ (∀ now ∈ t.op.time, t.before.lastNow ≤ toSecs now)
        ∧ t = (machine trigonometry).perform t.before t.op := by
  induction ops generalizing engine with
  | nil => simp [Machine.run]
  | cons op ops ih =>
    have hfirst : ∀ now ∈ op.time, engine.lastNow ≤ toSecs now := by
      intro now htime
      apply hnow
      rw [List.mem_filterMap]
      exact ⟨op, List.mem_cons_self, htime⟩
    obtain ⟨hkept, hlast⟩ := hstable.step h hfirst (hallowed _ List.mem_cons_self)
    have hrest : ∀ now ∈ ops.filterMap Op.time, now ∈ (op :: ops).filterMap Op.time := by
      intro now hmem
      obtain ⟨other, hother, htime⟩ := List.mem_filterMap.mp hmem
      exact List.mem_filterMap.mpr ⟨other, List.mem_cons_of_mem _ hother, htime⟩
    have hlater : ∀ now ∈ ops.filterMap Op.time,
        ((machine trigonometry).next engine op).lastNow ≤ toSecs now := by
      intro now hmem
      rcases hlast with hsame | ⟨first, htime, hle⟩
      · rw [hsame]
        exact hnow now (hrest now hmem)
      · unfold Op.Timely at htimely
        rw [List.filterMap_cons_some htime] at htimely
        exact hle.trans (toSecs_mono ((List.pairwise_cons.mp htimely).1 now hmem))
    have htail : Op.Timely ops := by
      unfold Op.Timely at htimely ⊢
      exact htimely.sublist ((List.sublist_cons_self op ops).filterMap _)
    intro t hmem
    rcases List.mem_cons.mp hmem with rfl | hmem
    · exact ⟨h, hfirst, rfl⟩
    · exact ih htail hkept hlater (fun t ht => hallowed t (List.mem_cons_of_mem _ ht)) t hmem

def keptFact (trigonometry : Arithmetic.Trigonometry) : Fact :=
  fun metric history lastNow => Kept trigonometry metric history lastNow

theorem kept_stable : Stable trigonometry (keptFact trigonometry) fun _ _ _ => True where
  later h hle := h.later hle
  recorded h _ hselect _ := by
    obtain ⟨_, -, -, -, haccepted⟩ := select_ok hselect
    exact (recorded_kept h _ _ haccepted).1
  kept _ _ _ _ := trivial

theorem allowed_true (engine : Engine ℚ) (op : Op) :
    Op.Allowed trigonometry (fun _ _ _ => True) engine op := by
  cases op with
  | observe state now => exact fun _ => trivial
  | read metric now => exact ⟨trivial, fun _ => trivial⟩
  | setAverage hours => trivial
  | resume epoch valid => trivial

theorem read_eq (hmetric : metric ≠ .windDirection) (now : Nat) :
    engine.read (.exact trigonometry) metric now
      = engine.readOne (.exact trigonometry) metric now :=
  if_neg hmetric

theorem toSecs_nonneg (now : Nat) : 0 ≤ toSecs now := by
  unfold toSecs
  positivity

end

/-- Every successful read of a run is the mean over what is retained of its metric: samples of one
source, one generation and one revision, with no number skipped, each with its part of the window.
So it lies between two of them and within the physical bounds. -/
theorem averagesAreMeans (trigonometry : Arithmetic.Trigonometry)
    (measurements : Metric → Option (Measurement ℚ)) (ops : List Op) (htimely : Op.Timely ops) :
    ∀ t ∈ (machine trigonometry).run (.new (.exact trigonometry) measurements) ops,
      ∀ metric now reading, t.op = .read metric now → metric ≠ .windDirection →
        t.result = some (.ok reading) →
          ∃ measurement history, t.before.measurements metric = some measurement
            ∧ t.after.history metric = some history
            ∧ Averaged trigonometry metric measurement history now reading
              (evidence trigonometry t.before metric now)
            ∧ ((∃ entry ∈ evidence trigonometry t.before metric now,
                entry.2.value ≤ reading.value)
              ∧ ∃ entry ∈ evidence trigonometry t.before metric now,
                reading.value ≤ entry.2.value)
            ∧ metric.accepts (.exact trigonometry) reading.value = true := by
  intro t hmem metric now reading hop hmetric hresult
  obtain ⟨hkept, hnow, hstep⟩ := kept_stable.run htimely (holds_none rfl)
    (fun now _ => toSecs_nonneg now) (fun t _ => allowed_true t.before t.op) t hmem
  have hon := hnow now (by rw [hop]; rfl)
  have hafter : t.after = (t.before.readOne (.exact trigonometry) metric now).2 := by
    rw [hstep, hop]
    simp only [Machine.perform, Machine.next, machine, read_eq hmetric]
  rw [hstep, hop] at hresult
  simp only [Machine.perform, machine, read_eq hmetric, Option.some.injEq] at hresult
  obtain ⟨measurement, index, sample, hread⟩ := readOne_ok hresult
  have hticked := kept_stable.tick hkept hon
  have hlast : (t.before.tick (.exact trigonometry) now).2.lastNow = toSecs now := by
    rw [tick_eq hon]
  have haveraged := averaged hmetric (fun history hhistory => by
    rw [← hlast]
    exact hticked metric history hhistory) hread
  rw [← evidence_eq hread] at haveraged
  exact ⟨measurement, _, hread.configured, hafter ▸ hread.kept, haveraged, haveraged.between,
    haveraged.accepts⟩

/-- Three samples of a station, the last of them taken a second before it arrived. -/
def stationOps : List Op :=
  [.observe (sampled 20 1 1000000000 (.finite 0)) 1000000000, .read .temperature 1000000000,
    .observe (sampled 24 2 11000000000 (.finite 0)) 11000000000,
    .observe (sampled 26 3 16000000000 (.finite 1)) 16000000000, .read .temperature 21000000000]

theorem stationOps_timely : Op.Timely stationOps := by
  simp [Op.Timely, stationOps, Op.time]

/-- The mean of 20, 24 and 26 degrees that lasted for 10, 5 and 5 s. -/
theorem averagesAreMeans_station : ((machine noAngles).run (.new (.exact noAngles) station)
        stationOps).getLast?.map (fun t => (t.result.bind Except.toOption).map Reading.value)
      = some (some (45 / 2))
      ∧ ∀ t ∈ (machine noAngles).run (.new (.exact noAngles) station) stationOps,
        ∀ metric now reading, t.op = .read metric now → metric ≠ .windDirection →
          t.result = some (.ok reading) →
            ∃ measurement history, t.before.measurements metric = some measurement
              ∧ t.after.history metric = some history
              ∧ Averaged noAngles metric measurement history now reading
                (evidence noAngles t.before metric now)
              ∧ ((∃ entry ∈ evidence noAngles t.before metric now,
                  entry.2.value ≤ reading.value)
                ∧ ∃ entry ∈ evidence noAngles t.before metric now,
                  reading.value ≤ entry.2.value)
              ∧ metric.accepts (.exact noAngles) reading.value = true :=
  ⟨by decide +kernel, averagesAreMeans noAngles station stationOps stationOps_timely⟩

end Regain.Hub.Weather
