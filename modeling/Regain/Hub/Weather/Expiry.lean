import Regain.Hub.Weather.AverageRun

/-!
# Expired samples in an average

Pruning looks for expired samples at the front of a history only. The samples behind it are fresh
too as long as each one was taken no earlier than the one before it.
-/

namespace Regain.Hub.Weather

open Lib

section

variable {trigonometry : Arithmetic.Trigonometry}

def Point.taken (point : Point ℚ) : ℚ :=
  point.at_ - point.age

def agedFact (trigonometry : Arithmetic.Trigonometry) : Fact :=
  fun metric history lastNow => Kept trigonometry metric history lastNow
    ∧ history.points.Pairwise fun first second => first.taken ≤ second.taken

/-- The sample that a read records next was taken no earlier than the last one of its history. -/
def InOrder (trigonometry : Arithmetic.Trigonometry) (engine : Engine ℚ) (metric : Metric)
    (now : Nat) : Prop :=
  ∀ index sample, engine.select (.exact trigonometry) metric now = .ok (index, sample) →
    ∀ history, engine.history metric = some history →
      history.identity = some (index, sample.generation, sample.revision) →
      history.sequence ≠ sample.sequence →
        ∀ last ∈ history.points.getLast?, last.taken ≤ Duration.toSecs now - sample.ageSeconds

theorem le_getLast {points : List (Point ℚ)}
    (h : points.Pairwise fun first second => first.taken ≤ second.taken) {point : Point ℚ}
    (hpoint : point ∈ points) : ∃ last ∈ points.getLast?, point.taken ≤ last.taken := by
  induction points with
  | nil => simp at hpoint
  | cons head tail ih =>
    by_cases htail : tail = []
    · rw [htail] at hpoint ⊢
      exact ⟨head, rfl, by rw [List.mem_singleton.mp hpoint]⟩
    · have hlast := List.getLast?_eq_some_getLast htail
      have hkept : (head :: tail).getLast? = tail.getLast? := by
        rw [hlast, List.getLast?_cons, hlast]
        rfl
      rw [hkept]
      rcases List.mem_cons.mp hpoint with rfl | hlater
      · exact ⟨tail.getLast htail, hlast, (List.pairwise_cons.mp h).1 _ (List.getLast_mem htail)⟩
      · exact ih (List.pairwise_cons.mp h).2 hlater

theorem recorded_sequence (engine : Engine ℚ) (metric : Metric) (maximumAge : ℚ) (index : Nat)
    (sample : ScalarSample ℚ) (now : Nat) :
    (engine.recorded (.exact trigonometry) metric maximumAge index sample now).sequence
      = sample.sequence := by
  simp only [Engine.recorded, History.push]
  split
  · rfl
  · rename_i hsame
    simpa using (not_or.mp hsame).1

theorem recorded_aged {engine : Engine ℚ} {metric : Metric} {now index : Nat}
    {sample : ScalarSample ℚ} (h : ∀ history, engine.history metric = some history →
      history.points.Pairwise fun first second => first.taken ≤ second.taken)
    (hselect : engine.select (.exact trigonometry) metric now = .ok (index, sample))
    (horder : InOrder trigonometry engine metric now) (maximumAge : ℚ) :
    (engine.recorded (.exact trigonometry) metric maximumAge index sample now).points.Pairwise
      fun first second => first.taken ≤ second.taken := by
  refine List.Pairwise.sublist (prune_suffix trigonometry _ _ _ _).sublist ?_
  unfold History.push
  split
  · rename_i hnew
    refine List.pairwise_append.mpr ⟨?_, List.pairwise_singleton _ _, ?_⟩
    · unfold History.matching
      split
      · exact List.Pairwise.nil
      · cases hhistory : engine.history metric with
        | none => exact List.Pairwise.nil
        | some history => exact h history hhistory
    · intro point hpoint other hother
      rw [List.mem_singleton.mp hother]
      unfold History.matching at hpoint hnew
      split at hpoint
      · simp at hpoint
      · rename_i hmatch
        rw [if_neg hmatch] at hnew
        rw [not_or, not_not, not_lt] at hmatch
        cases hhistory : engine.history metric with
        | none => simp [hhistory] at hpoint
        | some history =>
          simp only [hhistory, Option.getD_some] at hpoint hmatch hnew
          have hsequence : history.sequence ≠ sample.sequence := by
            rcases hnew with hnew | hnil
            · exact hnew
            · simp [hnil] at hpoint
          obtain ⟨last, hlast, hle⟩ := le_getLast (h history hhistory) hpoint
          exact hle.trans (horder index sample hselect history hhistory hmatch.1 hsequence
            last hlast)
  · unfold History.matching
    split
    · exact List.Pairwise.nil
    · cases hhistory : engine.history metric with
      | none => exact List.Pairwise.nil
      | some history => exact h history hhistory

theorem tick_same {engine : Engine ℚ} {now : Nat} (h : Duration.toSecs now = engine.lastNow) :
    (engine.tick (.exact trigonometry) now).2 = engine := by
  rw [tick_eq h.ge, h]

theorem readOne_lastNow (engine : Engine ℚ) (metric : Metric) (now : Nat) :
    (engine.readOne (.exact trigonometry) metric now).2.lastNow
      = (engine.tick (.exact trigonometry) now).2.lastNow := by
  rcases readOne_cases trigonometry engine metric now with heq | heq | ⟨_, _, _, _, -, -, heq⟩ <;>
    rw [heq]

theorem aged_stable : Stable trigonometry (agedFact trigonometry) (InOrder trigonometry) where
  later h hle := ⟨h.1.later hle, h.2⟩
  recorded h _ hselect horder := by
    obtain ⟨_, -, -, -, haccepted⟩ := select_ok hselect
    exact ⟨(recorded_kept (fun history hhistory => (h history hhistory).1) _ _ haccepted).1,
      recorded_aged (fun history hhistory => (h history hhistory).2) hselect horder _⟩
  kept {engine metric} other now hnow horder := by
    have hlast : Duration.toSecs now = (engine.tick (.exact trigonometry) now).2.lastNow := by
      rw [tick_eq hnow]
    rw [tick_same (hlast.trans (readOne_lastNow engine other now).symm)]
    rcases readOne_cases trigonometry engine other now with heq | heq | hrest
    · rwa [heq]
    · rw [heq]
      intro index sample hselect history hhistory
      by_cases hother : metric = other
      · simp [hother] at hhistory
      · simp only [Function.update_of_ne hother] at hhistory
        exact horder index sample hselect history hhistory
    · obtain ⟨measurement, chosen, found, lastValid, -, hfound, heq⟩ := hrest
      rw [heq]
      intro index sample hselect history hhistory
      by_cases hother : metric = other
      · subst hother
        -- the sample of this read is the last one already
        simp only [Function.update_self, Option.some.injEq] at hhistory
        have hsame : Except.ok (index, sample) = Except.ok (ε := SourceError) (chosen, found) :=
          hselect.symm.trans hfound
        obtain ⟨-, rfl⟩ := Prod.mk.inj (Except.ok.inj hsame)
        intro _ hsequence
        rw [← hhistory, recorded_sequence] at hsequence
        exact absurd rfl hsequence
      · simp only [Function.update_of_ne hother] at hhistory
        exact horder index sample hselect history hhistory

def Point.Fresh (now limit : ℚ) (point : Point ℚ) : Prop :=
  point.age + (now - point.at_) < limit

instance (now limit : ℚ) (point : Point ℚ) : Decidable (point.Fresh now limit) :=
  inferInstanceAs (Decidable (_ < _))

def Unexpired (trigonometry : Arithmetic.Trigonometry) (engine : Engine ℚ) (metric : Metric)
    (now : Nat) : Prop :=
  ∀ measurement ∈ engine.measurements metric, ∀ entry ∈ evidence trigonometry engine metric now,
    0 < entry.1 → entry.2.Fresh (Duration.toSecs now) measurement.maximumAgeSeconds

/-- The single reads of a read: the direction of the wind asks for its speed too. -/
def singles (trigonometry : Arithmetic.Trigonometry) (engine : Engine ℚ) (metric : Metric)
    (now : Nat) : List (Engine ℚ × Metric) :=
  (engine, metric) :: if metric = .windDirection then
    [((engine.readOne (.exact trigonometry) metric now).2, .windSpeed)] else []

theorem prune_fresh {now start maximumAge : ℚ} {points : List (Point ℚ)}
    (h : (prune (.exact trigonometry) now start maximumAge points).Pairwise
      fun first second => first.taken ≤ second.taken)
    (hlength : 1 < (prune (.exact trigonometry) now start maximumAge points).length) :
    ∀ point ∈ prune (.exact trigonometry) now start maximumAge points,
      point.Fresh now maximumAge := by
  cases hpruned : prune (.exact trigonometry) now start maximumAge points with
  | nil => simp
  | cons first tail =>
    cases tail with
    | nil => simp [hpruned] at hlength
    | cons second rest =>
      have hfront := (prune_front hpruned).2
      rw [hpruned] at h
      have hfirst : first.Fresh now maximumAge := by
        unfold Point.Fresh
        linarith
      intro point hpoint
      rcases List.mem_cons.mp hpoint with rfl | hlater
      · exact hfirst
      · have horder := (List.pairwise_cons.mp h).1 point hlater
        unfold Point.taken at horder
        unfold Point.Fresh at hfirst ⊢
        linarith

theorem unexpired {engine : Engine ℚ} {metric : Metric} {now : Nat} {reading : Reading ℚ}
    (h : ∀ history, (engine.tick (.exact trigonometry) now).2.history metric = some history →
      history.points.Pairwise fun first second => first.taken ≤ second.taken)
    (horder : Permits trigonometry (InOrder trigonometry) engine metric now)
    (hread : (engine.readOne (.exact trigonometry) metric now).1 = .ok reading) :
    Unexpired trigonometry engine metric now := by
  obtain ⟨measurement, index, sample, hof⟩ := readOne_ok hread
  intro configured hconfigured entry hentry _
  rw [hof.configured] at hconfigured
  obtain rfl := Option.some.inj hconfigured
  rw [evidence_eq hof] at hentry
  have haged := recorded_aged h hof.select horder measurement.maximumAgeSeconds
  unfold entriesOf at hentry
  dsimp only at hentry
  split at hentry
  · rename_i hwindow
    have hpoint := List.mem_map_of_mem (f := Prod.snd) hentry
    rw [weights_points] at hpoint
    exact prune_fresh haged hwindow.2.1 _ hpoint
  · rw [List.mem_singleton.mp hentry]
    have hfresh := of_decide_eq_true hof.fresh
    unfold Point.Fresh
    linarith

/-- What is claimed of a step: the value of a successful read is the mean of its evidence, and none
of the evidence has expired. -/
def Evidenced (trigonometry : Arithmetic.Trigonometry)
    (t : Transition (Engine ℚ) Op Answer) : Prop :=
  ∀ metric now reading, t.op = .read metric now → t.result = some (.ok reading) →
    (metric ≠ .windDirection →
      reading.value = weighted Point.value (evidence trigonometry t.before metric now))
    ∧ ∀ single ∈ singles trigonometry t.before metric now,
      Unexpired trigonometry single.1 single.2 now

theorem read_direction_ok {engine : Engine ℚ} {now : Nat} {reading : Reading ℚ}
    (h : (engine.read (.exact trigonometry) .windDirection now).1 = .ok reading) :
    (∃ direction, (engine.readOne (.exact trigonometry) .windDirection now).1 = .ok direction)
      ∧ ∃ speed, ((engine.readOne (.exact trigonometry) .windDirection now).2.readOne
        (.exact trigonometry) .windSpeed now).1 = .ok speed := by
  unfold Engine.read at h
  rw [if_pos rfl] at h
  dsimp only at h
  cases hdirection : (engine.readOne (.exact trigonometry) .windDirection now).1 with
  | error error =>
    rw [hdirection] at h
    cases h
  | ok direction =>
    rw [hdirection] at h
    dsimp only at h
    cases hspeed : ((engine.readOne (.exact trigonometry) .windDirection now).2.readOne
        (.exact trigonometry) .windSpeed now).1 with
    | error error =>
      rw [hspeed] at h
      cases h
    | ok speed => exact ⟨⟨direction, rfl⟩, speed, rfl⟩

end

/-- In a run in which no sample is older than the one recorded before it in the same history, no
read takes a mean over an expired sample. -/
theorem inOrder_evidenced (trigonometry : Arithmetic.Trigonometry)
    (measurements : Metric → Option (Measurement ℚ)) (ops : List Op) (htimely : Op.Timely ops)
    (horder : ∀ t ∈ (machine trigonometry).run (.new (.exact trigonometry) measurements) ops,
      Op.Allowed trigonometry (InOrder trigonometry) t.before t.op) :
    ∀ t ∈ (machine trigonometry).run (.new (.exact trigonometry) measurements) ops,
      Evidenced trigonometry t := by
  intro t hmem metric now reading hop hresult
  obtain ⟨haged, hnow, hstep⟩ := aged_stable.run htimely (holds_none rfl)
    (fun now _ => toSecs_nonneg now) horder t hmem
  have hon := hnow now (by rw [hop]; rfl)
  have hallowed := horder t hmem
  rw [hop] at hallowed
  have hticked : ∀ metric history,
      (t.before.tick (.exact trigonometry) now).2.history metric = some history →
        history.points.Pairwise fun first second => first.taken ≤ second.taken :=
    fun metric history hhistory => (aged_stable.tick haged hon metric history hhistory).2
  rw [hstep, hop] at hresult
  simp only [Machine.perform, machine, Option.some.injEq] at hresult
  by_cases hmetric : metric = .windDirection
  · subst hmetric
    refine ⟨fun h => absurd rfl h, ?_⟩
    obtain ⟨⟨direction, hdirection⟩, speed, hspeed⟩ := read_direction_ok hresult
    obtain ⟨hread, hlast⟩ := aged_stable.readOne haged hon hallowed.1
    intro single hsingle
    unfold singles at hsingle
    rw [if_pos rfl] at hsingle
    rcases List.mem_cons.mp hsingle with rfl | hcalm
    · exact unexpired (hticked _) hallowed.1 hdirection
    · rw [List.mem_singleton.mp hcalm]
      exact unexpired
        (fun history hhistory => (aged_stable.tick hread hlast.le _ history hhistory).2)
        (aged_stable.kept .windDirection hon (hallowed.2 rfl)) hspeed
  · rw [read_eq hmetric] at hresult
    obtain ⟨measurement, index, sample, hof⟩ := readOne_ok hresult
    refine ⟨fun _ => ?_, ?_⟩
    · rw [evidence_eq hof]
      exact mean_entries hmetric hof
    · intro single hsingle
      unfold singles at hsingle
      rw [if_neg hmetric, List.mem_singleton] at hsingle
      rw [hsingle]
      exact unexpired (hticked metric) hallowed.1 hresult

theorem inOrder_of_taken {trigonometry : Arithmetic.Trigonometry} {engine : Engine ℚ}
    {metric : Metric} {now : Nat} (h : ∀ last ∈ (engine.history metric).bind (·.points.getLast?),
      ∀ chosen ∈ (engine.select (.exact trigonometry) metric now).toOption,
        last.taken ≤ Duration.toSecs now - chosen.2.ageSeconds) :
    InOrder trigonometry engine metric now := by
  intro index sample hselect history hhistory _ _ last hlast
  refine h last ?_ (index, sample) ?_
  · rw [hhistory]
    exact hlast
  · rw [hselect]
    rfl

theorem stationOps_inOrder :
    ∀ t ∈ (machine noAngles).run (.new (.exact noAngles) station) stationOps,
      Op.Allowed noAngles (InOrder noAngles) t.before t.op := by
  intro t hmem
  rcases List.mem_cons.mp hmem with rfl | hmem
  · intro metric
    apply inOrder_of_taken
    cases metric <;> decide +kernel
  rcases List.mem_cons.mp hmem with rfl | hmem
  · exact ⟨inOrder_of_taken (by decide +kernel), by intro h; cases h⟩
  rcases List.mem_cons.mp hmem with rfl | hmem
  · intro metric
    apply inOrder_of_taken
    cases metric <;> decide +kernel
  rcases List.mem_cons.mp hmem with rfl | hmem
  · intro metric
    apply inOrder_of_taken
    cases metric <;> decide +kernel
  · rw [List.mem_singleton.mp hmem]
    exact ⟨inOrder_of_taken (by decide +kernel), by intro h; cases h⟩

theorem inOrder_evidenced_station : Op.Timely stationOps
      ∧ (∀ t ∈ (machine noAngles).run (.new (.exact noAngles) station) stationOps,
        Op.Allowed noAngles (InOrder noAngles) t.before t.op)
      ∧ ∀ t ∈ (machine noAngles).run (.new (.exact noAngles) station) stationOps,
        Evidenced noAngles t :=
  ⟨stationOps_timely, stationOps_inOrder,
    inOrder_evidenced noAngles station stationOps stationOps_timely stationOps_inOrder⟩

/-- A sample of 50 s behind a fresh one: it expires first, and stays in the mean. -/
def agedOps : List Op :=
  [.observe (sampled 20 1 1000000000 (.finite 0)) 1000000000,
    .observe (sampled 20 2 2000000000 (.finite 50)) 2000000000,
    .observe (sampled 20 3 12000000000 (.finite 0)) 12000000000, .read .temperature 12000000000]

/-- An expired sample behind a fresh one is still averaged. -/
theorem expired_evidence : ¬ ∀ trigonometry measurements ops, Op.Timely ops →
      ∀ t ∈ (machine trigonometry).run (.new (.exact trigonometry) measurements) ops,
        Evidenced trigonometry t := by
  intro h
  let before := (machine noAngles).final (.new (.exact noAngles) station) (agedOps.take 3)
  have hread : ((before.read (.exact noAngles) .temperature 12000000000).1.toOption).isSome
      = true := by decide +kernel
  have hconfigured : (before.measurements .temperature).map Measurement.maximumAgeSeconds
      = some 60 := by decide +kernel
  have hexpired : ∃ entry ∈ evidence noAngles before .temperature 12000000000,
      0 < entry.1 ∧ ¬ entry.2.Fresh (Duration.toSecs 12000000000) 60 := by decide +kernel
  have hmem : (machine noAngles).perform before (.read .temperature 12000000000)
      ∈ (machine noAngles).run (.new (.exact noAngles) station) agedOps :=
    .tail _ (.tail _ (.tail _ (.head _)))
  cases hresult : (before.read (.exact noAngles) .temperature 12000000000).1 with
  | error error =>
    rw [hresult] at hread
    cases hread
  | ok reading =>
    obtain ⟨-, hunexpired⟩ := h noAngles station agedOps
      (by simp [Op.Timely, agedOps, Op.time]) _ hmem .temperature 12000000000 reading rfl
      (congrArg some hresult)
    obtain ⟨entry, hentry, hweight, hstale⟩ := hexpired
    obtain ⟨measurement, hmeasurement, hage⟩ := Option.map_eq_some_iff.mp hconfigured
    have hfresh := hunexpired _ List.mem_cons_self measurement hmeasurement entry hentry hweight
    rw [hage] at hfresh
    exact hstale hfresh

end Regain.Hub.Weather
