import Mathlib.Data.List.Induction

/-!
# The sleep detector

The continuous clock goes on while the host sleeps, the awake clock does not. A sample reads the
continuous clock between two readings of the awake clock, so the gap of the two clocks is known up
to the width of this bracket and the tolerance of the clocks.
-/

namespace Regain.Hub.Resume

structure ClockPair where
  continuous : Nat
  before : Nat
  after : Nat

abbrev Sample := Option ClockPair

structure Detector where
  gap : Option (Int × Int)
  failed : Bool

def ClockPair.bracket (tolerance : Nat) (pair : ClockPair) : Int × Int :=
  ((pair.continuous : Int) - pair.after - tolerance, (pair.continuous : Int) - pair.before + tolerance)

def meet (range other : Int × Int) : Int × Int :=
  (max range.1 other.1, min range.2 other.2)

namespace Detector

def new : Detector where
  gap := none
  failed := false

def fail (detector : Detector) : Bool × Detector :=
  (!detector.failed, { detector with failed := true })

def observe (tolerance : Nat) (detector : Detector) : Sample → Bool × Detector
  | none => detector.fail
  | some pair =>
    if pair.after < pair.before then detector.fail
    else
      let gap := pair.bracket tolerance
      let intersection := detector.gap.map fun old => meet old gap
      let changed := intersection.any fun range => decide (range.2 < range.1)
      let recovered := detector.failed
      (changed || recovered,
        { failed := false
          gap := if changed || recovered then some gap else some (intersection.getD gap) })

def run (tolerance : Nat) (samples : List Sample) : Detector :=
  samples.foldl (fun detector sample => (detector.observe tolerance sample).2) new

end Detector

def Sample.Successful (sample : Sample) : Prop :=
  ∃ pair, sample = some pair ∧ pair.before ≤ pair.after

def Valid (samples : List Sample) : Prop :=
  ∀ sample, samples.getLast? = some sample → Sample.Successful sample

def ClockPair.Consistent (tolerance : Nat) (pair : ClockPair) (gap : Int) : Prop :=
  (pair.continuous : Int) - pair.after - tolerance ≤ gap ∧
    gap ≤ (pair.continuous : Int) - pair.before + tolerance

def Reports (tolerance : Nat) (samples : List Sample) (sample : Sample) : Prop :=
  ((Detector.run tolerance samples).observe tolerance sample).1 = true

/-- The successful samples since the last one that was reported, or since the first. -/
structure SinceReport (tolerance : Nat) (samples : List Sample) (first : ClockPair)
    (rest : List ClockPair) : Prop where
  split : ∃ earlier, samples = earlier ++ some first :: rest.map some ∧
    (earlier = [] ∨ Reports tolerance earlier (some first)) ∧
    ∀ between pair later, rest = between ++ pair :: later →
      ¬Reports tolerance (earlier ++ some first :: between.map some) (some pair)
  successful : ∀ pair ∈ first :: rest, pair.before ≤ pair.after

section

variable {tolerance : Nat}

@[simp] theorem run_append (samples : List Sample) (sample : Sample) :
    Detector.run tolerance (samples ++ [sample])
      = ((Detector.run tolerance samples).observe tolerance sample).2 := by
  simp [Detector.run]

variable {samples : List Sample} {pair : ClockPair} {detector : Detector}

theorem observe_failure {sample : Sample} (h : ¬Sample.Successful sample) :
    detector.observe tolerance sample = detector.fail := by
  cases sample with
  | none => rfl
  | some pair =>
    have hback : pair.after < pair.before := by
      by_contra hnot
      exact h ⟨pair, rfl, by omega⟩
    exact if_pos hback

theorem valid_append {sample : Sample} :
    Valid (samples ++ [sample]) ↔ Sample.Successful sample := by
  simp [Valid]

theorem run_failed (samples : List Sample) :
    (Detector.run tolerance samples).failed = false ↔ Valid samples := by
  induction samples using List.reverseRecOn with
  | nil => simp [Detector.run, Detector.new, Valid]
  | append_singleton samples sample ih =>
    rw [run_append, valid_append]
    by_cases hsample : Sample.Successful sample
    · obtain ⟨pair, hpair, hforward⟩ := hsample
      rw [hpair]
      simp only [Detector.observe]
      rw [if_neg (by omega)]
      exact ⟨fun _ => ⟨pair, rfl, hforward⟩, fun _ => rfl⟩
    · rw [observe_failure hsample]
      exact ⟨fun hfailed => (by cases hfailed), fun h => absurd h hsample⟩

theorem consistent_iff {gap : Int} : pair.Consistent tolerance gap
      ↔ (pair.bracket tolerance).1 ≤ gap ∧ gap ≤ (pair.bracket tolerance).2 :=
  Iff.rfl

theorem mem_meet {range other : Int × Int} {gap : Int} :
    (meet range other).1 ≤ gap ∧ gap ≤ (meet range other).2
      ↔ (range.1 ≤ gap ∧ gap ≤ range.2) ∧ other.1 ≤ gap ∧ gap ≤ other.2 := by
  simp only [meet]
  omega

def Tracks (tolerance : Nat) (detector : Detector) (pairs : List ClockPair) : Prop :=
  ∃ range, detector.gap = some range ∧ ∀ gap,
    (range.1 ≤ gap ∧ gap ≤ range.2) ↔ ∀ pair ∈ pairs, pair.Consistent tolerance gap

theorem Tracks.reports {pairs : List ClockPair} (h : Tracks tolerance detector pairs)
    (hfailed : detector.failed = false) (hforward : pair.before ≤ pair.after) :
    (detector.observe tolerance (some pair)).1 = true
      ↔ ¬∃ gap, ∀ other ∈ pairs ++ [pair], other.Consistent tolerance gap := by
  obtain ⟨range, hgap, hrange⟩ := h
  have hmeet : ∀ gap, (∀ other ∈ pairs ++ [pair], other.Consistent tolerance gap)
      ↔ (meet range (pair.bracket tolerance)).1 ≤ gap
        ∧ gap ≤ (meet range (pair.bracket tolerance)).2 := by
    intro gap
    rw [mem_meet, hrange, ← consistent_iff]
    simp [or_imp, forall_and]
  simp only [Detector.observe]
  rw [if_neg (by omega)]
  simp only [hgap, hfailed, Option.map_some, Option.any_some, Bool.or_false, decide_eq_true_eq]
  generalize meet range (pair.bracket tolerance) = both at hmeet ⊢
  constructor
  · rintro hempty ⟨gap, hall⟩
    have hinside := (hmeet gap).mp hall
    omega
  · intro hnone
    by_contra hsome
    exact hnone ⟨both.1, (hmeet both.1).mpr ⟨by omega, by omega⟩⟩

theorem Tracks.observe {pairs : List ClockPair} (h : Tracks tolerance detector pairs)
    (hforward : pair.before ≤ pair.after)
    (hquiet : (detector.observe tolerance (some pair)).1 = false) :
    Tracks tolerance (detector.observe tolerance (some pair)).2 (pairs ++ [pair]) := by
  obtain ⟨range, hgap, hrange⟩ := h
  simp only [Detector.observe] at hquiet ⊢
  rw [if_neg (by omega)] at hquiet ⊢
  simp only [hgap, Option.map_some, Option.any_some, Option.getD_some] at hquiet ⊢
  rw [hquiet, if_neg (by simp)]
  refine ⟨_, rfl, fun gap => ?_⟩
  rw [mem_meet, hrange, ← consistent_iff]
  simp [or_imp, forall_and]

theorem tracks_first (hforward : pair.before ≤ pair.after)
    (h : detector.gap = none ∨ (detector.observe tolerance (some pair)).1 = true) :
    Tracks tolerance (detector.observe tolerance (some pair)).2 [pair] := by
  refine ⟨pair.bracket tolerance, ?_, fun gap => ?_⟩
  · simp only [Detector.observe] at h ⊢
    rw [if_neg (by omega)] at h ⊢
    rcases h with hnone | hreported
    · simp [hnone]
    · dsimp only at hreported ⊢
      rw [hreported, if_pos rfl]
  · simp [ClockPair.Consistent, ClockPair.bracket]

theorem SinceReport.tracks {first : ClockPair} {rest : List ClockPair}
    (h : SinceReport tolerance samples first rest) :
    Tracks tolerance (Detector.run tolerance samples) (first :: rest) := by
  obtain ⟨earlier, hsamples, hstart, hquiet⟩ := h.split
  have hsuccessful := h.successful
  rw [hsamples]
  clear h hsamples
  induction rest using List.reverseRecOn with
  | nil =>
    rw [List.map_nil, run_append]
    refine tracks_first (hsuccessful first List.mem_cons_self) ?_
    rcases hstart with hnil | hreported
    · rw [hnil]
      exact .inl rfl
    · exact .inr hreported
  | append_singleton rest pair ih =>
    have htracks := ih
      (fun between other later hrest => hquiet between other (later ++ [pair])
        (by rw [hrest, List.append_assoc]; rfl))
      (fun other hmem => hsuccessful other (by
        rw [← List.cons_append]
        exact List.mem_append_left _ hmem))
    have hlast : ¬Reports tolerance (earlier ++ some first :: rest.map some) (some pair) :=
      hquiet rest pair [] rfl
    have hshape : earlier ++ some first :: (rest ++ [pair]).map some
        = (earlier ++ some first :: rest.map some) ++ [some pair] := by simp
    rw [hshape, run_append, ← List.cons_append]
    exact htracks.observe (hsuccessful pair (by simp)) (by simpa [Reports] using hlast)

theorem sinceReport_fresh {earlier : List Sample} {last : ClockPair}
    (hlast : last.before ≤ last.after)
    (hstart : earlier = [] ∨ Reports tolerance earlier (some last)) :
    SinceReport tolerance (earlier ++ [some last]) last [] where
  split := by
    refine ⟨earlier, by simp, hstart, ?_⟩
    intro between pair later hrest
    cases between <;> cases hrest
  successful := by simpa using hlast

theorem exists_sinceReport {last : ClockPair} (hlast : last.before ≤ last.after) :
    ∃ first rest, SinceReport tolerance (samples ++ [some last]) first rest := by
  induction samples using List.reverseRecOn generalizing last with
  | nil => exact ⟨last, [], sinceReport_fresh hlast (.inl rfl)⟩
  | append_singleton samples sample ih =>
    by_cases hreports : Reports tolerance (samples ++ [sample]) (some last)
    · exact ⟨last, [], sinceReport_fresh hlast (.inr hreports)⟩
    · by_cases hsample : Sample.Successful sample
      · obtain ⟨pair, hpair, hforward⟩ := hsample
        obtain ⟨first, rest, hsince⟩ := ih hforward
        rw [hpair] at hreports ⊢
        obtain ⟨earlier, hsamples, hstart, hquiet⟩ := hsince.split
        refine ⟨first, rest ++ [last], ⟨earlier, ?_, hstart, ?_⟩, ?_⟩
        · rw [hsamples]
          simp
        · intro between other later hrest
          rcases List.eq_nil_or_concat later with hnil | ⟨later', other', hlater⟩
          · rw [hnil] at hrest
            obtain ⟨hsame, hother⟩ := List.append_inj' hrest rfl
            cases hother
            rw [← hsame, ← hsamples]
            exact hreports
          · rw [hlater] at hrest
            have hsplit : rest ++ [last] = (between ++ other :: later') ++ [other'] := by
              rw [hrest, List.concat_eq_append, List.append_assoc, List.cons_append]
            obtain ⟨hsame, -⟩ := List.append_inj' hsplit rfl
            exact hquiet between other later' hsame
        · intro other hmem
          rw [← List.cons_append] at hmem
          rcases List.mem_append.mp hmem with hearlier | hnew
          · exact hsince.successful other hearlier
          · rw [List.mem_singleton.mp hnew]
            exact hlast
      · have hfailed : (Detector.run tolerance (samples ++ [sample])).failed = true := by
          by_contra hnot
          exact hsample (valid_append.mp ((run_failed _).mp (by simpa using hnot)))
        refine absurd ?_ hreports
        unfold Reports Detector.observe
        dsimp only
        rw [if_neg (by omega), hfailed, Bool.or_true]

structure Exact (tolerance : Nat) : Prop where
  /-- A successful sample after a successful one, in its window. -/
  window : ∀ samples last, last.before ≤ last.after →
    ∃ first rest, SinceReport tolerance (samples ++ [some last]) first rest
  following : ∀ samples first rest pair, SinceReport tolerance samples first rest →
    pair.before ≤ pair.after →
    (Reports tolerance samples (some pair)
      ↔ ¬∃ gap, ∀ other ∈ first :: rest ++ [pair], other.Consistent tolerance gap)
  /-- Any other sample. -/
  otherwise : ∀ samples sample,
    ¬((∃ last, samples.getLast? = some last ∧ Sample.Successful last) ∧ Sample.Successful sample) →
    (Reports tolerance samples sample
      ↔ Valid samples ∧ ¬Sample.Successful sample ∨ ¬Valid samples ∧ Sample.Successful sample)
  /-- A constant gap is not a sleep. -/
  constant : ∀ gap samples last pair,
    (∀ other, some other ∈ samples ++ [some last, some pair] → other.before ≤ other.after →
      other.Consistent tolerance gap) →
    last.before ≤ last.after → pair.before ≤ pair.after →
    ¬Reports tolerance (samples ++ [some last]) (some pair)
  /-- A long sleep is reported. -/
  sleep : ∀ samples last pair gap gap', last.before ≤ last.after → pair.before ≤ pair.after →
    last.Consistent tolerance gap → pair.Consistent tolerance gap' →
    (last.after - last.before : Int) + (pair.after - pair.before) + 4 * tolerance < gap' - gap →
    Reports tolerance (samples ++ [some last]) (some pair)

theorem SinceReport.last {first : ClockPair} {rest : List ClockPair}
    (h : SinceReport tolerance samples first rest) :
    ∃ before last, samples = before ++ [some last] ∧ last ∈ first :: rest := by
  obtain ⟨earlier, hsamples, -, -⟩ := h.split
  rcases List.eq_nil_or_concat rest with hnil | ⟨rest', last, hrest⟩
  · exact ⟨earlier, first, by rw [hsamples, hnil, List.map_nil], List.mem_cons_self⟩
  · refine ⟨earlier ++ some first :: rest'.map some, last, ?_, ?_⟩
    · rw [hsamples, hrest]
      simp
    · rw [hrest]
      simp

theorem reports_following {first : ClockPair} {rest : List ClockPair}
    (h : SinceReport tolerance samples first rest) (hforward : pair.before ≤ pair.after) :
    Reports tolerance samples (some pair)
      ↔ ¬∃ gap, ∀ other ∈ first :: rest ++ [pair], other.Consistent tolerance gap := by
  refine h.tracks.reports ?_ hforward
  obtain ⟨before, last, hsamples, hmem⟩ := h.last
  rw [run_failed, hsamples, valid_append]
  exact ⟨last, rfl, h.successful last hmem⟩

theorem detector_exact (tolerance : Nat) : Exact tolerance where
  window _ _ := exists_sinceReport
  following _ _ _ _ hsince := reports_following hsince
  otherwise samples sample hother := by
    unfold Reports
    by_cases hsample : Sample.Successful sample
    · have hlast : ¬∃ last, samples.getLast? = some last ∧ Sample.Successful last :=
        fun hlast => hother ⟨hlast, hsample⟩
      obtain ⟨pair, hpair, hforward⟩ := id hsample
      rw [hpair]
      simp only [Detector.observe]
      rw [if_neg (by omega)]
      by_cases hvalid : Valid samples
      · have hnil : samples = [] := by
          rcases List.eq_nil_or_concat samples with hnil | ⟨before, last, hsamples⟩
          · exact hnil
          · have hsome : samples.getLast? = some last := by simp [hsamples]
            exact absurd ⟨last, hsome, hvalid last hsome⟩ hlast
        rw [← hpair]
        simp [hnil, Detector.run, Detector.new, hsample, Valid]
      · have hfailed : (Detector.run tolerance samples).failed = true := by
          by_contra hnot
          exact hvalid ((run_failed _).mp (by simpa using hnot))
        rw [← hpair]
        simp [hfailed, hsample, hvalid]
    · rw [observe_failure hsample]
      simp only [Detector.fail, Bool.not_eq_true', hsample, not_false_eq_true, and_true, and_false,
        or_false]
      exact run_failed samples
  constant gap samples last pair hgap hlast hpair := by
    have hwindow : ∃ first rest, SinceReport tolerance (samples ++ [some last]) first rest :=
      exists_sinceReport hlast
    obtain ⟨first, rest, hsince⟩ := hwindow
    rw [reports_following hsince hpair, not_not]
    obtain ⟨earlier, hsamples, -, -⟩ := hsince.split
    refine ⟨gap, fun other hmem => hgap other ?_ ?_⟩
    · have hshape : samples ++ [some last, some pair] = (samples ++ [some last]) ++ [some pair] := by
        simp
      rw [hshape, hsamples]
      rcases List.mem_append.mp hmem with hmem | hmem
      · refine List.mem_append_left _ (List.mem_append_right _ ?_)
        rw [← List.map_cons]
        exact List.mem_map_of_mem hmem
      · rw [List.mem_singleton.mp hmem]
        simp
    · rcases List.mem_append.mp hmem with hmem | hmem
      · exact hsince.successful other hmem
      · rw [List.mem_singleton.mp hmem]
        exact hpair
  sleep samples last pair gap gap' hlast hpair hgap hgap' hlong := by
    have hwindow : ∃ first rest, SinceReport tolerance (samples ++ [some last]) first rest :=
      exists_sinceReport hlast
    obtain ⟨first, rest, hsince⟩ := hwindow
    rw [reports_following hsince hpair]
    rintro ⟨common, hall⟩
    obtain ⟨before, same, hsamples, hmem⟩ := hsince.last
    obtain ⟨-, hsame⟩ := List.append_inj' hsamples rfl
    cases hsame
    have hcommon := hall last (List.mem_append_left _ hmem)
    have hcommon' := hall pair (by simp)
    simp only [ClockPair.Consistent] at hgap hgap' hcommon hcommon'
    omega

end

end Regain.Hub.Resume
