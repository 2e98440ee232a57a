import Mathlib.Algebra.Order.Ring.Rat
import Mathlib.Data.List.Induction

/-!
# The mount health monitor

The monitor watches the observations of a mount that is expected to track. Seconds and degrees are
exact, the angular separation is a parameter.
-/

namespace Regain.Mount

structure MountRecoveryOptions where
  lostTrackingSeconds : ℚ
  coordinateJumpDegrees : ℚ

structure MountObservation where
  connected : Bool
  tracking : Bool
  slewing : Bool
  /-- Absent if the value is not finite. -/
  rightAscensionHours : Option ℚ
  declinationDegrees : Option ℚ

def MountObservation.moving (value : MountObservation) (commandedMotion : Bool) : Bool :=
  value.connected && (commandedMotion || value.slewing)

def MountObservation.finite (value : MountObservation) : Bool :=
  value.rightAscensionHours.any (fun hours => decide (0 ≤ hours ∧ hours < 24)) &&
    value.declinationDegrees.any (fun degrees => decide (-90 ≤ degrees ∧ degrees ≤ 90))

structure MountRecoveryMonitor where
  good : Option MountObservation
  suspectSince : Option ℚ
  expectedTracking : Bool
  fault : Option String

/-- A call; the readings of the clock are part of an observation. -/
inductive Call where
  | intent (tracking : Bool)
  | reset
  | resetPositionBaseline
  | observe (value : MountObservation) (commandedMotion : Bool) (stamp now : ℚ)

section

variable (separation : MountObservation → MountObservation → ℚ) (options : MountRecoveryOptions)

/-- The observation is further from the last healthy one than a tracking mount can be. -/
def displaced (good : Option MountObservation) (value : MountObservation) : Bool :=
  good.any fun good => decide (options.coordinateJumpDegrees < separation good value)

namespace MountRecoveryMonitor

def new : MountRecoveryMonitor where
  good := none
  suspectSince := none
  expectedTracking := false
  fault := none

def intent (monitor : MountRecoveryMonitor) (tracking : Bool) : MountRecoveryMonitor :=
  { monitor with expectedTracking := tracking, good := none, suspectSince := none, fault := none }

def reset (monitor : MountRecoveryMonitor) : MountRecoveryMonitor :=
  { monitor with good := none, suspectSince := none, fault := none }

def resetPositionBaseline (monitor : MountRecoveryMonitor) : MountRecoveryMonitor :=
  { monitor with good := none, suspectSince := none }

def reason (monitor : MountRecoveryMonitor) (value : MountObservation) : Option String :=
  if !value.connected then some "Mount disconnected"
  else if !value.finite then some "Mount position unavailable"
  else if monitor.expectedTracking && !value.tracking then some "Tracking stopped unexpectedly"
  else if monitor.expectedTracking && displaced separation options monitor.good value then
    some "Mount position jumped without a commanded slew"
  else none

def observe (monitor : MountRecoveryMonitor) (value : MountObservation) (commandedMotion : Bool)
    (stamp now : ℚ) : Bool × MountRecoveryMonitor :=
  -- Re-enabling tracking alone cannot reconcile lost pointing.
  if monitor.fault.isSome then (false, monitor)
  else if value.moving commandedMotion then
    (false, { monitor with suspectSince := none, good := none })
  else
    match if monitor.expectedTracking then monitor.reason separation options value else none with
    | some reason =>
      let since := monitor.suspectSince.getD stamp
      (false, { monitor with
        suspectSince := some since
        fault := if options.lostTrackingSeconds ≤ now - since then some reason else none })
    | none =>
      let monitor := { monitor with suspectSince := none }
      if value.connected && value.tracking && value.finite then
        (true, { monitor with expectedTracking := true, good := some value })
      else (false, monitor)

def call (monitor : MountRecoveryMonitor) : Call → MountRecoveryMonitor
  | .intent tracking => monitor.intent tracking
  | .reset => monitor.reset
  | .resetPositionBaseline => monitor.resetPositionBaseline
  | .observe value commandedMotion stamp now =>
    (monitor.observe separation options value commandedMotion stamp now).2

def run (calls : List Call) : MountRecoveryMonitor :=
  calls.foldl (call separation options) new

end MountRecoveryMonitor

def healthy (good : Option MountObservation) (value : MountObservation) (commandedMotion : Bool) :
    Bool :=
  value.connected && !value.moving commandedMotion && value.finite && value.tracking &&
    !displaced separation options good value

/-- The last healthy observation; motion, an intent or a reset forgets it. -/
def remember (good : Option MountObservation) : Call → Option MountObservation
  | .observe value commandedMotion _ _ =>
    if value.moving commandedMotion then none
    else if healthy separation options good value commandedMotion then some value
    else good
  | _ => none

def lastHealthy (calls : List Call) : Option MountObservation :=
  calls.foldl (remember separation options) none

/-- The call observes a lost connection, or a mount at rest whose position is invalid or displaced
or that does not track. -/
def suspicious (good : Option MountObservation) : Call → Bool
  | .observe value commandedMotion _ _ =>
    !value.connected || (!value.moving commandedMotion &&
      (!value.finite || !value.tracking || displaced separation options good value))
  | _ => false

/-- Consecutive observations, each of them suspicious after the calls before it. -/
def SuspiciousRun (before run : List Call) : Prop :=
  ∀ earlier call later, run = earlier ++ call :: later →
    suspicious separation options (lastHealthy separation options (before ++ earlier)) call = true

def Call.readings : Call → List ℚ
  | .observe _ _ stamp now => [stamp, now]
  | _ => []

def Timed (calls : List Call) : Prop :=
  (calls.flatMap Call.readings).Pairwise (· ≤ ·)

def Call.stamp : Call → ℚ
  | .observe _ _ stamp _ => stamp
  | _ => 0

def Spans (run : List Call) (now : ℚ) : Prop :=
  ∃ first, run.head? = some first ∧ options.lostTrackingSeconds ≤ now - first.stamp

end

section

variable {separation : MountObservation → MountObservation → ℚ} {options : MountRecoveryOptions}

@[simp] theorem lastHealthy_append (calls : List Call) (call : Call) :
    lastHealthy separation options (calls ++ [call])
      = remember separation options (lastHealthy separation options calls) call := by
  simp [lastHealthy]

@[simp] theorem run_append (calls : List Call) (call : Call) :
    MountRecoveryMonitor.run separation options (calls ++ [call])
      = (MountRecoveryMonitor.run separation options calls).call separation options call := by
  simp [MountRecoveryMonitor.run]

theorem suspiciousRun_nil (before : List Call) : SuspiciousRun separation options before [] := by
  intro earlier call later hrun
  cases earlier <;> cases hrun

theorem suspiciousRun_append {before run : List Call} {call : Call} :
    SuspiciousRun separation options before (run ++ [call])
      ↔ SuspiciousRun separation options before run
        ∧ suspicious separation options (lastHealthy separation options (before ++ run)) call
          = true := by
  constructor
  · intro h
    refine ⟨fun earlier other later hrun => ?_, h run call [] rfl⟩
    exact h earlier other (later ++ [call]) (by rw [hrun, List.append_assoc]; rfl)
  · rintro ⟨hrun, hlast⟩ earlier other later heq
    rcases List.eq_nil_or_concat later with hnil | ⟨rest, last, hlater⟩
    · rw [hnil] at heq
      obtain ⟨hsame, hother⟩ := List.append_inj' heq rfl
      cases hother
      rw [← hsame]
      exact hlast
    · rw [hlater] at heq
      have hsplit : run ++ [call] = (earlier ++ other :: rest) ++ [last] := by
        rw [heq, List.concat_eq_append, List.append_assoc, List.cons_append]
      obtain ⟨hsame, -⟩ := List.append_inj' hsplit rfl
      exact hrun earlier other rest hsame

def suspicionStart (separation : MountObservation → MountObservation → ℚ)
    (options : MountRecoveryOptions) (good : Option MountObservation) (since : Option ℚ)
    (call : Call) : Option ℚ :=
  if suspicious separation options good call then some (since.getD call.stamp) else none

/-- What an observer of the calls makes of them, whether tracking is expected or not. -/
structure Watch where
  good : Option MountObservation
  since : Option ℚ

def Watch.see (separation : MountObservation → MountObservation → ℚ)
    (options : MountRecoveryOptions) (watch : Watch) (call : Call) : Watch where
  good := remember separation options watch.good call
  since := suspicionStart separation options watch.good watch.since call

def watch (separation : MountObservation → MountObservation → ℚ)
    (options : MountRecoveryOptions) (calls : List Call) : Watch :=
  calls.foldl (Watch.see separation options) ⟨none, none⟩

@[simp] theorem watch_append (calls : List Call) (call : Call) :
    watch separation options (calls ++ [call])
      = (watch separation options calls).see separation options call := by
  simp [watch]

theorem watch_good (calls : List Call) :
    (watch separation options calls).good = lastHealthy separation options calls := by
  induction calls using List.reverseRecOn with
  | nil => rfl
  | append_singleton calls call ih =>
    rw [watch_append, lastHealthy_append, ← ih]
    rfl

variable {calls : List Call} {monitor : MountRecoveryMonitor}

theorem run_of_since {start : ℚ} (h : (watch separation options calls).since = some start) :
    ∃ before first rest, calls = before ++ first :: rest ∧ first.stamp = start ∧
      SuspiciousRun separation options before (first :: rest) := by
  induction calls using List.reverseRecOn generalizing start with
  | nil => cases h
  | append_singleton calls call ih =>
    rw [watch_append] at h
    simp only [Watch.see, suspicionStart] at h
    rw [watch_good] at h
    by_cases hcall : suspicious separation options (lastHealthy separation options calls) call
    · rw [if_pos hcall] at h
      cases hsince : (watch separation options calls).since with
      | none =>
        rw [hsince] at h
        cases h
        refine ⟨calls, call, [], rfl, rfl, ?_⟩
        have hone : SuspiciousRun separation options calls ([] ++ [call]) :=
          suspiciousRun_append.mpr
            ⟨suspiciousRun_nil calls, by rw [List.append_nil]; exact hcall⟩
        exact hone
      | some since =>
        rw [hsince] at h
        cases h
        obtain ⟨before, first, rest, hcalls, hstamp, hrun⟩ := ih hsince
        refine ⟨before, first, rest ++ [call], by rw [hcalls, List.append_assoc]; rfl, hstamp, ?_⟩
        rw [← List.cons_append]
        exact suspiciousRun_append.mpr ⟨hrun, hcalls ▸ hcall⟩
    · rw [if_neg hcall] at h
      cases h

theorem since_le {start : ℚ} (h : (watch separation options calls).since = some start) :
    start ∈ calls.flatMap Call.readings := by
  obtain ⟨before, first, rest, hcalls, hstamp, hrun⟩ := run_of_since h
  have hfirst := hrun [] first rest rfl
  cases first with
  | observe value commandedMotion stamp now =>
    rw [hcalls, ← hstamp]
    simp [Call.readings, Call.stamp]
  | intent tracking => cases hfirst
  | reset => cases hfirst
  | resetPositionBaseline => cases hfirst

theorem since_of_run {before : List Call} {first : Call} {rest : List Call} (htimed : Timed calls)
    (hcalls : calls = before ++ first :: rest)
    (hrun : SuspiciousRun separation options before (first :: rest)) :
    ∃ start, (watch separation options calls).since = some start ∧ start ≤ first.stamp := by
  induction rest using List.reverseRecOn generalizing calls with
  | nil =>
    have hfirst := hrun [] first [] rfl
    rw [List.append_nil] at hfirst
    rw [hcalls, watch_append]
    simp only [Watch.see, suspicionStart]
    rw [watch_good, if_pos hfirst]
    refine ⟨_, rfl, ?_⟩
    cases hsince : (watch separation options before).since with
    | none => exact le_refl _
    | some start =>
      have hmem := since_le hsince
      cases first with
      | observe value commandedMotion stamp now =>
        rw [hcalls] at htimed
        simp only [Timed, List.flatMap_append, List.pairwise_append] at htimed
        exact htimed.2.2 start hmem stamp (by simp [Call.readings])
      | intent tracking => cases hfirst
      | reset => cases hfirst
      | resetPositionBaseline => cases hfirst
  | append_singleton rest call ih =>
    rw [← List.cons_append] at hrun
    obtain ⟨hearlier, hcall⟩ := suspiciousRun_append.mp hrun
    have htimed' : Timed (before ++ first :: rest) := by
      rw [hcalls, ← List.cons_append, ← List.append_assoc] at htimed
      unfold Timed at htimed ⊢
      rw [List.flatMap_append, List.pairwise_append] at htimed
      exact htimed.1
    obtain ⟨start, hsince, hle⟩ := ih htimed' rfl hearlier
    refine ⟨start, ?_, hle⟩
    rw [hcalls, ← List.cons_append, ← List.append_assoc, watch_append]
    simp only [Watch.see, suspicionStart]
    rw [watch_good, if_pos hcall, hsince]
    rfl

namespace MountRecoveryMonitor

variable {monitor : MountRecoveryMonitor}

theorem reason_isSome (separation : MountObservation → MountObservation → ℚ)
    (options : MountRecoveryOptions) (h : monitor.expectedTracking = true)
    {value : MountObservation} {commandedMotion : Bool}
    (hmoving : value.moving commandedMotion = false) (stamp now : ℚ) :
    (monitor.reason separation options value).isSome
      = suspicious separation options monitor.good (.observe value commandedMotion stamp now) := by
  unfold reason suspicious
  dsimp only
  rw [h, hmoving]
  cases value.connected <;> cases value.finite <;> cases value.tracking <;>
    cases displaced separation options monitor.good value <;> rfl

theorem observe_fault (hfault : monitor.fault = none) (value : MountObservation)
    (commandedMotion : Bool) (stamp now : ℚ) :
    (monitor.call separation options (.observe value commandedMotion stamp now)).fault.isSome = true
      ↔ monitor.expectedTracking = true
        ∧ suspicious separation options monitor.good (.observe value commandedMotion stamp now)
          = true ∧ options.lostTrackingSeconds ≤ now - monitor.suspectSince.getD stamp := by
  simp only [call, observe, hfault, Option.isSome_none, Bool.false_eq_true, if_false]
  by_cases hmoving : value.moving commandedMotion = true
  · have hconnected : value.connected = true := by
      simp only [MountObservation.moving, Bool.and_eq_true] at hmoving
      exact hmoving.1
    simp [hmoving, suspicious, hconnected]
  · have hmoving' : value.moving commandedMotion = false := by simpa using hmoving
    rw [if_neg hmoving]
    by_cases hexpected : monitor.expectedTracking = true
    · have hreason := reason_isSome separation options hexpected hmoving' stamp now
      rw [if_pos hexpected]
      cases hcase : monitor.reason separation options value with
      | none =>
        rw [hcase] at hreason
        rw [← hreason]
        dsimp only
        split <;> simp
      | some reason =>
        rw [hcase] at hreason
        rw [← hreason]
        dsimp only
        split
        · next hlong => simp [hexpected, hlong]
        · next hshort => simp [hshort]
    · rw [if_neg hexpected]
      dsimp only
      split <;> simp [hexpected]

theorem call_fault {reason : String} (hfault : monitor.fault = some reason) {call : Call}
    (hintent : ∀ tracking, call ≠ .intent tracking) (hreset : call ≠ .reset) :
    (monitor.call separation options call).fault = some reason := by
  cases call with
  | intent tracking => exact absurd rfl (hintent tracking)
  | reset => exact absurd rfl hreset
  | resetPositionBaseline => exact hfault
  | observe value commandedMotion stamp now => simp [MountRecoveryMonitor.call, observe, hfault]

end MountRecoveryMonitor

/-- Between faults the monitor is what an observer of the calls would make of them. -/
structure Linked (monitor : MountRecoveryMonitor) (watch : Watch) : Prop where
  good : monitor.good = watch.good
  expected : monitor.good.isSome = true → monitor.expectedTracking = true
  since : monitor.suspectSince = if monitor.expectedTracking then watch.since else none

theorem Linked.observe {watch : Watch} (h : Linked monitor watch) (hfault : monitor.fault = none)
    (value : MountObservation) (commandedMotion : Bool) (stamp now : ℚ) :
    Linked (monitor.call separation options (.observe value commandedMotion stamp now))
      (watch.see separation options (.observe value commandedMotion stamp now)) := by
  simp only [MountRecoveryMonitor.call, MountRecoveryMonitor.observe, hfault, Option.isSome_none,
    Bool.false_eq_true, if_false, Watch.see, suspicionStart, remember]
  rw [← h.good]
  by_cases hmoving : value.moving commandedMotion = true
  · have hconnected : value.connected = true := by
      simp only [MountObservation.moving, Bool.and_eq_true] at hmoving
      exact hmoving.1
    have hcalm : suspicious separation options monitor.good
        (.observe value commandedMotion stamp now) = false := by
      simp [suspicious, hmoving, hconnected]
    rw [if_pos hmoving, if_pos hmoving, hcalm]
    exact ⟨rfl, fun hsome => (by cases hsome), (by simp)⟩
  · have hmoving' : value.moving commandedMotion = false := by simpa using hmoving
    rw [if_neg hmoving, if_neg hmoving]
    by_cases hexpected : monitor.expectedTracking = true
    · have hreason := MountRecoveryMonitor.reason_isSome separation options hexpected hmoving'
        stamp now
      have hsince := h.since
      rw [if_pos hexpected] at hsince ⊢
      cases hcase : monitor.reason separation options value with
      | some reason =>
        rw [hcase] at hreason
        have hsick : healthy separation options monitor.good value commandedMotion = false := by
          by_contra hwell
          simp only [suspicious, hmoving', Option.isSome_some] at hreason
          simp only [healthy, hmoving'] at hwell
          revert hreason hwell
          cases value.connected <;> cases value.finite <;> cases value.tracking <;>
            cases displaced separation options monitor.good value <;> decide
        rw [← hreason, hsick]
        refine ⟨rfl, h.expected, ?_⟩
        dsimp only
        rw [if_pos hexpected, Option.isSome_some, if_pos rfl, hsince]
        rfl
      | none =>
        rw [hcase] at hreason
        have hwell : (value.connected && value.tracking && value.finite) = true
            ∧ healthy separation options monitor.good value commandedMotion = true := by
          simp only [suspicious, hmoving', Option.isSome_none] at hreason
          simp only [healthy, hmoving']
          revert hreason
          cases value.connected <;> cases value.finite <;> cases value.tracking <;>
            cases displaced separation options monitor.good value <;> decide
        rw [← hreason, hwell.1, hwell.2]
        exact ⟨rfl, fun _ => rfl, by simp⟩
    · have hgood : monitor.good = none := by
        by_contra hsome
        exact hexpected (h.expected (Option.isSome_iff_ne_none.mpr hsome))
      have hcalm : (value.connected && value.tracking && value.finite)
          = healthy separation options monitor.good value commandedMotion := by
        simp only [healthy, hmoving', hgood, displaced]
        cases value.connected <;> cases value.finite <;> cases value.tracking <;> rfl
      rw [if_neg hexpected]
      dsimp only
      rw [hcalm]
      by_cases hwell : healthy separation options monitor.good value commandedMotion = true
      · have hsound : suspicious separation options monitor.good
            (.observe value commandedMotion stamp now) = false := by
          revert hwell
          simp only [healthy, suspicious, hmoving']
          cases value.connected <;> cases value.finite <;> cases value.tracking <;>
            cases displaced separation options monitor.good value <;> decide
        rw [if_pos hwell, if_pos hwell, hsound]
        exact ⟨rfl, fun _ => rfl, by simp⟩
      · rw [if_neg hwell, if_neg hwell]
        exact ⟨rfl, h.expected, by simp [hexpected]⟩

theorem linked_run (hfault : (MountRecoveryMonitor.run separation options calls).fault = none) :
    Linked (MountRecoveryMonitor.run separation options calls) (watch separation options calls) := by
  induction calls using List.reverseRecOn with
  | nil => exact ⟨rfl, fun hsome => (by cases hsome), rfl⟩
  | append_singleton calls call ih =>
    rw [run_append] at hfault ⊢
    rw [watch_append]
    cases call with
    | intent tracking => exact ⟨rfl, fun hsome => (by cases hsome), by simp [Watch.see,
        suspicionStart, suspicious, MountRecoveryMonitor.call, MountRecoveryMonitor.intent]⟩
    | reset => exact ⟨rfl, fun hsome => (by cases hsome), by simp [Watch.see,
        suspicionStart, suspicious, MountRecoveryMonitor.call, MountRecoveryMonitor.reset]⟩
    | resetPositionBaseline => exact ⟨rfl, fun hsome => (by cases hsome), by simp [Watch.see,
        suspicionStart, suspicious, MountRecoveryMonitor.call,
        MountRecoveryMonitor.resetPositionBaseline]⟩
    | observe value commandedMotion stamp now =>
      cases hbefore : (MountRecoveryMonitor.run separation options calls).fault with
      | some reason =>
        rw [MountRecoveryMonitor.call_fault hbefore (by simp) (by simp)] at hfault
        cases hfault
      | none => exact (ih hbefore).observe hbefore value commandedMotion stamp now

/-- Tracking is expected, no fault is set, and the observation ends a run of suspicious ones that
lasts long enough. -/
structure FaultDue (separation : MountObservation → MountObservation → ℚ)
    (options : MountRecoveryOptions) (calls : List Call) (call : Call) (now : ℚ) : Prop where
  expected : (MountRecoveryMonitor.run separation options calls).expectedTracking = true
  clear : (MountRecoveryMonitor.run separation options calls).fault = none
  lasting : ∃ before run, calls ++ [call] = before ++ run ∧
    SuspiciousRun separation options before run ∧ Spans options run now

/-- What an observation, or any other call, does to the fault and the expectation. -/
structure Supervised (separation : MountObservation → MountObservation → ℚ)
    (options : MountRecoveryOptions) (calls : List Call) : Prop where
  faults : ∀ value commandedMotion stamp now,
    Timed (calls ++ [.observe value commandedMotion stamp now]) →
    ((MountRecoveryMonitor.run separation options calls).fault = none ∧
        (MountRecoveryMonitor.run separation options
          (calls ++ [.observe value commandedMotion stamp now])).fault.isSome = true
      ↔ FaultDue separation options calls (.observe value commandedMotion stamp now) now)
  lasts : ∀ later reason,
    (MountRecoveryMonitor.run separation options calls).fault = some reason →
    (∀ call ∈ later, call ≠ .reset ∧ ∀ tracking, call ≠ .intent tracking) →
    (MountRecoveryMonitor.run separation options (calls ++ later)).fault = some reason
  expects : ∀ call, (MountRecoveryMonitor.run separation options calls).expectedTracking = false →
    (MountRecoveryMonitor.run separation options (calls ++ [call])).expectedTracking = true →
    call = .intent true ∨ ∃ value commandedMotion stamp now,
      call = .observe value commandedMotion stamp now ∧ healthy separation options
        (lastHealthy separation options calls) value commandedMotion = true
  releases : ∀ call, (MountRecoveryMonitor.run separation options calls).expectedTracking = true →
    (MountRecoveryMonitor.run separation options (calls ++ [call])).expectedTracking = false →
    call = .intent false

theorem fault_lasts {later : List Call} {reason : String}
    (hfault : (MountRecoveryMonitor.run separation options calls).fault = some reason)
    (hlater : ∀ call ∈ later, call ≠ .reset ∧ ∀ tracking, call ≠ .intent tracking) :
    (MountRecoveryMonitor.run separation options (calls ++ later)).fault = some reason := by
  induction later using List.reverseRecOn with
  | nil => rwa [List.append_nil]
  | append_singleton later call ih =>
    have hearlier := ih fun other hmem => hlater other (List.mem_append_left _ hmem)
    have hcall := hlater call (by simp)
    rw [← List.append_assoc, run_append]
    exact MountRecoveryMonitor.call_fault hearlier hcall.2 hcall.1

theorem fault_iff_due {value : MountObservation} {commandedMotion : Bool} {stamp now : ℚ}
    (htimed : Timed (calls ++ [.observe value commandedMotion stamp now])) :
    (MountRecoveryMonitor.run separation options calls).fault = none ∧
        (MountRecoveryMonitor.run separation options
          (calls ++ [.observe value commandedMotion stamp now])).fault.isSome = true
      ↔ FaultDue separation options calls (.observe value commandedMotion stamp now) now := by
  rw [run_append]
  constructor
  · rintro ⟨hclear, hset⟩
    have hlinked := linked_run hclear
    obtain ⟨hexpected, hsuspicious, hlong⟩ :=
      (MountRecoveryMonitor.observe_fault hclear value commandedMotion stamp now).mp hset
    refine ⟨hexpected, hclear, ?_⟩
    have hsince := hlinked.since
    rw [if_pos hexpected] at hsince
    rw [hlinked.good, watch_good] at hsuspicious
    rw [hsince] at hlong
    have hstart : (watch separation options
        (calls ++ [.observe value commandedMotion stamp now])).since
          = some ((watch separation options calls).since.getD stamp) := by
      rw [watch_append]
      simp only [Watch.see, suspicionStart]
      rw [watch_good, if_pos hsuspicious]
      rfl
    obtain ⟨before, first, rest, hcalls, hstamp, hrun⟩ := run_of_since hstart
    exact ⟨before, first :: rest, hcalls, hrun, first, rfl, by rw [hstamp]; exact hlong⟩
  · rintro ⟨hexpected, hclear, before, run, hcalls, hrun, first, hfirst, hlong⟩
    refine ⟨hclear, ?_⟩
    have hlinked := linked_run hclear
    have hsince := hlinked.since
    rw [if_pos hexpected] at hsince
    cases run with
    | nil => cases hfirst
    | cons head rest =>
      cases hfirst
      obtain ⟨start, hstart, hle⟩ := since_of_run htimed hcalls hrun
      rw [watch_append] at hstart
      simp only [Watch.see, suspicionStart] at hstart
      by_cases hsuspicious : suspicious separation options (watch separation options calls).good
          (.observe value commandedMotion stamp now) = true
      · rw [if_pos hsuspicious] at hstart
        refine (MountRecoveryMonitor.observe_fault hclear value commandedMotion stamp now).mpr
          ⟨hexpected, by rw [hlinked.good]; exact hsuspicious, ?_⟩
        have hsame : (watch separation options calls).since.getD stamp = start :=
          Option.some.inj hstart
        rw [hsince, hsame]
        exact le_trans hlong (sub_le_sub_left hle now)
      · rw [if_neg hsuspicious] at hstart
        cases hstart

theorem call_expects {monitor : MountRecoveryMonitor}
    (hgood : monitor.fault = none → monitor.good.isSome = true → monitor.expectedTracking = true)
    {call : Call} (hbefore : monitor.expectedTracking = false)
    (hafter : (monitor.call separation options call).expectedTracking = true) :
    call = .intent true ∨ ∃ value commandedMotion stamp now,
      call = .observe value commandedMotion stamp now ∧ monitor.fault = none
        ∧ healthy separation options monitor.good value commandedMotion = true := by
  cases call with
  | intent tracking => exact .inl (congrArg Call.intent hafter)
  | reset => exact absurd (hbefore.symm.trans hafter) (by decide)
  | resetPositionBaseline => exact absurd (hbefore.symm.trans hafter) (by decide)
  | observe value commandedMotion stamp now =>
    refine .inr ⟨value, commandedMotion, stamp, now, rfl, ?_⟩
    cases hfault : monitor.fault with
    | some reason =>
      simp [MountRecoveryMonitor.call, MountRecoveryMonitor.observe, hfault, hbefore] at hafter
    | none =>
      refine ⟨rfl, ?_⟩
      have hnone : monitor.good = none := by
        by_contra hsome
        have hexpected := hgood hfault (Option.isSome_iff_ne_none.mpr hsome)
        exact absurd (hbefore.symm.trans hexpected) (by decide)
      simp only [MountRecoveryMonitor.call, MountRecoveryMonitor.observe, hfault, hbefore,
        Option.isSome_none, Bool.false_eq_true, if_false] at hafter
      by_cases hmoving : value.moving commandedMotion = true
      · rw [if_pos hmoving] at hafter
        cases hafter
      · rw [if_neg hmoving] at hafter
        by_cases hwell : (value.connected && value.tracking && value.finite) = true
        · simp only [Bool.and_eq_true] at hwell
          simp [healthy, hmoving, hnone, displaced, hwell]
        · rw [if_neg hwell] at hafter
          cases hafter

theorem call_releases {call : Call} (hbefore : monitor.expectedTracking = true)
    (hafter : (monitor.call separation options call).expectedTracking = false) :
    call = .intent false := by
  cases call with
  | intent tracking => exact congrArg Call.intent hafter
  | reset => exact absurd (hbefore.symm.trans hafter) (by decide)
  | resetPositionBaseline => exact absurd (hbefore.symm.trans hafter) (by decide)
  | observe value commandedMotion stamp now =>
    exfalso
    simp only [MountRecoveryMonitor.call, MountRecoveryMonitor.observe] at hafter
    split at hafter
    · exact absurd (hbefore.symm.trans hafter) (by decide)
    · split at hafter
      · exact absurd (hbefore.symm.trans hafter) (by decide)
      · split at hafter
        · exact absurd (hbefore.symm.trans hafter) (by decide)
        · split at hafter
          · cases hafter
          · exact absurd (hbefore.symm.trans hafter) (by decide)

/-- A fault follows exactly from a lasting run of suspicious observations, and stays. -/
theorem monitor_supervises (separation : MountObservation → MountObservation → ℚ)
    (options : MountRecoveryOptions) (calls : List Call) : Supervised separation options calls where
  faults _ _ _ _ := fault_iff_due
  lasts _ _ := fault_lasts
  expects call hbefore hafter := by
    rw [run_append] at hafter
    have hgood : (MountRecoveryMonitor.run separation options calls).fault = none → _ :=
      fun hfault => (linked_run hfault).expected
    rcases call_expects hgood hbefore hafter with hintent | ⟨value, commandedMotion, stamp, now,
      hcall, hfault, hwell⟩
    · exact .inl hintent
    · refine .inr ⟨value, commandedMotion, stamp, now, hcall, ?_⟩
      rw [← watch_good, ← (linked_run hfault).good]
      exact hwell
  releases call hbefore hafter := by
    rw [run_append] at hafter
    exact call_releases hbefore hafter

end

end Regain.Mount
