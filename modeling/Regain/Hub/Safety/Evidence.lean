import Regain.Hub.Safety.Endpoint
import Regain.Lib.Paced

/-!
# Evidence behind a permission

An endpoint is driven by calls. The readings that still stand are the ones it admitted since its
permission was last withdrawn.
-/

namespace Regain.Hub

open Lib

/-- An admitted observation together with the time at which it was observed. -/
structure Reading where
  observation : Observation
  seen : Nat

def Reading.start (reading : Reading) : Nat :=
  reading.observation.requestStarted

def Reading.isSafe (reading : Reading) : Prop :=
  reading.observation.outcome = .safe

def Phase.retain (phase : Phase) (readings : List Reading) : List Reading :=
  if phase.withdrawn then [] else readings

theorem Phase.retain_of_withdrawn {phase : Phase} {readings : List Reading}
    (hphase : phase.withdrawn = true) : phase.retain readings = [] := by
  simp [retain, hphase]

theorem Phase.retain_of_not_withdrawn {phase : Phase} {readings : List Reading}
    (hphase : phase.withdrawn = false) : phase.retain readings = readings := by
  simp [retain, hphase]

/-- A run of readings that satisfies the recovery thresholds of a policy. -/
structure RecoveryMet (policy : SafetyPolicy) (run : List Reading) : Prop where
  safe : ∀ reading ∈ run, reading.isSafe
  counted : ∃ counted : List Reading,
    counted.Sublist run
      ∧ Spaced (Duration.ofSecsF64 policy.confirmationSeconds) Reading.start counted
      ∧ policy.safeReadingsToSafe.toNat ≤ counted.length
      ∧ ∃ first last, counted.head? = some first ∧ counted.getLast? = some last
        ∧ Duration.ofSecsF64 policy.returnToSafeHoldSeconds
            ≤ last.seen - first.observation.received

namespace Endpoint

inductive Call where
  | observe (observation : Observation) (now : Nat)
  | snapshot (now : Nat)

def Call.now : Call → Nat
  | observe _ now => now
  | snapshot now => now

def apply (endpoint : Endpoint) : Call → Endpoint
  | .observe observation now => (endpoint.observe observation now).2
  | .snapshot now => (endpoint.snapshot now).2

def replay (endpoint : Endpoint) (calls : List Call) : Endpoint :=
  calls.foldl apply endpoint

def standingAfter (endpoint : Endpoint) (readings : List Reading) : Call → List Reading
  | .observe observation now =>
    let current := endpoint.expire now
    let kept := current.phase.retain readings
    if current.rejects observation then kept
    else (current.accept observation now).phase.retain (kept ++ [⟨observation, now⟩])
  | .snapshot now => (endpoint.expire now).phase.retain readings

/-- The readings admitted since the last withdrawal in a sequence of calls. -/
def standing (endpoint : Endpoint) (readings : List Reading) : List Call → List Reading
  | [] => readings
  | call :: calls => (endpoint.apply call).standing (endpoint.standingAfter readings call) calls

/-- The three counters of a safe run, as functions of the readings counted in it. -/
structure Counts (safeCount : Nat) (runStart countedSafe : Option Nat)
    (counted : List Reading) : Prop where
  safeCount : safeCount = min counted.length 4294967295
  runStart : runStart = counted.head?.map fun reading => reading.observation.received
  countedSafe : countedSafe = counted.getLast?.map Reading.start

def confirmations (policy : SafetyPolicy) (run : List Reading) : List Reading :=
  paced (Duration.ofSecsF64 policy.confirmationSeconds) Reading.start run

structure Backed (endpoint : Endpoint) (readings : List Reading) : Prop where
  fences : ∀ reading ∈ readings, reading.observation.fence = endpoint.fence
  timed : ∀ reading ∈ readings,
    reading.start ≤ reading.observation.received ∧ reading.observation.received ≤ reading.seen
      ∧ reading.seen ≤ endpoint.lastNow
  counts : ∃ earlier run, readings = earlier ++ run
    ∧ (∀ reading ∈ run, reading.isSafe)
    ∧ Counts endpoint.safeCount endpoint.runStart endpoint.countedSafe
        (confirmations endpoint.policy run)
  cleared : endpoint.phase.withdrawn = true → readings = []
  permitted : endpoint.permits = true → endpoint.phase.withdrawn = false
  clock : endpoint.permits = true → endpoint.clockFault = false
  confirmed : endpoint.permits = true →
    ∃ earlier run later, readings = earlier ++ run ++ later ∧ RecoveryMet endpoint.policy run
  dated : endpoint.permits = true →
    ∃ reading ∈ readings, reading.isSafe ∧ endpoint.lastSafeStart = some reading.start

theorem backed_withdraw (endpoint : Endpoint) {phase : Phase} (reason : String)
    (readings : List Reading) (hphase : phase.withdrawn = true) :
    (endpoint.withdraw phase reason).Backed
      ((endpoint.withdraw phase reason).phase.retain readings) := by
  rw [withdraw_phase, Phase.retain_of_withdrawn hphase]
  exact {
    fences := by simp
    timed := by simp
    counts := ⟨[], [], rfl, by simp, ⟨rfl, rfl, rfl⟩⟩
    cleared := fun _ => rfl
    permitted := fun hpermits => nomatch hpermits
    clock := fun hpermits => nomatch hpermits
    confirmed := fun hpermits => nomatch hpermits
    dated := fun hpermits => nomatch hpermits }

theorem retain_expire (endpoint : Endpoint) (now : Nat) (readings : List Reading) :
    (endpoint.expire now).phase.retain (endpoint.phase.retain readings)
      = (endpoint.expire now).phase.retain readings := by
  cases hphase : endpoint.phase.withdrawn with
  | true => simp [Phase.retain, expire_withdrawn hphase]
  | false => rw [Phase.retain_of_not_withdrawn hphase]

variable {readings : List Reading}

variable {endpoint : Endpoint}

theorem Backed.expire (hbacked : endpoint.Backed readings) (now : Nat) :
    (endpoint.expire now).Backed ((endpoint.expire now).phase.retain readings) := by
  obtain ⟨-, heq⟩ | ⟨-, heq⟩ | ⟨hle, heq, -⟩ := endpoint.expire_cases now
  · rw [heq]
    exact backed_withdraw _ _ _ rfl
  · rw [heq]
    exact backed_withdraw _ _ _ rfl
  · rw [heq]
    dsimp only
    cases hphase : endpoint.phase.withdrawn with
    | true =>
      obtain rfl := hbacked.cleared hphase
      rw [Phase.retain_of_withdrawn hphase]
      exact { hbacked with timed := by simp }
    | false =>
      rw [Phase.retain_of_not_withdrawn hphase]
      refine { hbacked with timed := ?_ }
      intro reading hreading
      obtain ⟨hreceived, hseen, hlast⟩ := hbacked.timed reading hreading
      exact ⟨hreceived, hseen, Nat.le_trans hlast hle⟩

/-- The reading that an admission adds was timely for its endpoint. -/
structure Timely (endpoint : Endpoint) (reading : Reading) : Prop where
  fence : reading.observation.fence = endpoint.fence
  started : reading.start ≤ reading.observation.received
  received : reading.observation.received ≤ reading.seen
  seen : reading.seen = endpoint.lastNow

/-- What a result without a fresh safe reading leaves of an endpoint that stays permitted. -/
structure Interrupts (endpoint endpoint' : Endpoint) : Prop where
  policy : endpoint'.policy = endpoint.policy
  fence : endpoint'.fence = endpoint.fence
  lastNow : endpoint'.lastNow = endpoint.lastNow
  permits : endpoint'.permits = endpoint.permits
  clockFault : endpoint'.clockFault = endpoint.clockFault
  lastSafeStart : endpoint'.lastSafeStart = endpoint.lastSafeStart
  safeCount : endpoint'.safeCount = 0
  runStart : endpoint'.runStart = none
  countedSafe : endpoint'.countedSafe = none
  phase : endpoint.permits = true → endpoint'.phase.withdrawn = false

theorem Backed.interrupt {endpoint endpoint' : Endpoint} {reading : Reading}
    (hbacked : endpoint.Backed readings) (hinterrupts : endpoint.Interrupts endpoint')
    (htimely : endpoint.Timely reading) :
    endpoint'.Backed (endpoint'.phase.retain (readings ++ [reading])) := by
  have hpermits : endpoint'.permits = true → endpoint.permits = true := by
    rw [hinterrupts.permits]
    exact id
  have hcounts : Counts endpoint'.safeCount endpoint'.runStart endpoint'.countedSafe
      (confirmations endpoint'.policy []) := by
    rw [hinterrupts.safeCount, hinterrupts.runStart, hinterrupts.countedSafe]
    exact ⟨rfl, rfl, rfl⟩
  cases hphase : endpoint'.phase.withdrawn with
  | true =>
    have hdenied : endpoint'.permits ≠ true := by
      intro hgranted
      simp [hinterrupts.phase (hpermits hgranted)] at hphase
    rw [Phase.retain_of_withdrawn hphase]
    exact {
      fences := by simp
      timed := by simp
      counts := ⟨[], [], rfl, by simp, hcounts⟩
      cleared := fun _ => rfl
      permitted := fun hgranted => absurd hgranted hdenied
      clock := fun hgranted => absurd hgranted hdenied
      confirmed := fun hgranted => absurd hgranted hdenied
      dated := fun hgranted => absurd hgranted hdenied }
  | false =>
    rw [Phase.retain_of_not_withdrawn hphase]
    exact {
      fences := by
        intro entry hentry
        rw [hinterrupts.fence]
        rcases List.mem_append.mp hentry with hold | hnew
        · exact hbacked.fences entry hold
        · obtain rfl : entry = reading := by simpa using hnew
          exact htimely.fence
      timed := by
        intro entry hentry
        rw [hinterrupts.lastNow]
        rcases List.mem_append.mp hentry with hold | hnew
        · exact hbacked.timed entry hold
        · obtain rfl : entry = reading := by simpa using hnew
          exact ⟨htimely.started, htimely.received, Nat.le_of_eq htimely.seen⟩
      counts := ⟨readings ++ [reading], [], by simp, by simp, hcounts⟩
      cleared := fun hwithdrawn => by simp [hwithdrawn] at hphase
      permitted := fun _ => hphase
      clock := by
        rw [hinterrupts.clockFault]
        exact fun hgranted => hbacked.clock (hpermits hgranted)
      confirmed := by
        intro hgranted
        rw [hinterrupts.policy]
        obtain ⟨earlier, run, later, rfl, hmet⟩ := hbacked.confirmed (hpermits hgranted)
        exact ⟨earlier, run, later ++ [reading], by simp, hmet⟩
      dated := by
        intro hgranted
        rw [hinterrupts.lastSafeStart]
        obtain ⟨entry, hentry, hsafe, hstart⟩ := hbacked.dated (hpermits hgranted)
        exact ⟨entry, List.mem_append_left _ hentry, hsafe, hstart⟩ }

theorem observeFailure_cases (endpoint : Endpoint) (outcome : Outcome) (start : Nat) :
    (∃ base reason, endpoint.observeFailure outcome start = withdraw base .unsafe_ reason)
      ∨ endpoint.Interrupts (endpoint.observeFailure outcome start) := by
  have hfailed : endpoint.permits = true →
      endpoint.resetRecovery.failedPhase.withdrawn = false := by
    intro hgranted
    have hreset : endpoint.resetRecovery.permits = true := hgranted
    simp only [failedPhase, hreset, if_true]
    split <;> rfl
  simp only [observeFailure, countFailure]
  split
  · split
    · split
      · exact .inl ⟨_, _, rfl⟩
      · exact .inr ⟨rfl, rfl, rfl, rfl, rfl, rfl, rfl, rfl, rfl, hfailed⟩
    · exact .inr ⟨rfl, rfl, rfl, rfl, rfl, rfl, rfl, rfl, rfl, hfailed⟩
  · exact .inr ⟨rfl, rfl, rfl, rfl, rfl, rfl, rfl, rfl, rfl, hfailed⟩

theorem observeUnsafe_cases (endpoint : Endpoint) (start : Nat) :
    (∃ base reason, endpoint.observeUnsafe start = withdraw base .unsafe_ reason)
      ∨ endpoint.Interrupts (endpoint.observeUnsafe start) := by
  simp only [observeUnsafe]
  split
  · exact .inl ⟨_, _, rfl⟩
  · right
    obtain ⟨counted, count, heq⟩ := countUnsafe_eq
      { endpoint with raw := some false, failures := 0, countedFailure := none }.resetRecovery start
    rw [heq]
    exact ⟨rfl, rfl, rfl, rfl, rfl, rfl, rfl, rfl, rfl, fun _ => rfl⟩

section

variable (endpoint : Endpoint) {run : List Reading} (reading : Reading)

private theorem eligible_eq_farEnough
    (hcounts : Counts endpoint.safeCount endpoint.runStart endpoint.countedSafe
      (confirmations endpoint.policy run)) :
    endpoint.eligible endpoint.countedSafe reading.observation.requestStarted
      = farEnough (Duration.ofSecsF64 endpoint.policy.confirmationSeconds) Reading.start
          (confirmations endpoint.policy run) reading := by
  rw [hcounts.countedSafe]
  unfold eligible farEnough
  cases (confirmations endpoint.policy run).getLast? <;> rfl

private theorem confirmations_concat
    (hcounts : Counts endpoint.safeCount endpoint.runStart endpoint.countedSafe
      (confirmations endpoint.policy run)) : confirmations endpoint.policy (run ++ [reading]) =
      if endpoint.eligible endpoint.countedSafe reading.observation.requestStarted then
        confirmations endpoint.policy run ++ [reading] else confirmations endpoint.policy run := by
  rw [eligible_eq_farEnough endpoint reading hcounts]
  exact paced_concat _ _ run reading

theorem countSafe_counts
    (hcounts : Counts endpoint.safeCount endpoint.runStart endpoint.countedSafe
      (confirmations endpoint.policy run)) :
    let counted := endpoint.countSafe reading.observation reading.seen
    Counts counted.safeCount counted.runStart counted.countedSafe
      (confirmations endpoint.policy (run ++ [reading])) := by
  rw [confirmations_concat endpoint reading hcounts]
  unfold countSafe
  split
  · refine ⟨?_, ?_, ?_⟩
    · have hcount := hcounts.safeCount
      simp only [saturatingIncrement, List.length_append, List.length_singleton]
      omega
    · dsimp only
      rw [hcounts.runStart, List.head?_append]
      cases (confirmations endpoint.policy run).head? <;> rfl
    · simp [Reading.start]
  · exact hcounts

theorem countSafe_permits
    (hcounts : Counts endpoint.safeCount endpoint.runStart endpoint.countedSafe
      (confirmations endpoint.policy run)) (hsafe : ∀ entry ∈ run ++ [reading], entry.isSafe)
    (hpermits : (endpoint.countSafe reading.observation reading.seen).permits = true) :
    endpoint.permits = true ∨ RecoveryMet endpoint.policy (run ++ [reading]) := by
  have hconcat := confirmations_concat endpoint reading hcounts
  have hnext := countSafe_counts endpoint reading hcounts
  unfold countSafe at hpermits hnext
  split at hpermits
  · rename_i heligible
    rw [if_pos heligible] at hconcat
    simp only [heligible, if_true] at hnext
    rcases Bool.or_eq_true _ _ ▸ hpermits with hconfirmed | hstill
    · right
      simp only [meetsRecovery, Bool.and_eq_true, decide_eq_true_eq] at hconfirmed
      obtain ⟨hcount, hheld⟩ := hconfirmed
      rw [Option.any_eq_true] at hheld
      obtain ⟨begun, hbegun, hhold⟩ := hheld
      rw [hnext.safeCount] at hcount
      rw [hnext.runStart] at hbegun
      obtain ⟨first, hfirst, rfl⟩ := Option.map_eq_some_iff.mp hbegun
      refine ⟨hsafe, confirmations endpoint.policy (run ++ [reading]),
        paced_sublist _ _ _, paced_spaced _ _ _, by omega, first, reading, hfirst, ?_, ?_⟩
      · rw [hconcat]
        simp
      · simpa using hhold
    · exact .inl hstill
  · exact .inl hpermits

end

theorem Backed.observeSafe {reading : Reading}
    (hbacked : endpoint.Backed readings) (htimely : endpoint.Timely reading)
    (hsafe : reading.isSafe) (hclock : endpoint.clockFault = false) :
    (endpoint.observeSafe reading.observation reading.seen).Backed
      ((endpoint.observeSafe reading.observation reading.seen).phase.retain
        (readings ++ [reading])) := by
  obtain ⟨earlier, run, rfl, hrun, hcounts⟩ := hbacked.counts
  have hsafes : ∀ entry ∈ run ++ [reading], entry.isSafe := by
    intro entry hentry
    rcases List.mem_append.mp hentry with hold | hnew
    · exact hrun entry hold
    · obtain rfl : entry = reading := by simpa using hnew
      exact hsafe
  have hnext := countSafe_counts { endpoint with lastSafeStart := some reading.start } reading
    hcounts
  have hgrants := countSafe_permits { endpoint with lastSafeStart := some reading.start } reading
    hcounts hsafes
  obtain ⟨confirmed, permits, countedSafe, runStart, safeCount, heq⟩ := countSafe_eq
    { endpoint with lastSafeStart := some reading.start } reading.observation reading.seen
  rw [heq] at hnext hgrants
  have hphase : (endpoint.observeSafe reading.observation reading.seen).phase.withdrawn
      = false := by
    simp only [Endpoint.observeSafe]
    split <;> rfl
  rw [Phase.retain_of_not_withdrawn hphase]
  simp only [Endpoint.observeSafe, Reading.start] at heq hphase ⊢
  rw [heq] at hphase ⊢
  exact {
    fences := by
      intro entry hentry
      rcases List.mem_append.mp hentry with hold | hnew
      · exact hbacked.fences entry hold
      · obtain rfl : entry = reading := by simpa using hnew
        exact htimely.fence
    timed := by
      intro entry hentry
      rcases List.mem_append.mp hentry with hold | hnew
      · exact hbacked.timed entry hold
      · obtain rfl : entry = reading := by simpa using hnew
        exact ⟨htimely.started, htimely.received, Nat.le_of_eq htimely.seen⟩
    counts := ⟨earlier, run ++ [reading], by simp, hsafes, hnext⟩
    cleared := fun hwithdrawn => by simp [hwithdrawn] at hphase
    permitted := fun _ => hphase
    clock := fun _ => hclock
    confirmed := by
      intro hpermits
      rcases hgrants hpermits with hstill | hmet
      · obtain ⟨before, met, later, heq, hmet⟩ := hbacked.confirmed hstill
        exact ⟨before, met, later ++ [reading], by simp [heq], hmet⟩
      · exact ⟨earlier, run ++ [reading], [], by simp, hmet⟩
    dated := fun _ => ⟨reading, by simp, hsafe, rfl⟩ }

theorem Backed.accept {observation : Observation} {now : Nat}
    (hbacked : endpoint.Backed readings) (hrejects : endpoint.rejects observation = false)
    (hnow : endpoint.lastNow = now) : (endpoint.accept observation now).Backed
      ((endpoint.accept observation now).phase.retain (readings ++ [⟨observation, now⟩])) := by
  simp only [rejects, Bool.or_eq_false_iff, bne_eq_false_iff_eq, decide_eq_false_iff_not]
    at hrejects
  obtain ⟨⟨hclock, hfence⟩, -⟩ := hrejects
  unfold Endpoint.accept
  dsimp only
  split
  · exact backed_withdraw _ _ _ rfl
  · rename_i htimed
    simp only [mistimed, Bool.or_eq_true, decide_eq_true_eq, not_or, Nat.not_lt] at htimed
    obtain ⟨⟨hstarted, hreceived⟩, -⟩ := htimed
    have htimely : endpoint.Timely ⟨observation, now⟩ :=
      ⟨hfence, hstarted, hreceived, hnow.symm⟩
    have hinterrupted : ∀ {interrupted : Endpoint},
        ((∃ base reason, interrupted = withdraw base .unsafe_ reason)
          ∨ Interrupts endpoint interrupted) →
        (interrupted.expire now).Backed
          ((interrupted.expire now).phase.retain (readings ++ [⟨observation, now⟩])) := by
      intro interrupted hcases
      rw [← retain_expire]
      rcases hcases with ⟨base, reason, rfl⟩ | hinterrupts
      · exact (backed_withdraw _ _ _ rfl).expire now
      · exact (hbacked.interrupt hinterrupts htimely).expire now
    cases houtcome : observation.outcome with
    | fault =>
      dsimp only
      rw [← retain_expire]
      exact (backed_withdraw _ _ _ rfl).expire now
    | attemptFailed =>
      refine hinterrupted ((observeFailure_cases _ _ _).imp id ?_)
      exact fun h => { h with }
    | cycleFailed =>
      refine hinterrupted ((observeFailure_cases _ _ _).imp id ?_)
      exact fun h => { h with }
    | unsafe_ =>
      refine hinterrupted ((observeUnsafe_cases _ _).imp id ?_)
      exact fun h => { h with }
    | safe =>
      dsimp only
      split
      · exact backed_withdraw _ _ _ rfl
      · rw [← retain_expire]
        have hnoted : ({ endpoint with
            sequence := observation.sequence
            lastRequest := some observation.requestStarted }.noteSafe).Backed readings :=
          { hbacked with }
        have hnotedTimely : ({ endpoint with
            sequence := observation.sequence
            lastRequest := some observation.requestStarted }.noteSafe).Timely
              ⟨observation, now⟩ :=
          ⟨hfence, hstarted, hreceived, hnow.symm⟩
        exact (hnoted.observeSafe hnotedTimely houtcome hclock).expire now

theorem Backed.apply (hbacked : endpoint.Backed readings) (call : Call) :
    (endpoint.apply call).Backed (endpoint.standingAfter readings call) := by
  cases call with
  | snapshot now => exact hbacked.expire now
  | observe observation now =>
    simp only [Endpoint.apply, Endpoint.observe, standingAfter]
    have hexpired := hbacked.expire now
    cases hrejects : (endpoint.expire now).rejects observation with
    | true => simpa using hexpired
    | false => simpa using hexpired.accept hrejects (expire_lastNow endpoint now)

theorem Backed.replay (hbacked : endpoint.Backed readings)
    (calls : List Call) : (endpoint.replay calls).Backed (endpoint.standing readings calls) := by
  induction calls generalizing endpoint readings with
  | nil => exact hbacked
  | cons call calls ih => exact ih (hbacked.apply call)

theorem fresh_backed (policy : SafetyPolicy) (fence : Fence)
    (hpolicy : policy.validate = []) (hfence : fence.nonNil = true) :
    (fresh policy fence hpolicy hfence).Backed [] where
  fences := by simp
  timed := by simp
  counts := ⟨[], [], rfl, by simp, ⟨rfl, rfl, rfl⟩⟩
  cleared := fun _ => rfl
  permitted := fun hpermits => nomatch hpermits
  clock := fun hpermits => nomatch hpermits
  confirmed := fun hpermits => nomatch hpermits
  dated := fun hpermits => nomatch hpermits

theorem apply_lastNow (endpoint : Endpoint) (call : Call) :
    (endpoint.apply call).lastNow = call.now := by
  cases call with
  | snapshot now => exact expire_lastNow endpoint now
  | observe observation now =>
    simp only [apply, observe, Call.now]
    split
    · exact expire_lastNow endpoint now
    · have hkeeps := (endpoint.expire now).accept_keeps observation
      rw [expire_lastNow] at hkeeps
      exact hkeeps.lastNow

theorem apply_fence (endpoint : Endpoint) (call : Call) :
    (endpoint.apply call).fence = endpoint.fence := by
  cases call with
  | snapshot now => exact expire_fence endpoint now
  | observe observation now =>
    simp only [apply, observe]
    split
    · exact expire_fence endpoint now
    · have hkeeps := (endpoint.expire now).accept_keeps observation
      rw [expire_lastNow] at hkeeps
      exact hkeeps.fence.trans (expire_fence endpoint now)

theorem apply_policy (endpoint : Endpoint) (call : Call) :
    (endpoint.apply call).policy = endpoint.policy := by
  cases call with
  | snapshot now => exact expire_policy endpoint now
  | observe observation now =>
    simp only [apply, observe]
    split
    · exact expire_policy endpoint now
    · have hkeeps := (endpoint.expire now).accept_keeps observation
      rw [expire_lastNow] at hkeeps
      exact hkeeps.policy.trans (expire_policy endpoint now)

theorem apply_clockFault {call : Call} (hclock : (endpoint.apply call).clockFault = false) :
    endpoint.clockFault = false ∧ endpoint.lastNow ≤ call.now := by
  cases call with
  | snapshot now => exact expire_clockFault_eq_false.mp hclock
  | observe observation now =>
    simp only [apply, observe] at hclock
    split at hclock
    · exact expire_clockFault_eq_false.mp hclock
    · have hkeeps := (endpoint.expire now).accept_keeps observation
      rw [expire_lastNow] at hkeeps
      rw [hkeeps.clockFault] at hclock
      exact expire_clockFault_eq_false.mp hclock

theorem replay_concat (endpoint : Endpoint) (calls : List Call) (call : Call) :
    endpoint.replay (calls ++ [call]) = (endpoint.replay calls).apply call := by
  simp [replay, List.foldl_append]

theorem replay_append (endpoint : Endpoint) (calls calls' : List Call) :
    endpoint.replay (calls ++ calls') = (endpoint.replay calls).replay calls' := by
  simp [replay, List.foldl_append]

theorem replay_fence (endpoint : Endpoint) (calls : List Call) :
    (endpoint.replay calls).fence = endpoint.fence := by
  induction calls generalizing endpoint with
  | nil => rfl
  | cons call calls ih => exact (ih (endpoint.apply call)).trans (endpoint.apply_fence call)

theorem replay_policy (endpoint : Endpoint) (calls : List Call) :
    (endpoint.replay calls).policy = endpoint.policy := by
  induction calls generalizing endpoint with
  | nil => rfl
  | cons call calls ih => exact (ih (endpoint.apply call)).trans (endpoint.apply_policy call)

theorem replay_clock {calls : List Call} (hclock : (endpoint.replay calls).clockFault = false) :
    endpoint.clockFault = false ∧ (∀ call ∈ calls, endpoint.lastNow ≤ call.now)
      ∧ calls.Pairwise fun earlier later => earlier.now ≤ later.now := by
  induction calls generalizing endpoint with
  | nil => exact ⟨hclock, by simp, List.Pairwise.nil⟩
  | cons call calls ih =>
    have hrest : ((endpoint.apply call).replay calls).clockFault = false := hclock
    obtain ⟨hnext, hafter, hsorted⟩ := ih hrest
    obtain ⟨hhere, hle⟩ := apply_clockFault hnext
    rw [apply_lastNow] at hafter
    refine ⟨hhere, ?_, List.pairwise_cons.mpr ⟨hafter, hsorted⟩⟩
    intro entry hentry
    rcases List.mem_cons.mp hentry with rfl | htail
    · exact hle
    · exact Nat.le_trans hle (hafter entry htail)

/--
The evidence that an endpoint holds at a snapshot.  `calls` are all calls since
its fence was installed, the snapshot included.
-/
structure Evidenced (endpoint installed : Endpoint) (calls : List Call) (now : Nat) : Prop where
  replayed : endpoint = installed.replay calls
  fresh : ∃ reading ∈ installed.standing [] calls,
    reading.isSafe ∧ reading.observation.fence = endpoint.fence ∧ reading.start ≤ now
      ∧ Duration.toSecs (now - reading.start) < endpoint.policy.maximumSafeAgeSeconds.toRat
  clock : calls.Pairwise fun earlier later => earlier.now ≤ later.now
  recovered : ∃ earlier run later,
    installed.standing [] calls = earlier ++ run ++ later ∧ RecoveryMet endpoint.policy run

theorem evidenced_of_permits {installed : Endpoint} {calls : List Call} {now : Nat}
    (hinstalled : installed.Backed [])
    (hpermits : (installed.replay (calls ++ [.snapshot now])).permits = true) :
    (installed.replay (calls ++ [.snapshot now])).Evidenced installed
      (calls ++ [.snapshot now]) now := by
  have hbacked := hinstalled.replay (calls ++ [.snapshot now])
  have hphase := hbacked.permitted hpermits
  obtain ⟨reading, hreading, hsafe, hstart⟩ := hbacked.dated hpermits
  obtain ⟨hstarted, hreceived, hseen⟩ := hbacked.timed reading hreading
  have hlast : (installed.replay (calls ++ [.snapshot now])).lastNow = now := by
    rw [replay_concat, apply_lastNow]
    rfl
  refine ⟨rfl, ⟨reading, hreading, hsafe, hbacked.fences reading hreading, by omega, ?_⟩,
    (replay_clock (hbacked.clock hpermits)).2.2, hbacked.confirmed hpermits⟩
  have hexpire : installed.replay (calls ++ [.snapshot now])
      = (installed.replay calls).expire now :=
    replay_concat installed calls (.snapshot now)
  obtain ⟨-, heq⟩ | ⟨-, heq⟩ | ⟨-, heq, hage⟩ := (installed.replay calls).expire_cases now
  · rw [hexpire, heq] at hphase
    exact nomatch hphase
  · rw [hexpire, heq] at hphase
    exact nomatch hphase
  · rw [hexpire, heq] at hphase hstart ⊢
    exact Duration.toSecs_lt_of_lt_ofSecs (hage hphase reading.start hstart)

end Endpoint

end Regain.Hub
