import Regain.Hub.Parameters

/-!
# Safety endpoint

The state machine that one source drives inside a safety hub.  It counts
confirmed readings, ages the last safe one and decides whether the source
permits a safe aggregate.  Times are nanoseconds on the local clock.
-/

namespace Regain.Hub

open Lib

abbrev Uuid := BitVec 128

instance : LawfulBEq Uuid :=
  inferInstance

def Uuid.isNil (id : Uuid) : Bool :=
  id == 0

structure Fence where
  revision : Uuid
  generation : Uuid
  deriving DecidableEq

def Fence.nonNil (fence : Fence) : Bool :=
  !(Uuid.isNil fence.revision || Uuid.isNil fence.generation)

inductive Outcome where
  | safe
  | unsafe_
  /-- One read attempt failed, but its cycle has not exhausted its attempts. -/
  | attemptFailed
  /-- All attempts in the source's read cycle failed. -/
  | cycleFailed
  /-- Invalid data, configuration errors or a local worker fault. -/
  | fault
  deriving DecidableEq

structure Observation where
  resumeEpoch : Nat
  fence : Fence
  sequence : Nat
  requestStarted : Nat
  received : Nat
  outcome : Outcome

inductive Phase where
  | unknown
  | freshSafe
  | graceSafe
  | pendingUnsafe
  | pendingSafe
  | unsafe_
  | stale
  | faulted
  deriving DecidableEq

def Phase.withdrawn : Phase → Bool
  | unsafe_ => true
  | stale => true
  | faulted => true
  | unknown => false
  | freshSafe => false
  | graceSafe => false
  | pendingUnsafe => false
  | pendingSafe => false

structure Snapshot where
  configurationRevision : Uuid
  generation : Uuid
  phase : Phase
  rawIsSafe : Option Bool
  permitsSafe : Bool
  recoveryConfirmed : Bool
  safeAgeSeconds : Option F64
  failedCycles : Nat
  unsafeReadings : Nat
  safeReadings : Nat
  safeHoldSeconds : F64
  reason : String
  lastSequence : Nat

/-- An endpoint exists only with a valid policy and a fence whose identities are set. -/
structure Endpoint where
  policy : SafetyPolicy
  fence : Fence
  phase : Phase
  raw : Option Bool
  permits : Bool
  confirmed : Bool
  sequence : Nat
  lastNow : Nat
  lastRequest : Option Nat
  lastSafeStart : Option Nat
  runStart : Option Nat
  countedSafe : Option Nat
  countedUnsafe : Option Nat
  countedFailure : Option Nat
  failures : Nat
  unsafeCount : Nat
  safeCount : Nat
  reason : String
  clockFault : Bool
  policyValid : policy.validate = []
  fenceValid : fence.nonNil = true

def saturatingIncrement (count : Nat) : Nat :=
  min (count + 1) 4294967295

namespace Endpoint

def fresh (policy : SafetyPolicy) (fence : Fence)
    (policyValid : policy.validate = []) (fenceValid : fence.nonNil = true) : Endpoint where
  policy := policy
  fence := fence
  phase := .unknown
  raw := none
  permits := false
  confirmed := false
  sequence := 0
  lastNow := 0
  lastRequest := none
  lastSafeStart := none
  runStart := none
  countedSafe := none
  countedUnsafe := none
  countedFailure := none
  failures := 0
  unsafeCount := 0
  safeCount := 0
  reason := "Waiting for a valid safe observation"
  clockFault := false
  policyValid := policyValid
  fenceValid := fenceValid

def new (policy : SafetyPolicy) (fence : Fence) : Except (List FieldError) Endpoint :=
  if hpolicy : policy.validate = [] then
    if hfence : fence.nonNil = true then
      .ok (fresh policy fence hpolicy hfence)
    else
      .error [{
        path := "fence"
        code := "identity"
        message := "Safety observations require non-nil revision and generation IDs" }]
  else
    .error policy.validate

def resetRecovery (endpoint : Endpoint) : Endpoint :=
  { endpoint with safeCount := 0, runStart := none, countedSafe := none, confirmed := false }

def withdraw (endpoint : Endpoint) (phase : Phase) (reason : String) : Endpoint :=
  { endpoint.resetRecovery with permits := false, phase := phase, reason := reason }

def ageLimit (endpoint : Endpoint) : Nat :=
  Duration.ofSecsF64 endpoint.policy.maximumSafeAgeSeconds

/-- Whether a reading started late enough after the last counted one to count itself. -/
def eligible (endpoint : Endpoint) (last : Option Nat) (start : Nat) : Bool :=
  last.all fun last => decide (Duration.ofSecsF64 endpoint.policy.confirmationSeconds ≤ start - last)

def checkClock (endpoint : Endpoint) (now : Nat) : Endpoint :=
  let checked :=
    if now < endpoint.lastNow then
      { endpoint with clockFault := true }.withdraw .faulted
        "Clock discontinuity; reconnect to establish a new generation"
    else endpoint
  { checked with lastNow := now }

def checkAge (endpoint : Endpoint) (now : Nat) : Endpoint :=
  if endpoint.lastSafeStart.any (fun start => decide (endpoint.ageLimit ≤ now - start))
      && !endpoint.phase.withdrawn then
    endpoint.withdraw .stale "Last safe request exceeded its maximum age"
  else endpoint

def expire (endpoint : Endpoint) (now : Nat) : Endpoint :=
  (endpoint.checkClock now).checkAge now

/-- Replayed observations and those of another generation are not admitted. -/
def rejects (endpoint : Endpoint) (observation : Observation) : Bool :=
  endpoint.clockFault || observation.fence != endpoint.fence
    || decide (observation.sequence ≤ endpoint.sequence)

def mistimed (endpoint : Endpoint) (observation : Observation) (now : Nat) : Bool :=
  decide (observation.received < observation.requestStarted)
    || decide (now < observation.received)
    || endpoint.lastRequest.any fun previous => decide (observation.requestStarted < previous)

/-- A failed read during established permission keeps it in a grace phase. -/
def failedPhase (endpoint : Endpoint) : Phase :=
  if endpoint.permits then
    if 0 < endpoint.unsafeCount then .pendingUnsafe else .graceSafe
  else if endpoint.phase = .pendingSafe then .unknown
  else endpoint.phase

def failedReason (endpoint : Endpoint) : String :=
  if endpoint.phase = .unsafe_
      ∧ endpoint.policy.unsafeReadingsToUnsafe.toNat ≤ endpoint.unsafeCount then
    "Confirmed upstream unsafe; communication also failed"
  else "Source communication failed"

def countFailure (endpoint : Endpoint) (start : Nat) : Endpoint :=
  if endpoint.eligible endpoint.countedFailure start then
    let counted := { endpoint with
      countedFailure := some start
      failures := saturatingIncrement endpoint.failures }
    if counted.policy.failedCyclesToUnsafe.toNat ≤ counted.failures then
      counted.withdraw .unsafe_ "Failed check threshold reached"
    else counted
  else endpoint

def observeFailure (endpoint : Endpoint) (outcome : Outcome) (start : Nat) : Endpoint :=
  let reset := endpoint.resetRecovery
  let phased := { reset with phase := reset.failedPhase }
  let failed := { phased with reason := phased.failedReason }
  if outcome = .cycleFailed then failed.countFailure start else failed

def countUnsafe (endpoint : Endpoint) (start : Nat) : Endpoint :=
  if endpoint.eligible endpoint.countedUnsafe start then
    { endpoint with
      countedUnsafe := some start
      unsafeCount := saturatingIncrement endpoint.unsafeCount }
  else endpoint

def observeUnsafe (endpoint : Endpoint) (start : Nat) : Endpoint :=
  let noted := { endpoint with raw := some false, failures := 0, countedFailure := none }
  let counted := noted.resetRecovery.countUnsafe start
  if counted.policy.unsafeReadingsToUnsafe.toNat ≤ counted.unsafeCount then
    counted.withdraw .unsafe_ "Upstream reports unsafe; confirmation threshold reached"
  else
    { counted with
      phase := .pendingUnsafe
      reason := "Upstream reports unsafe; prior safe age still applies" }

/-- Whether the counted safe run meets the reading count and the recovery hold. -/
def meetsRecovery (endpoint : Endpoint) (now : Nat) : Bool :=
  decide (endpoint.policy.safeReadingsToSafe.toNat ≤ endpoint.safeCount)
    && endpoint.runStart.any fun begun =>
      decide (Duration.ofSecsF64 endpoint.policy.returnToSafeHoldSeconds ≤ now - begun)

def countSafe (endpoint : Endpoint) (observation : Observation) (now : Nat) : Endpoint :=
  if endpoint.eligible endpoint.countedSafe observation.requestStarted then
    let counted := { endpoint with
      countedSafe := some observation.requestStarted
      runStart := some (endpoint.runStart.getD observation.received)
      safeCount := saturatingIncrement endpoint.safeCount }
    let confirmed := counted.meetsRecovery now
    { counted with confirmed := confirmed, permits := confirmed || counted.permits }
  else endpoint

/-- What every timely safe response clears, whether or not it is still fresh. -/
def noteSafe (endpoint : Endpoint) : Endpoint :=
  { endpoint with
    raw := some true
    failures := 0
    countedFailure := none
    unsafeCount := 0
    countedUnsafe := none }

def observeSafe (endpoint : Endpoint) (observation : Observation) (now : Nat) : Endpoint :=
  let dated := { endpoint with lastSafeStart := some observation.requestStarted }
  let counted := dated.countSafe observation now
  { counted with
    phase := if counted.permits then .freshSafe else .pendingSafe
    reason :=
      if counted.permits then "Fresh safe observation"
      else "Waiting for safe reading count and recovery hold" }

def accept (endpoint : Endpoint) (observation : Observation) (now : Nat) : Endpoint :=
  let sequenced := { endpoint with sequence := observation.sequence }
  let start := observation.requestStarted
  if sequenced.mistimed observation now then
    sequenced.withdraw .faulted "Invalid observation timestamps"
  else
    let requested := { sequenced with lastRequest := some start }
    match observation.outcome with
    | .fault =>
      (requested.withdraw .faulted "Source returned invalid data or a permanent error").expire now
    | .attemptFailed => (requested.observeFailure .attemptFailed start).expire now
    | .cycleFailed => (requested.observeFailure .cycleFailed start).expire now
    | .unsafe_ => (requested.observeUnsafe start).expire now
    | .safe =>
      let noted := requested.noteSafe
      if noted.ageLimit ≤ now - start then
        noted.withdraw .stale "Safe response was already expired on receipt"
      else (noted.observeSafe observation now).expire now

def observe (endpoint : Endpoint) (observation : Observation) (now : Nat) : Bool × Endpoint :=
  let current := endpoint.expire now
  if current.rejects observation then (false, current)
  else (true, current.accept observation now)

def snapshotOf (endpoint : Endpoint) (now : Nat) : Snapshot where
  configurationRevision := endpoint.fence.revision
  generation := endpoint.fence.generation
  phase := endpoint.phase
  rawIsSafe := endpoint.raw
  permitsSafe := endpoint.permits
  recoveryConfirmed := endpoint.permits && endpoint.confirmed
  safeAgeSeconds := endpoint.lastSafeStart.map fun start => Duration.asSecsF64 (now - start)
  failedCycles := endpoint.failures
  unsafeReadings := endpoint.unsafeCount
  safeReadings := endpoint.safeCount
  safeHoldSeconds := endpoint.runStart.elim 0.0 fun begun => Duration.asSecsF64 (now - begun)
  reason := endpoint.reason
  lastSequence := endpoint.sequence

def snapshot (endpoint : Endpoint) (now : Nat) : Snapshot × Endpoint :=
  let current := endpoint.expire now
  (current.snapshotOf now, current)

@[simp] theorem withdraw_phase (endpoint : Endpoint) (phase : Phase) (reason : String) :
    (endpoint.withdraw phase reason).phase = phase :=
  rfl

theorem expire_cases (endpoint : Endpoint) (now : Nat) :
    (now < endpoint.lastNow ∧ endpoint.expire now =
      { endpoint with clockFault := true, lastNow := now }.withdraw .faulted
        "Clock discontinuity; reconnect to establish a new generation")
    ∨ (endpoint.lastNow ≤ now ∧ endpoint.expire now =
      { endpoint with lastNow := now }.withdraw .stale
        "Last safe request exceeded its maximum age")
    ∨ (endpoint.lastNow ≤ now ∧ endpoint.expire now = { endpoint with lastNow := now }
      ∧ (endpoint.phase.withdrawn = false →
          ∀ start, endpoint.lastSafeStart = some start → now - start < endpoint.ageLimit)) := by
  by_cases hclock : now < endpoint.lastNow
  · left
    refine ⟨hclock, ?_⟩
    simp [expire, checkClock, checkAge, hclock, Phase.withdrawn, withdraw, resetRecovery]
  · right
    have hle : endpoint.lastNow ≤ now := by omega
    have hcheck : endpoint.checkClock now = { endpoint with lastNow := now } := by
      simp [checkClock, hclock]
    by_cases hage : endpoint.lastSafeStart.any
        (fun start => decide (endpoint.ageLimit ≤ now - start)) && !endpoint.phase.withdrawn
    · left
      refine ⟨hle, ?_⟩
      simp only [expire, hcheck, checkAge]
      exact if_pos hage
    · right
      refine ⟨hle, ?_, ?_⟩
      · simp only [expire, hcheck, checkAge]
        exact if_neg hage
      · intro hphase start hstart
        simpa [hphase, hstart] using hage

theorem expire_withdrawn {endpoint : Endpoint} {now : Nat}
    (hphase : endpoint.phase.withdrawn = true) : (endpoint.expire now).phase.withdrawn = true := by
  obtain ⟨-, heq⟩ | ⟨-, heq⟩ | ⟨-, heq, -⟩ := endpoint.expire_cases now
  · rw [heq]
    rfl
  · rw [heq]
    rfl
  · rw [heq]
    exact hphase

@[simp] theorem expire_lastNow (endpoint : Endpoint) (now : Nat) :
    (endpoint.expire now).lastNow = now := by
  obtain ⟨-, heq⟩ | ⟨-, heq⟩ | ⟨-, heq, -⟩ := endpoint.expire_cases now <;> rw [heq] <;> rfl

@[simp] theorem expire_fence (endpoint : Endpoint) (now : Nat) :
    (endpoint.expire now).fence = endpoint.fence := by
  obtain ⟨-, heq⟩ | ⟨-, heq⟩ | ⟨-, heq, -⟩ := endpoint.expire_cases now <;> rw [heq] <;> rfl

@[simp] theorem expire_policy (endpoint : Endpoint) (now : Nat) :
    (endpoint.expire now).policy = endpoint.policy := by
  obtain ⟨-, heq⟩ | ⟨-, heq⟩ | ⟨-, heq, -⟩ := endpoint.expire_cases now <;> rw [heq] <;> rfl

@[simp] theorem expire_sequence (endpoint : Endpoint) (now : Nat) :
    (endpoint.expire now).sequence = endpoint.sequence := by
  obtain ⟨-, heq⟩ | ⟨-, heq⟩ | ⟨-, heq, -⟩ := endpoint.expire_cases now <;> rw [heq] <;> rfl

theorem expire_clockFault_eq_false {endpoint : Endpoint} {now : Nat} :
    (endpoint.expire now).clockFault = false
      ↔ endpoint.clockFault = false ∧ endpoint.lastNow ≤ now := by
  obtain ⟨hlt, heq⟩ | ⟨hle, heq⟩ | ⟨hle, heq, -⟩ := endpoint.expire_cases now
  · rw [heq]
    simp [withdraw, resetRecovery, hlt]
  · rw [heq]
    simp [withdraw, resetRecovery, hle]
  · rw [heq]
    simp [hle]

/-- The parts of an endpoint that the outcome of a reading does not change. -/
structure Keeps (endpoint endpoint' : Endpoint) : Prop where
  policy : endpoint'.policy = endpoint.policy
  fence : endpoint'.fence = endpoint.fence
  sequence : endpoint'.sequence = endpoint.sequence
  lastNow : endpoint'.lastNow = endpoint.lastNow
  clockFault : endpoint'.clockFault = endpoint.clockFault

theorem countFailure_keeps (endpoint : Endpoint) (start : Nat) :
    endpoint.Keeps (endpoint.countFailure start) := by
  unfold countFailure
  split
  · dsimp only
    split <;> exact ⟨rfl, rfl, rfl, rfl, rfl⟩
  · exact ⟨rfl, rfl, rfl, rfl, rfl⟩

theorem observeFailure_keeps (endpoint : Endpoint) (outcome : Outcome) (start : Nat) :
    endpoint.Keeps (endpoint.observeFailure outcome start) := by
  simp only [observeFailure]
  split
  · obtain ⟨hpolicy, hfence, hsequence, hlast, hclock⟩ := countFailure_keeps _ start
    exact ⟨hpolicy, hfence, hsequence, hlast, hclock⟩
  · exact ⟨rfl, rfl, rfl, rfl, rfl⟩

theorem countUnsafe_eq (endpoint : Endpoint) (start : Nat) :
    ∃ counted count, endpoint.countUnsafe start
      = { endpoint with countedUnsafe := counted, unsafeCount := count } := by
  unfold countUnsafe
  split
  · exact ⟨_, _, rfl⟩
  · exact ⟨endpoint.countedUnsafe, endpoint.unsafeCount, rfl⟩

theorem observeUnsafe_keeps (endpoint : Endpoint) (start : Nat) :
    endpoint.Keeps (endpoint.observeUnsafe start) := by
  obtain ⟨counted, count, heq⟩ := countUnsafe_eq
    { endpoint with raw := some false, failures := 0, countedFailure := none }.resetRecovery start
  simp only [observeUnsafe]
  rw [heq]
  split <;> exact ⟨rfl, rfl, rfl, rfl, rfl⟩

theorem countSafe_eq (endpoint : Endpoint) (observation : Observation) (now : Nat) :
    ∃ confirmed permits countedSafe runStart safeCount,
      endpoint.countSafe observation now = { endpoint with
        confirmed := confirmed
        permits := permits
        countedSafe := countedSafe
        runStart := runStart
        safeCount := safeCount } := by
  unfold countSafe
  split
  · exact ⟨_, _, _, _, _, rfl⟩
  · exact ⟨endpoint.confirmed, endpoint.permits, endpoint.countedSafe, endpoint.runStart,
      endpoint.safeCount, rfl⟩

theorem observeSafe_keeps (endpoint : Endpoint) (observation : Observation) (now : Nat) :
    endpoint.Keeps (endpoint.observeSafe observation now) := by
  obtain ⟨confirmed, permits, countedSafe, runStart, safeCount, heq⟩ := countSafe_eq
    { endpoint with lastSafeStart := some observation.requestStarted } observation now
  simp only [observeSafe]
  rw [heq]
  exact ⟨rfl, rfl, rfl, rfl, rfl⟩

theorem Keeps.expire {endpoint endpoint' : Endpoint} (hkeeps : endpoint.Keeps endpoint') :
    endpoint.Keeps (endpoint'.expire endpoint.lastNow) where
  policy := by rw [expire_policy, hkeeps.policy]
  fence := by rw [expire_fence, hkeeps.fence]
  sequence := by rw [expire_sequence, hkeeps.sequence]
  lastNow := expire_lastNow _ _
  clockFault := by
    have hiff : (endpoint'.expire endpoint.lastNow).clockFault = false
        ↔ endpoint'.clockFault = false ∧ endpoint'.lastNow ≤ endpoint.lastNow :=
      expire_clockFault_eq_false
    rw [hkeeps.clockFault, hkeeps.lastNow] at hiff
    cases hfault : endpoint.clockFault <;> simp_all

theorem accept_keeps (endpoint : Endpoint) (observation : Observation) :
    { endpoint with sequence := observation.sequence }.Keeps
      (endpoint.accept observation endpoint.lastNow) := by
  unfold accept
  dsimp only
  split
  · exact ⟨rfl, rfl, rfl, rfl, rfl⟩
  · split
    · exact Keeps.expire ⟨rfl, rfl, rfl, rfl, rfl⟩
    · obtain ⟨hpolicy, hfence, hsequence, hlast, hclock⟩ := observeFailure_keeps
        { endpoint with
          sequence := observation.sequence
          lastRequest := some observation.requestStarted } .attemptFailed
        observation.requestStarted
      exact Keeps.expire ⟨hpolicy, hfence, hsequence, hlast, hclock⟩
    · obtain ⟨hpolicy, hfence, hsequence, hlast, hclock⟩ := observeFailure_keeps
        { endpoint with
          sequence := observation.sequence
          lastRequest := some observation.requestStarted } .cycleFailed
        observation.requestStarted
      exact Keeps.expire ⟨hpolicy, hfence, hsequence, hlast, hclock⟩
    · obtain ⟨hpolicy, hfence, hsequence, hlast, hclock⟩ := observeUnsafe_keeps
        { endpoint with
          sequence := observation.sequence
          lastRequest := some observation.requestStarted } observation.requestStarted
      exact Keeps.expire ⟨hpolicy, hfence, hsequence, hlast, hclock⟩
    · split
      · exact ⟨rfl, rfl, rfl, rfl, rfl⟩
      · obtain ⟨hpolicy, hfence, hsequence, hlast, hclock⟩ := observeSafe_keeps
          { endpoint with
            sequence := observation.sequence
            lastRequest := some observation.requestStarted }.noteSafe observation
          endpoint.lastNow
        exact Keeps.expire ⟨hpolicy, hfence, hsequence, hlast, hclock⟩

end Endpoint

end Regain.Hub
