import Mathlib.Algebra.Order.Field.Power
import Mathlib.Tactic.Linarith
import Mathlib.Tactic.NormNum
import Mathlib.Tactic.Positivity
import Regain.Hub.Source.Schedule

/-!
# Every run of a source keeps its polling schedule

Between two polls nothing but a stray refresh moves a retry deadline to an earlier instant, and a
poll waits for its deadline.
-/

namespace Regain.Hub.Schedule

open Lib

def rounds (failures : Nat) : Nat :=
  min failures 1024

/-! ## Durations and failures -/

theorem fromSecs_some {seconds : ℚ} (hlow : 0 ≤ seconds) (hhigh : seconds ≤ 3600) :
    fromSecs seconds = some seconds := by
  unfold fromSecs
  rw [if_pos ⟨hlow, lt_of_le_of_lt hhigh (by norm_num)⟩]

theorem Failure.noLonger_refl (failure : Failure) : failure.noLonger failure = true := by
  unfold noLonger
  cases failure.retryAfter <;> simp

theorem Failure.noLonger_trans {first second third : Failure}
    (hfirst : first.noLonger second = true) (hsecond : second.noLonger third = true) :
    first.noLonger third = true := by
  unfold noLonger at *
  cases h1 : first.retryAfter with
  | none => rfl
  | some pause =>
    cases h2 : second.retryAfter with
    | none => simp [h1, h2] at hfirst
    | some other =>
      cases h3 : third.retryAfter with
      | none => simp [h2, h3] at hsecond
      | some last =>
        simp only [h1, h2, h3, Option.all_some, Option.any_some, decide_eq_true_eq]
          at hfirst hsecond ⊢
        exact le_trans hfirst hsecond

theorem Failure.noLonger_total {first second : Failure} (h : ¬first.noLonger second = true) :
    second.noLonger first = true := by
  unfold noLonger at *
  cases h1 : first.retryAfter with
  | none => simp [h1] at h
  | some pause =>
    cases h2 : second.retryAfter with
    | none => rfl
    | some other =>
      simp only [h1, h2, Option.all_some, Option.any_some, decide_eq_true_eq, not_le] at h ⊢
      exact le_of_lt h

theorem longest_eq_none {failures : List Failure} : longest failures = none ↔ failures = [] := by
  cases failures with
  | nil => simp [longest]
  | cons failure failures =>
    simp only [longest, reduceCtorEq, iff_false]
    cases longest failures with
    | none => simp
    | some other =>
      dsimp only
      split <;> simp

theorem longest_isSome {failures : List Failure} :
    (longest failures).isSome = true ↔ failures ≠ [] := by
  rw [← not_iff_not, not_not, ← longest_eq_none]
  simp

theorem noLonger_longest {failures : List Failure} {chosen : Failure}
    (hchosen : longest failures = some chosen) {failure : Failure} (hmem : failure ∈ failures) :
    failure.noLonger chosen = true := by
  induction failures generalizing chosen with
  | nil => cases hmem
  | cons first rest ih =>
    rw [longest] at hchosen
    cases hrest : longest rest with
    | none =>
      rw [hrest] at hchosen
      cases hchosen
      rw [longest_eq_none.mp hrest] at hmem
      rw [List.mem_singleton.mp hmem]
      exact first.noLonger_refl
    | some other =>
      rw [hrest] at hchosen
      dsimp only at hchosen
      by_cases hlonger : first.noLonger other = true
      · rw [if_pos hlonger] at hchosen
        cases hchosen
        rcases List.mem_cons.mp hmem with hfirst | hlater
        · rw [hfirst]
          exact hlonger
        · exact ih hrest hlater
      · rw [if_neg hlonger] at hchosen
        cases hchosen
        rcases List.mem_cons.mp hmem with hfirst | hlater
        · rw [hfirst]
          exact first.noLonger_refl
        · exact Failure.noLonger_trans (ih hrest hlater) (Failure.noLonger_total hlonger)

theorem pause_le_longest {result : Sampled} {chosen : Failure}
    (hchosen : longest (retryable result) = some chosen) {pause : ℚ}
    (hpause : pause ∈ pauses result) : pause ≤ chosen.retryAfter.getD 0 := by
  obtain ⟨failure, hmem, hasked⟩ := List.mem_filterMap.mp hpause
  have hlonger := noLonger_longest hchosen hmem
  unfold Failure.noLonger at hlonger
  rw [hasked] at hlonger
  cases hother : chosen.retryAfter with
  | none => simp [hother] at hlonger
  | some other => simpa [hother] using hlonger

namespace State

/-! ## Delays -/

theorem capped_range (policy : Policy) (failures : Nat) :
    0 ≤ capped policy failures ∧ capped policy failures ≤ 3600 := by
  have hinitial := policy.initial_range.1
  have hmultiplier := policy.multiplier_range.1
  have hcap := policy.cap_range
  constructor
  · apply le_min
    · apply mul_nonneg
      · linarith
      · apply pow_nonneg
        linarith
    · linarith
  · exact le_trans (min_le_right _ _) hcap.2

theorem capped_mono (policy : Policy) {fewer more : Nat} (h : fewer ≤ more) :
    capped policy fewer ≤ capped policy more := by
  have hinitial := policy.initial_range.1
  have hmultiplier := policy.multiplier_range.1
  apply min_le_min_right
  apply mul_le_mul_of_nonneg_left
  · exact pow_le_pow_right₀ hmultiplier (by omega)
  · linarith

theorem backoff_some (policy : Policy) (failures : Nat) (jitter : UInt64) :
    ∃ delay, backoff policy failures jitter = some delay
      ∧ halfBackoff policy (rounds failures) ≤ delay ∧ delay ≤ capped policy (rounds failures) := by
  have hrange := capped_range policy (rounds failures)
  have hunit : 0 ≤ (jitter.toNat : ℚ) / 18446744073709551615
      ∧ (jitter.toNat : ℚ) / 18446744073709551615 ≤ 1 := by
    constructor
    · positivity
    · rw [div_le_one (by norm_num)]
      have hlt : jitter.toNat ≤ 18446744073709551615 := by
        have h := jitter.toNat_lt
        omega
      exact_mod_cast hlt
  have hlow : halfBackoff policy (rounds failures)
      ≤ capped policy (rounds failures)
        * (1 / 2 + (jitter.toNat : ℚ) / 18446744073709551615 * (1 / 2)) := by
    unfold halfBackoff
    rw [mul_comm]
    apply mul_le_mul_of_nonneg_left _ hrange.1
    linarith [hunit.1]
  have hhigh : capped policy (rounds failures)
      * (1 / 2 + (jitter.toNat : ℚ) / 18446744073709551615 * (1 / 2))
      ≤ capped policy (rounds failures) := by
    calc capped policy (rounds failures)
          * (1 / 2 + (jitter.toNat : ℚ) / 18446744073709551615 * (1 / 2))
        ≤ capped policy (rounds failures) * 1 := by
          apply mul_le_mul_of_nonneg_left _ hrange.1
          linarith [hunit.2]
      _ = capped policy (rounds failures) := mul_one _
  have hpositive : 0 ≤ halfBackoff policy (rounds failures) := by
    unfold halfBackoff
    linarith [hrange.1]
  refine ⟨_, fromSecs_some ?_ (le_trans hhigh hrange.2), hlow, hhigh⟩
  exact le_trans hpositive hlow

/-- A retry waits for the pause, for half of the backoff and, at the end of a cycle, for the time
between two cycles. -/
theorem retryDelay_some (policy : Policy) (failures : Nat) (failure : Failure) (jitter : UInt64)
    (exhausted : Bool) : ∃ delay, retryDelay policy failures failure jitter exhausted = some delay
      ∧ failure.retryAfter.getD 0 ≤ delay ∧ halfBackoff policy (rounds failures) ≤ delay
      ∧ (exhausted = true → policy.pollSeconds ≤ delay) := by
  obtain ⟨backoff, hbackoff, hhalf, -⟩ := backoff_some policy failures jitter
  have hpoll := policy.poll_range
  have hpause : fromSecs policy.pollSeconds = some policy.pollSeconds :=
    fromSecs_some (by linarith) hpoll.2
  unfold retryDelay
  rw [hbackoff]
  cases exhausted with
  | false =>
    refine ⟨_, rfl, le_max_left _ _, le_trans hhalf (le_max_right _ _), ?_⟩
    simp
  | true =>
    rw [hpause]
    refine ⟨_, rfl, ?_, ?_, fun _ => le_max_right _ _⟩
    · exact le_trans (le_max_left _ _) (le_max_left _ _)
    · exact le_trans (le_trans hhalf (le_max_right _ _)) (le_max_left _ _)

/-- A delay that respects what a retryable result asks for. -/
structure Respects (policy : Policy) (failures : Nat) (result : Sampled) (exhausted : Bool)
    (delay : ℚ) : Prop where
  pauses : ∀ pause ∈ pauses result, pause ≤ delay
  backoff : halfBackoff policy (rounds failures) ≤ delay
  cycle : exhausted = true → policy.pollSeconds ≤ delay

theorem pollDelay_some (policy : Policy) (failures : Nat) (result : Sampled) (jitter : UInt64)
    (exhausted : Bool) : ∃ delay, pollDelay policy failures result jitter exhausted = some delay
      ∧ (retryable result ≠ [] → Respects policy failures result exhausted delay) := by
  have hcap := policy.cap_range
  have hpoll := policy.poll_range
  unfold pollDelay
  cases hlongest : longest (retryable result) with
  | some failure =>
    obtain ⟨delay, hdelay, hpause, hhalf, hcycle⟩ :=
      retryDelay_some policy failures failure jitter exhausted
    refine ⟨delay, hdelay, fun _ => ⟨?_, hhalf, hcycle⟩⟩
    intro pause hmem
    exact le_trans (pause_le_longest hlongest hmem) hpause
  | none =>
    have hnone := longest_eq_none.mp hlongest
    cases result with
    | error failure =>
      refine ⟨_, fromSecs_some (by linarith) hcap.2, ?_⟩
      intro hsome
      exact absurd hnone hsome
    | ok batch =>
      dsimp only
      cases batch.more with
      | true => exact ⟨_, rfl, fun hsome => absurd hnone hsome⟩
      | false =>
        refine ⟨_, fromSecs_some (by linarith) hpoll.2, ?_⟩
        intro hsome
        exact absurd hnone hsome

theorem connectionDelay_some (policy : Policy) (failure : Failure) :
    ∃ delay, connectionDelay policy failure = some delay := by
  have hinitial := policy.initial_range
  have hcap := policy.cap_range
  unfold connectionDelay
  by_cases hconnecting : failure.kind = .connecting
  · rw [if_pos hconnecting]
    exact ⟨_, rfl⟩
  · rw [if_neg hconnecting]
    by_cases hretryable : failure.isRetryable = true
    · rw [if_pos hretryable, fromSecs_some (by linarith) (by linarith)]
      exact ⟨_, rfl⟩
    · rw [if_neg hretryable, fromSecs_some (by linarith) hcap.2]
      exact ⟨_, rfl⟩

end State

/-! ## The observer -/

def view (policy : Policy) (log : List Event) : View :=
  (pacing policy rounds).view fresh log

@[simp] theorem view_emit {host : Host} (policy : Policy) (state : State host) (event : Event) :
    view policy (state.emit event).log = (view policy state.log).observe policy rounds event := by
  simp [view, State.emit, pacing]

def Waits (timer : Timer) (now bound : ℚ) : Prop :=
  bound ≤ now ∨ (timer.retrying = true ∧ ∀ deadline ∈ timer.nextPoll, bound ≤ deadline)

def Past (view : View) (now : ℚ) : Prop :=
  ∀ bound ∈ view.bounds, bound ≤ now

structure Linked (policy : Policy) (timer : Timer) (now : ℚ) (view : View) : Prop where
  below : view.attempts < policy.attemptsPerCycle
  failures : rounds view.failures ≤ timer.backoffFailures
  bounds : ∀ bound ∈ view.bounds, Waits timer now bound

/-- The attempts of a leased source are counted; one without leases has nothing to wait for. -/
structure Placed (session : Session) (timer : Timer) (view : View) : Prop where
  leased : session.leases ≠ ∅ → timer.attempt = view.attempts ∧ session.cleaned = false
  idle : session.leases = ∅ → timer.attempt = 0 ∧ view.bounds = []

structure Sound {host : Host} (policy : Policy) (state : State host) : Prop where
  kept : (pacing policy rounds).Kept fresh state.log
  linked : Linked policy state.timer state.now.seconds (view policy state.log)
  placed : Placed state.session state.timer (view policy state.log)

section

/-! ## Steps of the actor -/

variable {host : Host} {policy : Policy} {state : State host} {timer : Timer} {now : ℚ}
  {seen : View}

theorem Past.mono (h : Past seen now) {later : ℚ} (hle : now ≤ later) : Past seen later :=
  fun bound hmem => le_trans (h bound hmem) hle

theorem Linked.rearm (h : Linked policy timer now seen) (hpast : Past seen now) {other : Timer}
    (hfailures : other.backoffFailures = timer.backoffFailures) : Linked policy other now seen :=
  ⟨h.below, hfailures ▸ h.failures, fun bound hmem => .inl (hpast bound hmem)⟩

theorem Linked.mono (h : Linked policy timer now seen) {later : ℚ} (hle : now ≤ later) :
    Linked policy timer later seen := by
  refine ⟨h.below, h.failures, fun bound hmem => ?_⟩
  rcases h.bounds bound hmem with hpast | hwaits
  · exact .inl (le_trans hpast hle)
  · exact .inr hwaits

theorem Linked.past (h : Linked policy timer now seen)
    (hdue : timer.retrying = true → ∃ deadline, timer.nextPoll = some deadline ∧ deadline ≤ now) :
    Past seen now := by
  intro bound hmem
  rcases h.bounds bound hmem with hpast | ⟨hretrying, hwaits⟩
  · exact hpast
  · obtain ⟨deadline, hdeadline, hle⟩ := hdue hretrying
    exact le_trans (hwaits deadline hdeadline) hle

theorem now_le_read (state : State host) (reading : Instant host) :
    state.now.seconds ≤ (state.read reading).now.seconds := by
  unfold State.read
  split
  · next hle => exact hle
  · exact le_refl _

@[simp] theorem read_timer (state : State host) (reading : Instant host) :
    (state.read reading).timer = state.timer := by
  unfold State.read
  split <;> rfl

@[simp] theorem read_session (state : State host) (reading : Instant host) :
    (state.read reading).session = state.session := by
  unfold State.read
  split <;> rfl

@[simp] theorem read_log (state : State host) (reading : Instant host) :
    (state.read reading).log = state.log := by
  unfold State.read
  split <;> rfl

theorem Sound.read (h : Sound policy state) (reading : Instant host) :
    Sound policy (state.read reading) := by
  refine ⟨?_, ?_, ?_⟩
  · rw [read_log]
    exact h.kept
  · rw [read_log, read_timer]
    exact h.linked.mono (now_le_read state reading)
  · rw [read_log, read_timer, read_session]
    exact h.placed

theorem kept_emit (hkept : (pacing policy rounds).Kept fresh state.log) {event : Event}
    (hallows : (view policy state.log).Allows policy event) :
    (pacing policy rounds).Kept fresh (state.emit event).log :=
  Monitor.kept_append.mpr ⟨hkept, hallows, trivial⟩

theorem Sound.session (h : Sound policy state) {session : Session}
    (hleases : session.leases = state.session.leases)
    (hcleaned : session.cleaned = state.session.cleaned) :
    Sound policy (state.setSession session) := by
  refine ⟨h.kept, h.linked, ?_, ?_⟩
  · intro hsome
    change session.leases ≠ ∅ at hsome
    rw [hleases] at hsome
    exact ⟨(h.placed.leased hsome).1, hcleaned.trans (h.placed.leased hsome).2⟩
  · intro hnone
    change session.leases = ∅ at hnone
    rw [hleases] at hnone
    exact h.placed.idle hnone

theorem Sound.rearm (h : Sound policy state) (hpast : Past (view policy state.log) state.now.seconds)
    {timer : Timer} (hattempt : timer.attempt = state.timer.attempt)
    (hfailures : timer.backoffFailures = state.timer.backoffFailures) :
    Sound policy (state.setTimer timer) := by
  refine ⟨h.kept, h.linked.rearm hpast hfailures, ?_, ?_⟩
  · intro hsome
    exact ⟨hattempt.trans (h.placed.leased hsome).1, (h.placed.leased hsome).2⟩
  · intro hnone
    exact ⟨hattempt.trans (h.placed.idle hnone).1, (h.placed.idle hnone).2⟩

theorem Sound.pollNow (h : Sound policy state)
    (hpast : Past (view policy state.log) state.now.seconds) : Sound policy state.pollNow :=
  h.rearm hpast rfl rfl

theorem Sound.past (h : Sound policy state) (hretrying : ¬state.timer.retrying = true) :
    Past (view policy state.log) state.now.seconds :=
  h.linked.past fun hretry => absurd hretry hretrying

theorem resume_sound (hkept : (pacing policy rounds).Kept fresh state.log)
    (hlinked : Linked policy state.timer state.now.seconds (view policy state.log))
    (hcleaned : state.session.leases ≠ ∅ → state.session.cleaned = false)
    (hidle : state.session.leases = ∅ → (view policy state.log).bounds = []) (now : Instant host) :
    Sound policy (state.resume now) := by
  have hsound : Sound policy
      ((((state.read now).emit .resumed).setSession
        { (state.read now).session with transportConnected := false }).setTimer
          { (state.read now).timer with attempt := 0 }) := by
    have hview := view_emit policy (state.read now) .resumed
    have hlater := hlinked.mono (now_le_read state now)
    refine ⟨?_, ?_, ?_⟩
    · refine kept_emit ?_ trivial
      rw [read_log]
      exact hkept
    · refine ⟨?_, ?_, ?_⟩
      · change (view policy ((state.read now).emit .resumed).log).attempts < policy.attemptsPerCycle
        rw [hview]
        exact policy.attempts_range.1
      · change rounds (view policy ((state.read now).emit .resumed).log).failures
          ≤ (state.read now).timer.backoffFailures
        rw [hview, read_log, read_timer]
        exact hlater.failures
      · intro bound hmem
        change bound ∈ (view policy ((state.read now).emit .resumed).log).bounds at hmem
        rw [hview, read_log] at hmem
        have hwaits := hlater.bounds bound hmem
        rw [← read_timer state now] at hwaits
        exact hwaits
    · refine ⟨?_, ?_⟩
      · intro hsome
        change (state.read now).session.leases ≠ ∅ at hsome
        rw [read_session] at hsome
        refine ⟨?_, ?_⟩
        · change 0 = (view policy ((state.read now).emit .resumed).log).attempts
          rw [hview]
          rfl
        · change (state.read now).session.cleaned = false
          rw [read_session]
          exact hcleaned hsome
      · intro hnone
        change (state.read now).session.leases = ∅ at hnone
        rw [read_session] at hnone
        refine ⟨rfl, ?_⟩
        change (view policy ((state.read now).emit .resumed).log).bounds = []
        rw [hview, read_log]
        exact hidle hnone
  unfold State.resume
  dsimp only
  split
  · exact hsound
  · next hretrying => exact hsound.pollNow (hsound.past hretrying)

theorem Sound.resume (h : Sound policy state) (now : Instant host) :
    Sound policy (state.resume now) :=
  resume_sound h.kept h.linked (fun hsome => (h.placed.leased hsome).2)
    (fun hnone => (h.placed.idle hnone).2) now

theorem Sound.faultIfLost (h : Sound policy state) (failure : Failure) :
    Sound policy (state.faultIfLost failure) := by
  unfold State.faultIfLost
  split
  · exact h.session rfl rfl
  · exact h

structure Shaken (before after : State host) : Prop where
  now : after.now = before.now
  timer : after.timer = before.timer
  log : after.log = before.log
  leases : after.session.leases = before.session.leases
  cleaned : after.session.cleaned = before.session.cleaned

/-! ## Commands -/

theorem connect_shaken (state : State host) (step : Except Failure Bool) :
    Shaken state (state.connect step).2 := by
  unfold State.connect
  split
  · exact ⟨rfl, rfl, rfl, rfl, rfl⟩
  · split <;> exact ⟨rfl, rfl, rfl, rfl, rfl⟩

theorem Shaken.sound {after : State host} (hshaken : Shaken state after)
    (h : Sound policy state) : Sound policy after := by
  refine ⟨?_, ?_, ?_, ?_⟩
  · rw [hshaken.log]
    exact h.kept
  · rw [hshaken.log, hshaken.timer, hshaken.now]
    exact h.linked
  · rw [hshaken.log, hshaken.timer, hshaken.leases, hshaken.cleaned]
    exact h.placed.leased
  · rw [hshaken.log, hshaken.timer, hshaken.leases]
    exact h.placed.idle

theorem dispatch_shaken (state : State host) (admitted : Bool) (io : CallIo host) :
    Shaken state (state.dispatch admitted io).2 := by
  have hconnect := connect_shaken state io.step
  unfold State.dispatch
  cases hcase : state.connect io.step with
  | mk connection shaken =>
    rw [hcase] at hconnect
    cases admitted with
    | false => exact ⟨rfl, rfl, rfl, rfl, rfl⟩
    | true => cases connection <;> exact hconnect

theorem request_sound (h : Sound policy state) (admitted : Bool) (io : CallIo host) :
    Sound policy (state.request admitted io) := by
  have hdispatch := (dispatch_shaken state admitted io).sound h
  unfold State.request
  split
  · exact h
  · cases hcase : state.dispatch admitted io with
    | mk sent shaken =>
      rw [hcase] at hdispatch
      cases hresult : io.result with
      | error failure =>
        cases sent with
        | false => exact hdispatch
        | true => exact hdispatch.faultIfLost failure
      | ok done => cases sent <;> exact hdispatch

theorem write_sound (h : Sound policy state) (lease : Uuid) (io : CallIo host) :
    Sound policy (state.write lease io) := by
  unfold State.write
  split
  · exact h
  · dsimp only
    generalize hadmitted : (state.authorized lease && !state.session.writeUncertain
      && decide (state.session.controller = some lease)) = admitted
    have hdispatch := (dispatch_shaken state admitted io).sound h
    cases hcase : state.dispatch admitted io with
    | mk sent shaken =>
      rw [hcase] at hdispatch
      cases hresult : io.result with
      | error failure =>
        cases sent with
        | false => exact hdispatch
        | true =>
          dsimp only
          split
          · exact hdispatch.session rfl rfl
          · exact hdispatch.faultIfLost failure
      | ok done =>
        cases sent with
        | false => exact hdispatch
        | true =>
          have hread := hdispatch.read io.now
          dsimp only
          split
          · exact hread
          · next hretrying => exact hread.pollNow (hread.past hretrying)

theorem control_sound (h : Sound policy state) (lease : Uuid) (claim closed unsent : Bool) :
    Sound policy (state.control lease claim closed unsent) := by
  unfold State.control
  split
  · exact h
  · split
    · split
      · exact h
      · exact h.session rfl rfl
    · split
      · exact h.session rfl rfl
      · exact h

theorem disconnect_sound (hkept : (pacing policy rounds).Kept fresh state.log)
    (hlinked : Linked policy state.timer state.now.seconds (view policy state.log))
    (hnone : state.session.leases = ∅) (hcleaned : state.session.cleaned = true →
      state.timer.attempt = 0 ∧ (view policy state.log).bounds = []) :
    Sound policy state.disconnect := by
  unfold State.disconnect
  split
  · next hdone => exact ⟨hkept, hlinked, fun hsome => absurd hnone hsome, fun _ => hcleaned hdone⟩
  · have hview := view_emit policy state .released
    refine ⟨kept_emit hkept trivial, ⟨?_, ?_, ?_⟩, fun hsome => absurd hnone hsome, ?_⟩
    · change (view policy (state.emit .released).log).attempts < policy.attemptsPerCycle
      rw [hview]
      exact hlinked.below
    · change rounds (view policy (state.emit .released).log).failures ≤ 0
      rw [hview]
      exact Nat.min_le_left 0 1024
    · intro bound hbound
      change bound ∈ (view policy (state.emit .released).log).bounds at hbound
      rw [hview] at hbound
      cases hbound
    · intro _
      refine ⟨rfl, ?_⟩
      change (view policy (state.emit .released).log).bounds = []
      rw [hview]
      rfl

theorem remove_sound (h : Sound policy state) (lease : Uuid) :
    Sound policy (state.remove lease) := by
  unfold State.remove
  by_cases hmem : lease ∈ state.session.leases
  · rw [if_pos hmem]
    have hplaced := h.placed.leased (Finset.ne_empty_of_mem hmem)
    dsimp only
    split
    · next hlast =>
        refine disconnect_sound ?_ ?_ hlast ?_
        · exact h.kept
        · exact h.linked
        intro hdone
        exact absurd (hplaced.2.symm.trans hdone) Bool.false_ne_true
    · next hmore => exact ⟨h.kept, h.linked, fun _ => hplaced, fun hnone => absurd hnone hmore⟩
  · rw [if_neg hmem]
    exact h

theorem release_sound (h : Sound policy state) (lease : Uuid) :
    Sound policy (state.release lease) := by
  have hremove := remove_sound h lease
  unfold State.release
  dsimp only
  split
  · exact hremove.session rfl rfl
  · exact hremove

theorem shutdown_sound (h : Sound policy state) : Sound policy state.shutdown := by
  have hdisconnect : Sound policy
      (state.setSession { state.session with leases := ∅ }).disconnect := by
    refine disconnect_sound ?_ ?_ rfl ?_
    · exact h.kept
    · exact h.linked
    intro hdone
    by_cases hnone : state.session.leases = ∅
    · exact h.placed.idle hnone
    · exact absurd ((h.placed.leased hnone).2.symm.trans hdone) Bool.false_ne_true
  exact hdisconnect.session rfl rfl

theorem stray_sound (h : Sound policy state) :
    Sound policy (state.emit .stray) ∧ (view policy (state.emit .stray).log).bounds = [] := by
  have hview := view_emit policy state .stray
  refine ⟨⟨kept_emit h.kept trivial, ⟨?_, ?_, ?_⟩, ?_, ?_⟩, ?_⟩
  · rw [hview]
    exact h.linked.below
  · rw [hview]
    exact h.linked.failures
  · rw [hview]
    intro bound hbound
    cases hbound
  · rw [hview]
    exact h.placed.leased
  · rw [hview]
    intro hnone
    exact ⟨(h.placed.idle hnone).1, rfl⟩
  · rw [hview]
    rfl

theorem afterRefresh_sound (h : Sound policy state) {result : Except Failure Unit}
    (hpast : (∀ failure, result = .error failure → failure.kind ≠ .busy) →
      Past (view policy state.log) state.now.seconds) :
    ∃ after, state.afterRefresh policy result = some after ∧ Sound policy after := by
  have hinitial := policy.initial_range
  cases result with
  | ok done => exact ⟨_, rfl, h.pollNow (hpast fun failure hresult => by cases hresult)⟩
  | error failure =>
    unfold State.afterRefresh
    dsimp only
    by_cases hbusy : failure.kind = .busy
    · rw [if_pos hbusy]
      exact ⟨_, rfl, h⟩
    · rw [if_neg hbusy]
      have hpast := hpast fun other hresult => by
        cases hresult
        exact hbusy
      have hfault := h.faultIfLost failure
      split
      · rw [fromSecs_some (by linarith) (by linarith)]
        refine ⟨_, rfl, ?_⟩
        refine Sound.rearm (Sound.rearm hfault ?_ rfl rfl) ?_ rfl rfl
        all_goals
          unfold State.faultIfLost
          split <;> exact hpast
      · exact ⟨_, rfl, hfault⟩

theorem refresh_sound (h : Sound policy state) (lease : Uuid) (io : RefreshIo host) :
    ∃ after, state.refresh policy lease io = some after ∧ Sound policy after := by
  unfold State.refresh
  by_cases hclosed : io.closed = true
  · rw [if_pos hclosed]
    exact ⟨_, rfl, h⟩
  rw [if_neg hclosed]
  have hasked := h.read io.asked
  generalize state.read io.asked = state at hasked ⊢
  dsimp only
  by_cases hlease : lease ∈ state.session.leases
  · rw [if_pos hlease]
    -- past the check of the deadline no bound lies ahead
    have hpast : ¬(state.timer.retrying && state.timer.nextPoll.all
          (fun deadline => decide (state.now.seconds < deadline))) = true →
        Past (view policy state.log) state.now.seconds := by
      intro hdue
      apply hasked.linked.past
      intro hretrying
      rw [hretrying, Bool.true_and] at hdue
      cases hnext : state.timer.nextPoll with
      | none =>
        rw [hnext] at hdue
        exact absurd rfl hdue
      | some deadline =>
        rw [hnext] at hdue
        exact ⟨deadline, rfl, by simpa using hdue⟩
    have hread := hasked.read io.now
    have hlater : Past (view policy state.log) state.now.seconds →
        Past (view policy (state.read io.now).log) (state.read io.now).now.seconds := by
      intro hpast
      rw [read_log]
      exact hpast.mono (now_le_read state io.now)
    unfold State.refreshable
    rw [if_neg (not_not.mpr hlease)]
    by_cases hwaiting : (state.timer.retrying && state.timer.nextPoll.all
        (fun deadline => decide (state.now.seconds < deadline))) = true
    · rw [if_pos hwaiting]
      apply afterRefresh_sound hread
      intro hbusy
      exact absurd rfl (hbusy _ rfl)
    · rw [if_neg hwaiting]
      split <;> exact afterRefresh_sound hread fun _ => hlater (hpast hwaiting)
  · rw [if_neg hlease]
    obtain ⟨hstray, hnone⟩ := stray_sound hasked
    have hread := hstray.read io.now
    have hpast : Past (view policy ((state.emit .stray).read io.now).log)
        ((state.emit .stray).read io.now).now.seconds := by
      rw [read_log]
      intro bound hbound
      rw [hnone] at hbound
      cases hbound
    split <;> exact afterRefresh_sound hread fun _ => hpast

theorem pollOpened_sound (h : Sound policy state) (hbounds : (view policy state.log).bounds = [])
    (io : AcquireIo host) (connection : Except Failure Unit) :
    ∃ after, state.pollOpened policy io connection = some after ∧ Sound policy after := by
  have hpast : ∀ now, Past (view policy state.log) now := by
    intro now bound hbound
    rw [hbounds] at hbound
    cases hbound
  cases connection with
  | ok done =>
    refine ⟨_, rfl, Sound.rearm (h.read io.now) ?_ rfl rfl⟩
    rw [read_log]
    exact hpast _
  | error failure =>
    obtain ⟨delay, hdelay⟩ := State.connectionDelay_some policy failure
    unfold State.pollOpened
    dsimp only
    rw [hdelay]
    have hretrying : Sound policy (state.setTimer { state.timer with retrying := true }) :=
      h.rearm (hpast _) rfl rfl
    refine ⟨_, rfl, Sound.rearm (hretrying.read io.now) ?_ rfl rfl⟩
    rw [read_log]
    exact hpast _

theorem acquireFirst_sound (hkept : (pacing policy rounds).Kept fresh state.log)
    (hlinked : Linked policy state.timer state.now.seconds (view policy state.log))
    (hattempt : state.timer.attempt = 0) (hbounds : (view policy state.log).bounds = [])
    (hleases : state.session.leases ≠ ∅) (io : AcquireIo host) :
    ∃ after, state.acquireFirst policy io = some after ∧ Sound policy after := by
  have hview := view_emit policy state .acquired
  have hopened : Sound policy
      ((state.emit .acquired).setSession { state.session with cleaned := false }) := by
    refine ⟨kept_emit hkept trivial, ⟨?_, ?_, ?_⟩, ?_, fun hnone => absurd hnone hleases⟩
    · change (view policy (state.emit .acquired).log).attempts < policy.attemptsPerCycle
      rw [hview]
      exact policy.attempts_range.1
    · change rounds (view policy (state.emit .acquired).log).failures ≤ state.timer.backoffFailures
      rw [hview]
      exact hlinked.failures
    · intro bound hbound
      change bound ∈ (view policy (state.emit .acquired).log).bounds at hbound
      rw [hview] at hbound
      exact hlinked.bounds bound hbound
    · intro _
      refine ⟨?_, rfl⟩
      change state.timer.attempt = (view policy (state.emit .acquired).log).attempts
      rw [hview, hattempt]
      rfl
  have hnothing : (view policy (state.emit .acquired).log).bounds = [] := by
    rw [hview]
    exact hbounds
  have hshaken := connect_shaken
    ((state.emit .acquired).setSession { state.session with cleaned := false }) io.step
  have hsound := hshaken.sound hopened
  have hbounds : (view policy (State.connect ((state.emit .acquired).setSession
      { state.session with cleaned := false }) io.step).2.log).bounds = [] := by
    rw [hshaken.log]
    exact hnothing
  exact pollOpened_sound hsound hbounds io _

theorem hold_sound (h : Sound policy state) (lease : Uuid) (io : AcquireIo host) :
    ∃ after, state.hold policy lease io = some after ∧ Sound policy after := by
  have hsome : insert lease state.session.leases ≠ ∅ := Finset.insert_ne_empty _ _
  unfold State.hold
  dsimp only
  split
  · next hfirst =>
      have hempty : state.session.leases = ∅ := by
        have hcard := Finset.card_insert_of_notMem hfirst.1
        rw [← Finset.card_eq_zero]
        omega
      have hidle := h.placed.idle hempty
      refine acquireFirst_sound ?_ ?_ ?_ ?_ ?_ io
      · exact h.kept
      · exact h.linked
      · exact hidle.1
      · exact hidle.2
      · exact hsome
  · next hlater =>
      refine ⟨_, rfl, h.kept, h.linked, ?_, fun hnone => absurd hnone hsome⟩
      intro _
      apply h.placed.leased
      intro hempty
      apply hlater
      simp [hempty]

theorem acquire_sound (h : Sound policy state) (lease : Uuid) (io : AcquireIo host) :
    ∃ after, state.acquire policy lease io = some after ∧ Sound policy after := by
  unfold State.acquire
  by_cases hrefused : (io.closed || lease == 0) = true
  · rw [if_pos hrefused]
    exact ⟨_, rfl, h⟩
  rw [if_neg hrefused]
  obtain ⟨held, hheld, hsound⟩ := hold_sound h lease io
  rw [hheld]
  refine ⟨_, rfl, ?_⟩
  split
  · exact remove_sound hsound lease
  · exact hsound

theorem rounds_countFailures {failures counted : Nat} {result : Sampled}
    (hretryable : retryable result ≠ []) (h : rounds failures ≤ counted) :
    rounds (failures + 1) ≤ rounds (State.countFailures counted result)
      ∧ rounds (failures + 1) ≤ State.countFailures counted result := by
  unfold State.countFailures rounds at *
  rw [if_pos (longest_isSome.mpr hretryable)]
  omega

theorem bounds_le {poll : Polled} {counted failures : Nat} {delay : ℚ}
    (hrounds : rounds failures ≤ rounds counted)
    (h : State.Respects policy counted poll.result poll.cycleExhausted delay) :
    ∀ bound ∈ poll.bounds policy rounds failures, bound ≤ poll.settled + delay := by
  intro bound hmem
  simp only [Polled.bounds, List.mem_map, List.mem_append, List.mem_singleton] at hmem
  obtain ⟨pause, hpause, hbound⟩ := hmem
  have hle : pause ≤ delay := by
    rcases hpause with (hasked | hhalf) | hcycle
    · exact h.pauses pause hasked
    · rw [hhalf]
      apply le_trans _ h.backoff
      unfold halfBackoff
      have hmono := State.capped_mono policy hrounds
      linarith
    · cases hexhausted : poll.cycleExhausted with
      | false =>
        rw [hexhausted] at hcycle
        cases hcycle
      | true =>
        rw [hexhausted, if_pos rfl, List.mem_singleton] at hcycle
        rw [hcycle]
        exact h.cycle hexhausted
  rw [← hbound]
  linarith

theorem waits_checkedAdd {timer : Timer} {settled delay bound : ℚ} (hretrying : timer.retrying = true)
    (hnext : timer.nextPoll = host.checkedAdd settled delay) (hle : bound ≤ settled + delay)
    (now : ℚ) : Waits timer now bound := by
  refine .inr ⟨hretrying, fun deadline hdeadline => ?_⟩
  rw [hnext] at hdeadline
  unfold Host.checkedAdd at hdeadline
  split at hdeadline
  · cases hdeadline
    exact hle
  · cases hdeadline

/-! ## Attempts -/

structure Settled (policy : Policy) (state : State host) (counted : Nat) (result : Sampled)
    (exhausted : Bool) : Prop where
  kept : (pacing policy rounds).Kept fresh state.log
  below : (view policy state.log).attempts < policy.attemptsPerCycle
  behind : rounds (view policy state.log).failures ≤ counted
  failures : state.timer.backoffFailures = State.countFailures counted result
  past : Past (view policy state.log) state.now.seconds
  ends : exhausted = true ↔ retryable result = []
    ∨ (view policy state.log).attempts + 1 = policy.attemptsPerCycle
  attempt : state.timer.attempt
    = if exhausted then 0 else (view policy state.log).attempts + 1
  waits : retryable result ≠ [] → ∃ delay,
    State.Respects policy (State.countFailures counted result) result exhausted delay
      ∧ state.timer.retrying = true
      ∧ state.timer.nextPoll = host.checkedAdd state.now.seconds delay
  leases : state.session.leases ≠ ∅
  cleaned : state.session.cleaned = false

theorem Settled.sound {counted : Nat} {result : Sampled} {exhausted : Bool}
    (h : Settled policy state counted result exhausted) :
    Sound policy (state.emit (.polled ⟨result, exhausted, state.now.seconds⟩)) := by
  have hview := view_emit policy state (.polled ⟨result, exhausted, state.now.seconds⟩)
  have hbelow := h.below
  refine ⟨kept_emit h.kept h.ends, ?_, ?_, fun hnone => absurd hnone h.leases⟩
  · rw [hview]
    by_cases hnone : retryable result = []
    · simp only [View.observe, if_pos hnone]
      refine ⟨policy.attempts_range.1, Nat.zero_le _, ?_⟩
      intro bound hmem
      exact .inl (h.past bound hmem)
    · simp only [View.observe, if_neg hnone]
      obtain ⟨delay, hrespects, hretrying, hnext⟩ := h.waits hnone
      have hrounds := rounds_countFailures hnone h.behind
      refine ⟨?_, ?_, ?_⟩
      · dsimp only
        split
        · exact policy.attempts_range.1
        · next hmore =>
            have hne : (view policy state.log).attempts + 1 ≠ policy.attemptsPerCycle :=
              fun heq => hmore (h.ends.mpr (.inr heq))
            omega
      · change rounds ((view policy state.log).failures + 1) ≤ state.timer.backoffFailures
        rw [h.failures]
        exact hrounds.2
      · intro bound hmem
        rcases List.mem_append.mp hmem with hold | hnew
        · exact .inl (h.past bound hold)
        · exact waits_checkedAdd hretrying hnext (bounds_le hrounds.1 hrespects bound hnew) _
  · intro _
    refine ⟨?_, h.cleaned⟩
    rw [hview]
    change state.timer.attempt = _
    rw [h.attempt]
    by_cases hnone : retryable result = []
    · rw [if_pos (h.ends.mpr (.inl hnone))]
      simp only [View.observe, if_pos hnone]
    · simp only [View.observe, if_neg hnone]

/-- A poll is under way: its attempt is counted, and no bound lies ahead. -/
structure Attempting (policy : Policy) (state : State host) : Prop where
  kept : (pacing policy rounds).Kept fresh state.log
  below : (view policy state.log).attempts < policy.attemptsPerCycle
  failures : rounds (view policy state.log).failures ≤ state.timer.backoffFailures
  past : Past (view policy state.log) state.now.seconds
  attempt : state.timer.attempt = (view policy state.log).attempts + 1
  leases : state.session.leases ≠ ∅
  cleaned : state.session.cleaned = false

theorem settle_sound (h : Attempting policy state) (result : Sampled) (io : PollIo host) :
    ∃ after, state.settle policy result io = some after ∧ Sound policy after := by
  have hbelow := h.below
  have hattempt := h.attempt
  have hsome : (longest (retryable result)).isSome = true ↔ retryable result ≠ [] :=
    longest_isSome
  unfold State.settle
  dsimp only
  generalize hexhausted : (!(longest (retryable result)).isSome
    || decide (policy.attemptsPerCycle ≤ state.timer.attempt)) = exhausted
  obtain ⟨delay, hdelay, hrespects⟩ := State.pollDelay_some policy
    (State.countFailures state.timer.backoffFailures result) result io.jitter exhausted
  rw [hdelay]
  refine ⟨_, rfl, ?_⟩
  have hexhausted_iff : exhausted = true ↔ retryable result = []
      ∨ (view policy state.log).attempts + 1 = policy.attemptsPerCycle := by
    rw [← hexhausted, hattempt]
    by_cases hnone : retryable result = []
    · have hfalse : (longest (retryable result)).isSome = false := by
        rw [hnone]
        rfl
      rw [hfalse]
      simp [hnone]
    · rw [hsome.mpr hnone]
      simp only [Bool.not_true, Bool.false_or, decide_eq_true_eq, hnone, false_or]
      omega
  generalize htimer : Timer.mk (if exhausted = true then 0 else state.timer.attempt)
    (State.countFailures state.timer.backoffFailures result)
    ((longest (retryable result)).isSome || !State.isOk result) state.timer.nextPoll = timer
  have hlog : ((state.setTimer timer).read io.settled).log = state.log := read_log _ _
  have hread : ((state.setTimer timer).read io.settled).timer = timer := read_timer _ _
  have hsession : ((state.setTimer timer).read io.settled).session = state.session :=
    read_session _ _
  have hnow : state.now.seconds ≤ ((state.setTimer timer).read io.settled).now.seconds :=
    now_le_read (state.setTimer timer) io.settled
  generalize (state.setTimer timer).read io.settled = settled at hlog hread hsession hnow ⊢
  have hattempted : settled.timer.attempt
      = if exhausted then 0 else (view policy settled.log).attempts + 1 := by
    rw [hread, ← htimer, hlog, ← hattempt]
  have hretrying : retryable result ≠ [] → settled.timer.retrying = true := by
    intro hne
    rw [hread, ← htimer, hsome.mpr hne]
    rfl
  have hdone : Settled policy (settled.pollAfter delay) state.timer.backoffFailures result
      exhausted := by
    refine ⟨?_, ?_, ?_, ?_, ?_, ?_, hattempted, ?_, ?_, ?_⟩
    · change (pacing policy rounds).Kept fresh settled.log
      rw [hlog]
      exact h.kept
    · change (view policy settled.log).attempts < policy.attemptsPerCycle
      rw [hlog]
      exact hbelow
    · change rounds (view policy settled.log).failures ≤ _
      rw [hlog]
      exact h.failures
    · change settled.timer.backoffFailures = _
      rw [hread, ← htimer]
    · change Past (view policy settled.log) settled.now.seconds
      rw [hlog]
      exact h.past.mono hnow
    · change exhausted = true ↔ _ ∨ (view policy settled.log).attempts + 1 = _
      rw [hlog]
      exact hexhausted_iff
    · intro hne
      exact ⟨delay, hrespects hne, hretrying hne, rfl⟩
    · change settled.session.leases ≠ ∅
      rw [hsession]
      exact h.leases
    · change settled.session.cleaned = false
      rw [hsession]
      exact h.cleaned
  exact hdone.sound

theorem started_sound (h : Sound policy state)
    (hpast : Past (view policy state.log) state.now.seconds) :
    Sound policy (state.emit (.started state.now.seconds))
      ∧ Past (view policy (state.emit (.started state.now.seconds)).log) state.now.seconds := by
  have hview := view_emit policy state (.started state.now.seconds)
  refine ⟨⟨kept_emit h.kept hpast, ?_, ?_⟩, ?_⟩
  · rw [hview]
    exact h.linked
  · rw [hview]
    exact h.placed
  · rw [hview]
    exact hpast

theorem Attempting.resume (h : Attempting policy state) (now : Instant host) :
    Sound policy (state.resume now) := by
  refine resume_sound h.kept ⟨h.below, h.failures, ?_⟩ (fun _ => h.cleaned) ?_ now
  · intro bound hmem
    exact .inl (h.past bound hmem)
  · intro hnone
    exact absurd hnone h.leases

theorem Attempting.faultIfLost (h : Attempting policy state) (failure : Failure) :
    Attempting policy (state.faultIfLost failure) := by
  unfold State.faultIfLost
  split
  · exact { h with }
  · exact h

theorem attemptPoll_sound (h : Sound policy state)
    (hpast : Past (view policy state.log) state.now.seconds) (hleases : state.session.leases ≠ ∅)
    (connection : Except Failure Unit) (io : PollIo host) :
    ∃ after, state.attemptPoll policy connection io = some after ∧ Sound policy after := by
  have hplaced := h.placed.leased hleases
  have hattempting : Attempting policy
      ((state.setTimer { state.timer with attempt := state.timer.attempt + 1 }).emit
        (.attempted (state.timer.attempt + 1))) := by
    have hview := view_emit policy
      (state.setTimer { state.timer with attempt := state.timer.attempt + 1 })
      (.attempted (state.timer.attempt + 1))
    refine ⟨kept_emit h.kept ?_, ?_, ?_, ?_, ?_, hleases, hplaced.2⟩
    · change state.timer.attempt + 1 ≤ policy.attemptsPerCycle
      rw [hplaced.1]
      exact h.linked.below
    · rw [hview]
      exact h.linked.below
    · rw [hview]
      exact h.linked.failures
    · rw [hview]
      exact hpast
    · rw [hview]
      exact congrArg (· + 1) hplaced.1
  unfold State.attemptPoll
  dsimp only
  cases connection with
  | error failure =>
    dsimp only
    split
    · exact ⟨_, rfl, hattempting.resume io.settled⟩
    · exact settle_sound hattempting (.error failure) io
  | ok done =>
    dsimp only
    split
    · exact ⟨_, rfl, hattempting.resume io.settled⟩
    · cases io.sample with
      | error failure => exact settle_sound (hattempting.faultIfLost failure) (.error failure) io
      | ok batch => exact settle_sound hattempting (.ok batch) io

theorem poll_sound (h : Sound policy state)
    (hpast : Past (view policy state.log) state.now.seconds) (hleases : state.session.leases ≠ ∅)
    (io : PollIo host) : ∃ after, state.poll policy io = some after ∧ Sound policy after := by
  obtain ⟨hstarted, hpast⟩ := started_sound h hpast
  have hshaken := connect_shaken (state.emit (.started state.now.seconds)) io.step
  unfold State.poll
  dsimp only
  cases hcase : State.connect (state.emit (.started state.now.seconds)) io.step with
  | mk connection opened =>
    rw [hcase] at hshaken
    have hopened := hshaken.sound hstarted
    have hpast : Past (view policy opened.log) opened.now.seconds := by
      rw [hshaken.log, hshaken.now]
      exact hpast
    have hleases : opened.session.leases ≠ ∅ := by
      rw [hshaken.leases]
      exact hleases
    cases connection with
    | error failure =>
      dsimp only
      split
      · have hroom := (opened.read io.settled).now.room
        have hadd : host.add (opened.read io.settled).now.seconds (1 / 10)
            = some ((opened.read io.settled).now.seconds + 1 / 10) := by
          unfold Host.add
          rw [if_pos hroom]
        rw [hadd]
        refine ⟨_, rfl, Sound.rearm (hopened.read io.settled) ?_ rfl rfl⟩
        rw [read_log]
        exact hpast.mono (now_le_read opened io.settled)
      · exact attemptPoll_sound hopened hpast hleases (.error failure) io
    | ok done => exact attemptPoll_sound hopened hpast hleases (.ok ()) io

theorem pollIfDue_sound (h : Sound policy state) (io : PollIo host) :
    ∃ after, state.pollIfDue policy io = some after ∧ Sound policy after := by
  unfold State.pollIfDue
  by_cases hleases : state.session.leases = ∅
  · rw [if_pos hleases]
    exact ⟨_, rfl, h⟩
  · rw [if_neg hleases]
    cases hnext : state.timer.nextPoll with
    | none => exact ⟨_, rfl, h⟩
    | some due =>
      have hread := h.read io.started
      dsimp only
      split
      · next hdue =>
          apply poll_sound hread
          · apply hread.linked.past
            intro _
            exact ⟨due, by rw [read_timer, hnext], hdue⟩
          · rw [read_session]
            exact hleases
      · exact ⟨_, rfl, hread⟩

theorem command_sound (h : Sound policy state) (command : Command host) :
    ∃ after, state.command policy command = some after ∧ Sound policy after := by
  cases command with
  | acquire lease io => exact acquire_sound h lease io
  | release lease => exact ⟨_, rfl, release_sound h lease⟩
  | control lease claim closed unsent =>
    exact ⟨_, rfl, control_sound h lease claim closed unsent⟩
  | refresh lease io => exact refresh_sound h lease io
  | read lease io => exact ⟨_, rfl, request_sound h _ io⟩
  | cameraImage lease io => exact ⟨_, rfl, request_sound h _ io⟩
  | write lease io => exact ⟨_, rfl, write_sound h lease io⟩

theorem turn_sound (h : Sound policy state) (turn : Turn host) :
    ∃ after, state.turn policy turn = some after ∧ Sound policy after := by
  unfold State.turn
  by_cases hstopped : state.session.stopped = true
  · rw [if_pos hstopped]
    exact ⟨_, rfl, h⟩
  · rw [if_neg hstopped]
    cases turn with
    | resume now => exact ⟨_, rfl, h.resume now⟩
    | poll io => exact pollIfDue_sound h io
    | command stale command =>
      dsimp only
      split
      · exact ⟨_, rfl, h⟩
      · exact command_sound h command
    | shutdown => exact ⟨_, rfl, shutdown_sound h⟩

theorem new_sound (policy : Policy) (now : Instant host) : Sound policy (State.new now) := by
  refine ⟨trivial, ⟨policy.attempts_range.1, Nat.zero_le _, ?_⟩, ?_, fun _ => ⟨rfl, rfl⟩⟩
  · intro bound hmem
    cases hmem
  · intro hsome
    exact absurd rfl hsome

theorem run_sound (h : Sound policy state) (turns : List (Turn host)) :
    ∃ after, turns.foldlM (State.turn policy) state = some after ∧ Sound policy after := by
  induction turns generalizing state with
  | nil => exact ⟨_, rfl, h⟩
  | cons turn turns ih =>
    obtain ⟨next, hnext, hsound⟩ := turn_sound h turn
    rw [List.foldlM_cons, hnext]
    exact ih hsound

end

/-- No run panics, and every run keeps its attempts, its cycles and its retry deadlines. -/
theorem pollingSchedule {host : Host} (policy : Policy) (now : Instant host)
    (turns : List (Turn host)) : ∃ state, State.run policy now turns = some state
      ∧ (pacing policy rounds).Kept fresh state.log := by
  obtain ⟨state, hrun, hsound⟩ := run_sound (new_sound policy now) turns
  exact ⟨state, hrun, hsound.kept⟩

/-! ## A policy that exceeds its limit -/

/-- A multiplier so small that the delay still grows when the count has reached its limit. -/
def slowPolicy : Policy where
  pollSeconds := 1 / 10
  attemptsPerCycle := 1
  initialBackoffSeconds := 1 / 20
  backoffMultiplier := 101 / 100
  backoffCapSeconds := 3600
  poll_range := by norm_num
  attempts_range := by norm_num
  initial_range := by norm_num
  multiplier_range := by norm_num
  cap_range := by norm_num
  initial_le_cap := by norm_num

def longHost : Host :=
  ⟨5000000⟩

def reading (seconds : ℚ) : Instant longHost :=
  ⟨min seconds 4500000, by
    have hle := min_le_right seconds 4500000
    unfold longHost
    linarith⟩

theorem reading_seconds {seconds : ℚ} (h : seconds ≤ 4500000) :
    (reading seconds).seconds = seconds :=
  min_eq_left h

def failing (now : ℚ) (polls : Nat) (retrying : Bool) (due : ℚ) (log : List Event) :
    State longHost where
  now := reading now
  timer := {
    attempt := 0
    backoffFailures := polls
    retrying := retrying
    nextPoll := some due }
  session := {
    leases := {1}
    controller := none
    writeUncertain := false
    transportConnected := true
    cleaned := false
    stopped := false }
  log := log

def opening : Turn longHost :=
  .command false (.acquire 1 {
    closed := false
    unsent := false
    step := .ok true
    now := reading 0 })

def failedPoll (seconds : ℚ) : Turn longHost :=
  .poll {
    started := reading seconds
    step := .ok true
    sample := .error (.new .transient)
    resumed := false
    settled := reading seconds
    jitter := 0 }

def failedPolls (polls : Nat) : List (Turn longHost) :=
  (List.range polls).map fun (poll : Nat) => failedPoll (4000 * ((poll : ℚ) + 1))

theorem opening_step : State.turn slowPolicy (State.new (reading 0)) opening
      = some (failing 0 0 false 0 [Event.acquired]) := by
  have hadd : longHost.checkedAdd (reading 0).seconds 0 = some 0 := by
    rw [reading_seconds (by norm_num)]
    unfold Host.checkedAdd longHost
    norm_num
  have hread : ∀ timer session log, State.read ⟨reading 0, timer, session, log⟩ (reading 0)
      = ⟨reading 0, timer, session, log⟩ := by
    intro timer session log
    unfold State.read
    rw [if_pos (le_refl _)]
  unfold State.turn opening
  rw [if_neg (show ¬(State.new (reading 0)).session.stopped = true from Bool.false_ne_true)]
  simp only [Bool.false_and, Bool.false_eq_true, if_false]
  unfold State.command State.acquire
  dsimp only
  rw [if_neg (by decide)]
  unfold State.hold
  dsimp only
  rw [if_pos ⟨Finset.notMem_empty 1, rfl⟩]
  change some ((State.read _ (reading 0)).pollAfter 0) = _
  erw [hread]
  unfold State.pollAfter State.setTimer failing
  dsimp only
  rw [hadd]
  rfl

theorem failing_step (now seconds due : ℚ) (polls : Nat) (retrying : Bool) (log : List Event)
    (hnow : now ≤ seconds) (hlast : seconds ≤ 4500000) (hdue : due ≤ seconds)
    (hpolls : polls ≤ 2000) :
    ∃ next, next ≤ seconds + max (State.capped slowPolicy (rounds (polls + 1))) (1 / 10)
      ∧ State.turn slowPolicy (failing now polls retrying due log) (failedPoll seconds)
        = some (failing seconds (polls + 1) true next (log ++ [.started seconds, .attempted 1,
          .polled ⟨.error (.new .transient), true, seconds⟩])) := by
  have hseconds := reading_seconds hlast
  have hbefore := reading_seconds (le_trans hnow hlast)
  have hrange := State.capped_range slowPolicy (rounds (polls + 1))
  obtain ⟨backoff, hbackoff, -, hle⟩ := State.backoff_some slowPolicy (polls + 1) 0
  have hcount : State.countFailures polls (.error (.new .transient)) = polls + 1 := by
    change min (polls + 1) 4294967295 = polls + 1
    omega
  have hdelay : State.pollDelay slowPolicy (polls + 1) (.error (.new .transient)) 0 true
      = some (max (max 0 backoff) (1 / 10)) := by
    change State.retryDelay slowPolicy (polls + 1) (.new .transient) 0 true = _
    unfold State.retryDelay
    rw [hbackoff]
    change (do let pause ← fromSecs (1 / 10); some (max (max 0 backoff) pause)) = _
    rw [fromSecs_some (by norm_num) (by norm_num)]
    rfl
  have hadd : longHost.checkedAdd seconds (max (max 0 backoff) (1 / 10))
      = some (seconds + max (max 0 backoff) (1 / 10)) := by
    have hmax : max (max 0 backoff) (1 / 10) ≤ 3600 :=
      max_le (max_le (by norm_num) (le_trans hle hrange.2)) (by norm_num)
    unfold Host.checkedAdd
    rw [if_pos]
    unfold longHost
    linarith
  refine ⟨seconds + max (max 0 backoff) (1 / 10), ?_, ?_⟩
  · have hmax : max (max 0 backoff) (1 / 10)
        ≤ max (State.capped slowPolicy (rounds (polls + 1))) (1 / 10) :=
      max_le_max_right _ (max_le hrange.1 hle)
    linarith
  -- the poll is due
  change State.pollIfDue slowPolicy (failing now polls retrying due log) _ = _
  unfold State.pollIfDue
  rw [if_neg (show ¬(failing now polls retrying due log).session.leases = ∅ from
    Finset.singleton_ne_empty 1)]
  have hstarted : (failing now polls retrying due log).read (reading seconds)
      = failing seconds polls retrying due log := by
    unfold State.read
    rw [if_pos]
    · rfl
    · change (reading now).seconds ≤ (reading seconds).seconds
      rw [hseconds, hbefore]
      exact hnow
  change (if due ≤ ((failing now polls retrying due log).read (reading seconds)).now.seconds
    then _ else _) = _
  have hpast : due ≤ (failing seconds polls retrying due log).now.seconds := by
    change due ≤ (reading seconds).seconds
    rw [hseconds]
    exact hdue
  rw [hstarted, if_pos hpast]
  -- its sample fails
  have hsettled : ∀ timer log, State.read ⟨reading seconds, timer,
      (failing now polls retrying due log).session, log⟩ (reading seconds)
      = ⟨reading seconds, timer, (failing now polls retrying due log).session, log⟩ := by
    intro timer log
    unfold State.read
    rw [if_pos (le_refl _)]
  change State.settle slowPolicy
    { failing seconds polls retrying due
        (log ++ [Event.started (reading seconds).seconds] ++ [Event.attempted 1]) with
      timer := ⟨1, polls, retrying, some due⟩ } (.error (.new .transient)) _ = _
  unfold State.settle
  change (do
    let delay ← State.pollDelay slowPolicy (State.countFailures polls (.error (.new .transient)))
      (.error (.new .transient)) 0 true
    _) = _
  rw [hcount, hdelay]
  change some (((State.read _ (reading seconds)).pollAfter (max (max 0 backoff) (1 / 10))).emit
    (.polled ⟨_, _, (State.read _ (reading seconds)).now.seconds⟩)) = _
  erw [hsettled]
  unfold State.pollAfter State.setTimer State.emit failing
  dsimp only
  rw [hseconds, hadd]
  simp only [List.append_assoc, List.cons_append, List.nil_append]
  rfl

/-- What an observer makes of a log who expects the delay of every failure in a row. -/
def unlimited (log : List Event) : View :=
  (pacing slowPolicy id).view fresh log

theorem unlimited_failed (log : List Event) (seconds : ℚ) :
    unlimited (log ++ [.started seconds, .attempted 1,
        .polled ⟨.error (.new .transient), true, seconds⟩])
      = ⟨0, (unlimited log).failures + 1, (unlimited log).bounds
        ++ [seconds + halfBackoff slowPolicy ((unlimited log).failures + 1), seconds + 1 / 10]⟩ := by
  unfold unlimited
  rw [Monitor.view_append]
  rfl

theorem failing_run {polls : Nat} (hpolls : polls ≤ 1100) : ∃ retrying due log,
      (failedPolls polls).foldlM (State.turn slowPolicy) (failing 0 0 false 0 [Event.acquired])
        = some (failing (4000 * polls) polls retrying due log)
      ∧ due ≤ 4000 * polls + max (State.capped slowPolicy (rounds polls)) (1 / 10)
      ∧ (unlimited log).failures = polls
      ∧ (polls ≠ 0 → 4000 * polls + halfBackoff slowPolicy polls ∈ (unlimited log).bounds) := by
  induction polls with
  | zero =>
    refine ⟨false, 0, [Event.acquired], ?_, ?_, rfl, fun h => absurd rfl h⟩
    · change some _ = some _
      rw [Nat.cast_zero, mul_zero]
    · have hzero := le_max_right (State.capped slowPolicy (rounds 0)) (1 / 10)
      have hcast : ((0 : Nat) : ℚ) = 0 := Nat.cast_zero
      linarith
  | succ polls ih =>
    obtain ⟨retrying, due, log, hrun, hdue, hfailures, -⟩ := ih (by omega)
    have hcast : (polls : ℚ) + 1 ≤ 1100 := by exact_mod_cast hpolls
    have hcapped : max (State.capped slowPolicy (rounds polls)) (1 / 10) ≤ 3600 :=
      max_le (State.capped_range slowPolicy _).2 (by norm_num)
    obtain ⟨next, hnext, hstep⟩ := failing_step (4000 * polls) (4000 * (polls + 1)) due polls
      retrying log (by linarith) (by linarith) (by linarith) (by omega)
    refine ⟨true, next, log ++ [Event.started (4000 * (polls + 1)), Event.attempted 1,
      Event.polled ⟨.error (.new .transient), true, 4000 * (polls + 1)⟩], ?_, ?_, ?_, ?_⟩
    · unfold failedPolls at hrun ⊢
      rw [List.range_succ, List.map_append, List.foldlM_append, hrun]
      change (do
        let last ← State.turn slowPolicy _ (failedPoll (4000 * (polls + 1)))
        some last) = _
      rw [hstep]
      rw [Nat.cast_succ]
      rfl
    · rw [Nat.cast_succ]
      exact hnext
    · rw [unlimited_failed, hfailures]
    · intro _
      rw [unlimited_failed, hfailures, Nat.cast_succ]
      simp

theorem capped_late : max (State.capped slowPolicy (rounds 1100)) (1 / 10) ≤ 1330 := by
  apply max_le _ (by norm_num)
  apply le_trans (min_le_left _ _)
  have hrounds : rounds 1100 - 1 = 33 * 31 := by norm_num [rounds]
  rw [hrounds, pow_mul]
  norm_num [slowPolicy]

theorem halfBackoff_late : (1330 : ℚ) < halfBackoff slowPolicy 1100 := by
  have hfailures : 1100 - 1 = 7 * 157 := by norm_num
  unfold halfBackoff State.capped
  rw [hfailures, pow_mul]
  norm_num [slowPolicy]

theorem run_failing {turns : List (Turn longHost)} {turn : Turn longHost} {state last : State longHost}
    (hrun : turns.foldlM (State.turn slowPolicy) (failing 0 0 false 0 [Event.acquired]) = some state)
    (hstep : State.turn slowPolicy state turn = some last) :
    State.run slowPolicy (reading 0) (opening :: (turns ++ [turn])) = some last := by
  unfold State.run
  rw [List.foldlM_cons, opening_step]
  change (turns ++ [turn]).foldlM (State.turn slowPolicy) _ = _
  rw [List.foldlM_append, hrun]
  change [turn].foldlM (State.turn slowPolicy) state = _
  rw [List.foldlM_cons, hstep]
  rfl

/-- After 1100 failures in a row a poll starts before half of its exponential delay is over. -/
theorem schedule_beyond_limit : ∃ state,
    State.run slowPolicy (reading 0) (opening :: (failedPolls 1100 ++ [failedPoll 4401330]))
        = some state ∧ ¬(pacing slowPolicy id).Kept fresh state.log := by
  obtain ⟨retrying, due, log, hrun, hdue, hfailures, hbound⟩ := failing_run (le_refl 1100)
  have hcapped := capped_late
  have hhalf := halfBackoff_late
  obtain ⟨next, -, hstep⟩ := failing_step (4000 * (1100 : Nat)) 4401330 due 1100 retrying log
    (by norm_num) (by norm_num) (by norm_num at hdue ⊢; linarith) (by norm_num)
  have hend : State.run slowPolicy (reading 0)
      (opening :: (failedPolls 1100 ++ [failedPoll 4401330]))
        = some (failing 4401330 (1100 + 1) true next (log ++ [Event.started 4401330,
          Event.attempted 1, Event.polled ⟨.error (.new .transient), true, 4401330⟩])) := by
    exact run_failing hrun hstep
  refine ⟨_, hend, ?_⟩
  intro hkept
  have hstarted := (Monitor.kept_append.mp hkept).2.1
  have hlate := hstarted _ (hbound (by norm_num))
  norm_num at hlate
  linarith

end Regain.Hub.Schedule
