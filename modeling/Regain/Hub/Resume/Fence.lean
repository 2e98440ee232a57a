import Regain.Hub.Resume.Detector

/-!
# The sleep fence, one step at a time

A fence runs a future between two checks of the resume epoch and of the clock. Other tasks sample
the clock and notify resumes at any time, also between the two halves of a check.
-/

namespace Regain.Hub.Resume

inductive Outcome (α : Type) where
  | interrupted
  | own (result : α)

/-- The check before the future is polled, or the one after the wait for it. -/
inductive Check (α : Type) where
  | entry
  | exit (outcome : Outcome α)

inductive Phase (α : Type) where
  | subscribing
  /-- `resume_epoch` samples the clock. -/
  | sampling (check : Check α)
  /-- The sample was reported. -/
  | notifying (check : Check α)
  | reading (check : Check α)
  /-- The epoch was the one of the caller. -/
  | validating (check : Check α)
  | selecting
  | ended (outcome : Outcome α)

structure World (α : Type) where
  epoch : Nat
  /-- Absent if the host delivers its own notifications. -/
  detector : Option Detector
  /-- Reports of other tasks whose notification is not sent yet. -/
  pending : Nat
  /-- The epoch that the receiver has seen. -/
  seen : Nat
  phase : Phase α

inductive Step (α : Type) where
  | notified
  | sampled (sample : Sample)
  | delivered
  /-- The fence goes on; what the clock and the future give it, if asked. -/
  | fence (sample : Sample) (answer : Option α)

namespace World

variable {α : Type}

def resumeClockValid (world : World α) : Bool :=
  world.detector.all fun detector => !detector.failed

def sampled (tolerance : Nat) (world : World α) (sample : Sample) : World α :=
  match world.detector with
  | none => world
  | some detector =>
    let seen := detector.observe tolerance sample
    { world with
      detector := some seen.2
      pending := if seen.1 then world.pending + 1 else world.pending }

def sample (tolerance : Nat) (world : World α) (sample : Sample) (check : Check α) : World α :=
  match world.detector with
  | none => { world with phase := .reading check }
  | some detector =>
    let seen := detector.observe tolerance sample
    { world with
      detector := some seen.2
      phase := if seen.1 then .notifying check else .reading check }

def select (world : World α) (answer : Option α) : World α :=
  if world.epoch ≠ world.seen then { world with phase := .sampling (.exit .interrupted) }
  else
    match answer with
    | none => world
    | some result => { world with phase := .sampling (.exit (.own result)) }

def pass (world : World α) (check : Check α) : World α :=
  match check with
  | .entry => { world with phase := .selecting }
  | .exit outcome => { world with phase := .ended outcome }

def fence (tolerance epoch : Nat) (world : World α) (sample : Sample) (answer : Option α) : World α :=
  match world.phase with
  | .subscribing => { world with seen := world.epoch, phase := .sampling .entry }
  | .sampling check => world.sample tolerance sample check
  | .notifying check => { world with epoch := world.epoch + 1, phase := .reading check }
  | .reading check =>
    if world.epoch ≠ epoch then { world with phase := .ended .interrupted }
    else { world with phase := .validating check }
  | .validating check =>
    if !world.resumeClockValid then { world with phase := .ended .interrupted }
    else world.pass check
  | .selecting => world.select answer
  | .ended _ => world

def step (tolerance epoch : Nat) (world : World α) : Step α → World α
  | .notified => { world with epoch := world.epoch + 1 }
  | .sampled sample => world.sampled tolerance sample
  | .delivered =>
    if world.pending = 0 then world
    else { world with epoch := world.epoch + 1, pending := world.pending - 1 }
  | .fence sample answer => world.fence tolerance epoch sample answer

def run (tolerance epoch : Nat) (world : World α) (steps : List (Step α)) : World α :=
  steps.foldl (step tolerance epoch) world

end World

section

variable {α : Type} {tolerance epoch : Nat} {start : World α}

@[simp] theorem World.run_append (steps later : List (Step α)) :
    start.run tolerance epoch (steps ++ later)
      = (start.run tolerance epoch steps).run tolerance epoch later :=
  List.foldl_append

theorem step_epoch (world : World α) (step : Step α) :
    world.epoch ≤ (world.step tolerance epoch step).epoch := by
  cases step with
  | notified => exact Nat.le_succ _
  | sampled sample =>
    simp only [World.step, World.sampled]
    split <;> exact Nat.le_refl _
  | delivered =>
    simp only [World.step]
    split
    · exact Nat.le_refl _
    · exact Nat.le_succ _
  | fence sample answer =>
    simp only [World.step, World.fence]
    split
    · exact Nat.le_refl _
    · simp only [World.sample]
      split <;> exact Nat.le_refl _
    · exact Nat.le_succ _
    · split <;> exact Nat.le_refl _
    · split
      · exact Nat.le_refl _
      · simp only [World.pass]
        split <;> exact Nat.le_refl _
    · simp only [World.select]
      split
      · exact Nat.le_refl _
      · split <;> exact Nat.le_refl _
    · exact Nat.le_refl _

theorem run_epoch (world : World α) (steps : List (Step α)) :
    world.epoch ≤ (world.run tolerance epoch steps).epoch := by
  induction steps generalizing world with
  | nil => exact Nat.le_refl _
  | cons step steps ih => exact Nat.le_trans (step_epoch world step) (ih _)

def Once (P : List (Step α) → Prop) (steps : List (Step α)) : Prop :=
  ∃ before after, steps = before ++ after ∧ P before

theorem Once.now {P : List (Step α) → Prop} {steps : List (Step α)} (h : P steps) : Once P steps :=
  ⟨steps, [], by simp, h⟩

theorem Once.append {P : List (Step α) → Prop} {steps : List (Step α)} (h : Once P steps)
    (later : List (Step α)) : Once P (steps ++ later) := by
  obtain ⟨before, after, hsteps, hholds⟩ := h
  exact ⟨before, after ++ later, by rw [hsteps, List.append_assoc], hholds⟩

section

variable (tolerance epoch start)

def Current (steps : List (Step α)) : Prop :=
  (start.run tolerance epoch steps).epoch = epoch

/-- The future is not polled yet, and the clock is valid. -/
structure Entered (steps : List (Step α)) : Prop where
  phase : (start.run tolerance epoch steps).phase = .validating .entry
  valid : (start.run tolerance epoch steps).resumeClockValid = true
  current : Once (Current tolerance epoch start) steps

structure Completed (result : α) (steps : List (Step α)) : Prop where
  phase : (start.run tolerance epoch steps).phase = .sampling (.exit (.own result))
  entered : Once (Entered tolerance epoch start) steps

structure Reread (result : α) (steps : List (Step α)) : Prop where
  current : Current tolerance epoch start steps
  completed : Once (Completed tolerance epoch start result) steps

structure Confirmed (result : α) (steps : List (Step α)) : Prop where
  valid : (start.run tolerance epoch steps).resumeClockValid = true
  reread : Once (Reread tolerance epoch start result) steps

def Knows (steps : List (Step α)) : Phase α → Prop
  | .validating .entry => Once (Current tolerance epoch start) steps
  | .selecting => Once (Entered tolerance epoch start) steps
  | .sampling (.exit (.own result)) => Once (Completed tolerance epoch start result) steps
  | .notifying (.exit (.own result)) => Once (Completed tolerance epoch start result) steps
  | .reading (.exit (.own result)) => Once (Completed tolerance epoch start result) steps
  | .validating (.exit (.own result)) => Once (Reread tolerance epoch start result) steps
  | .ended (.own result) => Once (Confirmed tolerance epoch start result) steps
  | _ => True

end

theorem Knows.append {steps : List (Step α)} {phase : Phase α}
    (h : Knows tolerance epoch start steps phase) (later : List (Step α)) :
    Knows tolerance epoch start (steps ++ later) phase := by
  unfold Knows at h ⊢
  split at h
  · exact h.append later
  · exact h.append later
  · exact h.append later
  · exact h.append later
  · exact h.append later
  · exact h.append later
  · exact h.append later
  · trivial

theorem step_phase (world : World α) {step : Step α} (h : ∀ sample answer, step ≠ .fence sample answer) :
    (world.step tolerance epoch step).phase = world.phase := by
  cases step with
  | notified => rfl
  | sampled sample =>
    simp only [World.step, World.sampled]
    split <;> rfl
  | delivered =>
    simp only [World.step]
    split <;> rfl
  | fence sample answer => exact absurd rfl (h sample answer)

theorem knows_fence {steps : List (Step α)} (sample : Sample) (answer : Option α)
    (h : Knows tolerance epoch start steps (start.run tolerance epoch steps).phase) :
    Knows tolerance epoch start (steps ++ [.fence sample answer])
      (start.run tolerance epoch (steps ++ [.fence sample answer])).phase := by
  have hlater := Knows.append h [.fence sample answer]
  have hrun : start.run tolerance epoch (steps ++ [.fence sample answer])
      = (start.run tolerance epoch steps).fence tolerance epoch sample answer := by
    rw [World.run_append]
    rfl
  rw [hrun]
  generalize hworld : start.run tolerance epoch steps = world at h hlater hrun ⊢
  simp only [World.fence]
  cases hphase : world.phase with
  | subscribing => trivial
  | ended outcome =>
    rw [hphase] at hlater
    dsimp only
    rw [hphase]
    exact hlater
  | notifying check =>
    rw [hphase] at hlater
    cases check with
    | entry => trivial
    | exit outcome =>
      cases outcome with
      | interrupted => trivial
      | own result => exact hlater
  | sampling check =>
    rw [hphase] at hlater
    have hgoes : ∀ next, next = Phase.reading check ∨ next = Phase.notifying check →
        Knows tolerance epoch start (steps ++ [.fence sample answer]) next := by
      intro next hnext
      cases check with
      | entry => rcases hnext with hnext | hnext <;> rw [hnext] <;> trivial
      | exit outcome =>
        cases outcome with
        | interrupted => rcases hnext with hnext | hnext <;> rw [hnext] <;> trivial
        | own result => rcases hnext with hnext | hnext <;> rw [hnext] <;> exact hlater
    simp only [World.sample]
    split
    · exact hgoes _ (.inl rfl)
    · dsimp only
      split
      · exact hgoes _ (.inr rfl)
      · exact hgoes _ (.inl rfl)
  | reading check =>
    rw [hphase] at h
    dsimp only
    by_cases hcurrent : world.epoch = epoch
    · rw [if_neg (by simpa using hcurrent)]
      have hnow : Current tolerance epoch start steps := by
        unfold Current
        rw [hworld]
        exact hcurrent
      cases check with
      | entry => exact (Once.now hnow).append _
      | exit outcome =>
        cases outcome with
        | interrupted => trivial
        | own result => exact (Once.now ⟨hnow, h⟩).append _
    · rw [if_pos hcurrent]
      trivial
  | validating check =>
    rw [hphase] at h
    dsimp only
    by_cases hvalid : world.resumeClockValid = true
    · rw [hvalid]
      have hvalid' : (start.run tolerance epoch steps).resumeClockValid = true := by
        rw [hworld]
        exact hvalid
      cases check with
      | entry => exact (Once.now ⟨by rw [hworld]; exact hphase, hvalid', h⟩).append _
      | exit outcome =>
        cases outcome with
        | interrupted => trivial
        | own result => exact (Once.now ⟨hvalid', h⟩).append _
    · rw [if_pos (by simpa using hvalid)]
      trivial
  | selecting =>
    rw [hphase] at hlater
    simp only [World.fence, hphase, World.select] at hrun
    simp only [World.select]
    by_cases hnotified : world.epoch ≠ world.seen
    · rw [if_pos hnotified]
      trivial
    · rw [if_neg hnotified] at hrun ⊢
      cases answer with
      | none =>
        dsimp only
        rw [hphase]
        exact hlater
      | some result =>
        refine Once.now ⟨?_, hlater⟩
        rw [hrun]

theorem knows_run (hstart : start.phase = .subscribing) (steps : List (Step α)) :
    Knows tolerance epoch start steps (start.run tolerance epoch steps).phase := by
  induction steps using List.reverseRecOn with
  | nil =>
    change Knows tolerance epoch start [] start.phase
    rw [hstart]
    trivial
  | append_singleton steps step ih =>
    by_cases hother : ∀ sample answer, step ≠ .fence sample answer
    · have hsame : (start.run tolerance epoch (steps ++ [step])).phase
          = (start.run tolerance epoch steps).phase := by
        rw [World.run_append]
        exact step_phase _ hother
      rw [hsame]
      exact ih.append [step]
    · cases step with
      | fence sample answer => exact knows_fence sample answer ih
      | notified => exact absurd (by simp) hother
      | sampled sample => exact absurd (by simp) hother
      | delivered => exact absurd (by simp) hother

/-- The run of a fence that returns the future's own result. -/
structure Fenced (tolerance epoch : Nat) (start : World α) (steps : List (Step α)) (result : α) :
    Prop where
  /-- The parts of the run: up to a valid clock in the caller's epoch before the future is polled,
  up to its completion, up to the epoch that is read then, and up to a valid clock. -/
  parts : ∃ entry waiting exit settled rest,
    steps = entry ++ waiting ++ exit ++ settled ++ rest ∧
    (start.run tolerance epoch entry).phase = .validating .entry ∧
    (start.run tolerance epoch entry).epoch = epoch ∧
    (start.run tolerance epoch entry).resumeClockValid = true ∧
    (start.run tolerance epoch (entry ++ waiting)).phase = .sampling (.exit (.own result)) ∧
    (start.run tolerance epoch (entry ++ waiting ++ exit)).epoch = epoch ∧
    (start.run tolerance epoch (entry ++ waiting ++ exit ++ settled)).resumeClockValid = true ∧
    -- no notification was lost in between
    ∀ before after, waiting ++ exit = before ++ after →
      (start.run tolerance epoch (entry ++ before)).epoch = epoch

theorem fence_own (hstart : start.phase = .subscribing) {steps : List (Step α)} {result : α}
    (h : (start.run tolerance epoch steps).phase = .ended (.own result)) :
    Fenced tolerance epoch start steps result := by
  have hknows : Knows tolerance epoch start steps (start.run tolerance epoch steps).phase :=
    knows_run hstart steps
  rw [h] at hknows
  obtain ⟨confirmed, rest, hsteps, hvalid, reread, settled, hconfirmed, hcurrent, completed, exit,
    hreread, hphase, entered, waiting, hcompleted, hentered⟩ := hknows
  obtain ⟨current, between, hcurrent', hfirst⟩ := hentered.current
  have hreread' : reread = entered ++ waiting ++ exit := by rw [hreread, hcompleted]
  -- The epoch was the caller's earlier and later, so it was in between.
  have hstill : ∀ before after, waiting ++ exit = before ++ after →
      (start.run tolerance epoch (entered ++ before)).epoch = epoch := by
    intro before after hsplit
    have hlow : (start.run tolerance epoch current).epoch
        ≤ ((start.run tolerance epoch current).run tolerance epoch (between ++ before)).epoch :=
      run_epoch _ _
    have hhigh : (start.run tolerance epoch (entered ++ before)).epoch
        ≤ ((start.run tolerance epoch (entered ++ before)).run tolerance epoch after).epoch :=
      run_epoch _ _
    rw [← World.run_append, ← List.append_assoc, ← hcurrent'] at hlow
    rw [← World.run_append, List.append_assoc, ← hsplit, ← List.append_assoc, ← hreread'] at hhigh
    have hfirst' : (start.run tolerance epoch current).epoch = epoch := hfirst
    have hlast' : (start.run tolerance epoch reread).epoch = epoch := hcurrent
    omega
  refine ⟨entered, waiting, exit, settled, rest, ?_, hentered.phase, ?_, hentered.valid, ?_, ?_, ?_,
    hstill⟩
  · rw [hsteps, hconfirmed, hreread']
  · have hentry := hstill [] (waiting ++ exit) rfl
    rwa [List.append_nil] at hentry
  · rw [← hcompleted]
    exact hphase
  · rw [← hreread']
    exact hcurrent
  · rw [← hreread', ← hconfirmed]
    exact hvalid

end

/-- The detector is exact, and a fence returns an own result only across a valid clock in one
epoch. -/
structure SleepFence (tolerance : Nat) : Prop where
  detector : Exact tolerance
  fence : ∀ (α : Type) (epoch : Nat) (start : World α) (steps : List (Step α)) (result : α),
    start.phase = .subscribing →
    (start.run tolerance epoch steps).phase = .ended (.own result) →
    Fenced tolerance epoch start steps result

/-- The detector is exact, and a future's own result is returned only within one epoch. -/
theorem sleepFence (tolerance : Nat) : SleepFence tolerance where
  detector := detector_exact tolerance
  fence _ _ _ _ _ hstart hended := fence_own hstart hended

end Regain.Hub.Resume
