import Regain.Core.ContinuousSteps

/-!
# Settled frames

A live update opens a settling window of the old and the new integration time. Frames stamped
settled come after the windows of all live updates of the stream.
-/

namespace Regain.Core.Continuous.Owner

open Lib

variable {World E : Type} (backend : Backend World E)

inductive Op where
  | command (method : String) (params : Json)
  | tick

inductive Outcome (E : Type) where
  | answered (result : Progress E Answer)
  | ticked (result : Progress E Unit)

def start (world : World) : Owner World where
  stream := Stream.default
  clock := 0
  world := world

def machine : Machine (Owner World) Op (Outcome E) where
  step owner op :=
    match op with
    | .command method params =>
      let run := command backend method params owner
      (.answered run.1, run.2)
    | .tick =>
      let run := tick backend owner
      (.ticked run.1, run.2)

abbrev Step (World E : Type) : Type :=
  Transition (Owner World) Op (Outcome E)

/-- The end of the settling window of a live update: the old and the new integration time after
the update took effect. -/
def liveWindow (t : Step World E) : Option Nat :=
  match t.op, t.before.stream.params, t.after.stream.params with
  | .tick, some old, some new =>
    if isLive t.before.stream.camera old new
        && t.after.stream.generation == t.before.stream.generation + 1 then
      some (t.after.clock + settlingTime old new)
    else none
  | _, _, _ => none

def starts (t : Step World E) : Bool :=
  t.after.stream.params.isSome
    && (t.before.stream.params.isNone
      || (t.after.stream.generation != t.before.stream.generation && (liveWindow t).isNone))

def settles (t : Step World E) : Bool :=
  match t.result with
  | .ticked (.done ()) =>
    t.after.stream.acquired == t.before.stream.acquired + 1
      && t.after.stream.latest.any fun frame => frame.settingsSettled
  | _ => false

/-- A live update does not replace an open window by one that ends earlier. -/
def KeepsWindow (t : Step World E) : Prop :=
  ∀ window ∈ liveWindow t, ∀ until' ∈ t.before.stream.settlingUntil, until' ≤ window

instance (t : Step World E) : Decidable (KeepsWindow t) :=
  inferInstanceAs (Decidable (∀ window ∈ liveWindow t, ∀ until' ∈ t.before.stream.settlingUntil,
    until' ≤ window))

/-- A settled frame came after the window of every live update since the start of the stream,
and after two more frames. -/
def SettledAfterWindows (run : List (Step World E)) : Prop :=
  ∀ {before mid after : List (Step World E)} {update stamp : Step World E} {window : Nat},
    run = before ++ update :: mid ++ stamp :: after →
    liveWindow update = some window → (∀ t ∈ mid, starts t = false) → settles stamp = true →
    ∃ rawAt, stamp.after.stream.lastRawAt = some rawAt ∧ window ≤ rawAt
      ∧ update.after.stream.rawFrames + 2 ≤ stamp.before.stream.rawFrames

def Demands (window rawFrames : Nat) (stream : Stream) (clock : Nat) : Prop :=
  stream.params.isSome = true → stream.failure = none →
    (window ≤ clock ∨ ∃ until', stream.settlingUntil = some until' ∧ window ≤ until')
      ∧ rawFrames ≤ stream.rawFrames ∧ rawFrames + 2 ≤ stream.rawFrames + stream.discardFrames

section

variable {window rawFrames clock clock' : Nat} {stream stream' : Stream}

theorem Demands.later (hdemands : Demands window rawFrames stream clock) (hclock : clock ≤ clock') :
    Demands window rawFrames stream clock' := by
  intro hactive hsound
  obtain ⟨hpassed | hopen, hrest⟩ := hdemands hactive hsound
  · exact ⟨.inl (Nat.le_trans hpassed hclock), hrest⟩
  · exact ⟨.inr hopen, hrest⟩

theorem demands_of_ended (hended : stream.params = none ∨ stream.failure ≠ none) :
    Demands window rawFrames stream clock := by
  intro hactive hsound
  rcases hended with hnone | hfault
  · simp [hnone] at hactive
  · exact absurd hsound hfault

theorem demands_command {method : String} {params : Json}
    (hdemands : Demands window rawFrames stream clock)
    (hcommanded : Commanded method params stream stream') (hactive : stream.params.isSome = true) :
    Demands window rawFrames stream' clock := by
  have hrunning : stream.params ≠ none := Option.isSome_iff_ne_none.mp hactive
  cases hcommanded with
  | kept => exact hdemands
  | queued => exact hdemands
  | withdrawn => exact hdemands
  | started params deliver interval hinactive => exact absurd hinactive hrunning
  | stopping => exact hdemands
  | stopped => exact demands_of_ended (.inl rfl)
  | stopFailed requested message details => exact demands_of_ended (.inr (Option.some_ne_none _))
  | opened camera hinactive => exact absurd hinactive hrunning
  | downloaded => exact hdemands

theorem settled_of_not_transitional {rawAt : Nat} (hsettled : isTransitional stream rawAt = false) :
    stream.discardFrames = 0 ∧ ∀ until', stream.settlingUntil = some until' → until' ≤ rawAt := by
  simp only [isTransitional, Bool.or_eq_false_iff, decide_eq_false_iff_not] at hsettled
  refine ⟨by omega, fun until' hopen => ?_⟩
  have hpassed := hsettled.2
  simp only [hopen, Option.any_some, decide_eq_false_iff_not] at hpassed
  omega

theorem Demands.settled {rawAt : Nat} (hdemands : Demands window rawFrames stream clock)
    (hactive : stream.params.isSome = true) (hsound : stream.failure = none)
    (hsettled : isTransitional stream rawAt = false) (hraw : clock ≤ rawAt) :
    window ≤ rawAt ∧ rawFrames + 2 ≤ stream.rawFrames := by
  obtain ⟨hdiscard, hclosed⟩ := settled_of_not_transitional hsettled
  obtain ⟨hwindow, -, hframes⟩ := hdemands hactive hsound
  refine ⟨?_, by omega⟩
  rcases hwindow with hpassed | ⟨until', hopen, hlate⟩
  · exact Nat.le_trans hpassed hraw
  · exact Nat.le_trans hlate (hclosed until' hopen)

theorem Demands.counted {rawAt : Nat} (hdemands : Demands window rawFrames stream clock)
    (hactive : stream.params.isSome = true) (hsound : stream.failure = none)
    (hraw : clock ≤ rawAt) (hclock : rawAt ≤ clock') : Demands window rawFrames
      (countTransition (noteRaw stream rawAt) (isTransitional stream rawAt)) clock' := by
  cases htransitional : isTransitional stream rawAt with
  | true =>
    obtain ⟨hwindow, hframes, hmore⟩ := hdemands.later (Nat.le_trans hraw hclock) hactive hsound
    intro _ _
    refine ⟨hwindow, ?_, ?_⟩ <;> simp only [countTransition, noteRaw, if_true] <;> omega
  | false =>
    obtain ⟨hwindow, hframes⟩ := hdemands.settled hactive hsound htransitional hraw
    intro _ _
    refine ⟨.inl (Nat.le_trans hwindow hclock), ?_, ?_⟩ <;>
      simp only [countTransition, noteRaw, Bool.false_eq_true, if_false] <;> omega

theorem Demands.applied {rawAt until' : Nat} {next : Json}
    (hdemands : Demands window rawFrames stream clock)
    (hactive : stream.params.isSome = true) (hsound : stream.failure = none)
    (hclock : clock ≤ clock') (hlonger : ∀ open' ∈ stream.settlingUntil, open' ≤ until') :
    Demands window rawFrames
      (Owner.applied { noteRaw stream rawAt with requested := none } next true until') clock' := by
  obtain ⟨hwindow, hframes, hmore⟩ := hdemands hactive hsound
  intro _ _
  refine ⟨?_, ?_, ?_⟩
  · rcases hwindow with hpassed | ⟨open', hopen, hlate⟩
    · exact .inl (Nat.le_trans hpassed hclock)
    · exact .inr ⟨until', rfl, Nat.le_trans hlate (hlonger open' hopen)⟩
  · simp only [Owner.applied, noteRaw]
    omega
  · simp only [Owner.applied, noteRaw, if_true]
    omega

end

variable {backend}

theorem demands_applied {t : Step World E} {window rawFrames rawAt : Nat} {params next : Json}
    (hop : t.op = .tick) (hparams : t.before.stream.params = some params)
    (hsound : t.before.stream.failure = none) (hclock : t.before.clock ≤ t.after.clock)
    (hstream : t.after.stream = Owner.applied { noteRaw t.before.stream rawAt with requested := none }
      next (isLive t.before.stream.camera params next) (t.after.clock + settlingTime params next))
    (hdemands : Demands window rawFrames t.before.stream t.before.clock) :
    (starts t = true ∨ ¬KeepsWindow t) ∨ Demands window rawFrames t.after.stream t.after.clock := by
  have hnext : t.after.stream.params = some next := by rw [hstream]; rfl
  have hgeneration : t.after.stream.generation = t.before.stream.generation + 1 := by
    rw [hstream]; rfl
  have hlive : liveWindow t = if isLive t.before.stream.camera params next = true then
      some (t.after.clock + settlingTime params next) else none := by
    simp [liveWindow, hop, hparams, hnext, hgeneration]
  cases hupdate : isLive t.before.stream.camera params next with
  | false =>
    rw [hupdate] at hlive
    exact .inl (.inl (by simp [starts, hnext, hgeneration, hlive]))
  | true =>
    rw [hupdate] at hlive hstream
    by_cases hkeeps : KeepsWindow t
    · rw [hstream]
      exact .inr (hdemands.applied (by rw [hparams]; rfl) hsound hclock (hkeeps _ hlive))
    · exact .inl (.inr hkeeps)

theorem demands_tick {t : Step World E} {window rawFrames : Nat} {result : Progress E Unit}
    (hop : t.op = .tick) (hticked : Ticked t.before result t.after)
    (hdemands : Demands window rawFrames t.before.stream t.before.clock) :
    (starts t = true ∨ ¬KeepsWindow t) ∨ Demands window rawFrames t.after.stream t.after.clock := by
  obtain ⟨before, op, outcome, after⟩ := t
  cases hticked with
  | idle => exact .inr hdemands
  | failed message details hactive hsound hmidway hstream =>
    refine .inr (demands_of_ended (.inr ?_))
    rw [hstream]
    exact Option.some_ne_none _
  | acquired params hparams hsound hcompleted hacquired =>
    have hactive : before.stream.params.isSome = true := by rw [hparams]; rfl
    cases hacquired with
    | exposing hstream hclock => exact .inr (hstream ▸ hdemands.later hclock)
    | ended rawAt hstopping hstream => exact .inr (demands_of_ended (.inl (by rw [hstream])))
    | applied rawAt next hrequested hstream hclock =>
      exact demands_applied hop hparams hsound hclock hstream hdemands
    | dropped rawAt hrequested hstopping htransitional hstream hraw hclock =>
      right
      rw [hstream, ← htransitional]
      exact hdemands.counted hactive hsound hraw hclock
    | offered rawAt framed receivedMs metadata pixels hrequested hstopping hstream hraw hclock =>
      right
      rw [hstream]
      exact hdemands.counted hactive hsound hraw hclock
    | failed error => exact absurd rfl (hcompleted error)
    | panicked rawAt framed hrequested hstopping hstream hraw hclock =>
      right
      rw [hstream]
      exact hdemands.counted hactive hsound hraw hclock

theorem demands_until (backend : Backend World E) (window rawFrames : Nat) :
    Machine.Until (machine backend) (fun _ => True)
      (fun owner => Demands window rawFrames owner.stream owner.clock)
      (fun t => starts t = true ∨ ¬KeepsWindow t) := by
  intro owner op _ hdemands
  cases op with
  | command method params =>
    have hperforms : Performs method params owner _ (command backend method params owner).2 :=
      command_meets backend
    by_cases hactive : owner.stream.params.isSome = true
    · exact .inr ((demands_command hdemands hperforms.stream hactive).later hperforms.clock)
    · have hinactive : owner.stream.params = none := Option.not_isSome_iff_eq_none.mp hactive
      by_cases hstarted : ((machine backend).next owner (.command method params)).stream.params = none
      · exact .inr (demands_of_ended (.inl hstarted))
      · refine .inl (.inl ?_)
        simp [starts, Machine.perform, Option.isSome_iff_ne_none.mpr hstarted, hinactive]
  | tick =>
    have hticked : Ticked owner _ ((machine backend).perform owner .tick).after :=
      tick_meets backend
    exact demands_tick rfl hticked hdemands

theorem liveWindow_opens {t : Step World E} {window : Nat} {result : Progress E Unit}
    (hticked : Ticked t.before result t.after) (hlive : liveWindow t = some window) :
    t.after.stream.settlingUntil = some window ∧ t.after.stream.discardFrames = 2 := by
  obtain ⟨before, op, outcome, after⟩ := t
  simp only [liveWindow] at hlive
  split at hlive
  next old new hold hnew =>
    split at hlive
    next hupdate =>
      obtain ⟨hscalar, hgeneration⟩ := Bool.and_eq_true_iff.mp hupdate
      have hchanged : after.stream.generation = before.stream.generation + 1 := by
        simpa using hgeneration
      -- of all that a round can do, only applying other settings changes the generation
      have hsame : after.stream.generation ≠ before.stream.generation := by omega
      cases hticked with
      | idle => exact absurd rfl hsame
      | failed message details hactive hsound hmidway hstream =>
        exact absurd (by rw [hstream]; exact hmidway.generation) hsame
      | acquired params hparams hsound hcompleted hacquired =>
        obtain rfl : params = old := by simpa [hold] using hparams.symm
        cases hacquired with
        | exposing hstream => exact absurd (by rw [hstream]) hsame
        | ended rawAt hstopping hstream => exact absurd (by rw [hstream]; rfl) hsame
        | applied rawAt next hrequested hstream =>
          have hnext : after.stream.params = some next := by rw [hstream]; rfl
          obtain rfl : next = new := Option.some.inj (hnext.symm.trans hnew)
          rw [hscalar] at hstream
          rw [hstream]
          exact ⟨hlive, rfl⟩
        | dropped rawAt hrequested hstopping htransitional hstream =>
          exact absurd (by rw [hstream]; exact (countTransition_midway _ _).1.generation) hsame
        | offered rawAt framed receivedMs metadata pixels hrequested hstopping hstream =>
          exact absurd (by rw [hstream]; exact (countTransition_midway _ _).1.generation) hsame
        | failed error => exact absurd rfl (hcompleted error)
        | panicked rawAt framed hrequested hstopping hstream =>
          exact absurd (by rw [hstream]; exact (countTransition_midway _ _).1.generation) hsame
    next => cases hlive
  next => cases hlive

theorem settles_settled {t : Step World E} {result : Progress E Unit}
    (hresult : t.result = .ticked result) (hticked : Ticked t.before result t.after)
    (hsettles : settles t = true) :
    ∃ rawAt, t.after.stream.lastRawAt = some rawAt ∧ t.before.clock ≤ rawAt
      ∧ isTransitional t.before.stream rawAt = false
      ∧ t.before.stream.params.isSome = true ∧ t.before.stream.failure = none := by
  obtain ⟨before, op, outcome, after⟩ := t
  subst hresult
  cases result with
  | failed error => cases hsettles
  | pending => cases hsettles
  | done value =>
    obtain ⟨hcount, hlatest⟩ := Bool.and_eq_true_iff.mp hsettles
    have hacquired : after.stream.acquired = before.stream.acquired + 1 := by simpa using hcount
    have hnew : after.stream.acquired ≠ before.stream.acquired := by omega
    cases hticked with
    | idle => exact absurd rfl hnew
    | failed message details hactive hsound hmidway hstream =>
      rw [hstream] at hlatest
      cases hlatest
    | acquired params hparams hsound hcompleted hround =>
      cases hround with
      | exposing hstream => exact absurd (by rw [hstream]) hnew
      | ended rawAt hstopping hstream => exact absurd (by rw [hstream]; rfl) hnew
      | applied rawAt next hrequested hstream => exact absurd (by rw [hstream]; rfl) hnew
      | dropped rawAt hrequested hstopping htransitional hstream =>
        exact absurd (by rw [hstream]; exact (countTransition_midway _ _).2) hnew
      | offered rawAt framed receivedMs metadata pixels hrequested hstopping hstream hraw =>
        have hsettled : isTransitional before.stream rawAt = false := by
          rw [hstream] at hlatest
          simpa [retain, stamp] using hlatest
        refine ⟨rawAt, ?_, hraw, hsettled, by rw [hparams]; rfl, hsound⟩
        rw [hstream, hsettled]
        rfl

/-- In a run whose live updates never shorten an open window, no frame is settled too early. -/
theorem settled_after_windows {initial : Owner World} {ops : List Op}
    (hkeeps : ∀ t ∈ (machine backend).run initial ops, KeepsWindow t) :
    SettledAfterWindows ((machine backend).run initial ops) := by
  intro before mid after update stamp window hrun hlive hstarts hsettles
  have hinv : (machine backend).Inductive initial (fun _ => True) := ⟨trivial, fun _ _ => trivial⟩
  by_contra hearly
  have hreleased := (demands_until backend window update.after.stream.rawFrames).between
    (fun t => liveWindow t = some window
      ∧ t.after.stream.rawFrames = update.after.stream.rawFrames)
    (fun t => settles t = true ∧ ¬∃ rawAt, t.after.stream.lastRawAt = some rawAt ∧ window ≤ rawAt
      ∧ update.after.stream.rawFrames + 2 ≤ t.before.stream.rawFrames)
    hinv ?_ ?_ hrun ⟨hlive, rfl⟩ ⟨hsettles, hearly⟩
  · obtain ⟨t, hmem, hstarts' | hshorter⟩ := hreleased
    · rw [hstarts t hmem] at hstarts'
      cases hstarts'
    · exact hshorter (hkeeps t (by rw [hrun]; simp [hmem]))
  · rintro owner op - ⟨hopens, hframes⟩
    cases op with
    | command method params => cases hopens
    | tick =>
      have hticked : Ticked owner _ ((machine backend).perform owner .tick).after :=
        tick_meets backend
      obtain ⟨hwindow, hdiscard⟩ := liveWindow_opens hticked hopens
      intro _ _
      refine ⟨.inr ⟨window, hwindow, Nat.le_refl _⟩, ?_, ?_⟩
      · exact Nat.le_of_eq hframes.symm
      · have hcount := hdiscard
        simp only [Machine.perform] at hcount hframes
        omega
  · rintro owner op - hdemands ⟨hstamped, hnot⟩
    cases op with
    | command method params => cases hstamped
    | tick =>
      have hticked : Ticked owner _ ((machine backend).perform owner .tick).after :=
        tick_meets backend
      obtain ⟨rawAt, hlast, hraw, hsettled, hactive, hsound⟩ :=
        settles_settled rfl hticked hstamped
      exact hnot ⟨rawAt, hlast, hdemands.settled hactive hsound hsettled hraw⟩

/-- A camera that always has a frame; a second passes between clock readings. -/
def promptBackend : Backend Unit String where
  command method _ world :=
    if method = "status" then (.ok (.ofNat 2, []), world)
    else if method = "download" then (.ok (.object [], []), world)
    else (.ok (.null, []), world)
  elapse world := (1000000000, world)
  unixMilliseconds world := (0, world)
  plain message := message
  message error := error
  errorFields _ := .null
  text _ := ""

def videoRequest (microseconds gain : Nat) : Json :=
  .object [("gain", .ofNat gain), ("microseconds", .ofNat microseconds), ("mode", .string "video")]

def shortenOps : List Op :=
  [.command "open" .null, .command "stream-start" (videoRequest 20000000 1),
    .command "stream-start" (videoRequest 1000000 1)]

/-- A request for another gain, applied while the window is open, and two transitional frames. -/
def regainOps : List Op :=
  [.command "stream-start" (videoRequest 1000000 2), .tick, .tick, .tick]

/-- The gain edit replaces the 21 s window of the exposure edit by one of 2 s. -/
theorem replaced_window_settles_early : ¬SettledAfterWindows
      ((machine promptBackend).run (start ()) (shortenOps ++ .tick :: regainOps ++ [.tick])) := by
  intro hclaim
  let opened := (machine promptBackend).final (start ()) shortenOps
  let updated := (machine promptBackend).next opened .tick
  let reopened := (machine promptBackend).final updated regainOps
  have hrun : (machine promptBackend).run (start ()) (shortenOps ++ .tick :: regainOps ++ [.tick])
      = (machine promptBackend).run (start ()) shortenOps
        ++ (machine promptBackend).perform opened .tick
          :: (machine promptBackend).run updated regainOps
        ++ (machine promptBackend).perform reopened .tick :: [] :=
    rfl
  have hwindow : liveWindow ((machine promptBackend).perform opened .tick) = some 25000000000 := by
    decide +kernel
  have hstarts : ∀ t ∈ (machine promptBackend).run updated regainOps, starts t = false := by
    decide +kernel
  have hsettles : settles ((machine promptBackend).perform reopened .tick) = true := by
    decide +kernel
  have hlast : ((machine promptBackend).perform reopened .tick).after.stream.lastRawAt
      = some 10000000000 := by
    decide +kernel
  obtain ⟨rawAt, hraw, hlate, -⟩ := hclaim hrun hwindow hstarts hsettles
  rw [hlast] at hraw
  cases hraw
  omega

/-- The exposure edit runs out its window before the gain edit opens another one. -/
def updateOps : List Op :=
  shortenOps ++ List.replicate 24 .tick
    ++ .command "stream-start" (videoRequest 1000000 2) :: List.replicate 5 .tick

theorem updates_settle :
    SettledAfterWindows ((machine promptBackend).run (start ()) updateOps)
      ∧ ((machine promptBackend).run (start ()) updateOps).filterMap liveWindow
        = [25000000000, 35000000000]
      ∧ ((machine promptBackend).run (start ()) updateOps).countP settles = 5 :=
  ⟨settled_after_windows (by decide +kernel), by decide +kernel, by decide +kernel⟩

end Regain.Core.Continuous.Owner
