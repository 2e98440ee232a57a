import Regain.Qhy.WorkerSteps

/-!
# Exposures behind a verified wheel

The view is what an observer of the worker knows of the wheel: the slot that was accepted last, the
motion of the last move until two readings a quarter of a second apart agree with its target.
-/

namespace Regain.Qhy

open Lib
open Routine (continues_done meets_attempt meets_bind meets_ensure meets_ret)

/-! ## The observer -/

structure WheelView where
  expected : Option Nat
  /-- The last move, as far as it is settled. -/
  motion : Option Motion
  /-- Where the wheel was last seen stationary during this command. -/
  verified : Option Nat
  /-- The move that was accepted and not yet written. -/
  credit : Option Nat
  exposing : Bool
  /-- The start of this command names a slot. -/
  named : Bool

namespace WheelView

def new : WheelView where
  expected := none
  motion := none
  verified := none
  credit := none
  exposing := false
  named := false

def read (view : WheelView) (position : Option Nat) (now : Nat) : WheelView :=
  match view.motion with
  | none => { view with verified := position }
  | some motion =>
    match motion.observe position now with
    | .error _ => { view with verified := none }
    | .ok (true, _) => { view with motion := none, verified := position }
    | .ok (false, motion) => { view with motion := some motion, verified := none }

def observe (view : WheelView) : Event → WheelView
  | .asked => { view with verified := none, credit := none, named := false }
  | .observed position now => view.read position now
  | .moveAccepted position => { view with expected := some position, credit := some position }
  | .expected position => { view with expected := some position, named := true }
  | .called (.wheelMove position started) _ =>
    { view with motion := some (.new position started), verified := none, credit := none }
  | .called (.start _) _ => { view with exposing := true }
  | .called (.startVideo _) _ => { view with exposing := true }
  | .called .stop true => { view with exposing := false }
  | .armed _ => { view with exposing := true }
  | .delivered _ => { view with exposing := false }
  | .released => .new
  | _ => view

def Verified (view : WheelView) : Prop :=
  ∀ position, view.expected = some position → view.verified = some position

def Allows (every : Bool) (view : WheelView) : Event → Prop
  | .called (.start _) _ => every = true ∨ view.named = true → view.Verified
  | .called (.startVideo _) _ => every = true ∨ view.named = true → view.Verified
  | .called (.wheelMove position _) _ => view.credit = some position ∧ view.exposing = false
  | .delivered _ => view.Verified
  | _ => True

def monitor (every : Bool) : Monitor WheelView Event where
  observe := observe
  Allows := Allows every

end WheelView

def World.wheel (world : World) : WheelView :=
  world.events.foldl WheelView.observe .new

/-! ## The invariant -/

structure WheelLinked (owner : Host) (view : WheelView) : Prop where
  expected : view.expected = owner.wheelExpected
  motion : view.motion = owner.wheelPending
  exposing : view.exposing = true →
    owner.exposure.isSome = true ∨ owner.videoParams.isSome = true

structure WheelSound (world : World) : Prop where
  kept : (WheelView.monitor false).Kept .new world.events
  linked : WheelLinked world.host world.wheel

@[simp] theorem wheel_log (world : World) (event : Event) :
    (world.log event).wheel = world.wheel.observe event := by
  simp [World.wheel, World.log]

@[simp] theorem wheel_set (world : World) (owner : Host) : (world.set owner).wheel = world.wheel :=
  rfl

variable {world before after : World}

theorem WheelSound.log (h : WheelSound world) {event : Event}
    (hallows : world.wheel.Allows false event)
    (hlinked : WheelLinked world.host (world.wheel.observe event)) :
    WheelSound (world.log event) where
  kept := by
    rw [log_events, Monitor.kept_append]
    exact ⟨h.kept, hallows, trivial⟩
  linked := by simpa using hlinked

theorem WheelSound.set (h : WheelSound world) {owner : Host}
    (hlinked : WheelLinked owner world.wheel) : WheelSound (world.set owner) where
  kept := h.kept
  linked := hlinked

def WheelQuiet (event : Event) : Prop :=
  (WheelView.monitor false).Quiet event

theorem plain_wheel (h : Plain WheelQuiet before after) : after.wheel = before.wheel := by
  obtain ⟨events, hevents, hquiet⟩ := h.later
  change (WheelView.monitor false).view .new after.events = before.wheel
  rw [hevents, Monitor.view_append]
  exact Monitor.view_of_quiet hquiet

theorem WheelLinked.same {before after : Host} {view : WheelView} (h : WheelLinked before view)
    (hsame : Host.Same before after) : WheelLinked after view where
  expected := by rw [hsame.wheelExpected]; exact h.expected
  motion := by rw [hsame.wheelPending]; exact h.motion
  exposing := by rw [hsame.exposure, hsame.videoParams]; exact h.exposing

theorem WheelSound.plain (h : WheelSound before) (hplain : Plain WheelQuiet before after) :
    WheelSound after where
  kept := by
    obtain ⟨events, hevents, hquiet⟩ := hplain.later
    rw [hevents, Monitor.kept_append]
    exact ⟨h.kept, Monitor.kept_of_quiet hquiet⟩
  linked := by
    rw [plain_wheel hplain]
    exact h.linked.same hplain.same

/-! ## The wheel -/

/-- Nothing but the motion and the observation has changed. -/
structure Watched (before after : World) : Prop where
  sound : WheelSound after
  backend : after.host.backend = before.host.backend
  exposure : after.host.exposure = before.host.exposure
  videoParams : after.host.videoParams = before.host.videoParams
  expected : after.wheel.expected = before.wheel.expected
  exposing : after.wheel.exposing = before.wheel.exposing
  named : after.wheel.named = before.wheel.named
  credit : after.wheel.credit = before.wheel.credit

theorem Watched.plain (h : WheelSound before) (hplain : Plain WheelQuiet before after) :
    Watched before after := { hplain.same with
  sound := h.plain hplain
  expected := by rw [plain_wheel hplain]
  exposing := by rw [plain_wheel hplain]
  named := by rw [plain_wheel hplain]
  credit := by rw [plain_wheel hplain] }

theorem Watched.trans {first second third : World} (h : Watched first second)
    (h' : Watched second third) : Watched first third where
  sound := h'.sound
  backend := h'.backend.trans h.backend
  exposure := h'.exposure.trans h.exposure
  videoParams := h'.videoParams.trans h.videoParams
  expected := h'.expected.trans h.expected
  exposing := h'.exposing.trans h.exposing
  named := h'.named.trans h.named
  credit := h'.credit.trans h.credit

theorem WheelView.read_fields (view : WheelView) (position : Option Nat) (now : Nat) :
    ∃ motion verified, view.read position now
      = { view with motion := motion, verified := verified } := by
  unfold WheelView.read
  split
  · exact ⟨_, _, rfl⟩
  · split <;> exact ⟨_, _, rfl⟩

theorem settle_eq (h : world.wheel.motion = world.host.wheelPending) (position : Option Nat)
    (now : Nat) :
    ∃ result, settle position now (world.log (.observed position now))
        = (result, (world.log (.observed position now)).set
          { world.host with wheelPending := (world.wheel.read position now).motion })
      ∧ (result = .done () → (world.wheel.read position now).motion = none →
        (world.wheel.read position now).verified = position) := by
  unfold WheelView.read
  cases hpending : world.host.wheelPending with
  | none =>
    rw [hpending] at h
    refine ⟨.done (), ?_, fun _ _ => by rw [h]⟩
    have hsame : { world.host with wheelPending := none } = world.host := by rw [← hpending]
    simp [settle, bind, Routine.andThen, host, Routine.act, hpending, h, Routine.ret, hsame,
      World.set, World.log]
  | some motion =>
    rw [hpending] at h
    cases hobserve : motion.observe position now with
    | error fault =>
      refine ⟨.failed fault, ?_, fun hdone => by cases hdone⟩
      have hsame : { world.host with wheelPending := some motion } = world.host := by
        rw [← hpending]
      simp [settle, bind, Routine.andThen, host, Routine.act, hpending, h, hobserve,
        Routine.ofExcept, Routine.fail, hsame, World.set, World.log]
    | ok observed =>
      obtain ⟨settled, next⟩ := observed
      refine ⟨.done (), ?_, ?_⟩
      · cases settled <;>
          simp [settle, bind, Routine.andThen, host, Routine.act, hpending, h, hobserve,
            Routine.ofExcept, Routine.ret, update, Routine.modify, World.set, World.log]
      · intro _ hmotion
        cases settled with
        | true => simp [h, hobserve]
        | false => simp [h, hobserve] at hmotion

theorem read_meets (h : WheelSound world) (position : Option Nat) (now : Nat) :
    (settle position now).Meets (world.log (.observed position now)) fun result after =>
      Watched world after ∧ (result = .done () → after.host.wheelPending = none →
        after.wheel.verified = position) := by
  obtain ⟨result, hsettle, hverified⟩ := settle_eq h.linked.motion position now
  obtain ⟨motion, verified, hread⟩ := world.wheel.read_fields position now
  have hwheel : (world.log (.observed position now)).wheel = world.wheel.read position now :=
    wheel_log _ _
  unfold Routine.Meets
  rw [hsettle]
  refine ⟨?_, fun hdone hnone => ?_⟩
  · refine ⟨⟨?_, ?_⟩, rfl, rfl, rfl, ?_, ?_, ?_, ?_⟩
    · rw [set_events, log_events, Monitor.kept_append]
      exact ⟨h.kept, trivial, trivial⟩
    · rw [wheel_set, hwheel]
      refine ⟨?_, rfl, ?_⟩
      · rw [hread]
        exact h.linked.expected
      · rw [hread]
        exact h.linked.exposing
    all_goals rw [wheel_set, hwheel, hread]
  · rw [wheel_set, hwheel]
    exact hverified hdone hnone

def Call.isQuiet : Call → Bool
  | .wheelMove _ _ => false
  | .start _ => false
  | .startVideo _ => false
  | .stop => false
  | _ => true

theorem wheelQuiet_call {name : Call} (h : name.isQuiet = true) (ok : Bool) :
    WheelQuiet (.called name ok) := by
  intro view
  cases name <;> first | exact ⟨rfl, trivial⟩ | cases h

theorem wheelQuiet_failedStop : WheelQuiet (.called .stop false) :=
  fun _ => ⟨rfl, trivial⟩

/-- What a successful status establishes, if it says that the wheel stands still. -/
structure Seen (status : WheelStatus) (after : World) : Prop where
  opened : after.host.backend.isSome = true
  still : status.moving = false →
    status.position.isSome = true ∧ after.wheel.verified = status.position

theorem wheelStatus_meets (h : WheelSound world) :
    wheelStatus.Meets world fun result after => Watched world after
      ∧ ∀ status, result = .done status → Seen status after := by
  unfold wheelStatus
  have hslots : slots.Meets world fun _ after => Plain WheelQuiet world after :=
    plain_slots (wheelQuiet_call rfl) world
  refine hslots.bind fun result first hfirst => ?_
  cases result with
  | failed error => exact ⟨.plain h hfirst, fun _ hdone => by cases hdone⟩
  | pending => exact ⟨.plain h hfirst, fun _ hdone => by cases hdone⟩
  | done slots =>
    simp only [continues_done, meets_bind]
    apply meets_call
    · intro _
      exact ⟨.plain h hfirst, fun _ hdone => by cases hdone⟩
    · intro _ message
      exact ⟨.plain h (hfirst.trans (.log first (wheelQuiet_call rfl false))),
        fun _ hdone => by cases hdone⟩
    · intro hopen
      have hquiet : WheelQuiet (.called .wheelPosition true) := wheelQuiet_call rfl true
      have hcalled := hfirst.trans (.log first hquiet)
      have hwatched := Watched.plain h hcalled
      simp only [continues_done, meets_bind, meets_ensure]
      split
      · simp only [continues_done, meets_bind, meets_log]
        refine (read_meets hwatched.sound _ _).mono fun result after hafter => ?_
        obtain ⟨hread, hverified⟩ := hafter
        have htotal := hwatched.trans hread
        cases result with
        | failed error => exact ⟨htotal, fun _ hdone => by cases hdone⟩
        | pending => exact ⟨htotal, fun _ hdone => by cases hdone⟩
        | done _ =>
          refine ⟨htotal, fun status hdone => ?_⟩
          cases hdone
          have hstays : after.host.backend.isSome = true := by
            rw [hread.backend]
            exact hopen
          refine ⟨hstays, fun hmoving => ?_⟩
          simp only [Bool.or_eq_false_iff, Option.isNone_eq_false_iff,
            Option.isSome_eq_false_iff, Option.isNone_iff_eq_none] at hmoving
          exact ⟨hmoving.1, hverified rfl hmoving.2⟩
      · exact ⟨hwatched, fun _ hdone => by cases hdone⟩

theorem verifyWheel_meets (h : WheelSound world) :
    verifyWheel.Meets world fun result after => Watched world after
      ∧ (result = .done () → after.wheel.Verified) := by
  unfold verifyWheel
  simp only [meets_bind, meets_host, continues_done]
  have hexpected := h.linked.expected
  cases hlatch : world.host.wheelExpected with
  | none =>
    refine ⟨.plain h (.refl world), fun _ position hposition => ?_⟩
    change world.wheel.expected = some position at hposition
    rw [hexpected, hlatch] at hposition
    cases hposition
  | some expected =>
    refine (wheelStatus_meets h).bind fun result after hafter => ?_
    obtain ⟨hwatched, hseen⟩ := hafter
    cases result with
    | failed error => exact ⟨hwatched, fun hdone => by cases hdone⟩
    | pending => exact ⟨hwatched, fun hdone => by cases hdone⟩
    | done status =>
      simp only [continues_done, meets_ensure]
      split
      · rename_i hstill
        simp only [Bool.and_eq_true, Bool.not_eq_eq_eq_not, Bool.not_true,
          decide_eq_true_eq] at hstill
        refine ⟨hwatched, fun _ position hposition => ?_⟩
        rw [hwatched.expected, hexpected, hlatch] at hposition
        cases hposition
        rw [((hseen status rfl).still hstill.1).2, hstill.2]
      · exact ⟨hwatched, fun hdone => by cases hdone⟩

/-! ## Verified starts -/

/-- The slot that the start of this command names was verified. -/
structure Cleared (world : World) : Prop where
  sound : WheelSound world
  verified : world.wheel.named = true → world.wheel.Verified

theorem Cleared.plain (h : Cleared before) (hplain : Plain WheelQuiet before after) :
    Cleared after where
  sound := h.sound.plain hplain
  verified := by
    rw [plain_wheel hplain]
    exact h.verified

theorem preserves_of_plain {task : Task α} (h : task.Keeps (Plain WheelQuiet)) :
    Preserves Cleared task :=
  fun world hworld => hworld.plain (h world)

theorem expectWheel_meets (h : WheelSound world) (hnamed : world.wheel.named = false)
    (wheelExpected : Option WheelExpected) :
    (expectWheel wheelExpected).Meets world fun result after => WheelSound after
      ∧ (result = .done () → Cleared after) := by
  unfold expectWheel
  cases wheelExpected with
  | none =>
    have hcleared : Cleared world := ⟨h, fun hname => by rw [hnamed] at hname; cases hname⟩
    exact ⟨h, fun _ => hcleared⟩
  | some expected =>
    refine (wheelStatus_meets h).bind fun result after hafter => ?_
    obtain ⟨hwatched, hseen⟩ := hafter
    cases result with
    | failed error => exact ⟨hwatched.sound, fun hdone => by cases hdone⟩
    | pending => exact ⟨hwatched.sound, fun hdone => by cases hdone⟩
    | done status =>
      simp only [continues_done, meets_bind, meets_ensure]
      split
      · split
        · simp only [continues_done, meets_bind, meets_update, meets_log]
          have hsound : WheelSound ((after.set
              { after.host with wheelExpected := some expected.position }).log
                (.expected expected.position)) := by
            refine ⟨?_, ?_⟩
            · rw [log_events, set_events, Monitor.kept_append]
              exact ⟨hwatched.sound.kept, trivial, trivial⟩
            · rw [wheel_log]
              exact ⟨rfl, hwatched.sound.linked.motion, hwatched.sound.linked.exposing⟩
          refine (verifyWheel_meets hsound).mono fun result last hlast => ?_
          exact ⟨hlast.1.sound, fun hdone => ⟨hlast.1.sound, fun _ => hlast.2 hdone⟩⟩
        · exact ⟨hwatched.sound, fun hdone => by cases hdone⟩
      · exact ⟨hwatched.sound, fun hdone => by cases hdone⟩

theorem Cleared.set (h : Cleared world) {owner : Host} (hlinked : WheelLinked owner world.wheel) :
    Cleared (world.set owner) :=
  ⟨h.sound.set hlinked, h.verified⟩

theorem stopActive_preserves : Preserves Cleared stopActive := by
  intro world h
  change stopActive.Meets world fun _ after => Cleared after
  unfold stopActive
  simp only [meets_bind, meets_update, continues_done]
  have hlinked := h.sound.linked
  have harmed : Cleared (world.set { world.host with ready := false, cancelled := true }) :=
    h.set { hlinked with }
  apply meets_call
  · exact fun _ => harmed
  · exact fun _ _ => harmed.plain (.log _ wheelQuiet_failedStop)
  · intro _
    simp only [continues_done, meets_update]
    refine ⟨⟨?_, ?_⟩, ?_⟩
    · simp only [set_events, log_events, Monitor.kept_append]
      exact ⟨h.sound.kept, trivial, trivial⟩
    · simp only [wheel_set, wheel_log]
      exact ⟨hlinked.expected, hlinked.motion, fun hexposing => by cases hexposing⟩
    · simp only [wheel_set, wheel_log]
      exact h.verified

theorem stop_preserves : Preserves Cleared stop := by
  unfold stop stopWith
  refine preserves_bind (preserves_bind preserves_host fun owner => ?_) fun _ => ?_
  · exact preserves_onlyIf stopActive_preserves
  · exact preserves_of_plain (plain_update fun owner => ⟨rfl, rfl, rfl, rfl, rfl, rfl, rfl⟩)

structure Armed (world : World) : Prop where
  cleared : Cleared world
  exposure : world.host.exposure.isSome = true

theorem Armed.plain (h : Armed before) (hplain : Plain WheelQuiet before after) : Armed after where
  cleared := h.cleared.plain hplain
  exposure := by
    rw [hplain.same.exposure]
    exact h.exposure

theorem armed_of_plain {task : Task α} (h : task.Keeps (Plain WheelQuiet)) : Preserves Armed task :=
  fun world hworld => hworld.plain (h world)

theorem Armed.set (h : Armed world) {owner : Host}
    (hexpected : owner.wheelExpected = world.host.wheelExpected)
    (hpending : owner.wheelPending = world.host.wheelPending)
    (hexposure : owner.exposure = world.host.exposure) : Armed (world.set owner) where
  cleared := h.cleared.set
    ⟨h.cleared.sound.linked.expected.trans hexpected.symm,
      h.cleared.sound.linked.motion.trans hpending.symm,
      fun _ => .inl (by rw [hexposure]; exact h.exposure)⟩
  exposure := by
    rw [set_host, hexposure]
    exact h.exposure

theorem arm_meets (h : Cleared world) (exposure : Exposure) :
    (arm exposure).Meets world fun _ after => Armed after := by
  unfold arm
  simp only [meets_bind, meets_update, continues_done, meets_log]
  refine ⟨⟨⟨?_, ?_⟩, ?_⟩, rfl⟩
  · simp only [set_events, log_events, Monitor.kept_append]
    exact ⟨h.sound.kept, trivial, trivial⟩
  · simp only [wheel_set, wheel_log, log_host, set_host]
    exact ⟨h.sound.linked.expected, h.sound.linked.motion, fun _ => .inl rfl⟩
  · simp only [wheel_set, wheel_log]
    exact h.verified

theorem Armed.dispatched {world : World} (h : Armed world) (event : Event)
    (hallows : world.wheel.Allows false event)
    (hview : world.wheel.observe event = { world.wheel with exposing := true }) :
    Armed (world.log event) where
  cleared :=
    { sound := h.cleared.sound.log hallows (by
        rw [hview]
        exact ⟨h.cleared.sound.linked.expected, h.cleared.sound.linked.motion,
          fun _ => .inl h.exposure⟩)
      verified := by
        rw [wheel_log, hview]
        exact h.cleared.verified }
  exposure := h.exposure

theorem start_preserves (exposure : Exposure) : Preserves Armed (call (.start exposure)) := by
  intro world h
  have hverified : false = true ∨ world.wheel.named = true → world.wheel.Verified := by
    simpa using h.cleared.verified
  change (call (.start exposure)).Meets world fun _ after => Armed after
  exact meets_call (fun _ => h)
    (fun _ _ => h.dispatched (.called (.start exposure) false) hverified rfl)
    (fun _ => h.dispatched (.called (.start exposure) true) hverified rfl)

theorem startVideo_preserves (exposure : Exposure) :
    Preserves Armed (call (.startVideo exposure)) := by
  intro world h
  have hverified : false = true ∨ world.wheel.named = true → world.wheel.Verified := by
    simpa using h.cleared.verified
  change (call (.startVideo exposure)).Meets world fun _ after => Armed after
  exact meets_call (fun _ => h)
    (fun _ _ => h.dispatched (.called (.startVideo exposure) false) hverified rfl)
    (fun _ => h.dispatched (.called (.startVideo exposure) true) hverified rfl)

theorem plain_rewrite (owner : Host) (kind : Nat) : (rewrite owner kind).Keeps (Plain WheelQuiet) :=
  plain_call_ret (wheelQuiet_call rfl)

theorem armed_then {task : Task Unit} {exposure : Exposure} (h : Preserves Armed task) :
    Preserves Cleared (do arm exposure; task : Task Unit) := by
  intro world hworld
  change (arm exposure >>= fun _ => task).Meets world fun _ after => Cleared after
  refine (arm_meets hworld exposure).bind fun result after harmed => ?_
  cases result with
  | failed error => exact harmed.cleared
  | pending => exact harmed.cleared
  | done _ => exact (h after harmed).cleared

theorem startStream_preserves (settings : VideoSettings) :
    Preserves Cleared (startStream settings) := by
  unfold startStream
  refine preserves_bind stop_preserves fun _ => armed_then ?_
  refine preserves_bind (startVideo_preserves _) fun _ => ?_
  refine preserves_bind preserves_host fun owner => ?_
  refine preserves_bind (armed_of_plain (plain_call (wheelQuiet_call rfl))) fun _ => ?_
  refine preserves_bind (armed_of_plain (plain_forEach (plain_rewrite owner) _)) fun _ => ?_
  refine preserves_bind (armed_of_plain (plain_setValue _ _)) fun _ => ?_
  exact fun world h => h.set rfl rfl rfl

theorem startVideo_cleared (request : Request) : Preserves Cleared (startVideo request) := by
  unfold startVideo
  refine preserves_bind preserves_host fun owner => ?_
  refine preserves_bind (preserves_onlyIf (startStream_preserves _)) fun _ => armed_then ?_
  exact fun world h => h.set rfl rfl rfl

theorem plain_update_cancelled (h : Cleared world) (cancelled : Bool) :
    Cleared (world.set { world.host with cancelled := cancelled }) :=
  h.set { h.sound.linked with }

theorem reinitialize_preserves : Preserves Cleared reinitialize := by
  unfold reinitialize initCamera
  refine preserves_bind preserves_host fun owner => ?_
  refine preserves_bind (preserves_of_plain (plain_onlyIf (plain_call_ret
    (wheelQuiet_call rfl)))) fun _ => ?_
  refine preserves_bind (preserves_of_plain (plain_forEach (plain_rewrite owner) _)) fun _ => ?_
  exact fun world h => plain_update_cancelled h false

theorem plain_setGain (gain : Int) : (setGain gain).Keeps (Plain WheelQuiet) := by
  unfold setGain
  refine plain_bind plain_host fun owner => plain_onlyIf ?_
  exact plain_bind (plain_call (wheelQuiet_call rfl)) fun _ => plain_setValue _ _

theorem startStill_cleared (request : Request) : Preserves Cleared (startStill request) := by
  unfold startStill
  refine preserves_bind preserves_host fun owner => ?_
  refine preserves_bind (preserves_onlyIf stop_preserves) fun _ => ?_
  refine preserves_bind preserves_host fun owner => ?_
  refine preserves_bind (preserves_onlyIf reinitialize_preserves) fun _ => ?_
  refine preserves_bind (preserves_of_plain (plain_setGain _)) fun _ => armed_then ?_
  refine preserves_bind (fun world h => h.set rfl rfl rfl) fun _ => ?_
  exact preserves_bind (start_preserves _) fun _ => preserves_ret _

theorem startCommand_meets (h : WheelSound world) (hnamed : world.wheel.named = false)
    (request : Request) : (start request).Meets world fun _ after => WheelSound after := by
  unfold start
  refine (expectWheel_meets h hnamed _).bind fun result after hafter => ?_
  cases result with
  | failed error => exact hafter.1
  | pending => exact hafter.1
  | done _ =>
    have hrest : Preserves Cleared (do
        let owner ← host
        Routine.ensure owner.exposure.isNone (.invalid "Prior acquisition is still active")
        dispatch request
        log (.accepted request.video)
        Routine.ret .null : Task Reply) := by
      refine preserves_bind preserves_host fun owner => ?_
      refine preserves_bind (preserves_ensure _ _) fun _ => ?_
      refine preserves_bind ?_ fun _ => preserves_bind ?_ fun _ => preserves_ret _
      · unfold dispatch
        split
        · exact startVideo_cleared request
        · exact startStill_cleared request
      · exact fun world hworld => hworld.plain (.log world fun _ => ⟨rfl, trivial⟩)
    exact (hrest after (hafter.2 rfl)).sound

theorem meets_of_cleared {task : Task α} (h : Preserves Cleared task) (hcleared : Cleared world) :
    task.Meets world fun _ after => WheelSound after :=
  (h world hcleared).sound

theorem WheelSound.moved (h : WheelSound world) (target now : Nat)
    (hcredit : world.wheel.credit = some target) (hexposing : world.wheel.exposing = false)
    (ok : Bool) : WheelSound ((world.set { world.host with wheelPending := some (.new target now) }).log
      (.called (.wheelMove target now) ok)) where
  kept := by
    rw [log_events, set_events, Monitor.kept_append]
    exact ⟨h.kept, ⟨hcredit, hexposing⟩, trivial⟩
  linked := by
    rw [wheel_log, wheel_set]
    exact ⟨h.linked.expected, rfl, h.linked.exposing⟩

theorem wheelMove_meets (h : WheelSound world) (position : Option Nat) :
    (wheelMove position).Meets world fun _ after => WheelSound after := by
  unfold wheelMove
  simp only [meets_bind, meets_host, continues_done, meets_ensure]
  split
  · rename_i hidle
    simp only [Bool.and_eq_true, Option.isNone_iff_eq_none] at hidle
    refine (wheelStatus_meets h).mono fun result after hafter => ?_
    obtain ⟨hwatched, hseen⟩ := hafter
    cases result with
    | failed error => exact hwatched.sound
    | pending => exact hwatched.sound
    | done status =>
      simp only [continues_done, meets_bind, meets_ensure]
      split
      · split
        · exact hwatched.sound
        · rename_i target _
          have hnotExposing : after.wheel.exposing = false := by
            by_contra hexposing
            have hheld := hwatched.sound.linked.exposing (by simpa using hexposing)
            rw [hwatched.exposure, hwatched.videoParams, hidle.1, hidle.2] at hheld
            simp at hheld
          simp only [continues_done, meets_bind, meets_update, meets_log]
          have haccepted : WheelSound ((after.set
              { after.host with wheelExpected := some target }).log
                (.moveAccepted target)) := by
            refine ⟨?_, ?_⟩
            · rw [log_events, set_events, Monitor.kept_append]
              exact ⟨hwatched.sound.kept, trivial, trivial⟩
            · rw [wheel_log]
              exact ⟨rfl, hwatched.sound.linked.motion, hwatched.sound.linked.exposing⟩
          split
          · exact haccepted
          · simp only [meets_bind, meets_sense, continues_done, meets_update]
            have hcredit : ((after.set { after.host with wheelExpected := some target }).log
                (.moveAccepted target)).wheel.credit = some target := by
              simp [WheelView.observe]
            have hquiet : ((after.set { after.host with wheelExpected := some target }).log
                (.moveAccepted target)).wheel.exposing = false := by
              simpa [WheelView.observe] using hnotExposing
            have hwritten := fun now => haccepted.moved target now hcredit hquiet
            apply meets_call
            · intro hclosed
              have hopen := (hseen status rfl).opened
              simp only [set_host, log_host] at hclosed
              simp [hclosed] at hopen
            · exact fun _ _ => hwritten _ false
            · exact fun _ => hwritten _ true
      · exact hwatched.sound
  · exact h

theorem WheelSound.delivered (h : WheelSound world) (exposure : Exposure)
    (hverified : world.wheel.Verified) (delivered : Option Nat) :
    WheelSound ((world.set
      { world.host with
        exposure := none
        cancelled := false
        videoDelivered := delivered }).log (.delivered exposure)) where
  kept := by
    rw [log_events, set_events, Monitor.kept_append]
    exact ⟨h.kept, hverified, trivial⟩
  linked := by
    rw [wheel_log, wheel_set]
    exact ⟨h.linked.expected, h.linked.motion, fun hexposing => by cases hexposing⟩

theorem download_meets (h : WheelSound world) :
    download.Meets world fun _ after => WheelSound after := by
  unfold download
  simp only [meets_bind, meets_host, continues_done]
  split
  · exact h
  · rename_i exposure _
    simp only [meets_bind, meets_ensure]
    split
    · have hbegun : WheelSound (world.set { world.host with ready := false, cancelled := true }) :=
        h.set { h.linked with }
      simp only [continues_done, meets_bind, meets_update]
      apply meets_call
      · exact fun _ => hbegun
      · exact fun _ _ => hbegun.plain (.log _ (wheelQuiet_call rfl false))
      · intro _
        have hcalled := hbegun.plain (.log _
          (show WheelQuiet (.called .download true) from wheelQuiet_call rfl true))
        simp only [continues_done]
        refine (verifyWheel_meets hcalled).bind fun result after hafter => ?_
        obtain ⟨hwatched, hverified⟩ := hafter
        cases result with
        | failed error => exact hwatched.sound
        | pending => exact hwatched.sound
        | done _ =>
          simp only [continues_done, meets_bind]
          cases frame world.host exposure _ with
          | error fault => exact hwatched.sound
          | ok pixels =>
            simp only [Routine.meets_ofExcept_ok, continues_done, meets_bind,
              meets_sense, meets_update, meets_log, meets_ret]
            exact hwatched.sound.delivered exposure (hverified rfl) _
    · exact h

theorem forget_preserves : Preserves Cleared forget := by
  intro world h
  change forget.Meets world fun _ after => Cleared after
  unfold forget
  simp only [meets_bind, meets_update, continues_done, meets_log]
  refine ⟨⟨?_, ?_⟩, fun hnamed => ?_⟩
  · simp only [log_events, set_events, Monitor.kept_append]
    exact ⟨h.sound.kept, trivial, trivial⟩
  · rw [wheel_log]
    exact ⟨rfl, rfl, fun hexposing => by cases hexposing⟩
  · rw [wheel_log] at hnamed
    cases hnamed

theorem power_cleared (off : Bool) : Preserves Cleared (power off) :=
  preserves_of_plain (plain_power (wheelQuiet_call rfl))

theorem close_preserves : Preserves Cleared close := by
  unfold close
  refine preserves_bind preserves_host fun owner => ?_
  split
  · exact preserves_ret _
  · refine preserves_bind (preserves_attempt stop_preserves) fun stopped => ?_
    refine preserves_bind (preserves_attempt (power_cleared true)) fun off => ?_
    refine preserves_bind forget_preserves fun _ => ?_
    exact preserves_bind (preserves_ofExcept _) fun _ => preserves_ofExcept _

theorem acquire_preserves : Preserves Cleared acquire := by
  intro world h
  change acquire.Meets world fun _ after => Cleared after
  unfold Routine.Meets acquire
  split
  · exact h.plain (.log world (wheelQuiet_call rfl false))
  · have hlogged := h.plain (.log world
      (show WheelQuiet (.called .open_ true) from wheelQuiet_call rfl true))
    have hlinked := hlogged.sound.linked
    exact hlogged.set { hlinked with }

theorem plain_readControl (limit : Nat × Int) : (readControl limit).Keeps (Plain WheelQuiet) := by
  unfold readControl
  refine plain_bind (plain_call (wheelQuiet_call rfl)) fun answer => ?_
  exact plain_bind (plain_ensure _ _) fun _ => plain_setValue _ _

theorem openCamera_preserves : Preserves Cleared openCamera := by
  unfold openCamera version
  refine preserves_bind preserves_host fun owner => ?_
  refine preserves_bind (preserves_ensure _ _) fun _ => ?_
  refine preserves_bind acquire_preserves fun _ => ?_
  refine preserves_bind (preserves_of_plain (plain_onlyIf (plain_forEach plain_readControl _)))
    fun _ => ?_
  refine preserves_bind (preserves_of_plain (plain_observe (wheelQuiet_call rfl))) fun _ => ?_
  refine preserves_bind (power_cleared true) fun _ => ?_
  refine preserves_bind (fun world h => plain_update_cancelled h false) fun _ => ?_
  exact preserves_of_plain (plain_onlyIf (plain_call_ret (wheelQuiet_call rfl)))

theorem plain_writeControl (kind : Nat) (value : Int) :
    (writeControl kind value).Keeps (Plain WheelQuiet) := by
  unfold writeControl
  refine plain_ite (plain_call_ret (wheelQuiet_call rfl)) (plain_ite (plain_ret _) ?_)
  refine plain_ite (plain_ite (plain_power (wheelQuiet_call rfl)) (plain_ret _)) (plain_fail _)

theorem plain_setControl (kind : Nat) (value : Int) :
    (setControl kind value).Keeps (Plain WheelQuiet) := by
  unfold setControl
  refine plain_bind plain_host fun owner => ?_
  split
  · exact plain_fail _
  · refine plain_bind (plain_ensure _ _) fun _ => plain_bind (plain_ensure _ _) fun _ => ?_
    refine plain_bind (plain_writeControl kind value) fun _ => ?_
    exact plain_bind (plain_setValue _ _) fun _ => plain_ret _

theorem tick_cleared : Preserves Cleared tick :=
  preserves_of_plain (plain_tick (wheelQuiet_call rfl) (wheelQuiet_call rfl))

theorem status_preserves : Preserves Cleared status := by
  unfold status
  refine preserves_bind preserves_host fun owner => ?_
  split
  · exact preserves_ret _
  · split
    · exact preserves_ret _
    · refine preserves_bind tick_cleared fun _ => ?_
      refine preserves_bind (preserves_of_plain (plain_call (wheelQuiet_call rfl)))
        fun answer => ?_
      refine preserves_bind (fun world h => ?_) fun _ => ?_
      · exact h.set
          { h.sound.linked with }
      · exact preserves_bind preserves_host fun _ => preserves_ret _

section

variable {Params : Type} (parse : (Nat → Option Int) → Params → Except Fault Request)

theorem perform_meets {world : World} (h : WheelSound world)
    (hnamed : world.wheel.named = false) (request : Command Params) :
    (perform parse request).Meets world fun _ after => WheelSound after := by
  have hcleared : Cleared world := ⟨h, fun hname => by rw [hnamed] at hname; cases hname⟩
  cases request with
  | wheelStatus =>
    refine (wheelStatus_meets h).bind fun result after hafter => ?_
    cases result <;> exact hafter.1.sound
  | wheelMove position => exact wheelMove_meets h position
  | open_ =>
    exact meets_of_cleared (preserves_bind openCamera_preserves fun _ => preserves_ret _)
      hcleared
  | get kind =>
    exact h.plain (plain_getControl kind (wheelQuiet_call rfl) world)
  | set kind value => exact h.plain (plain_setControl kind value world)
  | resumeCooling valid =>
    exact h.plain (plain_resumeCooling valid (wheelQuiet_call rfl) (wheelQuiet_call rfl) world)
  | validate params =>
    exact meets_of_cleared (preserves_bind preserves_host fun _ =>
      preserves_bind (preserves_ofExcept _) fun _ => preserves_ret _) hcleared
  | start params =>
    simp only [perform, meets_bind, meets_host, continues_done]
    cases parse world.host.values params with
    | error fault => exact h
    | ok request => exact startCommand_meets h hnamed request
  | status => exact meets_of_cleared status_preserves hcleared
  | download => exact download_meets h
  | stop =>
    exact meets_of_cleared (preserves_bind stop_preserves fun _ => preserves_ret _) hcleared
  | close =>
    exact meets_of_cleared (preserves_bind close_preserves fun _ => preserves_ret _) hcleared

theorem command_sound {world : World} (h : WheelSound world) (request : Command Params) :
    WheelSound (command parse request world).2 := by
  change (command parse request).Meets world fun _ after => WheelSound after
  unfold command
  simp only [meets_bind, meets_log, continues_done]
  rw [meets_attempt]
  have hasked : WheelSound (world.log .asked) := by
    refine h.log trivial ?_
    exact { h.linked with }
  have hnamed : (world.log .asked).wheel.named = false := by
    simp [WheelView.observe]
  have hblock : (do admissible request; perform parse request : Task Reply).Meets
      (world.log .asked) fun _ after => WheelSound after := by
    unfold admissible
    simp only [meets_bind, meets_host, continues_done, meets_ensure]
    split
    · exact perform_meets parse hasked hnamed request
    · exact hasked
  have hreplied : ∀ {after : World} (ok : Bool), WheelSound after →
      WheelSound (after.log (.replied request.isClose ok)) :=
    fun ok hafter => hafter.plain (.log _ fun _ => ⟨rfl, trivial⟩)
  refine hblock.mono fun result after hafter => ?_
  cases result with
  | done value => exact hreplied true hafter
  | failed error => exact hreplied false hafter
  | pending => exact hafter

theorem background_sound {world : World} (h : WheelSound world) :
    WheelSound (background world).2 := by
  have hidle : Plain WheelQuiet world (idle world).2 :=
    plain_idle (wheelQuiet_call rfl) (wheelQuiet_call rfl) (wheelQuiet_call rfl) world
  change background.Meets world fun _ after => WheelSound after
  unfold background
  simp only [meets_bind, meets_host, continues_done]
  split
  · exact h
  · simp only [meets_bind, meets_attempt]
    have hmeets : idle.Meets world fun _ after => WheelSound after := h.plain hidle
    refine hmeets.mono fun result after hafter => ?_
    cases result with
    | done value => exact hafter
    | failed error =>
      exact hafter.set { hafter.linked with }
    | pending => exact hafter

theorem run_sound {world : World} (h : WheelSound world) (ops : List (Option (Command Params))) :
    WheelSound (run parse world ops) := by
  induction ops generalizing world with
  | nil => exact h
  | cons op ops ih =>
    cases op with
    | none => exact ih (background_sound h)
    | some request => exact ih (command_sound parse h request)

theorem start_sound (direct : Bool) (answers : Nat → Answer) : WheelSound (.start direct answers) :=
  ⟨trivial, ⟨rfl, rfl, fun hexposing => by cases hexposing⟩⟩

/-- Frames and starts that name a slot are behind a verified wheel, and moves are written once
and not during an exposure. -/
theorem verifiedWheel (direct : Bool) (answers : Nat → Answer)
    (ops : List (Option (Command Params))) :
    (WheelView.monitor false).Kept .new (run parse (.start direct answers) ops).events :=
  (run_sound parse (start_sound direct answers) ops).kept

end

def fullFrame (values : Nat → Option Int) (wheelExpected : Option WheelExpected) :
    Except Fault Request :=
  .ok ⟨⟨1000, 9600, 6422, 0, 0, false⟩, false, (values 0).getD 0, 16, 0, 0, wheelExpected⟩

def atFirstSlot : Answer where
  error := none
  slots := 9
  position := some 0
  telemetry := some (0, 0)
  value := 30
  ready := false
  pixels := []
  now := 0
  due := false
  refresh := false

def moveAndStart : List Event :=
  (run fullFrame (.start true fun _ => atFirstSlot)
    [some .open_, some (.wheelMove (some 3)), some (.start none)]).events

/-- A start without an expected slot is dispatched behind a moving wheel. -/
theorem start_behind_moving_wheel : ¬(WheelView.monitor true).Kept .new moveAndStart := by
  intro hkept
  rw [Monitor.kept_iff] at hkept
  have hstart := hkept (moveAndStart.take 14) _ (moveAndStart.drop 15) rfl
  cases hstart (.inl rfl) 3 rfl

end Regain.Qhy
