import Regain.Lib.Monitor
import Regain.Zwo.Rotation

/-!
# A motion and its faults

The view is what an observer of the controller knows: whether a fault awaits Halt, what a check or
a requested start has run into, and how far an unwrapped rotation has come.  A start needs a
credit, which only a request or the arrival of a segment gives.
-/

namespace Regain.Zwo.Rotation

open Lib
open Routine (continues_done meets_attempt meets_bind meets_ensure)

def Motion.faulty (motion : Motion) (state : Status) (now : Nat) : Bool :=
  let position := state.mechanicalDegrees
  decide (state.error ≠ 0 ∨ position < min motion.start motion.target - 1 / 10
    ∨ max motion.start motion.target + 1 / 10 < position
    ∨ (position - motion.previous) * signum (motion.target - motion.start) < -(1 / 10)
    ∨ motion.deadline < now ∨ state.moving = false ∧ 1 / 10 < |position - motion.target|)

/-! ## The observer -/

/-- An unwrapped rotation, and the sum of its commanded segments. -/
structure Travel where
  requested : ℚ
  commanded : ℚ

def Travel.left (travel : Travel) : ℚ := travel.requested - travel.commanded

structure MotionView where
  /-- A fault that Halt has not acknowledged. -/
  faulted : Bool
  /-- The stop after a fault is due. -/
  mustStop : Bool
  /-- A check or a requested start is in progress. -/
  watching : Bool
  /-- The check or start has run into a fault. -/
  detected : Bool
  /-- A start is asked for and not yet written. -/
  credit : Bool
  travel : Option Travel
  /-- The reference that was written last. -/
  reference : Option ℚ
  /-- The rotation limit that was read last. -/
  limit : Option Nat

namespace MotionView

def new : MotionView where
  faulted := false
  mustStop := false
  watching := false
  detected := false
  credit := false
  travel := none
  reference := none
  limit := none

/-- A failed read or write; `every` takes it for a fault also outside of a check. -/
def failure (every : Bool) (view : MotionView) : MotionView :=
  { view with detected := view.detected || view.watching, faulted := view.faulted || every }

def outcome (every : Bool) (view : MotionView) (ok : Bool) : MotionView :=
  if ok then view else view.failure every

def arrives (view : MotionView) : Bool :=
  match view.travel with
  | none => false
  | some travel => decide (1 / 1000 < |travel.left|)

def started (view : MotionView) (target : ℚ) : MotionView :=
  { view with
    credit := false
    travel := view.travel.map fun travel =>
      { travel with commanded := travel.commanded + (target - view.reference.getD 0) } }

def observe (every : Bool) (view : MotionView) : Event → MotionView
  | .read none => view.failure every
  | .read (some report) => { view with limit := some report.limit }
  | .queried ok => view.outcome every ok
  | .wrote (.start target _) ok => (view.started target).outcome every ok
  | .wrote (.reference degrees) ok => { view with reference := some degrees }.outcome every ok
  | .wrote .stop ok => { view with mustStop := false }.outcome every ok
  | .wrote _ ok => view.outcome every ok
  | .moveAsked => { view with credit := true, travel := none, watching := true }
  | .rotationAsked amount => { view with credit := true, travel := some ⟨amount, 0⟩, watching := true }
  | .checking => { view with watching := true }
  | .observed motion state now =>
    if motion.faulty state now then { view with detected := true }
    else if state.moving then view
    else { view with credit := view.arrives }
  | .supervised => { view with watching := false }
  | .ended => { view with watching := false, travel := none }
  | .faulted =>
    { view with
      faulted := true
      mustStop := true
      watching := false
      detected := false
      credit := false
      travel := none }
  | .stopAsked => { view with credit := false, travel := none }
  | .halted => { view with faulted := false }

/-- A start goes to a target in range, and a segment at most a quarter turn from the reference. -/
structure MayStart (view : MotionView) (target : ℚ) (bound : Nat) : Prop where
  credit : view.credit = true
  faulted : view.faulted = false
  detected : view.detected = false
  limit : view.limit = some bound
  range : 0 ≤ target ∧ target ≤ bound
  segment : ∀ travel, view.travel = some travel →
    ∃ reference, view.reference = some reference ∧ |target - reference| ≤ 90

def Admits (view : MotionView) : Event → Prop
  | .wrote (.start target limit) _ => view.MayStart target limit
  | .supervised => view.detected = false
  | .ended => view.detected = false ∧
      ∀ travel, view.travel = some travel → |travel.left| ≤ 1 / 1000
  | .moveAsked => view.detected = false
  | .rotationAsked _ => view.detected = false
  | .checking => view.detected = false
  | .stopAsked => view.detected = false
  | .halted => view.detected = false
  | _ => True

def Allows (view : MotionView) (event : Event) : Prop :=
  (view.mustStop = true → ∃ ok, event = .wrote .stop ok) ∧ view.Admits event

def monitor (every : Bool) : Monitor MotionView Event where
  observe := observe every
  Allows := Allows

end MotionView

def World.motionView (world : World) : MotionView :=
  (MotionView.monitor false).view .new world.events

/-! ## The invariant -/

structure Steady (world : World) : Prop where
  kept : (MotionView.monitor false).Kept .new world.events
  mustStop : world.motionView.mustStop = false

/-- Between requests the controller remembers a fault and the rest of a rotation. -/
structure MotionLinked (owner : Controller) (view : MotionView) : Prop where
  watching : view.watching = false
  detected : view.detected = false
  credit : view.credit = false
  faulted : view.faulted = true → owner.error.isSome = true ∧ owner.motion = none
  travel : ∀ travel, view.travel = some travel → ∃ motion, owner.motion = some motion ∧
    motion.segmented = true ∧ motion.remaining = travel.left
  segmented : ∀ motion, owner.motion = some motion → motion.segmented = true →
    view.travel.isSome = true

structure MotionSound (world : World) : Prop where
  steady : Steady world
  linked : MotionLinked world.controller world.motionView

variable {world : World}

@[simp] theorem meets_controller {post : Progress String Controller → World → Prop} :
    controller.Meets world post ↔ post (.done world.controller) world :=
  Iff.rfl

@[simp] theorem meets_sense {post : Progress String Answer → World → Prop} :
    sense.Meets world post ↔ post (.done world.answer) world :=
  Iff.rfl

variable {event : Event}

@[simp] theorem meets_log {post : Progress String Unit → World → Prop} :
    (log event).Meets world post ↔ post (.done ()) (world.log event) :=
  Iff.rfl

@[simp] theorem meets_update {f : Controller → Controller}
    {post : Progress String Unit → World → Prop} :
    (update f).Meets world post ↔ post (.done ()) (world.set (f world.controller)) :=
  Iff.rfl

@[simp] theorem log_controller (world : World) (event : Event) :
    (world.log event).controller = world.controller :=
  rfl

@[simp] theorem motionView_set (world : World) (owner : Controller) :
    (world.set owner).motionView = world.motionView :=
  rfl

@[simp] theorem motionView_log (world : World) (event : Event) :
    (world.log event).motionView = world.motionView.observe false event := by
  simp [World.motionView, World.log, MotionView.monitor]

theorem Steady.log (h : Steady world) (hadmits : world.motionView.Admits event)
    (hstop : (world.motionView.observe false event).mustStop = false) :
    Steady (world.log event) where
  kept := by
    change (MotionView.monitor false).Kept .new (world.events ++ [event])
    rw [Monitor.kept_append]
    exact ⟨h.kept, ⟨fun hdue => absurd (h.mustStop.symm.trans hdue) (by decide), hadmits⟩, trivial⟩
  mustStop := by rw [motionView_log]; exact hstop

theorem Steady.set (h : Steady world) (owner : Controller) : Steady (world.set owner) :=
  ⟨h.kept, h.mustStop⟩

def Event.Plain : Event → Prop
  | .read _ => True
  | .queried _ => True
  | .wrote (.start _ _) _ => False
  | .wrote .stop _ => False
  | .wrote _ _ => True
  | _ => False

/-! ## What leaves the supervision alone -/

/-- The views differ in what was read and written last; a fault is detected only in a check. -/
structure Kin (before after : MotionView) : Prop where
  faulted : after.faulted = before.faulted
  mustStop : after.mustStop = before.mustStop
  watching : after.watching = before.watching
  credit : after.credit = before.credit
  travel : after.travel = before.travel
  detected : after.detected = true → before.detected = true ∨ before.watching = true

theorem Kin.refl (view : MotionView) : Kin view view :=
  ⟨rfl, rfl, rfl, rfl, rfl, .inl⟩

theorem Kin.trans {first second third : MotionView} (h : Kin first second)
    (h' : Kin second third) : Kin first third where
  faulted := h'.faulted.trans h.faulted
  mustStop := h'.mustStop.trans h.mustStop
  watching := h'.watching.trans h.watching
  credit := h'.credit.trans h.credit
  travel := h'.travel.trans h.travel
  detected := by
    intro hdetected
    rcases h'.detected hdetected with hbefore | hbefore
    · exact h.detected hbefore
    · exact .inr (h.watching ▸ hbefore)

theorem kin_outcome (view : MotionView) (ok : Bool) : Kin view (view.outcome false ok) := by
  cases ok with
  | true => exact .refl view
  | false =>
    refine ⟨?_, rfl, rfl, rfl, rfl, ?_⟩
    · simp [MotionView.outcome, MotionView.failure]
    · simp [MotionView.outcome, MotionView.failure]

theorem kin_observe (view : MotionView) (h : event.Plain) :
    Kin view (view.observe false event) := by
  cases event with
  | read report =>
    cases report with
    | none => exact kin_outcome view false
    | some report => exact ⟨rfl, rfl, rfl, rfl, rfl, .inl⟩
  | queried ok => exact kin_outcome view ok
  | wrote write ok =>
    cases write with
    | start target limit => exact h.elim
    | stop => exact h.elim
    | reference degrees =>
      have hstep : Kin view { view with reference := some degrees } :=
        ⟨rfl, rfl, rfl, rfl, rfl, .inl⟩
      exact hstep.trans (kin_outcome _ ok)
    | beep enabled => exact kin_outcome view ok
    | reverse enabled => exact kin_outcome view ok
    | rename text => exact kin_outcome view ok
    | limit degrees => exact kin_outcome view ok
  | _ => exact h.elim

theorem admits_of_plain (view : MotionView) (h : event.Plain) : view.Admits event := by
  cases event with
  | wrote write ok =>
    cases write with
    | start target limit => exact h.elim
    | _ => trivial
  | read report => trivial
  | queried ok => trivial
  | _ => exact h.elim

/-- The supervision is as before, and every event was allowed. -/
structure Plain (before after : World) : Prop where
  motion : after.controller.motion = before.controller.motion
  error : after.controller.error = before.controller.error
  kin : Kin before.motionView after.motionView
  steady : Steady before → Steady after

theorem Plain.refl (world : World) : Plain world world :=
  ⟨rfl, rfl, .refl _, id⟩

theorem Plain.trans {first second third : World} (h : Plain first second)
    (h' : Plain second third) : Plain first third where
  motion := h'.motion.trans h.motion
  error := h'.error.trans h.error
  kin := h.kin.trans h'.kin
  steady := fun hsteady => h'.steady (h.steady hsteady)

theorem Plain.log (world : World) (h : event.Plain) : Plain world (world.log event) where
  motion := rfl
  error := rfl
  kin := by rw [motionView_log]; exact kin_observe _ h
  steady := by
    intro hsteady
    have hkin := kin_observe world.motionView h
    exact hsteady.log (admits_of_plain _ h) (hkin.mustStop.trans hsteady.mustStop)

theorem plain_update {f : Controller → Controller}
    (hmotion : ∀ owner, (f owner).motion = owner.motion)
    (herror : ∀ owner, (f owner).error = owner.error) : (update f).Keeps Plain :=
  fun _ => ⟨hmotion _, herror _, .refl _, fun hsteady => hsteady.set _⟩

theorem plain_updateCamera (f : Caa → Caa) : (updateCamera f).Keeps Plain :=
  plain_update (fun _ => rfl) fun _ => rfl

theorem plain_controller : controller.Keeps Plain := .refl

theorem plain_ret (value : α) : (Routine.ret value : Task α).Keeps Plain := .refl

theorem plain_fail (error : String) : (Routine.fail error : Task α).Keeps Plain := .refl

theorem plain_ensure (condition : Bool) (error : String) :
    (Routine.ensure condition error : Task Unit).Keeps Plain :=
  Routine.keeps_ensure .refl condition error

theorem plain_bind {task : Task α} {next : α → Task β} (h : task.Keeps Plain)
    (hnext : ∀ value, (next value).Keeps Plain) : (task >>= next).Keeps Plain :=
  Routine.Keeps.bind (fun _ _ _ => .trans) h hnext

theorem plain_query (reply : Answer → Option α) : (query reply).Keeps Plain := by
  intro world
  unfold query
  split
  · exact .log world trivial
  · exact .log world trivial

theorem plain_read : read.Keeps Plain := by
  intro world
  unfold read
  split
  · exact .log world trivial
  · exact .log world trivial

theorem plain_write {report : Write} (h : ∀ ok, (Event.wrote report ok).Plain) :
    (write report).Keeps Plain :=
  fun world => .log world (h _)

theorem plain_writeChecked {report : Write} (h : ∀ ok, (Event.wrote report ok).Plain) :
    (writeChecked report).Keeps Plain :=
  plain_bind (plain_write h) fun _ => plain_ensure _ _

theorem plain_settings : settings.Keeps Plain := by
  unfold settings
  refine plain_bind (plain_query _) fun reply => plain_bind (plain_ensure _ _) fun _ => ?_
  exact plain_bind (plain_updateCamera _) fun _ => plain_ret _

theorem plain_resolveReverse (condition : Bool) :
    (onlyIf condition resolveReverse).Keeps Plain := by
  cases condition with
  | false => exact plain_ret _
  | true => exact plain_bind plain_settings fun _ => plain_ret _

theorem plain_status : status.Keeps Plain := by
  unfold status
  refine plain_bind plain_controller fun owner => ?_
  refine plain_bind (plain_resolveReverse _) fun _ => plain_bind plain_read fun report => ?_
  refine plain_bind (plain_ensure _ _) fun _ => plain_bind (plain_updateCamera _) fun _ => ?_
  refine plain_bind (plain_ensure _ _) fun _ => plain_bind plain_controller fun owner => ?_
  exact plain_ret _

theorem plain_idle : idle.Keeps Plain := by
  unfold idle
  refine plain_bind plain_status fun state => plain_bind (plain_ensure _ _) fun _ => ?_
  exact plain_bind (plain_ensure _ _) fun _ => plain_ret _

theorem plain_sync (degrees : ℚ) : (sync degrees).Keeps Plain := by
  unfold sync
  refine plain_bind (plain_ensure _ _) fun _ => plain_bind plain_idle fun state => ?_
  exact plain_updateCamera _

theorem plain_restoreLogicalOffset (offset : ℚ) : (restoreLogicalOffset offset).Keeps Plain := by
  unfold restoreLogicalOffset
  refine plain_bind (plain_ensure _ _) fun _ => plain_bind plain_idle fun state => ?_
  exact plain_updateCamera _

theorem plain_setMechanicalReference (degrees : ℚ) :
    (setMechanicalReference degrees).Keeps Plain := by
  unfold setMechanicalReference
  refine plain_bind (plain_ensure _ _) fun _ => plain_bind plain_idle fun state => ?_
  refine plain_bind (plain_ensure _ _) fun _ => plain_bind (plain_updateCamera _) fun _ => ?_
  refine plain_bind (plain_write fun _ => trivial) fun written => ?_
  refine plain_bind plain_status fun after => plain_bind (plain_updateCamera _) fun _ => ?_
  exact plain_bind (plain_ensure _ _) fun _ => plain_ensure _ _

theorem plain_setBeep (enabled : Bool) : (setBeep enabled).Keeps Plain := by
  unfold setBeep
  refine plain_bind plain_idle fun _ => plain_bind (plain_writeChecked fun _ => trivial) fun _ => ?_
  exact plain_bind plain_settings fun _ => plain_ensure _ _

theorem plain_setReverse (enabled : Bool) : (setReverse enabled).Keeps Plain := by
  unfold setReverse
  refine plain_bind plain_idle fun state => plain_bind (plain_updateCamera _) fun _ => ?_
  refine plain_bind (plain_write fun _ => trivial) fun written => ?_
  refine plain_bind plain_settings.attempt fun result => plain_bind (plain_ensure _ _) fun _ => ?_
  exact plain_bind (Routine.keeps_ofExcept .refl result) fun _ => plain_ensure _ _

theorem plain_setAlias (text : List UInt8) : (setAlias text).Keeps Plain := by
  unfold setAlias
  refine plain_bind (plain_ensure _ _) fun _ => plain_bind plain_idle fun _ => ?_
  refine plain_bind (plain_writeChecked fun _ => trivial) fun _ => ?_
  exact plain_bind (plain_query _) fun _ => plain_ensure _ _

theorem plain_setLimit (degrees : Nat) : (setLimit degrees).Keeps Plain := by
  unfold setLimit
  refine plain_bind (plain_ensure _ _) fun _ => plain_bind plain_idle fun _ => ?_
  refine plain_bind (plain_ensure _ _) fun _ => ?_
  refine plain_bind (plain_writeChecked fun _ => trivial) fun _ => ?_
  exact plain_bind plain_status fun _ => plain_ensure _ _

theorem plain_required (value : Option α) (message : String) :
    (required value message).Keeps Plain := by
  cases value with
  | none => exact plain_fail _
  | some value => exact plain_ret _

theorem MotionSound.plain {before after : World} (h : MotionSound before)
    (hplain : Plain before after) : MotionSound after where
  steady := hplain.steady h.steady
  linked :=
    { watching := hplain.kin.watching.trans h.linked.watching
      detected := by
        by_contra hdetected
        have hafter : after.motionView.detected = true := by simpa using hdetected
        rcases hplain.kin.detected hafter with hbefore | hbefore
        · rw [h.linked.detected] at hbefore
          cases hbefore
        · rw [h.linked.watching] at hbefore
          cases hbefore
      credit := hplain.kin.credit.trans h.linked.credit
      faulted := by
        rw [hplain.kin.faulted, hplain.error, hplain.motion]
        exact h.linked.faulted
      travel := by
        rw [hplain.kin.travel, hplain.motion]
        exact h.linked.travel
      segmented := by
        rw [hplain.kin.travel, hplain.motion]
        exact h.linked.segmented }

/-! ## Reads and writes that succeeded -/

/-- Every read and write has succeeded, and the reference is as before. -/
structure Clean (before after : World) : Prop where
  plain : Plain before after
  detected : after.motionView.detected = before.motionView.detected
  reference : after.motionView.reference = before.motionView.reference

theorem Clean.refl (world : World) : Clean world world :=
  ⟨.refl world, rfl, rfl⟩

theorem Clean.trans {first second third : World} (h : Clean first second)
    (h' : Clean second third) : Clean first third where
  plain := h.plain.trans h'.plain
  detected := h'.detected.trans h.detected
  reference := h'.reference.trans h.reference

def Tidy (world : World) (P : α → World → Prop) : Progress String α → World → Prop
  | .done value, after => Clean world after ∧ P value after
  | .failed _, after => Plain world after
  | .pending, _ => False

theorem tidy_then {task : Task α} {next : α → Task β} {P : α → World → Prop}
    {post : Progress String β → World → Prop} (h : task.Meets world (Tidy world P))
    (hfail : ∀ error after, Plain world after → post (.failed error) after)
    (hnext : ∀ value mid, Clean world mid → P value mid → (next value).Meets mid post) :
    (task >>= next).Meets world post := by
  refine h.bind fun result mid hmid => ?_
  cases result with
  | done value => exact hnext value mid hmid.1 hmid.2
  | failed error => exact hfail error mid hmid
  | pending => exact hmid.elim

theorem tidy_bind {task : Task α} {next : α → Task β} {P : α → World → Prop}
    {Q : β → World → Prop} (h : task.Meets world (Tidy world P))
    (hnext : ∀ value mid, Clean world mid → P value mid → (next value).Meets mid (Tidy mid Q)) :
    (task >>= next).Meets world (Tidy world Q) := by
  refine tidy_then h (fun _ _ hplain => hplain) fun value mid hclean hvalue => ?_
  refine (hnext value mid hclean hvalue).mono fun result after hafter => ?_
  cases result with
  | done value => exact ⟨hclean.trans hafter.1, hafter.2⟩
  | failed error => exact hclean.plain.trans hafter
  | pending => exact hafter.elim

section

variable {world : World}

theorem tidy_ret (value : α) : (Routine.ret value : Task α).Meets world
    (Tidy world fun result after => result = value ∧ after = world) :=
  ⟨.refl world, rfl, rfl⟩

theorem tidy_ensure (condition : Bool) (error : String) :
    (Routine.ensure condition error : Task Unit).Meets world
      (Tidy world fun _ after => condition = true ∧ after = world) := by
  cases condition with
  | true => exact ⟨.refl world, rfl, rfl⟩
  | false => exact Plain.refl world

theorem tidy_controller : controller.Meets world (Tidy world fun _ after => after = world) :=
  ⟨.refl world, rfl⟩

theorem tidy_updateCamera (f : Caa → Caa) : (updateCamera f).Meets world
    (Tidy world fun _ after => after.motionView = world.motionView) :=
  ⟨⟨plain_updateCamera f world, rfl, rfl⟩, rfl⟩

theorem tidy_query (reply : Answer → Option α) :
    (query reply).Meets world (Tidy world fun _ _ => True) := by
  unfold Routine.Meets query
  split
  · exact Plain.log world trivial
  · refine ⟨⟨.log world trivial, ?_, ?_⟩, trivial⟩
    · rw [motionView_log]; rfl
    · rw [motionView_log]; rfl

theorem tidy_read : read.Meets world
    (Tidy world fun report after => after.motionView.limit = some report.limit) := by
  unfold Routine.Meets read
  split
  · exact Plain.log world trivial
  · next report _ =>
    refine ⟨⟨.log world trivial, ?_, ?_⟩, ?_⟩
    · rw [motionView_log]; rfl
    · rw [motionView_log]; rfl
    · change (world.log (.read (some report))).motionView.limit = some report.limit
      rw [motionView_log]
      rfl

theorem tidy_settings : settings.Meets world (Tidy world fun _ _ => True) := by
  unfold settings
  refine tidy_bind (tidy_query _) fun reply mid _ _ => ?_
  refine tidy_bind (tidy_ensure _ _) fun _ mid _ _ => ?_
  refine tidy_bind (tidy_updateCamera _) fun _ mid _ _ => ?_
  exact (tidy_ret _).mono fun result after h => by
    cases result with
    | done value => exact ⟨h.1, trivial⟩
    | failed error => exact h
    | pending => exact h.elim

theorem tidy_resolveReverse (condition : Bool) :
    (onlyIf condition resolveReverse).Meets world (Tidy world fun _ _ => True) := by
  cases condition with
  | false => exact ⟨.refl world, trivial⟩
  | true =>
    refine tidy_bind tidy_settings fun _ mid _ _ => ?_
    exact ⟨.refl mid, trivial⟩

theorem tidy_status : status.Meets world
    (Tidy world fun state after => after.motionView.limit = some state.limitDegrees) := by
  unfold status
  refine tidy_bind tidy_controller fun owner _ _ _ => ?_
  refine tidy_bind (tidy_resolveReverse _) fun _ _ _ _ => ?_
  refine tidy_bind tidy_read fun report _ _ hlimit => ?_
  refine tidy_bind (tidy_ensure _ _) fun _ _ _ hangle => ?_
  refine tidy_bind (tidy_updateCamera _) fun _ _ _ hview => ?_
  refine tidy_bind (tidy_ensure _ _) fun _ _ _ hvalid => ?_
  refine tidy_bind tidy_controller fun owner last _ hsame => ?_
  refine ⟨.refl last, ?_⟩
  change last.motionView.limit = some report.limit
  rw [hsame, hvalid.2, hview, hangle.2]
  exact hlimit

theorem tidy_idle : idle.Meets world
    (Tidy world fun state after => after.motionView.limit = some state.limitDegrees) := by
  unfold idle
  refine tidy_bind tidy_status fun state _ _ hlimit => ?_
  refine tidy_bind (tidy_ensure _ _) fun _ _ _ hmoving => ?_
  refine tidy_bind (tidy_ensure _ _) fun _ last _ herror => ?_
  refine ⟨.refl last, ?_⟩
  change last.motionView.limit = some state.limitDegrees
  rw [herror.2, hmoving.2]
  exact hlimit

end

/-! ## The reference -/

def Placed (world : World) (degrees : ℚ) : Progress String Unit → World → Prop
  | .done _, after => Plain world after ∧
      after.motionView.detected = world.motionView.detected ∧
      after.motionView.reference = some degrees
  | .failed _, after => Plain world after
  | .pending, _ => False

theorem setMechanicalReference_meets (world : World) (degrees : ℚ) :
    (setMechanicalReference degrees).Meets world (Placed world degrees) := by
  unfold setMechanicalReference
  refine tidy_then (tidy_ensure _ _) (fun _ _ h => h) fun _ first hfirst _ => ?_
  refine tidy_then tidy_idle (fun _ _ h => hfirst.plain.trans h) ?_
  intro state second hsecond _
  have hsecond := hfirst.trans hsecond
  refine tidy_then (tidy_ensure _ _) (fun _ _ h => hsecond.plain.trans h) ?_
  intro _ third hthird _
  have hthird := hsecond.trans hthird
  refine tidy_then (tidy_updateCamera _) (fun _ _ h => hthird.plain.trans h) ?_
  intro _ fourth hfourth _
  have hfourth := hthird.trans hfourth
  -- After the write the outcome decides only at the end, when the position has been read.
  rw [meets_bind]
  change Routine.Continues _ _ (.done fourth.answer.written)
    (fourth.log (.wrote (.reference degrees) fourth.answer.written))
  rw [continues_done]
  generalize fourth.answer.written = written
  have hwrote : Plain world (fourth.log (.wrote (.reference degrees) written)) :=
    hfourth.plain.trans (.log fourth trivial)
  refine tidy_then tidy_status (fun _ _ h => hwrote.trans h) ?_
  intro state' fifth hfifth _
  refine tidy_then (tidy_updateCamera _)
    (fun _ _ h => (hwrote.trans hfifth.plain).trans h) ?_
  intro _ sixth hsixth _
  have hsixth := hfifth.trans hsixth
  refine tidy_then (tidy_ensure _ _)
    (fun _ _ h => (hwrote.trans hsixth.plain).trans h) ?_
  intro _ seventh hseventh hacknowledged
  have hseventh := hsixth.trans hseventh
  refine (tidy_ensure _ _).mono fun result after hafter => ?_
  cases result with
  | failed error => exact (hwrote.trans hseventh.plain).trans hafter
  | pending => exact hafter.elim
  | done value =>
    have hlast := hseventh.trans hafter.1
    rw [hacknowledged.1] at hlast
    refine ⟨hwrote.trans (hseventh.plain.trans hafter.1.plain), ?_, ?_⟩
    · rw [hlast.detected, motionView_log]
      exact hfourth.detected
    · rw [hlast.reference, motionView_log]
      rfl

/-! ## Motions -/

/-- A check or a requested start that has not run into a fault. -/
structure Watched (world : World) : Prop where
  steady : Steady world
  watching : world.motionView.watching = true
  faulted : world.motionView.faulted = false
  detected : world.motionView.detected = false

theorem Watched.clean {before after : World} (h : Watched before) (hclean : Clean before after) :
    Watched after where
  steady := hclean.plain.steady h.steady
  watching := hclean.plain.kin.watching.trans h.watching
  faulted := hclean.plain.kin.faulted.trans h.faulted
  detected := hclean.detected.trans h.detected

/-- The check or start has failed; the supervised motion is as before. -/
structure Failed (before after : World) : Prop where
  steady : Steady after
  motion : after.controller.motion = before.controller.motion

structure Departed (before : World) (target : ℚ) (after : World) : Prop where
  watched : Watched after
  credit : after.motionView.credit = false
  travel : after.motionView.travel = before.motionView.travel.map fun travel =>
    { travel with commanded := travel.commanded + (target - before.motionView.reference.getD 0) }
  motion : after.controller.motion = before.controller.motion

def Departs (before : World) (target : ℚ) : Progress String Unit → World → Prop
  | .done _, after => Departed before target after
  | .failed _, after => Failed before after
  | .pending, _ => False

theorem moveMechanical_meets (h : Watched world)
    (hcredit : world.motionView.credit = true) (target : ℚ)
    (hsegment : ∀ travel, world.motionView.travel = some travel →
      ∃ reference, world.motionView.reference = some reference ∧ |target - reference| ≤ 90) :
    (moveMechanical target).Meets world (Departs world target) := by
  have hfail : ∀ mid, Clean world mid → ∀ (error : String) (after : World), Plain mid after →
      Failed world after := by
    intro mid hmid error after hplain
    have hall := hmid.plain.trans hplain
    exact ⟨hall.steady h.steady, hall.motion⟩
  unfold moveMechanical
  refine tidy_then (tidy_ensure _ _) (hfail world (.refl world)) fun _ first hfirst hangle => ?_
  refine tidy_then tidy_idle (hfail first hfirst) fun state second hsecond hlimit => ?_
  have hsecond := hfirst.trans hsecond
  refine tidy_then (tidy_ensure _ _) (hfail second hsecond) fun _ third hthird hinside => ?_
  have hthird := hsecond.trans hthird
  have hwatched := h.clean hthird
  have hangle' := hangle.1
  have hinside' := hinside.1
  simp only [decide_eq_true_eq] at hangle' hinside'
  have hmay : third.motionView.MayStart target state.limitDegrees :=
    { credit := hthird.plain.kin.credit.trans hcredit
      faulted := hwatched.faulted
      detected := hwatched.detected
      limit := by rw [hinside.2]; exact hlimit
      range := ⟨hangle'.1, hinside'⟩
      segment := by
        rw [hthird.plain.kin.travel, hthird.reference]
        exact hsegment }
  have hsteady : ∀ ok, Steady (third.log (.wrote (.start target state.limitDegrees) ok)) := by
    intro ok
    refine hwatched.steady.log hmay ?_
    cases ok with
    | true => exact hwatched.steady.mustStop
    | false => exact hwatched.steady.mustStop
  have hdeparted : Departed world target
      (third.log (.wrote (.start target state.limitDegrees) true)) := by
    refine ⟨⟨hsteady true, ?_, ?_, ?_⟩, ?_, ?_, hthird.plain.motion⟩
    · rw [motionView_log]; exact hwatched.watching
    · rw [motionView_log]; exact hwatched.faulted
    · rw [motionView_log]; exact hwatched.detected
    · rw [motionView_log]; rfl
    · rw [motionView_log, ← hthird.plain.kin.travel, ← hthird.reference]; rfl
  unfold writeChecked
  rw [meets_bind]
  change Routine.Continues _ _ (.done third.answer.written) (third.log (.wrote _ third.answer.written))
  rw [continues_done]
  cases third.answer.written with
  | false => exact ⟨hsteady false, hthird.plain.motion⟩
  | true => exact hdeparted

theorem abs_segment (remaining : ℚ) :
    |(segmentTravel remaining).2 - (segmentTravel remaining).1| ≤ 90 := by
  have hnonneg : 0 ≤ segmentAmount remaining := le_min (abs_nonneg _) (by norm_num)
  have hle : segmentAmount remaining ≤ 90 := min_le_right _ _
  unfold segmentTravel
  split
  · rw [sub_zero, abs_of_nonneg hnonneg]
    exact hle
  · rw [zero_sub, abs_neg, abs_of_nonneg hnonneg]
    exact hle

theorem segment_travel {remaining : ℚ} (h : remaining ≠ 0) :
    (segmentTravel remaining).2 - (segmentTravel remaining).1
      = signum remaining * segmentAmount remaining := by
  unfold segmentTravel signum
  by_cases hpositive : 0 < remaining
  · rw [if_pos hpositive, if_neg (not_lt.mpr hpositive.le)]
    ring
  · have hnegative : remaining < 0 := lt_of_le_of_ne (not_lt.mp hpositive) h
    rw [if_neg hpositive, if_pos hnegative]
    ring

def Supervises (before : World) : Progress String Unit → World → Prop
  | .done _, after => MotionSound after
  | .failed _, after => Failed before after
  | .pending, _ => False

theorem segment_meets (h : Watched world)
    (hcredit : world.motionView.credit = true) {travel : Travel}
    (htravel : world.motionView.travel = some travel) (hleft : travel.left ≠ 0) :
    (segment travel.left).Meets world (Supervises world) := by
  unfold segment
  refine (setMechanicalReference_meets world _).bind fun result placed hplaced => ?_
  cases result with
  | failed error => exact ⟨hplaced.steady h.steady, hplaced.motion⟩
  | pending => exact hplaced.elim
  | done value =>
  obtain ⟨hplain, hdetected, hreference⟩ := hplaced
  have hwatched : Watched placed :=
    ⟨hplain.steady h.steady, hplain.kin.watching.trans h.watching,
      hplain.kin.faulted.trans h.faulted, hdetected.trans h.detected⟩
  have htravel' : placed.motionView.travel = some travel := hplain.kin.travel.trans htravel
  rw [continues_done]
  refine (moveMechanical_meets hwatched (hplain.kin.credit.trans hcredit) _ ?_).bind
    fun result departed hdeparted => ?_
  · intro other hother
    exact ⟨_, hreference, abs_segment travel.left⟩
  cases result with
  | failed error => exact ⟨hdeparted.steady, hdeparted.motion.trans hplain.motion⟩
  | pending => exact hdeparted.elim
  | done value =>
  have hgone := hdeparted.travel
  rw [htravel', hreference] at hgone
  simp only [Option.map_some, Option.getD_some, segment_travel hleft] at hgone
  rw [continues_done, meets_bind, meets_sense, continues_done,
    meets_bind, meets_update, continues_done, meets_log]
  refine ⟨((hdeparted.watched.steady.set _).log hdeparted.watched.detected
    hdeparted.watched.steady.mustStop), ?_⟩
  rw [motionView_log, motionView_set]
  refine ⟨rfl, hdeparted.watched.detected, hdeparted.credit, ?_, ?_, ?_⟩
  · intro hfaulted
    exact absurd (hdeparted.watched.faulted.symm.trans hfaulted) (by decide)
  · intro rest hrest
    refine ⟨_, rfl, rfl, ?_⟩
    have hsame := hgone.symm.trans hrest
    cases hsame
    simp only [Travel.left]
    ring
  · intro motion _ _
    change departed.motionView.travel.isSome = true
    rw [hgone]
    rfl

/-! ## Supervised advances -/

/-- The motion that is checked, and the rotation that it belongs to. -/
structure Checked (world : World) (motion : Motion) : Prop where
  watched : Watched world
  credit : world.motionView.credit = false
  travel : ∀ travel, world.motionView.travel = some travel →
    motion.segmented = true ∧ motion.remaining = travel.left
  segmented : motion.segmented = true → world.motionView.travel.isSome = true

def Advances : Progress String Unit → World → Prop
  | .done _, after => MotionSound after
  | .failed _, after => Steady after
  | .pending, _ => False

theorem arrive_meets {motion : Motion} (h : Watched world)
    (hcredit : world.motionView.credit = world.motionView.arrives)
    (htravel : ∀ travel, world.motionView.travel = some travel →
      motion.segmented = true ∧ motion.remaining = travel.left)
    (hsegmented : motion.segmented = true → world.motionView.travel.isSome = true) :
    (arrive motion).Meets world Advances := by
  unfold arrive
  rw [meets_bind, meets_update, continues_done]
  generalize hafter : world.set _ = after
  have hview : after.motionView = world.motionView := by rw [← hafter]; rfl
  have hmotion : after.controller.motion = none := by rw [← hafter]; rfl
  have hwatched : Watched after := by rw [← hafter]; exact { h with steady := h.steady.set _ }
  rw [← hview] at hcredit htravel hsegmented
  cases hsome : after.motionView.travel with
  | none =>
    have hwhole : motion.segmented = false := by
      by_contra hnot
      have hlinked := hsegmented (by simpa using hnot)
      rw [hsome] at hlinked
      cases hlinked
    rw [hwhole, Bool.false_and]
    change MotionSound (after.log .ended)
    refine ⟨hwatched.steady.log ⟨hwatched.detected, ?_⟩ hwatched.steady.mustStop, ?_⟩
    · intro travel hsome'
      rw [hsome] at hsome'
      cases hsome'
    · rw [motionView_log]
      refine ⟨rfl, hwatched.detected, ?_, ?_, ?_, ?_⟩
      · change after.motionView.credit = false
        rw [hcredit, MotionView.arrives, hsome]
      · intro hfaulted
        exact absurd (hwatched.faulted.symm.trans hfaulted) (by decide)
      · intro travel htravel'
        cases htravel'
      · intro other hother
        exact absurd (hmotion.symm.trans hother) (by simp)
  | some travel =>
    obtain ⟨hpart, hleft⟩ := htravel travel hsome
    have harrives : after.motionView.arrives = decide (1 / 1000 < |travel.left|) := by
      rw [MotionView.arrives, hsome]
    rw [hpart, Bool.true_and, hleft]
    rw [harrives] at hcredit
    by_cases hfar : 1 / 1000 < |travel.left|
    · rw [if_pos (decide_eq_true hfar)]
      have hne : travel.left ≠ 0 := by
        intro hzero
        rw [hzero, abs_zero] at hfar
        norm_num at hfar
      refine (segment_meets hwatched (hcredit.trans (decide_eq_true hfar)) hsome hne).mono ?_
      intro result last hlast
      cases result with
      | done value => exact hlast
      | failed error => exact hlast.steady
      | pending => exact hlast.elim
    · rw [if_neg (by simpa using hfar)]
      change MotionSound (after.log .ended)
      refine ⟨hwatched.steady.log ⟨hwatched.detected, ?_⟩ hwatched.steady.mustStop, ?_⟩
      · intro other hother
        rw [hsome] at hother
        cases hother
        exact not_lt.mp hfar
      · rw [motionView_log]
        refine ⟨rfl, hwatched.detected, ?_, ?_, ?_, ?_⟩
        · change after.motionView.credit = false
          rw [hcredit]
          exact decide_eq_false hfar
        · intro hfaulted
          exact absurd (hwatched.faulted.symm.trans hfaulted) (by decide)
        · intro other hother
          cases hother
        · intro other hother
          exact absurd (hmotion.symm.trans hother) (by simp)

theorem faulty_eq_false {motion : Motion} {state : Status} {now : Nat} (herror : state.error = 0)
    (hinside : min motion.start motion.target - 1 / 10 ≤ state.mechanicalDegrees
      ∧ state.mechanicalDegrees ≤ max motion.start motion.target + 1 / 10)
    (hdirection : -(1 / 10) ≤ (state.mechanicalDegrees - motion.previous)
      * signum (motion.target - motion.start)) (hdeadline : now ≤ motion.deadline)
    (harrived : state.moving = false → |state.mechanicalDegrees - motion.target| ≤ 1 / 10) :
    motion.faulty state now = false := by
  unfold Motion.faulty
  rw [decide_eq_false_iff_not]
  rintro (hfault | hfault | hfault | hfault | hfault | ⟨hstill, hfault⟩)
  · exact hfault herror
  · exact absurd hinside.1 (not_le.mpr hfault)
  · exact absurd hinside.2 (not_le.mpr hfault)
  · exact absurd hdirection (not_le.mpr hfault)
  · omega
  · exact absurd (harrived hstill) (not_le.mpr hfault)

theorem ensure_then {condition : Bool} {error : String} {next : Unit → Task α}
    {post : Progress String α → World → Prop} (hfail : post (.failed error) world)
    (hnext : condition = true → (next ()).Meets world post) :
    (Routine.ensure condition error >>= next).Meets world post := by
  rw [meets_bind, meets_ensure]
  cases condition with
  | true => exact hnext rfl
  | false => exact hfail

theorem advance_meets {motion : Motion} (h : Checked world motion) :
    (advance motion).Meets world Advances := by
  unfold advance
  refine tidy_then tidy_status (fun _ _ hplain => hplain.steady h.watched.steady)
    fun state mid hclean _ => ?_
  rw [meets_bind, meets_sense, continues_done]
  rw [meets_bind, meets_log, continues_done]
  have hwatched := h.watched.clean hclean
  generalize hnow : mid.answer.now = now
  have hstop : (mid.motionView.observe false (.observed motion state now)).mustStop = false := by
    change (if _ then _ else if _ then _ else _ : MotionView).mustStop = false
    split
    · exact hwatched.steady.mustStop
    · split <;> exact hwatched.steady.mustStop
  have hsteady : Steady (mid.log (.observed motion state now)) := hwatched.steady.log trivial hstop
  refine ensure_then hsteady fun herror => ensure_then hsteady fun hinside => ?_
  refine ensure_then hsteady fun hdirection => ?_
  simp only [decide_eq_true_eq] at herror hinside hdirection
  rw [meets_bind, meets_update, continues_done]
  generalize hafter : (mid.log _).set _ = after
  have hsteady' : Steady after := hafter ▸ hsteady.set _
  refine ensure_then hsteady' fun hdeadline => ?_
  simp only [decide_eq_true_eq] at hdeadline
  have hview : after.motionView = mid.motionView.observe false (.observed motion state now) := by
    rw [← hafter, motionView_set, motionView_log]
  have hmotion : after.controller.motion
      = some { motion with previous := state.mechanicalDegrees } := by
    rw [← hafter]
    rfl
  have htravel : ∀ travel, mid.motionView.travel = some travel →
      motion.segmented = true ∧ motion.remaining = travel.left := by
    rw [hclean.plain.kin.travel]
    exact h.travel
  have hsegmented : motion.segmented = true → mid.motionView.travel.isSome = true := by
    rw [hclean.plain.kin.travel]
    exact h.segmented
  cases hmoving : state.moving with
  | true =>
    have hsound : motion.faulty state now = false :=
      faulty_eq_false herror hinside hdirection hdeadline fun hstill => by
        rw [hmoving] at hstill
        cases hstill
    have hview' : after.motionView = mid.motionView := by
      rw [hview]
      simp [MotionView.observe, hsound, hmoving]
    rw [if_pos rfl]
    change MotionSound (after.log .supervised)
    refine ⟨hsteady'.log (hview' ▸ hwatched.detected) (hview' ▸ hwatched.steady.mustStop), ?_⟩
    rw [motionView_log, hview', log_controller]
    refine ⟨rfl, hwatched.detected, ?_, ?_, ?_, ?_⟩
    · exact hclean.plain.kin.credit.trans h.credit
    · intro hfaulted
      exact absurd (hwatched.faulted.symm.trans hfaulted) (by decide)
    · intro travel hsome
      exact ⟨_, hmotion, (htravel travel hsome).1, (htravel travel hsome).2⟩
    · intro other hother hpart
      cases hmotion.symm.trans hother
      exact hsegmented hpart
  | false =>
    rw [if_neg (by simp)]
    refine ensure_then hsteady' fun harrived => ?_
    simp only [decide_eq_true_eq] at harrived
    have hsound : motion.faulty state now = false :=
      faulty_eq_false herror hinside hdirection hdeadline fun _ => harrived
    have hview' : after.motionView = { mid.motionView with credit := mid.motionView.arrives } := by
      rw [hview]
      simp [MotionView.observe, hsound, hmoving]
    refine arrive_meets ⟨hsteady', ?_, ?_, ?_⟩ ?_ ?_ ?_
    · rw [hview']; exact hwatched.watching
    · rw [hview']; exact hwatched.faulted
    · rw [hview']; exact hwatched.detected
    · rw [hview']; rfl
    · rw [hview']; exact htravel
    · rw [hview']; exact hsegmented

/-! ## Stops -/

def World.stopped (world : World) (ok : Bool) : World :=
  (world.log .faulted).log (.wrote .stop ok)

theorem attempt_then {task : Task α} {next : Except String α → Task β}
    {mid : Progress String α → World → Prop} {post : Progress String β → World → Prop}
    (h : task.Meets world mid) (hpending : ∀ after, ¬mid .pending after)
    (hok : ∀ value after, mid (.done value) after → (next (.ok value)).Meets after post)
    (herror : ∀ message after, mid (.failed message) after →
      (next (.error message)).Meets after post) : (task.attempt >>= next).Meets world post := by
  rw [meets_bind, meets_attempt]
  refine h.mono fun result after hafter => ?_
  cases result with
  | done value => exact hok value after hafter
  | failed message => exact herror message after hafter
  | pending => exact absurd hafter (hpending after)

theorem stopped_meets {next : Except String Unit → Task α} {post : Progress String α → World → Prop}
    (hnext : ∀ ok result, (next result).Meets (world.stopped ok) post) :
    (do log .faulted; let stopped ← stop.attempt; next stopped).Meets world post := by
  rw [meets_bind, meets_log, continues_done]
  rw [meets_bind, meets_attempt]
  unfold stop writeChecked
  rw [meets_bind]
  change Routine.Meets _ ((world.log .faulted).log (.wrote .stop (world.log .faulted).answer.written)) _
  cases (world.log .faulted).answer.written with
  | true => exact hnext true _
  | false => exact hnext false _

theorem sound_of_stopped (h : Steady world) (ok : Bool) {owner : Controller}
    (hmotion : owner.motion = none) (herror : owner.error.isSome = true) :
    MotionSound ((world.stopped ok).set owner) where
  steady := by
    refine Steady.set ⟨?_, ?_⟩ owner
    · change (MotionView.monitor false).Kept .new ((world.events ++ [.faulted]) ++ [.wrote .stop ok])
      rw [Monitor.kept_append, Monitor.kept_append]
      refine ⟨⟨h.kept, ⟨fun hdue => ?_, trivial⟩, trivial⟩, ⟨fun _ => ⟨ok, rfl⟩, trivial⟩, trivial⟩
      exact absurd (h.mustStop.symm.trans hdue) (by decide)
    · cases ok <;> simp [World.stopped, MotionView.observe, MotionView.outcome, MotionView.failure]
  linked := by
    rw [motionView_set, World.stopped, motionView_log, motionView_log]
    cases ok with
    | true =>
      refine ⟨rfl, rfl, rfl, fun _ => ⟨herror, hmotion⟩, fun travel htravel => ?_, ?_⟩
      · cases htravel
      · intro motion hsome
        cases hmotion.symm.trans hsome
    | false =>
      refine ⟨rfl, rfl, rfl, fun _ => ⟨herror, hmotion⟩, fun travel htravel => ?_, ?_⟩
      · cases htravel
      · intro motion hsome
        cases hmotion.symm.trans hsome

theorem tick_sound (h : MotionSound world) : tick.Meets world fun _ after => MotionSound after := by
  unfold tick
  rw [meets_bind, meets_controller, continues_done]
  cases hmotion : world.controller.motion with
  | none => exact h
  | some motion =>
    dsimp only
    rw [meets_bind, meets_log, continues_done]
    have hfaulted : world.motionView.faulted = false := by
      by_contra hnot
      have hnone := (h.linked.faulted (by simpa using hnot)).2
      rw [hmotion] at hnone
      cases hnone
    have hchecked : Checked (world.log .checking) motion := by
      refine ⟨⟨h.steady.log h.linked.detected h.steady.mustStop, ?_, ?_, ?_⟩, ?_, ?_, ?_⟩
      · rw [motionView_log]; rfl
      · rw [motionView_log]; exact hfaulted
      · rw [motionView_log]; exact h.linked.detected
      · rw [motionView_log]; exact h.linked.credit
      · rw [motionView_log]
        intro travel htravel
        obtain ⟨same, hsame, hlinked⟩ := h.linked.travel travel htravel
        cases hmotion.symm.trans hsame
        exact hlinked
      · rw [motionView_log]
        exact h.linked.segmented motion hmotion
    refine attempt_then (advance_meets hchecked) (fun _ hpending => hpending) ?_ ?_
    · exact fun value after hafter => hafter
    · intro message after hafter
      dsimp only
      rw [meets_bind, meets_update, continues_done]
      unfold fault
      exact stopped_meets fun ok result => sound_of_stopped (hafter.set _) ok rfl rfl

/-! ## Requests -/

structure AtRest (world : World) : Prop where
  sound : MotionSound world
  motion : world.controller.motion = none
  error : world.controller.error = none

theorem AtRest.plain {before after : World} (h : AtRest before) (hplain : Plain before after) :
    AtRest after :=
  ⟨h.sound.plain hplain, hplain.motion.trans h.motion, hplain.error.trans h.error⟩

theorem AtRest.faulted (h : AtRest world) : world.motionView.faulted = false := by
  by_contra hnot
  have herror := (h.sound.linked.faulted (by simpa using hnot)).1
  rw [h.error] at herror
  cases herror

theorem rest_then {task : Task α} {next : α → Task Unit} (h : AtRest world)
    (htask : task.Keeps Plain) (hnext : ∀ value mid, AtRest mid →
      (next value).Meets mid fun _ after => MotionSound after) :
    (task >>= next).Meets world fun _ after => MotionSound after := by
  have hmeets : task.Meets world fun _ after => AtRest after := h.plain (htask world)
  refine hmeets.bind fun result mid hmid => ?_
  cases result with
  | done value => exact hnext value mid hmid
  | failed error => exact hmid.sound
  | pending => exact hmid.sound

def Begins (before : World) (P : World → Prop) : Progress String Unit → World → Prop
  | .done _, after => P after
  | .failed _, after => Failed before after
  | .pending, _ => False

theorem begin_meets {start : Task Unit} {next : Unit → Task Unit} {remark : String}
    {P : World → Prop} (hmotion : world.controller.motion = none)
    (hstart : start.Meets world (Begins world P))
    (hnext : ∀ value after, P after → (next value).Meets after fun _ last => MotionSound last) :
    (begin_ start remark >>= next).Meets world fun _ after => MotionSound after := by
  rw [meets_bind]
  unfold begin_
  refine attempt_then hstart (fun _ hpending => hpending) hnext ?_
  intro message after hafter
  dsimp only
  refine stopped_meets fun ok result => ?_
  exact sound_of_stopped hafter.steady ok (hafter.motion.trans hmotion) rfl

theorem begin_only {start : Task Unit} {remark : String} (hmotion : world.controller.motion = none)
    (hstart : start.Meets world (Begins world MotionSound)) :
    (begin_ start remark).Meets world fun _ after => MotionSound after := by
  unfold begin_
  refine attempt_then hstart (fun _ hpending => hpending) (fun _ _ hafter => hafter) ?_
  intro message after hafter
  dsimp only
  refine stopped_meets fun ok result => ?_
  exact sound_of_stopped hafter.steady ok (hafter.motion.trans hmotion) rfl

theorem watched_asked (h : AtRest world) (hadmits : world.motionView.Admits event)
    (hview : world.motionView.observe false event
      = { world.motionView with
          credit := true
          travel := (world.motionView.observe false event).travel
          watching := true }) : Watched (world.log event) where
  steady := h.sound.steady.log hadmits (by rw [hview]; exact h.sound.steady.mustStop)
  watching := by rw [motionView_log, hview]
  faulted := by rw [motionView_log, hview]; exact h.faulted
  detected := by rw [motionView_log, hview]; exact h.sound.linked.detected

theorem rotateUnwrapped_sound (h : AtRest world) (degrees : Option ℚ) :
    (rotateUnwrapped degrees).Meets world fun _ after => MotionSound after := by
  unfold rotateUnwrapped
  refine rest_then h (plain_required _ _) fun amount mid h => ?_
  refine ensure_then h.sound fun hamount => ?_
  refine rest_then h plain_status fun state mid h => ?_
  refine rest_then h (plain_ensure _ _) fun _ mid h => ?_
  refine rest_then h plain_settings fun settings mid h => ?_
  refine rest_then h (plain_update (fun _ => rfl) fun _ => rfl) fun _ mid h => ?_
  rw [meets_bind, meets_log, continues_done]
  have hwatched : Watched (mid.log (.rotationAsked amount)) :=
    watched_asked h h.sound.linked.detected rfl
  have hne : (⟨amount, 0⟩ : Travel).left ≠ 0 := by
    simp only [decide_eq_true_eq] at hamount
    rw [Travel.left, sub_zero]
    exact hamount.1
  have hsegment := segment_meets hwatched (by rw [motionView_log]; rfl)
    (by rw [motionView_log]; rfl) hne
  rw [Travel.left, sub_zero] at hsegment
  refine begin_only h.motion (hsegment.mono fun result after hafter => ?_)
  cases result with
  | done value => exact hafter
  | failed error => exact hafter
  | pending => exact hafter.elim

theorem move_sound (h : AtRest world) (kind : Move) (degrees : Option ℚ) :
    (move kind degrees).Meets world fun _ after => MotionSound after := by
  unfold move
  refine rest_then h (plain_required _ _) fun degrees mid h => ?_
  refine rest_then h plain_status fun state mid h => ?_
  refine rest_then h plain_settings fun settings mid h => ?_
  refine rest_then h ?_ fun target mid h => ?_
  · cases kind with
    | mechanical => exact plain_ret _
    | logical => exact plain_bind (plain_ensure _ _) fun _ => plain_ret _
    | relative => exact plain_bind (plain_ensure _ _) fun _ => plain_ret _
  refine rest_then h (plain_ensure _ _) fun _ mid h => ?_
  refine rest_then h (plain_ensure _ _) fun _ mid h => ?_
  rw [meets_bind, meets_log, continues_done]
  have hwatched : Watched (mid.log .moveAsked) := watched_asked h h.sound.linked.detected rfl
  have hview : (mid.log .moveAsked).motionView.travel = none := by rw [motionView_log]; rfl
  have hstart := moveMechanical_meets hwatched (by rw [motionView_log]; rfl) target
    (fun travel htravel => by rw [hview] at htravel; cases htravel)
  have hbegins : (moveMechanical target).Meets (mid.log .moveAsked)
      (Begins (mid.log .moveAsked) (Departed (mid.log .moveAsked) target)) := by
    refine hstart.mono fun result after hafter => ?_
    cases result with
    | done value => exact hafter
    | failed error => exact hafter
    | pending => exact hafter.elim
  refine begin_meets h.motion hbegins fun _ after hafter => ?_
  have htravel : after.motionView.travel = none := by rw [hafter.travel, hview]; rfl
  rw [meets_bind, meets_sense, continues_done]
  rw [meets_bind, meets_update, continues_done, meets_log]
  refine ⟨(hafter.watched.steady.set _).log hafter.watched.detected
    hafter.watched.steady.mustStop, ?_⟩
  rw [motionView_log, motionView_set]
  refine ⟨rfl, hafter.watched.detected, hafter.credit, ?_, ?_, ?_⟩
  · intro hfaulted
    exact absurd (hafter.watched.faulted.symm.trans hfaulted) (by decide)
  · intro travel hsome
    cases htravel.symm.trans hsome
  · intro motion hsome hpart
    cases hsome
    cases hpart

theorem rest_only {task : Task Unit} (h : AtRest world) (htask : task.Keeps Plain) :
    task.Meets world fun _ after => MotionSound after :=
  (h.plain (htask world)).sound

theorem act_sound (h : AtRest world) (request : Request) :
    (act request).Meets world fun _ after => MotionSound after := by
  cases request with
  | rotateUnwrapped degrees => exact rotateUnwrapped_sound h degrees
  | moveMechanical degrees => exact move_sound h .mechanical degrees
  | moveTo degrees => exact move_sound h .logical degrees
  | moveRelative degrees => exact move_sound h .relative degrees
  | sync degrees =>
    refine rest_only h (plain_bind (plain_required _ _) fun degrees => ?_)
    exact plain_bind (plain_sync degrees) fun _ => plain_update (fun _ => rfl) fun _ => rfl
  | restoreReference offset =>
    refine rest_only h (plain_bind (plain_required _ _) fun offset => ?_)
    refine plain_bind (plain_restoreLogicalOffset offset) fun _ => ?_
    exact plain_bind plain_status fun _ => plain_update (fun _ => rfl) fun _ => rfl
  | reference degrees =>
    exact rest_only h (plain_bind (plain_required _ _) fun degrees =>
      plain_setMechanicalReference degrees)
  | resetOrigin => exact rest_only h (plain_setMechanicalReference 0)
  | beep enabled =>
    exact rest_only h (plain_bind (plain_required _ _) fun enabled => plain_setBeep enabled)
  | reverse enabled =>
    exact rest_only h (plain_bind (plain_required _ _) fun enabled => plain_setReverse enabled)
  | rename text =>
    exact rest_only h (plain_bind (plain_required _ _) fun text => plain_setAlias text)
  | limit degrees =>
    exact rest_only h (plain_bind (plain_required _ _) fun degrees => plain_setLimit degrees)
  | status => exact h.sound
  | identity => exact h.sound
  | settings => exact h.sound
  | stop => exact h.sound
  | unknown => exact h.sound

/-! ## Runs -/

theorem ready_meets (h : MotionSound world) : ready.Meets world fun result after =>
      MotionSound after ∧ ∀ value, result = .done value → AtRest after := by
  unfold ready
  rw [meets_bind, meets_controller, continues_done]
  have hrefused : ∀ message, MotionSound world ∧
      ∀ value, (.failed message : Progress String Unit) = .done value → AtRest world :=
    fun message => ⟨h, fun _ hdone => by cases hdone⟩
  refine ensure_then (hrefused _) fun herror => ensure_then (hrefused _) fun hmotion => ?_
  have hrest : AtRest world := ⟨h, by simpa using hmotion, by simpa using herror⟩
  have hplain : (status >>= fun s => Routine.ensure (!s.moving && decide (s.error = 0))
      "CAA is moving or reports a fault" : Task Unit).Keeps Plain :=
    plain_bind plain_status fun _ => plain_ensure _ _
  have hafter := hrest.plain (hplain world)
  exact ⟨hafter.sound, fun _ _ => hafter⟩

theorem stop_meets (h : MotionSound world) : stop.Meets world fun _ after => MotionSound after ∧
      after.controller.motion = world.controller.motion := by
  unfold stop writeChecked
  rw [meets_bind]
  change Routine.Continues _ _ (.done world.answer.written) (world.log (.wrote .stop world.answer.written))
  rw [continues_done]
  generalize world.answer.written = ok
  have hview : (world.log (.wrote .stop ok)).motionView = world.motionView := by
    rw [motionView_log]
    have hmust := h.steady.mustStop
    have hdetected := h.linked.detected
    have hwatching := h.linked.watching
    generalize world.motionView = view at hmust hdetected hwatching ⊢
    cases view
    cases ok <;>
      simp_all [MotionView.observe, MotionView.outcome, MotionView.failure]
  have hsound : MotionSound (world.log (.wrote .stop ok)) := by
    refine ⟨h.steady.log trivial ?_, ?_⟩
    · rw [← motionView_log, hview]
      exact h.steady.mustStop
    · rw [hview]
      exact h.linked
  cases ok with
  | true => exact ⟨hsound, rfl⟩
  | false => exact ⟨hsound, rfl⟩

theorem halt_sound (h : MotionSound world) : halt.Meets world fun _ after => MotionSound after := by
  unfold halt
  rw [meets_bind, meets_update, continues_done]
  rw [meets_bind, meets_log, continues_done]
  generalize hstopping : (world.set _).log .stopAsked = stopping
  have hmotion : stopping.controller.motion = none := by rw [← hstopping]; rfl
  have hsound : MotionSound stopping := by
    rw [← hstopping]
    refine ⟨(h.steady.set _).log h.linked.detected h.steady.mustStop, ?_⟩
    rw [motionView_log, motionView_set]
    refine ⟨h.linked.watching, h.linked.detected, rfl, ?_, ?_, ?_⟩
    · intro hfaulted
      exact ⟨(h.linked.faulted hfaulted).1, rfl⟩
    · intro travel hsome
      cases hsome
    · intro motion hsome
      cases hsome
  refine (stop_meets hsound).bind fun result after hafter => ?_
  cases result with
  | failed error => exact hafter.1
  | pending => exact hafter.1
  | done value =>
    rw [continues_done, meets_bind, meets_update, continues_done, meets_log]
    have hnone : after.controller.motion = none := hafter.2.trans hmotion
    refine ⟨(hafter.1.steady.set _).log hafter.1.linked.detected hafter.1.steady.mustStop, ?_⟩
    rw [motionView_log, motionView_set]
    refine { hafter.1.linked with faulted := ?_ }
    intro hfaulted
    cases hfaulted

theorem supervised_sound {task : Task Unit} (h : MotionSound world)
    (htask : ∀ mid, MotionSound mid → task.Meets mid fun _ after => MotionSound after) :
    (supervised task).Meets world fun _ after => MotionSound after := by
  unfold supervised
  refine (tick_sound h).bind fun result mid hmid => ?_
  cases result with
  | done value => exact htask mid hmid
  | failed error => exact hmid
  | pending => exact hmid

theorem supervised_plain {task : Task Unit} (h : MotionSound world)
    (htask : task.Keeps Plain) : (supervised task).Meets world fun _ after => MotionSound after :=
  supervised_sound h fun mid hmid => hmid.plain (htask mid)

theorem settled_sound (h : MotionSound world) (request : Request) :
    (supervised (settleFirst (act request))).Meets world fun _ after => MotionSound after := by
  refine supervised_sound h fun mid hmid => ?_
  unfold settleFirst
  refine (ready_meets hmid).bind fun result after hafter => ?_
  cases result with
  | done value => exact act_sound (hafter.2 value rfl) request
  | failed error => exact hafter.1
  | pending => exact hafter.1

theorem request_sound (h : MotionSound world) (asked : Request) :
    (request asked).Meets world fun _ after => MotionSound after := by
  unfold request
  cases asked with
  | stop => exact halt_sound h
  | status => exact supervised_plain h (plain_bind plain_status fun _ => plain_ret _)
  | identity => exact supervised_plain h (plain_bind (plain_query _) fun _ => plain_ret _)
  | settings => exact supervised_plain h (plain_bind plain_settings fun _ => plain_ret _)
  | _ => exact settled_sound h _

theorem step_sound (h : MotionSound world) (op : Option Request) : MotionSound (step world op) := by
  cases op with
  | none => exact tick_sound h
  | some asked => exact request_sound h asked

theorem run_sound (h : MotionSound world) (ops : List (Option Request)) :
    MotionSound (run world ops) := by
  induction ops generalizing world with
  | nil => exact h
  | cons op ops ih => exact ih (step_sound h op)

theorem start_sound (camera : Caa) (targetLogical : ℚ) (answers : Nat → Answer) :
    MotionSound (start camera targetLogical answers) where
  steady := ⟨trivial, rfl⟩
  linked := ⟨rfl, rfl, rfl, fun hfaulted => (by cases hfaulted), fun _ hsome => (by cases hsome),
    fun _ hsome => (by cases hsome)⟩

/-- Starts are asked for, in range and written once; a fault of a check or of a requested start is
answered with a stop, and nothing starts before Halt. -/
theorem supervisedMotion (camera : Caa) (targetLogical : ℚ) (answers : Nat → Answer)
    (ops : List (Option Request)) :
    (MotionView.monitor false).Kept .new (run (start camera targetLogical answers) ops).events ∧
      (run (start camera targetLogical answers) ops).motionView.mustStop = false ∧
      (run (start camera targetLogical answers) ops).motionView.detected = false := by
  have hsound := run_sound (start_sound camera targetLogical answers) ops
  exact ⟨hsound.steady.kept, hsound.steady.mustStop, hsound.linked.detected⟩

def oneLostReply (count : Nat) : Answer where
  written := true
  status := if count = 0 then none else some ⟨0, 0, 100000, 360, 0⟩
  settings := some (0, 0)
  identity := true
  name := none
  now := 0

def readAndMove : List Event :=
  (run (start ⟨0, false, none, none⟩ 10 oneLostReply)
    [some .status, some (.moveMechanical (some 20))]).events

/-- A failed read outside a motion does not hold back the next start. -/
theorem start_after_failed_read : ¬(MotionView.monitor true).Kept .new readAndMove := by
  intro hkept
  rw [Monitor.kept_iff] at hkept
  have hsplit : readAndMove
      = readAndMove.take 6 ++ .wrote (.start 20 360) true :: readAndMove.drop 7 := by
    decide +kernel
  have hfaulted : ((MotionView.monitor true).view .new (readAndMove.take 6)).faulted = true := by
    decide +kernel
  have hstart := (hkept _ _ _ hsplit).2.faulted
  rw [hfaulted] at hstart
  cases hstart

end Regain.Zwo.Rotation
