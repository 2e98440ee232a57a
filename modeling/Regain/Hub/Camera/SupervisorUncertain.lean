import Regain.Hub.Camera.SupervisorTasks

/-!
# Uncertain acquisitions

An acquisition that became uncertain stays the active one until it is abandoned or the supervisor
retires, unless a rejected start or an acknowledged abort clears it.
-/

namespace Regain.Hub.CameraSupervisor

open Lib

namespace State

def Uncertain (state : State) (id : Uuid) : Prop :=
  ∃ active, state.active = some active ∧ active.id = id ∧ active.phase = .uncertain

theorem activeIs_eq_some {state : State} {id : Uuid} {active : Active} :
    state.activeIs id = some active ↔ state.active = some active ∧ active.id = id := by
  simp [activeIs, Option.filter_eq_some_iff]

section

variable {state : State} {id other : Uuid}

theorem Uncertain.activeIs (h : state.Uncertain id) {active : Active}
    (hactive : state.activeIs other = some active) :
    active.id = id ∧ other = id ∧ active.phase = .uncertain := by
  obtain ⟨found, hfound, hid, hphase⟩ := h
  obtain ⟨hactive, hother⟩ := activeIs_eq_some.mp hactive
  rw [hfound] at hactive
  cases hactive
  exact ⟨hid, hother.symm.trans hid, hphase⟩

theorem Uncertain.fence (h : state.Uncertain id) (view : SourceView) :
    (state.fence view).Uncertain id := by
  obtain ⟨active, hactive, hid, hphase⟩ := h
  unfold State.fence
  rw [hactive]
  dsimp only
  rw [if_neg (fun hchanged => hchanged.2 hphase)]
  exact ⟨active, hactive, hid, hphase⟩

theorem Uncertain.uncertain (h : state.Uncertain id) (error : SourceError) :
    (state.uncertain other error).Uncertain id := by
  unfold State.uncertain
  cases hactive : state.activeIs other with
  | none => exact h
  | some active => exact ⟨_, rfl, (h.activeIs hactive).1, rfl⟩

theorem Uncertain.admitStart (h : state.Uncertain id) (session : Session) (after : State) :
    state.admitStart session other ≠ .ok after := by
  obtain ⟨active, hactive, -, -⟩ := h
  unfold State.admitStart
  rw [hactive]
  dsimp only
  split
  · simp
  split
  · simp
  split
  · simp
  split
  · simp
  split
  · simp
  · simp

variable {after : State}

theorem Uncertain.attach (h : state.Uncertain id) {operation : Uuid}
    (hattach : state.attach other operation = some after) : after.Uncertain id := by
  obtain ⟨active, hactive, rfl⟩ := Option.map_eq_some_iff.mp hattach
  exact ⟨_, rfl, (h.activeIs hactive).1, (h.activeIs hactive).2.2⟩

theorem Uncertain.acknowledge (h : state.Uncertain id) (after : State) :
    state.acknowledge other ≠ some after := by
  intro hacknowledged
  obtain ⟨active, hactive, hafter⟩ := Option.bind_eq_some_iff.mp hacknowledged
  rw [if_pos (h.activeIs hactive).2.2] at hafter
  cases hafter

theorem Uncertain.observe (h : state.Uncertain id) (ready : Bool) (cameraState : Int)
    (result : State × Bool) : state.observe other ready cameraState ≠ some result := by
  intro hobserved
  obtain ⟨active, hactive, hafter⟩ := Option.bind_eq_some_iff.mp hobserved
  rw [if_pos (h.activeIs hactive).2.2] at hafter
  cases hafter

theorem Uncertain.downloads (h : state.Uncertain id) : state.downloads other = false := by
  unfold State.downloads
  cases hactive : state.activeIs other with
  | none => rfl
  | some active => simp [(h.activeIs hactive).2.2]

theorem Uncertain.admitCommand (h : state.Uncertain id) (session : Session) (abort : Bool)
    (expected : Option Uuid) (after : State) (admission : Admission) :
    state.admitCommand session abort expected ≠ .ok (after, some admission) := by
  obtain ⟨active, hactive, -, hphase⟩ := h
  unfold State.admitCommand
  rw [hactive]
  dsimp only
  rw [if_pos hphase]
  split
  · simp
  split
  · simp
  split
  · simp
  split
  · simp
  split
  · simp
  · simp

theorem Uncertain.endCommand (h : state.Uncertain id) (previous : AcquisitionPhase)
    (error : Option SourceError) : (state.endCommand other previous error).Uncertain id := by
  unfold State.endCommand
  cases hactive : state.activeIs other with
  | none => exact h
  | some active =>
    dsimp only
    rw [if_pos (h.activeIs hactive).2.2]
    exact h

theorem Uncertain.same (h : state.Uncertain id)
    (hactive : after.active = state.active) : after.Uncertain id := by
  obtain ⟨active, hfound, hid, hphase⟩ := h
  exact ⟨active, hactive.trans hfound, hid, hphase⟩

theorem guideUncertain_active (state : State) (other : Uuid) (error : SourceError) :
    (state.guideUncertain other error).active = state.active := by
  unfold State.guideUncertain
  split
  · rfl
  · rfl

theorem finishGuide_active (state : State) (other : Uuid) :
    (state.finishGuide other).1.active = state.active := by
  unfold State.finishGuide
  split
  · rfl
  split
  · rfl
  split
  · rfl
  · rfl

theorem clearGuide_active (state : State) (other : Uuid) :
    (state.clearGuide other).active = state.active := by
  unfold State.clearGuide
  split
  · rfl
  · rfl

theorem dropSetting_active (state : State) (other : Uuid) :
    (state.dropSetting other).active = state.active := by
  unfold State.dropSetting
  split
  · rfl
  · rfl

theorem admitGuide_active {session : Session} {request : GuideRequest} {borrowed : Option Uuid}
    (hadmitted : state.admitGuide session other request = .ok (after, borrowed)) :
    after.active = state.active := by
  unfold State.admitGuide at hadmitted
  split at hadmitted
  · cases hadmitted
  split at hadmitted
  · cases hadmitted
  split at hadmitted
  · cases hadmitted
  dsimp only at hadmitted
  split at hadmitted
  · cases hadmitted
    rfl
  split at hadmitted
  · cases hadmitted
  split at hadmitted
  · cases hadmitted
    rfl
  · cases hadmitted

theorem admitSetting_active {session : Session} {setting : CameraSetting}
    {borrowed acquisition : Option Uuid}
    (hadmitted : state.admitSetting session other setting = .ok (after, borrowed, acquisition)) :
    after.active = state.active := by
  unfold State.admitSetting at hadmitted
  split at hadmitted
  · cases hadmitted
  split at hadmitted
  · cases hadmitted
  · cases hadmitted
    rfl

theorem Uncertain.attachGuide (h : state.Uncertain id) {operation : Uuid}
    (hattach : state.attachGuide other operation = some after) : after.Uncertain id := by
  obtain ⟨guide, -, rfl⟩ := Option.map_eq_some_iff.mp hattach
  exact h

theorem Uncertain.guides (h : state.Uncertain id)
    (hguides : state.guides other = some after) : after.Uncertain id := by
  obtain ⟨guide, -, rfl⟩ := Option.map_eq_some_iff.mp hguides
  exact h

theorem Uncertain.abandonUncertain (h : state.Uncertain id) {acquisition : Uuid}
    (hother : acquisition ≠ id) (after : State) :
    state.abandonUncertain acquisition ≠ .ok after := by
  obtain ⟨active, hactive, hid, -⟩ := h
  unfold State.abandonUncertain
  rw [hactive]
  dsimp only
  rw [if_pos (fun heq => hother (heq.symm.trans hid))]
  simp

end

end State

def Effect.published? : Effect → Option CapturedImage
  | published _ image => some image
  | _ => none

def publishedIn (log : List Effect) : List CapturedImage :=
  log.filterMap Effect.published?

namespace Supervised

def Ends (supervised : Supervised) (id : Uuid) : Input → Prop
  | .abandonUncertain acquisition => acquisition = id
  | .abandonOwned owner => supervised.state.active.map Active.owner = some owner
  | .retire => supervised.source.stopped = true ∧ supervised.source.transportConnected = false
  | _ => False

/-- The step is one of the four that clear an acquisition without a look at its phase: the two
sections of a rejected start, and the two of an acknowledged abort. -/
def clears (supervised : Supervised) (id : Uuid) : Input → Bool
  | .runStart task answer =>
    task == id && (supervised.starts task).any fun start =>
      match start.stage with
      | .rejecting _ =>
        (supervised.state.active.bind Active.operation).all supervised.state.guideRetains
      | .returning _ _ => answer.result.isOk
      | _ => false
  | .runCommand key answer =>
    (supervised.commands key).any fun command =>
      command.admission.id == id &&
        match command.stage with
        | .answered (.ok ()) =>
          command.abort && supervised.state.guideRetains command.admission.operation
        | .releasing => answer.result.isOk
        | _ => false
  | _ => false

/-- The acquisition is still active and uncertain, no image was published and no start was
admitted. -/
structure Steady (before after : Supervised) (id : Uuid) : Prop where
  uncertain : after.state.Uncertain id
  published : publishedIn after.log = publishedIn before.log
  started : ∀ other, before.starts other = none → after.starts other = none

namespace Steady

variable {before after : Supervised} {id : Uuid}

theorem refl (h : before.state.Uncertain id) : Steady before before id :=
  ⟨h, rfl, fun _ hnone => hnone⟩

theorem trans {last : Supervised} (h : Steady before after id) (hnext : Steady after last id) :
    Steady before last id :=
  ⟨hnext.uncertain, hnext.published.trans h.published,
    fun other hnone => hnext.started other (h.started other hnone)⟩

theorem setState (h : Steady before after id) {state : State} (hstate : state.Uncertain id) :
    Steady before (after.setState state) id :=
  ⟨hstate, h.published, h.started⟩

theorem note (h : Steady before after id) {effect : Effect} (heffect : effect.published? = none) :
    Steady before (after.note effect) id := by
  refine ⟨h.uncertain, ?_, h.started⟩
  rw [← h.published]
  simp [Supervised.note, publishedIn, heffect]

theorem grant (h : Steady before after id) (lease : Uuid) (holder : Holder) :
    Steady before (after.grant lease holder) id :=
  { h with }

theorem moveStart (h : Steady before after id) {task : Uuid} {start : Start}
    (hstart : before.starts task = some start) (stage : StartStage) :
    Steady before (after.moveStart task start stage) id := by
  refine ⟨h.uncertain, h.published, fun other hnone => ?_⟩
  have hother : other ≠ task := by
    intro heq
    rw [heq, hstart] at hnone
    cases hnone
  show Function.update after.starts task _ other = none
  rw [Function.update_of_ne hother]
  exact h.started other hnone

theorem moveCommand (h : Steady before after id) (key : Uuid) (command : Command)
    (stage : CommandStage) : Steady before (after.moveCommand key command stage) id :=
  { h with }

theorem moveGuide (h : Steady before after id) (task : Uuid) (guide : Guide) (stage : GuideStage) :
    Steady before (after.moveGuide task guide stage) id :=
  { h with }

theorem moveSetting (h : Steady before after id) (task : Uuid) (setting : Setting)
    (stage : SettingStage) : Steady before (after.moveSetting task setting stage) id :=
  { h with }

end Steady

section

variable {supervised : Supervised} {id task : Uuid} {start : Start}

theorem loseStart_steady {before : Supervised} (h : Steady before supervised id)
    (hstart : before.starts task = some start) (error : SourceError) :
    Steady before (supervised.loseStart task start error) id :=
  (h.setState (h.uncertain.uncertain error)).moveStart hstart _

theorem snapshot_steady {before : Supervised} (h : Steady before supervised id)
    (hstart : before.starts task = some start) (stage : StartStage) :
    Steady before
      (match start.session.snapshot supervised.source with
        | .error error => supervised.loseStart task start error
        | .ok () => supervised.moveStart task start stage) id := by
  split
  · exact loseStart_steady h hstart _
  · exact h.moveStart hstart _

theorem rejectStart_steady (h : supervised.state.Uncertain id)
    (hstart : supervised.starts task = some start) (error : Option SourceError)
    (hkeeps : task = id → ∃ active operation, supervised.state.active = some active
      ∧ active.operation = some operation ∧ supervised.state.guideRetains operation = false) :
    Steady supervised (supervised.rejectStart task start error) id := by
  unfold rejectStart State.endRejected
  cases hactive : supervised.state.activeIs task with
  | none => exact ((Steady.refl h).setState h).moveStart hstart _
  | some active =>
    obtain ⟨found, operation, hfound, hoperation, hretains⟩ := hkeeps (h.activeIs hactive).2.1
    have hsame : active = found := by
      have hactive := (State.activeIs_eq_some.mp hactive).1
      rw [hfound] at hactive
      exact (Option.some.inj hactive).symm
    subst hsame
    simp only [hoperation, hretains]
    exact (((Steady.refl h).setState h).note rfl).moveStart hstart _

theorem runStart_steady (h : supervised.state.Uncertain id)
    (hstart : supervised.starts task = some start) {answer : Answer}
    (hkeeps : supervised.clears id (.runStart task answer) = false) :
    Steady supervised (supervised.runStart task start answer) id := by
  have hrefl := Steady.refl h
  unfold runStart
  cases hstage : start.stage with
  | preparing =>
    dsimp only
    unfold prepareStart
    split
    · exact hrefl.moveStart hstart _
    split
    · exact hrefl.moveStart hstart _
    · exact hrefl.moveStart hstart _
  | acquiring =>
    dsimp only
    unfold acquireStart
    split
    · exact hrefl.moveStart hstart _
    split
    · exact hrefl
    · exact (hrefl.grant _ _).moveStart hstart _
  | attaching operation =>
    dsimp only
    unfold attachStart
    cases hattach : supervised.state.attach task operation with
    | none => exact hrefl.moveStart hstart _
    | some state => exact ((hrefl.setState (h.attach hattach)).note rfl).moveStart hstart _
  | measuring operation =>
    dsimp only
    unfold measureStart
    split
    · exact hrefl.moveStart hstart _
    · exact (hrefl.note rfl).moveStart hstart _
  | prepared plan =>
    dsimp only
    unfold dispatchStart
    split
    · exact hrefl.moveStart hstart _
    cases hattach : supervised.state.attach task plan.operation with
    | none => exact hrefl.moveStart hstart _
    | some state => exact ((hrefl.setState (h.attach hattach)).note rfl).moveStart hstart _
  | writing plan =>
    dsimp only
    unfold answerStart
    split
    · exact hrefl.moveStart hstart _
    split
    · exact hrefl.moveStart hstart _
    · exact hrefl
  | answered plan result =>
    dsimp only
    unfold acknowledgeStart
    split
    · split
      · exact loseStart_steady hrefl hstart _
      · exact hrefl.moveStart hstart _
    · cases hacknowledged : supervised.state.acknowledge task with
      | none => exact hrefl.moveStart hstart _
      | some state => exact absurd hacknowledged (h.acknowledge state)
  | waiting plan =>
    dsimp only
    unfold waitStart
    split
    · exact loseStart_steady hrefl hstart _
    split
    · exact loseStart_steady hrefl hstart _
    · exact snapshot_steady hrefl hstart _
  | pausing plan =>
    dsimp only
    unfold pauseStart
    split
    · exact hrefl.moveStart hstart _
    · exact hrefl.moveStart hstart _
    · exact hrefl.moveStart hstart _
  | reading plan =>
    dsimp only
    unfold readStart
    split
    · exact loseStart_steady hrefl hstart _
    split
    · exact loseStart_steady hrefl hstart _
    split
    · exact loseStart_steady hrefl hstart _
    split
    · exact loseStart_steady hrefl hstart _
    · exact hrefl.moveStart hstart _
  | sampled plan ready cameraState =>
    dsimp only
    unfold observeStart
    cases hobserved : supervised.state.observe task ready cameraState with
    | none => exact hrefl.moveStart hstart _
    | some result => exact absurd hobserved (h.observe ready cameraState result)
  | downloading plan =>
    dsimp only
    unfold downloadStart
    split
    · exact loseStart_steady hrefl hstart _
    split
    · exact loseStart_steady hrefl hstart _
    split
    · exact snapshot_steady hrefl hstart _
    · exact loseStart_steady hrefl hstart _
  | deciding plan image =>
    dsimp only
    unfold decideStart
    rw [h.downloads]
    exact (hrefl.note rfl).moveStart hstart _
  | releasing plan image =>
    dsimp only
    unfold releaseStart
    split
    · exact loseStart_steady hrefl hstart _
    split
    · exact loseStart_steady hrefl hstart _
    · have hnoted : Steady supervised (supervised.note (.released plan.operation)) id :=
        hrefl.note rfl
      exact snapshot_steady hnoted hstart _
  | publishing plan image =>
    dsimp only
    unfold finishStart
    rw [h.downloads]
    exact hrefl.moveStart hstart _
  | rejecting error =>
    refine rejectStart_steady h hstart error fun heq => ?_
    subst heq
    obtain ⟨active, hactive, -, -⟩ := h
    simp only [clears, beq_self_eq_true, Bool.true_and, hactive, Option.bind_some, hstart,
      Option.any_some, hstage] at hkeeps
    cases hoperation : active.operation with
    | none => simp [hoperation] at hkeeps
    | some operation =>
      exact ⟨active, operation, hactive, hoperation, by simpa [hoperation] using hkeeps⟩
  | returning operation error =>
    dsimp only
    unfold returnStart
    cases hresult : answer.result with
    | error failure => exact loseStart_steady hrefl hstart _
    | ok =>
      have hother : task ≠ id := by
        intro heq
        subst heq
        simp [clears, hstart, hstage, hresult, Except.isOk, Except.toBool] at hkeeps
      have hmissing : supervised.state.activeIs task = none := by
        cases hactive : supervised.state.activeIs task with
        | none => rfl
        | some active => exact absurd (h.activeIs hactive).2.1 hother
      dsimp only
      unfold State.clearRejected
      rw [hmissing]
      exact ((hrefl.setState h).note rfl).moveStart hstart _
  | finished => exact hrefl

theorem dropStart_steady (h : supervised.state.Uncertain id)
    (hstart : supervised.starts task = some start) (runtime : Bool) :
    Steady supervised (supervised.dropStart task start runtime) id := by
  have hrefl := Steady.refl h
  have hlost := loseStart_steady hrefl hstart .uncertain
  have hcleaned : Steady supervised (if runtime then
      supervised.moveStart task start (.rejecting none) else
      supervised.loseStart task start .uncertain) id := by
    split
    · exact hrefl.moveStart hstart _
    · exact hlost
  unfold dropStart
  split
  · cases hstage : start.stage with
    | preparing => exact hcleaned
    | acquiring => exact hcleaned
    | attaching operation => exact hcleaned
    | measuring operation => exact hcleaned
    | prepared plan => exact hcleaned
    | finished => exact hrefl
    | _ => exact hlost
  · exact hrefl

end

section

variable {supervised : Supervised} {id key : Uuid} {command : Command}

theorem resumeCommand_steady (h : supervised.state.Uncertain id) (error : Option SourceError) :
    Steady supervised (supervised.resumeCommand key command error) id :=
  ((Steady.refl h).setState (h.endCommand _ error)).moveCommand _ _ _

theorem loseCommand_steady (h : supervised.state.Uncertain id) (error : SourceError) :
    Steady supervised (supervised.loseCommand key command error) id :=
  ((Steady.refl h).setState (h.uncertain error)).moveCommand _ _ _

theorem clearAborted_uncertain {state : State} {other : Uuid} (h : state.Uncertain id)
    (hother : other ≠ id) : (state.clearAborted other).Uncertain id := by
  unfold State.clearAborted
  cases hactive : state.activeIs other with
  | none => exact h
  | some active => exact absurd (h.activeIs hactive).2.1 hother

theorem runCommand_steady (h : supervised.state.Uncertain id)
    (hcommand : supervised.commands key = some command) {answer : Answer}
    (hkeeps : supervised.clears id (.runCommand key answer) = false) :
    Steady supervised (supervised.runCommand key command answer) id := by
  have hrefl := Steady.refl h
  unfold runCommand
  cases hstage : command.stage with
  | probing =>
    dsimp only
    unfold probeCommand
    split
    · exact resumeCommand_steady h _
    split
    · exact hrefl.moveCommand _ _ _
    · exact hrefl.moveCommand _ _ _
  | confirming =>
    dsimp only
    unfold Supervised.confirmCommand
    split
    · exact hrefl.moveCommand _ _ _
    · exact hrefl.moveCommand _ _ _
  | writing =>
    dsimp only
    unfold answerCommand
    split
    · exact hrefl.moveCommand _ _ _
    split
    · split
      · exact (hrefl.note rfl).moveCommand _ _ _
      · exact hrefl.moveCommand _ _ _
    · exact hrefl
  | answered result =>
    dsimp only
    unfold settleCommand
    cases result with
    | error error =>
      dsimp only
      split
      · exact loseCommand_steady h _
      · exact resumeCommand_steady h _
    | ok =>
      dsimp only
      split
      next habort =>
        unfold abortCommand
        split
        next hretained =>
          simp only [Bool.and_eq_true] at hretained
          have hother : command.admission.id ≠ id := by
            intro heq
            simp [clears, hcommand, hstage, heq, habort, hretained.2] at hkeeps
          exact (hrefl.setState (clearAborted_uncertain h hother)).moveCommand _ _ _
        · exact (hrefl.note rfl).moveCommand _ _ _
      · exact resumeCommand_steady h _
  | releasing =>
    dsimp only
    unfold releaseCommand
    cases hresult : answer.result with
    | error error => exact loseCommand_steady h _
    | ok =>
      have hother : command.admission.id ≠ id := by
        intro heq
        simp [clears, hcommand, hstage, heq, hresult, Except.isOk, Except.toBool] at hkeeps
      exact ((hrefl.setState (clearAborted_uncertain h hother)).note rfl).moveCommand _ _ _
  | finished => exact hrefl

end

section

variable {supervised : Supervised} {id task : Uuid}

theorem loseGuide_steady (h : supervised.state.Uncertain id) (guide : Guide) (error : SourceError) :
    Steady supervised (supervised.loseGuide task guide error) id :=
  ((Steady.refl h).setState (h.same (State.guideUncertain_active _ _ _))).moveGuide _ _ _

theorem finishGuide_steady (h : supervised.state.Uncertain id) (guide : Guide) :
    Steady supervised (supervised.finishGuide task guide) id := by
  have hstate : (supervised.state.finishGuide task).1.Uncertain id :=
    h.same (State.finishGuide_active _ _)
  unfold finishGuide
  generalize supervised.state.finishGuide task = finished at hstate
  obtain ⟨state, operation⟩ := finished
  cases operation with
  | none => exact ((Steady.refl h).setState hstate).moveGuide _ _ _
  | some operation => exact (((Steady.refl h).setState hstate).note rfl).moveGuide _ _ _

theorem runGuide_steady (h : supervised.state.Uncertain id) (guide : Guide) (answer : Answer) :
    Steady supervised (supervised.runGuide task guide answer) id := by
  have hrefl := Steady.refl h
  unfold runGuide
  cases guide.stage with
  | acquiring borrowed =>
    dsimp only
    unfold acquireGuide
    split
    · exact hrefl.moveGuide _ _ _
    split
    · exact hrefl.moveGuide _ _ _
    split
    · exact hrefl.moveGuide _ _ _
    split
    · exact hrefl
    · exact (hrefl.grant _ _).moveGuide _ _ _
  | attaching operation =>
    dsimp only
    unfold Supervised.attachGuide
    cases hattach : supervised.state.attachGuide task operation with
    | none => exact hrefl.moveGuide _ _ _
    | some state => exact ((hrefl.setState (h.attachGuide hattach)).note rfl).moveGuide _ _ _
  | probing operation =>
    dsimp only
    unfold probeGuide
    split
    · exact hrefl.moveGuide _ _ _
    split
    · exact hrefl.moveGuide _ _ _
    · exact hrefl.moveGuide _ _ _
  | writing =>
    dsimp only
    unfold answerGuide
    split
    · split
      · exact loseGuide_steady h _ _
      · exact hrefl.moveGuide _ _ _
    · exact hrefl.moveGuide _ _ _
  | sampling =>
    dsimp only
    unfold sampleGuide
    split
    · exact loseGuide_steady h _ _
    split
    · exact hrefl.moveGuide _ _ _
    · exact hrefl.moveGuide _ _ _
  | confirming =>
    dsimp only
    unfold confirmGuide
    cases hguides : supervised.state.guides task with
    | none => exact hrefl.moveGuide _ _ _
    | some state => exact (hrefl.setState (h.guides hguides)).moveGuide _ _ _
  | watching =>
    dsimp only
    unfold watchGuide
    split
    · exact loseGuide_steady h _ _
    split
    · exact loseGuide_steady h _ _
    · exact hrefl.moveGuide _ _ _
  | finishing => exact finishGuide_steady h guide
  | releasing operation =>
    dsimp only
    unfold releaseGuide
    split
    · exact loseGuide_steady h _ _
    · exact ((hrefl.setState (h.same (State.clearGuide_active _ _))).note rfl).moveGuide _ _ _
  | finished => exact hrefl

theorem runSetting_steady (h : supervised.state.Uncertain id) (setting : Setting)
    (answer : Answer) : Steady supervised (supervised.runSetting task setting answer) id := by
  have hrefl := Steady.refl h
  unfold runSetting
  cases setting.stage with
  | acquiring =>
    dsimp only
    unfold acquireSetting
    split
    · exact hrefl.moveSetting _ _ _
    split
    · exact hrefl.moveSetting _ _ _
    split
    · exact hrefl.moveSetting _ _ _
    split
    · exact hrefl
    · exact (hrefl.grant _ _).moveSetting _ _ _
  | checking operation =>
    dsimp only
    unfold checkSetting
    split
    · exact hrefl.moveSetting _ _ _
    split
    · exact hrefl.moveSetting _ _ _
    · exact hrefl.moveSetting _ _ _
  | writing operation =>
    dsimp only
    unfold answerSetting
    split
    · exact hrefl.moveSetting _ _ _
    · exact (hrefl.note rfl).moveSetting _ _ _
  | releasing operation =>
    dsimp only
    unfold releaseSetting
    split
    · exact hrefl.moveSetting _ _ _
    · exact (hrefl.note rfl).moveSetting _ _ _
  | dropping =>
    exact (hrefl.setState (h.same (State.dropSetting_active _ _))).moveSetting _ _ _
  | finished => exact hrefl

end

section

variable {supervised : Supervised} {id : Uuid}

theorem abandon_steady (h : supervised.state.Uncertain id) {result : Except SourceError State}
    (hkept : ∀ state, result = .ok state → state.Uncertain id) :
    Steady supervised (supervised.abandon result) id := by
  cases result with
  | error error => exact Steady.refl h
  | ok state =>
    refine ⟨hkept state rfl, ?_, fun _ hnone => hnone⟩
    have hnone : ∀ operations : List Uuid,
        (operations.map Effect.forsaken).filterMap Effect.published? = [] := by
      intro operations
      induction operations with
      | nil => rfl
      | cons operation rest ih => exact ih
    show List.filterMap _ (supervised.log ++ _) = _
    rw [List.filterMap_append, hnone, List.append_nil]
    rfl

theorem apply_steady (h : supervised.state.Uncertain id) {input : Input}
    (hends : ¬supervised.Ends id input) (hkeeps : supervised.clears id input = false) :
    Steady supervised (supervised.apply input) id := by
  have hrefl := Steady.refl h
  cases input with
  | source view => exact ⟨h, rfl, fun _ hnone => hnone⟩
  | status age =>
    show Steady supervised (supervised.readStatus age) id
    unfold readStatus
    split
    · exact hrefl
    · exact (hrefl.setState (h.fence _)).note rfl
  | start task session request group =>
    show Steady supervised (supervised.admitStart task session request group) id
    unfold Supervised.admitStart
    split
    · exact hrefl
    cases hadmitted : supervised.state.admitStart session task with
    | error error => exact hrefl
    | ok state => exact absurd hadmitted (h.admitStart session state)
  | command key session abort expected =>
    show Steady supervised (supervised.admitCommand key session abort expected) id
    unfold Supervised.admitCommand
    split
    · exact hrefl
    cases hadmitted : supervised.state.admitCommand session abort expected with
    | error error => exact hrefl
    | ok result =>
      obtain ⟨state, admission⟩ := result
      cases admission with
      | none => exact hrefl
      | some admission => exact absurd hadmitted (h.admitCommand session abort expected _ _)
  | guide task session request =>
    show Steady supervised (supervised.admitGuide task session request) id
    unfold Supervised.admitGuide
    split
    · exact hrefl
    cases hadmitted : supervised.state.admitGuide session task request with
    | error error => exact hrefl
    | ok result =>
      obtain ⟨state, borrowed⟩ := result
      exact (hrefl.setState (h.same (State.admitGuide_active hadmitted))).moveGuide _ _ _
  | set task session setting =>
    show Steady supervised (supervised.admitSetting task session setting) id
    unfold Supervised.admitSetting
    split
    · exact hrefl
    cases hadmitted : supervised.state.admitSetting session task setting with
    | error error => exact hrefl
    | ok result =>
      obtain ⟨state, borrowed, acquisition⟩ := result
      exact (hrefl.setState (h.same (State.admitSetting_active hadmitted))).moveSetting _ _ _
  | abandonUncertain acquisition =>
    exact abandon_steady h fun state hstate => absurd hstate (h.abandonUncertain hends state)
  | abandonOwned owner =>
    refine abandon_steady h fun state hstate => ?_
    obtain ⟨active, hactive, -, -⟩ := h
    have howner : active.owner ≠ owner := by
      intro heq
      exact hends (by simp [Ends, hactive, heq])
    simp [State.abandonOwned, hactive, howner] at hstate
  | abandonGuiding owner =>
    refine abandon_steady h fun state hstate => h.same ?_
    unfold State.abandonGuiding at hstate
    split at hstate
    · cases hstate
      rfl
    split at hstate
    · cases hstate
    split at hstate
    · cases hstate
    · cases hstate
      rfl
  | retire =>
    show Steady supervised supervised.retire id
    unfold Supervised.retire
    rw [if_pos]
    · exact hrefl
    · by_contra hretired
      simp only [not_or, Bool.not_eq_false, Bool.not_eq_true] at hretired
      exact hends hretired
  | runStart task answer =>
    show Steady supervised ((supervised.starts task).elim supervised _) id
    cases hstart : supervised.starts task with
    | none => exact hrefl
    | some start => exact runStart_steady h hstart hkeeps
  | dropStart task runtime =>
    show Steady supervised ((supervised.starts task).elim supervised _) id
    cases hstart : supervised.starts task with
    | none => exact hrefl
    | some start => exact dropStart_steady h hstart runtime
  | runCommand key answer =>
    show Steady supervised ((supervised.commands key).elim supervised _) id
    cases hcommand : supervised.commands key with
    | none => exact hrefl
    | some command => exact runCommand_steady h hcommand hkeeps
  | runGuide task answer =>
    show Steady supervised ((supervised.guides task).elim supervised _) id
    cases supervised.guides task with
    | none => exact hrefl
    | some guide => exact runGuide_steady h guide answer
  | runSetting task answer =>
    show Steady supervised ((supervised.settings task).elim supervised _) id
    cases supervised.settings task with
    | none => exact hrefl
    | some setting => exact runSetting_steady h setting answer

/-- In every run that neither abandons an uncertain acquisition nor retires the supervisor, and
in which no rejected start and no acknowledged abort clears it. -/
theorem run_steady (h : supervised.state.Uncertain id) (inputs : List Input)
    (hends : ∀ t ∈ machine.run supervised inputs, ¬t.before.Ends id t.op)
    (hkeeps : ∀ t ∈ machine.run supervised inputs, t.before.clears id t.op = false) :
    Steady supervised (machine.final supervised inputs) id := by
  induction inputs generalizing supervised with
  | nil => exact Steady.refl h
  | cons input inputs ih =>
    have hfirst : machine.perform supervised input ∈ machine.run supervised (input :: inputs) :=
      List.mem_cons_self
    have hstep : Steady supervised (machine.next supervised input) id :=
      apply_steady h (hends _ hfirst) (hkeeps _ hfirst)
    exact hstep.trans (ih hstep.uncertain
      (fun t ht => hends t (List.mem_cons_of_mem _ ht))
      (fun t ht => hkeeps t (List.mem_cons_of_mem _ ht)))

end

end Supervised

def cameraSource : SourceView where
  source := 1
  generation := 10
  transportConnected := true
  writeUncertain := false
  stopped := false

def cameraSession : Session := ⟨100, 10⟩

/-- A source that answers everything, and grants this lease when it is asked for one. -/
def granting (lease : Uuid) : Answer where
  closed := false
  elapsed := false
  result := .ok ()
  lease := lease
  geometry := ⟨1, 1, 1, 1, 0, 0⟩
  ready := false
  cameraState := 2
  before := ⟨none, none, none, none⟩
  image := .dot
  after := ⟨none, none, none, none⟩

def exposure : List Input :=
  .start 7 cameraSession ⟨1.0, true⟩ false :: List.replicate 7 (.runStart 7 (granting 50))

/-- Its abort is sent; the readiness deadline passes before the camera answers. -/
def lateAbort : List Input :=
  exposure ++ [.command 8 cameraSession true none, .runCommand 8 (granting 50),
    .runCommand 8 (granting 50), .runStart 7 { granting 50 with elapsed := true }]

namespace Supervised

theorem lateAbort_uncertain :
    (machine.final (initial cameraSource) lateAbort).state.Uncertain 7 := by
  have hactive : (machine.final (initial cameraSource) lateAbort).state.active.map
      (fun active => (active.id, active.phase)) = some (7, .uncertain) := by decide +kernel
  obtain ⟨active, hactive, hpair⟩ := Option.map_eq_some_iff.mp hactive
  obtain ⟨hid, hphase⟩ := Prod.mk.inj hpair
  exact ⟨active, hactive, hid, hphase⟩

/-- A status read and a refused abort leave the acquisition uncertain. -/
theorem refused_abort_steady : Steady (machine.final (initial cameraSource) lateAbort)
    (machine.final (machine.final (initial cameraSource) lateAbort)
      [.status 0, .runCommand 8 { granting 50 with result := .error .timeout },
        .runCommand 8 (granting 50)]) 7 := by
  refine run_steady lateAbort_uncertain _ (fun t ht => ?_) (fun t ht => ?_)
  · simp only [Machine.run, List.mem_cons, List.not_mem_nil, or_false] at ht
    rcases ht with rfl | rfl | rfl
    · exact id
    · exact id
    · exact id
  · simp only [Machine.run, List.mem_cons, List.not_mem_nil, or_false] at ht
    rcases ht with rfl | rfl | rfl
    · rfl
    · decide +kernel
    · decide +kernel

/-- The abort is acknowledged: the uncertain acquisition is gone, though nobody abandoned it. -/
theorem late_abort_clears : ∃ source before after id,
    (machine.final (initial source) before).state.Uncertain id
      ∧ (∀ t ∈ machine.run (machine.final (initial source) before) after, ¬t.before.Ends id t.op)
      ∧ (machine.final (machine.final (initial source) before) after).state.active = none := by
  refine ⟨cameraSource, lateAbort, List.replicate 3 (.runCommand 8 (granting 50)), 7,
    lateAbort_uncertain, fun t ht => ?_, by decide +kernel⟩
  simp only [Machine.run, List.replicate, List.mem_cons, List.not_mem_nil, or_false] at ht
  rcases ht with rfl | rfl | rfl
  · exact id
  · exact id
  · exact id

end Supervised

end Regain.Hub.CameraSupervisor
