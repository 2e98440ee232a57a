import Mathlib.Logic.Function.Basic
import Regain.Hub.Camera.Supervisor
import Regain.Lib.Machine

/-!
# Tasks of the camera supervisor

Starts, commands, guide pulses and settings run as tasks. Each stage of a task is one section under
the supervisor's lock or one answer of the source.
-/

namespace Regain.Hub.CameraSupervisor

open Lib

/-- Who asked for a lease of the source control, or gives it back. -/
inductive Holder where
  | acquisition (id : Uuid)
  | guide (id : Uuid)
  | setting (id : Uuid)

/-- The lease and the geometry that a start was admitted with. -/
structure Plan where
  operation : Uuid
  geometry : CaptureGeometry

inductive StartStage where
  | preparing
  | acquiring
  | attaching (operation : Uuid)
  | measuring (operation : Uuid)
  | prepared (plan : Plan)
  | writing (plan : Plan)
  /-- The source has answered; an acknowledgement carries its generation. -/
  | answered (plan : Plan) (result : Except SourceError Uuid)
  | waiting (plan : Plan)
  | pausing (plan : Plan)
  | reading (plan : Plan)
  | sampled (plan : Plan) (ready : Bool) (cameraState : Int)
  | downloading (plan : Plan)
  | deciding (plan : Plan) (image : CapturedImage)
  | releasing (plan : Plan) (image : CapturedImage)
  | publishing (plan : Plan) (image : CapturedImage)
  | rejecting (error : Option SourceError)
  | returning (operation : Uuid) (error : Option SourceError)
  | finished

/-- The task of an acquisition; in a group its reservation is dispatched explicitly. -/
structure Start where
  session : Session
  request : ExposureRequest
  group : Bool
  stage : StartStage

inductive CommandStage where
  | probing
  | confirming
  | writing
  | answered (result : Except SourceError Unit)
  | releasing
  | finished

structure Command where
  session : Session
  abort : Bool
  admission : State.Admission
  stage : CommandStage

inductive GuideStage where
  | acquiring (borrowed : Option Uuid)
  | attaching (operation : Uuid)
  | probing (operation : Uuid)
  | writing
  | sampling
  | confirming
  | watching
  | finishing
  | releasing (operation : Uuid)
  | finished

structure Guide where
  session : Session
  stage : GuideStage

inductive SettingStage where
  | acquiring
  | checking (operation : Uuid)
  | writing (operation : Uuid)
  | releasing (operation : Uuid)
  | dropping
  | finished

structure Setting where
  session : Session
  borrowed : Option Uuid
  acquisition : Option Uuid
  stage : SettingStage

inductive Effect where
  | measured (acquisition : Uuid) (geometry : CaptureGeometry)
  | dispatched (acquisition : Uuid)
  /-- The task of an acquisition learned that its start was acknowledged. -/
  | acknowledged (acquisition generation : Uuid)
  /-- The source acknowledged an abort. -/
  | abortAcknowledged (acquisition : Uuid)
  /-- An image was published while this acquisition was active. -/
  | published (active : Option Active) (image : CapturedImage)
  /-- An acquisition or a guide pulse holds this lease from here on. -/
  | attached (operation : Uuid)
  /-- The control of a lease is given back explicitly. -/
  | release (operation : Uuid) (holder : Holder)
  /-- The source has confirmed it. -/
  | released (operation : Uuid)
  /-- Whoever held this lease was abandoned or retired. -/
  | forsaken (operation : Uuid)
  | reported (view : SourceView) (status : AcquisitionStatus)

/-- What a stage learns when it is run: whether the waiter for the reply is gone, whether the
deadline over this wait has passed, and what the source answers. -/
structure Answer where
  closed : Bool
  elapsed : Bool
  result : Except SourceError Unit
  lease : Uuid
  geometry : CaptureGeometry
  ready : Bool
  cameraState : Int
  before : ExposureMetadata
  image : CameraImage
  after : ExposureMetadata

/-- The supervisor of a source, and the tasks that it has spawned. -/
structure Supervised where
  source : SourceView
  /-- The snapshots that the source published before. -/
  past : List SourceView
  state : State
  starts : Uuid → Option Start
  commands : Uuid → Option Command
  guides : Uuid → Option Guide
  settings : Uuid → Option Setting
  /-- Every lease of the source control was granted to one holder. -/
  leases : Uuid → Option Holder
  log : List Effect

namespace Supervised

def initial (source : SourceView) : Supervised where
  source := source
  past := []
  state := .initial
  starts := fun _ => none
  commands := fun _ => none
  guides := fun _ => none
  settings := fun _ => none
  leases := fun _ => none
  log := []

def note (supervised : Supervised) (effect : Effect) : Supervised :=
  { supervised with log := supervised.log ++ [effect] }

def setState (supervised : Supervised) (state : State) : Supervised :=
  { supervised with state := state }

def grant (supervised : Supervised) (lease : Uuid) (holder : Holder) : Supervised :=
  { supervised with leases := Function.update supervised.leases lease (some holder) }

/-- The session was connected in a snapshot that the source has published. -/
def admits (supervised : Supervised) (session : Session) : Bool :=
  (supervised.source :: supervised.past).any fun view => (session.snapshot view).isOk

/-- The source had no uncertain write in a snapshot that it has published. -/
def writable (supervised : Supervised) : Bool :=
  (supervised.source :: supervised.past).any fun view => !view.writeUncertain

def leavesUncertain (error : SourceError) : Bool :=
  error.kind == .uncertain || error.transportLost

section

variable (supervised : Supervised) (id : Uuid) (start : Start)

def moveStart (stage : StartStage) : Supervised :=
  { supervised with
    starts := Function.update supervised.starts id (some { start with stage := stage }) }

def loseStart (error : SourceError) : Supervised :=
  (supervised.setState (supervised.state.uncertain id error)).moveStart id start .finished

def prepareStart (answer : Answer) : Supervised :=
  if answer.closed then supervised.moveStart id start (.rejecting none)
  else
    match (supervised.state.activeIs id).bind Active.operation with
    | some operation => supervised.moveStart id start (.attaching operation)
    | none => supervised.moveStart id start .acquiring

def acquireStart (answer : Answer) : Supervised :=
  match answer.result with
  | .error error => supervised.moveStart id start (.rejecting (some error))
  | .ok () =>
    if (supervised.leases answer.lease).isSome then supervised
    else (supervised.grant answer.lease (.acquisition id)).moveStart id start
      (.attaching answer.lease)

def attachStart (operation : Uuid) : Supervised :=
  match supervised.state.attach id operation with
  | none => supervised.moveStart id start (.rejecting (some busy))
  | some state =>
    ((supervised.setState state).note (.attached operation)).moveStart id start
      (.measuring operation)

def measureStart (operation : Uuid) (answer : Answer) : Supervised :=
  match answer.result with
  | .error error => supervised.moveStart id start (.rejecting (some error))
  | .ok () =>
    (supervised.note (.measured id answer.geometry)).moveStart id start
      (.prepared ⟨operation, answer.geometry⟩)

def dispatchStart (plan : Plan) (answer : Answer) : Supervised :=
  if answer.closed then supervised.moveStart id start (.rejecting none)
  else
    match supervised.state.attach id plan.operation with
    | none => supervised.moveStart id start .finished
    | some state =>
      ((supervised.setState state).note (.dispatched id)).moveStart id start (.writing plan)

def answerStart (plan : Plan) (answer : Answer) : Supervised :=
  match answer.result with
  | .error error => supervised.moveStart id start (.answered plan (.error error))
  | .ok () =>
    if supervised.source.generation = start.session.generation then
      supervised.moveStart id start (.answered plan (.ok supervised.source.generation))
    else supervised

def acknowledgeStart (plan : Plan) (result : Except SourceError Uuid) : Supervised :=
  match result with
  | .error error =>
    if leavesUncertain error then supervised.loseStart id start error
    else supervised.moveStart id start (.rejecting (some error))
  | .ok generation =>
    match supervised.state.acknowledge id with
    | none => supervised.moveStart id start .finished
    | some state =>
      ((supervised.setState state).note (.acknowledged id generation)).moveStart id start
        (.waiting plan)

def waitStart (plan : Plan) (answer : Answer) : Supervised :=
  if answer.elapsed then
    supervised.loseStart id start (.new .uncertain "Camera exposure readiness deadline expired")
  else
    match answer.result with
    | .error error => supervised.loseStart id start error
    | .ok () =>
      match start.session.snapshot supervised.source with
      | .error error => supervised.loseStart id start error
      | .ok () => supervised.moveStart id start (.pausing plan)

def pauseStart (plan : Plan) : Supervised :=
  match supervised.state.awaiting id with
  | none => supervised.moveStart id start .finished
  | some true => supervised.moveStart id start (.waiting plan)
  | some false => supervised.moveStart id start (.reading plan)

def readStart (plan : Plan) (answer : Answer) : Supervised :=
  if answer.elapsed then
    supervised.loseStart id start (.new .uncertain "Camera exposure readiness deadline expired")
  else
    match answer.result with
    | .error error => supervised.loseStart id start error
    | .ok () =>
      if answer.cameraState < 0 ∨ 5 < answer.cameraState then
        supervised.loseStart id start (unavailable "Invalid camera acquisition state")
      else if answer.cameraState = 5 then
        supervised.loseStart id start
          (unavailable "Upstream camera reports an acquisition error")
      else supervised.moveStart id start (.sampled plan answer.ready answer.cameraState)

def observeStart (plan : Plan) (ready : Bool) (cameraState : Int) : Supervised :=
  match supervised.state.observe id ready cameraState with
  | none => supervised.moveStart id start .finished
  | some (state, true) => (supervised.setState state).moveStart id start (.downloading plan)
  | some (state, false) => (supervised.setState state).moveStart id start (.waiting plan)

def copied (plan : Plan) (answer : Answer) : Bool :=
  answer.before.durationSeconds == answer.after.durationSeconds
    && answer.before.startTime == answer.after.startTime
    && answer.image.descriptor.width == plan.geometry.width
    && answer.image.descriptor.height == plan.geometry.height

def captured (plan : Plan) (answer : Answer) : CapturedImage where
  identity := {
    source := supervised.source.source
    generation := start.session.generation
    acquisition := id
    request := start.request
    geometry := plan.geometry
    exposure := answer.after }
  image := answer.image

def completionElapsed : SourceError :=
  .new .uncertain "Camera completion deadline expired"

def downloadStart (plan : Plan) (answer : Answer) : Supervised :=
  if answer.elapsed then supervised.loseStart id start completionElapsed
  else
    match answer.result with
    | .error error => supervised.loseStart id start error
    | .ok () =>
      if copied plan answer then
        match start.session.snapshot supervised.source with
        | .error error => supervised.loseStart id start error
        | .ok () =>
          supervised.moveStart id start
            (.deciding plan (supervised.captured id start plan answer))
      else
        supervised.loseStart id start
          (unavailable "Camera image differs from the admitted acquisition")

def publishStart (image : CapturedImage) : Supervised :=
  ((supervised.setState (supervised.state.publish image)).note
    (.published supervised.state.active image)).moveStart id start .finished

def decideStart (plan : Plan) (image : CapturedImage) : Supervised :=
  if supervised.state.downloads id && supervised.state.guideRetains plan.operation then
    supervised.publishStart id start image
  else
    (supervised.note (.release plan.operation (.acquisition id))).moveStart id start
      (.releasing plan image)

def releaseStart (plan : Plan) (image : CapturedImage) (answer : Answer) : Supervised :=
  if answer.elapsed then supervised.loseStart id start completionElapsed
  else
    match answer.result with
    | .error error => supervised.loseStart id start error
    | .ok () =>
      let supervised := supervised.note (.released plan.operation)
      match start.session.snapshot supervised.source with
      | .error error => supervised.loseStart id start error
      | .ok () => supervised.moveStart id start (.publishing plan image)

def finishStart (image : CapturedImage) : Supervised :=
  if supervised.state.downloads id then supervised.publishStart id start image
  else supervised.moveStart id start .finished

def rejectStart (error : Option SourceError) : Supervised :=
  match supervised.state.endRejected id error with
  | (state, none) => (supervised.setState state).moveStart id start .finished
  | (state, some operation) =>
    ((supervised.setState state).note (.release operation (.acquisition id))).moveStart id start
      (.returning operation error)

def returnStart (operation : Uuid) (error : Option SourceError) (answer : Answer) : Supervised :=
  match answer.result with
  | .error failure => supervised.loseStart id start failure
  | .ok () =>
    ((supervised.setState (supervised.state.clearRejected id error)).note
      (.released operation)).moveStart id start .finished

def runStart (answer : Answer) : Supervised :=
  match start.stage with
  | .preparing => supervised.prepareStart id start answer
  | .acquiring => supervised.acquireStart id start answer
  | .attaching operation => supervised.attachStart id start operation
  | .measuring operation => supervised.measureStart id start operation answer
  | .prepared plan => supervised.dispatchStart id start plan answer
  | .writing plan => supervised.answerStart id start plan answer
  | .answered plan result => supervised.acknowledgeStart id start plan result
  | .waiting plan => supervised.waitStart id start plan answer
  | .pausing plan => supervised.pauseStart id start plan
  | .reading plan => supervised.readStart id start plan answer
  | .sampled plan ready cameraState => supervised.observeStart id start plan ready cameraState
  | .downloading plan => supervised.downloadStart id start plan answer
  | .deciding plan image => supervised.decideStart id start plan image
  | .releasing plan image => supervised.releaseStart id start plan image answer
  | .publishing _ image => supervised.finishStart id start image
  | .rejecting error => supervised.rejectStart id start error
  | .returning operation error => supervised.returnStart id start operation error answer
  | .finished => supervised

/-- The reservation of a group is dropped, in a host with a runtime or without: before its
dispatch it is cleaned up, later its acquisition is uncertain. -/
def dropStart (runtime : Bool) : Supervised :=
  if start.group then
    match start.stage with
    | .finished => supervised
    | .preparing | .acquiring | .attaching _ | .measuring _ | .prepared _ =>
      if runtime then supervised.moveStart id start (.rejecting none)
      else supervised.loseStart id start .uncertain
    | _ => supervised.loseStart id start .uncertain
  else supervised

end

section

variable (supervised : Supervised) (key : Uuid) (command : Command)

def moveCommand (stage : CommandStage) : Supervised :=
  { supervised with
    commands := Function.update supervised.commands key (some { command with stage := stage }) }

def resumeCommand (error : Option SourceError) : Supervised :=
  (supervised.setState (supervised.state.endCommand command.admission.id
    command.admission.previous error)).moveCommand key command .finished

def loseCommand (error : SourceError) : Supervised :=
  (supervised.setState (supervised.state.uncertain command.admission.id error)).moveCommand key
    command .finished

def probeCommand (answer : Answer) : Supervised :=
  if answer.closed then supervised.resumeCommand key command none
  else
    match answer.result with
    | .error error => supervised.moveCommand key command (.answered (.error error))
    | .ok () => supervised.moveCommand key command .confirming

def confirmCommand (supervised : Supervised) (key : Uuid) (command : Command) : Supervised :=
  match supervised.state.confirmCommand command.admission.id with
  | .error error => supervised.moveCommand key command (.answered (.error error))
  | .ok () => supervised.moveCommand key command .writing

def answerCommand (answer : Answer) : Supervised :=
  match answer.result with
  | .error error => supervised.moveCommand key command (.answered (.error error))
  | .ok () =>
    if supervised.source.generation = command.session.generation then
      (if command.abort then supervised.note (.abortAcknowledged command.admission.id)
        else supervised).moveCommand key command (.answered (.ok ()))
    else supervised

/-- An acknowledged abort; a guide pulse that holds the lease releases it later. -/
def abortCommand (supervised : Supervised) (key : Uuid) (command : Command) : Supervised :=
  if (supervised.state.activeIs command.admission.id).isSome
      && supervised.state.guideRetains command.admission.operation then
    (supervised.setState (supervised.state.clearAborted command.admission.id)).moveCommand key
      command .finished
  else
    (supervised.note (.release command.admission.operation
      (.acquisition command.admission.id))).moveCommand key command .releasing

def settleCommand (result : Except SourceError Unit) : Supervised :=
  match result with
  | .error error =>
    if leavesUncertain error then supervised.loseCommand key command error
    else supervised.resumeCommand key command (some error)
  | .ok () =>
    if command.abort then supervised.abortCommand key command
    else supervised.resumeCommand key command none

def releaseCommand (answer : Answer) : Supervised :=
  match answer.result with
  | .error error => supervised.loseCommand key command error
  | .ok () =>
    ((supervised.setState (supervised.state.clearAborted command.admission.id)).note
      (.released command.admission.operation)).moveCommand key command .finished

def runCommand (answer : Answer) : Supervised :=
  match command.stage with
  | .probing => supervised.probeCommand key command answer
  | .confirming => supervised.confirmCommand key command
  | .writing => supervised.answerCommand key command answer
  | .answered result => supervised.settleCommand key command result
  | .releasing => supervised.releaseCommand key command answer
  | .finished => supervised

end

section

variable (supervised : Supervised) (id : Uuid) (guide : Guide)

def moveGuide (stage : GuideStage) : Supervised :=
  { supervised with
    guides := Function.update supervised.guides id (some { guide with stage := stage }) }

def loseGuide (error : SourceError) : Supervised :=
  (supervised.setState (supervised.state.guideUncertain id error)).moveGuide id guide .finished

def acquireGuide (borrowed : Option Uuid) (answer : Answer) : Supervised :=
  if answer.closed then supervised.moveGuide id guide .finishing
  else
    match borrowed with
    | some operation => supervised.moveGuide id guide (.attaching operation)
    | none =>
      match answer.result with
      | .error _ => supervised.moveGuide id guide .finishing
      | .ok () =>
        if (supervised.leases answer.lease).isSome then supervised
        else (supervised.grant answer.lease (.guide id)).moveGuide id guide
          (.attaching answer.lease)

def attachGuide (operation : Uuid) : Supervised :=
  match supervised.state.attachGuide id operation with
  | none => supervised.moveGuide id guide .finishing
  | some state =>
    ((supervised.setState state).note (.attached operation)).moveGuide id guide
      (.probing operation)

def probeGuide (answer : Answer) : Supervised :=
  match answer.result with
  | .error _ => supervised.moveGuide id guide .finishing
  | .ok () =>
    if answer.closed then supervised.moveGuide id guide .finishing
    else supervised.moveGuide id guide .writing

def answerGuide (answer : Answer) : Supervised :=
  match answer.result with
  | .error error =>
    if leavesUncertain error then supervised.loseGuide id guide error
    else supervised.moveGuide id guide .finishing
  | .ok () => supervised.moveGuide id guide .sampling

def sampleGuide (answer : Answer) : Supervised :=
  match answer.result with
  | .error error => supervised.loseGuide id guide { error with kind := .uncertain }
  | .ok () =>
    if answer.ready then supervised.moveGuide id guide .confirming
    else supervised.moveGuide id guide .finishing

def confirmGuide : Supervised :=
  match supervised.state.guides id with
  | none => supervised.moveGuide id guide .finished
  | some state => (supervised.setState state).moveGuide id guide .watching

/-- The pulse is over, the supervisor is retired, or nothing is known any more. -/
def watchGuide (answer : Answer) : Supervised :=
  if answer.elapsed then
    supervised.loseGuide id guide (.new .uncertain "Camera guide completion deadline expired")
  else
    match answer.result with
    | .error error => supervised.loseGuide id guide { error with kind := .uncertain }
    | .ok () => supervised.moveGuide id guide .finishing

def finishGuide : Supervised :=
  match supervised.state.finishGuide id with
  | (state, none) => (supervised.setState state).moveGuide id guide .finished
  | (state, some operation) =>
    ((supervised.setState state).note (.release operation (.guide id))).moveGuide id guide
      (.releasing operation)

def releaseGuide (operation : Uuid) (answer : Answer) : Supervised :=
  match answer.result with
  | .error error => supervised.loseGuide id guide error
  | .ok () =>
    ((supervised.setState (supervised.state.clearGuide id)).note
      (.released operation)).moveGuide id guide .finished

def runGuide (answer : Answer) : Supervised :=
  match guide.stage with
  | .acquiring borrowed => supervised.acquireGuide id guide borrowed answer
  | .attaching operation => supervised.attachGuide id guide operation
  | .probing _ => supervised.probeGuide id guide answer
  | .writing => supervised.answerGuide id guide answer
  | .sampling => supervised.sampleGuide id guide answer
  | .confirming => supervised.confirmGuide id guide
  | .watching => supervised.watchGuide id guide answer
  | .finishing => supervised.finishGuide id guide
  | .releasing operation => supervised.releaseGuide id guide operation answer
  | .finished => supervised

end

section

variable (supervised : Supervised) (id : Uuid) (setting : Setting)

def moveSetting (stage : SettingStage) : Supervised :=
  { supervised with
    settings := Function.update supervised.settings id (some { setting with stage := stage }) }

def acquireSetting (answer : Answer) : Supervised :=
  if answer.closed then supervised.moveSetting id setting .dropping
  else
    match answer.result with
    | .error _ => supervised.moveSetting id setting .dropping
    | .ok () =>
      match setting.borrowed with
      | some operation => supervised.moveSetting id setting (.checking operation)
      | none =>
        if (supervised.leases answer.lease).isSome then supervised
        else (supervised.grant answer.lease (.setting id)).moveSetting id setting
          (.checking answer.lease)

def checkSetting (operation : Uuid) (answer : Answer) : Supervised :=
  if answer.closed then supervised.moveSetting id setting .dropping
  else
    match supervised.state.confirmSetting setting.acquisition with
    | .error _ => supervised.moveSetting id setting .dropping
    | .ok () => supervised.moveSetting id setting (.writing operation)

def answerSetting (operation : Uuid) : Supervised :=
  if setting.borrowed.isSome then supervised.moveSetting id setting .dropping
  else
    (supervised.note (.release operation (.setting id))).moveSetting id setting
      (.releasing operation)

def releaseSetting (operation : Uuid) (answer : Answer) : Supervised :=
  match answer.result with
  | .error _ => supervised.moveSetting id setting .dropping
  | .ok () => (supervised.note (.released operation)).moveSetting id setting .dropping

def dropSetting : Supervised :=
  (supervised.setState (supervised.state.dropSetting id)).moveSetting id setting .finished

def runSetting (answer : Answer) : Supervised :=
  match setting.stage with
  | .acquiring => supervised.acquireSetting id setting answer
  | .checking operation => supervised.checkSetting id setting operation answer
  | .writing operation => supervised.answerSetting id setting operation
  | .releasing operation => supervised.releaseSetting id setting operation answer
  | .dropping => supervised.dropSetting id setting
  | .finished => supervised

end

end Supervised

/-- What happens next.  A task's step names the task; a name that is in use is not given to
another one. -/
inductive Input where
  | source (view : SourceView)
  | status (age : Nat)
  | start (id : Uuid) (session : Session) (request : ExposureRequest) (group : Bool)
  | command (key : Uuid) (session : Session) (abort : Bool) (expected : Option Uuid)
  | guide (id : Uuid) (session : Session) (request : GuideRequest)
  | set (id : Uuid) (session : Session) (setting : CameraSetting)
  | abandonUncertain (acquisition : Uuid)
  | abandonOwned (owner : Uuid)
  | abandonGuiding (owner : Uuid)
  | retire
  | runStart (id : Uuid) (answer : Answer)
  | dropStart (id : Uuid) (runtime : Bool)
  | runCommand (key : Uuid) (answer : Answer)
  | runGuide (id : Uuid) (answer : Answer)
  | runSetting (id : Uuid) (answer : Answer)

namespace Supervised

/-- A status read; the snapshot that it took may be an earlier one when it gets the lock. -/
def readStatus (supervised : Supervised) (age : Nat) : Supervised :=
  match (supervised.source :: supervised.past)[age]? with
  | none => supervised
  | some view =>
    let state := supervised.state.fence view
    (supervised.setState state).note (.reported view (state.report view))

def admitStart (supervised : Supervised) (id : Uuid) (session : Session)
    (request : ExposureRequest) (group : Bool) : Supervised :=
  if (supervised.starts id).isSome || (Duration.tryFromSecsF64 request.durationSeconds).isNone
      || !supervised.admits session then supervised
  else
    match supervised.state.admitStart session id with
    | .error _ => supervised
    | .ok state =>
      (supervised.setState state).moveStart id ⟨session, request, group, .preparing⟩ .preparing

def admitCommand (supervised : Supervised) (key : Uuid) (session : Session) (abort : Bool)
    (expected : Option Uuid) : Supervised :=
  if (supervised.commands key).isSome || !supervised.admits session then supervised
  else
    match supervised.state.admitCommand session abort expected with
    | .error _ => supervised
    | .ok (_, none) => supervised
    | .ok (state, some admission) =>
      (supervised.setState state).moveCommand key ⟨session, abort, admission, .probing⟩ .probing

def admitGuide (supervised : Supervised) (id : Uuid) (session : Session)
    (request : GuideRequest) : Supervised :=
  if (supervised.guides id).isSome || !request.validate.isOk || !supervised.writable
      || !supervised.admits session then supervised
  else
    match supervised.state.admitGuide session id request with
    | .error _ => supervised
    | .ok (state, borrowed) =>
      (supervised.setState state).moveGuide id ⟨session, .acquiring borrowed⟩ (.acquiring borrowed)

def admitSetting (supervised : Supervised) (id : Uuid) (session : Session)
    (setting : CameraSetting) : Supervised :=
  if (supervised.settings id).isSome || !setting.validate.isOk || !supervised.writable
      || !supervised.admits session then supervised
  else
    match supervised.state.admitSetting session id setting with
    | .error _ => supervised
    | .ok (state, borrowed, acquisition) =>
      (supervised.setState state).moveSetting id ⟨session, borrowed, acquisition, .acquiring⟩
        .acquiring

def held (state : State) : List Uuid :=
  (state.active.bind Active.operation).toList ++ (state.guiding.bind GuideActive.operation).toList

/-- An administrative step; a lease that nobody holds after it is forsaken. -/
def forsake (supervised : Supervised) (state : State) : Supervised :=
  { supervised.setState state with
    log := supervised.log
      ++ ((held supervised.state).filter fun operation => operation ∉ held state).map
        Effect.forsaken }

def abandon (supervised : Supervised) : Except SourceError State → Supervised
  | .error _ => supervised
  | .ok state => supervised.forsake state

def retire (supervised : Supervised) : Supervised :=
  if supervised.source.stopped = false ∨ supervised.source.transportConnected = true then supervised
  else supervised.forsake supervised.state.retire

def apply (supervised : Supervised) : Input → Supervised
  | .source view =>
    { supervised with source := view, past := supervised.source :: supervised.past }
  | .status age => supervised.readStatus age
  | .start id session request group => supervised.admitStart id session request group
  | .command key session abort expected => supervised.admitCommand key session abort expected
  | .guide id session request => supervised.admitGuide id session request
  | .set id session setting => supervised.admitSetting id session setting
  | .abandonUncertain acquisition =>
    supervised.abandon (supervised.state.abandonUncertain acquisition)
  | .abandonOwned owner => supervised.abandon (supervised.state.abandonOwned owner)
  | .abandonGuiding owner => supervised.abandon (supervised.state.abandonGuiding owner)
  | .retire => supervised.retire
  | .runStart id answer =>
    (supervised.starts id).elim supervised fun start => supervised.runStart id start answer
  | .dropStart id runtime =>
    (supervised.starts id).elim supervised fun start => supervised.dropStart id start runtime
  | .runCommand key answer =>
    (supervised.commands key).elim supervised fun command =>
      supervised.runCommand key command answer
  | .runGuide id answer =>
    (supervised.guides id).elim supervised fun guide => supervised.runGuide id guide answer
  | .runSetting id answer =>
    (supervised.settings id).elim supervised fun setting =>
      supervised.runSetting id setting answer

end Supervised

def machine : Machine Supervised Input Unit where
  step supervised input := ((), supervised.apply input)

end Regain.Hub.CameraSupervisor
