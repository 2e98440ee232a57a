import Mathlib.Logic.Function.Basic
import Regain.Hub.Camera.Image
import Regain.Hub.Coordination.Focuser

/-!
# Camera groups

A group starts an exposure on several cameras and collects their images. After the starts its
operation is one loop over events that arrive in any order.
-/

namespace Regain.Hub

open Lib

inductive CameraFailurePolicy where
  | continue_
  | abortStarted
  deriving DecidableEq

inductive CameraCancellationPolicy where
  | leaveRunning
  | abortStarted
  deriving DecidableEq

structure CameraGroupConfig where
  id : Uuid
  label : String
  timeoutSeconds : F64
  failurePolicy : CameraFailurePolicy
  cancellationPolicy : CameraCancellationPolicy
  members : List Uuid

def CameraGroupConfig.validate (config : CameraGroupConfig) : Except SourceError Unit :=
  if config.id.isNil || config.label.toList.all isWhiteSpace || 200 < config.label.length
      || !config.timeoutSeconds.isFinite
      || !(decide (0.01 ≤ config.timeoutSeconds) && decide (config.timeoutSeconds ≤ 604800.0))
      || !(2 ≤ config.members.length && config.members.length ≤ 32)
      || !decide config.members.Nodup || config.members.any Uuid.isNil then
    .error (invalidGroup "Invalid camera group configuration")
  else .ok ()

structure CameraMemberRequest where
  source : Uuid
  exposure : ExposureRequest
  requireScalarImage : Bool

inductive CameraMemberPhase where
  | notStarted
  | prepared
  | starting
  | exposing
  | aborting
  | complete
  | rejected
  | failed
  | uncertain
  | aborted
  deriving DecidableEq

inductive CameraGroupPhase where
  | preflight
  | capturing
  | complete
  | preflightFailed
  | partialFailure
  | cancelled
  | deadline
  deriving DecidableEq

def CameraGroupPhase.terminal (phase : CameraGroupPhase) : Bool :=
  !(phase == .preflight || phase == .capturing)

structure CameraMemberResult where
  source : Uuid
  generation : Uuid
  request : ExposureRequest
  requireScalarImage : Bool
  acquisition : Option Uuid
  phase : CameraMemberPhase
  dispatchSeconds : Option F64
  acknowledgementSeconds : Option F64
  image : Option AcquisitionIdentity
  error : Option SourceError
  abortError : Option SourceError

structure CameraGroupResult where
  operation : Uuid
  group : Uuid
  sequence : Nat
  phase : CameraGroupPhase
  /-- The spread of the dispatch times, once all are known. -/
  startSkewSeconds : Option F64
  members : List CameraMemberResult

namespace CameraMemberResult

def reject (error : SourceError) (member : CameraMemberResult) : CameraMemberResult :=
  { member with phase := .rejected, error := some error }

def fail (error : SourceError) (member : CameraMemberResult) : CameraMemberResult :=
  { member with
    phase := if error.kind = .uncertain || error.transportLost then .uncertain else .failed
    error := some error }

def matches_ (member : CameraMemberResult) (image : CapturedImage) : Bool :=
  image.identity.source = member.source && image.identity.generation = member.generation
    && some image.identity.acquisition = member.acquisition

def abandon (member : CameraMemberResult) : CameraMemberResult :=
  match member.phase with
  | .complete => member
  | .aborted => member
  | .rejected => member
  | .failed => member
  | .uncertain => member
  | _ => { member with phase := .uncertain, error := some .uncertain }

end CameraMemberResult

/-- A connected session, by what identifies it. -/
structure CameraGroupSession where
  sourceId : Uuid
  generation : Uuid

/-- Sessions that are the members of a valid configuration, in its order. -/
structure CameraGroup where
  config : CameraGroupConfig
  sessions : List CameraGroupSession
  checked : config.validate = .ok ()
  matched : sessions.map CameraGroupSession.sourceId = config.members

structure CameraStartReceipt where
  dispatchedAt : Nat
  acknowledgedAt : Nat
  result : Except SourceError Uuid

namespace CameraGroup

def new (config : CameraGroupConfig) (sessions : List CameraGroupSession) :
    Except SourceError CameraGroup :=
  match hchecked : config.validate with
  | .error error => .error error
  | .ok () =>
    if hmatched : sessions.map CameraGroupSession.sourceId = config.members then
      .ok ⟨config, sessions, hchecked, hmatched⟩
    else .error (invalidGroup "Camera group sessions do not match physical sources")

/-- What the loop waits for. -/
inductive Future where
  | start (index : Nat)
  | image (index : Nat)
  | abort (index : Nat)
  deriving DecidableEq

inductive Event where
  | start (index : Nat) (receipt : Except SourceError CameraStartReceipt)
  | image (index : Nat) (result : Except SourceError CapturedImage)
  | abort (index : Nat) (result : Except SourceError Unit)

def Event.future : Event → Future
  | start index _ => .start index
  | image index _ => .image index
  | abort index _ => .abort index

/-- Where an operation is. -/
inductive Stage where
  | preparing (index : Nat)
  | rechecking (index : Nat)
  /-- All checks passed; what follows does not wait. -/
  | checked
  | releasing (index : Nat)
  /-- The head of the loop; it does not wait. -/
  | head
  /-- The loop waits for its next event. -/
  | waiting
  /-- Only events that are ready are taken. -/
  | draining
  /-- Behind the loop; it does not wait. -/
  | settling
  | finished
  deriving DecidableEq

inductive Effect where
  | dispatched (index : Nat)
  | acknowledged (index : Nat)
  | aborted (index : Nat)
  | published (report : CameraGroupResult)

/-- A running operation; `status` is what observers see, `log` is its history. -/
structure Operation where
  config : CameraGroupConfig
  origin : Nat
  stage : Stage
  report : CameraGroupResult
  status : CameraGroupResult
  cancelled : Bool
  expired : Bool
  /-- The acquisitions of the starts that are reserved. -/
  prepared : List Uuid
  startsPending : Nat
  abortsPending : Nat
  abortRequested : Nat → Bool
  pendingImages : Nat → Bool
  images : Nat → Option CapturedImage
  events : Finset Future
  stop : Option CameraGroupPhase
  deadlineHit : Bool
  failure : Bool
  log : List Effect

/-- `start_owned`, in a host with a runtime or without, while the group is busy or idle. -/
def startOwned (group : CameraGroup) (runtime busy : Bool) (requests : List CameraMemberRequest)
    (operation : Uuid) (origin : Nat) : Except SourceError Operation := do
  if requests.map CameraMemberRequest.source ≠ group.config.members then
    throw (invalidGroup "Camera requests do not match configured members")
  if requests.any fun request =>
      !request.exposure.durationSeconds.isFinite || decide (request.exposure.durationSeconds < 0) then
    throw (invalidGroup "Invalid camera exposure duration")
  if !runtime then throw (invalidGroup "Camera group requires an active runtime")
  if busy then throw (.new .busy "Camera group operation is already active")
  let report : CameraGroupResult := {
    operation := operation
    group := group.config.id
    sequence := 1
    phase := .preflight
    startSkewSeconds := none
    members := (group.sessions.zip requests).map fun pair =>
      { source := pair.2.source
        generation := pair.1.generation
        request := pair.2.exposure
        requireScalarImage := pair.2.requireScalarImage
        acquisition := none
        phase := .notStarted
        dispatchSeconds := none
        acknowledgementSeconds := none
        image := none
        error := none
        abortError := none } }
  return {
    config := group.config
    origin := origin
    stage := .preparing 0
    report := report
    status := report
    cancelled := false
    expired := false
    prepared := []
    startsPending := 0
    abortsPending := 0
    abortRequested := fun _ => false
    pendingImages := fun _ => false
    images := fun _ => none
    events := ∅
    stop := none
    deadlineHit := false
    failure := false
    log := [.published report] }

namespace Operation

def note (operation : Operation) (effect : Effect) : Operation :=
  { operation with log := operation.log ++ [effect] }

def emit (operation : Operation) : Operation :=
  let report := { operation.report with sequence := operation.report.sequence + 1 }
  { operation with report := report, status := report, log := operation.log ++ [.published report] }

def setPhase (operation : Operation) (phase : CameraGroupPhase) : Operation :=
  { operation with report := { operation.report with phase := phase } }

def setMember (operation : Operation) (index : Nat)
    (change : CameraMemberResult → CameraMemberResult) : Operation :=
  { operation with report := { operation.report with
      members := operation.report.members.modify index change } }

def interruption (operation : Operation) : Option CameraGroupPhase :=
  if operation.cancelled then some .cancelled
  else if operation.expired then some .deadline
  else none

def finish (operation : Operation) : Operation :=
  { operation.emit with stage := .finished }

/-- Release the reserved starts from some index on, then publish the last report. -/
def releaseFrom (operation : Operation) (index : Nat) : Operation :=
  if index < operation.prepared.length then { operation with stage := .releasing index }
  else operation.finish

def retreat (operation : Operation) (phase : CameraGroupPhase) : Operation :=
  (operation.setPhase phase).releaseFrom 0

/-- Wait for some work, but not beyond a cancellation or the deadline's timer. -/
def interruptible {α : Type} (operation : Operation) (timer : Bool) (work : Option α)
    (next : α → Operation) : Operation :=
  if operation.cancelled then operation.retreat .cancelled
  else if timer && operation.expired then operation.retreat .deadline
  else
    match work with
    | none => operation
    | some result => next result

def prepare (operation : Operation) (index : Nat) : Except SourceError Uuid → Operation
  | .ok acquisition =>
    let operation := ({ operation with prepared := operation.prepared ++ [acquisition] }.setMember
      index fun member => { member with phase := .prepared }).emit
    if index + 1 < operation.report.members.length then
      { operation with stage := .preparing (index + 1) }
    else { operation with stage := .rechecking 0 }
  | .error error =>
    (operation.setMember index (CameraMemberResult.reject error)).retreat .preflightFailed

def recheck (operation : Operation) (index : Nat) : Except SourceError Unit → Operation
  | .ok () =>
    if index + 1 < operation.prepared.length then
      { operation with stage := .rechecking (index + 1) }
    else { operation with stage := .checked }
  | .error error =>
    (operation.setMember index (CameraMemberResult.reject error)).retreat .preflightFailed

def release (operation : Operation) (index : Nat) (result : Except SourceError Unit) : Operation :=
  let settle : CameraMemberResult → CameraMemberResult := fun member =>
    match result with
    | .error error => member.fail error
    | .ok () => if member.phase = .prepared then { member with phase := .notStarted } else member
  (operation.setMember index settle).releaseFrom (index + 1)

def dispatchMember (operation : Operation) (start : Uuid × Nat) : Operation :=
  { (operation.note (.dispatched start.2)).setMember start.2 fun member =>
      { member with acquisition := some start.1, phase := .starting } with
    events := insert (Future.start start.2) operation.events }

def dispatch (operation : Operation) : Operation :=
  let operation := operation.prepared.zipIdx.foldl dispatchMember operation
  { (operation.setPhase .capturing).emit with
    startsPending := operation.report.members.length
    stage := .head }

def launch (operation : Operation) : Operation :=
  match operation.interruption with
  | some phase => operation.retreat phase
  | none => operation.dispatch

def aborting (operation : Operation) : Bool :=
  (operation.failure && operation.config.failurePolicy == .abortStarted)
    || (operation.stop.isSome && operation.config.cancellationPolicy == .abortStarted)

def requestAbort (operation : Operation) (index : Nat) : Operation :=
  if (operation.report.members[index]?).any (fun member => member.phase == .exposing)
      && !operation.abortRequested index then
    { (operation.note (.aborted index)).setMember index fun member =>
        { member with phase := .aborting } with
      abortRequested := Function.update operation.abortRequested index true
      abortsPending := operation.abortsPending + 1
      events := insert (Future.abort index) operation.events }
  else operation

def requestAborts (operation : Operation) : Operation :=
  if operation.aborting then
    ((List.range operation.report.members.length).foldl requestAbort operation).emit
  else operation

def anyPending (operation : Operation) : Bool :=
  (List.range operation.report.members.length).any operation.pendingImages

def finishing (operation : Operation) : Bool :=
  operation.startsPending = 0 && operation.abortsPending = 0
    && (operation.stop.isSome || operation.aborting)
    && (!operation.aborting || !operation.anyPending || operation.deadlineHit)

def turn (operation : Operation) : Operation :=
  let operation := operation.requestAborts
  { operation with stage := if operation.finishing then .draining else .waiting }

def skew (operation : Operation) : Option F64 :=
  if operation.startsPending = 0
      && operation.report.members.all fun member => member.dispatchSeconds.isSome then
    let times := operation.report.members.filterMap CameraMemberResult.dispatchSeconds
    some ((times.foldl F64.max (.infinite true)).sub (times.foldl F64.min (.infinite false)))
  else operation.report.startSkewSeconds

def setSkew (operation : Operation) : Operation :=
  { operation with report := { operation.report with startSkewSeconds := operation.skew } }

def stamp (origin : Nat) (receipt : Except SourceError CameraStartReceipt)
    (member : CameraMemberResult) : CameraMemberResult :=
  match receipt with
  | .error _ => member
  | .ok receipt =>
    { member with
      dispatchSeconds := some (Duration.asSecsF64 (receipt.dispatchedAt - origin))
      acknowledgementSeconds := some (Duration.asSecsF64 (receipt.acknowledgedAt - origin)) }

def started (receipt : Except SourceError CameraStartReceipt) : Except SourceError Uuid :=
  receipt.bind CameraStartReceipt.result

def startError (receipt : Except SourceError CameraStartReceipt) : SourceError :=
  match started receipt with
  | .error error => error
  | .ok _ => .uncertain

def acknowledges (member : CameraMemberResult) (receipt : Except SourceError CameraStartReceipt) :
    Bool :=
  match started receipt with
  | .error _ => false
  | .ok acquisition => some acquisition = member.acquisition

def handleStart (operation : Operation) (index : Nat) (member : CameraMemberResult)
    (receipt : Except SourceError CameraStartReceipt) : Operation :=
  let operation := { operation with startsPending := operation.startsPending - 1 }
  if acknowledges member receipt then
    ({ (operation.note (.acknowledged index)).setMember index fun member =>
        { stamp operation.origin receipt member with phase := .exposing } with
      pendingImages := Function.update operation.pendingImages index true
      events := insert (Future.image index) operation.events }).setSkew
  else
    { operation.setMember index fun member =>
        (stamp operation.origin receipt member).fail (startError receipt) with
      failure := true }.setSkew

def handleImage (operation : Operation) (index : Nat) (member : CameraMemberResult)
    (result : Except SourceError CapturedImage) : Operation :=
  let operation := { operation with
    pendingImages := Function.update operation.pendingImages index false }
  let lost := fun error : SourceError =>
    if member.phase = .aborting ∨ member.phase = .aborted then operation
    else
      { operation.setMember index fun member =>
          { member with phase := .uncertain, error := some error } with
        failure := true }
  match result with
  | .ok image =>
    if member.matches_ image then
      { operation.setMember index fun member =>
          { member with image := some image.identity, phase := .complete, error := none } with
        images := Function.update operation.images index (some image) }
    else lost .uncertain
  | .error error => lost error

def handleAbort (operation : Operation) (index : Nat) (member : CameraMemberResult)
    (result : Except SourceError Unit) : Operation :=
  let operation := { operation with abortsPending := operation.abortsPending - 1 }
  match result with
  | .ok () =>
    if member.phase = .complete then operation
    else
      { operation.setMember index fun member => { member with phase := .aborted } with
        pendingImages := Function.update operation.pendingImages index false }
  | .error error =>
    operation.setMember index fun member =>
      { member with
        abortError := some error
        phase := if member.phase = .complete then .complete else .uncertain }

def handle (operation : Operation) (event : Event) : Operation :=
  let operation := { operation with events := operation.events.erase event.future }
  let next := match event with
    | .start index receipt =>
      (operation.report.members[index]?).elim operation fun member =>
        operation.handleStart index member receipt
    | .image index result =>
      (operation.report.members[index]?).elim operation fun member =>
        operation.handleImage index member result
    | .abort index result =>
      (operation.report.members[index]?).elim operation fun member =>
        operation.handleAbort index member result
  { next.emit with stage := .head }

def settle (operation : Operation) : Operation :=
  let phase :=
    if operation.report.members.all fun member => member.phase == .complete then
      CameraGroupPhase.complete
    else .partialFailure
  (operation.setPhase (operation.interruption.getD (operation.stop.getD phase))).finish

def drop (operation : Operation) : Operation :=
  if operation.status.phase.terminal then operation
  else
    let report := { operation.status with
      members := operation.status.members.map CameraMemberResult.abandon
      phase := .partialFailure }
    { operation with report := report }.finish

end Operation

/-- What one wake-up of an operation finds: whether the deadline's timer fired, the answer to a
preparation, check or release, and an event that is ready. -/
structure Wake where
  timer : Bool
  prepared : Option (Except SourceError Uuid)
  answer : Option (Except SourceError Unit)
  event : Option Event

inductive Input where
  | cancel
  | expire
  | drop
  | wake (wake : Wake)

namespace Operation

def ready (operation : Operation) (wake : Wake) : Option Event :=
  wake.event.filter fun event => event.future ∈ operation.events

/-- The loop waits; an event comes first, then a cancellation, then the deadline. -/
def wait (operation : Operation) (wake : Wake) : Operation :=
  if operation.events = ∅ then { operation with stage := .settling }
  else
    match operation.ready wake with
    | some event => operation.handle event
    | none =>
      if operation.cancelled && operation.stop.isNone then
        { operation with stop := some .cancelled, stage := .head }
      else if operation.expired && wake.timer && !operation.deadlineHit then
        { operation with
          deadlineHit := true
          stop := some (operation.stop.getD .deadline)
          stage := .head }
      else operation

def drain (operation : Operation) (wake : Wake) : Operation :=
  match operation.ready wake with
  | some event => operation.handle event
  | none => { operation with stage := .settling }

def wake (operation : Operation) (wake : Wake) : Operation :=
  match operation.stage with
  | .preparing index => operation.interruptible wake.timer wake.prepared (operation.prepare index)
  | .rechecking index => operation.interruptible wake.timer wake.answer (operation.recheck index)
  | .checked => operation.launch
  | .releasing index =>
    match wake.answer with
    | none => operation
    | some result => operation.release index result
  | .head => operation.turn
  | .waiting => operation.wait wake
  | .draining => operation.drain wake
  | .settling => operation.settle
  | .finished => operation

def apply (operation : Operation) : Input → Operation
  | .cancel => { operation with cancelled := true }
  | .expire => { operation with expired := true }
  | .drop => operation.drop
  | .wake wake => operation.wake wake

end Operation

def machine : Machine Operation Input Unit where
  step operation input := ((), operation.apply input)

end CameraGroup

end Regain.Hub
