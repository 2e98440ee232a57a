import Regain.Hub.Coordination.Camera

/-!
# Hosted group operations

A coordinator starts the operations of its groups, and keeps the latest one of every group for those
who observe, cancel or read it.
-/

namespace Regain.Hub

open Lib
open Std (TreeMap)

/-! ## Groups -/

inductive HostedGroupPhase where
  | connecting
  | running
  | complete
  | preflightFailed
  | partialFailure
  | cancelled
  | deadline
  | failed
  deriving DecidableEq

def HostedGroupPhase.terminal (phase : HostedGroupPhase) : Bool :=
  !(phase == .connecting || phase == .running)

structure GroupBinding where
  configuredSource : Uuid
  physicalSource : Uuid

/-- What the hosts of the two kinds of groups differ in. -/
structure GroupKind where
  Config : Type
  Request : Type
  Session : Type
  Result : Type
  Operation : Type
  /-- What one wake-up of a running group finds. -/
  Wake : Type
  /-- What can be read of a running group besides its status. -/
  Query : Type
  Answer : Type
  check : Config → List GroupBinding → Request → Except SourceError Unit
  /-- `new` and `start_owned`: the group runs from here on. -/
  launch : Config → List GroupBinding → List Session → Request → Uuid → Nat →
    Except SourceError Operation
  /-- The report that observers of the running group see. -/
  status : Operation → Result
  sequence : Result → Nat
  terminal : Result → Bool
  phase : Result → HostedGroupPhase
  phase_terminal : ∀ result, (phase result).terminal = terminal result
  wake : Operation → Wake → Operation
  cancel : Operation → Operation
  expire : Operation → Operation
  /-- What the loss of the group's task does to it. -/
  drop : Operation → Operation
  /-- The group's task is at its end. -/
  finished : Operation → Bool
  query : Option Operation → Query → Except SourceError Answer
  unknown : SourceError
  runtimeless : SourceError
  stopped : SourceError
  busy : SourceError
  missing : SourceError
  retired : SourceError
  /-- Whether a cancellation looks for the definition of the group first. -/
  cancelChecked : Bool
  cancelMissing : SourceError
  cancelRetired : SourceError

namespace Hosting

variable {kind : GroupKind}

structure Definition (kind : GroupKind) where
  config : kind.Config
  bindings : List GroupBinding

structure Status (kind : GroupKind) where
  hostInstance : Uuid
  configurationRevision : Uuid
  operation : Uuid
  group : Uuid
  request : kind.Request
  sequence : Nat
  phase : HostedGroupPhase
  bindings : List GroupBinding
  result : Option kind.Result
  failedSource : Option Uuid
  error : Option SourceError

def Status.uncertain (status : Status kind) : Bool :=
  status.phase == .failed && status.error.any fun error => error.kind == .uncertain

/-! ## Operations -/

/-- The task of a running group. -/
inductive GroupTask where
  | working
  | finished
  /-- It was dropped or it panicked. -/
  | lost
  deriving DecidableEq

structure Running (kind : GroupKind) where
  operation : kind.Operation
  task : GroupTask
  /-- The group's own activity. -/
  retained : Bool
  /-- The last report that the host's task was told of. -/
  seen : Nat

/-- Where the task of an operation is. -/
inductive Stage (kind : GroupKind) where
  | connecting (sessions : List kind.Session)
  | launched
  /-- The head of the loop, with a report of the group. -/
  | reported (result : kind.Result)
  | settling (result : kind.Result)
  | publishing (result : kind.Result)
  | waiting
  | failing (error : SourceError)
  /-- The task is over; the guard is dropped next. -/
  | returned
  | retiring
  | releasing
  | closing
  | finished

def Stage.live : Stage kind → Bool
  | .connecting _ => true
  | .launched => true
  | .reported _ => true
  | .settling _ => true
  | .publishing _ => true
  | .waiting => true
  | .failing _ => true
  | _ => false

/-- An operation; `published` are all values that its status had, the last one is `status`. -/
structure Hosted (kind : GroupKind) where
  definition : Definition kind
  group : Uuid
  origin : Nat
  status : Status kind
  published : List (Status kind)
  stage : Stage kind
  running : Option (Running kind)
  cancelled : Bool
  /-- The activity of the guard. -/
  held : Bool
  done : Bool

/-- What one poll of an operation's task finds: whether the deadline's timer fired, and what
the next member answered to the connection. -/
structure Poll (kind : GroupKind) where
  timer : Bool
  session : Option (Except SourceError kind.Session)

inductive Event (kind : GroupKind) where
  | poll (poll : Poll kind)
  /-- The task is dropped, or it panics. -/
  | abort
  | wake (wake : kind.Wake)
  | expire
  /-- The task of a group that is at its end gives its activity back and says so. -/
  | finish
  | lose

namespace Hosted

def update (hosted : Hosted kind) (change : Status kind → Status kind) : Hosted kind :=
  let status := change { hosted.status with sequence := hosted.status.sequence + 1 }
  { hosted with status := status, published := hosted.published ++ [status] }

def at_ (hosted : Hosted kind) (stage : Stage kind) : Hosted kind :=
  { hosted with stage := stage }

def cancel (hosted : Hosted kind) : Hosted kind :=
  { hosted with
    cancelled := true
    running := hosted.running.map fun running =>
      { running with operation := kind.cancel running.operation } }

def launch (hosted : Hosted kind) (sessions : List kind.Session) : Hosted kind :=
  match kind.launch hosted.definition.config hosted.definition.bindings sessions
      hosted.status.request hosted.status.operation hosted.origin with
  | .error error => hosted.at_ (.failing error)
  | .ok operation =>
    let operation := if hosted.cancelled then kind.cancel operation else operation
    { hosted with
      running := some ⟨operation, .working, true, kind.sequence (kind.status operation)⟩
      stage := .launched }

def look (hosted : Hosted kind) : Hosted kind :=
  match hosted.running with
  | none => hosted
  | some running => hosted.at_ (.reported (kind.status running.operation))

/-- The connection of one member, but not beyond a cancellation or the deadline. -/
def connect (hosted : Hosted kind) (sessions : List kind.Session) (binding : GroupBinding)
    (poll : Poll kind) : Hosted kind :=
  if hosted.cancelled then
    (hosted.update fun status => { status with phase := .cancelled }).at_ .returned
  else if poll.timer then
    (hosted.update fun status => { status with phase := .deadline }).at_ .returned
  else
    match poll.session with
    | none => hosted
    | some (.ok session) => hosted.at_ (.connecting (sessions ++ [session]))
    | some (.error error) =>
      (hosted.update fun status =>
        { status with failedSource := some binding.physicalSource }).at_ (.failing error)

def settle (hosted : Hosted kind) (result : kind.Result) : Hosted kind :=
  match hosted.running with
  | none => hosted
  | some running =>
    match running.task with
    | .working => hosted
    | .finished => hosted.at_ (.publishing result)
    | .lost => hosted.at_ (.failing .uncertain)

def changed (hosted : Hosted kind) : Hosted kind :=
  match hosted.running with
  | none => hosted
  | some running =>
    let result := kind.status running.operation
    if kind.sequence result ≠ running.seen then
      { hosted with
        running := some { running with seen := kind.sequence result }
        stage := .reported result }
    else if running.task = .working then hosted
    else hosted.at_ (.failing .uncertain)

def poll (hosted : Hosted kind) (poll : Poll kind) : Hosted kind :=
  match hosted.stage with
  | .connecting sessions =>
    match hosted.definition.bindings[sessions.length]? with
    | none => hosted.launch sessions
    | some binding => hosted.connect sessions binding poll
  | .launched => hosted.look
  | .reported result =>
    hosted.at_ (if kind.terminal result then .settling result else .publishing result)
  | .settling result => hosted.settle result
  | .publishing result =>
    (hosted.update fun status =>
      { status with phase := kind.phase result, result := some result }).at_
        (if kind.terminal result then .returned else .waiting)
  | .waiting => hosted.changed
  | .failing error =>
    (hosted.update fun status =>
      { status with phase := .failed, error := some error }).at_ .returned
  | .returned => hosted.cancel.at_ .retiring
  | .retiring =>
    if hosted.status.phase.terminal then hosted.at_ .releasing
    else
      (hosted.update fun status =>
        { status with phase := .failed, error := some .uncertain }).at_ .releasing
  | .releasing => { hosted with held := false, stage := .closing }
  | .closing => { hosted with done := true, stage := .finished }
  | .finished => hosted

def abort (hosted : Hosted kind) : Hosted kind :=
  if hosted.stage.live then hosted.at_ .returned else hosted

def group_ (hosted : Hosted kind) (step : Running kind → Running kind) : Hosted kind :=
  { hosted with
    running := hosted.running.map fun running =>
      if running.task = .working then step running else running }

def apply (hosted : Hosted kind) : Event kind → Hosted kind
  | .poll poll => hosted.poll poll
  | .abort => hosted.abort
  | .wake wake =>
    hosted.group_ fun running => { running with operation := kind.wake running.operation wake }
  | .expire =>
    hosted.group_ fun running => { running with operation := kind.expire running.operation }
  | .finish =>
    hosted.group_ fun running =>
      if kind.finished running.operation then
        { running with task := .finished, retained := false }
      else running
  | .lose =>
    hosted.group_ fun running =>
      { running with
        operation := kind.drop running.operation
        task := .lost
        retained := false }

end Hosted

/-! ## The coordinator -/

inductive Request (kind : GroupKind) where
  | status (operation : Option Uuid)
  | cancel (operation : Uuid)
  | query (operation : Uuid) (query : kind.Query)

def Request.operation : Request kind → Option Uuid
  | .status operation => operation
  | .cancel operation => some operation
  | .query operation _ => some operation

/-- A request that found its entry. -/
structure Call (kind : GroupKind) where
  index : Nat
  group : Uuid
  request : Request kind

/-- A call of `stop` that has not returned: the entries that it still has to cancel, and those
that it still waits for. -/
structure Stop where
  cancelling : List Nat
  waiting : List Nat

/-- Every operation that was ever started stands in `operations`; `entries` has the latest one
of each group. -/
structure Coordinator (kind : GroupKind) where
  definitions : TreeMap Uuid (Definition kind)
  closed : Bool
  entries : TreeMap Uuid Nat
  operations : List (Hosted kind)
  calls : List (Call kind)
  stops : List Stop

structure Start (kind : GroupKind) where
  host : Uuid
  revision : Uuid
  group : Uuid
  request : kind.Request
  /-- The new identity, the time, and whether a runtime is there to spawn on. -/
  operation : Uuid
  now : Nat
  runtime : Bool

inductive Op (kind : GroupKind) where
  | start (start : Start kind)
  /-- A request looks for its entry. -/
  | enter (group : Uuid) (request : Request kind)
  /-- A request that found its entry is carried out. -/
  | complete (call : Nat)
  | stop
  | proceed (stop : Nat)
  | task (index : Nat) (event : Event kind)
  /-- The coordinator is dropped; the tasks are not. -/
  | drop

inductive Reply (kind : GroupKind) where
  | none
  | status (result : Except SourceError (Status kind))
  | answer (result : Except SourceError kind.Answer)
  | stopped

namespace Coordinator

def new (definitions : TreeMap Uuid (Definition kind)) : Coordinator kind where
  definitions := definitions
  closed := false
  entries := ∅
  operations := []
  calls := []
  stops := []

def modify (coordinator : Coordinator kind) (index : Nat) (change : Hosted kind → Hosted kind) :
    Coordinator kind :=
  { coordinator with operations := coordinator.operations.modify index change }

def latest (coordinator : Coordinator kind) (group : Uuid) : Option (Nat × Hosted kind) :=
  coordinator.entries[group]?.bind fun index =>
    coordinator.operations[index]?.map fun hosted => (index, hosted)

def free (coordinator : Coordinator kind) (group : Uuid) : Except SourceError Unit :=
  match coordinator.latest group with
  | none => .ok ()
  | some (_, hosted) =>
    if !hosted.done then .error kind.busy
    else if hosted.status.uncertain then .error .uncertain
    else .ok ()

def check (coordinator : Coordinator kind) (start : Start kind) :
    Except SourceError (Definition kind) :=
  match coordinator.definitions[start.group]? with
  | none => .error kind.unknown
  | some definition => do
    kind.check definition.config definition.bindings start.request
    if !start.runtime then throw kind.runtimeless
    if coordinator.closed then throw kind.stopped
    coordinator.free start.group
    return definition

def initial (definition : Definition kind) (start : Start kind) : Status kind where
  hostInstance := start.host
  configurationRevision := start.revision
  operation := start.operation
  group := start.group
  request := start.request
  sequence := 1
  phase := .connecting
  bindings := definition.bindings
  result := none
  failedSource := none
  error := none

def hosted (definition : Definition kind) (start : Start kind) : Hosted kind where
  definition := definition
  group := start.group
  origin := start.now
  status := initial definition start
  published := [initial definition start]
  stage := .connecting []
  running := none
  cancelled := false
  held := true
  done := false

def start (coordinator : Coordinator kind) (start : Start kind) :
    Except SourceError (Status kind) × Coordinator kind :=
  match coordinator.check start with
  | .error error => (.error error, coordinator)
  | .ok definition =>
    (.ok (initial definition start),
      { coordinator with
        entries := coordinator.entries.insert start.group coordinator.operations.length
        operations := coordinator.operations ++ [hosted definition start] })

def entry (coordinator : Coordinator kind) (checked : Bool) (missing retired : SourceError)
    (group : Uuid) (operation : Option Uuid) : Except SourceError Nat :=
  if checked && !coordinator.definitions.contains group then .error kind.unknown
  else
    match coordinator.latest group with
    | none => .error missing
    | some (index, hosted) =>
      if operation.any fun operation => operation != hosted.status.operation then
        .error retired
      else .ok index

def find (coordinator : Coordinator kind) (group : Uuid) : Request kind → Except SourceError Nat
  | .status operation => coordinator.entry true kind.missing kind.retired group operation
  | .cancel operation =>
    coordinator.entry kind.cancelChecked kind.cancelMissing kind.cancelRetired group
      (some operation)
  | .query operation _ => coordinator.entry true kind.missing kind.retired group (some operation)

def Request.refused (error : SourceError) : Request kind → Reply kind
  | .status _ => .status (.error error)
  | .cancel _ => .status (.error error)
  | .query _ _ => .answer (.error error)

def enter (coordinator : Coordinator kind) (group : Uuid) (request : Request kind) :
    Reply kind × Coordinator kind :=
  match coordinator.find group request with
  | .error error => (Request.refused error request, coordinator)
  | .ok index => (.none, { coordinator with calls := coordinator.calls ++ [⟨index, group, request⟩] })

def respond (hosted : Hosted kind) : Request kind → Reply kind
  | .status _ => .status (.ok hosted.status)
  | .cancel _ => .status (.ok hosted.status)
  | .query _ query => .answer (kind.query (hosted.running.map Running.operation) query)

def carry (request : Request kind) (hosted : Hosted kind) : Hosted kind :=
  match request with
  | .cancel _ => hosted.cancel
  | _ => hosted

def complete (coordinator : Coordinator kind) (number : Nat) : Reply kind × Coordinator kind :=
  match coordinator.calls[number]? with
  | none => (.none, coordinator)
  | some call =>
    (coordinator.operations[call.index]?.elim .none fun hosted => respond hosted call.request,
      { coordinator.modify call.index (carry call.request) with
        calls := coordinator.calls.eraseIdx number })

def stop (coordinator : Coordinator kind) : Coordinator kind :=
  let entries := coordinator.entries.toList.map Prod.snd
  { coordinator with closed := true, stops := coordinator.stops ++ [⟨entries, entries⟩] }

def proceed (coordinator : Coordinator kind) (number : Nat) : Reply kind × Coordinator kind :=
  match coordinator.stops[number]? with
  | none => (.none, coordinator)
  | some ⟨index :: cancelling, waiting⟩ =>
    (.none, { coordinator.modify index Hosted.cancel with
      stops := coordinator.stops.set number ⟨cancelling, waiting⟩ })
  | some ⟨[], index :: waiting⟩ =>
    if (coordinator.operations[index]?).all Hosted.done then
      (.none, { coordinator with stops := coordinator.stops.set number ⟨[], waiting⟩ })
    else (.none, coordinator)
  | some ⟨[], []⟩ => (.stopped, { coordinator with stops := coordinator.stops.eraseIdx number })

def drop (coordinator : Coordinator kind) : Coordinator kind :=
  (coordinator.entries.toList.map Prod.snd).foldl
    (fun coordinator index => coordinator.modify index Hosted.cancel) coordinator

def step (coordinator : Coordinator kind) : Op kind → Reply kind × Coordinator kind
  | .start start =>
    let started := coordinator.start start
    (.status started.1, started.2)
  | .enter group request => coordinator.enter group request
  | .complete call => coordinator.complete call
  | .stop => (.none, coordinator.stop)
  | .proceed stop => coordinator.proceed stop
  | .task index event => (.none, coordinator.modify index fun hosted => hosted.apply event)
  | .drop => (.none, coordinator.drop)

end Coordinator

def machine (kind : GroupKind) : Machine (Coordinator kind) (Op kind) (Reply kind) where
  step := Coordinator.step

end Hosting

/-! ## The two kinds of groups -/

def FocuserGroup.Operation.status (operation : FocuserGroup.Operation) : FocuserGroupResult :=
  ((operation.log.filterMap fun effect =>
    match effect with
    | .published report => some report
    | _ => none).getLast?).getD operation.report

def FocuserGroupPhase.hosted : FocuserGroupPhase → HostedGroupPhase
  | .preflight => .running
  | .moving => .running
  | .complete => .complete
  | .preflightFailed => .preflightFailed
  | .partialFailure => .partialFailure
  | .cancelled => .cancelled
  | .deadline => .deadline

def FocuserGroupConfig.checkTarget (config : FocuserGroupConfig) (target : Int32) :
    Except SourceError Unit := do
  if target < config.minimum ∨ config.maximum < target then
    throw (invalidGroup "Focuser group logical target is outside configured travel")
  config.members.forM fun member => discard (member.target target)

def focuserGroups : GroupKind where
  Config := FocuserGroupConfig
  Request := Int32
  Session := FocuserSession
  Result := FocuserGroupResult
  Operation := FocuserGroup.Operation
  Wake := FocuserGroup.Wake
  Query := Empty
  Answer := Empty
  check := fun config _ target => config.checkTarget target
  launch := fun config _ sessions target operation _ =>
    (FocuserGroup.new config sessions).bind fun group => group.startOwned true false target operation
  status := FocuserGroup.Operation.status
  sequence := FocuserGroupResult.sequence
  terminal := fun result => result.phase.terminal
  phase := fun result => result.phase.hosted
  phase_terminal := fun result => by cases result.phase <;> rfl
  wake := FocuserGroup.Operation.wake
  cancel := fun operation => operation.apply .cancel
  expire := fun operation => operation.apply .expire
  drop := id
  finished := fun operation => operation.stage == .finished
  query := fun _ query => query.elim
  unknown := invalidGroup "Unknown focuser group"
  runtimeless := invalidGroup "Focuser group requires a host runtime"
  stopped := .new .disconnected "Focuser group host is stopped"
  busy := .new .busy "Focuser group operation is already active"
  missing := .new .unavailable "No retained operation for this focuser group"
  retired := .new .unavailable "Focuser group operation has been retired"
  cancelChecked := false
  cancelMissing := invalidGroup "Unknown focuser group"
  cancelRetired := invalidGroup "Focuser group operation identity does not match"

def CameraGroup.Operation.image (operation : CameraGroup.Operation) (source : Uuid) :
    Except SourceError CapturedImage :=
  match operation.status.members.findIdx? fun member => member.source == source with
  | none => .error (invalidGroup "Camera is not a member of this operation")
  | some index =>
    (operation.images index).elim
      (.error (.new .unavailable "Group image is not available")) .ok

def CameraGroupPhase.hosted : CameraGroupPhase → HostedGroupPhase
  | .preflight => .running
  | .capturing => .running
  | .complete => .complete
  | .preflightFailed => .preflightFailed
  | .partialFailure => .partialFailure
  | .cancelled => .cancelled
  | .deadline => .deadline

/-- The requests are those of the configured members, with durations that can be waited for. -/
def checkCameraRequests (bindings : List GroupBinding) (requests : List CameraMemberRequest) :
    Except SourceError Unit :=
  if requests.length != bindings.length || (requests.zip bindings).any fun pair =>
      pair.1.source != pair.2.configuredSource || !pair.1.exposure.durationSeconds.isFinite
        || decide (pair.1.exposure.durationSeconds < 0) then
    .error (invalidGroup "Camera requests do not match configured members or durations")
  else .ok ()

structure CameraImageQuery where
  source : Uuid
  generation : Uuid
  acquisition : Uuid

def CameraImageQuery.answer (query : CameraImageQuery) (running : Option CameraGroup.Operation) :
    Except SourceError CapturedImage :=
  match running with
  | none => .error (.new .unavailable "Camera group has not acquired images")
  | some operation => do
    let image ← operation.image query.source
    if image.identity.generation ≠ query.generation
        ∨ image.identity.acquisition ≠ query.acquisition then
      throw (.new .unavailable "Camera group image identity does not match")
    return image

def cameraGroups : GroupKind where
  Config := CameraGroupConfig
  Request := List CameraMemberRequest
  Session := CameraGroupSession
  Result := CameraGroupResult
  Operation := CameraGroup.Operation
  Wake := CameraGroup.Wake
  Query := CameraImageQuery
  Answer := CapturedImage
  check := fun _ bindings requests => checkCameraRequests bindings requests
  launch := fun config bindings sessions requests operation origin =>
    (CameraGroup.new config sessions).bind fun group =>
      group.startOwned true false
        ((requests.zip bindings).map fun pair => { pair.1 with source := pair.2.physicalSource })
        operation origin
  status := CameraGroup.Operation.status
  sequence := CameraGroupResult.sequence
  terminal := fun result => result.phase.terminal
  phase := fun result => result.phase.hosted
  phase_terminal := fun result => by cases result.phase <;> rfl
  wake := CameraGroup.Operation.wake
  cancel := fun operation => operation.apply .cancel
  expire := fun operation => operation.apply .expire
  drop := CameraGroup.Operation.drop
  finished := fun operation => operation.stage == .finished
  query := fun running query => query.answer running
  unknown := invalidGroup "Unknown camera group"
  runtimeless := invalidGroup "Camera group requires a host runtime"
  stopped := .new .disconnected "Camera group host is stopped"
  busy := .new .busy "Camera group operation is already active"
  missing := .new .unavailable "No retained operation for this camera group"
  retired := .new .unavailable "Camera group operation has been retired"
  cancelChecked := true
  cancelMissing := .new .unavailable "No retained operation for this camera group"
  cancelRetired := .new .unavailable "Camera group operation has been retired"

end Regain.Hub
