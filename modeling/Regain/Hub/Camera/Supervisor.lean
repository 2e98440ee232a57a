import Regain.Hub.Camera.Image

/-!
# The camera supervisor

One supervisor per source keeps the acquisition, the setting, the guide pulse and the last image.
Its state is behind a lock; each definition below is one section under that lock.
-/

namespace Regain.Hub.CameraSupervisor

open Lib

def invalid (message : String) : SourceError :=
  .new .invalidValue message

def unavailable (message : String) : SourceError :=
  .new .unavailable message

def busy : SourceError :=
  .new .busy "Another camera operation owns this acquisition"

def retiredError : SourceError :=
  .new .disconnected "Camera runtime has retired"

def disconnected : SourceError :=
  .new .disconnected "Typed source session changed; reconnect explicitly"

/-- What the supervisor reads of its source. -/
structure SourceView where
  source : Uuid
  generation : Uuid
  transportConnected : Bool
  writeUncertain : Bool
  stopped : Bool
  deriving DecidableEq

/-- A client's session, connected in one generation of the source. -/
structure Session where
  id : Uuid
  generation : Uuid

def Session.snapshot (session : Session) (view : SourceView) : Except SourceError Unit :=
  if view.generation ≠ session.generation ∨ view.transportConnected = false then
    .error disconnected
  else .ok ()

structure GuideRequest where
  direction : Int32
  durationMilliseconds : Int32

def GuideRequest.validate (request : GuideRequest) : Except SourceError Unit :=
  if !(decide (0 ≤ request.direction) && decide (request.direction ≤ 3))
      || decide (request.durationMilliseconds < 0) then
    .error (invalid "Invalid camera guide direction or duration")
  else .ok ()

/-- The properties that a setting writes. -/
inductive CameraProperty where
  | binX
  | binY
  | numX
  | numY
  | startX
  | startY
  | gain
  | offset
  | readoutMode
  | fastReadout
  | coolerOn
  | setCcdTemperature
  | subExposureDuration

inductive CameraSetting where
  | binX (value : Int32)
  | binY (value : Int32)
  | numX (value : Int32)
  | numY (value : Int32)
  | startX (value : Int32)
  | startY (value : Int32)
  | gain (value : Int32)
  | offset (value : Int32)
  | readoutMode (value : Int32)
  | fastReadout (value : Bool)
  | coolerOn (value : Bool)
  | setCcdTemperature (value : F64)
  | subExposureDuration (value : F64)

namespace CameraSetting

def property : CameraSetting → CameraProperty
  | binX _ => .binX
  | binY _ => .binY
  | numX _ => .numX
  | numY _ => .numY
  | startX _ => .startX
  | startY _ => .startY
  | gain _ => .gain
  | offset _ => .offset
  | readoutMode _ => .readoutMode
  | fastReadout _ => .fastReadout
  | coolerOn _ => .coolerOn
  | setCcdTemperature _ => .setCcdTemperature
  | subExposureDuration _ => .subExposureDuration

def changesCapture : CameraSetting → Bool
  | coolerOn _ => false
  | setCcdTemperature _ => false
  | _ => true

def valid : CameraSetting → Bool
  | binX value => decide (0 < value)
  | binY value => decide (0 < value)
  | numX value => decide (0 < value)
  | numY value => decide (0 < value)
  | startX value => decide (0 ≤ value)
  | startY value => decide (0 ≤ value)
  | readoutMode value => decide (0 ≤ value)
  | setCcdTemperature value => value.isFinite && decide (F64.neg 273.15 ≤ value)
  | subExposureDuration value => value.isFinite && decide (0 ≤ value)
  | _ => true

def validate (setting : CameraSetting) : Except SourceError Unit :=
  if setting.valid then .ok () else .error (invalid "Invalid camera setting")

end CameraSetting

inductive AcquisitionPhase where
  | idle
  | starting
  | exposing
  | reading
  | downloading
  | stopping
  | aborting
  | uncertain
  deriving DecidableEq

inductive GuidingPhase where
  | starting
  | guiding
  | finishing
  | uncertain
  deriving DecidableEq

/-- The acquisition that owns the camera; `operation` is the lease of its source control. -/
structure Active where
  id : Uuid
  owner : Uuid
  generation : Uuid
  phase : AcquisitionPhase
  operation : Option Uuid
  commandPending : Bool

structure SettingStatus where
  id : Uuid
  owner : Uuid
  property : CameraProperty

structure GuidingStatus where
  id : Uuid
  owner : Uuid
  generation : Uuid
  request : GuideRequest
  phase : GuidingPhase
  error : Option SourceError

structure GuideActive where
  status : GuidingStatus
  operation : Option Uuid

structure State where
  retired : Bool
  active : Option Active
  setting : Option SettingStatus
  guiding : Option GuideActive
  completed : Option CapturedImage
  error : Option SourceError

/-- What observers see of a supervisor. -/
structure AcquisitionStatus where
  source : Uuid
  generation : Uuid
  acquisition : Option Uuid
  owner : Option Uuid
  phase : AcquisitionPhase
  imageReady : Bool
  error : Option SourceError
  completed : Option AcquisitionIdentity
  setting : Option SettingStatus
  guiding : Option GuidingStatus

namespace State

def initial : State where
  retired := false
  active := none
  setting := none
  guiding := none
  completed := none
  error := none

def activeIs (state : State) (id : Uuid) : Option Active :=
  state.active.filter fun active => active.id == id

def guideIs (state : State) (id : Uuid) : Option GuideActive :=
  state.guiding.filter fun guide => guide.status.id == id

def guideRetains (state : State) (operation : Uuid) : Bool :=
  state.guiding.any fun guide => guide.operation == some operation

def activeRetains (state : State) (operation : Uuid) : Bool :=
  state.active.any fun active => active.operation == some operation

def guideStarting (state : State) : Bool :=
  state.guiding.any fun guide => guide.status.phase == .starting

/-- `status_with_source`: a change of the source's generation makes an acquisition uncertain. -/
def fence (state : State) (view : SourceView) : State :=
  match state.active with
  | none => state
  | some active =>
    if active.generation ≠ view.generation ∧ active.phase ≠ .uncertain then
      { state with
        active := some { active with phase := .uncertain, commandPending := false }
        error := some (.new .uncertain
          "Camera source generation changed; reconcile the interrupted acquisition") }
    else state

def ready (state : State) (view : SourceView) : Option AcquisitionIdentity :=
  (state.completed.filter fun image =>
    image.identity.generation == view.generation && view.transportConnected).map
      CapturedImage.identity

def guidingStatus (guide : GuideActive) (view : SourceView) : GuidingStatus :=
  if guide.status.generation ≠ view.generation ∨ view.transportConnected = false then
    { guide.status with
      phase := .uncertain
      error := some (guide.status.error.getD
        (.new .disconnected "Camera guide source generation is no longer connected")) }
  else guide.status

def report (state : State) (view : SourceView) : AcquisitionStatus where
  source := view.source
  generation := view.generation
  acquisition := state.active.map Active.id
  owner := state.active.map Active.owner
  phase := (state.active.map Active.phase).getD .idle
  imageReady := (state.ready view).isSome
  error := state.error
  completed := state.ready view
  setting := state.setting
  guiding := state.guiding.map fun guide => guidingStatus guide view

def retire (state : State) : State :=
  { state with retired := true, active := none, guiding := none, completed := none }

def abandonUncertain (state : State) (acquisition : Uuid) : Except SourceError State :=
  match state.active with
  | none => .ok state
  | some active =>
    if active.id ≠ acquisition then
      .error (unavailable "Camera acquisition changed before abandonment")
    else if active.phase ≠ .uncertain then .error busy
    else .ok { state with active := none }

def abandonOwned (state : State) (owner : Uuid) : Except SourceError State :=
  match state.active with
  | none => .ok state
  | some active =>
    if active.owner ≠ owner then .error busy
    else if active.phase ≠ .uncertain then .error busy
    else state.abandonUncertain active.id

def abandonGuiding (state : State) (owner : Uuid) : Except SourceError State :=
  match state.guiding with
  | none => .ok state
  | some guide =>
    if guide.status.owner ≠ owner then .error busy
    else if guide.status.phase ≠ .uncertain then .error busy
    else .ok { state with guiding := none }

def uncertain (state : State) (id : Uuid) (error : SourceError) : State :=
  match state.activeIs id with
  | none => state
  | some active =>
    { state with
      active := some { active with phase := .uncertain, commandPending := false }
      error := some error }

def admitStart (state : State) (session : Session) (id : Uuid) : Except SourceError State :=
  if state.retired then .error retiredError
  else if state.setting.isSome then .error busy
  else
    let enter := fun operation : Option Uuid =>
      match state.active with
      | some active => .error (if active.phase = .uncertain then .uncertain else busy)
      | none =>
        Except.ok { state with active := some {
          id := id
          owner := session.id
          generation := session.generation
          phase := .starting
          operation := operation
          commandPending := false } }
    match state.guiding with
    | none => enter none
    | some guide =>
      if guide.status.phase = .uncertain then .error .uncertain
      else if guide.status.owner = session.id ∧ guide.status.phase = .guiding then
        enter guide.operation
      else .error busy

def attach (state : State) (id operation : Uuid) : Option State :=
  (state.activeIs id).map fun active =>
    { state with active := some { active with operation := some operation } }

/-- The first section of `end_rejected`: the lease that it must give back, if any. -/
def endRejected (state : State) (id : Uuid) (error : Option SourceError) : State × Option Uuid :=
  match state.activeIs id with
  | none => (state, none)
  | some active =>
    match active.operation with
    | none => ({ state with active := none, error := error }, none)
    | some operation =>
      if state.guideRetains operation then
        ({ state with active := none, error := error }, none)
      else (state, some operation)

def clearRejected (state : State) (id : Uuid) (error : Option SourceError) : State :=
  match state.activeIs id with
  | none => state
  | some _ => { state with active := none, error := error }

/-- A start was acknowledged: the image of an earlier acquisition is gone. -/
def acknowledge (state : State) (id : Uuid) : Option State :=
  (state.activeIs id).bind fun active =>
    if active.phase = .uncertain then none
    else some { state with
      active := some { active with phase := .exposing }
      completed := none
      error := none }

def awaiting (state : State) (id : Uuid) : Option Bool :=
  (state.activeIs id).bind fun active =>
    if active.phase = .uncertain then none
    else some (active.commandPending || state.setting.isSome || state.guideStarting)

/-- `wait_ready` takes over what the camera answered: the next state, and whether the image
is downloaded now. -/
def observe (state : State) (id : Uuid) (ready : Bool) (cameraState : Int) :
    Option (State × Bool) :=
  (state.activeIs id).bind fun active =>
    if active.phase = .uncertain then none
    else if !active.commandPending && !(state.setting.isSome || state.guideStarting) then
      if ready then
        some ({ state with active := some { active with phase := .downloading } }, true)
      else
        let phase := if cameraState = 3 ∨ cameraState = 4 then AcquisitionPhase.reading
          else .exposing
        some ({ state with active := some { active with phase := phase } }, false)
    else some (state, false)

def downloads (state : State) (id : Uuid) : Bool :=
  (state.activeIs id).any fun active => active.phase == .downloading

def publish (state : State) (image : CapturedImage) : State :=
  { state with active := none, completed := some image, error := none }

/-- An admitted stop or abort: its acquisition, the lease and the phase before it. -/
structure Admission where
  id : Uuid
  operation : Uuid
  previous : AcquisitionPhase

/-- The admission of a stop or an abort; without an acquisition there is nothing to do. -/
def admitCommand (state : State) (session : Session) (abort : Bool) (expected : Option Uuid) :
    Except SourceError (State × Option Admission) :=
  if expected.any fun expected => state.active.all fun active => active.id != expected then
    .error (unavailable "Camera acquisition changed before command admission")
  else if state.retired then .error retiredError
  else if state.active.isSome && state.setting.isSome then .error busy
  else if state.guideStarting then .error busy
  else
    match state.active with
    | none => .ok (state, none)
    | some active =>
      if active.owner ≠ session.id ∨ active.commandPending = true ∨ active.phase = .starting then
        .error busy
      else if active.phase = .uncertain then .error .uncertain
      else if active.generation ≠ session.generation then
        .error (unavailable "Camera acquisition generation changed")
      else if active.phase = .downloading then
        if abort then .error busy else .ok (state, none)
      else
        match active.operation with
        -- an acquisition that may be stopped has its control
        | none => .error busy
        | some operation =>
          .ok ({ state with active := some { active with
              phase := if abort then .aborting else .stopping
              commandPending := true } }, some ⟨active.id, operation, active.phase⟩)

def endCommand (state : State) (id : Uuid) (previous : AcquisitionPhase)
    (error : Option SourceError) : State :=
  match state.activeIs id with
  | none => state
  | some active =>
    if active.phase = .uncertain then state
    else { state with
      active := some { active with commandPending := false, phase := previous }
      error := error }

def confirmCommand (state : State) (id : Uuid) : Except SourceError Unit :=
  match state.activeIs id with
  | none => .error (unavailable "Camera acquisition changed before command dispatch")
  | some active => if active.phase = .uncertain then .error .uncertain else .ok ()

def clearAborted (state : State) (id : Uuid) : State :=
  match state.activeIs id with
  | none => state
  | some _ => { state with active := none, completed := none, error := none }

/-- The admission of a guide pulse, which borrows the control of its owner's exposure. -/
def admitGuide (state : State) (session : Session) (id : Uuid) (request : GuideRequest) :
    Except SourceError (State × Option Uuid) :=
  if state.retired then .error retiredError
  else
    match state.guiding with
    | some guide => .error (if guide.status.phase = .uncertain then .uncertain else busy)
    | none =>
      if state.setting.isSome then .error busy
      else
        let enter := fun borrowed : Option Uuid =>
          Except.ok ({ state with guiding := some {
            status := {
              id := id
              owner := session.id
              generation := session.generation
              request := request
              phase := .starting
              error := none }
            operation := borrowed } }, borrowed)
        match state.active with
        | none => enter none
        | some active =>
          if active.phase = .uncertain then .error .uncertain
          else if active.owner = session.id ∧ active.commandPending = false
              ∧ (active.phase = .exposing ∨ active.phase = .reading) then
            enter active.operation
          else .error busy

def attachGuide (state : State) (id operation : Uuid) : Option State :=
  (state.guideIs id).map fun guide =>
    { state with guiding := some { guide with operation := some operation } }

def guideUncertain (state : State) (id : Uuid) (error : SourceError) : State :=
  match state.guideIs id with
  | none => state
  | some guide =>
    { state with guiding := some { guide with
      status := { guide.status with phase := .uncertain, error := some error } } }

def guides (state : State) (id : Uuid) : Option State :=
  (state.guideIs id).map fun guide =>
    { state with guiding := some { guide with status := { guide.status with phase := .guiding } } }

/-- The first section of `finish_guide`: the lease that it must give back, if any. -/
def finishGuide (state : State) (id : Uuid) : State × Option Uuid :=
  match state.guideIs id with
  | none => (state, none)
  | some guide =>
    match guide.operation with
    | none => ({ state with guiding := none }, none)
    | some operation =>
      if state.activeRetains operation then ({ state with guiding := none }, none)
      else
        ({ state with guiding := some { guide with
          status := { guide.status with phase := .finishing } } }, some operation)

def clearGuide (state : State) (id : Uuid) : State :=
  match state.guideIs id with
  | none => state
  | some _ => { state with guiding := none }

def settingsOperation (state : State) (setting : CameraSetting) (owner : Uuid) :
    Except SourceError (Option Uuid) :=
  match state.guiding with
  | some guide => .error (if guide.status.phase = .uncertain then .uncertain else busy)
  | none =>
    if state.setting.isSome then .error busy
    else
      match state.active with
      | none => .ok none
      | some active =>
        if active.phase = .uncertain then .error .uncertain
        else if active.owner = owner ∧ setting.changesCapture = false
            ∧ active.commandPending = false
            ∧ (active.phase = .exposing ∨ active.phase = .reading) then
          match active.operation with
          | none => .error busy
          | some operation => .ok (some operation)
        else .error busy

/-- The admission of a setting: the lease it borrows and the acquisition that it runs in. -/
def admitSetting (state : State) (session : Session) (id : Uuid) (setting : CameraSetting) :
    Except SourceError (State × Option Uuid × Option Uuid) :=
  if state.retired then .error retiredError
  else
    match state.settingsOperation setting session.id with
    | .error error => .error error
    | .ok operation =>
      .ok ({ state with setting := some ⟨id, session.id, setting.property⟩ }, operation,
        state.active.map Active.id)

def confirmSetting (state : State) (acquisition : Option Uuid) : Except SourceError Unit :=
  match acquisition with
  | none => .ok ()
  | some id =>
    match state.activeIs id with
    | none => .error (unavailable "Camera acquisition changed before setting dispatch")
    | some active =>
      if active.phase = .uncertain then .error .uncertain
      else if active.commandPending = true
          ∨ ¬(active.phase = .exposing ∨ active.phase = .reading) then .error busy
      else .ok ()

def dropSetting (state : State) (id : Uuid) : State :=
  if state.setting.any fun setting => setting.id == id then { state with setting := none } else state

end State

end Regain.Hub.CameraSupervisor
