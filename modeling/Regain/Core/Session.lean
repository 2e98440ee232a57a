import Regain.Core.Worker
import Regain.Lib.Routine

/-!
# Camera sessions

One owner per camera. The session drives a worker process through its pipes and keeps the shared
camera status; other threads hold handles to the cooler mailbox, the queued controls and the runtime
options.
-/

namespace Regain.Core

open Lib
open Std (TreeMap)

structure RecoveryOptions where
  maxRetries : Nat
  preExposureReconnectAttempts : Nat
  maximumRetryExposureSeconds : F64
  reconnectDelaySeconds : F64
  commandTimeoutSeconds : F64
  downloadTimeoutSeconds : F64
  exposureGraceSeconds : F64
  coolingTimeoutSeconds : F64
  temperatureToleranceC : F64
  coolingStableSamples : Nat
  coolingSampleSeconds : F64
  readyFrameDownloadRetries : Nat
  directReadRetries : Nat
  directReadChunkKib : Nat
  transferLogMode : String
  coolerMaxPowerChangePer5Seconds : F64
  usbResetAfterFailures : Nat
  usbPortCycle : Bool

structure CameraRuntimeOptions where
  transferLogMode : String
  coolerMaxPowerChangePer5Seconds : F64
  deriving DecidableEq

namespace CameraRuntimeOptions

def apply (options : CameraRuntimeOptions) (recovery : RecoveryOptions) : RecoveryOptions :=
  { recovery with
    transferLogMode := options.transferLogMode
    coolerMaxPowerChangePer5Seconds := options.coolerMaxPowerChangePer5Seconds }

/-- The checks of the two fields; the other options are at their valid defaults. -/
def isValid (options : CameraRuntimeOptions) : Bool :=
  (options.transferLogMode = "circular" || options.transferLogMode = "verbose"
    || options.transferLogMode = "off")
    && options.coolerMaxPowerChangePer5Seconds.isFinite
    && decide (options.coolerMaxPowerChangePer5Seconds ≤ 100)
    && decide (1 ≤ options.coolerMaxPowerChangePer5Seconds)

def toJson (options : CameraRuntimeOptions) : Json :=
  .object [("transferLogMode", .string options.transferLogMode),
    ("coolerMaxPowerChangePer5Seconds", .ofF64 options.coolerMaxPowerChangePer5Seconds)]

end CameraRuntimeOptions

structure Selection where
  name : String
  serial : Option String
  direct : Bool
  sdkFallback : Bool
  recovery : RecoveryOptions

/-- Whose cancellation interrupts a call. -/
inductive Token where
  | caller
  /-- A token of the owner that is never cancelled. -/
  | exchange

structure Request where
  method : String
  params : Json
  deadline : Nat
  maximumBytes : Nat
  token : Token

/-- An operation of another holder of the session's handles. -/
inductive Caller where
  | submit (kind value : Int) (timeout now : Nat)
  | cancelBeforeDispatch (handle : Nat)
  | dropReceipt (handle : Nat)
  | expire (handle : Nat)
  | queueControl (kind value : Int)
  | updateRuntimeOptions (options : CameraRuntimeOptions)

/-- What the owner asks of the world around the session. -/
structure Host (World W : Type) where
  now : World → Nat × World
  /-- Whether the caller's token is cancelled. -/
  cancelled : World → Bool × World
  /-- What the other holders of handles did since the owner last looked. -/
  callers : World → List Caller × World
  call : W → Request → World → (Except Error Reply × W) × World
  kill : W → World → World

structure Session (W : Type) where
  wheelExpected : Option Json
  status : Status
  selection : Selection
  worker : Option W
  direct : Bool
  everOpened : Bool
  applied : TreeMap Int Int
  recoveryTemperature : Option F64
  recoveryPower : Option Int
  recoveryTarget : Option Int
  settleRequired : Bool
  coolingSeeded : Bool
  cooling : Cooling.Mailbox
  runtimeOptions : CameraRuntimeOptions
  appliedRuntimeOptions : Option CameraRuntimeOptions

/-- The owner: its session, the world, and the settings of the operation it runs. -/
structure Owner (World W : Type) where
  session : Session W
  world : World
  settings : TreeMap Int Int

abbrev OwnerRoutine (World W α : Type) : Type :=
  Routine (Owner World W) Error α

def persistentControls : List Int :=
  [0, 2, 3, 4, 5, 6, 7, 9, 13, 14, 16, 17, 18, 19, 20, 21, 22, 23]

def whiteBalanceControls : List Int :=
  [3, 4, 9]

namespace Session

variable {W : Type}

def queueControl (status : Status) (kind value : Int) : Except Error Status :=
  if status.whiteBalance.isSome && whiteBalanceControls.contains kind then
    .error (.invalid "WB and flip controls are owned by managed white balance")
  else
    match status.controls[kind]? with
    | none => .error (.invalid ("Control " ++ toString kind ++ " unavailable"))
    | some cap =>
      if !(cap.writable && cap.contains value) then
        .error (.invalid ("Control " ++ toString kind ++ " must be writable and between "
          ++ toString cap.min ++ " and " ++ toString cap.max))
      else if !persistentControls.contains kind then
        .error (.invalid "Control is not a persistent imaging setting")
      else .ok { status with values := status.values.insert kind value }

def caller (session : Session W) : Caller → Session W
  | .submit kind value timeout now =>
    { session with
      cooling := (session.cooling.submit session.status kind value timeout now).2 }
  | .cancelBeforeDispatch handle =>
    { session with cooling := session.cooling.cancelQueued handle }
  | .dropReceipt handle => { session with cooling := session.cooling.cancelQueued handle }
  | .expire handle => { session with cooling := (session.cooling.expire handle).2 }
  | .queueControl kind value =>
    match queueControl session.status kind value with
    | .ok status => { session with status := status }
    | .error _ => session
  | .updateRuntimeOptions options =>
    if options.isValid then { session with runtimeOptions := options } else session

end Session

namespace Owner

variable {World W : Type} (host : Host World W)

def update (f : Session W → Session W) : OwnerRoutine World W Unit :=
  Routine.modify fun owner => { owner with session := f owner.session }

def read : OwnerRoutine World W (Session W) :=
  Routine.act fun owner => (owner.session, owner)

def now : OwnerRoutine World W Nat :=
  Routine.act fun owner =>
    ((host.now owner.world).1, { owner with world := (host.now owner.world).2 })

def isCancelled : OwnerRoutine World W Bool :=
  Routine.act fun owner =>
    ((host.cancelled owner.world).1, { owner with world := (host.cancelled owner.world).2 })

def meanwhile : OwnerRoutine World W Unit :=
  Routine.modify fun owner => { owner with
    session := (host.callers owner.world).1.foldl Session.caller owner.session
    world := (host.callers owner.world).2 }

def callWorker (request : Request) : OwnerRoutine World W Reply := fun owner =>
  match owner.session.worker with
  | none => (.failed (.other "Camera worker is disconnected"), owner)
  | some worker =>
    let answer := host.call worker request owner.world
    let owner := { owner with
      session := { owner.session with worker := some answer.1.2 }
      world := answer.2 }
    match answer.1.1 with
    | .ok reply => (.done reply, owner)
    | .error error => (.failed error, owner)

/-- `Worker::call`: the deadline counts from the call, and any image is admitted. -/
def callFor (method : String) (params : Json) (seconds : F64) (token : Token) :
    OwnerRoutine World W Reply := do
  let started ← now host
  callWorker host {
    method := method
    params := params
    deadline := started + Duration.ofSecsF64 seconds
    maximumBytes := maximumImage
    token := token }

def call (method : String) (params : Json) (seconds : Option F64) (token : Token) :
    OwnerRoutine World W Reply := do
  if method ≠ "open" then
    meanwhile host
    let session ← read
    if session.appliedRuntimeOptions ≠ some session.runtimeOptions then
      let _ ← callFor host "runtime-options" session.runtimeOptions.toJson
        session.selection.recovery.commandTimeoutSeconds token
      update fun session' => { session' with
        selection := { session'.selection with
          recovery := session.runtimeOptions.apply session'.selection.recovery }
        appliedRuntimeOptions := some session.runtimeOptions }
  let session ← read
  callFor host method params
    (seconds.getD session.selection.recovery.commandTimeoutSeconds) token

def tenths (value : Int) : F64 :=
  (F64.ofRat value).div 10

/-- The cooling state to restore after the worker is replaced, unless it is known already. -/
def rememberCooling (session : Session W) : Session W :=
  if session.everOpened && !session.settleRequired then
    { session with
      recoveryTemperature := session.status.values[(8 : Int)]?.map tenths
      recoveryPower := session.status.values[(15 : Int)]?
      recoveryTarget := session.applied[(16 : Int)]?.or session.status.values[(16 : Int)]?
      settleRequired := true }
  else session

def unknownWheel : Json :=
  .object [("position", .ofInt (-1)), ("moving", .bool true), ("verified", .bool false)]

/-- The camera is out of reach: its controls and the wheel position are unknown. -/
def withdraw (session : Session W) : Session W :=
  let status := { session.status with controlConnectionAvailable := false }
  { session with
    status :=
      if session.wheelExpected.isSome then
        { status with filterWheel := unknownWheel }
      else status }

def takeWorker : OwnerRoutine World W Unit :=
  Routine.modify fun owner =>
    match owner.session.worker with
    | none => owner
    | some worker => { owner with
        session := { owner.session with worker := none }
        world := host.kill worker owner.world }

def invalidate : OwnerRoutine World W Unit := do
  meanwhile host
  update fun session => { session with cooling := session.cooling.retire }
  meanwhile host
  update fun session => withdraw (rememberCooling session)
  takeWorker host
  update fun session => { session with status := { session.status with processId := none } }

end Owner

end Regain.Core
