import Regain.Core.Session

/-!
# Acknowledged control writes

A persistent control is written with one absolute deadline: the worker has to acknowledge the write
and a readback before the same deadline has to return the value.
-/

namespace Regain.Core

open Lib
open Regain.Core.Cooling (CoolingError)
open Routine (ensure fail modify ofExcept)

namespace Owner

variable {World W : Type} (host : Host World W)

def setRequest (kind value : Int) (deadline : Nat) : Request where
  method := "set"
  params := .object [("control", .ofInt kind), ("value", .ofInt value)]
  deadline := deadline
  maximumBytes := 0
  token := .caller

def readbackRequest (kind : Int) (deadline : Nat) : Request where
  method := if acknowledgedControls.contains kind then "get-observation" else "get"
  params := .object [("control", .ofInt kind)]
  deadline := deadline
  maximumBytes := 0
  token := .caller

def readbackObservation (kind : Int) (reply : Json) (requestStarted : Nat) :
    Except Error ControlObservation :=
  if acknowledgedControls.contains kind then
    match ControlObservationReply.ofJson reply with
    | none => .error (.invalid "Invalid control readback")
    | some timed => (timed.normalize requestStarted).mapError .invalid
  else
    match reply.asInt with
    | none => .error (.invalid "Invalid control readback")
    | some value => .ok { value := value, observedAt := requestStarted }

/-- Whether a value other than the requested one is accepted: the SDK may clamp an offset. -/
def mayClamp (session : Session W) (kind actual : Int) (allowSdkOffsetClamp : Bool) : Bool :=
  allowSdkOffsetClamp && !session.direct && kind = 5
    && session.status.controls[kind]?.any fun cap => cap.contains actual

def readback (kind value : Int) (deadline : Nat) (allowSdkOffsetClamp : Bool) :
    OwnerRoutine World W ControlObservation := do
  let acknowledged ← now host
  ensure (decide (acknowledged < deadline)) (.other "Control deadline expired before readback")
  let requestStarted ← now host
  let reply ← callWorker host (readbackRequest kind deadline)
  let observation ← ofExcept (readbackObservation kind reply.1 requestStarted)
  let session ← read
  ensure (observation.value = value
      || mayClamp session kind observation.value allowSdkOffsetClamp)
    (.other "Control readback differs from request")
  let finished ← now host
  ensure (decide (finished < deadline)) (.other "Control readback exceeded its deadline")
  return observation

def errorCode (error : Error) : Option Int :=
  match error.asFailure with
  | some (.worker _ code) => code
  | some (.uncertainControl _ code) => code
  | some (.invalid _) => none
  | some .cancelled => none
  | none => none

def writeError (setAcknowledged : Bool) (error : Error) : CoolingError :=
  if !setAcknowledged && error.isExpired then .expired
  else if !setAcknowledged && error.asFailure = some .cancelled then .cancelled
  else .uncertain error.message (errorCode error)

def writeControl (kind value : Int) (deadline : Nat) (allowSdkOffsetClamp : Bool) :
    OwnerRoutine World W (Except CoolingError ControlObservation) := do
  match ← (callWorker host (setRequest kind value deadline)).attempt with
  | .error error => return .error (writeError false error)
  | .ok _ =>
    match ← (readback host kind value deadline allowSdkOffsetClamp).attempt with
    | .error error => return .error (writeError true error)
    | .ok observation => return .ok observation

/-- An uncertain or cancelled write retires the worker before its owner goes on. -/
def controlResult (result : Except CoolingError ControlObservation) :
    OwnerRoutine World W ControlObservation :=
  match result with
  | .ok actual => return actual
  | .error (.uncertain message code) => do
    invalidate host
    fail (.failure (.uncertainControl message code))
  | .error .cancelled => do
    invalidate host
    fail (.failure .cancelled)
  | .error error => fail (.cooling error)

def boundedDeadline (deadline : Nat) : OwnerRoutine World W Nat := do
  let started ← now host
  let session ← read
  return min deadline
    (started + Duration.ofSecsF64 session.selection.recovery.commandTimeoutSeconds)

def finishUnsent (handle : Nat) (error : CoolingError) : OwnerRoutine World W Unit := do
  meanwhile host
  let finished ← now host
  update fun session =>
    { session with cooling := (session.cooling.finish handle (.error error) finished).2 }

def commitCooling (kind value : Int) (observation : ControlObservation) :
    OwnerRoutine World W Unit :=
  modify fun owner => { owner with
    session := { owner.session with
      applied := owner.session.applied.insert kind value
      status := { owner.session.status with
        values := owner.session.status.values.insert kind value
        observations := owner.session.status.observations.insert kind observation } }
    settings := owner.settings.insert kind value }

def finishWrite (handle : Nat) (kind value : Int)
    (result : Except CoolingError ControlObservation) : OwnerRoutine World W Cooling.Outcome := do
  meanwhile host
  let finishing ← now host
  let session ← read
  let (finished, mailbox) := session.cooling.finish handle
    (result.map fun observed => observed.value) finishing
  update fun session => { session with cooling := mailbox }
  match finished.committed, result with
  | true, .ok observation => commitCooling kind value observation
  | true, .error _ => pure ()
  | false, _ => pure ()
  return finished.outcome

def serviceDispatched (handle : Nat) (kind value : Int) (deadline : Nat) :
    OwnerRoutine World W Unit := do
  let result ← writeControl host kind value deadline false
  match ← finishWrite host handle kind value result with
  | .error (.uncertain message code) => do
    let _ ← controlResult host (.error (.uncertain message code))
  | .error .cancelled => fail (.failure .cancelled)
  | .error .busy => return ()
  | .error .unavailable => return ()
  | .error .expired => return ()
  | .error (.invalid _) => return ()
  | .ok _ => return ()

def claimCooling : OwnerRoutine World W (Option (Nat × Cooling.Request)) := do
  meanwhile host
  let claiming ← now host
  let session ← read
  let (claimed, mailbox) := session.cooling.claim claiming
  update fun session => { session with cooling := mailbox }
  return claimed.bind fun handle =>
    (mailbox.requests[handle]?).map fun request => (handle, request)

def dispatchCooling (handle : Nat) : OwnerRoutine World W Bool := do
  meanwhile host
  let dispatching ← now host
  let session ← read
  let (sent, mailbox) := session.cooling.dispatch handle dispatching
  update fun session => { session with cooling := mailbox }
  return sent

/-- Claim, check and dispatch the pending cooler request; nothing if it ends unsent. -/
def admitCooling : OwnerRoutine World W (Option (Nat × Cooling.Request × Nat)) := do
  match ← claimCooling host with
  | none => return none
  | some (handle, request) =>
    let deadline ← boundedDeadline host request.deadline
    let session ← read
    match Cooling.validate session.status request.kind request.value with
    | .error error =>
      finishUnsent host handle error
      return none
    | .ok () =>
      if ← isCancelled host then
        finishUnsent host handle .cancelled
        fail (.failure .cancelled)
      else
        let starting ← now host
        if deadline ≤ starting then
          finishUnsent host handle .expired
          return none
        else if ← dispatchCooling host handle then return some (handle, request, deadline)
        else return none

def serviceCoolingWith : OwnerRoutine World W Unit := do
  match ← admitCooling host with
  | none => return ()
  | some (handle, request, deadline) =>
    serviceDispatched host handle request.kind request.value deadline

/-- Write gain or offset within its deadline and record what was read back. -/
def writeImagingControl (kind value : Int) (deadline : Nat) : OwnerRoutine World W Int := do
  let result ← writeControl host kind value deadline true
  let observation ← controlResult host result
  update fun session => { session with
    applied := session.applied.insert kind observation.value
    status := { session.status with
      values := session.status.values.insert kind observation.value
      observations := session.status.observations.insert kind observation } }
  return observation.value

def checkImagingControl (session : Session W) (kind value : Int) : Except Error Unit :=
  if !(kind = 0 || kind = 5) then .error (.invalid "Only gain and offset are supported")
  else if !(session.status.connected && session.status.controlConnectionAvailable
      && session.worker.isSome) then
    .error (.invalid "Camera controls are unavailable")
  else if session.cooling.pending.isSome then .error (.invalid "A cooler command is pending")
  else
    match session.status.controls[kind]? with
    | none => .error (.invalid "Control is unavailable")
    | some cap =>
      if !(cap.kind = kind && cap.writable && decide (cap.min ≤ cap.max) && cap.contains value) then
        .error (.invalid "Control value is outside writable capabilities")
      else .ok ()

def admitImagingControl (kind value : Int) (deadline : Nat) : OwnerRoutine World W Nat := do
  meanwhile host
  let session ← read
  ofExcept (checkImagingControl session kind value)
  if ← isCancelled host then fail (.failure .cancelled)
  else
    let admitted ← now host
    if deadline ≤ admitted then fail (.cooling .expired)
    else boundedDeadline host deadline

def setImagingControl (kind value : Int) (deadline : Nat) : OwnerRoutine World W Int := do
  let deadline ← admitImagingControl host kind value deadline
  writeImagingControl host kind value deadline

def adoptClamped (kind value actual : Int) : OwnerRoutine World W Unit :=
  modify fun owner => { owner with
    settings := owner.settings.insert kind actual
    session :=
      if owner.session.status.values[kind]? = some value then
        { owner.session with status := { owner.session.status with
          values := owner.session.status.values.insert kind actual } }
      else owner.session }

def writeSetting (cap : Control) (kind value : Int) (deadline : Nat) :
    OwnerRoutine World W Unit := do
  let result ← writeControl host kind value deadline true
  let observation ← controlResult host result
  if observation.value ≠ value then
    let session ← read
    ensure (!session.direct && kind = 5 && cap.contains observation.value)
      (.other ("Control " ++ toString kind ++ " readback " ++ toString observation.value
        ++ " differs from requested " ++ toString value))
    meanwhile host
    adoptClamped kind value observation.value
  update fun session => { session with
    applied := session.applied.insert kind observation.value
    status := { session.status with
      observations := session.status.observations.insert kind observation } }

/-- The capabilities and the deadline of a setting that has to be written. -/
def admitSetting (setting : Int × Int) : OwnerRoutine World W (Option (Control × Nat)) := do
  meanwhile host
  let session ← read
  if session.status.whiteBalance.isSome && whiteBalanceControls.contains setting.1 then
    return none
  else if session.applied[setting.1]? = some setting.2 then return none
  else
    match session.status.controls[setting.1]? with
    | none =>
      fail (.invalid ("Control " ++ toString setting.1 ++ " disappeared after reconnect"))
    | some cap =>
      if !cap.writable then
        ensure (cap.value = setting.2)
          (.invalid ("Read-only control " ++ toString setting.1 ++ " changed"))
        update fun session =>
          { session with applied := session.applied.insert setting.1 setting.2 }
        return none
      else
        let started ← now host
        return some (cap,
          started + Duration.ofSecsF64 session.selection.recovery.commandTimeoutSeconds)

def applySetting (setting : Int × Int) : OwnerRoutine World W Unit := do
  match ← admitSetting host setting with
  | none => return ()
  | some (cap, deadline) => writeSetting host cap setting.1 setting.2 deadline

def applyRank (kind : Int) : Int :=
  if kind = 17 then 100 else kind

def applyOrder (settings : Std.TreeMap Int Int) : List (Int × Int) :=
  settings.toList.mergeSort fun a b => decide (applyRank a.1 ≤ applyRank b.1)

def resumeCooling : OwnerRoutine World W Unit := do
  let owner ← Routine.get
  let session := owner.session
  if (session.direct || (session.status.info.field "hostRegulatedCooling").asBool = some true)
      && session.settleRequired && !session.coolingSeeded
      && owner.settings[(17 : Int)]?.any fun enabled => enabled ≠ 0 then
    match session.recoveryPower, session.recoveryTemperature with
    | some power, some temperature =>
      let previous := (session.recoveryTarget.or owner.settings[(16 : Int)]?).getD 0
      let _ ← call host "resume-cooling"
        (.object [("power", .ofInt power), ("temperature", .ofF64 temperature),
          ("previousTarget", .ofInt previous)]) none .caller
      update fun session => { session with coolingSeeded := true }
    | _, _ => return ()

def apply : OwnerRoutine World W Unit := do
  let owner ← Routine.get
  Routine.forEach (applySetting host) (applyOrder owner.settings)
  resumeCooling host

end Owner

end Regain.Core
