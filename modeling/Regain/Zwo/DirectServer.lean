import Regain.Zwo.CoolingQueue

/-!
# The direct camera server

One host serves the commands of one camera. A capture runs on the thread that owns the camera.
-/

namespace Regain.Zwo.DirectServer

open Lib

structure Cap where
  type : Nat
  writable : Bool
  min : Int
  max : Int

structure Settings where
  width : Nat
  height : Nat
  x : Nat
  y : Nat
  microseconds : Nat
  gain : Nat
  offset : Nat
  readRetries : Nat

structure Geometry where
  width : Nat
  height : Nat
  x : Nat
  y : Nat
  dark : Bool

/-- What `validate` and `start` make of their parameters. -/
structure Request where
  settings : Settings
  videoMode : Bool
  dark : Bool
  /-- The capture deadline is finite and in its range. -/
  deadlineInRange : Bool

/-- The camera models and their checks of the parameters of a capture. -/
structure Catalogue (Model Params : Type) where
  cooled : Model → Bool
  controls : Model → Bool → List Cap
  color : Model → Bool
  opened : Model → Settings
  /-- The checks before any effect; with white balance they include those of its geometry. -/
  request : Model → Settings → Bool → Params → Except String Request

/-- How a capture ends without a frame. -/
inductive CaptureError where
  | cancelled
  | failed (message : String)
  deriving DecidableEq

structure Image where
  cleanupError : Option String
  pixels : List UInt8

abbrev Frame := Except CaptureError Image

def isClean : Frame → Bool
  | .ok image => image.cleanupError.isNone
  | .error error => error = .cancelled

inductive TryRecv where
  | empty
  | disconnected
  | received (frame : Frame)

inductive EnvironmentError where
  | cooling (error : CoolingError)
  | failed (message : String)

inductive VideoStopError where
  | exited
  | deadline
  | failed (message : String)
  deriving DecidableEq

structure Worker where
  auxiliary : Bool
  cancelVideo : Bool

def Worker.setCancel (worker : Worker) (cancelVideo : Bool) : Worker :=
  { worker with cancelVideo := cancelVideo }

structure Host (Model : Type) where
  worker : Option Worker
  pending : Bool
  frame : Option Frame
  settings : Settings
  simulate : Bool
  model : Model
  gain : Int
  simulatedReadFailures : Option Nat
  reconnectRequired : Bool
  whiteBalance : Bool
  whiteBalanceFrame : Option Geometry
  videoActive : Bool

inductive Command (Model Params : Type) where
  | simulateReadFailures (count : Nat)
  | open_ (model : Option Model)
  | whiteBalance
  | get (control : Nat)
  | set (control : Nat) (value : Int)
  | validate (params : Params)
  | start (params : Params)
  | status
  | download
  | stop
  | close

/-- What the rest of the process answers during one command. -/
structure World where
  arrival : TryRecv
  opened : Except String Worker
  telemetry : Option Int
  reading : Except String Int
  environment : Except EnvironmentError Int
  stopVideo : Except VideoStopError Unit
  /-- The worker takes the capture. -/
  sent : Bool
  /-- The frame of an aborted capture, unless its deadline is over before. -/
  aborted : Option Frame
  whiteBalance : Except String (List UInt8)
  shutdown : Except String Unit

inductive Fault where
  | refused (message : String)
  | hardware (message : String)
  | environment (error : EnvironmentError)
  | capture (error : CaptureError)
  | unclean (message : String)
  | abortDeadline
  | videoStop (error : VideoStopError)

inductive Reply where
  | null
  | number (value : Int)
  | image (cleanupError : Option String) (pixels : List UInt8)

abbrev Answer (Model : Type) := Except Fault Reply × Host Model

section

variable {Model Params : Type} (catalogue : Catalogue Model Params)

namespace Host

variable (host : Host Model)

def update (arrival : TryRecv) : Host Model :=
  if host.pending then
    match arrival with
    | .received frame => { host with frame := some frame, pending := false }
    | .disconnected =>
      { host with frame := some (.error (.failed "direct worker exited")), pending := false }
    | .empty => host
  else host

def refuse (message : String) : Answer Model :=
  (.error (.refused message), host)

def idle : Bool := !host.pending && host.frame.isNone

def simulateFailures (count : Nat) : Answer Model :=
  if !(host.simulate && host.idle) then host.refuse "simulation only, while idle"
  else if 6 < count then host.refuse "invalid simulated read failures"
  else (.ok .null, { host with simulatedReadFailures := some count })

def openCamera (model : Option Model) (opened : Except String Worker)
    (reading : Except String Int) : Answer Model :=
  if host.worker.isSome then host.refuse "camera is already open"
  else
    match model with
    | none => host.refuse "unsupported SDK-less camera model"
    | some model =>
      match opened with
      | .error message => (.error (.hardware message), host)
      | .ok worker =>
        let opening :=
          { host with
            model := model
            settings := catalogue.opened model
            gain := 0 }
        if catalogue.cooled model then
          match reading with
          | .error message => (.error (.hardware message), opening)
          | .ok _ =>
            (.ok .null,
              { opening with
                worker := some worker
                reconnectRequired := false
                whiteBalance := false
                whiteBalanceFrame := none })
        else
          (.ok .null,
            { opening with
              worker := some worker
              reconnectRequired := false
              whiteBalance := false
              whiteBalanceFrame := none })

def configureWhiteBalance : Answer Model :=
  if host.worker.isNone then host.refuse "camera is not open"
  else if !host.idle then host.refuse "cannot change white balance during capture"
  else if !catalogue.color host.model then host.refuse "managed white balance unavailable"
  else (.ok .null, { host with whiteBalance := true })

/-- The controls may be accessed; a cooled camera serves its cooler during a capture. -/
def accessible (control : Nat) : Bool :=
  host.idle || (catalogue.cooled host.model && (control = 16 || control = 17))

def getControl (control : Nat) (telemetry : Option Int) (reading : Except String Int) :
    Answer Model :=
  match host.worker with
  | none => host.refuse "camera is not open"
  | some worker =>
    if (control = 8 || control = 15 || control = 16 || control = 17)
        && catalogue.cooled host.model && !host.idle then
      match telemetry with
      | none => host.refuse "environment unavailable"
      | some value => (.ok (.number value), host)
    else if !host.accessible catalogue control then
      host.refuse "cannot access controls during capture"
    else if ((catalogue.controls host.model worker.auxiliary).find?
        fun cap => cap.type = control).isNone then
      host.refuse "unsupported control"
    else if control = 0 then (.ok (.number host.gain), host)
    else if control = 1 then (.ok (.number host.settings.microseconds), host)
    else if control = 5 then (.ok (.number host.settings.offset), host)
    else if control = 6 then (.ok (.number 40), host)
    else
      match reading with
      | .error message => (.error (.hardware message), host)
      | .ok value => (.ok (.number value), host)

def setEnvironment (environment : Except EnvironmentError Int) : Answer Model :=
  match environment with
  | .error (.cooling (.uncertain message)) =>
    (.error (.environment (.cooling (.uncertain message))),
      { host with reconnectRequired := true })
  | .error error => (.error (.environment error), host)
  | .ok _ => (.ok .null, host)

def setControl (control : Nat) (value : Int) (environment : Except EnvironmentError Int) :
    Answer Model :=
  match host.worker with
  | none => host.refuse "camera is not open"
  | some worker =>
    if !host.accessible catalogue control then
      host.refuse "cannot access controls during capture"
    else
      match (catalogue.controls host.model worker.auxiliary).find?
          fun cap => cap.type = control with
      | none => host.refuse "unsupported control"
      | some cap =>
        if !cap.writable then host.refuse "control is read-only"
        else if value < cap.min ∨ cap.max < value then
          host.refuse "control outside supported range"
        else if control = 0 then
          (.ok .null,
            { host with
              gain := value
              settings := { host.settings with gain := value.toNat } })
        else if control = 1 then
          (.ok .null,
            { host with settings := { host.settings with microseconds := value.toNat } })
        else if control = 5 then
          (.ok .null, { host with settings := { host.settings with offset := value.toNat } })
        else host.setEnvironment environment

def request (starting : Bool) (params : Params) : Except String Request :=
  if host.worker.isNone then .error "camera is not open"
  else if (starting && !host.idle) || host.reconnectRequired then
    .error "exposure pending or reconnect required after cleanup failure"
  else catalogue.request host.model host.settings host.whiteBalance params

def validate (params : Params) : Answer Model :=
  match host.request catalogue false params with
  | .error message => host.refuse message
  | .ok _ => (.ok .null, host)

def simulatedFrame (settings : Settings) (failures : Nat) : Frame :=
  if settings.readRetries < failures then
    .error (.failed "simulated read failures exhausted the transfer retry budget")
  else .ok ⟨none, List.replicate (settings.width * settings.height * 2) 0⟩

def dispatch (request : Request) (sent : Bool) : Answer Model :=
  let host :=
    { host with
      videoActive := request.videoMode
      worker := host.worker.map fun w : Worker => w.setCancel false }
  match host.simulatedReadFailures with
  | some failures =>
    let host := { host with simulatedReadFailures := none }
    if !host.simulate then host.refuse "simulation only"
    else (.ok .null, { host with frame := some (simulatedFrame request.settings failures) })
  | none =>
    if sent then (.ok .null, { host with pending := true })
    else (.error (.hardware "direct worker exited"), host)

def cancelVideo : Host Model :=
  { host with worker := host.worker.map fun w : Worker => w.setCancel true }

def start (params : Params) (stopVideo : Except VideoStopError Unit) (sent : Bool) :
    Answer Model :=
  match host.request catalogue true params with
  | .error message => host.refuse message
  | .ok request =>
    let host :=
      { host with
        whiteBalanceFrame := some
          { width := request.settings.width
            height := request.settings.height
            x := request.settings.x
            y := request.settings.y
            dark := request.dark } }
    if !request.deadlineInRange then host.refuse "invalid capture deadline"
    else if host.videoActive && !request.videoMode then
      match stopVideo with
      | .error error => (.error (.videoStop error), host.cancelVideo)
      | .ok () => host.cancelVideo.dispatch request sent
    else host.dispatch request sent

def status : Answer Model :=
  if host.worker.isNone then host.refuse "camera is not open"
  else
    match host.frame with
    | some (.error error) => (.error (.capture error), host)
    | some (.ok _) => (.ok (.number (if host.pending then 1 else 2)), host)
    | none => (.ok (.number (if host.pending then 1 else 0)), host)

def download (whiteBalance : Except String (List UInt8)) : Answer Model :=
  match host.frame with
  | none => host.refuse "no completed frame"
  | some (.error error) =>
    (.error (.capture error), { host with frame := none, reconnectRequired := true })
  | some (.ok image) =>
    -- The flag takes the verdict of this frame, whatever it was before.
    let host := { host with frame := none, reconnectRequired := image.cleanupError.isSome }
    if host.whiteBalance then
      if host.whiteBalanceFrame.isNone then host.refuse "missing white balance geometry"
      else
        match whiteBalance with
        | .error message => host.refuse message
        | .ok pixels => (.ok (.image image.cleanupError pixels), host)
    else (.ok (.image image.cleanupError image.pixels), host)

def requireReconnect (fault : Fault) : Answer Model :=
  (.error fault, { host with reconnectRequired := true })

def abort (aborted : Option Frame) : Except Fault Unit × Host Model :=
  if host.pending && !host.videoActive then
    if host.worker.isNone then (.error (.refused "camera is not open"), host)
    else
      let host := { host.cancelVideo with pending := false }
      match aborted with
      | none => (.error .abortDeadline, { host with reconnectRequired := true })
      | some frame =>
        if isClean frame then (.ok (), { host with frame := none })
        else
          (.error (.unclean "camera abort could not verify a clean stop"),
            { host with reconnectRequired := true })
  else (.ok (), host)

def endVideo (stopVideo : Except VideoStopError Unit) : Except Fault Unit × Host Model :=
  if host.videoActive then
    if host.worker.isNone then (.error (.refused "camera is not open"), host)
    else
      match stopVideo with
      | .error error =>
        (.error (.videoStop error), { host.cancelVideo with reconnectRequired := true })
      | .ok () =>
        (.ok (), { host.cancelVideo with pending := false, frame := none, videoActive := false })
  else (.ok (), host)

def quiesce (aborted : Option Frame) (stopVideo : Except VideoStopError Unit) :
    Except Fault Unit × Host Model :=
  match host.abort aborted with
  | (.error fault, host) => (.error fault, host)
  | (.ok (), host) =>
    match host.endVideo stopVideo with
    | (.error fault, host) => (.error fault, host)
    | (.ok (), host) =>
      if host.pending then
        (.error (.refused "active capture must be aborted by terminating the isolated host"), host)
      else (.ok (), { host with frame := none })

def stop (aborted : Option Frame) (stopVideo : Except VideoStopError Unit) : Answer Model :=
  if host.reconnectRequired then
    (.error (.hardware "camera requires reconnect before reuse"), host)
  else if host.frame.any fun frame => !isClean frame then
    host.requireReconnect (.unclean "camera stop cannot reuse failed acquisition")
  else
    match host.quiesce aborted stopVideo with
    | (.error fault, host) => (.error fault, host)
    | (.ok (), host) => (.ok .null, host)

def close (aborted : Option Frame) (stopVideo : Except VideoStopError Unit)
    (shutdown : Except String Unit) : Answer Model :=
  match host.quiesce aborted stopVideo with
  | (.error fault, host) => (.error fault, host)
  | (.ok (), host) =>
    if host.worker.isNone then (.ok .null, host)
    else
      let host := { host with worker := none }
      match shutdown with
      | .error message => (.error (.hardware message), host)
      | .ok () => (.ok .null, host)

end Host

def perform (host : Host Model) (command : Command Model Params) (world : World) :
    Answer Model :=
  match command with
  | .simulateReadFailures count => host.simulateFailures count
  | .open_ model => host.openCamera catalogue model world.opened world.reading
  | .whiteBalance => host.configureWhiteBalance catalogue
  | .get control => host.getControl catalogue control world.telemetry world.reading
  | .set control value => host.setControl catalogue control value world.environment
  | .validate params => host.validate catalogue params
  | .start params => host.start catalogue params world.stopVideo world.sent
  | .status => host.status
  | .download => host.download world.whiteBalance
  | .stop => host.stop world.aborted world.stopVideo
  | .close => host.close world.aborted world.stopVideo world.shutdown

/-- `Host::command`: the receiver of a pending capture is looked at before every command. -/
def command : Machine (Host Model) (Command Model Params × World) (Except Fault Reply) where
  step host op := perform catalogue (host.update op.2.arrival) op.1 op.2

end

end Regain.Zwo.DirectServer
