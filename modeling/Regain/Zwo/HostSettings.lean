import Regain.Lib.Machine
import Regain.Zwo.Readout

/-!
# The settings of a camera host

A host keeps the gain of its camera twice: signed, as it reports it, and clamped at zero in the
settings that every capture starts from.
-/

namespace Regain.Zwo.HostSettings

open Lib
open Checked (ensure)
open Readout (Settings)

inductive Model where
  | asi676
  | asi662
  | asi585
  | duo
  | guide
  | asi6200
  | asi2600P25
  deriving DecidableEq

/-- A control of a camera. -/
structure Cap where
  type : Nat
  min : Int
  max : Int
  writable : Bool

/-- The part of a sensor profile that its checks read. -/
structure Profile where
  name : String
  width : Nat
  height : Nat
  offsetMax : Nat
  alignment : Nat
  yAlignment : Nat

def profile676 : Profile := ⟨"ASI676MC", 3552, 3552, 200, 2, 2⟩

def profile662 : Profile := ⟨"ASI662MC", 1920, 1080, 300, 8, 8⟩

def profile585 : Profile := ⟨"ASI585MM Pro", 3840, 2160, 300, 2, 4⟩

def validateBayer (s : Settings) (sensorWidth sensorHeight offsetMax : Nat) : Checked Unit := do
  ensure (decide (s.timeoutReadAfterBytes = 0)) "timeout injection is ASI2600-only"
  ensure (decide (64 ≤ s.width) && decide (64 ≤ s.height) && decide (s.width % 8 = 0)
    && decide (s.height % 2 = 0) && decide (s.width ≤ sensorWidth)
    && decide (s.height ≤ sensorHeight) && decide (s.x ≤ sensorWidth - s.width)
    && decide (s.y ≤ sensorHeight - s.height) && decide (s.x % 2 = 0) && decide (s.y % 2 = 0))
    "invalid research bin-1 Bayer ROI (minimum 64x64, even origin, width multiple of 8, even height)"
  ensure (decide (s.replayPrefixBytes % 1024 = 0)
    && decide (s.replayPrefixBytes < s.width * s.height * 2))
    "replay prefix must be a multiple of 1024 bytes smaller than the frame"
  ensure (decide (s.readRetries ≤ 5) && decide (s.interruptReadAfterBytes % 1024 = 0)
    && decide (s.interruptReadAfterBytes < s.width * s.height * 2))
    "read retries must be 0..5; interrupted prefix must be a multiple of 1024 smaller than the frame"
  ensure (decide (32 ≤ s.microseconds) && decide (s.microseconds ≤ Readout.maxExposure)
    && decide (s.gain ≤ 600) && decide (s.offset ≤ offsetMax))
    ("Bayer limits: exposure 32us..2000s, gain 0..600, offset 0.." ++ toString offsetMax)

def Profile.validate (profile : Profile) (s : Settings) : Checked Unit := do
  validateBayer s profile.width profile.height profile.offsetMax
  ensure (decide (s.x % profile.alignment = 0) && decide (s.y % profile.yAlignment = 0))
    (profile.name ++ " ROI origin must be aligned to x=" ++ toString profile.alignment ++ " and y="
      ++ toString profile.yAlignment ++ " pixels")

def Asi585.rawSettings (s : Settings) (bin : Nat) : Checked Settings := do
  ensure (decide (1 ≤ bin) && decide (bin ≤ 4)) "ASI585MM Pro supports software bins 1..4"
  ensure (decide (64 ≤ s.width) && decide (64 ≤ s.height) && decide (s.width % 8 = 0)
    && decide (s.height % 2 = 0)) "invalid binned ROI"
  let width ← Readout.checkedMul s.width bin "ROI overflow"
  let height ← Readout.checkedMul s.height bin "ROI overflow"
  let x ← Readout.checkedMul s.x bin "ROI overflow"
  let y ← Readout.checkedMul s.y bin "ROI overflow"
  let raw := { s with width := width, height := height, x := x, y := y }
  profile585.validate raw
  return raw

/-- `lines` is the number of lines that single-precision timing gives the integration. -/
def Asi220.rawSettings (lines : Settings → Nat) (s : Settings) (bin : Nat) : Checked Settings := do
  ensure (decide (bin = 1) || decide (bin = 2)) "guide supports software bins 1 and 2"
  let width ← Readout.checkedMul s.width bin "guide width overflow"
  let height ← Readout.checkedMul s.height bin "guide height overflow"
  let x ← Readout.checkedMul s.x bin "guide origin overflow"
  let y ← Readout.checkedMul s.y bin "guide origin overflow"
  let raw := { s with width := width, height := height, x := x, y := y }
  ensure (decide (64 ≤ width) && decide (width ≤ 1920) && decide (s.width % 8 = 0)
    && decide (64 ≤ height) && decide (height ≤ 1080) && decide (s.height % 2 = 0)
    && decide (x ≤ 1920 - width) && decide (y ≤ 1080 - height) && decide (x % 2 = 0)
    && decide (y % 2 = 0)) "invalid guide ROI"
  ensure (decide (32 ≤ s.microseconds) && decide (s.microseconds ≤ 10000000)
    && decide (s.readRetries ≤ 5) && decide (s.gain ≤ 600) && decide (200 ≤ s.offset)
    && decide (s.offset ≤ 1500)) "unsupported guide exposure/gain/offset"
  ensure (decide (s.interruptReadAfterBytes = 0) && decide (s.replayPrefixBytes = 0)
    && decide (s.timeoutReadAfterBytes = 0))
    "guide retained-read recovery has not been established"
  ensure (decide (0 < lines raw))
    "guide zero-line integrations are not validated (SDK also failed the 32us test)"
  return raw

namespace Model

def videoProfile : Model → Option Profile
  | asi662 => some profile662
  | asi585 => some profile585
  | asi676 => some profile676
  | _ => none

def cooled : Model → Bool
  | duo => true
  | asi6200 => true
  | asi2600P25 => true
  | asi585 => true
  | _ => false

def color : Model → Bool
  | asi676 => true
  | asi662 => true
  | _ => false

def size : Model → Nat × Nat
  | asi676 => (3552, 3552)
  | asi662 => (1920, 1080)
  | asi585 => (3840, 2160)
  | duo => (6248, 4176)
  | asi2600P25 => (6248, 4176)
  | guide => (1920, 1080)
  | asi6200 => (9576, 6388)

def gainRange : Model → Int × Int
  | asi676 => (0, 600)
  | asi662 => (0, 600)
  | asi585 => (0, 600)
  | duo => (-25, 700)
  | asi2600P25 => (-25, 700)
  | guide => (0, 600)
  | asi6200 => (0, 700)

def offsetRange : Model → Int × Int × Nat
  | asi676 => (0, 200, 10)
  | asi662 => (0, 300, 15)
  | asi585 => (0, 300, 3)
  | duo => (0, 240, 50)
  | asi2600P25 => (0, 240, 1)
  | guide => (200, 1500, 200)
  | asi6200 => (0, 200, 50)

def exposureMax : Model → Int
  | guide => 10000000
  | _ => 2000000000

def controls (model : Model) (auxiliary : Bool) : List Cap :=
  [⟨0, model.gainRange.1, model.gainRange.2, true⟩, ⟨1, 32, model.exposureMax, true⟩,
    ⟨5, model.offsetRange.1, model.offsetRange.2.1, true⟩, ⟨6, 40, 40, false⟩]
    ++ (if model.cooled then
      [⟨8, -500, 850, false⟩, ⟨15, 0, 100, false⟩, ⟨16, -40, 30, true⟩, ⟨17, 0, 1, true⟩]
        ++ if model = asi585 then [] else [⟨21, 0, 1, true⟩] else [])
    ++ if auxiliary then [⟨22, 0, 255, true⟩, ⟨23, 0, 255, true⟩] else []

def validate (lines : Settings → Nat) (model : Model) (s : Settings) (gain : Int) (bin : Nat) :
    Checked Unit :=
  match model with
  | asi676 => do
    ensure (decide (bin = 1)) "ASI676MC direct capture supports bin 1 only"
    validateBayer s 3552 3552 200
  | asi662 => do
    ensure (decide (bin = 1)) "ASI662MC direct capture supports bin 1 only"
    profile662.validate s
  | asi585 => do
    let _ ← Asi585.rawSettings s bin
  | duo => do
    let _ ← Readout.Asi2600.rawSettings s gain bin
  | asi2600P25 => do
    let _ ← Readout.Asi2600.rawSettings s gain bin
  | guide => do
    let _ ← Asi220.rawSettings lines s bin
  | asi6200 => do
    let _ ← Readout.Asi6200.rawSettings s gain bin

def opened (model : Model) : Settings :=
  { width := model.size.1
    height := model.size.2
    x := 0
    y := 0
    microseconds := 100000
    offset := model.offsetRange.2.2 }

end Model

structure Host where
  /-- Whether the open camera has the auxiliary controls. -/
  worker : Option Bool := none
  /-- A capture or its frame is pending. -/
  busy : Bool := false
  settings : Settings := { width := 3552, height := 3552, x := 0, y := 0, microseconds := 100000 }
  model : Model := .asi676
  gain : Int := 0
  /-- The controls whose configuration was observed. -/
  configuredAt : List Nat := []
  simulatedReadFailures : Bool := false
  reconnectRequired : Bool := false
  whiteBalance : Bool := false
  videoActive : Bool := false

/-- The parameters of a start; what is no 64-bit natural number has no value. -/
structure StartParams where
  bin : Option Nat
  width : Option Nat
  height : Option Nat
  x : Option Nat
  y : Option Nat
  microseconds : Option Nat
  /-- The gain override, if there is one. -/
  gain : Option (Option Nat) := none
  readRetries : Option (Option Nat) := none
  /-- The checks of the transfer deadline and of the size of a read. -/
  transfer : Checked Unit := .ok ()
  /-- Whether the mode is video. -/
  mode : Checked Bool := .ok false
  dark : Bool := false
  maxFpsInRange : Bool := true
  /-- The capture deadline is finite and in its range. -/
  deadlineInRange : Bool := true

/-- What the owner of the camera gets. -/
structure Work where
  settings : Settings
  videoMode : Bool
  gain : Int
  bin : Nat
  deriving DecidableEq

def number (value : Option Nat) (key : String) : Checked Nat :=
  match value with
  | none => .error (.refused ("missing or invalid " ++ key))
  | some value =>
    if value < 4294967296 then .ok value
    else .error (.refused "out of range integral type conversion attempted")

def optional (value : Option (Option Nat)) (default : Nat) (key : String) : Checked Nat :=
  match value with
  | none => .ok default
  | some value => number value key

namespace Host

variable (lines : Settings → Nat) (host : Host)

def get (control : Nat) (reading : Checked Int) : Checked Int :=
  match host.worker with
  | none => .error (.refused "camera is not open")
  | some auxiliary =>
    if ([8, 15, 16, 17].contains control && host.model.cooled && host.busy) = true then reading
    else do
      ensure (!host.busy || host.model.cooled && [16, 17].contains control)
        "cannot access controls during capture"
      ensure ((host.model.controls auxiliary).any fun cap => decide (cap.type = control))
        "unsupported control"
      match control with
      | 0 => return host.gain
      | 1 => return host.settings.microseconds
      | 5 => return host.settings.offset
      | 6 => return 40
      | _ => reading

def getObservation (control : Nat) (reading : Checked Int) : Checked Int :=
  match host.worker with
  | none => .error (.refused "camera is not open")
  | some _ =>
    if control = 0 ∨ control = 5 then do
      ensure (host.configuredAt.contains control) "configuration observation unavailable"
      return if control = 0 then host.gain else host.settings.offset
    else do
      ensure (host.model.cooled && [8, 15, 16, 17].contains control)
        "unsupported observation control"
      reading

/-- What a control sets; `written` is the answer for a control of the environment. -/
def assign (control : Nat) (value : Int) (written : Except Bool Unit) : Checked Unit × Host :=
  match control with
  | 0 => (.ok (), { host with
      gain := value
      settings := { host.settings with gain := (max value 0).toNat }
      configuredAt := 0 :: host.configuredAt })
  | 1 => (.ok (), { host with settings := { host.settings with microseconds := value.toNat } })
  | 5 => (.ok (), { host with
      settings := { host.settings with offset := value.toNat }
      configuredAt := 5 :: host.configuredAt })
  | _ =>
    match written with
    | .ok _ => (.ok (), host)
    | .error uncertain =>
      (.error (.refused "direct camera operation failed"),
        { host with reconnectRequired := host.reconnectRequired || uncertain })

def set (control : Nat) (value : Int) (written : Except Bool Unit) : Checked Unit × Host :=
  match host.worker with
  | none => (.error (.refused "camera is not open"), host)
  | some auxiliary =>
    if !(!host.busy || host.model.cooled && [16, 17].contains control) then
      (.error (.refused "cannot access controls during capture"), host)
    else
      match (host.model.controls auxiliary).find? fun cap => decide (cap.type = control) with
      | none => (.error (.refused "unsupported control"), host)
      | some cap =>
        if !cap.writable then (.error (.refused "control is read-only"), host)
        else if ¬ (cap.min ≤ value ∧ value ≤ cap.max) then
          (.error (.refused "control outside supported range"), host)
        else host.assign control value written

def openCamera (model : Model) (opened : Checked Bool) (environment : Checked Unit) :
    Checked Unit × Host :=
  if host.worker.isSome then (.error (.refused "camera is already open"), host)
  else
    match opened with
    | .error fault => (.error fault, host)
    | .ok auxiliary =>
      let opening := { host with
        model := model, settings := model.opened, gain := 0, configuredAt := [0, 5] }
      match if model.cooled then environment else .ok () with
      | .error fault => (.error fault, opening)
      | .ok _ => (.ok (), { opening with
          worker := some auxiliary, reconnectRequired := false, whiteBalance := false })

/-- The settings of a capture, the signed gain and the number of pixels of a bin. -/
def parameters (params : StartParams) : Checked (Settings × Nat) := do
  let bin ← number params.bin "bin"
  let width ← number params.width "width"
  let height ← number params.height "height"
  let x ← number params.x "x"
  let y ← number params.y "y"
  let microseconds ← number params.microseconds "microseconds"
  let gain ← optional params.gain host.settings.gain "gain"
  let readRetries ← optional params.readRetries host.settings.readRetries "readRetries"
  params.transfer
  return ({ host.settings with
    width := width, height := height, x := x, y := y, microseconds := microseconds
    gain := gain, readRetries := readRetries }, bin)

def signed (value : Nat) : Checked Int :=
  if value < 2147483648 then .ok value
  else .error (.refused "out of range integral type conversion attempted")

def videoRaw (settings : Settings) (bin : Nat) : Checked Settings :=
  if host.model = .asi585 then Asi585.rawSettings settings bin else .ok settings

def video (params : StartParams) (settings : Settings) (bin : Nat) : Checked Settings :=
  match host.model.videoProfile with
  | none => .error (.refused "video is only available for ASI585MM Pro/ASI662MC/ASI676MC")
  | some profile => do
    ensure (!params.dark)
      "video dark-frame semantics are unavailable; cap the camera explicitly"
    let raw ← host.videoRaw settings bin
    profile.validate raw
    ensure params.maxFpsInRange "video maxFps must be 0.01..120"
    ensure (decide (raw.microseconds ≤ 30000000))
      "video exposure exceeds the 30-second experimental limit"
    ensure (decide (raw.interruptReadAfterBytes = 0) && decide (raw.replayPrefixBytes = 0))
      "video does not support retained-frame replay"
    ensure (params.readRetries.all fun value => value.all fun value => decide (value = 0))
      "video does not support retained read retries"
    return { settings with readRetries := 0 }

def modeSettings (params : StartParams) (videoMode : Bool) (settings : Settings) (bin : Nat) :
    Checked Settings :=
  if videoMode then host.video params settings bin else .ok settings

def checkWhiteBalance (bin : Nat) : Checked Unit :=
  if host.whiteBalance then do
    ensure host.model.color "white balance requires a known color Bayer camera"
    ensure (decide (bin = 1)) "managed white balance requires unbinned Bayer data (bin 1)"
  else .ok ()

def work (params : StartParams) : Checked Work := do
  let (settings, bin) ← host.parameters params
  let gain ← signed settings.gain
  host.model.validate lines settings gain bin
  let videoMode ← params.mode
  let settings ← host.modeSettings params videoMode settings bin
  host.checkWhiteBalance bin
  ensure params.deadlineInRange "invalid capture deadline"
  return { settings := settings, videoMode := videoMode, gain := gain, bin := bin }

/-- A start: its work item, if one is handed over.  `stopped` is the answer of the owner to the end
of a video, `sent` whether it takes the capture. -/
def start (params : StartParams) (stopped : Checked Unit) (sent : Bool) :
    Checked (Option Work) × Host :=
  match host.worker with
  | none => (.error (.refused "camera is not open"), host)
  | some _ =>
    if host.busy || host.reconnectRequired then
      (.error (.refused "exposure pending or reconnect required after cleanup failure"), host)
    else
      match host.work lines params with
      | .error fault => (.error fault, host)
      | .ok work =>
        match if host.videoActive && !work.videoMode then stopped else .ok () with
        | .error fault => (.error fault, host)
        | .ok _ =>
          let running := { host with videoActive := work.videoMode }
          if host.simulatedReadFailures then
            (.ok none, { running with simulatedReadFailures := false, busy := true })
          else if sent then (.ok (some work), { running with busy := true })
          else (.error (.refused "direct worker exited"), running)

end Host

/-- What the commands that touch no setting leave. -/
structure Other where
  closed : Bool
  busy : Bool
  simulatedReadFailures : Bool
  reconnectRequired : Bool
  whiteBalance : Bool
  videoActive : Bool

inductive Command where
  | open_ (model : Model) (opened : Checked Bool) (environment : Checked Unit)
  | get (control : Nat) (reading : Checked Int)
  | getObservation (control : Nat) (reading : Checked Int)
  | set (control : Nat) (value : Int) (written : Except Bool Unit)
  | start (params : StartParams) (stopped : Checked Unit) (sent : Bool)
  | other (left : Other)

inductive Reply where
  | done (result : Checked Unit)
  | number (result : Checked Int)
  | started (result : Checked (Option Work))
  deriving DecidableEq

def Host.leave (host : Host) (left : Other) : Host :=
  { host with
    worker := if left.closed then none else host.worker
    busy := left.busy
    simulatedReadFailures := left.simulatedReadFailures
    reconnectRequired := left.reconnectRequired
    whiteBalance := left.whiteBalance
    videoActive := left.videoActive }

def machine (lines : Settings → Nat) : Lib.Machine Host Command Reply where
  step host command :=
    match command with
    | .open_ model opened environment =>
      let (result, host) := host.openCamera model opened environment
      (.done result, host)
    | .get control reading => (.number (host.get control reading), host)
    | .getObservation control reading => (.number (host.getObservation control reading), host)
    | .set control value written =>
      let (result, host) := host.set control value written
      (.done result, host)
    | .start params stopped sent =>
      let (result, host) := host.start lines params stopped sent
      (.started result, host)
    | .other left => (.done (.ok ()), host.leave left)

end Regain.Zwo.HostSettings
