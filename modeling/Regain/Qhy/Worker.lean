import Mathlib.Logic.Function.Basic
import Regain.Lib.Routine

/-!
# The QHY camera worker

One host owns a QHY600M and the filter wheel behind it. Commands and background ticks run one after
the other; what the camera, the wheel and the clock answer to each call is part of the world.
-/

namespace Regain.Qhy

open Lib
open Routine (act ensure fail forEach modify ofExcept ret)

inductive Fault where
  | invalid (message : String)
  | uncertain (message : String)
  | failed (message : String)

/-! ## The wheel -/

/-- `cfw::Motion`, times in milliseconds. -/
structure Motion where
  target : Nat
  started : Nat
  matched : Option Nat

namespace Motion

def new (target started : Nat) : Motion where
  target := target
  started := started
  matched := none

def unsettled : Fault :=
  .invalid "Wheel did not settle at requested position; no move replay"

/-- Whether the motion is complete; a failed observation leaves it as it is. -/
def observe (motion : Motion) (position : Option Nat) (now : Nat) :
    Except Fault (Bool × Motion) :=
  if 45000 ≤ now - motion.started then .error unsettled
  else if position ≠ some motion.target then .ok (false, { motion with matched := none })
  else
    let first := motion.matched.getD now
    .ok (decide (250 ≤ now - first), { motion with matched := some first })

end Motion

/-! ## The host -/

structure Exposure where
  microseconds : Nat
  width : Nat
  height : Nat
  x : Nat
  y : Nat
  dark : Bool
  deriving DecidableEq

structure VideoSettings where
  exposure : Exposure
  gain : Int
  bitDepth : Nat
  readMode : Nat
  deriving DecidableEq

inductive Backend where
  | sdk
  | direct
  deriving DecidableEq

structure WheelExpected where
  slots : Nat
  position : Nat

/-- The parameters of `start` and `validate` after their checks. -/
structure Request where
  exposure : Exposure
  video : Bool
  gain : Int
  bitDepth : Nat
  readMode : Nat
  /-- The shortest time between two video frames; none with a continuous drain. -/
  interval : Nat
  wheelExpected : Option WheelExpected

structure Host where
  direct : Bool
  backend : Option Backend
  exposure : Option Exposure
  ready : Bool
  values : Nat → Option Int
  cancelled : Bool
  wheelSlots : Option Nat
  wheelExpected : Option Nat
  wheelPending : Option Motion
  videoParams : Option VideoSettings
  videoInterval : Nat
  videoDelivered : Option Nat
  backgroundError : Bool

def Host.new (direct : Bool) : Host where
  direct := direct
  backend := none
  exposure := none
  ready := false
  values := fun _ => none
  cancelled := false
  wheelSlots := none
  wheelExpected := none
  wheelPending := none
  videoParams := none
  videoInterval := 0
  videoDelivered := none
  backgroundError := false

/-- The calls to the backend. -/
inductive Call where
  | open_
  | initCamera
  | readControl (kind : Nat)
  | version
  | wheelSlots
  | wheelPosition
  | wheelMove (position started : Nat)
  | telemetry
  | power (off : Bool)
  | set (kind : Nat) (value : Int)
  | start (exposure : Exposure)
  | startVideo (exposure : Exposure)
  | ready
  | download
  | stop
  | pumpVideo

structure Answer where
  error : Option String
  slots : Nat
  position : Option Nat
  /-- Temperature and power, if they are finite and in their ranges. -/
  telemetry : Option (Int × Int)
  value : Int
  ready : Bool
  pixels : List UInt8
  /-- The clock at the time of the call. -/
  now : Nat
  /-- A second has passed since the last tick. -/
  due : Bool
  /-- The regulated output has another code, or is to be refreshed. -/
  refresh : Bool

inductive Command (Params : Type) where
  | wheelStatus
  | wheelMove (position : Option Nat)
  | open_
  | get (control : Nat)
  | set (control : Nat) (value : Int)
  | resumeCooling (valid : Bool)
  | validate (params : Params)
  | start (params : Params)
  | status
  | download
  | stop
  | close

inductive Reply where
  | null
  | wheel (slots : Nat) (position : Option Nat) (moving : Bool)
  | value (value : Int)
  | image (exposure : Exposure) (pixels : List UInt8)

/-- What an observer of the worker sees. -/
inductive Event where
  /-- A command begins; background ticks are no commands. -/
  | asked
  | called (call : Call) (ok : Bool)
  /-- A position inside the carousel was read. -/
  | observed (position : Option Nat) (now : Nat)
  | moveAccepted (position : Nat)
  | expected (position : Nat)
  /-- The host takes the exposure as its acquisition. -/
  | armed (exposure : Exposure)
  | accepted (video : Bool)
  | delivered (exposure : Exposure)
  | released
  | replied (closing ok : Bool)

/-! ## The world -/

structure World where
  host : Host
  events : List Event
  /-- What is answered after a number of events. -/
  answers : Nat → Answer

abbrev Task (α : Type) := Routine World Fault α

namespace World

def log (world : World) (event : Event) : World :=
  { world with events := world.events ++ [event] }

def set (world : World) (host : Host) : World :=
  { world with host := host }

def answer (world : World) : Answer :=
  world.answers world.events.length

def start (direct : Bool) (answers : Nat → Answer) : World where
  host := .new direct
  events := []
  answers := answers

end World

def update (f : Host → Host) : Task Unit :=
  modify fun world => world.set (f world.host)

def log (event : Event) : Task Unit :=
  modify (·.log event)

def host : Task Host :=
  act fun world => (world.host, world)

def sense : Task Answer :=
  act fun world => (world.answer, world)

def onlyIf (condition : Bool) (task : Task Unit) : Task Unit :=
  if condition then task else ret ()

def notOpen : Fault := .failed "Camera not open"

def call (call : Call) : Task Answer :=
  fun world =>
    if world.host.backend.isNone then (.failed notOpen, world)
    else
      match world.answer.error with
      | some message => (.failed (.failed message), world.log (.called call false))
      | none => (.done world.answer, world.log (.called call true))

def slots : Task Nat := do
  let owner ← host
  match owner.wheelSlots with
  | some slots => ret slots
  | none => do
    let answer ← call .wheelSlots
    update fun owner => { owner with wheelSlots := some answer.slots }
    ret answer.slots

def settle (position : Option Nat) (now : Nat) : Task Unit := do
  let owner ← host
  match owner.wheelPending with
  | none => ret ()
  | some motion => do
    let observed ← ofExcept (motion.observe position now)
    update fun owner =>
      { owner with wheelPending := if observed.1 then none else some observed.2 }

structure WheelStatus where
  slots : Nat
  position : Option Nat
  moving : Bool

/-! ## Wheel and cooler -/

def wheelStatus : Task WheelStatus := do
  let slots ← slots
  let answer ← call .wheelPosition
  ensure (answer.position.all fun position => decide (position < slots))
    (.invalid "Wheel position outside carousel")
  log (.observed answer.position answer.now)
  settle answer.position answer.now
  let owner ← host
  ret ⟨slots, answer.position, answer.position.isNone || owner.wheelPending.isSome⟩

def unverified : Fault :=
  .invalid "QHY wheel optical state is not verified; exposure blocked"

def verifyWheel : Task Unit := do
  let owner ← host
  match owner.wheelExpected with
  | none => ret ()
  | some expected => do
    let status ← wheelStatus
    ensure (!status.moving && status.position = some expected) unverified

def wheelMove (position : Option Nat) : Task Reply := do
  let owner ← host
  ensure (owner.exposure.isNone && owner.videoParams.isNone)
    (.invalid "Cannot move wheel during acquisition")
  let status ← wheelStatus
  ensure (!status.moving) (.invalid "Wheel is already moving or unknown")
  match position.filter fun position => decide (position < status.slots) with
  | none => fail (.failed "Invalid wheel target")
  | some position => do
    -- Intent is recorded before dispatch; an error can mean motion started.
    update fun owner => { owner with wheelExpected := some position }
    log (.moveAccepted position)
    if status.position = some position then
      ret (.wheel status.slots status.position status.moving)
    else do
      let answer ← sense
      update fun owner => { owner with wheelPending := some (.new position answer.now) }
      let _ ← call (.wheelMove position answer.now)
      ret (.wheel status.slots none true)

def observe : Task Unit := do
  let answer ← call .telemetry
  match answer.telemetry with
  | none => fail (.failed "Invalid QHY telemetry")
  | some (temperature, power) =>
    update fun owner =>
      { owner with
        values := Function.update (Function.update owner.values 8 (some temperature)) 15
          (some power) }

/-- A write of the cooler whose acknowledgement fails has an uncertain effect. -/
def power (off : Bool) : Task Unit := do
  let result ← (call (.power off)).attempt
  match result with
  | .ok _ => ret ()
  | .error _ => fail (.uncertain "QHY cooler write unacknowledged")

def cooling (owner : Host) : Bool :=
  (owner.values 17).any fun value => decide (value ≠ 0)

def refresh : Task Unit := do
  let answer ← sense
  onlyIf answer.refresh (power false)

def tick : Task Unit := do
  let owner ← host
  let answer ← sense
  if owner.backend.isNone || !answer.due then ret ()
  else do
    observe
    let owner ← host
    onlyIf (cooling owner) refresh

def pumpVideo : Task Unit := do
  let _ ← call .pumpVideo
  ret ()

def idle : Task Unit := do
  let owner ← host
  onlyIf (owner.backend = some .direct) pumpVideo
  tick

def stopActive : Task Unit := do
  update fun owner => { owner with ready := false, cancelled := true }
  let _ ← call .stop
  update fun owner =>
    { owner with exposure := none, videoParams := none, videoDelivered := none }

def stopWith : Task Unit := do
  let owner ← host
  onlyIf (owner.exposure.isSome || owner.videoParams.isSome) stopActive

def stop : Task Unit := do
  stopWith
  update fun owner => { owner with backgroundError := false }

def forget : Task Unit := do
  update fun owner =>
    { owner with
      backend := none
      values := fun _ => none
      cancelled := false
      wheelSlots := none
      wheelExpected := none
      wheelPending := none }
  log .released

def close : Task Unit := do
  let owner ← host
  if owner.backend.isNone then ret ()
  else do
    let stopped ← stop.attempt
    let off ← (power true).attempt
    forget
    ofExcept stopped
    ofExcept off

/-! ## Commands -/

def initialValues (kind : Nat) : Option Int :=
  if kind = 0 then some 30
  else if kind = 1 then some 5000000
  else if kind = 5 then some 30
  else if kind = 6 then some 50
  else if kind = 8 ∨ kind = 15 ∨ kind = 16 ∨ kind = 17 then some 0
  else none

def setValue (kind : Nat) (value : Int) : Task Unit :=
  update fun owner => { owner with values := Function.update owner.values kind (some value) }

/-- The SDK may have other defaults than those of the direct initialization. -/
def readControl (limit : Nat × Int) : Task Unit := do
  let answer ← call (.readControl limit.1)
  ensure (decide (0 ≤ answer.value ∧ answer.value ≤ limit.2))
    (.failed "Unexpected QHY SDK control")
  setValue limit.1 answer.value

def acquire : Task Unit :=
  fun world =>
    match world.answer.error with
    | some message => (.failed (.failed message), world.log (.called .open_ false))
    | none =>
      (.done (), (world.log (.called .open_ true)).set
          { world.host with
            backend := some (if world.host.direct then .direct else .sdk)
            values := initialValues })

def version : Task Unit := do
  let _ ← call .version
  ret ()

def openCamera : Task Unit := do
  let owner ← host
  ensure owner.backend.isNone (.invalid "Already open")
  acquire
  onlyIf (!owner.direct) (forEach readControl [(0, 200), (5, 255), (6, 60)])
  observe
  power true
  update fun owner => { owner with cancelled := false }
  onlyIf (!owner.direct) version

def control (kind : Nat) : Option (Int × Int × Bool) :=
  if kind = 0 then some (0, 200, true)
  else if kind = 1 then some (1, 3600000000, true)
  else if kind = 5 then some (0, 255, true)
  else if kind = 6 then some (0, 60, true)
  else if kind = 8 then some (-600, 800, false)
  else if kind = 15 then some (0, 100, false)
  else if kind = 16 then some (-40, 30, true)
  else if kind = 17 then some (0, 1, true)
  else none

def getControl (kind : Nat) : Task Reply := do
  let owner ← host
  ensure owner.backend.isSome (.invalid "Camera not open")
  onlyIf (kind = 8 ∨ kind = 15) observe
  let owner ← host
  match owner.values kind with
  | none => fail (.invalid "Unsupported QHY control")
  | some value => ret (.value value)

def writeControl (kind : Nat) (value : Int) : Task Unit :=
  if kind = 0 ∨ kind = 5 ∨ kind = 6 then do
    let _ ← call (.set kind value)
    ret ()
  else if kind = 16 then ret ()
  else if kind = 17 then if value = 0 then power true else ret ()
  else fail (.invalid "Unsupported persistent QHY control")

def setControl (kind : Nat) (value : Int) : Task Reply := do
  let owner ← host
  -- The controls of a closed camera are forgotten.
  match (control kind).filter fun _ => owner.backend.isSome with
  | none => fail (.invalid "Unsupported QHY control")
  | some cap => do
    ensure (cap.2.2 && decide (cap.1 ≤ value ∧ value ≤ cap.2.1))
      (.invalid "QHY control outside range")
    ensure
      (decide (kind = 16 ∨ kind = 17) || (owner.exposure.isNone && owner.videoParams.isNone))
      (.invalid "Camera is exposing")
    writeControl kind value
    setValue kind value
    ret .null

def resumeCooling (valid : Bool) : Task Reply := do
  ensure valid (.invalid "Invalid cooling recovery seed")
  observe
  let owner ← host
  onlyIf (cooling owner) (power false)
  ret .null

def expectWheel (wheelExpected : Option WheelExpected) : Task Unit :=
  match wheelExpected with
  | none => ret ()
  | some expected => do
    let status ← wheelStatus
    ensure (status.slots = expected.slots) (.invalid "QHY wheel geometry changed")
    ensure (decide (expected.position < status.slots))
      (.failed "Invalid expected wheel position")
    update fun owner => { owner with wheelExpected := some expected.position }
    log (.expected expected.position)
    verifyWheel

def arm (exposure : Exposure) : Task Unit := do
  update fun owner => { owner with exposure := some exposure }
  log (.armed exposure)

def imaging (owner : Host) (kind : Nat) : Int := (owner.values kind).getD 0

def rewrite (owner : Host) (kind : Nat) : Task Unit := do
  let _ ← call (.set kind (imaging owner kind))
  ret ()

def startStream (settings : VideoSettings) : Task Unit := do
  stop
  -- Arm cleanup before writes.
  arm settings.exposure
  let _ ← call (.startVideo settings.exposure)
  let owner ← host
  let _ ← call (.set 0 settings.gain)
  forEach (rewrite owner) [5, 6]
  setValue 0 settings.gain
  update fun owner => { owner with videoParams := some settings }

def startVideo (request : Request) : Task Unit := do
  let settings : VideoSettings :=
    ⟨request.exposure, request.gain, request.bitDepth, request.readMode⟩
  let owner ← host
  onlyIf (owner.videoParams ≠ some settings) (startStream settings)
  arm request.exposure
  update fun owner =>
    { owner with videoInterval := request.interval, cancelled := false, ready := false }

def initCamera : Task Unit := do
  let _ ← call .initCamera
  ret ()

def reinitialize : Task Unit := do
  let owner ← host
  onlyIf (owner.backend = some .direct) initCamera
  forEach (rewrite owner) [0, 5, 6]
  update fun owner => { owner with cancelled := false }

def setGain (gain : Int) : Task Unit := do
  let owner ← host
  onlyIf (owner.values 0 ≠ some gain) do
    let _ ← call (.set 0 gain)
    setValue 0 gain

def startStill (request : Request) : Task Unit := do
  let owner ← host
  onlyIf owner.videoParams.isSome stop
  let owner ← host
  onlyIf owner.cancelled reinitialize
  setGain request.gain
  -- Arm cleanup before dispatch.
  arm request.exposure
  update fun owner => { owner with ready := false }
  let _ ← call (.start request.exposure)
  ret ()

def dispatch (request : Request) : Task Unit :=
  if request.video then startVideo request else startStill request

def start (request : Request) : Task Reply := do
  expectWheel request.wheelExpected
  let owner ← host
  ensure owner.exposure.isNone (.invalid "Prior acquisition is still active")
  dispatch request
  log (.accepted request.video)
  ret .null

def paced (owner : Host) (now : Nat) : Bool :=
  owner.videoParams.isSome
    && owner.videoDelivered.any fun delivered => decide (now - delivered < owner.videoInterval)

def status : Task Reply := do
  let owner ← host
  if owner.cancelled then ret (.value 3)
  else if owner.exposure.isNone then ret (.value 0)
  else do
    tick
    let answer ← call .ready
    update fun owner => { owner with ready := answer.ready && !paced owner answer.now }
    let owner ← host
    ret (.value (if owner.ready then 2 else 1))

def cropRaw16 (pixels : List UInt8) (sourceWidth sourceHeight : Nat) (exposure : Exposure) :
    Except Fault (List UInt8) :=
  if pixels.length = sourceWidth * sourceHeight * 2 ∧ 0 < exposure.width ∧ 0 < exposure.height
      ∧ exposure.x + exposure.width ≤ sourceWidth
      ∧ exposure.y + exposure.height ≤ sourceHeight then
    .ok ((List.range exposure.height).flatMap fun row =>
      (pixels.drop (((exposure.y + row) * sourceWidth + exposure.x) * 2)).take (exposure.width * 2))
  else .error (.failed "Invalid QHY crop geometry")

def frame (owner : Host) (exposure : Exposure) (full : List UInt8) : Except Fault (List UInt8) :=
  if owner.videoParams.any fun settings => settings.bitDepth = 8 then
    if full.length = 9600 * 6422 then .ok full
    else .error (.failed "Invalid QHY RAW8 frame length")
  else cropRaw16 full 9600 6422 exposure

def download : Task Reply := do
  let owner ← host
  match owner.exposure with
  | none => fail (.failed "No QHY exposure")
  | some exposure => do
    ensure owner.ready (.failed "QHY frame not ready")
    update fun owner => { owner with ready := false, cancelled := true }
    let answer ← call .download
    verifyWheel
    let pixels ← ofExcept (frame owner exposure answer.pixels)
    let answer ← sense
    update fun owner =>
      { owner with
        exposure := none
        cancelled := false
        videoDelivered := if owner.videoParams.isSome then some answer.now
          else owner.videoDelivered }
    log (.delivered exposure)
    ret (.image exposure pixels)

section

variable {Params : Type} (parse : (Nat → Option Int) → Params → Except Fault Request)

def perform (command : Command Params) : Task Reply :=
  match command with
  | .wheelStatus => do
    let status ← wheelStatus
    ret (.wheel status.slots status.position status.moving)
  | .wheelMove position => wheelMove position
  | .open_ => do
    openCamera
    ret .null
  | .get control => getControl control
  | .set control value => setControl control value
  | .resumeCooling valid => resumeCooling valid
  | .validate params => do
    let owner ← host
    let _ ← ofExcept (parse owner.values params)
    ret .null
  | .start params => do
    let owner ← host
    let request ← ofExcept (parse owner.values params)
    start request
  | .status => status
  | .download => download
  | .stop => do
    stop
    ret .null
  | .close => do
    close
    ret .null

def Command.isCleanup : Command Params → Bool
  | .stop => true
  | .close => true
  | _ => false

def Command.isClose : Command Params → Bool
  | .close => true
  | _ => false

def admissible (command : Command Params) : Task Unit := do
  let owner ← host
  ensure (!owner.backgroundError || command.isCleanup)
    (.failed "QHY acquisition owner failed")

def command (command : Command Params) : Task Reply := do
  log .asked
  let result ← (do admissible command; perform parse command : Task Reply).attempt
  log (.replied command.isClose result.isOk)
  ofExcept result

def background : Task Unit := do
  let owner ← host
  if owner.backgroundError then ret ()
  else do
    let result ← idle.attempt
    match result with
    | .ok _ => ret ()
    | .error _ => update fun owner => { owner with backgroundError := true }

def step (world : World) : Option (Command Params) → World
  | some request => (command parse request world).2
  | none => (background world).2

def run (world : World) (ops : List (Option (Command Params))) : World :=
  ops.foldl (step parse) world

end

end Regain.Qhy
