import Mathlib.Data.Finset.Basic
import Mathlib.Data.Finset.Filter
import Mathlib.Logic.Function.Basic
import Regain.Lib.Machine

/-!
# The Alpaca camera

One camera serves several clients, as a camera and as a filter wheel. What the clients see is under
the lock of the state; the session is under the lock of the engine.
-/

namespace Regain.Alpaca.Camera

abbrev Client := Bool × UInt32

/-- What a capture has answered: the start it belongs to and the session it was taken with. -/
structure Answer where
  exposure : Nat
  session : Option Nat

/-- The state that the requests of the clients look at. -/
structure State where
  clients : Finset Client := ∅
  /-- The session whose status is shown. -/
  status : Option Nat := none
  changing : Bool := false
  busy : Bool := false
  wheelBusy : Bool := false
  frame : Option Answer := none
  error : Option Answer := none
  /-- The token of the last start, named by its number. -/
  cancel : Nat := 0
  closed : Bool := false

/-- The tasks that take the engine. -/
inductive Owner where
  | change
  | wheel
  | capture (exposure : Nat)
  | shutdown (call : Nat)
  | refresh
  deriving DecidableEq

/-- The next step of `change` and of the task around it. -/
inductive ChangeStage where
  | gate
  /-- Off: the client leaves. -/
  | leave
  | leaveLock
  | leaveLook
  | thermal
  | take
  | close (session : Nat)
  | clear
  /-- On: a wheel of a session that is there checks it. -/
  | enter
  | wheelLock
  | wheelStatus
  | first
  | controlsLock
  | controls
  | join
  | connect
  | publish (session : Nat)
  | store (session : Nat)
  /-- The lock of the changes is released. -/
  | release
  | done
  deriving DecidableEq

/-- A connection change. -/
structure ConnectionChange where
  client : UInt32
  on : Bool
  wheel : Bool
  stage : ChangeStage

inductive WheelStage where
  | lock
  | move
  | drop

/-- The next step of the task of an exposure. -/
inductive CaptureStage where
  | lock
  | capture
  /-- The capture has ended, with a frame or an error. -/
  | report (session : Option Nat) (frame : Bool)
  | release
  deriving DecidableEq

inductive ShutdownStage where
  | gate
  | lock
  | take
  | close (session : Nat)
  | clear
  deriving DecidableEq

structure Device where
  state : State := {}
  /-- The tokens that were cancelled. -/
  cancelled : Nat → Bool := fun _ => false
  engine : Option Nat := none
  engineOwner : Option Owner := none
  /-- Who has the lock of the changes. -/
  connection : Option Owner := none
  change : Option ConnectionChange := none
  wheel : Option WheelStage := none
  captures : Nat → Option CaptureStage := fun _ => none
  shutdowns : Nat → Option ShutdownStage := fun _ => none
  calls : Nat := 0
  /-- The starts that were accepted, and the session each was accepted on. -/
  starts : Nat := 0
  acceptedOn : Nat → Option Nat := fun _ => none
  /-- The starts that a client has aborted. -/
  aborted : Nat → Bool := fun _ => false
  /-- The sessions that were made, and those that were closed. -/
  sessions : Nat := 0
  gone : Nat → Bool := fun _ => false

inductive Op where
  /-- `connected`, `connect` and `disconnect` of a camera or a wheel. -/
  | connected (client : UInt32) (on wheel : Bool)
  /-- `startexposure`; `valid` says whether its parameters are. -/
  | start (client : UInt32) (valid : Bool)
  | abort (client : UInt32)
  /-- A wheel is put into a position. -/
  | move (client : UInt32)
  /-- A refresh, or a look at the wheel, takes the engine if it is free. -/
  | refresh
  | refreshed
  | shutdown
  | changeStep (ok : Bool)
  | wheelStep (dropped : Bool)
  | captureStep (exposure : Nat) (frame : Bool)
  | shutdownStep (call : Nat)

namespace Device

def setState (device : Device) (state : State) : Device :=
  { device with state := state }

def changeTo (device : Device) (change : ConnectionChange) (stage : ChangeStage) : Device :=
  { device with change := some { change with stage := stage } }

def captureTo (device : Device) (exposure : Nat) (stage : Option CaptureStage) : Device :=
  { device with captures := Function.update device.captures exposure stage }

def shutdownTo (device : Device) (call : Nat) (stage : Option ShutdownStage) : Device :=
  { device with shutdowns := Function.update device.shutdowns call stage }

def cancelToken (device : Device) : Device :=
  { device with cancelled := Function.update device.cancelled device.state.cancel true }

def closeSession (device : Device) (session : Nat) : Device :=
  { device with gone := Function.update device.gone session true }

def connected (device : Device) (client : UInt32) (on wheel : Bool) : Device :=
  if !device.state.changing && !device.state.closed then
    { device.setState { device.state with changing := true } with
      change := some ⟨client, on, wheel, .gate⟩ }
  else device

def check (device : Device) (client : UInt32) : Bool :=
  decide ((false, client) ∈ device.state.clients) && device.state.status.isSome

def accepts (device : Device) (client : UInt32) (valid : Bool) : Bool :=
  device.check client && !device.state.changing && !device.state.wheelBusy && !device.state.busy
    && valid

def start (device : Device) (client : UInt32) (valid : Bool) : Device :=
  if device.accepts client valid then
    let exposure := device.starts + 1
    { device with
      state := { device.state with
        frame := none
        error := none
        busy := true
        cancel := exposure }
      starts := exposure
      acceptedOn := Function.update device.acceptedOn exposure device.state.status
      captures := Function.update device.captures exposure (some .lock) }
  else device

def abort (device : Device) (client : UInt32) : Device :=
  if device.check client && !device.state.changing && device.state.busy then
    { device.cancelToken with
      aborted := Function.update device.aborted device.state.cancel true }
  else device

def move (device : Device) (client : UInt32) : Device :=
  if decide ((true, client) ∈ device.state.clients)
      && (!device.state.busy && !device.state.wheelBusy && !device.state.changing) then
    { device.setState { device.state with wheelBusy := true } with wheel := some .lock }
  else device

def refresh (device : Device) : Device :=
  if device.engineOwner = none then { device with engineOwner := some .refresh } else device

def refreshed (device : Device) : Device :=
  if device.engineOwner = some .refresh then { device with engineOwner := none } else device

def shutdown (device : Device) : Device :=
  { (device.setState { device.state with closed := true }).cancelToken with
    shutdowns := Function.update device.shutdowns device.calls (some .gate)
    calls := device.calls + 1 }

def take (device : Device) (owner : Owner) (next : Device) : Device :=
  if device.engineOwner = none then { next with engineOwner := some owner } else device

/-- A look at the session of the engine that has to succeed; the engine is released. -/
def requireSession (device : Device) (change : ConnectionChange) (ok : Bool)
    (next : ChangeStage) : Device :=
  { device.changeTo change (if device.engine.isSome && ok then next else .release) with
    engineOwner := none }

def leave (device : Device) (change : ConnectionChange) : Device :=
  let client := (change.wheel, change.client)
  if client ∈ device.state.clients then
    let clients := device.state.clients.erase client
    let left := device.setState { device.state with clients := clients }
    if clients ≠ ∅ ∧ (change.wheel = true ∨ (clients.filter fun other => other.1 = false) ≠ ∅) then
      left.changeTo change .release
    else left.cancelToken.changeTo change .leaveLock
  else device.changeTo change .release

def changeStep (device : Device) (change : ConnectionChange) (ok : Bool) : Device :=
  match change.stage with
  | .gate =>
    if device.connection = none then
      { device.changeTo change (if change.on then .enter else .leave) with
        connection := some .change }
    else device
  | .leave => device.leave change
  | .leaveLock => device.take .change (device.changeTo change .leaveLook)
  | .leaveLook =>
    device.changeTo change (if device.state.clients ≠ ∅ then .thermal else .take)
  | .thermal => { device.changeTo change .release with engineOwner := none }
  | .take =>
    match device.engine with
    | some session => { device.changeTo change (.close session) with engine := none }
    | none => device.changeTo change .clear
  | .close session => (device.closeSession session).changeTo change .clear
  | .clear =>
    { (device.setState { device.state with
        status := none
        frame := none
        error := none
        busy := false }).changeTo change .release with engineOwner := none }
  | .enter =>
    device.changeTo change (if change.wheel && device.state.status.isSome then .wheelLock
      else .first)
  | .wheelLock => device.take .change (device.changeTo change .wheelStatus)
  | .wheelStatus => device.requireSession change ok .first
  | .first =>
    let cameras := device.state.clients.filter fun other => other.1 = false
    device.changeTo change (if !change.wheel && device.state.status.isSome && decide (cameras = ∅)
      then .controlsLock else .join)
  | .controlsLock => device.take .change (device.changeTo change .controls)
  | .controls => device.requireSession change ok .join
  | .join =>
    if device.state.status.isSome then
      (device.setState { device.state with
        clients := insert (change.wheel, change.client) device.state.clients }).changeTo change
          .release
    else device.changeTo change .connect
  | .connect =>
    -- a session that does not connect is closed before anybody has seen it
    if ok then
      { device.changeTo change (.publish device.sessions) with sessions := device.sessions + 1 }
    else device.changeTo change .release
  | .publish session =>
    (device.setState { device.state with
      status := some session
      clients := insert (change.wheel, change.client) device.state.clients
      frame := none
      error := none }).changeTo change (.store session)
  | .store session =>
    if device.engineOwner = none then
      { device.changeTo change .release with engine := some session }
    else device
  | .release => { device.changeTo change .done with connection := none }
  | .done => { device.setState { device.state with changing := false } with change := none }

/-- One step of a wheel command; its request may be dropped while it waits. -/
def wheelStep (device : Device) (dropped : Bool) : WheelStage → Device
  | .lock =>
    if dropped then { device with wheel := some .drop }
    else device.take .wheel { device with wheel := some .move }
  | .move => { device with wheel := some .drop, engineOwner := none }
  | .drop => { device.setState { device.state with wheelBusy := false } with wheel := none }

def report (device : Device) (exposure : Nat) (session : Option Nat) (frame : Bool) : State :=
  let answer : Answer := ⟨exposure, session⟩
  if device.cancelled exposure then { device.state with busy := false }
  else if frame then { device.state with frame := some answer, busy := false }
  else { device.state with error := some answer, busy := false }

def captureStep (device : Device) (exposure : Nat) (frame : Bool) : CaptureStage → Device
  | .lock => device.take (.capture exposure) (device.captureTo exposure (some .capture))
  | .capture =>
    device.captureTo exposure (some (.report device.engine (device.engine.isSome && frame)))
  | .report session frame =>
    (device.setState (device.report exposure session frame)).captureTo exposure (some .release)
  | .release => { device.captureTo exposure none with engineOwner := none }

def shutdownStep (device : Device) (call : Nat) : ShutdownStage → Device
  | .gate =>
    if device.connection = none then
      { device.shutdownTo call (some .lock) with connection := some (.shutdown call) }
    else device
  | .lock => device.take (.shutdown call) (device.shutdownTo call (some .take))
  | .take =>
    match device.engine with
    | some session => { device.shutdownTo call (some (.close session)) with engine := none }
    | none => device.shutdownTo call (some .clear)
  | .close session => (device.closeSession session).shutdownTo call (some .clear)
  | .clear =>
    { (device.setState { device.state with
        clients := ∅
        status := none
        frame := none }).shutdownTo call none with
      engineOwner := none
      connection := none }

def step (device : Device) : Op → Device
  | .connected client on wheel => device.connected client on wheel
  | .start client valid => device.start client valid
  | .abort client => device.abort client
  | .move client => device.move client
  | .refresh => device.refresh
  | .refreshed => device.refreshed
  | .shutdown => device.shutdown
  | .changeStep ok =>
    match device.change with
    | some change => device.changeStep change ok
    | none => device
  | .wheelStep dropped =>
    match device.wheel with
    | some stage => device.wheelStep dropped stage
    | none => device
  | .captureStep exposure frame =>
    match device.captures exposure with
    | some stage => device.captureStep exposure frame stage
    | none => device
  | .shutdownStep call =>
    match device.shutdowns call with
    | some stage => device.shutdownStep call stage
    | none => device

def machine : Lib.Machine Device Op (Option Nat) where
  step device op := (match op with
    | .start client valid =>
      if device.accepts client valid then some (device.starts + 1) else none
    | _ => none, device.step op)

end Device

end Regain.Alpaca.Camera
