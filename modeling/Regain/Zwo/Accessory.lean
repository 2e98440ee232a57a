import Mathlib.Data.Rat.Defs
import Regain.Lib.Exchange

/-!
# Filter wheels and focusers

A worker owns one accessory, a filter wheel (EFW) or a focuser (EAF). It serves a request at a time,
and between the requests it polls a motion or a calibration that is pending.
-/

namespace Regain.Zwo.Accessory

open Lib
open Exchange (get modify send fail ret ensure attempt)

inductive Kind where
  | efw
  | eaf
  deriving DecidableEq

structure Status where
  position : Int
  moving : Bool
  slots : Nat
  maxStep : Nat
  backlash : Nat
  beep : Bool
  reverse : Bool
  handControl : Bool
  temperature : Option ℚ
  error : Nat

inductive Command where
  | output (report : List UInt8)
  | input
  | clock

structure Reply where
  failed : Bool := false
  report : List UInt8 := []
  /-- The clock, in milliseconds. -/
  now : Nat := 0

/-- One explicit calibration.  An initial stale idle is not its completion. -/
structure Calibration where
  slots : Nat
  deadline : Nat
  sawMoving : Bool

structure Worker where
  /-- The position of a pending move and its deadline. -/
  target : Option (Int × Nat) := none
  fault : Option String := none
  calibration : Option Calibration := none

abbrev AccessoryExchange (α : Type) : Type := Exchange Worker Command Reply String α

def setOutput (report : List UInt8) : AccessoryExchange Unit := do
  let reply ← send (.output report)
  ensure (!reply.failed) "HID write failed"

def getInput : AccessoryExchange (List UInt8) := do
  let reply ← send .input
  ensure (!reply.failed) "HID read failed"
  ret reply.report

def now : AccessoryExchange Nat := do
  let reply ← send .clock
  ret reply.now

def padded (first : List UInt8) : List UInt8 :=
  first ++ List.replicate (16 - first.length) 0

def query (selector : UInt8) : AccessoryExchange (List UInt8) := do
  setOutput (padded [3, 0x7e, 0x5a, 2, selector])
  let reply ← getInput
  ensure (decide (16 ≤ reply.length) && decide (reply.take 4 = [1, 0x7e, 0x5a, selector]))
    "invalid or stale HID reply"
  ret reply

def selector : Kind → UInt8
  | .efw => 1
  | .eaf => 3

def byte (report : List UInt8) (index : Nat) : Nat :=
  (report.getD index 0).toNat

def decodeEfw (b : List UInt8) : Except String Status :=
  if byte b 12 ≠ 0 then .error "dual-disc EFW is not supported"
  else if ¬(1 ≤ byte b 9 ∧ byte b 9 ≤ 16) then .error "invalid EFW slot count"
  else
    let moving := decide (byte b 4 ≠ 1)
    if !moving && !(decide (byte b 6 = byte b 7) && decide (byte b 7 = byte b 8)
        && decide (1 ≤ byte b 8) && decide (byte b 8 ≤ byte b 9)) then
      .error "EFW sensors disagree"
    else .ok {
      position := if moving then -1 else (byte b 8 : Int) - 1
      moving := moving
      slots := byte b 9
      maxStep := 0
      backlash := 0
      beep := false
      reverse := false
      handControl := false
      temperature := none
      error := if byte b 4 = 6 then max (byte b 5) 1 else 0 }

def decodeTemperature (raw : Nat) (handControl : Bool) : Option ℚ :=
  if -273 < (raw / 100 - 300 : ℚ) ∧ handControl = false then some (raw / 100 - 300) else none

def decodeEaf (b : List UInt8) : Except String Status :=
  let position := (byte b 7 * 256 + byte b 8) * 256 + byte b 9
  let maxStep := (byte b 6 * 256 + byte b 14) * 256 + byte b 15
  if position ≤ 600000 ∧ 0 < maxStep ∧ maxStep ≤ 600000 then
    let handControl := decide (byte b 13 / 4 % 2 = 1)
    .ok {
      position := position
      moving := decide (byte b 4 = 1)
      slots := 0
      maxStep := maxStep
      backlash := byte b 5
      beep := decide (byte b 13 % 2 = 1)
      reverse := decide (byte b 13 / 2 % 2 = 1)
      handControl := handControl
      temperature := decodeTemperature (byte b 11 * 256 + byte b 12) handControl
      error := if 1 < byte b 4 then byte b 4 else byte b 13 / 16 }
  else .error "invalid EAF position or limit"

def decodeStatus (kind : Kind) (b : List UInt8) : Except String Status :=
  if 16 ≤ b.length ∧ b.take 4 = [1, 0x7e, 0x5a, selector kind] then
    match kind with
    | .efw => decodeEfw b
    | .eaf => decodeEaf b
  else .error "invalid status report"

def ofExcept {α : Type} : Except String α → AccessoryExchange α
  | .ok value => ret value
  | .error error => fail error

def status (kind : Kind) : AccessoryExchange Status := do
  let report ← query (selector kind)
  ofExcept (decodeStatus kind report)

def be24 (value : Nat) : List UInt8 :=
  [.ofNat (value / 65536), .ofNat (value / 256), .ofNat value]

/-- The report that repeats a status of the focuser, with a mode and a position; one without a mode
halts. -/
def eafCommand (s : Status) (mode : UInt8) (position : Nat) (limit : UInt8) : List UInt8 :=
  [3, 0x7e, 0x5a, 3, mode, .ofNat s.backlash, .ofNat (s.maxStep / 65536)] ++ be24 position
    ++ [limit, 0, 0, .ofNat ((if s.beep then 1 else 0) + (if s.reverse then 2 else 0)),
      .ofNat (s.maxStep / 256), .ofNat s.maxStep]

def moveTo (kind : Kind) (position : Int) (unidirectional : Bool) : AccessoryExchange Unit := do
  let found ← status kind
  ensure (!found.moving && !found.handControl) "device is moving"
  ensure (decide (found.error = 0)) "device error"
  match kind with
  | .efw => do
    ensure (decide (0 ≤ position) && decide (position < found.slots)) "invalid filter position"
    setOutput (padded
      [3, 0x7e, 0x5a, 1, if unidirectional then 3 else 2, .ofNat (position.toNat + 1)])
  | .eaf => do
    ensure (decide (0 ≤ position) && decide (position ≤ found.maxStep))
      "position exceeds EAF travel limit"
    setOutput (eafCommand found 1 position.toNat 0)

def calibrate (kind : Kind) : AccessoryExchange Calibration := do
  ensure (decide (kind = .efw)) "calibration applies to EFW only"
  let found ← status kind
  ensure (!found.moving && decide (found.error = 0))
    "EFW must be idle without errors to calibrate"
  -- One write only: a transport error may still mean motion started.
  setOutput (padded [3, 0x7e, 0x5a, 1, 1])
  let start ← now
  return { slots := found.slots, deadline := start + 90000, sawMoving := false }

/-- Wait for the focuser to stop.  A round sleeps for twenty milliseconds, so the deadline has passed
after fifty of them. -/
def awaitHalt (kind : Kind) (deadline : Nat) : Nat → AccessoryExchange Unit
  | 0 => fail "EAF did not confirm halt within one second"
  | rounds + 1 => do
    let stopped ← status kind
    ensure (!stopped.handControl) "release the EAF hand controller to stop motion"
    if stopped.moving then do
      let time ← now
      ensure (decide (time < deadline)) "EAF did not confirm halt within one second"
      awaitHalt kind deadline rounds
    else ret ()

def halt (kind : Kind) : AccessoryExchange Unit := do
  ensure (decide (kind = .eaf)) "EFW has no verified halt command"
  let found ← status kind
  ensure (!found.handControl) "release the EAF hand controller to stop motion"
  setOutput (eafCommand found 0 found.position.toNat 0)
  let start ← now
  awaitHalt kind (start + 1000) 52

/-- The settings that a request changes. -/
structure Changes where
  beep : Option Bool
  reverse : Option Bool
  backlash : Option Nat
  maxStep : Option Nat

def Changes.apply (changes : Changes) (found : Status) : Status :=
  { found with
    beep := changes.beep.getD found.beep
    reverse := changes.reverse.getD found.reverse
    backlash := changes.backlash.getD found.backlash
    maxStep := changes.maxStep.getD found.maxStep }

def settings (kind : Kind) (changes : Changes) : AccessoryExchange Unit := do
  ensure (decide (kind = .eaf)) "settings apply to EAF only"
  let found ← status kind
  ensure (!found.moving && !found.handControl && decide (found.error = 0))
    "EAF must be idle without errors"
  ensure (changes.maxStep.all fun value =>
      decide (0 < value) && decide (value ≤ 600000) && decide (found.position ≤ value))
    "invalid travel limit"
  let wanted := changes.apply found
  setOutput (eafCommand wanted 0 wanted.position.toNat (if changes.maxStep.isSome then 2 else 0))
  let actual ← status kind
  ensure (decide (actual.beep = wanted.beep) && decide (actual.reverse = wanted.reverse)
      && decide (actual.backlash = wanted.backlash) && decide (actual.maxStep = wanted.maxStep))
    "EAF settings readback mismatch"

def Calibration.observe (active : Calibration) (found : Status) (time : Nat) :
    Except String (Option Calibration) :=
  if active.deadline ≤ time then
    .error "EFW calibration timed out after 90 seconds; inspect hardware before reconnecting"
  else if found.error ≠ 0 then .error "EFW calibration hardware error"
  else
    let sawMoving := active.sawMoving || found.moving
    if !found.moving && sawMoving then
      if found.slots ≠ active.slots then .error "EFW calibration slot count changed"
      else if found.position ≠ 0 then .error "EFW calibration did not finish at slot 1"
      else .ok none
    else .ok (some { active with sawMoving := sawMoving })

def observeCalibration (found : Status) : AccessoryExchange Unit := do
  let worker ← get
  match worker.calibration with
  | none => ret ()
  | some active => do
    let time ← now
    match active.observe found time with
    | .ok calibration => modify fun worker => { worker with calibration := calibration }
    | .error error =>
      modify fun worker => { worker with fault := some error, calibration := none }

def faultWith (error : String) : AccessoryExchange Unit :=
  modify fun worker => { worker with fault := some error }

structure StatusReply where
  status : Status
  moving : Bool
  position : Int
  slots : Nat
  detectedSlots : Option Nat
  fault : Option String
  target : Option Int
  calibrating : Bool

inductive Response where
  | null
  | identity
  | status (reply : StatusReply)
  | settings (found : Status)

/-- A request; a field is missing, or it has no valid value. -/
inductive Request where
  | malformed
  | identity
  | status
  | move (position : Option Int) (unidirectional : Bool)
  | halt
  | settings (changes : Except String Changes)
  | calibrate

def Worker.idle (worker : Worker) : Bool :=
  worker.target.isNone && worker.calibration.isNone

def Worker.report (worker : Worker) (found : Status) : StatusReply where
  status := found
  moving := found.moving || worker.calibration.isSome || worker.target.isSome
  position := if worker.calibration.isSome then -1 else found.position
  slots := match worker.calibration with
    | some active => active.slots
    | none => found.slots
  detectedSlots := if worker.calibration.isSome then some found.slots else none
  fault := worker.fault
  target := worker.target.map Prod.fst
  calibrating := worker.calibration.isSome

def asI32 (position : Option Int) : Except String Int :=
  match position with
  | some value =>
    if -2147483648 ≤ value ∧ value ≤ 2147483647 then .ok value
    else .error "out of range integral type conversion attempted"
  | none => .error "invalid position"

def limitMs : Kind → Nat
  | .efw => 60000
  | .eaf => 600000

def haltEaf (kind : Kind) : AccessoryExchange Unit :=
  if kind = .eaf then do
    let _ ← attempt (halt kind)
  else ret ()

def serveMove (kind : Kind) (position : Option Int) (unidirectional : Bool) :
    AccessoryExchange Response := do
  let worker ← get
  ensure worker.fault.isNone "motion fault: reconnect after inspecting hardware"
  ensure worker.idle "motion or calibration already pending"
  let position ← ofExcept (asI32 position)
  match ← attempt (moveTo kind position unidirectional) with
  | .error error => do
    faultWith error
    haltEaf kind
    fail error
  | .ok _ => do
    let start ← now
    modify fun worker => { worker with target := some (position, start + limitMs kind) }
    return .null

def serveCalibrate (kind : Kind) : AccessoryExchange Response := do
  ensure (decide (kind = .efw)) "calibration applies to EFW only"
  let worker ← get
  ensure worker.fault.isNone "motion fault: reconnect after inspecting hardware"
  ensure worker.idle "motion or calibration already pending"
  match ← attempt (calibrate kind) with
  | .error error => do
    faultWith error
    fail error
  | .ok active => do
    modify fun worker => { worker with calibration := some active }
    return .null

def serve (kind : Kind) : Request → AccessoryExchange Response
  | .malformed => fail "unknown command"
  | .identity => ret .identity
  | .status => do
    let found ← status kind
    observeCalibration found
    let worker ← get
    return .status (worker.report found)
  | .move position unidirectional => serveMove kind position unidirectional
  | .halt => do
    ensure (decide (kind = .eaf)) "EFW has no verified halt command"
    modify fun worker => { worker with target := none }
    halt kind
    return .null
  | .settings changes => do
    let worker ← get
    ensure worker.idle "motion or calibration pending"
    let changes ← ofExcept changes
    settings kind changes
    let found ← status kind
    return .settings found
  | .calibrate => serveCalibrate kind

def pollCalibration (kind : Kind) : AccessoryExchange Unit := do
  let worker ← get
  if worker.calibration.isSome then do
    match ← attempt (status kind) with
    | .ok found => observeCalibration found
    | .error error =>
      modify fun worker =>
        { worker with fault := some ("calibration status failed: " ++ error), calibration := none }
  else ret ()

def failMotion (kind : Kind) : AccessoryExchange Unit := do
  modify fun worker =>
    { worker with fault := some "motion failed or timed out", target := none }
  haltEaf kind

def pollMotion (kind : Kind) : AccessoryExchange Unit := do
  let worker ← get
  match worker.target with
  | none => ret ()
  | some (position, deadline) => do
    match ← attempt (status kind) with
    | .error _ => failMotion kind
    | .ok found =>
      if found.moving = false ∧ found.error = 0 ∧ found.position = position then
        modify fun worker => { worker with target := none }
      else if found.error = 0 then do
        let time ← now
        if time < deadline then ret () else failMotion kind
      else failMotion kind

def poll (kind : Kind) : AccessoryExchange Unit := do
  pollCalibration kind
  pollMotion kind

/-- The loop serves a request, if there is one, and polls. -/
inductive Turn where
  | serve (request : Request)
  | poll

def take (kind : Kind) : Turn → AccessoryExchange (Option Response)
  | .serve request => do
    let response ← serve kind request
    return some response
  | .poll => do
    poll kind
    return none

def machine (kind : Kind) : Machine Worker (Turn × (Nat → Reply))
    (Exchange.Answered Command Reply String (Option Response)) :=
  Exchange.machine (take kind)

end Regain.Zwo.Accessory
