import Mathlib.Data.Rat.Floor
import Regain.Lib.Routine

/-!
# The CAA rotator controller

One controller supervises the motion of a CAA rotator. Requests and ticks run one after the other;
what the device and the clock answer to each report is part of the world. Angles are exact.
-/

namespace Regain.Zwo.Rotation

open Lib
open Routine (ensure fail modify ret)

/-- The reports that write. -/
inductive Write where
  | start (target : ℚ) (limit : Nat)
  | reference (degrees : ℚ)
  | stop
  | beep (enabled : Bool)
  | reverse (enabled : Bool)
  | rename (text : List UInt8)
  | limit (degrees : Nat)
  deriving DecidableEq

/-- An input report with the status of the device. -/
structure StatusReport where
  state : Nat
  direction : Nat
  /-- The mechanical angle in units of a ten-thousandth of a degree. -/
  units : Nat
  limit : Nat
  error : Nat
  deriving DecidableEq

structure Answer where
  /-- Whether an output report is acknowledged. -/
  written : Bool
  /-- A valid reply to a query, if there is one. -/
  status : Option StatusReport
  settings : Option (Nat × Nat)
  identity : Bool
  name : Option (List UInt8)
  /-- The clock, in milliseconds. -/
  now : Nat

structure Status where
  moving : Bool
  direction : Nat
  mechanicalDegrees : ℚ
  logicalDegrees : ℚ
  logicalOffset : ℚ
  limitDegrees : Nat
  error : Nat
  deriving DecidableEq

structure Settings where
  beep : Bool
  reverse : Bool

structure Caa where
  offset : ℚ
  reverse : Bool
  pendingReverse : Option (ℚ × ℚ)
  pendingReference : Option ℚ

def Caa.sign (caa : Caa) : ℚ := if caa.reverse then -1 else 1

structure Motion where
  target : ℚ
  previous : ℚ
  start : ℚ
  deadline : Nat
  remaining : ℚ
  segmented : Bool
  deriving DecidableEq

structure Controller where
  camera : Caa
  motion : Option Motion
  error : Option String
  targetLogical : ℚ

/-- What an observer sees of the controller. -/
inductive Event where
  /-- A status query and its reply, if there is a valid one. -/
  | read (report : Option StatusReport)
  /-- Another query. -/
  | queried (ok : Bool)
  | wrote (write : Write) (ok : Bool)
  /-- A move is requested and its target is accepted. -/
  | moveAsked
  | rotationAsked (amount : ℚ)
  /-- A supervised motion is due for its check. -/
  | checking
  | observed (motion : Motion) (state : Status) (now : Nat)
  /-- A motion goes on under supervision. -/
  | supervised
  /-- A motion is over without an error. -/
  | ended
  /-- A check or a requested start has failed. -/
  | faulted
  | stopAsked
  /-- Halt succeeded. -/
  | halted
  deriving DecidableEq

structure World where
  controller : Controller
  events : List Event
  /-- What is answered after a number of events. -/
  answers : Nat → Answer

abbrev Task (α : Type) := Routine World String α

namespace World

def log (world : World) (event : Event) : World :=
  { world with events := world.events ++ [event] }

def set (world : World) (controller : Controller) : World :=
  { world with controller := controller }

def answer (world : World) : Answer :=
  world.answers world.events.length

end World

def controller : Task Controller :=
  Routine.act fun world => (world.controller, world)

def update (f : Controller → Controller) : Task Unit :=
  modify fun world => world.set (f world.controller)

def updateCamera (f : Caa → Caa) : Task Unit :=
  update fun owner => { owner with camera := f owner.camera }

def log (event : Event) : Task Unit :=
  modify (·.log event)

def sense : Task Answer :=
  Routine.act fun world => (world.answer, world)

def onlyIf (condition : Bool) (task : Task Unit) : Task Unit :=
  if condition then task else ret ()

def angle (value : ℚ) : Task Unit :=
  ensure (decide (0 ≤ value ∧ value ≤ 360))
    "angle must be finite and between 0 and 360 degrees"

def mechanicalAngle (value : ℚ) : Task Unit :=
  ensure (decide (0 ≤ value ∧ value ≤ 361))
    "mechanical angle must be finite and between 0 and 361 degrees"

def remEuclid (value : ℚ) : ℚ := value - 360 * ⌊value / 360⌋

def wrapMechanical (value : ℚ) : ℚ :=
  if remEuclid value = 0 ∧ 0 < value then 360 else remEuclid value

def queryFailed : String := "CAA query failed"

def query (reply : Answer → Option α) : Task α :=
  fun world =>
    match reply world.answer with
    | none => (.failed queryFailed, world.log (.queried false))
    | some value => (.done value, world.log (.queried true))

def read : Task StatusReport :=
  fun world =>
    match world.answer.status with
    | none => (.failed queryFailed, world.log (.read none))
    | some report => (.done report, world.log (.read (some report)))

def write (report : Write) : Task Bool :=
  fun world => (.done world.answer.written, world.log (.wrote report world.answer.written))

def writeFailed : String := "CAA write failed"

def writeChecked (report : Write) : Task Unit := do
  let written ← write report
  ensure written writeFailed

def settings : Task Settings := do
  let reply ← query (·.settings)
  ensure (decide (reply.1 ≤ 1 ∧ reply.2 ≤ 1)) "invalid CAA boolean settings"
  let reverse := decide (reply.2 ≠ 0)
  updateCamera fun caa =>
    match caa.pendingReverse with
    | some (mechanical, logical) =>
      { caa with
        pendingReverse := none
        reverse := reverse
        offset := logical - { caa with reverse := reverse }.sign * mechanical }
    | none => { caa with reverse := reverse }
  ret ⟨decide (reply.1 ≠ 0), reverse⟩

/-- A failed reverse write is resolved before a logical coordinate is used again. -/
def resolveReverse : Task Unit := do
  let _ ← settings
  ret ()

def status : Task Status := do
  let owner ← controller
  onlyIf owner.camera.pendingReverse.isSome resolveReverse
  let report ← read
  let mechanical : ℚ := report.units / 10000
  mechanicalAngle mechanical
  updateCamera fun caa =>
    match caa.pendingReference with
    | some logical =>
      { caa with pendingReference := none, offset := logical - caa.sign * mechanical }
    | none => caa
  ensure (decide (1 ≤ report.limit ∧ report.limit ≤ 361)) "invalid CAA rotation limit"
  let owner ← controller
  ret
    { moving := decide (report.state ≠ 0)
      direction := report.direction
      mechanicalDegrees := mechanical
      logicalDegrees := remEuclid (owner.camera.sign * mechanical + owner.camera.offset)
      logicalOffset := owner.camera.offset
      limitDegrees := report.limit
      error := report.error }

def idle : Task Status := do
  let state ← status
  ensure (!state.moving) "CAA is moving"
  ensure (decide (state.error = 0)) "CAA reports fault"
  ret state

def moveMechanical (degrees : ℚ) : Task Unit := do
  mechanicalAngle degrees
  let state ← idle
  ensure (decide (degrees ≤ state.limitDegrees)) "target exceeds CAA limit"
  writeChecked (.start degrees state.limitDegrees)

def sync (degrees : ℚ) : Task Unit := do
  angle degrees
  let state ← idle
  updateCamera fun caa => { caa with offset := degrees - caa.sign * state.mechanicalDegrees }

def restoreLogicalOffset (offset : ℚ) : Task Unit := do
  ensure (decide (0 ≤ offset ∧ offset < 360)) "Invalid saved logical offset"
  let _ ← idle
  updateCamera fun caa => { caa with offset := offset }

def setMechanicalReference (degrees : ℚ) : Task Unit := do
  angle degrees
  let state ← idle
  ensure (decide (degrees ≤ state.limitDegrees)) "reference exceeds rotation limit"
  updateCamera fun caa => { caa with pendingReference := some state.logicalDegrees }
  let written ← write (.reference degrees)
  -- The position is read even after an uncertain write.
  let after ← status
  updateCamera fun caa =>
    { caa with offset := state.logicalDegrees - caa.sign * after.mechanicalDegrees }
  ensure written writeFailed
  ensure
    (!after.moving && decide (after.error = 0 ∧ |after.mechanicalDegrees - degrees| ≤ 3 / 100))
    "CAA did not accept mechanical reference"

def stop : Task Unit :=
  writeChecked .stop

def setBeep (enabled : Bool) : Task Unit := do
  let _ ← idle
  writeChecked (.beep enabled)
  let settings ← settings
  ensure (settings.beep == enabled) "CAA did not accept beep setting"

def setReverse (enabled : Bool) : Task Unit := do
  let state ← idle
  updateCamera fun caa =>
    { caa with pendingReverse := some (state.mechanicalDegrees, state.logicalDegrees) }
  let written ← write (.reverse enabled)
  let settings ← settings.attempt
  ensure written writeFailed
  let settings ← Routine.ofExcept settings
  ensure (settings.reverse == enabled) "CAA did not accept reverse setting"

def setAlias (text : List UInt8) : Task Unit := do
  ensure
    (decide (text.length ≤ 8) && text.all fun byte => decide (0x20 ≤ byte ∧ byte ≤ 0x7e))
    "alias must be at most eight printable ASCII characters"
  let _ ← idle
  writeChecked (.rename text)
  let reply ← query (·.name)
  ensure (reply == text ++ List.replicate (8 - text.length) 0)
    "CAA did not accept alias"

def setLimit (degrees : Nat) : Task Unit := do
  ensure (decide (1 ≤ degrees ∧ degrees ≤ 361)) "limit must be 1..361 whole degrees"
  let state ← idle
  ensure (decide (state.mechanicalDegrees ≤ degrees))
    "limit would exclude current position"
  writeChecked (.limit degrees)
  let after ← status
  ensure (decide (after.limitDegrees = degrees)) "CAA did not accept rotation limit"

def segmentAmount (remaining : ℚ) : ℚ := min |remaining| 90

def segmentTravel (remaining : ℚ) : ℚ × ℚ :=
  if 0 < remaining then (0, segmentAmount remaining) else (segmentAmount remaining, 0)

def signum (value : ℚ) : ℚ := if value < 0 then -1 else 1

def segment (remaining : ℚ) : Task Unit := do
  let travel := segmentTravel remaining
  setMechanicalReference travel.1
  moveMechanical travel.2
  let answer ← sense
  update fun owner =>
    { owner with
      motion := some
        { start := travel.1
          previous := travel.1
          target := travel.2
          remaining := remaining - signum remaining * segmentAmount remaining
          segmented := true
          deadline := answer.now + 30000 } }
  log .supervised

/-- A motion that stands still at its target is over, or goes on with its next segment. -/
def arrive (motion : Motion) : Task Unit := do
  update fun owner => { owner with motion := none }
  if motion.segmented && decide (1 / 1000 < |motion.remaining|) then segment motion.remaining
  else log .ended

def advance (motion : Motion) : Task Unit := do
  let state ← status
  let answer ← sense
  log (.observed motion state answer.now)
  ensure (decide (state.error = 0)) "CAA fault"
  let position := state.mechanicalDegrees
  ensure
    (decide (min motion.start motion.target - 1 / 10 ≤ position
      ∧ position ≤ max motion.start motion.target + 1 / 10))
    "position outside commanded travel"
  ensure
    (decide (-(1 / 10) ≤ (position - motion.previous) * signum (motion.target - motion.start)))
    "unexpected direction of travel"
  update fun owner => { owner with motion := some { motion with previous := position } }
  ensure (decide (answer.now ≤ motion.deadline)) "motion deadline exceeded"
  if state.moving then log .supervised
  else do
    ensure (decide (|position - motion.target| ≤ 1 / 10)) "stopped before reaching target"
    arrive motion

def fault (message : String) : Task Unit := do
  log .faulted
  let stopped ← stop.attempt
  update fun owner =>
    { owner with
      error := some
        (match stopped with
        | .ok () => message ++ "; stopped, movement was not retried"
        | .error stop => message ++ "; stop also failed: " ++ stop) }

def tick : Task Unit := do
  let owner ← controller
  match owner.motion with
  | none => ret ()
  | some motion => do
    log .checking
    let result ← (advance motion).attempt
    match result with
    | .ok _ => ret ()
    | .error message => do
      update fun owner => { owner with motion := none }
      fault message

def ready : Task Unit := do
  let owner ← controller
  ensure owner.error.isNone "acknowledge the motion error with Halt before moving again"
  ensure owner.motion.isNone "CAA is moving"
  let state ← status
  ensure (!state.moving && decide (state.error = 0)) "CAA is moving or reports a fault"

def halt : Task Unit := do
  update fun owner => { owner with motion := none }
  log .stopAsked
  stop
  update fun owner => { owner with error := none }
  log .halted

inductive Request where
  | status
  | identity
  | settings
  | stop
  | rotateUnwrapped (degrees : Option ℚ)
  | moveMechanical (degrees : Option ℚ)
  | moveTo (degrees : Option ℚ)
  | moveRelative (degrees : Option ℚ)
  | sync (degrees : Option ℚ)
  | restoreReference (offset : Option ℚ)
  | reference (degrees : Option ℚ)
  | resetOrigin
  | beep (enabled : Option Bool)
  | reverse (enabled : Option Bool)
  | rename (text : Option (List UInt8))
  | limit (degrees : Option Nat)
  | unknown

def required (value : Option α) (message : String) : Task α :=
  match value with
  | none => fail message
  | some value => ret value

def degreesRequired : String := "finite degrees required"

def begin_ (start : Task Unit) (remark : String) : Task Unit := do
  let result ← start.attempt
  match result with
  | .ok _ => ret ()
  | .error message => do
    log .faulted
    let _ ← stop.attempt
    update fun owner => { owner with error := some (message ++ remark) }
    fail message

def rotateUnwrapped (degrees : Option ℚ) : Task Unit := do
  let amount ← required degrees degreesRequired
  ensure (decide (amount ≠ 0 ∧ |amount| ≤ 450))
    "explicit travel must be within -450..450 degrees and nonzero"
  let state ← status
  ensure (decide (90 ≤ state.limitDegrees))
    "multi-turn travel requires a limit of at least 90 degrees"
  let settings ← settings
  let sign : ℚ := if settings.reverse then -1 else 1
  update fun owner =>
    { owner with targetLogical := remEuclid (state.logicalDegrees + sign * amount) }
  log (.rotationAsked amount)
  begin_ (segment amount) ""

/-- The target of an ordinary move. -/
inductive Move where
  | mechanical
  | logical
  | relative

def Move.target (move : Move) (state : Status) (sign degrees : ℚ) : Task ℚ :=
  match move with
  | .mechanical => ret degrees
  | .logical => do
    ensure (decide (0 ≤ degrees ∧ degrees ≤ 360)) "logical angle must be 0..360"
    ret (wrapMechanical ((degrees - state.logicalOffset) * sign))
  | .relative => do
    ensure (decide (|degrees| ≤ 360)) "relative angle must be within one turn"
    ret (wrapMechanical (state.mechanicalDegrees + sign * degrees))

def move (move : Move) (degrees : Option ℚ) : Task Unit := do
  let degrees ← required degrees degreesRequired
  let state ← status
  let settings ← settings
  let sign : ℚ := if settings.reverse then -1 else 1
  let target ← move.target state sign degrees
  mechanicalAngle target
  ensure (decide (target ≤ state.limitDegrees)) "target exceeds rotation limit"
  log .moveAsked
  begin_ (moveMechanical target) "; motion was not retried"
  let answer ← sense
  update fun owner =>
    { owner with
      targetLogical := remEuclid (sign * target + state.logicalOffset)
      motion := some
        { target := target
          previous := state.mechanicalDegrees
          start := state.mechanicalDegrees
          deadline := answer.now + 120000
          remaining := 0
          segmented := false } }
  log .supervised

def identify : Task Unit := do
  let known ← query fun answer => if answer.identity then some () else none
  ret known

def syncTo (degrees : Option ℚ) : Task Unit := do
  let degrees ← required degrees degreesRequired
  sync degrees
  update fun owner => { owner with targetLogical := remEuclid degrees }

def restore (offset : Option ℚ) : Task Unit := do
  let offset ← required offset "offset required"
  restoreLogicalOffset offset
  let state ← status
  update fun owner => { owner with targetLogical := state.logicalDegrees }

def act (request : Request) : Task Unit :=
  match request with
  | .rotateUnwrapped degrees => rotateUnwrapped degrees
  | .moveMechanical degrees => move .mechanical degrees
  | .moveTo degrees => move .logical degrees
  | .moveRelative degrees => move .relative degrees
  | .sync degrees => syncTo degrees
  | .restoreReference offset => restore offset
  | .reference degrees => do
    let degrees ← required degrees degreesRequired
    setMechanicalReference degrees
  | .resetOrigin => setMechanicalReference 0
  | .beep enabled => do
    let enabled ← required enabled "enabled must be boolean"
    setBeep enabled
  | .reverse enabled => do
    let enabled ← required enabled "enabled must be boolean"
    setReverse enabled
  | .rename text => do
    let text ← required text "text required"
    setAlias text
  | .limit degrees => do
    let degrees ← required degrees "whole-degree limit required"
    setLimit degrees
  | _ => fail "unknown command"

def settleFirst (task : Task Unit) : Task Unit := do
  ready
  task

def supervised (task : Task Unit) : Task Unit := do
  tick
  task

def request (request : Request) : Task Unit :=
  match request with
  -- Halt discards the pending segments before any tick can start one.
  | .stop => halt
  | .status => supervised do
      let _ ← status
      ret ()
  | .identity => supervised identify
  | .settings => supervised do
      let _ ← settings
      ret ()
  | other => supervised (settleFirst (act other))

def start (camera : Caa) (targetLogical : ℚ) (answers : Nat → Answer) : World where
  controller := ⟨camera, none, none, targetLogical⟩
  events := []
  answers := answers

def step (world : World) : Option Request → World
  | some asked => (request asked world).2
  | none => (tick world).2

def run (world : World) (ops : List (Option Request)) : World :=
  ops.foldl step world

end Regain.Zwo.Rotation
