import Regain.Lib.Exchange
import Regain.Zwo.DefectMapSafe

/-!
# Raw video of the Bayer cameras

A session configures the camera once and reads successive frames. A frame stands in an envelope of
markers and a counter, which tells how many frames were dropped.
-/

namespace Regain.Zwo.BayerVideo

open Lib
open Exchange (get modify send fail ret ensure attempt)
open DefectMap (Defects Roi Usable decodeProfile)

/-- What a session was validated for. -/
structure Setup where
  width : Nat
  height : Nat
  x : Nat
  y : Nat
  wide : 64 ≤ width
  high : 64 ≤ height
  /-- The map and the step of the defect pixels. -/
  profile : DefectMap.Profile
  known : profile ∈ DefectMap.profiles
  color : Bool
  longExposure : Bool
  continuousDrain : Bool

namespace Setup

variable (setup : Setup)

def roi : Roi := ⟨setup.width, setup.height, setup.x, setup.y⟩

def length : Nat := setup.width * setup.height * 2

def Map : Type :=
  { defects : Defects //
    Usable defects ∧ defects.width = setup.width ∧ defects.height = setup.height }

theorem map_of_decoded {data : List UInt8} {defects : Defects}
    (h : decodeProfile data setup.roi setup.profile = .ok defects) :
    Usable defects ∧ defects.width = setup.width ∧ defects.height = setup.height := by
  have hdecoded := (DefectMap.decodeProfile_safe setup.known data setup.roi).2 defects h
  exact ⟨hdecoded.usable setup.known, hdecoded.width, hdecoded.height⟩

def calibrate (data : List UInt8) : Option setup.Map :=
  match h : decodeProfile data setup.roi setup.profile with
  | .ok defects => some ⟨defects, setup.map_of_decoded h⟩
  | .error _ => none

end Setup

structure Video (setup : Setup) where
  defects : setup.Map
  previous : Option Nat
  delivered : Nat
  active : Bool
  cleanupFailed : Bool

inductive Command where
  /-- Load the flag that cancels a read. -/
  | cancelled
  /-- The integration of a long exposure. -/
  | expose
  | read (length : Nat)
  /-- The full stop of the camera. -/
  | stop
  /-- Wait for the next slot of the frame rate. -/
  | pace
  | configure
  deriving DecidableEq

/-- How a command ends. -/
structure Reply where
  failed : Bool := false
  cancelled : Bool := false
  /-- The bytes of a frame. -/
  data : List UInt8 := []
  calibration : List UInt8 := []

inductive Failure where
  /-- A complete transfer with an invalid envelope. -/
  | boundary (message : String)
  | other (message : String)

abbrev VideoExchange (setup : Setup) (α : Type) : Type :=
  Exchange (Video setup) Command Reply Failure α

structure Frame where
  boundarySequence : Nat
  skippedFrames : Nat
  deliveredFrames : Nat
  framingRecoveries : Nat
  pixels : List UInt8

def u16At (data : List UInt8) (at_ : Nat) : Nat :=
  Raw16.ofBytes (data.getD at_ 0) (data.getD (at_ + 1) 0)

def frameSequence (data : List UInt8) (expected : Nat) : Except Failure Nat :=
  if ¬(16 ≤ expected ∧ data.length = expected) then .error (.other "incomplete frame")
  else if data.take 2 ≠ [0x7e, 0x5a] ∨ data.drop (data.length - 2) ≠ [0xf0, 0x3c] then
    .error (.boundary "invalid frame boundary markers")
  else
    let first := u16At data 2
    let last := u16At data (data.length - 4)
    if first = 0 ∨ first ≠ last then .error (.boundary "frame boundary sequence mismatch")
    else .ok first

def sequenceGap : Option Nat → Nat → Except Failure Nat
  | none, _ => .ok 0
  | some previous, next =>
    -- `wrapping_sub`
    let distance := (next + 65536 - previous) % 65536
    if distance = 0 then .error (.other "video returned the previous frame sequence")
    else if 32768 ≤ distance then .error (.other "video frame sequence moved backwards")
    else .ok (distance - 1)

def copyWithin (data : List UInt8) (source target : Nat) : List UInt8 :=
  data.take target ++ (data.drop source).take 4 ++ data.drop (target + 4)

/-- Replace the first and the last two pixels by pixels `rows` lines inward. -/
def replaceEnvelope (color : Bool) (data : List UInt8) (width : Nat) :
    Except Failure (List UInt8) :=
  let rows := if color then 2 else 1
  let least := if color then width * 2 * 5 else width * 6
  if 8 ≤ width ∧ least ≤ data.length ∧ data.length % (width * 2) = 0 then
    let last := data.length - 4
    let inward := width * 2 * rows
    let data := copyWithin data inward 0
    .ok (copyWithin data (last - inward) last)
  else .error (.other (if color then "invalid frame geometry" else "invalid mono geometry"))

def corrected (defects : Defects) (data : List UInt8) : Except Failure (List UInt8) :=
  match DefectMap.correct defects data with
  | .ok pixels => .ok pixels
  | .error _ => .error (.other "correction frame length mismatch")

section

variable {setup : Setup}

def ofExcept {α : Type} : Except Failure α → VideoExchange setup α
  | .ok value => ret value
  | .error error => fail error

def notCancelled : VideoExchange setup Unit := do
  let reply ← send .cancelled
  ensure (!reply.cancelled) (.other "video read cancelled")

def perform (command : Command) : VideoExchange setup Reply := do
  let reply ← send command
  ensure (!reply.failed) (.other "USB transfer failed")
  ret reply

def expose : VideoExchange setup Unit :=
  if setup.longExposure then do
    let _ ← perform .expose
  else ret ()

def read : VideoExchange setup Frame := do
  notCancelled
  expose
  let reply ← perform (.read setup.length)
  notCancelled
  let sequence ← ofExcept (frameSequence reply.data setup.length)
  let session ← get
  let skipped ← ofExcept (sequenceGap session.previous sequence)
  modify fun session =>
    { session with previous := some sequence, delivered := session.delivered + 1 }
  let pixels ← ofExcept (replaceEnvelope setup.color reply.data setup.width)
  let pixels ← ofExcept (corrected session.defects.val pixels)
  return {
    boundarySequence := sequence
    skippedFrames := skipped
    deliveredFrames := session.delivered + 1
    framingRecoveries := 0
    pixels := pixels }

def stop : VideoExchange setup Unit := do
  let session ← get
  if session.active || session.cleanupFailed then do
    modify fun session => { session with active := false }
    let reply ← send .stop
    modify fun session => { session with cleanupFailed := reply.failed }
    ensure (!reply.failed) (.other "Bayer camera did not stop")
  else ret ()

def start : VideoExchange setup Unit := do
  let reply ← send .configure
  match if reply.failed then none else setup.calibrate reply.calibration with
  | some defects =>
    modify fun _ =>
      { defects := defects
        previous := none
        delivered := 0
        active := true
        cleanupFailed := false }
  | none => do
    let _ ← send .stop
    fail (.other "Video initialization failed")

def restart : VideoExchange setup Unit := do
  stop
  if setup.continuousDrain then ret ()
  else do
    let _ ← perform .pace
  start

def recover : VideoExchange setup Frame := do
  notCancelled
  restart
  notCancelled
  let frame ← read
  return { frame with framingRecoveries := 1 }

def recoverFrameOnce : VideoExchange setup Frame := do
  notCancelled
  match ← attempt read with
  | .ok frame => ret frame
  | .error (.boundary _) => recover
  | .error error => fail error

def next : VideoExchange setup Frame := do
  let session ← get
  ensure session.active (.other "video is stopped; start a new session")
  match ← attempt recoverFrameOnce with
  | .ok frame => ret frame
  | .error error => do
    let _ ← attempt stop
    fail error

end

inductive Request where
  | next
  | stop

def serve {setup : Setup} : Request → VideoExchange setup (Option Frame)
  | .next => do
    let frame ← next
    return some frame
  | .stop => do
    stop
    return none

def machine (setup : Setup) : Machine (Video setup) (Request × (Nat → Reply))
    (Exchange.Answered Command Reply Failure (Option Frame)) :=
  Exchange.machine serve

def started {setup : Setup} (defects : setup.Map) : Video setup where
  defects := defects
  previous := none
  delivered := 0
  active := true
  cleanupFailed := false

end Regain.Zwo.BayerVideo
