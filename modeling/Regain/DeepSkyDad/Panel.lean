import Regain.Lib.Exchange

/-!
# The flat panel

A panel owns its line: one command and one reply at a time, and no command is repeated. A reply that
does not come, or that is not what the command asks for, latches a fault.
-/

namespace Regain.DeepSkyDad

open Lib

def maxBrightness : Nat := 4096

def motionTimeout : Nat := 120000

inductive CoverState where
  | closed
  | opened
  | moving
  | unknown
  deriving DecidableEq

def CoverState.text : CoverState → String
  | closed => "Closed"
  | opened => "Open"
  | moving => "Moving"
  | unknown => "Unknown"

structure Status where
  cover : CoverState
  /-- Unknown reports do not prove that movement has stopped. -/
  coverMoving : Option Bool
  positionDegrees : Nat
  lightOn : Bool
  calibratorOn : Bool
  brightness : Nat
  maxBrightness : Nat

structure Panel where
  fault : Option String := none
  /-- The endpoint of a pending motion, and when it began. -/
  motion : Option (CoverState × Nat) := none
  zeroOn : Bool := false

abbrev Reply := Except String String

abbrev PanelExchange (α : Type) : Type := Exchange Panel String Reply String α

def parseNumber (text : String) : Option Nat :=
  let digits := match text.toList with
    | '+' :: digits => digits
    | digits => digits
  if digits ≠ [] ∧ (digits.all fun digit => decide ('0' ≤ digit ∧ digit ≤ '9')) = true then
    some (digits.foldl (fun value digit => 10 * value + (digit.toNat - 48)) 0)
  else none

namespace Panel

open Exchange (get modify send fail ret)

def latch (message : String) (panel : Panel) : Panel :=
  { panel with fault := some message }

def command (text : String) : PanelExchange String := do
  let panel ← get
  match panel.fault with
  | some fault =>
    fail ("Session faulted; reconnect after checking the panel: " ++ fault)
  | none =>
    match ← send text with
    | .ok reply => ret reply
    | .error error => do
      modify (latch (text ++ ": " ++ error ++ "; command was not retried"))
      fail error

def invalid {α : Type} (message : String) : PanelExchange α := do
  modify (latch message)
  fail message

def number (text : String) (maximum : Nat) : PanelExchange Nat := do
  let value ← command text
  match (parseNumber value).filter (· ≤ maximum) with
  | some found => ret found
  | none => invalid ("Invalid " ++ text ++ " reply: " ++ value)

def ack (text : String) : PanelExchange Unit := do
  let reply ← command text
  if reply ≠ "OK" then invalid ("Unexpected " ++ text ++ " acknowledgment: " ++ reply)
  else ret ()

def coverOf : Nat → Nat → CoverState
  | 0, 270 => .closed
  | 1, 0 => .opened
  | 2, _ => .moving
  | _, _ => .unknown

def coverMovingOf : Nat → Option Bool
  | 0 => some false
  | 1 => some false
  | 2 => some true
  | _ => none

def follow (cover : CoverState) (now : Nat) : PanelExchange Unit := do
  let panel ← get
  match panel.motion with
  | none => ret ()
  | some (target, since) =>
    if cover = target then modify fun panel => { panel with motion := none }
    else if cover ≠ .moving ∨ since + motionTimeout ≤ now then do
      -- the link is healthy: one stop before the timeout is latched
      if cover = .moving then ack "STOP"
      invalid ("Cover failed to reach " ++ target.text ++ ": " ++ cover.text)
    else ret ()

def readLight (report positionDegrees : Nat) : PanelExchange Status := do
  let lightOn := decide ((← number "GLON" 1) = 1)
  let brightness ← number "GLBR" maxBrightness
  let panel ← get
  return {
    cover := coverOf report positionDegrees
    coverMoving := coverMovingOf report
    positionDegrees := positionDegrees
    lightOn := lightOn
    calibratorOn := lightOn || (panel.zeroOn && decide (brightness = 0))
    brightness := brightness
    maxBrightness := maxBrightness }

def status (now : Nat) : PanelExchange Status := do
  let report ← number "GOPS" 3
  let positionDegrees ← number "GPOS" 270
  follow (coverOf report positionDegrees) now
  readLight report positionDegrees

def aim (opens : Bool) : String :=
  if opens then "STRG0" else "STRG270"

def moveCover (opens : Bool) (now since : Nat) : PanelExchange Unit := do
  let target := if opens then CoverState.opened else .closed
  let status ← status now
  if status.cover = .moving then fail "Cover is already moving"
  else if status.cover = target then ret ()
  else do
    ack (aim opens)
    ack "SMOV"
    modify fun panel => { panel with motion := some (target, since) }

def halt : PanelExchange Unit := do
  ack "STOP"
  modify fun panel => { panel with motion := none }

def lightOn (brightness : Nat) : PanelExchange Unit := do
  if brightness ≤ maxBrightness then do
    ack ("SLBR" ++ toString brightness)
    ack "SLON1"
    modify fun panel => { panel with zeroOn := decide (brightness = 0) }
  else fail "Brightness must be 0..=4096"

def lightOff : PanelExchange Unit := do
  ack "SLBR0"
  ack "SLON0"
  modify fun panel => { panel with zeroOn := false }

/-- A request, with the readings of the clock that it makes. -/
inductive Request where
  | status (now : Nat)
  | moveCover (opens : Bool) (now since : Nat)
  | halt
  | lightOn (brightness : Nat)
  | lightOff

def serve : Request → PanelExchange Unit
  | .status now => do
    let _ ← status now
  | .moveCover opens now since => moveCover opens now since
  | .halt => halt
  | .lightOn brightness => lightOn brightness
  | .lightOff => lightOff

def machine : Lib.Machine Panel (Request × (Nat → Reply))
    (Exchange.Answered String Reply String Unit) :=
  Exchange.machine serve

end Panel

end Regain.DeepSkyDad
