import Mathlib.Data.Fintype.Basic
import Regain.Lib.Machine
import Regain.Lib.Rounding

/-!
# The tilter

Three actuators under a camera, in micrometres. One point moves at a time: a point is commanded
once, and the next one waits until the readings of the first have settled.
-/

namespace Regain.Wanderer

open Lib

def maxPosition : Int := 1200

def tolerance : ℚ := 2

def moveTimeout : Nat := 60000000000

def settleTime : Nat := 500000000

structure Telemetry where
  firmware : String
  points : Fin 3 → ℚ
  extra : List String

namespace Telemetry

def reading (telemetry : Telemetry) (point : Nat) : ℚ :=
  telemetry.points (Fin.ofNat 3 (point - 1))

def mean (telemetry : Telemetry) : ℚ :=
  (telemetry.points 0 + telemetry.points 1 + telemetry.points 2) / 3

def Within (telemetry : Telemetry) (point : Nat) (target : Int) : Prop :=
  |telemetry.reading point - target| ≤ tolerance

instance (telemetry : Telemetry) (point : Nat) (target : Int) :
    Decidable (telemetry.Within point target) :=
  inferInstanceAs (Decidable (_ ≤ _))

end Telemetry

def millimetres (target : Int) : String :=
  let rest := toString (target % 1000)
  toString (target / 1000) ++ "." ++ "".pushn '0' (3 - rest.length) ++ rest

def command (point : Nat) (target : Int) : Except String String :=
  if ¬ (1 ≤ point ∧ point ≤ 3) then .error "Point must be 1, 2, or 3"
  else if ¬ (0 ≤ target ∧ target ≤ maxPosition) then
    .error "Point target must be 0..1200 micrometres"
  else .ok (toString point ++ millimetres target ++ "\n")

structure Motion where
  point : Nat
  target : Int
  started : Nat
  settled : Nat := 0

structure Status where
  position : Int
  points : Fin 3 → ℚ
  moving : Bool
  maxStep : Int
  tolerance : ℚ
  haltSupported : Bool
  firmware : String
  extra : List String
  error : Int
  fault : Option String

structure Tilter where
  telemetry : Telemetry
  active : Option Motion := none
  queue : List (Nat × Int) := []
  fault : Option String := none

/-- What a request meets: the outcomes of its read and of its write, and the readings of the clock
at the timeout, at the settle time and at the start of the next point. -/
structure Env where
  reading : Except String Telemetry
  written : Except String Unit
  now : Nat
  later : Nat
  started : Nat

inductive Event where
  | read (telemetry : Telemetry) (now : Nat)
  /-- A target that a request has accepted. -/
  | accepted (point : Nat) (target : Int)
  | sent (point : Nat) (target : Int) (started : Nat)

/-- The end of a call, with the events on the way. -/
structure Outcome (α : Type) where
  ending : Except String α
  events : List Event
  tilter : Tilter

def Outcome.andThen {α β : Type} (first : Outcome α) (next : α → Tilter → Outcome β) : Outcome β :=
  match first.ending with
  | .error error => ⟨.error error, first.events, first.tilter⟩
  | .ok value =>
    let rest := next value first.tilter
    ⟨rest.ending, first.events ++ rest.events, rest.tilter⟩

namespace Tilter

def pending (tilter : Tilter) : Bool :=
  tilter.active.isSome

def poison (error : String) (tilter : Tilter) : Tilter :=
  { tilter with
    fault := some (error ++ "; reconnect and inspect positions before moving again")
    queue := [] }

def next (env : Env) (tilter : Tilter) : Outcome Unit :=
  match tilter.queue with
  | [] => ⟨.ok (), [], tilter⟩
  | (point, target) :: queue =>
    -- pending before the write: a write that fails can still have moved the hardware
    let moved := { tilter with
      queue := queue
      active := some { point := point, target := target, started := env.started } }
    match env.written with
    | .ok _ => ⟨.ok (), [.sent point target env.started], moved⟩
    | .error error => ⟨.error error, [.sent point target env.started], moved.poison error⟩

def report (tilter : Tilter) : Status where
  position := max 0 (min maxPosition (roundAway tilter.telemetry.mean))
  points := tilter.telemetry.points
  moving := tilter.pending
  maxStep := maxPosition
  tolerance := Wanderer.tolerance
  haltSupported := false
  firmware := tilter.telemetry.firmware
  extra := tilter.telemetry.extra
  error := if tilter.fault.isSome then 1 else 0
  fault := tilter.fault

def Motion.count (telemetry : Telemetry) (motion : Motion) : Motion :=
  { motion with
    settled :=
      if telemetry.Within motion.point motion.target then min (motion.settled + 1) 255 else 0 }

def advance (env : Env) (tilter : Tilter) : Outcome Unit :=
  match tilter.active with
  | none => ⟨.ok (), [], tilter⟩
  | some motion =>
    if moveTimeout < env.now - motion.started then
      ⟨.ok (), [], tilter.poison "Point movement timed out; physical motion is unknown"⟩
    else
      let counted := Motion.count tilter.telemetry motion
      if 3 ≤ counted.settled ∧ settleTime ≤ env.later - motion.started then
        next env { tilter with active := none }
      else ⟨.ok (), [], { tilter with active := some counted }⟩

def status (env : Env) (tilter : Tilter) : Outcome Status :=
  match tilter.fault with
  | some _ => ⟨.ok tilter.report, [], tilter⟩
  | none =>
    match env.reading with
    | .error error => ⟨.error error, [], tilter.poison error⟩
    | .ok telemetry =>
      let read : Outcome Unit :=
        ⟨.ok (), [.read telemetry env.later], { tilter with telemetry := telemetry }⟩
      (read.andThen fun _ => advance env).andThen fun _ tilter =>
        ⟨.ok tilter.report, [], tilter⟩

def ready (env : Env) (tilter : Tilter) : Outcome Unit :=
  if tilter.fault.isSome then
    ⟨.error "Session faulted; reconnect before moving", [], tilter⟩
  else if tilter.pending then ⟨.error "An ETA move is already in progress", [], tilter⟩
  else (tilter.status env).andThen fun _ tilter => ⟨.ok (), [], tilter⟩

def enqueue (targets : List (Nat × Int)) (env : Env) (tilter : Tilter) : Outcome Unit :=
  let queued : Outcome Unit :=
    ⟨.ok (), targets.map fun target => .accepted target.1 target.2,
      { tilter with queue := tilter.queue ++ targets }⟩
  queued.andThen fun _ => next env

def movePoint (point : Nat) (target : Int) (env : Env) (tilter : Tilter) : Outcome Unit :=
  match command point target with
  | .error error => ⟨.error error, [], tilter⟩
  | .ok _ => (tilter.ready env).andThen fun _ => enqueue [(point, target)] env

def asI32 (value : ℚ) : Int :=
  max (-2147483648) (min 2147483647 (roundAway value))

def targets (position : Int) (telemetry : Telemetry) : List (Nat × Int) :=
  [(1, asI32 (telemetry.points 0 + position - telemetry.mean)),
    (2, asI32 (telemetry.points 1 + position - telemetry.mean)),
    (3, asI32 (telemetry.points 2 + position - telemetry.mean))]

def preflight : List (Nat × Int) → Except String Unit
  | [] => .ok ()
  | (point, target) :: rest =>
    match command point target with
    | .error error => .error
        ("Back-focus move would exceed a point limit while preserving tilt: " ++ error)
    | .ok _ => preflight rest

def moveTo (position : Int) (env : Env) (tilter : Tilter) : Outcome Unit :=
  if ¬ (0 ≤ position ∧ position ≤ maxPosition) then
    ⟨.error "Back focus must be 0..1200 micrometres", [], tilter⟩
  else
    (tilter.ready env).andThen fun _ tilter =>
      match preflight (targets position tilter.telemetry) with
      | .error error => ⟨.error error, [], tilter⟩
      | .ok _ => enqueue (targets position tilter.telemetry) env tilter

def cancelQueued (tilter : Tilter) : Tilter :=
  { tilter with queue := [] }

inductive Request where
  | status
  | movePoint (point : Nat) (target : Int)
  | moveTo (position : Int)
  | cancelQueued

/-- The reply to a request, a status if it asks for one. -/
structure Reply where
  ending : Except String (Option Status)
  events : List Event

def serve (tilter : Tilter) : Request × Env → Outcome (Option Status)
  | (.status, env) => (tilter.status env).andThen fun status tilter => ⟨.ok status, [], tilter⟩
  | (.movePoint point target, env) =>
    (tilter.movePoint point target env).andThen fun _ tilter => ⟨.ok none, [], tilter⟩
  | (.moveTo position, env) =>
    (tilter.moveTo position env).andThen fun _ tilter => ⟨.ok none, [], tilter⟩
  | (.cancelQueued, _) => ⟨.ok none, [], tilter.cancelQueued⟩

def machine : Lib.Machine Tilter (Request × Env) Reply where
  step tilter op :=
    let outcome := tilter.serve op
    (⟨outcome.ending, outcome.events⟩, outcome.tilter)

end Tilter

end Regain.Wanderer
