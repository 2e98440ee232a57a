import Regain.Hub.Source.Backend
import Regain.Lib.Machine

/-!
# Focuser groups

A group moves several focusers to the images of one logical position. Its operation reserves every
member, checks every member, dispatches them in order and observes those that move until they stop.
-/

namespace Regain.Hub

open Lib

def invalidGroup (message : String) : SourceError :=
  .new .invalidValue message

def isWhiteSpace (c : Char) : Bool :=
  let code := c.toNat
  (9 ≤ code && code ≤ 13) || code = 32 || code = 0x85 || code = 0xA0 || code = 0x1680
    || (0x2000 ≤ code && code ≤ 0x200A) || code = 0x2028 || code = 0x2029 || code = 0x202F
    || code = 0x205F || code = 0x3000

structure FocuserCalibration where
  source : Uuid
  /-- A negative numerator reverses the logical motion. -/
  scaleNumerator : Int32
  scaleDenominator : Int32
  offset : Int32
  minimum : Int32
  maximum : Int32

namespace FocuserCalibration

def validate (calibration : FocuserCalibration) : Except SourceError Unit :=
  if calibration.source.isNil || calibration.scaleNumerator = 0 || calibration.scaleDenominator ≤ 0
      || calibration.minimum < 0 || calibration.maximum < calibration.minimum then
    .error (invalidGroup "Invalid focuser group calibration")
  else .ok ()

/-- The scaled logical position, to the nearest step and ties away from zero. -/
def scaled (calibration : FocuserCalibration) (logical : Int32) : Int :=
  let numerator := logical.toInt * calibration.scaleNumerator.toInt
  let denominator := calibration.scaleDenominator.toInt
  if denominator ≤ (numerator.tmod denominator).natAbs * 2 then
    numerator.tdiv denominator + numerator.sign
  else numerator.tdiv denominator

def target (calibration : FocuserCalibration) (logical : Int32) : Except SourceError Int32 := do
  calibration.validate
  let target := calibration.scaled logical + calibration.offset.toInt
  if target < Int32.minValue.toInt ∨ Int32.maxValue.toInt < target then
    throw (invalidGroup "Focuser group target overflows device steps")
  let target := Int32.ofInt target
  if target < calibration.minimum ∨ calibration.maximum < target then
    throw (invalidGroup "Focuser group target is outside configured travel")
  return target

end FocuserCalibration

structure FocuserGroupConfig where
  id : Uuid
  label : String
  minimum : Int32
  maximum : Int32
  timeoutSeconds : F64
  pollSeconds : F64
  members : List FocuserCalibration

namespace FocuserGroupConfig

def validateMembers : List Uuid → List FocuserCalibration → Except SourceError Unit
  | _, [] => .ok ()
  | sources, member :: members => do
    member.validate
    if member.source ∈ sources then
      throw (invalidGroup "Focuser group repeats a physical source")
    validateMembers (member.source :: sources) members

def validate (config : FocuserGroupConfig) : Except SourceError Unit :=
  if config.id.isNil || config.label.toList.all isWhiteSpace || 200 < config.label.length
      || config.maximum < config.minimum
      || !(2 ≤ config.members.length && config.members.length ≤ 32)
      || !config.timeoutSeconds.isFinite
      || !(decide (0.01 ≤ config.timeoutSeconds) && decide (config.timeoutSeconds ≤ 300.0))
      || !config.pollSeconds.isFinite
      || !(decide (0.01 ≤ config.pollSeconds) && decide (config.pollSeconds ≤ 10.0)) then
    .error (invalidGroup "Invalid focuser group configuration")
  else validateMembers [] config.members

end FocuserGroupConfig

inductive FocuserMemberPhase where
  | notStarted
  | rejected
  | moving
  | complete
  | failed
  | uncertain
  deriving DecidableEq

structure FocuserMemberResult where
  source : Uuid
  generation : Uuid
  target : Int32
  phase : FocuserMemberPhase
  lastPosition : Option Int32
  error : Option SourceError

inductive FocuserGroupPhase where
  | preflight
  | moving
  | complete
  | preflightFailed
  | partialFailure
  | cancelled
  | deadline
  deriving DecidableEq

def FocuserGroupPhase.terminal (phase : FocuserGroupPhase) : Bool :=
  !(phase == .preflight || phase == .moving)

structure FocuserGroupResult where
  operation : Uuid
  group : Uuid
  logicalTarget : Int32
  sequence : Nat
  phase : FocuserGroupPhase
  members : List FocuserMemberResult

/-- A connected session, by what identifies it. -/
structure FocuserSession where
  sourceId : Uuid
  generation : Uuid

/-- Sessions that are the members of a valid configuration, in its order. -/
structure FocuserGroup where
  config : FocuserGroupConfig
  sessions : List FocuserSession
  checked : config.validate = .ok ()
  counted : sessions.length = config.members.length
  matched : ∀ pair ∈ sessions.zip config.members, pair.1.sourceId = pair.2.source

namespace FocuserGroup

def new (config : FocuserGroupConfig) (sessions : List FocuserSession) :
    Except SourceError FocuserGroup :=
  match hchecked : config.validate with
  | .error error => .error error
  | .ok () =>
    if h : sessions.length = config.members.length
        ∧ ∀ pair ∈ sessions.zip config.members, pair.1.sourceId = pair.2.source then
      .ok ⟨config, sessions, hchecked, h.1, h.2⟩
    else .error (invalidGroup "Focuser group sessions do not match physical sources")

/-- Where an operation waits, and for which member. -/
inductive Stage where
  | reserving (index : Nat)
  | preflighting (index : Nat)
  | rechecking (index : Nat)
  /-- The re-check passed; what follows does not wait. -/
  | rechecked (index : Nat)
  | dispatching (index : Nat)
  | observing
  /-- No observation is left; what follows does not wait. -/
  | settling
  | finished
  deriving DecidableEq

/-- What happened to an operation, and what it did. -/
inductive Effect where
  | cancelled
  | expired
  | reserved (index : Nat)
  | passed (index : Nat)
  | refused (index : Nat)
  | dispatched (index : Nat) (target : Int32)
  | failed (index : Nat) (error : SourceError)
  | observed (index : Nat) (moving : Bool) (position : Int32)
  | published (report : FocuserGroupResult)

/-- A running operation; `log` is its history. -/
structure Operation where
  report : FocuserGroupResult
  stage : Stage
  cancelled : Bool
  expired : Bool
  /-- The members whose next observation is pending. -/
  observations : List Nat
  log : List Effect

/-- `start_owned`, in a host with a runtime or without, while the group is busy or idle. -/
def startOwned (group : FocuserGroup) (runtime busy : Bool) (logicalTarget : Int32)
    (operation : Uuid) : Except SourceError Operation := do
  if logicalTarget < group.config.minimum ∨ group.config.maximum < logicalTarget then
    throw (invalidGroup "Focuser group logical target is outside configured travel")
  let targets ← group.config.members.mapM fun member => member.target logicalTarget
  if !runtime then throw (invalidGroup "Focuser group requires an active host runtime")
  if busy then throw (.new .busy "Focuser group operation is already active")
  let report : FocuserGroupResult := {
    operation := operation
    group := group.config.id
    logicalTarget := logicalTarget
    sequence := 1
    phase := .preflight
    members := (group.sessions.zip targets).map fun pair =>
      { source := pair.1.sourceId
        generation := pair.1.generation
        target := pair.2
        phase := .notStarted
        lastPosition := none
        error := none } }
  return {
    report := report
    stage := .reserving 0
    cancelled := false
    expired := false
    observations := []
    log := [.published report] }

namespace Operation

def note (operation : Operation) (effect : Effect) : Operation :=
  { operation with log := operation.log ++ [effect] }

def emit (operation : Operation) : Operation :=
  let report := { operation.report with sequence := operation.report.sequence + 1 }
  { operation with report := report, log := operation.log ++ [.published report] }

def setPhase (operation : Operation) (phase : FocuserGroupPhase) : Operation :=
  { operation with report := { operation.report with phase := phase } }

def finish (operation : Operation) (phase : FocuserGroupPhase) : Operation :=
  { (operation.setPhase phase).emit with stage := .finished }

def setMember (operation : Operation) (index : Nat)
    (change : FocuserMemberResult → FocuserMemberResult) : Operation :=
  { operation with report := { operation.report with
      members := operation.report.members.modify index change } }

def reject (operation : Operation) (index : Nat) (error : SourceError) : Operation :=
  operation.setMember index fun member =>
    { member with phase := .rejected, error := some error }

def interrupted (operation : Operation) : Option FocuserGroupPhase :=
  if operation.cancelled then some .cancelled
  else if operation.expired then some .deadline
  else none

/-- Wait for some work, but not beyond a cancellation or the deadline's timer. -/
def interruptible {α : Type} (operation : Operation) (timer : Bool) (work : Option α)
    (next : α → Operation) : Operation :=
  if operation.cancelled then operation.finish .cancelled
  else if timer && operation.expired then operation.finish .deadline
  else
    match work with
    | none => operation
    | some result => next result

def reserve (operation : Operation) (index : Nat) : Except SourceError Unit → Operation
  | .ok () =>
    let operation := operation.note (.reserved index)
    if index + 1 < operation.report.members.length then
      { operation with stage := .reserving (index + 1) }
    else { operation with stage := .preflighting 0 }
  | .error error => (operation.reject index error).finish .preflightFailed

def preflight (operation : Operation) (index : Nat) : Except SourceError Unit → Operation
  | .ok () =>
    let operation := operation.note (.passed index)
    if index + 1 < operation.report.members.length then
      { operation with stage := .preflighting (index + 1) }
    else { (operation.setPhase .moving).emit with stage := .rechecking 0 }
  | .error error => (operation.reject index error).finish .preflightFailed

def moving (operation : Operation) : List Nat :=
  (List.range operation.report.members.length).filter fun index =>
    (operation.report.members[index]?).any fun member => member.phase == .moving

def await (operation : Operation) (observations : List Nat) : Operation :=
  { operation with
    observations := observations
    stage := if observations.isEmpty then .settling else .observing }

def recheck (operation : Operation) (index : Nat) : Except SourceError Unit → Operation
  | .ok () => { operation with stage := .rechecked index }
  | .error error =>
    let operation := (operation.note (.refused index)).reject index error
    operation.await operation.moving

def admit_ (operation : Operation) (index : Nat) : Operation :=
  match operation.interrupted, operation.report.members[index]? with
  | some reason, _ => operation.finish reason
  | none, some member =>
    { operation.note (.dispatched index member.target) with stage := .dispatching index }
  | none, none => operation

def dispatch (operation : Operation) (index : Nat) : Except SourceError Unit → Operation
  | .ok () =>
    let operation := (operation.setMember index fun member =>
      { member with phase := .moving }).emit
    if index + 1 < operation.report.members.length then
      { operation with stage := .rechecking (index + 1) }
    else operation.await operation.moving
  | .error error =>
    let operation := ((operation.note (.failed index error)).setMember index fun member =>
      { member with
        phase := if error.kind = .uncertain then .uncertain else .failed
        error := some error }).emit
    operation.await operation.moving

def observed (observation : Except SourceError (Bool × Int32)) (member : FocuserMemberResult) :
    FocuserMemberResult :=
  match observation with
  | .ok (moving, position) =>
    if moving then { member with lastPosition := some position }
    else if position = member.target then
      { member with lastPosition := some position, phase := .complete }
    else
      { member with
        lastPosition := some position
        phase := .failed
        error := some (.new .unavailable "Focuser stopped before reaching its group target") }
  | .error error => { member with phase := .uncertain, error := some error }

def noteObservation (operation : Operation) (index : Nat) :
    Except SourceError (Bool × Int32) → Operation
  | .ok (moving, position) => operation.note (.observed index moving position)
  | .error _ => operation

/-- A pending observation is done; a member that still moves is observed again. -/
def observe (operation : Operation) (index : Nat)
    (observation : Except SourceError (Bool × Int32)) : Operation :=
  if index ∈ operation.observations then
    let operation :=
      (operation.noteObservation index observation).setMember index (observed observation)
    let again := (operation.report.members[index]?).any fun member => member.phase == .moving
    let rest := operation.observations.erase index
    operation.emit.await (if again then rest ++ [index] else rest)
  else operation

def settle (operation : Operation) : Operation :=
  let phase :=
    if operation.report.members.all fun member => member.phase == .complete then
      FocuserGroupPhase.complete
    else .partialFailure
  operation.finish (operation.interrupted.getD phase)

end Operation

/-- What one wake-up of an operation finds: whether the deadline's timer fired, and the
answer to a reservation, check or dispatch, or an observation. -/
structure Wake where
  timer : Bool
  answer : Option (Except SourceError Unit)
  observation : Option (Nat × Except SourceError (Bool × Int32))

inductive Event where
  | cancel
  | expire
  | wake (wake : Wake)

def Operation.wake (operation : Operation) (wake : Wake) : Operation :=
  match operation.stage with
  | .reserving index => operation.interruptible wake.timer wake.answer (operation.reserve index)
  | .preflighting index =>
    operation.interruptible wake.timer wake.answer (operation.preflight index)
  | .rechecking index => operation.interruptible wake.timer wake.answer (operation.recheck index)
  | .rechecked index => operation.admit_ index
  | .dispatching index =>
    match wake.answer with
    | none => operation
    | some result => operation.dispatch index result
  | .observing =>
    operation.interruptible wake.timer wake.observation fun observation =>
      operation.observe observation.1 observation.2
  | .settling => operation.settle
  | .finished => operation

def Operation.apply (operation : Operation) : Event → Operation
  | .cancel => { operation.note .cancelled with cancelled := true }
  | .expire => { operation.note .expired with expired := true }
  | .wake wake => operation.wake wake

def machine : Machine Operation Event Unit where
  step operation event := ((), operation.apply event)

end FocuserGroup

end Regain.Hub
