import Regain.Hub.Source.Backend
import Regain.Lib.Machine

/-!
# Source actor

One actor owns the backend of a source. It takes one queued command or one due poll at a time.
-/

namespace Regain.Hub

open Lib
open Std (TreeMap)

/-! ## The resume clock -/

structure ResumeClock where
  epoch : Nat
  failed : Bool
  deriving DecidableEq

/-- What happens to the clock between two looks at it. -/
inductive ClockEvent where
  /-- The host notifies a resume. -/
  | notified
  /-- Somebody reads the clock pair: the reading fails, or it shows a gap. -/
  | observed (failed changed : Bool)

namespace ResumeClock

def notifyResume (clock : ResumeClock) : ResumeClock :=
  { clock with epoch := clock.epoch + 1 }

/-- `Detector::observe`; the notification that follows a change belongs to the same step. -/
def observe (clock : ResumeClock) (failed changed : Bool) : ResumeClock :=
  if failed then
    if clock.failed then clock else { clock with failed := true }.notifyResume
  else if changed || clock.failed then { clock with failed := false }.notifyResume
  else clock

def apply (clock : ResumeClock) : ClockEvent → ResumeClock
  | .notified => clock.notifyResume
  | .observed failed changed => clock.observe failed changed

def after (clock : ResumeClock) (events : List ClockEvent) : ResumeClock :=
  events.foldl apply clock

theorem apply_epoch (clock : ResumeClock) (event : ClockEvent) :
    clock.epoch < (clock.apply event).epoch ∨ clock.apply event = clock := by
  cases event with
  | notified => exact .inl (Nat.lt_succ_self _)
  | observed failed changed =>
    simp only [apply, observe]
    split
    · split
      · exact .inr rfl
      · exact .inl (Nat.lt_succ_self _)
    · split
      · exact .inl (Nat.lt_succ_self _)
      · exact .inr rfl

theorem after_epoch (clock : ResumeClock) (events : List ClockEvent) :
    clock.epoch < (clock.after events).epoch ∨ clock.after events = clock := by
  induction events generalizing clock with
  | nil => exact .inr rfl
  | cons event events ih =>
    have hstep := apply_epoch clock event
    have hrest := ih (clock.apply event)
    have hafter : clock.after (event :: events) = (clock.apply event).after events := rfl
    rw [hafter]
    rcases hstep with hlt | hsame
    · rcases hrest with hlt' | hsame'
      · exact .inl (by omega)
      · exact .inl (by rw [hsame']; exact hlt)
    · rw [hsame] at hrest ⊢
      exact hrest

end ResumeClock

def interrupted : SourceError :=
  { SourceError.new .unavailable
      "Host resumed or its sleep clock changed; the old request was discarded" with
    transportLost := true }

/-- How the wait for a request ends. -/
inductive Awaited (α : Type) where
  /-- A resume notification cancels it. -/
  | notified
  /-- Its deadline passes. -/
  | late
  | answered (result : Except SourceError α)

/-- The environment of one request to the backend. -/
structure Exchange (α : Type) where
  earlier : List ClockEvent
  ended : Awaited α
  during : List ClockEvent

/-- The request was handed to the backend, its result, and the clock as last read. -/
structure Fenced (α : Type) where
  sent : Bool
  result : Except SourceError α
  clock : ResumeClock

/-- `resume::fence` around a request with a deadline; `late` is the error of a missed deadline. -/
def fence {α : Type} (clock : ResumeClock) (epoch : Nat) (late : SourceError)
    (exchange : Exchange α) : Fenced α :=
  let entry := clock.after exchange.earlier
  if entry.epoch ≠ epoch || entry.failed then ⟨false, .error interrupted, entry⟩
  else
    let result :=
      match exchange.ended with
      | .notified => .error interrupted
      | .late => .error late
      | .answered result => result
    let exit := entry.after exchange.during
    if exit.epoch ≠ epoch || exit.failed then ⟨true, .error interrupted, exit⟩
    else ⟨true, result, exit⟩

/-! ## The actor and its world -/

structure PollPolicy where
  pollSeconds : F64
  attemptsPerCycle : UInt32
  initialBackoffSeconds : F64
  backoffMultiplier : F64
  backoffCapSeconds : F64

/-- What an actor is built with. -/
structure Setup where
  source : Uuid
  revision : Uuid
  policy : PollPolicy
  connectionAllowance : Nat
  /-- The identity derived from another one and a resume epoch. -/
  newV5 : Uuid → Nat → Uuid
  /-- The last instant that the host represents. -/
  lastInstant : Nat

/-- A dispatched write: what was asked, what the actor held then, and how it ended. -/
structure Write where
  lease : Uuid
  expectedGeneration : Option Uuid
  member : String
  parameters : Values
  leases : Finset Uuid
  controller : Option Uuid
  writeUncertain : Bool
  generation : Uuid
  ended : Awaited Unit
  /-- The resume epoch changed before the write was over. -/
  resumed : Bool

/-- What an actor does to the world, in order. -/
inductive Effect where
  | published (state : SourceSnapshot)
  /-- What a step of the connection handshake gave; a resume discards its answer. -/
  | handshake (result : Except SourceError Bool)
  | wrote (write : Write)
  /-- The backend was asked to disconnect. -/
  | disconnected
  | polled (event : PollEvent)
  | replied (result : Except SourceError Unit)

structure Actor where
  setup : Setup
  clock : ResumeClock
  state : SourceSnapshot
  leases : Finset Uuid
  controller : Option Uuid
  writeUncertain : Bool
  nextPoll : Option Nat
  attempt : Nat
  backoffFailures : Nat
  retrying : Bool
  stopped : Bool
  connectionStarted : Option Nat
  disconnectResult : Option (Except SourceError Unit)
  log : List Effect

structure ConnectIo where
  /-- The instant at which a handshake would begin, and the one at which it is measured. -/
  started : Nat
  asked : Nat
  step : Exchange Bool
  generation : Uuid

structure DisconnectIo where
  request : Exchange Unit
  generation : Uuid

/-- What a command may need of the environment. -/
structure Io where
  /-- The receiver of the reply is dropped before the command is taken. -/
  closed : Bool
  /-- It is dropped before the reply is sent. -/
  unsent : Bool
  now : Nat
  connect : ConnectIo
  request : Exchange Unit
  /-- The generation after a fault of the request. -/
  generation : Uuid
  settled : List ClockEvent
  settledAt : Nat
  disconnect : DisconnectIo
  simulation : Except SourceError Unit

structure PollIo where
  due : Nat
  /-- When the poll starts and when its answer is there, on the clock of observations. -/
  started : Nat
  received : Nat
  connect : ConnectIo
  sample : Exchange SampleBatch
  generation : Uuid
  settled : List ClockEvent
  settledAt : Nat
  /-- The jitter, between zero and one. -/
  jitter : F64

def Setup.checkedAdd (setup : Setup) (now delay : Nat) : Option Nat :=
  if now + delay ≤ setup.lastInstant then some (now + delay) else none

def connectingDelay : Nat := 100 * 1000000

def continuationDelay : Nat := 1000000

def powi (base : F64) : Nat → F64
  | 0 => 1
  | exponent + 1 => (powi base exponent).mul base

def PollPolicy.backoff (policy : PollPolicy) (failures : Nat) (jitter : F64) : Nat :=
  let exponential := policy.initialBackoffSeconds.mul
    (powi policy.backoffMultiplier (min failures 1024 - 1))
  let cap := exponential.min policy.backoffCapSeconds
  Duration.ofSecsF64 (cap.mul ((0.5 : F64).add (jitter.mul 0.5)))

def retryRank : Option Nat → Nat
  | none => 0
  | some delay => delay + 1

def longestRetry : List SourceError → Option SourceError
  | [] => none
  | error :: errors =>
    match longestRetry errors with
    | none => some error
    | some other =>
      if retryRank error.retryAfter ≤ retryRank other.retryAfter then some other else some error

def retryError : Except SourceError SampleBatch → Option SourceError
  | .error error => if error.isRetryable then some error else none
  | .ok batch => longestRetry ((mapValues batch.errors).filter SourceError.isRetryable)

namespace SourceSnapshot

def invalidateResume (state : SourceSnapshot) (newV5 : Uuid → Nat → Uuid) (epoch : Nat) :
    SourceSnapshot :=
  { state.restart (newV5 state.generation epoch) with
    resumeEpoch := epoch
    transportConnected := false
    completedPasses := 0
    error := some interrupted }

def insertSample (state : SourceSnapshot) (batch : SampleBatch) (started : Nat)
    (entry : String × Json) : SourceSnapshot :=
  { state with
    values := state.values.insert entry.1 entry.2
    sampleErrors := state.sampleErrors.erase entry.1
    sampleAges := state.sampleAges.insert entry.1 (batch.agesSeconds.getD entry.1 0)
    sampleStarted := state.sampleStarted.insert entry.1 started
    sampleSequences := state.sampleSequences.insert entry.1
      (state.sampleSequences.getD entry.1 0 + 1) }

def insertError (state : SourceSnapshot) (entry : String × SourceError) : SourceSnapshot :=
  { state with
    values := state.values.erase entry.1
    sampleStarted := state.sampleStarted.erase entry.1
    sampleAges := state.sampleAges.erase entry.1
    sampleErrors := state.sampleErrors.insert entry.1 entry.2 }

def take (state : SourceSnapshot) (batch : SampleBatch) (started : Nat) : SourceSnapshot :=
  let state := if batch.isPartial then state else state.forget
  let state := batch.values.toList.foldl (fun state => state.insertSample batch started) state
  let state := batch.errors.toList.foldl insertError state
  { state with sampledAt := some started, error := none }

end SourceSnapshot

namespace Actor

/-! ## Operations -/

def spawn (setup : Setup) (clock : ResumeClock) (generation : Uuid) (now : Nat) : Actor where
  setup := setup
  clock := clock
  state := {
    resumeEpoch := clock.epoch
    source := setup.source
    revision := setup.revision
    generation := generation
    sequence := 0
    transportConnected := false
    writeUncertain := false
    leaseCount := 0
    values := ∅
    sampleErrors := ∅
    sampleAges := ∅
    sampleStarted := ∅
    sampleSequences := ∅
    completedPasses := 0
    sampledAt := none
    error := none }
  leases := ∅
  controller := none
  writeUncertain := false
  nextPoll := some now
  attempt := 0
  backoffFailures := 0
  retrying := false
  stopped := false
  connectionStarted := none
  disconnectResult := some (.ok ())
  log := []

def emit (actor : Actor) (effect : Effect) : Actor :=
  { actor with log := actor.log ++ [effect] }

def publish (actor : Actor) : Actor :=
  let state := { actor.state with
    writeUncertain := actor.writeUncertain
    leaseCount := actor.leases.card }
  { actor with state := state }.emit (.published state)

def reply (actor : Actor) (io : Io) (result : Except SourceError Unit) : Actor :=
  if io.unsent then actor else actor.emit (.replied result)

def observe (actor : Actor) (events : List ClockEvent) : Actor :=
  { actor with clock := actor.clock.after events }

def resume (actor : Actor) (now : Nat) : Actor :=
  if actor.state.resumeEpoch = actor.clock.epoch then actor
  else
    { actor with
      state := actor.state.invalidateResume actor.setup.newV5 actor.clock.epoch
      connectionStarted := none
      attempt := 0
      nextPoll := if actor.retrying then actor.nextPoll else some now }.publish

def fault (actor : Actor) (error : SourceError) (generation : Uuid) : Actor :=
  { actor with
    connectionStarted := none
    state := { actor.state.restart generation with
      error := some error
      transportConnected := false } }.publish

def faultIfLost (actor : Actor) (error : SourceError) (generation : Uuid) : Actor :=
  if error.transportLost then actor.fault error generation else actor

def handshake (actor : Actor) (io : ConnectIo) (started : Nat) : Except SourceError Bool × Actor :=
  if actor.setup.connectionAllowance - (io.asked - started) = 0 then
    (.error .timeout, actor.emit (.handshake (.error .timeout)))
  else
    let fenced := fence actor.clock actor.state.resumeEpoch .timeout io.step
    (fenced.result, { actor with clock := fenced.clock }.emit (.handshake fenced.result))

def connected (actor : Actor) (io : ConnectIo) :
    Except SourceError Bool → Except SourceError Unit × Actor
  | .ok false =>
    let error := SourceError.new .connecting "Source connection is in progress"
    (.error error, { actor with state := { actor.state with error := some error } }.publish)
  | .ok true =>
    (.ok (), { actor with
      connectionStarted := none
      state := { actor.state.restart io.generation with
        transportConnected := true
        error := none } }.publish)
  | .error error =>
    -- a handshake may have written settings
    (.error error, { actor with
      writeUncertain := actor.writeUncertain || error.kind == ErrorKind.uncertain }.fault error
        io.generation)

def connect (actor : Actor) (io : ConnectIo) : Except SourceError Unit × Actor :=
  if actor.state.transportConnected then (.ok (), actor)
  else
    let started := actor.connectionStarted.getD io.started
    let shaken := ({ actor with connectionStarted := some started }.publish).handshake io started
    shaken.2.connected io shaken.1

def errorOf {α : Type} : Except SourceError α → Option SourceError
  | .ok _ => none
  | .error error => some error

/-- The first attempt after the last release decides; later calls repeat its result. -/
def disconnect (actor : Actor) (io : DisconnectIo) : Except SourceError Unit × Actor :=
  match actor.disconnectResult with
  | some result => (result, actor)
  | none =>
    let fenced := fence actor.clock actor.state.resumeEpoch .uncertain io.request
    let actor := if fenced.sent then actor.emit .disconnected else actor
    (fenced.result, { actor with
      clock := fenced.clock
      connectionStarted := none
      state := { actor.state.restart io.generation with
        transportConnected := false
        error := errorOf fenced.result }
      controller := none
      writeUncertain := false
      attempt := 0
      backoffFailures := 0
      retrying := false
      nextPoll := none
      disconnectResult := some fenced.result }.publish)

def authorized (actor : Actor) (lease : Uuid) (write : Bool) : Except SourceError Unit :=
  if lease ∉ actor.leases then
    .error (.new .disconnected "This client has no source connection lease")
  else if write && actor.writeUncertain then .error .uncertain
  else if write && actor.controller != some lease then
    .error (.new .busy "Acquire the source control lease before writing")
  else .ok ()

def controls (actor : Actor) (lease : Uuid) (message : String) : Except SourceError Unit :=
  match actor.authorized lease false with
  | .error error => .error error
  | .ok () => if actor.controller ≠ some lease then .error (.new .busy message) else .ok ()

def updateSimulation (actor : Actor) (lease : Uuid) (io : Io) : Actor :=
  if io.closed then actor
  else
    match actor.controls lease "Acquire source control before changing simulation" with
    | .error error => actor.reply io (.error error)
    | .ok () =>
      match io.simulation with
      | .error error => actor.reply io (.error error)
      | .ok () =>
        ({ actor with
          state := actor.state.forget
          retrying := false
          attempt := 0
          backoffFailures := 0
          nextPoll := some io.settledAt }.publish).reply io (.ok ())

def refreshable (actor : Actor) (lease : Uuid) (now : Nat) : Except SourceError Unit :=
  match actor.authorized lease false with
  | .error error => .error error
  | .ok () =>
    if actor.retrying && actor.nextPoll.all (fun deadline => decide (now < deadline)) then
      .error { SourceError.new .busy "Source is waiting before retrying" with
        retryAfter := actor.nextPoll.map fun deadline => deadline - now }
    else if !actor.state.transportConnected then
      .error (.new .disconnected "Source is disconnected")
    else .ok ()

def afterRefresh (actor : Actor) (io : Io) : Except SourceError Unit → Actor
  | .ok () => { actor with nextPoll := some io.settledAt }
  | .error error =>
    if error.kind = .busy then actor
    else
      let actor := actor.faultIfLost error io.generation
      if error.kind = .transient || error.kind = .disconnected || error.kind = .uncertain then
        { actor with
          retrying := true
          nextPoll := actor.setup.checkedAdd io.settledAt (max (error.retryAfter.getD 0)
            (Duration.ofSecsF64 actor.setup.policy.initialBackoffSeconds)) }
      else actor

def refresh (actor : Actor) (lease : Uuid) (io : Io) : Actor :=
  if io.closed then actor
  else
    match actor.refreshable lease io.now with
    | .error error => ((actor.afterRefresh io (.error error)).publish).reply io (.error error)
    | .ok () =>
      let fenced := fence actor.clock actor.state.resumeEpoch .timeout io.request
      (({ actor with clock := fenced.clock }.afterRefresh io fenced.result).publish).reply io
        fenced.result

/-- The delay of the first poll after the connection attempt of the first lease. -/
def connectionDelay (actor : Actor) (error : SourceError) : Nat :=
  if error.kind = .connecting then connectingDelay
  else
    max (error.retryAfter.getD 0) (Duration.ofSecsF64
      (if error.isRetryable then actor.setup.policy.initialBackoffSeconds
        else actor.setup.policy.backoffCapSeconds))

/-- The first lease connects the source; an offline source keeps its lease. -/
def connectFirst (actor : Actor) (io : Io) : Actor :=
  let connected := { actor with disconnectResult := none }.connect io.connect
  let actor := connected.2
  match connected.1 with
  | .ok () => { actor with nextPoll := actor.setup.checkedAdd io.settledAt 0 }
  | .error error =>
    { actor with
      retrying := true
      nextPoll := actor.setup.checkedAdd io.settledAt (actor.connectionDelay error) }

def rollback (actor : Actor) (lease : Uuid) (io : Io) : Actor :=
  let actor := { actor with leases := actor.leases.erase lease }
  if actor.leases = ∅ then (actor.disconnect io.disconnect).2 else actor.publish

def acquire (actor : Actor) (lease : Uuid) (io : Io) : Actor :=
  if io.closed then actor
  else if lease.isNil then actor.reply io (.error (.new .invalidValue "Lease ID cannot be nil"))
  else
    let inserted := decide (lease ∉ actor.leases)
    let actor := { actor with leases := insert lease actor.leases }
    let first := inserted && actor.leases.card == 1
    let actor := (if first then actor.connectFirst io else actor).publish
    if io.unsent && inserted then actor.rollback lease io else actor.reply io (.ok ())

def surrender (actor : Actor) (lease : Uuid) : Actor :=
  if actor.controller = some lease then { actor with controller := none } else actor

def release (actor : Actor) (lease : Uuid) (io : Io) : Actor :=
  let removed := decide (lease ∈ actor.leases)
  let actor := { actor with leases := actor.leases.erase lease }
  let actor := if removed && decide (actor.leases = ∅) then (actor.disconnect io.disconnect).2
    else actor
  ((actor.surrender lease).publish).reply io (.ok ())

def takeControl (actor : Actor) (lease : Uuid) (acquire : Bool) : Except SourceError Unit × Actor :=
  match actor.authorized lease false with
  | .error error => (.error error, actor)
  | .ok () =>
    if acquire then
      if actor.controller.any fun owner => owner != lease then
        (.error (.new .busy "Another client owns source control"), actor)
      else (.ok (), { actor with controller := some lease })
    else if actor.controller = some lease then (.ok (), { actor with controller := none })
    else (.ok (), actor)

def control (actor : Actor) (lease : Uuid) (acquire : Bool) (io : Io) : Actor :=
  if io.closed then actor
  else
    let taken := actor.takeControl lease acquire
    -- a cancelled claim cannot leave a client holding control
    if io.unsent && acquire && taken.2.controller = some lease then
      { taken.2 with controller := actor.controller }
    else taken.2.reply io taken.1

def request (actor : Actor) (exchange : Exchange Unit) (io : Io) : Actor :=
  let fenced := fence actor.clock actor.state.resumeEpoch .timeout exchange
  let actor := { actor with clock := fenced.clock }
  match fenced.result with
  | .ok () => actor.reply io (.ok ())
  | .error error => (actor.faultIfLost error io.generation).reply io (.error error)

def cameraImage (actor : Actor) (lease expectedGeneration : Uuid) (io : Io) : Actor :=
  if io.closed then actor
  else
    match actor.controls lease "Acquire source control before downloading a camera image" with
    | .error error => actor.reply io (.error error)
    | .ok () =>
      let connection := actor.connect io.connect
      match connection.1 with
      | .error error => connection.2.reply io (.error error)
      | .ok () =>
        if expectedGeneration ≠ connection.2.state.generation then
          connection.2.reply io
            (.error (.new .unavailable "Source generation changed before image dispatch"))
        else connection.2.request io.request io

def superseded (actor : Actor) (expectedGeneration : Option Uuid) : Bool :=
  expectedGeneration.any fun generation => generation != actor.state.generation

def read (actor : Actor) (lease : Uuid) (expectedGeneration : Option Uuid) (io : Io) : Actor :=
  if io.closed then actor
  else
    match actor.authorized lease false with
    | .error error => actor.reply io (.error error)
    | .ok () =>
      let connection := actor.connect io.connect
      match connection.1 with
      | .error error => connection.2.reply io (.error error)
      | .ok () =>
        if connection.2.superseded expectedGeneration then
          connection.2.reply io
            (.error (.new .unavailable "Source generation changed before dispatch"))
        else connection.2.request io.request io

def settleWrite (actor : Actor) (io : Io) : Except SourceError Unit → Actor
  | .error error =>
    if error.leavesWriteOpen then
      let error := { error with kind := .uncertain, message := SourceError.uncertain.message }
      ({ actor with writeUncertain := true }.fault error io.generation).reply io (.error error)
    else (actor.faultIfLost error io.generation).reply io (.error error)
  | .ok () =>
    -- the cached state may be old now
    ({ actor with
      state := actor.state.forget
      nextPoll := if actor.retrying then actor.nextPoll else some io.settledAt }.publish).reply io
        (.ok ())

def dispatchWrite (actor : Actor) (lease : Uuid) (expectedGeneration : Option Uuid)
    (member : String) (parameters : Values) (io : Io) : Actor :=
  let fenced := fence actor.clock actor.state.resumeEpoch .uncertain io.request
  let clock := fenced.clock.after io.settled
  let resumed := decide (clock.epoch ≠ actor.state.resumeEpoch)
  let actor := { actor with clock := clock }
  let actor := if fenced.sent then actor.emit (.wrote {
      lease := lease
      expectedGeneration := expectedGeneration
      member := member
      parameters := parameters
      leases := actor.leases
      controller := actor.controller
      writeUncertain := actor.writeUncertain
      generation := actor.state.generation
      ended := io.request.ended
      resumed := resumed })
    else actor
  actor.settleWrite io (if resumed then .error .uncertain else fenced.result)

def write (actor : Actor) (lease : Uuid) (expectedGeneration : Option Uuid) (member : String)
    (parameters : Values) (io : Io) : Actor :=
  if io.closed then actor
  else
    match actor.authorized lease true with
    | .error error => actor.reply io (.error error)
    | .ok () =>
      let connection := actor.connect io.connect
      match connection.1 with
      | .error error => connection.2.reply io (.error error)
      | .ok () =>
        if connection.2.superseded expectedGeneration then
          connection.2.reply io
            (.error (.new .unavailable "Source generation changed before dispatch"))
        else connection.2.dispatchWrite lease expectedGeneration member parameters io

end Actor

/-! ## The loop -/

inductive Command where
  | cameraImage (lease expectedGeneration : Uuid)
  | updateSimulation (lease : Uuid)
  | refresh (lease : Uuid)
  | acquire (lease : Uuid)
  | release (lease : Uuid)
  | control (lease : Uuid) (claims : Bool)
  | read (lease : Uuid) (expectedGeneration : Option Uuid)
  | write (lease : Uuid) (expectedGeneration : Option Uuid) (member : String) (parameters : Values)

def Command.isCleanup : Command → Bool
  | release _ => true
  | control _ claims => !claims
  | cameraImage _ _ => false
  | updateSimulation _ => false
  | refresh _ => false
  | acquire _ => false
  | read _ _ => false
  | write _ _ _ _ => false

structure QueuedCommand where
  epoch : Nat
  command : Command

namespace Actor

def command (actor : Actor) (command : Command) (io : Io) : Actor :=
  match command with
  | .cameraImage lease expectedGeneration => actor.cameraImage lease expectedGeneration io
  | .updateSimulation lease => actor.updateSimulation lease io
  | .refresh lease => actor.refresh lease io
  | .acquire lease => actor.acquire lease io
  | .release lease => actor.release lease io
  | .control lease claims => actor.control lease claims io
  | .read lease expectedGeneration => actor.read lease expectedGeneration io
  | .write lease expectedGeneration member parameters =>
    actor.write lease expectedGeneration member parameters io

/-- A command that was queued before a resume must be asked anew, unless it cleans up. -/
def queued (actor : Actor) (queued : QueuedCommand) (io : Io) : Actor :=
  if queued.epoch ≠ actor.state.resumeEpoch && !queued.command.isCleanup then
    if io.closed then actor else actor.reply io (.error interrupted)
  else actor.command queued.command io

/-- The request of a poll, and its answer once it passed the bounds of the cache. -/
def sample (actor : Actor) (io : PollIo) : Except SourceError SampleBatch × Actor :=
  let fenced := fence actor.clock actor.state.resumeEpoch .timeout io.sample
  let actor := { actor with clock := fenced.clock }
  (fenced.result.bind fun batch => (validateBatch actor.state batch).map fun _ => batch, actor)

def pollDelay (actor : Actor) (io : PollIo) (result : Except SourceError SampleBatch)
    (exhausted : Bool) : Nat :=
  let policy := actor.setup.policy
  match retryError result with
  | some error =>
    let delay := max (error.retryAfter.getD 0) (policy.backoff actor.backoffFailures io.jitter)
    if exhausted then max delay (Duration.ofSecsF64 policy.pollSeconds) else delay
  | none =>
    match result with
    | .error _ => Duration.ofSecsF64 policy.backoffCapSeconds
    | .ok batch =>
      if batch.more then continuationDelay else Duration.ofSecsF64 policy.pollSeconds

/-- The start that the event of a poll reports: a delegated observation is never newer. -/
def eventStarted (io : PollIo) : Except SourceError SampleBatch → Nat
  | .error _ => io.started
  | .ok batch => batch.safetyObservedAt.elim io.started fun at_ => min at_ io.started

def finishPoll (actor : Actor) (io : PollIo) (sampled : Bool)
    (result : Except SourceError SampleBatch) : Actor :=
  let retryable := (retryError result).isSome
  let more := match result with | .ok batch => batch.more | .error _ => false
  let exhausted := !retryable || decide (actor.setup.policy.attemptsPerCycle.toNat ≤ actor.attempt)
  let actor :=
    match result with
    | .error error => if sampled then actor.faultIfLost error io.generation else actor
    | .ok _ => actor
  let actor := { actor with state := { actor.state with sequence := actor.state.sequence + 1 } }
  let event : PollEvent := {
    source := actor.state.source
    revision := actor.state.revision
    generation := actor.state.generation
    sequence := actor.state.sequence
    started := eventStarted io result
    received := io.received
    result := result.map (·.values)
    cycleExhausted := exhausted }
  let actor :=
    match result with
    | .ok batch =>
      { actor with
        state := actor.state.take batch io.started
        backoffFailures := if retryable then actor.backoffFailures else 0 }
    | .error error => { actor with state := { actor.state with error := some error } }
  let actor := { actor with
    state := { actor.state with
      completedPasses :=
        if !more && exhausted then actor.state.completedPasses + 1
        else actor.state.completedPasses }
    retrying := retryable || (errorOf result).isSome
    backoffFailures :=
      if retryable then saturatingIncrement actor.backoffFailures else actor.backoffFailures }
  let delay := actor.pollDelay io result exhausted
  ({ actor with
    attempt := if exhausted then 0 else actor.attempt
    nextPoll := actor.setup.checkedAdd io.settledAt delay }.publish).emit (.polled event)

def pollConnected (actor : Actor) (io : PollIo) (connection : Except SourceError Unit) : Actor :=
  let actor := { actor with attempt := actor.attempt + 1 }
  let sampled : Except SourceError SampleBatch × Actor :=
    match connection with
    | .error error => (.error error, actor)
    | .ok () => actor.publish.sample io
  let actor := sampled.2.observe io.settled
  if actor.clock.epoch ≠ actor.state.resumeEpoch then actor.resume io.settledAt
  else actor.finishPoll io (errorOf connection).isNone sampled.1

def poll (actor : Actor) (io : PollIo) : Actor :=
  let connection := actor.connect io.connect
  let connecting := (errorOf connection.1).any fun error => error.kind == .connecting
  if connecting then
    { connection.2 with nextPoll := some (io.settledAt + connectingDelay) }.publish
  else connection.2.pollConnected io connection.1

/-- The end of the actor: commands are closed and the backend is asked to retire. -/
def shutdown (actor : Actor) (io : DisconnectIo) (drained : Except SourceError Unit) : Actor :=
  let disconnected := { actor with leases := ∅ }.disconnect io
  let result := disconnected.1.bind fun _ => drained
  { disconnected.2 with
    state := { disconnected.2.state with error := some ((errorOf result).getD .closed) }
    stopped := true }.publish

def isDue (actor : Actor) (now : Nat) : Bool :=
  decide (actor.leases ≠ ∅) && actor.nextPoll.any fun deadline => decide (deadline ≤ now)

/-- One turn of the actor's loop; every turn begins with a look at the resume epoch. -/
inductive Op where
  | woken (events : List ClockEvent) (now : Nat)
  | poll (events : List ClockEvent) (now : Nat) (io : PollIo)
  | command (events : List ClockEvent) (now : Nat) (received : List ClockEvent) (receivedAt : Nat)
      (queued : QueuedCommand) (io : Io)
  | shutdown (events : List ClockEvent) (now : Nat) (io : DisconnectIo)
      (drained : Except SourceError Unit)

def look (actor : Actor) (events : List ClockEvent) (now : Nat) : Actor :=
  (actor.observe events).resume now

def turn (actor : Actor) : Op → Actor
  | .woken events now => actor.look events now
  | .poll events now io =>
    let actor := actor.look events now
    if actor.isDue io.due then actor.poll io else actor
  | .command events now received receivedAt queued io =>
    ((actor.look events now).look received receivedAt).queued queued io
  | .shutdown events now io drained => (actor.look events now).shutdown io drained

def machine : Machine Actor Op (List Effect) where
  step actor op :=
    if actor.stopped then ([], actor)
    else
      let actor := { actor with log := [] }.turn op
      (actor.log, actor)

end Actor

end Regain.Hub
