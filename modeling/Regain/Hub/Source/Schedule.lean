import Regain.Hub.Source.Backend
import Regain.Lib.Monitor

/-!
# The polling schedule of a source

What the source actor makes of its leases, its polls and its commands when it decides on the next
poll. Seconds are exact, the clock's readings are part of the turns.
-/

namespace Regain.Hub.Schedule

open Lib

/-- A polling policy that passed `PollPolicy::validate_timing`. -/
structure Policy where
  pollSeconds : ℚ
  attemptsPerCycle : Nat
  initialBackoffSeconds : ℚ
  backoffMultiplier : ℚ
  backoffCapSeconds : ℚ
  poll_range : 1 / 10 ≤ pollSeconds ∧ pollSeconds ≤ 3600
  attempts_range : 1 ≤ attemptsPerCycle ∧ attemptsPerCycle ≤ 10
  initial_range : 1 / 20 ≤ initialBackoffSeconds ∧ initialBackoffSeconds ≤ 300
  multiplier_range : 1 ≤ backoffMultiplier ∧ backoffMultiplier ≤ 10
  cap_range : 1 / 20 ≤ backoffCapSeconds ∧ backoffCapSeconds ≤ 3600
  initial_le_cap : initialBackoffSeconds ≤ backoffCapSeconds

/-- The part of a `SourceError` that the schedule depends on. -/
structure Failure where
  kind : ErrorKind
  retryAfter : Option ℚ
  transportLost : Bool

namespace Failure

def new (kind : ErrorKind) : Failure :=
  ⟨kind, none, false⟩

def isRetryable (failure : Failure) : Bool :=
  failure.kind == .transient || failure.kind == .disconnected

/-- Whether the first asks for no longer pause than the second; no pause comes first. -/
def noLonger (first second : Failure) : Bool :=
  first.retryAfter.all fun pause => second.retryAfter.any fun other => decide (pause ≤ other)

end Failure

/-- The part of a `SampleBatch` that the schedule depends on. -/
structure Batch where
  errors : List Failure
  more : Bool

abbrev Sampled := Except Failure Batch

def longest : List Failure → Option Failure
  | [] => none
  | failure :: failures =>
    match longest failures with
    | none => some failure
    | some other => if failure.noLonger other then some other else some failure

def retryable : Sampled → List Failure
  | .error failure => [failure].filter Failure.isRetryable
  | .ok batch => batch.errors.filter Failure.isRetryable

def fromSecs (seconds : ℚ) : Option ℚ :=
  if 0 ≤ seconds ∧ seconds < 18446744073709551616 then some seconds else none

/-- The clock of the host; it can represent instants up to the last one. -/
structure Host where
  last : ℚ

/-- A reading of the clock.  No host runs into its last tenth of a second. -/
structure Instant (host : Host) where
  seconds : ℚ
  room : seconds + 1 / 10 ≤ host.last

def Host.add (host : Host) (seconds delay : ℚ) : Option ℚ :=
  if seconds + delay ≤ host.last then some (seconds + delay) else none

def Host.checkedAdd (host : Host) (seconds delay : ℚ) : Option ℚ :=
  if seconds + delay ≤ host.last then some (seconds + delay) else none

structure Timer where
  attempt : Nat
  backoffFailures : Nat
  retrying : Bool
  nextPoll : Option ℚ

structure Session where
  leases : Finset Uuid
  controller : Option Uuid
  writeUncertain : Bool
  transportConnected : Bool
  /-- The last cleanup is over: `disconnect_result` is kept. -/
  cleaned : Bool
  stopped : Bool

/-- The published end of a poll. -/
structure Polled where
  result : Sampled
  cycleExhausted : Bool
  /-- The instant from which the delay of the next poll counts. -/
  settled : ℚ

inductive Event where
  /-- The first lease. -/
  | acquired
  /-- The last lease is gone. -/
  | released
  | resumed
  /-- A client that holds no lease asked for a refresh. -/
  | stray
  | started (seconds : ℚ)
  | attempted (number : Nat)
  | polled (poll : Polled)

structure State (host : Host) where
  now : Instant host
  timer : Timer
  session : Session
  log : List Event

/-- What a command that asks the backend may need of the environment. -/
structure CallIo (host : Host) where
  /-- The receiver of the reply is dropped before the command is taken. -/
  closed : Bool
  /-- The next step of a handshake. -/
  step : Except Failure Bool
  /-- The source is no longer of the expected generation. -/
  outdated : Bool
  result : Except Failure Unit
  now : Instant host

structure RefreshIo (host : Host) where
  closed : Bool
  asked : Instant host
  result : Except Failure Unit
  now : Instant host

structure AcquireIo (host : Host) where
  closed : Bool
  unsent : Bool
  step : Except Failure Bool
  now : Instant host

structure PollIo (host : Host) where
  started : Instant host
  step : Except Failure Bool
  sample : Sampled
  /-- The host slept during the poll. -/
  resumed : Bool
  settled : Instant host
  /-- The random bits of the jitter. -/
  jitter : UInt64

inductive Command (host : Host) where
  | acquire (lease : Uuid) (io : AcquireIo host)
  | release (lease : Uuid)
  | control (lease : Uuid) (claim closed unsent : Bool)
  | refresh (lease : Uuid) (io : RefreshIo host)
  | read (lease : Uuid) (io : CallIo host)
  | cameraImage (lease : Uuid) (io : CallIo host)
  | write (lease : Uuid) (io : CallIo host)

inductive Turn (host : Host) where
  | resume (now : Instant host)
  | poll (io : PollIo host)
  /-- A queued command; it may be from before a resume. -/
  | command (stale : Bool) (command : Command host)
  | shutdown

def Command.isCleanup {host : Host} : Command host → Bool
  | .release _ => true
  | .control _ claim _ _ => !claim
  | _ => false

namespace State

variable {host : Host}

def new (now : Instant host) : State host where
  now := now
  timer := {
    attempt := 0
    backoffFailures := 0
    retrying := false
    nextPoll := some now.seconds }
  session := {
    leases := ∅
    controller := none
    writeUncertain := false
    transportConnected := false
    cleaned := true
    stopped := false }
  log := []

def read (state : State host) (reading : Instant host) : State host :=
  if state.now.seconds ≤ reading.seconds then { state with now := reading } else state

def emit (state : State host) (event : Event) : State host :=
  { state with log := state.log ++ [event] }

def setTimer (state : State host) (timer : Timer) : State host :=
  { state with timer := timer }

def setSession (state : State host) (session : Session) : State host :=
  { state with session := session }

def pollAfter (state : State host) (delay : ℚ) : State host :=
  state.setTimer { state.timer with nextPoll := host.checkedAdd state.now.seconds delay }

def pollNow (state : State host) : State host :=
  state.setTimer { state.timer with nextPoll := some state.now.seconds }

/-- Leases, command ownership and an existing retry deadline survive a resume. -/
def resume (state : State host) (now : Instant host) : State host :=
  let state := (state.read now).emit .resumed
  let state := state.setSession { state.session with transportConnected := false }
  let state := state.setTimer { state.timer with attempt := 0 }
  if state.timer.retrying then state else state.pollNow

def fault (state : State host) : State host :=
  state.setSession { state.session with transportConnected := false }

def faultIfLost (state : State host) (failure : Failure) : State host :=
  if failure.transportLost then state.fault else state

def connect (state : State host) (step : Except Failure Bool) :
    Except Failure Unit × State host :=
  if state.session.transportConnected then (.ok (), state)
  else
    match step with
    | .ok false => (.error (.new .connecting), state)
    | .ok true => (.ok (), state.setSession { state.session with transportConnected := true })
    | .error failure =>
      -- a handshake may have written settings
      (.error failure, state.setSession { state.session with
        transportConnected := false
        writeUncertain := state.session.writeUncertain || failure.kind == .uncertain })

def disconnect (state : State host) : State host :=
  if state.session.cleaned then state
  else
    let state := state.emit .released
    let state := state.setSession { state.session with
      controller := none
      writeUncertain := false
      transportConnected := false
      cleaned := true }
    state.setTimer { attempt := 0, backoffFailures := 0, retrying := false, nextPoll := none }

/-- The delay of the first poll after the connection attempt of the first lease. -/
def connectionDelay (policy : Policy) (failure : Failure) : Option ℚ :=
  if failure.kind = .connecting then some (1 / 10)
  else do
    let backoff ← fromSecs
      (if failure.isRetryable then policy.initialBackoffSeconds else policy.backoffCapSeconds)
    return max (failure.retryAfter.getD 0) backoff

def pollOpened (policy : Policy) (state : State host) (io : AcquireIo host) :
    Except Failure Unit → Option (State host)
  | .ok () => some ((state.read io.now).pollAfter 0)
  | .error failure => do
    let delay ← connectionDelay policy failure
    let state := state.setTimer { state.timer with retrying := true }
    return (state.read io.now).pollAfter delay

def acquireFirst (policy : Policy) (state : State host) (io : AcquireIo host) :
    Option (State host) :=
  let state := state.emit .acquired
  let shaken := (state.setSession { state.session with cleaned := false }).connect io.step
  shaken.2.pollOpened policy io shaken.1

def remove (state : State host) (lease : Uuid) : State host :=
  if lease ∈ state.session.leases then
    let leases := state.session.leases.erase lease
    let state := state.setSession { state.session with leases := leases }
    if leases = ∅ then state.disconnect else state
  else state

def hold (policy : Policy) (state : State host) (lease : Uuid) (io : AcquireIo host) :
    Option (State host) :=
  let leases := insert lease state.session.leases
  let held := state.setSession { state.session with leases := leases }
  if lease ∉ state.session.leases ∧ leases.card = 1 then held.acquireFirst policy io
  else some held

def acquire (policy : Policy) (state : State host) (lease : Uuid) (io : AcquireIo host) :
    Option (State host) := do
  if io.closed || lease == 0 then return state
  let held ← state.hold policy lease io
  -- the receiver of a new lease is gone
  return if io.unsent && decide (lease ∉ state.session.leases) then held.remove lease else held

def release (state : State host) (lease : Uuid) : State host :=
  let state := state.remove lease
  if state.session.controller = some lease then
    state.setSession { state.session with controller := none }
  else state

def control (state : State host) (lease : Uuid) (claim closed unsent : Bool) : State host :=
  if closed || decide (lease ∉ state.session.leases) then state
  else if claim then
    -- a claim whose receiver is gone is taken back
    if unsent || state.session.controller.any (· != lease) then state
    else state.setSession { state.session with controller := some lease }
  else if state.session.controller = some lease then
    state.setSession { state.session with controller := none }
  else state

def refreshable (state : State host) (lease : Uuid) : Except Failure Unit :=
  if lease ∉ state.session.leases then .error (.new .disconnected)
  else if state.timer.retrying
      && state.timer.nextPoll.all (fun deadline => decide (state.now.seconds < deadline)) then
    .error { Failure.new .busy with
      retryAfter := state.timer.nextPoll.map fun deadline => deadline - state.now.seconds }
  else if !state.session.transportConnected then .error (.new .disconnected)
  else .ok ()

def afterRefresh (policy : Policy) (state : State host) :
    Except Failure Unit → Option (State host)
  | .ok () => some state.pollNow
  | .error failure =>
    if failure.kind = .busy then some state
    else
      let state := state.faultIfLost failure
      if failure.isRetryable || failure.kind == .uncertain then do
        let backoff ← fromSecs policy.initialBackoffSeconds
        let state := state.setTimer { state.timer with retrying := true }
        return state.pollAfter (max (failure.retryAfter.getD 0) backoff)
      else some state

def refresh (policy : Policy) (state : State host) (lease : Uuid) (io : RefreshIo host) :
    Option (State host) :=
  if io.closed then some state
  else
    let state := state.read io.asked
    let state := if lease ∈ state.session.leases then state else state.emit .stray
    match state.refreshable lease with
    | .error failure => (state.read io.now).afterRefresh policy (.error failure)
    | .ok () => (state.read io.now).afterRefresh policy io.result

def dispatch (state : State host) (admitted : Bool) (io : CallIo host) : Bool × State host :=
  if !admitted then (false, state)
  else
    match state.connect io.step with
    | (.error _, state) => (false, state)
    | (.ok (), state) => (!io.outdated, state)

def request (state : State host) (admitted : Bool) (io : CallIo host) : State host :=
  if io.closed then state
  else
    match state.dispatch admitted io, io.result with
    | (true, state), .error failure => state.faultIfLost failure
    | (_, state), _ => state

def authorized (state : State host) (lease : Uuid) : Bool :=
  decide (lease ∈ state.session.leases)

def write (state : State host) (lease : Uuid) (io : CallIo host) : State host :=
  if io.closed then state
  else
    let admitted := state.authorized lease && !state.session.writeUncertain
      && decide (state.session.controller = some lease)
    match state.dispatch admitted io, io.result with
    | (true, state), .error failure =>
      if failure.kind = .transient || failure.kind = .uncertain then
        state.setSession { state.session with
          writeUncertain := true
          transportConnected := false }
      else state.faultIfLost failure
    | (true, state), .ok () =>
      -- the new state of the device is confirmed by a poll
      let state := state.read io.now
      if state.timer.retrying then state else state.pollNow
    | (false, state), _ => state

def command (policy : Policy) (state : State host) : Command host → Option (State host)
  | .acquire lease io => state.acquire policy lease io
  | .release lease => some (state.release lease)
  | .control lease claim closed unsent => some (state.control lease claim closed unsent)
  | .refresh lease io => state.refresh policy lease io
  | .read lease io => some (state.request (state.authorized lease) io)
  | .cameraImage lease io =>
    some (state.request
      (state.authorized lease && decide (state.session.controller = some lease)) io)
  | .write lease io => some (state.write lease io)

def isOk : Sampled → Bool
  | .ok _ => true
  | .error _ => false

def capped (policy : Policy) (failures : Nat) : ℚ :=
  min (policy.initialBackoffSeconds * policy.backoffMultiplier ^ (failures - 1))
    policy.backoffCapSeconds

def backoff (policy : Policy) (failures : Nat) (jitter : UInt64) : Option ℚ :=
  let unit : ℚ := jitter.toNat / 18446744073709551615
  fromSecs (capped policy (min failures 1024) * (1 / 2 + unit * (1 / 2)))

def retryDelay (policy : Policy) (failures : Nat) (failure : Failure) (jitter : UInt64)
    (exhausted : Bool) : Option ℚ := do
  let backoff ← backoff policy failures jitter
  let delay := max (failure.retryAfter.getD 0) backoff
  if exhausted then
    let pause ← fromSecs policy.pollSeconds
    return max delay pause
  else return delay

def pollDelay (policy : Policy) (failures : Nat) (result : Sampled) (jitter : UInt64)
    (exhausted : Bool) : Option ℚ :=
  match longest (retryable result), result with
  | some failure, _ => retryDelay policy failures failure jitter exhausted
  | none, .error _ => fromSecs policy.backoffCapSeconds
  | none, .ok batch => if batch.more then some (1 / 1000) else fromSecs policy.pollSeconds

def countFailures (failures : Nat) (result : Sampled) : Nat :=
  if (longest (retryable result)).isSome then min (failures + 1) 4294967295
  else if isOk result then 0
  else failures

def settle (policy : Policy) (state : State host) (result : Sampled) (io : PollIo host) :
    Option (State host) := do
  let again := (longest (retryable result)).isSome
  let exhausted := !again || decide (policy.attemptsPerCycle ≤ state.timer.attempt)
  let failures := countFailures state.timer.backoffFailures result
  let delay ← pollDelay policy failures result io.jitter exhausted
  let state := state.setTimer {
    attempt := if exhausted then 0 else state.timer.attempt
    backoffFailures := failures
    retrying := again || !isOk result
    nextPoll := state.timer.nextPoll }
  let state := (state.read io.settled).pollAfter delay
  return state.emit (.polled ⟨result, exhausted, state.now.seconds⟩)

def attemptPoll (policy : Policy) (state : State host) (connection : Except Failure Unit)
    (io : PollIo host) : Option (State host) :=
  let number := state.timer.attempt + 1
  let state := (state.setTimer { state.timer with attempt := number }).emit (.attempted number)
  match connection with
  | .error failure =>
    if io.resumed then some (state.resume io.settled)
    else state.settle policy (.error failure) io
  | .ok () =>
    if io.resumed then some (state.resume io.settled)
    else
      let state := match io.sample with
        | .error failure => state.faultIfLost failure
        | .ok _ => state
      state.settle policy io.sample io

def poll (policy : Policy) (state : State host) (io : PollIo host) : Option (State host) :=
  let state := state.emit (.started state.now.seconds)
  match state.connect io.step with
  | (.error failure, state) =>
    if failure.kind = .connecting then do
      let state := state.read io.settled
      let next ← host.add state.now.seconds (1 / 10)
      return state.setTimer { state.timer with nextPoll := some next }
    else state.attemptPoll policy (.error failure) io
  | (.ok (), state) => state.attemptPoll policy (.ok ()) io

def pollIfDue (policy : Policy) (state : State host) (io : PollIo host) : Option (State host) :=
  if state.session.leases = ∅ then some state
  else
    match state.timer.nextPoll with
    | none => some state
    | some due =>
      let state := state.read io.started
      if due ≤ state.now.seconds then state.poll policy io else some state

def shutdown (state : State host) : State host :=
  let state := (state.setSession { state.session with leases := ∅ }).disconnect
  state.setSession { state.session with stopped := true }

def turn (policy : Policy) (state : State host) (turn : Turn host) : Option (State host) :=
  if state.session.stopped then some state
  else
    match turn with
    | .resume now => some (state.resume now)
    | .poll io => state.pollIfDue policy io
    | .command stale command =>
      if stale && !command.isCleanup then some state else state.command policy command
    | .shutdown => some state.shutdown

def run (policy : Policy) (now : Instant host) (turns : List (Turn host)) :
    Option (State host) :=
  turns.foldlM (turn policy) (new now)

end State

/-- What an observer of the events makes of them. -/
structure View where
  /-- The retryable polls since the last exhausted one, the first lease or a resume. -/
  attempts : Nat
  /-- The retryable polls in a row. -/
  failures : Nat
  /-- The instants that polls have to wait for. -/
  bounds : List ℚ

def halfBackoff (policy : Policy) (failures : Nat) : ℚ :=
  1 / 2 * State.capped policy failures

def pauses (result : Sampled) : List ℚ :=
  (retryable result).filterMap Failure.retryAfter

/-- The instants before which no poll starts after a retryable one, the last of `failures`. -/
def Polled.bounds (policy : Policy) (counted : Nat → Nat) (failures : Nat) (poll : Polled) :
    List ℚ :=
  ((pauses poll.result ++ [halfBackoff policy (counted failures)])
    ++ if poll.cycleExhausted then [policy.pollSeconds] else []).map (poll.settled + ·)

def View.observe (policy : Policy) (counted : Nat → Nat) (view : View) : Event → View
  | .acquired => { view with attempts := 0 }
  | .resumed => { view with attempts := 0 }
  | .released => { view with failures := 0, bounds := [] }
  | .stray => { view with bounds := [] }
  | .started _ | .attempted _ => view
  | .polled poll =>
    if retryable poll.result = [] then { view with attempts := 0, failures := 0 }
    else {
      attempts := if poll.cycleExhausted then 0 else view.attempts + 1
      failures := view.failures + 1
      bounds := view.bounds ++ poll.bounds policy counted (view.failures + 1) }

def View.Allows (policy : Policy) (view : View) : Event → Prop
  | .started seconds => ∀ bound ∈ view.bounds, bound ≤ seconds
  | .attempted number => number ≤ policy.attemptsPerCycle
  | .polled poll => poll.cycleExhausted = true
      ↔ retryable poll.result = [] ∨ view.attempts + 1 = policy.attemptsPerCycle
  | _ => True

/-- The promises of the schedule.  A backoff counts some of the failures in a row. -/
def pacing (policy : Policy) (counted : Nat → Nat) : Monitor View Event where
  observe := View.observe policy counted
  Allows := View.Allows policy

def fresh : View :=
  ⟨0, 0, []⟩

end Regain.Hub.Schedule
