import Regain.Lib.Json
import Regain.Lib.Machine
import Regain.Lib.Routine

/-!
# Continuous acquisition

The owner thread of a camera worker drains frames into a latest-only slot. An I/O thread answers
status and frame requests from a published copy of the state, so that a client never waits for the
camera.
-/

namespace Regain.Core.Continuous

open Lib

/-- What the owner asks of the camera and the host. -/
structure Backend (World E : Type) where
  command : String → Json → World → Except E (Json × List UInt8) × World
  /-- The nanoseconds until the next clock reading. -/
  elapse : World → Nat × World
  /-- Milliseconds since the epoch, zero if the clock is before it. -/
  unixMilliseconds : World → Nat × World
  /-- An error made from its text. -/
  plain : String → E
  /-- The text of an error with its whole chain. -/
  message : E → String
  /-- The details that a reply carries about an error. -/
  errorFields : E → Json
  /-- The text of a JSON value. -/
  text : Json → String

/-- When an exposure began, as far as the host can tell. -/
structure ExposureTiming where
  receivedUnixMilliseconds : Nat
  estimatedStartUnixMilliseconds : Nat
  freshnessMarginMilliseconds : Nat

def nanosPerMilli : Nat := 1000000

def exposureTiming (receivedMs exposureUs : Nat) (rawInterval : Option Nat) (settled : Bool) :
    Option ExposureTiming :=
  if !settled || exposureUs = 0 || receivedMs = 0 then none
  else
    let exposureMs := (exposureUs + 999) / 1000
    let margin := match rawInterval with
      | none => 0
      | some interval => min (interval / nanosPerMilli) (2 ^ 64 - 2) + 1
    some {
      receivedUnixMilliseconds := receivedMs
      estimatedStartUnixMilliseconds := receivedMs - exposureMs
      freshnessMarginMilliseconds := max exposureMs margin }

/-- A downloaded frame: the metadata of the backend, and the fields that the owner sets in it. -/
structure Frame where
  metadata : Json.Fields
  pixels : List UInt8
  acquisitionSequence : Nat
  settingsGeneration : Nat
  settingsSettled : Bool
  exposureTiming : Option ExposureTiming
  rawSequence : Nat
  rawFrameIntervalMilliseconds : Option Nat

structure StreamStatus where
  active : Bool
  ready : Bool
  error : Option String
  errorDetails : Json
  acquiredFrames : Nat
  deliveredFrames : Nat
  replacedFrames : Nat
  mode : Option Json
  rawFrames : Nat
  transitionFrames : Nat
  lastRawFrameAgeMilliseconds : Option Nat
  rawFrameIntervalMilliseconds : Option Nat
  stopping : Bool
  settingsGeneration : Nat
  settingsPending : Bool
  settling : Bool
  lastFrameAgeMilliseconds : Option Nat
  exposureMicroseconds : Option Json

/-- A successful reply. -/
inductive Answer where
  /-- The status itself. -/
  | status (status : StreamStatus)
  /-- The status under the key of the continuous mode, without a frame. -/
  | continuous (status : StreamStatus)
  /-- A frame with the status in its metadata. -/
  | frame (frame : Frame) (status : StreamStatus)
  | backend (value : Json) (pixels : List UInt8)

structure Stream where
  params : Option Json
  requested : Option Json
  settlingUntil : Option Nat
  discardFrames : Nat
  deliverTransitions : Bool
  rawFrames : Nat
  transitionFrames : Nat
  lastRawAt : Option Nat
  rawInterval : Option Nat
  latest : Option Frame
  failure : Option String
  failureDetails : Json
  interval : Nat
  deliveredAt : Option Nat
  acquired : Nat
  delivered : Nat
  replaced : Nat
  camera : Json
  stopping : Bool
  generation : Nat
  lastFrameAt : Option Nat

namespace Stream

def default : Stream where
  params := none
  requested := none
  settlingUntil := none
  discardFrames := 0
  deliverTransitions := false
  rawFrames := 0
  transitionFrames := 0
  lastRawAt := none
  rawInterval := none
  latest := none
  failure := none
  failureDetails := .null
  interval := 0
  deliveredAt := none
  acquired := 0
  delivered := 0
  replaced := 0
  camera := .null
  stopping := false
  generation := 0
  lastFrameAt := none

def ageMilliseconds (now since : Nat) : Nat :=
  (now - since) / nanosPerMilli

def ready (stream : Stream) (now : Nat) : Bool :=
  stream.failure.isNone && stream.latest.isSome
    && stream.deliveredAt.all fun delivered => decide (stream.interval ≤ now - delivered)

def status (stream : Stream) (now : Nat) : StreamStatus where
  active := stream.params.isSome
  ready := stream.ready now
  error := stream.failure
  errorDetails := stream.failureDetails
  acquiredFrames := stream.acquired
  deliveredFrames := stream.delivered
  replacedFrames := stream.replaced
  mode := stream.params.map fun params => params.field "mode"
  rawFrames := stream.rawFrames
  transitionFrames := stream.transitionFrames
  lastRawFrameAgeMilliseconds := stream.lastRawAt.map (ageMilliseconds now)
  rawFrameIntervalMilliseconds := stream.rawInterval.map (· / nanosPerMilli)
  stopping := stream.stopping
  settingsGeneration := stream.generation
  settingsPending := stream.requested.isSome
  settling := decide (0 < stream.discardFrames)
    || stream.settlingUntil.any fun until' => decide (now < until')
  lastFrameAgeMilliseconds := stream.lastFrameAt.map (ageMilliseconds now)
  exposureMicroseconds := stream.params.map fun params => params.field "microseconds"

def stopped (stream : Stream) : Stream :=
  { stream with
    params := none
    requested := none
    settlingUntil := none
    discardFrames := 0
    latest := none
    deliveredAt := none
    failure := none
    failureDetails := .null
    stopping := false }

def started (stream : Stream) (params : Json) : Stream :=
  { stream with
    params := some params
    acquired := 0
    delivered := 0
    replaced := 0
    rawFrames := 0
    transitionFrames := 0
    lastRawAt := none
    rawInterval := none
    generation := stream.generation + 1
    lastFrameAt := none }

end Stream

/-- The owner thread: its stream, the clock and the world. -/
structure Owner (World : Type) where
  stream : Stream
  clock : Nat
  world : World

abbrev OwnerRoutine (World E α : Type) : Type :=
  Routine (Owner World) E α

namespace Owner

variable {World E : Type} (backend : Backend World E)

def update (f : Stream → Stream) : OwnerRoutine World E Unit :=
  Routine.modify fun owner => { owner with stream := f owner.stream }

def read : OwnerRoutine World E Stream :=
  Routine.act fun owner => (owner.stream, owner)

def now : OwnerRoutine World E Nat :=
  Routine.act fun owner =>
    let passed := backend.elapse owner.world
    (owner.clock + passed.1, { owner with clock := owner.clock + passed.1, world := passed.2 })

def unixMilliseconds : OwnerRoutine World E Nat :=
  Routine.act fun owner =>
    let reading := backend.unixMilliseconds owner.world
    (reading.1, { owner with world := reading.2 })

def send (method : String) (params : Json) : OwnerRoutine World E (Json × List UInt8) :=
  fun owner =>
    let answer := backend.command method params owner.world
    let owner := { owner with world := answer.2 }
    match answer.1 with
    | .ok frame => (.done frame, owner)
    | .error error => (.failed error, owner)

def refuse (message : String) : OwnerRoutine World E α :=
  Routine.fail (backend.plain message)

def require (condition : Bool) (message : String) : OwnerRoutine World E Unit :=
  Routine.ensure condition (backend.plain message)

def panicked : OwnerRoutine World E α :=
  fun owner => (.pending, owner)

def statusAnswer : OwnerRoutine World E Answer := do
  let stream ← read
  let reading ← now backend
  return .status (stream.status reading)

def stop : OwnerRoutine World E Unit := do
  let stream ← read
  if stream.params.isSome then
    match ← (send backend "stop" .null).attempt with
    | .ok _ => update Stream.stopped
    | .error error => do
      update fun stream => { stream with
        failureDetails := backend.errorFields error
        latest := none
        failure := some ("capture cleanup failed; host replacement required: "
          ++ backend.message error) }
      Routine.fail error
  else update Stream.stopped

/-- The stream parameters of a start request, with its delivery options taken out. -/
structure StartRequest where
  params : Json
  fps : F64
  deliverTransitions : Bool

def nativeVideo (camera : Json) (params : Json) : Bool :=
  (match camera.field "captureModes" with
    | .array modes => modes.any fun mode => mode.asString = some "video"
    | _ => false)
    && !((params.field "dark").asBool = some true)
    && (params.field "microseconds").asNat.any fun exposure =>
      (camera.field "videoMaxExposureMicroseconds").asNat.all fun limit => decide (exposure ≤ limit)

def startRequest (camera : Json) (request : Json) : Except String StartRequest :=
  match (match request.get? "maxFps" with | none => some (1 : F64) | some fps => fps.asF64) with
  | none => .error "invalid maxFps"
  | some fps =>
    if !(fps.isFinite && decide (0.01 ≤ fps) && decide (fps ≤ 120)) then
      .error "maxFps must be 0.01..120"
    else
      match request with
      | .object fields =>
        let fields := (Json.Fields.remove "maxFps" fields).2
        let (transitions, fields) := Json.Fields.remove "deliverTransitionFrames" fields
        match (match transitions with | none => some false | some value => value.asBool) with
        | none => .error "invalid deliverTransitionFrames"
        | some deliverTransitions =>
          let fields :=
            if (fields.lookup "mode").isNone then
              Json.Fields.set "mode"
                (.string (if nativeVideo camera (.object fields) then "video" else "still"))
                fields
            else fields
          .ok {
            params := .object (Json.Fields.set "continuousDrain" (.bool true) fields)
            fps := fps
            deliverTransitions := deliverTransitions }
      | _ => .error "stream parameters must be an object"

def deliveryInterval (fps : F64) : Nat :=
  Duration.ofSecsF64 ((1 : F64).div fps)

/-- New settings: queued for the next frame boundary while streaming, else a fresh start. -/
def configure (start : StartRequest) : OwnerRoutine World E Unit := do
  let _ ← send backend "validate" start.params
  update fun stream => { stream with deliverTransitions := start.deliverTransitions }
  let stream ← read
  if stream.params.isSome then
    update fun stream => { stream with requested := some start.params, latest := none }
  else
    stop backend
    let _ ← send backend "start" start.params
    update fun stream => stream.started start.params

def reaffirm (stream : Stream) (deliverTransitions : Bool) : Stream :=
  { stream with
    requested := none
    latest :=
      if !deliverTransitions && stream.latest.any fun frame => !frame.settingsSettled then none
      else stream.latest
    deliverTransitions := deliverTransitions }

def streamStart (request : Json) : OwnerRoutine World E Answer := do
  let stream ← read
  require backend (!stream.stopping) "stream is stopping at the exposure boundary"
  let start ← Routine.ofExcept ((startRequest stream.camera request).mapError backend.plain)
  require backend stream.failure.isNone "stream faulted; stop before restarting"
  if stream.params.any fun params => params == start.params then
    update fun stream => reaffirm stream start.deliverTransitions
  else configure backend start
  update fun stream => { stream with interval := deliveryInterval start.fps }
  statusAnswer backend

def streamStop : OwnerRoutine World E Answer := do
  update fun stream => { stream with requested := none }
  let stream ← read
  if stream.failure.isNone
      && stream.params.any fun params => (params.field "mode").asString = some "still" then
    update fun stream => { stream with stopping := true, latest := none }
    statusAnswer backend
  else
    stop backend
    statusAnswer backend

/-- The owner's own delivery; requests of the client are answered from the published copy. -/
def streamDownload : OwnerRoutine World E Answer := do
  let stream ← read
  match stream.failure with
  | some failure => refuse backend ("continuous acquisition failed: " ++ failure)
  | none =>
    let asked ← now backend
    match stream.latest, stream.ready asked with
    | some frame, true => do
      update fun stream => { stream with latest := none, delivered := stream.delivered + 1 }
      let delivered ← now backend
      update fun stream => { stream with deliveredAt := some delivered }
      let stream ← read
      let reading ← now backend
      return .frame frame (stream.status reading)
    | _, _ => refuse backend "continuous frame not ready or delivery FPS limited"

def streamPoll : OwnerRoutine World E Answer := do
  let stream ← read
  let asked ← now backend
  if stream.ready asked && stream.requested.isNone then streamDownload backend
  else
    let reading ← now backend
    return .continuous (stream.status reading)

def capabilities (fields : Json.Fields) : Json :=
  .object [("atomicFramePoll", .bool true), ("buffer", .string "latest-only"),
    ("fpsScope", .string "delivery"), ("settingsChange", .string
      (if ((Json.object fields).field "videoScalarUpdates").asBool = some false then
        "restart-boundary" else "scalar-boundary-structural-restart")),
    ("supported", .bool true), ("transitionFrameDelivery", .bool true)]

def passCommand (method : String) (params : Json) : OwnerRoutine World E Answer := do
  let stream ← read
  require backend stream.params.isNone
    ("continuous acquisition active; use stream commands or stop before changing controls")
  let (value, pixels) ← send backend method params
  if method = "open" then
    update fun stream => { stream with deliveredAt := none, generation := 0 }
    match value.assignable with
    | none => panicked
    | some fields =>
      let value := Json.object
        (Json.Fields.set "continuousAcquisition" (capabilities fields) fields)
      update fun stream => { stream with camera := value }
      return .backend value pixels
  else return .backend value pixels

def command (method : String) (params : Json) : OwnerRoutine World E Answer :=
  if method = "stream-start" then streamStart backend params
  else if method = "stream-status" then statusAnswer backend
  else if method = "stream-poll" then streamPoll backend
  else if method = "stream-download" then streamDownload backend
  else if method = "stream-stop" then streamStop backend
  else do
    let stream ← read
    if (method = "stop" || method = "close") && stream.params.isSome then
      stop backend
      if method = "close" then
        let (value, pixels) ← send backend method params
        return .backend value pixels
      else return .backend .null []
    else passCommand backend method params

/-- Whether two settings differ in exposure and gain of the same video mode only. -/
def scalarUpdate (old new : Json) : Bool :=
  if !((old.field "mode").asString = some "video" && (new.field "mode").asString = some "video") then
    false
  else
    let replace (fields : Json.Fields) (key : String) : Json.Fields :=
      match new.get? key with
      | some value => Json.Fields.set key value fields
      | none => (Json.Fields.remove key fields).2
    match old with
    | .object fields => Json.object (replace (replace fields "microseconds") "gain") == new
    | _ => false

def isLive (camera old new : Json) : Bool :=
  !((camera.field "videoScalarUpdates").asBool = some false) && scalarUpdate old new

def exposureMicroseconds (params : Json) : Nat :=
  (params.field "microseconds").asNat.getD 0

/-- The integration times of the old and the new settings, in nanoseconds. -/
def settlingTime (old new : Json) : Nat :=
  min (exposureMicroseconds old + exposureMicroseconds new) (2 ^ 64 - 1) * 1000

/-- The stream after the requested settings took effect at a frame boundary. -/
def applied (stream : Stream) (next : Json) (live : Bool) (settlingUntil : Nat) : Stream :=
  { stream with
    latest := none
    generation := stream.generation + 1
    discardFrames := if live then 2 else 0
    settlingUntil := if live then some settlingUntil else none
    params := some next }

/-- Replace the settings at a frame boundary; the drained frame is dropped. -/
def applyRequested (params next : Json) : OwnerRoutine World E Unit := do
  update fun stream => { stream with requested := none }
  let stream ← read
  let live := isLive stream.camera params next
  if !live then
    let _ ← send backend "stop" .null
  let _ ← send backend "start" next
  let configured ← now backend
  update fun stream => applied stream next live (configured + settlingTime params next)

def isTransitional (stream : Stream) (rawAt : Nat) : Bool :=
  decide (0 < stream.discardFrames)
    || stream.settlingUntil.any fun until' => decide (rawAt < until')

def stamp (stream : Stream) (params : Json) (metadata : Json.Fields) (pixels : List UInt8)
    (receivedMs : Nat) (settled : Bool) : Frame where
  metadata := metadata
  pixels := pixels
  acquisitionSequence := stream.acquired
  settingsGeneration := stream.generation
  settingsSettled := settled
  exposureTiming := exposureTiming receivedMs (exposureMicroseconds params) stream.rawInterval settled
  rawSequence := stream.rawFrames
  rawFrameIntervalMilliseconds := stream.rawInterval.map (· / nanosPerMilli)

def countTransition (stream : Stream) (transitional : Bool) : Stream :=
  if transitional then
    { stream with
      discardFrames := stream.discardFrames - 1
      transitionFrames := stream.transitionFrames + 1 }
  else { stream with settlingUntil := none }

def retain (stream : Stream) (frame : Frame) : Stream :=
  { stream with
    latest := some frame
    replaced := if stream.latest.isSome then stream.replaced + 1 else stream.replaced }

def offer (params : Json) (frame : Json × List UInt8) (receivedMs rawAt : Nat) :
    OwnerRoutine World E Unit := do
  let stream ← read
  let transitional := isTransitional stream rawAt
  update fun stream => countTransition stream transitional
  if transitional && !stream.deliverTransitions then
    let _ ← send backend "start" params
  else
    let framed ← now backend
    update fun stream => { stream with
      acquired := stream.acquired + 1
      lastFrameAt := some framed }
    match frame.1.assignable with
    | none => panicked
    | some metadata =>
      update fun stream =>
        retain stream (stamp stream params metadata frame.2 receivedMs !transitional)
      let _ ← send backend "start" params

def noteRaw (stream : Stream) (rawAt : Nat) : Stream :=
  { stream with
    rawInterval := stream.lastRawAt.map (rawAt - ·)
    lastRawAt := some rawAt
    rawFrames := stream.rawFrames + 1 }

def drain (params : Json) : OwnerRoutine World E Unit := do
  let frame ← send backend "download" .null
  let rawAt ← now backend
  let receivedMs ← unixMilliseconds backend
  update fun stream => noteRaw stream rawAt
  let stream ← read
  if stream.stopping then
    let _ ← send backend "stop" .null
    update fun stream => { stream with params := none, stopping := false }
  else
    match stream.requested with
    | some next => applyRequested backend params next
    | none => offer backend params frame receivedMs rawAt

def acquire (params : Json) : OwnerRoutine World E Unit := do
  let (state, _) ← send backend "status" .null
  match state.asInt with
  | some 1 => return ()
  | some 2 => drain backend params
  | _ => refuse backend ("unexpected capture state " ++ backend.text state)

/-- One round of the owner: poll the camera unless the stream is idle or faulted. -/
def tick : OwnerRoutine World E Unit := do
  let stream ← read
  if stream.failure.isSome then return ()
  else
    match stream.params with
    | none => return ()
    | some params =>
      match ← (acquire backend params).attempt with
      | .ok () => return ()
      | .error error =>
        update fun stream => { stream with
          failureDetails := backend.errorFields error
          latest := none
          failure := some (backend.message error) }

end Owner

end Regain.Core.Continuous
