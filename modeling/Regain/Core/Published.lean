import Regain.Core.Continuous

/-!
# Published acquisition state

The copy of the stream's state that the I/O thread answers from, and the service that the owner
thread and the I/O thread form. The owner thread goes round in a fixed order.
-/

namespace Regain.Core.Continuous

open Lib

structure Published where
  status : Option StreamStatus
  updated : Option Nat
  latest : Option Frame
  interval : Nat
  deliveredAt : Option Nat
  delivered : Nat
  replaced : Nat
  ownerUnresponsive : Bool

def unresponsiveMessage : String :=
  "acquisition owner unresponsive for over ten seconds"

def StreamStatus.idle : StreamStatus :=
  { Stream.default.status 0 with ready := false }

namespace Published

def default : Published where
  status := none
  updated := none
  latest := none
  interval := 0
  deliveredAt := none
  delivered := 0
  replaced := 0
  ownerUnresponsive := false

def error (published : Published) : Option String :=
  if published.ownerUnresponsive then some unresponsiveMessage
  else published.status.bind fun status => status.error

def ready (published : Published) (now : Nat) : Bool :=
  published.latest.isSome && published.error.isNone
    && published.deliveredAt.all fun delivered => decide (published.interval ≤ now - delivered)

def aged (published : Published) (now : Nat) (age : Option Nat) : Option Nat :=
  age.map fun age =>
    min (age + (published.updated.map (Stream.ageMilliseconds now)).getD 0) (2 ^ 64 - 1)

def report (published : Published) (now : Nat) : StreamStatus :=
  let status := published.status.getD StreamStatus.idle
  { status with
    error := published.error
    ready := published.ready now
    deliveredFrames := published.delivered
    replacedFrames := published.replaced
    lastFrameAgeMilliseconds := published.aged now status.lastFrameAgeMilliseconds
    lastRawFrameAgeMilliseconds := published.aged now status.lastRawFrameAgeMilliseconds }

def unresponsiveAfter : Nat := 10000000000

def checkOwner (published : Published) (now : Nat) : Published :=
  if published.status.any (fun status => status.active && status.error.isNone)
      && published.updated.any fun updated => decide (unresponsiveAfter < now - updated) then
    { published with ownerUnresponsive := true, latest := none }
  else published

def take (published : Published) (frame : Frame) (delivered now : Nat) :
    Except String Answer × Published :=
  let published := { published with
    latest := none
    delivered := published.delivered + 1
    deliveredAt := some delivered }
  (.ok (.frame frame (published.report now)), published)

def call (published : Published) (method : String) (checked asked delivered answered : Nat) :
    Except String Answer × Published :=
  let published := published.checkOwner checked
  let status := published.report asked
  if method = "stream-status" then (.ok (.status status), published)
  else if method = "stream-poll" && (!status.ready || status.settingsPending) then
    (.ok (.continuous status), published)
  else
    match status.error with
    | some error => (.error ("continuous acquisition failed: " ++ error), published)
    | none =>
      match published.latest, status.ready with
      | some frame, true => published.take frame delivered answered
      | _, _ => (.error "continuous frame not ready or delivery FPS limited", published)

end Published

def Stream.heed (stream : Stream) (unresponsive : Bool) : Stream :=
  if stream.params.isSome && unresponsive then
    { stream with failure := some unresponsiveMessage, latest := none }
  else stream

def Stream.supersedes (stream : Stream) (published : Published) : Bool :=
  stream.params.isNone || stream.failure.isSome || stream.requested.isSome
    || !(published.status.any fun status => status.settingsGeneration = stream.generation)
    || (!stream.deliverTransitions && published.latest.any fun frame => !frame.settingsSettled)

namespace Published

def beginSession (published : Published) (stream : Stream) : Published :=
  if stream.params.isNone then
    { published with ownerUnresponsive := false, deliveredAt := none }
  else if published.status.any fun status => status.active then published
  else { published with delivered := 0, replaced := 0, deliveredAt := none }

def receive (published : Published) (stream : Stream) : Published :=
  let kept := if stream.supersedes published then none else published.latest
  match stream.latest with
  | some frame => { published with
      latest := some frame
      replaced := if kept.isSome then published.replaced + 1 else published.replaced }
  | none => { published with latest := kept }

def publish (published : Published) (stream : Stream) (reading updated : Nat) :
    Stream × Published :=
  let stream := stream.heed published.ownerUnresponsive
  let published := (published.beginSession stream).receive stream
  let stream := { stream with
    latest := none
    delivered := published.delivered
    replaced := published.replaced }
  (stream, { published with
    interval := stream.interval
    status := some (stream.status reading)
    updated := some updated })

end Published

/-- Where the owner thread is in its round. -/
inductive Phase (E : Type) where
  | receiving
  /-- A command was performed; its reply waits for the publication. -/
  | replying (reply : Except E Answer)
  | ticking
  | publishing
  /-- The owner thread panicked. -/
  | ended

structure Service (World E : Type) where
  owner : Owner World
  published : Published
  phase : Phase E

namespace Service

variable {World E : Type}

def start (world : World) : Service World E where
  owner := { stream := Stream.default, clock := 0, world := world }
  published := Published.default
  phase := .receiving

inductive Op where
  /-- The owner takes a request from the I/O thread. -/
  | command (method : String) (params : Json)
  /-- No request came in time. -/
  | timeout
  | publish
  | tick
  /-- The I/O thread answers a request from the published state. -/
  | call (method : String)

inductive Result (E : Type) where
  /-- The step is not the owner's next one. -/
  | refused
  | done
  /-- The reply to a command, sent after its publication. -/
  | replied (reply : Except E Answer)
  | called (answer : Except String Answer)

def isCached (method : String) : Bool :=
  method = "stream-status" || method = "stream-poll" || method = "stream-download"

def isStop (method : String) : Bool :=
  method = "stream-stop" || (method = "stop" || method = "close")

variable (backend : Backend World E)

def reading (service : Service World E) : Nat × Service World E :=
  let passed := backend.elapse service.owner.world
  (service.owner.clock + passed.1,
    { service with owner := { service.owner with
      clock := service.owner.clock + passed.1
      world := passed.2 } })

def performCommand (service : Service World E) (method : String) (params : Json) :
    Service World E :=
  let run := Owner.command backend method params service.owner
  { service with
    owner := run.2
    phase := match run.1 with
      | .done answer => .replying (.ok answer)
      | .failed error => .replying (.error error)
      | .pending => .ended }

def performPublish (service : Service World E) (phase : Phase E) : Service World E :=
  let first := service.reading backend
  let second := first.2.reading backend
  let published := service.published.publish service.owner.stream first.1 second.1
  { owner := { second.2.owner with stream := published.1 }
    published := published.2
    phase := phase }

def performTick (service : Service World E) : Service World E :=
  let run := Owner.tick backend service.owner
  { service with
    owner := run.2
    phase := match run.1 with
      | .done () => .publishing
      | .failed _ => .publishing
      | .pending => .ended }

def performCall (service : Service World E) (method : String) :
    Except String Answer × Service World E :=
  let checked := service.reading backend
  let asked := checked.2.reading backend
  let delivered := asked.2.reading backend
  let answered := delivered.2.reading backend
  let called := service.published.call method checked.1 asked.1 delivered.1 answered.1
  (called.1, { answered.2 with published := called.2 })

def machine : Machine (Service World E) Op (Result E) where
  step service op :=
    match op, service.phase with
    | .command method params, .receiving =>
      if isCached method then (.refused, service)
      else (.done, service.performCommand backend method params)
    | .timeout, .receiving => (.done, { service with phase := .ticking })
    | .publish, .replying reply => (.replied reply, service.performPublish backend .ticking)
    | .publish, .publishing => (.done, service.performPublish backend .receiving)
    | .tick, .ticking => (.done, service.performTick backend)
    | .call method, _ =>
      let called := service.performCall backend method
      (.called called.1, called.2)
    | _, _ => (.refused, service)

end Service

end Regain.Core.Continuous
