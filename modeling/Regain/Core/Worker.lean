import Regain.Core.Failure
import Regain.Lib.Pipe

/-!
# Worker calls

One request and one reply over the pipes of a camera worker process. A request is a length word and
a JSON body; a reply is a length word, a JSON header and the pixels that the header announces.
-/

namespace Regain.Core

open Lib

/-- The JSON library: serialisation of a request and parsing of a reply header. -/
structure Codec where
  encode : Json → Option (List UInt8)
  parse : List UInt8 → Option Json

/-- What ends a wait that does not complete. -/
inductive Halt where
  | timedOut
  | cancelled
  /-- The pipe failed, with the text of the error. -/
  | broken (message : String)
  deriving DecidableEq

structure Wire where
  /-- The token was cancelled before the exchange was first polled. -/
  cancelled : Bool
  now : Nat
  /-- The request bytes, and one for the flush, that go through. -/
  writable : Nat
  /-- The bytes that the process adds to its output during the call. -/
  arriving : List UInt8
  /-- The reply bytes after which the call is interrupted. -/
  budget : Nat
  /-- Whether memory for the announced pixels can be reserved. -/
  allocates : Bool
  halt : Halt

structure Worker where
  id : Nat
  alive : Bool
  /-- The bytes the process has written that no call has read. -/
  output : List UInt8

def Worker.spawned : Worker where
  id := 0
  alive := true
  output := []

abbrev Reply := Json × List UInt8

def maximumHeader : Nat := 65536

def maximumImage : Nat := 512 * 1024 * 1024

def returnsImage (method : String) : Bool :=
  method = "download" || method = "stream-download" || method = "stream-poll"

def admitReply (codec : Codec) (method : String) (id maximumBytes : Nat) (header : List UInt8) :
    Except Error (Json × Nat) :=
  match codec.parse header with
  | none => .error (.invalid "Malformed worker JSON")
  | some reply =>
    if !((reply.field "id").asNat = some id && (reply.field "version").asInt = some 1) then
      .error (.invalid "Stale worker response")
    else
      match (reply.field "binaryLength").asNat with
      | none => .error (.invalid "Missing frame length")
      | some count =>
        if !(decide (count ≤ maximumBytes) && decide (count ≤ maximumImage)
            && (returnsImage method || count = 0)) then
          .error (.invalid "Invalid worker image length")
        else .ok (reply, count)

def sdkCode (reply : Json) : Option Int :=
  (reply.field "sdkCode").asInt.filter fun code => decide (-2 ^ 31 ≤ code ∧ code < 2 ^ 31)

def replyFailure (reply : Json) : Error :=
  let message := (reply.field "error").asString.getD "Worker error"
  if (reply.field "controlUncertain").asBool = some true then
    .failure (.uncertainControl message (sdkCode reply))
  else .failure (.worker message (sdkCode reply))

def readBody (reply : Json) (count : Nat) (allocates : Bool) : Reader Error Reply :=
  if (reply.field "ok").asBool = some false then do
    Reader.ensure (count = 0) (.invalid "Error response contains pixels")
    Reader.fail (replyFailure reply)
  else do
    Reader.ensure ((reply.field "ok").asBool = some true) (.invalid "Missing worker status")
    Reader.ensure allocates (.other "Worker image allocation failed")
    let pixels ← Reader.exactly count
    return (reply.field "result", pixels)

def readReply (codec : Codec) (method : String) (id maximumBytes : Nat) (allocates : Bool) :
    Reader Error Reply := do
  let word ← Reader.exactly 4
  Reader.ensure (decide (1 ≤ ofLittleEndian word) && decide (ofLittleEndian word ≤ maximumHeader))
    (.invalid "Invalid worker response length")
  let header ← Reader.exactly (ofLittleEndian word)
  let (reply, count) ← Reader.ofExcept (admitReply codec method id maximumBytes header)
  readBody reply count allocates

def isControl (method : String) (params : Json) : Bool :=
  method = "set" || method = "set-control-state" || method = "resume-cooling"
    || (method = "white-balance" && !params.isNull)

structure Call where
  method : String
  params : Json
  deadline : Nat
  maximumBytes : Nat
  wire : Wire

/-- What a call did: its outcome and the bytes that passed. -/
structure Called where
  outcome : Except Error Reply
  dispatched : Bool
  written : List UInt8
  consumed : List UInt8

structure Exchanged where
  result : Except (Stop Error) Reply
  dispatched : Bool
  written : List UInt8
  consumed : List UInt8

def request (id : Nat) (call : Call) : Json :=
  .object [("version", .ofNat 1), ("id", .ofNat id), ("method", .string call.method),
    ("params", call.params)]

def undispatched (error : Error) : Exchanged where
  result := .error (.error error)
  dispatched := false
  written := []
  consumed := []

def receive (codec : Codec) (worker : Worker) (call : Call) (written : List UInt8) :
    Exchanged × Worker :=
  let read := (readReply codec call.method worker.id call.maximumBytes call.wire.allocates).run
    { available := worker.output, budget := call.wire.budget, consumed := [] }
  ({ result := read.1
     dispatched := true
     written := written
     consumed := read.2.consumed }, { worker with output := read.2.available })

def exchange (codec : Codec) (worker : Worker) (call : Call) : Exchanged × Worker :=
  let worker := { worker with output := worker.output ++ call.wire.arriving }
  if 2 ^ 64 ≤ worker.id + 1 then
    (undispatched (.invalid "Worker command counter exhausted"), worker)
  else
    match codec.encode (request (worker.id + 1) call) with
    | none => (undispatched (.other "Request serialization failed"), worker)
    | some bytes =>
      if maximumHeader < bytes.length then
        (undispatched (.invalid "Command too large"), worker)
      else if ¬call.wire.now < call.deadline then
        (undispatched (.cooling .expired), worker)
      else
        let worker := { worker with id := worker.id + 1 }
        let framed := littleEndian32 bytes.length ++ bytes
        if call.wire.writable ≤ framed.length then
          ({ result := .error .interrupted
             dispatched := true
             written := framed.take call.wire.writable
             consumed := [] }, worker)
        else receive codec worker call framed

def haltError (call : Call) (dispatched : Bool) : Error :=
  match call.wire.halt with
  | .cancelled => .failure .cancelled
  | .broken message => .other message
  | .timedOut =>
    if isControl call.method call.params && !dispatched then .cooling .expired
    else .other ("Worker " ++ call.method ++ " acknowledgement timed out")

def settleExchange (call : Call) (exchanged : Exchanged) : Except Error Reply :=
  match exchanged.result with
  | .ok reply => .ok reply
  | .error (.error error) => .error error
  | .error .interrupted => .error (haltError call exchanged.dispatched)

/-- A dispatched control without a known acknowledgement may have been applied. -/
def markUncertain (call : Call) (dispatched : Bool) (error : Error) : Error :=
  if isControl call.method call.params && dispatched && !error.isUncertainControl then
    .failure (.uncertainControl error.message none)
  else error

def keepsWorker (dispatched : Bool) (error : Error) : Bool :=
  (!dispatched && error.isExpired) || error.isWorker

def kill (worker : Worker) : Worker :=
  { worker with alive := false }

def callUntil (codec : Codec) (worker : Worker) (call : Call) : Called × Worker :=
  let (exchanged, worker) :=
    if call.wire.cancelled then (undispatched (.failure .cancelled),
      { worker with output := worker.output ++ call.wire.arriving })
    else exchange codec worker call
  match settleExchange call exchanged with
  | .ok reply =>
    ({ outcome := .ok reply
       dispatched := exchanged.dispatched
       written := exchanged.written
       consumed := exchanged.consumed }, worker)
  | .error error =>
    let error := markUncertain call exchanged.dispatched error
    ({ outcome := .error error
       dispatched := exchanged.dispatched
       written := exchanged.written
       consumed := exchanged.consumed },
      if keepsWorker exchanged.dispatched error then worker else kill worker)

def Worker.machine (codec : Codec) : Machine Worker Call Called where
  step := callUntil codec

end Regain.Core
