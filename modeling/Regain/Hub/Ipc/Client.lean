import Regain.Hub.Parameters
import Regain.Lib.Machine

/-!
# The client of a hub connection

Callers put requests into a bounded queue, and one task, the pump, numbers them, writes their frames
and matches the replies by number.
-/

namespace Regain.Hub

open Lib

namespace Ipc

def version : Nat := 1

def maxFrameBytes : Nat := 1024 * 1024

def maxInFlight : Nat := 8

inductive ProtocolError where
  | io
  | malformed
  | frameTooLarge
  | timeout
  | version
  | handshake
  | requestOrder
  | overloaded

inductive CommandKind where
  | hello
  | cameraImage
  | cameraGroupImage
  | cameraTiming
  | cameraCaptureTiming
  | cameraControl
  | describeConfig
  | startCameraGroup
  | cameraGroupStatus
  | cancelCameraGroup
  | startFocuserGroup
  | focuserGroupStatus
  | cancelFocuserGroup
  | getConfig
  | exportConfig
  | prepareImport
  | discoverLocal
  | searchAlpaca
  | discoverAlpaca
  | validateConfig
  | applyConfig
  | hostStatus
  | createCredential
  | credentialStatus
  | deleteCredential
  | listDevices
  | sourceStatus
  | outputStatus
  | inspectSource
  | updateSimulation
  | connect
  | disconnect
  | changeConnection
  | get
  | put
  deriving DecidableEq

structure Command (Fields : Type) where
  kind : CommandKind
  fields : Fields

def mutating : CommandKind → Bool
  | .put => true
  | .cameraControl => true
  | .applyConfig => true
  | .createCredential => true
  | .deleteCredential => true
  | .updateSimulation => true
  | .startCameraGroup => true
  | .startFocuserGroup => true
  | .cancelCameraGroup => true
  | .cancelFocuserGroup => true
  | .connect => true
  | .changeConnection => true
  | .disconnect => true
  | _ => false

def operation : CommandKind → String
  | .hello => "hello"
  | .cameraImage => "cameraImage"
  | .cameraGroupImage => "cameraGroupImage"
  | .cameraTiming => "cameraTiming"
  | .cameraCaptureTiming => "cameraCaptureTiming"
  | .cameraControl => "cameraControl"
  | .describeConfig => "describeConfig"
  | .startCameraGroup => "startCameraGroup"
  | .cameraGroupStatus => "cameraGroupStatus"
  | .cancelCameraGroup => "cancelCameraGroup"
  | .startFocuserGroup => "startFocuserGroup"
  | .focuserGroupStatus => "focuserGroupStatus"
  | .cancelFocuserGroup => "cancelFocuserGroup"
  | .getConfig => "getConfig"
  | .exportConfig => "exportConfig"
  | .prepareImport => "prepareImport"
  | .discoverAlpaca => "discoverAlpaca"
  | .searchAlpaca => "searchAlpaca"
  | .discoverLocal => "discoverLocal"
  | .validateConfig => "validateConfig"
  | .applyConfig => "applyConfig"
  | .hostStatus => "hostStatus"
  | .createCredential => "createCredential"
  | .credentialStatus => "credentialStatus"
  | .deleteCredential => "deleteCredential"
  | .listDevices => "listDevices"
  | .sourceStatus => "sourceStatus"
  | .outputStatus => "outputStatus"
  | .inspectSource => "inspectSource"
  | .updateSimulation => "updateSimulation"
  | .connect => "connect"
  | .changeConnection => "changeConnection"
  | .disconnect => "disconnect"
  | .get => "get"
  | .put => "put"

structure RemoteError where
  code : String
  message : String
  upstreamCode : Option Int
  retryAfterSeconds : Option F64
  fields : List FieldError

inductive ClientError where
  | disconnected
  | timeout
  | protocol
  | busy
  | invalidRequest
  /-- The transport failed after a mutating request was handed to the writer. -/
  | uncertain
  | remote (error : RemoteError)

/-- A reply as it is parsed; `result` and `error` may be present. -/
structure Reply (Value : Type) where
  version : Nat
  id : Nat
  result : Option Value
  error : Option Value

/-- What the JSON library makes of requests and replies. -/
structure Codec (Fields Value : Type) where
  serialize : Nat → Command Fields → Option (List UInt8)
  parse : List UInt8 → Option (Reply Value)
  remote : Value → Option RemoteError

variable {Fields Value : Type}

abbrev Outcome (Value : Type) := Except ClientError Value

def header (bytes : List UInt8) : List UInt8 :=
  [UInt8.ofNat bytes.length, UInt8.ofNat (bytes.length / 2 ^ 8),
    UInt8.ofNat (bytes.length / 2 ^ 16), UInt8.ofNat (bytes.length / 2 ^ 24)]

def encode (codec : Codec Fields Value) (id : Nat) (command : Command Fields) (limit : Nat) :
    Except ClientError (List UInt8) :=
  match codec.serialize id command with
  | none => .error .invalidRequest
  | some bytes => if limit < bytes.length then .error .invalidRequest else .ok bytes

def decode (codec : Codec Fields Value) (bytes : List UInt8) :
    Except ClientError (Nat × Outcome Value) :=
  match codec.parse bytes with
  | none => .error .protocol
  | some reply =>
    if reply.version ≠ version ∨ reply.id ≤ 1 then .error .protocol
    else
      match reply.result, reply.error with
      | some result, none => .ok (reply.id, .ok result)
      | none, some error =>
        match codec.remote error with
        | none => .error .protocol
        | some error =>
          if error.retryAfterSeconds.any fun seconds =>
              !seconds.isFinite || seconds.lt (.ofRat 0) then
            .error .protocol
          else .ok (reply.id, .error (.remote error))
      | _, _ => .error .protocol

/-- One call that got as far as the queue.  The caller may be gone. -/
structure Call (Fields Value : Type) where
  command : Command Fields
  dropped : Bool
  outcome : Option (Outcome Value)

structure Incoming (Fields : Type) where
  command : Command Fields
  deadline : Nat
  mutate : Bool
  /-- The call that waits for the reply. -/
  reply : Nat

structure Pending where
  deadline : Nat
  mutate : Bool
  reply : Nat

/-- A frame that the pump has begun to write, and how many of its bytes are written. -/
structure Frame where
  call : Nat
  id : Nat
  bytes : List UInt8
  written : Nat

inductive Stage where
  | selecting
  /-- A frame is written, until its deadline. -/
  | writing (deadline : Nat)
  /-- The loop is left; the reader is joined. -/
  | closing (failure : ClientError)
  /-- Nothing is accepted any more, and the queue is emptied. -/
  | draining
  | ended

structure Limits where
  frameTimeout : Nat
  /-- `hello.max_frame_bytes`. -/
  maxFrame : Nat
  /-- `hello.max_in_flight`. -/
  maxInFlight : Nat
  /-- `hello.operations`. -/
  operations : List String

structure Client (Fields Value : Type) where
  now : Nat
  stop : Bool
  capacity : Nat
  closed : Bool
  queue : List (Incoming Fields)
  pending : List (Nat × Pending)
  nextId : Nat
  stage : Stage
  calls : List (Call Fields Value)
  frames : List Frame

/-- What the pump finds when it runs. -/
inductive Event where
  | idle
  /-- A frame of the reader, or the end of the reader. -/
  | frame (frame : Option (Except ProtocolError (Option (List UInt8))))
  | request
  /-- Some bytes are written. -/
  | wrote (count : Nat)
  | flushed
  | writeFailed

inductive Op (Fields : Type) where
  /-- `request_with_timeout`; `request_camera` calls it with a command and a bound of its own. -/
  | request (command : Command Fields) (deadline : Nat)
  | drop (call : Nat)
  /-- `close`, or the last handle is dropped. -/
  | close
  | tick (elapsed : Nat)
  | pump (event : Event)
  /-- The task of the pump is dropped. -/
  | abort

inductive Answer where
  | none
  | refused (error : ClientError)
  | accepted (call : Nat)

namespace Client

def new (limits : Limits) : Client Fields Value where
  now := 0
  stop := false
  capacity := limits.maxInFlight
  closed := false
  queue := []
  pending := []
  nextId := 2
  stage := .selecting
  calls := []
  frames := []

def send (client : Client Fields Value) (call : Nat) (outcome : Outcome Value) :
    Client Fields Value :=
  { client with
    calls := client.calls.modify call fun call =>
      if call.dropped || call.outcome.isSome then call else { call with outcome := some outcome } }

def release (client : Client Fields Value) : Client Fields Value :=
  { client with capacity := client.capacity + 1 }

def enter (client : Client Fields Value) (stage : Stage) : Client Fields Value :=
  { client with stage := stage }

def fail (client : Client Fields Value) (failure : ClientError) : Client Fields Value :=
  client.enter (.closing failure)

def isClosed (client : Client Fields Value) (call : Nat) : Bool :=
  (client.calls[call]?).all fun call => call.dropped

def isConnected (client : Client Fields Value) : Bool :=
  !client.stop

def request (limits : Limits) (client : Client Fields Value) (command : Command Fields)
    (deadline : Nat) : Answer × Client Fields Value :=
  if !client.isConnected then (.refused .disconnected, client)
  else if command.kind = .hello ∨ command.kind = .cameraImage
      ∨ operation command.kind ∉ limits.operations then
    (.refused .invalidRequest, client)
  else if client.capacity = 0 then (.refused .busy, client)
  else if client.closed ∨ limits.maxInFlight ≤ client.queue.length then
    (.refused .disconnected, client)
  else
    (.accepted client.calls.length,
      { client with
        capacity := client.capacity - 1
        calls := client.calls ++ [⟨command, false, none⟩]
        queue := client.queue ++
          [⟨command, client.now + deadline, mutating command.kind, client.calls.length⟩] })

def drop (client : Client Fields Value) (call : Nat) : Client Fields Value :=
  { client with calls := client.calls.modify call fun call => { call with dropped := true } }

def expired (client : Client Fields Value) : Bool :=
  client.pending.any fun entry => decide (entry.2.deadline ≤ client.now)

variable (codec : Codec Fields Value) (limits : Limits)

def remove (client : Client Fields Value) (id : Nat) : Client Fields Value :=
  { client with pending := client.pending.filter fun entry => entry.1 != id }

def reply (client : Client Fields Value) (bytes : List UInt8) : Client Fields Value :=
  match decode codec bytes with
  | .error error => client.fail error
  | .ok (id, result) =>
    match client.pending.find? fun entry => entry.1 == id with
    | none => client.fail .protocol
    | some entry => ((client.remove id).send entry.2.reply result).release

def receive (client : Client Fields Value)
    (frame : Option (Except ProtocolError (Option (List UInt8)))) : Client Fields Value :=
  match frame with
  | some (.ok (some bytes)) =>
    if bytes.length ≤ limits.maxFrame then client.reply codec bytes else client.fail .protocol
  | some (.ok none) => client.fail .disconnected
  | some (.error .io) => client.fail .disconnected
  | none => client.fail .disconnected
  | some (.error .timeout) => client.fail .timeout
  | some (.error _) => client.fail .protocol

def refuse (client : Client Fields Value) (call : Nat) (error : ClientError) :
    Client Fields Value :=
  (client.send call (.error error)).release

def dispatch (client : Client Fields Value) (id : Nat) (request : Incoming Fields)
    (bytes : List UInt8) : Client Fields Value :=
  { client with
    pending := client.pending ++ [(id, ⟨request.deadline, request.mutate, request.reply⟩)]
    frames := client.frames ++ [⟨request.reply, id, header bytes ++ bytes, 0⟩]
    stage := .writing (min request.deadline (client.now + limits.frameTimeout)) }

def take (client : Client Fields Value) (request : Incoming Fields) : Client Fields Value :=
  if client.isClosed request.reply then client.release
  else if request.deadline ≤ client.now then client.refuse request.reply .timeout
  else if client.nextId + 1 = 2 ^ 64 then
    (client.refuse request.reply .disconnected).fail .protocol
  else
    let numbered := { client with nextId := client.nextId + 1 }
    match encode codec client.nextId request.command limits.maxFrame with
    | .error error => numbered.refuse request.reply error
    | .ok bytes => numbered.dispatch limits client.nextId request bytes

def advance (client : Client Fields Value) (count : Nat) : Client Fields Value :=
  { client with
    frames := client.frames.modify (client.frames.length - 1) fun frame =>
      { frame with written := min frame.bytes.length (frame.written + count) } }

def isWritten (client : Client Fields Value) : Bool :=
  (client.frames.getLast?).all fun frame => frame.written == frame.bytes.length

def ending (failure : ClientError) (mutate : Bool) : ClientError :=
  if mutate then .uncertain else failure

/-- Calls that still wait are told how it ends; each says whether it is mutating. -/
def answerAll (failure : ClientError) (client : Client Fields Value) :
    List (Bool × Nat) → Client Fields Value
  | [] => client
  | (mutate, call) :: rest =>
    answerAll failure (client.refuse call (ending failure mutate)) rest

def pendingCalls (client : Client Fields Value) : List (Bool × Nat) :=
  client.pending.map fun entry => (entry.2.mutate, entry.2.reply)

def queuedCalls (client : Client Fields Value) : List (Bool × Nat) :=
  client.queue.map fun request => (request.mutate, request.reply)

def pump (client : Client Fields Value) (event : Event) : Client Fields Value :=
  match client.stage with
  | .selecting =>
    if client.stop then client.fail .disconnected
    else if client.expired then client.fail .timeout
    else
      match event with
      | .frame frame => client.receive codec limits frame
      | .request =>
        match client.queue with
        | [] => client
        | request :: queue => ({ client with queue := queue }).take codec limits request
      | _ => client
  | .writing deadline =>
    if client.stop then client.fail .disconnected
    else
      match event with
      | .wrote count => client.advance count
      | .flushed => if client.isWritten then client.enter .selecting else client
      | .writeFailed => client.fail .disconnected
      | _ => if deadline ≤ client.now then client.fail .timeout else client
  | .closing failure =>
    answerAll failure { client with closed := true, pending := [], stage := .draining }
      client.pendingCalls
  | .draining =>
    match client.queue with
    | [] => { client with stage := .ended, stop := true }
    | request :: queue =>
      ({ client with queue := queue }).refuse request.reply .disconnected
  | .ended => client

def abort (client : Client Fields Value) : Client Fields Value :=
  answerAll .disconnected
    { client with stop := true, closed := true, queue := [], pending := [], stage := .ended }
    (client.queuedCalls ++ client.pendingCalls)

def step (client : Client Fields Value) : Op Fields → Answer × Client Fields Value
  | .request command deadline => client.request limits command deadline
  | .drop call => (.none, client.drop call)
  | .close => (.none, { client with stop := true })
  | .tick elapsed => (.none, { client with now := client.now + elapsed })
  | .pump event => (.none, client.pump codec limits event)
  | .abort => (.none, client.abort)

end Client

def machine (codec : Codec Fields Value) (limits : Limits) :
    Machine (Client Fields Value) (Op Fields) Answer where
  step := Client.step codec limits

end Ipc

end Regain.Hub
