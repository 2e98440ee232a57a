import Regain.Hub.Ipc.Client

/-!
# The hub's side of a connection

The server reads frames, checks the version and the order of the requests, and polls each operation
once when it arrives; those that are not ready are kept and polled on.
-/

namespace Regain.Hub

open Lib

namespace Ipc

variable {Fields Value : Type}

/-- What `read_frame` makes of the bytes that have come in so far. -/
inductive Read where
  | waiting
  | frame (bytes : List UInt8)
  | failed (error : ProtocolError)

def size (a b c d : UInt8) : Nat :=
  a.toNat + b.toNat * 2 ^ 8 + c.toNat * 2 ^ 16 + d.toNat * 2 ^ 24

def readFrame : List UInt8 → Read
  | a :: b :: c :: d :: rest =>
    if size a b c d = 0 then .failed .malformed
    else if maxFrameBytes < size a b c d then .failed .frameTooLarge
    else if rest.length < size a b c d then .waiting
    else .frame (rest.take (size a b c d))
  | _ => .waiting

def onWire (frames : List Frame) : List UInt8 :=
  frames.flatMap fun frame => frame.bytes.take frame.written

def advanceLast (frames : List Frame) (count : Nat) : List Frame :=
  frames.modify (frames.length - 1) fun frame =>
    { frame with written := min frame.bytes.length (frame.written + count) }

def lastWritten (frames : List Frame) : Bool :=
  (frames.getLast?).all fun frame => frame.written == frame.bytes.length

structure Request (Fields : Type) where
  version : Nat
  id : Nat
  command : Command Fields

/-- Its delay is a `Duration` in seconds. -/
structure RpcError extends RemoteError where
  delay : (retryAfterSeconds.all fun seconds => seconds.isFinite && !seconds.lt (.ofRat 0)) = true

abbrev Result (Value : Type) := Except RpcError Value

def responseTooLarge : RpcError where
  code := "responseTooLarge"
  message := "Hub response exceeds the frame limit"
  upstreamCode := none
  retryAfterSeconds := none
  fields := []
  delay := rfl

/-- What the JSON library makes of requests and responses. -/
structure ServerCodec (Fields Value : Type) where
  parse : List UInt8 → Option (Request Fields)
  serialize : Nat → Result Value → Option (List UInt8)

namespace ServerCodec

variable (codec : ServerCodec Fields Value)

def bounded (id : Nat) (result : Result Value) : Option (List UInt8) :=
  (codec.serialize id result).filter fun bytes => bytes.length ≤ maxFrameBytes

def response (id : Nat) (result : Result Value) : Option (List UInt8) :=
  (codec.bounded id result).orElse fun _ => codec.bounded id (.error responseTooLarge)

end ServerCodec

/-- What follows when a response is written. -/
inductive AfterWrite where
  | serve
  | image (bytes : List UInt8)
  | finish

inductive Serving where
  | running
  | writing (after : AfterWrite)
  /-- An image is written; no further command is legal. -/
  | image
  | ended (result : Except ProtocolError Unit)

structure Server where
  greeted : Bool
  lastId : Nat
  /-- The operations that are not ready. -/
  tasks : List Nat
  /-- The requests that were polled, in order. -/
  polled : List Nat
  /-- What is written; the call of a response is its request. -/
  responses : List Frame
  stage : Serving

/-- What a request comes to. -/
structure Served (Value : Type) where
  hello : Value
  /-- The result of the first poll, if the operation is ready. -/
  ready : Option (Result Value)
  /-- The manifest and the bytes of an image. -/
  image : Except RpcError (Value × List UInt8)

namespace Server

def new : Server where
  greeted := false
  lastId := 0
  tasks := []
  polled := []
  responses := []
  stage := .running

def fail (server : Server) (error : ProtocolError) : Server :=
  { server with stage := .ended (.error error) }

variable (codec : ServerCodec Fields Value)

def respond (server : Server) (id : Nat) (result : Result Value) (after : AfterWrite) : Server :=
  match codec.response id result with
  | none => server.fail .frameTooLarge
  | some bytes =>
    { server with
      responses := server.responses ++ [⟨id, id, header bytes ++ bytes, 0⟩]
      stage := .writing after }

/-- An image command has to be the first one after the greeting, and alone. -/
def stream (server : Server) (id : Nat) (image : Except RpcError (Value × List UInt8)) : Server :=
  if id ≠ 2 ∨ server.tasks ≠ [] then server.fail .requestOrder
  else
    match image with
    | .error error => server.respond codec id (.error error) .finish
    | .ok (manifest, bytes) => server.respond codec id (.ok manifest) (.image bytes)

def handle (server : Server) (request : Request Fields) (served : Served Value) : Server :=
  if !server.greeted then
    if request.command.kind ≠ .hello then server.fail .handshake
    else ({ server with greeted := true }).respond codec request.id (.ok served.hello) .serve
  else if request.command.kind = .hello then server.fail .handshake
  else if request.command.kind = .cameraImage then server.stream codec request.id served.image
  else if request.command.kind = .cameraGroupImage then server.stream codec request.id served.image
  else if maxInFlight ≤ server.tasks.length then server.fail .overloaded
  else
    let polled := { server with polled := server.polled ++ [request.id] }
    match served.ready with
    | some result => polled.respond codec request.id result .serve
    | none => { polled with tasks := polled.tasks ++ [request.id] }

def receive (server : Server) (bytes : List UInt8) (served : Served Value) : Server :=
  match codec.parse bytes with
  | none => server.fail .malformed
  | some request =>
    if request.version ≠ version then server.fail .version
    else if request.id ≤ server.lastId then server.fail .requestOrder
    else ({ server with lastId := request.id }).handle codec request served

def complete (server : Server) (number : Nat) (result : Result Value) : Server :=
  match server.stage, server.tasks[number]? with
  | .running, some id =>
    ({ server with tasks := server.tasks.eraseIdx number }).respond codec id result .serve
  | _, _ => server

def write (server : Server) (count : Nat) : Server :=
  { server with responses := advanceLast server.responses count }

def flush (server : Server) : Server :=
  if lastWritten server.responses then
    match server.stage with
    | .writing .serve => { server with stage := .running }
    | .writing .finish => { server with stage := .ended (.ok ()) }
    | .writing (.image bytes) =>
      { server with responses := server.responses ++ [⟨0, 0, bytes, 0⟩], stage := .image }
    | .image => { server with stage := .ended (.ok ()) }
    | _ => server
  else server

def isEnded (server : Server) : Bool :=
  match server.stage with
  | .ended _ => true
  | _ => false

end Server

structure Link (Fields Value : Type) where
  client : Client Fields Value
  server : Server
  /-- The bytes that each side has read. -/
  clientRead : Nat
  serverRead : Nat

namespace Link

inductive Op (Fields Value : Type) where
  | request (command : Command Fields) (deadline : Nat)
  | drop (call : Nat)
  /-- Time goes on, as long as no deadline of the connection is over. -/
  | tick (elapsed : Nat)
  | dequeue
  | write (count : Nat)
  | flush
  | serve (served : Served Value)
  | complete (number : Nat) (result : Result Value)
  | respond (count : Nat)
  | responded
  | receive

def new (limits : Limits) : Link Fields Value where
  client := .new limits
  server := { Server.new with greeted := true, lastId := 1 }
  clientRead := 0
  serverRead := 0

def requests (link : Link Fields Value) : List UInt8 :=
  (onWire link.client.frames).drop link.serverRead

def responses (link : Link Fields Value) : List UInt8 :=
  (onWire link.server.responses).drop link.clientRead

def isTimely (link : Link Fields Value) (elapsed : Nat) : Bool :=
  link.client.pending.all fun entry => decide (link.client.now + elapsed < entry.2.deadline)

def isDropped (link : Link Fields Value) : Bool :=
  match link.client.stage with
  | .draining => true
  | .ended => true
  | _ => false

variable (codec : Codec Fields Value) (serverCodec : ServerCodec Fields Value) (limits : Limits)

def pump (link : Link Fields Value) (event : Event) : Link Fields Value :=
  { link with client := link.client.pump codec limits event }

def delivered (unread : List UInt8) (ended : Bool) :
    Option (Except ProtocolError (Option (List UInt8))) :=
  match readFrame unread with
  | .frame bytes => some (.ok (some bytes))
  | .failed error => some (.error error)
  | .waiting =>
    if ended then
      if unread = [] then some (.ok none) else some (.error .malformed)
    else none

def receive (link : Link Fields Value) : Link Fields Value :=
  match link.client.stage, delivered link.responses link.server.isEnded with
  | .selecting, some frame =>
    { link.pump codec limits (.frame (some frame)) with
      clientRead :=
        match frame with
        | .ok (some bytes) => link.clientRead + (4 + bytes.length)
        | _ => link.clientRead }
  | _, _ => link

def serve (link : Link Fields Value) (served : Served Value) : Link Fields Value :=
  match link.server.stage, delivered link.requests link.isDropped with
  | .running, some (.ok (some bytes)) =>
    { link with
      server := link.server.receive serverCodec bytes served
      serverRead := link.serverRead + (4 + bytes.length) }
  | .running, some (.ok none) => { link with server := { link.server with stage := .ended (.ok ()) } }
  | .running, some (.error error) => { link with server := link.server.fail error }
  | .image, some _ => { link with server := link.server.fail .malformed }
  | _, _ => link

def step (link : Link Fields Value) : Op Fields Value → Link Fields Value
  | .request command deadline =>
    { link with client := (link.client.request limits command deadline).2 }
  | .drop call => { link with client := link.client.drop call }
  | .tick elapsed =>
    if link.isTimely elapsed then
      { link with client := { link.client with now := link.client.now + elapsed } }
    else link
  | .dequeue =>
    match link.client.stage with
    | .selecting => link.pump codec limits .request
    | _ => link
  | .write count =>
    match link.client.stage with
    | .writing _ => link.pump codec limits (.wrote count)
    | _ => link
  | .flush =>
    match link.client.stage with
    | .writing _ => link.pump codec limits .flushed
    | _ => link
  | .serve served => link.serve serverCodec served
  | .complete number result =>
    { link with server := link.server.complete serverCodec number result }
  | .respond count => { link with server := link.server.write count }
  | .responded => { link with server := link.server.flush }
  | .receive => link.receive codec limits

end Link

end Ipc

end Regain.Hub
