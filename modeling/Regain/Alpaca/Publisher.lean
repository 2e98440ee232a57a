import Mathlib.Logic.Function.Basic
import Regain.Hub.Ipc.Client
import Regain.Hub.Safety.Endpoint

/-!
# Alpaca outputs over private hub IPC

Every HTTP client has one session with the host: one stream, opened by its first connection change,
and the outputs that are connected through it. A change is admitted by the gate of its session and
then runs as a task of its own, so that a dropped HTTP caller does not stop it.
-/

namespace Regain.Alpaca

open Regain.Hub (Uuid)
open Regain.Hub.Ipc (ClientError RemoteError)
open Std (TreeMap TreeSet)

def maxClients : Nat := 24

/-- A device error: its number and its text. -/
structure Error where
  code : Int
  message : String
  deriving DecidableEq

def describe : ClientError → String
  | .disconnected => "Hub connection is closed; attach again"
  | .timeout => "Hub request deadline expired"
  | .protocol => "Hub response has an invalid protocol or identity"
  | .busy => "Hub client request limit reached"
  | .invalidRequest => "Hub request exceeds its limits or is not advertised"
  | .uncertain =>
    "Hub operation may have completed; reconcile state before issuing another command"
  | .remote _ => "Hub rejected the request; inspect its structured error"

def remoteCode (code : String) : Int :=
  if code = "unsupported" then 0x400
  else if code = "invalidValue" then 0x401
  else if code = "disconnected" ∨ code = "connecting" then 0x407
  else if code = "busy" then 0x40b
  else if code = "unavailable" then 0x402
  else 0x500

def remoteText (code : String) : String :=
  if code = "unsupported" then "unsupported"
  else if code = "invalidValue" then "invalid value"
  else if code = "disconnected" then "disconnected"
  else if code = "connecting" then "connecting"
  else if code = "busy" then "busy"
  else if code = "unavailable" then "unavailable"
  else if code = "uncertain" then "uncertain outcome; do not replay"
  else "source failure"

def translate : ClientError → Error
  | .disconnected => ⟨0x407, describe .disconnected⟩
  | .busy => ⟨0x40b, describe .busy⟩
  | .invalidRequest => ⟨0x401, describe .invalidRequest⟩
  | .remote remote =>
    { code := remoteCode remote.code
      message :=
        if remote.code = "unavailable"
            ∧ remote.message = "Source cannot provide required rotator reversal" then
          "Hub rotator requires a source that supports and reports reversal"
        else "Hub request failed (" ++ remoteText remote.code ++ ")" }
  | failure => ⟨0x500, describe failure⟩

/-- How a connection change fails; `rejected` is the context `OutputConnectionRejected`. -/
structure Failure where
  error : Error
  rejected : Bool
  deriving DecidableEq

def Failure.plain (error : Error) : Failure :=
  ⟨error, false⟩

def definite : ClientError → Bool
  | .remote remote => decide (remote.code ∈ ["unsupported", "invalidValue", "unavailable", "busy",
      "permanent", "disconnected", "connecting"])
  | _ => false

def connectionFailure (failure : ClientError) : Failure :=
  ⟨translate failure, definite failure⟩

namespace Failure

def disconnected : Failure :=
  .plain ⟨0x407, "Hub client was disconnected; connect explicitly again"⟩

def shuttingDown : Failure :=
  .plain ⟨0x407, "Hub frontend is shutting down"⟩

def hostChanged : Failure :=
  .plain ⟨0x407, "Hub host changed; attach the server again"⟩

def stopped : Failure :=
  .plain ⟨0x500, "Hub connection task stopped; outcome is uncertain"⟩

end Failure

/-- What the host says of itself when a stream is opened. -/
structure Hello where
  /-- Whether its instance is the one of the catalog. -/
  sameHost : Bool
  /-- Whether it has the capability `asyncOutputConnection`. -/
  modern : Bool

/-- The stream of a session. -/
structure Client where
  /-- `is_connected`. -/
  isConnected : Bool
  hello : Hello
  /-- Whether the session was retired when the stream was put in place; nothing reads it. -/
  late : Bool

def Client.close (client : Client) : Client :=
  { client with isConnected := false }

structure ConnectionProgress where
  error : Option Error
  deriving DecidableEq

structure Session (Timing : Type) where
  client : Option Client := none
  /-- Whether the gate is locked. -/
  gate : Bool := false
  outputs : TreeSet Uuid := ∅
  cameraTimings : TreeMap Uuid Timing := ∅
  retired : Bool := false
  progress : TreeMap Uuid ConnectionProgress := ∅
  /-- The client that the session was made for; nothing reads it. -/
  owner : UInt32
  /-- Whether one of its connection tasks was stopped; nothing reads it. -/
  disrupted : Bool := false

/-- The next step of `Session::close`. -/
inductive Closing where
  | retired
  | timings
  | client
  deriving DecidableEq

section

variable {Timing : Type}

def Session.close (session : Session Timing) : Closing → Session Timing × Option Closing
  | .retired => ({ session with retired := true }, some .timings)
  | .timings => ({ session with cameraTimings := ∅ }, some .client)
  | .client => ({ session with client := session.client.map Client.close }, none)

/-- The arguments of `connection`. -/
structure Change where
  id : UInt32
  output : Uuid
  on : Bool
  asynchronous : Bool
  camera : Bool
  deriving DecidableEq

inductive Command where
  | changeConnection (output : Uuid) (connected : Bool) (asynchronous : Bool)
  | connect (output : Uuid)
  | disconnect (output : Uuid)
  deriving DecidableEq

/-- The command of a change.  The host owns the operation, so it is never asked to answer
early. -/
def Change.command (change : Change) (hello : Hello) : Command :=
  if hello.modern then .changeConnection change.output change.on false
  else if change.on then .connect change.output
  else .disconnect change.output

/-- The next step of `ConnectionGuard::finish`, and of the drop of the gate behind it. -/
inductive Ending where
  | record
  | judge
  | close (closing : Closing)
  | clear
  | resolve
  | inspect
  | retire (closing : Closing)
  | remove
  | release
  deriving DecidableEq

/-- The next step of `connection` and of the task it spawns. -/
inductive Stage (Timing : Type) where
  /-- A session was found for a disconnection. -/
  | found
  /-- `retire` of a session that was retired before. -/
  | forget (closing : Closing)
  | forgotten
  | gate
  /-- The gate is locked; the change is put into `progress` and spawned. -/
  | spawn
  | start
  | initialise
  | check
  /-- The session was retired while its stream was opened. -/
  | discard
  | timing
  | timingReply
  | send (timing : Option Timing)
  | reply (timing : Option Timing)
  | timings (timing : Option Timing)
  | outputs
  /-- The guard records a result; `held` says whether its task still holds the gate. -/
  | finish (result : Except Failure Unit) (held : Bool) (ending : Ending)
  deriving DecidableEq

/-- What the environment contributes to a step. -/
structure Choice (Timing : Type) where
  /-- Whether the catalog is connected. -/
  catalog : Bool
  /-- How opening a stream ends. -/
  opened : Except ClientError Hello
  /-- Why an open client does not accept a request. -/
  refused : Option ClientError
  timing : Except ClientError Timing
  reply : Except ClientError Unit

/-- What a step does beyond the session. -/
inductive Event where
  /-- A client accepted the command of a change. -/
  | sent (command : Command)
  /-- A client accepted the command of a device request; `late` says that the request took the
  client after the session was retired. -/
  | forwarded (late : Bool)
  /-- A connection change was refused because another one is in flight. -/
  | busy
  /-- A disconnection that had nothing to disconnect. -/
  | idle
  /-- A change has ended with a result. -/
  | ended (result : Except Failure Unit)
  /-- `connecting` was read for an output. -/
  | reported (output : Uuid) (progress : Option ConnectionProgress)
  /-- A request was refused. -/
  | refused (error : Error)
  /-- A request was answered without the host. -/
  | answered (value : Bool)
  /-- `Publisher::close` has closed the session. -/
  | closed
  deriving DecidableEq

def Stage.finished (result : Except Failure Unit) (held : Bool) : Stage Timing :=
  .finish result held (if result.isOk then .resolve else .record)

def errorOf : Except Failure Unit → Option Error
  | .error failure => some failure.error
  | .ok () => none

def isRejected : Except Failure Unit → Bool
  | .error failure => failure.rejected
  | .ok () => false

namespace Session

def isClientConnected (session : Session Timing) : Bool :=
  (session.client.map Client.isConnected).getD false

def finish (session : Session Timing) (change : Change) (result : Except Failure Unit) :
    Ending → Session Timing × Ending
  | .record =>
    ({ session with
        progress := session.progress.insert change.output ⟨errorOf result⟩ }, .judge)
  | .judge =>
    if isRejected result then
      if !change.asynchronous && (session.outputs.isEmpty && session.progress.size == 1) then
        (session, .retire .retired)
      else (session, .release)
    else (session, .close .retired)
  | .close closing =>
    let closed := session.close closing
    (closed.1, (closed.2.map Ending.close).getD .clear)
  | .clear =>
    ({ session with outputs := ∅ },
      if change.asynchronous then .release else .retire .retired)
  | .resolve => ({ session with progress := session.progress.erase change.output }, .inspect)
  | .inspect =>
    if session.outputs.isEmpty && session.progress.isEmpty then (session, .retire .retired)
    else (session, .release)
  | .retire closing =>
    let closed := session.close closing
    (closed.1, (closed.2.map Ending.retire).getD .remove)
  -- the map of sessions belongs to the publisher
  | .remove => (session, .release)
  | .release => (session, .release)

/-- One step of `connection` or of its task: the session, the next step and what happened. -/
def advance (session : Session Timing) (change : Change) (choice : Choice Timing) :
    Stage Timing → Session Timing × Option (Stage Timing) × Option Event
  | .found => (session, some (if session.retired then .forget .retired else .gate), none)
  | .forget closing =>
    let closed := session.close closing
    (closed.1, some ((closed.2.map Stage.forget).getD .forgotten), none)
  | .forgotten => (session, none, some .idle)
  | .gate =>
    if session.gate then (session, none, some .busy)
    else ({ session with gate := true }, some .spawn, none)
  | .spawn =>
    ({ session with progress := session.progress.insert change.output ⟨none⟩ }, some .start, none)
  | .start =>
    (session, some (if session.retired then .finished (.error .disconnected) true
      else .initialise), none)
  | .initialise =>
    match session.client with
    | some _ => (session, some .check, none)
    | none =>
      match choice.opened with
      | .ok hello =>
        ({ session with client := some ⟨true, hello, session.retired⟩ }, some .check, none)
      | .error failure =>
        (session, some (.finished (.error (.plain (translate failure))) true), none)
  | .check =>
    (session, some (if session.retired then .discard
      else if (session.client.map fun client => client.hello.sameHost).getD false then
        if change.camera && change.on then .timing else .send none
      else .finished (.error .hostChanged) true), none)
  | .discard =>
    ({ session with client := session.client.map Client.close },
      some (.finished (.error .shuttingDown) true), none)
  | .timing =>
    if session.isClientConnected then
      match choice.refused with
      | some failure => (session, some (.finished (.error (connectionFailure failure)) true), none)
      | none => (session, some .timingReply, none)
    else (session, some (.finished (.error (connectionFailure .disconnected)) true), none)
  | .timingReply =>
    match choice.timing with
    | .ok timing => (session, some (.send (some timing)), none)
    | .error failure => (session, some (.finished (.error (connectionFailure failure)) true), none)
  | .send timing =>
    match session.client with
    | some ⟨true, hello, _⟩ =>
      match choice.refused with
      | some failure =>
        (session, some (.finished (.error (connectionFailure failure)) true), none)
      | none => (session, some (.reply timing), some (.sent (change.command hello)))
    | _ => (session, some (.finished (.error (connectionFailure .disconnected)) true), none)
  | .reply timing =>
    match choice.reply with
    | .ok () => (session, some (if change.camera then .timings timing else .outputs), none)
    | .error failure => (session, some (.finished (.error (connectionFailure failure)) true), none)
  | .timings timing =>
    let timings := match timing with
      | some timing => session.cameraTimings.insert change.output timing
      | none => session.cameraTimings.erase change.output
    ({ session with cameraTimings := timings }, some .outputs, none)
  | .outputs =>
    let outputs := if change.on then session.outputs.insert change.output
      else session.outputs.erase change.output
    ({ session with outputs := outputs }, some (.finished (.ok ()) true), none)
  | .finish result held .release =>
    (if held then { session with gate := false } else session, none, some (.ended result))
  | .finish result held ending =>
    let finished := session.finish change result ending
    (finished.1, some (.finish result held finished.2), none)

end Session

/-- The members of a device that a session answers, or forwards. -/
inductive Call where
  /-- A device member; `cameraPut` when it is written to a camera. -/
  | member (output : Uuid) (cameraPut : Bool)
  | connected
  | connecting (output : Uuid)

/-- The next step of `request` after it has found a session. -/
inductive Reading where
  | memberRetired (output : Uuid) (cameraPut : Bool)
  | memberClient (output : Uuid) (cameraPut : Bool)
  | memberTiming (output : Uuid) (late : Bool)
  | connectedClient
  | connectedOpen (late : Bool)
  | connectedRetired (late : Bool)
  | request (late : Bool)
  | connecting (output : Uuid)
  deriving DecidableEq

def Call.reading : Call → Reading
  | .member output cameraPut => .memberRetired output cameraPut
  | .connected => .connectedClient
  | .connecting output => .connecting output

def Call.absent : Call → Event
  | .member _ _ => .refused ⟨0x407, "Connect this Alpaca client first"⟩
  | .connected => .answered false
  | .connecting output => .reported output none

namespace Session

def read (session : Session Timing) (choice : Choice Timing) : Reading → Option Reading × Option Event
  | .memberRetired output cameraPut =>
    if session.retired then (none, some (.refused ⟨0x407, "Hub client is disconnected"⟩))
    else (some (.memberClient output cameraPut), none)
  | .memberClient output cameraPut =>
    match session.client with
    | none => (none, some (.refused ⟨0x407, "Hub client is not connected"⟩))
    | some _ =>
      (some (if cameraPut then .memberTiming output session.retired
        else .request session.retired), none)
  | .memberTiming output late =>
    match session.cameraTimings[output]? with
    | none => (none, some (.refused ⟨0x407, "Connect this camera output first"⟩))
    | some _ => (some (.request late), none)
  | .connectedClient =>
    match session.client with
    | none => (none, some (.answered false))
    | some _ => (some (.connectedOpen session.retired), none)
  | .connectedOpen late =>
    if session.isClientConnected then (some (.connectedRetired late), none)
    else (none, some (.answered false))
  | .connectedRetired late =>
    if session.retired then (none, some (.answered false)) else (some (.request late), none)
  | .request late =>
    if session.isClientConnected then
      match choice.refused with
      | some failure => (none, some (.refused (translate failure)))
      | none => (none, some (.forwarded late))
    else (none, some (.refused (translate .disconnected)))
  | .connecting output => (none, some (.reported output session.progress[output]?))

end Session

inductive Thread (Timing : Type) where
  | change (change : Change) (session : Nat) (stage : Stage Timing)
  | reading (session : Nat) (reading : Reading)
  /-- `Publisher::close` closes a session; the others follow. -/
  | closing (session : Nat) (rest : List Nat) (closing : Closing)
  deriving DecidableEq

structure Publisher (Timing : Type) where
  closed : Bool
  /-- The map of sessions; a session is named by its number. -/
  clients : TreeMap UInt32 Nat
  sessions : Nat → Session Timing
  created : Nat
  threads : Nat → Option (Thread Timing)
  spawned : Nat

end

inductive Op (Timing : Type) where
  /-- `connection` up to its session. -/
  | connection (change : Change) (choice : Choice Timing)
  | request (id : UInt32) (call : Call)
  /-- `Publisher::close` empties the map, in the order that it has the sessions in. -/
  | close (drained : List Nat)
  | step (thread : Nat) (choice : Choice Timing)
  /-- The task of a connection change panics or is dropped. -/
  | stop (thread : Nat)
  /-- The stream of a session fails. -/
  | lost (session : Nat)

/-- What a step does: the thread, its session and the event. -/
structure Effect where
  thread : Nat
  session : Option Nat
  event : Event
  deriving DecidableEq

def Stage.stoppable {Timing : Type} : Stage Timing → Bool
  | .start => true
  | .initialise => true
  | .timing => true
  | .timingReply => true
  | .send _ => true
  | .reply _ => true
  | .timings _ => true
  | .outputs => true
  | _ => false

def Stage.removes {Timing : Type} : Stage Timing → Bool
  | .forgotten => true
  | .finish _ _ .remove => true
  | _ => false

namespace Publisher

variable {Timing : Type}

def new : Publisher Timing where
  closed := false
  clients := ∅
  sessions := fun _ => { owner := 0 }
  created := 0
  threads := fun _ => none
  spawned := 0

def setSession (publisher : Publisher Timing) (index : Nat) (session : Session Timing) :
    Publisher Timing :=
  { publisher with sessions := Function.update publisher.sessions index session }

def setThread (publisher : Publisher Timing) (index : Nat) (thread : Option (Thread Timing)) :
    Publisher Timing :=
  { publisher with threads := Function.update publisher.threads index thread }

def spawn (publisher : Publisher Timing) (thread : Thread Timing) : Publisher Timing :=
  { publisher.setThread publisher.spawned (some thread) with spawned := publisher.spawned + 1 }

def existing (publisher : Publisher Timing) (id : UInt32) : Option Nat :=
  publisher.clients[id]?

def create (publisher : Publisher Timing) (id : UInt32) : Publisher Timing :=
  { publisher.setSession publisher.created { owner := id } with
    clients := publisher.clients.insert id publisher.created
    created := publisher.created + 1 }

def reserve (publisher : Publisher Timing) (id : UInt32) (catalog : Bool) :
    Except Error (Nat × Publisher Timing) :=
  if !publisher.closed && catalog then
    match publisher.clients[id]? with
    | some session =>
      if !(publisher.sessions session).retired then .ok (session, publisher)
      else .ok (publisher.created, publisher.create id)
    | none =>
      if publisher.clients.size < maxClients then .ok (publisher.created, publisher.create id)
      else .error ⟨0x40b, "Hub HTTP client limit reached; disconnect an unused client"⟩
  else .error ⟨0x407, "Hub is disconnected; attach the server again"⟩

/-- The second half of `retire`: the session leaves the map if it still is the client's. -/
def remove (publisher : Publisher Timing) (id : UInt32) (session : Nat) : Publisher Timing :=
  if publisher.clients[id]? = some session then
    { publisher with clients := publisher.clients.erase id }
  else publisher

def connection (publisher : Publisher Timing) (change : Change) (choice : Choice Timing) :
    Option Effect × Publisher Timing :=
  if change.on then
    match publisher.reserve change.id choice.catalog with
    | .error error => (some ⟨publisher.spawned, none, .refused error⟩, publisher)
    | .ok (session, publisher) => (none, publisher.spawn (.change change session .gate))
  else
    match publisher.existing change.id with
    | some session => (none, publisher.spawn (.change change session .found))
    | none => (some ⟨publisher.spawned, none, .idle⟩, publisher)

def request (publisher : Publisher Timing) (id : UInt32) (call : Call) :
    Option Effect × Publisher Timing :=
  match publisher.existing id with
  | some session => (none, publisher.spawn (.reading session call.reading))
  | none => (some ⟨publisher.spawned, none, call.absent⟩, publisher)

def close (publisher : Publisher Timing) (drained : List Nat) : Publisher Timing :=
  let publisher' := { publisher with closed := true, clients := ∅ }
  if drained.Perm (publisher.clients.toList.map Prod.snd) then
    match drained with
    | [] => publisher'
    | session :: rest => publisher'.spawn (.closing session rest .retired)
  else publisher

def advance (publisher : Publisher Timing) (index : Nat) (choice : Choice Timing) :
    Thread Timing → Option Effect × Publisher Timing
  | .change change session stage =>
    let moved := (publisher.sessions session).advance change choice stage
    let publisher := if stage.removes then publisher.remove change.id session else publisher
    (moved.2.2.map fun event => ⟨index, some session, event⟩,
      (publisher.setSession session moved.1).setThread index
        (moved.2.1.map fun stage => .change change session stage))
  | .reading session reading =>
    let moved := (publisher.sessions session).read choice reading
    (moved.2.map fun event => ⟨index, some session, event⟩,
      publisher.setThread index (moved.1.map fun reading => .reading session reading))
  | .closing session rest closing =>
    let closed := (publisher.sessions session).close closing
    let publisher := publisher.setSession session closed.1
    match closed.2, rest with
    | some closing, rest => (none, publisher.setThread index (some (.closing session rest closing)))
    | none, [] => (some ⟨index, some session, .closed⟩, publisher.setThread index none)
    | none, next :: rest =>
      (some ⟨index, some session, .closed⟩,
        publisher.setThread index (some (.closing next rest .retired)))

/-- A task ends without its result: it drops the gate first and its guard after that. -/
def stop (publisher : Publisher Timing) (index : Nat) : Thread Timing → Publisher Timing
  | .change change session stage =>
    if stage.stoppable then
      let stopped := { publisher.sessions session with gate := false, disrupted := true }
      (publisher.setSession session stopped).setThread index
        (some (.change change session (.finished (.error .stopped) false)))
    else publisher
  | _ => publisher

def lose (publisher : Publisher Timing) (index : Nat) : Publisher Timing :=
  let session := publisher.sessions index
  publisher.setSession index { session with client := session.client.map Client.close }

def machine : Lib.Machine (Publisher Timing) (Op Timing) (Option Effect) where
  step publisher
    | .connection change choice => publisher.connection change choice
    | .request id call => publisher.request id call
    | .close drained => (none, publisher.close drained)
    | .step index choice =>
      match publisher.threads index with
      | some thread => publisher.advance index choice thread
      | none => (none, publisher)
    | .stop index =>
      match publisher.threads index with
      | some thread => (none, publisher.stop index thread)
      | none => (none, publisher)
    | .lost index => (none, publisher.lose index)

end Publisher

end Regain.Alpaca
