import Regain.Hub.Configuration.Config
import Regain.Lib.Routine

/-!
# The connection of an Alpaca source

A connection is a handshake of single steps, one HTTP request each, with the request for the
catalogue before it when the source is pinned to an identity.
-/

namespace Regain.Hub

open Lib
open Routine (act ensure fail modify ofExcept ret)

namespace Alpaca

def maxResponseBytes : Nat := 1024 * 1024

inductive ConnectionPolicy where
  | managed
  | externallyManaged
  deriving DecidableEq

inductive ConnectionMethod where
  | legacy
  | async
  deriving DecidableEq

inductive ConnectionPhase where
  | discover
  | check
  | open_
  | waitOpen
  | verify
  | ready
  | waitClose
  | failed
  deriving DecidableEq

inductive Member where
  | interfaceVersion
  | connected
  | connecting

/-- A connection write: the method, and whether it opens. -/
structure Write where
  method : ConnectionMethod
  opens : Bool

inductive Target where
  | catalog
  | read (member : Member)
  | write (write : Write)

def Member.name : Member → String
  | .interfaceVersion => "interfaceversion"
  | .connected => "connected"
  | .connecting => "connecting"

def Write.name (write : Write) : String :=
  match write.method with
  | .legacy => "connected"
  | .async => if write.opens then "connect" else "disconnect"

def Target.name : Target → String
  | .catalog => "configureddevices"
  | .read member => member.name
  | .write request => request.name

def Target.isWrite : Target → Bool
  | .write _ => true
  | _ => false

/-- What comes of a request that is waited for. -/
inductive Http where
  | failed
  /-- The head of a response, and the chunks of its body until one fails. -/
  | response (status : Nat) (retryAfter : Option Nat) (length : Option Nat)
      (chunks : List (Option (List UInt8)))

structure Envelope where
  errorNumber : Int
  clientTransaction : Option Nat
  value : Option Json

def badResponse (write : Bool) : SourceError :=
  if write then .uncertain
  else .new .permanent "Invalid or oversized Alpaca response"

def transportError (write : Bool) : SourceError :=
  if write then .uncertain else .transient

def httpError (status : Nat) (retryAfter : Option Nat) (member : String) : SourceError :=
  { SourceError.new
      (if status = 404 ∧ member = "interfaceversion" then .unsupported
      else if status ∈ [408, 429, 500, 502, 503, 504] then .transient
      else .permanent)
      "Alpaca server returned an HTTP error" with
    upstreamCode := some (status : Int)
    retryAfter := retryAfter }

def upstreamError (number : Int) : SourceError :=
  { SourceError.new
      (if number = 0x400 ∨ number = 0x40c then .unsupported
      else if number = 0x401 then .invalidValue
      else if number = 0x402 then .unavailable
      else if number = 0x407 then .disconnected
      else .permanent)
      "Upstream Alpaca device rejected the request" with
    upstreamCode := some number
    transportLost := number == 0x407 }

def readChunks (write : Bool) : List UInt8 → List (Option (List UInt8)) →
    Except SourceError (List UInt8)
  | body, [] => .ok body
  | _, none :: _ => .error (transportError write)
  | body, some chunk :: rest =>
    if maxResponseBytes - body.length < chunk.length then .error (badResponse write)
    else readChunks write (body ++ chunk) rest

def readBody (target : Target) : Http → Except SourceError (List UInt8)
  | .failed => .error (transportError target.isWrite)
  | .response status retryAfter length chunks =>
    if status ≠ 200 then .error (httpError status retryAfter target.name)
    else if length.any fun length => maxResponseBytes < length then
      .error (badResponse target.isWrite)
    else readChunks target.isWrite [] chunks

def parseResponse (envelope : Option Envelope) (transaction : Nat) (write : Bool) :
    Except SourceError Json :=
  match envelope with
  | none => .error (badResponse write)
  | some fields =>
    if fields.clientTransaction.any fun id => id ≠ transaction then .error (badResponse write)
    else if fields.errorNumber ≠ 0 then .error (upstreamError fields.errorNumber)
    else
      match fields.value with
      | some value => .ok value
      | none => if write then .ok .null else .error (badResponse false)

structure Device where
  deviceType : Option DeviceType
  number : Nat
  uniqueId : String

structure IdentityPin where
  number : Nat
  uniqueId : String

structure Backend where
  policy : ConnectionPolicy
  deviceType : DeviceType
  identityPin : Option IdentityPin
  transaction : Nat
  openedConnection : Option ConnectionMethod
  connectionUncertain : Bool
  interfaceVersion : Option Nat
  connectionMethod : Option ConnectionMethod
  connectionPhase : ConnectionPhase
  connectionStarted : Option Nat
  connectionDeadline : Nat

/-- What is sent, and what the backend makes of the answers. -/
inductive Event where
  | sent (target : Target)
  | read (member : Member) (value : Bool)
  | written (write : Write) (result : Except SourceError Unit)
  /-- The step that waited for a connection write was abandoned. -/
  | abandoned (write : Write)
  /-- `connect_step` found the connection deadline over. -/
  | expired
  | stepped (result : Except SourceError Bool)
  | disconnecting
  | reset

structure World where
  now : Nat
  backend : Backend
  /-- The replies that are waited for; with no reply left the step is abandoned. -/
  replies : List Http
  catalogs : List (Except SourceError (List Device))
  events : List Event

abbrev Task (α : Type) := Routine World SourceError α

def World.log (world : World) (event : Event) : World :=
  { world with events := world.events ++ [event] }

def World.set (world : World) (backend : Backend) : World :=
  { world with backend := backend }

def connectionExpired : SourceError :=
  .new .permanent "Source connection timed out; disconnect or reconfigure before trying again"

def asynchronousVersion : DeviceType → Nat
  | .camera => 4
  | .focuser => 4
  | .rotator => 4
  | .switch => 3
  | .safetyMonitor => 3
  | .filterWheel => 3
  | .observingConditions => 2
  | .coverCalibrator => 2

def nextTransaction (transaction : Nat) : Nat :=
  max ((transaction + 1) % 2 ^ 32) 1

def transact : Task Nat :=
  act fun world =>
    (nextTransaction world.backend.transaction,
      world.set { world.backend with transaction := nextTransaction world.backend.transaction })

def send (target : Target) : Task Http :=
  fun world =>
    match world.replies with
    | [] => (.pending, world.log (.sent target))
    | reply :: replies => (.done reply, { world.log (.sent target) with replies := replies })

def query : Task (List Device) :=
  fun world =>
    match world.catalogs with
    | [] => (.pending, world.log (.sent .catalog))
    | .error error :: catalogs =>
      (.failed error, { world.log (.sent .catalog) with catalogs := catalogs })
    | .ok devices :: catalogs =>
      (.done devices, { world.log (.sent .catalog) with catalogs := catalogs })

variable (normalizeId : String → String) (parse : List UInt8 → Option Envelope)

def verifyIdentity : Task Unit := do
  let world ← Routine.get
  match world.backend.identityPin with
  | none => ret ()
  | some pin =>
    let _ ← transact
    let catalog ← query
    ensure
      (catalog.any fun device =>
        device.deviceType = some world.backend.deviceType ∧ device.number = pin.number
          ∧ normalizeId device.uniqueId = pin.uniqueId)
      (.new .permanent ("Pinned Alpaca identity no longer matches this device address; "
          ++ "inspect the server catalog before reconnecting"))

def request (target : Target) : Task Json := do
  verifyIdentity normalizeId
  let transaction ← transact
  let response ← send target
  let body ← ofExcept (readBody target response)
  ofExcept (parseResponse (parse body) transaction target.isWrite)

def connectionBoolean (member : Member) : Task Bool := do
  let value ← request normalizeId parse (.read member)
  match value.asBool with
  | none => fail (badResponse false)
  | some value => do
    modify (·.log (.read member value))
    ret value

def connectionWrite (write : Write) : Task Unit :=
  fun world =>
    match request normalizeId parse (.write write) world with
    | (.done _, world) => (.done (), world.log (.written write (.ok ())))
    | (.failed error, world) => (.failed error, world.log (.written write (.error error)))
    | (.pending, world) => (.pending, world.log (.abandoned write))

def update (f : Backend → Backend) : Task Unit :=
  modify fun world => world.set (f world.backend)

def enter (phase : ConnectionPhase) : Task Unit :=
  update fun backend => { backend with connectionPhase := phase }

def discover : Task Unit := do
  let reply ← (request normalizeId parse (.read .interfaceVersion)).attempt
  let version ←
    match reply with
    | .ok value =>
      match value.asNat.filter fun version => 1 ≤ version ∧ version ≤ 2 ^ 15 - 1 with
      | some version => ret (some version)
      | none => fail (badResponse false)
    | .error error =>
      if error.kind = .unsupported then ret none else fail error
  update fun backend =>
    { backend with
      interfaceVersion := version
      connectionMethod := some
        (if version.any fun version => asynchronousVersion backend.deviceType ≤ version then .async
        else .legacy)
      connectionPhase := .check }

def check : Task Unit := do
  let connected ← connectionBoolean normalizeId parse .connected
  let world ← Routine.get
  let modernManaged := world.backend.policy = .managed ∧ world.backend.connectionMethod = some .async
  if connected = true ∧ ¬modernManaged then enter .ready
  else if world.backend.policy = .externallyManaged then
    fail (.new .transient "Upstream device is disconnected; its owner must connect it")
  else enter .open_

def openConnection (method : ConnectionMethod) : Task Unit := do
  update fun backend => { backend with connectionUncertain := true }
  let result ← (connectionWrite normalizeId parse ⟨method, true⟩).attempt
  match result with
  | .ok _ =>
    update fun backend =>
      { backend with
        openedConnection := some method
        connectionUncertain := false
        connectionPhase := if method = .async then .waitOpen else .ready }
  | .error error => do
    if error.leavesWriteOpen then ret ()
    else update fun backend => { backend with connectionUncertain := false }
    fail error

def waitOpen : Task Unit := do
  let connecting ← connectionBoolean normalizeId parse .connecting
  if connecting then ret () else enter .verify

def verify : Task Unit := do
  let connected ← connectionBoolean normalizeId parse .connected
  if connected then enter .ready
  else do
    enter .failed
    fail (.new .permanent "Upstream connection completed without connecting")

def waitClose : Task Unit := do
  let connecting ← connectionBoolean normalizeId parse .connecting
  if connecting then ret () else enter .discover

def connectionOperation : Task Bool := do
  let world ← Routine.get
  match world.backend.connectionPhase with
  | .discover => discover normalizeId parse
  | .check => check normalizeId parse
  | .open_ =>
    match world.backend.connectionMethod with
    | some method => openConnection normalizeId parse method
    -- `unwrap` panics.
    | none => fun world => (.pending, world)
  | .waitOpen => waitOpen normalizeId parse
  | .verify => verify normalizeId parse
  | .waitClose => waitClose normalizeId parse
  | .ready => ret ()
  | .failed => ret ()
  let world ← Routine.get
  ret (world.backend.connectionPhase = .ready)

def expire : Task Bool := do
  enter .failed
  modify (·.log .expired)
  fail connectionExpired

/-- The operation under its deadline; `expires` says whether the deadline ends a wait for a
reply. -/
def bounded (expires : Bool) (task : Task Bool) : Task Bool :=
  fun world =>
    match task world with
    | (.done value, world) => (.done value, world)
    | (.failed error, world) => (.failed error, world)
    | (.pending, world) => if expires then expire world else (.pending, world)

def connectionStep (expires : Bool) : Task Bool := do
  let world ← Routine.get
  if world.backend.connectionUncertain then fail .uncertain
  else if world.backend.connectionPhase = .ready then ret true
  else if world.backend.connectionPhase = .failed then fail connectionExpired
  else do
    let started := world.backend.connectionStarted.getD world.now
    update fun backend => { backend with connectionStarted := some started }
    if world.backend.connectionDeadline < world.now - started then expire
    else bounded expires (connectionOperation normalizeId parse)

def disconnect : Task Unit := do
  let world ← Routine.get
  match world.backend.openedConnection with
  | some method =>
    if world.backend.connectionUncertain then fail .uncertain
    else do
      update fun backend => { backend with connectionUncertain := true }
      connectionWrite normalizeId parse ⟨method, false⟩
      update fun backend =>
        { backend with
          openedConnection := none
          connectionUncertain := false
          connectionPhase := if method = .async then .waitClose else .discover
          connectionStarted := none }
  | none =>
    if world.backend.connectionPhase = .waitClose then ret ()
    else update fun backend =>
      { backend with connectionPhase := .discover, connectionStarted := none }

def reset (backend : Backend) : Backend :=
  match backend.connectionPhase with
  | .ready => { backend with connectionPhase := .discover, connectionStarted := none }
  | .discover => { backend with connectionPhase := .discover, connectionStarted := none }
  | .check => { backend with connectionPhase := .discover, connectionStarted := none }
  | .open_ => { backend with connectionPhase := .discover, connectionStarted := none }
  | _ => backend

structure Source where
  now : Nat
  backend : Backend
  events : List Event

inductive Op where
  | connectStep (replies : List Http) (catalogs : List (Except SourceError (List Device)))
      (expires : Bool)
  | disconnect (replies : List Http) (catalogs : List (Except SourceError (List Device)))
  | reset
  | tick (elapsed : Nat)

namespace Source

def new (policy : ConnectionPolicy) (deviceType : DeviceType) (identityPin : Option IdentityPin)
    (connectionDeadline : Nat) : Source where
  now := 0
  backend :=
    { policy := policy
      deviceType := deviceType
      identityPin := identityPin
      transaction := 0
      openedConnection := none
      connectionUncertain := false
      interfaceVersion := none
      connectionMethod := none
      connectionPhase := .discover
      connectionStarted := none
      connectionDeadline := connectionDeadline }
  events := []

def world (source : Source) (replies : List Http)
    (catalogs : List (Except SourceError (List Device))) : World where
  now := source.now
  backend := source.backend
  replies := replies
  catalogs := catalogs
  events := source.events

def after (source : Source) : Progress SourceError Bool × World → Source
  | (.done value, world) =>
    ⟨source.now, world.backend, world.events ++ [.stepped (.ok value)]⟩
  | (.failed error, world) =>
    ⟨source.now, world.backend, world.events ++ [.stepped (.error error)]⟩
  | (.pending, world) => ⟨source.now, world.backend, world.events⟩

def step (source : Source) : Op → Source
  | .connectStep replies catalogs expires =>
    source.after (connectionStep normalizeId parse expires (source.world replies catalogs))
  | .disconnect replies catalogs =>
    let world := (disconnect normalizeId parse
      ((source.world replies catalogs).log .disconnecting)).2
    ⟨source.now, world.backend, world.events⟩
  | .reset => ⟨source.now, reset source.backend, source.events ++ [.reset]⟩
  | .tick elapsed => { source with now := source.now + elapsed }

end Source

def machine : Machine Source Op Unit where
  step := fun source op => ((), source.step normalizeId parse op)

end Alpaca

end Regain.Hub
