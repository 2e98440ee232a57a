import Regain.Hub.Source.Backend
import Regain.Lib.Machine

/-!
# Client sessions of a runtime

Clients reserve, open, change and drop connections to the outputs of a runtime. A reservation is an
entry of the client's map, a cancel channel and a guard that the attempt owns.
-/

namespace Regain.Hub

open Lib
open Std (TreeMap)

namespace Runtime

def disconnected : SourceError :=
  .new .disconnected "This client is not connected to the output"

def unknownOutput : SourceError :=
  .new .invalidValue "Unknown output ID"

def applying : SourceError :=
  .new .busy "Hub configuration is being applied"

def changing : SourceError :=
  .new .busy "A client connection change is in progress"

/-- `ClientConnection`: a reservation, or a connection. -/
inductive Connection where
  | pending (token : Nat)
  | ready (token : Nat)
  deriving DecidableEq

structure Client where
  closed : Bool
  connections : TreeMap Uuid Connection
  /-- The accepted change, and its output. -/
  change : Option (Nat × Uuid)
  connectionErrors : TreeMap Uuid SourceError

/-- Where a connection attempt is. -/
inductive AttemptStage where
  /-- It waits for its device, or for its cancellation. -/
  | opening (started : Bool)
  | opened
  /-- The guard is dropped: first the reservation goes, then the activity. -/
  | dropping (error : SourceError)
  | releasing (error : SourceError)
  | ended (error : SourceError)

structure Attempt where
  client : Nat
  output : Uuid
  /-- The change that the attempt belongs to. -/
  change : Option Nat
  /-- The other end of the channel is dropped. -/
  cancelled : Bool
  stage : AttemptStage

/-- Where the task of an accepted change is. -/
inductive ChangeStage where
  | spawned
  | connecting (attempt : Nat) (expired : Bool)
  | finishing (error : Option SourceError)
  | releasing
  | ended
  deriving DecidableEq

structure Change where
  client : Nat
  output : Uuid
  connected : Bool
  stage : ChangeStage

/-- What an activity is for. -/
inductive Role where
  | attempt (attempt : Attempt)
  | connection (client : Nat) (output : Uuid)
  | change (change : Change)
  | inspection
  | group
  /-- A finite discovery job; a native one freezes admission until its guard is dropped. -/
  | discovery (frozen : Bool)
  /-- The guard of a quiet runtime; it has no activity of its own. -/
  | quiescent (frozen : Bool)
  /-- Work of the camera owners, which share the counter. -/
  | other

structure Holder where
  role : Role
  held : Bool

def Holder.freezing (holder : Holder) : Bool :=
  match holder.role with
  | .discovery frozen => frozen
  | .quiescent frozen => frozen
  | _ => false

/-- `lifecycle` is `closed`, `frozen` and `registered`; `dropped` has what was taken out of a
map or cloned by a command, until it is dropped outside the lock. -/
structure HubRuntime where
  outputs : List Uuid
  closed : Bool
  frozen : Bool
  registered : List Nat
  clients : List Client
  active : Nat
  holders : List Holder
  dropped : List Connection
  /-- The clients that a shutdown still has to close. -/
  closing : List Nat

namespace HubRuntime

def new (outputs : List Uuid) : HubRuntime where
  outputs := outputs
  closed := false
  frozen := false
  registered := []
  clients := []
  active := 0
  holders := []
  dropped := []
  closing := []

def entry (runtime : HubRuntime) (client : Nat) (output : Uuid) : Option Connection :=
  runtime.clients[client]?.bind fun state => state.connections[output]?

def modifyClient (runtime : HubRuntime) (client : Nat) (change : Client → Client) : HubRuntime :=
  { runtime with clients := runtime.clients.modify client change }

def insertEntry (runtime : HubRuntime) (client : Nat) (output : Uuid) (connection : Connection) :
    HubRuntime :=
  runtime.modifyClient client fun state =>
    { state with connections := state.connections.insert output connection }

def eraseEntry (runtime : HubRuntime) (client : Nat) (output : Uuid) : HubRuntime :=
  runtime.modifyClient client fun state =>
    { state with connections := state.connections.erase output }

def hold (runtime : HubRuntime) (role : Role) : HubRuntime :=
  { runtime with active := runtime.active + 1, holders := runtime.holders ++ [⟨role, true⟩] }

def setRole (runtime : HubRuntime) (index : Nat) (role : Role) : HubRuntime :=
  { runtime with holders := runtime.holders.modify index fun holder => { holder with role := role } }

def free (runtime : HubRuntime) (index : Nat) (role : Role) : HubRuntime :=
  { runtime with
    active := runtime.active - 1
    holders := runtime.holders.modify index fun _ => ⟨role, false⟩ }

def take (runtime : HubRuntime) (connections : List Connection) : HubRuntime :=
  { runtime with dropped := runtime.dropped ++ connections }

def client (runtime : HubRuntime) : HubRuntime :=
  { runtime with
    clients := runtime.clients ++ [⟨runtime.closed, ∅, none, ∅⟩]
    registered :=
      if runtime.closed then runtime.registered
      else runtime.registered ++ [runtime.clients.length] }

def admission (runtime : HubRuntime) : Except SourceError Unit :=
  if runtime.closed then .error disconnected
  else if runtime.frozen then .error applying
  else .ok ()

def Client.reservable (state : Client) (change : Option Nat) : Except SourceError Unit :=
  if state.closed then .error disconnected
  else if state.change.map Prod.fst ≠ change then .error changing
  else .ok ()

/-- The part of `connect_inner` under the locks: no attempt is needed, or one was reserved. -/
def reserve (runtime : HubRuntime) (client : Nat) (output : Uuid) (change : Option Nat) :
    Except SourceError (Option Nat) × HubRuntime :=
  if output ∉ runtime.outputs then (.error unknownOutput, runtime)
  else
    match runtime.admission, runtime.clients[client]? with
    | .error error, _ => (.error error, runtime)
    | .ok (), none => (.error disconnected, runtime)
    | .ok (), some state =>
      match Client.reservable state change with
      | .error error => (.error error, runtime)
      | .ok () =>
        let cleared := runtime.modifyClient client fun state =>
          { state with connectionErrors := state.connectionErrors.erase output }
        match state.connections[output]? with
        | some (.ready _) => (.ok none, cleared)
        | some (.pending _) =>
          (.error (.new .busy "Output connection is already in progress"), cleared)
        | none =>
          (.ok (some runtime.holders.length),
            (cleared.hold (.attempt ⟨client, output, change, false, .opening false⟩)).insertEntry
              client output (.pending runtime.holders.length))

def setStage (runtime : HubRuntime) (index : Nat) (attempt : Attempt) (stage : AttemptStage) :
    HubRuntime :=
  runtime.setRole index (.attempt { attempt with stage := stage })

def settle (runtime : HubRuntime) (index : Nat) (attempt : Attempt) : HubRuntime :=
  if (runtime.clients[attempt.client]?).all (fun state => state.closed)
      || runtime.entry attempt.client attempt.output ≠ some (.pending index) then
    runtime.setStage index attempt (.dropping disconnected)
  else
    ((runtime.eraseEntry attempt.client attempt.output).setRole index
      (.connection attempt.client attempt.output)).insertEntry attempt.client attempt.output
        (.ready index)

def poll (runtime : HubRuntime) (index : Nat) (opened : Option (Except SourceError Unit)) :
    HubRuntime :=
  match runtime.holders[index]? with
  | some ⟨.attempt attempt, _⟩ =>
    match attempt.stage with
    | .opening started =>
      if attempt.cancelled || !started && runtime.closed then
        runtime.setStage index attempt (.dropping disconnected)
      else
        match opened with
        | none => runtime.setStage index attempt (.opening true)
        | some (.error error) => runtime.setStage index attempt (.dropping error)
        | some (.ok ()) => runtime.setStage index attempt .opened
    | .opened => runtime.settle index attempt
    | .dropping error =>
      let removed :=
        if runtime.entry attempt.client attempt.output = some (.pending index) then
          runtime.eraseEntry attempt.client attempt.output
        else runtime
      removed.setStage index attempt (.releasing error)
    | .releasing error => runtime.free index (.attempt { attempt with stage := .ended error })
    | .ended _ => runtime
  | _ => runtime

def abandon (runtime : HubRuntime) (index : Nat) : HubRuntime :=
  match runtime.holders[index]? with
  | some ⟨.attempt attempt, _⟩ =>
    match attempt.stage with
    | .opening _ => runtime.setStage index attempt (.dropping .uncertain)
    | _ => runtime
  | _ => runtime

def disconnect (runtime : HubRuntime) (client : Nat) (output : Uuid) : HubRuntime :=
  (runtime.eraseEntry client output).take (runtime.entry client output).toList

def disconnectChecked (runtime : HubRuntime) (client : Nat) (output : Uuid) :
    Except SourceError Unit × HubRuntime :=
  match runtime.clients[client]? with
  | none => (.ok (), runtime)
  | some state =>
    if state.change.isSome then (.error changing, runtime)
    else
      (.ok (), (runtime.modifyClient client fun state =>
        { state with connectionErrors := state.connectionErrors.erase output }).disconnect client
          output)

def connections (runtime : HubRuntime) (client : Nat) : List Connection :=
  (runtime.clients[client]?).elim [] fun state => state.connections.toList.map Prod.snd

def close (runtime : HubRuntime) (client : Nat) : HubRuntime :=
  (runtime.modifyClient client fun state =>
    { state with closed := true, connections := ∅, connectionErrors := ∅ }).take
      (runtime.connections client)

def connection (runtime : HubRuntime) (client : Nat) (output : Uuid) :
    Except SourceError Nat × HubRuntime :=
  match runtime.entry client output with
  | some (.ready token) => (.ok token, runtime.take [.ready token])
  | some (.pending _) =>
    (.error (.new .connecting "Output connection is in progress"), runtime)
  | none => (.error disconnected, runtime)

def refers (runtime : HubRuntime) (token : Nat) : Bool :=
  runtime.dropped.contains (.ready token)
    || runtime.clients.any fun state =>
      state.connections.toList.any fun entry => entry.2 == .ready token

def release (runtime : HubRuntime) (number : Nat) : HubRuntime :=
  let rest := { runtime with dropped := runtime.dropped.eraseIdx number }
  match runtime.dropped[number]? with
  | none => runtime
  | some (.pending token) =>
    match runtime.holders[token]? with
    | some ⟨.attempt attempt, _⟩ => rest.setRole token (.attempt { attempt with cancelled := true })
    | _ => rest
  | some (.ready token) =>
    match runtime.holders[token]? with
    | some ⟨.connection client output, true⟩ =>
      if rest.refers token then rest else rest.free token (.connection client output)
    | _ => rest

/-- What a client's own state says about a change of a connection: it is refused, it changes
nothing, or it is accepted. -/
def Client.changeable (state : Client) (output : Uuid) (connected : Bool) :
    Except SourceError Bool :=
  if state.closed then .error disconnected
  else if state.change.isSome || state.connections.toList.any fun entry =>
      match entry.2 with
      | .pending _ => true
      | .ready _ => false then
    .error changing
  else
    .ok (connected != match state.connections[output]? with
      | some (.ready _) => true
      | _ => false)

def change (runtime : HubRuntime) (client : Nat) (output : Uuid) (connected : Bool) :
    Except SourceError (Option Nat) × HubRuntime :=
  if output ∉ runtime.outputs then (.error unknownOutput, runtime)
  else
    match runtime.admission, runtime.clients[client]? with
    | .error error, _ => (.error error, runtime)
    | .ok (), none => (.error disconnected, runtime)
    | .ok (), some state =>
      match Client.changeable state output connected with
      | .error error => (.error error, runtime)
      | .ok accepted =>
        let cleared := runtime.modifyClient client fun state =>
          { state with connectionErrors := state.connectionErrors.erase output }
        if accepted then
          (.ok (some runtime.holders.length),
            (cleared.hold (.change ⟨client, output, connected, .spawned⟩)).modifyClient client
              fun state => { state with change := some (runtime.holders.length, output) })
        else (.ok none, cleared)

def setChange (runtime : HubRuntime) (index : Nat) (change : Change) (stage : ChangeStage) :
    HubRuntime :=
  runtime.setRole index (.change { change with stage := stage })

def finishChange (index : Nat) (change : Change) (error : Option SourceError) (state : Client) :
    Client :=
  if state.change = some (index, change.output) then
    { state with
      change := none
      connectionErrors :=
        match error with
        | none => state.connectionErrors
        | some error =>
          if state.closed then state.connectionErrors
          else state.connectionErrors.insert change.output error }
  else state

def advance (runtime : HubRuntime) (index : Nat) : HubRuntime :=
  match runtime.holders[index]? with
  | some ⟨.change change, _⟩ =>
    match change.stage with
    | .spawned =>
      if change.connected then
        let reserved := runtime.reserve change.client change.output (some index)
        match reserved.1 with
        | .error error => reserved.2.setChange index change (.finishing (some error))
        | .ok none => reserved.2.setChange index change (.finishing none)
        | .ok (some attempt) => reserved.2.setChange index change (.connecting attempt false)
      else
        (runtime.disconnect change.client change.output).setChange index change (.finishing none)
    | .connecting attempt expired =>
      match runtime.holders[attempt]? with
      | some ⟨.connection _ _, _⟩ => runtime.setChange index change (.finishing none)
      | some ⟨.attempt { stage := .ended error, .. }, _⟩ =>
        runtime.setChange index change
          (.finishing (some (if expired then .uncertain else error)))
      | _ => runtime
    | .finishing error =>
      (runtime.modifyClient change.client (finishChange index change error)).setChange index
        change .releasing
    | .releasing => runtime.free index (.change { change with stage := .ended })
    | .ended => runtime
  | _ => runtime

def expire (runtime : HubRuntime) (index : Nat) : HubRuntime :=
  match runtime.holders[index]? with
  | some ⟨.change change, _⟩ =>
    match change.stage with
    | .spawned => runtime.setChange index change (.finishing (some .uncertain))
    | .connecting attempt _ =>
      (runtime.setChange index change (.connecting attempt true)).abandon attempt
    | _ => runtime
  | _ => runtime

/-- `reserve_local_discovery`; `busy` says that some source has a transport or a lease. -/
def discover (runtime : HubRuntime) (native busy : Bool) : Except SourceError Nat × HubRuntime :=
  if runtime.closed then (.error disconnected, runtime)
  else if runtime.frozen || native && (runtime.active != 0 || busy) then
    (.error (.new .busy "Disconnect all outputs and wait for source transports to close before native discovery"),
      runtime)
  else
    (.ok runtime.holders.length,
      { runtime.hold (.discovery native) with frozen := native || runtime.frozen })

def quiesce (runtime : HubRuntime) : Except SourceError Nat × HubRuntime :=
  if runtime.closed then (.error disconnected, runtime)
  else if runtime.frozen || runtime.active != 0 then
    (.error (.new .busy "Disconnect all outputs before applying configuration"), runtime)
  else
    (.ok runtime.holders.length,
      { runtime with
        frozen := true
        holders := runtime.holders ++ [⟨.quiescent true, false⟩] })

def lift (runtime : HubRuntime) (index : Nat) : HubRuntime :=
  match runtime.holders[index]? with
  | some ⟨.discovery true, _⟩ =>
    { runtime.setRole index (.discovery false) with frozen := false }
  | some ⟨.quiescent true, _⟩ =>
    { runtime.setRole index (.quiescent false) with frozen := false }
  | _ => runtime

def inspect (runtime : HubRuntime) : Except SourceError Nat × HubRuntime :=
  match runtime.admission with
  | .error error => (.error error, runtime)
  | .ok () => (.ok runtime.holders.length, runtime.hold .inspection)

def startGroup (runtime : HubRuntime) (answer : Except SourceError Unit) :
    Except SourceError Nat × HubRuntime :=
  if runtime.closed then (.error disconnected, runtime)
  else if runtime.frozen then
    (.error (.new .busy "Configuration replacement is in progress"), runtime)
  else
    match answer with
    | .error error => (.error error, runtime)
    | .ok () => (.ok runtime.holders.length, runtime.hold .group)

def fork (runtime : HubRuntime) (index : Nat) : HubRuntime :=
  match runtime.holders[index]? with
  | some ⟨.group, true⟩ => runtime.hold .group
  | _ => runtime

/-- Work other than that of clients is over; a discovery drops its guard first. -/
def finish (runtime : HubRuntime) (index : Nat) : HubRuntime :=
  match runtime.holders[index]? with
  | some ⟨.inspection, true⟩ => runtime.free index .inspection
  | some ⟨.group, true⟩ => runtime.free index .group
  | some ⟨.discovery false, true⟩ => runtime.free index (.discovery false)
  | some ⟨.other, true⟩ => runtime.free index .other
  | _ => runtime

def shutdown (runtime : HubRuntime) : HubRuntime :=
  { runtime with
    closed := true
    registered := []
    closing := runtime.closing ++ runtime.registered }

def closeNext (runtime : HubRuntime) : HubRuntime :=
  match runtime.closing with
  | [] => runtime
  | client :: closing => { runtime.close client with closing := closing }

end HubRuntime

inductive Op where
  | client
  | connect (client : Nat) (output : Uuid)
  | poll (attempt : Nat) (opened : Option (Except SourceError Unit))
  /-- The waiter of a connection is dropped. -/
  | abandon (attempt : Nat)
  /-- The task of an accepted change goes on whether anybody waits for it or not. -/
  | change (client : Nat) (output : Uuid) (connected asynchronous : Bool)
  | advance (change : Nat)
  | expire (change : Nat)
  | disconnect (client : Nat) (output : Uuid)
  | disconnectChecked (client : Nat) (output : Uuid)
  | close (client : Nat)
  | command (client : Nat) (output : Uuid)
  | release (number : Nat)
  | discover (native busy : Bool)
  | quiesce
  | lift (guard : Nat)
  | inspect
  | startGroup (answer : Except SourceError Unit)
  | fork (group : Nat)
  | work
  | finish (holder : Nat)
  | shutdown
  | closeNext

inductive Reply where
  | none
  /-- A request was refused, was not needed, or has this holder. -/
  | admitted (result : Except SourceError (Option Nat))

def step (runtime : HubRuntime) : Op → Reply × HubRuntime
  | .client => (.none, runtime.client)
  | .connect client output =>
    let reserved := runtime.reserve client output none
    (.admitted reserved.1, reserved.2)
  | .poll attempt opened => (.none, runtime.poll attempt opened)
  | .abandon attempt => (.none, runtime.abandon attempt)
  | .change client output connected _ =>
    let changed := runtime.change client output connected
    (.admitted changed.1, changed.2)
  | .advance change => (.none, runtime.advance change)
  | .expire change => (.none, runtime.expire change)
  | .disconnect client output => (.none, runtime.disconnect client output)
  | .disconnectChecked client output =>
    let checked := runtime.disconnectChecked client output
    (.admitted (checked.1.map fun _ => none), checked.2)
  | .close client => (.none, runtime.close client)
  | .command client output =>
    let found := runtime.connection client output
    (.admitted (found.1.map some), found.2)
  | .release number => (.none, runtime.release number)
  | .discover native busy =>
    let guard := runtime.discover native busy
    (.admitted (guard.1.map some), guard.2)
  | .quiesce =>
    let guard := runtime.quiesce
    (.admitted (guard.1.map some), guard.2)
  | .lift guard => (.none, runtime.lift guard)
  | .inspect =>
    let inspection := runtime.inspect
    (.admitted (inspection.1.map some), inspection.2)
  | .startGroup answer =>
    let started := runtime.startGroup answer
    (.admitted (started.1.map some), started.2)
  | .fork group => (.none, runtime.fork group)
  | .work => (.none, runtime.hold .other)
  | .finish holder => (.none, runtime.finish holder)
  | .shutdown => (.none, runtime.shutdown)
  | .closeNext => (.none, runtime.closeNext)

def machine : Machine HubRuntime Op Reply where
  step := step

end Runtime

end Regain.Hub
