import Regain.Hub.Configuration.Store
import Regain.Hub.Runtime.SessionRun

/-!
# The service that activates configurations

An apply runs in a task of its own, inside a task that holds the update lock, so a waiter that goes
away splits nothing.
-/

namespace Regain.Hub

open Lib

namespace Service

variable {Details : Type}

inductive Phase where
  | ready
  | applying
  | blocked
  | stopped
  deriving DecidableEq

inductive UpdateError where
  | invalid (errors : List FieldError)
  | conflict
  | connected
  | busy
  | io
  | unsupported
  | stopped
  | task

def UpdateError.isTask : UpdateError → Bool
  | .task => true
  | _ => false

def updateError : ApplyError Details → UpdateError
  | .invalid errors => .invalid errors
  | .conflict => .conflict
  | .connected => .connected
  | .io _ => .io
  | .committed _ _ => .task

/-- A runtime with its configuration; `stopped` once its shutdown has returned. -/
structure Built (Details : Type) where
  configuration : HubConfig Details
  runtime : Runtime.HubRuntime
  stopped : Bool

/-- A quiet runtime, and its guard. -/
structure Quiet where
  runtime : Nat
  guard : Nat
  deriving DecidableEq

abbrev Cleanup := List (Uuid × SourceError)

/-- Where an apply is.  The stages with a `Quiet` own its guard. -/
inductive Stage (Details : Type) where
  | started
  | found (previous : Nat)
  | quieted (quiet : Quiet)
  | preparing (quiet : Quiet)
  | building (quiet : Quiet) (prepared : PreparedConfig Details)
  | committing (quiet : Quiet) (prepared : PreparedConfig Details) (next : Nat)
  /-- The runtime that was built is not needed. -/
  | discarding (quiet : Quiet) (next : Nat) (error : UpdateError)
  | failing (quiet : Quiet) (error : UpdateError)
  | blocking (quiet : Quiet)
  | draining (quiet : Quiet)
  | cleaning (quiet : Quiet) (next : Nat)
  | publishing (quiet : Quiet) (next : Nat) (cleanup : Cleanup)
  /-- The result is decided; the guard is dropped next. -/
  | leaving (quiet : Quiet) (error : Option UpdateError)
  | unwinding (quiet : Quiet)
  /-- The inner task panicked. -/
  | crashed
  | mending
  /-- The inner task is over; the lock is given back next. -/
  | finished (error : Option UpdateError)
  | over_ (error : Option UpdateError)

def Stage.quiet : Stage Details → Option Quiet
  | .quieted quiet => some quiet
  | .preparing quiet => some quiet
  | .building quiet _ => some quiet
  | .committing quiet _ _ => some quiet
  | .discarding quiet _ _ => some quiet
  | .failing quiet _ => some quiet
  | .blocking quiet => some quiet
  | .draining quiet => some quiet
  | .cleaning quiet _ => some quiet
  | .publishing quiet _ _ => some quiet
  | .leaving quiet _ => some quiet
  | .unwinding quiet => some quiet
  | _ => none

def Stage.running : Stage Details → Bool
  | .over_ _ => false
  | _ => true

/-- Whether a panic at a stage ends the inner task; blocking tasks are joined, the outer task
takes up what is left of a panic, and a guard that is dropped does not panic. -/
def Stage.fragile : Stage Details → Bool
  | .started => true
  | .found _ => true
  | .quieted _ => true
  | .discarding _ _ _ => true
  | .failing _ _ => true
  | .blocking _ => true
  | .draining _ => true
  | .cleaning _ _ => true
  | .publishing _ _ _ => true
  | _ => false

structure Apply (Details : Type) where
  expected : Uuid
  candidate : HubConfig Details
  stage : Stage Details

/-- Where a call of `shutdown` is. -/
inductive Stopping where
  | waiting
  | draining
  | done

/-- Who holds the update lock. -/
inductive Owner where
  | apply (index : Nat)
  | shutdown (index : Nat)
  /-- An export, an import or a credential operation. -/
  | other
  deriving DecidableEq

structure HubService (Details : Type) where
  store : Option (ConfigStore Details)
  runtimes : List (Built Details)
  /-- The published runtime. -/
  published : Nat
  phase : Phase
  update : Option Owner
  applies : List (Apply Details)
  shutdowns : List Stopping

/-- What the environment does to one step of an apply or a shutdown. -/
structure Outcome (Details : Type) where
  /-- The step panics; in a blocking task, which is joined. -/
  panics : Bool
  /-- A commit that panics did replace the configuration before. -/
  replaced : Bool
  fresh : Uuid
  staging : Staging
  built : Except (List FieldError) (HubConfig Details)
  outputs : List Uuid
  persist : Persist
  /-- The shutdown that is waited for can return, with these errors. -/
  returns : Bool
  cleanup : Cleanup

inductive Op (Details : Type) where
  | apply (expected : Uuid) (candidate : HubConfig Details)
  | advance (apply : Nat) (outcome : Outcome Details)
  | shutdown
  | proceed (shutdown : Nat) (outcome : Outcome Details)
  /-- The caller of a shutdown goes away. -/
  | leave (shutdown : Nat)
  | occupy
  | vacate
  /-- A client, a task or a discovery of some runtime. -/
  | runtime (index : Nat) (op : Runtime.Op)

inductive Reply where
  | none
  | refused (error : UpdateError)
  | accepted (apply : Nat)

def Built.drain (built : Built Details) (returns : Bool) : Built Details :=
  if built.stopped then built
  else if !built.runtime.closed then { built with runtime := built.runtime.shutdown }
  else if built.runtime.closing ≠ [] then { built with runtime := built.runtime.closeNext }
  else if returns then { built with stopped := true }
  else built

namespace HubService

def modifyRuntime (service : HubService Details) (index : Nat)
    (change : Built Details → Built Details) : HubService Details :=
  { service with runtimes := service.runtimes.modify index change }

def setStage (service : HubService Details) (index : Nat) (stage : Stage Details) :
    HubService Details :=
  { service with
    applies := service.applies.modify index fun apply => { apply with stage := stage } }

def isStopped (service : HubService Details) (index : Nat) : Bool :=
  (service.runtimes[index]?).any fun built => built.stopped

def lift (service : HubService Details) (quiet : Quiet) : HubService Details :=
  service.modifyRuntime quiet.runtime fun built =>
    { built with runtime := built.runtime.lift quiet.guard }

def block (service : HubService Details) : HubService Details :=
  { service with phase := if service.phase = .stopped then .stopped else .blocked }

def drain (service : HubService Details) (index : Nat) (returns : Bool) : HubService Details :=
  service.modifyRuntime index fun built => built.drain returns

def apply (service : HubService Details) (expected : Uuid) (candidate : HubConfig Details) :
    Reply × HubService Details :=
  if service.store.isNone then (.refused .unsupported, service)
  else if service.update.isSome then (.refused .busy, service)
  else
    (.accepted service.applies.length,
      { service with
        update := some (.apply service.applies.length)
        applies := service.applies ++ [⟨expected, candidate, .started⟩] })

def fail (quiet : Quiet) (error : UpdateError) : Stage Details :=
  if error.isTask then .blocking quiet else .failing quiet error

def quiesce (service : HubService Details) (index previous : Nat) : HubService Details :=
  match service.runtimes[previous]? with
  | none => service.setStage index (.finished (some .connected))
  | some built =>
    match built.runtime.quiesce with
    | (.error _, _) => service.setStage index (.finished (some .connected))
    | (.ok guard, runtime) =>
      (service.modifyRuntime previous fun built => { built with runtime := runtime }).setStage
        index (.quieted ⟨previous, guard⟩)

variable (dialect : Dialect Details) (same : HubConfig Details → HubConfig Details → Bool)

def prepare (service : HubService Details) (index : Nat) (apply : Apply Details) (quiet : Quiet)
    (outcome : Outcome Details) : HubService Details :=
  if outcome.panics then service.setStage index (fail quiet .task)
  else
    match service.store with
    | none => service.setStage index (fail quiet .task)
    | some store =>
      match store.prepare dialect apply.expected apply.candidate false outcome.fresh
          outcome.staging with
      | .error error => service.setStage index (fail quiet (updateError error))
      | .ok prepared => service.setStage index (.building quiet prepared)

/-- What the builder made has to be for the configuration that it was asked for. -/
def buildChecked (built : Except (List FieldError) (HubConfig Details))
    (config : HubConfig Details) : Except (List FieldError) (HubConfig Details) :=
  match built with
  | .error errors => .error errors
  | .ok configuration =>
    if same configuration config then .ok configuration
    else
      .error [⟨"", "revision", "Prepared runtime does not match the candidate configuration"⟩]

def build (service : HubService Details) (index : Nat) (quiet : Quiet)
    (prepared : PreparedConfig Details) (outcome : Outcome Details) : HubService Details :=
  if outcome.panics then service.setStage index (fail quiet .task)
  else
    match buildChecked same outcome.built prepared.next with
    | .error errors => service.setStage index (fail quiet (.invalid errors))
    | .ok configuration =>
      let next : Built Details := ⟨configuration, .new outcome.outputs, false⟩
      { service with runtimes := service.runtimes ++ [next] }.setStage index
        (.committing quiet prepared service.runtimes.length)

def commit (service : HubService Details) (index : Nat) (quiet : Quiet)
    (prepared : PreparedConfig Details) (next : Nat) (outcome : Outcome Details) :
    HubService Details :=
  match service.store with
  | none => service.setStage index (.discarding quiet next .task)
  | some store =>
    if outcome.panics then
      { service with
        store := some (if outcome.replaced then { store with current := prepared.next } else store)
        }.setStage index (.discarding quiet next .task)
    else
      let committed := store.commit prepared outcome.persist
      let service := { service with store := some committed.2 }
      match committed.1 with
      | .ok _ => service.setStage index (.cleaning quiet next)
      | .error (.committed _ _) => service.setStage index (.cleaning quiet next)
      | .error error => service.setStage index (.discarding quiet next (updateError error))

def publish (service : HubService Details) (index : Nat) (quiet : Quiet) (next : Nat)
    (cleanup : Cleanup) : HubService Details :=
  { service with
    published := next
    phase := if cleanup.isEmpty then .ready else .blocked }.setStage index (.leaving quiet none)

def crash (service : HubService Details) (index : Nat) : Option Quiet → HubService Details
  | none => service.setStage index .crashed
  | some quiet => service.setStage index (.unwinding quiet)

def advanceAt (service : HubService Details) (index : Nat) (apply : Apply Details)
    (outcome : Outcome Details) : HubService Details :=
  match apply.stage with
  | .started =>
    if service.phase = .ready then service.setStage index (.found service.published)
    else service.setStage index (.finished (some .stopped))
  | .found previous => service.quiesce index previous
  | .quieted quiet => { service with phase := .applying }.setStage index (.preparing quiet)
  | .preparing quiet => service.prepare dialect index apply quiet outcome
  | .building quiet prepared => service.build same index quiet prepared outcome
  | .committing quiet prepared next => service.commit index quiet prepared next outcome
  | .discarding quiet next error =>
    if service.isStopped next then service.setStage index (fail quiet error)
    else service.drain next outcome.returns
  | .failing quiet error =>
    { service with phase := .ready }.setStage index (.leaving quiet (some error))
  | .blocking quiet => service.block.setStage index (.draining quiet)
  | .draining quiet =>
    if service.isStopped service.published then
      service.setStage index (.leaving quiet (some .task))
    else service.drain service.published outcome.returns
  | .cleaning quiet next =>
    if service.isStopped quiet.runtime then
      service.setStage index (.publishing quiet next outcome.cleanup)
    else service.drain quiet.runtime outcome.returns
  | .publishing quiet next cleanup => service.publish index quiet next cleanup
  | .leaving quiet error => (service.lift quiet).setStage index (.finished error)
  | .unwinding quiet => (service.lift quiet).setStage index .crashed
  | .crashed => service.block.setStage index .mending
  | .mending =>
    if outcome.panics || service.isStopped service.published then
      service.setStage index (.finished (some .task))
    else service.drain service.published outcome.returns
  | .finished error => { service.setStage index (.over_ error) with update := none }
  | .over_ _ => service

def advance (service : HubService Details) (index : Nat) (outcome : Outcome Details) :
    HubService Details :=
  match service.applies[index]? with
  | none => service
  | some apply =>
    if outcome.panics && apply.stage.fragile then service.crash index apply.stage.quiet
    else service.advanceAt dialect same index apply outcome

def setStopping (service : HubService Details) (index : Nat) (stopping : Stopping) :
    HubService Details :=
  { service with shutdowns := service.shutdowns.set index stopping }

def proceed (service : HubService Details) (index : Nat) (outcome : Outcome Details) :
    HubService Details :=
  match service.shutdowns[index]? with
  | some .waiting =>
    if service.update = none then
      { service with update := some (.shutdown index), phase := .stopped }.setStopping index
        .draining
    else service
  | some .draining =>
    if service.isStopped service.published then
      { service with update := none }.setStopping index .done
    else service.drain service.published outcome.returns
  | _ => service

def leave (service : HubService Details) (index : Nat) : HubService Details :=
  match service.shutdowns[index]? with
  | some .waiting => service.setStopping index .done
  | some .draining => { service with update := none }.setStopping index .done
  | _ => service

def occupy (service : HubService Details) : HubService Details :=
  if service.update.isSome then service else { service with update := some .other }

def vacate (service : HubService Details) : HubService Details :=
  if service.update = some .other then { service with update := none } else service

/-- The service is the only one to quiet or shut down a runtime, and a guard of an apply is only
dropped by that apply. -/
def external (service : HubService Details) (index : Nat) : Runtime.Op → Bool
  | .quiesce => false
  | .shutdown => false
  | .closeNext => false
  | .lift guard => service.applies.all fun apply => apply.stage.quiet != some ⟨index, guard⟩
  | _ => true

def runtimeStep (service : HubService Details) (index : Nat) (op : Runtime.Op) :
    HubService Details :=
  if service.external index op then
    service.modifyRuntime index fun built =>
      { built with runtime := (Runtime.step built.runtime op).2 }
  else service

def step (service : HubService Details) : Op Details → Reply × HubService Details
  | .apply expected candidate => service.apply expected candidate
  | .advance index outcome => (.none, service.advance dialect same index outcome)
  | .shutdown => (.none, { service with shutdowns := service.shutdowns ++ [.waiting] })
  | .proceed index outcome => (.none, service.proceed index outcome)
  | .leave index => (.none, service.leave index)
  | .occupy => (.none, service.occupy)
  | .vacate => (.none, service.vacate)
  | .runtime index op => (.none, service.runtimeStep index op)

def new (store : Option (ConfigStore Details)) (configuration : HubConfig Details)
    (outputs : List Uuid) : HubService Details where
  store := store
  runtimes := [⟨configuration, .new outputs, false⟩]
  published := 0
  phase := .ready
  update := none
  applies := []
  shutdowns := []

/-- `HubService::read_only` without a store, and `HubService::persistent`. -/
def create (store : Option (ConfigStore Details))
    (built : Except (List FieldError) (HubConfig Details)) (outputs : List Uuid) :
    Except (List FieldError) (HubService Details) :=
  match store with
  | none => built.map fun configuration => new none configuration outputs
  | some store =>
    (buildChecked same built store.current).map fun configuration =>
      new (some store) configuration outputs

end HubService

def machine (dialect : Dialect Details) (same : HubConfig Details → HubConfig Details → Bool) :
    Machine (HubService Details) (Op Details) Reply where
  step := HubService.step dialect same

end Service

end Regain.Hub
