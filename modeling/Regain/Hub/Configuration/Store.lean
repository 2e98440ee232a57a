import Regain.Hub.Configuration.Distinct
import Regain.Hub.Configuration.Ledger

/-!
# The configuration store

`prepare` validates a candidate against the current configuration and stages it; `commit` publishes
a prepared update if the configuration is still the one it was prepared against.
-/

namespace Regain.Hub

open Lib
open Std (TreeMap)

variable {Details : Type}

inductive ApplyError (Details : Type) where
  | invalid (errors : List FieldError)
  | conflict
  | connected
  | io (error : String)
  /-- The replacement happened, but its last flush failed. -/
  | committed (configuration : HubConfig Details) (error : String)

structure ConfigStore (Details : Type) where
  identity : Uuid
  /-- Whether the store has a file. -/
  path : Bool
  current : HubConfig Details

structure PreparedConfig (Details : Type) where
  store : Uuid
  expected : Uuid
  next : HubConfig Details
  staged : Bool

/-- How writing the staged file ends. -/
inductive Staging where
  | written
  | failed (error : String)
  | tooLarge

/-- How replacing the file ends. -/
inductive Persist where
  | durable
  | failed (error : String)
  | unflushed (error : String)

namespace ConfigStore

variable (dialect : Dialect Details)

def new (identity : Uuid) (path : Bool) (initial : HubConfig Details) :
    Except (ApplyError Details) (ConfigStore Details) :=
  let registered := initial.identities.register dialect initial
  let errors := validate dialect initial ++ registered.2
  if errors = [] then
    .ok ⟨identity, path, { initial with identities := registered.1 }⟩
  else .error (.invalid errors)

def prepare (store : ConfigStore Details) (expectedRevision : Uuid) (next : HubConfig Details)
    (connected : Bool) (fresh : Uuid) (staging : Staging) :
    Except (ApplyError Details) (PreparedConfig Details) :=
  let errors := validate dialect next
  if errors ≠ [] then .error (.invalid errors)
  else if store.current.revision ≠ expectedRevision ∨ next.revision ≠ expectedRevision then
    .error .conflict
  else if connected then .error .connected
  else
    let registered := next.identities.register dialect next
    let errors :=
      reportIf (store.current.instanceId != next.instanceId) "instanceId" "identity"
          "Instance identity cannot change during an update" ++
        reportIf (!(next.identities == store.current.identities)) "identities" "identity"
          "Identity history is managed by the hub and cannot be edited" ++
        registered.2
    if errors ≠ [] then .error (.invalid errors)
    else
      let prepared : PreparedConfig Details :=
        { store := store.identity
          expected := expectedRevision
          next := { next with identities := registered.1, revision := fresh }
          staged := store.path }
      if store.path then
        match staging with
        | .written => .ok prepared
        | .failed error => .error (.io error)
        | .tooLarge => .error (.invalid [⟨"", "limit", "Hub configuration exceeds 4 MiB"⟩])
      else .ok prepared

def commit (store : ConfigStore Details) (prepared : PreparedConfig Details) (persist : Persist) :
    Except (ApplyError Details) (HubConfig Details) × ConfigStore Details :=
  if prepared.store ≠ store.identity ∨ store.current.revision ≠ prepared.expected then
    (.error .conflict, store)
  else
    let replaced := { store with current := prepared.next }
    if prepared.staged then
      match persist with
      | .durable => (.ok prepared.next, replaced)
      | .failed error => (.error (.io error), store)
      | .unflushed error => (.error (.committed prepared.next error), replaced)
    else (.ok prepared.next, replaced)

end ConfigStore

/-- A store with the updates that are prepared and not yet used.  `drawn` holds every
revision so far. -/
structure Editing (Details : Type) where
  store : ConfigStore Details
  prepared : List (PreparedConfig Details) := []
  drawn : List Uuid

inductive Edit (Details : Type) where
  | prepare (expectedRevision : Uuid) (next : HubConfig Details) (connected : Bool) (fresh : Uuid)
      (staging : Staging)
  /-- Commit one of the prepared updates; it is used up. -/
  | commit (index : Nat) (persist : Persist)

inductive Edited (Details : Type) where
  | prepared (result : Except (ApplyError Details) Unit)
  | committed (result : Except (ApplyError Details) (HubConfig Details))
  /-- No such update, or a revision that was drawn before: a version 4 UUID is never drawn
  twice. -/
  | impossible

namespace Editing

variable (dialect : Dialect Details)

def step (editing : Editing Details) : Edit Details → Edited Details × Editing Details
  | .prepare expectedRevision next connected fresh staging =>
    if fresh ∈ editing.drawn then (.impossible, editing)
    else
      match editing.store.prepare dialect expectedRevision next connected fresh staging with
      | .error error => (.prepared (.error error), { editing with drawn := fresh :: editing.drawn })
      | .ok prepared => (.prepared (.ok ()), { editing with
          prepared := editing.prepared ++ [prepared]
          drawn := fresh :: editing.drawn })
  | .commit index persist =>
    match editing.prepared[index]? with
    | none => (.impossible, editing)
    | some prepared =>
      let committed := editing.store.commit prepared persist
      (.committed committed.1, { editing with
        store := committed.2
        prepared := editing.prepared.eraseIdx index })

def machine : Machine (Editing Details) (Edit Details) (Edited Details) :=
  ⟨step dialect⟩

def start (store : ConfigStore Details) : Editing Details where
  store := store
  drawn := [store.current.revision]

end Editing

end Regain.Hub
