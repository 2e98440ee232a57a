import Mathlib.Logic.Function.Basic
import Regain.Lib.History
import Regain.Lib.Machine

/-!
# The queue of cooling requests

One slot between callers and the thread that owns the camera. A caller waits for its request until a
deadline; the owner serves the slot between transfers; dropping the owner retires the queue.
-/

namespace Regain.Zwo

open Lib

inductive CoolingError where
  | busy
  | expired
  | closed
  | uncertain (message : String)

def CoolingError.isUncertain : CoolingError → Bool
  | .uncertain _ => true
  | _ => false

namespace CoolingQueue

abbrev Outcome := Except CoolingError Int

inductive Phase where
  | queued
  | running
  | finished (time : Nat) (result : Outcome)

/-- How far the caller of a request is. -/
inductive Stage where
  | idle
  | admitting
  | refused (error : CoolingError)
  | waiting
  /-- The request expired; its slot is to be released. -/
  | releasing
  | returned (result : Outcome)

structure Call where
  control : Nat
  value : Int
  deadline : Nat
  phase : Phase
  /-- The owner completes the request, with its phase locked. -/
  locked : Bool
  stage : Stage

/-- Where `service` is. -/
inductive Service where
  | idle
  | selected (call : Nat)
  | applying (call : Nat)
  | applied (call : Nat) (result : Outcome)
  | closing (call time : Nat) (result : Outcome)
  | releasing (call time : Nat) (result : Outcome)
  | publishing (call time : Nat) (result : Outcome)
  /-- A finished request is released. -/
  | freeing (call : Nat)

inductive Owner where
  | alive
  | retiring (call : Nat)
  | gone

/-- What callers and the device see. -/
inductive Event where
  | dispatched (call deadline time : Nat)
  | ended (call deadline time : Nat) (result : Outcome)
  | told (call : Nat) (result : Outcome)
  | retired

structure Queue where
  now : Nat
  pending : Option Nat
  closed : Bool
  calls : Nat → Call
  service : Service
  owner : Owner
  events : List Event

inductive Op where
  | call (call control : Nat) (value : Int) (timeout : Nat)
  | enqueue (call : Nat)
  | check (call : Nat)
  | free (call : Nat)
  | tick (elapsed : Nat)
  | select
  | dispatch
  /-- `apply` returns. -/
  | finish (result : Except String Int)
  | complete
  | close
  | release
  | publish
  | drop
  | retire

namespace Queue

def new : Queue where
  now := 0
  pending := none
  closed := false
  calls := fun _ => ⟨0, 0, 0, .queued, false, .idle⟩
  service := .idle
  owner := .alive
  events := []

abbrev setCall (queue : Queue) (call : Nat) (request : Call) : Queue :=
  { queue with calls := Function.update queue.calls call request }

abbrev log (queue : Queue) (event : Event) : Queue :=
  { queue with events := queue.events ++ [event] }

abbrev setStage (queue : Queue) (call : Nat) (stage : Stage) : Queue :=
  queue.setCall call { queue.calls call with stage := stage }

abbrev setPhase (queue : Queue) (call : Nat) (phase : Phase) : Queue :=
  queue.setCall call { queue.calls call with phase := phase }

abbrev goto (queue : Queue) (service : Service) : Queue :=
  { queue with service := service }

abbrev refuse (queue : Queue) (call : Nat) (error : CoolingError) : Queue :=
  (queue.setStage call (.refused error)).log (.told call (.error error))

abbrev answer (queue : Queue) (call : Nat) (result : Outcome) : Queue :=
  (queue.setStage call (.returned result)).log (.told call result)

def unlink (queue : Queue) (call : Nat) : Queue :=
  if queue.pending = some call then { queue with pending := none } else queue

def call (latest : Nat) (queue : Queue) (call control : Nat) (value : Int) (timeout : Nat) : Queue :=
  match (queue.calls call).stage with
  | .idle =>
    if timeout = 0 ∨ latest < queue.now + timeout then queue.refuse call .expired
    else queue.setCall call ⟨control, value, queue.now + timeout, .queued, false, .admitting⟩
  | _ => queue

def enqueue (queue : Queue) (call : Nat) : Queue :=
  match (queue.calls call).stage with
  | .admitting =>
    if queue.closed then queue.refuse call .closed
    else if queue.pending.isSome then queue.refuse call .busy
    else { queue.setStage call .waiting with pending := some call }
  | _ => queue

def late (deadline time : Nat) (result : Outcome) : Outcome :=
  match result with
  | .ok value =>
    if deadline < time then .error (.uncertain "Acknowledgement exceeded its deadline")
    else .ok value
  | .error error => .error error

def check (queue : Queue) (call : Nat) : Queue :=
  match (queue.calls call).stage with
  | .waiting =>
    if (queue.calls call).locked then queue
    else
      match (queue.calls call).phase with
      | .finished time result =>
        queue.answer call (late (queue.calls call).deadline time result)
      | .queued =>
        if (queue.calls call).deadline ≤ queue.now then
          (queue.setPhase call (.finished queue.now (.error .expired))).setStage call .releasing
        else queue
      | .running =>
        if (queue.calls call).deadline ≤ queue.now then
          queue.answer call (.error (.uncertain "USB dispatch has no acknowledgement"))
        else queue
  | _ => queue

def free (queue : Queue) (call : Nat) : Queue :=
  match (queue.calls call).stage with
  | .releasing => (queue.unlink call).answer call (.error .expired)
  | _ => queue

def select (queue : Queue) : Queue :=
  match queue.service, queue.pending with
  | .idle, some call => queue.goto (.selected call)
  | _, _ => queue

def dispatch (queue : Queue) : Queue :=
  match queue.service with
  | .selected call =>
    match (queue.calls call).phase with
    | .queued =>
      if queue.now < (queue.calls call).deadline then
        ((queue.setPhase call .running).goto (.applying call)).log
          (.dispatched call (queue.calls call).deadline queue.now)
      else
        (queue.setPhase call (.finished queue.now (.error .expired))).goto (.freeing call)
    | .finished _ _ => queue.goto (.freeing call)
    | .running => queue.goto .idle
  | _ => queue

def fit : Nat → List Char → List Char
  | _, [] => []
  | room, c :: rest => if c.utf8Size ≤ room then c :: fit (room - c.utf8Size) rest else []

def failure (message : String) : CoolingError :=
  .uncertain (String.ofList (fit 2048 message.toList))

def finish (queue : Queue) (result : Except String Int) : Queue :=
  match queue.service with
  | .applying call =>
    (queue.goto (.applied call (result.mapError failure))).log
      (.ended call (queue.calls call).deadline queue.now (result.mapError failure))
  | _ => queue

abbrev lock (queue : Queue) (call : Nat) (locked : Bool) : Queue :=
  queue.setCall call { queue.calls call with locked := locked }

def complete (queue : Queue) : Queue :=
  match queue.service with
  | .applied call result =>
    match (queue.calls call).phase with
    | .finished _ _ => queue.goto .idle
    | _ =>
      match late (queue.calls call).deadline queue.now result with
      | .ok value => (queue.lock call true).goto (.releasing call queue.now (.ok value))
      | .error error => (queue.lock call true).goto (.closing call queue.now (.error error))
  | _ => queue

def close (queue : Queue) : Queue :=
  match queue.service with
  | .closing call time result => { queue with closed := true, service := .releasing call time result }
  | _ => queue

def release (queue : Queue) : Queue :=
  match queue.service with
  | .releasing call time result => (queue.unlink call).goto (.publishing call time result)
  | .freeing call => (queue.unlink call).goto .idle
  | _ => queue

def publish (queue : Queue) : Queue :=
  match queue.service with
  | .publishing call time result =>
    ((queue.setPhase call (.finished time result)).lock call false).goto .idle
  | _ => queue

def drop (queue : Queue) : Queue :=
  match queue.owner with
  | .alive =>
    match queue.pending with
    | some call => { queue with closed := true, pending := none, owner := .retiring call }
    | none => { queue with closed := true, owner := .gone }.log .retired
  | _ => queue

def retire (queue : Queue) : Queue :=
  match queue.owner with
  | .retiring call =>
    if (queue.calls call).locked then queue
    else
      match (queue.calls call).phase with
      | .queued =>
        { queue.setPhase call (.finished queue.now (.error .closed)) with
          owner := .gone }.log .retired
      | .running =>
        { queue.setPhase call
            (.finished queue.now (.error (.uncertain "USB owner retired during dispatch"))) with
          owner := .gone }.log .retired
      | .finished _ _ => { queue with owner := .gone }.log .retired
  | _ => queue

def step (latest : Nat) (queue : Queue) : Op → Queue
  | .call call control value timeout => queue.call latest call control value timeout
  | .enqueue call => queue.enqueue call
  | .check call => queue.check call
  | .free call => queue.free call
  | .tick elapsed => { queue with now := queue.now + elapsed }
  | .select => queue.select
  | .dispatch => queue.dispatch
  | .finish result => queue.finish result
  | .complete => queue.complete
  | .close => queue.close
  | .release => queue.release
  | .publish => queue.publish
  | .drop => queue.drop
  | .retire => queue.retire

end Queue

def machine (latest : Nat) : Machine Queue Op Unit where
  step := fun queue op => ((), queue.step latest op)

end CoolingQueue

end Regain.Zwo
