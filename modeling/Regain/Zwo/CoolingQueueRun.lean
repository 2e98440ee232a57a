import Regain.Zwo.CoolingQueue

/-!
# No cooling write after an unknown outcome

A request waits in the slot, or in the hands of the owner that retires, until its phase is
finished, and it runs only while `service` is at it.  From the moment a caller was told that its
outcome is uncertain, or `apply` failed, the queue is fenced off, or will be as soon as that very
request is completed.
-/

namespace Regain.Zwo

open Lib

namespace CoolingQueue

def Stage.isAdmitted : Stage → Bool
  | .idle => false
  | .admitting => false
  | .refused _ => false
  | _ => true

def Phase.isFinished : Phase → Bool
  | .finished _ _ => true
  | _ => false

namespace Service

def call : Service → Option Nat
  | .idle => none
  | .selected call => some call
  | .applying call => some call
  | .applied call _ => some call
  | .closing call _ _ => some call
  | .releasing call _ _ => some call
  | .publishing call _ _ => some call
  | .freeing call => some call

def serving : Service → Option Nat
  | .applying call => some call
  | .applied call _ => some call
  | .closing call _ _ => some call
  | .releasing call _ _ => some call
  | .publishing call _ _ => some call
  | _ => none

def holding : Service → Option Nat
  | .closing call _ _ => some call
  | .releasing call _ _ => some call
  | .publishing call _ _ => some call
  | _ => none

def leaving : Service → Option Nat
  | .publishing call _ _ => some call
  | _ => none

end Service

def Owner.isAlive : Owner → Bool
  | .alive => true
  | _ => false

attribute [local grind =] Stage.isAdmitted Phase.isFinished Service.call Service.serving
  Service.holding Service.leaving Owner.isAlive Function.update_apply

variable {queue : Queue}

structure Placed (queue : Queue) : Prop where
  fresh : ∀ call, (queue.calls call).stage.isAdmitted = false →
    (queue.calls call).phase = .queued
  slot : ∀ call, queue.pending = some call → (queue.calls call).stage.isAdmitted = true
  served : ∀ call, queue.service.call = some call → (queue.calls call).stage.isAdmitted = true
  waits : ∀ call, (queue.calls call).stage.isAdmitted = true →
    (queue.calls call).phase.isFinished = false → queue.service.leaving ≠ some call →
      queue.pending = some call ∨ queue.owner = .retiring call
  running : ∀ call, (queue.calls call).phase = .running → queue.service.serving = some call
  begun : ∀ call, queue.service.serving = some call → (queue.calls call).phase ≠ .queued
  locked : ∀ call, (queue.calls call).locked = true ↔ queue.service.holding = some call
  holding : ∀ call, queue.service.holding = some call → (queue.calls call).phase = .running
  retiring : ∀ call, queue.owner = .retiring call → (queue.calls call).stage.isAdmitted = true
  expired : ∀ call, (queue.calls call).stage = .releasing →
    (queue.calls call).phase.isFinished = true
  freed : ∀ call, queue.service = .freeing call → (queue.calls call).phase.isFinished = true
  retired : queue.owner.isAlive = false → queue.closed = true ∧ queue.pending = none

theorem new_placed : Placed Queue.new := by
  constructor <;> grind -linarith [Queue.new]

theorem call_placed (h : Placed queue) (latest call control : Nat) (value : Int) (timeout : Nat) :
    Placed (queue.call latest call control value timeout) := by
  unfold Queue.call
  split
  · split
    · cases h
      constructor <;> grind -linarith
    · cases h
      constructor <;> grind -linarith
  · exact h

theorem enqueue_placed (h : Placed queue) (call : Nat) : Placed (queue.enqueue call) := by
  unfold Queue.enqueue
  split
  · split
    · cases h
      constructor <;> grind -linarith
    · split
      · cases h
        constructor <;> grind -linarith
      · cases h
        constructor <;> grind -linarith
  · exact h

theorem check_placed (h : Placed queue) (call : Nat) : Placed (queue.check call) := by
  unfold Queue.check
  split
  · split
    · exact h
    · split
      · cases h
        constructor <;> grind -linarith
      · split
        · cases h
          constructor <;> grind -linarith
        · exact h
      · split
        · cases h
          constructor <;> grind -linarith
        · exact h
  · exact h

theorem free_placed (h : Placed queue) (call : Nat) : Placed (queue.free call) := by
  unfold Queue.free Queue.unlink
  split
  · split
    · cases h
      constructor <;> grind -linarith
    · cases h
      constructor <;> grind -linarith
  · exact h

theorem select_placed (h : Placed queue) : Placed queue.select := by
  unfold Queue.select
  split
  · cases h
    constructor <;> grind -linarith
  · exact h

theorem dispatch_placed (h : Placed queue) : Placed queue.dispatch := by
  unfold Queue.dispatch
  split
  · split
    · split
      · cases h
        constructor <;> grind -linarith
      · cases h
        constructor <;> grind -linarith
    · cases h
      constructor <;> grind -linarith
    · cases h
      constructor <;> grind -linarith
  · exact h

theorem finish_placed (h : Placed queue) (result : Except String Int) :
    Placed (queue.finish result) := by
  unfold Queue.finish
  split
  · cases h
    constructor <;> grind -linarith
  · exact h

/-- A request that `service` is at and that is not finished runs. -/
theorem Placed.runs (h : Placed queue) (call : Nat) (hserving : queue.service.serving = some call)
    (hphase : ∀ time result, (queue.calls call).phase ≠ .finished time result) :
    (queue.calls call).phase = .running := by
  have hbegun := h.begun call hserving
  cases hcase : (queue.calls call).phase with
  | queued => exact absurd hcase hbegun
  | running => rfl
  | finished time result => exact absurd hcase (hphase time result)

theorem complete_placed (h : Placed queue) : Placed queue.complete := by
  unfold Queue.complete
  split
  · next call result hservice =>
    split
    · cases h
      constructor <;> grind -linarith
    · next hphase =>
      have hruns := h.runs call (by rw [hservice]; rfl) hphase
      split
      · cases h
        constructor <;> grind -linarith
      · cases h
        constructor <;> grind -linarith
  · exact h

theorem close_placed (h : Placed queue) : Placed queue.close := by
  unfold Queue.close
  split
  · cases h
    constructor <;> grind -linarith
  · exact h

theorem release_placed (h : Placed queue) : Placed queue.release := by
  unfold Queue.release Queue.unlink
  split
  · split
    · cases h
      constructor <;> grind -linarith
    · cases h
      constructor <;> grind -linarith
  · split
    · cases h
      constructor <;> grind -linarith
    · cases h
      constructor <;> grind -linarith
  · exact h

theorem publish_placed (h : Placed queue) : Placed queue.publish := by
  unfold Queue.publish
  split
  · cases h
    constructor <;> grind -linarith
  · exact h

theorem drop_placed (h : Placed queue) : Placed queue.drop := by
  unfold Queue.drop
  split
  · split
    · cases h
      constructor <;> grind -linarith
    · cases h
      constructor <;> grind -linarith
  · exact h

theorem retire_placed (h : Placed queue) : Placed queue.retire := by
  unfold Queue.retire
  split
  · split
    · exact h
    · split
      · cases h
        constructor <;> grind -linarith
      · cases h
        constructor <;> grind -linarith
      · cases h
        constructor <;> grind -linarith
  · exact h

theorem step_placed (h : Placed queue) (latest : Nat) (op : Op) :
    Placed (queue.step latest op) := by
  cases op with
  | call call control value timeout => exact call_placed h latest call control value timeout
  | enqueue call => exact enqueue_placed h call
  | check call => exact check_placed h call
  | free call => exact free_placed h call
  | tick elapsed =>
    obtain ⟨fresh, slot, served, waits, running, begun, locked, holding, retiring, expired,
      freed, retired⟩ := h
    exact ⟨fresh, slot, served, waits, running, begun, locked, holding, retiring, expired,
      freed, retired⟩
  | select => exact select_placed h
  | dispatch => exact dispatch_placed h
  | finish result => exact finish_placed h result
  | complete => exact complete_placed h
  | close => exact close_placed h
  | release => exact release_placed h
  | publish => exact publish_placed h
  | drop => exact drop_placed h
  | retire => exact retire_placed h

def Outcome.isUncertain : Outcome → Bool
  | .ok _ => false
  | .error error => error.isUncertain

def Phase.result : Phase → Option Outcome
  | .finished _ result => some result
  | _ => none

def Phase.isDispatched : Phase → Bool
  | .queued => false
  | .running => true
  | .finished _ (.ok _) => true
  | .finished _ (.error error) => error.isUncertain

def Stage.answer : Stage → Option Outcome
  | .refused error => some (.error error)
  | .returned result => some result
  | _ => none

def Service.outcome : Service → Option (Nat × Outcome)
  | .applied call result => some (call, result)
  | .closing call _ result => some (call, result)
  | .releasing call _ result => some (call, result)
  | .publishing call _ result => some (call, result)
  | _ => none

def Service.time : Service → Option Nat
  | .closing _ time _ => some time
  | .releasing _ time _ => some time
  | .publishing _ time _ => some time
  | _ => none

def Event.dispatch : Event → Option Nat
  | .dispatched call _ _ => some call
  | _ => none

attribute [local grind =] Outcome.isUncertain Phase.result Phase.isDispatched Stage.answer
  Service.outcome Service.time Event.dispatch CoolingError.isUncertain Queue.late

structure Known (queue : Queue) : Prop where
  told : ∀ call result, .told call result ∈ queue.events →
    (queue.calls call).stage.answer = some result
  releasing : ∀ call, (queue.calls call).stage = .releasing →
    (queue.calls call).phase.result = some (.error .expired)
  returned : ∀ call result, (queue.calls call).stage = .returned result →
    Outcome.isUncertain result = false → (queue.calls call).phase.result = some result
  busy : ∀ call, (queue.calls call).phase.result ≠ some (.error .busy)
  failed : ∀ call error, queue.service.outcome = some (call, .error error) →
    error.isUncertain = true
  timely : ∀ call time value, (queue.calls call).phase = .finished time (.ok value) →
    time ≤ (queue.calls call).deadline
  punctual : ∀ call time value, queue.service.outcome = some (call, .ok value) →
    queue.service.time = some time → time ≤ (queue.calls call).deadline
  dispatched : ∀ call deadline time, .dispatched call deadline time ∈ queue.events →
    deadline = (queue.calls call).deadline ∧ time < deadline
      ∧ (queue.calls call).phase.isDispatched = true
  once : (queue.events.filterMap Event.dispatch).Nodup

theorem Service.call_of_outcome {service : Service} {call : Nat} {result : Outcome}
    (houtcome : service.outcome = some (call, result)) : service.call = some call := by
  cases service <;> cases houtcome <;> rfl

theorem late_ok {deadline time : Nat} {result : Outcome} {value : Int}
    (hlate : Queue.late deadline time result = .ok value) : result = .ok value ∧ time ≤ deadline := by
  cases result with
  | ok _ => grind -linarith
  | error _ => cases hlate

theorem late_error {deadline time : Nat} {result : Outcome} {error : CoolingError}
    (hlate : Queue.late deadline time result = .error error) :
    error.isUncertain = true ∨ result = .error error := by
  cases result with
  | ok _ => grind -linarith
  | error _ => grind -linarith

theorem late_of_le {deadline time : Nat} {result : Outcome}
    (htimely : ∀ value, result = .ok value → time ≤ deadline) :
    Queue.late deadline time result = result := by
  cases result with
  | ok value =>
    have hle := htimely value rfl
    exact if_neg (by omega)
  | error _ => rfl

theorem new_known : Known Queue.new := by
  constructor <;> grind -linarith [Queue.new]

theorem call_known (h : Known queue) (hplaced : Placed queue) (latest call control : Nat)
    (value : Int) (timeout : Nat) : Known (queue.call latest call control value timeout) := by
  unfold Queue.call
  split
  · have hfresh := hplaced.fresh call
    have hserved := hplaced.served call
    split
    · cases h
      constructor <;> grind -linarith
    · cases h
      constructor <;> grind -linarith [Service.call_of_outcome]
  · exact h

theorem enqueue_known (h : Known queue) (call : Nat) : Known (queue.enqueue call) := by
  unfold Queue.enqueue
  split
  · split
    · cases h
      constructor <;> grind -linarith
    · split
      · cases h
        constructor <;> grind -linarith
      · cases h
        constructor <;> grind -linarith
  · exact h

theorem check_known (h : Known queue) (call : Nat) : Known (queue.check call) := by
  unfold Queue.check
  split
  · split
    · exact h
    · split
      · next time result hphase =>
        have htimely : ∀ value, result = .ok value → time ≤ (queue.calls call).deadline := by
          intro value hvalue
          exact h.timely call time value (by rw [hphase, hvalue])
        rw [late_of_le htimely]
        have hresult : (queue.calls call).phase.result = some result := by
          rw [hphase]
          rfl
        have huncertain : Outcome.isUncertain result = true →
            (queue.calls call).phase.isDispatched = true := by
          intro huncertain
          rw [hphase]
          cases result with
          | ok _ => rfl
          | error _ => exact huncertain
        cases h
        constructor <;> grind -linarith
      · split
        · cases h
          constructor <;> grind -linarith
        · exact h
      · split
        · cases h
          constructor <;> grind -linarith
        · exact h
  · exact h

theorem free_known (h : Known queue) (call : Nat) : Known (queue.free call) := by
  unfold Queue.free Queue.unlink
  split
  · split
    · cases h
      constructor <;> grind -linarith
    · cases h
      constructor <;> grind -linarith
  · exact h

theorem Known.undispatched (h : Known queue) {call : Nat} (hphase : (queue.calls call).phase = .queued) :
    call ∉ queue.events.filterMap Event.dispatch := by
  intro hmem
  obtain ⟨event, hevent, hcall⟩ := List.mem_filterMap.mp hmem
  cases event with
  | dispatched other deadline time =>
    cases hcall
    have hdispatched := (h.dispatched _ deadline time hevent).2.2
    rw [hphase] at hdispatched
    cases hdispatched
  | _ => cases hcall

theorem dispatch_known (h : Known queue) : Known queue.dispatch := by
  unfold Queue.dispatch
  split
  · split
    · next hqueued =>
      split
      · have hnew := h.undispatched hqueued
        cases h
        constructor <;> grind -linarith
      · cases h
        constructor <;> grind -linarith
    · cases h
      constructor <;> grind -linarith
    · cases h
      constructor <;> grind -linarith
  · exact h

theorem finish_known (h : Known queue) (result : Except String Int) :
    Known (queue.finish result) := by
  unfold Queue.finish
  split
  · have hfailed : ∀ error, result.mapError Queue.failure = .error error →
        error.isUncertain = true := by
      intro error herror
      cases result <;> cases herror
      rfl
    cases h
    constructor <;> grind -linarith
  · exact h

theorem complete_known (h : Known queue) : Known queue.complete := by
  unfold Queue.complete
  split
  · split
    · cases h
      constructor <;> grind -linarith
    · split
      · next hlate =>
        have hok := late_ok hlate
        cases h
        constructor <;> grind -linarith
      · next hlate =>
        have herror := late_error hlate
        cases h
        constructor <;> grind -linarith
  · exact h

theorem close_known (h : Known queue) : Known queue.close := by
  unfold Queue.close
  split
  · cases h
    constructor <;> grind -linarith
  · exact h

theorem release_known (h : Known queue) : Known queue.release := by
  unfold Queue.release Queue.unlink
  split
  · split
    · cases h
      constructor <;> grind -linarith
    · cases h
      constructor <;> grind -linarith
  · split
    · cases h
      constructor <;> grind -linarith
    · cases h
      constructor <;> grind -linarith
  · exact h

theorem publish_known (h : Known queue) (hplaced : Placed queue) : Known queue.publish := by
  unfold Queue.publish
  split
  · next call time result hservice =>
    have hruns := hplaced.holding call (by rw [hservice]; rfl)
    cases result with
    | ok value =>
      cases h
      constructor <;> grind -linarith
    | error error =>
      have hfailed := h.failed call error (by rw [hservice]; rfl)
      cases h
      constructor <;> grind -linarith
  · exact h

theorem drop_known (h : Known queue) : Known queue.drop := by
  unfold Queue.drop
  split
  · split
    · cases h
      constructor <;> grind -linarith
    · cases h
      constructor <;> grind -linarith
  · exact h

theorem retire_known (h : Known queue) : Known queue.retire := by
  unfold Queue.retire
  split
  · split
    · exact h
    · split
      · cases h
        constructor <;> grind -linarith
      · cases h
        constructor <;> grind -linarith
      · cases h
        constructor <;> grind -linarith
  · exact h

theorem select_known (h : Known queue) : Known queue.select := by
  unfold Queue.select
  split
  · cases h
    constructor <;> grind -linarith
  · exact h

theorem step_known (h : Known queue) (hplaced : Placed queue) (latest : Nat) (op : Op) :
    Known (queue.step latest op) := by
  cases op with
  | call call control value timeout => exact call_known h hplaced latest call control value timeout
  | enqueue call => exact enqueue_known h call
  | check call => exact check_known h call
  | free call => exact free_known h call
  | tick elapsed =>
    obtain ⟨told, releasing, returned, busy, failed, timely, punctual, dispatched, once⟩ := h
    exact ⟨told, releasing, returned, busy, failed, timely, punctual, dispatched, once⟩
  | select => exact select_known h
  | dispatch => exact dispatch_known h
  | finish result => exact finish_known h result
  | complete => exact complete_known h
  | close => exact close_known h
  | release => exact release_known h
  | publish => exact publish_known h hplaced
  | drop => exact drop_known h
  | retire => exact retire_known h

end CoolingQueue

end Regain.Zwo
