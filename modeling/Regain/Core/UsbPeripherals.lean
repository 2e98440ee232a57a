import Regain.Core.Failure

/-!
# Confirmation of peripherals after a USB reset

After a USB reset of the camera a frontend confirms the peripherals of the camera's hub.
-/

namespace Regain.Core.UsbPeripherals

open Lib

def waitNanoseconds : Nat := 120 * 1000000000

structure Acknowledgement where
  id : Nat
  success : Bool
  error : Option String

structure Pending where
  id : Nat
  deadline : Option Nat
  /-- The reply sender is still held. -/
  reply : Bool

structure State where
  enabled : Bool
  retired : Bool
  pending : Option Pending
  blocked : Option String
  /-- The episode that the camera status shows. -/
  recoveryId : Option Nat

/-- Where a recovery is. -/
inductive Stage where
  /-- The reset is being performed. -/
  | reserved
  /-- The recovery awaits a reply, the deadline or a cancellation. -/
  | waiting (deadline : Nat) (mail : Option Acknowledgement)
  /-- The outcome is known and not yet written to the state. -/
  | decided (outcome : Except Error Unit)
  | finished

structure Handle where
  state : State
  /-- The last episode of this process. -/
  lastId : Nat
  episodes : Nat → Option Stage

namespace State

def default : State where
  enabled := false
  retired := false
  pending := none
  blocked := none
  recoveryId := none

def ensureReady (state : State) : Except Error Unit :=
  if state.retired then .error (.invalid "Camera disconnected")
  else
    match state.blocked with
    | some message => .error (.invalid message)
    | none =>
      if state.pending.isSome then .error (.invalid "USB peripheral recovery is still pending")
      else .ok ()

def enable (state : State) (enabled : Bool) : Except Error Unit × State :=
  if !state.retired && state.pending.isNone && state.blocked.isNone then
    (.ok (), { state with enabled := enabled })
  else
    (.error (.invalid "Cannot change USB peripheral recovery during or after recovery"), state)

def retire (state : State) : State :=
  { state with retired := true, pending := none, recoveryId := none }

def reconnectAfterClose (state : State) : Except Error Unit × State :=
  let state := if state.retired then { state with retired := false, blocked := none } else state
  (state.ensureReady, state)

def isPending (state : State) (id : Nat) : Bool :=
  state.pending.any fun pending => pending.id == id

def blockedMessage (message : String) : String :=
  "USB peripheral recovery was not confirmed (" ++ message
    ++ "); disconnect and reconnect the camera before another exposure"

def finish (state : State) (id : Nat) (failure : Option String) : State :=
  if state.isPending id then
    { state with pending := none, blocked := failure.map blockedMessage, recoveryId := none }
  else state

def checkAcknowledgement (acknowledgement : Acknowledgement) : Except Error Unit :=
  if acknowledgement.id = 0 then .error (.invalid "Invalid USB peripheral recovery ID")
  else
    match acknowledgement.error with
    | none => .ok ()
    | some error =>
      if !(decide (error.utf8ByteSize ≤ 2048) && !error.toList.any fun c =>
          decide (c.val < 32) || (decide (127 ≤ c.val) && decide (c.val < 160))) then
        .error (.invalid "Invalid USB peripheral recovery error")
      else if acknowledgement.success then
        .error (.invalid "Successful USB peripheral recovery cannot include an error")
      else .ok ()

/-- The pending episode takes its reply, if it awaits this acknowledgement. -/
def takeReply (state : State) (acknowledgement : Acknowledgement) (now : Nat) :
    Except Error Unit × State :=
  match checkAcknowledgement acknowledgement with
  | .error error => (.error error, state)
  | .ok () =>
    match state.pending with
    | none =>
      (.error (.invalid "No USB peripheral recovery acknowledgement is pending"), state)
    | some pending =>
      if pending.id ≠ acknowledgement.id then
        (.error (.invalid
          "USB peripheral recovery acknowledgement does not match the pending episode"), state)
      else if !pending.deadline.any fun deadline => decide (now < deadline) then
        (.error (.invalid
          "USB peripheral recovery is not awaiting acknowledgement or has expired"), state)
      else if !pending.reply then
        (.error (.invalid "USB peripheral recovery was already acknowledged"), state)
      else (.ok (), { state with pending := some { pending with reply := false } })

end State

namespace Handle

def default : Handle where
  state := State.default
  lastId := 0
  episodes := fun _ => none

def stage (handle : Handle) (id : Nat) (stage : Stage) : Handle :=
  { handle with episodes := fun other => if other = id then some stage else handle.episodes other }

/-- `next_id`: above every earlier episode, and above the time in microseconds. -/
def nextId (handle : Handle) (seed : Nat) : Except Error Nat :=
  if max handle.lastId seed + 1 < 2 ^ 64 then .ok (max handle.lastId seed + 1)
  else .error (.invalid "USB peripheral recovery ID space exhausted")

def begin (handle : Handle) (seed : Nat) : Except Error (Option Nat) × Handle :=
  match handle.state.ensureReady with
  | .error error => (.error error, handle)
  | .ok () =>
    if !handle.state.enabled then (.ok none, handle)
    else
      match handle.nextId seed with
      | .error error => (.error error, handle)
      | .ok id =>
        (.ok (some id),
          { handle with
            state := { handle.state with
              pending := some { id := id, deadline := none, reply := true } }
            lastId := id }.stage id .reserved)

def acknowledge (handle : Handle) (acknowledgement : Acknowledgement) (now : Nat) :
    Except Error Unit × Handle :=
  let taken := handle.state.takeReply acknowledgement now
  let handle := { handle with state := taken.2 }
  match taken.1 with
  | .error error => (.error error, handle)
  | .ok () =>
    match handle.episodes acknowledgement.id with
    | some (.waiting deadline _) =>
      (.ok (), handle.stage acknowledgement.id (.waiting deadline (some acknowledgement)))
    -- the receiver was dropped
    | _ => (.error (.invalid "USB peripheral recovery is no longer waiting"), handle)

def wait (handle : Handle) (id now : Nat) : Option (Except Error Unit) × Handle :=
  match handle.state.pending with
  | some pending =>
    if pending.id = id then
      (none,
        { handle with
          state := { handle.state with
            pending := some { pending with deadline := some (now + waitNanoseconds) }
            recoveryId := some id } }.stage id (.waiting (now + waitNanoseconds) none))
    else (some (.error (.invalid "USB peripheral recovery was retired")), handle.stage id .finished)
  | none => (some (.error (.invalid "USB peripheral recovery was retired")), handle.stage id .finished)

def replyOutcome (reply : Acknowledgement) : Except Error Unit :=
  if reply.success then .ok ()
  else .error (.invalid ("NINA peripheral recovery failed: "
    ++ reply.error.getD "peripherals were not confirmed ready"))

def senderHeld (handle : Handle) (id : Nat) : Bool :=
  handle.state.pending.any fun pending => pending.id == id && pending.reply

/-- One poll of the wait; a cancellation wins over the deadline, and that over a reply. -/
def poll (handle : Handle) (id now deadline : Nat) (mail : Option Acknowledgement)
    (cancelled : Bool) : Option (Except Error Unit) :=
  if cancelled then some (.error (.failure .cancelled))
  else if deadline ≤ now then
    some (.error (.invalid "NINA peripheral recovery confirmation timed out"))
  else
    match mail with
    | some reply => some (replyOutcome reply)
    | none =>
      if handle.senderHeld id then none
      else some (.error (.invalid "USB peripheral recovery was retired"))

def failureOf : Except Error Unit → Option String
  | .ok () => none
  | .error error => some error.message

def conclude (handle : Handle) (id : Nat) (failure : Option String) : Handle :=
  { handle with state := handle.state.finish id failure }.stage id .finished

end Handle

inductive Op where
  | enable (enabled : Bool)
  | ensureReady
  | reconnectAfterClose
  | retire
  | begin (seed : Nat)
  | acknowledge (acknowledgement : Acknowledgement) (now : Nat)
  /-- A reserved recovery starts to wait. -/
  | wait (id now : Nat)
  /-- The select of a waiting recovery is polled. -/
  | poll (id now : Nat) (cancelled : Bool)
  /-- A decided recovery writes its outcome. -/
  | finish (id : Nat)
  /-- A recovery is dropped before it wrote an outcome. -/
  | drop (id : Nat)

inductive Result where
  /-- The recovery is not at this step. -/
  | refused
  | done
  | answered (result : Except Error Unit)
  | began (result : Except Error (Option Nat))
  /-- The result of a wait. -/
  | waited (result : Except Error Unit)

def machine : Machine Handle Op Result where
  step handle op :=
    match op with
    | .enable enabled =>
      let enabled := handle.state.enable enabled
      (.answered enabled.1, { handle with state := enabled.2 })
    | .ensureReady => (.answered handle.state.ensureReady, handle)
    | .reconnectAfterClose =>
      let reconnected := handle.state.reconnectAfterClose
      (.answered reconnected.1, { handle with state := reconnected.2 })
    | .retire => (.done, { handle with state := handle.state.retire })
    | .begin seed =>
      let begun := handle.begin seed
      (.began begun.1, begun.2)
    | .acknowledge acknowledgement now =>
      let acknowledged := handle.acknowledge acknowledgement now
      (.answered acknowledged.1, acknowledged.2)
    | .wait id now =>
      match handle.episodes id with
      | some .reserved =>
        let waited := handle.wait id now
        (match waited.1 with | none => .done | some result => .waited result, waited.2)
      | _ => (.refused, handle)
    | .poll id now cancelled =>
      match handle.episodes id with
      | some (.waiting deadline mail) =>
        match handle.poll id now deadline mail cancelled with
        | none => (.done, handle)
        | some outcome => (.done, handle.stage id (.decided outcome))
      | _ => (.refused, handle)
    | .finish id =>
      match handle.episodes id with
      | some (.decided outcome) =>
        (.waited outcome, handle.conclude id (Handle.failureOf outcome))
      | _ => (.refused, handle)
    | .drop id =>
      match handle.episodes id with
      | none => (.refused, handle)
      | some .finished => (.refused, handle)
      | some _ => (.done, handle.conclude id (some "recovery did not complete"))

end Regain.Core.UsbPeripherals
