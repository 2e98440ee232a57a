import Regain.Core.Control
import Regain.Lib.Machine

/-!
# Cooler command mailbox

One acknowledged cooler command at a time passes from a caller to the session owner. A request
handle is the index of its request: handles outlive the slot and may be used at any later time.
-/

namespace Regain.Core.Cooling

open Lib

inductive CoolingError where
  | busy
  | unavailable
  | expired
  | cancelled
  | invalid (message : String)
  | uncertain (message : String) (code : Option Int)
  deriving DecidableEq

def CoolingError.message : CoolingError → String
  | busy => "Another cooler request is pending"
  | unavailable => "Camera controls are unavailable"
  | expired => "Cooler request expired before dispatch"
  | cancelled => "Cooler request was cancelled before dispatch"
  | invalid message => message
  | uncertain message _ => "Cooler outcome is uncertain: " ++ message

def CoolingError.isUncertain : CoolingError → Bool
  | uncertain _ _ => true
  | busy => false
  | unavailable => false
  | expired => false
  | cancelled => false
  | invalid _ => false

abbrev Outcome := Except CoolingError Int

def Outcome.isUncertain : Outcome → Bool
  | .ok _ => false
  | .error error => error.isUncertain

inductive Phase where
  | queued
  | claimed
  | running
  | finished
  deriving DecidableEq

structure Request where
  kind : Int
  value : Int
  deadline : Nat
  phase : Phase
  uncertain : Bool
  /-- The outcome that consumed the reply sender; absent while the sender is held. -/
  replied : Option Outcome

structure Mailbox where
  accepting : Bool
  pending : Option Nat
  /-- Every request ever admitted; handles index it. -/
  requests : List Request

def Mailbox.empty : Mailbox where
  accepting := false
  pending := none
  requests := []

def Request.send (request : Request) (outcome : Outcome) : Request :=
  match request.replied with
  | none => { request with replied := some outcome }
  | some _ => request

def Request.finish (request : Request) (outcome : Outcome) : Request :=
  { request with phase := .finished }.send outcome

def validate (status : Status) (kind value : Int) : Except CoolingError Unit :=
  if kind ≠ 16 ∧ kind ≠ 17 then
    .error (.invalid "Only cooler target and enable are supported")
  else if !status.connected || !status.controlConnectionAvailable then .error .unavailable
  else
    match status.controls[kind]? with
    | none => .error (.invalid "Cooler control is unavailable")
    | some cap =>
      if !cap.writable || decide (value < cap.min) || decide (cap.max < value) then
        .error (.invalid ("Cooler control must be writable and between " ++ toString cap.min
          ++ " and " ++ toString cap.max))
      else .ok ()

def instantLimit : Nat := 2 ^ 63 * 1000000000

def deadlineAfter (now timeout : Nat) : Option Nat :=
  if now + timeout < instantLimit ∧ timeout ≠ 0 then some (now + timeout) else none

namespace Mailbox

def enqueue (mailbox : Mailbox) (kind value : Int) (deadline : Nat) :
    Except CoolingError Nat × Mailbox :=
  if !mailbox.accepting then (.error .unavailable, mailbox)
  else if mailbox.pending.isSome then (.error .busy, mailbox)
  else
    (.ok mailbox.requests.length,
      { mailbox with
        pending := some mailbox.requests.length
        requests := mailbox.requests ++ [{
          kind := kind
          value := value
          deadline := deadline
          phase := .queued
          uncertain := false
          replied := none }] })

def submit (mailbox : Mailbox) (status : Status) (kind value : Int) (timeout now : Nat) :
    Except CoolingError Nat × Mailbox :=
  match validate status kind value with
  | .error error => (.error error, mailbox)
  | .ok () =>
    match deadlineAfter now timeout with
    | none => (.error .expired, mailbox)
    | some deadline => mailbox.enqueue kind value deadline

/-- The pending request when the handle refers to it; a stale handle finds nothing. -/
def current (mailbox : Mailbox) (handle : Nat) : Option Request :=
  if mailbox.pending = some handle then mailbox.requests[handle]? else none

def store (mailbox : Mailbox) (handle : Nat) (request : Request) : Mailbox :=
  { mailbox with requests := mailbox.requests.set handle request }

def settle (mailbox : Mailbox) (handle : Nat) (request : Request) (outcome : Outcome) :
    Mailbox :=
  { mailbox.store handle (request.finish outcome) with pending := none }

def retire (mailbox : Mailbox) : Mailbox :=
  let mailbox := { mailbox with accepting := false }
  match mailbox.pending with
  | none => mailbox
  | some handle =>
    match mailbox.requests[handle]? with
    | none => { mailbox with pending := none }
    | some request =>
      mailbox.settle handle request
        (if request.phase = .running then
          .error (.uncertain "Camera owner retired during cooler dispatch" none)
        else .error .unavailable)

/-- The second half of `activate`, which runs after `retire` under a lock of its own. -/
def accept (mailbox : Mailbox) : Mailbox :=
  { mailbox with accepting := true }

def cancelQueued (mailbox : Mailbox) (handle : Nat) : Mailbox :=
  match mailbox.current handle with
  | none => mailbox
  | some request =>
    if request.phase = .queued ∨ request.phase = .claimed then
      mailbox.settle handle request (.error .cancelled)
    else mailbox

def expire (mailbox : Mailbox) (handle : Nat) : Option CoolingError × Mailbox :=
  match mailbox.current handle with
  | none => (none, mailbox)
  | some request =>
    if request.phase = .queued ∨ request.phase = .claimed then
      (some .expired, mailbox.settle handle request (.error .expired))
    else
      (some (.uncertain "Cooler acknowledgement exceeded its deadline" none),
        { mailbox.store handle { request with uncertain := true } with accepting := false })

def claim (mailbox : Mailbox) (now : Nat) : Option Nat × Mailbox :=
  match mailbox.pending with
  | none => (none, mailbox)
  | some handle =>
    match mailbox.requests[handle]? with
    | none => (none, mailbox)
    | some request =>
      if request.phase ≠ .queued then (none, mailbox)
      else if request.deadline ≤ now then
        (none, mailbox.settle handle request (.error .expired))
      else (some handle, mailbox.store handle { request with phase := .claimed })

def dispatch (mailbox : Mailbox) (handle : Nat) (now : Nat) : Bool × Mailbox :=
  match mailbox.current handle with
  | none => (false, mailbox)
  | some request =>
    if request.phase ≠ .claimed ∨ mailbox.accepting = false then (false, mailbox)
    else if request.deadline ≤ now then
      (false, mailbox.settle handle request (.error .expired))
    else (true, mailbox.store handle { request with phase := .running })

def acknowledged (mailbox : Mailbox) (request : Request) (result : Outcome) (now : Nat) :
    Outcome :=
  if !result.isUncertain
      && (request.uncertain || !mailbox.accepting
        || (result.isOk && (decide (request.phase ≠ .running) || decide (request.deadline < now))))
  then .error (.uncertain "Cooler acknowledgement exceeded its deadline" none)
  else result

/-- What `finish` did: the outcome it returned and whether it ran the commit closure. -/
structure Finished where
  outcome : Outcome
  committed : Bool

def finish (mailbox : Mailbox) (handle : Nat) (result : Outcome) (now : Nat) :
    Finished × Mailbox :=
  match mailbox.current handle with
  | none =>
    (⟨.error (.uncertain "Cooler owner changed before acknowledgement" none), false⟩, mailbox)
  | some request =>
    if request.phase ≠ .claimed ∧ request.phase ≠ .running then
      (⟨.error (.uncertain "Cooler owner changed before acknowledgement" none), false⟩, mailbox)
    else
      let result := mailbox.acknowledged request result now
      let mailbox :=
        if result.isUncertain then { mailbox with accepting := false } else mailbox
      (⟨result, result.isOk⟩, mailbox.settle handle request result)

end Mailbox

inductive Op where
  | submit (status : Status) (kind value : Int) (timeout now : Nat)
  | claim (now : Nat)
  | dispatch (handle : Nat) (now : Nat)
  | finish (handle : Nat) (result : Outcome) (now : Nat)
  | cancelBeforeDispatch (handle : Nat)
  | dropReceipt (handle : Nat)
  | expire (handle : Nat)
  | retire
  | accept

inductive Answer where
  | submitted (handle : Except CoolingError Nat)
  | claimed (handle : Option Nat)
  | dispatched (sent : Bool)
  | finished (finished : Mailbox.Finished)
  | expired (error : Option CoolingError)
  | done

def machine : Machine Mailbox Op Answer where
  step mailbox
    | .submit status kind value timeout now =>
      let (handle, mailbox) := mailbox.submit status kind value timeout now
      (.submitted handle, mailbox)
    | .claim now =>
      let (handle, mailbox) := mailbox.claim now
      (.claimed handle, mailbox)
    | .dispatch handle now =>
      let (sent, mailbox) := mailbox.dispatch handle now
      (.dispatched sent, mailbox)
    | .finish handle result now =>
      let (finished, mailbox) := mailbox.finish handle result now
      (.finished finished, mailbox)
    | .cancelBeforeDispatch handle => (.done, mailbox.cancelQueued handle)
    | .dropReceipt handle => (.done, mailbox.cancelQueued handle)
    | .expire handle =>
      let (error, mailbox) := mailbox.expire handle
      (.expired error, mailbox)
    | .retire => (.done, mailbox.retire)
    | .accept => (.done, mailbox.accept)

end Regain.Core.Cooling
