import Regain.Core.Cooling

/-!
# Failures of the camera core

Errors travel untyped and are classified by the type that they carry.  Only a
failure that proves nothing about persistent hardware state may be retried.
-/

namespace Regain.Core

open Regain.Core.Cooling (CoolingError)

inductive Failure where
  | invalid (message : String)
  | cancelled
  | worker (message : String) (code : Option Int)
  /-- A dispatched control has no known acknowledgement. -/
  | uncertainControl (message : String) (code : Option Int)
  deriving DecidableEq

def Failure.message : Failure → String
  | invalid message => message
  | cancelled => "Exposure aborted"
  | worker message _ => message
  | uncertainControl message _ => message

/-- An error and the type a caller can recover from it. -/
inductive Error where
  | failure (failure : Failure)
  | cooling (error : CoolingError)
  /-- Any other error, with the text of its whole chain. -/
  | other (message : String)

namespace Error

def invalid (message : String) : Error :=
  .failure (.invalid message)

def asFailure : Error → Option Failure
  | failure found => some found
  | cooling _ => none
  | other _ => none

def asCooling : Error → Option CoolingError
  | failure _ => none
  | cooling error => some error
  | other _ => none

def message : Error → String
  | failure found => found.message
  | cooling error => error.message
  | other message => message

/-- `Failure::Worker`, the one error that leaves the worker's pipe usable. -/
def isWorker (error : Error) : Bool :=
  match error.asFailure with
  | some (.worker _ _) => true
  | _ => false

def isUncertainControl (error : Error) : Bool :=
  match error.asFailure with
  | some (.uncertainControl _ _) => true
  | _ => false

def isExpired (error : Error) : Bool :=
  error.asCooling = some .expired

end Error

def retryable (error : Error) : Bool :=
  match error.asFailure with
  | some (.invalid _) => false
  | some .cancelled => false
  | some (.uncertainControl _ _) => false
  | some (.worker _ (some code)) =>
    code = 1 || code = 2 || code = 4 || code = 5 || code = 11 || code = 12 || code = 15
      || code = 16
  | some (.worker _ none) => true
  | none => true

end Regain.Core
