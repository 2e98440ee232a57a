import Regain.Core.WhiteBalance
import Std.Data.TreeMap

/-!
# Camera controls

The controls of the connected camera, the values acknowledged for them and the
part of the shared camera status that the control paths read and write.
-/

namespace Regain.Core

open Lib
open Std (TreeMap)

structure Control where
  kind : Int
  min : Int
  max : Int
  value : Int
  writable : Bool

def Control.contains (control : Control) (value : Int) : Bool :=
  decide (control.min ≤ value) && decide (value ≤ control.max)

structure ControlObservation where
  value : Int
  observedAt : Nat

/-- Attempts made for the latest capture; the last failure survives it. -/
structure RetryStatus where
  recaptures : Nat
  downloads : Nat
  usbReads : Nat
  lastFailure : Option String

structure Status where
  filterWheel : Json
  info : Json
  serial : Option String
  phase : String
  error : Option String
  retry : RetryStatus
  controls : TreeMap Int Control
  values : TreeMap Int Int
  /-- Acknowledged values, separate from queued desired settings. -/
  observations : TreeMap Int ControlObservation
  connected : Bool
  controlConnectionAvailable : Bool
  sdkExposureState : Option Int
  sdkErrorCode : Option Int
  processId : Option Nat
  whiteBalance : Option WhiteBalance.Settings

def acknowledgedControls : List Int :=
  [0, 5, 16, 17]

structure ControlObservationReply where
  value : Int
  ageSeconds : F64

/-- Deserialisation: both fields and no others, or the two values in order. -/
def ControlObservationReply.ofJson : Json → Option ControlObservationReply
  | .object fields =>
    if fields.all fun entry => entry.1 = "value" || entry.1 = "ageSeconds" then do
      let value ← (← fields.lookup "value").asInt
      let ageSeconds ← (← fields.lookup "ageSeconds").asF64
      return { value := value, ageSeconds := ageSeconds }
    else none
  | .array [value, age] => do
    return { value := ← value.asInt, ageSeconds := ← age.asF64 }
  | _ => none

def ControlObservationReply.normalize (reply : ControlObservationReply) (requestStarted : Nat) :
    Except String ControlObservation :=
  match Duration.tryFromSecsF64 reply.ageSeconds with
  | none => .error "Invalid control observation age"
  | some age =>
    if age ≤ requestStarted then
      .ok { value := reply.value, observedAt := requestStarted - age }
    else .error "Unrepresentable control observation time"

end Regain.Core
