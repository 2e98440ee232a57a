import Regain.Hub.Weather.Engine

/-!
# Property polls

A poll of the properties of a device goes over a plan of samples, one request at a time.  A sample
with a sensor age takes two requests: one for the age and one for the value.
-/

namespace Regain.Hub

open Lib
open Std (TreeMap)

inductive SampleType where
  | boolean
  | number
  | text
  | strings
  | int32s
  deriving DecidableEq

structure SampleRequest where
  key : String
  member : String
  parameters : Values
  valueType : SampleType
  sensorAge : Option String

namespace SampleRequest

def isInt32 (value : Int) : Bool :=
  decide (-2147483648 ≤ value) && decide (value ≤ 2147483647)

def allItems (value : Json) (holds : Json → Bool) : Bool :=
  match value with
  | .array items => items.all holds
  | _ => false

def typed (request : SampleRequest) (value : Json) : Bool :=
  match request.valueType with
  | .boolean => value.asBool.isSome
  | .number => value.asF64.any F64.isFinite
  | .text => value.asString.isSome
  | .strings => allItems value fun item => item.asString.isSome
  | .int32s => allItems value fun item => item.asInt.any isInt32

def validValue (request : SampleRequest) (value : Json) : Bool :=
  request.typed value && ((SampleBudget.mk 0 0).admits value).1

end SampleRequest

def Weather.Metric.stateName : Metric → String
  | cloudCover => "CloudCover"
  | dewPoint => "DewPoint"
  | humidity => "Humidity"
  | pressure => "Pressure"
  | rainRate => "RainRate"
  | skyBrightness => "SkyBrightness"
  | skyQuality => "SkyQuality"
  | skyTemperature => "SkyTemperature"
  | starFwhm => "StarFWHM"
  | temperature => "Temperature"
  | windDirection => "WindDirection"
  | windGust => "WindGust"
  | windSpeed => "WindSpeed"

def sensorName (property : String) : String :=
  match Weather.Metric.all.find? fun metric =>
      asciiLower metric.stateName = asciiLower property with
  | some metric => metric.stateName
  | none => property

def validMember (member : String) : Bool :=
  !member.isEmpty && decide (member.utf8ByteSize ≤ 64)
    && member.toList.all fun character => character.isLower || character.isDigit

def validParameter (entry : String × Json) : Bool :=
  !entry.1.isEmpty && decide (entry.1.utf8ByteSize ≤ 64) && entry.1.toList.all Char.isAlphanum
    && match entry.2 with
      | .bool _ => true
      | .number _ => true
      | .string text => decide (text.utf8ByteSize ≤ 8192)
      | _ => false

def SampleRequest.valid (request : SampleRequest) : Bool :=
  !request.key.isEmpty && decide (request.key.utf8ByteSize ≤ 200) && validMember request.member
    && request.sensorAge.all validMember && decide (request.parameters.size ≤ 32)
    && request.parameters.toList.all validParameter

def SampleRequest.isSafety (request : SampleRequest) : Bool :=
  decide (request.key = "issafe") && decide (request.member = "issafe")
    && decide (request.valueType = .boolean) && request.parameters.isEmpty
    && request.sensorAge.isNone

structure PropertyPoll where
  samples : List SampleRequest
  cursor : Nat
  /-- The age of a sensor and when its request began. -/
  pendingAge : Option (F64 × Nat)
  failures : Nat
  attempts : Nat
  safety : Bool

structure PreparedSample where
  member : String
  parameters : Values
  sample : SampleRequest
  needsAge : Bool
  age : F64
  began : Nat

namespace PropertyPoll

def new (device : DeviceType) (samples : List SampleRequest) (attempts : Nat) :
    Except SourceError PropertyPoll :=
  let safety := decide (device = .safetyMonitor)
  if maxSampleKeys < samples.length || attempts = 0
      || (safety && !(samples.length = 1 && samples.all SampleRequest.isSafety))
      || !samples.all SampleRequest.valid || !(samples.map SampleRequest.key).Nodup then
    .error (.new .invalidValue "Invalid property sample plan")
  else
    .ok {
      samples := samples
      cursor := 0
      pendingAge := none
      failures := 0
      attempts := attempts
      safety := safety }

/-- The next request.  The clock is read for the time since the age request, and then for the start
of the request. -/
def prepare (poll : PropertyPoll) (now began : Nat) : Option PreparedSample :=
  poll.samples[poll.cursor]?.map fun sample =>
    let needsAge := sample.sensorAge.isSome && poll.pendingAge.isNone
    {
      member := if needsAge then "timesincelastupdate" else sample.member
      parameters :=
        if needsAge then
          .ofList [("SensorName",
            (sample.sensorAge.map fun age => Json.string (sensorName age)).getD .null)]
        else sample.parameters
      sample := sample
      needsAge := needsAge
      age := (poll.pendingAge.map fun pending =>
        pending.1.add (Duration.asSecsF64 (now - pending.2))).getD 0
      began := began }

def emptyBatch (poll : PropertyPoll) : SampleBatch where
  values := ∅
  errors := ∅
  agesSeconds := ∅
  safetyObservedAt := none
  isPartial := !poll.safety
  more := false

def advance (poll : PropertyPoll) : PropertyPoll :=
  { poll with
    failures := 0
    pendingAge := none
    cursor := (poll.cursor + 1) % poll.samples.length }

def settle (poll : PropertyPoll) (batch : SampleBatch) :
    Except SourceError SampleBatch × PropertyPoll :=
  (.ok { batch with more := decide (poll.advance.cursor ≠ 0) }, poll.advance)

def withError (poll : PropertyPoll) (key : String) (error : SourceError) : SampleBatch :=
  { poll.emptyBatch with errors := (∅ : TreeMap String SourceError).insert key error }

def withValue (poll : PropertyPoll) (key : String) (value : Json) (age : F64) : SampleBatch :=
  { poll.emptyBatch with
    values := (∅ : Values).insert key value
    agesSeconds := (∅ : TreeMap String F64).insert key age }

def answeredAge (value : Json) : Option F64 :=
  value.asF64.filter fun age => age.isFinite && decide (0 ≤ age)

def finishError (poll : PropertyPoll) (key : String) (error : SourceError) :
    Except SourceError SampleBatch × PropertyPoll :=
  if poll.safety || error.transportLost then (.error error, poll)
  else if error.isRetryable then
    if poll.failures + 1 < poll.attempts then
      (.ok { poll.withError key error with more := true },
        { poll with failures := poll.failures + 1 })
    else poll.settle (poll.withError key error)
  else poll.settle (poll.withError key error)

def finish (poll : PropertyPoll) (prepared : PreparedSample) (result : Except SourceError Json)
    (badValue : SourceError) : Except SourceError SampleBatch × PropertyPoll :=
  let key := prepared.sample.key
  match result with
  | .ok value =>
    if prepared.needsAge then
      match answeredAge value with
      | some age =>
        (.ok { poll.emptyBatch with more := true },
          { poll with failures := 0, pendingAge := some (age, prepared.began) })
      | none =>
        poll.settle (poll.withError key (.new .unavailable "Sensor has no valid update time"))
    else if prepared.sample.validValue value then
      poll.settle (poll.withValue key value prepared.age)
    else if poll.safety then (.error badValue, poll)
    else poll.settle (poll.withError key badValue)
  | .error error => poll.finishError key error

def restart (poll : PropertyPoll) : PropertyPoll :=
  { poll with cursor := 0, pendingAge := none, failures := 0 }

end PropertyPoll

end Regain.Hub
