import Regain.Hub.Configuration.Config

/-!
# Typed properties

The typed outputs answer a property in two ways: from the samples of a snapshot, with an age, or by
reading the device.
-/

namespace Regain.Hub.Typed

open Lib

/-- A snapshot with the interface version of its connection. -/
structure Snapshot extends SourceSnapshot where
  interfaceVersion : Option Nat

/-- The values of typed properties. -/
inductive Value where
  | boolean (value : Bool)
  | integer (value : Int)
  | number (value : F64)
  | strings (value : List String)
  | integers (value : List Int)

structure Sample where
  value : Value
  ageSeconds : F64
  source : Uuid
  generation : Uuid
  sequence : Nat
  revision : Uuid

abbrev Device := String → Except SourceError Json

def unavailable (message : String) : SourceError :=
  .new .unavailable message

def orError (value : Option α) (error : SourceError) : Except SourceError α :=
  match value with
  | some value => .ok value
  | none => .error error

def sampleAge (state : Snapshot) (key : String) (now : Nat) : Except SourceError F64 :=
  match state.sampleStarted[key]?.or state.sampledAt with
  | none => .error (unavailable "No typed sample has been received")
  | some sampled =>
    let elapsed := (Duration.asSecsF64 now).sub (Duration.asSecsF64 sampled)
    let upstreamAge := state.sampleAges[key]?.getD 0
    let age := elapsed.add upstreamAge
    if elapsed < 0 ∨ upstreamAge < 0 ∨ age.isFinite = false then
      .error (unavailable "Invalid typed sample age")
    else .ok age

def typedSample (state : Snapshot) (key : String) (now : Nat) (value : Value) :
    Except SourceError Sample := do
  let age ← sampleAge state key now
  return {
    value := value
    ageSeconds := age
    source := state.source
    generation := state.generation
    sequence := state.sampleSequences[key]?.getD state.sequence
    revision := state.revision }

def ready (state : Snapshot) (disconnected : SourceError) : Except SourceError Unit :=
  if state.transportConnected then
    match state.error with
    | some error => .error error
    | none => .ok ()
  else .error disconnected

def cachedRead (state : Snapshot) (key : String) (decode : Json → Except SourceError Value)
    (missing : SourceError) (now : Nat) : Except SourceError Sample :=
  match state.sampleErrors[key]? with
  | some error => .error error
  | none => do
    let value ← decode (← orError state.values[key]? missing)
    typedSample state key now value

def asInt32 (json : Json) : Option Int :=
  json.asInt.filter fun value => decide (-2147483648 ≤ value) && decide (value ≤ 2147483647)

def sourceDisconnected : SourceError :=
  .new .disconnected "Source is disconnected"

inductive Kind where
  | boolean
  | integer
  | number

namespace Focuser

inductive Property where
  | absolute
  | maxStep
  | maxIncrement
  | tempCompAvailable
  | position
  | isMoving
  | tempComp
  | temperature
  | stepSize
  deriving DecidableEq

def badReading : SourceError :=
  unavailable "Source returned an invalid focuser property"

def relative : SourceError :=
  .new .unsupported "Relative focusers do not report absolute position"

def disconnected : SourceError :=
  .new .disconnected "Focuser session changed; reconnect explicitly"

namespace Property

def member : Property → String
  | absolute => "absolute"
  | maxStep => "maxstep"
  | maxIncrement => "maxincrement"
  | tempCompAvailable => "tempcompavailable"
  | position => "position"
  | isMoving => "ismoving"
  | tempComp => "tempcomp"
  | temperature => "temperature"
  | stepSize => "stepsize"

def valueType : Property → Kind
  | absolute => .boolean
  | tempCompAvailable => .boolean
  | isMoving => .boolean
  | tempComp => .boolean
  | maxStep => .integer
  | maxIncrement => .integer
  | position => .integer
  | temperature => .number
  | stepSize => .number

def decode (property : Property) (json : Json) : Except SourceError Value :=
  orError
    (match property.valueType with
      | .boolean => json.asBool.map .boolean
      | .integer =>
        ((asInt32 json).filter fun value =>
          if property = .position then decide (0 ≤ value) else decide (0 < value)).map .integer
      | .number =>
        (json.asF64.filter fun value =>
          value.isFinite && (decide (property ≠ .stepSize) || decide (0 < value))).map .number)
    badReading

end Property

def cachedProperty (state : Snapshot) (property : Property) (now : Nat) :
    Except SourceError Sample := do
  ready state disconnected
  if property = .position ∧ state.values["absolute"]?.bind Json.asBool = some false then
    .error relative
  else
    cachedRead state property.member property.decode
      (unavailable "No focuser sample has been received") now

structure Capabilities where
  absolute : Bool
  maxStep : Int
  maxIncrement : Int
  tempCompAvailable : Bool

def readBoolean (device : Device) (member : String) : Except SourceError Bool := do
  orError (← device member).asBool badReading

def readInteger (device : Device) (member : String) : Except SourceError Int := do
  orError (asInt32 (← device member)) badReading

def capabilities (device : Device) : Except SourceError Capabilities := do
  let absolute ← readBoolean device "absolute"
  let maxStep ← readInteger device "maxstep"
  let maxIncrement ← readInteger device "maxincrement"
  let tempCompAvailable ← readBoolean device "tempcompavailable"
  if maxStep ≤ 0 ∨ maxIncrement ≤ 0 then .error badReading
  else
    return {
      absolute := absolute
      maxStep := maxStep
      maxIncrement := maxIncrement
      tempCompAvailable := tempCompAvailable }

def position (device : Device) : Except SourceError Int := do
  let capabilities ← capabilities device
  if capabilities.absolute then
    let position ← readInteger device "position"
    if 0 ≤ position ∧ position ≤ capabilities.maxStep then return position
    else .error badReading
  else .error relative

def property (device : Device) (property : Property) : Except SourceError Json :=
  if property = .position then do return .ofInt (← position device)
  else do
    let value ← device property.member
    let _ ← property.decode value
    return value

end Focuser

namespace FilterWheel

inductive Property where
  | names
  | focusOffsets
  | position
  deriving DecidableEq

def badReading : SourceError :=
  unavailable "Source returned an invalid filter wheel property"

def maxFilterSlots : Nat := maxSampleArrayLength

def array (json : Json) : Option (List Json) :=
  match json with
  | .array items => if items ≠ [] ∧ items.length ≤ maxFilterSlots then some items else none
  | _ => none

def nameItems (total : Nat) : List Json → Option (List String)
  | [] => some []
  | item :: items => do
    let name ← item.asString
    let total := total + name.utf8ByteSize
    if maxSampleTextBytes < total then none
    else return name :: (← nameItems total items)

def offsetItems (items : List Json) : Option (List Int) :=
  (items.mapM asInt32).filter fun offsets => offsets.contains 0

def Property.member : Property → String
  | names => "names"
  | focusOffsets => "focusoffsets"
  | position => "position"

def Property.decode (property : Property) (json : Json) : Except SourceError Value :=
  orError
    (match property with
      | .position =>
        ((asInt32 json).filter fun value : Int =>
          decide (-1 ≤ value) && decide (value < (maxFilterSlots : Int))).map .integer
      | .names => ((array json).bind (nameItems 0)).map .strings
      | .focusOffsets => ((array json).bind offsetItems).map .integers)
    badReading

def slots : Value → Nat
  | .strings names => names.length
  | .integers offsets => offsets.length
  | _ => 0

def beyond (value : Value) (slots : Nat) : Bool :=
  match value with
  | .integer position => decide ((slots : Int) ≤ position)
  | _ => false

def readSample (state : Snapshot) (now : Nat) (property : Property) : Except SourceError Sample :=
  cachedRead state property.member property.decode badReading now

def validSample (state : Snapshot) (now : Nat) (names offsets : Sample) :
    Property → Except SourceError Sample
  | .names => .ok names
  | .focusOffsets => .ok offsets
  | .position => do
    let position ← readSample state now .position
    if beyond position.value (slots names.value) then .error badReading else return position

def cachedProperty (state : Snapshot) (property : Property) (now : Nat) :
    Except SourceError Sample := do
  ready state sourceDisconnected
  let names ← readSample state now .names
  let offsets ← readSample state now .focusOffsets
  if slots names.value ≠ slots offsets.value then .error badReading
  else
    let sample ← validSample state now names offsets property
    return { sample with
      ageSeconds := sample.ageSeconds.max (names.ageSeconds.max offsets.ageSeconds) }

def capabilities (device : Device) : Except SourceError (Value × Value) := do
  let names ← Property.names.decode (← device "names")
  let offsets ← Property.focusOffsets.decode (← device "focusoffsets")
  if slots names ≠ slots offsets then .error badReading else return (names, offsets)

def readPosition (device : Device) (slots : Nat) : Except SourceError Value := do
  let position ← Property.position.decode (← device "position")
  if beyond position slots then .error badReading else return position

def toJson : Value → Json
  | .integer value => .ofInt value
  | .strings names => .array (names.map .string)
  | .integers offsets => .array (offsets.map .ofInt)
  | _ => .null

def property (device : Device) (property : Property) : Except SourceError Json := do
  let capabilities ← capabilities device
  match property with
  | .position => return toJson (← readPosition device (slots capabilities.1))
  | .names => return toJson capabilities.1
  | .focusOffsets => return toJson capabilities.2

end FilterWheel

namespace CoverCalibrator

inductive Property where
  | brightness
  | maxBrightness
  | coverState
  | calibratorState
  | coverMoving
  | calibratorChanging
  deriving DecidableEq

def badReading : SourceError :=
  unavailable "Source returned an invalid or unavailable panel property"

def unsupported : SourceError :=
  .new .unsupported "This panel capability is not present"

namespace Property

def member : Property → String
  | brightness => "brightness"
  | maxBrightness => "maxbrightness"
  | coverState => "coverstate"
  | calibratorState => "calibratorstate"
  | coverMoving => "covermoving"
  | calibratorChanging => "calibratorchanging"

def accepts (property : Property) (value : Int) : Bool :=
  match property with
  | .coverState => decide (0 ≤ value) && decide (value ≤ 5)
  | .calibratorState => decide (0 ≤ value) && decide (value ≤ 5)
  | .maxBrightness => decide (0 < value)
  | _ => decide (0 ≤ value)

def isBoolean : Property → Bool
  | coverMoving => true
  | calibratorChanging => true
  | _ => false

def decode (property : Property) (json : Json) : Except SourceError Value :=
  if property.isBoolean then orError (json.asBool.map .boolean) badReading
  else orError (((asInt32 json).filter property.accepts).map .integer) badReading

def stateOf : Property → Property
  | coverMoving => coverState
  | _ => calibratorState

end Property

def legacy (state : Snapshot) : Bool :=
  state.interfaceVersion == some 1

def completion (state : Int) : Except SourceError Bool :=
  if state = 0 ∨ state = 1 ∨ state = 3 then .ok false
  else if state = 2 then .ok true
  else .error badReading

def integerOf : Value → Int
  | .integer value => value
  | _ => 0

def readSample (state : Snapshot) (now : Nat) (property : Property) : Except SourceError Sample :=
  cachedRead state property.member property.decode badReading now

def cachedCompletion (state : Snapshot) (property : Property) (now : Nat) :
    Except SourceError Sample := do
  let sample ← readSample state now property.stateOf
  let value ← completion (integerOf sample.value)
  return { sample with value := .boolean value }

def cachedLight (state : Snapshot) (property : Property) (now : Nat) :
    Except SourceError Sample := do
  let light ← readSample state now .calibratorState
  if integerOf light.value = 0 then .error unsupported
  else
    let maximum ← readSample state now .maxBrightness
    if property = .maxBrightness then
      return { maximum with ageSeconds := maximum.ageSeconds.max light.ageSeconds }
    else
      let brightness ← readSample state now .brightness
      if integerOf maximum.value < integerOf brightness.value
          ∨ integerOf light.value = 1 ∧ integerOf brightness.value ≠ 0 then .error badReading
      else
        return { brightness with
          ageSeconds := (brightness.ageSeconds.max maximum.ageSeconds).max light.ageSeconds }

def cachedProperty (state : Snapshot) (property : Property) (now : Nat) :
    Except SourceError Sample := do
  ready state sourceDisconnected
  match property with
  | .coverMoving =>
    if legacy state then cachedCompletion state property now else readSample state now property
  | .calibratorChanging =>
    if legacy state then cachedCompletion state property now else readSample state now property
  | .brightness => cachedLight state property now
  | .maxBrightness => cachedLight state property now
  | .coverState => readSample state now property
  | .calibratorState => readSample state now property

def readInteger (device : Device) (property : Property) : Except SourceError Int := do
  return integerOf (← property.decode (← device property.member))

def light (device : Device) : Except SourceError (Int × Int) := do
  let state ← readInteger device .calibratorState
  if state = 0 then .error unsupported else return (state, ← readInteger device .maxBrightness)

def brightness (device : Device) : Except SourceError Int := do
  let light ← light device
  let brightness ← readInteger device .brightness
  if light.2 < brightness ∨ light.1 = 1 ∧ brightness ≠ 0 then .error badReading
  else return brightness

/-- Whether a movement is complete; only a first version lacks the property. -/
def moving (state : Snapshot) (device : Device) (property : Property) : Except SourceError Json :=
  if legacy state then do
    return .bool (← completion (← readInteger device property.stateOf))
  else do
    let value ← device property.member
    let _ ← property.decode value
    return value

def property (state : Snapshot) (device : Device) (property : Property) :
    Except SourceError Json :=
  match property with
  | .coverState => do return .ofInt (← readInteger device property)
  | .calibratorState => do return .ofInt (← readInteger device property)
  | .maxBrightness => do return .ofInt (← light device).2
  | .brightness => do return .ofInt (← brightness device)
  | .coverMoving => moving state device property
  | .calibratorChanging => moving state device property

end CoverCalibrator

namespace Rotator

inductive Property where
  | canReverse
  | isMoving
  | mechanicalPosition
  | position
  | reverse
  | stepSize
  | targetPosition
  deriving DecidableEq

/-- The binary32 value nearest to a value, ties to even, when the exponent range is unbounded
above. -/
def roundBinary32 (value : Rat) : Rat :=
  if value = 0 then 0
  else
    let magnitude := if value < 0 then -value else value
    let unit := (2 : Rat) ^ max (floorLog2 magnitude - 23) (-149)
    (roundHalfEven (value / unit) : Rat) * unit

def maxSingle : Rat :=
  340282346638528859811704183484516925440

def finiteSingle (value : F64) : Bool :=
  value.isFinite && decide (value.abs.toRat ≤ maxSingle)

namespace Property

def member : Property → String
  | canReverse => "canreverse"
  | isMoving => "ismoving"
  | mechanicalPosition => "mechanicalposition"
  | position => "position"
  | reverse => "reverse"
  | stepSize => "stepsize"
  | targetPosition => "targetposition"

def valueType : Property → Kind
  | canReverse => .boolean
  | isMoving => .boolean
  | reverse => .boolean
  | mechanicalPosition => .number
  | position => .number
  | stepSize => .number
  | targetPosition => .number

/-- A step is positive and an angle lies below a turn, in single precision too. -/
def accepts (property : Property) (value : F64) : Bool :=
  finiteSingle value
    && if property = .stepSize then decide (0 < value.toRat) && decide (0 < roundBinary32 value.toRat)
      else decide (0 ≤ value.toRat) && decide (value.toRat < 360)
        && decide (roundBinary32 value.toRat < 360)

def decode (property : Property) (json : Json) : Except SourceError Value :=
  orError
    (match property.valueType with
      | .boolean => json.asBool.map .boolean
      | _ => (json.asF64.filter property.accepts).map .number)
    (unavailable "Source returned an invalid rotator property")

end Property

def cachedProperty (state : Snapshot) (property : Property) (now : Nat) :
    Except SourceError Sample := do
  ready state sourceDisconnected
  cachedRead state property.member property.decode
    (unavailable "No rotator sample has been received") now

def property (device : Device) (property : Property) : Except SourceError Json := do
  let value ← device property.member
  let _ ← property.decode value
  return value

end Rotator

end Regain.Hub.Typed
