import Std.Data.TreeMap.Lemmas
import Regain.Hub.Coordination.Camera

/-!
# Hub configurations

The part of a `HubConfig` that identities, references and groups are read from.
Everything else in the document (labels, polling and safety policies, value ranges,
camera and filter-wheel settings, averaging) is one value of a type of the reader's
choice, and so are the errors of the field checks on it.
-/

namespace Regain.Hub

open Std (TreeMap)

def schemaVersion : Nat := 1
def maxLabelChars : Nat := 200
def maxDevices : Nat := 256
def maxGroups : Nat := 64
def maxSafetyMembers : Nat := 64
def maxSwitchChannels : Nat := 1024
def maxMeasurementSources : Nat := 16

inductive DeviceType where
  | camera
  | switch
  | safetyMonitor
  | observingConditions
  | focuser
  | rotator
  | filterWheel
  | coverCalibrator
  deriving DecidableEq

def DeviceType.name : DeviceType → String
  | camera => "Camera"
  | switch => "Switch"
  | safetyMonitor => "SafetyMonitor"
  | observingConditions => "ObservingConditions"
  | focuser => "Focuser"
  | rotator => "Rotator"
  | filterWheel => "FilterWheel"
  | coverCalibrator => "CoverCalibrator"

inductive NativeDevice where
  | cameraDirect
  | cameraSdk
  | caa
  | efw
  | eaf
  | fc3
  | falcon
  | ofp2
  | eta
  deriving DecidableEq

def NativeDevice.name : NativeDevice → String
  | cameraDirect => "CameraDirect"
  | cameraSdk => "CameraSdk"
  | caa => "Caa"
  | efw => "Efw"
  | eaf => "Eaf"
  | fc3 => "Fc3"
  | falcon => "Falcon"
  | ofp2 => "Ofp2"
  | eta => "Eta"

def NativeDevice.deviceType : NativeDevice → DeviceType
  | cameraDirect => .camera
  | cameraSdk => .camera
  | caa => .rotator
  | falcon => .rotator
  | efw => .filterWheel
  | eaf => .focuser
  | fc3 => .focuser
  | eta => .focuser
  | ofp2 => .coverCalibrator

def Uuid.text (id : Uuid) : String :=
  let digits := (BitVec.toHex id).toList
  let part := fun start count => String.ofList ((digits.drop start).take count)
  part 0 8 ++ "-" ++ part 8 4 ++ "-" ++ part 12 4 ++ "-" ++ part 16 4 ++ "-" ++ part 20 12

inductive SourceBackend where
  | native (device : NativeDevice) (identity : String)
  | alpaca (baseUrl : String) (scopeId : Option Nat) (deviceType : DeviceType)
      (deviceNumber : Nat) (uniqueId : Option String) (credentialReference : Option String)
  | com (progId : String) (deviceType : DeviceType)
  | virtual (output : Uuid)
  | simulated (deviceType : DeviceType)

structure SourceConfig where
  id : Uuid
  backend : SourceBackend

inductive Readout where
  | channel (source : Uuid) (channel : Nat) (unit : Option String)
  | property (source : Uuid) (property : String) (unit : Option String)
  deriving DecidableEq

def Readout.source : Readout → Uuid
  | channel source _ _ => source
  | property source _ _ => source

def Readout.unit : Readout → Option String
  | channel _ _ unit => unit
  | property _ _ unit => unit

structure SafetyMember where
  source : Uuid
  enabled : Bool

structure SwitchChannel where
  id : Uuid
  number : Nat
  readout : Readout
  writable : Bool
  deriving DecidableEq

/-- A weather measurement: its metric's wire name and its readouts in fallback order. -/
structure Measurement where
  metric : String
  sources : List Readout

inductive VirtualDevice where
  | safety (members : List SafetyMember)
  | switch (channels : List SwitchChannel)
  | weather (measurements : List Measurement)
  | proxy (source : Uuid) (deviceType : DeviceType)

namespace VirtualDevice

def deviceType : VirtualDevice → DeviceType
  | safety _ => .safetyMonitor
  | switch _ => .switch
  | weather _ => .observingConditions
  | proxy _ deviceType => deviceType

def sources : VirtualDevice → List Uuid
  | safety members => members.map (·.source)
  | switch channels => channels.map (·.readout.source)
  | weather measurements => measurements.flatMap fun m => m.sources.map (·.source)
  | proxy source _ => [source]

def channels : VirtualDevice → List SwitchChannel
  | switch channels => channels
  | safety _ => []
  | weather _ => []
  | proxy _ _ => []

end VirtualDevice

structure OutputConfig where
  id : Uuid
  number : Nat
  device : VirtualDevice

structure OutputIdentity where
  number : Nat
  deviceType : DeviceType
  deriving DecidableEq

def OutputConfig.identity (output : OutputConfig) : OutputIdentity where
  number := output.number
  deviceType := output.device.deviceType

structure ChannelIdentity where
  output : Uuid
  number : Nat
  readout : Readout
  deriving DecidableEq

structure IdentityLedger where
  sources : TreeMap Uuid String := {}
  alpacaPins : TreeMap Uuid String := {}
  outputs : TreeMap Uuid OutputIdentity := {}
  channels : TreeMap Uuid ChannelIdentity := {}
  groups : TreeMap Uuid Unit := {}
  cameraGroups : TreeMap Uuid Unit := {}

/-- Equality of the six maps as the source derives it: by their entries in order. -/
instance : BEq IdentityLedger where
  beq a b := a.sources.toList == b.sources.toList && a.alpacaPins.toList == b.alpacaPins.toList &&
    a.outputs.toList == b.outputs.toList && a.channels.toList == b.channels.toList &&
    a.groups.toList == b.groups.toList && a.cameraGroups.toList == b.cameraGroups.toList

structure HubConfig (Details : Type) where
  schemaVersion : Nat
  revision : Uuid
  instanceId : Uuid
  sources : List SourceConfig
  outputs : List OutputConfig
  focuserGroups : List FocuserGroupConfig
  cameraGroups : List CameraGroupConfig
  identities : IdentityLedger
  /-- The rest of the document. -/
  details : Details

/-- The functions of other crates and files that validation calls. -/
structure Dialect (Details : Type) where
  /-- URL parsing and normalisation, with the interface scope. -/
  normalizedAlpacaUrl : String → Option Nat → Except String String
  /-- `Uuid::parse_str(value)` in canonical text, or the value itself. -/
  normalizeAlpacaId : String → String
  /-- The ProgID under which an output of this hub is exported. -/
  progId : Uuid → Uuid → DeviceType → Option String
  /-- The errors of the checks on the rest of the document. -/
  fieldErrors : HubConfig Details → List FieldError

def asciiLower (text : String) : String :=
  text.map Char.toLower

section

variable {Details : Type} (dialect : Dialect Details)

def SourceConfig.identity (source : SourceConfig) : Except String String :=
  match source.backend with
  | .alpaca baseUrl scopeId deviceType deviceNumber _ _ => do
    let url ← dialect.normalizedAlpacaUrl baseUrl scopeId
    .ok ("alpaca:" ++ url ++ ":" ++ deviceType.name ++ ":" ++ toString deviceNumber)
  | .native device identity =>
    let device := if device = .cameraDirect ∨ device = .cameraSdk then "Camera" else device.name
    .ok ("native:" ++ device ++ ":" ++ identity)
  | .com progId deviceType => .ok ("com:" ++ asciiLower progId ++ ":" ++ deviceType.name)
  | .virtual output => .ok ("virtual:" ++ output.text)
  | .simulated deviceType => .ok ("simulation:" ++ deviceType.name ++ ":" ++ source.id.text)

def SourceConfig.pin (source : SourceConfig) : Option String :=
  match source.backend with
  | .alpaca _ _ _ _ uniqueId _ => uniqueId.map dialect.normalizeAlpacaId
  | .native _ _ => none
  | .com _ _ => none
  | .virtual _ => none
  | .simulated _ => none

end

namespace HubConfig

variable {Details : Type}

def source? (config : HubConfig Details) (id : Uuid) : Option SourceConfig :=
  config.sources.find? (·.id == id)

def output? (config : HubConfig Details) (id : Uuid) : Option OutputConfig :=
  config.outputs.find? (·.id == id)

def sourceType (config : HubConfig Details) (id : Uuid) : Option DeviceType := do
  let source ← config.source? id
  match source.backend with
  | .native device _ => some device.deviceType
  | .alpaca _ _ deviceType _ _ _ => some deviceType
  | .com _ deviceType => some deviceType
  | .simulated deviceType => some deviceType
  | .virtual output => (config.output? output).map (·.device.deviceType)

def slots (config : HubConfig Details) (output : Uuid) : List Nat :=
  (match config.output? output with
    | some item => item.device.channels.map (·.number)
    | none => []) ++
  (config.identities.channels.toList.filter (·.2.output == output)).map (·.2.number)

def switchSlotCount (config : HubConfig Details) (output : Uuid) : Nat :=
  match (config.slots output).max? with
  | some number => min (number + 1) (2 ^ 32 - 1)
  | none => 0

end HubConfig

end Regain.Hub
