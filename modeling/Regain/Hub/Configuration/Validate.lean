import Regain.Hub.Configuration.Config

/-!
# Validation of a hub configuration

The checks of `HubConfig::validate` on identities, references, the dependency graph and the groups.
Each item is checked in document order against what the items before it have claimed.
-/

namespace Regain.Hub

open Std (TreeMap)

/-- What the items checked so far have claimed. -/
structure Seen where
  ids : List Uuid := []
  identities : List String := []
  pins : List String := []
  numbers : List (DeviceType × Nat) := []

def Seen.claim (seen : Seen) (id : Uuid) : Bool × Seen :=
  if id.isNil then (true, seen)
  else if id ∈ seen.ids then (true, seen)
  else (false, { seen with ids := id :: seen.ids })

def reportIf (condition : Bool) (path code message : String) : List FieldError :=
  if condition then [⟨path, code, message⟩] else []

/-- A loop over items with their index, over what has been claimed so far. -/
def checkEach {α : Type} (check : Nat → Seen → α → List FieldError × Seen) :
    Nat → Seen → List α → List FieldError × Seen
  | _, seen, [] => ([], seen)
  | index, seen, item :: items =>
    let first := check index seen item
    let rest := checkEach check (index + 1) first.2 items
    (first.1 ++ rest.1, rest.2)

def validAlpacaId (value : String) : Bool :=
  !value.toList.all isWhiteSpace && value.utf8ByteSize ≤ 256 &&
    value.toList.all fun c => 32 ≤ c.toNat && c.toNat < 127

def validCredential (reference : String) : Bool :=
  !reference.isEmpty && reference.utf8ByteSize ≤ 200 &&
    reference.toList.all fun c => c.isAlphanum || c == '-' || c == '_' || c == '.'

def validProgId (progId : String) : Bool :=
  !progId.isEmpty && progId.utf8ByteSize ≤ 200 &&
    progId.toList.all fun c => c.isAlphanum || c == '.' || c == '_' || c == '-'

section

variable {Details : Type} (dialect : Dialect Details) (config : HubConfig Details)

/-- The errors of a backend, the pins after it and the key under which it is known. -/
def checkBackend (path : String) (seen : Seen) (source : SourceConfig) :
    List FieldError × Seen × Option String :=
  match source.backend with
  | .alpaca baseUrl scopeId deviceType deviceNumber uniqueId credentialReference =>
    let idErrors := reportIf (uniqueId.any fun id => !validAlpacaId id)
      (path ++ ".backend.uniqueId") "identity"
      "Use a nonempty ASCII catalog identity of at most 256 bytes"
    let credentialErrors := reportIf (credentialReference.any fun r => !validCredential r)
      (path ++ ".backend.credentialReference") "credential"
      "Use a local credential reference, never inline credentials"
    match dialect.normalizedAlpacaUrl baseUrl scopeId with
    | .ok url =>
      let key := "alpaca:" ++ url ++ ":" ++ deviceType.name ++ ":" ++ toString deviceNumber
      match uniqueId with
      | none => (idErrors ++ credentialErrors, seen, some key)
      | some id =>
        let pin := dialect.normalizeAlpacaId id
        if pin ∈ seen.pins then
          (idErrors ++ credentialErrors ++ [⟨path ++ ".backend.uniqueId", "duplicate",
            "Configure a pinned Alpaca device once and share its source ID"⟩], seen, some key)
        else
          (idErrors ++ credentialErrors, { seen with pins := pin :: seen.pins }, some key)
    | .error why =>
      (idErrors ++ credentialErrors ++ [⟨path ++ ".backend.baseUrl", "url", why⟩], seen, none)
  | .native device identity =>
    let device := if device = .cameraDirect ∨ device = .cameraSdk then "Camera" else device.name
    (reportIf (identity.toList.all isWhiteSpace || maxLabelChars < identity.length)
        (path ++ ".backend.identity") "identity" "Select a physical device identity",
      seen, some ("native:" ++ device ++ ":" ++ identity))
  | .com progId deviceType =>
    let idErrors := reportIf (!validProgId progId) (path ++ ".backend.progId") "identity"
      "Use a registered COM ProgID"
    let own := config.outputs.any fun output =>
      (dialect.progId config.instanceId output.id output.device.deviceType).any fun own =>
        asciiLower own == asciiLower progId
    let ownErrors := reportIf own (path ++ ".backend.progId") "cycle"
      "Use a virtual source for an output of this hub"
    (idErrors ++ ownErrors, seen, some ("com:" ++ asciiLower progId ++ ":" ++ deviceType.name))
  | .virtual output =>
    (reportIf (config.output? output).isNone (path ++ ".backend.output") "reference"
        "Virtual output does not exist", seen, some ("virtual:" ++ output.text))
  | .simulated _ => ([], seen, none)

def checkSource (index : Nat) (seen : Seen) (source : SourceConfig) : List FieldError × Seen :=
  let path := "sources[" ++ toString index ++ "]"
  let (taken, seen) := seen.claim source.id
  let idErrors := reportIf taken (path ++ ".id") "identity" "Source IDs must be non-nil and unique"
  let (backendErrors, seen, key) := checkBackend dialect config path seen source
  match key with
  | none => (idErrors ++ backendErrors, seen)
  | some key =>
    if key ∈ seen.identities then
      (idErrors ++ backendErrors ++ [⟨path ++ ".backend", "duplicate",
        "Configure a source once and share its ID"⟩], seen)
    else (idErrors ++ backendErrors, { seen with identities := key :: seen.identities })

end

section

variable {Details : Type} (config : HubConfig Details)

def validateReadout (readout : Readout) : List FieldError :=
  if readout.unit.any fun unit => 80 < unit.length then
    [⟨"unit", "range", "Unit labels are limited to 80 characters"⟩]
  else match readout with
    | .channel source channel _ =>
      if 32766 < channel then
        [⟨"", "range", "ASCOM channel IDs must fit the Switch interface range"⟩]
      else reportIf (config.sourceType source != some .switch) "" "type"
        "Channel readouts require a Switch source"
    | .property source property _ =>
      reportIf ((config.sourceType source).isNone || property.isEmpty ||
          80 < property.utf8ByteSize || !property.toList.all Char.isLower)
        "" "property" "Select a source and a lowercase scalar property"

def checkMembers (path : String) : Nat → List Uuid → List SafetyMember → List FieldError
  | _, _, [] => []
  | index, before, member :: members =>
    let here := path ++ ".device.members[" ++ toString index ++ "]"
    reportIf (decide (member.source ∈ before)) here "duplicate"
        "A source may only appear once in a safety output" ++
      reportIf (config.sourceType member.source != some .safetyMonitor) (here ++ ".source") "type"
        "Safety inputs must be SafetyMonitor devices" ++
      checkMembers path (index + 1) (member.source :: before) members

/-- One switch channel: whether its identity is refused, with what is claimed after it.
The source stops at the first refusal of `||`. -/
def checkChannel (path : String) (index : Nat) (state : Seen × List Nat) (channel : SwitchChannel) :
    List FieldError × Seen × List Nat :=
  let here := path ++ ".device.channels[" ++ toString index ++ "]"
  let (taken, seen) := state.1.claim channel.id
  let numbers := if taken then state.2 else channel.number :: state.2
  let refused := taken || decide (channel.number ∈ state.2) ||
    decide (maxSwitchChannels ≤ channel.number)
  let readoutErrors := (validateReadout config channel.readout).map fun e =>
    ⟨here ++ ".readout", e.code, e.message⟩
  (reportIf refused (here ++ ".id") "identity"
      "Use unique non-nil channel IDs and distinct channel numbers" ++ readoutErrors ++
    reportIf (channel.writable && (match channel.readout with
        | .property _ _ _ => true
        | .channel _ _ _ => false))
      (here ++ ".writable") "capability" "Scalar property gauges are read-only", seen, numbers)

def checkChannels (path : String) : Nat → Seen × List Nat → List SwitchChannel →
    List FieldError × Seen
  | _, state, [] => ([], state.1)
  | index, state, channel :: channels =>
    let first := checkChannel config path index state channel
    let rest := checkChannels path (index + 1) first.2 channels
    (first.1 ++ rest.1, rest.2)

def checkDevice (path : String) (seen : Seen) (device : VirtualDevice) : List FieldError × Seen :=
  match device with
  | .safety members =>
    (reportIf (decide (maxSafetyMembers < members.length) || !members.any (·.enabled))
        (path ++ ".device.members") "required"
        "Use 1–64 memberships with at least one enabled source" ++
      checkMembers config path 0 [] members, seen)
  | .switch channels =>
    let countErrors := reportIf (channels.isEmpty || decide (maxSwitchChannels < channels.length))
      (path ++ ".device.channels") "required" "Use 1–1024 switch channels"
    let checked := checkChannels config path 0 (seen, []) channels
    (countErrors ++ checked.1, checked.2)
  | .weather measurements =>
    (reportIf measurements.isEmpty (path ++ ".device.measurements") "required"
        "Select at least one weather measurement" ++ measurements.flatMap fun measurement =>
        let here := path ++ ".device.measurements." ++ measurement.metric
        reportIf (measurement.sources.isEmpty ||
            decide (maxMeasurementSources < measurement.sources.length))
          here "required" "Select 1–16 sources in fallback order" ++
        measurement.sources.flatMap fun readout =>
          (validateReadout config readout).map fun e => ⟨here, e.code, e.message⟩, seen)
  | .proxy source deviceType =>
    (reportIf (config.sourceType source != some deviceType) (path ++ ".device.source") "type"
      "Proxy device type must match its source", seen)

def checkOutput (index : Nat) (seen : Seen) (output : OutputConfig) : List FieldError × Seen :=
  let path := "outputs[" ++ toString index ++ "]"
  let (taken, seen) := seen.claim output.id
  let idErrors := reportIf taken (path ++ ".id") "identity"
    "Output IDs must be non-nil and distinct from other IDs"
  let number := (output.device.deviceType, output.number)
  let numberErrors := reportIf (decide (number ∈ seen.numbers)) (path ++ ".number") "identity"
    "Device number must be unique within its device class"
  let referenceErrors := output.device.sources.flatMap fun source =>
    reportIf (config.source? source).isNone (path ++ ".device") "reference"
      "Referenced source does not exist"
  let checked := checkDevice config path { seen with numbers := number :: seen.numbers }
    output.device
  (idErrors ++ numberErrors ++ referenceErrors ++ checked.1, checked.2)

end

section

variable {Details : Type} (config : HubConfig Details)

/-- The outputs that a source reads: the one that a virtual source refers to. -/
def SourceConfig.next (source : SourceConfig) : List Uuid :=
  match source.backend with
  | .virtual output => [output]
  | .native _ _ => []
  | .alpaca _ _ _ _ _ _ => []
  | .com _ _ => []
  | .simulated _ => []

/-- The edges of the bipartite graph of sources and outputs, by their IDs. -/
def edges : TreeMap Uuid (List Uuid) :=
  TreeMap.ofList (config.sources.map (fun source => (source.id, source.next)) ++
    config.outputs.map fun output => (output.id, output.device.sources))

/-- The sets of a depth-first search: the nodes on its path and the finished ones. -/
structure Search where
  active : List Uuid := []
  done : List Uuid := []

/-- `next.iter().any(..)`: the first node from which a cycle is found ends the loop. -/
def visitAny (visit : Uuid → Search → Option (Bool × Search)) :
    List Uuid → Search → Option (Bool × Search)
  | [], search => some (false, search)
  | id :: ids, search =>
    match visit id search with
    | none => none
    | some (true, search) => some (true, search)
    | some (false, search) => visitAny visit ids search

def visit (edges : TreeMap Uuid (List Uuid)) : Nat → Uuid → Search → Option (Bool × Search)
  | 0, _, _ => none
  | depth + 1, id, search =>
    if id ∈ search.done then some (false, search)
    else if id ∈ search.active then some (true, search)
    else
      match visitAny (visit edges depth) (edges.getD id [])
          { search with active := id :: search.active } with
      | none => none
      | some (true, search) => some (true, search)
      | some (false, search) =>
        some (false, { active := search.active.erase id, done := id :: search.done })

def searchFrom (edges : TreeMap Uuid (List Uuid)) (depth : Nat) :
    List Uuid → List Uuid → Option Bool
  | [], _ => some false
  | id :: ids, done =>
    match visit edges depth id { done := done } with
    | none => none
    | some (true, _) => some true
    | some (false, search) => searchFrom edges depth ids search.done

def findsCycle : Option Bool :=
  searchFrom (edges config) ((edges config).size + 2) (edges config).keys []

end

section

variable {Details : Type} (config : HubConfig Details)

def physicalSource (expected : DeviceType) : Nat → List Uuid → Uuid → Except String Uuid
  | 0, _, _ => .error "Source aliases contain a cycle"
  | steps + 1, visited, source =>
    if source ∈ visited then .error "Source aliases contain a cycle"
    else
      match config.source? source with
      | none => .error "Group source does not exist"
      | some entry =>
        match entry.backend with
        | .virtual output =>
          match config.output? output with
          | none => .error "Group alias output does not exist"
          | some target =>
            match target.device with
            | .proxy next deviceType =>
              if deviceType = expected then
                physicalSource expected steps (source :: visited) next
              else .error "Group members must resolve through matching proxy outputs"
            | _ => .error "Group members must resolve through matching proxy outputs"
        | _ =>
          if config.sourceType source = some expected then .ok source
          else .error "Group member source has the wrong device class"

def physicalFocuserSource (source : Uuid) : Except String Uuid :=
  physicalSource config .focuser maxDevices [] source

def physicalCameraSource (source : Uuid) : Except String Uuid :=
  physicalSource config .camera maxDevices [] source

def checkLeaves (resolve : Uuid → Except String Uuid) (reference : Nat → String)
    (duplicate : String) : Nat → List Uuid → List Uuid → List FieldError
  | _, _, [] => []
  | index, leaves, source :: sources =>
    match resolve source with
    | .error problem =>
      ⟨reference index, "source", problem⟩ ::
        checkLeaves resolve reference duplicate (index + 1) leaves sources
    | .ok leaf =>
      if leaf ∈ leaves then
        ⟨reference index, "duplicate", duplicate⟩ ::
          checkLeaves resolve reference duplicate (index + 1) leaves sources
      else checkLeaves resolve reference duplicate (index + 1) (leaf :: leaves) sources

def checkGroup (path : String) (seen : Seen) (id : Uuid) (valid : Except SourceError Unit)
    (members : List FieldError) : List FieldError × Seen :=
  let (taken, seen) := seen.claim id
  let idErrors := reportIf taken (path ++ ".id") "identity"
    "Group IDs must be non-nil and distinct from other IDs"
  match valid with
  | .error problem => (idErrors ++ [⟨path, "group", problem.message⟩], seen)
  | .ok () => (idErrors ++ members, seen)

def checkFocuserGroup (index : Nat) (seen : Seen) (group : FocuserGroupConfig) :
    List FieldError × Seen :=
  let path := "focuserGroups[" ++ toString index ++ "]"
  checkGroup path seen group.id group.validate <|
    checkLeaves (physicalFocuserSource config)
      (fun member => path ++ ".members[" ++ toString member ++ "].source")
      "Group members must resolve to different physical focusers" 0 []
      (group.members.map (·.source))

def checkCameraGroup (index : Nat) (seen : Seen) (group : CameraGroupConfig) :
    List FieldError × Seen :=
  let path := "cameraGroups[" ++ toString index ++ "]"
  checkGroup path seen group.id group.validate <|
    checkLeaves (physicalCameraSource config)
      (fun member => path ++ ".members[" ++ toString member ++ "]")
      "Group members must resolve to different physical cameras" 0 [] group.members

end

section

variable {Details : Type} (dialect : Dialect Details) (config : HubConfig Details)

def headerErrors : List FieldError :=
  reportIf (config.schemaVersion != schemaVersion) "schemaVersion" "version"
      "Unsupported hub schema version; migrate explicitly before loading" ++
    reportIf config.revision.isNil "revision" "identity" "Revision cannot be nil" ++
    reportIf config.instanceId.isNil "instanceId" "identity" "Instance ID cannot be nil" ++
    reportIf (config.identities.alpacaPins.toList.any fun (id, pin) =>
        id.isNil || !validAlpacaId pin || !config.identities.sources.contains id)
      "identities.alpacaPins" "identity"
      "Saved Alpaca pins must refer to known source IDs and valid catalog identities" ++
    reportIf (config.identities.channels.toList.any fun (_, channel) =>
        decide (maxSwitchChannels ≤ channel.number))
      "identities.channels" "range"
      "Retired switch slots must stay within the supported channel range"

def tooMany : Bool :=
  decide (maxDevices < config.sources.length) || decide (maxDevices < config.outputs.length) ||
    decide (maxGroups < config.focuserGroups.length) ||
    decide (maxGroups < config.cameraGroups.length)

def cycleErrors : List FieldError :=
  reportIf (findsCycle config == some true) "outputs" "cycle"
    "Virtual devices must not depend on themselves, directly or indirectly"

/-- The sources, then the outputs, then the groups, over one set of claimed IDs. -/
def itemErrors : List FieldError :=
  let sources := checkEach (checkSource dialect config) 0 {} config.sources
  let outputs := checkEach (checkOutput config) 0 sources.2 config.outputs
  let focusers := checkEach (checkFocuserGroup config) 0 outputs.2 config.focuserGroups
  let cameras := checkEach (checkCameraGroup config) 0 focusers.2 config.cameraGroups
  sources.1 ++ outputs.1 ++ cycleErrors config ++ focusers.1 ++ cameras.1

def validate : List FieldError :=
  headerErrors config ++
    if tooMany config then
      [⟨"sources", "limit",
        "At most 256 sources, 256 outputs and 64 groups of each kind are supported"⟩]
    else itemErrors dialect config ++ dialect.fieldErrors config

end

end Regain.Hub
