import Regain.Lib.Checked

/-!
# USB descriptors of a camera

A configuration is a chain of descriptors, each of which begins with its length and its kind.
-/

namespace Regain.Zwo.Descriptors

open Lib
open Checked

structure Endpoint where
  interface : UInt8
  alternate : UInt8
  address : UInt8
  attributes : UInt8
  maxPacketSize : Nat
  maxBurst : Option UInt8

structure Description where
  driverVersion : Nat
  vendorId : Nat
  productId : Nat
  usbVersionBcd : Nat
  configurationBytes : Nat
  endpoints : List Endpoint

def u16At (bytes : List UInt8) (index : Nat) : Checked Nat := do
  let low ← get bytes index
  let high ← get bytes (index + 1)
  return low.toNat + 256 * high.toNat

def configLength (header : List UInt8) : Checked Nat :=
  match header with
  | 9 :: 2 :: _ => do
    ensure (decide (9 ≤ header.length)) "invalid configuration header"
    let length ← u16At header 2
    ensure (decide (9 ≤ length) && decide (length ≤ 4096)) "invalid configuration size"
    return length
  | _ => .error (.refused "invalid configuration header")

/-- What the walk along the chain carries from one descriptor to the next. -/
structure Walk where
  offset : Nat := 0
  endpoints : List Endpoint := []
  interface : Option (UInt8 × UInt8) := none
  previousEndpoint : Bool := false

def addEndpoint (walk : Walk) (data : List UInt8) : Checked Walk := do
  ensure (decide (7 ≤ data.length) && walk.interface.isSome) "invalid endpoint"
  match walk.interface with
  | none => .error .panic
  | some (number, alternate) =>
    let address ← get data 2
    let attributes ← get data 3
    let maxPacketSize ← u16At data 4
    return { walk with
      endpoints := walk.endpoints
        ++ [⟨number, alternate, address, attributes, maxPacketSize, none⟩] }

def addCompanion (walk : Walk) (data : List UInt8) : Checked Walk := do
  ensure (decide (6 ≤ data.length) && walk.previousEndpoint) "orphan or truncated companion"
  match walk.endpoints.getLast? with
  | none => .error .panic
  | some last =>
    let burst ← get data 2
    return { walk with
      endpoints := walk.endpoints.dropLast ++ [{ last with maxBurst := some burst }] }

def addDescriptor (walk : Walk) (data : List UInt8) (kind : UInt8) : Checked Walk :=
  if kind = 4 then do
    ensure (decide (9 ≤ data.length)) "truncated interface"
    let number ← get data 2
    let alternate ← get data 3
    return { walk with interface := some (number, alternate) }
  else if kind = 5 then addEndpoint walk data
  else if kind = 48 then addCompanion walk data
  else .ok walk

def readDescriptor (config : List UInt8) (walk : Walk) : Checked Walk := do
  let rest ← minus config.length walk.offset
  ensure (decide (2 ≤ rest)) "truncated descriptor"
  let length := (← get config walk.offset).toNat
  ensure (decide (2 ≤ length) && decide (length ≤ rest)) "invalid descriptor chain"
  let data ← slice config walk.offset (walk.offset + length)
  let kind ← get data 1
  let next ← addDescriptor walk data kind
  return { next with previousEndpoint := decide (kind = 5), offset := walk.offset + length }

def readChain (config : List UInt8) : Nat → Walk → Checked Walk
  | 0, _ => .error .panic
  | rounds + 1, walk =>
    if walk.offset < config.length then do readChain config rounds (← readDescriptor config walk)
    else .ok walk

def describe (device config : List UInt8) (version : Nat) : Checked Description := do
  ensure (decide (device.length = 18)) "invalid device descriptor"
  let length ← get device 0
  let kind ← get device 1
  ensure (decide (length = 18) && decide (kind = 1)) "invalid device descriptor"
  ensure (decide ((← u16At device 8) = 0x03c3)) "interface is not a ZWO camera"
  ensure (decide ((← configLength config) = config.length)) "truncated configuration"
  let walk ← readChain config (config.length + 1) {}
  return {
    driverVersion := version
    vendorId := ← u16At device 8
    productId := ← u16At device 10
    usbVersionBcd := ← u16At device 2
    configurationBytes := config.length
    endpoints := walk.endpoints }

def kind (data : List UInt8) : UInt8 :=
  data.getD 1 0

def latestInterface (chain : List (List UInt8)) : Option (UInt8 × UInt8) :=
  ((chain.filter fun data => kind data = 4).getLast?).map fun data => (data.getD 2 0, data.getD 3 0)

/-- An endpoint with the interface it is reported under. -/
structure Reported where
  interface : Option (UInt8 × UInt8)
  address : UInt8
  attributes : UInt8
  maxPacketSize : Nat

def Endpoint.reported (endpoint : Endpoint) : Reported :=
  ⟨some (endpoint.interface, endpoint.alternate), endpoint.address, endpoint.attributes,
    endpoint.maxPacketSize⟩

def reportAfter (before : List (List UInt8)) (data : List UInt8) : Option Reported :=
  if kind data = 5 then
    some ⟨latestInterface before, data.getD 2 0, data.getD 3 0,
      (data.getD 4 0).toNat + 256 * (data.getD 5 0).toNat⟩
  else none

/-- The endpoints of a chain, each under the interface descriptor before it. -/
def reports (chain : List (List UInt8)) : List Reported :=
  chain.zipIdx.filterMap fun entry => reportAfter (chain.take entry.2) entry.1

/-- A configuration is tiled by a chain of descriptors, which its endpoints come from. -/
structure Tiled (config : List UInt8) (chain : List (List UInt8)) (endpoints : List Endpoint) :
    Prop where
  tiles : chain.flatten = config
  /-- Each begins with its length. -/
  lengths : ∀ data ∈ chain, 2 ≤ data.length ∧ data.head?.map UInt8.toNat = some data.length
  reported : endpoints.map Endpoint.reported = reports chain
  /-- A companion follows an endpoint. -/
  companions : ∀ before data after, chain = before ++ data :: after → kind data = 48 →
    before.getLast?.map kind = some 5

theorem latestInterface_concat (chain : List (List UInt8)) (data : List UInt8) :
    latestInterface (chain ++ [data])
      = if kind data = 4 then some (data.getD 2 0, data.getD 3 0) else latestInterface chain := by
  unfold latestInterface
  rw [List.filter_append]
  by_cases hkind : kind data = 4
  · rw [if_pos hkind, List.filter_cons_of_pos (by simpa using hkind)]
    simp
  · rw [if_neg hkind, List.filter_cons_of_neg (by simpa using hkind)]
    simp

theorem reports_concat (chain : List (List UInt8)) (data : List UInt8) :
    reports (chain ++ [data]) = reports chain ++ (reportAfter chain data).toList := by
  unfold reports
  rw [List.zipIdx_append, List.filterMap_append]
  congr 1
  · refine List.filterMap_congr fun entry hentry => ?_
    have hplace := List.snd_lt_of_mem_zipIdx hentry
    rw [List.take_append_of_le_length (by omega)]
  · simp only [List.zipIdx_cons, List.zipIdx_nil, List.filterMap_cons, List.filterMap_nil,
      Nat.zero_add, List.take_left]
    cases reportAfter chain data <;> rfl

structure Walked (config : List UInt8) (chain : List (List UInt8)) (walk : Walk) : Prop where
  bounded : walk.offset ≤ config.length
  tiled : Tiled (config.take walk.offset) chain walk.endpoints
  interface : walk.interface = latestInterface chain
  previous : walk.previousEndpoint = decide (chain.getLast?.map kind = some 5)

section

variable {config data : List UInt8} {chain : List (List UInt8)} {walk : Walk}

theorem get_getD {bytes : List UInt8} {index : Nat} (h : index < bytes.length) :
    Returns (get bytes index) (· = bytes.getD index 0) := by
  refine (returns_get (List.getElem?_eq_getElem h)).mono fun value hvalue => ?_
  rw [hvalue]
  simp [List.getD, List.getElem?_eq_getElem h]

theorem u16At_returns {bytes : List UInt8} {index : Nat} (h : index + 1 < bytes.length) :
    Returns (u16At bytes index)
      (· = (bytes.getD index 0).toNat + 256 * (bytes.getD (index + 1) 0).toNat) := by
  refine (get_getD (by omega)).bind fun low hlow => ?_
  refine (get_getD h).bind fun high hhigh => ?_
  exact Returns.pure (by rw [hlow, hhigh])

structure Added (chain : List (List UInt8)) (data : List UInt8) (walk next : Walk) : Prop where
  reported : next.endpoints.map Endpoint.reported = reports (chain ++ [data])
  interface : next.interface = latestInterface (chain ++ [data])
  companion : kind data = 48 → walk.previousEndpoint = true

theorem addEndpoint_safe (h : Walked config chain walk) (hkind : kind data = 5) :
    Safe (addEndpoint walk data) (Added chain data walk) := by
  unfold addEndpoint
  refine (safe_ensure _ _).bind fun _ hchecked => ?_
  rw [Bool.and_eq_true, decide_eq_true_eq] at hchecked
  obtain ⟨hlength, hsome⟩ := hchecked
  obtain ⟨⟨number, alternate⟩, hinterface⟩ := Option.isSome_iff_exists.mp hsome
  rw [hinterface]
  refine (get_getD (by omega)).safe.bind fun address haddress => ?_
  refine (get_getD (by omega)).safe.bind fun attributes hattributes => ?_
  refine (u16At_returns (by omega)).safe.bind fun size hsize => ?_
  refine Safe.pure ⟨?_, ?_, fun hcompanion => ?_⟩
  · have hlatest := h.interface
    rw [hinterface] at hlatest
    rw [reports_concat, List.map_append, h.tiled.reported, reportAfter, if_pos hkind, ← hlatest,
      haddress, hattributes, hsize]
    rfl
  · rw [latestInterface_concat, if_neg (by rw [hkind]; decide)]
    exact hinterface ▸ h.interface
  · rw [hkind] at hcompanion
    cases hcompanion

theorem addCompanion_safe (h : Walked config chain walk) (hkind : kind data = 48) :
    Safe (addCompanion walk data) (Added chain data walk) := by
  unfold addCompanion
  refine (safe_ensure _ _).bind fun _ hchecked => ?_
  rw [Bool.and_eq_true, decide_eq_true_eq] at hchecked
  obtain ⟨hlength, hprevious⟩ := hchecked
  have hlast : walk.endpoints ≠ [] := by
    -- the endpoint before the companion was reported
    intro hnil
    have hfive := of_decide_eq_true (h.previous ▸ hprevious)
    obtain ⟨last, hlast, hlastKind⟩ := Option.map_eq_some_iff.mp hfive
    obtain ⟨before, rfl⟩ := List.getLast?_eq_some_iff.mp hlast
    have hreported := h.tiled.reported
    rw [hnil, reports_concat, reportAfter, if_pos hlastKind] at hreported
    simp at hreported
  rw [List.getLast?_eq_some_getLast hlast]
  refine (get_getD (by omega)).safe.bind fun burst _ => ?_
  refine Safe.pure ⟨?_, ?_, fun _ => hprevious⟩
  · have hsame : (walk.endpoints.dropLast
        ++ [{ walk.endpoints.getLast hlast with maxBurst := some burst }]).map Endpoint.reported
        = walk.endpoints.map Endpoint.reported := by
      conv_rhs => rw [← List.dropLast_append_getLast hlast]
      rw [List.map_append, List.map_append]
      rfl
    rw [reports_concat, reportAfter, if_neg (by rw [hkind]; decide)]
    simpa using hsame.trans h.tiled.reported
  · rw [latestInterface_concat, if_neg (by rw [hkind]; decide)]
    exact h.interface

theorem addDescriptor_safe (data : List UInt8) (h : Walked config chain walk) :
    Safe (addDescriptor walk data (kind data)) (Added chain data walk) := by
  unfold addDescriptor
  by_cases hinterface : kind data = 4
  · rw [if_pos hinterface]
    refine (safe_ensure _ _).bind fun _ hlength => ?_
    have hbound := of_decide_eq_true hlength
    refine (get_getD (by omega)).safe.bind fun number hnumber => ?_
    refine (get_getD (by omega)).safe.bind fun alternate halternate => ?_
    refine Safe.pure ⟨?_, ?_, fun hcompanion => ?_⟩
    · rw [reports_concat, reportAfter, if_neg (by rw [hinterface]; decide)]
      simpa using h.tiled.reported
    · rw [latestInterface_concat, if_pos hinterface, hnumber, halternate]
    · rw [hinterface] at hcompanion
      cases hcompanion
  · rw [if_neg hinterface]
    by_cases hendpoint : kind data = 5
    · rw [if_pos hendpoint]
      exact addEndpoint_safe h hendpoint
    · rw [if_neg hendpoint]
      by_cases hcompanion : kind data = 48
      · rw [if_pos hcompanion]
        exact addCompanion_safe h hcompanion
      · rw [if_neg hcompanion]
        refine Safe.pure ⟨?_, ?_, fun hno => absurd hno hcompanion⟩
        · rw [reports_concat, reportAfter, if_neg hendpoint]
          simpa using h.tiled.reported
        · rw [latestInterface_concat, if_neg hinterface]
          exact h.interface

theorem readDescriptor_safe (h : Walked config chain walk) (hlt : walk.offset < config.length) :
    Safe (readDescriptor config walk) fun next =>
      walk.offset < next.offset ∧ ∃ data, Walked config (chain ++ [data]) next := by
  unfold readDescriptor
  refine (returns_minus h.bounded).safe.bind fun rest hrest => ?_
  refine (safe_ensure _ _).bind fun _ _ => ?_
  refine (get_getD hlt).safe.bind fun first hfirst => ?_
  refine (safe_ensure _ _).bind fun _ hlength => ?_
  rw [Bool.and_eq_true, decide_eq_true_eq, decide_eq_true_eq] at hlength
  have hslice : slice config walk.offset (walk.offset + first.toNat)
      = .ok ((config.take (walk.offset + first.toNat)).drop walk.offset) :=
    if_pos (by omega)
  rw [hslice]
  refine Safe.bind (Safe.pure rfl) fun data heq => ?_
  have hdata : data = (config.take (walk.offset + first.toNat)).drop walk.offset := heq.symm
  have hdataLength : data.length = first.toNat := by
    rw [hdata, List.length_drop, List.length_take]
    omega
  refine (get_getD (by omega)).safe.bind fun code hcode => ?_
  have hkind : code = kind data := hcode
  rw [hkind]
  refine (addDescriptor_safe data h).bind fun next hnext => ?_
  refine Safe.pure ⟨?_, data, ?_, ⟨?_, ?_, hnext.reported, ?_⟩, hnext.interface, ?_⟩
  · change walk.offset < walk.offset + first.toNat
    omega
  · change walk.offset + first.toNat ≤ config.length
    omega
  · rw [List.flatten_append, h.tiled.tiles, hdata]
    simp only [List.flatten_cons, List.flatten_nil, List.append_nil]
    conv_rhs => rw [← List.take_append_drop walk.offset (config.take (walk.offset + first.toNat))]
    rw [List.take_take, Nat.min_eq_left (by omega)]
  · intro other hother
    rcases List.mem_append.mp hother with hbefore | hlast
    · exact h.tiled.lengths other hbefore
    · rw [List.mem_singleton.mp hlast]
      refine ⟨by omega, ?_⟩
      have hhead : data.head? = some first := by
        rw [hdata, List.head?_drop, List.getElem?_take_of_lt (by omega),
          List.getElem?_eq_getElem hlt, hfirst]
        simp [List.getD, List.getElem?_eq_getElem hlt]
      rw [hhead, hdataLength]
      rfl
  · intro before other after hsplit hother
    rcases List.eq_nil_or_concat after with rfl | ⟨after, last, rfl⟩
    · obtain ⟨hbefore, hlast⟩ := List.append_inj' hsplit rfl
      have hsame : data = other := by simpa using hlast
      have hprevious := hnext.companion (hsame ▸ hother)
      rw [h.previous, hbefore] at hprevious
      exact of_decide_eq_true hprevious
    · have hinit : chain = before ++ other :: after := by
        have heq : chain ++ [data] = (before ++ other :: after) ++ [last] := by
          simpa using hsplit
        exact (List.append_inj' heq rfl).1
      exact h.tiled.companions before other after hinit hother
  · change decide (kind data = 5) = _
    simp

theorem readChain_safe (rounds : Nat) (h : Walked config chain walk)
    (hrounds : config.length < walk.offset + rounds) :
    Safe (readChain config rounds walk) fun last => ∃ chain, Tiled config chain last.endpoints := by
  induction rounds generalizing chain walk with
  | zero =>
    have hbounded := h.bounded
    omega
  | succ rounds ih =>
    unfold readChain
    split
    · rename_i hlt
      refine (readDescriptor_safe h hlt).bind fun next hnext => ?_
      obtain ⟨hadvanced, data, hwalked⟩ := hnext
      exact ih hwalked (by omega)
    · rename_i hend
      refine Safe.pure ⟨chain, ?_⟩
      have htiled := h.tiled
      rwa [List.take_of_length_le (by omega)] at htiled

end

theorem configLength_safe (header : List UInt8) : Safe (configLength header) fun _ => True := by
  unfold configLength
  split
  · refine (safe_ensure _ _).bind fun _ hlength => ?_
    have hbound := of_decide_eq_true hlength
    refine (u16At_returns (by omega)).safe.bind fun length _ => ?_
    exact (safe_ensure _ _).bind fun _ _ => Safe.pure trivial
  · exact safe_refused _

/-- Every pair of byte strings is described or refused. A described configuration is as long as it
declares, and is tiled by the descriptors that its endpoints come from. -/
theorem describe_safe (device config : List UInt8) (version : Nat) :
    Safe (describe device config version) fun description =>
      configLength config = .ok config.length
        ∧ ∃ chain, Tiled config chain description.endpoints := by
  unfold describe
  refine (safe_ensure _ _).bind fun _ hdevice => ?_
  have hlength := of_decide_eq_true hdevice
  refine (get_getD (by omega)).safe.bind fun first _ => ?_
  refine (get_getD (by omega)).safe.bind fun second _ => ?_
  refine (safe_ensure _ _).bind fun _ _ => ?_
  refine (u16At_returns (by omega)).safe.bind fun vendor _ => ?_
  refine (safe_ensure _ _).bind fun _ _ => ?_
  refine (configLength_safe config).known.bind fun declared ⟨_, hdeclared⟩ => ?_
  refine (safe_ensure _ _).bind fun _ hwhole => ?_
  rw [of_decide_eq_true hwhole] at hdeclared
  have hstart : Walked config [] {} :=
    ⟨Nat.zero_le _, ⟨rfl, by simp, rfl, by simp⟩, rfl, rfl⟩
  refine (readChain_safe (config.length + 1) hstart (by simp)).bind fun walk hwalk => ?_
  refine (u16At_returns (by omega)).safe.bind fun _ _ => ?_
  refine (u16At_returns (by omega)).safe.bind fun _ _ => ?_
  refine (u16At_returns (by omega)).safe.bind fun _ _ => ?_
  exact Safe.pure ⟨hdeclared, hwalk⟩

end Regain.Zwo.Descriptors
