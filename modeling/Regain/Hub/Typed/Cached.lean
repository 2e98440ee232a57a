import Regain.Hub.Typed.Validated

/-!
# Cached reads of the typed outputs

A property of any typed class, as the outputs serve it: from the samples, and read from a device
that still has the sampled values.
-/

namespace Regain.Hub.Typed

open Lib

inductive Property where
  | focuser (property : Focuser.Property)
  | filterWheel (property : FilterWheel.Property)
  | coverCalibrator (property : CoverCalibrator.Property)
  | rotator (property : Rotator.Property)

def Property.decode : Property → Json → Except SourceError Value
  | focuser property => property.decode
  | filterWheel property => property.decode
  | coverCalibrator property => property.decode
  | rotator property => property.decode

def cachedProperty (state : Snapshot) (property : Property) (now : Nat) :
    Except SourceError Sample :=
  match property with
  | .focuser property => Focuser.cachedProperty state property now
  | .filterWheel property => FilterWheel.cachedProperty state property now
  | .coverCalibrator property => CoverCalibrator.cachedProperty state property now
  | .rotator property => Rotator.cachedProperty state property now

def liveProperty (state : Snapshot) (device : Device) : Property → Except SourceError Json
  | .focuser property => Focuser.property device property
  | .filterWheel property => FilterWheel.property device property
  | .coverCalibrator property => CoverCalibrator.property state device property
  | .rotator property => Rotator.property device property

def reads (state : Snapshot) : Property → List String
  | .focuser property => Focuser.reads property
  | .filterWheel property => FilterWheel.reads property
  | .coverCalibrator property => CoverCalibrator.reads state property
  | .rotator property => [property.member]

/-- The members whose age counts: the one that has the value and, for filter wheels and cover
calibrators, those it is validated with. -/
def supports (state : Snapshot) : Property → List String
  | .focuser property => [property.member]
  | .filterWheel property => FilterWheel.reads property
  | .coverCalibrator property => CoverCalibrator.reads state property
  | .rotator property => [property.member]

def CachedAgrees (state : Snapshot) (missing : String → SourceError) (property : Property)
    (now : Nat) : Prop :=
  Agrees state now property.decode (cachedProperty state property now)
    (liveProperty state (state.device missing) property) (reads state property)
    (supports state property)

/-- Every property agrees, except the position of a focuser beyond its limits. -/
theorem cached_agrees (state : Snapshot) (hclean : Clean state) (missing : String → SourceError)
    (property : Property) (now : Nat) : CachedAgrees state missing property now
      ↔ (property = .focuser .position → Focuser.WithinLimits state now) := by
  cases property with
  | focuser property =>
    by_cases hposition : property = .position
    · subst hposition
      constructor
      · exact fun h _ => (Focuser.agrees_position hclean missing now).mp h
      · exact fun h => (Focuser.agrees_position hclean missing now).mpr (h rfl)
    · have hreads : Focuser.reads property = [property.member] := by
        cases property <;> first | rfl | exact absurd rfl hposition
      have hagrees := Focuser.agrees_member hclean missing now hposition
      constructor
      · intro _ h
        exact absurd (Property.focuser.inj h) hposition
      · intro _
        show Agrees _ _ _ _ _ (Focuser.reads property) _
        rw [hreads]
        exact hagrees
  | filterWheel property =>
    have hagrees := FilterWheel.agrees hclean missing now property
    exact iff_of_true hagrees (by simp)
  | coverCalibrator property =>
    have hagrees := CoverCalibrator.agrees hclean missing now property
    exact iff_of_true hagrees (by simp)
  | rotator property =>
    have hagrees := rotator_agrees hclean missing now property
    exact iff_of_true hagrees (by simp)

def focuserSamples (position : Int) : List (String × Json) :=
  [("absolute", .bool true), ("maxstep", .ofInt 100), ("maxincrement", .ofInt 100),
    ("tempcompavailable", .bool false), ("position", .ofInt position), ("ismoving", .bool false),
    ("tempcomp", .bool false), ("temperature", .ofInt 10), ("stepsize", .ofInt 1)]

def focuserState (position : Int) : Snapshot where
  resumeEpoch := 0
  source := 1
  revision := 2
  generation := 3
  sequence := 4
  transportConnected := true
  writeUncertain := false
  leaseCount := 1
  values := .ofList (focuserSamples position)
  sampleErrors := ∅
  sampleAges := ∅
  sampleStarted := ∅
  sampleSequences := ∅
  completedPasses := 1
  sampledAt := some 0
  error := none
  interfaceVersion := some 3

theorem focuserState_clean (position : Int) : Clean (focuserState position) where
  connected := rfl
  error := rfl
  sampleErrors _ := Std.TreeMap.getElem?_emptyc

theorem focuserState_limits : Focuser.WithinLimits (focuserState 50) 0 := by
  intro position hposition _ _ _
  have hstored : Focuser.storedInteger (focuserState 50) "position" = some 50 := by decide +kernel
  cases hstored.symm.trans hposition
  exact {
    absolute := by decide +kernel
    maxStep := ⟨100, by decide +kernel, by decide, by decide⟩
    maxIncrement := ⟨100, by decide +kernel, by decide⟩
    tempComp := ⟨false, by decide +kernel⟩
    position := ⟨hstored, by decide⟩ }

/-- A position within the limits agrees. -/
theorem cached_agrees_focuser :
    CachedAgrees (focuserState 50) (fun _ => sourceDisconnected) (.focuser .position) 0 :=
  (cached_agrees (focuserState 50) (focuserState_clean 50) (fun _ => sourceDisconnected)
    (.focuser .position) 0).mpr fun _ => focuserState_limits

theorem focuserState_sampled (property : Focuser.Property) :
    Sampled (focuserState 200) 0 property.member := by
  cases property <;> exact ⟨by decide +kernel, .finite 0, by decide +kernel⟩

/-- A position beyond the limits is cached, although every property of the focuser was sampled. -/
theorem cached_disagrees :
    ¬ ∀ state : Snapshot, Clean state → ∀ (missing : String → SourceError) (property : Property)
      (now : Nat), (∀ property : Focuser.Property, Sampled state now property.member) →
        CachedAgrees state missing property now := by
  intro h
  have hagrees := h (focuserState 200) (focuserState_clean 200) (fun _ => sourceDisconnected)
    (.focuser .position) 0 focuserState_sampled
  have hcached : (cachedProperty (focuserState 200) (.focuser .position) 0).isOk = true := by
    decide +kernel
  have hlive : (liveProperty (focuserState 200)
      ((focuserState 200).device fun _ => sourceDisconnected) (.focuser .position)).isOk = false := by
    decide +kernel
  generalize hresult : cachedProperty (focuserState 200) (.focuser .position) 0 = result at hcached
  cases result with
  | error error => cases hcached
  | ok sample =>
    obtain ⟨json, hjson, -⟩ := hagrees.sound sample hresult
    rw [hjson] at hlive
    cases hlive

end Regain.Hub.Typed
