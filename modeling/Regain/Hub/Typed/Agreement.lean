import Regain.Hub.Typed.Properties

/-!
# Cached and live properties agree

A snapshot stands for a device that answers every member with the sampled value. What a property has
in the samples is what the session reads from that device.
-/

namespace Regain.Hub.Typed

open Lib

theorem bind_ok {α β ε : Type} {first : Except ε α} {next : α → Except ε β} {result : β}
    (h : first >>= next = .ok result) : ∃ value, first = .ok value ∧ next value = .ok result := by
  cases first with
  | error error => cases h
  | ok value => exact ⟨value, rfl, h⟩

theorem orError_ok {α : Type} {value : Option α} {error : SourceError} {result : α}
    (h : orError value error = .ok result) : value = some result := by
  cases value with
  | none => cases h
  | some value =>
    cases h
    rfl

structure Clean (state : Snapshot) : Prop where
  connected : state.transportConnected = true
  error : state.error = none
  sampleErrors : ∀ key : String, state.sampleErrors[key]? = none

def Snapshot.device (state : Snapshot) (missing : String → SourceError) : Device := fun member =>
  orError state.values[member]? (missing member)

def Sampled (state : Snapshot) (now : Nat) (member : String) : Prop :=
  (state.values[member]?).isSome = true ∧ ∃ age, sampleAge state member now = .ok age

/-- A sample is the decoded value of a member, with its age. -/
structure SampleOf (state : Snapshot) (now : Nat) (member : String)
    (decode : Json → Except SourceError Value) (json : Json) (sample : Sample) : Prop where
  sampled : state.values[member]? = some json
  value : decode json = .ok sample.value
  age : sampleAge state member now = .ok sample.ageSeconds

section

variable {state : Snapshot} {missing : String → SourceError} {now : Nat} {member : String}
  {decode : Json → Except SourceError Value} {sample : Sample} {json : Json} {error : SourceError}

theorem device_ok (h : state.device missing member = .ok json) : state.values[member]? = some json :=
  orError_ok h

theorem device_of (h : state.values[member]? = some json) :
    state.device missing member = .ok json := by
  simp [Snapshot.device, h, orError]

theorem Clean.ready (h : Clean state) : ready state error = .ok () := by
  simp [Typed.ready, h.connected, h.error]

theorem Clean.cachedRead_ok (h : Clean state)
    (hread : cachedRead state member decode error now = .ok sample) :
    ∃ json, SampleOf state now member decode json sample := by
  unfold cachedRead at hread
  rw [h.sampleErrors] at hread
  obtain ⟨json, hjson, hread⟩ := bind_ok hread
  obtain ⟨value, hvalue, hread⟩ := bind_ok hread
  obtain ⟨age, hage, hread⟩ := bind_ok hread
  cases hread
  exact ⟨json, orError_ok hjson, hvalue, hage⟩

theorem Clean.cachedRead_of (h : Clean state) {value : Value}
    (hjson : state.values[member]? = some json) (hvalue : decode json = .ok value)
    (hsampled : Sampled state now member) :
    ∃ sample, cachedRead state member decode error now = .ok sample ∧ sample.value = value
      ∧ SampleOf state now member decode json sample := by
  obtain ⟨-, age, hage⟩ := hsampled
  refine ⟨{
    value := value
    ageSeconds := age
    source := state.source
    generation := state.generation
    sequence := state.sampleSequences[member]?.getD state.sequence
    revision := state.revision }, ?_, rfl, hjson, hvalue, hage⟩
  unfold cachedRead
  rw [h.sampleErrors, hjson]
  show (decode json >>= fun value => typedSample state member now value) = _
  rw [hvalue]
  show typedSample state member now value = _
  unfold typedSample
  rw [hage]
  rfl

end

theorem asInt32_ofInt {json : Json} {value : Int} (h : asInt32 json = some value) :
    asInt32 (.ofInt value) = some value := by
  obtain ⟨hint, hrange⟩ := Option.filter_eq_some_iff.mp h
  simp only [Bool.and_eq_true, decide_eq_true_eq] at hrange
  have hof : (Json.ofInt value).asInt = some value := by
    unfold Json.ofInt
    split
    · rfl
    · rename_i hnonneg
      simp only [Json.asInt]
      split
      · rw [Int.toNat_of_nonneg (not_lt.mp hnonneg)]
      · omega
  unfold asInt32
  rw [hof]
  exact Option.filter_eq_some_iff.mpr ⟨rfl, by simpa using hrange⟩

/-- The answers of a property agree: what is cached is what is read, what is read of sampled members
is cached, and the reported age covers the members that the value rests on. -/
structure Agrees (state : Snapshot) (now : Nat) (decode : Json → Except SourceError Value)
    (cached : Except SourceError Sample) (live : Except SourceError Json)
    (reads supports : List String) : Prop where
  sound : ∀ sample, cached = .ok sample → ∃ json, live = .ok json ∧ decode json = .ok sample.value
  complete : ∀ json, live = .ok json → (∀ member ∈ reads, Sampled state now member) →
    ∃ sample, cached = .ok sample
  aged : ∀ sample, cached = .ok sample → ∀ member ∈ supports,
    ∃ age, sampleAge state member now = .ok age ∧ age ≤ sample.ageSeconds

variable {state : Snapshot}

theorem sampleAge_finite {member : String} {now : Nat} {age : F64}
    (h : sampleAge state member now = .ok age) : ∃ value, age = .finite value := by
  unfold sampleAge at h
  split at h
  · cases h
  · dsimp only at h
    split at h
    · cases h
    · rename_i hvalid
      cases h
      simp only [not_or, Bool.not_eq_false] at hvalid
      generalize F64.add _ _ = age at hvalid ⊢
      cases age with
      | finite value => exact ⟨value, rfl⟩
      | infinite negative => simp [F64.isFinite] at hvalid
      | nan => simp [F64.isFinite] at hvalid

theorem sampleAge_le_refl {member : String} {now : Nat} {age : F64}
    (h : sampleAge state member now = .ok age) : age ≤ age := by
  obtain ⟨value, rfl⟩ := sampleAge_finite h
  exact decide_eq_true le_rfl

theorem agrees_single (hclean : Clean state) (missing : String → SourceError)
    (now : Nat) (member : String) (decode : Json → Except SourceError Value) (error : SourceError) :
    Agrees state now decode (cachedRead state member decode error now)
      (do
        let value ← state.device missing member
        let _ ← decode value
        return value) [member] [member] where
  sound sample hcached := by
    obtain ⟨json, hof⟩ := hclean.cachedRead_ok hcached
    refine ⟨json, ?_, hof.value⟩
    rw [device_of hof.sampled]
    show (decode json >>= fun _ => pure json) = _
    rw [hof.value]
    rfl
  complete json hlive hsampled := by
    obtain ⟨value, hvalue, hlive⟩ := bind_ok hlive
    obtain ⟨decoded, hdecoded, -⟩ := bind_ok hlive
    obtain ⟨sample, hcached, -⟩ := hclean.cachedRead_of (device_ok hvalue) hdecoded
      (hsampled member (by simp))
    exact ⟨sample, hcached⟩
  aged sample hcached other hother := by
    obtain ⟨json, hof⟩ := hclean.cachedRead_ok hcached
    rw [List.mem_singleton.mp hother]
    exact ⟨sample.ageSeconds, hof.age, sampleAge_le_refl hof.age⟩

theorem rotator_agrees (hclean : Clean state) (missing : String → SourceError)
    (now : Nat) (property : Rotator.Property) :
    Agrees state now property.decode (Rotator.cachedProperty state property now)
      (Rotator.property (state.device missing) property) [property.member] [property.member] := by
  unfold Rotator.cachedProperty
  rw [hclean.ready]
  exact agrees_single hclean missing now _ _ _

namespace Focuser

def storedBoolean (state : Snapshot) (member : String) : Option Bool :=
  state.values[member]?.bind Json.asBool

def storedInteger (state : Snapshot) (member : String) : Option Int :=
  state.values[member]?.bind asInt32

/-- A stored position of an absolute focuser, within its stored limits. -/
structure Limits (state : Snapshot) (position : Int) : Prop where
  absolute : storedBoolean state "absolute" = some true
  maxStep : ∃ limit, storedInteger state "maxstep" = some limit ∧ 0 < limit ∧ position ≤ limit
  maxIncrement : ∃ limit, storedInteger state "maxincrement" = some limit ∧ 0 < limit
  tempComp : ∃ available, storedBoolean state "tempcompavailable" = some available
  position : storedInteger state "position" = some position ∧ 0 ≤ position

def WithinLimits (state : Snapshot) (now : Nat) : Prop :=
  ∀ position, storedInteger state "position" = some position → 0 ≤ position →
    (∃ age, sampleAge state "position" now = .ok age) →
      storedBoolean state "absolute" ≠ some false → Limits state position

section

variable {state : Snapshot} {missing : String → SourceError} {now : Nat}

theorem readBoolean_ok {member : String} {value : Bool} :
    readBoolean (state.device missing) member = .ok value
      ↔ storedBoolean state member = some value := by
  unfold readBoolean storedBoolean Snapshot.device
  cases state.values[member]? with
  | none =>
    constructor
    · intro h
      cases h
    · intro h
      cases h
  | some json =>
    constructor
    · exact fun h => orError_ok h
    · intro h
      show orError json.asBool badReading = .ok value
      rw [show json.asBool = some value from h]
      rfl

theorem readInteger_ok {member : String} {value : Int} :
    readInteger (state.device missing) member = .ok value
      ↔ storedInteger state member = some value := by
  unfold readInteger storedInteger Snapshot.device
  cases state.values[member]? with
  | none =>
    constructor
    · intro h
      cases h
    · intro h
      cases h
  | some json =>
    constructor
    · exact fun h => orError_ok h
    · intro h
      show orError (asInt32 json) badReading = .ok value
      rw [show asInt32 json = some value from h]
      rfl

theorem position_ok {position : Int} :
    Focuser.position (state.device missing) = .ok position ↔ Limits state position := by
  constructor
  · intro h
    obtain ⟨capabilities, hcapabilities, h⟩ := bind_ok h
    obtain ⟨absolute, habsolute, hrest⟩ := bind_ok hcapabilities
    obtain ⟨maxStep, hmaxStep, hrest⟩ := bind_ok hrest
    obtain ⟨maxIncrement, hmaxIncrement, hrest⟩ := bind_ok hrest
    obtain ⟨tempComp, htempComp, hrest⟩ := bind_ok hrest
    split at hrest
    · cases hrest
    · rename_i hpositive
      cases hrest
      rw [not_or, not_le, not_le] at hpositive
      split at h
      · rename_i hon
        obtain ⟨read, hread, h⟩ := bind_ok h
        split at h
        · rename_i hrange
          cases h
          dsimp only at hon hrange
          rw [hon] at habsolute
          exact ⟨readBoolean_ok.mp habsolute,
            ⟨maxStep, readInteger_ok.mp hmaxStep, hpositive.1, hrange.2⟩,
            ⟨maxIncrement, readInteger_ok.mp hmaxIncrement, hpositive.2⟩,
            ⟨tempComp, readBoolean_ok.mp htempComp⟩, readInteger_ok.mp hread, hrange.1⟩
        · cases h
      · cases h
  · rintro ⟨habsolute, ⟨limit, hlimit, hpositive, hle⟩, ⟨increment, hincrement, hstep⟩,
      ⟨available, havailable⟩, hposition, hnonneg⟩
    have hcapabilities : capabilities (state.device missing)
        = .ok ⟨true, limit, increment, available⟩ := by
      unfold capabilities
      rw [readBoolean_ok.mpr habsolute, readInteger_ok.mpr hlimit, readInteger_ok.mpr hincrement,
        readBoolean_ok.mpr havailable]
      exact if_neg (by omega)
    unfold Focuser.position
    rw [hcapabilities]
    show (readInteger (state.device missing) "position" >>= fun position =>
      if 0 ≤ position ∧ position ≤ limit then pure position else .error badReading) = _
    rw [readInteger_ok.mpr hposition]
    exact if_pos ⟨hnonneg, hle⟩

theorem decode_position {json : Json} {value : Value}
    (h : Property.position.decode json = .ok value) :
    ∃ position, value = .integer position ∧ asInt32 json = some position ∧ 0 ≤ position := by
  obtain ⟨position, hfilter, rfl⟩ := Option.map_eq_some_iff.mp (orError_ok h)
  obtain ⟨hint, hrange⟩ := Option.filter_eq_some_iff.mp hfilter
  exact ⟨position, rfl, hint, by simpa using hrange⟩

theorem decode_position_of {json : Json} {position : Int} (h : asInt32 json = some position)
    (hnonneg : 0 ≤ position) : Property.position.decode json = .ok (.integer position) := by
  have hfilter : (asInt32 json).filter (fun value =>
      if Property.position = .position then decide (0 ≤ value) else decide (0 < value))
      = some position := by
    rw [h]
    exact Option.filter_eq_some_iff.mpr ⟨rfl, by simpa using hnonneg⟩
  show orError (((asInt32 json).filter fun value =>
    if Property.position = .position then decide (0 ≤ value) else decide (0 < value)).map
      Value.integer) badReading = _
  rw [hfilter]
  rfl

end

def reads : Property → List String
  | .position => ["absolute", "maxstep", "maxincrement", "tempcompavailable", "position"]
  | property => [property.member]

variable {state : Snapshot}

theorem agrees_member (hclean : Clean state) (missing : String → SourceError)
    (now : Nat) {property : Property} (hproperty : property ≠ .position) :
    Agrees state now property.decode (cachedProperty state property now)
      (Focuser.property (state.device missing) property) [property.member] [property.member] := by
  unfold cachedProperty Focuser.property
  rw [hclean.ready, if_neg hproperty]
  show Agrees state now property.decode (if _ then _ else _) _ _ _
  rw [if_neg (fun h => hproperty h.1)]
  exact agrees_single hclean missing now _ _ _

theorem cachedPosition_eq (hclean : Clean state) (now : Nat)
    (habsolute : storedBoolean state "absolute" ≠ some false) :
    cachedProperty state .position now = cachedRead state "position" Property.position.decode
      (unavailable "No focuser sample has been received") now := by
  unfold cachedProperty
  rw [hclean.ready]
  exact if_neg (fun h => habsolute h.2)

theorem cachedPosition_relative (hclean : Clean state) (now : Nat)
    (hrelative : storedBoolean state "absolute" = some false) :
    cachedProperty state .position now = .error relative := by
  unfold cachedProperty
  rw [hclean.ready]
  exact if_pos ⟨rfl, hrelative⟩

theorem cachedPosition_ok (hclean : Clean state) {now : Nat} {sample : Sample}
    (h : cachedProperty state .position now = .ok sample) :
    storedBoolean state "absolute" ≠ some false
      ∧ ∃ json, SampleOf state now "position" Property.position.decode json sample := by
  by_cases hrelative : storedBoolean state "absolute" = some false
  · rw [cachedPosition_relative hclean now hrelative] at h
    cases h
  · rw [cachedPosition_eq hclean now hrelative] at h
    exact ⟨hrelative, hclean.cachedRead_ok h⟩

theorem agrees_position (hclean : Clean state) (missing : String → SourceError) (now : Nat) :
    Agrees state now Property.position.decode (cachedProperty state .position now)
        (Focuser.property (state.device missing) .position) (reads .position) ["position"]
      ↔ WithinLimits state now := by
  have hlive : Focuser.property (state.device missing) .position
      = Focuser.position (state.device missing) >>= fun position => pure (.ofInt position) :=
    rfl
  constructor
  · intro h position hposition hnonneg hage habsolute
    obtain ⟨json, hjson, hint⟩ := Option.bind_eq_some_iff.mp hposition
    have hsampled : Sampled state now "position" := ⟨by simp [hjson], hage⟩
    obtain ⟨sample, hcached, hvalue, -⟩ := hclean.cachedRead_of hjson
      (decode_position_of hint hnonneg) hsampled
    rw [← cachedPosition_eq hclean now habsolute] at hcached
    obtain ⟨answer, hanswer, hdecoded⟩ := h.sound sample hcached
    rw [hlive] at hanswer
    obtain ⟨read, hread, -⟩ := bind_ok hanswer
    have hlimits := position_ok.mp hread
    have hsame := hposition.symm.trans hlimits.position.1
    rw [Option.some.inj hsame]
    exact hlimits
  · intro h
    constructor
    · intro sample hcached
      obtain ⟨habsolute, json, hof⟩ := cachedPosition_ok hclean hcached
      obtain ⟨position, hvalue, hint, hnonneg⟩ := decode_position hof.value
      have hstored : storedInteger state "position" = some position := by
        simp [storedInteger, hof.sampled, hint]
      have hlimits := h position hstored hnonneg ⟨_, hof.age⟩ habsolute
      refine ⟨.ofInt position, ?_, ?_⟩
      · rw [hlive, position_ok.mpr hlimits]
        rfl
      · rw [hvalue]
        exact decode_position_of (asInt32_ofInt hint) hnonneg
    · intro json hread hsampled
      rw [hlive] at hread
      obtain ⟨position, hposition, -⟩ := bind_ok hread
      have hlimits := position_ok.mp hposition
      obtain ⟨stored, hstored, hint⟩ := Option.bind_eq_some_iff.mp hlimits.position.1
      obtain ⟨sample, hcached, -⟩ := hclean.cachedRead_of hstored
        (decode_position_of hint hlimits.position.2) (hsampled "position" (by simp [reads]))
      refine ⟨sample, ?_⟩
      rw [cachedPosition_eq hclean now (by simp [hlimits.absolute])]
      exact hcached
    · intro sample hcached member hmember
      obtain ⟨-, json, hof⟩ := cachedPosition_ok hclean hcached
      rw [List.mem_singleton.mp hmember]
      exact ⟨_, hof.age, sampleAge_le_refl hof.age⟩

end Focuser

end Regain.Hub.Typed
