import Mathlib.Order.Defs.LinearOrder
import Regain.Hub.Typed.Agreement

/-!
# Properties checked against others

Filter wheels and cover calibrators check a property against other properties of the device, in the
samples as in the reads; the age of the answer is the greatest age of all of them.
-/

namespace Regain.Hub.Typed

open Lib

theorem le_max {first second : F64} (hfirst : ∃ value, first = .finite value)
    (hsecond : ∃ value, second = .finite value) :
    first ≤ first.max second ∧ second ≤ first.max second
      ∧ ∃ value, first.max second = .finite value := by
  obtain ⟨a, rfl⟩ := hfirst
  obtain ⟨b, rfl⟩ := hsecond
  have hle : ∀ x y : ℚ, F64.finite x ≤ F64.finite y ↔ x ≤ y := fun x y => decide_eq_true_iff
  have hmax : F64.max (.finite a) (.finite b) = .finite (if a ≤ b then b else a) := by
    simp only [F64.max, reduceCtorEq, if_false, hle]
    split <;> rfl
  rw [hmax, hle, hle]
  split
  · rename_i h
    exact ⟨h, le_rfl, b, rfl⟩
  · rename_i h
    exact ⟨le_rfl, (not_le.mp h).le, a, rfl⟩

theorem le_trans_finite {first second third : F64} (hfirst : ∃ value, first = .finite value)
    (hsecond : ∃ value, second = .finite value) (hthird : ∃ value, third = .finite value)
    (h : first ≤ second) (h' : second ≤ third) : first ≤ third := by
  obtain ⟨a, rfl⟩ := hfirst
  obtain ⟨b, rfl⟩ := hsecond
  obtain ⟨c, rfl⟩ := hthird
  exact decide_eq_true ((of_decide_eq_true h).trans (of_decide_eq_true h'))

namespace FilterWheel

variable {items : List Json}

theorem nameItems_map {total : Nat} {names : List String} (h : nameItems total items = some names) :
    nameItems total (names.map .string) = some names ∧ names.length = items.length := by
  induction items generalizing total names with
  | nil =>
    cases h
    exact ⟨rfl, rfl⟩
  | cons item items ih =>
    obtain ⟨name, hname, h⟩ := Option.bind_eq_some_iff.mp h
    dsimp only at h
    split at h
    · cases h
    · rename_i hfits
      obtain ⟨rest, hrest, h⟩ := Option.bind_eq_some_iff.mp h
      cases h
      obtain ⟨hmap, hlength⟩ := ih hrest
      refine ⟨?_, by simp [hlength]⟩
      simp only [List.map_cons, nameItems, Json.asString]
      show (if maxSampleTextBytes < total + name.utf8ByteSize then none else _) = _
      rw [if_neg hfits, hmap]
      rfl

theorem offsetItems_map {offsets : List Int} (h : items.mapM asInt32 = some offsets) :
    (offsets.map Json.ofInt).mapM asInt32 = some offsets ∧ offsets.length = items.length := by
  induction items generalizing offsets with
  | nil =>
    cases h
    exact ⟨rfl, rfl⟩
  | cons item items ih =>
    rw [List.mapM_cons] at h
    obtain ⟨offset, hoffset, h⟩ := Option.bind_eq_some_iff.mp h
    obtain ⟨rest, hrest, h⟩ := Option.bind_eq_some_iff.mp h
    cases h
    obtain ⟨hmap, hlength⟩ := ih hrest
    refine ⟨?_, by simp [hlength]⟩
    rw [List.map_cons, List.mapM_cons, asInt32_ofInt hoffset, hmap]
    rfl

theorem array_ok {json : Json} (h : array json = some items) :
    items ≠ [] ∧ items.length ≤ maxFilterSlots := by
  unfold array at h
  split at h
  · split at h
    · rename_i hvalid
      cases h
      exact hvalid
    · cases h
  · cases h

theorem array_of {count : Nat} (hcount : items.length = count) (hne : 0 < count)
    (hle : count ≤ maxFilterSlots) : array (.array items) = some items := by
  refine if_pos ⟨?_, by omega⟩
  exact List.ne_nil_of_length_pos (by omega)

theorem decode_toJson {property : Property} {json : Json} {value : Value}
    (h : property.decode json = .ok value) : property.decode (toJson value) = .ok value := by
  have hvalue := orError_ok h
  cases property with
  | names =>
    obtain ⟨names, hnames, rfl⟩ := Option.map_eq_some_iff.mp hvalue
    obtain ⟨items, hitems, hnames⟩ := Option.bind_eq_some_iff.mp hnames
    obtain ⟨hne, hle⟩ := array_ok hitems
    obtain ⟨hmap, hlength⟩ := nameItems_map hnames
    have hpositive := List.length_pos_of_ne_nil hne
    have harray : array (toJson (.strings names)) = some (names.map .string) :=
      array_of (List.length_map _) (by omega) (by omega)
    show orError (((array (toJson (.strings names))).bind (nameItems 0)).map Value.strings)
      badReading = _
    rw [harray, Option.bind_some, hmap]
    rfl
  | focusOffsets =>
    obtain ⟨offsets, hoffsets, rfl⟩ := Option.map_eq_some_iff.mp hvalue
    obtain ⟨items, hitems, hoffsets⟩ := Option.bind_eq_some_iff.mp hoffsets
    obtain ⟨hmapped, hzero⟩ := Option.filter_eq_some_iff.mp hoffsets
    obtain ⟨hne, hle⟩ := array_ok hitems
    obtain ⟨hmap, hlength⟩ := offsetItems_map hmapped
    have hpositive := List.length_pos_of_ne_nil hne
    have harray : array (toJson (.integers offsets)) = some (offsets.map .ofInt) :=
      array_of (List.length_map _) (by omega) (by omega)
    have hitems : offsetItems (offsets.map .ofInt) = some offsets :=
      Option.filter_eq_some_iff.mpr ⟨hmap, hzero⟩
    show orError (((array (toJson (.integers offsets))).bind offsetItems).map Value.integers)
      badReading = _
    rw [harray, Option.bind_some, hitems]
    rfl
  | position =>
    obtain ⟨position, hposition, rfl⟩ := Option.map_eq_some_iff.mp hvalue
    obtain ⟨hint, hrange⟩ := Option.filter_eq_some_iff.mp hposition
    have hread : (asInt32 (toJson (.integer position))).filter (fun value : Int =>
        decide (-1 ≤ value) && decide (value < (maxFilterSlots : Int))) = some position :=
      Option.filter_eq_some_iff.mpr ⟨asInt32_ofInt hint, hrange⟩
    show orError (((asInt32 (toJson (.integer position))).filter _).map Value.integer)
      badReading = _
    rw [hread]
    rfl

def reads : Property → List String
  | .names => ["names", "focusoffsets"]
  | .focusOffsets => ["names", "focusoffsets"]
  | .position => ["names", "focusoffsets", "position"]

section

variable {state : Snapshot} {missing : String → SourceError} {now : Nat}

theorem capabilities_of (missing : String → SourceError) {jsonNames jsonOffsets : Json}
    {names offsets : Value} (hnames : state.values["names"]? = some jsonNames)
    (hnamesValue : Property.names.decode jsonNames = .ok names)
    (hoffsets : state.values["focusoffsets"]? = some jsonOffsets)
    (hoffsetsValue : Property.focusOffsets.decode jsonOffsets = .ok offsets)
    (hslots : slots names = slots offsets) :
    capabilities (state.device missing) = .ok (names, offsets) := by
  unfold capabilities
  rw [device_of hnames, device_of hoffsets]
  show (Property.names.decode jsonNames >>= fun names =>
    Property.focusOffsets.decode jsonOffsets >>= fun offsets =>
      if slots names ≠ slots offsets then .error badReading else pure (names, offsets)) = _
  rw [hnamesValue, hoffsetsValue]
  exact if_neg (not_not.mpr hslots)

theorem capabilities_ok {names offsets : Value}
    (h : capabilities (state.device missing) = .ok (names, offsets)) :
    (∃ json, state.values["names"]? = some json ∧ Property.names.decode json = .ok names)
      ∧ (∃ json, state.values["focusoffsets"]? = some json
        ∧ Property.focusOffsets.decode json = .ok offsets)
      ∧ slots names = slots offsets := by
  obtain ⟨jsonNames, hnames, h⟩ := bind_ok h
  obtain ⟨read, hread, h⟩ := bind_ok h
  obtain ⟨jsonOffsets, hoffsets, h⟩ := bind_ok h
  obtain ⟨read', hread', h⟩ := bind_ok h
  split at h
  · cases h
  · rename_i hslots
    cases h
    exact ⟨⟨jsonNames, device_ok hnames, hread⟩, ⟨jsonOffsets, device_ok hoffsets, hread'⟩,
      not_not.mp hslots⟩

structure Wheel (state : Snapshot) (now : Nat) (names offsets : Sample) : Prop where
  ofNames : ∃ json, SampleOf state now "names" Property.names.decode json names
  ofOffsets : ∃ json, SampleOf state now "focusoffsets" Property.focusOffsets.decode json offsets
  sameSlots : slots names.value = slots offsets.value

variable {property : Property} {names offsets chosen : Sample}

theorem cachedProperty_ok (hclean : Clean state) {sample : Sample}
    (h : cachedProperty state property now = .ok sample) :
    ∃ names offsets chosen, Wheel state now names offsets
      ∧ validSample state now names offsets property = .ok chosen
      ∧ sample = { chosen with
        ageSeconds := chosen.ageSeconds.max (names.ageSeconds.max offsets.ageSeconds) } := by
  unfold cachedProperty at h
  rw [hclean.ready] at h
  obtain ⟨-, -, h⟩ := bind_ok h
  obtain ⟨names, hnames, h⟩ := bind_ok h
  obtain ⟨offsets, hoffsets, h⟩ := bind_ok h
  split at h
  · cases h
  · rename_i hslots
    obtain ⟨chosen, hchosen, h⟩ := bind_ok h
    cases h
    exact ⟨names, offsets, chosen, ⟨hclean.cachedRead_ok hnames, hclean.cachedRead_ok hoffsets,
      not_not.mp hslots⟩, hchosen, rfl⟩

theorem cachedProperty_of (hclean : Clean state) (hnames : readSample state now .names = .ok names)
    (hoffsets : readSample state now .focusOffsets = .ok offsets)
    (hslots : slots names.value = slots offsets.value)
    (hchosen : validSample state now names offsets property = .ok chosen) :
    ∃ sample, cachedProperty state property now = .ok sample := by
  refine ⟨{ chosen with
    ageSeconds := chosen.ageSeconds.max (names.ageSeconds.max offsets.ageSeconds) }, ?_⟩
  unfold cachedProperty
  rw [hclean.ready, hnames, hoffsets]
  show (if slots names.value ≠ slots offsets.value then _ else _) = _
  rw [if_neg (not_not.mpr hslots), hchosen]
  rfl

theorem validSample_position (hclean : Clean state)
    (h : validSample state now names offsets .position = .ok chosen) :
    (∃ json, SampleOf state now "position" Property.position.decode json chosen)
      ∧ beyond chosen.value (slots names.value) = false := by
  obtain ⟨position, hposition, h⟩ := bind_ok h
  split at h
  · cases h
  · rename_i hwithin
    cases h
    exact ⟨hclean.cachedRead_ok hposition, by simpa using hwithin⟩

theorem Wheel.sound (hclean : Clean state) (h : Wheel state now names offsets)
    (hchosen : validSample state now names offsets property = .ok chosen) :
    ∃ json, FilterWheel.property (state.device missing) property = .ok json
      ∧ property.decode json = .ok chosen.value := by
  obtain ⟨jsonNames, hnames⟩ := h.ofNames
  obtain ⟨jsonOffsets, hoffsets⟩ := h.ofOffsets
  have hcapabilities := capabilities_of missing hnames.sampled hnames.value
    hoffsets.sampled hoffsets.value h.sameSlots
  unfold FilterWheel.property
  rw [hcapabilities]
  cases property with
  | names =>
    cases hchosen
    exact ⟨toJson names.value, rfl, decode_toJson hnames.value⟩
  | focusOffsets =>
    cases hchosen
    exact ⟨toJson offsets.value, rfl, decode_toJson hoffsets.value⟩
  | position =>
    obtain ⟨⟨json, hof⟩, hwithin⟩ := validSample_position hclean hchosen
    refine ⟨toJson chosen.value, ?_, decode_toJson hof.value⟩
    have hread : readPosition (state.device missing) (slots names.value) = .ok chosen.value := by
      unfold readPosition
      rw [device_of hof.sampled]
      show (Property.position.decode json >>= fun position =>
        if beyond position (slots names.value) then .error badReading else pure position) = _
      rw [hof.value]
      exact if_neg (by simp [hwithin])
    show (readPosition (state.device missing) (slots names.value) >>= fun position =>
      pure (toJson position)) = _
    rw [hread]
    rfl

theorem Wheel.aged (hclean : Clean state) (h : Wheel state now names offsets)
    (hchosen : validSample state now names offsets property = .ok chosen) :
    ∀ member ∈ reads property, ∃ age, sampleAge state member now = .ok age
      ∧ age ≤ chosen.ageSeconds.max (names.ageSeconds.max offsets.ageSeconds) := by
  obtain ⟨jsonNames, hnames⟩ := h.ofNames
  obtain ⟨jsonOffsets, hoffsets⟩ := h.ofOffsets
  have hfiniteNames := sampleAge_finite hnames.age
  have hfiniteOffsets := sampleAge_finite hoffsets.age
  obtain ⟨hleNames, hleOffsets, hfiniteBoth⟩ := le_max hfiniteNames hfiniteOffsets
  have hchosenAge : ∃ member, sampleAge state member now = .ok chosen.ageSeconds
      ∧ (member = "names" ∨ member = "focusoffsets" ∨ member = "position")
      ∧ ("position" ∈ reads property → member = "position") := by
    cases property with
    | names =>
      cases hchosen
      exact ⟨"names", hnames.age, by simp, by simp [reads]⟩
    | focusOffsets =>
      cases hchosen
      exact ⟨"focusoffsets", hoffsets.age, by simp, by simp [reads]⟩
    | position =>
      obtain ⟨⟨json, hof⟩, -⟩ := validSample_position hclean hchosen
      exact ⟨"position", hof.age, by simp, by simp⟩
  obtain ⟨chosenMember, hchosenAge, -, hposition⟩ := hchosenAge
  have hfinite := sampleAge_finite hchosenAge
  obtain ⟨hleChosen, hleBoth, hfiniteAll⟩ := le_max hfinite hfiniteBoth
  intro member hmember
  by_cases hread : member = "position"
  · subst hread
    rw [hposition hmember] at hchosenAge
    exact ⟨_, hchosenAge, hleChosen⟩
  · have hother : member = "names" ∨ member = "focusoffsets" := by
      cases property <;> simp_all [reads]
    rcases hother with rfl | rfl
    · exact ⟨_, hnames.age, le_trans_finite hfiniteNames hfiniteBoth hfiniteAll hleNames hleBoth⟩
    · exact ⟨_, hoffsets.age,
        le_trans_finite hfiniteOffsets hfiniteBoth hfiniteAll hleOffsets hleBoth⟩

theorem property_ok {json : Json}
    (h : FilterWheel.property (state.device missing) property = .ok json) :
    ∃ names offsets, capabilities (state.device missing) = .ok (names, offsets)
      ∧ (property = .position → ∃ json position, state.values["position"]? = some json
        ∧ Property.position.decode json = .ok position
        ∧ beyond position (slots names) = false) := by
  obtain ⟨⟨names, offsets⟩, hcapabilities, h⟩ := bind_ok h
  refine ⟨names, offsets, hcapabilities, ?_⟩
  rintro rfl
  obtain ⟨position, hposition, -⟩ := bind_ok h
  obtain ⟨json, hjson, hposition⟩ := bind_ok hposition
  obtain ⟨value, hvalue, hposition⟩ := bind_ok hposition
  split at hposition
  · cases hposition
  · rename_i hwithin
    exact ⟨json, value, device_ok hjson, hvalue, by simpa using hwithin⟩

/-- The samples and the reads of a filter wheel agree. -/
theorem agrees (hclean : Clean state) (missing : String → SourceError) (now : Nat)
    (property : Property) :
    Agrees state now property.decode (cachedProperty state property now)
      (FilterWheel.property (state.device missing) property) (reads property) (reads property) where
  sound sample hcached := by
    obtain ⟨names, offsets, chosen, hwheel, hchosen, rfl⟩ := cachedProperty_ok hclean hcached
    have hsound : ∃ json, FilterWheel.property (state.device missing) property = .ok json
        ∧ property.decode json = .ok chosen.value :=
      hwheel.sound hclean hchosen
    exact hsound
  complete json hlive hsampled := by
    obtain ⟨names, offsets, hcapabilities, hposition⟩ := property_ok hlive
    obtain ⟨⟨jsonNames, hnames, hnamesValue⟩, ⟨jsonOffsets, hoffsets, hoffsetsValue⟩, hslots⟩ :=
      capabilities_ok hcapabilities
    obtain ⟨sampleNames, hreadNames, rfl, -⟩ := hclean.cachedRead_of hnames hnamesValue
      (hsampled "names" (by cases property <;> simp [reads]))
    obtain ⟨sampleOffsets, hreadOffsets, rfl, -⟩ := hclean.cachedRead_of hoffsets hoffsetsValue
      (hsampled "focusoffsets" (by cases property <;> simp [reads]))
    cases property with
    | names => exact cachedProperty_of hclean hreadNames hreadOffsets hslots rfl
    | focusOffsets => exact cachedProperty_of hclean hreadNames hreadOffsets hslots rfl
    | position =>
      obtain ⟨jsonPosition, position, hjson, hvalue, hwithin⟩ := hposition rfl
      obtain ⟨sample, hread, rfl, -⟩ := hclean.cachedRead_of hjson hvalue
        (hsampled "position" (by simp [reads]))
      have hchosen : validSample state now sampleNames sampleOffsets .position = .ok sample := by
        show (readSample state now .position >>= fun position =>
          if beyond position.value (slots sampleNames.value) then .error badReading
          else pure position) = _
        rw [show readSample state now .position = .ok sample from hread]
        exact if_neg (by simp [hwithin])
      exact cachedProperty_of hclean hreadNames hreadOffsets hslots hchosen
  aged sample hcached := by
    obtain ⟨names, offsets, chosen, hwheel, hchosen, rfl⟩ := cachedProperty_ok hclean hcached
    exact hwheel.aged hclean hchosen

end

end FilterWheel

namespace CoverCalibrator

def reads (state : Snapshot) : Property → List String
  | .coverState => ["coverstate"]
  | .calibratorState => ["calibratorstate"]
  | .maxBrightness => ["calibratorstate", "maxbrightness"]
  | .brightness => ["calibratorstate", "maxbrightness", "brightness"]
  | .coverMoving => if legacy state then ["coverstate"] else ["covermoving"]
  | .calibratorChanging => if legacy state then ["calibratorstate"] else ["calibratorchanging"]

theorem decode_integer {property : Property} (hinteger : property.isBoolean = false) {json : Json}
    {value : Value} (h : property.decode json = .ok value) : value = .integer (integerOf value)
      ∧ property.decode (.ofInt (integerOf value)) = .ok value := by
  unfold Property.decode at h ⊢
  simp only [hinteger, Bool.false_eq_true, if_false] at h ⊢
  obtain ⟨number, hfilter, rfl⟩ := Option.map_eq_some_iff.mp (orError_ok h)
  obtain ⟨hint, haccepts⟩ := Option.filter_eq_some_iff.mp hfilter
  refine ⟨rfl, ?_⟩
  show orError (((asInt32 (.ofInt number)).filter property.accepts).map Value.integer) badReading = _
  rw [Option.filter_eq_some_iff.mpr ⟨asInt32_ofInt hint, haccepts⟩]
  rfl

theorem decode_boolean {property : Property} (hboolean : property.isBoolean = true)
    (moving : Bool) : property.decode (.bool moving) = .ok (.boolean moving) := by
  unfold Property.decode
  rw [if_pos hboolean]
  rfl

section

variable {state : Snapshot} {missing : String → SourceError} {now : Nat}

variable {property : Property}

theorem readInteger_of {json : Json} {value : Value} (missing : String → SourceError)
    (hjson : state.values[property.member]? = some json)
    (hvalue : property.decode json = .ok value) :
    readInteger (state.device missing) property = .ok (integerOf value) := by
  unfold readInteger
  rw [device_of hjson]
  show (property.decode json >>= fun value => pure (integerOf value)) = _
  rw [hvalue]
  rfl

theorem readInteger_ok {value : Int} (h : readInteger (state.device missing) property = .ok value) :
    ∃ json decoded, state.values[property.member]? = some json
      ∧ property.decode json = .ok decoded ∧ integerOf decoded = value := by
  obtain ⟨json, hjson, h⟩ := bind_ok h
  obtain ⟨decoded, hdecoded, h⟩ := bind_ok h
  cases h
  exact ⟨json, decoded, device_ok hjson, hdecoded, rfl⟩

theorem readInteger_sample {json : Json} {sample : Sample} (missing : String → SourceError)
    (h : SampleOf state now property.member property.decode json sample) :
    readInteger (state.device missing) property = .ok (integerOf sample.value) :=
  readInteger_of missing h.sampled h.value

/-- What the session reads of a sampled member is its sample. -/
theorem readSample_of (hclean : Clean state) {value : Int}
    (hread : readInteger (state.device missing) property = .ok value)
    (hsampled : Sampled state now property.member) :
    ∃ sample, readSample state now property = .ok sample ∧ integerOf sample.value = value := by
  obtain ⟨json, decoded, hjson, hdecoded, hvalue⟩ := readInteger_ok hread
  obtain ⟨sample, hcached, rfl, -⟩ := hclean.cachedRead_of hjson hdecoded hsampled
  exact ⟨sample, hcached, hvalue⟩

theorem agrees_state (hclean : Clean state) (missing : String → SourceError) (now : Nat)
    (hinteger : property.isBoolean = false) :
    Agrees state now property.decode (readSample state now property)
      (readInteger (state.device missing) property >>= fun value => pure (.ofInt value))
      [property.member] [property.member] where
  sound sample hcached := by
    obtain ⟨json, hof⟩ := hclean.cachedRead_ok hcached
    refine ⟨.ofInt (integerOf sample.value), ?_, (decode_integer hinteger hof.value).2⟩
    rw [readInteger_sample missing hof]
    rfl
  complete json hlive hsampled := by
    obtain ⟨value, hread, -⟩ := bind_ok hlive
    obtain ⟨sample, hsample, -⟩ := readSample_of hclean hread (hsampled property.member (by simp))
    exact ⟨sample, hsample⟩
  aged sample hcached member hmember := by
    obtain ⟨json, hof⟩ := hclean.cachedRead_ok hcached
    rw [List.mem_singleton.mp hmember]
    exact ⟨sample.ageSeconds, hof.age, sampleAge_le_refl hof.age⟩

/-- The completion of a first version follows the sampled state. -/
theorem agrees_completion (hclean : Clean state) (missing : String → SourceError) (now : Nat)
    (hboolean : property.isBoolean = true) :
    Agrees state now property.decode (cachedCompletion state property now)
      (do return .bool (← completion (← readInteger (state.device missing) property.stateOf)))
      [property.stateOf.member] [property.stateOf.member] where
  sound sample hcached := by
    obtain ⟨read, hread, hcached⟩ := bind_ok hcached
    obtain ⟨moving, hmoving, hcached⟩ := bind_ok hcached
    cases hcached
    obtain ⟨json, hof⟩ := hclean.cachedRead_ok hread
    refine ⟨.bool moving, ?_, decode_boolean hboolean moving⟩
    rw [readInteger_sample missing hof]
    show (completion (integerOf read.value) >>= fun moving => pure (Json.bool moving)) = _
    rw [hmoving]
    rfl
  complete json hlive hsampled := by
    obtain ⟨value, hread, hlive⟩ := bind_ok hlive
    obtain ⟨moving, hmoving, -⟩ := bind_ok hlive
    obtain ⟨sample, hsample, rfl⟩ := readSample_of hclean hread
      (hsampled property.stateOf.member (by simp))
    refine ⟨{ sample with value := .boolean moving }, ?_⟩
    unfold cachedCompletion
    rw [hsample]
    show (completion (integerOf sample.value) >>= fun moving =>
      pure { sample with value := Value.boolean moving }) = _
    rw [hmoving]
    rfl
  aged sample hcached member hmember := by
    obtain ⟨read, hread, hcached⟩ := bind_ok hcached
    obtain ⟨moving, hmoving, hcached⟩ := bind_ok hcached
    cases hcached
    obtain ⟨json, hof⟩ := hclean.cachedRead_ok hread
    rw [List.mem_singleton.mp hmember]
    exact ⟨read.ageSeconds, hof.age, sampleAge_le_refl hof.age⟩

theorem agrees_moving (hclean : Clean state) (missing : String → SourceError) (now : Nat)
    (hboolean : property.isBoolean = true) {members : List String}
    (hmembers : members = if legacy state then [property.stateOf.member] else [property.member]) :
    Agrees state now property.decode
      (if legacy state then cachedCompletion state property now else readSample state now property)
      (moving state (state.device missing) property) members members := by
  unfold moving
  rw [hmembers]
  by_cases hlegacy : legacy state = true
  · rw [if_pos hlegacy, if_pos hlegacy, if_pos hlegacy]
    exact agrees_completion hclean missing now hboolean
  · rw [if_neg hlegacy, if_neg hlegacy, if_neg hlegacy]
    exact agrees_single hclean missing now _ _ _

structure Lit (state : Snapshot) (now : Nat) (light maximum : Sample) : Prop where
  ofLight : ∃ json, SampleOf state now "calibratorstate" Property.calibratorState.decode json light
  ofMaximum : ∃ json, SampleOf state now "maxbrightness" Property.maxBrightness.decode json maximum
  present : integerOf light.value ≠ 0

/-- A brightness does not exceed the maximum, and is zero when the light is off. -/
def Dims (light maximum brightness : Int) : Prop :=
  ¬ (maximum < brightness ∨ light = 1 ∧ brightness ≠ 0)

theorem Lit.light {light maximum : Sample} (missing : String → SourceError)
    (h : Lit state now light maximum) : CoverCalibrator.light (state.device missing)
      = .ok (integerOf light.value, integerOf maximum.value) := by
  obtain ⟨jsonLight, hlight⟩ := h.ofLight
  obtain ⟨jsonMaximum, hmaximum⟩ := h.ofMaximum
  unfold CoverCalibrator.light
  rw [readInteger_sample missing hlight, readInteger_sample missing hmaximum]
  exact if_neg h.present

theorem light_ok {values : Int × Int}
    (h : CoverCalibrator.light (state.device missing) = .ok values) :
    readInteger (state.device missing) .calibratorState = .ok values.1 ∧ values.1 ≠ 0
      ∧ readInteger (state.device missing) .maxBrightness = .ok values.2 := by
  obtain ⟨light, hlight, h⟩ := bind_ok h
  split at h
  · cases h
  · rename_i hpresent
    obtain ⟨maximum, hmaximum, h⟩ := bind_ok h
    cases h
    exact ⟨hlight, hpresent, hmaximum⟩

theorem cachedMaximum_ok (hclean : Clean state) {sample : Sample}
    (h : cachedLight state .maxBrightness now = .ok sample) :
    ∃ light maximum, Lit state now light maximum
      ∧ sample = { maximum with ageSeconds := maximum.ageSeconds.max light.ageSeconds } := by
  obtain ⟨light, hlight, h⟩ := bind_ok h
  split at h
  · cases h
  · rename_i hpresent
    obtain ⟨maximum, hmaximum, h⟩ := bind_ok h
    cases h
    exact ⟨light, maximum,
      ⟨hclean.cachedRead_ok hlight, hclean.cachedRead_ok hmaximum, hpresent⟩, rfl⟩

theorem cachedBrightness_ok (hclean : Clean state) {sample : Sample}
    (h : cachedLight state .brightness now = .ok sample) :
    ∃ light maximum brightness, Lit state now light maximum
      ∧ (∃ json, SampleOf state now "brightness" Property.brightness.decode json brightness)
      ∧ Dims (integerOf light.value) (integerOf maximum.value) (integerOf brightness.value)
      ∧ sample = { brightness with
        ageSeconds := (brightness.ageSeconds.max maximum.ageSeconds).max light.ageSeconds } := by
  obtain ⟨light, hlight, h⟩ := bind_ok h
  split at h
  · cases h
  · rename_i hpresent
    obtain ⟨maximum, hmaximum, h⟩ := bind_ok h
    obtain ⟨brightness, hbrightness, h⟩ := bind_ok h
    split at h
    · cases h
    · rename_i hdims
      cases h
      exact ⟨light, maximum, brightness,
        ⟨hclean.cachedRead_ok hlight, hclean.cachedRead_ok hmaximum, hpresent⟩,
        hclean.cachedRead_ok hbrightness, hdims, rfl⟩

theorem agrees_maximum (hclean : Clean state) (missing : String → SourceError) (now : Nat) :
    Agrees state now Property.maxBrightness.decode (cachedLight state .maxBrightness now)
      (do return .ofInt (← CoverCalibrator.light (state.device missing)).2)
      ["calibratorstate", "maxbrightness"] ["calibratorstate", "maxbrightness"] where
  sound sample hcached := by
    obtain ⟨light, maximum, hlit, rfl⟩ := cachedMaximum_ok hclean hcached
    obtain ⟨json, hof⟩ := hlit.ofMaximum
    refine ⟨.ofInt (integerOf maximum.value), ?_, (decode_integer rfl hof.value).2⟩
    rw [hlit.light missing]
    rfl
  complete json hlive hsampled := by
    obtain ⟨values, hvalues, -⟩ := bind_ok hlive
    obtain ⟨hlight, hpresent, hmaximum⟩ := light_ok hvalues
    obtain ⟨light, hlightRead, hlightValue⟩ := readSample_of hclean hlight
      (hsampled "calibratorstate" (by simp))
    obtain ⟨maximum, hmaximumRead, -⟩ := readSample_of hclean hmaximum
      (hsampled "maxbrightness" (by simp))
    refine ⟨{ maximum with ageSeconds := maximum.ageSeconds.max light.ageSeconds }, ?_⟩
    unfold cachedLight
    rw [hlightRead, hmaximumRead]
    exact if_neg (by rw [hlightValue]; exact hpresent)
  aged sample hcached member hmember := by
    obtain ⟨light, maximum, hlit, rfl⟩ := cachedMaximum_ok hclean hcached
    obtain ⟨jsonLight, hlight⟩ := hlit.ofLight
    obtain ⟨jsonMaximum, hmaximum⟩ := hlit.ofMaximum
    obtain ⟨hleMaximum, hleLight, -⟩ :=
      le_max (sampleAge_finite hmaximum.age) (sampleAge_finite hlight.age)
    have hcases : member = "calibratorstate" ∨ member = "maxbrightness" := by simpa using hmember
    rcases hcases with rfl | rfl
    · exact ⟨_, hlight.age, hleLight⟩
    · exact ⟨_, hmaximum.age, hleMaximum⟩

theorem agrees_brightness (hclean : Clean state) (missing : String → SourceError) (now : Nat) :
    Agrees state now Property.brightness.decode (cachedLight state .brightness now)
      (do return .ofInt (← CoverCalibrator.brightness (state.device missing)))
      ["calibratorstate", "maxbrightness", "brightness"]
      ["calibratorstate", "maxbrightness", "brightness"] where
  sound sample hcached := by
    obtain ⟨light, maximum, brightness, hlit, ⟨json, hof⟩, hdims, rfl⟩ :=
      cachedBrightness_ok hclean hcached
    refine ⟨.ofInt (integerOf brightness.value), ?_, (decode_integer rfl hof.value).2⟩
    have hread : CoverCalibrator.brightness (state.device missing)
        = .ok (integerOf brightness.value) := by
      unfold CoverCalibrator.brightness
      rw [hlit.light missing, readInteger_sample missing hof]
      exact if_neg hdims
    rw [hread]
    rfl
  complete json hlive hsampled := by
    obtain ⟨value, hvalue, -⟩ := bind_ok hlive
    obtain ⟨values, hvalues, hvalue⟩ := bind_ok hvalue
    obtain ⟨read, hread, hvalue⟩ := bind_ok hvalue
    obtain ⟨hlight, hpresent, hmaximum⟩ := light_ok hvalues
    obtain ⟨light, hlightRead, hlightValue⟩ := readSample_of hclean hlight
      (hsampled "calibratorstate" (by simp))
    obtain ⟨maximum, hmaximumRead, hmaximumValue⟩ := readSample_of hclean hmaximum
      (hsampled "maxbrightness" (by simp))
    obtain ⟨brightness, hbrightnessRead, hbrightnessValue⟩ := readSample_of hclean hread
      (hsampled "brightness" (by simp))
    split at hvalue
    · cases hvalue
    · rename_i hdims
      refine ⟨{ brightness with
        ageSeconds := (brightness.ageSeconds.max maximum.ageSeconds).max light.ageSeconds }, ?_⟩
      rw [← hlightValue] at hpresent
      rw [← hlightValue, ← hmaximumValue, ← hbrightnessValue] at hdims
      unfold cachedLight
      rw [hlightRead, hmaximumRead, hbrightnessRead]
      exact (if_neg hpresent).trans (if_neg hdims)
  aged sample hcached member hmember := by
    obtain ⟨light, maximum, brightness, hlit, ⟨json, hof⟩, -, rfl⟩ :=
      cachedBrightness_ok hclean hcached
    obtain ⟨jsonLight, hlight⟩ := hlit.ofLight
    obtain ⟨jsonMaximum, hmaximum⟩ := hlit.ofMaximum
    have hfiniteBrightness := sampleAge_finite hof.age
    have hfiniteMaximum := sampleAge_finite hmaximum.age
    obtain ⟨hleBrightness, hleMaximum, hfinite⟩ := le_max hfiniteBrightness hfiniteMaximum
    obtain ⟨hleBoth, hleLight, hfiniteAll⟩ := le_max hfinite (sampleAge_finite hlight.age)
    have hcases : member = "calibratorstate" ∨ member = "maxbrightness" ∨ member = "brightness" := by
      simpa using hmember
    rcases hcases with rfl | rfl | rfl
    · exact ⟨_, hlight.age, hleLight⟩
    · exact ⟨_, hmaximum.age, le_trans_finite hfiniteMaximum hfinite hfiniteAll hleMaximum hleBoth⟩
    · exact ⟨_, hof.age, le_trans_finite hfiniteBrightness hfinite hfiniteAll hleBrightness hleBoth⟩

theorem agrees (hclean : Clean state) (missing : String → SourceError) (now : Nat)
    (property : Property) : Agrees state now property.decode (cachedProperty state property now)
      (CoverCalibrator.property state (state.device missing) property) (reads state property)
      (reads state property) := by
  unfold cachedProperty
  rw [hclean.ready]
  cases property with
  | brightness => exact agrees_brightness hclean missing now
  | maxBrightness => exact agrees_maximum hclean missing now
  | coverState => exact agrees_state hclean missing now rfl
  | calibratorState => exact agrees_state hclean missing now rfl
  | coverMoving => exact agrees_moving hclean missing now rfl rfl
  | calibratorChanging => exact agrees_moving hclean missing now rfl rfl

end

end CoverCalibrator

end Regain.Hub.Typed
