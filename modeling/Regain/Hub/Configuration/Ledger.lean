import Regain.Hub.Configuration.Validate

/-!
# The identity ledger

`IdentityLedger::register` enters every source, output, channel and group of a configuration, or
reports why it cannot. What an entry claims is a `Use` of its ID.
-/

namespace Regain.Hub

open Std (TreeMap)

namespace IdentityLedger

section

/-! ## Registration -/

variable {Details : Type} (dialect : Dialect Details)

def registerSource (ledger : IdentityLedger) (source : SourceConfig) :
    IdentityLedger × List FieldError :=
  match source.identity dialect with
  | .error _ => (ledger, [])
  | .ok identity =>
    let pin := source.pin dialect
    if ledger.sources[source.id]?.any (fun old => old != identity) ||
        ledger.alpacaPins[source.id]?.any (fun old => pin != some old) ||
        ledger.outputs.contains source.id || ledger.channels.contains source.id ||
        ledger.groups.contains source.id || ledger.cameraGroups.contains source.id then
      (ledger, [⟨"sources", "identity", "Existing source IDs cannot be retargeted or repurposed"⟩])
    else
      ({ ledger with
          sources := ledger.sources.insert source.id identity
          alpacaPins := match pin with
            | some pin => ledger.alpacaPins.insert source.id pin
            | none => ledger.alpacaPins }, [])

def registerChannel (output : Uuid) (ledger : IdentityLedger) (channel : SwitchChannel) :
    IdentityLedger × List FieldError :=
  let identity : ChannelIdentity := ⟨output, channel.number, channel.readout⟩
  if ledger.channels[channel.id]?.any (fun old => old != identity) ||
      ledger.channels.toList.any (fun (id, old) => id != channel.id && old.output == output &&
        old.number == channel.number) ||
      ledger.outputs.contains channel.id || ledger.sources.contains channel.id ||
      ledger.groups.contains channel.id || ledger.cameraGroups.contains channel.id then
    (ledger, [⟨"outputs", "identity",
      "Existing or retired channel IDs/numbers cannot move or retarget"⟩])
  else ({ ledger with channels := ledger.channels.insert channel.id identity }, [])

def registerOutputEntry (ledger : IdentityLedger) (output : OutputConfig) :
    IdentityLedger × List FieldError :=
  if ledger.outputs[output.id]?.any (fun old => old != output.identity) ||
      ledger.outputs.toList.any (fun (id, old) => id != output.id && old == output.identity) ||
      ledger.sources.contains output.id || ledger.channels.contains output.id ||
      ledger.groups.contains output.id || ledger.cameraGroups.contains output.id then
    (ledger, [⟨"outputs", "identity",
      "Existing or retired output IDs/numbers cannot be reassigned"⟩])
  else ({ ledger with outputs := ledger.outputs.insert output.id output.identity }, [])

def registerGroup (ledger : IdentityLedger) (group : FocuserGroupConfig) :
    IdentityLedger × List FieldError :=
  if ledger.sources.contains group.id || ledger.outputs.contains group.id ||
      ledger.channels.contains group.id || ledger.cameraGroups.contains group.id then
    (ledger, [⟨"focuserGroups", "identity",
      "Group IDs cannot repurpose source, output or channel identities"⟩])
  else ({ ledger with groups := ledger.groups.insert group.id () }, [])

def registerCameraGroup (ledger : IdentityLedger) (group : CameraGroupConfig) :
    IdentityLedger × List FieldError :=
  if ledger.sources.contains group.id || ledger.outputs.contains group.id ||
      ledger.channels.contains group.id || ledger.groups.contains group.id then
    (ledger, [⟨"cameraGroups", "identity", "Camera group IDs cannot repurpose other identities"⟩])
  else ({ ledger with cameraGroups := ledger.cameraGroups.insert group.id () }, [])

/-- A loop that enters items one after the other and goes on after an error. -/
def registerEach {α : Type} (step : IdentityLedger → α → IdentityLedger × List FieldError) :
    IdentityLedger → List α → IdentityLedger × List FieldError
  | ledger, [] => (ledger, [])
  | ledger, item :: items =>
    let first := step ledger item
    let rest := registerEach step first.1 items
    (rest.1, first.2 ++ rest.2)

def registerOutput (ledger : IdentityLedger) (output : OutputConfig) :
    IdentityLedger × List FieldError :=
  let entry := registerOutputEntry ledger output
  let channels := registerEach (registerChannel output.id) entry.1 output.device.channels
  (channels.1, entry.2 ++ channels.2)

def register (ledger : IdentityLedger) (config : HubConfig Details) :
    IdentityLedger × List FieldError :=
  let sources := registerEach (registerSource dialect) ledger config.sources
  let outputs := registerEach registerOutput sources.1 config.outputs
  let groups := registerEach registerGroup outputs.1 config.focuserGroups
  let cameraGroups := registerEach registerCameraGroup groups.1 config.cameraGroups
  (cameraGroups.1, sources.2 ++ outputs.2 ++ groups.2 ++ cameraGroups.2)

end

/-! ## Roles -/

inductive Role where
  | source
  | output
  | channel
  | group
  | cameraGroup

def holds (ledger : IdentityLedger) (role : Role) (id : Uuid) : Bool :=
  match role with
  | .source => ledger.sources.contains id
  | .output => ledger.outputs.contains id
  | .channel => ledger.channels.contains id
  | .group => ledger.groups.contains id
  | .cameraGroup => ledger.cameraGroups.contains id

def Sole (ledger : IdentityLedger) (role : Role) (id : Uuid) : Prop :=
  ledger.holds role id = true ∧ ∀ other, ledger.holds other id = true → other = role

inductive Use where
  | source (id : Uuid) (identity : String)
  | pin (id : Uuid) (pin : String)
  | output (id : Uuid) (identity : OutputIdentity)
  | channel (id : Uuid) (identity : ChannelIdentity)
  | group (id : Uuid)
  | cameraGroup (id : Uuid)

def Use.id : Use → Uuid
  | .source id _ => id
  | .pin id _ => id
  | .output id _ => id
  | .channel id _ => id
  | .group id => id
  | .cameraGroup id => id

/-- The role in which an ID is used; a pin belongs to a source that is there anyway. -/
def Use.role? : Use → Option Role
  | .source _ _ => some .source
  | .pin _ _ => none
  | .output _ _ => some .output
  | .channel _ _ => some .channel
  | .group _ => some .group
  | .cameraGroup _ => some .cameraGroup

/-- A claim that the ledger has on record and that no other entry contradicts. -/
def Settled (ledger : IdentityLedger) : Use → Prop
  | .source id identity => ledger.sources[id]? = some identity ∧ ledger.Sole .source id
  | .pin id pin => ledger.alpacaPins[id]? = some pin
  | .output id identity => ledger.outputs[id]? = some identity ∧ ledger.Sole .output id ∧
      ∀ other, ledger.outputs[other]? = some identity → other = id
  | .channel id identity => ledger.channels[id]? = some identity ∧ ledger.Sole .channel id ∧
      ∀ other old, ledger.channels[other]? = some old → old.output = identity.output →
        old.number = identity.number → other = id
  | .group id => ledger.Sole .group id
  | .cameraGroup id => ledger.Sole .cameraGroup id

/-! ## Extension -/

def Kept {α : Type} (old new : TreeMap Uuid α) : Prop :=
  ∀ (id : Uuid) (value : α), old[id]? = some value → new[id]? = some value

structure Extends (old new : IdentityLedger) : Prop where
  sources : Kept old.sources new.sources
  alpacaPins : Kept old.alpacaPins new.alpacaPins
  outputs : Kept old.outputs new.outputs
  channels : Kept old.channels new.channels
  groups : Kept old.groups new.groups
  cameraGroups : Kept old.cameraGroups new.cameraGroups
  settled : ∀ use, old.Settled use → new.Settled use

section

variable {α : Type} {a b c : TreeMap Uuid α}

theorem Kept.refl (map : TreeMap Uuid α) : Kept map map :=
  fun _ _ h => h

theorem Kept.trans (hab : Kept a b) (hbc : Kept b c) : Kept a c :=
  fun id value h => hbc id value (hab id value h)

theorem Kept.insert {id : Uuid} {value : α} (hsame : ∀ old, a[id]? = some old → old = value) :
    Kept a (a.insert id value) := by
  intro other old hold
  rw [TreeMap.getElem?_insert]
  split
  · rename_i heq
    have hid : id = other := Std.LawfulEqOrd.eq_of_compare heq
    subst hid
    rw [hsame old hold]
  · exact hold

theorem getElem?_insert_cases {id other : Uuid} {value old : α}
    (hold : (a.insert id value)[other]? = some old) :
    (other = id ∧ old = value) ∨ a[other]? = some old := by
  rw [TreeMap.getElem?_insert] at hold
  split at hold
  · rename_i heq
    have hid : id = other := Std.LawfulEqOrd.eq_of_compare heq
    cases hold
    exact .inl ⟨hid.symm, rfl⟩
  · exact .inr hold

theorem contains_insert_iff (a : TreeMap Uuid α) (id other : Uuid) (value : α) :
    (a.insert id value).contains other = true ↔ other = id ∨ a.contains other = true := by
  rw [TreeMap.contains_insert, Bool.or_eq_true, beq_iff_eq, Std.LawfulEqOrd.compare_eq_iff_eq]
  exact or_congr_left eq_comm

end

theorem Extends.refl (ledger : IdentityLedger) : ledger.Extends ledger where
  sources := Kept.refl _
  alpacaPins := Kept.refl _
  outputs := Kept.refl _
  channels := Kept.refl _
  groups := Kept.refl _
  cameraGroups := Kept.refl _
  settled _ h := h

theorem Extends.trans {a b c : IdentityLedger} (hab : a.Extends b) (hbc : b.Extends c) :
    a.Extends c where
  sources := hab.sources.trans hbc.sources
  alpacaPins := hab.alpacaPins.trans hbc.alpacaPins
  outputs := hab.outputs.trans hbc.outputs
  channels := hab.channels.trans hbc.channels
  groups := hab.groups.trans hbc.groups
  cameraGroups := hab.cameraGroups.trans hbc.cameraGroups
  settled use h := hbc.settled use (hab.settled use h)

theorem Kept.contains {α : Type} {a b : TreeMap Uuid α} (hkept : Kept a b) {id : Uuid}
    (hid : a.contains id = true) : b.contains id = true := by
  rw [TreeMap.contains_eq_isSome_getElem?] at hid ⊢
  obtain ⟨value, hvalue⟩ := Option.isSome_iff_exists.mp hid
  rw [hkept id value hvalue]
  rfl

theorem Extends.holds {old new : IdentityLedger} (hextends : old.Extends new) (role : Role)
    (id : Uuid) (hid : old.holds role id = true) : new.holds role id = true := by
  cases role with
  | source => exact hextends.sources.contains hid
  | output => exact hextends.outputs.contains hid
  | channel => exact hextends.channels.contains hid
  | group => exact hextends.groups.contains hid
  | cameraGroup => exact hextends.cameraGroups.contains hid

/-! ## Entries -/

/-- An ID is entered in a role and was not entered in another one. -/
structure Enters (old new : IdentityLedger) (role : Role) (id : Uuid) : Prop where
  free : ∀ other, old.holds other id = true → other = role
  holds : ∀ other id', new.holds other id' = true ↔
    (other = role ∧ id' = id) ∨ old.holds other id' = true

namespace Enters

variable {old new : IdentityLedger} {role : Role} {id : Uuid}

theorem sole_self (henters : Enters old new role id) : new.Sole role id := by
  refine ⟨(henters.holds role id).mpr (.inl ⟨rfl, rfl⟩), fun other hother => ?_⟩
  cases (henters.holds other id).mp hother with
  | inl hnew => exact hnew.1
  | inr hold => exact henters.free other hold

theorem sole (henters : Enters old new role id) {role' : Role} {id' : Uuid}
    (hsole : old.Sole role' id') : new.Sole role' id' := by
  refine ⟨(henters.holds role' id').mpr (.inr hsole.1), fun other hother => ?_⟩
  cases (henters.holds other id').mp hother with
  | inr hold => exact hsole.2 other hold
  | inl hnew =>
    obtain ⟨rfl, rfl⟩ := hnew
    exact (henters.free role' hsole.1).symm

end Enters

theorem option_any_ne {α : Type} [DecidableEq α] {entry : Option α} {value : α}
    (hnone : entry.any (fun old => old != value) = false) :
    ∀ old, entry = some old → old = value := by
  intro old hold
  subst hold
  simpa using hnone

theorem Enters.settled {old new : IdentityLedger} {role : Role} {id : Uuid}
    (henters : Enters old new role id) (hsources : Kept old.sources new.sources)
    (hpins : Kept old.alpacaPins new.alpacaPins) (houtputs : Kept old.outputs new.outputs)
    (hchannels : Kept old.channels new.channels)
    (hnumber : ∀ (other : Uuid) identity, new.outputs[other]? = some identity →
      old.outputs[other]? = some identity ∨
        ∀ known : Uuid, old.outputs[known]? = some identity → known = other)
    (hslot : ∀ (other : Uuid) identity, new.channels[other]? = some identity →
      old.channels[other]? = some identity ∨
        ∀ (known : Uuid) taken, old.channels[known]? = some taken →
          taken.output = identity.output → taken.number = identity.number → known = other)
    (use : Use) (huse : old.Settled use) : new.Settled use := by
  cases use with
  | source id' identity => exact ⟨hsources id' identity huse.1, henters.sole huse.2⟩
  | pin id' pin => exact hpins id' pin huse
  | group id' => exact henters.sole huse
  | cameraGroup id' => exact henters.sole huse
  | output id' identity =>
    refine ⟨houtputs id' identity huse.1, henters.sole huse.2.1, fun other hother => ?_⟩
    cases hnumber other identity hother with
    | inl hold => exact huse.2.2 other hold
    | inr hnew => exact (hnew id' huse.1).symm
  | channel id' identity =>
    refine ⟨hchannels id' identity huse.1, henters.sole huse.2.1, ?_⟩
    intro other taken hother houtput hnum
    cases hslot other taken hother with
    | inl hold => exact huse.2.2 other taken hold houtput hnum
    | inr hnew => exact (hnew id' identity huse.1 houtput.symm hnum.symm).symm

section

variable {Details : Type} {dialect : Dialect Details}

theorem pins_kept {pins : TreeMap Uuid String} {id : Uuid} {pin : Option String}
    (hpin : pins[id]?.any (fun old => pin != some old) = false) :
    Kept pins (match pin with
      | some pin => pins.insert id pin
      | none => pins) ∧
    (match pin with
      | some pin => pins.insert id pin
      | none => pins)[id]? = pin := by
  cases pin with
  | none =>
    refine ⟨Kept.refl pins, ?_⟩
    cases hold : pins[id]? with
    | none => rfl
    | some old =>
      rw [hold] at hpin
      cases hpin
  | some pin =>
    refine ⟨Kept.insert fun old hold => ?_, by simp⟩
    rw [hold] at hpin
    have heq : some pin = some old := by simpa using hpin
    cases heq
    rfl

theorem registerSource_spec (ledger : IdentityLedger) (source : SourceConfig) :
    ledger.Extends (registerSource dialect ledger source).1 ∧
      ((registerSource dialect ledger source).2 = [] → ∀ identity,
        source.identity dialect = .ok identity →
        (registerSource dialect ledger source).1.Settled (.source source.id identity) ∧
        (registerSource dialect ledger source).1.alpacaPins[source.id]? = source.pin dialect) := by
  unfold registerSource
  cases hidentity : source.identity dialect with
  | error why => exact ⟨Extends.refl ledger, fun _ identity h => by cases h⟩
  | ok identity =>
    dsimp only
    split
    · exact ⟨Extends.refl ledger, fun h => by cases h⟩
    · rename_i hclear
      simp only [Bool.not_eq_true, Bool.or_eq_false_iff] at hclear
      obtain ⟨⟨⟨⟨⟨hsame, hpin⟩, houtput⟩, hchannel⟩, hgroup⟩, hcamera⟩ := hclear
      have hkept := Kept.insert (option_any_ne hsame)
      obtain ⟨hpins, hown⟩ := pins_kept hpin
      have henters : Enters ledger { ledger with
          sources := ledger.sources.insert source.id identity
          alpacaPins := match source.pin dialect with
            | some pin => ledger.alpacaPins.insert source.id pin
            | none => ledger.alpacaPins } .source source.id := by
        refine ⟨fun other hother => ?_, fun other id' => ?_⟩
        · cases other <;> simp_all [holds]
        · cases other with
          | source => simpa [holds] using contains_insert_iff ledger.sources source.id id' identity
          | output => simp [holds]
          | channel => simp [holds]
          | group => simp [holds]
          | cameraGroup => simp [holds]
      refine ⟨⟨hkept, hpins, Kept.refl _, Kept.refl _, Kept.refl _, Kept.refl _, ?_⟩, ?_⟩
      · exact henters.settled hkept hpins (Kept.refl _) (Kept.refl _)
          (fun _ _ h => .inl h) (fun _ _ h => .inl h)
      · intro _ identity' hidentity'
        cases hidentity'
        exact ⟨⟨by simp, henters.sole_self⟩, hown⟩

theorem registerOutputEntry_spec (ledger : IdentityLedger) (output : OutputConfig) :
    ledger.Extends (registerOutputEntry ledger output).1 ∧
      ((registerOutputEntry ledger output).2 = [] →
        (registerOutputEntry ledger output).1.Settled (.output output.id output.identity)) := by
  unfold registerOutputEntry
  split
  · exact ⟨Extends.refl ledger, fun h => by cases h⟩
  · rename_i hclear
    simp only [Bool.not_eq_true, Bool.or_eq_false_iff] at hclear
    obtain ⟨⟨⟨⟨⟨hsame, hnumber⟩, hsource⟩, hchannel⟩, hgroup⟩, hcamera⟩ := hclear
    have hkept := Kept.insert (option_any_ne hsame)
    have hunique : ∀ other : Uuid, ledger.outputs[other]? = some output.identity →
        other = output.id := by
      intro other hother
      have hmem := TreeMap.mem_toList_iff_getElem?_eq_some.mpr hother
      have hall := List.any_eq_false.mp hnumber _ hmem
      simpa using hall
    have henters : Enters ledger
        { ledger with outputs := ledger.outputs.insert output.id output.identity }
        .output output.id := by
      refine ⟨fun other hother => ?_, fun other id' => ?_⟩
      · cases other <;> simp_all [holds]
      · cases other with
        | output =>
          simpa [holds] using contains_insert_iff ledger.outputs output.id id' output.identity
        | source => simp [holds]
        | channel => simp [holds]
        | group => simp [holds]
        | cameraGroup => simp [holds]
    refine ⟨⟨Kept.refl _, Kept.refl _, hkept, Kept.refl _, Kept.refl _, Kept.refl _, ?_⟩, ?_⟩
    · refine henters.settled (Kept.refl _) (Kept.refl _) hkept (Kept.refl _) ?_
        (fun _ _ h => .inl h)
      intro other identity hother
      cases getElem?_insert_cases hother with
      | inr hold => exact .inl hold
      | inl hnew =>
        obtain ⟨rfl, rfl⟩ := hnew
        exact .inr hunique
    · intro _
      refine ⟨by simp, henters.sole_self, fun other hother => ?_⟩
      cases getElem?_insert_cases hother with
      | inl hnew => exact hnew.1
      | inr hold => exact hunique other hold

theorem registerChannel_spec (output : Uuid) (ledger : IdentityLedger) (channel : SwitchChannel) :
    ledger.Extends (registerChannel output ledger channel).1 ∧
      ((registerChannel output ledger channel).2 = [] →
        (registerChannel output ledger channel).1.Settled
          (.channel channel.id ⟨output, channel.number, channel.readout⟩)) := by
  unfold registerChannel
  dsimp only
  split
  · exact ⟨Extends.refl ledger, fun h => by cases h⟩
  · rename_i hclear
    simp only [Bool.not_eq_true, Bool.or_eq_false_iff] at hclear
    obtain ⟨⟨⟨⟨⟨hsame, hslot⟩, houtput⟩, hsource⟩, hgroup⟩, hcamera⟩ := hclear
    have hkept := Kept.insert (option_any_ne hsame)
    have hunique : ∀ (other : Uuid) taken, ledger.channels[other]? = some taken →
        taken.output = output → taken.number = channel.number → other = channel.id := by
      intro other taken hother houtput hnumber
      have hmem := TreeMap.mem_toList_iff_getElem?_eq_some.mpr hother
      have hall := List.any_eq_false.mp hslot _ hmem
      simpa [houtput, hnumber] using hall
    have henters : Enters ledger
        { ledger with
          channels := ledger.channels.insert channel.id ⟨output, channel.number, channel.readout⟩ }
        .channel channel.id := by
      refine ⟨fun other hother => ?_, fun other id' => ?_⟩
      · cases other <;> simp_all [holds]
      · cases other with
        | channel =>
          simpa [holds] using contains_insert_iff ledger.channels channel.id id'
            ⟨output, channel.number, channel.readout⟩
        | source => simp [holds]
        | output => simp [holds]
        | group => simp [holds]
        | cameraGroup => simp [holds]
    refine ⟨⟨Kept.refl _, Kept.refl _, Kept.refl _, hkept, Kept.refl _, Kept.refl _, ?_⟩, ?_⟩
    · refine henters.settled (Kept.refl _) (Kept.refl _) (Kept.refl _) hkept
        (fun _ _ h => .inl h) ?_
      intro other identity hother
      cases getElem?_insert_cases hother with
      | inr hold => exact .inl hold
      | inl hnew =>
        obtain ⟨rfl, rfl⟩ := hnew
        exact .inr hunique
    · intro _
      refine ⟨by simp, henters.sole_self, fun other taken hother houtput' hnumber => ?_⟩
      cases getElem?_insert_cases hother with
      | inl hnew => exact hnew.1
      | inr hold => exact hunique other taken hold houtput' hnumber

theorem registerGroup_spec (ledger : IdentityLedger) (group : FocuserGroupConfig) :
    ledger.Extends (registerGroup ledger group).1 ∧ ((registerGroup ledger group).2 = [] →
        (registerGroup ledger group).1.Settled (.group group.id)) := by
  unfold registerGroup
  split
  · exact ⟨Extends.refl ledger, fun h => by cases h⟩
  · rename_i hclear
    simp only [Bool.not_eq_true, Bool.or_eq_false_iff] at hclear
    obtain ⟨⟨⟨hsource, houtput⟩, hchannel⟩, hcamera⟩ := hclear
    have henters : Enters ledger { ledger with groups := ledger.groups.insert group.id () }
        .group group.id := by
      refine ⟨fun other hother => ?_, fun other id' => ?_⟩
      · cases other <;> simp_all [holds]
      · cases other with
        | group => simpa [holds] using contains_insert_iff ledger.groups group.id id' ()
        | source => simp [holds]
        | output => simp [holds]
        | channel => simp [holds]
        | cameraGroup => simp [holds]
    have hkept : Kept ledger.groups (ledger.groups.insert group.id ()) :=
      Kept.insert fun _ _ => rfl
    exact ⟨⟨Kept.refl _, Kept.refl _, Kept.refl _, Kept.refl _, hkept, Kept.refl _,
      henters.settled (Kept.refl _) (Kept.refl _) (Kept.refl _) (Kept.refl _)
        (fun _ _ h => .inl h) (fun _ _ h => .inl h)⟩, fun _ => henters.sole_self⟩

theorem registerCameraGroup_spec (ledger : IdentityLedger) (group : CameraGroupConfig) :
    ledger.Extends (registerCameraGroup ledger group).1 ∧
      ((registerCameraGroup ledger group).2 = [] →
        (registerCameraGroup ledger group).1.Settled (.cameraGroup group.id)) := by
  unfold registerCameraGroup
  split
  · exact ⟨Extends.refl ledger, fun h => by cases h⟩
  · rename_i hclear
    simp only [Bool.not_eq_true, Bool.or_eq_false_iff] at hclear
    obtain ⟨⟨⟨hsource, houtput⟩, hchannel⟩, hgroup⟩ := hclear
    have henters : Enters ledger
        { ledger with cameraGroups := ledger.cameraGroups.insert group.id () }
        .cameraGroup group.id := by
      refine ⟨fun other hother => ?_, fun other id' => ?_⟩
      · cases other <;> simp_all [holds]
      · cases other with
        | cameraGroup => simpa [holds] using contains_insert_iff ledger.cameraGroups group.id id' ()
        | source => simp [holds]
        | output => simp [holds]
        | channel => simp [holds]
        | group => simp [holds]
    have hkept : Kept ledger.cameraGroups (ledger.cameraGroups.insert group.id ()) :=
      Kept.insert fun _ _ => rfl
    exact ⟨⟨Kept.refl _, Kept.refl _, Kept.refl _, Kept.refl _, Kept.refl _, hkept,
      henters.settled (Kept.refl _) (Kept.refl _) (Kept.refl _) (Kept.refl _)
        (fun _ _ h => .inl h) (fun _ _ h => .inl h)⟩, fun _ => henters.sole_self⟩

end

section

variable {α : Type} {step : IdentityLedger → α → IdentityLedger × List FieldError}

theorem registerEach_extends
    (hstep : ∀ (ledger : IdentityLedger) item, ledger.Extends (step ledger item).1)
    (ledger : IdentityLedger) (items : List α) :
    ledger.Extends (registerEach step ledger items).1 := by
  induction items generalizing ledger with
  | nil => exact Extends.refl ledger
  | cons item items ih => exact (hstep ledger item).trans (ih _)

theorem registerEach_settled
    (hstep : ∀ (ledger : IdentityLedger) item, ledger.Extends (step ledger item).1)
    (use : α → Option Use)
    (huse : ∀ ledger item, (step ledger item).2 = [] → ∀ claim, use item = some claim →
      (step ledger item).1.Settled claim)
    (ledger : IdentityLedger) (items : List α) (hclean : (registerEach step ledger items).2 = []) :
    ∀ item ∈ items, ∀ claim, use item = some claim →
      (registerEach step ledger items).1.Settled claim := by
  induction items generalizing ledger with
  | nil => intro item hmem; cases hmem
  | cons first items ih =>
    simp only [registerEach, List.append_eq_nil_iff] at hclean
    intro item hmem claim hclaim
    cases hmem with
    | head =>
      exact (registerEach_extends hstep _ items).settled claim (huse ledger _ hclean.1 claim hclaim)
    | tail _ hmem => exact ih (step ledger first).1 hclean.2 item hmem claim hclaim

end

section

variable {Details : Type} {dialect : Dialect Details}

theorem registerOutput_extends (ledger : IdentityLedger) (output : OutputConfig) :
    ledger.Extends (registerOutput ledger output).1 :=
  (registerOutputEntry_spec ledger output).1.trans
    (registerEach_extends (fun ledger channel => (registerChannel_spec _ ledger channel).1) _ _)

theorem registerOutput_settled (ledger : IdentityLedger) (output : OutputConfig)
    (hclean : (registerOutput ledger output).2 = []) :
    (registerOutput ledger output).1.Settled (.output output.id output.identity) ∧
      ∀ channel ∈ output.device.channels, (registerOutput ledger output).1.Settled
        (.channel channel.id ⟨output.id, channel.number, channel.readout⟩) := by
  simp only [registerOutput, List.append_eq_nil_iff] at hclean
  have hchannels : ∀ (ledger : IdentityLedger) channel,
      ledger.Extends (registerChannel output.id ledger channel).1 :=
    fun ledger channel => (registerChannel_spec _ ledger channel).1
  constructor
  · exact (registerEach_extends hchannels _ _).settled _
      ((registerOutputEntry_spec ledger output).2 hclean.1)
  · intro channel hmem
    refine registerEach_settled hchannels (fun channel =>
      some (.channel channel.id ⟨output.id, channel.number, channel.readout⟩)) ?_ _ _
      hclean.2 channel hmem _ rfl
    intro ledger channel hclean claim hclaim
    cases hclaim
    exact (registerChannel_spec _ ledger channel).2 hclean

def Claims (dialect : Dialect Details) (config : HubConfig Details) : Use → Prop
  | .source id identity => ∃ source ∈ config.sources, source.id = id ∧
      source.identity dialect = .ok identity
  | .pin id pin => ∃ source ∈ config.sources, source.id = id ∧ source.pin dialect = some pin
  | .output id identity => ∃ output ∈ config.outputs, output.id = id ∧ output.identity = identity
  | .channel id identity => ∃ output ∈ config.outputs, ∃ channel ∈ output.device.channels,
      channel.id = id ∧ identity = ⟨output.id, channel.number, channel.readout⟩
  | .group id => ∃ group ∈ config.focuserGroups, group.id = id
  | .cameraGroup id => ∃ group ∈ config.cameraGroups, group.id = id

theorem registerSources_extends (ledger : IdentityLedger) (sources : List SourceConfig) :
    ledger.Extends (registerEach (registerSource dialect) ledger sources).1 :=
  registerEach_extends (fun ledger source => (registerSource_spec ledger source).1) ledger sources

theorem register_extends (ledger : IdentityLedger) (config : HubConfig Details) :
    ledger.Extends (ledger.register dialect config).1 :=
  (registerSources_extends ledger config.sources).trans <|
    (registerEach_extends registerOutput_extends _ _).trans <|
    (registerEach_extends (fun ledger group => (registerGroup_spec ledger group).1) _ _).trans
      (registerEach_extends (fun ledger group => (registerCameraGroup_spec ledger group).1) _ _)

theorem registerSources_pin_of_notMem (ledger : IdentityLedger) (sources : List SourceConfig)
    {id : Uuid} (hid : ∀ source ∈ sources, source.id ≠ id) :
    (registerEach (registerSource dialect) ledger sources).1.alpacaPins[id]? =
      ledger.alpacaPins[id]? := by
  induction sources generalizing ledger with
  | nil => rfl
  | cons source sources ih =>
    have hne : source.id ≠ id := hid source List.mem_cons_self
    have hstep : (registerSource dialect ledger source).1.alpacaPins[id]? =
        ledger.alpacaPins[id]? := by
      unfold registerSource
      split
      · rfl
      · dsimp only
        split
        · rfl
        · cases source.pin dialect with
          | none => rfl
          | some pin =>
            dsimp only
            rw [TreeMap.getElem?_insert, if_neg]
            rw [Std.LawfulEqOrd.compare_eq_iff_eq]
            exact hne
    exact (ih _ fun other hmem => hid other (List.mem_cons_of_mem _ hmem)).trans hstep

theorem registerSources_pins (ledger : IdentityLedger) (sources : List SourceConfig)
    (hclean : (registerEach (registerSource dialect) ledger sources).2 = [])
    (hdistinct : (sources.map (·.id)).Nodup)
    (hvalid : ∀ source ∈ sources, ∃ identity, source.identity dialect = .ok identity) :
    ∀ source ∈ sources,
      (registerEach (registerSource dialect) ledger sources).1.alpacaPins[source.id]? =
        source.pin dialect := by
  induction sources generalizing ledger with
  | nil => intro source hmem; cases hmem
  | cons first sources ih =>
    simp only [registerEach, List.append_eq_nil_iff] at hclean
    simp only [List.map_cons, List.nodup_cons] at hdistinct
    intro source hmem
    cases hmem with
    | head =>
      obtain ⟨identity, hidentity⟩ := hvalid first List.mem_cons_self
      have hpin := ((registerSource_spec ledger first).2 hclean.1 identity hidentity).2
      refine (registerSources_pin_of_notMem _ sources fun other hother heq => ?_).trans hpin
      exact hdistinct.1 (List.mem_map.mpr ⟨other, hother, heq⟩)
    | tail _ hmem =>
      exact ih _ hclean.2 hdistinct.2
        (fun other hother => hvalid other (List.mem_cons_of_mem _ hother)) source hmem

theorem registerEach_alpacaPins {α : Type}
    {step : IdentityLedger → α → IdentityLedger × List FieldError}
    (hstep : ∀ ledger item, (step ledger item).1.alpacaPins = ledger.alpacaPins)
    (ledger : IdentityLedger) (items : List α) :
    (registerEach step ledger items).1.alpacaPins = ledger.alpacaPins := by
  induction items generalizing ledger with
  | nil => rfl
  | cons item items ih => exact (ih _).trans (hstep ledger item)

theorem register_alpacaPins (ledger : IdentityLedger) (config : HubConfig Details) :
    (ledger.register dialect config).1.alpacaPins =
      (registerEach (registerSource dialect) ledger config.sources).1.alpacaPins := by
  have hchannel : ∀ output (ledger : IdentityLedger) channel,
      (registerChannel output ledger channel).1.alpacaPins = ledger.alpacaPins := by
    intro output ledger channel
    unfold registerChannel
    dsimp only
    split <;> rfl
  have houtput : ∀ ledger output, (registerOutput ledger output).1.alpacaPins =
      ledger.alpacaPins := by
    intro ledger output
    refine (registerEach_alpacaPins (hchannel output.id) _ _).trans ?_
    unfold registerOutputEntry
    split <;> rfl
  have hgroup : ∀ ledger group, (registerGroup ledger group).1.alpacaPins = ledger.alpacaPins := by
    intro ledger group
    unfold registerGroup
    split <;> rfl
  have hcamera : ∀ ledger group,
      (registerCameraGroup ledger group).1.alpacaPins = ledger.alpacaPins := by
    intro ledger group
    unfold registerCameraGroup
    split <;> rfl
  exact (registerEach_alpacaPins hcamera _ _).trans <|
    (registerEach_alpacaPins hgroup _ _).trans (registerEach_alpacaPins houtput _ _)

def sourceUse? (dialect : Dialect Details) (source : SourceConfig) : Option Use :=
  match source.identity dialect with
  | .ok identity => some (.source source.id identity)
  | .error _ => none

theorem register_settled (ledger : IdentityLedger) (config : HubConfig Details)
    (hclean : (ledger.register dialect config).2 = [])
    (hdistinct : (config.sources.map (·.id)).Nodup)
    (hvalid : ∀ source ∈ config.sources, ∃ identity, source.identity dialect = .ok identity)
    (use : Use) (hclaims : Claims dialect config use) :
    (ledger.register dialect config).1.Settled use := by
  simp only [register, List.append_eq_nil_iff] at hclean
  obtain ⟨⟨⟨hsources, houtputs⟩, hgroups⟩, hcameras⟩ := hclean
  have hcameraStep : ∀ (ledger : IdentityLedger) group,
      ledger.Extends (registerCameraGroup ledger group).1 :=
    fun ledger group => (registerCameraGroup_spec ledger group).1
  have hgroupStep : ∀ (ledger : IdentityLedger) group,
      ledger.Extends (registerGroup ledger group).1 :=
    fun ledger group => (registerGroup_spec ledger group).1
  have hafterGroups := registerEach_extends hcameraStep (registerEach registerGroup
    (registerEach registerOutput (registerEach (registerSource dialect) ledger config.sources).1
      config.outputs).1 config.focuserGroups).1 config.cameraGroups
  have hafterOutputs := (registerEach_extends hgroupStep (registerEach registerOutput
    (registerEach (registerSource dialect) ledger config.sources).1 config.outputs).1
    config.focuserGroups).trans hafterGroups
  have hafterSources := (registerEach_extends registerOutput_extends
    (registerEach (registerSource dialect) ledger config.sources).1 config.outputs).trans
    hafterOutputs
  cases use with
  | source id identity =>
    obtain ⟨source, hmem, rfl, hidentity⟩ := hclaims
    refine hafterSources.settled _ ?_
    refine registerEach_settled (fun ledger source => (registerSource_spec ledger source).1)
      (sourceUse? dialect) ?_ _ _ hsources source hmem _ (by simp only [sourceUse?, hidentity])
    intro ledger source hclean claim hclaim
    cases hsource : source.identity dialect with
    | error why =>
      simp only [sourceUse?, hsource] at hclaim
      cases hclaim
    | ok identity =>
      simp only [sourceUse?, hsource] at hclaim
      cases hclaim
      exact ((registerSource_spec ledger source).2 hclean identity hsource).1
  | pin id pin =>
    obtain ⟨source, hmem, rfl, hpin⟩ := hclaims
    refine hafterSources.settled _ ?_
    exact (registerSources_pins ledger _ hsources hdistinct hvalid source hmem).trans hpin
  | output id identity =>
    obtain ⟨output, hmem, rfl, rfl⟩ := hclaims
    refine hafterOutputs.settled _ ?_
    refine registerEach_settled registerOutput_extends
      (fun output => some (.output output.id output.identity)) ?_ _ _ houtputs output hmem _ rfl
    intro ledger output hclean claim hclaim
    cases hclaim
    exact (registerOutput_settled ledger output hclean).1
  | channel id identity =>
    obtain ⟨output, hmem, channel, hchannel, rfl, rfl⟩ := hclaims
    refine hafterOutputs.settled _ ?_
    refine registerEach_settled registerOutput_extends
      (fun output => if channel ∈ output.device.channels then
        some (.channel channel.id ⟨output.id, channel.number, channel.readout⟩) else none)
      ?_ _ _ houtputs output hmem _ (by rw [if_pos hchannel])
    intro ledger output hclean claim hclaim
    split at hclaim
    · rename_i hchannel
      cases hclaim
      exact (registerOutput_settled ledger output hclean).2 channel hchannel
    · cases hclaim
  | group id =>
    obtain ⟨group, hmem, rfl⟩ := hclaims
    refine hafterGroups.settled _ ?_
    refine registerEach_settled hgroupStep (fun group => some (.group group.id)) ?_ _ _ hgroups
      group hmem _ rfl
    intro ledger group hclean claim hclaim
    cases hclaim
    exact (registerGroup_spec ledger group).2 hclean
  | cameraGroup id =>
    obtain ⟨group, hmem, rfl⟩ := hclaims
    refine registerEach_settled hcameraStep (fun group => some (.cameraGroup group.id)) ?_ _ _
      hcameras group hmem _ rfl
    intro ledger group hclean claim hclaim
    cases hclaim
    exact (registerCameraGroup_spec ledger group).2 hclean

end

end IdentityLedger

end Regain.Hub
