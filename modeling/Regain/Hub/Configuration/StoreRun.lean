import Regain.Hub.Configuration.Store

/-!
# Runs of the configuration store

Whatever is prepared and committed, in any order, the ledger of the current
configuration has on record everything that any configuration before it claimed.
-/

namespace Regain.Hub

open Lib
open Std (TreeMap)

variable {Details : Type} {dialect : Dialect Details}

namespace IdentityLedger

theorem getElem?_of_toList {α : Type} {a b : TreeMap Uuid α} (heq : a.toList = b.toList)
    (id : Uuid) : a[id]? = b[id]? := by
  ext value
  rw [← TreeMap.mem_toList_iff_getElem?_eq_some, ← TreeMap.mem_toList_iff_getElem?_eq_some, heq]

theorem contains_of_toList {α : Type} {a b : TreeMap Uuid α} (heq : a.toList = b.toList)
    (id : Uuid) : a.contains id = b.contains id := by
  rw [TreeMap.contains_eq_isSome_getElem?, TreeMap.contains_eq_isSome_getElem?,
    getElem?_of_toList heq]

theorem extends_of_beq {a b : IdentityLedger} (hbeq : (b == a) = true) : a.Extends b := by
  have hlists : (b.sources.toList == a.sources.toList &&
      b.alpacaPins.toList == a.alpacaPins.toList && b.outputs.toList == a.outputs.toList &&
      b.channels.toList == a.channels.toList && b.groups.toList == a.groups.toList &&
      b.cameraGroups.toList == a.cameraGroups.toList) = true := hbeq
  simp only [Bool.and_eq_true, beq_iff_eq] at hlists
  obtain ⟨⟨⟨⟨⟨hsources, hpins⟩, houtputs⟩, hchannels⟩, hgroups⟩, hcameras⟩ := hlists
  have hholds : ∀ role id, b.holds role id = a.holds role id := by
    intro role id
    cases role with
    | source => exact contains_of_toList hsources id
    | output => exact contains_of_toList houtputs id
    | channel => exact contains_of_toList hchannels id
    | group => exact contains_of_toList hgroups id
    | cameraGroup => exact contains_of_toList hcameras id
  have hsole : ∀ {role id}, a.Sole role id → b.Sole role id := by
    intro role id hsole
    refine ⟨(hholds role id).trans hsole.1, fun other hother => hsole.2 other ?_⟩
    rw [← hholds]
    exact hother
  refine ⟨fun id value h => (getElem?_of_toList hsources id).trans h,
    fun id value h => (getElem?_of_toList hpins id).trans h,
    fun id value h => (getElem?_of_toList houtputs id).trans h,
    fun id value h => (getElem?_of_toList hchannels id).trans h,
    fun id value h => (getElem?_of_toList hgroups id).trans h,
    fun id value h => (getElem?_of_toList hcameras id).trans h, fun use huse => ?_⟩
  cases use with
  | source id identity => exact ⟨(getElem?_of_toList hsources id).trans huse.1, hsole huse.2⟩
  | pin id pin => exact (getElem?_of_toList hpins id).trans huse
  | group id => exact hsole huse
  | cameraGroup id => exact hsole huse
  | output id identity =>
    refine ⟨(getElem?_of_toList houtputs id).trans huse.1, hsole huse.2.1, fun other hother => ?_⟩
    exact huse.2.2 other ((getElem?_of_toList houtputs other).symm.trans hother)
  | channel id identity =>
    refine ⟨(getElem?_of_toList hchannels id).trans huse.1, hsole huse.2.1, ?_⟩
    intro other old hother
    exact huse.2.2 other old ((getElem?_of_toList hchannels other).symm.trans hother)

end IdentityLedger

/-! ## What is on record -/

/-- Everything that a configuration claims is on record in its own ledger. -/
structure Recorded (dialect : Dialect Details) (config : HubConfig Details) : Prop where
  identity : ∀ source ∈ config.sources, ∃ identity, source.identity dialect = .ok identity
  pins : ∀ source ∈ config.sources,
    config.identities.alpacaPins[source.id]? = source.pin dialect
  settled : ∀ use, IdentityLedger.Claims dialect config use → config.identities.Settled use

theorem recorded_of_register {config : HubConfig Details} (hvalid : validate dialect config = [])
    (hclean : (config.identities.register dialect config).2 = []) (revision : Uuid) :
    Recorded dialect { config with
      identities := (config.identities.register dialect config).1, revision := revision } := by
  have hdistinct := validate_sources_nodup hvalid
  have hidentity := validate_identity hvalid
  refine ⟨hidentity, fun source hmem => ?_, fun use hclaims => ?_⟩
  · have hsources := hclean
    simp only [IdentityLedger.register, List.append_eq_nil_iff] at hsources
    dsimp only
    rw [IdentityLedger.register_alpacaPins]
    exact IdentityLedger.registerSources_pins _ _ hsources.1.1.1 hdistinct hidentity source hmem
  · refine IdentityLedger.register_settled _ config hclean hdistinct hidentity use ?_
    cases use <;> exact hclaims

/-- A later configuration keeps to everything that an earlier ledger has on record. -/
structure Consistent (dialect : Dialect Details) (old new : HubConfig Details) : Prop where
  grows : old.identities.Extends new.identities
  /-- A source ID keeps its device identity and its pin. -/
  source : ∀ source ∈ new.sources, ∀ identity,
    old.identities.sources[source.id]? = some identity → source.identity dialect = .ok identity
  pin : ∀ source ∈ new.sources, ∀ pin,
    old.identities.alpacaPins[source.id]? = some pin → source.pin dialect = some pin
  /-- An output ID keeps its number and type, and no other ID ever gets them. -/
  output : ∀ output ∈ new.outputs, ∀ identity,
    old.identities.outputs[output.id]? = some identity → output.identity = identity
  number : ∀ output ∈ new.outputs, ∀ (id : Uuid),
    old.identities.outputs[id]? = some output.identity → output.id = id
  /-- A channel ID keeps its output, number and readout, and no other ID ever gets its
  place. -/
  channel : ∀ output ∈ new.outputs, ∀ channel ∈ output.device.channels, ∀ identity,
    old.identities.channels[channel.id]? = some identity →
    identity = ⟨output.id, channel.number, channel.readout⟩
  slot : ∀ output ∈ new.outputs, ∀ channel ∈ output.device.channels, ∀ (id : Uuid) identity,
    old.identities.channels[id]? = some identity → identity.output = output.id →
    identity.number = channel.number → channel.id = id
  /-- An ID that was entered in one role is used in no other. -/
  role : ∀ use, IdentityLedger.Claims dialect new use → ∀ role, use.role? = some role →
    ∀ other, old.identities.holds other use.id = true → other = role
  slots : ∀ output, old.switchSlotCount output ≤ new.switchSlotCount output

section

variable {output : Uuid}

theorem mem_retired {channels : TreeMap Uuid ChannelIdentity} {number : Nat} :
    number ∈ (channels.toList.filter (·.2.output == output)).map (·.2.number) ↔
      ∃ (id : Uuid) (identity : ChannelIdentity), channels[id]? = some identity ∧
        identity.output = output ∧ identity.number = number := by
  constructor
  · intro hmem
    obtain ⟨⟨id, identity⟩, hentry, rfl⟩ := List.mem_map.mp hmem
    obtain ⟨hlist, houtput⟩ := List.mem_filter.mp hentry
    exact ⟨id, identity, TreeMap.mem_toList_iff_getElem?_eq_some.mp hlist,
      by simpa using houtput, rfl⟩
  · rintro ⟨id, identity, hlookup, houtput, rfl⟩
    refine List.mem_map.mpr ⟨(id, identity), List.mem_filter.mpr ⟨?_, by simpa using houtput⟩, rfl⟩
    exact TreeMap.mem_toList_iff_getElem?_eq_some.mpr hlookup

variable {config : HubConfig Details}

theorem Recorded.mem_slots (hrecorded : Recorded dialect config) {number : Nat} :
    number ∈ config.slots output ↔
      ∃ (id : Uuid) (identity : ChannelIdentity), config.identities.channels[id]? = some identity ∧
        identity.output = output ∧ identity.number = number := by
  unfold HubConfig.slots
  rw [List.mem_append, mem_retired]
  refine or_iff_right_of_imp fun hactive => ?_
  cases hitem : config.output? output with
  | none => rw [hitem] at hactive; cases hactive
  | some item =>
    rw [hitem] at hactive
    obtain ⟨channel, hchannel, rfl⟩ := List.mem_map.mp hactive
    have hmem : item ∈ config.outputs := List.mem_of_find?_eq_some hitem
    have hid : item.id = output := by simpa using List.find?_some hitem
    have hsettled := hrecorded.settled (.channel channel.id
      ⟨item.id, channel.number, channel.readout⟩) ⟨item, hmem, channel, hchannel, rfl, rfl⟩
    exact ⟨channel.id, _, hsettled.1, hid, rfl⟩

theorem switchSlotCount_of_none
    (hnone : (config.slots output).max? = none) : config.switchSlotCount output = 0 := by
  simp only [HubConfig.switchSlotCount, hnone]

theorem switchSlotCount_of_some {number : Nat} (hsome : (config.slots output).max? = some number) :
    config.switchSlotCount output = min (number + 1) (2 ^ 32 - 1) := by
  simp only [HubConfig.switchSlotCount, hsome]

theorem switchSlotCount_le {old new : HubConfig Details}
    (hsubset : ∀ number ∈ old.slots output, number ∈ new.slots output) :
    old.switchSlotCount output ≤ new.switchSlotCount output := by
  cases hold : (old.slots output).max? with
  | none =>
    rw [switchSlotCount_of_none hold]
    exact Nat.zero_le _
  | some number =>
    have hmem := hsubset number (List.max?_mem hold)
    cases hnew : (new.slots output).max? with
    | none =>
      rw [List.max?_eq_none_iff] at hnew
      rw [hnew] at hmem
      cases hmem
    | some bound =>
      have hle : number ≤ bound := (List.max?_eq_some_iff.mp hnew).2 number hmem
      have hnext : number + 1 ≤ bound + 1 := by omega
      rw [switchSlotCount_of_some hold, switchSlotCount_of_some hnew]
      exact min_le_min_right _ hnext

end

theorem consistent_of_extends {old new : HubConfig Details} (hold : Recorded dialect old)
    (hnew : Recorded dialect new) (hgrows : old.identities.Extends new.identities) :
    Consistent dialect old new where
  grows := hgrows
  source source hmem identity hlookup := by
    obtain ⟨identity', hidentity⟩ := hnew.identity source hmem
    have hsettled := hnew.settled (.source source.id identity') ⟨source, hmem, rfl, hidentity⟩
    have hkept := hgrows.sources source.id identity hlookup
    rw [hsettled.1] at hkept
    cases hkept
    exact hidentity
  pin source hmem pin hlookup :=
    (hnew.pins source hmem).symm.trans (hgrows.alpacaPins source.id pin hlookup)
  output output hmem identity hlookup := by
    have hsettled := hnew.settled (.output output.id output.identity) ⟨output, hmem, rfl, rfl⟩
    have hkept := hgrows.outputs output.id identity hlookup
    rw [hsettled.1] at hkept
    exact Option.some.inj hkept
  number output hmem id hlookup := by
    have hsettled := hnew.settled (.output output.id output.identity) ⟨output, hmem, rfl, rfl⟩
    exact (hsettled.2.2 id (hgrows.outputs id _ hlookup)).symm
  channel output hmem channel hchannel identity hlookup := by
    have hsettled := hnew.settled (.channel channel.id
      ⟨output.id, channel.number, channel.readout⟩) ⟨output, hmem, channel, hchannel, rfl, rfl⟩
    have hkept := hgrows.channels channel.id identity hlookup
    rw [hsettled.1] at hkept
    exact (Option.some.inj hkept).symm
  slot output hmem channel hchannel id identity hlookup houtput hnumber := by
    have hsettled := hnew.settled (.channel channel.id
      ⟨output.id, channel.number, channel.readout⟩) ⟨output, hmem, channel, hchannel, rfl, rfl⟩
    exact (hsettled.2.2 id identity (hgrows.channels id identity hlookup) houtput hnumber).symm
  role use hclaims role hrole other hholds := by
    have hsole : new.identities.Sole role use.id := by
      have hsettled := hnew.settled use hclaims
      cases use with
      | pin id pin => cases hrole
      | source id identity => cases hrole; exact hsettled.2
      | output id identity => cases hrole; exact hsettled.2.1
      | channel id identity => cases hrole; exact hsettled.2.1
      | group id => cases hrole; exact hsettled
      | cameraGroup id => cases hrole; exact hsettled
    exact hsole.2 other (hgrows.holds other use.id hholds)
  slots output := by
    refine switchSlotCount_le fun number hnumber => ?_
    obtain ⟨id, identity, hlookup, hrest⟩ := hold.mem_slots.mp hnumber
    exact hnew.mem_slots.mpr ⟨id, identity, hgrows.channels id identity hlookup, hrest⟩

namespace ConfigStore

/-! ## Commits -/

variable {store : ConfigStore Details}

theorem new_recorded {identity : Uuid} {path : Bool} {initial : HubConfig Details}
    (hnew : ConfigStore.new dialect identity path initial = .ok store) :
    Recorded dialect store.current := by
  unfold ConfigStore.new at hnew
  dsimp only at hnew
  split at hnew
  · rename_i hclean
    cases hnew
    rw [List.append_eq_nil_iff] at hclean
    exact recorded_of_register hclean.1 hclean.2 initial.revision
  · cases hnew

theorem prepare_ok {expected fresh : Uuid} {next : HubConfig Details}
    {connected : Bool} {staging : Staging} {prepared : PreparedConfig Details}
    (hprepare : store.prepare dialect expected next connected fresh staging = .ok prepared) :
    prepared.store = store.identity ∧ prepared.expected = store.current.revision ∧
      prepared.next.revision = fresh ∧ Recorded dialect prepared.next ∧
      store.current.identities.Extends prepared.next.identities := by
  unfold prepare at hprepare
  dsimp only at hprepare
  split at hprepare
  · cases hprepare
  · rename_i hvalid
    split at hprepare
    · cases hprepare
    · rename_i hrevision
      split at hprepare
      · cases hprepare
      · split at hprepare
        · cases hprepare
        · rename_i hclean
          simp only [ne_eq, not_not] at hvalid hclean
          simp only [not_or, ne_eq, not_not] at hrevision
          simp only [List.append_eq_nil_iff, reportIf_eq_nil, Bool.not_eq_false'] at hclean
          obtain ⟨⟨-, hsame⟩, hregister⟩ := hclean
          have hgrows := (IdentityLedger.extends_of_beq hsame).trans
            (@IdentityLedger.register_extends Details dialect next.identities next)
          have hrecorded := recorded_of_register hvalid hregister fresh
          split at hprepare
          · cases staging with
            | written =>
              cases hprepare
              exact ⟨rfl, hrevision.1.symm, rfl, hrecorded, hgrows⟩
            | failed error => cases hprepare
            | tooLarge => cases hprepare
          · cases hprepare
            exact ⟨rfl, hrevision.1.symm, rfl, hrecorded, hgrows⟩

def replaces : Except (ApplyError Details) (HubConfig Details) → Bool
  | .ok _ => true
  | .error (.committed _ _) => true
  | .error _ => false

theorem commit_cases (store : ConfigStore Details) (prepared : PreparedConfig Details)
    (persist : Persist) :
    (replaces (store.commit prepared persist).1 = true ∧
      store.current.revision = prepared.expected ∧
      (store.commit prepared persist).2 = { store with current := prepared.next }) ∨
    (replaces (store.commit prepared persist).1 = false ∧
      (store.commit prepared persist).2 = store) := by
  unfold commit
  split
  · exact .inr ⟨rfl, rfl⟩
  · rename_i hmatch
    simp only [not_or, ne_eq, not_not] at hmatch
    dsimp only
    split
    · cases persist with
      | durable => exact .inl ⟨rfl, hmatch.2, rfl⟩
      | failed error => exact .inr ⟨rfl, rfl⟩
      | unflushed error => exact .inl ⟨rfl, hmatch.2, rfl⟩
    · exact .inl ⟨rfl, hmatch.2, rfl⟩

theorem commit_conflict {prepared : PreparedConfig Details}
    (persist : Persist) (hstale : store.current.revision ≠ prepared.expected) :
    (store.commit prepared persist).1 = .error .conflict := by
  unfold commit
  rw [if_pos (.inr hstale)]

end ConfigStore

namespace Editing

/-! ## The invariant -/

structure Inv (dialect : Dialect Details) (editing : Editing Details) : Prop where
  recorded : Recorded dialect editing.store.current
  prepared : ∀ update ∈ editing.prepared, Recorded dialect update.next ∧
    (update.expected = editing.store.current.revision →
      editing.store.current.identities.Extends update.next.identities)
  /-- No two of the revisions that are or may become current are equal. -/
  revisions : (editing.prepared.map (·.next.revision)).Nodup
  ahead : ∀ update ∈ editing.prepared, update.next.revision ≠ editing.store.current.revision ∧
    ∀ other ∈ editing.prepared, update.next.revision ≠ other.expected
  drawn : editing.store.current.revision ∈ editing.drawn ∧ ∀ update ∈ editing.prepared,
    update.expected ∈ editing.drawn ∧ update.next.revision ∈ editing.drawn

theorem start_inv {store : ConfigStore Details} (hstore : Recorded dialect store.current) :
    Inv dialect (start store) where
  recorded := hstore
  prepared _ h := by cases h
  revisions := List.nodup_nil
  ahead _ h := by cases h
  drawn := ⟨List.mem_singleton_self _, fun _ h => by cases h⟩

variable {editing : Editing Details}

variable {update : PreparedConfig Details}

theorem inv_prepare (hinv : Inv dialect editing) {fresh : Uuid}
    (hfresh : fresh ∉ editing.drawn)
    (hexpected : update.expected = editing.store.current.revision)
    (hrevision : update.next.revision = fresh) (hrecorded : Recorded dialect update.next)
    (hgrows : editing.store.current.identities.Extends update.next.identities) :
    Inv dialect { editing with
      prepared := editing.prepared ++ [update], drawn := fresh :: editing.drawn } where
  recorded := hinv.recorded
  prepared other hmem := by
    cases List.mem_append.mp hmem with
    | inl hold => exact hinv.prepared other hold
    | inr hnew =>
      rw [List.mem_singleton] at hnew
      subst hnew
      exact ⟨hrecorded, fun _ => hgrows⟩
  revisions := by
    rw [List.map_append, List.nodup_append]
    refine ⟨hinv.revisions, by simp, fun revision hold other hnew heq => ?_⟩
    simp only [List.map_cons, List.map_nil, List.mem_singleton] at hnew
    obtain ⟨known, hknown, rfl⟩ := List.mem_map.mp hold
    have hdrawn := (hinv.drawn.2 known hknown).2
    rw [heq, hnew, hrevision] at hdrawn
    exact hfresh hdrawn
  ahead other hmem := by
    cases List.mem_append.mp hmem with
    | inl hold =>
      refine ⟨(hinv.ahead other hold).1, fun third hthird => ?_⟩
      cases List.mem_append.mp hthird with
      | inl hknown => exact (hinv.ahead other hold).2 third hknown
      | inr hnew =>
        rw [List.mem_singleton] at hnew
        subst hnew
        rw [hexpected]
        exact (hinv.ahead other hold).1
    | inr hnew =>
      rw [List.mem_singleton] at hnew
      subst hnew
      rw [hrevision]
      refine ⟨fun heq => hfresh (heq ▸ hinv.drawn.1), fun third hthird heq => ?_⟩
      cases List.mem_append.mp hthird with
      | inl hknown => exact hfresh (heq ▸ (hinv.drawn.2 third hknown).1)
      | inr hsame =>
        rw [List.mem_singleton] at hsame
        subst hsame
        rw [hexpected] at heq
        exact hfresh (heq ▸ hinv.drawn.1)
  drawn := by
    refine ⟨List.mem_cons_of_mem _ hinv.drawn.1, fun other hmem => ?_⟩
    cases List.mem_append.mp hmem with
    | inl hold =>
      exact ⟨List.mem_cons_of_mem _ (hinv.drawn.2 other hold).1,
        List.mem_cons_of_mem _ (hinv.drawn.2 other hold).2⟩
    | inr hnew =>
      rw [List.mem_singleton] at hnew
      subst hnew
      rw [hexpected, hrevision]
      exact ⟨List.mem_cons_of_mem _ hinv.drawn.1, List.mem_cons_self⟩

theorem inv_drop (hinv : Inv dialect editing) (index : Nat) :
    Inv dialect { editing with prepared := editing.prepared.eraseIdx index } where
  recorded := hinv.recorded
  prepared update hmem := hinv.prepared update (List.mem_of_mem_eraseIdx hmem)
  revisions := hinv.revisions.sublist ((List.eraseIdx_sublist _ _).map _)
  ahead update hmem := ⟨(hinv.ahead update (List.mem_of_mem_eraseIdx hmem)).1,
    fun other hother => (hinv.ahead update (List.mem_of_mem_eraseIdx hmem)).2 other
      (List.mem_of_mem_eraseIdx hother)⟩
  drawn := ⟨hinv.drawn.1, fun update hmem => hinv.drawn.2 update (List.mem_of_mem_eraseIdx hmem)⟩

theorem revision_ne_of_eraseIdx {updates : List (PreparedConfig Details)}
    (hnodup : (updates.map (·.next.revision)).Nodup) {index : Nat}
    (hindex : updates[index]? = some update) :
    ∀ other ∈ updates.eraseIdx index, other.next.revision ≠ update.next.revision := by
  intro other hmem heq
  obtain ⟨hlt, hget⟩ := List.getElem?_eq_some_iff.mp hindex
  rw [List.mem_eraseIdx_iff_getElem?] at hmem
  obtain ⟨position, hne, hother⟩ := hmem
  obtain ⟨hlt', hget'⟩ := List.getElem?_eq_some_iff.mp hother
  have hlt₁ : position < (updates.map (·.next.revision)).length := by simpa using hlt'
  have hlt₂ : index < (updates.map (·.next.revision)).length := by simpa using hlt
  have hsame : (updates.map (·.next.revision))[position] =
      (updates.map (·.next.revision))[index] := by
    simp [hget, hget', heq]
  exact hne ((List.Nodup.getElem_inj_iff hnodup).mp hsame)

theorem inv_replace (hinv : Inv dialect editing) {index : Nat}
    (hindex : editing.prepared[index]? = some update) :
    Inv dialect { editing with
      store := { editing.store with current := update.next }
      prepared := editing.prepared.eraseIdx index } where
  recorded := (hinv.prepared update (List.mem_of_getElem? hindex)).1
  prepared other hmem := by
    have hother := List.mem_of_mem_eraseIdx hmem
    refine ⟨(hinv.prepared other hother).1, fun hexpected => ?_⟩
    have hne := (hinv.ahead update (List.mem_of_getElem? hindex)).2 other hother
    exact absurd hexpected.symm hne
  revisions := hinv.revisions.sublist ((List.eraseIdx_sublist _ _).map _)
  ahead other hmem := ⟨revision_ne_of_eraseIdx hinv.revisions hindex other hmem,
    fun third hthird => (hinv.ahead other (List.mem_of_mem_eraseIdx hmem)).2 third
      (List.mem_of_mem_eraseIdx hthird)⟩
  drawn := ⟨(hinv.drawn.2 update (List.mem_of_getElem? hindex)).2,
    fun other hmem => hinv.drawn.2 other (List.mem_of_mem_eraseIdx hmem)⟩

theorem step_inv (hinv : Inv dialect editing) (edit : Edit Details) :
    Inv dialect (editing.step dialect edit).2 := by
  cases edit with
  | prepare expected next connected fresh staging =>
    simp only [step]
    by_cases hdrawn : fresh ∈ editing.drawn
    · rw [if_pos hdrawn]
      exact hinv
    · rw [if_neg hdrawn]
      cases hprepare : editing.store.prepare dialect expected next connected fresh staging with
      | error error =>
        exact ⟨hinv.recorded, hinv.prepared, hinv.revisions, hinv.ahead,
          ⟨List.mem_cons_of_mem _ hinv.drawn.1, fun update hmem =>
            ⟨List.mem_cons_of_mem _ (hinv.drawn.2 update hmem).1,
              List.mem_cons_of_mem _ (hinv.drawn.2 update hmem).2⟩⟩⟩
      | ok update =>
        obtain ⟨-, hexpected, hrevision, hrecorded, hgrows⟩ :=
          ConfigStore.prepare_ok hprepare
        exact inv_prepare hinv hdrawn hexpected hrevision hrecorded hgrows
  | commit index persist =>
    simp only [step]
    cases hindex : editing.prepared[index]? with
    | none => exact hinv
    | some update =>
      dsimp only
      cases ConfigStore.commit_cases editing.store update persist with
      | inl hreplaced =>
        rw [hreplaced.2.2]
        exact inv_replace hinv hindex
      | inr hkept =>
        rw [hkept.2]
        exact inv_drop hinv index

theorem inductive_inv {store : ConfigStore Details} (hstore : Recorded dialect store.current) :
    (machine dialect).Inductive (start store) (Inv dialect) where
  init := start_inv hstore
  step edit hinv := step_inv hinv edit

theorem step_current (hinv : Inv dialect editing)
    (edit : Edit Details) : editing.store.current.identities.Extends
      (editing.step dialect edit).2.store.current.identities := by
  cases edit with
  | prepare expected next connected fresh staging =>
    simp only [step]
    split
    · exact IdentityLedger.Extends.refl _
    · cases editing.store.prepare dialect expected next connected fresh staging with
      | error error => exact IdentityLedger.Extends.refl _
      | ok update => exact IdentityLedger.Extends.refl _
  | commit index persist =>
    simp only [step]
    cases hindex : editing.prepared[index]? with
    | none => exact IdentityLedger.Extends.refl _
    | some update =>
      dsimp only
      cases ConfigStore.commit_cases editing.store update persist with
      | inr hkept =>
        rw [hkept.2]
        exact IdentityLedger.Extends.refl _
      | inl hreplaced =>
        rw [hreplaced.2.2]
        exact (hinv.prepared update (List.mem_of_getElem? hindex)).2 hreplaced.2.1.symm

theorem extends_lasting (ledger : IdentityLedger) : (machine dialect).Lasting (Inv dialect)
      fun editing => ledger.Extends editing.store.current.identities :=
  fun _ edit hinv hextends => hextends.trans (step_current hinv edit)

/-- A revision that has been replaced: it is not current and never will be. -/
def Replaced (revision : Uuid) (editing : Editing Details) : Prop :=
  revision ∈ editing.drawn ∧ editing.store.current.revision ≠ revision ∧
    ∀ update ∈ editing.prepared, update.next.revision ≠ revision

theorem replaced_lasting (revision : Uuid) :
    (machine dialect).Lasting (Inv dialect) (Replaced revision) := by
  intro editing edit hinv hreplaced
  change Replaced revision (editing.step dialect edit).2
  cases edit with
  | prepare expected next connected fresh staging =>
    simp only [step]
    by_cases hdrawn : fresh ∈ editing.drawn
    · rw [if_pos hdrawn]
      exact hreplaced
    · rw [if_neg hdrawn]
      cases hprepare : editing.store.prepare dialect expected next connected fresh staging with
      | error error =>
        exact ⟨List.mem_cons_of_mem _ hreplaced.1, hreplaced.2.1, hreplaced.2.2⟩
      | ok update =>
        refine ⟨List.mem_cons_of_mem _ hreplaced.1, hreplaced.2.1, fun other hmem => ?_⟩
        cases List.mem_append.mp hmem with
        | inl hold => exact hreplaced.2.2 other hold
        | inr hnew =>
          rw [List.mem_singleton] at hnew
          subst hnew
          rw [(ConfigStore.prepare_ok hprepare).2.2.1]
          exact fun heq => hdrawn (heq ▸ hreplaced.1)
  | commit index persist =>
    simp only [step]
    cases hindex : editing.prepared[index]? with
    | none => exact hreplaced
    | some update =>
      have hrest : ∀ other ∈ editing.prepared.eraseIdx index, other.next.revision ≠ revision :=
        fun other hmem => hreplaced.2.2 other (List.mem_of_mem_eraseIdx hmem)
      dsimp only
      cases ConfigStore.commit_cases editing.store update persist with
      | inr hkept =>
        rw [hkept.2]
        exact ⟨hreplaced.1, hreplaced.2.1, hrest⟩
      | inl hcommitted =>
        rw [hcommitted.2.2]
        exact ⟨hreplaced.1, hreplaced.2.2 update (List.mem_of_getElem? hindex), hrest⟩

def update? (editing : Editing Details) : Edit Details → Option (PreparedConfig Details)
  | .prepare _ _ _ _ _ => none
  | .commit index _ => editing.prepared[index]?

end Editing

/-! ## Conflicts -/

def Edited.replaces : Edited Details → Bool
  | .prepared _ => false
  | .committed result => ConfigStore.replaces result
  | .impossible => false

def Edited.isConflict : Edited Details → Bool
  | .committed (.error .conflict) => true
  | _ => false

def Edited.isIo : Edited Details → Bool
  | .committed (.error (.io _)) => true
  | _ => false

def against (t : Transition (Editing Details) (Edit Details) (Edited Details)) : Option Uuid :=
  (t.before.update? t.op).map (·.expected)

namespace Editing

variable {editing : Editing Details}

theorem replaced_of_commit (hinv : Inv dialect editing) (edit : Edit Details) {revision : Uuid}
    (hagainst : against ((machine dialect).perform editing edit) = some revision)
    (hreplaces : ((machine dialect).perform editing edit).result.replaces = true) :
    Replaced revision ((machine dialect).next editing edit) := by
  cases edit with
  | prepare expected next connected fresh staging => cases hagainst
  | commit index persist =>
    change (editing.prepared[index]?).map (·.expected) = some revision at hagainst
    obtain ⟨update, hindex, rfl⟩ := Option.map_eq_some_iff.mp hagainst
    change ((editing.step dialect (.commit index persist)).1.replaces = true) at hreplaces
    change Replaced update.expected (editing.step dialect (.commit index persist)).2
    simp only [step, hindex, Edited.replaces] at hreplaces ⊢
    have hmem := List.mem_of_getElem? hindex
    cases ConfigStore.commit_cases editing.store update persist with
    | inr hkept => rw [hkept.1] at hreplaces; cases hreplaces
    | inl hcommitted =>
      rw [hcommitted.2.2]
      refine ⟨(hinv.drawn.2 update hmem).1, (hinv.ahead update hmem).2 update hmem,
        fun other hother => ?_⟩
      exact (hinv.ahead other (List.mem_of_mem_eraseIdx hother)).2 update hmem

theorem conflict_of_replaced (edit : Edit Details) {revision : Uuid}
    (hreplaced : Replaced revision editing)
    (hagainst : against ((machine dialect).perform editing edit) = some revision) :
    ((machine dialect).perform editing edit).result.isConflict = true := by
  cases edit with
  | prepare expected next connected fresh staging => cases hagainst
  | commit index persist =>
    change (editing.prepared[index]?).map (·.expected) = some revision at hagainst
    obtain ⟨update, hindex, rfl⟩ := Option.map_eq_some_iff.mp hagainst
    change ((editing.step dialect (.commit index persist)).1.isConflict = true)
    simp only [step, hindex]
    rw [ConfigStore.commit_conflict persist hreplaced.2.1]
    rfl

theorem commit_outcome (edit : Edit Details) {revision : Uuid}
    (hagainst : against ((machine dialect).perform editing edit) = some revision) :
    ((machine dialect).perform editing edit).result.replaces = true ∨
      ((machine dialect).perform editing edit).result.isConflict = true ∨
      ((machine dialect).perform editing edit).result.isIo = true := by
  cases edit with
  | prepare expected next connected fresh staging => cases hagainst
  | commit index persist =>
    change (editing.prepared[index]?).map (·.expected) = some revision at hagainst
    obtain ⟨update, hindex, rfl⟩ := Option.map_eq_some_iff.mp hagainst
    change (editing.step dialect (.commit index persist)).1.replaces = true ∨
      (editing.step dialect (.commit index persist)).1.isConflict = true ∨
      (editing.step dialect (.commit index persist)).1.isIo = true
    simp only [step, hindex]
    unfold ConfigStore.commit
    split
    · exact .inr (.inl rfl)
    · dsimp only
      split
      · cases persist with
        | durable => exact .inl rfl
        | failed error => exact .inr (.inr rfl)
        | unflushed error => exact .inl rfl
      · exact .inl rfl

theorem step_replaces (editing : Editing Details) (edit : Edit Details) :
    ((editing.step dialect edit).1.replaces = true ∧ ∃ update, editing.update? edit = some update ∧
      (editing.step dialect edit).2.store.current = update.next) ∨
    ((editing.step dialect edit).1.replaces = false ∧
      (editing.step dialect edit).2.store = editing.store) := by
  cases edit with
  | prepare expected next connected fresh staging =>
    refine .inr ?_
    simp only [step]
    split
    · exact ⟨rfl, rfl⟩
    · cases editing.store.prepare dialect expected next connected fresh staging with
      | error error => exact ⟨rfl, rfl⟩
      | ok update => exact ⟨rfl, rfl⟩
  | commit index persist =>
    simp only [step, update?]
    cases hindex : editing.prepared[index]? with
    | none => exact .inr ⟨rfl, rfl⟩
    | some update =>
      dsimp only [Edited.replaces]
      cases ConfigStore.commit_cases editing.store update persist with
      | inl hreplaced =>
        refine .inl ⟨hreplaced.1, update, rfl, ?_⟩
        rw [hreplaced.2.2]
      | inr hkept => exact .inr hkept

end Editing

/-- Of the updates prepared against one revision at most one is committed; an attempt
after it finds a conflict, an attempt before it did too or failed to replace the file. -/
def OneCommits (run : List (Transition (Editing Details) (Edit Details) (Edited Details))) :
    Prop :=
  ∀ revision, run.Pairwise fun earlier later =>
    against earlier = some revision → against later = some revision →
      (earlier.result.replaces = true → later.result.isConflict = true) ∧
      (later.result.replaces = true → earlier.result.isConflict = true ∨ earlier.result.isIo = true)

/-- What every run from an accepted configuration keeps. -/
structure PersistentIdentities (dialect : Dialect Details) (store : ConfigStore Details)
    (edits : List (Edit Details)) : Prop where
  oneCommits : OneCommits ((Editing.machine dialect).run (Editing.start store) edits)
  unchanged : ∀ t ∈ (Editing.machine dialect).run (Editing.start store) edits,
    t.result.replaces = false → t.after.store = t.before.store
  replaced : ∀ t ∈ (Editing.machine dialect).run (Editing.start store) edits,
    t.result.replaces = true → ∃ update, t.before.update? t.op = some update ∧
      t.after.store.current = update.next
  recorded : Recorded dialect
    ((Editing.machine dialect).final (Editing.start store) edits).store.current
  /-- Between any moment of the run and its end. -/
  consistent : ∀ before after, edits = before ++ after → Consistent dialect
    ((Editing.machine dialect).final (Editing.start store) before).store.current
    ((Editing.machine dialect).final (Editing.start store) edits).store.current

/-- The identities of an accepted configuration survive every run of edits. -/
theorem persistentIdentities {identity : Uuid} {path : Bool} {initial : HubConfig Details}
    {store : ConfigStore Details}
    (haccepted : ConfigStore.new dialect identity path initial = .ok store)
    (edits : List (Edit Details)) : PersistentIdentities dialect store edits := by
  have hinv := Editing.inductive_inv (ConfigStore.new_recorded haccepted)
  refine ⟨fun revision => ?_, fun t hmem hreplaces => ?_, fun t hmem hreplaces => ?_,
    (hinv.final edits).recorded, fun before after hedits => ?_⟩
  · have hlater := (@Editing.replaced_lasting Details dialect revision).pairwise
      (fun t => against t = some revision ∧ t.result.replaces = true)
      (fun t => against t = some revision ∧ ¬t.result.isConflict = true) hinv
      (fun state edit hinv hcommits => Editing.replaced_of_commit hinv edit hcommits.1 hcommits.2)
      (fun state edit _ hreplaced hexcluded => hexcluded.2
        (Editing.conflict_of_replaced edit hreplaced hexcluded.1)) edits
    refine hlater.imp_of_mem ?_
    intro earlier later hearlier hmemLater himp hagainst hagainst'
    have hconflict : earlier.result.replaces = true → later.result.isConflict = true :=
      fun hreplaces => by_contra fun hnot => himp ⟨hagainst, hreplaces⟩ ⟨hagainst', hnot⟩
    refine ⟨hconflict, fun hreplaces => ?_⟩
    have hstep := (hinv.mem_run hearlier).2.2
    rw [hstep] at hagainst hconflict ⊢
    cases Editing.commit_outcome earlier.op hagainst with
    | inr hfailed => exact hfailed
    | inl hearly =>
      have hcontra := hconflict hearly
      unfold Edited.isConflict at hcontra
      unfold Edited.replaces ConfigStore.replaces at hreplaces
      split at hcontra
      · rename_i heq
        rw [heq] at hreplaces
        cases hreplaces
      · cases hcontra
  · have hstep := (hinv.mem_run hmem).2.2
    rw [hstep] at hreplaces ⊢
    cases @Editing.step_replaces Details dialect t.before t.op with
    | inl hreplaced => exact absurd (hreplaced.1.symm.trans hreplaces) (by decide)
    | inr hkept => exact hkept.2
  · have hstep := (hinv.mem_run hmem).2.2
    rw [hstep] at hreplaces ⊢
    cases @Editing.step_replaces Details dialect t.before t.op with
    | inl hreplaced => exact hreplaced.2
    | inr hkept => exact absurd (hkept.1.symm.trans hreplaces) (by decide)
  · have hmiddle := hinv.final before
    have hfrom : (Editing.machine dialect).Inductive
        ((Editing.machine dialect).final (Editing.start store) before) (fun editing =>
          Editing.Inv dialect editing ∧
          ((Editing.machine dialect).final (Editing.start store) before).store.current.identities.Extends
            editing.store.current.identities) :=
      ⟨⟨hmiddle, IdentityLedger.Extends.refl _⟩, fun edit hstate =>
        ⟨hinv.step edit hstate.1, Editing.extends_lasting _ _ edit hstate.1 hstate.2⟩⟩
    have hend : (Editing.machine dialect).final (Editing.start store) edits =
        (Editing.machine dialect).final
          ((Editing.machine dialect).final (Editing.start store) before) after := by
      rw [hedits]
      exact List.foldl_append
    rw [hend]
    have hlast := hfrom.final after
    exact consistent_of_extends hmiddle.recorded hlast.1.recorded hlast.2

def EveryOtherConflicts
    (run : List (Transition (Editing Details) (Edit Details) (Edited Details))) : Prop :=
  ∀ revision, ∀ committed ∈ run, against committed = some revision →
    committed.result.replaces = true → ∀ other ∈ run, against other = some revision →
    other.result.replaces = false → other.result.isConflict = true

def plainDialect : Dialect Unit where
  normalizedAlpacaUrl url _ := .ok url
  normalizeAlpacaId id := id
  progId _ _ _ := none
  fieldErrors _ := []

def emptyConfig : HubConfig Unit where
  schemaVersion := 1
  revision := 1
  instanceId := 2
  sources := []
  outputs := []
  focuserGroups := []
  cameraGroups := []
  identities := {}
  details := ()

def emptyStore : ConfigStore Unit where
  identity := 9
  path := true
  current := emptyConfig

/-- Two updates of one revision; the file cannot be replaced for the first one. -/
def twoEdits : List (Edit Unit) :=
  [.prepare 1 emptyConfig false 3 .written, .prepare 1 emptyConfig false 4 .written,
    .commit 0 (.failed "disk full"), .commit 0 .durable]

def twoRun : List (Transition (Editing Unit) (Edit Unit) (Edited Unit)) :=
  (Editing.machine plainDialect).run (Editing.start emptyStore) twoEdits

theorem new_emptyStore : ConfigStore.new plainDialect 9 true emptyConfig = .ok emptyStore := by
  rfl

theorem persistentIdentities_twoEdits : PersistentIdentities plainDialect emptyStore twoEdits :=
  persistentIdentities new_emptyStore twoEdits

/-- The persist of an update fails, and another update of its revision commits. -/
theorem failed_commit_no_conflict : ¬EveryOtherConflicts twoRun := by
  intro hall
  have hlength : twoRun.length = 4 := by rfl
  have hconflict := hall 1 (twoRun[3]) (List.getElem_mem _) (by rfl) (by rfl)
    (twoRun[2]) (List.getElem_mem _) (by rfl) (by rfl)
  cases hconflict

end Regain.Hub
