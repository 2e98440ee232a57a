import Regain.Hub.Configuration.Validate

/-!
# What an empty validation says about identities

A configuration without errors uses every ID once, and every source has a device
identity.
-/

namespace Regain.Hub

theorem reportIf_eq_nil {condition : Bool} {path code message : String} :
    reportIf condition path code message = [] ↔ condition = false := by
  cases condition <;> simp [reportIf]

theorem Seen.claim_eq_false {seen : Seen} {id : Uuid} (hclaim : (seen.claim id).1 = false) :
    id ∉ seen.ids ∧ id.isNil = false ∧
      (seen.claim id).2 = { seen with ids := id :: seen.ids } := by
  unfold Seen.claim at hclaim ⊢
  by_cases hnil : id.isNil = true
  · rw [if_pos hnil] at hclaim
    cases hclaim
  · rw [if_neg hnil] at hclaim ⊢
    by_cases hmem : id ∈ seen.ids
    · rw [if_pos hmem] at hclaim
      cases hclaim
    · rw [if_neg hmem]
      exact ⟨hmem, by simpa using hnil, rfl⟩

/-- IDs claimed one after the other: they are new, different and not nil. -/
structure Claimed (ids : List Uuid) (seen seen' : Seen) : Prop where
  nodup : ids.Nodup
  fresh : ∀ id ∈ ids, id ∉ seen.ids
  nonNil : ∀ id ∈ ids, id.isNil = false
  mem : ∀ id, id ∈ seen'.ids ↔ id ∈ ids ∨ id ∈ seen.ids

namespace Claimed

theorem nil {seen seen' : Seen} (hids : seen'.ids = seen.ids) : Claimed [] seen seen' where
  nodup := List.nodup_nil
  fresh _ h := by cases h
  nonNil _ h := by cases h
  mem id := by simp [hids]

theorem append {ids ids' : List Uuid} {a b c : Seen} (hab : Claimed ids a b)
    (hbc : Claimed ids' b c) : Claimed (ids ++ ids') a c where
  nodup := by
    refine List.nodup_append.mpr ⟨hab.nodup, hbc.nodup, fun id hid id' hid' heq => ?_⟩
    subst heq
    exact hbc.fresh id hid' ((hab.mem id).mpr (.inl hid))
  fresh id hid hseen := by
    cases List.mem_append.mp hid with
    | inl hleft => exact hab.fresh id hleft hseen
    | inr hright => exact hbc.fresh id hright ((hab.mem id).mpr (.inr hseen))
  nonNil id hid := by
    cases List.mem_append.mp hid with
    | inl hleft => exact hab.nonNil id hleft
    | inr hright => exact hbc.nonNil id hright
  mem id := by
    rw [hbc.mem, hab.mem, List.mem_append]
    constructor
    · rintro (h | h | h)
      · exact .inl (.inr h)
      · exact .inl (.inl h)
      · exact .inr h
    · rintro ((h | h) | h)
      · exact .inr (.inl h)
      · exact .inl h
      · exact .inr (.inr h)

theorem single {id : Uuid} {seen seen' : Seen} (hclaim : (seen.claim id).1 = false)
    (hids : seen'.ids = (seen.claim id).2.ids) : Claimed [id] seen seen' where
  nodup := by simp
  fresh id' hid' := by
    rw [List.mem_singleton] at hid'
    subst hid'
    exact (Seen.claim_eq_false hclaim).1
  nonNil id' hid' := by
    rw [List.mem_singleton] at hid'
    subst hid'
    exact (Seen.claim_eq_false hclaim).2.1
  mem id' := by
    rw [hids, (Seen.claim_eq_false hclaim).2.2]
    simp

end Claimed

theorem checkEach_claimed {α : Type} {check : Nat → Seen → α → List FieldError × Seen}
    {ids : α → List Uuid} (hcheck : ∀ index seen item, (check index seen item).1 = [] →
      Claimed (ids item) seen (check index seen item).2)
    (index : Nat) (seen : Seen) (items : List α) (hclean : (checkEach check index seen items).1 = []) :
    Claimed (items.flatMap ids) seen (checkEach check index seen items).2 := by
  induction items generalizing index seen with
  | nil => exact Claimed.nil rfl
  | cons item items ih =>
    simp only [checkEach, List.append_eq_nil_iff] at hclean
    rw [List.flatMap_cons]
    exact (hcheck index seen item hclean.1).append (ih _ _ hclean.2)

theorem checkEach_mem {α : Type} {check : Nat → Seen → α → List FieldError × Seen}
    (index : Nat) (seen : Seen) (items : List α) (hclean : (checkEach check index seen items).1 = []) :
    ∀ item ∈ items, ∃ index' seen', (check index' seen' item).1 = [] := by
  induction items generalizing index seen with
  | nil => intro item hmem; cases hmem
  | cons first items ih =>
    simp only [checkEach, List.append_eq_nil_iff] at hclean
    intro item hmem
    cases hmem with
    | head => exact ⟨index, seen, hclean.1⟩
    | tail _ hmem => exact ih _ _ hclean.2 item hmem

section

variable {Details : Type} {dialect : Dialect Details} {config : HubConfig Details}

theorem checkBackend_ids (path : String) (seen : Seen) (source : SourceConfig) :
    (checkBackend dialect config path seen source).2.1.ids = seen.ids := by
  unfold checkBackend
  cases source.backend with
  | alpaca baseUrl scopeId deviceType deviceNumber uniqueId credentialReference =>
    dsimp only
    cases dialect.normalizedAlpacaUrl baseUrl scopeId with
    | error why => rfl
    | ok url =>
      cases uniqueId with
      | none => rfl
      | some id =>
        dsimp only
        split <;> rfl
  | native device identity => rfl
  | com progId deviceType => rfl
  | virtual output => rfl
  | simulated deviceType => rfl

theorem checkSource_claimed (index : Nat) (seen : Seen) (source : SourceConfig)
    (hclean : (checkSource dialect config index seen source).1 = []) :
    Claimed [source.id] seen (checkSource dialect config index seen source).2 := by
  unfold checkSource at hclean ⊢
  dsimp only at hclean ⊢
  have hids := @checkBackend_ids Details dialect config ("sources[" ++ toString index ++ "]")
    (seen.claim source.id).2 source
  cases hkey : (checkBackend dialect config ("sources[" ++ toString index ++ "]")
      (seen.claim source.id).2 source).2.2 with
  | none =>
    rw [hkey] at hclean
    dsimp only at hclean ⊢
    rw [List.append_eq_nil_iff, reportIf_eq_nil] at hclean
    exact Claimed.single hclean.1 hids
  | some key =>
    rw [hkey] at hclean
    dsimp only at hclean ⊢
    split at hclean
    · simp at hclean
    · rename_i hnew
      rw [if_neg hnew]
      rw [List.append_eq_nil_iff, reportIf_eq_nil] at hclean
      exact Claimed.single hclean.1 hids

theorem checkSource_identity (index : Nat) (seen : Seen) (source : SourceConfig)
    (hclean : (checkSource dialect config index seen source).1 = []) :
    ∃ identity, source.identity dialect = .ok identity := by
  unfold SourceConfig.identity
  cases hbackend : source.backend with
  | native device identity => exact ⟨_, rfl⟩
  | com progId deviceType => exact ⟨_, rfl⟩
  | virtual output => exact ⟨_, rfl⟩
  | simulated deviceType => exact ⟨_, rfl⟩
  | alpaca baseUrl scopeId deviceType deviceNumber uniqueId credentialReference =>
    dsimp only
    cases hurl : dialect.normalizedAlpacaUrl baseUrl scopeId with
    | ok url => exact ⟨_, rfl⟩
    | error why =>
      unfold checkSource checkBackend at hclean
      simp [hbackend, hurl] at hclean

theorem validate_items (hvalid : validate dialect config = []) :
    itemErrors dialect config = [] ∧ dialect.fieldErrors config = [] ∧ headerErrors config = [] := by
  unfold validate at hvalid
  rw [List.append_eq_nil_iff] at hvalid
  obtain ⟨hheader, hrest⟩ := hvalid
  split at hrest
  · cases hrest
  · rw [List.append_eq_nil_iff] at hrest
    exact ⟨hrest.1, hrest.2, hheader⟩

theorem validate_sources (hvalid : validate dialect config = []) :
    (checkEach (checkSource dialect config) 0 {} config.sources).1 = [] := by
  have hitems := (validate_items hvalid).1
  unfold itemErrors at hitems
  simp only [List.append_eq_nil_iff] at hitems
  exact hitems.1.1.1.1

theorem validate_sources_nodup (hvalid : validate dialect config = []) :
    (config.sources.map (·.id)).Nodup := by
  have hclaimed := checkEach_claimed checkSource_claimed 0 {} config.sources
    (validate_sources hvalid)
  have hnodup := hclaimed.nodup
  rwa [← List.map_eq_flatMap] at hnodup

theorem validate_identity (hvalid : validate dialect config = []) :
    ∀ source ∈ config.sources, ∃ identity, source.identity dialect = .ok identity := by
  intro source hmem
  obtain ⟨index, seen, hclean⟩ := checkEach_mem 0 {} config.sources (validate_sources hvalid)
    source hmem
  exact checkSource_identity index seen source hclean

end

end Regain.Hub
