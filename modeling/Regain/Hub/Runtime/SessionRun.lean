import Regain.Hub.Runtime.Session

/-!
# Runs of client sessions

Every entry of a client's map is backed by a holder of that client and output, and every held
activity is counted. Identities are fresh, so a reservation that left the map never comes back.
-/

namespace Regain.Hub

open Lib
open Std (TreeMap)

namespace Runtime

def AttemptStage.reserved : AttemptStage → Bool
  | .opening _ => true
  | .opened => true
  | .dropping _ => true
  | _ => false

def AttemptStage.over_ : AttemptStage → Bool
  | .ended _ => true
  | _ => false

def Role.reserves (role : Role) (client : Nat) (output : Uuid) : Prop :=
  ∃ attempt, role = .attempt attempt ∧ attempt.client = client ∧ attempt.output = output
    ∧ attempt.stage.reserved = true

def Role.admitted : Role → Bool
  | .attempt _ => true
  | .connection _ _ => true
  | .change _ => true
  | .inspection => true
  | .group => true
  | _ => false

def Holder.proper (holder : Holder) : Bool :=
  match holder.role with
  | .attempt attempt => holder.held == !attempt.stage.over_
  | .change change => holder.held == !(change.stage == .ended)
  | .quiescent _ => !holder.held
  | _ => true

theorem countP_modify {α : Type} (p : α → Bool) (change : α → α) {list : List α} {index : Nat}
    {a : α} (hget : list[index]? = some a) :
    (list.modify index change).countP p + (if p a then 1 else 0)
      = list.countP p + if p (change a) then 1 else 0 := by
  induction list generalizing index with
  | nil => cases hget
  | cons first rest ih =>
    cases index with
    | zero =>
      cases hget
      simp only [List.modify_zero_cons, List.countP_cons]
      omega
    | succ index =>
      have hrest := ih (show rest[index]? = some a from hget)
      simp only [List.modify_succ_cons, List.countP_cons]
      omega

theorem index_unique {α : Type} {p : α → Bool} {list : List α} (hcount : list.countP p ≤ 1)
    {index other : Nat} {a b : α} (hget : list[index]? = some a) (hget' : list[other]? = some b)
    (ha : p a = true) (hb : p b = true) : index = other := by
  induction list generalizing index other with
  | nil => cases hget
  | cons first rest ih =>
    have hpos : ∀ {place : Nat} {c : α}, rest[place]? = some c → p c = true →
        0 < rest.countP p := fun hsome hc =>
      List.countP_pos_iff.mpr ⟨_, List.mem_of_getElem? hsome, hc⟩
    rw [List.countP_cons] at hcount
    cases index with
    | zero =>
      cases other with
      | zero => rfl
      | succ other =>
        cases hget
        have hrest := hpos hget' hb
        rw [if_pos ha] at hcount
        omega
    | succ index =>
      cases other with
      | zero =>
        cases hget'
        have hrest := hpos hget ha
        rw [if_pos hb] at hcount
        omega
      | succ other =>
        have hle : rest.countP p ≤ 1 := by omega
        rw [ih hle hget hget']

namespace HubRuntime

/-! ## Entries -/

variable {runtime : HubRuntime}

def isClosed (runtime : HubRuntime) (client : Nat) : Bool :=
  (runtime.clients[client]?).all fun state => state.closed

theorem entry_modifyClient (client other : Nat) (change : Client → Client) (output : Uuid) :
    (runtime.modifyClient client change).entry other output = if client = other then
          runtime.clients[other]?.bind fun state => (change state).connections[output]?
        else runtime.entry other output := by
  simp only [entry, modifyClient, List.getElem?_modify, Option.map_eq_map]
  split <;> cases runtime.clients[other]? <;> rfl

variable {index client : Nat} {output : Uuid} {holder : Holder} {after : HubRuntime}
  {connection : Connection} {held : Bool} {attempt : Attempt} {change : Client → Client}

theorem entry_modifyClient_of_same
    (hchange : ∀ state, (change state).connections = state.connections) (client other : Nat)
    (output : Uuid) :
    (runtime.modifyClient client change).entry other output = runtime.entry other output := by
  rw [entry_modifyClient]
  split
  · simp [entry, hchange]
  · rfl

theorem entry_insertEntry {other : Nat} {output' : Uuid} {found : Connection}
    (h : (runtime.insertEntry client output connection).entry other output' = some found) :
    other = client ∧ output' = output ∧ found = connection
      ∨ runtime.entry other output' = some found := by
  rw [insertEntry, entry_modifyClient] at h
  split at h
  · next hclient =>
    cases hstate : runtime.clients[other]? with
    | none => simp [hstate] at h
    | some state =>
      simp only [hstate, Option.bind_some, TreeMap.getElem?_insert,
        Std.LawfulEqOrd.compare_eq_iff_eq] at h
      split at h
      · next houtput =>
        cases h
        exact .inl ⟨hclient.symm, houtput.symm, rfl⟩
      · refine .inr ?_
        simp only [entry, hstate, Option.bind_some]
        exact h
  · exact .inr h

theorem entry_eraseEntry {other : Nat} {output' : Uuid} {found : Connection}
    (h : (runtime.eraseEntry client output).entry other output' = some found) :
    runtime.entry other output' = some found ∧ ¬(other = client ∧ output' = output) := by
  rw [eraseEntry, entry_modifyClient] at h
  split at h
  · next hclient =>
    cases hstate : runtime.clients[other]? with
    | none => simp [hstate] at h
    | some state =>
      simp only [hstate, Option.bind_some, TreeMap.getElem?_erase,
        Std.LawfulEqOrd.compare_eq_iff_eq] at h
      split at h
      · cases h
      · next houtput =>
        refine ⟨?_, fun hsame => houtput hsame.2.symm⟩
        simp only [entry, hstate, Option.bind_some]
        exact h
  · next hclient => exact ⟨h, fun hsame => hclient hsame.1.symm⟩

theorem isClosed_modifyClient (hchange : ∀ state, (change state).closed = state.closed)
    (client other : Nat) :
    (runtime.modifyClient client change).isClosed other = runtime.isClosed other := by
  simp only [isClosed, modifyClient, List.getElem?_modify, Option.map_eq_map]
  split <;> cases runtime.clients[other]? <;> simp [hchange]

theorem isClosed_insertEntry (client other : Nat) (output : Uuid) (connection : Connection) :
    (runtime.insertEntry client output connection).isClosed other = runtime.isClosed other := by
  unfold insertEntry
  rw [isClosed_modifyClient]
  exact fun _ => rfl

theorem isClosed_eraseEntry (client other : Nat) (output : Uuid) :
    (runtime.eraseEntry client output).isClosed other = runtime.isClosed other := by
  unfold eraseEntry
  rw [isClosed_modifyClient]
  exact fun _ => rfl

/-! ## The invariant -/

def Backs (runtime : HubRuntime) (client : Nat) (output : Uuid) : Connection → Prop
  | .pending token => ∃ holder, runtime.holders[token]? = some holder ∧ holder.held = true
      ∧ holder.role.reserves client output
  | .ready token => ∃ holder, runtime.holders[token]? = some holder ∧ holder.held = true
      ∧ holder.role = .connection client output

structure Inv (runtime : HubRuntime) : Prop where
  count : runtime.active = runtime.holders.countP Holder.held
  backed : ∀ (client : Nat) (output : Uuid) (connection : Connection),
    runtime.entry client output = some connection → runtime.Backs client output connection
  opened : ∀ (client : Nat) (output : Uuid) (connection : Connection),
    runtime.entry client output = some connection → runtime.isClosed client = false
  retained : ∀ token, Connection.ready token ∈ runtime.dropped →
    ∃ client output, runtime.Backs client output (.ready token)
  proper : ∀ holder ∈ runtime.holders, holder.proper = true
  freezing : runtime.holders.countP Holder.freezing = if runtime.frozen then 1 else 0
  still : runtime.frozen = true → ∀ holder ∈ runtime.holders, holder.role.admitted = true →
    holder.held = false

structure Steps (before after : HubRuntime) : Prop where
  length : before.holders.length ≤ after.holders.length
  entries : ∀ (token client : Nat) (output : Uuid), token < before.holders.length →
    after.entry client output = some (.pending token) →
    before.entry client output = some (.pending token)
  attempts : ∀ (token : Nat) (holder : Holder) (attempt : Attempt),
    before.holders[token]? = some holder → holder.role = .attempt attempt →
    ∃ holder', after.holders[token]? = some holder'
      ∧ ((∃ attempt', holder'.role = .attempt attempt' ∧ attempt'.client = attempt.client
            ∧ attempt'.output = attempt.output)
        ∨ holder'.role = .connection attempt.client attempt.output
          ∧ before.entry attempt.client attempt.output = some (.pending token))
  connections : ∀ (token : Nat) (holder : Holder) (client : Nat) (output : Uuid),
    before.holders[token]? = some holder → holder.role = .connection client output →
    ∃ holder', after.holders[token]? = some holder' ∧ holder'.role = .connection client output

theorem Steps.refl (runtime : HubRuntime) : Steps runtime runtime where
  length := Nat.le_refl _
  entries := fun _ _ _ _ => id
  attempts := fun _ holder attempt hsome hrole =>
    ⟨holder, hsome, .inl ⟨attempt, hrole, rfl, rfl⟩⟩
  connections := fun _ holder _ _ hsome hrole => ⟨holder, hsome, hrole⟩

variable {first second third : HubRuntime}

theorem Steps.trans (h : Steps first second) (h' : Steps second third) : Steps first third where
  length := Nat.le_trans h.length h'.length
  entries := by
    intro token client output hlt hentry
    exact h.entries token client output hlt
      (h'.entries token client output (Nat.lt_of_lt_of_le hlt h.length) hentry)
  attempts := by
    intro token holder attempt hsome hrole
    have hlt := (List.getElem?_eq_some_iff.mp hsome).1
    obtain ⟨next, hnext, ⟨attempt', hrole', hclient, houtput⟩ | ⟨hrole', hentry⟩⟩ :=
      h.attempts token holder attempt hsome hrole
    · obtain ⟨last, hlast, ⟨attempt'', hrole'', hclient', houtput'⟩ | ⟨hrole'', hentry⟩⟩ :=
        h'.attempts token next attempt' hnext hrole'
      · exact ⟨last, hlast, .inl ⟨attempt'', hrole'', hclient'.trans hclient,
          houtput'.trans houtput⟩⟩
      · rw [hclient, houtput] at hrole'' hentry
        exact ⟨last, hlast, .inr ⟨hrole'', h.entries token _ _ hlt hentry⟩⟩
    · obtain ⟨last, hlast, hrole''⟩ := h'.connections token next _ _ hnext hrole'
      exact ⟨last, hlast, .inr ⟨hrole'', hentry⟩⟩
  connections := by
    intro token holder client output hsome hrole
    obtain ⟨next, hnext, hrole'⟩ := h.connections token holder client output hsome hrole
    exact h'.connections token next client output hnext hrole'

/-- What any step but the drop of a guard leaves as it is. -/
structure Firm (before after : HubRuntime) : Prop extends Steps before after where
  guards : ∀ (token : Nat) (holder : Holder), before.holders[token]? = some holder →
    holder.freezing = true →
    ∃ holder', after.holders[token]? = some holder' ∧ holder'.freezing = true

theorem Firm.refl (runtime : HubRuntime) : Firm runtime runtime :=
  ⟨.refl runtime, fun _ holder hsome hfreezing => ⟨holder, hsome, hfreezing⟩⟩

theorem Firm.trans (h : Firm first second) (h' : Firm second third) : Firm first third := by
  refine ⟨h.toSteps.trans h'.toSteps, ?_⟩
  intro token holder hsome hfreezing
  obtain ⟨next, hnext, hfreezing'⟩ := h.guards token holder hsome hfreezing
  exact h'.guards token next hnext hfreezing'

theorem Inv.shrink (h : runtime.Inv) {after : HubRuntime} (hholders : after.holders = runtime.holders)
    (hactive : after.active = runtime.active) (hfrozen : after.frozen = runtime.frozen)
    (hentry : ∀ (client : Nat) (output : Uuid) (connection : Connection),
      after.entry client output = some connection →
      runtime.entry client output = some connection ∧ after.isClosed client = false)
    (hdropped : ∀ token, Connection.ready token ∈ after.dropped →
      ∃ client output, runtime.Backs client output (.ready token)) :
    after.Inv ∧ Firm runtime after := by
  have hbacks : ∀ client output connection, runtime.Backs client output connection →
      after.Backs client output connection := by
    intro client output connection hbacks
    cases connection <;> simpa only [Backs, hholders] using hbacks
  refine ⟨⟨?_, ?_, ?_, ?_, ?_, ?_, ?_⟩, ⟨⟨?_, ?_, ?_, ?_⟩, ?_⟩⟩
  · rw [hactive, hholders]
    exact h.count
  · intro client output connection hsome
    exact hbacks _ _ _ (h.backed client output connection (hentry _ _ _ hsome).1)
  · intro client output connection hsome
    exact (hentry _ _ _ hsome).2
  · intro token hmem
    obtain ⟨client, output, hready⟩ := hdropped token hmem
    exact ⟨client, output, hbacks _ _ _ hready⟩
  · rw [hholders]
    exact h.proper
  · rw [hholders, hfrozen]
    exact h.freezing
  · rw [hholders, hfrozen]
    exact h.still
  · rw [hholders]
  · intro token client output _ hsome
    exact (hentry _ _ _ hsome).1
  · intro token holder attempt hsome hrole
    exact ⟨holder, by rw [hholders]; exact hsome, .inl ⟨attempt, hrole, rfl, rfl⟩⟩
  · intro token holder client output hsome hrole
    exact ⟨holder, by rw [hholders]; exact hsome, hrole⟩
  · intro token holder hsome hfreezing
    exact ⟨holder, by rw [hholders]; exact hsome, hfreezing⟩

theorem touch_inv (h : runtime.Inv) (client : Nat)
    (hconnections : ∀ state, (change state).connections = state.connections)
    (hclosed : ∀ state, (change state).closed = state.closed) :
    (runtime.modifyClient client change).Inv ∧ Firm runtime (runtime.modifyClient client change) := by
  refine h.shrink rfl rfl rfl ?_ h.retained
  intro other output connection hsome
  rw [entry_modifyClient_of_same hconnections] at hsome
  exact ⟨hsome, (isClosed_modifyClient hclosed client other).trans (h.opened _ _ _ hsome)⟩

theorem erase_inv (h : runtime.Inv) (client : Nat) (output : Uuid) :
    (runtime.eraseEntry client output).Inv ∧ Firm runtime (runtime.eraseEntry client output) := by
  refine h.shrink rfl rfl rfl ?_ h.retained
  intro other output' connection hsome
  have hbefore := (entry_eraseEntry hsome).1
  exact ⟨hbefore, (isClosed_eraseEntry client other output).trans (h.opened _ _ _ hbefore)⟩

theorem take_inv (h : runtime.Inv) {connections : List Connection}
    (hready : ∀ token, Connection.ready token ∈ connections →
      ∃ client output, runtime.Backs client output (.ready token)) :
    (runtime.take connections).Inv ∧ Firm runtime (runtime.take connections) := by
  refine h.shrink rfl rfl rfl (fun client output connection hsome =>
    ⟨hsome, h.opened client output connection hsome⟩) ?_
  intro token hmem
  rcases List.mem_append.mp hmem with hbefore | hnew
  · exact h.retained token hbefore
  · exact hready token hnew

theorem insert_inv (h : runtime.Inv) (hbacks : runtime.Backs client output connection)
    (hopen : runtime.isClosed client = false) :
    (runtime.insertEntry client output connection).Inv := by
  have hsame : ∀ client' output' connection', runtime.Backs client' output' connection' →
      (runtime.insertEntry client output connection).Backs client' output' connection' := by
    intro client' output' connection' hbefore
    cases connection' <;> exact hbefore
  refine ⟨h.count, ?_, ?_, ?_, h.proper, h.freezing, h.still⟩
  · intro client' output' found hsome
    refine hsame _ _ _ ?_
    rcases entry_insertEntry hsome with ⟨rfl, rfl, rfl⟩ | hbefore
    · exact hbacks
    · exact h.backed _ _ _ hbefore
  · intro client' output' found hsome
    rw [isClosed_insertEntry]
    rcases entry_insertEntry hsome with ⟨rfl, -, -⟩ | hbefore
    · exact hopen
    · exact h.opened _ _ _ hbefore
  · intro token hmem
    obtain ⟨client', output', hready⟩ := h.retained token hmem
    exact ⟨client', output', hsame _ _ _ hready⟩

theorem Backs.append (h : runtime.Backs client output connection) (more : List Holder)
    (hholders : after.holders = runtime.holders ++ more) :
    after.Backs client output connection := by
  have hkeep : ∀ {token : Nat} {holder : Holder}, runtime.holders[token]? = some holder →
      after.holders[token]? = some holder := by
    intro token holder hsome
    rw [hholders, List.getElem?_append_left (List.getElem?_eq_some_iff.mp hsome).1]
    exact hsome
  cases connection with
  | pending token =>
    obtain ⟨holder, hsome, hrest⟩ := h
    exact ⟨holder, hkeep hsome, hrest⟩
  | ready token =>
    obtain ⟨holder, hsome, hrest⟩ := h
    exact ⟨holder, hkeep hsome, hrest⟩

/-! ## Holders -/

/-- A new holder, with or without an activity, that may freeze admission. -/
theorem append_inv (h : runtime.Inv) {after : HubRuntime} {holder : Holder}
    (hholders : after.holders = runtime.holders ++ [holder])
    (hclients : after.clients = runtime.clients) (hdropped : after.dropped = runtime.dropped)
    (hactive : after.active = runtime.active + if holder.held then 1 else 0)
    (hproper : holder.proper = true) (hfreezing : (if after.frozen then 1 else 0)
      = (if runtime.frozen then 1 else 0) + if holder.freezing then 1 else 0)
    (hstill : after.frozen = true → (∀ old ∈ runtime.holders, old.role.admitted = true →
      old.held = false) ∧ holder.role.admitted = false) : after.Inv ∧ Firm runtime after := by
  have hentry : ∀ client output, after.entry client output = runtime.entry client output := by
    intro client output
    simp only [entry, hclients]
  have hkeep : ∀ {token : Nat} {old : Holder}, runtime.holders[token]? = some old →
      after.holders[token]? = some old := by
    intro token old hsome
    rw [hholders, List.getElem?_append_left (List.getElem?_eq_some_iff.mp hsome).1]
    exact hsome
  refine ⟨⟨?_, ?_, ?_, ?_, ?_, ?_, ?_⟩, ⟨⟨?_, ?_, ?_, ?_⟩, ?_⟩⟩
  · rw [hactive, hholders, List.countP_append, h.count, List.countP_singleton]
  · intro client output connection hsome
    rw [hentry] at hsome
    exact (h.backed _ _ _ hsome).append [holder] hholders
  · intro client output connection hsome
    rw [hentry] at hsome
    simpa only [isClosed, hclients] using h.opened _ _ _ hsome
  · intro token hmem
    rw [hdropped] at hmem
    obtain ⟨client, output, hready⟩ := h.retained token hmem
    exact ⟨client, output, hready.append [holder] hholders⟩
  · intro other hmem
    rw [hholders, List.mem_append, List.mem_singleton] at hmem
    rcases hmem with hmem | rfl
    · exact h.proper other hmem
    · exact hproper
  · rw [hholders, List.countP_append, h.freezing, List.countP_singleton, hfreezing]
  · intro hfrozen other hmem hadmitted
    obtain ⟨hold, hnew⟩ := hstill hfrozen
    rw [hholders, List.mem_append, List.mem_singleton] at hmem
    rcases hmem with hmem | rfl
    · exact hold other hmem hadmitted
    · rw [hnew] at hadmitted
      cases hadmitted
  · rw [hholders, List.length_append]
    exact Nat.le_add_right _ _
  · intro token client output _ hsome
    rwa [hentry] at hsome
  · intro token old attempt hsome hrole
    exact ⟨old, hkeep hsome, .inl ⟨attempt, hrole, rfl, rfl⟩⟩
  · intro token old client output hsome hrole
    exact ⟨old, hkeep hsome, hrole⟩
  · intro token old hsome hguard
    exact ⟨old, hkeep hsome, hguard⟩

variable {index : Nat}

variable {change : Holder → Holder}

theorem modify_steps {before after : HubRuntime}
    (hholders : after.holders = before.holders.modify index change)
    (hentries : ∀ (token client : Nat) (output : Uuid),
      after.entry client output = some (.pending token) →
      before.entry client output = some (.pending token))
    (hattempt : ∀ (holder : Holder) (attempt : Attempt), before.holders[index]? = some holder →
      holder.role = .attempt attempt →
      (∃ attempt', (change holder).role = .attempt attempt' ∧ attempt'.client = attempt.client
          ∧ attempt'.output = attempt.output)
        ∨ (change holder).role = .connection attempt.client attempt.output
          ∧ before.entry attempt.client attempt.output = some (.pending index))
    (hconnection : ∀ (holder : Holder) (client : Nat) (output : Uuid),
      before.holders[index]? = some holder → holder.role = .connection client output →
      (change holder).role = .connection client output) : Steps before after where
  length := by
    rw [hholders, List.length_modify]
  entries := fun token client output _ => hentries token client output
  attempts := by
    intro token holder attempt hsome hrole
    rw [hholders]
    simp only [List.getElem?_modify, hsome, Option.map_eq_map, Option.map_some,
      Option.some.injEq, exists_eq_left']
    split
    · next heq =>
      subst heq
      exact hattempt holder attempt hsome hrole
    · exact .inl ⟨attempt, hrole, rfl, rfl⟩
  connections := by
    intro token holder client output hsome hrole
    rw [hholders]
    simp only [List.getElem?_modify, hsome, Option.map_eq_map, Option.map_some,
      Option.some.injEq, exists_eq_left']
    split
    · next heq =>
      subst heq
      exact hconnection holder client output hsome hrole
    · exact hrole

theorem modify_firm {before after : HubRuntime} (h : Steps before after)
    (hholders : after.holders = before.holders.modify index change)
    (hguard : ∀ holder, before.holders[index]? = some holder → holder.freezing = true →
      (change holder).freezing = true) : Firm before after := by
  refine ⟨h, ?_⟩
  intro token holder hsome hfreezing
  rw [hholders]
  simp only [List.getElem?_modify, hsome, Option.map_eq_map, Option.map_some,
    Option.some.injEq, exists_eq_left']
  split
  · next heq =>
    subst heq
    exact hguard holder hsome hfreezing
  · exact hfreezing

theorem Firm.insert {before : HubRuntime} (h : Firm before runtime)
    (hfresh : ∀ token, connection = .pending token → before.holders.length ≤ token) :
    Firm before (runtime.insertEntry client output connection) := { h with
  entries := by
    intro token other output' hlt hsome
    rcases entry_insertEntry hsome with ⟨-, -, hnew⟩ | hbefore
    · have hle := hfresh token hnew.symm
      omega
    · exact h.entries token other output' hlt hbefore }

/-- The holder at one place is replaced; nothing may refer to what it was. -/
theorem modify_inv (h : runtime.Inv) {after : HubRuntime} {holder holder' : Holder}
    (hholder : runtime.holders[index]? = some holder)
    (hchange : change holder = holder')
    (hholders : after.holders = runtime.holders.modify index change)
    (hclients : after.clients = runtime.clients) (hdropped : after.dropped = runtime.dropped)
    (hactive : after.active + (if holder.held then 1 else 0)
      = runtime.active + if holder'.held then 1 else 0) (hproper : holder'.proper = true)
    (hfreezing : (if after.frozen then 1 else 0) + (if holder.freezing then 1 else 0)
      = (if runtime.frozen then 1 else 0) + if holder'.freezing then 1 else 0)
    (hfrozen : after.frozen = true → runtime.frozen = true)
    (hstill : holder'.role.admitted = true → holder'.held = true →
      holder.role.admitted = true ∧ holder.held = true)
    (hpending : ∀ (client : Nat) (output : Uuid),
      runtime.entry client output = some (.pending index) →
      holder'.held = true ∧ holder'.role.reserves client output)
    (hready : ∀ (client : Nat) (output : Uuid), holder.held = true →
      holder.role = .connection client output →
      runtime.entry client output = some (.ready index) ∨ .ready index ∈ runtime.dropped →
      holder'.held = true ∧ holder'.role = .connection client output) : after.Inv := by
  have hentry : ∀ client output, after.entry client output = runtime.entry client output := by
    intro client output
    simp only [entry, hclients]
  have hget : ∀ token, after.holders[token]?
      = if index = token then some holder' else runtime.holders[token]? := by
    intro token
    rw [hholders, List.getElem?_modify]
    split
    · next heq =>
      subst heq
      simp [hholder, hchange]
    · simp
  have hbacks : ∀ client output connection, runtime.Backs client output connection →
      (connection = .pending index → runtime.entry client output = some (.pending index)) →
      (connection = .ready index → runtime.entry client output = some (.ready index)
        ∨ .ready index ∈ runtime.dropped) →
      after.Backs client output connection := by
    intro client output connection hbacks hentry' hready'
    cases connection with
    | pending token =>
      obtain ⟨old, hsome, hrest⟩ := hbacks
      by_cases htoken : index = token
      · subst htoken
        exact ⟨holder', by rw [hget, if_pos rfl], hpending client output (hentry' rfl)⟩
      · exact ⟨old, by rw [hget, if_neg htoken]; exact hsome, hrest⟩
    | ready token =>
      obtain ⟨old, hsome, hheld, hrole⟩ := hbacks
      by_cases htoken : index = token
      · subst htoken
        rw [hholder] at hsome
        cases hsome
        exact ⟨holder', by rw [hget, if_pos rfl], hready client output hheld hrole (hready' rfl)⟩
      · exact ⟨old, by rw [hget, if_neg htoken]; exact hsome, hheld, hrole⟩
  have hmem : ∀ other ∈ after.holders, other = holder' ∨ other ∈ runtime.holders := by
    intro other hother
    obtain ⟨token, hsome⟩ := List.getElem?_of_mem hother
    rw [hget] at hsome
    split at hsome
    · cases hsome
      exact .inl rfl
    · exact .inr (List.mem_of_getElem? hsome)
  refine ⟨?_, ?_, ?_, ?_, ?_, ?_, ?_⟩
  · have hcount := countP_modify Holder.held change hholder
    rw [← hholders, hchange, ← h.count] at hcount
    omega
  · intro client output connection hsome
    rw [hentry] at hsome
    refine hbacks client output connection (h.backed _ _ _ hsome) ?_ ?_
    · rintro rfl
      exact hsome
    · rintro rfl
      exact .inl hsome
  · intro client output connection hsome
    rw [hentry] at hsome
    simpa only [isClosed, hclients] using h.opened _ _ _ hsome
  · intro token hdrop
    rw [hdropped] at hdrop
    obtain ⟨client, output, hbefore⟩ := h.retained token hdrop
    refine ⟨client, output, hbacks client output _ hbefore ?_ ?_⟩
    · intro hpending'
      cases hpending'
    · intro hsame
      cases hsame
      exact .inr hdrop
  · intro other hother
    rcases hmem other hother with rfl | hbefore
    · exact hproper
    · exact h.proper other hbefore
  · have hcount := countP_modify Holder.freezing change hholder
    rw [← hholders, hchange, h.freezing] at hcount
    omega
  · intro hfrozen' other hother hadmitted
    have hold := h.still (hfrozen hfrozen')
    rcases hmem other hother with rfl | hbefore
    · by_contra hheld
      obtain ⟨hadmitted', hheld'⟩ := hstill hadmitted (by simpa using hheld)
      rw [hold holder (List.mem_of_getElem? hholder) hadmitted'] at hheld'
      cases hheld'
    · exact hold other hbefore hadmitted

def Good (before after : HubRuntime) : Prop :=
  after.Inv ∧ Firm before after

theorem Good.trans (h : Good first second)
    (h' : second.Inv → Good second third) : Good first third :=
  ⟨(h' h.1).1, h.2.trans (h' h.1).2⟩

theorem Inv.good (h : runtime.Inv) : Good runtime runtime :=
  ⟨h, .refl runtime⟩

/-- New work that admission covers is only held while no guard is alive. -/
theorem hold_good (h : runtime.Inv) (role : Role) (hproper : (⟨role, true⟩ : Holder).proper = true)
    (hfreezing : (⟨role, true⟩ : Holder).freezing = false)
    (hadmitted : runtime.frozen = false ∨ role.admitted = false) :
    Good runtime (runtime.hold role) := by
  refine append_inv h rfl rfl rfl rfl hproper ?_ ?_
  · rw [hfreezing]
    rfl
  · intro hfrozen
    refine ⟨h.still hfrozen, ?_⟩
    rcases hadmitted with hunfrozen | hadmitted
    · rw [show runtime.frozen = true from hfrozen] at hunfrozen
      cases hunfrozen
    · exact hadmitted

theorem setRole_good (h : runtime.Inv) {holder : Holder} {role : Role}
    (hholder : runtime.holders[index]? = some holder)
    (hproper : (⟨role, holder.held⟩ : Holder).proper = true)
    (hfreezing : (⟨role, holder.held⟩ : Holder).freezing = holder.freezing)
    (hstill : role.admitted = true → holder.role.admitted = true)
    (hpending : ∀ (client : Nat) (output : Uuid),
      runtime.entry client output = some (.pending index) → role.reserves client output)
    (hattempt : ∀ attempt, holder.role = .attempt attempt →
      ∃ attempt', role = .attempt attempt' ∧ attempt'.client = attempt.client
        ∧ attempt'.output = attempt.output)
    (hconnection : ∀ (client : Nat) (output : Uuid), holder.role = .connection client output →
      role = .connection client output) : Good runtime (runtime.setRole index role) := by
  constructor
  · refine modify_inv h hholder rfl rfl rfl rfl rfl hproper ?_ id ?_ ?_ ?_
    · rw [hfreezing]
      rfl
    · exact fun hadmitted hheld => ⟨hstill hadmitted, hheld⟩
    · intro client output hsome
      obtain ⟨old, hold, hheld, -⟩ := h.backed _ _ _ hsome
      rw [hholder] at hold
      cases hold
      exact ⟨hheld, hpending client output hsome⟩
    · intro client output hheld hrole _
      exact ⟨hheld, hconnection client output hrole⟩
  · refine modify_firm (modify_steps rfl (fun _ _ _ => id) ?_ ?_) rfl ?_
    · intro old attempt hold hrole
      rw [hholder] at hold
      cases hold
      exact .inl (hattempt attempt hrole)
    · intro old client output hold hrole
      rw [hholder] at hold
      cases hold
      exact hconnection client output hrole
    · intro old hold hguard
      rw [hholder] at hold
      cases hold
      exact hfreezing.trans hguard

theorem free_good (h : runtime.Inv) {holder : Holder} {role : Role}
    (hholder : runtime.holders[index]? = some holder) (hheld : holder.held = true)
    (hproper : (⟨role, false⟩ : Holder).proper = true)
    (hfreezing : (⟨role, false⟩ : Holder).freezing = holder.freezing)
    (hpending : ∀ (client : Nat) (output : Uuid),
      runtime.entry client output ≠ some (.pending index))
    (hready : ∀ (client : Nat) (output : Uuid), holder.role = .connection client output →
      ¬(runtime.entry client output = some (.ready index) ∨ .ready index ∈ runtime.dropped))
    (hattempt : ∀ attempt, holder.role = .attempt attempt →
      ∃ attempt', role = .attempt attempt' ∧ attempt'.client = attempt.client
        ∧ attempt'.output = attempt.output)
    (hconnection : ∀ (client : Nat) (output : Uuid), holder.role = .connection client output →
      role = .connection client output) : Good runtime (runtime.free index role) := by
  have hpos : 0 < runtime.active := by
    rw [h.count]
    exact List.countP_pos_iff.mpr ⟨holder, List.mem_of_getElem? hholder, hheld⟩
  constructor
  · refine modify_inv h hholder rfl rfl rfl rfl ?_ hproper ?_ id ?_ ?_ ?_
    · simp only [free, hheld, if_true, Bool.false_eq_true, if_false]
      omega
    · rw [hfreezing]
      rfl
    · intro _ hheld'
      cases hheld'
    · intro client output hsome
      exact absurd hsome (hpending client output)
    · intro client output _ hrole hrefers
      exact absurd hrefers (hready client output hrole)
  · refine modify_firm (modify_steps rfl (fun _ _ _ => id) ?_ ?_) rfl ?_
    · intro old attempt hold hrole
      rw [hholder] at hold
      cases hold
      exact .inl (hattempt attempt hrole)
    · intro old client output hold hrole
      rw [hholder] at hold
      cases hold
      exact hconnection client output hrole
    · intro old hold hguard
      rw [hholder] at hold
      cases hold
      exact hfreezing.trans hguard

theorem Inv.attempt_of_pending (h : runtime.Inv)
    (hsome : runtime.entry client output = some (.pending index))
    (hholder : runtime.holders[index]? = some holder) :
    holder.held = true ∧ holder.role.reserves client output := by
  obtain ⟨old, hold, hheld, hreserves⟩ := h.backed _ _ _ hsome
  rw [hholder] at hold
  cases hold
  exact ⟨hheld, hreserves⟩

theorem not_pending_of_role (h : runtime.Inv) (hholder : runtime.holders[index]? = some holder)
    (hrole : ∀ client output, ¬holder.role.reserves client output) (client : Nat) (output : Uuid) :
    runtime.entry client output ≠ some (.pending index) :=
  fun hsome => hrole client output (h.attempt_of_pending hsome hholder).2

/-! ## Attempts -/

theorem setStage_good (h : runtime.Inv) {attempt : Attempt} {held : Bool}
    (hholder : runtime.holders[index]? = some ⟨.attempt attempt, held⟩) {stage : AttemptStage}
    (hended : stage.over_ = attempt.stage.over_)
    (hreserved : stage.reserved = true ∨ ∀ (client : Nat) (output : Uuid),
      runtime.entry client output ≠ some (.pending index)) :
    Good runtime (runtime.setStage index attempt stage) := by
  have hproper := h.proper _ (List.mem_of_getElem? hholder)
  refine setRole_good h hholder ?_ rfl (fun _ => rfl) ?_ ?_ ?_
  · simp only [Holder.proper, hended] at hproper ⊢
    exact hproper
  · intro client output hsome
    rcases hreserved with hreserved | hnone
    · obtain ⟨-, old, hold, hclient, houtput, -⟩ := h.attempt_of_pending hsome hholder
      cases hold
      exact ⟨_, rfl, hclient, houtput, hreserved⟩
    · exact absurd hsome (hnone client output)
  · intro old hold
    cases hold
    exact ⟨_, rfl, rfl, rfl⟩
  · intro client output hold
    cases hold

theorem Inv.reserved_at (h : runtime.Inv)
    (hholder : runtime.holders[index]? = some ⟨.attempt attempt, held⟩)
    (hsome : runtime.entry client output = some (.pending index)) :
    client = attempt.client ∧ output = attempt.output ∧ attempt.stage.reserved = true := by
  obtain ⟨-, old, hold, hclient, houtput, hreserved⟩ := h.attempt_of_pending hsome hholder
  cases hold
  exact ⟨hclient.symm, houtput.symm, hreserved⟩

theorem connect_good (h : runtime.Inv)
    (hholder : runtime.holders[index]? = some ⟨.attempt attempt, held⟩)
    (hcurrent : runtime.entry attempt.client attempt.output = some (.pending index)) :
    Good runtime (((runtime.eraseEntry attempt.client attempt.output).setRole index
      (.connection attempt.client attempt.output)).insertEntry attempt.client attempt.output
        (.ready index)) := by
  have hheld := (h.attempt_of_pending hcurrent hholder).1
  have hopen := h.opened _ _ _ hcurrent
  obtain ⟨herased, -⟩ := erase_inv h attempt.client attempt.output
  have hnone : ∀ (client : Nat) (output : Uuid),
      (runtime.eraseEntry attempt.client attempt.output).entry client output
        ≠ some (.pending index) := by
    intro client output hsome
    obtain ⟨hbefore, hother⟩ := entry_eraseEntry hsome
    obtain ⟨hclient, houtput, -⟩ := h.reserved_at hholder hbefore
    exact hother ⟨hclient, houtput⟩
  have hrole : ((runtime.eraseEntry attempt.client attempt.output).setRole index
      (.connection attempt.client attempt.output)).Inv := by
    refine modify_inv herased hholder rfl rfl rfl rfl rfl rfl rfl id ?_ ?_ ?_
    · exact fun _ hheld' => ⟨rfl, hheld'⟩
    · intro client output hsome
      exact absurd hsome (hnone client output)
    · intro client output _ hold
      cases hold
  constructor
  · refine insert_inv hrole ?_ ?_
    · refine ⟨⟨.connection attempt.client attempt.output, held⟩, ?_, hheld, rfl⟩
      have hmodified : ((runtime.eraseEntry attempt.client attempt.output).setRole index
          (.connection attempt.client attempt.output)).holders[index]?
          = (runtime.holders.modify index fun holder =>
            { holder with role := .connection attempt.client attempt.output })[index]? := rfl
      rw [hmodified, List.getElem?_modify, hholder]
      simp
    · exact (isClosed_eraseEntry attempt.client attempt.client attempt.output).trans hopen
  · refine Firm.insert (modify_firm (modify_steps rfl ?_ ?_ ?_) rfl ?_) ?_
    · intro token client output hsome
      exact (entry_eraseEntry hsome).1
    · intro old old' hold hrole'
      rw [hholder] at hold
      cases hold
      cases hrole'
      exact .inr ⟨rfl, hcurrent⟩
    · intro old client output hold hrole'
      rw [hholder] at hold
      cases hold
      cases hrole'
    · intro old hold hguard
      rw [hholder] at hold
      cases hold
      cases hguard
    · intro token htoken
      cases htoken

theorem settle_good (h : runtime.Inv)
    (hholder : runtime.holders[index]? = some ⟨.attempt attempt, held⟩)
    (hstage : attempt.stage = .opened) : Good runtime (runtime.settle index attempt) := by
  unfold settle
  split
  · refine setStage_good h hholder ?_ (.inl rfl)
    rw [hstage]
    rfl
  · next hcurrent =>
    simp only [Bool.or_eq_true, decide_eq_true_eq, not_or, ne_eq, not_not] at hcurrent
    exact connect_good h hholder hcurrent.2

theorem poll_good (h : runtime.Inv) (index : Nat) (opened : Option (Except SourceError Unit)) :
    Good runtime (runtime.poll index opened) := by
  unfold poll
  split
  · next attempt held hholder =>
    split
    · next started hstage =>
      have hended : attempt.stage.over_ = false := by
        rw [hstage]
        rfl
      split
      · exact setStage_good h hholder hended.symm (.inl rfl)
      · split
        · exact setStage_good h hholder hended.symm (.inl rfl)
        · exact setStage_good h hholder hended.symm (.inl rfl)
        · exact setStage_good h hholder hended.symm (.inl rfl)
    · next hstage => exact settle_good h hholder hstage
    · next error hstage =>
      have hended : attempt.stage.over_ = false := by
        rw [hstage]
        rfl
      dsimp only
      split
      · refine Good.trans (erase_inv h attempt.client attempt.output) ?_
        intro herased
        refine setStage_good herased hholder hended.symm (.inr ?_)
        intro client output hsome
        obtain ⟨hbefore, hother⟩ := entry_eraseEntry hsome
        obtain ⟨hclient, houtput, -⟩ := h.reserved_at hholder hbefore
        exact hother ⟨hclient, houtput⟩
      · next hnot =>
        refine setStage_good h hholder hended.symm (.inr ?_)
        intro client output hsome
        obtain ⟨rfl, rfl, -⟩ := h.reserved_at hholder hsome
        exact hnot hsome
    · next error hstage =>
      have hproper := h.proper _ (List.mem_of_getElem? hholder)
      have hheld : held = true := by
        simpa [Holder.proper, hstage, AttemptStage.over_] using hproper
      refine free_good h hholder hheld rfl rfl ?_ ?_ ?_ ?_
      · intro client output hsome
        have hreserved := (h.reserved_at hholder hsome).2.2
        rw [hstage] at hreserved
        cases hreserved
      · intro client output hold
        cases hold
      · intro old hold
        cases hold
        exact ⟨_, rfl, rfl, rfl⟩
      · intro client output hold
        cases hold
    · exact h.good
  · exact h.good

theorem abandon_good (h : runtime.Inv) (index : Nat) : Good runtime (runtime.abandon index) := by
  unfold abandon
  split
  · next attempt held hholder =>
    split
    · next started hstage =>
      refine setStage_good h hholder ?_ (.inl rfl)
      rw [hstage]
      rfl
    · exact h.good
  · exact h.good

theorem Backs.of_holders (h : runtime.Backs client output connection)
    (hholders : after.holders = runtime.holders) : after.Backs client output connection := by
  cases connection <;> simpa only [Backs, hholders] using h

/-! ## Connections -/

theorem disconnect_good (h : runtime.Inv) (client : Nat) (output : Uuid) :
    Good runtime (runtime.disconnect client output) := by
  refine Good.trans (erase_inv h client output) ?_
  intro herased
  refine take_inv herased ?_
  intro token hmem
  rw [Option.mem_toList] at hmem
  exact ⟨client, output, (h.backed _ _ _ hmem).of_holders rfl⟩

theorem clearError_good (h : runtime.Inv) (client : Nat) (output : Uuid) :
    Good runtime (runtime.modifyClient client fun state =>
      { state with connectionErrors := state.connectionErrors.erase output }) :=
  touch_inv h client (fun _ => rfl) fun _ => rfl

theorem disconnectChecked_good (h : runtime.Inv) (client : Nat) (output : Uuid) :
    Good runtime (runtime.disconnectChecked client output).2 := by
  unfold disconnectChecked
  split
  · exact h.good
  · split
    · exact h.good
    · exact Good.trans (clearError_good h client output) fun hcleared =>
        disconnect_good hcleared client output

theorem mem_connections (hmem : connection ∈ runtime.connections client) :
    ∃ output, runtime.entry client output = some connection := by
  unfold connections at hmem
  cases hstate : runtime.clients[client]? with
  | none => simp [hstate] at hmem
  | some state =>
    rw [hstate] at hmem
    obtain ⟨entry, hentry, rfl⟩ := List.mem_map.mp hmem
    refine ⟨entry.1, ?_⟩
    simp only [HubRuntime.entry, hstate, Option.bind_some]
    exact TreeMap.mem_toList_iff_getElem?_eq_some.mp hentry

theorem close_good (h : runtime.Inv) (client : Nat) : Good runtime (runtime.close client) := by
  have hentry : ∀ (other : Nat) (output : Uuid) (connection : Connection),
      (runtime.close client).entry other output = some connection →
      runtime.entry other output = some connection ∧ client ≠ other := by
    intro other output connection hsome
    have hmodified : (runtime.close client).entry other output
        = (runtime.modifyClient client fun state =>
          { state with closed := true, connections := ∅, connectionErrors := ∅ }).entry other
            output := rfl
    rw [hmodified, entry_modifyClient] at hsome
    split at hsome
    · cases hstate : runtime.clients[other]? <;> simp [hstate] at hsome
    · next hclient => exact ⟨hsome, hclient⟩
  refine h.shrink rfl rfl rfl ?_ ?_
  · intro other output connection hsome
    obtain ⟨hbefore, hclient⟩ := hentry other output connection hsome
    refine ⟨hbefore, ?_⟩
    have hopen := h.opened _ _ _ hbefore
    simp only [isClosed, close, take, modifyClient, List.getElem?_modify, Option.map_eq_map,
      if_neg hclient] at hopen ⊢
    simpa using hopen
  · intro token hmem
    rcases List.mem_append.mp hmem with hbefore | hnew
    · exact h.retained token hbefore
    · obtain ⟨output, hsome⟩ := mem_connections hnew
      exact ⟨client, output, h.backed _ _ _ hsome⟩

theorem connection_good (h : runtime.Inv) (client : Nat) (output : Uuid) :
    Good runtime (runtime.connection client output).2 := by
  unfold connection
  split
  · next token hsome =>
    refine take_inv h ?_
    intro other hmem
    rw [List.mem_singleton] at hmem
    rw [hmem]
    exact ⟨client, output, h.backed _ _ _ hsome⟩
  · exact h.good
  · exact h.good

theorem refers_of_entry {token : Nat} (hsome : runtime.entry client output = some (.ready token)) :
    runtime.refers token = true := by
  unfold entry at hsome
  obtain ⟨state, hstate, hentry⟩ := Option.bind_eq_some_iff.mp hsome
  simp only [refers, Bool.or_eq_true, List.any_eq_true, beq_iff_eq]
  exact .inr ⟨state, List.mem_of_getElem? hstate, (output, .ready token),
    TreeMap.mem_toList_iff_getElem?_eq_some.mpr hentry, rfl⟩

theorem release_good (h : runtime.Inv) (number : Nat) : Good runtime (runtime.release number) := by
  have hrest : Good runtime { runtime with dropped := runtime.dropped.eraseIdx number } := by
    refine h.shrink rfl rfl rfl (fun client output connection hsome =>
      ⟨hsome, h.opened client output connection hsome⟩) ?_
    intro token hmem
    exact h.retained token (List.mem_of_mem_eraseIdx hmem)
  unfold release
  dsimp only
  split
  · exact h.good
  · next token hdropped =>
    split
    · next attempt held hholder =>
      refine Good.trans hrest ?_
      intro hinv
      have hproper := h.proper _ (List.mem_of_getElem? hholder)
      refine setRole_good hinv hholder hproper rfl (fun _ => rfl) ?_ ?_ ?_
      · intro client output hsome
        obtain ⟨hclient, houtput, hreserved⟩ := h.reserved_at hholder hsome
        exact ⟨_, rfl, hclient.symm, houtput.symm, hreserved⟩
      · intro old hold
        cases hold
        exact ⟨_, rfl, rfl, rfl⟩
      · intro client output hold
        cases hold
    · exact hrest
  · next token hdropped =>
    split
    · next client output hholder =>
      split
      · exact hrest
      · next hrefers =>
        refine Good.trans hrest ?_
        intro hinv
        refine free_good hinv hholder rfl rfl rfl ?_ ?_ ?_ ?_
        · refine not_pending_of_role hinv hholder ?_
          rintro client' output' ⟨old, hold, -⟩
          cases hold
        · rintro client' output' - (hentry | hmem)
          · exact hrefers (refers_of_entry hentry)
          · refine hrefers ?_
            simp only [refers, Bool.or_eq_true, List.contains_iff_mem]
            exact .inl hmem
        · intro old hold
          cases hold
        · exact fun _ _ hold => hold
    · exact hrest

/-! ## Changes -/

theorem admission_ok (hadmission : runtime.admission = .ok ()) :
    runtime.closed = false ∧ runtime.frozen = false := by
  unfold admission at hadmission
  cases hclosed : runtime.closed <;> cases hfrozen : runtime.frozen <;>
    simp [hclosed, hfrozen] at hadmission ⊢

theorem reserve_good (h : runtime.Inv) (client : Nat) (output : Uuid) (change : Option Nat) :
    Good runtime (runtime.reserve client output change).2 := by
  unfold reserve
  split
  · exact h.good
  · split
    · exact h.good
    · exact h.good
    · next state hadmission hstate =>
      split
      · exact h.good
      · next hreservable =>
        have hcleared := clearError_good h client output
        dsimp only
        split
        · exact hcleared
        · exact hcleared
        · obtain ⟨-, hunfrozen⟩ := admission_ok hadmission
          have hopen : state.closed = false := by
            unfold Client.reservable at hreservable
            split at hreservable
            · cases hreservable
            · next hopen => simpa using hopen
          have hheld := Good.trans hcleared fun hinv =>
            hold_good hinv (.attempt ⟨client, output, change, false, .opening false⟩) rfl rfl
              (.inl hunfrozen)
          refine ⟨insert_inv hheld.1 ?_ ?_, hheld.2.insert ?_⟩
          · refine ⟨⟨.attempt ⟨client, output, change, false, .opening false⟩, true⟩, ?_, rfl,
              ⟨_, rfl, rfl, rfl, rfl⟩⟩
            change (runtime.holders ++ [_])[runtime.holders.length]? = _
            simp
          · have hclosed : runtime.isClosed client = false := by
              simp [isClosed, hstate, hopen]
            have hcleared' : ((runtime.modifyClient client fun state =>
                { state with connectionErrors := state.connectionErrors.erase output }).isClosed
                  client) = false := by
              rw [isClosed_modifyClient]
              · exact hclosed
              · exact fun _ => rfl
            exact hcleared'
          · intro token htoken
            cases htoken
            exact Nat.le_refl _

theorem setChange_good (h : runtime.Inv) {change : Change}
    (hholder : runtime.holders[index]? = some ⟨.change change, held⟩) {stage : ChangeStage}
    (hended : (stage == .ended) = (change.stage == .ended)) :
    Good runtime (runtime.setChange index change stage) := by
  have hproper := h.proper _ (List.mem_of_getElem? hholder)
  refine setRole_good h hholder ?_ rfl (fun _ => rfl) ?_ ?_ ?_
  · simp only [Holder.proper, hended] at hproper ⊢
    exact hproper
  · intro client output hsome
    refine absurd hsome (not_pending_of_role h hholder ?_ client output)
    rintro client' output' ⟨old, hold, -⟩
    cases hold
  · intro old hold
    cases hold
  · intro client output hold
    cases hold

theorem change_good (h : runtime.Inv) (client : Nat) (output : Uuid) (connected : Bool) :
    Good runtime (runtime.change client output connected).2 := by
  unfold change
  split
  · exact h.good
  · split
    · exact h.good
    · exact h.good
    · next state hadmission hstate =>
      split
      · exact h.good
      · next accepted _ =>
        have hcleared := clearError_good h client output
        obtain ⟨-, hunfrozen⟩ := admission_ok hadmission
        dsimp only
        split
        · refine Good.trans (Good.trans hcleared fun hinv =>
            hold_good hinv (.change ⟨client, output, connected, .spawned⟩) rfl rfl
              (.inl hunfrozen)) ?_
          intro hinv
          exact touch_inv hinv client (fun _ => rfl) fun _ => rfl
        · exact hcleared

theorem reserve_holder (client : Nat) (output : Uuid) (change : Option Nat)
    (hholder : runtime.holders[index]? = some holder) :
    (runtime.reserve client output change).2.holders[index]? = some holder := by
  unfold reserve
  split
  · exact hholder
  · split
    · exact hholder
    · exact hholder
    · split
      · exact hholder
      · dsimp only
        split
        · exact hholder
        · exact hholder
        · change (runtime.holders ++ [_])[index]? = some holder
          rw [List.getElem?_append_left (List.getElem?_eq_some_iff.mp hholder).1]
          exact hholder

theorem advance_good (h : runtime.Inv) (index : Nat) : Good runtime (runtime.advance index) := by
  unfold advance
  split
  · next change held hholder =>
    split
    · next hstage =>
      have hended : (change.stage == .ended) = false := by
        rw [hstage]
        rfl
      split
      · dsimp only
        have hreserved := reserve_good h change.client change.output (some index)
        have hholder' := reserve_holder change.client change.output (some index) hholder
        split
        · exact Good.trans hreserved fun hinv => setChange_good hinv hholder' hended.symm
        · exact Good.trans hreserved fun hinv => setChange_good hinv hholder' hended.symm
        · exact Good.trans hreserved fun hinv => setChange_good hinv hholder' hended.symm
      · exact Good.trans (disconnect_good h change.client change.output) fun hinv =>
          setChange_good hinv hholder hended.symm
    · next attempt expired hstage =>
      have hended : (change.stage == .ended) = false := by
        rw [hstage]
        rfl
      split
      · exact setChange_good h hholder hended.symm
      · exact setChange_good h hholder hended.symm
      · exact h.good
    · next error hstage =>
      have hended : (change.stage == .ended) = false := by
        rw [hstage]
        rfl
      refine Good.trans (touch_inv h change.client ?_ ?_) fun hinv =>
        setChange_good hinv hholder hended.symm
      · intro state
        unfold finishChange
        split <;> rfl
      · intro state
        unfold finishChange
        split <;> rfl
    · next hstage =>
      have hproper := h.proper _ (List.mem_of_getElem? hholder)
      have hunended : (change.stage == .ended) = false := by
        rw [hstage]
        rfl
      have hheld : held = true := by
        simpa [Holder.proper, hunended] using hproper
      refine free_good h hholder hheld rfl rfl ?_ ?_ ?_ ?_
      · refine not_pending_of_role h hholder ?_
        rintro client' output' ⟨old, hold, -⟩
        cases hold
      · intro client output hold
        cases hold
      · intro old hold
        cases hold
      · intro client output hold
        cases hold
    · exact h.good
  · exact h.good

theorem expire_good (h : runtime.Inv) (index : Nat) : Good runtime (runtime.expire index) := by
  unfold expire
  split
  · next change held hholder =>
    split
    · next hstage =>
      refine setChange_good h hholder ?_
      rw [hstage]
      rfl
    · next attempt expired hstage =>
      refine Good.trans (setChange_good h hholder ?_) fun hinv => abandon_good hinv attempt
      rw [hstage]
      rfl
    · exact h.good
  · exact h.good

theorem held_of_idle (h : runtime.Inv) (hidle : runtime.active = 0) :
    ∀ holder ∈ runtime.holders, holder.held = false := by
  rw [h.count, List.countP_eq_zero] at hidle
  intro holder hmem
  simpa using hidle holder hmem

theorem discover_good (h : runtime.Inv) (native busy : Bool) :
    Good runtime (runtime.discover native busy).2 := by
  unfold discover
  split
  · exact h.good
  · split
    · exact h.good
    · next hrefused =>
      simp only [Bool.or_eq_true, not_or, Bool.not_eq_true, Bool.and_eq_false_iff] at hrefused
      obtain ⟨hunfrozen, hquiet⟩ := hrefused
      cases native with
      | false =>
        refine append_inv h rfl rfl rfl rfl rfl ?_ ?_
        · simp [hunfrozen, Holder.freezing]
        · intro hfrozen
          simp [hunfrozen] at hfrozen
      | true =>
        have hidle : runtime.active = 0 := by
          have hboth := hquiet.resolve_left (by simp)
          rw [Bool.or_eq_false_iff] at hboth
          simpa using hboth.1
        refine append_inv h rfl rfl rfl rfl rfl ?_ ?_
        · simp [hunfrozen, Holder.freezing]
        · exact fun _ => ⟨fun holder hmem _ => held_of_idle h hidle holder hmem, rfl⟩

/-! ## Replacement -/

theorem quiesce_good (h : runtime.Inv) : Good runtime runtime.quiesce.2 := by
  unfold quiesce
  split
  · exact h.good
  · split
    · exact h.good
    · next hrefused =>
      simp only [Bool.or_eq_true, not_or, Bool.not_eq_true, bne_iff_ne, ne_eq, not_not] at hrefused
      obtain ⟨hunfrozen, hidle⟩ := hrefused
      refine append_inv h rfl rfl rfl rfl rfl ?_ ?_
      · simp [hunfrozen, Holder.freezing]
      · exact fun _ => ⟨fun holder hmem _ => held_of_idle h hidle holder hmem, rfl⟩

theorem lift_good (h : runtime.Inv) {role : Role} (hholder : runtime.holders[index]? = some holder)
    (hfreezing : holder.freezing = true) (hrole : (⟨role, holder.held⟩ : Holder).freezing = false)
    (hproper : (⟨role, holder.held⟩ : Holder).proper = true) (hadmitted : role.admitted = false)
    (hguard : ∀ client output, ¬holder.role.reserves client output)
    (hattempt : ∀ attempt, holder.role ≠ .attempt attempt)
    (hconnection : ∀ client output, holder.role ≠ .connection client output) :
    ({ runtime.setRole index role with frozen := false } : HubRuntime).Inv
      ∧ Steps runtime { runtime.setRole index role with frozen := false } := by
  have hfrozen : runtime.frozen = true := by
    have hpos : 0 < runtime.holders.countP Holder.freezing :=
      List.countP_pos_iff.mpr ⟨holder, List.mem_of_getElem? hholder, hfreezing⟩
    rw [h.freezing] at hpos
    by_contra hunfrozen
    rw [if_neg hunfrozen] at hpos
    exact Nat.lt_irrefl 0 hpos
  constructor
  · refine modify_inv h hholder rfl rfl rfl rfl rfl hproper ?_ ?_ ?_ ?_ ?_
    · rw [hfreezing, hrole, hfrozen]
      rfl
    · intro hfalse
      cases hfalse
    · intro hadmitted'
      rw [hadmitted] at hadmitted'
      cases hadmitted'
    · intro client output hsome
      exact absurd hsome (not_pending_of_role h hholder hguard client output)
    · intro client output _ hold
      exact absurd hold (hconnection client output)
  · refine modify_steps rfl (fun _ _ _ => id) ?_ ?_
    · intro old attempt hold hrole'
      rw [hholder] at hold
      cases hold
      exact absurd hrole' (hattempt attempt)
    · intro old client output hold hrole'
      rw [hholder] at hold
      cases hold
      exact absurd hrole' (hconnection client output)

theorem lift_inv (h : runtime.Inv) (index : Nat) :
    (runtime.lift index).Inv ∧ Steps runtime (runtime.lift index) := by
  unfold lift
  split
  · next held hholder =>
    refine lift_good h hholder rfl rfl rfl rfl ?_ ?_ ?_
    · rintro client output ⟨old, hold, -⟩
      cases hold
    · intro attempt hold
      cases hold
    · intro client output hold
      cases hold
  · next held hholder =>
    refine lift_good h hholder rfl rfl ?_ rfl ?_ ?_ ?_
    · have hproper := h.proper _ (List.mem_of_getElem? hholder)
      exact hproper
    · rintro client output ⟨old, hold, -⟩
      cases hold
    · intro attempt hold
      cases hold
    · intro client output hold
      cases hold
  · exact ⟨h, .refl runtime⟩

theorem inspect_good (h : runtime.Inv) : Good runtime runtime.inspect.2 := by
  unfold inspect
  split
  · exact h.good
  · next hadmission => exact hold_good h .inspection rfl rfl (.inl (admission_ok hadmission).2)

theorem startGroup_good (h : runtime.Inv) (answer : Except SourceError Unit) :
    Good runtime (runtime.startGroup answer).2 := by
  unfold startGroup
  split
  · exact h.good
  · split
    · exact h.good
    · next hunfrozen =>
      split
      · exact h.good
      · exact hold_good h .group rfl rfl (.inl (by simpa using hunfrozen))

theorem fork_good (h : runtime.Inv) (index : Nat) : Good runtime (runtime.fork index) := by
  unfold fork
  split
  · next hholder =>
    refine hold_good h .group rfl rfl (.inl ?_)
    by_contra hfrozen
    have hheld := h.still (by simpa using hfrozen) _ (List.mem_of_getElem? hholder) rfl
    cases hheld
  · exact h.good

theorem free_work_good (h : runtime.Inv) {role : Role}
    (hholder : runtime.holders[index]? = some ⟨role, true⟩)
    (hproper : (⟨role, false⟩ : Holder).proper = true)
    (hattempt : ∀ attempt, role ≠ .attempt attempt)
    (hconnection : ∀ client output, role ≠ .connection client output) :
    Good runtime (runtime.free index role) := by
  refine free_good h hholder rfl hproper rfl ?_ ?_ ?_ ?_
  · refine not_pending_of_role h hholder ?_
    rintro client output ⟨old, hold, -⟩
    exact hattempt old hold
  · intro client output hold
    exact absurd hold (hconnection client output)
  · intro attempt hold
    exact absurd hold (hattempt attempt)
  · exact fun _ _ hold => hold

theorem finish_good (h : runtime.Inv) (index : Nat) : Good runtime (runtime.finish index) := by
  unfold finish
  split
  · next hholder =>
    exact free_work_good h hholder rfl (fun _ hold => by cases hold) fun _ _ hold => by cases hold
  · next hholder =>
    exact free_work_good h hholder rfl (fun _ hold => by cases hold) fun _ _ hold => by cases hold
  · next hholder =>
    exact free_work_good h hholder rfl (fun _ hold => by cases hold) fun _ _ hold => by cases hold
  · next hholder =>
    exact free_work_good h hholder rfl (fun _ hold => by cases hold) fun _ _ hold => by cases hold
  · exact h.good

theorem client_good (h : runtime.Inv) : Good runtime runtime.client := by
  refine h.shrink rfl rfl rfl ?_ h.retained
  intro client output connection hsome
  rcases Nat.lt_or_ge client runtime.clients.length with hlt | hge
  · have hbefore : runtime.entry client output = some connection := by
      simpa [entry, HubRuntime.client, List.getElem?_append_left hlt] using hsome
    refine ⟨hbefore, ?_⟩
    simpa [isClosed, HubRuntime.client, List.getElem?_append_left hlt] using h.opened _ _ _ hbefore
  · exfalso
    have hnone : ([⟨runtime.closed, ∅, none, ∅⟩] : List Client)[client - runtime.clients.length]?.bind
        (fun state => state.connections[output]?) = some connection := by
      simpa [entry, HubRuntime.client, List.getElem?_append_right hge] using hsome
    rcases Nat.eq_zero_or_pos (client - runtime.clients.length) with hzero | hpos
    · simp [hzero] at hnone
    · rw [List.getElem?_eq_none (show [_].length ≤ _ from hpos)] at hnone
      cases hnone

theorem shutdown_good (h : runtime.Inv) : Good runtime runtime.shutdown :=
  h.shrink rfl rfl rfl (fun client output connection hsome =>
    ⟨hsome, h.opened client output connection hsome⟩) h.retained

theorem closeNext_good (h : runtime.Inv) : Good runtime runtime.closeNext := by
  unfold closeNext
  split
  · exact h.good
  · next client closing _ =>
    refine Good.trans (close_good h client) ?_
    intro hinv
    exact hinv.shrink rfl rfl rfl (fun other output connection hsome =>
      ⟨hsome, hinv.opened other output connection hsome⟩) hinv.retained

theorem new_inv (outputs : List Uuid) : (HubRuntime.new outputs).Inv where
  count := rfl
  backed := by
    intro client output connection hsome
    simp [entry, new] at hsome
  opened := by
    intro client output connection hsome
    simp [entry, new] at hsome
  retained := by
    intro token hmem
    cases hmem
  proper := by
    intro holder hmem
    cases hmem
  freezing := rfl
  still := by
    intro hfrozen
    cases hfrozen

end HubRuntime

/-! ## Runs -/

theorem step_good {runtime : HubRuntime} (h : runtime.Inv) (op : Op)
    (hlift : ∀ guard, op ≠ .lift guard) : HubRuntime.Good runtime (step runtime op).2 := by
  cases op with
  | client => exact HubRuntime.client_good h
  | connect client output => exact HubRuntime.reserve_good h client output none
  | poll attempt opened => exact HubRuntime.poll_good h attempt opened
  | abandon attempt => exact HubRuntime.abandon_good h attempt
  | change client output connected _ => exact HubRuntime.change_good h client output connected
  | advance change => exact HubRuntime.advance_good h change
  | expire change => exact HubRuntime.expire_good h change
  | disconnect client output => exact HubRuntime.disconnect_good h client output
  | disconnectChecked client output => exact HubRuntime.disconnectChecked_good h client output
  | close client => exact HubRuntime.close_good h client
  | command client output => exact HubRuntime.connection_good h client output
  | release number => exact HubRuntime.release_good h number
  | discover native busy => exact HubRuntime.discover_good h native busy
  | quiesce => exact HubRuntime.quiesce_good h
  | lift guard => exact absurd rfl (hlift guard)
  | inspect => exact HubRuntime.inspect_good h
  | startGroup answer => exact HubRuntime.startGroup_good h answer
  | fork group => exact HubRuntime.fork_good h group
  | work => exact HubRuntime.hold_good h .other rfl rfl (.inr rfl)
  | finish holder => exact HubRuntime.finish_good h holder
  | shutdown => exact HubRuntime.shutdown_good h
  | closeNext => exact HubRuntime.closeNext_good h

theorem step_inv {runtime : HubRuntime} (h : runtime.Inv) (op : Op) :
    (step runtime op).2.Inv ∧ HubRuntime.Steps runtime (step runtime op).2 := by
  by_cases hlift : ∃ guard, op = .lift guard
  · obtain ⟨guard, rfl⟩ := hlift
    exact HubRuntime.lift_inv h guard
  · obtain ⟨hinv, hfirm⟩ := step_good h op fun guard hop => hlift ⟨guard, hop⟩
    exact ⟨hinv, hfirm.toSteps⟩

def reach (outputs : List Uuid) (ops : List Op) : HubRuntime :=
  machine.final (.new outputs) ops

def HubRuntime.inProgress (runtime : HubRuntime) (kind : Role → Bool) : Nat :=
  runtime.holders.countP fun holder => holder.held && kind holder.role

def Role.isAttempt : Role → Bool
  | .attempt _ => true
  | _ => false

def Role.isConnection : Role → Bool
  | .connection _ _ => true
  | _ => false

def Role.isChange : Role → Bool
  | .change _ => true
  | _ => false

def Op.asks : Op → Bool
  | .connect _ _ => true
  | .change _ _ _ _ => true
  | .inspect => true
  | .startGroup _ => true
  | .discover _ _ => true
  | .quiesce => true
  | _ => false

/-! ## The fence -/

/-- What the locks, cancel channels and guards of a runtime promise. -/
structure ConnectionFence (outputs : List Uuid) : Prop where
  /-- What a client has for an output, if anything, is the reservation of an attempt of its own
  that is in progress, or a connection of its own that is retained. -/
  entries : ∀ (ops : List Op) (client : Nat) (output : Uuid) (connection : Connection),
    (reach outputs ops).entry client output = some connection →
    (reach outputs ops).Backs client output connection
      ∧ (reach outputs ops).isClosed client = false
  /-- No two of them are for one attempt. -/
  distinct : ∀ (ops : List Op) (client client' : Nat) (output output' : Uuid) (token : Nat),
    (reach outputs ops).entry client output = some (.pending token)
      ∨ (reach outputs ops).entry client output = some (.ready token) →
    (reach outputs ops).entry client' output' = some (.pending token)
      ∨ (reach outputs ops).entry client' output' = some (.ready token) →
    client = client' ∧ output = output'
  /-- An attempt becomes a connection only while its own reservation is the current one. -/
  current : ∀ (ops : List Op) (op : Op) (token : Nat) (holder holder' : Holder) (attempt : Attempt),
    (reach outputs ops).holders[token]? = some holder → holder.role = .attempt attempt →
    (reach outputs (ops ++ [op])).holders[token]? = some holder' →
    holder'.role.isConnection = true →
    (reach outputs ops).entry attempt.client attempt.output = some (.pending token)
      ∧ (reach outputs ops).isClosed attempt.client = false
  /-- An attempt whose reservation is gone never becomes one. -/
  stale : ∀ (ops later : List Op) (token : Nat) (holder holder' : Holder) (attempt : Attempt),
    (reach outputs ops).holders[token]? = some holder → holder.role = .attempt attempt →
    (reach outputs ops).entry attempt.client attempt.output ≠ some (.pending token) →
    (reach outputs (ops ++ later)).holders[token]? = some holder' →
    holder'.role.isConnection = false
  /-- A disconnection takes the reservation away. -/
  disconnected : ∀ (ops : List Op) (client : Nat) (output : Uuid),
    (reach outputs (ops ++ [.disconnect client output])).entry client output = none
      ∧ (((reach outputs ops).disconnectChecked client output).1 = .ok () →
        (reach outputs (ops ++ [.disconnectChecked client output])).entry client output = none)
      ∧ (reach outputs (ops ++ [.close client])).entry client output = none
  /-- The counter counts what is in progress. -/
  counted : ∀ (ops : List Op),
    (reach outputs ops).inProgress Role.isAttempt + (reach outputs ops).inProgress Role.isConnection
      + (reach outputs ops).inProgress Role.isChange ≤ (reach outputs ops).active
  /-- While a guard is alive it is the only one, nothing is admitted, and nothing that admission
  covers is in progress. -/
  frozen : ∀ (ops : List Op) (guard : Nat) (holder : Holder),
    (reach outputs ops).holders[guard]? = some holder → holder.freezing = true →
    (∀ (other : Nat) (holder' : Holder), (reach outputs ops).holders[other]? = some holder' →
      holder'.freezing = true → other = guard)
    ∧ (∀ op : Op, op.asks = true → (step (reach outputs ops) op).2 = reach outputs ops
      ∧ ∃ error, (step (reach outputs ops) op).1 = .admitted (.error error))
    ∧ (reach outputs ops).inProgress Role.admitted = 0
  /-- A guard is alive from its request until it is dropped. -/
  guarded : ∀ (ops : List Op) (op : Op) (guard : Nat) (holder : Holder),
    (reach outputs ops).holders[guard]? = some holder → holder.freezing = true → op ≠ .lift guard →
    ∃ holder', (reach outputs (ops ++ [op])).holders[guard]? = some holder'
      ∧ holder'.freezing = true

section

variable (outputs : List Uuid) (ops : List Op)

theorem reach_append (later : List Op) :
    reach outputs (ops ++ later) = machine.final (reach outputs ops) later := by
  simp [reach, Machine.final]

theorem reach_inv : (reach outputs ops).Inv := by
  have hinductive : machine.Inductive (.new outputs) HubRuntime.Inv :=
    ⟨HubRuntime.new_inv outputs, fun op hinv => (step_inv hinv op).1⟩
  exact hinductive.final ops

theorem reach_steps (later : List Op) :
    HubRuntime.Steps (reach outputs ops) (reach outputs (ops ++ later)) := by
  have hinductive : machine.Inductive (reach outputs ops)
      (fun runtime => runtime.Inv ∧ HubRuntime.Steps (reach outputs ops) runtime) := by
    refine ⟨⟨reach_inv outputs ops, .refl _⟩, ?_⟩
    intro runtime op hstate
    obtain ⟨hinv, hsteps⟩ := step_inv hstate.1 op
    exact ⟨hinv, hstate.2.trans hsteps⟩
  rw [reach_append]
  exact (hinductive.final later).2

variable {runtime : HubRuntime}

theorem backs_client {client client' : Nat} {output output' : Uuid} {token : Nat}
    (h : runtime.Backs client output (.pending token) ∨ runtime.Backs client output (.ready token))
    (h' : runtime.Backs client' output' (.pending token)
      ∨ runtime.Backs client' output' (.ready token)) : client = client' ∧ output = output' := by
  rcases h with ⟨holder, hsome, -, attempt, hrole, rfl, rfl, -⟩ | ⟨holder, hsome, -, hrole⟩ <;>
    rcases h' with ⟨holder', hsome', -, attempt', hrole', rfl, rfl, -⟩ |
      ⟨holder', hsome', -, hrole'⟩ <;>
    rw [hsome] at hsome' <;> cases hsome' <;> rw [hrole] at hrole' <;> cases hrole' <;>
    exact ⟨rfl, rfl⟩

theorem entry_eraseEntry_self (runtime : HubRuntime) (client : Nat) (output : Uuid) :
    (runtime.eraseEntry client output).entry client output = none := by
  cases hentry : (runtime.eraseEntry client output).entry client output with
  | none => rfl
  | some found => exact absurd ⟨rfl, rfl⟩ (HubRuntime.entry_eraseEntry hentry).2

theorem entry_disconnectChecked {client : Nat} {output : Uuid}
    (hok : (runtime.disconnectChecked client output).1 = .ok ()) :
    (runtime.disconnectChecked client output).2.entry client output = none := by
  unfold HubRuntime.disconnectChecked at hok ⊢
  split
  · next hstate => simp [HubRuntime.entry, hstate]
  · next state hstate =>
    split
    · next hchange =>
      rw [hstate] at hok
      dsimp only at hok
      rw [if_pos hchange] at hok
      cases hok
    · exact entry_eraseEntry_self _ client output

theorem entry_close (runtime : HubRuntime) (client : Nat) (output : Uuid) :
    (runtime.close client).entry client output = none := by
  change (runtime.modifyClient client _).entry client output = none
  rw [HubRuntime.entry_modifyClient, if_pos rfl]
  cases runtime.clients[client]? <;> simp

theorem one_kind (holder : Holder) : (if holder.held && holder.role.isAttempt then 1 else 0)
      + (if holder.held && holder.role.isConnection then 1 else 0)
      + (if holder.held && holder.role.isChange then 1 else 0) ≤ if holder.held then 1 else 0 := by
  obtain ⟨role, held⟩ := holder
  cases held <;> cases role <;> first | exact Nat.le_refl _ | exact Nat.zero_le _

theorem inProgress_le (runtime : HubRuntime) (h : runtime.Inv) :
    runtime.inProgress Role.isAttempt + runtime.inProgress Role.isConnection
      + runtime.inProgress Role.isChange ≤ runtime.active := by
  have hall : ∀ holders : List Holder,
      holders.countP (fun holder => holder.held && holder.role.isAttempt)
        + holders.countP (fun holder => holder.held && holder.role.isConnection)
        + holders.countP (fun holder => holder.held && holder.role.isChange)
      ≤ holders.countP Holder.held := by
    intro holders
    induction holders with
    | nil => simp
    | cons holder holders ih =>
      have hone := one_kind holder
      simp only [List.countP_cons]
      omega
  rw [h.count]
  exact hall runtime.holders

theorem frozen_of_guard (h : runtime.Inv) {guard : Nat} {holder : Holder}
    (hsome : runtime.holders[guard]? = some holder) (hfreezing : holder.freezing = true) :
    runtime.frozen = true := by
  have hpos : 0 < runtime.holders.countP Holder.freezing :=
    List.countP_pos_iff.mpr ⟨holder, List.mem_of_getElem? hsome, hfreezing⟩
  rw [h.freezing] at hpos
  by_contra hunfrozen
  rw [if_neg hunfrozen] at hpos
  exact Nat.lt_irrefl 0 hpos

theorem guard_unique (h : runtime.Inv) {guard other : Nat}
    {holder holder' : Holder} (hsome : runtime.holders[guard]? = some holder)
    (hsome' : runtime.holders[other]? = some holder') (hfreezing : holder.freezing = true)
    (hfreezing' : holder'.freezing = true) : other = guard := by
  have hle : runtime.holders.countP Holder.freezing ≤ 1 := by
    rw [h.freezing]
    split <;> omega
  exact index_unique hle hsome' hsome hfreezing' hfreezing

theorem admission_frozen (hfrozen : runtime.frozen = true) :
    ∃ error, runtime.admission = .error error := by
  unfold HubRuntime.admission
  split
  · exact ⟨_, rfl⟩
  · exact ⟨applying, rfl⟩

theorem asks_frozen (hfrozen : runtime.frozen = true) {op : Op} (hasks : op.asks = true) :
    (step runtime op).2 = runtime ∧ ∃ error, (step runtime op).1 = .admitted (.error error) := by
  obtain ⟨error, hadmission⟩ := admission_frozen hfrozen
  cases op with
  | connect client output =>
    simp only [step, HubRuntime.reserve, hadmission]
    split <;> exact ⟨rfl, _, rfl⟩
  | change client output connected asynchronous =>
    simp only [step, HubRuntime.change, hadmission]
    split <;> exact ⟨rfl, _, rfl⟩
  | inspect =>
    change runtime.inspect.2 = runtime
      ∧ ∃ error, Reply.admitted (runtime.inspect.1.map some) = _
    unfold HubRuntime.inspect
    rw [hadmission]
    exact ⟨rfl, _, rfl⟩
  | startGroup answer =>
    change (runtime.startGroup answer).2 = runtime
      ∧ ∃ error, Reply.admitted ((runtime.startGroup answer).1.map some) = _
    unfold HubRuntime.startGroup
    rw [if_pos hfrozen]
    split <;> exact ⟨rfl, _, rfl⟩
  | discover native busy =>
    simp only [step, HubRuntime.discover, hfrozen, Bool.true_or, if_true]
    split <;> exact ⟨rfl, _, rfl⟩
  | quiesce =>
    simp only [step, HubRuntime.quiesce, hfrozen, Bool.true_or, if_true]
    split <;> exact ⟨rfl, _, rfl⟩
  | _ => cases hasks

theorem lift_other {other : Nat}
    (hnone : ∀ holder, runtime.holders[other]? = some holder → holder.freezing = false) :
    runtime.lift other = runtime := by
  unfold HubRuntime.lift
  split
  · next hsome => cases hnone _ hsome
  · next hsome => cases hnone _ hsome
  · rfl

end

/-- The fence holds in every run, for any outputs. -/
theorem connectionFence (outputs : List Uuid) : ConnectionFence outputs where
  entries := by
    intro ops client output connection hsome
    have hinv := reach_inv outputs ops
    exact ⟨hinv.backed _ _ _ hsome, hinv.opened _ _ _ hsome⟩
  distinct := by
    intro ops client client' output output' token hfirst hsecond
    have hinv := reach_inv outputs ops
    exact backs_client (hfirst.imp (hinv.backed _ _ _) (hinv.backed _ _ _))
      (hsecond.imp (hinv.backed _ _ _) (hinv.backed _ _ _))
  current := by
    intro ops op token holder holder' attempt hsome hrole hsome' hconnection
    obtain ⟨found, hfound, ⟨attempt', hrole', -⟩ | ⟨-, hentry⟩⟩ :=
      (reach_steps outputs ops [op]).attempts token holder attempt hsome hrole
    · rw [hsome'] at hfound
      cases hfound
      rw [hrole'] at hconnection
      cases hconnection
    · exact ⟨hentry, (reach_inv outputs ops).opened _ _ _ hentry⟩
  stale := by
    intro ops later token holder holder' attempt hsome hrole hstale hsome'
    obtain ⟨found, hfound, ⟨attempt', hrole', -⟩ | ⟨-, hentry⟩⟩ :=
      (reach_steps outputs ops later).attempts token holder attempt hsome hrole
    · rw [hsome'] at hfound
      cases hfound
      rw [hrole']
      rfl
    · exact absurd hentry hstale
  disconnected := by
    intro ops client output
    simp only [reach_append]
    exact ⟨entry_eraseEntry_self _ client output, entry_disconnectChecked,
      entry_close _ client output⟩
  counted := fun ops => inProgress_le _ (reach_inv outputs ops)
  frozen := by
    intro ops guard holder hsome hfreezing
    have hinv := reach_inv outputs ops
    have hfrozen := frozen_of_guard hinv hsome hfreezing
    refine ⟨?_, fun op => asks_frozen hfrozen, ?_⟩
    · intro other holder' hsome' hfreezing'
      exact guard_unique hinv hsome hsome' hfreezing hfreezing'
    · unfold HubRuntime.inProgress
      rw [List.countP_eq_zero]
      intro other hmem hboth
      rw [Bool.and_eq_true] at hboth
      rw [hinv.still hfrozen other hmem hboth.2] at hboth
      cases hboth.1
  guarded := by
    intro ops op guard holder hsome hfreezing hop
    have hinv := reach_inv outputs ops
    rw [reach_append]
    by_cases hlift : ∃ other, op = .lift other
    · obtain ⟨other, rfl⟩ := hlift
      have hsame : (reach outputs ops).lift other = reach outputs ops := by
        refine lift_other ?_
        intro holder' hsome'
        by_contra hfreezing'
        have hother := guard_unique hinv hsome hsome' hfreezing (by simpa using hfreezing')
        exact hop (by rw [hother])
      refine ⟨holder, ?_, hfreezing⟩
      change ((reach outputs ops).lift other).holders[guard]? = some holder
      rw [hsame]
      exact hsome
    · have hgood := step_good hinv op fun other hother => hlift ⟨other, hother⟩
      exact hgood.2.guards guard holder hsome hfreezing

/-- When everything that was admitted has been given back, nothing is left of it. -/
theorem reach_released (outputs : List Uuid) (ops : List Op)
    (h : ∀ holder ∈ (reach outputs ops).holders, holder.held = false) :
    (reach outputs ops).active = 0
      ∧ (∀ client output, (reach outputs ops).entry client output = none)
      ∧ ∀ token, Connection.ready token ∉ (reach outputs ops).dropped := by
  have hinv := reach_inv outputs ops
  have hfree : ∀ client output connection,
      ¬(reach outputs ops).Backs client output connection := by
    intro client output connection hbacks
    cases connection <;>
      obtain ⟨holder, hsome, hheld, -⟩ := hbacks <;>
      rw [h holder (List.mem_of_getElem? hsome)] at hheld <;> cases hheld
  refine ⟨?_, fun client output => ?_, fun token hmem => ?_⟩
  · rw [hinv.count, List.countP_eq_zero]
    intro holder hmem
    simp [h holder hmem]
  · cases hentry : (reach outputs ops).entry client output with
    | none => rfl
    | some connection => exact absurd (hinv.backed _ _ _ hentry) (hfree _ _ _)
  · obtain ⟨client, output, hbacks⟩ := hinv.retained token hmem
    exact hfree _ _ _ hbacks

def connectedOnce : List Op :=
  [.client, .connect 0 7, .poll 0 none, .poll 0 (some (.ok ())), .poll 0 none, .disconnect 0 7,
    .release 0]

theorem reach_released_once : (reach [7] connectedOnce).active = 0
    ∧ (∀ client output, (reach [7] connectedOnce).entry client output = none)
    ∧ ∀ token, Connection.ready token ∉ (reach [7] connectedOnce).dropped :=
  reach_released [7] connectedOnce (by decide +kernel)

end Runtime

end Regain.Hub
