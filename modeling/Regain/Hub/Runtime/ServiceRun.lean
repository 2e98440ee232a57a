import Regain.Hub.Runtime.Service

/-!
# Runs of the service

At most one apply holds the update lock, and where it stands says what is published: up to the
commit the published runtime serves the stored configuration, behind it the phase is not ready until
the next runtime, built for what was committed, takes its place.
-/

namespace Regain.Hub

open Lib

namespace Service

open HubService (advanceAt build buildChecked commit create fail isStopped modifyRuntime new
  prepare runtimeStep setStage)

/-! ## Closed runtimes -/

variable {Details : Type}

theorem closed_reserve (runtime : Runtime.HubRuntime) (client : Nat) (output : Uuid)
    (change : Option Nat) : (runtime.reserve client output change).2.closed = runtime.closed := by
  unfold Runtime.HubRuntime.reserve
  split
  · rfl
  · split
    · rfl
    · rfl
    · split
      · rfl
      · dsimp only
        split <;> rfl

theorem closed_change (runtime : Runtime.HubRuntime) (client : Nat) (output : Uuid)
    (connected : Bool) : (runtime.change client output connected).2.closed = runtime.closed := by
  unfold Runtime.HubRuntime.change
  split
  · rfl
  · split
    · rfl
    · rfl
    · split
      · rfl
      · dsimp only
        split <;> rfl

theorem closed_settle (runtime : Runtime.HubRuntime) (index : Nat) (attempt : Runtime.Attempt) :
    (runtime.settle index attempt).closed = runtime.closed := by
  unfold Runtime.HubRuntime.settle
  split <;> rfl

theorem closed_poll (runtime : Runtime.HubRuntime) (index : Nat)
    (opened : Option (Except SourceError Unit)) :
    (runtime.poll index opened).closed = runtime.closed := by
  unfold Runtime.HubRuntime.poll
  split
  · split
    · split
      · rfl
      · split <;> rfl
    · exact closed_settle _ _ _
    · dsimp only
      split <;> rfl
    · rfl
    · rfl
  · rfl

theorem closed_abandon (runtime : Runtime.HubRuntime) (index : Nat) :
    (runtime.abandon index).closed = runtime.closed := by
  unfold Runtime.HubRuntime.abandon
  split
  · split <;> rfl
  · rfl

theorem closed_disconnectChecked (runtime : Runtime.HubRuntime) (client : Nat) (output : Uuid) :
    (runtime.disconnectChecked client output).2.closed = runtime.closed := by
  unfold Runtime.HubRuntime.disconnectChecked
  split
  · rfl
  · split <;> rfl

theorem closed_connection (runtime : Runtime.HubRuntime) (client : Nat) (output : Uuid) :
    (runtime.connection client output).2.closed = runtime.closed := by
  unfold Runtime.HubRuntime.connection
  split <;> rfl

theorem closed_release (runtime : Runtime.HubRuntime) (number : Nat) :
    (runtime.release number).closed = runtime.closed := by
  unfold Runtime.HubRuntime.release
  dsimp only
  split
  · rfl
  · split <;> rfl
  · split
    · split <;> rfl
    · rfl

theorem closed_advance (runtime : Runtime.HubRuntime) (index : Nat) :
    (runtime.advance index).closed = runtime.closed := by
  unfold Runtime.HubRuntime.advance
  split
  · split
    · split
      · dsimp only
        split <;> exact closed_reserve _ _ _ _
      · rfl
    · split <;> rfl
    · rfl
    · rfl
    · rfl
  · rfl

theorem closed_expire (runtime : Runtime.HubRuntime) (index : Nat) :
    (runtime.expire index).closed = runtime.closed := by
  unfold Runtime.HubRuntime.expire
  split
  · split
    · rfl
    · exact closed_abandon _ _
    · rfl
  · rfl

theorem closed_discover (runtime : Runtime.HubRuntime) (native busy : Bool) :
    (runtime.discover native busy).2.closed = runtime.closed := by
  unfold Runtime.HubRuntime.discover
  split
  · rfl
  · split <;> rfl

theorem closed_quiesce (runtime : Runtime.HubRuntime) :
    runtime.quiesce.2.closed = runtime.closed := by
  unfold Runtime.HubRuntime.quiesce
  split
  · rfl
  · split <;> rfl

theorem closed_lift (runtime : Runtime.HubRuntime) (index : Nat) :
    (runtime.lift index).closed = runtime.closed := by
  unfold Runtime.HubRuntime.lift
  split <;> rfl

theorem closed_inspect (runtime : Runtime.HubRuntime) :
    runtime.inspect.2.closed = runtime.closed := by
  unfold Runtime.HubRuntime.inspect
  split <;> rfl

theorem closed_startGroup (runtime : Runtime.HubRuntime) (answer : Except SourceError Unit) :
    (runtime.startGroup answer).2.closed = runtime.closed := by
  unfold Runtime.HubRuntime.startGroup
  split
  · rfl
  · split
    · rfl
    · split <;> rfl

theorem closed_fork (runtime : Runtime.HubRuntime) (index : Nat) :
    (runtime.fork index).closed = runtime.closed := by
  unfold Runtime.HubRuntime.fork
  split <;> rfl

theorem closed_finish (runtime : Runtime.HubRuntime) (index : Nat) :
    (runtime.finish index).closed = runtime.closed := by
  unfold Runtime.HubRuntime.finish
  split <;> rfl

theorem closed_closeNext (runtime : Runtime.HubRuntime) :
    runtime.closeNext.closed = runtime.closed := by
  unfold Runtime.HubRuntime.closeNext
  split <;> rfl

theorem closed_step (runtime : Runtime.HubRuntime) {op : Runtime.Op} (hop : op ≠ .shutdown) :
    (Runtime.step runtime op).2.closed = runtime.closed := by
  cases op with
  | client => rfl
  | connect client output => exact closed_reserve _ _ _ _
  | poll attempt opened => exact closed_poll _ _ _
  | abandon attempt => exact closed_abandon _ _
  | change client output connected _ => exact closed_change _ _ _ _
  | advance change => exact closed_advance _ _
  | expire change => exact closed_expire _ _
  | disconnect client output => rfl
  | disconnectChecked client output => exact closed_disconnectChecked _ _ _
  | close client => rfl
  | command client output => exact closed_connection _ _ _
  | release number => exact closed_release _ _
  | discover native busy => exact closed_discover _ _ _
  | quiesce => exact closed_quiesce _
  | lift guard => exact closed_lift _ _
  | inspect => exact closed_inspect _
  | startGroup answer => exact closed_startGroup _ _
  | fork group => exact closed_fork _ _
  | work => rfl
  | finish holder => exact closed_finish _ _
  | shutdown => exact absurd rfl hop
  | closeNext => exact closed_closeNext _

/-! ## The invariant -/

variable {index : Nat} {quiet : Quiet} {error : UpdateError} {runtime : Runtime.HubRuntime}

theorem quiesce_guard {guard : Nat} {after : Runtime.HubRuntime}
    (hquiesce : runtime.quiesce = (.ok guard, after)) :
    ∃ holder, after.holders[guard]? = some holder ∧ holder.freezing = true := by
  unfold Runtime.HubRuntime.quiesce at hquiesce
  split at hquiesce
  · cases hquiesce
  · split at hquiesce
    · cases hquiesce
    · cases hquiesce
      exact ⟨⟨.quiescent true, false⟩, by simp, rfl⟩

variable {service : HubService Details} (same : HubConfig Details → HubConfig Details → Bool)

def Serves (service : HubService Details) (index : Nat) : Prop :=
  ∃ built, service.runtimes[index]? = some built ∧ built.runtime.closed = false
    ∧ ∀ store, service.store = some store → same built.configuration store.current = true

def Calm (service : HubService Details) : Prop :=
  service.phase ≠ .applying ∧ (service.phase = .ready → Serves same service service.published)

def Guarded (service : HubService Details) (quiet : Quiet) : Prop :=
  ∃ built, service.runtimes[quiet.runtime]? = some built
    ∧ ∃ holder, built.runtime.holders[quiet.guard]? = some holder ∧ holder.freezing = true

/-- The published runtime is quiet, and the phase says that it is replaced. -/
def Replacing (service : HubService Details) (quiet : Quiet) : Prop :=
  service.phase = .applying ∧ quiet.runtime = service.published ∧ Guarded service quiet

def Standing (service : HubService Details) : Stage Details → Prop
  | .started => Calm same service
  | .found previous =>
    service.phase = .ready ∧ Serves same service service.published ∧ previous = service.published
  | .quieted quiet =>
    service.phase = .ready ∧ Serves same service service.published
      ∧ quiet.runtime = service.published ∧ Guarded service quiet
  | .preparing quiet => Replacing service quiet ∧ Serves same service service.published
  | .building quiet _ => Replacing service quiet ∧ Serves same service service.published
  | .committing quiet prepared next =>
    Replacing service quiet ∧ Serves same service service.published ∧ next ≠ service.published
      ∧ ∃ built, service.runtimes[next]? = some built ∧ built.runtime.closed = false
        ∧ same built.configuration prepared.next = true
  | .discarding quiet next error =>
    Replacing service quiet ∧ next ≠ service.published
      ∧ (error.isTask = false → Serves same service service.published)
  | .failing quiet error =>
    Replacing service quiet ∧ Serves same service service.published ∧ error.isTask = false
  | .blocking quiet => service.phase = .applying ∧ Guarded service quiet
  | .draining quiet => (service.phase = .blocked ∨ service.phase = .stopped) ∧ Guarded service quiet
  | .cleaning quiet next =>
    Replacing service quiet ∧ next ≠ service.published ∧ Serves same service next
  | .publishing quiet next _ =>
    Replacing service quiet ∧ Serves same service next ∧ service.isStopped quiet.runtime = true
  | .leaving quiet error =>
    Calm same service ∧ Guarded service quiet
      ∧ ∀ found, error = some found → found.isTask = false →
        service.phase = .ready ∧ quiet.runtime = service.published
  | .unwinding quiet =>
    (service.phase = .ready → Serves same service service.published) ∧ Guarded service quiet
  | .crashed => service.phase = .ready → Serves same service service.published
  | .mending => service.phase = .blocked ∨ service.phase = .stopped
  | .finished _ => Calm same service
  | .over_ _ => True

structure Inv (service : HubService Details) : Prop where
  runtimes : ∀ built ∈ service.runtimes, built.runtime.Inv
  owner : ∀ (index : Nat) (apply : Apply Details), service.applies[index]? = some apply →
    apply.stage.running = true → service.update = some (.apply index)
  stopping : ∀ index, service.shutdowns[index]? = some Stopping.draining →
    service.update = some (.shutdown index) ∧ service.phase = .stopped
  standing : ∀ apply ∈ service.applies, apply.stage.running = true →
    Standing same service apply.stage
  idle : (∀ apply ∈ service.applies, apply.stage.running = false) → Calm same service

variable {same}

variable {after : HubService Details}

theorem Standing.kept {stage : Stage Details} (h : Standing same service stage)
    (hpublished : after.published = service.published) (hphase : after.phase = service.phase)
    (hserves : ∀ index, Serves same service index → Serves same after index)
    (hbuilt : ∀ (index : Nat) (built : Built Details), service.runtimes[index]? = some built →
      ∃ built', after.runtimes[index]? = some built' ∧ built'.configuration = built.configuration
        ∧ built'.runtime.closed = built.runtime.closed
        ∧ (built.stopped = true → built'.stopped = true))
    (hguarded : ∀ quiet, stage.quiet = some quiet → Guarded service quiet → Guarded after quiet) :
    Standing same after stage := by
  have hcalm : Calm same service → Calm same after := by
    intro hcalm
    refine ⟨by rw [hphase]; exact hcalm.1, ?_⟩
    rw [hphase, hpublished]
    exact fun hready => hserves _ (hcalm.2 hready)
  have hreplacing : ∀ quiet, stage.quiet = some quiet → Replacing service quiet →
      Replacing after quiet := by
    intro quiet hquiet hbefore
    exact ⟨hphase.trans hbefore.1, hbefore.2.1.trans hpublished.symm,
      hguarded quiet hquiet hbefore.2.2⟩
  cases stage with
  | started => exact hcalm h
  | found previous =>
    obtain ⟨hready, hserving, hprevious⟩ := h
    refine ⟨hphase.trans hready, ?_, hprevious.trans hpublished.symm⟩
    rw [hpublished]
    exact hserves _ hserving
  | quieted quiet =>
    obtain ⟨hready, hserving, hruntime, hguard⟩ := h
    refine ⟨hphase.trans hready, ?_, hruntime.trans hpublished.symm, hguarded quiet rfl hguard⟩
    rw [hpublished]
    exact hserves _ hserving
  | preparing quiet =>
    refine ⟨hreplacing quiet rfl h.1, ?_⟩
    rw [hpublished]
    exact hserves _ h.2
  | building quiet prepared =>
    refine ⟨hreplacing quiet rfl h.1, ?_⟩
    rw [hpublished]
    exact hserves _ h.2
  | committing quiet prepared next =>
    obtain ⟨hbefore, hserving, hnext, built, hsome, hclosed, hsame⟩ := h
    obtain ⟨built', hsome', hconfiguration, hclosed', -⟩ := hbuilt next built hsome
    refine ⟨hreplacing quiet rfl hbefore, ?_, by rw [hpublished]; exact hnext, built', hsome',
      hclosed'.trans hclosed, by rw [hconfiguration]; exact hsame⟩
    rw [hpublished]
    exact hserves _ hserving
  | discarding quiet next error =>
    obtain ⟨hbefore, hnext, hserving⟩ := h
    refine ⟨hreplacing quiet rfl hbefore, by rw [hpublished]; exact hnext, ?_⟩
    rw [hpublished]
    exact fun herror => hserves _ (hserving herror)
  | failing quiet error =>
    obtain ⟨hbefore, hserving, herror⟩ := h
    refine ⟨hreplacing quiet rfl hbefore, ?_, herror⟩
    rw [hpublished]
    exact hserves _ hserving
  | blocking quiet => exact ⟨hphase.trans h.1, hguarded quiet rfl h.2⟩
  | draining quiet =>
    refine ⟨?_, hguarded quiet rfl h.2⟩
    rw [hphase]
    exact h.1
  | cleaning quiet next =>
    obtain ⟨hbefore, hnext, hserving⟩ := h
    exact ⟨hreplacing quiet rfl hbefore, by rw [hpublished]; exact hnext, hserves _ hserving⟩
  | publishing quiet next cleanup =>
    obtain ⟨hbefore, hserving, hstopped⟩ := h
    refine ⟨hreplacing quiet rfl hbefore, hserves _ hserving, ?_⟩
    unfold isStopped at hstopped ⊢
    cases hsome : service.runtimes[quiet.runtime]? with
    | none => simp [hsome] at hstopped
    | some built =>
      obtain ⟨built', hsome', -, -, hmono⟩ := hbuilt quiet.runtime built hsome
      rw [hsome] at hstopped
      rw [hsome']
      exact hmono hstopped
  | leaving quiet error =>
    refine ⟨hcalm h.1, hguarded quiet rfl h.2.1, ?_⟩
    rw [hphase, hpublished]
    exact h.2.2
  | unwinding quiet =>
    refine ⟨?_, hguarded quiet rfl h.2⟩
    rw [hphase, hpublished]
    exact fun hready => hserves _ (h.1 hready)
  | crashed =>
    intro hready
    rw [hpublished]
    exact hserves _ (h (hphase.symm.trans hready))
  | mending =>
    change after.phase = .blocked ∨ after.phase = .stopped
    rw [hphase]
    exact h
  | finished error => exact hcalm h
  | over_ error => trivial

variable {change : Built Details → Built Details}

theorem getElem?_modifyRuntime {other : Nat}
    {built : Built Details} (hsome : service.runtimes[other]? = some built) :
    (service.modifyRuntime index change).runtimes[other]?
      = some (if index = other then change built else built) := by
  simp only [modifyRuntime, List.getElem?_modify, hsome, Option.map_eq_map, Option.map_some]

/-! ## Changes of one runtime -/

variable {apply : Apply Details}

theorem Inv.stage (h : Inv same service)
    (happly : service.applies[index]? = some apply) (hrunning : apply.stage.running = true)
    {core : HubService Details} (happlies : core.applies = service.applies)
    (hupdate : core.update = service.update) (hshutdowns : core.shutdowns = service.shutdowns)
    (hruntimes : ∀ built ∈ core.runtimes, built.runtime.Inv) {stage : Stage Details}
    (hrun : stage.running = true) (hstanding : Standing same core stage) :
    Inv same (core.setStage index stage) := by
  have howner := h.owner index apply happly hrunning
  have hget : ∀ other, (core.setStage index stage).applies[other]?
      = (service.applies[other]?).map fun old =>
        if index = other then { old with stage := stage } else old := by
    intro other
    simp only [setStage, happlies, List.getElem?_modify, Option.map_eq_map]
  have hcases : ∀ {other : Nat} {found : Apply Details},
      (core.setStage index stage).applies[other]? = some found → found.stage.running = true →
      other = index ∧ found.stage = stage := by
    intro other found hfound hrunning'
    rw [hget, Option.map_eq_some_iff] at hfound
    obtain ⟨old, hold, rfl⟩ := hfound
    by_cases hother : index = other
    · rw [if_pos hother]
      exact ⟨hother.symm, rfl⟩
    · rw [if_neg hother] at hrunning'
      have howner' := h.owner other old hold hrunning'
      rw [howner] at howner'
      cases howner'
      exact absurd rfl hother
  refine ⟨hruntimes, ?_, ?_, ?_, ?_⟩
  · intro other found hfound hrunning'
    rw [(hcases hfound hrunning').1]
    exact hupdate.trans howner
  · intro other hdraining
    have hbefore : service.shutdowns[other]? = some Stopping.draining := by
      rw [← hshutdowns]
      exact hdraining
    have hlock := (h.stopping other hbefore).1
    rw [howner] at hlock
    cases hlock
  · intro found hmem hrunning'
    obtain ⟨other, hfound⟩ := List.getElem?_of_mem hmem
    rw [(hcases hfound hrunning').2]
    exact hstanding.kept rfl rfl (fun _ hserves => hserves)
      (fun _ built hsome => ⟨built, hsome, rfl, rfl, id⟩) fun _ _ hguarded => hguarded
  · intro hnone
    have hsome : (core.setStage index stage).applies[index]? = some { apply with stage := stage } := by
      rw [hget, happly]
      simp
    have hstage := hnone _ (List.mem_of_getElem? hsome)
    rw [show ({ apply with stage := stage } : Apply Details).stage = stage from rfl, hrun] at hstage
    cases hstage

theorem Inv.still (h : Inv same service)
    (happlies : after.applies = service.applies) (hupdate : after.update = service.update)
    (hshutdowns : after.shutdowns = service.shutdowns) (hphase : after.phase = service.phase)
    (hruntimes : ∀ built ∈ after.runtimes, built.runtime.Inv)
    (hstanding : ∀ apply ∈ service.applies, apply.stage.running = true →
      Standing same service apply.stage → Standing same after apply.stage)
    (hidle : Calm same service → Calm same after) : Inv same after where
  runtimes := hruntimes
  owner := by
    rw [happlies, hupdate]
    exact h.owner
  stopping := by
    rw [hshutdowns, hupdate, hphase]
    exact h.stopping
  standing := by
    rw [happlies]
    exact fun apply hmem hrunning => hstanding apply hmem hrunning (h.standing apply hmem hrunning)
  idle := by
    rw [happlies]
    exact fun hnone => hidle (h.idle hnone)

theorem mem_modifyRuntime {built : Built Details}
    (hmem : built ∈ (service.modifyRuntime index change).runtimes) : built ∈ service.runtimes
      ∨ ∃ old, service.runtimes[index]? = some old ∧ built = change old := by
  obtain ⟨other, hsome⟩ := List.getElem?_of_mem hmem
  simp only [modifyRuntime, List.getElem?_modify, Option.map_eq_map,
    Option.map_eq_some_iff] at hsome
  obtain ⟨old, hold, rfl⟩ := hsome
  by_cases hindex : index = other
  · subst hindex
    exact .inr ⟨old, hold, by simp⟩
  · simp only [hindex, if_false]
    exact .inl (List.mem_of_getElem? hold)

theorem modifyRuntime_inv (h : ∀ built ∈ service.runtimes, built.runtime.Inv)
    (hchange : ∀ built, service.runtimes[index]? = some built → (change built).runtime.Inv) :
    ∀ built ∈ (service.modifyRuntime index change).runtimes, built.runtime.Inv := by
  intro built hmem
  rcases mem_modifyRuntime hmem with hold | ⟨old, hsome, rfl⟩
  · exact h built hold
  · exact hchange old hsome

theorem serves_modifyRuntime {index other : Nat} (h : Serves same service other)
    (hchange : ∀ built, service.runtimes[index]? = some built → index = other →
      (change built).configuration = built.configuration
        ∧ (change built).runtime.closed = built.runtime.closed) :
    Serves same (service.modifyRuntime index change) other := by
  obtain ⟨built, hsome, hclosed, hsame⟩ := h
  refine ⟨_, getElem?_modifyRuntime hsome, ?_⟩
  by_cases hindex : index = other
  · rw [if_pos hindex]
    have hkept := hchange built (by rw [hindex]; exact hsome) hindex
    rw [hkept.1, hkept.2]
    exact ⟨hclosed, hsame⟩
  · rw [if_neg hindex]
    exact ⟨hclosed, hsame⟩

theorem guarded_modifyRuntime {quiet : Quiet} (h : Guarded service quiet) {index : Nat}
    (hchange : ∀ built, service.runtimes[index]? = some built →
      Runtime.HubRuntime.Firm built.runtime (change built).runtime) :
    Guarded (service.modifyRuntime index change) quiet := by
  obtain ⟨built, hsome, holder, hholder, hfreezing⟩ := h
  refine ⟨_, getElem?_modifyRuntime hsome, ?_⟩
  by_cases hindex : index = quiet.runtime
  · rw [if_pos hindex]
    have hfirm := hchange built (by rw [hindex]; exact hsome)
    exact hfirm.guards quiet.guard holder hholder hfreezing
  · rw [if_neg hindex]
    exact ⟨holder, hholder, hfreezing⟩

theorem drain_good {built : Built Details} (h : built.runtime.Inv) (returns : Bool) :
    Runtime.HubRuntime.Good built.runtime (built.drain returns).runtime := by
  unfold Built.drain
  split
  · exact ⟨h, .refl _⟩
  · split
    · exact Runtime.HubRuntime.shutdown_good h
    · split
      · exact Runtime.HubRuntime.closeNext_good h
      · split <;> exact ⟨h, .refl _⟩

/-! ## The apply -/

/-- Nothing that admission covers was in progress in a runtime that has shut down. -/
def Replaced (service : HubService Details) : Prop :=
  ∃ built, service.runtimes[service.published]? = some built ∧ built.stopped = true
    ∧ built.runtime.inProgress Runtime.Role.admitted = 0

def Settled (service : HubService Details) : Prop :=
  service.phase = .blocked ∨ service.phase = .stopped

def Unchanged (origin service : HubService Details) : Prop :=
  service.store = origin.store ∧ service.published = origin.published
    ∧ service.phase = origin.phase

def Pending (origin service : HubService Details) : Prop :=
  service.store = origin.store ∧ service.published = origin.published ∧ origin.phase = .ready

def Refuses (origin service : HubService Details) : Stage Details → Prop
  | .started => Unchanged origin service
  | .found _ => Unchanged origin service
  | .quieted _ => Unchanged origin service
  | .preparing _ => Pending origin service
  | .building _ _ => Pending origin service
  | .committing _ _ _ => Pending origin service
  | .discarding _ _ error => error.isTask = false → Pending origin service
  | .failing _ error => error.isTask = false → Pending origin service
  | .leaving _ (some error) => error.isTask = false → Unchanged origin service
  | .finished (some error) => error.isTask = false → Unchanged origin service
  | _ => True

variable (same) in
/-- A step of the apply that holds the lock, up to its new stage. -/
structure Move (service core : HubService Details) (stage stage' : Stage Details) : Prop where
  applies : core.applies = service.applies
  update : core.update = service.update
  shutdowns : core.shutdowns = service.shutdowns
  runtimes : ∀ built ∈ core.runtimes, built.runtime.Inv
  running : stage'.running = true
  standing : Standing same core stage'
  settled : Settled service → Settled core
  replaced : core.published ≠ service.published → Replaced service
  refuses : ∀ origin, Refuses origin service stage → Refuses origin core stage'

theorem Move.here (h : Inv same service) {stage stage' : Stage Details}
    (hrunning : stage'.running = true) (hstanding : Standing same service stage')
    (hrefuses : ∀ origin, Refuses origin service stage → Refuses origin service stage') :
    Move same service service stage stage' where
  applies := rfl
  update := rfl
  shutdowns := rfl
  runtimes := h.runtimes
  running := hrunning
  standing := hstanding
  settled := id
  replaced := fun hne => absurd rfl hne
  refuses := hrefuses

theorem Move.modify (h : Inv same service) {stage stage' : Stage Details} {index : Nat}
    (hchange : ∀ built, service.runtimes[index]? = some built → built.runtime.Inv →
      (change built).runtime.Inv) (hrunning : stage'.running = true)
    (hstanding : Standing same (service.modifyRuntime index change) stage')
    (hrefuses : ∀ origin, Refuses origin service stage →
      Refuses origin (service.modifyRuntime index change) stage') :
    Move same service (service.modifyRuntime index change) stage stage' where
  applies := rfl
  update := rfl
  shutdowns := rfl
  runtimes := modifyRuntime_inv h.runtimes fun built hsome =>
    hchange built hsome (h.runtimes built (List.mem_of_getElem? hsome))
  running := hrunning
  standing := hstanding
  settled := id
  replaced := fun hne => absurd rfl hne
  refuses := hrefuses

theorem setStage_self (happly : service.applies[index]? = some apply) :
    service.setStage index apply.stage = service := by
  have happlies : (service.applies.modify index fun old => { old with stage := apply.stage })
      = service.applies := by
    apply List.ext_getElem?
    intro other
    rw [List.getElem?_modify]
    by_cases hindex : index = other
    · subst hindex
      simp [happly]
    · cases service.applies[other]? <;> simp [hindex]
  unfold setStage
  rw [happlies]

theorem Standing.ready {stage : Stage Details} (h : Standing same service stage)
    (hrunning : stage.running = true) (hready : service.phase = .ready) :
    Serves same service service.published := by
  have happlying : service.phase = .applying → Serves same service service.published := by
    intro happlying
    rw [hready] at happlying
    cases happlying
  have hsettled : Settled service → Serves same service service.published := by
    intro hsettled
    rcases hsettled with hphase | hphase <;> rw [hready] at hphase <;> cases hphase
  cases stage with
  | started => exact h.2 hready
  | found previous => exact h.2.1
  | quieted quiet => exact h.2.1
  | preparing quiet => exact h.2
  | building quiet prepared => exact h.2
  | committing quiet prepared next => exact h.2.1
  | discarding quiet next error => exact happlying h.1.1
  | failing quiet error => exact h.2.1
  | blocking quiet => exact happlying h.1
  | draining quiet => exact hsettled h.1
  | cleaning quiet next => exact happlying h.1.1
  | publishing quiet next cleanup => exact happlying h.1.1
  | leaving quiet error => exact h.1.2 hready
  | unwinding quiet => exact h.1 hready
  | crashed => exact h hready
  | mending => exact hsettled h
  | finished error => exact h.2 hready
  | over_ error => cases hrunning

theorem Standing.guarded {stage : Stage Details} (h : Standing same service stage)
    (hquiet : stage.quiet = some quiet) : Guarded service quiet := by
  cases stage <;> cases hquiet
  case quieted => exact h.2.2.2
  case preparing => exact h.1.2.2
  case building => exact h.1.2.2
  case committing => exact h.1.2.2
  case discarding => exact h.1.2.2
  case failing => exact h.1.2.2
  case blocking => exact h.2
  case draining => exact h.2
  case cleaning => exact h.1.2.2
  case publishing => exact h.1.2.2
  case leaving => exact h.2.1
  case unwinding => exact h.2

theorem quiesce_move (h : Inv same service) (index : Nat) {previous : Nat}
    (hstanding : Standing same service (.found previous)) :
    ∃ core stage', service.quiesce index previous = core.setStage index stage'
      ∧ Move same service core (.found previous) stage' := by
  obtain ⟨hready, hserves, hprevious⟩ := hstanding
  have hcalm : Calm same service := by
    refine ⟨?_, fun _ => hserves⟩
    rw [hready]
    exact fun hphase => by cases hphase
  have hrefused : Move same service service (.found previous) (.finished (some .connected)) :=
    .here h rfl hcalm fun _ hunchanged _ => hunchanged
  unfold HubService.quiesce
  split
  · exact ⟨_, _, rfl, hrefused⟩
  · next built hsome =>
    split
    · exact ⟨_, _, rfl, hrefused⟩
    · next guard runtime hquiesce =>
      have hruntime : built.runtime.quiesce.2 = runtime := by rw [hquiesce]
      refine ⟨_, _, rfl, .modify h ?_ rfl ⟨hready, ?_, hprevious, ?_⟩ fun _ => id⟩
      · intro found hfound hinv
        rw [hsome] at hfound
        cases hfound
        have hgood := Runtime.HubRuntime.quiesce_good hinv
        rw [hruntime] at hgood
        exact hgood.1
      · refine serves_modifyRuntime hserves ?_
        intro found hfound _
        rw [hsome] at hfound
        cases hfound
        refine ⟨rfl, ?_⟩
        change runtime.closed = built.runtime.closed
        rw [← hruntime]
        exact closed_quiesce _
      · obtain ⟨holder, hholder, hfreezing⟩ := quiesce_guard hquiesce
        refine ⟨_, getElem?_modifyRuntime hsome, holder, ?_, hfreezing⟩
        rw [if_pos rfl]
        exact hholder

theorem fail_standing (hreplacing : Replacing service quiet)
    (hserves : error.isTask = false → Serves same service service.published) :
    Standing same service (fail quiet error) := by
  unfold fail
  by_cases htask : error.isTask = true
  · rw [if_pos htask]
    exact ⟨hreplacing.1, hreplacing.2.2⟩
  · rw [if_neg htask]
    have herror : error.isTask = false := by simpa using htask
    exact ⟨hreplacing, hserves herror, herror⟩

theorem fail_running (quiet : Quiet) (error : UpdateError) :
    (fail quiet error : Stage Details).running = true := by
  unfold fail
  split <;> rfl

variable {origin : HubService Details}

theorem fail_refuses (hpending : error.isTask = false → Pending origin service) :
    Refuses origin service (fail quiet error) := by
  unfold fail
  by_cases htask : error.isTask = true
  · rw [if_pos htask]
    trivial
  · rw [if_neg htask]
    exact hpending

theorem fail_move (h : Inv same service) {quiet : Quiet} (error : UpdateError) {stage : Stage Details}
    (hreplacing : Replacing service quiet)
    (hserves : error.isTask = false → Serves same service service.published)
    (hrefuses : ∀ origin, Refuses origin service stage → error.isTask = false →
      Pending origin service) : Move same service service stage (fail quiet error) :=
  .here h (fail_running quiet error) (fail_standing hreplacing hserves) fun origin hstage =>
    fail_refuses (hrefuses origin hstage)

theorem prepare_move (h : Inv same service) (dialect : Dialect Details) (index : Nat)
    (apply : Apply Details) (outcome : Outcome Details)
    (hstanding : Standing same service (.preparing quiet)) :
    ∃ core stage', service.prepare dialect index apply quiet outcome = core.setStage index stage'
      ∧ Move same service core (.preparing quiet) stage' := by
  obtain ⟨hreplacing, hserves⟩ := hstanding
  have hfail : ∀ error, Move same service service (.preparing quiet) (fail quiet error) :=
    fun error => fail_move h error hreplacing (fun _ => hserves) fun _ hpending _ => hpending
  unfold prepare
  split
  · exact ⟨_, _, rfl, hfail _⟩
  · split
    · exact ⟨_, _, rfl, hfail _⟩
    · split
      · exact ⟨_, _, rfl, hfail _⟩
      · exact ⟨_, _, rfl, .here h rfl ⟨hreplacing, hserves⟩ fun _ => id⟩

theorem same_of_buildChecked {built : Except (List FieldError) (HubConfig Details)}
    {config configuration : HubConfig Details}
    (hbuilt : buildChecked same built config = .ok configuration) :
    same configuration config = true := by
  unfold buildChecked at hbuilt
  split at hbuilt
  · cases hbuilt
  · split at hbuilt
    · next hsame =>
      cases hbuilt
      exact hsame
    · cases hbuilt

theorem build_move (h : Inv same service) (index : Nat) {prepared : PreparedConfig Details}
    (outcome : Outcome Details) (hstanding : Standing same service (.building quiet prepared)) :
    ∃ core stage', service.build same index quiet prepared outcome = core.setStage index stage'
      ∧ Move same service core (.building quiet prepared) stage' := by
  obtain ⟨hreplacing, hserves⟩ := hstanding
  have hfail : ∀ error,
      Move same service service (.building quiet prepared) (fail quiet error) :=
    fun error => fail_move h error hreplacing (fun _ => hserves) fun _ hpending _ => hpending
  unfold build
  split
  · exact ⟨_, _, rfl, hfail _⟩
  · split
    · exact ⟨_, _, rfl, hfail _⟩
    · next configuration hbuilt =>
      refine ⟨_, _, rfl, ?_⟩
      have hkeep : ∀ (other : Nat) (built : Built Details), service.runtimes[other]? = some built →
          (service.runtimes ++ [⟨configuration, .new outcome.outputs, false⟩])[other]?
            = some built := by
        intro other built hsome
        rw [List.getElem?_append_left (List.getElem?_eq_some_iff.mp hsome).1]
        exact hsome
      obtain ⟨happlying, hpublished, old, hold, hguard⟩ := hreplacing
      obtain ⟨serving, hserving, hclosed, hsame⟩ := hserves
      constructor
      case standing =>
        refine ⟨⟨happlying, hpublished, old, hkeep _ _ hold, hguard⟩,
          ⟨serving, hkeep _ _ hserving, hclosed, hsame⟩, ?_,
          ⟨configuration, .new outcome.outputs, false⟩, by simp, rfl, same_of_buildChecked hbuilt⟩
        have hlt := (List.getElem?_eq_some_iff.mp hserving).1
        change service.runtimes.length ≠ service.published
        omega
      case runtimes =>
        intro built hmem
        rcases List.mem_append.mp hmem with hold | hnew
        · exact h.runtimes built hold
        · rw [List.mem_singleton.mp hnew]
          exact Runtime.HubRuntime.new_inv _
      case replaced => exact fun hne => absurd rfl hne
      case refuses => exact fun _ => id
      case settled => exact id
      all_goals rfl

theorem commit_cases (store : ConfigStore Details) (prepared : PreparedConfig Details)
    (persist : Persist) : ((store.commit prepared persist).2.current = prepared.next
        ∧ ∀ error, (store.commit prepared persist).1 = .error error →
          ∃ configuration reason, error = .committed configuration reason)
      ∨ (store.commit prepared persist).2 = store
        ∧ ∃ error, (store.commit prepared persist).1 = .error error
          ∧ ∀ configuration reason, error ≠ .committed configuration reason := by
  unfold ConfigStore.commit
  split
  · exact .inr ⟨rfl, _, rfl, fun _ _ herror => by cases herror⟩
  · dsimp only
    split
    · cases persist with
      | durable => exact .inl ⟨rfl, fun _ herror => by cases herror⟩
      | failed error => exact .inr ⟨rfl, _, rfl, fun _ _ herror => by cases herror⟩
      | unflushed error =>
        refine .inl ⟨rfl, fun found herror => ?_⟩
        cases herror
        exact ⟨_, _, rfl⟩
    · exact .inl ⟨rfl, fun _ herror => by cases herror⟩

theorem commit_move (h : Inv same service) (index : Nat) {prepared : PreparedConfig Details}
    {next : Nat} (outcome : Outcome Details)
    (hstanding : Standing same service (.committing quiet prepared next)) :
    ∃ core stage', service.commit index quiet prepared next outcome = core.setStage index stage'
      ∧ Move same service core (.committing quiet prepared next) stage' := by
  obtain ⟨hreplacing, hserves, hnext, built, hbuilt, hclosed, hsame⟩ := hstanding
  have hmove : ∀ (store : Option (ConfigStore Details)) (stage' : Stage Details),
      stage'.running = true → Standing same { service with store := store } stage' →
      (∀ origin, Pending origin service → Refuses origin { service with store := store } stage') →
      Move same service { service with store := store } (.committing quiet prepared next) stage' :=
    fun _ _ hrunning hstage hrefuses =>
      ⟨rfl, rfl, rfl, h.runtimes, hrunning, hstage, id, fun hne => absurd rfl hne, hrefuses⟩
  have htask : ∀ store : Option (ConfigStore Details),
      Move same service { service with store := store } (.committing quiet prepared next)
        (.discarding quiet next .task) :=
    fun store => hmove store _ rfl ⟨hreplacing, hnext, fun herror => by cases herror⟩
      fun _ _ herror => by cases herror
  unfold commit
  split
  · exact ⟨_, _, rfl, htask service.store⟩
  · next store hstore =>
    split
    · exact ⟨_, _, rfl, htask _⟩
    · dsimp only
      rcases commit_cases store prepared outcome.persist with
        ⟨hcurrent, honly⟩ | ⟨hkept, error, herror, hother⟩
      · have hcleaning : Move same service
            { service with store := some (store.commit prepared outcome.persist).2 }
            (.committing quiet prepared next) (.cleaning quiet next) := by
          refine hmove _ _ rfl ⟨hreplacing, hnext, built, hbuilt, hclosed, ?_⟩ fun _ _ => trivial
          intro after hafter
          cases hafter
          rw [hcurrent]
          exact hsame
        split
        · exact ⟨_, _, rfl, hcleaning⟩
        · exact ⟨_, _, rfl, hcleaning⟩
        · next error hneither herror =>
          obtain ⟨configuration, reason, rfl⟩ := honly error herror
          exact absurd rfl (hneither configuration reason)
      · rw [herror, hkept]
        have hpending : ∀ origin, Pending origin service →
            Pending origin { service with store := some store } := by
          intro origin hpending
          exact ⟨hstore.symm.trans hpending.1, hpending.2⟩
        have hrefused : Move same service { service with store := some store }
            (.committing quiet prepared next) (.discarding quiet next (updateError error)) := by
          refine hmove _ _ rfl ⟨hreplacing, hnext, fun _ => ?_⟩
            fun origin horigin _ => hpending origin horigin
          obtain ⟨serving, hserving, hopen, hcurrent⟩ := hserves
          refine ⟨serving, hserving, hopen, fun found hfound => hcurrent found ?_⟩
          exact hstore.trans hfound
        cases error with
        | committed configuration reason => exact absurd rfl (hother configuration reason)
        | _ => exact ⟨_, _, rfl, hrefused⟩

theorem drain_move (h : Inv same service) {index : Nat}
    (happly : service.applies[index]? = some apply) {stage : Stage Details}
    (hstage : apply.stage = stage) (hrunning : stage.running = true) (other : Nat) (returns : Bool)
    (hstanding : (∀ quiet, Guarded service quiet → Guarded (service.drain other returns) quiet) →
      (∀ index, other ≠ index → Serves same service index →
        Serves same (service.drain other returns) index) →
      Standing same (service.drain other returns) stage)
    (hrefuses : ∀ origin, Refuses origin service stage →
      Refuses origin (service.drain other returns) stage) :
    ∃ core stage', service.drain other returns = core.setStage index stage'
      ∧ Move same service core stage stage' := by
  subst hstage
  have happlies : (service.drain other returns).applies[index]? = some apply := happly
  refine ⟨service.drain other returns, apply.stage, (setStage_self happlies).symm, ?_⟩
  refine .modify h (fun _ _ hinv => (drain_good hinv returns).1) hrunning (hstanding ?_ ?_) hrefuses
  · intro quiet hguarded
    refine guarded_modifyRuntime hguarded fun built hsome => ?_
    exact (drain_good (h.runtimes built (List.mem_of_getElem? hsome)) returns).2
  · intro index hne hserves
    exact serves_modifyRuntime hserves fun _ _ hindex => absurd hindex hne

theorem discard_move (h : Inv same service)
    (happly : service.applies[index]? = some apply) {next : Nat}
    (hstage : apply.stage = .discarding quiet next error)
    (hstanding : Standing same service (.discarding quiet next error)) (returns : Bool) :
    ∃ core stage', (if service.isStopped next then
          service.setStage index (fail quiet error)
        else service.drain next returns) = core.setStage index stage'
      ∧ Move same service core (.discarding quiet next error) stage' := by
  obtain ⟨hreplacing, hnext, hserves⟩ := hstanding
  split
  · exact ⟨_, _, rfl, fail_move h error hreplacing hserves fun _ => id⟩
  · refine drain_move h happly hstage rfl next returns ?_ fun _ => id
    intro hguarded hkept
    exact ⟨⟨hreplacing.1, hreplacing.2.1, hguarded quiet hreplacing.2.2⟩, hnext,
      fun herror => hkept _ hnext (hserves herror)⟩

theorem calm_of_settled (hsettled : Settled service) : Calm same service := by
  constructor
  · intro hphase
    rcases hsettled with h | h <;> rw [hphase] at h <;> cases h
  · intro hphase
    rcases hsettled with h | h <;> rw [hphase] at h <;> cases h

theorem not_settled (happlying : service.phase = .applying) : ¬Settled service := by
  intro hsettled
  rcases hsettled with h | h <;> rw [happlying] at h <;> cases h

theorem block_settled (service : HubService Details) : Settled service.block := by
  by_cases hphase : service.phase = .stopped
  · exact .inr (if_pos hphase)
  · exact .inl (if_neg hphase)

theorem failing_move (h : Inv same service)
    (hstanding : Standing same service (.failing quiet error)) :
    Move same service { service with phase := .ready } (.failing quiet error)
      (.leaving quiet (some error)) := by
  obtain ⟨hreplacing, hserves, -⟩ := hstanding
  constructor
  case standing => exact ⟨⟨fun hphase => (by cases hphase), fun _ => hserves⟩, hreplacing.2.2,
    fun _ _ _ => ⟨rfl, hreplacing.2.1⟩⟩
  case runtimes => exact h.runtimes
  case settled => exact fun hsettled => absurd hsettled (not_settled hreplacing.1)
  case replaced => exact fun hne => absurd rfl hne
  case refuses =>
    intro origin hpending herror
    obtain ⟨hstore, hpublished, hphase⟩ := hpending herror
    exact ⟨hstore, hpublished, hphase.symm⟩
  all_goals rfl

theorem block_move (h : Inv same service) {stage stage' : Stage Details}
    (hrunning : stage'.running = true) (hstanding : Standing same service.block stage')
    (hrefuses : ∀ origin, Refuses origin service.block stage') :
    Move same service service.block stage stage' := by
  constructor
  case standing => exact hstanding
  case runtimes => exact h.runtimes
  case settled => exact fun _ => block_settled service
  case replaced => exact fun hne => absurd rfl hne
  case refuses => exact fun origin _ => hrefuses origin
  case running => exact hrunning
  all_goals rfl

theorem draining_move (h : Inv same service)
    (happly : service.applies[index]? = some apply) (hstage : apply.stage = .draining quiet)
    (hstanding : Standing same service (.draining quiet)) (returns : Bool) :
    ∃ core stage', (if service.isStopped service.published then
          service.setStage index (.leaving quiet (some .task))
        else service.drain service.published returns) = core.setStage index stage'
      ∧ Move same service core (.draining quiet) stage' := by
  split
  · have htask : ∀ found, some UpdateError.task = some found → found.isTask = false →
        service.phase = .ready ∧ quiet.runtime = service.published := by
      intro found hfound herror
      cases hfound
      cases herror
    exact ⟨_, _, rfl, .here h rfl ⟨calm_of_settled hstanding.1, hstanding.2, htask⟩
      fun _ _ herror => by cases herror⟩
  · refine drain_move h happly hstage rfl _ returns ?_ fun _ => id
    exact fun hguarded _ => ⟨hstanding.1, hguarded quiet hstanding.2⟩

theorem cleaning_move (h : Inv same service)
    (happly : service.applies[index]? = some apply) {next : Nat}
    (hstage : apply.stage = .cleaning quiet next)
    (hstanding : Standing same service (.cleaning quiet next)) (outcome : Outcome Details) :
    ∃ core stage', (if service.isStopped quiet.runtime then
          service.setStage index (.publishing quiet next outcome.cleanup)
        else service.drain quiet.runtime outcome.returns) = core.setStage index stage'
      ∧ Move same service core (.cleaning quiet next) stage' := by
  obtain ⟨hreplacing, hnext, hserves⟩ := hstanding
  split
  · next hstopped =>
    exact ⟨_, _, rfl, .here h rfl ⟨hreplacing, hserves, hstopped⟩ fun _ _ => trivial⟩
  · refine drain_move h happly hstage rfl _ outcome.returns ?_ fun _ => id
    intro hguarded hkept
    refine ⟨⟨hreplacing.1, hreplacing.2.1, hguarded quiet hreplacing.2.2⟩, hnext, ?_⟩
    refine hkept next ?_ hserves
    rw [hreplacing.2.1]
    exact hnext.symm

theorem idle_of_guarded (h : Inv same service) (hguarded : Guarded service quiet) :
    ∃ built, service.runtimes[quiet.runtime]? = some built
      ∧ built.runtime.inProgress Runtime.Role.admitted = 0 := by
  obtain ⟨built, hsome, holder, hholder, hfreezing⟩ := hguarded
  have hinv := h.runtimes built (List.mem_of_getElem? hsome)
  have hfrozen := Runtime.frozen_of_guard hinv hholder hfreezing
  refine ⟨built, hsome, ?_⟩
  unfold Runtime.HubRuntime.inProgress
  rw [List.countP_eq_zero]
  intro other hmem hboth
  rw [Bool.and_eq_true] at hboth
  rw [hinv.still hfrozen other hmem hboth.2] at hboth
  cases hboth.1

theorem publish_move (h : Inv same service) {next : Nat} (cleanup : Cleanup)
    (hstanding : Standing same service (.publishing quiet next cleanup)) :
    Move same service
      { service with published := next, phase := if cleanup.isEmpty then .ready else .blocked }
      (.publishing quiet next cleanup) (.leaving quiet none) := by
  obtain ⟨hreplacing, hserves, hstopped⟩ := hstanding
  constructor
  case standing =>
    refine ⟨⟨?_, fun _ => hserves⟩, hreplacing.2.2, fun _ hfound => by cases hfound⟩
    change (if cleanup.isEmpty then Phase.ready else Phase.blocked) ≠ .applying
    split <;> exact fun hphase => by cases hphase
  case runtimes => exact h.runtimes
  case settled => exact fun hsettled => absurd hsettled (not_settled hreplacing.1)
  case replaced =>
    intro _
    obtain ⟨built, hsome, hidle⟩ := idle_of_guarded h hreplacing.2.2
    refine ⟨built, ?_, ?_, hidle⟩
    · rw [← hreplacing.2.1]
      exact hsome
    · unfold isStopped at hstopped
      rw [hsome] at hstopped
      exact hstopped
  case refuses => exact fun _ _ => trivial
  all_goals rfl

theorem lift_move (h : Inv same service) {quiet : Quiet} {stage stage' : Stage Details}
    (hrunning : stage'.running = true)
    (hstanding : (∀ index, Serves same service index → Serves same (service.lift quiet) index) →
      Standing same (service.lift quiet) stage')
    (hrefuses : ∀ origin, Refuses origin service stage →
      Refuses origin (service.lift quiet) stage') :
    Move same service (service.lift quiet) stage stage' := by
  refine .modify h (fun _ _ hinv => (Runtime.HubRuntime.lift_inv hinv _).1) hrunning
    (hstanding ?_) hrefuses
  intro index hserves
  exact serves_modifyRuntime hserves fun _ _ _ => ⟨rfl, closed_lift _ _⟩

theorem mending_move (h : Inv same service)
    (happly : service.applies[index]? = some apply) (hstage : apply.stage = .mending)
    (hstanding : Standing same service .mending) (outcome : Outcome Details) :
    ∃ core stage', (if outcome.panics || service.isStopped service.published then
          service.setStage index (.finished (some .task))
        else service.drain service.published outcome.returns) = core.setStage index stage'
      ∧ Move same service core .mending stage' := by
  split
  · exact ⟨_, _, rfl, .here h rfl (calm_of_settled hstanding) fun _ _ herror => by cases herror⟩
  · exact drain_move h happly hstage rfl _ outcome.returns (fun _ _ => hstanding) fun _ => id

theorem crash_move (h : Inv same service) (index : Nat) {stage : Stage Details}
    (hrunning : stage.running = true) (hstanding : Standing same service stage) :
    ∃ core stage', service.crash index stage.quiet = core.setStage index stage'
      ∧ Move same service core stage stage' := by
  cases hquiet : stage.quiet with
  | none => exact ⟨_, _, rfl, .here h rfl (hstanding.ready hrunning) fun _ _ => trivial⟩
  | some quiet =>
    exact ⟨_, _, rfl, .here h rfl ⟨hstanding.ready hrunning, hstanding.guarded hquiet⟩
      fun _ _ => trivial⟩

theorem advance_move (h : Inv same service) (dialect : Dialect Details)
    (happly : service.applies[index]? = some apply) (hrunning : apply.stage.running = true)
    (hfinished : ∀ error, apply.stage ≠ .finished error) (outcome : Outcome Details) :
    ∃ core stage', service.advance dialect same index outcome = core.setStage index stage'
      ∧ Move same service core apply.stage stage' := by
  have hstanding := h.standing apply (List.mem_of_getElem? happly) hrunning
  unfold HubService.advance
  rw [happly]
  dsimp only
  split
  · exact crash_move h index hrunning hstanding
  · unfold advanceAt
    cases hstage : apply.stage with
    | started =>
      rw [hstage] at hstanding
      dsimp only
      split
      · next hready =>
        exact ⟨_, _, rfl, .here h rfl ⟨hready, hstanding.2 hready, rfl⟩ fun _ => id⟩
      · exact ⟨_, _, rfl, .here h rfl hstanding fun _ hunchanged _ => hunchanged⟩
    | found previous =>
      rw [hstage] at hstanding
      exact quiesce_move h index hstanding
    | quieted quiet =>
      rw [hstage] at hstanding
      obtain ⟨hready, hserves, hruntime, hguarded⟩ := hstanding
      refine ⟨_, _, rfl, ?_⟩
      constructor
      case standing => exact ⟨⟨rfl, hruntime, hguarded⟩, hserves⟩
      case runtimes => exact h.runtimes
      case settled =>
        intro hsettled
        rcases hsettled with hphase | hphase <;> rw [hready] at hphase <;> cases hphase
      case replaced => exact fun hne => absurd rfl hne
      case refuses =>
        intro origin hunchanged
        exact ⟨hunchanged.1, hunchanged.2.1, hunchanged.2.2.symm.trans hready⟩
      all_goals rfl
    | preparing quiet =>
      rw [hstage] at hstanding
      exact prepare_move h dialect index apply outcome hstanding
    | building quiet prepared =>
      rw [hstage] at hstanding
      exact build_move h index outcome hstanding
    | committing quiet prepared next =>
      rw [hstage] at hstanding
      exact commit_move h index outcome hstanding
    | discarding quiet next error =>
      rw [hstage] at hstanding
      exact discard_move h happly hstage hstanding outcome.returns
    | failing quiet error =>
      rw [hstage] at hstanding
      exact ⟨_, _, rfl, failing_move h hstanding⟩
    | blocking quiet =>
      rw [hstage] at hstanding
      exact ⟨_, _, rfl, block_move h rfl ⟨block_settled service, hstanding.2⟩ fun _ => trivial⟩
    | draining quiet =>
      rw [hstage] at hstanding
      exact draining_move h happly hstage hstanding outcome.returns
    | cleaning quiet next =>
      rw [hstage] at hstanding
      exact cleaning_move h happly hstage hstanding outcome
    | publishing quiet next cleanup =>
      rw [hstage] at hstanding
      exact ⟨_, _, rfl, publish_move h cleanup hstanding⟩
    | leaving quiet error =>
      rw [hstage] at hstanding
      refine ⟨_, _, rfl, lift_move h rfl ?_ ?_⟩
      · intro hserves
        exact ⟨hstanding.1.1, fun hready => hserves _ (hstanding.1.2 hready)⟩
      · intro origin
        cases error <;> exact id
    | unwinding quiet =>
      rw [hstage] at hstanding
      refine ⟨_, _, rfl, lift_move h rfl ?_ fun _ _ => trivial⟩
      exact fun hserves hready => hserves _ (hstanding.1 hready)
    | crashed =>
      exact ⟨_, _, rfl, block_move h rfl (block_settled service) fun _ => trivial⟩
    | mending =>
      rw [hstage] at hstanding
      exact mending_move h happly hstage hstanding outcome
    | finished error => exact absurd hstage (hfinished error)
    | over_ error =>
      rw [hstage] at hrunning
      cases hrunning

structure Steps (before after : HubService Details) : Prop where
  settled : Settled before → Settled after
  replaced : after.published ≠ before.published → Replaced before

theorem Steps.still (hpublished : after.published = service.published)
    (hsettled : Settled service → Settled after) : Steps service after :=
  ⟨hsettled, fun hne => absurd hpublished hne⟩

theorem finish_inv (h : Inv same service)
    (happly : service.applies[index]? = some apply) {error : Option UpdateError}
    (hstage : apply.stage = .finished error) :
    Inv same { service.setStage index (.over_ error) with update := none } := by
  have hrunning : apply.stage.running = true := by rw [hstage]; rfl
  have howner := h.owner index apply happly hrunning
  have hcalm : Calm same service := by
    have hstanding := h.standing apply (List.mem_of_getElem? happly) hrunning
    rw [hstage] at hstanding
    exact hstanding
  have hover : ∀ found ∈ (service.setStage index (.over_ error)).applies,
      found.stage.running = false := by
    intro found hmem
    obtain ⟨other, hfound⟩ := List.getElem?_of_mem hmem
    simp only [setStage, List.getElem?_modify, Option.map_eq_map, Option.map_eq_some_iff] at hfound
    obtain ⟨old, hold, rfl⟩ := hfound
    by_cases hother : index = other
    · rw [if_pos hother]
      rfl
    · rw [if_neg hother]
      by_contra hne
      have howner' := h.owner other old hold (by simpa using hne)
      rw [howner] at howner'
      cases howner'
      exact hother rfl
  constructor
  case runtimes => exact h.runtimes
  case owner =>
    intro other found hfound hrunning'
    rw [hover found (List.mem_of_getElem? hfound)] at hrunning'
    cases hrunning'
  case stopping =>
    intro other hdraining
    have hlock := (h.stopping other hdraining).1
    rw [howner] at hlock
    cases hlock
  case standing =>
    intro found hmem hrunning'
    rw [hover found hmem] at hrunning'
    cases hrunning'
  case idle => exact fun _ => hcalm

/-! ## Operations of the service -/

theorem advance_cases (h : Inv same service) (dialect : Dialect Details) (index : Nat)
    (outcome : Outcome Details) :
    service.advance dialect same index outcome = service
      ∨ (∃ apply core stage', service.applies[index]? = some apply ∧ apply.stage.running = true
        ∧ service.advance dialect same index outcome = core.setStage index stage'
        ∧ Move same service core apply.stage stage')
      ∨ ∃ apply error, service.applies[index]? = some apply ∧ apply.stage = .finished error
        ∧ service.advance dialect same index outcome
          = { service.setStage index (.over_ error) with update := none } := by
  cases happly : service.applies[index]? with
  | none =>
    refine .inl ?_
    unfold HubService.advance
    rw [happly]
  | some apply =>
    by_cases hrunning : apply.stage.running = true
    · by_cases hfinished : ∃ error, apply.stage = .finished error
      · obtain ⟨error, hstage⟩ := hfinished
        refine .inr (.inr ⟨apply, error, rfl, hstage, ?_⟩)
        unfold HubService.advance advanceAt
        rw [happly]
        simp only [hstage, Stage.fragile, Bool.and_false]
        rfl
      · obtain ⟨core, stage', hadvance, hmove⟩ := advance_move h dialect happly hrunning
          (fun error hstage => hfinished ⟨error, hstage⟩) outcome
        exact .inr (.inl ⟨apply, core, stage', rfl, hrunning, hadvance, hmove⟩)
    · refine .inl ?_
      have hover : ∃ error, apply.stage = .over_ error := by
        cases hstage : apply.stage with
        | over_ error => exact ⟨error, rfl⟩
        | _ => exact absurd (by rw [hstage]; rfl) hrunning
      obtain ⟨error, hstage⟩ := hover
      unfold HubService.advance advanceAt
      rw [happly]
      simp only [hstage, Stage.fragile, Bool.and_false]
      rfl

theorem advance_inv (h : Inv same service) (dialect : Dialect Details) (index : Nat)
    (outcome : Outcome Details) : Inv same (service.advance dialect same index outcome)
      ∧ Steps service (service.advance dialect same index outcome) := by
  rcases advance_cases h dialect index outcome with hsame |
    ⟨apply, core, stage', happly, hrunning, hadvance, hmove⟩ | ⟨apply, error, happly, hstage, hadvance⟩
  · rw [hsame]
    exact ⟨h, .still rfl id⟩
  · rw [hadvance]
    exact ⟨h.stage happly hrunning hmove.applies hmove.update hmove.shutdowns hmove.runtimes
      hmove.running hmove.standing, hmove.settled, hmove.replaced⟩
  · rw [hadvance]
    exact ⟨finish_inv h happly hstage, .still rfl id⟩

theorem Inv.over_ (h : Inv same service) (hupdate : ∀ index, service.update ≠ some (.apply index)) :
    ∀ found ∈ service.applies, found.stage.running = false := by
  intro found hmem
  obtain ⟨other, hfound⟩ := List.getElem?_of_mem hmem
  by_contra hne
  exact hupdate other (h.owner other found hfound (by simpa using hne))

theorem apply_inv (h : Inv same service) (expected : Uuid) (candidate : HubConfig Details) :
    Inv same (service.apply expected candidate).2
      ∧ Steps service (service.apply expected candidate).2 := by
  unfold HubService.apply
  split
  · exact ⟨h, .still rfl id⟩
  · split
    · exact ⟨h, .still rfl id⟩
    · next hfree =>
      have hfree : service.update = none := by simpa using hfree
      have hover := h.over_ fun index howner => by
        rw [hfree] at howner
        cases howner
      refine ⟨?_, .still rfl id⟩
      constructor
      case runtimes => exact h.runtimes
      case owner =>
        intro other found hfound hrunning
        change some _ = some _
        by_cases hlt : other < service.applies.length
        · change (service.applies ++ [_])[other]? = some found at hfound
          rw [List.getElem?_append_left hlt] at hfound
          rw [hover found (List.mem_of_getElem? hfound)] at hrunning
          cases hrunning
        · have hbound := (List.getElem?_eq_some_iff.mp hfound).1
          change other < (service.applies ++ [_]).length at hbound
          rw [List.length_append, List.length_singleton] at hbound
          have heq : other = service.applies.length := by omega
          rw [heq]
      case stopping =>
        intro other hdraining
        have hlock := (h.stopping other hdraining).1
        rw [hfree] at hlock
        cases hlock
      case standing =>
        intro found hmem hrunning
        rcases List.mem_append.mp hmem with hold | hnew
        · rw [hover found hold] at hrunning
          cases hrunning
        · rw [List.mem_singleton.mp hnew]
          exact h.idle hover
      case idle =>
        intro hnone
        have hnew := hnone ⟨expected, candidate, .started⟩ (List.mem_append.mpr (.inr (by simp)))
        cases hnew

theorem Inv.resting (hover : ∀ found ∈ after.applies, found.stage.running = false)
    (hruntimes : ∀ built ∈ after.runtimes, built.runtime.Inv)
    (hstopping : ∀ index, after.shutdowns[index]? = some Stopping.draining →
      after.update = some (.shutdown index) ∧ after.phase = .stopped)
    (hcalm : Calm same after) : Inv same after where
  runtimes := hruntimes
  owner := by
    intro index apply happly hrunning
    rw [hover apply (List.mem_of_getElem? happly)] at hrunning
    cases hrunning
  stopping := hstopping
  standing := by
    intro apply hmem hrunning
    rw [hover apply hmem] at hrunning
    cases hrunning
  idle := fun _ => hcalm

theorem getElem?_setStopping {other : Nat} {stopping : Stopping}
    (hdraining : (service.setStopping index stopping).shutdowns[other]? = some .draining) :
    (other = index ∧ stopping = .draining)
      ∨ other ≠ index ∧ service.shutdowns[other]? = some .draining := by
  change (service.shutdowns.set index stopping)[other]? = some .draining at hdraining
  rw [List.getElem?_set] at hdraining
  by_cases hindex : index = other
  · rw [if_pos hindex] at hdraining
    split at hdraining
    · cases hdraining
      exact .inl ⟨hindex.symm, rfl⟩
    · cases hdraining
  · rw [if_neg hindex] at hdraining
    exact .inr ⟨fun heq => hindex heq.symm, hdraining⟩

theorem done_inv (h : Inv same service) (hdraining : service.shutdowns[index]? = some .draining) :
    Inv same ({ service with update := none }.setStopping index .done) := by
  obtain ⟨hlock, hphase⟩ := h.stopping index hdraining
  refine .resting (h.over_ fun other howner => ?_) h.runtimes ?_ (calm_of_settled (.inr hphase))
  · rw [hlock] at howner
    cases howner
  · intro other hother
    rcases getElem?_setStopping hother with ⟨-, hdone⟩ | ⟨hne, hbefore⟩
    · cases hdone
    · have hlock' := (h.stopping other hbefore).1
      rw [hlock] at hlock'
      cases hlock'
      exact absurd rfl hne

theorem proceed_inv (h : Inv same service) (index : Nat) (outcome : Outcome Details) :
    Inv same (service.proceed index outcome) ∧ Steps service (service.proceed index outcome) := by
  unfold HubService.proceed
  split
  · split
    · next hfree =>
      refine ⟨.resting (h.over_ fun other howner => ?_) h.runtimes ?_
        (calm_of_settled (.inr rfl)), .still rfl fun _ => .inr rfl⟩
      · rw [hfree] at howner
        cases howner
      · intro other hother
        rcases getElem?_setStopping hother with ⟨rfl, -⟩ | ⟨-, hbefore⟩
        · exact ⟨rfl, rfl⟩
        · have hlock := (h.stopping other hbefore).1
          rw [hfree] at hlock
          cases hlock
    · exact ⟨h, .still rfl id⟩
  · next hdraining =>
    obtain ⟨hlock, hphase⟩ := h.stopping index hdraining
    split
    · exact ⟨done_inv h hdraining, .still rfl id⟩
    · refine ⟨.resting (h.over_ fun other howner => ?_) ?_ h.stopping
        (calm_of_settled (.inr hphase)), .still rfl id⟩
      · rw [hlock] at howner
        cases howner
      · exact modifyRuntime_inv h.runtimes fun built hsome =>
          (drain_good (h.runtimes built (List.mem_of_getElem? hsome)) outcome.returns).1
  · exact ⟨h, .still rfl id⟩

theorem leave_inv (h : Inv same service) (index : Nat) :
    Inv same (service.leave index) ∧ Steps service (service.leave index) := by
  unfold HubService.leave
  split
  · refine ⟨⟨h.runtimes, h.owner, ?_, ?_, h.idle⟩, .still rfl id⟩
    · intro other hother
      rcases getElem?_setStopping hother with ⟨-, hdone⟩ | ⟨-, hbefore⟩
      · cases hdone
      · exact h.stopping other hbefore
    · intro apply hmem hrunning
      exact (h.standing apply hmem hrunning).kept rfl rfl (fun _ hserves => hserves)
        (fun _ built hsome => ⟨built, hsome, rfl, rfl, id⟩) fun _ _ hguarded => hguarded
  · next hdraining => exact ⟨done_inv h hdraining, .still rfl id⟩
  · exact ⟨h, .still rfl id⟩

theorem shutdown_inv (h : Inv same service) :
    Inv same { service with shutdowns := service.shutdowns ++ [.waiting] } := by
  refine ⟨h.runtimes, h.owner, ?_, ?_, h.idle⟩
  · intro index hdraining
    refine h.stopping index ?_
    change (service.shutdowns ++ [Stopping.waiting])[index]? = _ at hdraining
    rw [List.getElem?_append] at hdraining
    split at hdraining
    · exact hdraining
    · have hwaiting := List.mem_of_getElem? hdraining
      cases List.mem_singleton.mp hwaiting
  · intro apply hmem hrunning
    exact (h.standing apply hmem hrunning).kept rfl rfl (fun _ hserves => hserves)
      (fun _ built hsome => ⟨built, hsome, rfl, rfl, id⟩) fun _ _ hguarded => hguarded

theorem update_inv (h : Inv same service) {update : Option Owner}
    (hother : service.update = none ∨ service.update = some .other) :
    Inv same { service with update := update } := by
  have hover := h.over_ fun index howner => by
    rcases hother with hfree | hfree <;> rw [hfree] at howner <;> cases howner
  refine .resting hover h.runtimes ?_ (h.idle hover)
  intro index hdraining
  have hlock := (h.stopping index hdraining).1
  rcases hother with hfree | hfree <;> rw [hfree] at hlock <;> cases hlock

theorem guarded_external {op : Runtime.Op} (h : Inv same service)
    (hop : service.external index op = true)
    (hmem : apply ∈ service.applies) (hquiet : apply.stage.quiet = some quiet)
    (hguarded : Guarded service quiet) :
    Guarded (service.modifyRuntime index fun built =>
      { built with runtime := (Runtime.step built.runtime op).2 }) quiet := by
  by_cases hlift : ∃ guard, op = .lift guard
  · obtain ⟨guard, rfl⟩ := hlift
    have hother := List.all_eq_true.mp hop apply hmem
    rw [hquiet] at hother
    obtain ⟨built, hsome, holder, hholder, hfreezing⟩ := hguarded
    refine ⟨_, getElem?_modifyRuntime hsome, holder, ?_, hfreezing⟩
    by_cases hindex : index = quiet.runtime
    · rw [if_pos hindex]
      have hsame : built.runtime.lift guard = built.runtime := by
        refine Runtime.lift_other fun holder' hholder' => ?_
        by_contra hfreezing'
        have hguard := Runtime.guard_unique (h.runtimes built (List.mem_of_getElem? hsome)) hholder
          hholder' hfreezing (by simpa using hfreezing')
        rw [hindex, hguard] at hother
        simp at hother
      change (built.runtime.lift guard).holders[quiet.guard]? = some holder
      rw [hsame]
      exact hholder
    · rw [if_neg hindex]
      exact hholder
  · refine guarded_modifyRuntime hguarded fun built hsome => ?_
    have hinv := h.runtimes built (List.mem_of_getElem? hsome)
    exact (Runtime.step_good hinv op fun guard hguard => hlift ⟨guard, hguard⟩).2

theorem runtimeStep_inv (h : Inv same service) (index : Nat) (op : Runtime.Op) :
    Inv same (service.runtimeStep index op) ∧ Steps service (service.runtimeStep index op) := by
  unfold runtimeStep
  split
  · next hop =>
    have hshutdown : op ≠ .shutdown := by
      intro hshutdown
      rw [hshutdown] at hop
      cases hop
    have hserves : ∀ other, Serves same service other →
        Serves same (service.modifyRuntime index fun built =>
          { built with runtime := (Runtime.step built.runtime op).2 }) other :=
      fun other hserves => serves_modifyRuntime hserves fun _ _ _ => ⟨rfl, closed_step _ hshutdown⟩
    refine ⟨h.still rfl rfl rfl rfl ?_ ?_ ?_, .still rfl id⟩
    · exact modifyRuntime_inv h.runtimes fun built hsome =>
        (Runtime.step_inv (h.runtimes built (List.mem_of_getElem? hsome)) op).1
    · intro apply hmem _ hstanding
      refine hstanding.kept rfl rfl hserves ?_ fun quiet hquiet => guarded_external h hop hmem hquiet
      intro other built hsome
      refine ⟨_, getElem?_modifyRuntime hsome, ?_⟩
      split
      · exact ⟨rfl, closed_step _ hshutdown, id⟩
      · exact ⟨rfl, rfl, id⟩
    · exact fun hcalm => ⟨hcalm.1, fun hready => hserves _ (hcalm.2 hready)⟩
  · exact ⟨h, .still rfl id⟩

theorem step_inv (h : Inv same service) (dialect : Dialect Details) (op : Op Details) :
    Inv same (service.step dialect same op).2 ∧ Steps service (service.step dialect same op).2 := by
  cases op with
  | apply expected candidate => exact apply_inv h expected candidate
  | advance index outcome => exact advance_inv h dialect index outcome
  | shutdown => exact ⟨shutdown_inv h, .still rfl id⟩
  | proceed index outcome => exact proceed_inv h index outcome
  | leave index => exact leave_inv h index
  | occupy =>
    change Inv same service.occupy ∧ Steps service service.occupy
    unfold HubService.occupy
    split
    · exact ⟨h, .still rfl id⟩
    · next hfree => exact ⟨update_inv h (.inl (by simpa using hfree)), .still rfl id⟩
  | vacate =>
    change Inv same service.vacate ∧ Steps service service.vacate
    unfold HubService.vacate
    split
    · next hother => exact ⟨update_inv h (.inr hother), .still rfl id⟩
    · exact ⟨h, .still rfl id⟩
  | runtime index op => exact runtimeStep_inv h index op

/-! ## Refusals -/

theorem Refuses.kept {origin after : HubService Details} {stage : Stage Details}
    (h : Refuses origin service stage) (hstore : after.store = service.store)
    (hpublished : after.published = service.published) (hphase : after.phase = service.phase) :
    Refuses origin after stage := by
  have hunchanged : Unchanged origin service → Unchanged origin after := by
    intro hbefore
    exact ⟨hstore.trans hbefore.1, hpublished.trans hbefore.2.1, hphase.trans hbefore.2.2⟩
  have hpending : Pending origin service → Pending origin after := by
    intro hbefore
    exact ⟨hstore.trans hbefore.1, hpublished.trans hbefore.2.1, hbefore.2.2⟩
  cases stage with
  | started => exact hunchanged h
  | found previous => exact hunchanged h
  | quieted quiet => exact hunchanged h
  | preparing quiet => exact hpending h
  | building quiet prepared => exact hpending h
  | committing quiet prepared next => exact hpending h
  | discarding quiet next error => exact fun herror => hpending (h herror)
  | failing quiet error => exact fun herror => hpending (h herror)
  | leaving quiet error =>
    cases error with
    | none => trivial
    | some error => exact fun herror => hunchanged (h herror)
  | finished error =>
    cases error with
    | none => trivial
    | some error => exact fun herror => hunchanged (h herror)
  | _ => trivial

theorem refuses_over {stage : Stage Details}
    (hover : stage.running = false) : Refuses origin service stage := by
  cases stage with
  | over_ error => trivial
  | _ => cases hover

theorem getElem?_setStage {other : Nat} {stage : Stage Details} :
    (service.setStage index stage).applies[other]?
      = (service.applies[other]?).map fun old =>
        if index = other then { old with stage := stage } else old := by
  simp only [setStage, List.getElem?_modify, Option.map_eq_map]

theorem step_others (service : HubService Details) (dialect : Dialect Details)
    (same : HubConfig Details → HubConfig Details → Bool) {op : Op Details}
    (happly : ∀ expected candidate, op ≠ .apply expected candidate)
    (hadvance : ∀ index outcome, op ≠ .advance index outcome) :
    (service.step dialect same op).2.applies = service.applies
      ∧ (Unchanged service (service.step dialect same op).2 ∨ service.update = none) := by
  cases op with
  | apply expected candidate => exact absurd rfl (happly _ _)
  | advance index outcome => exact absurd rfl (hadvance _ _)
  | shutdown => exact ⟨rfl, .inl ⟨rfl, rfl, rfl⟩⟩
  | proceed index outcome =>
    change (service.proceed index outcome).applies = _
      ∧ (Unchanged service (service.proceed index outcome) ∨ _)
    unfold HubService.proceed
    split
    · split
      · next hfree => exact ⟨rfl, .inr hfree⟩
      · exact ⟨rfl, .inl ⟨rfl, rfl, rfl⟩⟩
    · split <;> exact ⟨rfl, .inl ⟨rfl, rfl, rfl⟩⟩
    · exact ⟨rfl, .inl ⟨rfl, rfl, rfl⟩⟩
  | leave index =>
    change (service.leave index).applies = _ ∧ (Unchanged service (service.leave index) ∨ _)
    unfold HubService.leave
    split <;> exact ⟨rfl, .inl ⟨rfl, rfl, rfl⟩⟩
  | occupy =>
    change service.occupy.applies = _ ∧ (Unchanged service service.occupy ∨ _)
    unfold HubService.occupy
    split <;> exact ⟨rfl, .inl ⟨rfl, rfl, rfl⟩⟩
  | vacate =>
    change service.vacate.applies = _ ∧ (Unchanged service service.vacate ∨ _)
    unfold HubService.vacate
    split <;> exact ⟨rfl, .inl ⟨rfl, rfl, rfl⟩⟩
  | runtime index op =>
    change (service.runtimeStep index op).applies = _
      ∧ (Unchanged service (service.runtimeStep index op) ∨ _)
    unfold runtimeStep
    split <;> exact ⟨rfl, .inl ⟨rfl, rfl, rfl⟩⟩

def Refusing (origin : HubService Details) (index : Nat) (service : HubService Details) : Prop :=
  ∃ apply, service.applies[index]? = some apply ∧ Refuses origin service apply.stage

theorem advance_refusing (h : Inv same service) (dialect : Dialect Details)
    (hrefusing : Refusing origin index service) (other : Nat) (outcome : Outcome Details) :
    Refusing origin index (service.advance dialect same other outcome) := by
  obtain ⟨apply, happly, hrefuses⟩ := hrefusing
  have hover : ∀ found, service.applies[other]? = some found → found.stage.running = true →
      other ≠ index → apply.stage.running = false := by
    intro found hfound hrunning hne
    by_contra hrunning'
    have howner := h.owner other found hfound hrunning
    rw [h.owner index apply happly (by simpa using hrunning')] at howner
    cases howner
    exact hne rfl
  rcases advance_cases h dialect other outcome with hsame |
    ⟨found, core, stage', hfound, hrunning, hadvance, hmove⟩ |
    ⟨found, error, hfound, hstage, hadvance⟩
  · rw [hsame]
    exact ⟨apply, happly, hrefuses⟩
  · rw [hadvance]
    by_cases hother : other = index
    · subst hother
      rw [hfound] at happly
      cases happly
      refine ⟨{ apply with stage := stage' }, ?_, (hmove.refuses origin hrefuses).kept rfl rfl rfl⟩
      rw [getElem?_setStage, hmove.applies, hfound]
      simp
    · refine ⟨apply, ?_, refuses_over (hover found hfound hrunning hother)⟩
      rw [getElem?_setStage, hmove.applies, happly]
      simp [hother]
  · rw [hadvance]
    have hget : (service.setStage other (.over_ error)).applies[index]?
        = some (if other = index then { apply with stage := .over_ error } else apply) := by
      rw [getElem?_setStage, happly]
      rfl
    refine ⟨_, hget, ?_⟩
    by_cases hother : other = index
    · rw [if_pos hother]
      trivial
    · rw [if_neg hother]
      exact refuses_over (hover found hfound (by rw [hstage]; rfl) hother)

theorem step_refusing (h : Inv same service) (dialect : Dialect Details)
    (hrefusing : Refusing origin index service) (op : Op Details) :
    Refusing origin index (service.step dialect same op).2 := by
  by_cases hadvance : ∃ other outcome, op = .advance other outcome
  · obtain ⟨other, outcome, rfl⟩ := hadvance
    exact advance_refusing h dialect hrefusing other outcome
  · obtain ⟨apply, happly, hrefuses⟩ := hrefusing
    by_cases hop : ∃ expected candidate, op = .apply expected candidate
    · obtain ⟨expected, candidate, rfl⟩ := hop
      change Refusing origin index (service.apply expected candidate).2
      unfold HubService.apply
      split
      · exact ⟨apply, happly, hrefuses⟩
      · split
        · exact ⟨apply, happly, hrefuses⟩
        · refine ⟨apply, ?_, hrefuses.kept rfl rfl rfl⟩
          change (service.applies ++ [_])[index]? = some apply
          rw [List.getElem?_append_left (List.getElem?_eq_some_iff.mp happly).1]
          exact happly
    · obtain ⟨happlies, hkept | hfree⟩ := step_others service dialect same
        (fun expected candidate heq => hop ⟨expected, candidate, heq⟩)
        (fun other outcome heq => hadvance ⟨other, outcome, heq⟩)
      · exact ⟨apply, by rw [happlies]; exact happly,
          hrefuses.kept hkept.1 hkept.2.1 hkept.2.2⟩
      · refine ⟨apply, by rw [happlies]; exact happly, refuses_over ?_⟩
        refine h.over_ (fun other howner => ?_) apply (List.mem_of_getElem? happly)
        rw [hfree] at howner
        cases howner

theorem new_inv {store : Option (ConfigStore Details)} {configuration : HubConfig Details}
    (outputs : List Uuid)
    (hsame : ∀ found, store = some found → same configuration found.current = true) :
    Inv same (new store configuration outputs) := by
  refine .resting (fun _ hmem => by cases hmem) ?_ (fun _ hdraining => by cases hdraining) ?_
  · intro built hmem
    rw [List.mem_singleton.mp hmem]
    exact Runtime.HubRuntime.new_inv outputs
  · exact ⟨fun hphase => (by cases hphase), fun _ => ⟨_, rfl, rfl, hsame⟩⟩

theorem create_inv {store : Option (ConfigStore Details)}
    {built : Except (List FieldError) (HubConfig Details)} {outputs : List Uuid}
    (hcreate : create same store built outputs = .ok service) : Inv same service := by
  unfold create at hcreate
  cases store with
  | none =>
    cases built with
    | error errors => cases hcreate
    | ok configuration =>
      cases hcreate
      exact new_inv outputs fun _ hfound => by cases hfound
  | some store =>
    dsimp only at hcreate
    cases hbuilt : buildChecked same built store.current with
    | error errors =>
      rw [hbuilt] at hcreate
      cases hcreate
    | ok configuration =>
      rw [hbuilt] at hcreate
      cases hcreate
      refine new_inv outputs fun found hfound => ?_
      cases hfound
      exact same_of_buildChecked hbuilt

/-! ## Activation -/

variable (same) in
def Reached (dialect : Dialect Details) (service : HubService Details) : Prop :=
  ∃ store built outputs initial ops, create same store built outputs = .ok initial
    ∧ service = (machine dialect same).final initial ops

theorem Reached.inv {dialect : Dialect Details} (h : Reached same dialect service) :
    Inv same service := by
  obtain ⟨store, built, outputs, initial, ops, hcreate, rfl⟩ := h
  have hinductive : (machine dialect same).Inductive initial (Inv same) :=
    ⟨create_inv hcreate, fun op hinv => (step_inv hinv dialect op).1⟩
  exact hinductive.final ops

def HubService.admission (service : HubService Details) : Option (Except SourceError Unit) :=
  (service.runtimes[service.published]?).map fun built => built.runtime.admission

/-- What an activation promises, whatever fails, panics or goes away. -/
structure ServiceActivation (dialect : Dialect Details)
    (same : HubConfig Details → HubConfig Details → Bool) : Prop where
  /-- What is ready is open, and is the runtime of the stored configuration. -/
  ready : ∀ service : HubService Details, Reached same dialect service → service.phase = .ready →
    Serves same service service.published
  /-- At most one apply is running, and none while a shutdown drains. -/
  exclusive : ∀ service : HubService Details, Reached same dialect service →
    ∀ (index other : Nat) (apply apply' : Apply Details), service.applies[index]? = some apply →
      apply.stage.running = true →
      (service.applies[other]? = some apply' → apply'.stage.running = true → index = other)
        ∧ Stopping.draining ∉ service.shutdowns
  /-- A runtime that is replaced has shut down before, and nothing that admission covers is in
  progress in it. -/
  replaced : ∀ service : HubService Details, Reached same dialect service → ∀ op : Op Details,
    (service.step dialect same op).2.published ≠ service.published → Replaced service
  /-- An apply that is not accepted changes nothing. -/
  unaccepted : ∀ (service : HubService Details) (expected : Uuid) (candidate : HubConfig Details)
    (error : UpdateError), (service.apply expected candidate).1 = .refused error →
    (service.apply expected candidate).2 = service
  /-- One that is accepted and refused leaves the store, what is published and the phase. -/
  refused : ∀ service : HubService Details, Reached same dialect service →
    ∀ (ops : List (Op Details)) (index : Nat) (apply apply' : Apply Details) (error : UpdateError),
      service.applies[index]? = some apply → apply.stage = .started →
      ((machine dialect same).final service ops).applies[index]? = some apply' →
      apply'.stage = .finished (some error) ∨ (∃ quiet, apply'.stage = .leaving quiet (some error)) →
      error.isTask = false → Unchanged service ((machine dialect same).final service ops)
  /-- It quiets a runtime that admits clients. -/
  quieted : ∀ service : HubService Details, Reached same dialect service →
    ∀ (index previous : Nat) (apply apply' : Apply Details) (quiet : Quiet)
      (outcome : Outcome Details), service.applies[index]? = some apply →
      apply.stage = .found previous →
      (service.advance dialect same index outcome).applies[index]? = some apply' →
      apply'.stage = .quieted quiet → service.admission = some (.ok ())
  /-- The runtime admits them again when the refused apply leaves it. -/
  restored : ∀ service : HubService Details, Reached same dialect service →
    ∀ (index : Nat) (apply : Apply Details) (quiet : Quiet) (error : UpdateError)
      (outcome : Outcome Details), service.applies[index]? = some apply →
      apply.stage = .leaving quiet (some error) → error.isTask = false →
      (service.advance dialect same index outcome).admission = some (.ok ())
  /-- An apply that is refused without a guard leaves all runtimes alone. -/
  untouched : ∀ (service : HubService Details) (index : Nat) (apply apply' : Apply Details)
    (error : UpdateError) (outcome : Outcome Details), service.applies[index]? = some apply →
    apply.stage.quiet = none →
    (service.advance dialect same index outcome).applies[index]? = some apply' →
    apply'.stage = .finished (some error) →
    (service.advance dialect same index outcome).runtimes = service.runtimes
  /-- What is blocked or stopped is never ready again. -/
  settled : ∀ service : HubService Details, Reached same dialect service → Settled service →
    ∀ ops : List (Op Details), Settled ((machine dialect same).final service ops)

theorem quiesce_admission {after : Runtime.HubRuntime} {guard : Nat}
    (hquiesce : runtime.quiesce = (.ok guard, after)) : runtime.admission = .ok () := by
  unfold Runtime.HubRuntime.quiesce at hquiesce
  unfold Runtime.HubRuntime.admission
  split at hquiesce
  · cases hquiesce
  · next hopen =>
    rw [if_neg hopen]
    split at hquiesce
    · cases hquiesce
    · next hidle =>
      rw [if_neg]
      intro hfrozen
      rw [hfrozen] at hidle
      exact hidle rfl

theorem lift_admission (hclosed : runtime.closed = false) {guard : Nat} {holder : Runtime.Holder}
    (hholder : runtime.holders[guard]? = some holder) (hfreezing : holder.freezing = true) :
    (runtime.lift guard).admission = .ok () := by
  have hfrozen : (runtime.lift guard).frozen = false := by
    unfold Runtime.HubRuntime.lift
    rw [hholder]
    obtain ⟨role, held⟩ := holder
    cases role with
    | discovery frozen =>
      change frozen = true at hfreezing
      rw [hfreezing]
    | quiescent frozen =>
      change frozen = true at hfreezing
      rw [hfreezing]
    | _ => cases hfreezing
  unfold Runtime.HubRuntime.admission
  rw [closed_lift, hclosed, hfrozen]
  rfl

theorem stage_of_setStage {stage : Stage Details}
    (hsome : (service.setStage index stage).applies[index]? = some apply) :
    apply.stage = stage := by
  rw [getElem?_setStage, Option.map_eq_some_iff] at hsome
  obtain ⟨old, -, rfl⟩ := hsome
  rw [if_pos rfl]

theorem advance_quieted (h : Inv same service) (dialect : Dialect Details) {previous : Nat}
    {apply apply' : Apply Details} {outcome : Outcome Details}
    (happly : service.applies[index]? = some apply) (hstage : apply.stage = .found previous)
    (hafter : (service.advance dialect same index outcome).applies[index]? = some apply')
    (hquieted : apply'.stage = .quieted quiet) : service.admission = some (.ok ()) := by
  have hstanding := h.standing apply (List.mem_of_getElem? happly) (by rw [hstage]; rfl)
  rw [hstage] at hstanding
  unfold HubService.advance advanceAt at hafter
  rw [happly] at hafter
  simp only [hstage] at hafter
  split at hafter
  · rw [show (Stage.found previous : Stage Details).quiet = none from rfl] at hafter
    rw [stage_of_setStage hafter] at hquieted
    cases hquieted
  · unfold HubService.quiesce at hafter
    split at hafter
    · rw [stage_of_setStage hafter] at hquieted
      cases hquieted
    · next built hsome =>
      split at hafter
      · rw [stage_of_setStage hafter] at hquieted
        cases hquieted
      · next hquiesce =>
        unfold HubService.admission
        rw [← hstanding.2.2, hsome]
        exact congrArg some (quiesce_admission hquiesce)

theorem advance_restored (h : Inv same service) (dialect : Dialect Details)
    {outcome : Outcome Details} (happly : service.applies[index]? = some apply)
    (hstage : apply.stage = .leaving quiet (some error)) (herror : error.isTask = false) :
    (service.advance dialect same index outcome).admission = some (.ok ()) := by
  have hstanding := h.standing apply (List.mem_of_getElem? happly) (by rw [hstage]; rfl)
  rw [hstage] at hstanding
  obtain ⟨hcalm, ⟨built, hsome, holder, hholder, hfreezing⟩, hkept⟩ := hstanding
  obtain ⟨hready, hpublished⟩ := hkept error rfl herror
  obtain ⟨serving, hserving, hclosed, -⟩ := hcalm.2 hready
  rw [← hpublished, hsome] at hserving
  cases hserving
  have hadvance : service.advance dialect same index outcome
      = (service.lift quiet).setStage index (.finished (some error)) := by
    unfold HubService.advance advanceAt
    rw [happly]
    simp only [hstage, Stage.fragile, Bool.and_false]
    rfl
  rw [hadvance]
  change ((service.lift quiet).runtimes[service.published]?).map _ = _
  rw [← hpublished]
  unfold HubService.lift
  rw [getElem?_modifyRuntime hsome, if_pos rfl]
  exact congrArg some (lift_admission hclosed hholder hfreezing)

theorem quiesce_untouched {previous : Nat} {error : Option UpdateError}
    (hafter : (service.quiesce index previous).applies[index]? = some apply)
    (hfinished : apply.stage = .finished error) :
    (service.quiesce index previous).runtimes = service.runtimes := by
  unfold HubService.quiesce at hafter ⊢
  split at hafter
  · rfl
  · split at hafter
    · rfl
    · rw [stage_of_setStage hafter] at hfinished
      cases hfinished

theorem advance_untouched (dialect : Dialect Details) {apply apply' : Apply Details}
    {outcome : Outcome Details} (happly : service.applies[index]? = some apply)
    (hquiet : apply.stage.quiet = none)
    (hafter : (service.advance dialect same index outcome).applies[index]? = some apply')
    (hfinished : apply'.stage = .finished (some error)) :
    (service.advance dialect same index outcome).runtimes = service.runtimes := by
  unfold HubService.advance at hafter ⊢
  rw [happly] at hafter ⊢
  dsimp only at hafter ⊢
  by_cases hcrash : (outcome.panics && apply.stage.fragile) = true
  · rw [if_pos hcrash, hquiet]
    rfl
  · rw [if_neg hcrash] at hafter ⊢
    unfold advanceAt at hafter ⊢
    cases hstage : apply.stage with
    | started =>
      dsimp only
      split <;> rfl
    | found previous =>
      rw [hstage] at hafter
      exact quiesce_untouched hafter hfinished
    | crashed => rfl
    | mending =>
      rw [hstage] at hafter
      dsimp only at hafter ⊢
      split at hafter
      · next hover =>
        rw [if_pos hover]
        rfl
      · change service.applies[index]? = some apply' at hafter
        rw [happly] at hafter
        cases hafter
        rw [hstage] at hfinished
        cases hfinished
    | finished error => rfl
    | over_ error => rfl
    | _ =>
      rw [hstage] at hquiet
      cases hquiet

/-- The promises of an activation hold in every reachable state of the service. -/
theorem serviceActivation (dialect : Dialect Details)
    (same : HubConfig Details → HubConfig Details → Bool) : ServiceActivation dialect same where
  ready := by
    intro service hreached hready
    have hinv := hreached.inv
    by_cases hrunning : ∃ apply ∈ service.applies, apply.stage.running = true
    · obtain ⟨apply, hmem, hrunning⟩ := hrunning
      exact (hinv.standing apply hmem hrunning).ready hrunning hready
    · refine (hinv.idle fun apply hmem => ?_).2 hready
      by_contra hne
      exact hrunning ⟨apply, hmem, by simpa using hne⟩
  exclusive := by
    intro service hreached index other apply apply' happly hrunning
    have howner := hreached.inv.owner index apply happly hrunning
    constructor
    · intro happly' hrunning'
      have howner' := hreached.inv.owner other apply' happly' hrunning'
      rw [howner] at howner'
      cases howner'
      rfl
    · intro hmem
      obtain ⟨place, hdraining⟩ := List.getElem?_of_mem hmem
      have hlock := (hreached.inv.stopping place hdraining).1
      rw [howner] at hlock
      cases hlock
  replaced := fun service hreached op => (step_inv hreached.inv dialect op).2.replaced
  unaccepted := by
    intro service expected candidate error hrefused
    unfold HubService.apply at hrefused ⊢
    split
    · rfl
    · next hstore =>
      rw [if_neg hstore] at hrefused
      split
      · rfl
      · next hfree =>
        rw [if_neg hfree] at hrefused
        cases hrefused
  refused := by
    intro service hreached ops index apply apply' error happly hstarted hafter hstage herror
    have hinductive : (machine dialect same).Inductive service
        (fun after => Inv same after ∧ Refusing service index after) := by
      refine ⟨⟨hreached.inv, apply, happly, ?_⟩, ?_⟩
      · rw [hstarted]
        exact ⟨rfl, rfl, rfl⟩
      · intro state op hstate
        exact ⟨(step_inv hstate.1 dialect op).1, step_refusing hstate.1 dialect hstate.2 op⟩
    obtain ⟨found, hfound, hrefuses⟩ := (hinductive.final ops).2
    rw [hafter] at hfound
    cases hfound
    rcases hstage with hstage | ⟨quiet, hstage⟩ <;> rw [hstage] at hrefuses <;>
      exact hrefuses herror
  quieted := fun service hreached index previous apply apply' quiet outcome =>
    advance_quieted hreached.inv dialect
  restored := fun service hreached index apply quiet error outcome =>
    advance_restored hreached.inv dialect
  untouched := fun service index apply apply' error outcome => advance_untouched dialect
  settled := by
    intro service hreached hsettled ops
    have hinductive : (machine dialect same).Inductive service
        (fun after => Inv same after ∧ Settled after) := by
      refine ⟨⟨hreached.inv, hsettled⟩, ?_⟩
      intro state op hstate
      obtain ⟨hinv, hsteps⟩ := step_inv hstate.1 dialect op
      exact ⟨hinv, hsteps.settled hstate.2⟩
    exact (hinductive.final ops).2

end Service

end Regain.Hub
