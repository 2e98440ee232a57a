import Regain.Hub.Camera.SupervisorUncertain
import Regain.Lib.History

/-!
# An acquisition and its tasks

The stage of an acquisition's own task, the commands that are under way for it and its entry
in the supervisor's state fit together.  Each step changes them for one acquisition at most.
-/

namespace Regain.Hub.CameraSupervisor

open Lib

namespace Effect

def acquisition? : Effect → Option Uuid
  | measured id _ => some id
  | dispatched id => some id
  | acknowledged id _ => some id
  | abortAcknowledged id => some id
  | _ => none

def dispatched? : Effect → Option Uuid
  | dispatched id => some id
  | _ => none

def acknowledged? : Effect → Option Uuid
  | acknowledged id _ => some id
  | _ => none

end Effect

def dispatchedIn (log : List Effect) : List Uuid :=
  log.filterMap Effect.dispatched?

def acknowledgedIn (log : List Effect) : List Uuid :=
  log.filterMap Effect.acknowledged?

def historyOf (log : List Effect) (id : Uuid) : List Effect :=
  log.filter fun effect => effect.acquisition? == some id

theorem historyOf_append (log effects : List Effect) (id : Uuid) :
    historyOf (log ++ effects) id = historyOf log id ++ historyOf effects id :=
  List.filter_append ..

theorem mem_historyOf {log : List Effect} {effect : Effect} {id : Uuid}
    (hid : effect.acquisition? = some id) : effect ∈ historyOf log id ↔ effect ∈ log := by
  simp [historyOf, hid]

/-- The parts of a start's task: before the acknowledgement, while the camera exposes, once the
image is downloaded, and when the task is over. -/
inductive Part where
  | early
  | waiting
  | late
  | ended
  deriving DecidableEq

namespace StartStage

@[simp] def part : StartStage → Part
  | preparing => .early
  | acquiring => .early
  | attaching _ => .early
  | measuring _ => .early
  | prepared _ => .early
  | writing _ => .early
  | answered _ _ => .early
  | rejecting _ => .early
  | returning _ _ => .early
  | waiting _ => .waiting
  | pausing _ => .waiting
  | reading _ => .waiting
  | sampled _ _ _ => .waiting
  | downloading _ => .late
  | deciding _ _ => .late
  | releasing _ _ => .late
  | publishing _ _ => .late
  | finished => .ended

@[simp] def undispatched : StartStage → Bool
  | preparing => true
  | acquiring => true
  | attaching _ => true
  | measuring _ => true
  | prepared _ => true
  | _ => false

@[simp] def plan? : StartStage → Option Plan
  | prepared plan => some plan
  | writing plan => some plan
  | answered plan _ => some plan
  | waiting plan => some plan
  | pausing plan => some plan
  | reading plan => some plan
  | sampled plan _ _ => some plan
  | downloading plan => some plan
  | deciding plan _ => some plan
  | releasing plan _ => some plan
  | publishing plan _ => some plan
  | _ => none

@[simp] def operation? : StartStage → Option Uuid
  | measuring operation => some operation
  | returning operation _ => some operation
  | stage => stage.plan?.map Plan.operation

@[simp] def image? : StartStage → Option (Plan × CapturedImage)
  | deciding plan image => some (plan, image)
  | releasing plan image => some (plan, image)
  | publishing plan image => some (plan, image)
  | _ => none

@[simp] def generation? : StartStage → Option Uuid
  | answered _ (.ok generation) => some generation
  | _ => none

end StartStage

/-- The phases that an active acquisition may have in a part of its start. -/
def Allowed : Part → AcquisitionPhase → Prop
  | _, .uncertain => True
  | .early, .starting => True
  | .waiting, .exposing => True
  | .waiting, .reading => True
  | .waiting, .stopping => True
  | .waiting, .aborting => True
  | .late, .downloading => True
  | _, _ => False

namespace Command

def live (command : Command) : Prop :=
  match command.stage with
  | .finished => False
  | _ => True

def phase (command : Command) : AcquisitionPhase :=
  if command.abort then .aborting else .stopping

def acknowledged (command : Command) : Prop :=
  command.abort = true ∧
    match command.stage with
    | .answered (.ok ()) => True
    | .releasing => True
    | _ => False

theorem acknowledged.live {command : Command} (h : command.acknowledged) : command.live := by
  obtain ⟨-, hstage⟩ := h
  unfold Command.live
  cases hcase : command.stage <;> simp_all

end Command

def Active.lose (active : Active) : Active :=
  { active with phase := .uncertain, commandPending := false }

structure Known (id : Uuid) (start : Start) (history : List Effect) : Prop where
  undispatched : start.stage.undispatched = true → .dispatched id ∉ history
  measured : ∀ plan ∈ start.stage.plan?, .measured id plan.geometry ∈ history
  answered : ∀ generation ∈ start.stage.generation?, generation = start.session.generation
  acknowledged : start.stage.part = .waiting ∨ start.stage.part = .late →
    .acknowledged id start.session.generation ∈ history
  captured : ∀ captured ∈ start.stage.image?, captured.2.identity.acquisition = id
    ∧ captured.2.identity.generation = start.session.generation
    ∧ captured.2.image.descriptor.width = captured.1.geometry.width
    ∧ captured.2.image.descriptor.height = captured.1.geometry.height

/-- How the part of a start, the active acquisition and its commands fit together. -/
structure Tied (part : Part) (active : Option Active) (commands : Uuid → Option Command)
    (aborted : Prop) : Prop where
  phase : ∀ found ∈ active, Allowed part found.phase
  pending : ∀ found ∈ active,
    (found.commandPending = true ↔ found.phase = .aborting ∨ found.phase = .stopping)
  live : ∀ key command, commands key = some command → command.live →
    part = .waiting ∨ part = .ended
  commanded : ∀ key command, commands key = some command → command.live →
    ∀ found ∈ active, found.phase = .uncertain ∨ found.phase = command.phase
  unique : ∀ key command, commands key = some command → command.live →
    ∀ other second, commands other = some second → second.live → key = other
  previous : ∀ key command, commands key = some command →
    command.admission.previous = .exposing ∨ command.admission.previous = .reading
  aborted : aborted → (part = .waiting ∨ part = .ended)
    ∧ ∀ found ∈ active, found.phase = .uncertain
      ∨ ∃ key command, commands key = some command ∧ command.acknowledged

/-- The tasks of an acquisition and its entry hold the same lease. -/
structure Leased (stage : StartStage) (active : Option Active)
    (commands : Uuid → Option Command) : Prop where
  settled : ∀ operation ∈ stage.operation?, ∀ found ∈ active, found.operation = some operation
  acquiring : stage = .acquiring → ∀ found ∈ active, found.operation = none
  attaching : ∀ operation, stage = .attaching operation →
    ∀ found ∈ active, found.operation = none ∨ found.operation = some operation
  commands : ∀ key command, commands key = some command → command.live →
    ∀ found ∈ active, found.operation = some command.admission.operation

structure View where
  start : Option Start
  active : Option Active
  commands : Uuid → Option Command
  history : List Effect

def commandsOf (commands : Uuid → Option Command) (id key : Uuid) : Option Command :=
  (commands key).filter fun command => command.admission.id == id

def Supervised.view (supervised : Supervised) (id : Uuid) : View where
  start := supervised.starts id
  active := supervised.state.activeIs id
  commands := commandsOf supervised.commands id
  history := historyOf supervised.log id

/-- An acquisition that is not admitted yet has no trace; the others fit together. -/
def Linked (id : Uuid) (view : View) : Prop :=
  match view.start with
  | none => view.active = none ∧ (∀ key, view.commands key = none) ∧ view.history = []
  | some start =>
    Known id start view.history
      ∧ Tied start.stage.part view.active view.commands (.abortAcknowledged id ∈ view.history)
      ∧ Leased start.stage view.active view.commands

namespace Tied

variable {part : Part} {active : Option Active} {commands : Uuid → Option Command} {aborted : Prop}

theorem leave (h : Tied part active commands aborted) : Tied part none commands aborted := { h with
  phase := by simp
  pending := by simp
  commanded := by simp
  aborted haborted := ⟨(h.aborted haborted).1, by simp⟩ }

theorem lose (h : Tied part active commands aborted) :
    Tied part (active.map Active.lose) commands aborted := { h with
  phase := by
    intro found hfound
    obtain ⟨prior, -, rfl⟩ := Option.map_eq_some_iff.mp hfound
    cases part <;> trivial
  pending := by
    intro found hfound
    obtain ⟨prior, -, rfl⟩ := Option.map_eq_some_iff.mp hfound
    simp [Active.lose]
  commanded := by
    intro key command hcommand hlive found hfound
    obtain ⟨prior, -, rfl⟩ := Option.map_eq_some_iff.mp hfound
    exact .inl rfl
  aborted := by
    intro haborted
    refine ⟨(h.aborted haborted).1, fun found hfound => ?_⟩
    obtain ⟨prior, -, rfl⟩ := Option.map_eq_some_iff.mp hfound
    exact .inl rfl }

theorem ended (h : Tied part active commands aborted)
    (huncertain : ∀ found ∈ active, found.phase = .uncertain) :
    Tied .ended active commands aborted := { h with
  phase := by
    intro found hfound
    rw [huncertain found hfound]
    trivial
  live _ _ _ _ := .inr rfl
  commanded _ _ _ _ found hfound := .inl (huncertain found hfound)
  aborted _ := ⟨.inr rfl, fun found hfound => .inl (huncertain found hfound)⟩ }

theorem lost (h : Tied part active commands aborted) :
    Tied .ended (active.map Active.lose) commands aborted := by
  refine h.lose.ended fun found hfound => ?_
  obtain ⟨prior, -, rfl⟩ := Option.map_eq_some_iff.mp hfound
  rfl

theorem same (h : Tied part active commands aborted) {after : Option Active}
    (hafter : ∀ found ∈ after, ∃ prior ∈ active, found.phase = prior.phase
      ∧ found.commandPending = prior.commandPending) : Tied part after commands aborted := { h with
  phase := by
    intro found hfound
    obtain ⟨prior, hprior, hphase, -⟩ := hafter found hfound
    rw [hphase]
    exact h.phase prior hprior
  pending := by
    intro found hfound
    obtain ⟨prior, hprior, hphase, hpending⟩ := hafter found hfound
    rw [hphase, hpending]
    exact h.pending prior hprior
  commanded := by
    intro key command hcommand hlive found hfound
    obtain ⟨prior, hprior, hphase, -⟩ := hafter found hfound
    rw [hphase]
    exact h.commanded key command hcommand hlive prior hprior
  aborted := by
    intro haborted
    refine ⟨(h.aborted haborted).1, fun found hfound => ?_⟩
    obtain ⟨prior, hprior, hphase, -⟩ := hafter found hfound
    rw [hphase]
    exact (h.aborted haborted).2 prior hprior }

theorem grow {id : Uuid} {history effects : List Effect}
    (h : Tied part active commands (.abortAcknowledged id ∈ history))
    (heffects : .abortAcknowledged id ∉ effects) :
    Tied part active commands (.abortAcknowledged id ∈ history ++ effects) := by
  have hsame : (.abortAcknowledged id ∈ history ++ effects)
      = (.abortAcknowledged id ∈ history) := by
    simp [heffects]
  rw [hsame]
  exact h

theorem advance {found : Active} (h : Tied part (some found) commands aborted)
    (hidle : found.commandPending = false) (hcertain : found.phase ≠ .uncertain) {after : Part}
    {phase : AcquisitionPhase} (hallowed : Allowed after phase)
    (hquiet : phase ≠ .aborting ∧ phase ≠ .stopping) :
    Tied after (some { found with phase := phase }) commands aborted := by
  have hnone : ∀ key command, commands key = some command → ¬command.live := by
    intro key command hcommand hlive
    rcases h.commanded key command hcommand hlive found rfl with huncertain | hphase
    · exact hcertain huncertain
    · have hpending := (h.pending found rfl).not.mp (by simp [hidle])
      unfold Command.phase at hphase
      split at hphase
      · exact hpending (.inl hphase)
      · exact hpending (.inr hphase)
  exact { h with
    phase := by
      intro other hother
      cases hother
      exact hallowed
    pending := by
      intro other hother
      cases hother
      simp [hidle, hquiet.1, hquiet.2]
    live := fun key command hcommand hlive => absurd hlive (hnone key command hcommand)
    commanded := fun key command hcommand hlive => absurd hlive (hnone key command hcommand)
    aborted := by
      intro haborted
      rcases (h.aborted haborted).2 found rfl with huncertain | ⟨key, command, hcommand, hack⟩
      · exact absurd huncertain hcertain
      · exact absurd hack.live (hnone key command hcommand) }

end Tied

namespace Leased

variable {stage : StartStage} {active : Option Active} {commands : Uuid → Option Command}

theorem same (h : Leased stage active commands) {after : Option Active}
    (hafter : ∀ found ∈ after, ∃ prior ∈ active, found.operation = prior.operation) :
    Leased stage after commands where
  settled := by
    intro operation hoperation found hfound
    obtain ⟨prior, hprior, heq⟩ := hafter found hfound
    rw [heq]
    exact h.settled operation hoperation prior hprior
  acquiring := by
    intro hstage found hfound
    obtain ⟨prior, hprior, heq⟩ := hafter found hfound
    rw [heq]
    exact h.acquiring hstage prior hprior
  attaching := by
    intro operation hstage found hfound
    obtain ⟨prior, hprior, heq⟩ := hafter found hfound
    rw [heq]
    exact h.attaching operation hstage prior hprior
  commands := by
    intro key command hcommand hlive found hfound
    obtain ⟨prior, hprior, heq⟩ := hafter found hfound
    rw [heq]
    exact h.commands key command hcommand hlive prior hprior

theorem lose (h : Leased stage active commands) :
    Leased stage (active.map Active.lose) commands := by
  refine h.same fun found hfound => ?_
  obtain ⟨prior, hprior, rfl⟩ := Option.map_eq_some_iff.mp hfound
  exact ⟨prior, hprior, rfl⟩

theorem leave (h : Leased stage active commands) : Leased stage none commands :=
  h.same (by simp)

end Leased

/-- The next stage brings nothing that the one before it did not have. -/
structure Follows (before after : StartStage) : Prop where
  undispatched : after.undispatched = true → before.undispatched = true
  plan : ∀ plan ∈ after.plan?, before.plan? = some plan
  generation : after.generation? = none
  acknowledged : after.part = .waiting ∨ after.part = .late →
    before.part = .waiting ∨ before.part = .late
  image : ∀ captured ∈ after.image?, before.image? = some captured

/-- The next stage goes on with the lease of the one before it, or with none. -/
structure Holds (before after : StartStage) : Prop where
  operation : ∀ operation ∈ after.operation?, before.operation? = some operation
  acquiring : after ≠ .acquiring
  attaching : ∀ operation, after ≠ .attaching operation

theorem follows_finished (stage : StartStage) : Follows stage .finished := by
  constructor <;> simp

theorem holds_finished (stage : StartStage) : Holds stage .finished := by
  constructor <;> simp

theorem follows_rejecting (stage : StartStage) (error : Option SourceError) :
    Follows stage (.rejecting error) := by
  constructor <;> simp

theorem holds_rejecting (stage : StartStage) (error : Option SourceError) :
    Holds stage (.rejecting error) := by
  constructor <;> simp

namespace Known

variable {id : Uuid} {start : Start} {history : List Effect}

theorem follow (h : Known id start history) {stage : StartStage}
    (hfollows : Follows start.stage stage) : Known id { start with stage := stage } history where
  undispatched hundispatched := h.undispatched (hfollows.undispatched hundispatched)
  measured plan hplan := h.measured plan (hfollows.plan plan hplan)
  answered := by
    intro generation hgeneration
    rw [hfollows.generation] at hgeneration
    cases hgeneration
  acknowledged hpart := h.acknowledged (hfollows.acknowledged hpart)
  captured captured hcaptured := h.captured captured (hfollows.image captured hcaptured)

theorem grow (h : Known id start history) {effects : List Effect}
    (hdispatched : start.stage.undispatched = true → .dispatched id ∉ effects) :
    Known id start (history ++ effects) := { h with
  undispatched hundispatched hmem :=
    (List.mem_append.mp hmem).elim (h.undispatched hundispatched) (hdispatched hundispatched)
  measured plan hplan := List.mem_append_left _ (h.measured plan hplan)
  acknowledged hpart := List.mem_append_left _ (h.acknowledged hpart) }

end Known

theorem Leased.follow {before after : StartStage} {active : Option Active}
    {commands : Uuid → Option Command} (h : Leased before active commands)
    (hholds : Holds before after) : Leased after active commands where
  settled operation hafter := h.settled operation (hholds.operation operation hafter)
  acquiring hstage := absurd hstage hholds.acquiring
  attaching operation hstage := absurd hstage (hholds.attaching operation)
  commands := h.commands

namespace State

variable {state after : State} {id other : Uuid} {active : Active}

theorem activeIs_same (h : after.active = state.active) (id : Uuid) :
    after.activeIs id = state.activeIs id := by
  unfold State.activeIs
  rw [h]

theorem activeIs_of_ne (h : state.activeIs id = some active) (hother : other ≠ id) :
    state.activeIs other = none := by
  obtain ⟨hactive, hid⟩ := activeIs_eq_some.mp h
  unfold State.activeIs
  rw [hactive, Option.filter_some, if_neg]
  simp only [beq_iff_eq]
  exact fun heq => hother (heq.symm.trans hid)

theorem activeIs_replace (h : state.activeIs id = some active) (changed : Active)
    (hafter : after.active = some changed) (hid : changed.id = active.id) (other : Uuid) :
    after.activeIs other = if other = id then some changed else state.activeIs other := by
  have hactive := (activeIs_eq_some.mp h).2
  by_cases hother : other = id
  · rw [if_pos hother, hother]
    exact activeIs_eq_some.mpr ⟨hafter, hid.trans hactive⟩
  · rw [if_neg hother, activeIs_of_ne h hother]
    have hchanged : after.activeIs id = some changed :=
      activeIs_eq_some.mpr ⟨hafter, hid.trans hactive⟩
    exact activeIs_of_ne hchanged hother

theorem activeIs_clear (h : state.activeIs id = some active) (hafter : after.active = none)
    (other : Uuid) : after.activeIs other = if other = id then none else state.activeIs other := by
  have hnone : after.activeIs other = none := by
    unfold State.activeIs
    rw [hafter]
    rfl
  rw [hnone]
  split
  · rfl
  next hother => exact (activeIs_of_ne h hother).symm

theorem uncertain_activeIs (state : State) (id other : Uuid) (error : SourceError) :
    (state.uncertain id error).activeIs other
      = if other = id then (state.activeIs id).map Active.lose else state.activeIs other := by
  unfold State.uncertain
  cases hactive : state.activeIs id with
  | none =>
    dsimp only
    split
    next heq => rw [heq, hactive]; rfl
    · rfl
  | some active => exact activeIs_replace hactive active.lose rfl rfl other

theorem attach_activeIs {operation : Uuid} (hattach : state.attach id operation = some after)
    (other : Uuid) : after.activeIs other
      = if other = id then
          (state.activeIs id).map fun active => { active with operation := some operation }
        else state.activeIs other := by
  obtain ⟨active, hactive, rfl⟩ := Option.map_eq_some_iff.mp hattach
  rw [hactive]
  exact activeIs_replace hactive { active with operation := some operation } rfl rfl other

end State

section

variable (supervised : Supervised) (id : Uuid)

theorem view_setState (state : State) : (supervised.setState state).view id
    = { supervised.view id with active := state.activeIs id } := rfl

theorem view_note {effect : Effect} (heffect : effect.acquisition? ≠ some id) :
    (supervised.note effect).view id = supervised.view id := by
  simp [Supervised.view, Supervised.note, historyOf, heffect]

theorem view_moveStart {task : Uuid} (hother : id ≠ task) (start : Start) (stage : StartStage) :
    (supervised.moveStart task start stage).view id = supervised.view id := by
  simp [Supervised.view, Supervised.moveStart, hother]

theorem view_moveStart_self (start : Start) (stage : StartStage) :
    (supervised.moveStart id start stage).view id
      = { supervised.view id with start := some { start with stage := stage } } := by
  simp [Supervised.view, Supervised.moveStart]

theorem view_moveCommand {key : Uuid} {command : Command} (hother : command.admission.id ≠ id)
    (hprior : ∀ prior ∈ supervised.commands key, prior.admission.id ≠ id) (stage : CommandStage) :
    (supervised.moveCommand key command stage).view id = supervised.view id := by
  simp only [Supervised.view, Supervised.moveCommand, View.mk.injEq, true_and, and_true]
  funext other
  by_cases hkey : other = key
  · subst hkey
    simp only [commandsOf, Function.update_self, Option.filter_some, beq_iff_eq, hother, if_false]
    cases hfound : supervised.commands other with
    | none => rfl
    | some prior =>
      have hprior := hprior prior hfound
      rw [Option.filter_some, if_neg (by simpa using hprior)]
  · simp [commandsOf, Function.update_of_ne hkey]

theorem view_moveCommand_self {key : Uuid} {command : Command} (hid : command.admission.id = id)
    (stage : CommandStage) : (supervised.moveCommand key command stage).view id
      = { supervised.view id with
          commands := Function.update (commandsOf supervised.commands id) key
            (some { command with stage := stage }) } := by
  simp only [Supervised.view, Supervised.moveCommand, View.mk.injEq, true_and, and_true]
  funext other
  by_cases hkey : other = key
  · subst hkey
    simp [commandsOf, hid]
  · simp [commandsOf, Function.update_of_ne hkey]

end

end Regain.Hub.CameraSupervisor
