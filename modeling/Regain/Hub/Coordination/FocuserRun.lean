import Regain.Hub.Coordination.Focuser
import Regain.Lib.History

/-!
# Guarantees of a focuser group operation

Nothing moves before every member is reserved and checked. Members are dispatched in order, and none
after a setback, a cancellation or the deadline.
-/

namespace Regain.Hub

open Lib

def FocuserMemberPhase.started (phase : FocuserMemberPhase) : Bool :=
  !(phase == .notStarted || phase == .rejected)

namespace FocuserGroup

open Operation (admit_ apply await dispatch finish interrupted interruptible observe observed
  reserve settle)

namespace Effect

def dispatched? : Effect → Option Nat
  | dispatched index _ => some index
  | _ => none

def published? : Effect → Option FocuserGroupResult
  | published report => some report
  | _ => none

def isSetback : Effect → Bool
  | refused _ => true
  | failed _ _ => true
  | _ => false

def stops : Effect → Bool
  | cancelled => true
  | expired => true
  | effect => effect.isSetback

end Effect

/-! ## Dispatches and reports -/

def dispatchedIn (log : List Effect) : List Nat :=
  log.filterMap Effect.dispatched?

def reportsIn (log : List Effect) : List FocuserGroupResult :=
  log.filterMap Effect.published?

theorem dispatchedIn_concat (log : List Effect) (effect : Effect) :
    dispatchedIn (log ++ [effect]) = dispatchedIn log ++ effect.dispatched?.toList := by
  cases effect <;> simp [dispatchedIn, Effect.dispatched?]

theorem reportsIn_concat (log : List Effect) (effect : Effect) :
    reportsIn (log ++ [effect]) = reportsIn log ++ effect.published?.toList := by
  cases effect <;> simp [reportsIn, Effect.published?]

theorem mem_dispatchedIn {log : List Effect} {index : Nat} :
    index ∈ dispatchedIn log ↔ ∃ target, Effect.dispatched index target ∈ log := by
  simp only [dispatchedIn, List.mem_filterMap]
  constructor
  · intro h
    obtain ⟨effect, hmem, hindex⟩ := h
    cases effect <;> simp [Effect.dispatched?] at hindex
    subst hindex
    exact ⟨_, hmem⟩
  · intro h
    obtain ⟨target, hmem⟩ := h
    exact ⟨_, hmem, rfl⟩

section

/-! ## The rules -/

variable (targets : List Int32)

def Prepared (log : List Effect) : Prop :=
  ∀ index < targets.length, .reserved index ∈ log ∧ .passed index ∈ log

/-- The members are the configured ones, and those that were dispatched are those that started. -/
def Consistent (members : List FocuserMemberResult) (log : List Effect) : Prop :=
  ∀ index member, members[index]? = some member →
    (member.phase.started = true ↔ index ∈ dispatchedIn log)

/-- Every member that is complete was dispatched and afterwards seen at rest at its target. -/
def Arrived (members : List FocuserMemberResult) (log : List Effect) : Prop :=
  ∀ index member, members[index]? = some member → member.phase = .complete →
    Followed log (.dispatched index member.target) (.observed index false member.target)

/-- What must have happened before a member is dispatched. -/
structure MayDispatch (before : List Effect) (index : Nat) (target : Int32) : Prop where
  prepared : Prepared targets before
  turn : dispatchedIn before = List.range index
  calibrated : targets[index]? = some target
  going : ∀ effect ∈ before, effect.stops = false

structure MayPublish (before : List Effect) (report : FocuserGroupResult) : Prop where
  rising : ∀ earlier ∈ reportsIn before, earlier.sequence < report.sequence
  open_ : ∀ earlier ∈ reportsIn before, earlier.phase.terminal = false
  calibrated : report.members.map FocuserMemberResult.target = targets
  consistent : Consistent report.members before
  arrived : Arrived report.members before
  complete : report.phase = .complete → ∀ member ∈ report.members, member.phase = .complete

def rule (before : List Effect) : Effect → Prop
  | .dispatched index target => MayDispatch targets before index target
  | .published report => MayPublish targets before report
  | _ => True

end

section

/-! ## The invariant -/

variable {targets : List Int32} {operation : Operation}

structure Sound (targets : List Int32) (operation : Operation) : Prop where
  calibrated : operation.report.members.map FocuserMemberResult.target = targets
  justified : Justified (rule targets) operation.log
  cancelled : .cancelled ∈ operation.log → operation.cancelled = true
  expired : .expired ∈ operation.log → operation.expired = true
  rising : ∀ report ∈ reportsIn operation.log, report.sequence ≤ operation.report.sequence
  ordered : ∃ count ≤ targets.length, dispatchedIn operation.log = List.range count
  observations : ∀ index ∈ operation.observations, index ∈ dispatchedIn operation.log
  arrived : Arrived operation.report.members operation.log

def Open (log : List Effect) : Prop :=
  ∀ report ∈ reportsIn log, report.phase.terminal = false

def Closed (log : List Effect) : Prop :=
  ∃ before report, reportsIn log = before ++ [report] ∧ report.phase.terminal = true
    ∧ ∀ earlier ∈ before, earlier.phase.terminal = false

/-- A running operation whose report tells of every dispatch. -/
structure Running (report : FocuserGroupResult) (log : List Effect) : Prop where
  open_ : Open log
  nonterminal : report.phase.terminal = false
  consistent : Consistent report.members log

/-- An operation before its first setback, with so many members dispatched. -/
structure Going (report : FocuserGroupResult) (log : List Effect) (count : Nat) : Prop
    extends Running report log where
  dispatched : dispatchedIn log = List.range count
  unset : ∀ effect ∈ log, effect.isSetback = false

/-- A mutation is under way; its member is not yet reported as started. -/
structure Sending (targets : List Int32) (report : FocuserGroupResult) (log : List Effect)
    (index : Nat) : Prop where
  open_ : Open log
  nonterminal : report.phase.terminal = false
  others : ∀ other member, report.members[other]? = some member → other ≠ index →
    (member.phase.started = true ↔ other ∈ dispatchedIn log)
  dispatched : dispatchedIn log = List.range (index + 1)
  unset : ∀ effect ∈ log, effect.isSetback = false
  prepared : Prepared targets log

def Standing (targets : List Int32) (report : FocuserGroupResult) (log : List Effect) :
    Stage → Prop
  | .reserving index =>
    Going report log 0 ∧ index < targets.length ∧ ∀ other < index, .reserved other ∈ log
  | .preflighting index =>
    Going report log 0 ∧ index < targets.length ∧ (∀ other < targets.length, .reserved other ∈ log)
      ∧ ∀ other < index, .passed other ∈ log
  | .rechecking index => Going report log index ∧ index < targets.length ∧ Prepared targets log
  | .rechecked index => Going report log index ∧ index < targets.length ∧ Prepared targets log
  | .dispatching index => Sending targets report log index ∧ index < targets.length
  | .observing => Running report log
  | .settling => Running report log
  | .finished => Closed log

structure Inv (targets : List Int32) (operation : Operation) : Prop where
  sound : Sound targets operation
  standing : Standing targets operation.report operation.log operation.stage

/-- An effect that neither dispatches nor publishes nor tells of an interruption. -/
def Effect.isPlain : Effect → Bool
  | .reserved _ => true
  | .passed _ => true
  | .refused _ => true
  | .failed _ _ => true
  | .observed _ _ _ => true
  | _ => false

def Effect.isNote (effect : Effect) : Prop :=
  effect.dispatched? = none ∧ effect.published? = none

theorem Effect.isPlain.isNote {effect : Effect} (hplain : effect.isPlain = true) :
    effect.isNote := by
  cases effect <;> first | exact ⟨rfl, rfl⟩ | cases hplain

variable {report : FocuserGroupResult} {log : List Effect} {effect : Effect}

theorem Effect.isNote.dispatchedIn (hnote : effect.isNote) :
    dispatchedIn (log ++ [effect]) = FocuserGroup.dispatchedIn log := by
  rw [dispatchedIn_concat, hnote.1, Option.toList_none, List.append_nil]

theorem Effect.isNote.reportsIn (hnote : effect.isNote) :
    reportsIn (log ++ [effect]) = FocuserGroup.reportsIn log := by
  rw [reportsIn_concat, hnote.2, Option.toList_none, List.append_nil]

theorem Arrived.concat {members : List FocuserMemberResult} (h : Arrived members log)
    (effect : Effect) : Arrived members (log ++ [effect]) :=
  fun index member hmember hcomplete => (h index member hmember hcomplete).append [effect]

theorem Prepared.concat (h : Prepared targets log) (effect : Effect) :
    Prepared targets (log ++ [effect]) := by
  intro index hindex
  obtain ⟨hreserved, hpassed⟩ := h index hindex
  exact ⟨List.mem_append_left _ hreserved, List.mem_append_left _ hpassed⟩

theorem Consistent.concat {members : List FocuserMemberResult} (h : Consistent members log)
    (hnone : effect.dispatched? = none) : Consistent members (log ++ [effect]) := by
  intro index member hmember
  rw [dispatchedIn_concat, hnone, Option.toList_none, List.append_nil]
  exact h index member hmember

theorem Open.note (h : Open log) (hnote : effect.isNote) : Open (log ++ [effect]) := by
  intro report hmem
  rw [hnote.reportsIn] at hmem
  exact h report hmem

theorem Running.note (h : Running report log) (hnote : effect.isNote) :
    Running report (log ++ [effect]) :=
  ⟨h.open_.note hnote, h.nonterminal, h.consistent.concat hnote.1⟩

theorem Going.note {count : Nat} (h : Going report log count) (hnote : effect.isNote)
    (hset : effect.isSetback = false) : Going report (log ++ [effect]) count where
  toRunning := h.toRunning.note hnote
  dispatched := hnote.dispatchedIn.trans h.dispatched
  unset := List.forall_mem_append.mpr ⟨h.unset, by simpa using hset⟩

theorem Sound.note (h : Sound targets operation) (hplain : effect.isPlain = true) :
    Sound targets (operation.note effect) := by
  have hnote := Effect.isPlain.isNote hplain
  exact {
    calibrated := h.calibrated
    justified := h.justified.concat (by cases effect <;> trivial)
    cancelled := by
      refine fun hmem => h.cancelled ((List.mem_append.mp hmem).resolve_right fun hnew => ?_)
      cases List.mem_singleton.mp hnew
      cases hplain
    expired := by
      refine fun hmem => h.expired ((List.mem_append.mp hmem).resolve_right fun hnew => ?_)
      cases List.mem_singleton.mp hnew
      cases hplain
    rising := by
      rw [Operation.note, hnote.reportsIn]
      exact h.rising
    ordered := by
      rw [Operation.note, hnote.dispatchedIn]
      exact h.ordered
    observations := by
      rw [Operation.note, hnote.dispatchedIn]
      exact h.observations
    arrived := h.arrived.concat effect }

theorem Sound.staged (h : Sound targets operation) (stage : Stage) :
    Sound targets { operation with stage := stage } :=
  { h with }

theorem Sound.members_length (h : Sound targets operation) :
    operation.report.members.length = targets.length := by
  rw [← h.calibrated, List.length_map]

variable {index : Nat} {member : FocuserMemberResult}
  {change : FocuserMemberResult → FocuserMemberResult}

theorem getElem?_setMember {other : Nat}
    (hmember : (operation.setMember index change).report.members[other]? = some member) :
    (other = index ∧ ∃ prior, operation.report.members[index]? = some prior ∧ member = change prior)
      ∨ (other ≠ index ∧ operation.report.members[other]? = some member) := by
  simp only [Operation.setMember, List.getElem?_modify, Option.map_eq_map,
    Option.map_eq_some_iff] at hmember
  obtain ⟨prior, hprior, hchanged⟩ := hmember
  by_cases hindex : index = other
  · subst hindex
    exact .inl ⟨rfl, prior, hprior, by simpa using hchanged.symm⟩
  · refine .inr ⟨fun h => hindex h.symm, ?_⟩
    rw [if_neg hindex] at hchanged
    rw [← hchanged]
    exact hprior

theorem Sound.setMember (h : Sound targets operation) {index : Nat}
    {change : FocuserMemberResult → FocuserMemberResult}
    (htarget : ∀ member, (change member).target = member.target)
    (harrived : ∀ member, operation.report.members[index]? = some member →
      (change member).phase = .complete →
      Followed operation.log (.dispatched index member.target) (.observed index false member.target)) :
    Sound targets (operation.setMember index change) := { h with
  calibrated := by
    rw [← h.calibrated]
    refine List.ext_getElem? fun other => ?_
    simp only [Operation.setMember, List.getElem?_map, List.getElem?_modify, Option.map_eq_map,
      Option.map_map]
    refine congrArg (fun change => Option.map change _) (funext fun member => ?_)
    by_cases hindex : index = other <;> simp [hindex, htarget]
  arrived other member hmember hcomplete := by
    rcases getElem?_setMember hmember with ⟨rfl, prior, hprior, rfl⟩ | ⟨-, hold⟩
    · rw [htarget]
      exact harrived prior hprior hcomplete
    · exact h.arrived other member hold hcomplete }

theorem Running.rejected (error : SourceError) (h : Running operation.report operation.log)
    (hindex : index ∉ dispatchedIn operation.log) :
    Running (operation.reject index error).report operation.log := { h with
  consistent := by
    intro other member hmember
    rcases getElem?_setMember hmember with ⟨rfl, prior, -, rfl⟩ | ⟨-, hold⟩
    · exact iff_of_false (by simp [FocuserMemberPhase.started]) hindex
    · exact h.consistent other member hold }

theorem Sound.rejected (h : Sound targets operation) (index : Nat) (error : SourceError) :
    Sound targets (operation.reject index error) :=
  h.setMember (fun _ => rfl) (fun _ _ hphase => by cases hphase)

theorem Running.answered {index : Nat} {change : FocuserMemberResult → FocuserMemberResult}
    (hopen : Open operation.log) (hphase : operation.report.phase.terminal = false)
    (hothers : ∀ other member, operation.report.members[other]? = some member → other ≠ index →
      (member.phase.started = true ↔ other ∈ dispatchedIn operation.log))
    (hindex : index ∈ dispatchedIn operation.log)
    (hstarted : ∀ member, operation.report.members[index]? = some member →
      (change member).phase.started = true) :
    Running (operation.setMember index change).report operation.log where
  open_ := hopen
  nonterminal := hphase
  consistent := by
    intro other member hmember
    rcases getElem?_setMember hmember with ⟨rfl, prior, hprior, rfl⟩ | ⟨hother, hold⟩
    · exact iff_of_true (hstarted prior hprior) hindex
    · exact hothers other member hold hother

theorem mem_reportsIn_emit {report : FocuserGroupResult}
    (hmem : report ∈ reportsIn operation.emit.log) :
    report ∈ reportsIn operation.log ∨ report = operation.emit.report := by
  simp only [Operation.emit, reportsIn_concat, Effect.published?, Option.toList_some,
    List.mem_append, List.mem_singleton] at hmem
  exact hmem

theorem Sound.emit (h : Sound targets operation) (hopen : Open operation.log)
    (hconsistent : Consistent operation.report.members operation.log)
    (hcomplete : operation.report.phase = .complete →
      ∀ member ∈ operation.report.members, member.phase = .complete) :
    Sound targets operation.emit where
  calibrated := h.calibrated
  justified := h.justified.concat {
    rising := fun earlier hmem => Nat.lt_succ_of_le (h.rising earlier hmem)
    open_ := hopen
    calibrated := h.calibrated
    consistent := hconsistent
    arrived := h.arrived
    complete := hcomplete }
  cancelled hmem := h.cancelled (by simpa [Operation.emit] using hmem)
  expired hmem := h.expired (by simpa [Operation.emit] using hmem)
  rising report hmem := by
    rcases mem_reportsIn_emit hmem with hold | rfl
    · exact Nat.le_succ_of_le (h.rising report hold)
    · exact Nat.le_refl _
  ordered := by simpa [Operation.emit, dispatchedIn_concat, Effect.dispatched?] using h.ordered
  observations := by
    simpa [Operation.emit, dispatchedIn_concat, Effect.dispatched?] using h.observations
  arrived := h.arrived.concat _

theorem Running.incomplete (h : Running report log) : report.phase ≠ .complete := by
  intro hcomplete
  have hphase := h.nonterminal
  rw [hcomplete] at hphase
  cases hphase

theorem Sound.emitted (h : Sound targets operation)
    (hrunning : Running operation.report operation.log) : Sound targets operation.emit :=
  h.emit hrunning.open_ hrunning.consistent (fun hcomplete => absurd hcomplete hrunning.incomplete)

theorem Running.emit (h : Running operation.report operation.log) :
    Running operation.emit.report operation.emit.log where
  open_ := by
    intro report hmem
    rcases mem_reportsIn_emit hmem with hold | rfl
    · exact h.open_ report hold
    · exact h.nonterminal
  nonterminal := h.nonterminal
  consistent := h.consistent.concat rfl

theorem Going.emit {count : Nat} (h : Going operation.report operation.log count) :
    Going operation.emit.report operation.emit.log count where
  toRunning := h.toRunning.emit
  dispatched := by simpa [Operation.emit, dispatchedIn_concat, Effect.dispatched?] using h.dispatched
  unset := List.forall_mem_append.mpr ⟨h.unset, by simp [Effect.isSetback]⟩

theorem Sound.setPhase (h : Sound targets operation) (phase : FocuserGroupPhase) :
    Sound targets (operation.setPhase phase) :=
  { h with }

/-! ## Steps -/

theorem finish_inv (h : Sound targets operation) (hrunning : Running operation.report operation.log)
    {phase : FocuserGroupPhase} (hterminal : phase.terminal = true) (hcomplete : phase = .complete →
      ∀ member ∈ operation.report.members, member.phase = .complete) :
    Inv targets (operation.finish phase) where
  sound := ((h.setPhase phase).emit hrunning.open_ hrunning.consistent hcomplete).staged _
  standing := by
    refine ⟨reportsIn operation.log, (operation.finish phase).report, ?_, hterminal, hrunning.open_⟩
    simp only [finish, Operation.emit, Operation.setPhase, reportsIn_concat,
      Effect.published?, Option.toList_some]

theorem interrupted_none (hnone : operation.interrupted = none) :
    operation.cancelled = false ∧ operation.expired = false := by
  unfold interrupted at hnone
  split at hnone
  · cases hnone
  next hcancelled =>
    split at hnone
    · cases hnone
    next hexpired => exact ⟨by simpa using hcancelled, by simpa using hexpired⟩

theorem interrupted_terminal {reason : FocuserGroupPhase}
    (hreason : operation.interrupted = some reason) :
    reason.terminal = true ∧ reason ≠ .complete := by
  unfold interrupted at hreason
  split at hreason
  · cases hreason
    exact ⟨rfl, by decide⟩
  · split at hreason
    · cases hreason
      exact ⟨rfl, by decide⟩
    · cases hreason

theorem interruptible_inv (h : Inv targets operation)
    (hrunning : Running operation.report operation.log) (timer : Bool) {α : Type}
    {work : Option α} {next : α → Operation} (hnext : ∀ result, Inv targets (next result)) :
    Inv targets (operation.interruptible timer work next) := by
  unfold interruptible
  split
  · exact finish_inv h.sound hrunning rfl (fun hphase => by cases hphase)
  split
  · exact finish_inv h.sound hrunning rfl (fun hphase => by cases hphase)
  cases work with
  | none => exact h
  | some result => exact hnext result

theorem refused_inv (h : Sound targets operation)
    (hgoing : Going operation.report operation.log 0) (index : Nat) (error : SourceError) :
    Inv targets ((operation.reject index error).finish .preflightFailed) := by
  have hnone : index ∉ dispatchedIn operation.log := by simp [hgoing.dispatched]
  exact finish_inv (h.rejected index error) (hgoing.toRunning.rejected error hnone) rfl
    (fun hphase => by cases hphase)

theorem noted_upto {note : Nat → Effect} (hnoted : ∀ other < index, note other ∈ log) :
    ∀ other < index + 1, note other ∈ log ++ [note index] := by
  intro other hother
  rcases Nat.lt_succ_iff_lt_or_eq.mp hother with hlt | rfl
  · exact List.mem_append_left _ (hnoted other hlt)
  · exact List.mem_append_right _ List.mem_cons_self

theorem reserve_inv (h : Sound targets operation)
    (hstanding : Standing targets operation.report operation.log (.reserving index))
    (answer : Except SourceError Unit) : Inv targets (operation.reserve index answer) := by
  obtain ⟨hgoing, hindex, hreserved⟩ := hstanding
  cases answer with
  | error error => exact refused_inv h hgoing index error
  | ok =>
    have hsound : Sound targets (operation.note (.reserved index)) := h.note rfl
    have hnoted : Going operation.report (operation.log ++ [.reserved index]) 0 :=
      hgoing.note ⟨rfl, rfl⟩ rfl
    have hearlier := noted_upto hreserved
    have hlength := h.members_length
    unfold reserve
    dsimp only
    split
    next hmore =>
      have hmore : index + 1 < targets.length := hlength ▸ hmore
      exact ⟨hsound.staged _, hnoted, hmore, hearlier⟩
    next hlast =>
      have hlast : ¬index + 1 < targets.length := hlength ▸ hlast
      refine ⟨hsound.staged _, hnoted, by omega, fun other hother => ?_, fun other hother => ?_⟩
      · exact hearlier other (by omega)
      · exact absurd hother (Nat.not_lt_zero other)

theorem preflight_inv (h : Sound targets operation)
    (hstanding : Standing targets operation.report operation.log (.preflighting index))
    (answer : Except SourceError Unit) : Inv targets (operation.preflight index answer) := by
  obtain ⟨hgoing, hindex, hreserved, hpassed⟩ := hstanding
  cases answer with
  | error error => exact refused_inv h hgoing index error
  | ok =>
    have hsound : Sound targets (operation.note (.passed index)) := h.note rfl
    have hnoted : Going operation.report (operation.log ++ [.passed index]) 0 :=
      hgoing.note ⟨rfl, rfl⟩ rfl
    have hkept : ∀ other < targets.length,
        Effect.reserved other ∈ operation.log ++ [.passed index] := fun other hother =>
      List.mem_append_left _ (hreserved other hother)
    have hearlier := noted_upto hpassed
    have hlength := h.members_length
    unfold Operation.preflight
    dsimp only
    split
    next hmore =>
      have hmore : index + 1 < targets.length := hlength ▸ hmore
      exact ⟨hsound.staged _, hnoted, hmore, hkept, hearlier⟩
    next hlast =>
      have hlast : ¬index + 1 < targets.length := hlength ▸ hlast
      let moving := (operation.note (.passed index)).setPhase .moving
      have hmoving : Going moving.report moving.log 0 :=
        ⟨⟨hnoted.open_, rfl, hnoted.consistent⟩, hnoted.dispatched, hnoted.unset⟩
      have hprepared : Prepared targets moving.log := fun other hother =>
        ⟨hkept other hother, hearlier other (by omega)⟩
      have hemitted : Sound targets moving.emit :=
        (hsound.setPhase .moving).emitted hmoving.toRunning
      exact ⟨hemitted.staged _, hmoving.emit, by omega, hprepared.concat _⟩

theorem moving_dispatched (h : Running operation.report operation.log) :
    ∀ index ∈ operation.moving, index ∈ dispatchedIn operation.log := by
  intro index hmem
  simp only [Operation.moving, List.mem_filter] at hmem
  cases hmember : operation.report.members[index]? with
  | none => simp [hmember] at hmem
  | some member =>
    have hmoving : member.phase = .moving := by simpa [hmember] using hmem.2
    exact (h.consistent index member hmember).mp (by rw [hmoving]; rfl)

theorem await_inv (h : Sound targets operation) (hrunning : Running operation.report operation.log)
    {observations : List Nat}
    (hobservations : ∀ index ∈ observations, index ∈ dispatchedIn operation.log) :
    Inv targets (operation.await observations) where
  sound := { h with observations := hobservations }
  standing := by
    simp only [await]
    split
    · exact hrunning
    · exact hrunning

theorem emit_await_inv (h : Sound targets operation)
    (hrunning : Running operation.report operation.log) {observations : List Nat}
    (hobservations : ∀ index ∈ observations, index ∈ dispatchedIn operation.log) :
    Inv targets (operation.emit.await observations) := by
  refine await_inv (h.emitted hrunning) hrunning.emit ?_
  simpa [Operation.emit, dispatchedIn_concat, Effect.dispatched?] using hobservations

theorem recheck_inv (h : Sound targets operation)
    (hstanding : Standing targets operation.report operation.log (.rechecking index))
    (answer : Except SourceError Unit) : Inv targets (operation.recheck index answer) := by
  obtain ⟨hgoing, hindex, hprepared⟩ := hstanding
  cases answer with
  | ok => exact ⟨h.staged _, hgoing, hindex, hprepared⟩
  | error error =>
    let noted := operation.note (.refused index)
    have hsound : Sound targets noted := h.note rfl
    have hnone : index ∉ dispatchedIn noted.log := by
      simp [noted, Operation.note, dispatchedIn_concat, Effect.dispatched?, hgoing.dispatched]
    have hnoted : Running noted.report noted.log := hgoing.toRunning.note ⟨rfl, rfl⟩
    have hrejected := hnoted.rejected error hnone
    exact await_inv (hsound.rejected index error) hrejected (moving_dispatched hrejected)

theorem Going.unstopped {count : Nat} (h : Going operation.report operation.log count)
    (hsound : Sound targets operation) (hnone : operation.interrupted = none) :
    ∀ effect ∈ operation.log, effect.stops = false := by
  obtain ⟨hcancelled, hexpired⟩ := interrupted_none hnone
  intro effect hmem
  cases effect with
  | cancelled => simp [hsound.cancelled hmem] at hcancelled
  | expired => simp [hsound.expired hmem] at hexpired
  | _ => exact h.unset _ hmem

theorem Sound.dispatched (h : Sound targets operation) {target : Int32}
    (hmay : MayDispatch targets operation.log index target) (hindex : index < targets.length) :
    Sound targets (operation.note (.dispatched index target)) where
  calibrated := h.calibrated
  justified := h.justified.concat hmay
  cancelled hmem := h.cancelled (by simpa [Operation.note] using hmem)
  expired hmem := h.expired (by simpa [Operation.note] using hmem)
  rising := by simpa [Operation.note, reportsIn_concat, Effect.published?] using h.rising
  ordered := by
    refine ⟨index + 1, hindex, ?_⟩
    rw [Operation.note, dispatchedIn_concat, hmay.turn, List.range_succ]
    rfl
  observations other hmem := by
    rw [Operation.note, dispatchedIn_concat]
    exact List.mem_append_left _ (h.observations other hmem)
  arrived := h.arrived.concat _

theorem Going.sending (h : Going report log index) (hprepared : Prepared targets log)
    (target : Int32) : Sending targets report (log ++ [.dispatched index target]) index where
  open_ report hmem := h.open_ report (by simpa [reportsIn_concat, Effect.published?] using hmem)
  nonterminal := h.nonterminal
  others other member hmember hother := by
    rw [dispatchedIn_concat]
    simp only [Effect.dispatched?, Option.toList_some, List.mem_append, List.mem_singleton, hother,
      or_false]
    exact h.consistent other member hmember
  dispatched := by
    rw [dispatchedIn_concat, h.dispatched, List.range_succ]
    rfl
  unset := List.forall_mem_append.mpr ⟨h.unset, by simp [Effect.isSetback]⟩
  prepared := hprepared.concat _

theorem admit_inv (h : Sound targets operation)
    (hstanding : Standing targets operation.report operation.log (.rechecked index)) :
    Inv targets (operation.admit_ index) := by
  obtain ⟨hgoing, hindex, hprepared⟩ := hstanding
  have hlength := h.members_length
  obtain ⟨member, hmember⟩ : ∃ member, operation.report.members[index]? = some member :=
    ⟨_, List.getElem?_eq_getElem (by omega)⟩
  unfold admit_
  rw [hmember]
  cases hinterrupted : operation.interrupted with
  | some reason =>
    obtain ⟨hterminal, hother⟩ := interrupted_terminal hinterrupted
    exact finish_inv h hgoing.toRunning hterminal (fun hphase => absurd hphase hother)
  | none =>
    have hcalibrated : targets[index]? = some member.target := by
      rw [← h.calibrated, List.getElem?_map, hmember]
      rfl
    have hmay : MayDispatch targets operation.log index member.target :=
      ⟨hprepared, hgoing.dispatched, hcalibrated, hgoing.unstopped h hinterrupted⟩
    exact ⟨(h.dispatched hmay hindex).staged _, hgoing.sending hprepared member.target, hindex⟩

theorem Sending.mem (h : Sending targets report log index) : index ∈ dispatchedIn log := by
  rw [h.dispatched]
  exact List.mem_range.mpr (Nat.lt_succ_self index)

theorem dispatch_inv (h : Sound targets operation)
    (hstanding : Standing targets operation.report operation.log (.dispatching index))
    (answer : Except SourceError Unit) : Inv targets (operation.dispatch index answer) := by
  obtain ⟨hsending, hindex⟩ := hstanding
  cases answer with
  | ok =>
    let moved := operation.setMember index fun member => { member with phase := .moving }
    have hsound : Sound targets moved :=
      h.setMember (fun _ => rfl) (fun _ _ hphase => by cases hphase)
    have hrunning : Running moved.report moved.log :=
      .answered hsending.open_ hsending.nonterminal hsending.others hsending.mem (fun _ _ => rfl)
    have hgoing : Going moved.report moved.log (index + 1) :=
      ⟨hrunning, hsending.dispatched, hsending.unset⟩
    unfold dispatch
    dsimp only
    split
    next hmore =>
      have hmore : index + 1 < targets.length := by
        rw [← hsound.members_length]
        exact hmore
      exact ⟨(hsound.emitted hrunning).staged _, hgoing.emit, hmore, hsending.prepared.concat _⟩
    next hlast =>
      exact await_inv (hsound.emitted hrunning) hrunning.emit (moving_dispatched hrunning.emit)
  | error error =>
    let noted := operation.note (.failed index error)
    let phase := if error.kind = .uncertain then FocuserMemberPhase.uncertain else .failed
    let change := fun member : FocuserMemberResult =>
      { member with phase := phase, error := some error }
    have hphase : phase.started = true ∧ phase ≠ .complete := by
      by_cases hkind : error.kind = .uncertain <;> simp [phase, hkind, FocuserMemberPhase.started]
    have hdispatched : dispatchedIn noted.log = dispatchedIn operation.log :=
      Effect.isNote.dispatchedIn ⟨rfl, rfl⟩
    have hsound : Sound targets (noted.setMember index change) :=
      (h.note rfl).setMember (fun _ => rfl) (fun _ _ hcomplete => absurd hcomplete hphase.2)
    have hrunning : Running (noted.setMember index change).report noted.log :=
      .answered (hsending.open_.note ⟨rfl, rfl⟩) hsending.nonterminal
        (fun other member hmember hother => hdispatched ▸ hsending.others other member hmember hother)
        (hdispatched ▸ hsending.mem) (fun _ _ => hphase.1)
    exact emit_await_inv hsound hrunning (moving_dispatched hrunning)

theorem Sound.dispatched_target (h : Sound targets operation)
    (hindex : index ∈ dispatchedIn operation.log)
    (hmember : operation.report.members[index]? = some member) :
    .dispatched index member.target ∈ operation.log := by
  obtain ⟨target, hmem⟩ := mem_dispatchedIn.mp hindex
  obtain ⟨before, after, hsplit⟩ := List.append_of_mem hmem
  have hmay : MayDispatch targets before index target := h.justified before _ after hsplit
  have hcalibrated := hmay.calibrated
  rw [← h.calibrated, List.getElem?_map, hmember] at hcalibrated
  cases hcalibrated
  exact hmem

theorem observed_target (observation : Except SourceError (Bool × Int32))
    (member : FocuserMemberResult) :
    (observed observation member).target = member.target := by
  unfold observed
  split
  · split
    · rfl
    · split <;> rfl
  · rfl

theorem observed_complete {observation : Except SourceError (Bool × Int32)}
    (hcomplete : (observed observation member).phase = .complete) :
    observation = .ok (false, member.target) ∨ member.phase = .complete := by
  unfold observed at hcomplete
  split at hcomplete
  next moving position =>
    split at hcomplete
    · exact .inr hcomplete
    next hrest =>
      split at hcomplete
      next hplace => exact .inl (by simp [hrest, hplace])
      next => cases hcomplete
  next => cases hcomplete

theorem observed_started {observation : Except SourceError (Bool × Int32)}
    (hstarted : member.phase.started = true) :
    (observed observation member).phase.started = true := by
  unfold observed
  split
  · split
    · exact hstarted
    · split <;> rfl
  · rfl

theorem noteObservation_keeps (operation : Operation) (index : Nat)
    (observation : Except SourceError (Bool × Int32)) :
    (operation.noteObservation index observation).report = operation.report
      ∧ (operation.noteObservation index observation).observations = operation.observations
      ∧ dispatchedIn (operation.noteObservation index observation).log = dispatchedIn operation.log
      ∧ reportsIn (operation.noteObservation index observation).log = reportsIn operation.log := by
  cases observation with
  | ok answer =>
    have hnote : (Effect.observed index answer.1 answer.2).isNote := ⟨rfl, rfl⟩
    exact ⟨rfl, rfl, hnote.dispatchedIn, hnote.reportsIn⟩
  | error error => exact ⟨rfl, rfl, rfl, rfl⟩

theorem Sound.noted (h : Sound targets operation) (index : Nat)
    (observation : Except SourceError (Bool × Int32)) :
    Sound targets (operation.noteObservation index observation) := by
  cases observation with
  | ok answer => exact h.note rfl
  | error error => exact h

theorem observe_inv (h : Inv targets operation)
    (hrunning : Running operation.report operation.log) (index : Nat)
    (observation : Except SourceError (Bool × Int32)) :
    Inv targets (operation.observe index observation) := by
  unfold observe
  split
  next hpending =>
    let noted := operation.noteObservation index observation
    obtain ⟨hreport, hkept, hdispatched, hreports⟩ := noteObservation_keeps operation index observation
    have hindex : index ∈ dispatchedIn operation.log := h.sound.observations index hpending
    have hsound : Sound targets noted := h.sound.noted index observation
    have hconsistent : Consistent noted.report.members noted.log := by
      intro other member hmember
      rw [hdispatched]
      exact hrunning.consistent other member (hreport ▸ hmember)
    have hchanged : Sound targets (noted.setMember index (observed observation)) := by
      refine hsound.setMember (observed_target observation) fun member hmember hcomplete => ?_
      rcases observed_complete hcomplete with rfl | hbefore
      · exact followed_concat (h.sound.dispatched_target hindex hmember) _
      · exact hsound.arrived index member hmember hbefore
    have hanswered : Running (noted.setMember index (observed observation)).report
        noted.log :=
      .answered (fun report hmem => hrunning.open_ report (hreports ▸ hmem))
        (by rw [hreport]; exact hrunning.nonterminal)
        (fun other member hmember _ => hconsistent other member hmember) (hdispatched ▸ hindex)
        (fun member hmember => observed_started
          ((hconsistent index member hmember).mpr (hdispatched ▸ hindex)))
    have hrest : ∀ other ∈ noted.observations.erase index, other ∈ dispatchedIn noted.log := by
      intro other hmem
      rw [hkept] at hmem
      rw [hdispatched]
      exact h.sound.observations other (List.mem_of_mem_erase hmem)
    refine emit_await_inv hchanged hanswered ?_
    split
    · intro other hmem
      rcases List.mem_append.mp hmem with hold | hnew
      · exact hrest other hold
      · rw [List.mem_singleton.mp hnew]
        exact hdispatched ▸ hindex
    · intro other hmem
      exact hrest other hmem
  next => exact h

theorem settle_inv (h : Sound targets operation)
    (hrunning : Running operation.report operation.log) : Inv targets operation.settle := by
  unfold settle
  cases hinterrupted : operation.interrupted with
  | some reason =>
    obtain ⟨hterminal, hother⟩ := interrupted_terminal hinterrupted
    exact finish_inv h hrunning hterminal (fun hcomplete => absurd hcomplete hother)
  | none =>
    dsimp only [Option.getD_none]
    split
    next hall =>
      refine finish_inv h hrunning rfl fun _ member hmember => ?_
      simpa using List.all_eq_true.mp hall member hmember
    next => exact finish_inv h hrunning rfl (fun hcomplete => by cases hcomplete)

theorem wake_inv (h : Inv targets operation) (wake : Wake) : Inv targets (operation.wake wake) := by
  have hstanding := h.standing
  unfold Operation.wake
  cases hstage : operation.stage with
  | reserving index =>
    rw [hstage] at hstanding
    exact interruptible_inv h hstanding.1.toRunning _ (reserve_inv h.sound hstanding)
  | preflighting index =>
    rw [hstage] at hstanding
    exact interruptible_inv h hstanding.1.toRunning _ (preflight_inv h.sound hstanding)
  | rechecking index =>
    rw [hstage] at hstanding
    exact interruptible_inv h hstanding.1.toRunning _ (recheck_inv h.sound hstanding)
  | rechecked index =>
    rw [hstage] at hstanding
    exact admit_inv h.sound hstanding
  | dispatching index =>
    rw [hstage] at hstanding
    cases hanswer : wake.answer with
    | none => exact h
    | some answer => exact dispatch_inv h.sound hstanding answer
  | observing =>
    rw [hstage] at hstanding
    exact interruptible_inv h hstanding _
      (fun observation => observe_inv h hstanding observation.1 observation.2)
  | settling =>
    rw [hstage] at hstanding
    exact settle_inv h.sound hstanding
  | finished => exact h

theorem Standing.noted {stage : Stage} (h : Standing targets report log stage)
    (hnote : effect.isNote) (hset : effect.isSetback = false) :
    Standing targets report (log ++ [effect]) stage := by
  cases stage with
  | reserving index =>
    exact ⟨h.1.note hnote hset, h.2.1, fun other hother => List.mem_append_left _ (h.2.2 other hother)⟩
  | preflighting index =>
    exact ⟨h.1.note hnote hset, h.2.1,
      fun other hother => List.mem_append_left _ (h.2.2.1 other hother),
      fun other hother => List.mem_append_left _ (h.2.2.2 other hother)⟩
  | rechecking index => exact ⟨h.1.note hnote hset, h.2.1, h.2.2.concat effect⟩
  | rechecked index => exact ⟨h.1.note hnote hset, h.2.1, h.2.2.concat effect⟩
  | dispatching index =>
    refine ⟨⟨h.1.open_.note hnote, h.1.nonterminal, ?_, hnote.dispatchedIn.trans h.1.dispatched,
      List.forall_mem_append.mpr ⟨h.1.unset, by simpa using hset⟩, h.1.prepared.concat effect⟩, h.2⟩
    intro other member hmember hother
    rw [hnote.dispatchedIn]
    exact h.1.others other member hmember hother
  | observing => exact h.note hnote
  | settling => exact h.note hnote
  | finished =>
    obtain ⟨before, last, hreports, hterminal, hopen⟩ := h
    exact ⟨before, last, hnote.reportsIn.trans hreports, hterminal, hopen⟩

theorem cancel_inv (h : Inv targets operation) : Inv targets (operation.apply .cancel) where
  sound := {
    calibrated := h.sound.calibrated
    justified := h.sound.justified.concat trivial
    cancelled := fun _ => rfl
    expired := fun hmem => h.sound.expired (by simpa [apply, Operation.note] using hmem)
    rising := by
      simpa [apply, Operation.note, reportsIn_concat, Effect.published?]
        using h.sound.rising
    ordered := by
      simpa [apply, Operation.note, dispatchedIn_concat, Effect.dispatched?]
        using h.sound.ordered
    observations := by
      simpa [apply, Operation.note, dispatchedIn_concat, Effect.dispatched?]
        using h.sound.observations
    arrived := h.sound.arrived.concat _ }
  standing := h.standing.noted ⟨rfl, rfl⟩ rfl

theorem expire_inv (h : Inv targets operation) : Inv targets (operation.apply .expire) where
  sound := {
    calibrated := h.sound.calibrated
    justified := h.sound.justified.concat trivial
    cancelled := fun hmem => h.sound.cancelled (by simpa [apply, Operation.note] using hmem)
    expired := fun _ => rfl
    rising := by
      simpa [apply, Operation.note, reportsIn_concat, Effect.published?]
        using h.sound.rising
    ordered := by
      simpa [apply, Operation.note, dispatchedIn_concat, Effect.dispatched?]
        using h.sound.ordered
    observations := by
      simpa [apply, Operation.note, dispatchedIn_concat, Effect.dispatched?]
        using h.sound.observations
    arrived := h.sound.arrived.concat _ }
  standing := h.standing.noted ⟨rfl, rfl⟩ rfl

theorem apply_inv (h : Inv targets operation) (event : Event) : Inv targets (operation.apply event) := by
  cases event with
  | cancel => exact cancel_inv h
  | expire => exact expire_inv h
  | wake wake => exact wake_inv h wake

end

section

/-! ## Runs -/

variable {targets : List Int32} {operation : Operation}

theorem mapM_ok_length {α β ε : Type} {f : α → Except ε β} {items : List α} {results : List β}
    (hresults : items.mapM f = .ok results) : results.length = items.length := by
  induction items generalizing results with
  | nil =>
    cases hresults
    rfl
  | cons item items ih =>
    rw [List.mapM_cons] at hresults
    cases hitem : f item with
    | error error =>
      rw [hitem] at hresults
      cases hresults
    | ok result =>
      cases hrest : items.mapM f with
      | error error =>
        rw [hitem, hrest] at hresults
        cases hresults
      | ok rest =>
        rw [hitem, hrest] at hresults
        cases hresults
        simp [ih hrest]

theorem two_le_members (group : FocuserGroup) : 2 ≤ group.config.members.length := by
  have hchecked := group.checked
  unfold FocuserGroupConfig.validate at hchecked
  split at hchecked
  · cases hchecked
  next hvalid =>
    simp only [Bool.or_eq_true, not_or, Bool.not_eq_true', Bool.not_eq_false, Bool.and_eq_true,
      decide_eq_true_eq] at hvalid
    omega

theorem startOwned_ok {group : FocuserGroup} {runtime busy : Bool} {logicalTarget : Int32}
    {id : Uuid} (hstart : group.startOwned runtime busy logicalTarget id = .ok operation) :
    ∃ targets report, (group.config.members.mapM fun member => member.target logicalTarget)
        = .ok targets ∧ report.members.map FocuserMemberResult.target = targets
      ∧ (∀ member ∈ report.members, member.phase = .notStarted) ∧ report.phase = .preflight
      ∧ operation = ⟨report, .reserving 0, false, false, [], [.published report]⟩ := by
  unfold startOwned at hstart
  simp only [bind, Except.bind, throw, throwThe, MonadExceptOf.throw, pure, Except.pure] at hstart
  split at hstart
  · cases hstart
  cases htargets : group.config.members.mapM fun member => member.target logicalTarget with
  | error error =>
    rw [htargets] at hstart
    cases hstart
  | ok targets =>
    rw [htargets] at hstart
    dsimp only at hstart
    split at hstart
    · cases hstart
    split at hstart
    · cases hstart
    cases hstart
    refine ⟨targets, _, rfl, ?_, ?_, rfl, rfl⟩
    · have hlength : targets.length ≤ group.sessions.length := by
        rw [mapM_ok_length htargets, group.counted]
      rw [List.map_map]
      exact List.map_snd_zip hlength
    · intro member hmember
      obtain ⟨pair, -, rfl⟩ := List.mem_map.mp hmember
      rfl

theorem startOwned_inv {group : FocuserGroup} {runtime busy : Bool} {logicalTarget : Int32}
    {id : Uuid} (hstart : group.startOwned runtime busy logicalTarget id = .ok operation) :
    ∃ targets, (group.config.members.mapM fun member => member.target logicalTarget) = .ok targets
      ∧ Inv targets operation := by
  obtain ⟨targets, report, htargets, hcalibrated, hresting, hphase, rfl⟩ := startOwned_ok hstart
  have hlength := mapM_ok_length htargets
  have hmembers := two_le_members group
  have hunstarted : ∀ log, dispatchedIn log = [] → Consistent report.members log := by
    intro log hnone index member hmember
    rw [hnone]
    exact iff_of_false (by simp [hresting member (List.mem_of_getElem? hmember),
      FocuserMemberPhase.started]) (List.not_mem_nil)
  have harrived : ∀ log, Arrived report.members log := by
    intro log index member hmember hcomplete
    rw [hresting member (List.mem_of_getElem? hmember)] at hcomplete
    cases hcomplete
  refine ⟨targets, htargets, ?_, ?_⟩
  · exact {
      calibrated := hcalibrated
      justified := by
        have hfirst : MayPublish targets [] report := {
          rising := by simp [reportsIn]
          open_ := by simp [reportsIn]
          calibrated := hcalibrated
          consistent := hunstarted [] rfl
          arrived := harrived []
          complete := by simp [hphase] }
        exact Justified.nil.concat hfirst
      cancelled := by simp
      expired := by simp
      rising := by simp [reportsIn, Effect.published?]
      ordered := ⟨0, Nat.zero_le _, rfl⟩
      observations := by simp
      arrived := harrived _ }
  · refine ⟨⟨⟨?_, ?_, hunstarted _ rfl⟩, rfl, ?_⟩, by omega, fun other hother => ?_⟩
    · simp [Open, reportsIn, Effect.published?, hphase, FocuserGroupPhase.terminal]
    · rw [hphase]
      rfl
    · simp [Effect.isSetback]
    · exact absurd hother (Nat.not_lt_zero other)

/-- What holds of an operation at any time, with these targets of its members. -/
structure Coordinated (targets : List Int32) (operation : Operation) : Prop where
  /-- A member is dispatched only when all are reserved and all passed their check. -/
  prepared : ∀ before index target after,
    operation.log = before ++ .dispatched index target :: after → Prepared targets before
  /-- Dispatched are the first members, each once and in order. -/
  ordered : ∃ count ≤ targets.length, dispatchedIn operation.log = List.range count
  calibrated : ∀ index target, .dispatched index target ∈ operation.log →
    targets[index]? = some target
  /-- After a setback, a cancellation or the deadline nothing is dispatched. -/
  halted : operation.log.Pairwise fun earlier later =>
    earlier.stops = true → later.dispatched? = none
  rising : (reportsIn operation.log).Pairwise fun earlier later => earlier.sequence < later.sequence
  /-- A terminal report is the last one, and only a finished operation has published one. -/
  terminal : if operation.stage = .finished then Closed operation.log else Open operation.log
  /-- Every published report tells what was dispatched before it. -/
  consistent : ∀ before report after, operation.log = before ++ .published report :: after →
    report.members.map FocuserMemberResult.target = targets ∧ Consistent report.members before
  /-- A complete operation dispatched every member and saw it at rest at its target. -/
  complete : ∀ report ∈ reportsIn operation.log, report.phase = .complete →
    ∀ index target, targets[index]? = some target →
      Followed operation.log (.dispatched index target) (.observed index false target)
  /-- Two answered wake-ups after an interruption the operation is finished. -/
  ends : operation.interrupted ≠ none → ∀ first second : Wake,
    first.timer = true → first.answer ≠ none → second.timer = true →
      ((operation.wake first).wake second).stage = .finished

theorem interruptible_finished (hinterrupted : operation.interrupted ≠ none) {α : Type}
    (work : Option α) (next : α → Operation) :
    (operation.interruptible true work next).stage = .finished := by
  unfold interruptible
  unfold interrupted at hinterrupted
  by_cases hcancelled : operation.cancelled = true
  · rw [if_pos hcancelled]
    rfl
  · by_cases hexpired : operation.expired = true
    · rw [if_neg hcancelled, if_pos (by simpa using hexpired)]
      rfl
    · rw [if_neg hcancelled, if_neg hexpired] at hinterrupted
      exact absurd rfl hinterrupted

theorem wake_interrupted (hinterrupted : operation.interrupted ≠ none) {wake : Wake}
    (htimer : wake.timer = true) (hwaits : ∀ index, operation.stage ≠ .dispatching index) :
    (operation.wake wake).stage = .finished := by
  unfold Operation.wake
  cases hstage : operation.stage with
  | dispatching index => exact absurd hstage (hwaits index)
  | rechecked index =>
    obtain ⟨reason, hreason⟩ := Option.ne_none_iff_exists'.mp hinterrupted
    simp only [admit_, hreason]
    rfl
  | settling => rfl
  | finished => exact hstage
  | _ =>
    simp only [htimer]
    exact interruptible_finished hinterrupted _ _

theorem await_stage (operation : Operation) (observations : List Nat) :
    ∀ index, (operation.await observations).stage ≠ .dispatching index := by
  intro index
  simp only [await]
  split <;> simp

theorem dispatch_waits (index : Nat) (answer : Except SourceError Unit) :
    (operation.dispatch index answer).interrupted = operation.interrupted
      ∧ ∀ other, (operation.dispatch index answer).stage ≠ .dispatching other := by
  cases answer with
  | ok =>
    unfold dispatch
    dsimp only
    split
    · exact ⟨rfl, by simp⟩
    · exact ⟨rfl, await_stage _ _⟩
  | error error => exact ⟨rfl, await_stage _ _⟩

theorem wakes_finished (hinterrupted : operation.interrupted ≠ none) {first second : Wake}
    (hfirst : first.timer = true) (hanswer : first.answer ≠ none) (hsecond : second.timer = true) :
    ((operation.wake first).wake second).stage = .finished := by
  by_cases hsending : ∃ index, operation.stage = .dispatching index
  · obtain ⟨index, hstage⟩ := hsending
    obtain ⟨answer, hanswer⟩ := Option.ne_none_iff_exists'.mp hanswer
    have hspec : (operation.dispatch index answer).interrupted = operation.interrupted
        ∧ ∀ other, (operation.dispatch index answer).stage ≠ .dispatching other :=
      dispatch_waits index answer
    obtain ⟨hsame, hwaits⟩ := hspec
    have hdispatch : operation.wake first = operation.dispatch index answer := by
      simp only [Operation.wake, hstage, hanswer]
    rw [hdispatch]
    exact wake_interrupted (hsame ▸ hinterrupted) hsecond hwaits
  · have hfinished := wake_interrupted hinterrupted hfirst
      (fun index hstage => hsending ⟨index, hstage⟩)
    have hkept : (operation.wake first).wake second = operation.wake first := by
      rw [Operation.wake, hfinished]
    rw [hkept, hfinished]

theorem Standing.open_ {report : FocuserGroupResult} {log : List Effect} {stage : Stage}
    (h : Standing targets report log stage) (hstage : stage ≠ .finished) : Open log := by
  cases stage with
  | reserving index => exact h.1.open_
  | preflighting index => exact h.1.open_
  | rechecking index => exact h.1.open_
  | rechecked index => exact h.1.open_
  | dispatching index => exact h.1.open_
  | observing => exact Running.open_ h
  | settling => exact Running.open_ h
  | finished => exact absurd rfl hstage

theorem Inv.coordinated (h : Inv targets operation) : Coordinated targets operation := by
  have hjustified := h.sound.justified
  exact {
    prepared := fun before index target after hsplit =>
      (show MayDispatch targets before index target from hjustified _ _ _ hsplit).prepared
    ordered := h.sound.ordered
    calibrated := by
      intro index target hmem
      obtain ⟨before, after, hsplit⟩ := List.append_of_mem hmem
      exact (show MayDispatch targets before index target from hjustified _ _ _ hsplit).calibrated
    halted := by
      refine hjustified.pairwise fun before entry hrule earlier hmem hstops => ?_
      cases entry with
      | dispatched index target =>
        have hgoing := (show MayDispatch targets before index target from hrule).going earlier hmem
        rw [hgoing] at hstops
        cases hstops
      | _ => rfl
    rising := by
      refine List.pairwise_filterMap.mpr (hjustified.pairwise ?_)
      intro before entry hrule earlier hmem a ha b hb
      cases entry with
      | published report =>
        cases hb
        have hmay : MayPublish targets before b := hrule
        exact hmay.rising a (List.mem_filterMap.mpr ⟨earlier, hmem, ha⟩)
      | _ => cases hb
    terminal := by
      have hstanding := h.standing
      split
      next hstage =>
        rw [hstage] at hstanding
        exact hstanding
      next hstage => exact hstanding.open_ hstage
    consistent := by
      intro before report after hsplit
      have hmay : MayPublish targets before report := hjustified _ _ _ hsplit
      exact ⟨hmay.calibrated, hmay.consistent⟩
    complete := by
      intro report hmem hcomplete index target htarget
      obtain ⟨effect, heffect, hpublished⟩ := List.mem_filterMap.mp hmem
      obtain ⟨before, after, hsplit⟩ := List.append_of_mem heffect
      have hrule := hjustified _ _ _ hsplit
      cases effect with
      | published published =>
        cases hpublished
        have hmay : MayPublish targets before report := hrule
        rw [← hmay.calibrated, List.getElem?_map] at htarget
        obtain ⟨member, hmember, rfl⟩ := Option.map_eq_some_iff.mp htarget
        have hdone := hmay.complete hcomplete member (List.mem_of_getElem? hmember)
        rw [hsplit]
        exact (hmay.arrived index member hmember hdone).append _
      | _ => cases hpublished
    ends := fun hinterrupted first second => wakes_finished hinterrupted }

/-- In every run of an operation of a group, whatever the sources answer and whenever a
cancellation or the deadline arrives. -/
theorem run_coordinated {group : FocuserGroup} {runtime busy : Bool} {logicalTarget : Int32}
    {id : Uuid} (hstart : group.startOwned runtime busy logicalTarget id = .ok operation)
    (events : List Event) :
    ∃ targets, (group.config.members.mapM fun member => member.target logicalTarget) = .ok targets
      ∧ Coordinated targets (machine.final operation events) := by
  obtain ⟨targets, htargets, hinv⟩ := startOwned_inv hstart
  have hinductive : machine.Inductive operation (Inv targets) :=
    ⟨hinv, fun event hstate => apply_inv hstate event⟩
  exact ⟨targets, htargets, (hinductive.final events).coordinated⟩

end

/-! ## Two focusers -/

def pair : FocuserGroup where
  config := {
    id := 1
    label := "Pair"
    minimum := 0
    maximum := 1000
    timeoutSeconds := 120.0
    pollSeconds := 0.1
    members := [⟨2, 1, 1, 5, 0, 2000⟩, ⟨3, -1, 2, 500, 0, 2000⟩] }
  sessions := [⟨2, 12⟩, ⟨3, 13⟩]
  checked := by decide +kernel
  counted := rfl
  matched := by decide

def pairEvents : List Event :=
  let answered : Event := .wake ⟨false, some (.ok ()), none⟩
  let seen := fun index moving position => Event.wake ⟨false, none, some (index, .ok (moving, position))⟩
  List.replicate 10 answered
    ++ [seen 0 true 60, seen 1 false 449, seen 0 false 106, answered]

theorem pair_coordinated : ∃ operation, pair.startOwned true false 101 7 = .ok operation
    ∧ (machine.final operation pairEvents).report.phase = .complete
    ∧ ∃ targets, (pair.config.members.mapM fun member => member.target 101) = .ok targets
      ∧ Coordinated targets (machine.final operation pairEvents) := by
  have hphase : ((pair.startOwned true false 101 7).toOption.map fun operation =>
      (machine.final operation pairEvents).report.phase) = some .complete := by decide +kernel
  cases hstart : pair.startOwned true false 101 7 with
  | error error =>
    rw [hstart] at hphase
    cases hphase
  | ok operation =>
    rw [hstart] at hphase
    exact ⟨operation, rfl, Option.some.inj hphase, run_coordinated hstart pairEvents⟩

end FocuserGroup

end Regain.Hub
