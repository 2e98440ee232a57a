import Regain.Hub.Camera.Prepared

/-!
# Runs of admitted starts

Guide pulses, settings, status reads and commands leave an acquisition that was never
acknowledged as it is, or make it uncertain.  So every admitted start of a run ends dispatched,
rejected or uncertain.
-/

namespace Regain.Hub.CameraSupervisor

open Lib

def Effect.isLease : Effect → Bool
  | attached _ => true
  | release _ _ => true
  | released _ => true
  | forsaken _ => true
  | _ => false

namespace Supervised

/-! ## Guide pulses and settings -/

/-- A step of a guide pulse or of a setting: no acquisition, no command and no image changes. -/
structure Idle (before after : Supervised) : Prop where
  starts : after.starts = before.starts
  commands : after.commands = before.commands
  active : after.state.active = before.state.active
  completed : after.state.completed = before.state.completed
  log : ∃ effects, after.log = before.log ++ effects ∧ ∀ effect ∈ effects, effect.isLease = true

namespace Idle

variable {before after : Supervised}

theorem refl (supervised : Supervised) : Idle supervised supervised :=
  ⟨rfl, rfl, rfl, rfl, [], by simp, by simp⟩

theorem setState (h : Idle before after) {state : State}
    (hactive : state.active = after.state.active)
    (hcompleted : state.completed = after.state.completed) : Idle before (after.setState state) :=
  ⟨h.starts, h.commands, hactive.trans h.active, hcompleted.trans h.completed, h.log⟩

theorem note (h : Idle before after) {effect : Effect} (heffect : effect.isLease = true) :
    Idle before (after.note effect) := by
  obtain ⟨effects, hlog, hleases⟩ := h.log
  refine ⟨h.starts, h.commands, h.active, h.completed, effects ++ [effect], ?_, ?_⟩
  · simp [Supervised.note, hlog]
  · intro found hfound
    rcases List.mem_append.mp hfound with hearlier | hlast
    · exact hleases found hearlier
    · rw [List.mem_singleton.mp hlast]
      exact heffect

theorem grant (h : Idle before after) (lease : Uuid) (holder : Holder) :
    Idle before (after.grant lease holder) :=
  { h with }

theorem moveGuide (h : Idle before after) (id : Uuid) (guide : Guide) (stage : GuideStage) :
    Idle before (after.moveGuide id guide stage) :=
  { h with }

theorem moveSetting (h : Idle before after) (id : Uuid) (setting : Setting)
    (stage : SettingStage) : Idle before (after.moveSetting id setting stage) :=
  { h with }

theorem trace (h : Idle before after) (id : Uuid) : after.trace id = before.trace id := by
  obtain ⟨effects, hlog, hleases⟩ := h.log
  have hnone : effects.filterMap Effect.dispatched? = [] := by
    apply List.filterMap_eq_nil_iff.mpr
    intro effect hmem
    have hlease := hleases effect hmem
    cases effect <;> first | rfl | cases hlease
  have hdispatches : after.dispatches id = before.dispatches id := by
    unfold dispatches dispatchedIn
    rw [hlog, List.filterMap_append, hnone, List.append_nil]
  unfold Supervised.trace
  rw [h.commands, hdispatches, State.activeIs_same h.active]

end Idle

/-! The sections under the lock that concern guide pulses and settings leave the image. -/

section

variable {state after : State} (id : Uuid)

theorem guideUncertain_completed (state : State) (error : SourceError) :
    (state.guideUncertain id error).completed = state.completed := by
  unfold State.guideUncertain
  split
  · rfl
  · rfl

theorem finishGuide_completed (state : State) :
    (state.finishGuide id).1.completed = state.completed := by
  unfold State.finishGuide
  split
  · rfl
  split
  · rfl
  split
  · rfl
  · rfl

theorem clearGuide_completed (state : State) :
    (state.clearGuide id).completed = state.completed := by
  unfold State.clearGuide
  split
  · rfl
  · rfl

theorem dropSetting_completed (state : State) :
    (state.dropSetting id).completed = state.completed := by
  unfold State.dropSetting
  split
  · rfl
  · rfl

theorem attachGuide_same {operation : Uuid}
    (hattach : state.attachGuide id operation = some after) :
    after.active = state.active ∧ after.completed = state.completed := by
  obtain ⟨guide, -, rfl⟩ := Option.map_eq_some_iff.mp hattach
  exact ⟨rfl, rfl⟩

theorem guides_same (hguides : state.guides id = some after) :
    after.active = state.active ∧ after.completed = state.completed := by
  obtain ⟨guide, -, rfl⟩ := Option.map_eq_some_iff.mp hguides
  exact ⟨rfl, rfl⟩

theorem admitGuide_completed {session : Session} {request : GuideRequest} {borrowed : Option Uuid}
    (hadmitted : state.admitGuide session id request = .ok (after, borrowed)) :
    after.completed = state.completed := by
  unfold State.admitGuide at hadmitted
  split at hadmitted
  · cases hadmitted
  split at hadmitted
  · cases hadmitted
  split at hadmitted
  · cases hadmitted
  dsimp only at hadmitted
  split at hadmitted
  · cases hadmitted
    rfl
  split at hadmitted
  · cases hadmitted
  split at hadmitted
  · cases hadmitted
    rfl
  · cases hadmitted

theorem admitSetting_completed {session : Session} {setting : CameraSetting}
    {borrowed acquisition : Option Uuid}
    (hadmitted : state.admitSetting session id setting = .ok (after, borrowed, acquisition)) :
    after.completed = state.completed := by
  unfold State.admitSetting at hadmitted
  split at hadmitted
  · cases hadmitted
  split at hadmitted
  · cases hadmitted
  · cases hadmitted
    rfl

theorem abandonGuiding_same {owner : Uuid} (habandoned : state.abandonGuiding owner = .ok after) :
    after.active = state.active ∧ after.completed = state.completed := by
  unfold State.abandonGuiding at habandoned
  split at habandoned
  · cases habandoned
    exact ⟨rfl, rfl⟩
  split at habandoned
  · cases habandoned
  split at habandoned
  · cases habandoned
  · cases habandoned
    exact ⟨rfl, rfl⟩

end

section

variable (supervised : Supervised) (id : Uuid)

theorem loseGuide_idle (guide : Guide) (error : SourceError) :
    Idle supervised (supervised.loseGuide id guide error) :=
  ((Idle.refl supervised).setState (State.guideUncertain_active _ _ _)
    (guideUncertain_completed _ _ _)).moveGuide _ _ _

theorem finishGuide_idle (guide : Guide) : Idle supervised (supervised.finishGuide id guide) := by
  have hactive := State.finishGuide_active supervised.state id
  have hcompleted := finishGuide_completed id supervised.state
  unfold finishGuide
  generalize supervised.state.finishGuide id = finished at hactive hcompleted
  obtain ⟨state, operation⟩ := finished
  have hstate := (Idle.refl supervised).setState hactive hcompleted
  cases operation with
  | none => exact hstate.moveGuide _ _ _
  | some operation => exact (hstate.note rfl).moveGuide _ _ _

theorem runGuide_idle (guide : Guide) (answer : Answer) :
    Idle supervised (supervised.runGuide id guide answer) := by
  have hrefl := Idle.refl supervised
  unfold runGuide
  cases guide.stage with
  | acquiring borrowed =>
    dsimp only
    unfold acquireGuide
    split
    · exact hrefl.moveGuide _ _ _
    split
    · exact hrefl.moveGuide _ _ _
    split
    · exact hrefl.moveGuide _ _ _
    split
    · exact hrefl
    · exact (hrefl.grant _ _).moveGuide _ _ _
  | attaching operation =>
    dsimp only
    unfold Supervised.attachGuide
    cases hattach : supervised.state.attachGuide id operation with
    | none => exact hrefl.moveGuide _ _ _
    | some state =>
      obtain ⟨hactive, hcompleted⟩ := attachGuide_same id hattach
      exact ((hrefl.setState hactive hcompleted).note rfl).moveGuide _ _ _
  | probing operation =>
    dsimp only
    unfold probeGuide
    split
    · exact hrefl.moveGuide _ _ _
    split
    · exact hrefl.moveGuide _ _ _
    · exact hrefl.moveGuide _ _ _
  | writing =>
    dsimp only
    unfold answerGuide
    split
    · split
      · exact loseGuide_idle supervised id guide _
      · exact hrefl.moveGuide _ _ _
    · exact hrefl.moveGuide _ _ _
  | sampling =>
    dsimp only
    unfold sampleGuide
    split
    · exact loseGuide_idle supervised id guide _
    split
    · exact hrefl.moveGuide _ _ _
    · exact hrefl.moveGuide _ _ _
  | confirming =>
    dsimp only
    unfold confirmGuide
    cases hguides : supervised.state.guides id with
    | none => exact hrefl.moveGuide _ _ _
    | some state =>
      obtain ⟨hactive, hcompleted⟩ := guides_same id hguides
      exact (hrefl.setState hactive hcompleted).moveGuide _ _ _
  | watching =>
    dsimp only
    unfold watchGuide
    split
    · exact loseGuide_idle supervised id guide _
    split
    · exact loseGuide_idle supervised id guide _
    · exact hrefl.moveGuide _ _ _
  | finishing => exact finishGuide_idle supervised id guide
  | releasing operation =>
    dsimp only
    unfold releaseGuide
    split
    · exact loseGuide_idle supervised id guide _
    · have hstate := hrefl.setState (State.clearGuide_active _ id) (clearGuide_completed id _)
      exact (hstate.note rfl).moveGuide _ _ _
  | finished => exact hrefl

theorem runSetting_idle (setting : Setting) (answer : Answer) :
    Idle supervised (supervised.runSetting id setting answer) := by
  have hrefl := Idle.refl supervised
  unfold runSetting
  cases setting.stage with
  | acquiring =>
    dsimp only
    unfold acquireSetting
    split
    · exact hrefl.moveSetting _ _ _
    split
    · exact hrefl.moveSetting _ _ _
    split
    · exact hrefl.moveSetting _ _ _
    split
    · exact hrefl
    · exact (hrefl.grant _ _).moveSetting _ _ _
  | checking operation =>
    dsimp only
    unfold checkSetting
    split
    · exact hrefl.moveSetting _ _ _
    split
    · exact hrefl.moveSetting _ _ _
    · exact hrefl.moveSetting _ _ _
  | writing operation =>
    dsimp only
    unfold answerSetting
    split
    · exact hrefl.moveSetting _ _ _
    · exact (hrefl.note rfl).moveSetting _ _ _
  | releasing operation =>
    dsimp only
    unfold releaseSetting
    split
    · exact hrefl.moveSetting _ _ _
    · exact (hrefl.note rfl).moveSetting _ _ _
  | dropping =>
    have hstate := hrefl.setState (State.dropSetting_active _ id) (dropSetting_completed id _)
    exact hstate.moveSetting _ _ _
  | finished => exact hrefl

end

/-! ## Stops and aborts -/

def Certain (supervised : Supervised) : Prop :=
  ∀ key command, supervised.commands key = some command →
    command.admission.previous ≠ .starting

structure Others (before after : Supervised) : Prop where
  starts : after.starts = before.starts
  keeps : before.Certain → ∀ id, Keeps (before.trace id) (after.trace id)
  certain : before.Certain → after.Certain

theorem Idle.others {before after : Supervised} (h : Idle before after) : Others before after := by
  refine ⟨h.starts, fun _ id => ?_, fun hcertain => ?_⟩
  · rw [h.trace id]
    exact (Aside.refl _).keeps
  · unfold Certain
    rw [h.commands]
    exact hcertain

/-- What comes before a command moves on: it concerns the acquisition of the command alone. -/
structure Obeys (before after : Supervised) (id : Uuid) : Prop where
  commands : after.commands = before.commands
  starts : after.starts = before.starts
  others : ∀ other, other ≠ id → after.trace other = before.trace other
  begun : before.Certain → Begun (before.trace id) → Begun (after.trace id)
  dispatches : after.dispatches id = before.dispatches id

namespace Obeys

variable {before after : Supervised} {id : Uuid}

theorem refl (supervised : Supervised) (id : Uuid) : Obeys supervised supervised id :=
  ⟨rfl, rfl, fun _ _ => rfl, fun _ hbegun => hbegun, rfl⟩

theorem note (h : Obeys before after id) {effect : Effect} (heffect : effect.dispatched? = none) :
    Obeys before (after.note effect) id := by
  have hsame : ∀ other, (after.note effect).trace other = after.trace other :=
    fun other => trace_note heffect
  refine ⟨h.commands, h.starts, fun other hother => ?_, fun hcertain hbegun => ?_, ?_⟩
  · rw [hsame other]
    exact h.others other hother
  · rw [hsame id]
    exact h.begun hcertain hbegun
  · exact (congrArg Trace.dispatches (hsame id)).trans h.dispatches

theorem setState {supervised : Supervised} {state : State}
    (hothers : ∀ other, other ≠ id → state.activeIs other = supervised.state.activeIs other)
    (hbegun : supervised.Certain → Begun (supervised.trace id) →
      ∀ active ∈ state.activeIs id, active.phase ≠ .starting) :
    Obeys supervised (supervised.setState state) id := by
  refine ⟨rfl, rfl, fun other hother => ?_, hbegun, rfl⟩
  unfold Supervised.trace
  rw [Trace.mk.injEq]
  exact ⟨hothers other hother, rfl, rfl⟩

theorem moved (h : Obeys before after id) {key : Uuid} {command : Command}
    (hcommand : before.commands key = some command) (hid : command.admission.id = id)
    (stage : CommandStage) : Others before (after.moveCommand key command stage) := by
  refine ⟨h.starts, fun hcertain other => ?_, fun hcertain other found hfound => ?_⟩
  · by_cases hother : other = id
    · subst hother
      -- an acquisition with a command is acknowledged
      have hcommanded : commandsOf before.commands other key = some command := by
        unfold commandsOf
        rw [hcommand, Option.filter_some, if_pos (by simpa using hid)]
      constructor
      · intro hunknown
        have hnone : commandsOf before.commands other key = none := hunknown.uncommanded key
        rw [hnone] at hcommanded
        cases hcommanded
      · intro hfresh
        have hnone : commandsOf before.commands other key = none := hfresh.uncommanded key
        rw [hnone] at hcommanded
        cases hcommanded
      · intro hfresh
        have hnone : commandsOf before.commands other key = none := hfresh.uncommanded key
        rw [hnone] at hcommanded
        cases hcommanded
      · exact h.begun hcertain
      · exact h.dispatches
    · have hcommands : commandsOf (after.moveCommand key command stage).commands other
          = commandsOf before.commands other := by
        have hview := congrArg View.commands (view_moveCommand after other
          (fun heq => hother (heq.symm.trans hid)) (fun prior hprior heq => by
            rw [h.commands, hcommand] at hprior
            cases hprior
            exact hother (heq.symm.trans hid)) stage)
        exact hview.trans (congrArg Trace.commands (h.others other hother))
      have htrace : (after.moveCommand key command stage).trace other = before.trace other := by
        rw [← h.others other hother]
        unfold Supervised.trace
        rw [Trace.mk.injEq]
        exact ⟨rfl, hcommands.trans (congrArg Trace.commands (h.others other hother)).symm, rfl⟩
      rw [htrace]
      exact (Aside.refl _).keeps
  · change Function.update after.commands key _ other = some found at hfound
    by_cases hkey : other = key
    · subst hkey
      rw [Function.update_self] at hfound
      cases hfound
      exact hcertain other command hcommand
    · rw [Function.update_of_ne hkey, h.commands] at hfound
      exact hcertain other found hfound

end Obeys

section

variable {supervised : Supervised} {key : Uuid} {command : Command}

theorem resumeCommand_others (hcommand : supervised.commands key = some command)
    (error : Option SourceError) :
    Others supervised (supervised.resumeCommand key command error) := by
  have hobeys : Obeys supervised (supervised.setState (supervised.state.endCommand
      command.admission.id command.admission.previous error)) command.admission.id := by
    unfold State.endCommand
    cases hactive : supervised.state.activeIs command.admission.id with
    | none => exact Obeys.refl _ _
    | some active =>
      dsimp only
      split
      · exact Obeys.refl _ _
      · apply Obeys.setState
        · intro other hother
          rw [State.activeIs_replace hactive { active with
            commandPending := false
            phase := command.admission.previous } rfl rfl, if_neg hother]
        · intro hcertain _ found hmem
          obtain ⟨hfound, -⟩ := State.activeIs_eq_some.mp hmem
          cases hfound
          exact hcertain key command hcommand
  exact hobeys.moved hcommand rfl .finished

theorem loseCommand_others (hcommand : supervised.commands key = some command)
    (error : SourceError) : Others supervised (supervised.loseCommand key command error) := by
  have hobeys : Obeys supervised (supervised.setState (supervised.state.uncertain
      command.admission.id error)) command.admission.id := by
    apply Obeys.setState
    · intro other hother
      rw [State.uncertain_activeIs, if_neg hother]
    · intro _ _ found hmem
      rw [State.uncertain_activeIs, if_pos rfl] at hmem
      obtain ⟨prior, -, rfl⟩ := Option.map_eq_some_iff.mp hmem
      simp [Active.lose]
  exact hobeys.moved hcommand rfl .finished

theorem moveCommand_others (hcommand : supervised.commands key = some command)
    (stage : CommandStage) : Others supervised (supervised.moveCommand key command stage) :=
  (Obeys.refl supervised command.admission.id).moved hcommand rfl stage

theorem clearAborted_obeys (supervised : Supervised) (id : Uuid) :
    Obeys supervised (supervised.setState (supervised.state.clearAborted id)) id := by
  unfold State.clearAborted
  cases hactive : supervised.state.activeIs id with
  | none => exact Obeys.refl _ _
  | some active =>
    apply Obeys.setState
    · intro other hother
      rw [State.activeIs_clear hactive rfl, if_neg hother]
    · intro _ _ found hmem
      cases hmem

theorem runCommand_others (hcommand : supervised.commands key = some command) (answer : Answer) :
    Others supervised (supervised.runCommand key command answer) := by
  have hrefl := Obeys.refl supervised command.admission.id
  unfold runCommand
  cases command.stage with
  | probing =>
    dsimp only
    unfold probeCommand
    split
    · exact resumeCommand_others hcommand _
    split
    · exact moveCommand_others hcommand _
    · exact moveCommand_others hcommand _
  | confirming =>
    dsimp only
    unfold Supervised.confirmCommand
    split
    · exact moveCommand_others hcommand _
    · exact moveCommand_others hcommand _
  | writing =>
    dsimp only
    unfold answerCommand
    split
    · exact moveCommand_others hcommand _
    split
    · split
      · exact (hrefl.note rfl).moved hcommand rfl _
      · exact moveCommand_others hcommand _
    · exact (Idle.refl supervised).others
  | answered result =>
    dsimp only
    unfold settleCommand
    cases result with
    | error error =>
      dsimp only
      split
      · exact loseCommand_others hcommand _
      · exact resumeCommand_others hcommand _
    | ok =>
      dsimp only
      split
      · unfold abortCommand
        split
        · exact (clearAborted_obeys supervised _).moved hcommand rfl _
        · exact (hrefl.note rfl).moved hcommand rfl _
      · exact resumeCommand_others hcommand _
  | releasing =>
    dsimp only
    unfold releaseCommand
    split
    · exact loseCommand_others hcommand _
    · exact ((clearAborted_obeys supervised _).note rfl).moved hcommand rfl _
  | finished => exact (Idle.refl supervised).others

end

/-- What the admission of a stop or an abort finds, and what it makes of it. -/
structure Commands (state after : State) (abort : Bool) (admission : State.Admission)
    (active : Active) : Prop where
  found : state.activeIs admission.id = some active
  started : active.phase ≠ .starting
  certain : active.phase ≠ .uncertain
  exposing : active.phase ≠ .downloading
  idle : active.commandPending = false
  operation : active.operation = some admission.operation
  previous : admission.previous = active.phase
  changed : after.active = some { active with
    phase := if abort then .aborting else .stopping
    commandPending := true }
  completed : after.completed = state.completed

theorem commanded_started (abort : Bool) :
    (if abort then AcquisitionPhase.aborting else .stopping) ≠ .starting := by
  cases abort <;> simp

theorem admitCommand_cases {state after : State} {session : Session} {abort : Bool}
    {expected : Option Uuid} {admission : State.Admission}
    (hadmitted : state.admitCommand session abort expected = .ok (after, some admission)) :
    ∃ active, Commands state after abort admission active := by
  unfold State.admitCommand at hadmitted
  split at hadmitted
  · cases hadmitted
  split at hadmitted
  · cases hadmitted
  split at hadmitted
  · cases hadmitted
  split at hadmitted
  · cases hadmitted
  split at hadmitted
  · cases hadmitted
  next active hactive =>
    split at hadmitted
    · cases hadmitted
    next hfree =>
      simp only [not_or, Bool.not_eq_true] at hfree
      split at hadmitted
      · cases hadmitted
      next hcertain =>
        split at hadmitted
        · cases hadmitted
        split at hadmitted
        · split at hadmitted
          · cases hadmitted
          · cases hadmitted
        next hexposing =>
          split at hadmitted
          · cases hadmitted
          next operation hoperation =>
            cases hadmitted
            exact ⟨active, {
              found := State.activeIs_eq_some.mpr ⟨hactive, rfl⟩
              started := hfree.2.2
              certain := hcertain
              exposing := hexposing
              idle := hfree.2.1
              operation := hoperation
              previous := rfl
              changed := rfl
              completed := rfl }⟩

theorem admitCommand_others (supervised : Supervised) (key : Uuid) (session : Session)
    (abort : Bool) (expected : Option Uuid) :
    Others supervised (supervised.admitCommand key session abort expected) := by
  unfold Supervised.admitCommand
  split
  · exact (Idle.refl supervised).others
  next hadmits =>
    have hnew : supervised.commands key = none := by
      simp only [Bool.or_eq_true, not_or, Bool.not_eq_true] at hadmits
      exact Option.isSome_eq_false_iff.mp hadmits.1 |> Option.isNone_iff_eq_none.mp
    cases hadmitted : supervised.state.admitCommand session abort expected with
    | error error => exact (Idle.refl supervised).others
    | ok result =>
      obtain ⟨state, admission⟩ := result
      cases admission with
      | none => exact (Idle.refl supervised).others
      | some admission =>
        obtain ⟨active, hcommands⟩ := admitCommand_cases hadmitted
        have hactive := hcommands.found
        have hfree : ¬(active.phase = .starting ∨ active.phase = .uncertain) :=
          not_or.mpr ⟨hcommands.started, hcommands.certain⟩
        refine ⟨rfl, fun hcertain id => ?_, fun hcertain other found hfound => ?_⟩
        · by_cases hother : id = admission.id
          · subst hother
            constructor
            · intro hunknown
              have hnone : supervised.state.activeIs admission.id = none := hunknown.active
              rw [hactive] at hnone
              cases hnone
            · intro hfresh
              obtain ⟨found, hfound, hfresh⟩ := hfresh.active
              cases hactive.symm.trans hfound
              exact absurd hfresh hfree
            · intro hfresh
              obtain ⟨found, hfound, hfresh⟩ := hfresh.active
              cases hactive.symm.trans hfound
              exact absurd hfresh hfree
            · intro _ found hmem
              obtain ⟨hfound, -⟩ := State.activeIs_eq_some.mp hmem
              cases hcommands.changed.symm.trans hfound
              exact commanded_started abort
            · rfl
          · have hview : commandsOf ((supervised.setState state).moveCommand key
                ⟨session, abort, admission, .probing⟩ .probing).commands id
                = commandsOf supervised.commands id := by
              apply congrArg View.commands (view_moveCommand _ id _ _ _)
              · exact fun heq => hother heq.symm
              · intro prior hprior
                change prior ∈ supervised.commands key at hprior
                rw [hnew] at hprior
                cases hprior
            apply Aside.keeps
            refine ⟨.inl ?_, fun hnone other => ?_, rfl⟩
            · change state.activeIs id = _
              rw [State.activeIs_replace hactive _ hcommands.changed rfl, if_neg hother]
              rfl
            · exact (congrFun hview other).trans (hnone other)
        · change Function.update supervised.commands key _ other = some found at hfound
          by_cases hkey : other = key
          · subst hkey
            rw [Function.update_self] at hfound
            cases hfound
            change admission.previous ≠ _
            rw [hcommands.previous]
            exact hcommands.started
          · rw [Function.update_of_ne hkey] at hfound
            exact hcertain other found hfound

theorem readStatus_others (supervised : Supervised) (age : Nat) :
    Others supervised (supervised.readStatus age) := by
  unfold readStatus
  split
  · exact (Idle.refl supervised).others
  next view _ =>
    refine ⟨rfl, fun _ id => ?_, fun hcertain => hcertain⟩
    apply Aside.keeps
    refine ⟨?_, fun hnone => hnone, Local.dispatches_note _ (by simp [Effect.dispatched?])⟩
    change (supervised.state.fence view).activeIs id = supervised.state.activeIs id
      ∨ (supervised.state.fence view).activeIs id = (supervised.state.activeIs id).map Active.lose
    unfold State.fence
    cases hactive : supervised.state.active with
    | none => exact .inl rfl
    | some active =>
      dsimp only
      split
      · by_cases hid : active.id = id
        · have hfound := State.activeIs_eq_some.mpr ⟨hactive, hid⟩
          right
          rw [State.activeIs_replace hfound active.lose rfl rfl, if_pos rfl, hfound]
          rfl
        · have hfound := State.activeIs_eq_some.mpr ⟨hactive, rfl⟩
          left
          rw [State.activeIs_replace hfound active.lose rfl rfl, if_neg (Ne.symm hid)]
      · exact .inl rfl

theorem admitGuide_idle (supervised : Supervised) (id : Uuid) (session : Session)
    (request : GuideRequest) : Idle supervised (supervised.admitGuide id session request) := by
  unfold Supervised.admitGuide
  split
  · exact Idle.refl supervised
  cases hadmitted : supervised.state.admitGuide session id request with
  | error error => exact Idle.refl supervised
  | ok result =>
    obtain ⟨state, borrowed⟩ := result
    have hstate := (Idle.refl supervised).setState (State.admitGuide_active hadmitted)
      (admitGuide_completed id hadmitted)
    exact hstate.moveGuide _ _ _

theorem admitSetting_idle (supervised : Supervised) (id : Uuid) (session : Session)
    (setting : CameraSetting) : Idle supervised (supervised.admitSetting id session setting) := by
  unfold Supervised.admitSetting
  split
  · exact Idle.refl supervised
  cases hadmitted : supervised.state.admitSetting session id setting with
  | error error => exact Idle.refl supervised
  | ok result =>
    obtain ⟨state, borrowed, acquisition⟩ := result
    have hstate := (Idle.refl supervised).setState (State.admitSetting_active hadmitted)
      (admitSetting_completed id hadmitted)
    exact hstate.moveSetting _ _ _

theorem abandonGuiding_idle (supervised : Supervised) (owner : Uuid) :
    Idle supervised (supervised.abandon (supervised.state.abandonGuiding owner)) := by
  cases habandoned : supervised.state.abandonGuiding owner with
  | error error => exact Idle.refl supervised
  | ok state =>
    obtain ⟨hactive, hcompleted⟩ := abandonGuiding_same habandoned
    refine ⟨rfl, rfl, hactive, hcompleted, _, rfl, ?_⟩
    intro effect hmem
    obtain ⟨operation, -, rfl⟩ := List.mem_map.mp hmem
    rfl

/-! ## Starts -/

structure Admitted (supervised : Supervised) : Prop where
  unknown : ∀ id, supervised.starts id = none → Unknown (supervised.trace id)
  known : ∀ id start, supervised.starts id = some start → Fits start.stage (supervised.trace id)
  certain : supervised.Certain

structure Advance (before after : Supervised) : Prop where
  admitted : after.Admitted
  tasks : ∀ id start, before.starts id = some start → ∃ next, after.starts id = some next
    ∧ (start.stage.closing = true → next.stage.closing = true
      ∧ after.dispatches id = before.dispatches id)
    ∧ (next.stage = .finished → start.stage ≠ .finished → Resolved before after id)

section

variable {supervised after : Supervised}

theorem Others.advance (h : Others supervised after) (hadmitted : supervised.Admitted) :
    Advance supervised after := by
  have hkeeps := h.keeps hadmitted.certain
  refine ⟨⟨fun id hnone => ?_, fun id start hstart => ?_, h.certain hadmitted.certain⟩,
    fun id start hstart => ?_⟩
  · rw [h.starts] at hnone
    exact (hkeeps id).unknown (hadmitted.unknown id hnone)
  · rw [h.starts] at hstart
    exact (hkeeps id).fits (hadmitted.known id start hstart)
  · rw [h.starts]
    exact ⟨start, hstart, fun hclosing => ⟨hclosing, (hkeeps id).dispatches⟩,
      fun hended hopen => absurd hended hopen⟩

theorem Own.advance {id : Uuid} {start : Start} (h : Own supervised after id start.stage)
    (hstart : supervised.starts id = some start) (hadmitted : supervised.Admitted) :
    Advance supervised after := by
  obtain ⟨next, hnext, hfits, hclosing, hresolved⟩ := h.task
  refine ⟨⟨fun other hnone => ?_, fun other found hfound => ?_, ?_⟩, fun other found hfound => ?_⟩
  · by_cases hother : other = id
    · subst hother
      rw [hnext] at hnone
      cases hnone
    · rw [h.others other hother]
      exact hadmitted.unknown other ((h.starts other hother).symm.trans hnone)
  · by_cases hother : other = id
    · subst hother
      cases hnext.symm.trans hfound
      exact hfits
    · rw [h.others other hother]
      exact hadmitted.known other found ((h.starts other hother).symm.trans hfound)
  · unfold Certain
    rw [h.commands]
    exact hadmitted.certain
  · by_cases hother : other = id
    · subst hother
      cases hstart.symm.trans hfound
      exact ⟨next, hnext, hclosing, hresolved⟩
    · exact ⟨found, (h.starts other hother).trans hfound,
        fun hclosing => ⟨hclosing, congrArg Trace.dispatches (h.others other hother)⟩,
        fun hended hopen => absurd hended hopen⟩

theorem admitStart_cases {state after : State} {session : Session} {id : Uuid}
    (hadmitted : state.admitStart session id = .ok after) :
    state.active = none ∧ after.completed = state.completed ∧ ∃ active,
      after.active = some active ∧ active.id = id ∧ active.phase = .starting
        ∧ active.commandPending = false := by
  unfold State.admitStart at hadmitted
  split at hadmitted
  · cases hadmitted
  split at hadmitted
  · cases hadmitted
  dsimp only at hadmitted
  cases hactive : state.active with
  | some active =>
    rw [hactive] at hadmitted
    split at hadmitted
    · cases hadmitted
    split at hadmitted
    · cases hadmitted
    split at hadmitted
    · cases hadmitted
    · cases hadmitted
  | none =>
    refine ⟨rfl, ?_⟩
    rw [hactive] at hadmitted
    split at hadmitted
    · cases hadmitted
      exact ⟨rfl, _, rfl, rfl, rfl, rfl⟩
    split at hadmitted
    · cases hadmitted
    split at hadmitted
    · cases hadmitted
      exact ⟨rfl, _, rfl, rfl, rfl, rfl⟩
    · cases hadmitted

theorem admitStart_advance (hadmitted : supervised.Admitted) (id : Uuid) (session : Session)
    (request : ExposureRequest) (group : Bool) :
    Advance supervised (supervised.admitStart id session request group) := by
  unfold Supervised.admitStart
  split
  · exact (Idle.refl supervised).others.advance hadmitted
  next hadmits =>
    have hnew : supervised.starts id = none := by
      simp only [Bool.or_eq_true, not_or, Bool.not_eq_true] at hadmits
      exact Option.isSome_eq_false_iff.mp hadmits.1.1 |> Option.isNone_iff_eq_none.mp
    cases hstate : supervised.state.admitStart session id with
    | error error => exact (Idle.refl supervised).others.advance hadmitted
    | ok state =>
      obtain ⟨hfree, -, active, hactive, hid, hphase, -⟩ := admitStart_cases hstate
      have hunknown := hadmitted.unknown id hnew
      have hfound : state.activeIs id = some active :=
        State.activeIs_eq_some.mpr ⟨hactive, hid⟩
      have hothers : ∀ other, other ≠ id →
          (supervised.setState state).trace other = supervised.trace other := by
        intro other hother
        unfold Supervised.trace
        rw [Trace.mk.injEq]
        refine ⟨?_, rfl, rfl⟩
        rw [activeIs_removed hfree other]
        exact State.activeIs_of_ne hfound hother
      have hfits : Fits .preparing ((supervised.setState state).trace id) := by
        have hnone : supervised.dispatches id = 0 := hunknown.dispatches
        constructor
        · intro _
          exact ⟨⟨active, hfound, .inl hphase⟩, hunknown.uncommanded⟩
        · intro hbegun
          cases hbegun
        · intro _
          exact hnone
        · intro hsent
          cases hsent
        · exact le_trans (le_of_eq hnone) (Nat.zero_le 1)
        · intro operation hoperation
          cases hoperation
      have hstarts : ∀ other, other ≠ id → ((supervised.setState state).moveStart id
          ⟨session, request, group, .preparing⟩ .preparing).starts other
          = supervised.starts other :=
        fun other hother => Function.update_of_ne hother _ _
      have hself : ((supervised.setState state).moveStart id
          ⟨session, request, group, .preparing⟩ .preparing).starts id
          = some ⟨session, request, group, .preparing⟩ :=
        Function.update_self id _ supervised.starts
      refine ⟨⟨fun other hnone => ?_, fun other found hother => ?_, hadmitted.certain⟩,
        fun other found hother => ?_⟩
      · by_cases heq : other = id
        · subst heq
          rw [hself] at hnone
          cases hnone
        · have htrace := hothers other heq
          rw [hstarts other heq] at hnone
          change Unknown ((supervised.setState state).trace other)
          rw [htrace]
          exact hadmitted.unknown other hnone
      · by_cases heq : other = id
        · subst heq
          cases hself.symm.trans hother
          exact hfits
        · have htrace := hothers other heq
          rw [hstarts other heq] at hother
          change Fits found.stage ((supervised.setState state).trace other)
          rw [htrace]
          exact hadmitted.known other found hother
      · have heq : other ≠ id := by
          intro heq
          rw [heq, hnew] at hother
          cases hother
        exact ⟨found, (hstarts other heq).trans hother, fun hclosing => ⟨hclosing, rfl⟩,
          fun hended hopen => absurd hended hopen⟩

end

end Supervised

/-- The administrator, a client or the end of the source disposes of an acquisition. -/
def Input.administrative : Input → Bool
  | abandonUncertain _ => true
  | abandonOwned _ => true
  | retire => true
  | _ => false

namespace Supervised

/-! ## Runs -/

variable {supervised : Supervised}

theorem apply_advance (h : supervised.Admitted) {input : Input}
    (hinput : input.administrative = false) : Advance supervised (supervised.apply input) := by
  have hidle := (Idle.refl supervised).others.advance h
  cases input with
  | source view =>
    have hsame : Idle supervised (supervised.apply (.source view)) :=
      ⟨rfl, rfl, rfl, rfl, [], by simp [Supervised.apply], by simp⟩
    exact hsame.others.advance h
  | status age => exact (readStatus_others supervised age).advance h
  | start id session request group => exact admitStart_advance h id session request group
  | command key session abort expected =>
    exact (admitCommand_others supervised key session abort expected).advance h
  | guide id session request =>
    exact (admitGuide_idle supervised id session request).others.advance h
  | set id session setting =>
    exact (admitSetting_idle supervised id session setting).others.advance h
  | abandonUncertain acquisition => cases hinput
  | abandonOwned owner => cases hinput
  | abandonGuiding owner => exact (abandonGuiding_idle supervised owner).others.advance h
  | retire => cases hinput
  | runStart id answer =>
    change Advance supervised ((supervised.starts id).elim supervised _)
    cases hstart : supervised.starts id with
    | none => exact hidle
    | some start => exact (runStart_own (h.known id start hstart) hstart answer).advance hstart h
  | dropStart id runtime =>
    change Advance supervised ((supervised.starts id).elim supervised _)
    cases hstart : supervised.starts id with
    | none => exact hidle
    | some start =>
      exact (dropStart_own (h.known id start hstart) hstart runtime).advance hstart h
  | runCommand key answer =>
    change Advance supervised ((supervised.commands key).elim supervised _)
    cases hcommand : supervised.commands key with
    | none => exact hidle
    | some command => exact (runCommand_others hcommand answer).advance h
  | runGuide id answer =>
    change Advance supervised ((supervised.guides id).elim supervised _)
    cases supervised.guides id with
    | none => exact hidle
    | some guide => exact (runGuide_idle supervised id guide answer).others.advance h
  | runSetting id answer =>
    change Advance supervised ((supervised.settings id).elim supervised _)
    cases supervised.settings id with
    | none => exact hidle
    | some setting => exact (runSetting_idle supervised id setting answer).others.advance h

theorem initial_admitted (source : SourceView) : (initial source).Admitted where
  unknown _ _ := ⟨rfl, fun _ => rfl, rfl⟩
  known _ _ hstart := by cases hstart
  certain _ _ hcommand := by cases hcommand

/-- The task of a start, its reservation and every cleanup of it are over. -/
def Over (supervised : Supervised) (id : Uuid) : Prop :=
  ∃ start, supervised.starts id = some start ∧ start.stage = .finished

def Closing (supervised : Supervised) (id : Uuid) : Prop :=
  ∃ start, supervised.starts id = some start ∧ start.stage.closing = true

theorem run_advance (h : supervised.Admitted) {inputs : List Input}
    (hinputs : ∀ input ∈ inputs, input.administrative = false) :
    ∀ t ∈ machine.run supervised inputs, t.before.Admitted ∧ Advance t.before t.after := by
  induction inputs generalizing supervised with
  | nil => simp [Machine.run]
  | cons input inputs ih =>
    have hstep := apply_advance h (hinputs input List.mem_cons_self)
    intro t hmem
    rcases List.mem_cons.mp hmem with rfl | htail
    · exact ⟨h, hstep⟩
    · exact ih hstep.admitted (fun next hnext => hinputs next (List.mem_cons_of_mem _ hnext)) t
        htail

theorem closing_silent (h : supervised.Admitted) {id : Uuid} (hclosing : supervised.Closing id)
    {inputs : List Input} (hinputs : ∀ input ∈ inputs, input.administrative = false) :
    ∀ t ∈ machine.run supervised inputs, t.after.dispatches id = t.before.dispatches id := by
  induction inputs generalizing supervised with
  | nil => simp [Machine.run]
  | cons input inputs ih =>
    have hstep := apply_advance h (hinputs input List.mem_cons_self)
    obtain ⟨start, hstart, hclosing⟩ := hclosing
    obtain ⟨next, hnext, hkept, -⟩ := hstep.tasks id start hstart
    intro t hmem
    rcases List.mem_cons.mp hmem with rfl | htail
    · exact (hkept hclosing).2
    · exact ih hstep.admitted ⟨next, hnext, (hkept hclosing).1⟩
        (fun next hnext => hinputs next (List.mem_cons_of_mem _ hnext)) t htail

end Supervised

/-! ## Released groups -/

/-- The reservation of a group is released, or it is dropped, its task panics or is cancelled. -/
def Relinquishes (t : Transition Supervised Input Unit) (id : Uuid) : Prop :=
  ∃ start, t.before.starts id = some start ∧ start.group = true
    ∧ ((∃ runtime, t.op = .dropStart id runtime)
      ∨ ∃ plan answer, start.stage = .prepared plan ∧ answer.closed = true
        ∧ t.op = .runStart id answer)

structure Settles (run : List (Transition Supervised Input Unit)) (id : Uuid) : Prop where
  once : ∀ t ∈ run, t.after.dispatches id ≤ 1
  relinquished : run.Pairwise fun earlier later =>
    Relinquishes earlier id → later.after.dispatches id = later.before.dispatches id
  /-- Its end is exactly one of three. -/
  resolved : ∀ t ∈ run, ∀ start, t.before.starts id = some start → ¬t.before.Over id →
    t.after.Over id →
    t.after.dispatches id = 1
      ∨ t.after.dispatches id = 0 ∧ Supervised.Rejected t.before t.after id
        ∧ ¬t.after.state.Uncertain id
      ∨ t.after.dispatches id = 0 ∧ t.after.state.Uncertain id
        ∧ ¬Supervised.Rejected t.before t.after id
  /-- Nothing is left that starts without a task. -/
  certain : ∀ t ∈ run, t.after.Over id → ∀ active, t.after.state.activeIs id = some active →
    active.phase ≠ .starting

namespace Supervised

theorem relinquishes_closing {supervised : Supervised} {input : Input} {id : Uuid}
    (h : Relinquishes (machine.perform supervised input) id) :
    (machine.next supervised input).Closing id := by
  obtain ⟨start, hstart, hgroup, hinput⟩ := h
  change supervised.starts id = some start at hstart
  have hmoved : ∀ (mid : Supervised) (stage : StartStage), stage.closing = true →
      (mid.moveStart id start stage).Closing id :=
    fun mid stage hclosing =>
      ⟨{ start with stage := stage }, Function.update_self _ _ _, hclosing⟩
  have hsame : start.stage = .finished → supervised.Closing id :=
    fun hended => ⟨start, hstart, by rw [hended]; rfl⟩
  rcases hinput with ⟨runtime, hinput⟩ | ⟨plan, answer, hstage, hclosed, hinput⟩
  · change input = _ at hinput
    subst hinput
    change ((supervised.starts id).elim supervised _).Closing id
    rw [hstart]
    change (supervised.dropStart id start runtime).Closing id
    unfold dropStart
    rw [if_pos hgroup]
    have hdropped : (if runtime then supervised.moveStart id start (.rejecting none)
        else supervised.loseStart id start .uncertain).Closing id := by
      split
      · exact hmoved supervised _ rfl
      · exact hmoved _ _ rfl
    split
    next hended => exact hsame hended
    next => exact hdropped
    next => exact hdropped
    next => exact hdropped
    next => exact hdropped
    next => exact hdropped
    next => exact hmoved _ _ rfl
  · change input = _ at hinput
    subst hinput
    change ((supervised.starts id).elim supervised _).Closing id
    rw [hstart]
    change (supervised.runStart id start answer).Closing id
    unfold runStart
    rw [hstage]
    dsimp only
    unfold dispatchStart
    rw [if_pos hclosed]
    exact hmoved supervised _ rfl

theorem relinquished_silent {supervised : Supervised} (h : supervised.Admitted) (id : Uuid)
    {inputs : List Input} (hinputs : ∀ input ∈ inputs, input.administrative = false) :
    (machine.run supervised inputs).Pairwise fun earlier later =>
      Relinquishes earlier id → later.after.dispatches id = later.before.dispatches id := by
  induction inputs generalizing supervised with
  | nil => exact List.Pairwise.nil
  | cons input inputs ih =>
    have hstep := apply_advance h (hinputs input List.mem_cons_self)
    have hrest : ∀ next ∈ inputs, next.administrative = false :=
      fun next hnext => hinputs next (List.mem_cons_of_mem _ hnext)
    refine List.pairwise_cons.mpr ⟨fun later hlater hrelinquishes => ?_, ih hstep.admitted hrest⟩
    exact closing_silent hstep.admitted (relinquishes_closing hrelinquishes) hrest later hlater

theorem Rejected.certain {before after : Supervised} {id : Uuid} (h : Rejected before after id) :
    ¬after.state.Uncertain id := by
  rintro ⟨active, hactive, hid, -⟩
  have hfound := State.activeIs_eq_some.mpr ⟨hactive, hid⟩
  rw [h.1] at hfound
  cases hfound

end Supervised

/-- For every interleaving of group and single starts, reservations dropped or released at any
point, commands, guide pulses, settings and status reads. -/
theorem startsSettled (source : SourceView) (inputs : List Input) (id : Uuid) :
    Settles (machine.run (Supervised.initial source)
      (inputs.filter fun input => !input.administrative)) id := by
  have hinputs : ∀ input ∈ inputs.filter fun input => !input.administrative,
      input.administrative = false := by
    intro input hmem
    simpa using (List.mem_filter.mp hmem).2
  have hinitial := Supervised.initial_admitted source
  have hrun := Supervised.run_advance hinitial hinputs
  have honce : ∀ supervised : Supervised, supervised.Admitted → supervised.dispatches id ≤ 1 := by
    intro supervised hadmitted
    cases hstart : supervised.starts id with
    | none => exact le_trans (le_of_eq (hadmitted.unknown id hstart).dispatches) (Nat.zero_le 1)
    | some start => exact (hadmitted.known id start hstart).once
  constructor
  · intro t hmem
    exact honce t.after (hrun t hmem).2.admitted
  · exact Supervised.relinquished_silent hinitial id hinputs
  · intro t hmem start hstart hopen hover
    obtain ⟨-, hadvance⟩ := hrun t hmem
    obtain ⟨next, hnext, -, hresolved⟩ := hadvance.tasks id start hstart
    obtain ⟨found, hfound, hended⟩ := hover
    cases hnext.symm.trans hfound
    have hunfinished : start.stage ≠ .finished := fun hended => hopen ⟨start, hstart, hended⟩
    have hone := honce t.after hadvance.admitted
    by_cases hnone : t.after.dispatches id = 0
    · rcases hresolved hended hunfinished hnone with hrejected | huncertain
      · exact .inr (.inl ⟨hnone, hrejected, hrejected.certain⟩)
      · exact .inr (.inr ⟨hnone, huncertain, fun hrejected => hrejected.certain huncertain⟩)
    · exact .inl (by omega)
  · intro t hmem hover active hactive
    obtain ⟨start, hstart, hended⟩ := hover
    have hfits := (hrun t hmem).2.admitted.known id start hstart
    exact hfits.begun (by rw [hended]; rfl) active hactive

def Effect.released? : Effect → Option Uuid
  | released operation => some operation
  | _ => none

/-- A guide pulse is under way; a start of its owner borrows its control, and is dropped once it is
prepared. -/
def guidedDrop : List Input :=
  .guide 5 cameraSession ⟨0, 100⟩
      :: List.replicate 6 (.runGuide 5 { granting 50 with ready := true })
    ++ .start 7 cameraSession ⟨1.0, true⟩ true :: List.replicate 3 (.runStart 7 (granting 51))
    ++ [.dropStart 7 true, .runStart 7 (granting 51)]

/-- The start is over: it was neither dispatched nor lost, and no control was given back. -/
theorem rejected_while_guiding : ∃ source inputs id,
    let final := machine.final (Supervised.initial source) inputs
    final.Over id ∧ final.dispatches id = 0 ∧ ¬final.state.Uncertain id
      ∧ ∀ operation, .released operation ∉ final.log := by
  have hover : ((machine.final (Supervised.initial cameraSource) guidedDrop).starts 7).map
      (fun start => start.stage.part) = some .ended := by decide +kernel
  have hactive : (machine.final (Supervised.initial cameraSource) guidedDrop).state.active
      = none := by decide +kernel
  have hreleased : (machine.final (Supervised.initial cameraSource) guidedDrop).log.filterMap
      Effect.released? = [] := by decide +kernel
  refine ⟨cameraSource, guidedDrop, 7, ?_, by decide +kernel, ?_, ?_⟩
  · obtain ⟨start, hstart, hpart⟩ := Option.map_eq_some_iff.mp hover
    exact ⟨start, hstart, StartStage.finished_of_part hpart⟩
  · rintro ⟨active, hfound, -⟩
    rw [hactive] at hfound
    cases hfound
  · intro operation hmem
    have hlisted : operation ∈ (machine.final (Supervised.initial cameraSource)
        guidedDrop).log.filterMap Effect.released? := List.mem_filterMap.mpr ⟨_, hmem, rfl⟩
    rw [hreleased] at hlisted
    cases hlisted

end Regain.Hub.CameraSupervisor
