import Regain.Hub.Camera.SupervisorCommands

/-!
# Acknowledgements and images

Only the answer to a start adds an acknowledgement, and only a publication adds an image.  All
other steps bring no exposure that was not there before.
-/

namespace Regain.Hub.CameraSupervisor

open Lib

/-- The acquisition exposes: its start was acknowledged, and nothing is uncertain. -/
def Active.exposes (active : Active) : Prop :=
  active.phase ≠ .starting ∧ active.phase ≠ .uncertain

/-- A section brings no image and no exposure that was not there before. -/
structure State.Calm (before after : State) : Prop where
  completed : after.completed = before.completed ∨ after.completed = none
  active : ∀ found ∈ after.active, found.exposes →
    ∃ prior ∈ before.active, prior.id = found.id ∧ prior.exposes

namespace State

variable {state after : State} {id : Uuid}

theorem Calm.refl (state : State) : Calm state state :=
  ⟨.inl rfl, fun found hfound hexposes => ⟨found, hfound, rfl, hexposes⟩⟩

theorem Calm.same (hactive : after.active = state.active)
    (hcompleted : after.completed = state.completed) : Calm state after := by
  refine ⟨.inl hcompleted, fun found hfound hexposes => ?_⟩
  rw [hactive] at hfound
  exact ⟨found, hfound, rfl, hexposes⟩

theorem Calm.clear (hactive : after.active = none)
    (hcompleted : after.completed = state.completed ∨ after.completed = none) :
    Calm state after := by
  refine ⟨hcompleted, fun found hfound => ?_⟩
  rw [hactive] at hfound
  cases hfound

theorem Calm.replace {active changed : Active} (hactive : state.activeIs id = some active)
    (hafter : after.active = some changed) (hcompleted : after.completed = state.completed)
    (hid : changed.id = active.id) (hexposes : changed.exposes → active.exposes) :
    Calm state after := by
  refine ⟨.inl hcompleted, fun found hfound hfoundExposes => ?_⟩
  cases hafter.symm.trans hfound
  exact ⟨active, (activeIs_eq_some.mp hactive).1, hid.symm, hexposes hfoundExposes⟩

theorem uncertain_calm (state : State) (id : Uuid) (error : SourceError) :
    Calm state (state.uncertain id error) := by
  unfold State.uncertain
  cases hactive : state.activeIs id with
  | none => exact Calm.refl state
  | some active => exact Calm.replace hactive rfl rfl rfl fun hexposes => absurd rfl hexposes.2

theorem attach_calm {operation : Uuid} (hattach : state.attach id operation = some after) :
    Calm state after := by
  obtain ⟨active, hactive, rfl⟩ := Option.map_eq_some_iff.mp hattach
  exact Calm.replace hactive rfl rfl rfl fun hexposes => hexposes

theorem clearRejected_calm (state : State) (id : Uuid) (error : Option SourceError) :
    Calm state (state.clearRejected id error) := by
  unfold State.clearRejected
  split
  · exact Calm.refl state
  · exact Calm.clear rfl (.inl rfl)

theorem endRejected_calm (state : State) (id : Uuid) (error : Option SourceError) :
    Calm state (state.endRejected id error).1 := by
  unfold State.endRejected
  split
  · exact Calm.refl state
  split
  · exact Calm.clear rfl (.inl rfl)
  split
  · exact Calm.clear rfl (.inl rfl)
  · exact Calm.refl state

theorem clearAborted_calm (state : State) (id : Uuid) : Calm state (state.clearAborted id) := by
  unfold State.clearAborted
  split
  · exact Calm.refl state
  · exact Calm.clear rfl (.inr rfl)

theorem fence_calm (state : State) (view : SourceView) : Calm state (state.fence view) := by
  unfold State.fence
  cases hactive : state.active with
  | none => exact Calm.refl state
  | some active =>
    dsimp only
    split
    · exact Calm.replace (activeIs_eq_some.mpr ⟨hactive, rfl⟩) rfl rfl rfl
        fun hexposes => absurd rfl hexposes.2
    · exact Calm.refl state

end State

def Effect.isPlain : Effect → Bool
  | dispatched _ => false
  | acknowledged _ _ => false
  | published _ _ => false
  | reported _ _ => false
  | _ => true

namespace Supervised

/-- A step that dispatches and acknowledges no start, publishes no image and reports nothing. -/
structure Calm (before after : Supervised) : Prop where
  state : State.Calm before.state after.state
  log : ∃ effects, after.log = before.log ++ effects ∧ ∀ effect ∈ effects, effect.isPlain = true

namespace Calm

variable {before after : Supervised}

theorem refl (supervised : Supervised) : Calm supervised supervised :=
  ⟨State.Calm.refl _, [], by simp, by simp⟩

theorem note (h : Calm before after) {effect : Effect} (hplain : effect.isPlain = true) :
    Calm before (after.note effect) := by
  obtain ⟨effects, hlog, hearlier⟩ := h.log
  refine ⟨h.state, effects ++ [effect], ?_, ?_⟩
  · simp [Supervised.note, hlog]
  · intro found hfound
    rcases List.mem_append.mp hfound with hmem | hlast
    · exact hearlier found hmem
    · rw [List.mem_singleton.mp hlast]
      exact hplain

theorem moveStart (h : Calm before after) (id : Uuid) (start : Start) (stage : StartStage) :
    Calm before (after.moveStart id start stage) :=
  ⟨h.state, h.log⟩

theorem moveCommand (h : Calm before after) (key : Uuid) (command : Command)
    (stage : CommandStage) : Calm before (after.moveCommand key command stage) :=
  ⟨h.state, h.log⟩

theorem grant (h : Calm before after) (lease : Uuid) (holder : Holder) :
    Calm before (after.grant lease holder) :=
  ⟨h.state, h.log⟩

theorem setState {supervised : Supervised} {state : State}
    (hstate : State.Calm supervised.state state) : Calm supervised (supervised.setState state) :=
  ⟨hstate, [], by simp [Supervised.setState], by simp⟩

end Calm

section

variable (supervised : Supervised) (id : Uuid) (start : Start)

theorem loseStart_calm (error : SourceError) :
    Calm supervised (supervised.loseStart id start error) :=
  (Calm.setState (State.uncertain_calm _ _ _)).moveStart _ _ _

theorem snapshot_calm {before : Supervised} (h : Calm before supervised) (stage : StartStage)
    (hlost : ∀ error, Calm before (supervised.loseStart id start error)) :
    Calm before
      (match start.session.snapshot supervised.source with
        | .error error => supervised.loseStart id start error
        | .ok () => supervised.moveStart id start stage) := by
  split
  · exact hlost _
  · exact h.moveStart _ _ _

/-- The steps of a start that show outside: it is dispatched or acknowledged, or its image is
published. -/
inductive Marks (supervised : Supervised) (id : Uuid) (start : Start) : Supervised → Prop
  | dispatched (plan : Plan) (state : State) (prepared : start.stage = .prepared plan)
      (attaches : supervised.state.attach id plan.operation = some state) :
      Marks supervised id start (((supervised.setState state).note (.dispatched id)).moveStart id
        start (.writing plan))
  | acknowledged (plan : Plan) (generation : Uuid) (state : State)
      (answered : start.stage = .answered plan (.ok generation))
      (acknowledges : supervised.state.acknowledge id = some state) :
      Marks supervised id start (((supervised.setState state).note
        (.acknowledged id generation)).moveStart id start (.waiting plan))
  | published (plan : Plan) (image : CapturedImage)
      (captured : start.stage.image? = some (plan, image))
      (downloads : supervised.state.downloads id = true) :
      Marks supervised id start (supervised.publishStart id start image)

theorem runStart_calm (h : Fitting supervised id start) (answer : Answer) :
    Calm supervised (supervised.runStart id start answer)
      ∨ Marks supervised id start (supervised.runStart id start answer) := by
  have hrefl := Calm.refl supervised
  have hmove : ∀ stage, Calm supervised (supervised.moveStart id start stage) :=
    fun stage => hrefl.moveStart _ _ _
  have hlose := loseStart_calm supervised id start
  unfold runStart
  split
  next =>
    left
    unfold prepareStart
    split
    · exact hmove _
    split
    · exact hmove _
    · exact hmove _
  next =>
    left
    unfold acquireStart
    split
    · exact hmove _
    split
    · exact hrefl
    · exact (hrefl.grant _ _).moveStart _ _ _
  next =>
    left
    unfold attachStart
    split
    · exact hmove _
    next hattach =>
      exact ((Calm.setState (State.attach_calm hattach)).note rfl).moveStart _ _ _
  next =>
    left
    unfold measureStart
    split
    · exact hmove _
    · exact (hrefl.note rfl).moveStart _ _ _
  next plan hstage =>
    unfold dispatchStart
    split
    · exact .inl (hmove _)
    split
    · exact .inl (hmove _)
    next hattach => exact .inr (.dispatched _ _ hstage hattach)
  next =>
    left
    unfold answerStart
    split
    · exact hmove _
    split
    · exact hmove _
    · exact hrefl
  next plan result hstage =>
    unfold acknowledgeStart
    split
    · left
      split
      · exact hlose _
      · exact hmove _
    · split
      · exact .inl (hmove _)
      next hacknowledged => exact .inr (.acknowledged _ _ _ hstage hacknowledged)
  next =>
    left
    unfold waitStart
    split
    · exact hlose _
    split
    · exact hlose _
    · exact snapshot_calm supervised id start hrefl _ hlose
  next =>
    left
    unfold pauseStart
    split
    · exact hmove _
    · exact hmove _
    · exact hmove _
  next =>
    left
    unfold readStart
    split
    · exact hlose _
    split
    · exact hlose _
    split
    · exact hlose _
    split
    · exact hlose _
    · exact hmove _
  next plan ready cameraState hstage =>
    left
    unfold observeStart
    cases hobserved : supervised.state.observe id ready cameraState with
    | none => exact hmove _
    | some observed =>
      obtain ⟨state, downloaded⟩ := observed
      have hstate : State.Calm supervised.state state := by
        rcases observe_cases hobserved with ⟨rfl, -⟩ |
          ⟨found, phase, hfound, hcertain, hidle, hafter, hcompleted, -⟩
        · exact State.Calm.refl _
        · apply State.Calm.replace hfound hafter hcompleted rfl
          intro _
          refine ⟨fun hstarting => ?_, hcertain⟩
          have hallowed := h.tied.phase found hfound
          rw [hstage, hstarting] at hallowed
          exact hallowed
      cases downloaded with
      | true => exact (Calm.setState hstate).moveStart _ _ _
      | false => exact (Calm.setState hstate).moveStart _ _ _
  next =>
    left
    unfold downloadStart
    split
    · exact hlose _
    split
    · exact hlose _
    split
    · exact snapshot_calm supervised id start hrefl _ hlose
    · exact hlose _
  next plan image hstage =>
    unfold decideStart
    split
    next hretained =>
      simp only [Bool.and_eq_true] at hretained
      exact .inr (.published plan image (by rw [hstage]; rfl) hretained.1)
    · exact .inl ((hrefl.note rfl).moveStart _ _ _)
  next plan image hstage =>
    left
    unfold releaseStart
    split
    · exact hlose _
    split
    · exact hlose _
    · have hnoted : Calm supervised (supervised.note (.released plan.operation)) :=
        hrefl.note rfl
      apply snapshot_calm _ id start hnoted
      intro error
      have hlost := loseStart_calm (supervised.note (.released plan.operation)) id start error
      exact ⟨hlost.state, hnoted.log⟩
  next plan image hstage =>
    unfold finishStart
    split
    next hdownloads => exact .inr (.published plan image (by rw [hstage]; rfl) hdownloads)
    · exact .inl (hmove _)
  next error hstage =>
    left
    unfold rejectStart
    have hstate := State.endRejected_calm supervised.state id error
    generalize supervised.state.endRejected id error = rejected at hstate
    obtain ⟨state, operation⟩ := rejected
    cases operation with
    | none => exact (Calm.setState hstate).moveStart _ _ _
    | some operation => exact ((Calm.setState hstate).note rfl).moveStart _ _ _
  next =>
    left
    unfold returnStart
    split
    · exact hlose _
    · exact ((Calm.setState (State.clearRejected_calm _ _ _)).note rfl).moveStart _ _ _
  next => exact .inl hrefl

theorem dropStart_calm (runtime : Bool) :
    Calm supervised (supervised.dropStart id start runtime) := by
  have hrefl := Calm.refl supervised
  have hdropped : Calm supervised (if runtime then supervised.moveStart id start (.rejecting none)
      else supervised.loseStart id start .uncertain) := by
    split
    · exact hrefl.moveStart _ _ _
    · exact loseStart_calm supervised id start _
  unfold dropStart
  split
  · split
    next => exact hrefl
    next => exact hdropped
    next => exact hdropped
    next => exact hdropped
    next => exact hdropped
    next => exact hdropped
    next => exact loseStart_calm supervised id start _
  · exact hrefl

end

section

variable {supervised : Supervised} {id key : Uuid} {start : Start} {command : Command}

theorem commanding_exposes (h : Commanding supervised id start key command) (hlive : command.live)
    {found : Active} (hfound : supervised.state.activeIs id = some found)
    (hcertain : found.phase ≠ .uncertain) : found.exposes := by
  refine ⟨fun hstarting => ?_, hcertain⟩
  rcases h.fitting.tied.commanded key command h.listed hlive found hfound with huncertain | hphase
  · exact hcertain huncertain
  · rw [hstarting] at hphase
    unfold Command.phase at hphase
    split at hphase
    · cases hphase
    · cases hphase

theorem resumeCommand_calm (h : Commanding supervised id start key command) (hlive : command.live)
    (error : Option SourceError) :
    Calm supervised (supervised.resumeCommand key command error) := by
  have hstate : State.Calm supervised.state (supervised.state.endCommand command.admission.id
      command.admission.previous error) := by
    unfold State.endCommand
    cases hactive : supervised.state.activeIs command.admission.id with
    | none => exact State.Calm.refl _
    | some active =>
      dsimp only
      split
      · exact State.Calm.refl _
      next hcertain =>
        have hfound : supervised.state.activeIs id = some active := by
          rw [← h.concerns]
          exact hactive
        exact State.Calm.replace hactive rfl rfl rfl
          fun _ => commanding_exposes h hlive hfound hcertain
  exact (Calm.setState hstate).moveCommand _ _ _

theorem loseCommand_calm (supervised : Supervised) (key : Uuid) (command : Command)
    (error : SourceError) : Calm supervised (supervised.loseCommand key command error) :=
  (Calm.setState (State.uncertain_calm _ _ _)).moveCommand _ _ _

theorem runCommand_calm (h : Commanding supervised id start key command) (answer : Answer) :
    Calm supervised (supervised.runCommand key command answer) := by
  have hrefl := Calm.refl supervised
  have hmove : ∀ stage, Calm supervised (supervised.moveCommand key command stage) :=
    fun stage => hrefl.moveCommand _ _ _
  have hlose := loseCommand_calm supervised key command
  unfold runCommand
  split
  next hstage =>
    have hlive : command.live := by unfold Command.live; rw [hstage]; trivial
    unfold probeCommand
    split
    · exact resumeCommand_calm h hlive _
    split
    · exact hmove _
    · exact hmove _
  next =>
    unfold Supervised.confirmCommand
    split
    · exact hmove _
    · exact hmove _
  next =>
    unfold answerCommand
    split
    · exact hmove _
    split
    · split
      · exact (hrefl.note rfl).moveCommand _ _ _
      · exact hmove _
    · exact hrefl
  next result hstage =>
    have hlive : command.live := by unfold Command.live; rw [hstage]; trivial
    unfold settleCommand
    split
    · split
      · exact hlose _
      · exact resumeCommand_calm h hlive _
    · split
      · unfold abortCommand
        split
        · exact (Calm.setState (State.clearAborted_calm _ _)).moveCommand _ _ _
        · exact (hrefl.note rfl).moveCommand _ _ _
      · exact resumeCommand_calm h hlive _
  next =>
    unfold releaseCommand
    split
    · exact hlose _
    · exact ((Calm.setState (State.clearAborted_calm _ _)).note rfl).moveCommand _ _ _
  next => exact hrefl

end

end Supervised

end Regain.Hub.CameraSupervisor
