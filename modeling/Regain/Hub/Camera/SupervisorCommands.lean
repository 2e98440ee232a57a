import Regain.Hub.Camera.SupervisorExposures

/-!
# Commands keep the links

A stop or an abort is about one acquisition, which exposes while the command is under way.
-/

namespace Regain.Hub.CameraSupervisor

open Lib

section

variable {commands : Uuid → Option Command} {key : Uuid} {command : Command} {stage : CommandStage}

theorem updated_cases {other : Uuid} {found : Command}
    (hfound : Function.update commands key (some { command with stage := stage }) other
      = some found) :
    other = key ∧ found = { command with stage := stage }
      ∨ other ≠ key ∧ commands other = some found := by
  by_cases hkey : other = key
  · subst hkey
    rw [Function.update_self] at hfound
    exact .inl ⟨rfl, (Option.some.inj hfound).symm⟩
  · rw [Function.update_of_ne hkey] at hfound
    exact .inr ⟨hkey, hfound⟩

theorem updated_live (hcommand : commands key = some command)
    (hlive : ({ command with stage := stage } : Command).live → command.live) {other : Uuid}
    {found : Command} (hfound : Function.update commands key
      (some { command with stage := stage }) other = some found) (hfoundLive : found.live) :
    ∃ prior, commands other = some prior ∧ prior.live ∧ prior.admission = found.admission
      ∧ prior.phase = found.phase := by
  rcases updated_cases hfound with ⟨rfl, rfl⟩ | ⟨-, hother⟩
  · exact ⟨command, hcommand, hlive hfoundLive, rfl, rfl⟩
  · exact ⟨found, hother, hfoundLive, rfl, rfl⟩

theorem updated_previous {part : Part} {active : Option Active} {aborted : Prop}
    (h : Tied part active commands aborted) (hcommand : commands key = some command) :
    ∀ other found, Function.update commands key (some { command with stage := stage }) other
      = some found →
        found.admission.previous = .exposing ∨ found.admission.previous = .reading := by
  intro other found hfound
  rcases updated_cases hfound with ⟨rfl, rfl⟩ | ⟨-, hother⟩
  · exact h.previous other command hcommand
  · exact h.previous other found hother

theorem Tied.moveCommand {part : Part} {active : Option Active} {aborted : Prop}
    (h : Tied part active commands aborted) (hcommand : commands key = some command)
    (hlive : ({ command with stage := stage } : Command).live → command.live)
    (hacknowledged : command.acknowledged →
      ({ command with stage := stage } : Command).acknowledged
        ∨ ∀ found ∈ active, found.phase = .uncertain) :
    Tied part active (Function.update commands key (some { command with stage := stage }))
      aborted := { h with
  live := by
    intro other found hfound hfoundLive
    obtain ⟨prior, hprior, hpriorLive, -, -⟩ := updated_live hcommand hlive hfound hfoundLive
    exact h.live other prior hprior hpriorLive
  commanded := by
    intro other found hfound hfoundLive entry hentry
    obtain ⟨prior, hprior, hpriorLive, -, hphase⟩ := updated_live hcommand hlive hfound hfoundLive
    rw [← hphase]
    exact h.commanded other prior hprior hpriorLive entry hentry
  unique := by
    intro other found hfound hfoundLive third second hsecond hsecondLive
    obtain ⟨prior, hprior, hpriorLive, -, -⟩ := updated_live hcommand hlive hfound hfoundLive
    obtain ⟨earlier, hearlier, hearlierLive, -, -⟩ :=
      updated_live hcommand hlive hsecond hsecondLive
    exact h.unique other prior hprior hpriorLive third earlier hearlier hearlierLive
  previous := updated_previous h hcommand
  aborted := by
    intro haborted
    refine ⟨(h.aborted haborted).1, fun entry hentry => ?_⟩
    rcases (h.aborted haborted).2 entry hentry with huncertain | ⟨other, found, hfound, hack⟩
    · exact .inl huncertain
    by_cases hkey : other = key
    · subst hkey
      cases hcommand.symm.trans hfound
      rcases hacknowledged hack with hstill | huncertain
      · exact .inr ⟨other, _, Function.update_self _ _ _, hstill⟩
      · exact .inl (huncertain entry hentry)
    · exact .inr ⟨other, found, by rw [Function.update_of_ne hkey, hfound], hack⟩ }

/-- The command ends, and its acquisition goes on in the phase before it. -/
theorem Tied.resume {part : Part} {found : Active} {aborted : Prop}
    (h : Tied part (some found) commands aborted) (hcommand : commands key = some command)
    (hlive : command.live) (hcertain : found.phase ≠ .uncertain) (hack : ¬command.acknowledged) :
    Tied part
      (some { found with commandPending := false, phase := command.admission.previous })
      (Function.update commands key (some { command with stage := .finished })) aborted := by
  have hprevious := h.previous key command hcommand
  have hpart : part = .waiting := by
    rcases h.live key command hcommand hlive with hpart | hpart
    · exact hpart
    · have hallowed := h.phase found rfl
      rw [hpart] at hallowed
      cases hphase : found.phase <;> simp_all [Allowed]
  have hnone : ∀ other second, Function.update commands key
      (some { command with stage := .finished }) other = some second → ¬second.live := by
    intro other second hsecond hsecondLive
    rcases updated_cases hsecond with ⟨-, rfl⟩ | ⟨hkey, hother⟩
    · exact hsecondLive
    · exact hkey (h.unique other second hother hsecondLive key command hcommand hlive)
  exact {
    phase := by
      intro entry hentry
      cases hentry
      rw [hpart]
      rcases hprevious with hprevious | hprevious
      · rw [hprevious]
        trivial
      · rw [hprevious]
        trivial
    pending := by
      intro entry hentry
      cases hentry
      rcases hprevious with hprevious | hprevious <;> simp [hprevious]
    live := fun other second hsecond hsecondLive =>
      absurd hsecondLive (hnone other second hsecond)
    commanded := fun other second hsecond hsecondLive =>
      absurd hsecondLive (hnone other second hsecond)
    unique := fun other second hsecond hsecondLive =>
      absurd hsecondLive (hnone other second hsecond)
    previous := updated_previous h hcommand
    aborted := by
      intro haborted
      rcases (h.aborted haborted).2 found rfl with huncertain | ⟨other, second, hsecond, hacked⟩
      · exact absurd huncertain hcertain
      · have hkey := h.unique other second hsecond hacked.live key command hcommand hlive
        subst hkey
        cases hcommand.symm.trans hsecond
        exact absurd hacked hack }

theorem Leased.moveCommand {task : StartStage} {active : Option Active}
    (h : Leased task active commands) (hcommand : commands key = some command)
    (hlive : ({ command with stage := stage } : Command).live → command.live) :
    Leased task active (Function.update commands key (some { command with stage := stage })) where
  settled := h.settled
  acquiring := h.acquiring
  attaching := h.attaching
  commands := by
    intro other found hfound hfoundLive entry hentry
    obtain ⟨prior, hprior, hpriorLive, hadmission, -⟩ :=
      updated_live hcommand hlive hfound hfoundLive
    rw [← hadmission]
    exact h.commands other prior hprior hpriorLive entry hentry

end

section

variable {supervised : Supervised} {id key : Uuid} {start : Start} {command : Command}

structure Commanding (supervised : Supervised) (id : Uuid) (start : Start) (key : Uuid)
    (command : Command) : Prop where
  fitting : Fitting supervised id start
  found : supervised.commands key = some command
  concerns : command.admission.id = id

theorem Commanding.listed (h : Commanding supervised id start key command) :
    commandsOf supervised.commands id key = some command := by
  unfold commandsOf
  rw [h.found, Option.filter_some, if_pos (by simpa using h.concerns)]

/-- The command moves on in a supervisor whose other views are as before. -/
theorem command_touches (h : Commanding supervised id start key command) {mid : Supervised}
    {stage : CommandStage} (hothers : ∀ other, other ≠ id → mid.view other = supervised.view other)
    (hstarts : mid.starts = supervised.starts) (hcommands : mid.commands = supervised.commands)
    (hknown : Known id start (historyOf mid.log id))
    (htied : Tied start.stage.part (mid.state.activeIs id)
      (Function.update (commandsOf supervised.commands id) key
        (some { command with stage := stage }))
      (.abortAcknowledged id ∈ historyOf mid.log id))
    (hleased : Leased start.stage (mid.state.activeIs id)
      (Function.update (commandsOf supervised.commands id) key
        (some { command with stage := stage }))) :
    Touches supervised (mid.moveCommand key command stage) id where
  others other hother := by
    have hconcerns : command.admission.id ≠ other := fun heq => hother (heq.symm.trans h.concerns)
    rw [view_moveCommand mid other hconcerns, hothers other hother]
    intro prior hprior
    rw [hcommands, h.found] at hprior
    cases hprior
    exact hconcerns
  own := by
    rw [view_moveCommand_self mid id h.concerns, hcommands]
    have hfound : mid.starts id = some start := by rw [hstarts, h.fitting.found]
    change Linked id ⟨mid.starts id, _, _, _⟩
    rw [hfound]
    exact ⟨hknown, htied, hleased⟩

theorem moveCommand_touches (h : Commanding supervised id start key command) {stage : CommandStage}
    (hlive : ({ command with stage := stage } : Command).live → command.live)
    (hacknowledged : command.acknowledged →
      ({ command with stage := stage } : Command).acknowledged) :
    Touches supervised (supervised.moveCommand key command stage) id :=
  command_touches h (fun _ _ => rfl) rfl rfl h.fitting.known
    (h.fitting.tied.moveCommand h.listed hlive fun hack => .inl (hacknowledged hack))
    (h.fitting.leased.moveCommand h.listed hlive)

theorem finished_dead {command : Command} :
    ({ command with stage := .finished } : Command).live → command.live :=
  False.elim

theorem loseCommand_touches (h : Commanding supervised id start key command)
    (error : SourceError) : Touches supervised (supervised.loseCommand key command error) id := by
  have hown : (supervised.state.uncertain command.admission.id error).activeIs id
      = (supervised.state.activeIs id).map Active.lose := by
    rw [State.uncertain_activeIs, h.concerns, if_pos rfl]
  refine command_touches h (fun other hother => ?_) rfl rfl h.fitting.known ?_ ?_
  · rw [view_setState, State.uncertain_activeIs, h.concerns, if_neg hother]
    rfl
  · change Tied _ ((supervised.state.uncertain command.admission.id error).activeIs id) _ _
    rw [hown]
    apply h.fitting.tied.lose.moveCommand h.listed finished_dead
    intro _
    right
    intro found hfound
    obtain ⟨prior, -, rfl⟩ := Option.map_eq_some_iff.mp hfound
    rfl
  · change Leased _ ((supervised.state.uncertain command.admission.id error).activeIs id) _
    rw [hown]
    exact h.fitting.leased.lose.moveCommand h.listed finished_dead

theorem resumeCommand_touches (h : Commanding supervised id start key command)
    (hlive : command.live) (hack : ¬command.acknowledged) (error : Option SourceError) :
    Touches supervised (supervised.resumeCommand key command error) id := by
  have hmoved : Touches supervised (supervised.moveCommand key command .finished) id :=
    moveCommand_touches h finished_dead fun hacked => absurd hacked hack
  unfold Supervised.resumeCommand State.endCommand
  cases hactive : supervised.state.activeIs command.admission.id with
  | none => exact hmoved
  | some active =>
    dsimp only
    split
    · exact hmoved
    next hcertain =>
      rw [h.concerns] at hactive
      generalize hstate : ({ supervised.state with
        active := some { active with
          commandPending := false
          phase := command.admission.previous }
        error := error } : State) = state
      have hafter : state.active = some { active with
          commandPending := false
          phase := command.admission.previous } := by
        rw [← hstate]
      obtain ⟨hothers, hown⟩ := replace_views hactive hafter rfl
      have htied := h.fitting.tied
      rw [hactive] at htied
      have hleased : Leased start.stage (some { active with
          commandPending := false
          phase := command.admission.previous }) (commandsOf supervised.commands id) := by
        apply h.fitting.leased.same
        intro other hother
        cases hother
        exact ⟨active, hactive, rfl⟩
      apply command_touches h hothers rfl rfl h.fitting.known
      · change Tied _ (state.activeIs id) _ _
        rw [hown]
        exact htied.resume h.listed hlive hcertain hack
      · change Leased _ (state.activeIs id) _
        rw [hown]
        exact hleased.moveCommand h.listed finished_dead

theorem clearCommand_touches (h : Commanding supervised id start key command) {mid : Supervised}
    (hothers : ∀ other, other ≠ id → mid.view other = supervised.view other)
    (hstarts : mid.starts = supervised.starts) (hcommands : mid.commands = supervised.commands)
    (hhistory : historyOf mid.log id = historyOf supervised.log id)
    (hnone : mid.state.activeIs id = none) :
    Touches supervised (mid.moveCommand key command .finished) id := by
  apply command_touches h hothers hstarts hcommands
  · rw [hhistory]
    exact h.fitting.known
  · rw [hhistory, hnone]
    exact h.fitting.tied.leave.moveCommand h.listed finished_dead fun _ => .inr (by simp)
  · rw [hnone]
    exact h.fitting.leased.leave.moveCommand h.listed finished_dead

theorem clearAborted_views (supervised : Supervised) (id : Uuid) :
    (∀ other, other ≠ id → (supervised.setState (supervised.state.clearAborted id)).view other
      = supervised.view other) ∧ (supervised.state.clearAborted id).activeIs id = none := by
  unfold State.clearAborted
  cases hactive : supervised.state.activeIs id with
  | none => exact ⟨fun _ _ => rfl, hactive⟩
  | some active =>
    refine ⟨fun other hother => ?_, rfl⟩
    rw [view_setState, State.activeIs_clear hactive rfl, if_neg hother]
    rfl

theorem answerCommand_touches (h : Commanding supervised id start key command)
    (hstage : command.stage = .writing) (answer : Answer) :
    Touches supervised (supervised.answerCommand key command answer) id := by
  have hlive : command.live := by
    unfold Command.live
    rw [hstage]
    trivial
  have hack : ¬command.acknowledged := by
    intro hack
    have hstaged := hack.2
    rw [hstage] at hstaged
    exact hstaged
  unfold Supervised.answerCommand
  split
  · exact moveCommand_touches h (fun _ => hlive) fun hacked => absurd hacked hack
  split
  · split
    next habort =>
      have hhistory : historyOf (supervised.note (.abortAcknowledged command.admission.id)).log id
          = historyOf supervised.log id ++ [.abortAcknowledged id] := by
        simp [Supervised.note, historyOf, Effect.acquisition?, h.concerns]
      have hacked : ({ command with stage := .answered (.ok ()) } : Command).acknowledged :=
        ⟨habort, trivial⟩
      have htied : Tied start.stage.part (supervised.state.activeIs id)
          (Function.update (commandsOf supervised.commands id) key
            (some { command with stage := .answered (.ok ()) }))
          (.abortAcknowledged id ∈ historyOf supervised.log id) :=
        h.fitting.tied.moveCommand h.listed (fun _ => hlive) fun hacked => absurd hacked hack
      refine command_touches h (fun other hother => ?_) rfl rfl ?_ ?_ ?_
      · exact view_note supervised other
          (by simpa [Effect.acquisition?, h.concerns] using hother.symm)
      · rw [hhistory]
        exact h.fitting.known.grow (by simp)
      · exact { htied with
          aborted := by
            intro _
            refine ⟨h.fitting.tied.live key command h.listed hlive, fun found _ => .inr ?_⟩
            exact ⟨key, _, Function.update_self _ _ _, hacked⟩ }
      · exact h.fitting.leased.moveCommand h.listed fun _ => hlive
    · exact moveCommand_touches h (fun _ => hlive) fun hacked => absurd hacked hack
  · exact ⟨fun _ _ => rfl, h.fitting.linked⟩

theorem abortCommand_touches (h : Commanding supervised id start key command)
    (habort : command.abort = true) (hstage : command.stage = .answered (.ok ())) :
    Touches supervised (supervised.abortCommand key command) id := by
  obtain ⟨hothers, hnone⟩ := clearAborted_views supervised id
  have hlive : command.live := by
    unfold Command.live
    rw [hstage]
    trivial
  unfold Supervised.abortCommand
  rw [h.concerns]
  split
  · exact clearCommand_touches h hothers rfl rfl rfl hnone
  · have hhistory : ∀ other, historyOf (supervised.note (.release command.admission.operation
        (.acquisition id))).log other = historyOf supervised.log other := by
      intro other
      simp [Supervised.note, historyOf, Effect.acquisition?]
    refine command_touches h (fun other hother => ?_) rfl rfl ?_ ?_ ?_
    · exact view_note supervised other (by simp [Effect.acquisition?])
    · rw [hhistory]
      exact h.fitting.known
    · rw [hhistory]
      exact h.fitting.tied.moveCommand h.listed (fun _ => hlive) fun _ => .inl ⟨habort, trivial⟩
    · exact h.fitting.leased.moveCommand h.listed fun _ => hlive

theorem runCommand_touches (h : Commanding supervised id start key command) (answer : Answer) :
    Touches supervised (supervised.runCommand key command answer) id := by
  unfold Supervised.runCommand
  split
  next hstage =>
    have hlive : command.live := by unfold Command.live; rw [hstage]; trivial
    have hack : ¬command.acknowledged := by
      intro hack
      have hstaged := hack.2
      rw [hstage] at hstaged
      exact hstaged
    unfold Supervised.probeCommand
    split
    · exact resumeCommand_touches h hlive hack _
    split
    · exact moveCommand_touches h (fun _ => hlive) fun hacked => absurd hacked hack
    · exact moveCommand_touches h (fun _ => hlive) fun hacked => absurd hacked hack
  next hstage =>
    have hlive : command.live := by unfold Command.live; rw [hstage]; trivial
    have hack : ¬command.acknowledged := by
      intro hack
      have hstaged := hack.2
      rw [hstage] at hstaged
      exact hstaged
    unfold Supervised.confirmCommand
    split
    · exact moveCommand_touches h (fun _ => hlive) fun hacked => absurd hacked hack
    · exact moveCommand_touches h (fun _ => hlive) fun hacked => absurd hacked hack
  next hstage => exact answerCommand_touches h hstage answer
  next result hstage =>
    have hlive : command.live := by unfold Command.live; rw [hstage]; trivial
    unfold Supervised.settleCommand
    split
    · split
      · exact loseCommand_touches h _
      · apply resumeCommand_touches h hlive
        intro hack
        have hstaged := hack.2
        rw [hstage] at hstaged
        exact hstaged
    · split
      next habort => exact abortCommand_touches h habort hstage
      next habort => exact resumeCommand_touches h hlive (fun hack => habort hack.1) _
  next hstage =>
    unfold Supervised.releaseCommand
    split
    · exact loseCommand_touches h _
    · obtain ⟨hothers, hnone⟩ := clearAborted_views supervised id
      have hhistory : ∀ state other, historyOf ((supervised.setState state).note
          (.released command.admission.operation)).log other = historyOf supervised.log other := by
        intro state other
        simp [Supervised.note, Supervised.setState, historyOf, Effect.acquisition?]
      rw [h.concerns]
      refine clearCommand_touches h (fun other hother => ?_) rfl rfl (hhistory _ id) hnone
      rw [view_note _ _ (by simp [Effect.acquisition?])]
      exact hothers other hother
  next => exact ⟨fun _ _ => rfl, h.fitting.linked⟩

end

end Regain.Hub.CameraSupervisor
