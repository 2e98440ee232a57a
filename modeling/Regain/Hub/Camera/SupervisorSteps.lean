import Regain.Hub.Camera.SupervisorLinks

/-!
# Steps keep the links

Each step is about one acquisition at most: what it leaves of that one still fits together,
and nothing of the others changes.
-/

namespace Regain.Hub.CameraSupervisor

open Lib

/-- A step is about one acquisition, whose tasks and entry fit together afterwards. -/
structure Touches (before after : Supervised) (id : Uuid) : Prop where
  others : ∀ other, other ≠ id → after.view other = before.view other
  own : Linked id (after.view id)

/-- What the links say of an acquisition that was admitted. -/
structure Fitting (supervised : Supervised) (id : Uuid) (start : Start) : Prop where
  found : supervised.starts id = some start
  known : Known id start (historyOf supervised.log id)
  tied : Tied start.stage.part (supervised.state.activeIs id) (commandsOf supervised.commands id)
    (.abortAcknowledged id ∈ historyOf supervised.log id)
  leased : Leased start.stage (supervised.state.activeIs id) (commandsOf supervised.commands id)

theorem Fitting.linked {supervised : Supervised} {id : Uuid} {start : Start}
    (h : Fitting supervised id start) : Linked id (supervised.view id) := by
  show Linked id ⟨supervised.starts id, _, _, _⟩
  rw [h.found]
  exact ⟨h.known, h.tied, h.leased⟩

theorem Linked.fitting {supervised : Supervised} {id : Uuid} {start : Start}
    (h : Linked id (supervised.view id)) (hstart : supervised.starts id = some start) :
    Fitting supervised id start := by
  have hview : Linked id ⟨supervised.starts id, supervised.state.activeIs id,
    commandsOf supervised.commands id, historyOf supervised.log id⟩ := h
  rw [hstart] at hview
  exact ⟨hstart, hview.1, hview.2.1, hview.2.2⟩

theorem Fitting.in_part {supervised : Supervised} {id : Uuid} {start : Start} {part : Part}
    (h : Fitting supervised id start) (hpart : start.stage.part = part) :
    Tied part (supervised.state.activeIs id) (commandsOf supervised.commands id)
      (.abortAcknowledged id ∈ historyOf supervised.log id) := by
  rw [← hpart]
  exact h.tied

theorem Touches.after {before mid after : Supervised} {id : Uuid} (h : Touches mid after id)
    (hview : ∀ other, other ≠ id → mid.view other = before.view other) : Touches before after id :=
  ⟨fun other hother => (h.others other hother).trans (hview other hother), h.own⟩

section

variable {supervised : Supervised} {id : Uuid} {start : Start}

theorem move_touches {mid : Supervised} {stage : StartStage}
    (hothers : ∀ other, other ≠ id → mid.view other = supervised.view other)
    (hknown : Known id { start with stage := stage } (historyOf mid.log id))
    (htied : Tied stage.part (mid.state.activeIs id) (commandsOf mid.commands id)
      (.abortAcknowledged id ∈ historyOf mid.log id))
    (hleased : Leased stage (mid.state.activeIs id) (commandsOf mid.commands id)) :
    Touches supervised (mid.moveStart id start stage) id where
  others other hother := (view_moveStart mid other hother start stage).trans (hothers other hother)
  own := by
    rw [view_moveStart_self]
    exact ⟨hknown, htied, hleased⟩

theorem stay_touches (h : Fitting supervised id start) {stage : StartStage}
    (hpart : stage.part = start.stage.part) (hfollows : Follows start.stage stage)
    (hholds : Holds start.stage stage) :
    Touches supervised (supervised.moveStart id start stage) id := by
  refine move_touches (fun _ _ => rfl) (h.known.follow hfollows) ?_ (h.leased.follow hholds)
  rw [hpart]
  exact h.tied

theorem reject_touches (h : Fitting supervised id start) (hpart : start.stage.part = .early)
    (error : Option SourceError) :
    Touches supervised (supervised.moveStart id start (.rejecting error)) id :=
  stay_touches h hpart.symm (follows_rejecting _ _) (holds_rejecting _ _)

theorem end_touches (h : Fitting supervised id start)
    (huncertain : ∀ found ∈ supervised.state.activeIs id, found.phase = .uncertain) :
    Touches supervised (supervised.moveStart id start .finished) id :=
  move_touches (fun _ _ => rfl) (h.known.follow (follows_finished _)) (h.tied.ended huncertain)
    (h.leased.follow (holds_finished _))

theorem remove_touches (h : Fitting supervised id start) {mid : Supervised} {active : Active}
    (hactive : supervised.state.activeIs id = some active) (hnone : mid.state.active = none)
    (hcommands : mid.commands = supervised.commands) (hstarts : mid.starts = supervised.starts)
    (hhistory : ∀ other, historyOf mid.log other = historyOf supervised.log other) :
    Touches supervised (mid.moveStart id start .finished) id := by
  have hentries := State.activeIs_clear hactive hnone
  have hown : mid.state.activeIs id = none := by
    rw [hentries, if_pos rfl]
  refine move_touches (fun other hother => ?_) ?_ ?_ ?_
  · simp only [Supervised.view, hstarts, hcommands, hhistory, hentries, if_neg hother]
  · rw [hhistory]
    exact h.known.follow (follows_finished _)
  · rw [hown, hcommands, hhistory]
    exact h.tied.leave.ended (by simp)
  · rw [hown, hcommands]
    exact h.leased.leave.follow (holds_finished _)

theorem lose_touches (h : Fitting supervised id start) (error : SourceError) :
    Touches supervised (supervised.loseStart id start error) id := by
  have hown : (supervised.setState (supervised.state.uncertain id error)).state.activeIs id
      = (supervised.state.activeIs id).map Active.lose := by
    show (supervised.state.uncertain id error).activeIs id = _
    rw [State.uncertain_activeIs, if_pos rfl]
  refine move_touches (fun other hother => ?_) (h.known.follow (follows_finished _)) ?_ ?_
  · rw [view_setState, State.uncertain_activeIs, if_neg hother]
    rfl
  · rw [hown]
    exact h.tied.lost
  · rw [hown]
    exact h.leased.lose.follow (holds_finished _)

theorem snapshot_touches (h : Fitting supervised id start) {stage : StartStage}
    (hmove : Touches supervised (supervised.moveStart id start stage) id) :
    Touches supervised
      (match start.session.snapshot supervised.source with
        | .error error => supervised.loseStart id start error
        | .ok () => supervised.moveStart id start stage) id := by
  split
  · exact lose_touches h _
  · exact hmove

theorem Fitting.note (h : Fitting supervised id start) {effect : Effect}
    (heffect : effect.acquisition? = none) : Fitting (supervised.note effect) id start := by
  have hhistory : historyOf (supervised.note effect).log id = historyOf supervised.log id := by
    simp [Supervised.note, historyOf, heffect]
  refine ⟨h.found, ?_, ?_, h.leased⟩
  · rw [hhistory]
    exact h.known
  · rw [hhistory]
    exact h.tied

theorem note_touches {after : Supervised} {effect : Effect} (heffect : effect.acquisition? = none)
    (h : Touches (supervised.note effect) after id) : Touches supervised after id :=
  h.after fun other _ => view_note supervised other (by simp [heffect])

theorem prepareStart_touches (h : Fitting supervised id start) (hstage : start.stage = .preparing)
    (answer : Answer) : Touches supervised (supervised.prepareStart id start answer) id := by
  have hpart : start.stage.part = .early := by rw [hstage]; rfl
  unfold Supervised.prepareStart
  split
  · exact reject_touches h hpart _
  cases hoperation : (supervised.state.activeIs id).bind Active.operation with
  | some operation =>
    have hfollows : Follows start.stage (.attaching operation) := by
      rw [hstage]
      constructor <;> simp
    refine move_touches (fun _ _ => rfl) (h.known.follow hfollows) (h.in_part hpart) ?_
    exact {
      settled := by simp
      acquiring := by simp
      attaching := by
        intro other hother found hfound
        cases hother
        rw [show supervised.state.activeIs id = some found from hfound] at hoperation
        exact .inr hoperation
      commands := h.leased.commands }
  | none =>
    have hfollows : Follows start.stage .acquiring := by
      rw [hstage]
      constructor <;> simp
    refine move_touches (fun _ _ => rfl) (h.known.follow hfollows) (h.in_part hpart) ?_
    exact {
      settled := by simp
      acquiring := by
        intro _ found hfound
        rw [show supervised.state.activeIs id = some found from hfound] at hoperation
        exact hoperation
      attaching := by simp
      commands := h.leased.commands }

theorem acquireStart_touches (h : Fitting supervised id start) (hstage : start.stage = .acquiring)
    (answer : Answer) : Touches supervised (supervised.acquireStart id start answer) id := by
  have hpart : start.stage.part = .early := by rw [hstage]; rfl
  unfold Supervised.acquireStart
  split
  · exact reject_touches h hpart _
  split
  · exact ⟨fun _ _ => rfl, h.linked⟩
  · have hfollows : Follows start.stage (.attaching answer.lease) := by
      rw [hstage]
      constructor <;> simp
    refine move_touches (fun _ _ => rfl) (h.known.follow hfollows) (h.in_part hpart) ?_
    exact {
      settled := by simp
      acquiring := by simp
      attaching := fun _ _ found hfound => .inl (h.leased.acquiring hstage found hfound)
      commands := h.leased.commands }

theorem attach_fits {operation : Uuid} {state : State} (h : Fitting supervised id start)
    (hstarted : start.stage.part = .early)
    (hattach : supervised.state.attach id operation = some state) :
    (∀ other, other ≠ id → (supervised.setState state).view other = supervised.view other)
      ∧ Tied .early (state.activeIs id) (commandsOf supervised.commands id)
        (.abortAcknowledged id ∈ historyOf supervised.log id)
      ∧ ∀ found ∈ state.activeIs id, found.operation = some operation := by
  have hentries := State.attach_activeIs hattach
  refine ⟨fun other hother => ?_, ?_, fun found hfound => ?_⟩
  · rw [view_setState, hentries, if_neg hother]
    rfl
  · rw [← hstarted]
    refine h.tied.same fun found hfound => ?_
    rw [hentries, if_pos rfl] at hfound
    obtain ⟨prior, hprior, rfl⟩ := Option.map_eq_some_iff.mp hfound
    exact ⟨prior, hprior, rfl, rfl⟩
  · rw [hentries, if_pos rfl] at hfound
    obtain ⟨prior, -, rfl⟩ := Option.map_eq_some_iff.mp hfound
    rfl

theorem early_quiet {commands : Uuid → Option Command} {active : Option Active} {aborted : Prop}
    (h : Tied .early active commands aborted) {key : Uuid} {command : Command}
    (hcommand : commands key = some command) : ¬command.live := by
  intro hlive
  rcases h.live key command hcommand hlive with hpart | hpart
  · cases hpart
  · cases hpart

theorem attachStart_touches {operation : Uuid} (h : Fitting supervised id start)
    (hstage : start.stage = .attaching operation) :
    Touches supervised (supervised.attachStart id start operation) id := by
  have hpart : start.stage.part = .early := by rw [hstage]; rfl
  unfold Supervised.attachStart
  cases hattach : supervised.state.attach id operation with
  | none => exact reject_touches h hpart _
  | some state =>
    obtain ⟨hothers, htied, hheld⟩ := attach_fits h hpart hattach
    have hfollows : Follows start.stage (.measuring operation) := by
      rw [hstage]
      constructor <;> simp
    have hhistory : ∀ other, historyOf ((supervised.setState state).note
        (.attached operation)).log other = historyOf supervised.log other := by
      intro other
      simp [Supervised.note, Supervised.setState, historyOf, Effect.acquisition?]
    refine move_touches (fun other hother => ?_) ?_ ?_ ?_
    · rw [view_note _ _ (by simp [Effect.acquisition?])]
      exact hothers other hother
    · rw [hhistory]
      exact h.known.follow hfollows
    · rw [hhistory]
      exact htied
    · exact {
        settled := by
          intro other hother found hfound
          cases hother
          exact hheld found hfound
        acquiring := by simp
        attaching := by simp
        commands := fun key command hcommand hlive =>
          absurd hlive (early_quiet htied hcommand) }

theorem measureStart_touches {operation : Uuid} (h : Fitting supervised id start)
    (hstage : start.stage = .measuring operation) (answer : Answer) :
    Touches supervised (supervised.measureStart id start operation answer) id := by
  have hpart : start.stage.part = .early := by rw [hstage]; rfl
  unfold Supervised.measureStart
  split
  · exact reject_touches h hpart _
  · have hhistory : historyOf (supervised.note (.measured id answer.geometry)).log id
        = historyOf supervised.log id ++ [.measured id answer.geometry] := by
      simp [Supervised.note, historyOf, Effect.acquisition?]
    refine move_touches (fun other hother => ?_) ?_ ?_ ?_
    · exact view_note _ _ (by simpa [Effect.acquisition?] using hother.symm)
    · rw [hhistory]
      exact {
        undispatched := by
          intro _ hmem
          have hdispatched := h.known.undispatched (by rw [hstage]; rfl)
          simp [hdispatched] at hmem
        measured := by
          intro plan hplan
          cases hplan
          simp
        answered := by simp
        acknowledged := by simp
        captured := by simp }
    · rw [hhistory]
      exact (h.in_part hpart).grow (by simp)
    · exact h.leased.follow (by rw [hstage]; constructor <;> simp)

theorem dispatchStart_touches {plan : Plan} (h : Fitting supervised id start)
    (hstage : start.stage = .prepared plan) (answer : Answer) :
    Touches supervised (supervised.dispatchStart id start plan answer) id := by
  have hpart : start.stage.part = .early := by rw [hstage]; rfl
  unfold Supervised.dispatchStart
  split
  · exact reject_touches h hpart _
  cases hattach : supervised.state.attach id plan.operation with
  | none =>
    refine end_touches h fun found hfound => ?_
    simp [State.attach, show supervised.state.activeIs id = some found from hfound] at hattach
  | some state =>
    obtain ⟨hothers, htied, hheld⟩ := attach_fits h hpart hattach
    have hhistory : historyOf ((supervised.setState state).note (.dispatched id)).log id
        = historyOf supervised.log id ++ [.dispatched id] := by
      simp [Supervised.note, Supervised.setState, historyOf, Effect.acquisition?]
    refine move_touches (fun other hother => ?_) ?_ ?_ ?_
    · rw [view_note _ _ (by simpa [Effect.acquisition?] using hother.symm)]
      exact hothers other hother
    · rw [hhistory]
      exact {
        undispatched := by simp
        measured := by
          intro other hother
          cases hother
          exact List.mem_append_left _ (h.known.measured plan (by rw [hstage]; rfl))
        answered := by simp
        acknowledged := by simp
        captured := by simp }
    · rw [hhistory]
      exact htied.grow (by simp)
    · exact {
        settled := by
          intro other hother found hfound
          cases hother
          exact hheld found hfound
        acquiring := by simp
        attaching := by simp
        commands := fun key command hcommand hlive =>
          absurd hlive (early_quiet htied hcommand) }

end

end Regain.Hub.CameraSupervisor
