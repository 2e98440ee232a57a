import Regain.Hub.Camera.SupervisorSteps

/-!
# Exposures keep the links

The stages of a start once it was sent to the source: the exposure, the copy of its image and the
ways in which it ends.
-/

namespace Regain.Hub.CameraSupervisor

open Lib

section

variable {supervised : Supervised} {id : Uuid} {start : Start}

variable {plan : Plan} {state : State}

/-- The entry is replaced, and nothing else changes. -/
theorem replace_views {active changed : Active}
    (hactive : supervised.state.activeIs id = some active) (hafter : state.active = some changed)
    (hid : changed.id = active.id) :
    (∀ other, other ≠ id → (supervised.setState state).view other = supervised.view other)
      ∧ state.activeIs id = some changed := by
  have hentries := State.activeIs_replace hactive changed hafter hid
  refine ⟨fun other hother => ?_, ?_⟩
  · rw [view_setState, hentries, if_neg hother]
    rfl
  · rw [hentries, if_pos rfl]

theorem answerStart_touches (h : Fitting supervised id start) (hstage : start.stage = .writing plan)
    (answer : Answer) : Touches supervised (supervised.answerStart id start plan answer) id := by
  have hpart : start.stage.part = .early := by rw [hstage]; rfl
  unfold Supervised.answerStart
  split
  · exact stay_touches h hpart.symm (by rw [hstage]; constructor <;> simp)
      (by rw [hstage]; constructor <;> simp)
  split
  next hgeneration =>
    refine move_touches (fun _ _ => rfl) ?_ (h.in_part hpart) ?_
    · exact {
        undispatched := by simp
        measured := by
          intro other hother
          cases hother
          exact h.known.measured plan (by rw [hstage]; rfl)
        answered := by
          intro generation hanswered
          cases hanswered
          exact hgeneration
        acknowledged := by simp
        captured := by simp }
    · apply h.leased.follow
      rw [hstage]
      constructor <;> simp
  · exact ⟨fun _ _ => rfl, h.linked⟩

theorem acknowledge_cases {after : State} (hacknowledged : state.acknowledge id = some after) :
    ∃ found, state.activeIs id = some found ∧ found.phase ≠ .uncertain
      ∧ after.active = some { found with phase := .exposing } ∧ after.completed = none := by
  obtain ⟨found, hfound, hafter⟩ := Option.bind_eq_some_iff.mp hacknowledged
  split at hafter
  · cases hafter
  next hcertain =>
    cases hafter
    exact ⟨found, hfound, hcertain, rfl, rfl⟩

theorem acknowledgeStart_touches {result : Except SourceError Uuid}
    (h : Fitting supervised id start) (hstage : start.stage = .answered plan result) :
    Touches supervised (supervised.acknowledgeStart id start plan result) id := by
  have hpart : start.stage.part = .early := by rw [hstage]; rfl
  unfold Supervised.acknowledgeStart
  cases result with
  | error error =>
    dsimp only
    split
    · exact lose_touches h error
    · exact reject_touches h hpart _
  | ok generation =>
    dsimp only
    cases hacknowledged : supervised.state.acknowledge id with
    | none =>
      refine end_touches h fun found hfound => ?_
      by_contra hcertain
      simp [State.acknowledge, show supervised.state.activeIs id = some found from hfound,
        hcertain] at hacknowledged
    | some state =>
      obtain ⟨found, hfound, hcertain, hafter, -⟩ := acknowledge_cases hacknowledged
      obtain ⟨hothers, hown⟩ := replace_views hfound hafter rfl
      have htied := h.in_part hpart
      rw [hfound] at htied
      have hstarting : found.phase = .starting := by
        have hallowed := htied.phase found rfl
        cases hphase : found.phase <;> simp_all [Allowed]
      have hidle : found.commandPending = false := by
        have hpending := htied.pending found rfl
        rw [hstarting] at hpending
        simpa using hpending
      have hgeneration : generation = start.session.generation :=
        h.known.answered generation (by rw [hstage]; rfl)
      have hhistory : historyOf ((supervised.setState state).note
          (.acknowledged id generation)).log id
          = historyOf supervised.log id ++ [.acknowledged id generation] := by
        simp [Supervised.note, Supervised.setState, historyOf, Effect.acquisition?]
      have hallowed : Allowed .waiting .exposing := trivial
      have hleased : Leased start.stage (some { found with phase := .exposing })
          (commandsOf supervised.commands id) := by
        apply h.leased.same
        intro other hother
        cases hother
        exact ⟨found, hfound, rfl⟩
      refine move_touches (fun other hother => ?_) ?_ ?_ ?_
      · rw [view_note _ _ (by simpa [Effect.acquisition?] using hother.symm)]
        exact hothers other hother
      · rw [hhistory]
        exact {
          undispatched := by simp
          measured := by
            intro other hother
            cases hother
            exact List.mem_append_left _ (h.known.measured plan (by rw [hstage]; rfl))
          answered := by simp
          acknowledged := by
            intro _
            rw [hgeneration]
            simp
          captured := by simp }
      · change Tied _ (state.activeIs id) (commandsOf supervised.commands id) _
        rw [hhistory, hown]
        exact (htied.advance hidle hcertain hallowed (by simp)).grow (by simp)
      · change Leased _ (state.activeIs id) (commandsOf supervised.commands id)
        rw [hown]
        exact hleased.follow (by rw [hstage]; constructor <;> simp)

theorem waitStart_touches (h : Fitting supervised id start) (hstage : start.stage = .waiting plan)
    (answer : Answer) : Touches supervised (supervised.waitStart id start plan answer) id := by
  unfold Supervised.waitStart
  split
  · exact lose_touches h _
  split
  · exact lose_touches h _
  · apply snapshot_touches h
    exact stay_touches h (by rw [hstage]; rfl) (by rw [hstage]; constructor <;> simp)
      (by rw [hstage]; constructor <;> simp)

theorem awaiting_none (hnone : state.awaiting id = none) :
    ∀ found ∈ state.activeIs id, found.phase = .uncertain := by
  intro found hfound
  by_contra hcertain
  simp [State.awaiting, show state.activeIs id = some found from hfound, hcertain] at hnone

theorem pauseStart_touches (h : Fitting supervised id start)
    (hstage : start.stage = .pausing plan) :
    Touches supervised (supervised.pauseStart id start plan) id := by
  unfold Supervised.pauseStart
  split
  next hnone => exact end_touches h (awaiting_none hnone)
  · exact stay_touches h (by rw [hstage]; rfl) (by rw [hstage]; constructor <;> simp)
      (by rw [hstage]; constructor <;> simp)
  · exact stay_touches h (by rw [hstage]; rfl) (by rw [hstage]; constructor <;> simp)
      (by rw [hstage]; constructor <;> simp)

theorem readStart_touches (h : Fitting supervised id start) (hstage : start.stage = .reading plan)
    (answer : Answer) : Touches supervised (supervised.readStart id start plan answer) id := by
  unfold Supervised.readStart
  split
  · exact lose_touches h _
  split
  · exact lose_touches h _
  split
  · exact lose_touches h _
  split
  · exact lose_touches h _
  · exact stay_touches h (by rw [hstage]; rfl) (by rw [hstage]; constructor <;> simp)
      (by rw [hstage]; constructor <;> simp)

/-- A look at the camera leaves the supervisor as it is, or moves its exposure on. -/
theorem observe_cases {after : State} {ready : Bool} {cameraState : Int} {downloaded : Bool}
    (hobserved : state.observe id ready cameraState = some (after, downloaded)) :
    after = state ∧ downloaded = false
      ∨ ∃ found phase, state.activeIs id = some found ∧ found.phase ≠ .uncertain
        ∧ found.commandPending = false ∧ after.active = some { found with phase := phase }
        ∧ after.completed = state.completed
        ∧ (downloaded = true ∧ phase = .downloading
          ∨ downloaded = false ∧ (phase = .reading ∨ phase = .exposing)) := by
  obtain ⟨found, hfound, hafter⟩ := Option.bind_eq_some_iff.mp hobserved
  split at hafter
  · cases hafter
  next hcertain =>
    split at hafter
    next hidle =>
      simp only [Bool.and_eq_true, Bool.not_eq_true'] at hidle
      right
      split at hafter
      · cases hafter
        exact ⟨found, .downloading, hfound, hcertain, hidle.1, rfl, rfl, .inl ⟨rfl, rfl⟩⟩
      · cases hafter
        refine ⟨found, _, hfound, hcertain, hidle.1, rfl, rfl, .inr ⟨rfl, ?_⟩⟩
        split
        · exact .inl rfl
        · exact .inr rfl
    · cases hafter
      exact .inl ⟨rfl, rfl⟩

/-- The exposure goes on, and its task with it. -/
theorem advance_touches {prior stage : StartStage} (h : Fitting supervised id start)
    (hstage : start.stage = prior) {state : State} {found : Active} {phase : AcquisitionPhase}
    (hfound : supervised.state.activeIs id = some found) (hcertain : found.phase ≠ .uncertain)
    (hidle : found.commandPending = false)
    (hafter : state.active = some { found with phase := phase })
    (hallowed : Allowed stage.part phase) (hquiet : phase ≠ .aborting ∧ phase ≠ .stopping)
    (hfollows : Follows prior stage) (hholds : Holds prior stage) :
    Touches supervised ((supervised.setState state).moveStart id start stage) id := by
  subst hstage
  obtain ⟨hothers, hown⟩ := replace_views hfound hafter rfl
  have htied := h.tied
  rw [hfound] at htied
  have hleased : Leased start.stage (some { found with phase := phase })
      (commandsOf supervised.commands id) := by
    apply h.leased.same
    intro other hother
    cases hother
    exact ⟨found, hfound, rfl⟩
  refine move_touches hothers (h.known.follow hfollows) ?_ ?_
  · change Tied _ (state.activeIs id) (commandsOf supervised.commands id) _
    rw [hown]
    exact htied.advance hidle hcertain hallowed hquiet
  · change Leased _ (state.activeIs id) (commandsOf supervised.commands id)
    rw [hown]
    exact hleased.follow hholds

theorem observeStart_touches {ready : Bool} {cameraState : Int} (h : Fitting supervised id start)
    (hstage : start.stage = .sampled plan ready cameraState) :
    Touches supervised (supervised.observeStart id start plan ready cameraState) id := by
  unfold Supervised.observeStart
  cases hobserved : supervised.state.observe id ready cameraState with
  | none =>
    refine end_touches h fun found hfound => ?_
    by_contra hcertain
    simp only [State.observe, show supervised.state.activeIs id = some found from hfound,
      hcertain, Option.bind_some, if_false] at hobserved
    split at hobserved
    · split at hobserved
      · cases hobserved
      · cases hobserved
    · cases hobserved
  | some observed =>
    obtain ⟨state, downloaded⟩ := observed
    rcases observe_cases hobserved with ⟨rfl, rfl⟩ |
      ⟨found, phase, hfound, hcertain, hidle, hafter, -, ⟨rfl, rfl⟩ | ⟨rfl, hphase⟩⟩
    · exact stay_touches h (by rw [hstage]; rfl) (by rw [hstage]; constructor <;> simp)
        (by rw [hstage]; constructor <;> simp)
    · exact advance_touches h hstage hfound hcertain hidle hafter trivial (by simp)
        (by constructor <;> simp) (by constructor <;> simp)
    · have hallowed : Allowed .waiting phase := by
        rcases hphase with rfl | rfl
        · trivial
        · trivial
      exact advance_touches h hstage hfound hcertain hidle hafter hallowed
        (by rcases hphase with rfl | rfl <;> simp) (by constructor <;> simp)
        (by constructor <;> simp)

theorem downloadStart_touches (h : Fitting supervised id start)
    (hstage : start.stage = .downloading plan) (answer : Answer) :
    Touches supervised (supervised.downloadStart id start plan answer) id := by
  have hpart : start.stage.part = .late := by rw [hstage]; rfl
  unfold Supervised.downloadStart
  split
  · exact lose_touches h _
  split
  · exact lose_touches h _
  split
  next hcopied =>
    apply snapshot_touches h
    refine move_touches (fun _ _ => rfl) ?_ (h.in_part hpart) ?_
    · exact {
        undispatched := by simp
        measured := by
          intro other hother
          cases hother
          exact h.known.measured plan (by rw [hstage]; rfl)
        answered := by simp
        acknowledged := fun _ => h.known.acknowledged (.inr hpart)
        captured := by
          intro captured hcaptured
          cases hcaptured
          unfold Supervised.copied at hcopied
          simp only [Bool.and_eq_true, beq_iff_eq] at hcopied
          exact ⟨rfl, rfl, hcopied.1.2, hcopied.2⟩ }
    · apply h.leased.follow
      rw [hstage]
      constructor <;> simp
  · exact lose_touches h _

/-- The image is published, and the acquisition is removed. -/
theorem publishStart_touches (h : Fitting supervised id start)
    (hdownloads : supervised.state.downloads id = true) (image : CapturedImage) :
    Touches supervised (supervised.publishStart id start image) id := by
  unfold State.downloads at hdownloads
  cases hactive : supervised.state.activeIs id with
  | none => simp [hactive] at hdownloads
  | some active =>
    have hhistory : ∀ other, historyOf ((supervised.setState (supervised.state.publish image)).note
        (.published supervised.state.active image)).log other
        = historyOf supervised.log other := by
      intro other
      simp [Supervised.note, Supervised.setState, historyOf, Effect.acquisition?]
    exact remove_touches h hactive rfl rfl rfl hhistory

theorem decideStart_touches {image : CapturedImage} (h : Fitting supervised id start)
    (hstage : start.stage = .deciding plan image) :
    Touches supervised (supervised.decideStart id start plan image) id := by
  unfold Supervised.decideStart
  split
  next hretained =>
    simp only [Bool.and_eq_true] at hretained
    exact publishStart_touches h hretained.1 image
  · have hnoted : Fitting (supervised.note (.release plan.operation (.acquisition id))) id start :=
      h.note rfl
    have hplain : (Effect.release plan.operation (.acquisition id)).acquisition? = none := rfl
    apply note_touches hplain
    exact stay_touches hnoted (by rw [hstage]; rfl) (by rw [hstage]; constructor <;> simp)
      (by rw [hstage]; constructor <;> simp)

theorem releaseStart_touches {image : CapturedImage} (h : Fitting supervised id start)
    (hstage : start.stage = .releasing plan image) (answer : Answer) :
    Touches supervised (supervised.releaseStart id start plan image answer) id := by
  unfold Supervised.releaseStart
  split
  · exact lose_touches h _
  split
  · exact lose_touches h _
  · have hnoted : Fitting (supervised.note (.released plan.operation)) id start := h.note rfl
    have hplain : (Effect.released plan.operation).acquisition? = none := rfl
    apply note_touches hplain
    apply snapshot_touches hnoted
    exact stay_touches hnoted (by rw [hstage]; rfl) (by rw [hstage]; constructor <;> simp)
      (by rw [hstage]; constructor <;> simp)

theorem finishStart_touches {image : CapturedImage} (h : Fitting supervised id start)
    (hstage : start.stage = .publishing plan image) :
    Touches supervised (supervised.finishStart id start image) id := by
  have hpart : start.stage.part = .late := by rw [hstage]; rfl
  unfold Supervised.finishStart
  split
  next hdownloads => exact publishStart_touches h hdownloads image
  next hdownloads =>
    refine end_touches h fun found hfound => ?_
    have hallowed := (h.in_part hpart).phase found hfound
    simp only [State.downloads, show supervised.state.activeIs id = some found from hfound,
      Option.any_some, beq_iff_eq] at hdownloads
    cases hphase : found.phase <;> simp_all [Allowed]

theorem rejectStart_touches {error : Option SourceError} (h : Fitting supervised id start)
    (hstage : start.stage = .rejecting error) :
    Touches supervised (supervised.rejectStart id start error) id := by
  have hpart : start.stage.part = .early := by rw [hstage]; rfl
  unfold Supervised.rejectStart State.endRejected
  cases hactive : supervised.state.activeIs id with
  | none => exact end_touches h (by simp [hactive])
  | some active =>
    dsimp only
    cases hoperation : active.operation with
    | none => exact remove_touches h hactive rfl rfl rfl fun _ => rfl
    | some operation =>
      dsimp only
      by_cases hretains : supervised.state.guideRetains operation = true
      · rw [if_pos hretains]
        exact remove_touches h hactive rfl rfl rfl fun _ => rfl
      · rw [if_neg hretains]
        have hnoted : Fitting ((supervised.setState supervised.state).note
            (.release operation (.acquisition id))) id start := h.note rfl
        have hplain : (Effect.release operation (.acquisition id)).acquisition? = none := rfl
        apply note_touches hplain
        refine move_touches (fun _ _ => rfl) (hnoted.known.follow ?_) (hnoted.in_part hpart) ?_
        · constructor <;> simp
        · exact {
            settled := by
              intro held hheld found hfound
              cases hheld
              cases hactive.symm.trans hfound
              exact hoperation
            acquiring := by simp
            attaching := by simp
            commands := h.leased.commands }

theorem returnStart_touches {operation : Uuid} {error : Option SourceError}
    (h : Fitting supervised id start) (answer : Answer) :
    Touches supervised (supervised.returnStart id start operation error answer) id := by
  have hhistory : ∀ state other, historyOf ((supervised.setState state).note
      (.released operation)).log other = historyOf supervised.log other := by
    intro state other
    simp [Supervised.note, Supervised.setState, historyOf, Effect.acquisition?]
  unfold Supervised.returnStart
  split
  · exact lose_touches h _
  · unfold State.clearRejected
    cases hactive : supervised.state.activeIs id with
    | none =>
      have hnoted : Fitting (supervised.note (.released operation)) id start := h.note rfl
      have hplain : (Effect.released operation).acquisition? = none := rfl
      apply note_touches hplain
      apply end_touches hnoted
      intro found hfound
      change supervised.state.activeIs id = some found at hfound
      rw [hactive] at hfound
      cases hfound
    | some active => exact remove_touches h hactive rfl rfl rfl (hhistory _)

theorem runStart_touches (h : Fitting supervised id start) (answer : Answer) :
    Touches supervised (supervised.runStart id start answer) id := by
  unfold Supervised.runStart
  split
  next hstage => exact prepareStart_touches h hstage answer
  next hstage => exact acquireStart_touches h hstage answer
  next hstage => exact attachStart_touches h hstage
  next hstage => exact measureStart_touches h hstage answer
  next hstage => exact dispatchStart_touches h hstage answer
  next hstage => exact answerStart_touches h hstage answer
  next hstage => exact acknowledgeStart_touches h hstage
  next hstage => exact waitStart_touches h hstage answer
  next hstage => exact pauseStart_touches h hstage
  next hstage => exact readStart_touches h hstage answer
  next hstage => exact observeStart_touches h hstage
  next hstage => exact downloadStart_touches h hstage answer
  next hstage => exact decideStart_touches h hstage
  next hstage => exact releaseStart_touches h hstage answer
  next hstage => exact finishStart_touches h hstage
  next hstage => exact rejectStart_touches h hstage
  next => exact returnStart_touches h answer
  next => exact ⟨fun _ _ => rfl, h.linked⟩

theorem dropStart_touches (h : Fitting supervised id start) (runtime : Bool) :
    Touches supervised (supervised.dropStart id start runtime) id := by
  have hdropped : start.stage.part = .early →
      Touches supervised (if runtime then supervised.moveStart id start (.rejecting none)
        else supervised.loseStart id start .uncertain) id := by
    intro hpart
    split
    · exact reject_touches h hpart _
    · exact lose_touches h _
  unfold Supervised.dropStart
  split
  · split
    next => exact ⟨fun _ _ => rfl, h.linked⟩
    next hstage => exact hdropped (by rw [hstage]; rfl)
    next hstage => exact hdropped (by rw [hstage]; rfl)
    next hstage => exact hdropped (by rw [hstage]; rfl)
    next hstage => exact hdropped (by rw [hstage]; rfl)
    next hstage => exact hdropped (by rw [hstage]; rfl)
    next => exact lose_touches h _
  · exact ⟨fun _ _ => rfl, h.linked⟩

end

end Regain.Hub.CameraSupervisor
