import Regain.Hub.Camera.PreparedRun
import Regain.Hub.Camera.SupervisorImages

/-!
# Runs of the camera supervisor

Every step keeps the links of every acquisition.  So an image is published for the acquisition
that is downloaded, and it is reported as long as no later start was acknowledged.
-/

namespace Regain.Hub.CameraSupervisor

open Lib
open Supervised (abandonGuiding_idle activeIs_removed admitCommand admitCommand_cases
  admitGuide_idle admitSetting_idle admitStart admitStart_cases forsake initial readStatus
  runGuide_idle runSetting_idle)

theorem Supervised.Idle.view {before after : Supervised} (h : Supervised.Idle before after)
    (id : Uuid) : after.view id = before.view id := by
  obtain ⟨effects, hlog, hleases⟩ := h.log
  have hnone : historyOf effects id = [] := by
    apply List.filter_eq_nil_iff.mpr
    intro effect hmem
    have hlease := hleases effect hmem
    cases effect <;> simp_all [Effect.isLease, Effect.acquisition?]
  have hhistory : historyOf after.log id = historyOf before.log id := by
    rw [hlog, historyOf_append, hnone, List.append_nil]
  unfold Supervised.view
  rw [h.starts, h.commands, hhistory, State.activeIs_same h.active]

theorem Supervised.Idle.calm {before after : Supervised} (h : Supervised.Idle before after) :
    Supervised.Calm before after := by
  obtain ⟨effects, hlog, hleases⟩ := h.log
  refine ⟨State.Calm.same h.active h.completed, effects, hlog, fun effect hmem => ?_⟩
  have hlease := hleases effect hmem
  cases effect <;> simp_all [Effect.isLease, Effect.isPlain]

section

/-! ## The invariant -/

variable {supervised after : Supervised} {id : Uuid}

theorem Touches.linked (h : Touches supervised after id)
    (hlinked : ∀ other, Linked other (supervised.view other)) (other : Uuid) :
    Linked other (after.view other) := by
  by_cases hother : other = id
  · rw [hother]
    exact h.own
  · rw [h.others other hother]
    exact hlinked other

theorem Supervised.Idle.linked (h : Supervised.Idle supervised after)
    (hlinked : ∀ other, Linked other (supervised.view other)) (other : Uuid) :
    Linked other (after.view other) := by
  rw [h.view other]
  exact hlinked other

theorem linked_lose {view : View} (h : Linked id view) :
    Linked id { view with active := view.active.map Active.lose } := by
  unfold Linked at h ⊢
  cases hstart : view.start with
  | none =>
    rw [hstart] at h
    exact ⟨by simp [h.1], h.2⟩
  | some start =>
    rw [hstart] at h
    exact ⟨h.1, h.2.1.lose, h.2.2.lose⟩

theorem linked_leave {view : View} (h : Linked id view) :
    Linked id { view with active := none } := by
  unfold Linked at h ⊢
  cases hstart : view.start with
  | none =>
    rw [hstart] at h
    exact ⟨rfl, h.2⟩
  | some start =>
    rw [hstart] at h
    exact ⟨h.1, h.2.1.leave, h.2.2.leave⟩

theorem commanding (hlinked : ∀ other, Linked other (supervised.view other)) {key : Uuid}
    {command : Command} (hcommand : supervised.commands key = some command) :
    ∃ start, Commanding supervised command.admission.id start key command := by
  have hview := hlinked command.admission.id
  cases hstart : supervised.starts command.admission.id with
  | some start => exact ⟨start, hview.fitting hstart, hcommand, rfl⟩
  | none =>
    have hunknown : Linked command.admission.id ⟨supervised.starts command.admission.id,
      supervised.state.activeIs command.admission.id,
      commandsOf supervised.commands command.admission.id,
      historyOf supervised.log command.admission.id⟩ := hview
    rw [hstart] at hunknown
    have hnone : commandsOf supervised.commands command.admission.id key = none :=
      hunknown.2.1 key
    unfold commandsOf at hnone
    rw [hcommand, Option.filter_some, if_pos (by simp)] at hnone
    cases hnone

theorem fence_linked (hlinked : ∀ other, Linked other (supervised.view other)) (view : SourceView)
    (other : Uuid) :
    Linked other ((supervised.setState (supervised.state.fence view)).view other) := by
  rw [view_setState]
  unfold State.fence
  cases hactive : supervised.state.active with
  | none => exact hlinked other
  | some active =>
    dsimp only
    split
    · have hfound := State.activeIs_eq_some.mpr ⟨hactive, rfl⟩
      rw [State.activeIs_replace hfound active.lose rfl rfl]
      split
      next heq =>
        have hlost := linked_lose (hlinked other)
        have hsame : (supervised.view other).active = some active := by
          change supervised.state.activeIs other = some active
          rw [heq]
          exact hfound
        rw [hsame] at hlost
        exact hlost
      · exact hlinked other
    · exact hlinked other

theorem admitStart_linked (hlinked : ∀ other, Linked other (supervised.view other))
    (session : Session) (request : ExposureRequest) (group : Bool) (other : Uuid) :
    Linked other ((supervised.admitStart id session request group).view other) := by
  unfold admitStart
  split
  · exact hlinked other
  next hadmits =>
    have hnew : supervised.starts id = none := by
      simp only [Bool.or_eq_true, not_or, Bool.not_eq_true] at hadmits
      exact Option.isSome_eq_false_iff.mp hadmits.1.1 |> Option.isNone_iff_eq_none.mp
    cases hstate : supervised.state.admitStart session id with
    | error error => exact hlinked other
    | ok state =>
      obtain ⟨hfree, -, active, hactive, hid, hphase, hidle⟩ := admitStart_cases hstate
      have hfound : state.activeIs id = some active := State.activeIs_eq_some.mpr ⟨hactive, hid⟩
      by_cases hother : other = id
      · subst hother
        have hunknown : Linked other ⟨supervised.starts other, supervised.state.activeIs other,
          commandsOf supervised.commands other, historyOf supervised.log other⟩ := hlinked other
        rw [hnew] at hunknown
        have hnone : ∀ key, commandsOf supervised.commands other key = none := hunknown.2.1
        have hhistory : historyOf supervised.log other = [] := hunknown.2.2
        rw [view_moveStart_self]
        change Known other _ (historyOf supervised.log other)
          ∧ Tied .early (state.activeIs other) (commandsOf supervised.commands other)
            (.abortAcknowledged other ∈ historyOf supervised.log other)
          ∧ Leased .preparing (state.activeIs other) (commandsOf supervised.commands other)
        rw [hhistory, hfound]
        refine ⟨?_, ?_, ?_⟩
        · constructor <;> simp
        · exact {
            phase := by
              intro found hsame
              cases hsame
              rw [hphase]
              trivial
            pending := by
              intro found hsame
              cases hsame
              simp [hphase, hidle]
            live := by simp [hnone]
            commanded := by simp [hnone]
            unique := by simp [hnone]
            previous := by simp [hnone]
            aborted := by simp }
        · exact {
            settled := by simp
            acquiring := by simp
            attaching := by simp
            commands := by simp [hnone] }
      · rw [view_moveStart _ _ hother, view_setState, State.activeIs_of_ne hfound hother]
        have hnone : (supervised.view other).active = none :=
          activeIs_removed hfree other
        have hkept := hlinked other
        rw [← hnone]
        exact hkept

section

variable {start : Start} {state : State} {admission : State.Admission} {active : Active}
  {key : Uuid} {command : Command} {abort : Bool}

theorem admitted_quiet (h : Fitting supervised admission.id start)
    (hcommands : Supervised.Commands supervised.state state abort admission active) {other : Uuid}
    {found : Command} (hfound : commandsOf supervised.commands admission.id other = some found) :
    ¬found.live := by
  intro hlive
  have hpending := (h.tied.pending active hcommands.found).not.mp (by simp [hcommands.idle])
  rcases h.tied.commanded other found hfound hlive active hcommands.found with hlost | hphase
  · exact hcommands.certain hlost
  · unfold Command.phase at hphase
    split at hphase
    · exact hpending (.inl hphase)
    · exact hpending (.inr hphase)

theorem admitted_exposing (h : Fitting supervised admission.id start)
    (hcommands : Supervised.Commands supervised.state state abort admission active) :
    start.stage.part = .waiting
      ∧ (admission.previous = .exposing ∨ admission.previous = .reading) := by
  have hallowed := h.tied.phase active hcommands.found
  have hpending := (h.tied.pending active hcommands.found).not.mp (by simp [hcommands.idle])
  have hstarted := hcommands.started
  have hcertain := hcommands.certain
  have hexposing := hcommands.exposing
  rw [hcommands.previous]
  cases hpart : start.stage.part <;> cases hphase : active.phase <;> simp_all [Allowed]

theorem admitted_live (h : Fitting supervised admission.id start)
    (hcommands : Supervised.Commands supervised.state state abort admission active) {other : Uuid}
    {found : Command}
    (hfound : Function.update (commandsOf supervised.commands admission.id) key (some command)
      other = some found) (hlive : found.live) : other = key ∧ found = command := by
  by_cases hkey : other = key
  · subst hkey
    rw [Function.update_self] at hfound
    exact ⟨rfl, (Option.some.inj hfound).symm⟩
  · rw [Function.update_of_ne hkey] at hfound
    exact absurd hlive (admitted_quiet h hcommands hfound)

theorem admitted_tied (h : Fitting supervised admission.id start)
    (hcommands : Supervised.Commands supervised.state state abort admission active)
    (habort : command.abort = abort) (hadmission : command.admission = admission) :
    Tied start.stage.part
      (some { active with
        phase := if abort then .aborting else .stopping
        commandPending := true })
      (Function.update (commandsOf supervised.commands admission.id) key (some command))
      (.abortAcknowledged admission.id ∈ historyOf supervised.log admission.id) := by
  obtain ⟨hpart, hprevious⟩ := admitted_exposing h hcommands
  exact {
    phase := by
      intro found hfound
      cases hfound
      rw [hpart]
      cases abort <;> trivial
    pending := by
      intro found hfound
      cases hfound
      cases abort <;> simp
    live := fun _ _ _ _ => .inl hpart
    commanded := by
      intro other found hfound hlive entry hentry
      obtain ⟨-, rfl⟩ := admitted_live h hcommands hfound hlive
      cases hentry
      unfold Command.phase
      rw [habort]
      exact .inr rfl
    unique := by
      intro other found hfound hlive third second hsecond hsecondLive
      rw [(admitted_live h hcommands hfound hlive).1,
        (admitted_live h hcommands hsecond hsecondLive).1]
    previous := by
      intro other found hfound
      by_cases hkey : other = key
      · subst hkey
        rw [Function.update_self] at hfound
        cases hfound
        rw [hadmission]
        exact hprevious
      · rw [Function.update_of_ne hkey] at hfound
        exact h.tied.previous other found hfound
    aborted := by
      intro haborted
      rcases (h.tied.aborted haborted).2 active hcommands.found with hlost |
        ⟨other, found, hfound, hack⟩
      · exact absurd hlost hcommands.certain
      · exact absurd hack.live (admitted_quiet h hcommands hfound) }

theorem admitted_leased (h : Fitting supervised admission.id start)
    (hcommands : Supervised.Commands supervised.state state abort admission active)
    (hadmission : command.admission = admission) :
    Leased start.stage
      (some { active with
        phase := if abort then .aborting else .stopping
        commandPending := true })
      (Function.update (commandsOf supervised.commands admission.id) key (some command)) := by
  have hsame : Leased start.stage
      (some { active with
        phase := if abort then .aborting else .stopping
        commandPending := true }) (commandsOf supervised.commands admission.id) := by
    apply h.leased.same
    intro found hfound
    cases hfound
    exact ⟨active, hcommands.found, rfl⟩
  exact { hsame with
    commands := by
      intro other found hfound hlive entry hentry
      obtain ⟨-, rfl⟩ := admitted_live h hcommands hfound hlive
      cases hentry
      rw [hadmission]
      exact hcommands.operation }

end

/-! ## Commands -/

theorem admitCommand_linked (hlinked : ∀ other, Linked other (supervised.view other))
    (key : Uuid) (session : Session) (abort : Bool) (expected : Option Uuid) (other : Uuid) :
    Linked other ((supervised.admitCommand key session abort expected).view other) := by
  unfold admitCommand
  split
  · exact hlinked other
  next hadmits =>
    have hnew : supervised.commands key = none := by
      simp only [Bool.or_eq_true, not_or, Bool.not_eq_true] at hadmits
      exact Option.isSome_eq_false_iff.mp hadmits.1 |> Option.isNone_iff_eq_none.mp
    cases hadmitted : supervised.state.admitCommand session abort expected with
    | error error => exact hlinked other
    | ok result =>
      obtain ⟨state, admission⟩ := result
      cases admission with
      | none => exact hlinked other
      | some admission =>
        obtain ⟨active, hcommands⟩ := admitCommand_cases hadmitted
        have hactive := hcommands.found
        obtain ⟨hothers, hown⟩ := replace_views hactive hcommands.changed rfl
        by_cases hother : other = admission.id
        · subst hother
          cases hstart : supervised.starts admission.id with
          | none =>
            have hunknown : Linked admission.id ⟨supervised.starts admission.id,
              supervised.state.activeIs admission.id, commandsOf supervised.commands admission.id,
              historyOf supervised.log admission.id⟩ := hlinked admission.id
            rw [hstart] at hunknown
            have hnone : supervised.state.activeIs admission.id = none := hunknown.1
            rw [hactive] at hnone
            cases hnone
          | some start =>
            have hfitting := (hlinked admission.id).fitting hstart
            rw [view_moveCommand_self _ _ rfl]
            change Linked admission.id ⟨supervised.starts admission.id, state.activeIs admission.id,
              Function.update (commandsOf supervised.commands admission.id) key
                (some ⟨session, abort, admission, .probing⟩), historyOf supervised.log admission.id⟩
            rw [hstart, hown]
            exact ⟨hfitting.known, admitted_tied hfitting hcommands rfl rfl,
              admitted_leased hfitting hcommands rfl⟩
        · have hconcerns : admission.id ≠ other := fun heq => hother heq.symm
          rw [view_moveCommand _ _ hconcerns, hothers other hother]
          · exact hlinked other
          · intro prior hprior
            change prior ∈ supervised.commands key at hprior
            rw [hnew] at hprior
            cases hprior

end

section

variable {supervised : Supervised}

/-- Whoever held a lease is abandoned, or the supervisor is retired. -/
theorem forsake_linked (hlinked : ∀ other, Linked other (supervised.view other)) {state : State}
    (hactive : state.active = none ∨ state.active = supervised.state.active) (other : Uuid) :
    Linked other ((supervised.forsake state).view other) := by
  have hhistory : historyOf (supervised.forsake state).log other
      = historyOf supervised.log other := by
    unfold forsake
    rw [historyOf_append]
    have hnone : ∀ operations : List Uuid,
        historyOf (operations.map Effect.forsaken) other = [] := by
      intro operations
      apply List.filter_eq_nil_iff.mpr
      intro effect hmem
      obtain ⟨operation, -, rfl⟩ := List.mem_map.mp hmem
      simp [Effect.acquisition?]
    rw [hnone, List.append_nil]
  change Linked other ⟨supervised.starts other, state.activeIs other,
    commandsOf supervised.commands other, historyOf (supervised.forsake state).log other⟩
  rw [hhistory]
  rcases hactive with hnone | hsame
  · rw [activeIs_removed hnone other]
    exact linked_leave (hlinked other)
  · rw [State.activeIs_same hsame]
    exact hlinked other

theorem abandonUncertain_cases {state after : State} {acquisition : Uuid}
    (habandoned : state.abandonUncertain acquisition = .ok after) :
    (after.active = none ∨ after.active = state.active) ∧ after.completed = state.completed := by
  unfold State.abandonUncertain at habandoned
  split at habandoned
  · cases habandoned
    exact ⟨.inr rfl, rfl⟩
  split at habandoned
  · cases habandoned
  split at habandoned
  · cases habandoned
  · cases habandoned
    exact ⟨.inl rfl, rfl⟩

theorem abandonOwned_cases {state after : State} {owner : Uuid}
    (habandoned : state.abandonOwned owner = .ok after) :
    (after.active = none ∨ after.active = state.active) ∧ after.completed = state.completed := by
  unfold State.abandonOwned at habandoned
  split at habandoned
  · cases habandoned
    exact ⟨.inr rfl, rfl⟩
  split at habandoned
  · cases habandoned
  split at habandoned
  · cases habandoned
  · exact abandonUncertain_cases habandoned

theorem apply_linked (hlinked : ∀ other, Linked other (supervised.view other)) (input : Input)
    (other : Uuid) : Linked other ((supervised.apply input).view other) := by
  cases input with
  | source view => exact hlinked other
  | status age =>
    change Linked other ((supervised.readStatus age).view other)
    unfold readStatus
    split
    · exact hlinked other
    · dsimp only
      rw [view_note _ _ (by simp [Effect.acquisition?])]
      exact fence_linked hlinked _ other
  | start id session request group => exact admitStart_linked hlinked session request group other
  | command key session abort expected =>
    exact admitCommand_linked hlinked key session abort expected other
  | guide id session request =>
    exact (admitGuide_idle supervised id session request).linked hlinked other
  | set id session setting =>
    exact (admitSetting_idle supervised id session setting).linked hlinked other
  | abandonUncertain acquisition =>
    change Linked other ((supervised.abandon _).view other)
    cases habandoned : supervised.state.abandonUncertain acquisition with
    | error error => exact hlinked other
    | ok state => exact forsake_linked hlinked (abandonUncertain_cases habandoned).1 other
  | abandonOwned owner =>
    change Linked other ((supervised.abandon _).view other)
    cases habandoned : supervised.state.abandonOwned owner with
    | error error => exact hlinked other
    | ok state => exact forsake_linked hlinked (abandonOwned_cases habandoned).1 other
  | abandonGuiding owner =>
    exact (abandonGuiding_idle supervised owner).linked hlinked other
  | retire =>
    change Linked other (supervised.retire.view other)
    unfold Supervised.retire
    split
    · exact hlinked other
    · exact forsake_linked hlinked (.inl rfl) other
  | runStart id answer =>
    change Linked other (((supervised.starts id).elim supervised _).view other)
    cases hstart : supervised.starts id with
    | none => exact hlinked other
    | some start =>
      exact (runStart_touches ((hlinked id).fitting hstart) answer).linked hlinked other
  | dropStart id runtime =>
    change Linked other (((supervised.starts id).elim supervised _).view other)
    cases hstart : supervised.starts id with
    | none => exact hlinked other
    | some start =>
      exact (dropStart_touches ((hlinked id).fitting hstart) runtime).linked hlinked other
  | runCommand key answer =>
    change Linked other (((supervised.commands key).elim supervised _).view other)
    cases hcommand : supervised.commands key with
    | none => exact hlinked other
    | some command =>
      obtain ⟨start, hcommanding⟩ := commanding hlinked hcommand
      exact (runCommand_touches hcommanding answer).linked hlinked other
  | runGuide id answer =>
    change Linked other (((supervised.guides id).elim supervised _).view other)
    cases supervised.guides id with
    | none => exact hlinked other
    | some guide =>
      exact (runGuide_idle supervised id guide answer).linked hlinked other
  | runSetting id answer =>
    change Linked other (((supervised.settings id).elim supervised _).view other)
    cases supervised.settings id with
    | none => exact hlinked other
    | some setting =>
      exact (runSetting_idle supervised id setting answer).linked hlinked other

end

/-! ## Images and reports -/

/-- An image is published while its acquisition is downloaded: its start was acknowledged in the
generation of the image, its abort was not, and it has the admitted size. -/
def Publication (before : Supervised) (active : Option Active) (image : CapturedImage) : Prop :=
  active = before.state.active ∧ ∃ found, active = some found
    ∧ found.id = image.identity.acquisition ∧ found.phase = .downloading
    ∧ .acknowledged found.id image.identity.generation ∈ before.log
    ∧ .abortAcknowledged found.id ∉ before.log
    ∧ ∃ geometry, .measured found.id geometry ∈ before.log
      ∧ image.image.descriptor.width = geometry.width
      ∧ image.image.descriptor.height = geometry.height

/-- A status says that an image is ready only for the last acknowledged acquisition, and for the
generation of its own source snapshot. -/
def Report (log : List Effect) (view : SourceView) (status : AcquisitionStatus) : Prop :=
  (status.imageReady = true → status.completed.isSome = true)
    ∧ ∀ identity ∈ status.completed, (acknowledgedIn log).getLast? = some identity.acquisition
      ∧ identity.generation = view.generation ∧ view.transportConnected = true

structure Tells (before after : Supervised) : Prop where
  published : ∀ active image, .published active image ∈ after.log.drop before.log.length →
    Publication before active image
  reported : ∀ view status, .reported view status ∈ after.log.drop before.log.length →
    Report after.log view status

structure Sound (supervised : Supervised) : Prop where
  linked : ∀ id, Linked id (supervised.view id)
  once : ∀ id, supervised.dispatches id ≤ 1
  latest : ∀ active ∈ supervised.state.active, active.exposes →
    (acknowledgedIn supervised.log).getLast? = some active.id
  completed : ∀ image ∈ supervised.state.completed,
    (acknowledgedIn supervised.log).getLast? = some image.identity.acquisition

section

variable {before after : Supervised}

theorem Supervised.Calm.acknowledged (h : Supervised.Calm before after) :
    acknowledgedIn after.log = acknowledgedIn before.log := by
  obtain ⟨effects, hlog, hplain⟩ := h.log
  have hnone : effects.filterMap Effect.acknowledged? = [] := by
    apply List.filterMap_eq_nil_iff.mpr
    intro effect hmem
    have heffect := hplain effect hmem
    cases effect <;> simp_all [Effect.isPlain, Effect.acknowledged?]
  unfold acknowledgedIn
  rw [hlog, List.filterMap_append, hnone, List.append_nil]

theorem Supervised.Calm.dispatches (h : Supervised.Calm before after) (id : Uuid) :
    after.dispatches id = before.dispatches id := by
  obtain ⟨effects, hlog, hplain⟩ := h.log
  have hnone : effects.filterMap Effect.dispatched? = [] := by
    apply List.filterMap_eq_nil_iff.mpr
    intro effect hmem
    have heffect := hplain effect hmem
    cases effect <;> simp_all [Effect.isPlain, Effect.dispatched?]
  unfold Supervised.dispatches dispatchedIn
  rw [hlog, List.filterMap_append, hnone, List.append_nil]

theorem Supervised.Calm.tells (h : Supervised.Calm before after) : Tells before after := by
  obtain ⟨effects, hlog, hplain⟩ := h.log
  have hnew : after.log.drop before.log.length = effects := by
    rw [hlog, List.drop_left]
  constructor
  · intro active image hmem
    rw [hnew] at hmem
    cases hplain _ hmem
  · intro view status hmem
    rw [hnew] at hmem
    cases hplain _ hmem

theorem Sound.calm (h : Sound before) (hstate : State.Calm before.state after.state)
    (hacknowledged : acknowledgedIn after.log = acknowledgedIn before.log)
    (hdispatches : ∀ id, after.dispatches id = before.dispatches id)
    (hlinked : ∀ id, Linked id (after.view id)) : Sound after where
  linked := hlinked
  once id := by
    rw [hdispatches]
    exact h.once id
  latest := by
    intro active hactive hexposes
    obtain ⟨prior, hprior, hid, hexposed⟩ := hstate.active active hactive hexposes
    rw [hacknowledged, ← hid]
    exact h.latest prior hprior hexposed
  completed := by
    intro image himage
    rw [hacknowledged]
    rcases hstate.completed with hsame | hnone
    · rw [hsame] at himage
      exact h.completed image himage
    · rw [hnone] at himage
      cases himage

theorem Supervised.Calm.told (hcalm : Supervised.Calm before after) (h : Sound before)
    (hlinked : ∀ id, Linked id (after.view id)) : Sound after ∧ Tells before after :=
  ⟨h.calm hcalm.state hcalm.acknowledged hcalm.dispatches hlinked, hcalm.tells⟩

end

section

variable {supervised after : Supervised} {id : Uuid} {start : Start}

theorem tells_note {effect : Effect} (hlog : after.log = supervised.log ++ [effect])
    (hpublished : ∀ active image, effect = .published active image →
      Publication supervised active image)
    (hreported : ∀ view status, effect = .reported view status → Report after.log view status) :
    Tells supervised after := by
  have hnew : after.log.drop supervised.log.length = [effect] := by
    rw [hlog, List.drop_left]
  constructor
  · intro active image hmem
    rw [hnew] at hmem
    exact hpublished active image (List.mem_singleton.mp hmem).symm
  · intro view status hmem
    rw [hnew] at hmem
    exact hreported view status (List.mem_singleton.mp hmem).symm

theorem acknowledgedIn_concat (log : List Effect) (effect : Effect) :
    acknowledgedIn (log ++ [effect]) = acknowledgedIn log ++ effect.acknowledged?.toList := by
  unfold acknowledgedIn
  rw [List.filterMap_append]
  cases hacknowledged : effect.acknowledged? with
  | none => simp [hacknowledged]
  | some id => simp [hacknowledged]

/-- A start that is not dispatched yet has no dispatch in the log. -/
theorem undispatched_none (h : Fitting supervised id start)
    (hundispatched : start.stage.undispatched = true) : supervised.dispatches id = 0 := by
  apply List.count_eq_zero.mpr
  intro hmem
  obtain ⟨effect, heffect, hdispatched⟩ := List.mem_filterMap.mp hmem
  have hsame : effect = .dispatched id := by
    cases effect <;> simp_all [Effect.dispatched?]
  subst hsame
  exact h.known.undispatched hundispatched ((mem_historyOf rfl).mpr heffect)

theorem marks_told (h : Sound supervised) (hfitting : Fitting supervised id start)
    (hlinked : ∀ other, Linked other (after.view other))
    (hmarks : Supervised.Marks supervised id start after) :
    Sound after ∧ Tells supervised after := by
  cases hmarks with
  | dispatched plan state hprepared hattaches =>
    have hnone : supervised.dispatches id = 0 :=
      undispatched_none hfitting (by rw [hprepared]; rfl)
    constructor
    · have hcalm : Supervised.Calm supervised (supervised.setState state) :=
        .setState (State.attach_calm hattaches)
      have hacknowledged : acknowledgedIn (supervised.log ++ [.dispatched id])
          = acknowledgedIn supervised.log := by
        rw [acknowledgedIn_concat]
        exact List.append_nil _
      exact {
        linked := hlinked
        once := by
          intro other
          change ((supervised.setState state).note (.dispatched id)).dispatches other ≤ 1
          by_cases hother : other = id
          · subst hother
            rw [Supervised.Local.dispatches_note_self]
            exact le_of_eq (congrArg (· + 1) hnone)
          · have hne : Effect.dispatched? (.dispatched id) ≠ some other := by
              intro heq
              exact hother (Option.some.inj heq).symm
            rw [Supervised.Local.dispatches_note _ hne]
            exact h.once other
        latest := by
          intro active hactive hexposes
          obtain ⟨prior, hprior, hid, hexposed⟩ := hcalm.state.active active hactive hexposes
          change (acknowledgedIn (supervised.log ++ [.dispatched id])).getLast? = _
          rw [hacknowledged, ← hid]
          exact h.latest prior hprior hexposed
        completed := by
          intro image himage
          change (acknowledgedIn (supervised.log ++ [.dispatched id])).getLast? = _
          rw [hacknowledged]
          rcases hcalm.state.completed with hsame | hcleared
          · exact h.completed image (hsame ▸ himage)
          · change image ∈ state.completed at himage
            rw [show state.completed = none from hcleared] at himage
            cases himage }
    · exact tells_note rfl (fun _ _ heq => by cases heq)
        fun _ _ heq => by cases heq
  | acknowledged plan generation state hanswered hacknowledges =>
    obtain ⟨found, hfound, hcertain, hafter, hcompleted⟩ := acknowledge_cases hacknowledges
    have hlast : (acknowledgedIn (supervised.log ++ [.acknowledged id generation])).getLast?
        = some id := by
      rw [acknowledgedIn_concat]
      exact List.getLast?_concat ..
    constructor
    · exact {
        linked := hlinked
        once := by
          intro other
          change ((supervised.setState state).note (.acknowledged id generation)).dispatches other
            ≤ 1
          rw [Supervised.Local.dispatches_note _ (by simp [Effect.dispatched?])]
          exact h.once other
        latest := by
          intro active hactive _
          change active ∈ state.active at hactive
          rw [hafter] at hactive
          cases hactive
          change (acknowledgedIn (supervised.log ++ [.acknowledged id generation])).getLast? = _
          rw [hlast]
          exact congrArg some (State.activeIs_eq_some.mp hfound).2.symm
        completed := by
          intro image himage
          change image ∈ state.completed at himage
          rw [hcompleted] at himage
          cases himage }
    · exact tells_note rfl (fun _ _ heq => by cases heq)
        fun _ _ heq => by cases heq
  | published plan image hcaptured hdownloads =>
    have hpart : start.stage.part = .late := by
      cases hstage : start.stage <;> simp_all
    obtain ⟨found, hfound, hphase⟩ : ∃ found, supervised.state.activeIs id = some found
        ∧ found.phase = .downloading := by
      unfold State.downloads at hdownloads
      cases hfound : supervised.state.activeIs id with
      | none => simp [hfound] at hdownloads
      | some found =>
        rw [hfound] at hdownloads
        exact ⟨found, rfl, by simpa using hdownloads⟩
    obtain ⟨hactive, hid⟩ := State.activeIs_eq_some.mp hfound
    have hexposes : found.exposes := by
      unfold Active.exposes
      simp [hphase]
    obtain ⟨himage, hgeneration, hwidth, hheight⟩ :=
      hfitting.known.captured (plan, image) hcaptured
    have hlast := h.latest found hactive hexposes
    have hplan : start.stage.plan? = some plan := by
      cases hstage : start.stage <;> simp_all
    have hacknowledged : acknowledgedIn
        (supervised.log ++ [.published supervised.state.active image])
        = acknowledgedIn supervised.log := by
      rw [acknowledgedIn_concat]
      exact List.append_nil _
    constructor
    · exact {
        linked := hlinked
        once := by
          intro other
          change ((supervised.setState (supervised.state.publish image)).note
            (.published supervised.state.active image)).dispatches other ≤ 1
          rw [Supervised.Local.dispatches_note _ (by simp [Effect.dispatched?])]
          exact h.once other
        latest := by
          intro active hnone
          cases hnone
        completed := by
          intro completed hsame
          cases hsame
          change (acknowledgedIn (supervised.log
            ++ [.published supervised.state.active image])).getLast? = _
          rw [hacknowledged, hlast, himage, hid] }
    · apply tells_note rfl
      · intro active published heq
        cases heq
        refine ⟨rfl, found, hactive, hid.trans himage.symm, hphase, ?_, ?_, plan.geometry, ?_,
          hwidth, hheight⟩
        · rw [hid, hgeneration]
          exact (mem_historyOf rfl).mp (hfitting.known.acknowledged (.inr hpart))
        · rw [hid]
          intro haborted
          have htied := hfitting.tied.aborted ((mem_historyOf rfl).mpr haborted)
          rw [hpart] at htied
          rcases htied.1 with hearly | hended
          · cases hearly
          · cases hended
        · rw [hid]
          exact (mem_historyOf rfl).mp (hfitting.known.measured plan hplan)
      · intro view status heq
        cases heq

theorem readStatus_told (h : Sound supervised) (age : Nat)
    (hlinked : ∀ other, Linked other ((supervised.readStatus age).view other)) :
    Sound (supervised.readStatus age) ∧ Tells supervised (supervised.readStatus age) := by
  unfold readStatus at hlinked ⊢
  split
  · exact ⟨h, (Supervised.Calm.refl supervised).tells⟩
  next view hview =>
    rw [hview] at hlinked
    have hstate := State.fence_calm supervised.state view
    have hacknowledged : acknowledgedIn (supervised.log
        ++ [.reported view ((supervised.state.fence view).report view)])
        = acknowledgedIn supervised.log := by
      rw [acknowledgedIn_concat]
      exact List.append_nil _
    have hsound : Sound ((supervised.setState (supervised.state.fence view)).note
        (.reported view ((supervised.state.fence view).report view))) :=
      h.calm hstate hacknowledged
        (fun id => Supervised.Local.dispatches_note _ (by simp [Effect.dispatched?])) hlinked
    refine ⟨hsound, ?_⟩
    apply tells_note rfl
    · intro active image heq
      cases heq
    · intro found status heq
      cases heq
      refine ⟨fun hready => hready, fun identity hidentity => ?_⟩
      change identity ∈ (supervised.state.fence view).ready view at hidentity
      obtain ⟨image, himage, rfl⟩ := Option.map_eq_some_iff.mp hidentity
      obtain ⟨hcompleted, hready⟩ := Option.filter_eq_some_iff.mp himage
      simp only [Bool.and_eq_true, beq_iff_eq] at hready
      exact ⟨hsound.completed image hcompleted, hready.1, hready.2⟩

end

theorem forsake_calm (supervised : Supervised) {state : State}
    (hstate : State.Calm supervised.state state) :
    Supervised.Calm supervised (supervised.forsake state) := by
  refine ⟨hstate, _, rfl, fun effect hmem => ?_⟩
  obtain ⟨operation, -, rfl⟩ := List.mem_map.mp hmem
  rfl

theorem abandoned_calm {state after : State}
    (habandoned : (after.active = none ∨ after.active = state.active)
      ∧ after.completed = state.completed) : State.Calm state after := by
  rcases habandoned.1 with hnone | hsame
  · exact State.Calm.clear hnone (.inl habandoned.2)
  · exact State.Calm.same hsame habandoned.2

theorem apply_told {supervised : Supervised} (h : Sound supervised) (input : Input) :
    Sound (supervised.apply input) ∧ Tells supervised (supervised.apply input) := by
  have hlinked := apply_linked h.linked input
  have hrefl := Supervised.Calm.refl supervised
  cases input with
  | source view =>
    have hcalm : Supervised.Calm supervised (supervised.apply (.source view)) :=
      ⟨State.Calm.refl _, [], by simp [Supervised.apply], by simp⟩
    exact hcalm.told h hlinked
  | status age => exact readStatus_told h age hlinked
  | start id session request group =>
    have hcalm : Supervised.Calm supervised
        (supervised.admitStart id session request group) := by
      unfold admitStart
      split
      · exact hrefl
      cases hadmitted : supervised.state.admitStart session id with
      | error error => exact hrefl
      | ok state =>
        obtain ⟨-, hcompleted, active, hactive, -, hphase, -⟩ :=
          admitStart_cases hadmitted
        have hstate : State.Calm supervised.state state := by
          refine ⟨.inl hcompleted, fun found hfound hexposes => ?_⟩
          cases hactive.symm.trans hfound
          exact absurd hphase hexposes.1
        exact (Supervised.Calm.setState hstate).moveStart _ _ _
    exact hcalm.told h hlinked
  | command key session abort expected =>
    have hcalm : Supervised.Calm supervised
        (supervised.admitCommand key session abort expected) := by
      unfold admitCommand
      split
      · exact hrefl
      cases hadmitted : supervised.state.admitCommand session abort expected with
      | error error => exact hrefl
      | ok result =>
        obtain ⟨state, admission⟩ := result
        cases admission with
        | none => exact hrefl
        | some admission =>
          obtain ⟨active, hcommands⟩ := admitCommand_cases hadmitted
          have hstate : State.Calm supervised.state state :=
            .replace hcommands.found hcommands.changed hcommands.completed rfl
              fun _ => ⟨hcommands.started, hcommands.certain⟩
          exact (Supervised.Calm.setState hstate).moveCommand _ _ _
    exact hcalm.told h hlinked
  | guide id session request =>
    exact (admitGuide_idle supervised id session request).calm.told h hlinked
  | set id session setting =>
    exact (admitSetting_idle supervised id session setting).calm.told h hlinked
  | abandonUncertain acquisition =>
    have hcalm : Supervised.Calm supervised
        (supervised.apply (.abandonUncertain acquisition)) := by
      change Supervised.Calm supervised (supervised.abandon _)
      cases habandoned : supervised.state.abandonUncertain acquisition with
      | error error => exact hrefl
      | ok state =>
        exact forsake_calm supervised (abandoned_calm (abandonUncertain_cases habandoned))
    exact hcalm.told h hlinked
  | abandonOwned owner =>
    have hcalm : Supervised.Calm supervised (supervised.apply (.abandonOwned owner)) := by
      change Supervised.Calm supervised (supervised.abandon _)
      cases habandoned : supervised.state.abandonOwned owner with
      | error error => exact hrefl
      | ok state =>
        exact forsake_calm supervised (abandoned_calm (abandonOwned_cases habandoned))
    exact hcalm.told h hlinked
  | abandonGuiding owner =>
    exact (abandonGuiding_idle supervised owner).calm.told h hlinked
  | retire =>
    have hcalm : Supervised.Calm supervised (supervised.apply .retire) := by
      change Supervised.Calm supervised supervised.retire
      unfold Supervised.retire
      split
      · exact hrefl
      · exact forsake_calm supervised (.clear rfl (.inr rfl))
    exact hcalm.told h hlinked
  | runStart id answer =>
    cases hstart : supervised.starts id with
    | none =>
      have hsame : supervised.apply (.runStart id answer) = supervised := by
        change (supervised.starts id).elim supervised _ = supervised
        rw [hstart]
        rfl
      rw [hsame]
      exact ⟨h, hrefl.tells⟩
    | some start =>
      have hfitting := (h.linked id).fitting hstart
      have hsame : supervised.apply (.runStart id answer)
          = supervised.runStart id start answer := by
        change (supervised.starts id).elim supervised _ = _
        rw [hstart]
        rfl
      rw [hsame] at hlinked ⊢
      rcases Supervised.runStart_calm supervised id start hfitting answer with hcalm | hmarks
      · exact hcalm.told h hlinked
      · exact marks_told h hfitting hlinked hmarks
  | dropStart id runtime =>
    have hcalm : Supervised.Calm supervised (supervised.apply (.dropStart id runtime)) := by
      change Supervised.Calm supervised ((supervised.starts id).elim supervised _)
      cases supervised.starts id with
      | none => exact hrefl
      | some start => exact Supervised.dropStart_calm supervised id start runtime
    exact hcalm.told h hlinked
  | runCommand key answer =>
    have hcalm : Supervised.Calm supervised (supervised.apply (.runCommand key answer)) := by
      change Supervised.Calm supervised ((supervised.commands key).elim supervised _)
      cases hcommand : supervised.commands key with
      | none => exact hrefl
      | some command =>
        obtain ⟨start, hcommanding⟩ := commanding h.linked hcommand
        exact Supervised.runCommand_calm hcommanding answer
    exact hcalm.told h hlinked
  | runGuide id answer =>
    have hcalm : Supervised.Calm supervised (supervised.apply (.runGuide id answer)) := by
      change Supervised.Calm supervised ((supervised.guides id).elim supervised _)
      cases supervised.guides id with
      | none => exact hrefl
      | some guide => exact (runGuide_idle supervised id guide answer).calm
    exact hcalm.told h hlinked
  | runSetting id answer =>
    have hcalm : Supervised.Calm supervised (supervised.apply (.runSetting id answer)) := by
      change Supervised.Calm supervised ((supervised.settings id).elim supervised _)
      cases supervised.settings id with
      | none => exact hrefl
      | some setting => exact (runSetting_idle supervised id setting answer).calm
    exact hcalm.told h hlinked

/-! ## Runs -/

theorem initial_sound (source : SourceView) : Sound (initial source) where
  linked _ := ⟨rfl, fun _ => rfl, rfl⟩
  once _ := Nat.zero_le 1
  latest := by
    intro active hactive
    cases hactive
  completed := by
    intro image himage
    cases himage

theorem sound_inductive (source : SourceView) : machine.Inductive (initial source) Sound :=
  ⟨initial_sound source, fun input h => (apply_told h input).1⟩

/-- The images of a run and the acquisitions that they belong to. -/
structure Identifies (run : List (Transition Supervised Input Unit)) : Prop where
  once : ∀ t ∈ run, ∀ id, t.after.dispatches id ≤ 1
  published : ∀ t ∈ run, ∀ active image,
    .published active image ∈ t.after.log.drop t.before.log.length →
      Publication t.before active image
  reported : ∀ t ∈ run, ∀ view status,
    .reported view status ∈ t.after.log.drop t.before.log.length → Report t.after.log view status

/-- For every interleaving of tasks, clients, administrators and answers of the source. -/
theorem imageIdentity (source : SourceView) (inputs : List Input) :
    Identifies (machine.run (initial source) inputs) := by
  have hinv := sound_inductive source
  have htold : ∀ t ∈ machine.run (initial source) inputs,
      Sound t.after ∧ Tells t.before t.after := by
    intro t hmem
    obtain ⟨hbefore, -, hstep⟩ := hinv.mem_run hmem
    rw [hstep]
    exact apply_told hbefore t.op
  constructor
  · exact fun t hmem => (htold t hmem).1.once
  · exact fun t hmem => (htold t hmem).2.published
  · exact fun t hmem => (htold t hmem).2.reported

/-- The exposure 7 is over, and its image is published; then the source reconnects. -/
def reconnected : List Input :=
  exposure ++ List.replicate 8 (.runStart 7 { granting 50 with ready := true })
    ++ [.source { cameraSource with generation := 11 }]

/-- A status read took its snapshot before the source reconnected and the lock after it: it reports
an image of the earlier generation as ready. -/
theorem ready_after_reconnection : ∃ source inputs image view status,
    let before := machine.final (initial source) inputs
    before.state.completed = some image ∧ image.identity.generation ≠ before.source.generation
      ∧ (before.apply (.status 1)).log = before.log ++ [.reported view status]
      ∧ status.imageReady = true := by
  have hcompleted : (machine.final (initial cameraSource)
      reconnected).state.completed.map (fun image => image.identity.generation)
      = some 10 := by decide +kernel
  have hsource : (machine.final (initial cameraSource) reconnected).source.generation
      = 11 := by decide +kernel
  have hpast : ((machine.final (initial cameraSource) reconnected).source
      :: (machine.final (initial cameraSource) reconnected).past)[1]?
      = some cameraSource := by decide +kernel
  have hready : (((machine.final (initial cameraSource) reconnected).state.fence
      cameraSource).report cameraSource).imageReady = true := by decide +kernel
  obtain ⟨image, himage, hgeneration⟩ := Option.map_eq_some_iff.mp hcompleted
  refine ⟨cameraSource, reconnected, image, cameraSource, _, himage, ?_, ?_, hready⟩
  · rw [hsource, hgeneration]
    decide
  · change (readStatus _ 1).log = _
    unfold readStatus
    rw [hpast]
    rfl

end Regain.Hub.CameraSupervisor
