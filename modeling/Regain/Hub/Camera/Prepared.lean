import Regain.Hub.Camera.SupervisorLinks

/-!
# Admitted starts

A start that was admitted is dispatched at most once, and never after its reservation was released
or dropped. A start that was never dispatched ends with its acquisition rejected, or uncertain.
-/

namespace Regain.Hub.CameraSupervisor

open Lib

namespace StartStage

@[simp] def sent : StartStage → Bool
  | writing _ => true
  | answered _ _ => true
  | stage => stage.part == .waiting || stage.part == .late

@[simp] def begun (stage : StartStage) : Bool :=
  stage.part != .early

@[simp] def closing : StartStage → Bool
  | rejecting _ => true
  | returning _ _ => true
  | finished => true
  | _ => false

@[simp] def returns? : StartStage → Option Uuid
  | returning operation _ => some operation
  | _ => none

def follows (before after : StartStage) : Bool :=
  after.begun == before.begun && (!after.undispatched || before.undispatched)
    && (!after.sent || before.sent) && (!before.closing || after.closing)
    && after.returns?.isNone && after.part != .ended

variable {stage : StartStage}

theorem sent_of_begun (hbegun : stage.begun = true) (hended : stage.part ≠ .ended) :
    stage.sent = true := by
  cases stage with
  | finished => exact absurd rfl hended
  | _ => first | rfl | cases hbegun

theorem begun_of_undispatched (h : stage.undispatched = true) : stage.begun = false := by
  cases stage <;> first | rfl | cases h

theorem begun_of_returns {operation : Uuid} (h : operation ∈ stage.returns?) :
    stage.begun = false := by
  cases stage <;> first | rfl | cases h

theorem finished_of_part (hpart : stage.part = .ended) : stage = .finished := by
  cases stage <;> first | rfl | cases hpart

end StartStage

/-- What is known of one acquisition besides the stage of its start. -/
structure Trace where
  active : Option Active
  commands : Uuid → Option Command
  dispatches : Nat

/-- The acquisition was never acknowledged: it starts or is uncertain, and nobody commands it. -/
structure Fresh (trace : Trace) : Prop where
  active : ∃ active, trace.active = some active
    ∧ (active.phase = .starting ∨ active.phase = .uncertain)
  uncommanded : ∀ key, trace.commands key = none

structure Unknown (trace : Trace) : Prop where
  active : trace.active = none
  uncommanded : ∀ key, trace.commands key = none
  dispatches : trace.dispatches = 0

def Begun (trace : Trace) : Prop :=
  ∀ active ∈ trace.active, active.phase ≠ .starting

/-- The stage of a start and the rest of its acquisition. -/
structure Fits (stage : StartStage) (trace : Trace) : Prop where
  fresh : stage.begun = false → Fresh trace
  begun : stage.begun = true → Begun trace
  undispatched : stage.undispatched = true → trace.dispatches = 0
  sent : stage.sent = true → trace.dispatches = 1
  once : trace.dispatches ≤ 1
  returning : ∀ operation ∈ stage.returns?, ∀ active ∈ trace.active,
    active.operation = some operation

namespace Supervised

def dispatches (supervised : Supervised) (id : Uuid) : Nat :=
  (dispatchedIn supervised.log).count id

def trace (supervised : Supervised) (id : Uuid) : Trace where
  active := supervised.state.activeIs id
  commands := commandsOf supervised.commands id
  dispatches := supervised.dispatches id

/-- The acquisition is not the active one, and its control was given back unless a guide pulse
holds it. -/
def Rejected (before after : Supervised) (id : Uuid) : Prop :=
  after.state.activeIs id = none
    ∧ ∀ active ∈ before.state.activeIs id, ∀ operation ∈ active.operation,
      before.state.guideRetains operation = true
        ∨ .released operation ∈ after.log.drop before.log.length

def Resolved (before after : Supervised) (id : Uuid) : Prop :=
  after.dispatches id = 0 → Rejected before after id ∨ after.state.Uncertain id

end Supervised

theorem Fits.follow {before after : StartStage} {trace : Trace} (h : Fits before trace)
    (hfollows : before.follows after = true) : Fits after trace := by
  unfold StartStage.follows at hfollows
  simp only [Bool.and_eq_true, Bool.or_eq_true, Bool.not_eq_true', beq_iff_eq,
    Option.isNone_iff_eq_none] at hfollows
  obtain ⟨⟨⟨⟨⟨hbegun, hundispatched⟩, hsent⟩, -⟩, hreturns⟩, -⟩ := hfollows
  constructor
  · intro hafter
    exact h.fresh (hbegun.symm.trans hafter)
  · intro hafter
    exact h.begun (hbegun.symm.trans hafter)
  · intro hafter
    rw [hafter] at hundispatched
    exact h.undispatched (hundispatched.resolve_left Bool.noConfusion)
  · intro hafter
    rw [hafter] at hsent
    exact h.sent (hsent.resolve_left Bool.noConfusion)
  · exact h.once
  · rw [hreturns]
    intro operation hoperation
    cases hoperation

theorem Fits.finish {trace : Trace} (hbegun : Begun trace) (honce : trace.dispatches ≤ 1) :
    Fits .finished trace where
  fresh := by simp
  begun _ := hbegun
  undispatched := by simp
  sent := by simp
  once := honce
  returning := by simp

/-- The entry stays or becomes uncertain, and nobody begins to command it. -/
structure Aside (before after : Trace) : Prop where
  active : after.active = before.active ∨ after.active = before.active.map Active.lose
  commands : (∀ key, before.commands key = none) → ∀ key, after.commands key = none
  dispatches : after.dispatches = before.dispatches

structure Keeps (before after : Trace) : Prop where
  unknown : Unknown before → Unknown after
  fresh : Fresh before → Fresh after
  operation : Fresh before → ∀ active ∈ after.active, ∃ prior ∈ before.active,
    active.operation = prior.operation
  begun : Begun before → Begun after
  dispatches : after.dispatches = before.dispatches

theorem Aside.refl (trace : Trace) : Aside trace trace :=
  ⟨.inl rfl, id, rfl⟩

theorem Aside.keeps {before after : Trace} (h : Aside before after) : Keeps before after := by
  have hactive : ∀ active ∈ after.active, ∃ prior ∈ before.active,
      active.operation = prior.operation
        ∧ (active.phase = prior.phase ∨ active.phase = .uncertain) := by
    intro active hmem
    rcases h.active with hsame | hlost
    · exact ⟨active, hsame ▸ hmem, rfl, .inl rfl⟩
    · rw [hlost] at hmem
      obtain ⟨prior, hprior, rfl⟩ := Option.map_eq_some_iff.mp hmem
      exact ⟨prior, hprior, rfl, .inr rfl⟩
  constructor
  · intro hunknown
    refine ⟨?_, h.commands hunknown.uncommanded, h.dispatches.trans hunknown.dispatches⟩
    rcases h.active with hsame | hlost
    · exact hsame.trans hunknown.active
    · rw [hlost, hunknown.active]
      rfl
  · intro hfresh
    obtain ⟨prior, hprior, hphase⟩ := hfresh.active
    refine ⟨?_, h.commands hfresh.uncommanded⟩
    rcases h.active with hsame | hlost
    · exact ⟨prior, hsame.trans hprior, hphase⟩
    · refine ⟨prior.lose, ?_, .inr rfl⟩
      rw [hlost, hprior]
      rfl
  · intro _ active hmem
    obtain ⟨prior, hprior, hoperation, -⟩ := hactive active hmem
    exact ⟨prior, hprior, hoperation⟩
  · intro hbegun active hmem
    obtain ⟨prior, hprior, -, hphase⟩ := hactive active hmem
    rcases hphase with hsame | hlost
    · rw [hsame]
      exact hbegun prior hprior
    · rw [hlost]
      simp
  · exact h.dispatches

theorem Keeps.fits {before after : Trace} {stage : StartStage} (h : Keeps before after)
    (hfits : Fits stage before) : Fits stage after := by
  constructor
  · intro hbegun
    exact h.fresh (hfits.fresh hbegun)
  · intro hbegun
    exact h.begun (hfits.begun hbegun)
  · intro hundispatched
    rw [h.dispatches]
    exact hfits.undispatched hundispatched
  · intro hsent
    rw [h.dispatches]
    exact hfits.sent hsent
  · rw [h.dispatches]
    exact hfits.once
  · intro operation hoperation active hactive
    have hbegun := StartStage.begun_of_returns hoperation
    obtain ⟨prior, hprior, heq⟩ := h.operation (hfits.fresh hbegun) active hactive
    rw [heq]
    exact hfits.returning operation hoperation prior hprior

namespace Supervised

/-- What a step of a start does: nothing to other acquisitions. -/
structure Own (before after : Supervised) (id : Uuid) (stage : StartStage) : Prop where
  commands : after.commands = before.commands
  starts : ∀ other, other ≠ id → after.starts other = before.starts other
  others : ∀ other, other ≠ id → after.trace other = before.trace other
  task : ∃ start, after.starts id = some start ∧ Fits start.stage (after.trace id)
    ∧ (stage.closing = true → start.stage.closing = true
      ∧ after.dispatches id = before.dispatches id)
    ∧ (start.stage = .finished → stage ≠ .finished → Resolved before after id)

structure Local (before after : Supervised) (id : Uuid) : Prop where
  commands : after.commands = before.commands
  starts : after.starts = before.starts
  others : ∀ other, other ≠ id → after.trace other = before.trace other

namespace Local

variable {before after : Supervised} {id : Uuid}

theorem refl (supervised : Supervised) (id : Uuid) : Local supervised supervised id :=
  ⟨rfl, rfl, fun _ _ => rfl⟩

theorem setState (h : Local before after id) {state : State}
    (hstate : ∀ other, other ≠ id → state.activeIs other = after.state.activeIs other) :
    Local before (after.setState state) id := by
  refine ⟨h.commands, h.starts, fun other hother => ?_⟩
  rw [← h.others other hother]
  unfold Supervised.trace
  rw [Trace.mk.injEq]
  exact ⟨hstate other hother, rfl, rfl⟩

theorem dispatches_note (supervised : Supervised) {effect : Effect} {other : Uuid}
    (heffect : effect.dispatched? ≠ some other) :
    (supervised.note effect).dispatches other = supervised.dispatches other := by
  unfold dispatches dispatchedIn note
  rw [List.filterMap_append, List.count_append]
  cases hdispatched : effect.dispatched? with
  | none => simp [hdispatched]
  | some found =>
    have hne : found ≠ other := fun heq => heffect (by rw [hdispatched, heq])
    simp [hdispatched, hne]

theorem dispatches_note_self (supervised : Supervised) (id : Uuid) :
    (supervised.note (.dispatched id)).dispatches id = supervised.dispatches id + 1 := by
  unfold dispatches dispatchedIn note
  rw [List.filterMap_append, List.count_append]
  simp [Effect.dispatched?]

theorem note (h : Local before after id) {effect : Effect}
    (heffect : ∀ other, other ≠ id → effect.dispatched? ≠ some other) :
    Local before (after.note effect) id := by
  refine ⟨h.commands, h.starts, fun other hother => ?_⟩
  rw [← h.others other hother]
  unfold Supervised.trace
  rw [dispatches_note after (heffect other hother)]
  rfl

theorem grant (h : Local before after id) (lease : Uuid) (holder : Holder) :
    Local before (after.grant lease holder) id :=
  { h with }

theorem own (h : Local before after id) {start : Start} {stage : StartStage}
    (hfits : Fits stage (after.trace id))
    (hclosing : start.stage.closing = true → stage.closing = true
      ∧ after.dispatches id = before.dispatches id)
    (hresolved : stage = .finished → start.stage ≠ .finished → Resolved before after id) :
    Own before (after.moveStart id start stage) id start.stage := by
  refine ⟨h.commands, fun other hother => ?_, h.others, { start with stage := stage }, ?_, hfits,
    hclosing, hresolved⟩
  · change Function.update after.starts id _ other = _
    rw [Function.update_of_ne hother, h.starts]
  · exact Function.update_self id _ after.starts

end Local

section

variable {supervised : Supervised} {id : Uuid} {start : Start}

theorem own_stay (h : Fits start.stage (supervised.trace id))
    (hstart : supervised.starts id = some start) : Own supervised supervised id start.stage :=
  ⟨rfl, fun _ _ => rfl, fun _ _ => rfl, start, hstart, h, fun hclosing => ⟨hclosing, rfl⟩,
    fun hended hopen => absurd hended hopen⟩

theorem own_follow (h : Fits start.stage (supervised.trace id)) {prior stage : StartStage}
    (hstage : start.stage = prior) (hfollows : prior.follows stage = true) :
    Own supervised (supervised.moveStart id start stage) id start.stage := by
  subst hstage
  apply (Local.refl supervised id).own (h.follow hfollows)
  · intro hclosing
    unfold StartStage.follows at hfollows
    simp only [Bool.and_eq_true, Bool.or_eq_true, Bool.not_eq_true', hclosing] at hfollows
    exact ⟨hfollows.1.1.2.resolve_left Bool.noConfusion, rfl⟩
  · intro hended
    subst hended
    simp [StartStage.follows] at hfollows

theorem open_dispatched (h : Fits start.stage (supervised.trace id))
    (hopen : start.stage ≠ .finished) (hbegun : start.stage.begun = true) :
    supervised.dispatches id = 1 := by
  apply h.sent (StartStage.sent_of_begun hbegun _)
  intro hended
  exact hopen (StartStage.finished_of_part hended)

theorem own_lose (h : Fits start.stage (supervised.trace id)) (error : SourceError) :
    Own supervised (supervised.loseStart id start error) id start.stage := by
  have hactive : (supervised.state.uncertain id error).activeIs id
      = (supervised.state.activeIs id).map Active.lose := by
    rw [State.uncertain_activeIs, if_pos rfl]
  have hlocal : Local supervised (supervised.setState (supervised.state.uncertain id error)) id :=
    (Local.refl supervised id).setState fun other hother => by
      rw [State.uncertain_activeIs, if_neg hother]
  have honce : ((supervised.setState (supervised.state.uncertain id error)).trace id).dispatches
      ≤ 1 := h.once
  apply hlocal.own
  · apply Fits.finish _ honce
    intro active hmem
    change active ∈ (supervised.state.uncertain id error).activeIs id at hmem
    rw [hactive] at hmem
    obtain ⟨prior, -, rfl⟩ := Option.map_eq_some_iff.mp hmem
    simp [Active.lose]
  · intro _
    exact ⟨rfl, rfl⟩
  · intro _ hopen hnone
    cases hbegun : start.stage.begun with
    | true =>
      have hone := open_dispatched h hopen hbegun
      change supervised.dispatches id = 0 at hnone
      omega
    | false =>
      obtain ⟨active, hfound, -⟩ := (h.fresh hbegun).active
      change supervised.state.activeIs id = some active at hfound
      rw [hfound] at hactive
      obtain ⟨hlost, hid⟩ := State.activeIs_eq_some.mp hactive
      exact .inr ⟨active.lose, hlost, hid, rfl⟩

theorem own_finish (h : Fits start.stage (supervised.trace id))
    (huncertain : ∀ active ∈ supervised.state.activeIs id, active.phase ≠ .starting)
    (hresolved : start.stage ≠ .finished → Resolved supervised supervised id) :
    Own supervised (supervised.moveStart id start .finished) id start.stage :=
  (Local.refl supervised id).own (Fits.finish huncertain h.once) (fun _ => ⟨rfl, rfl⟩)
    fun _ => hresolved

theorem own_dispatched (h : Fits start.stage (supervised.trace id))
    (hbegun : start.stage.begun = true) :
    Own supervised (supervised.moveStart id start .finished) id start.stage := by
  apply own_finish h (h.begun hbegun)
  intro hopen hnone
  have hone := open_dispatched h hopen hbegun
  omega

theorem snapshot_own (h : Fits start.stage (supervised.trace id)) {prior stage : StartStage}
    (hstage : start.stage = prior) (hfollows : prior.follows stage = true) :
    Own supervised
      (match start.session.snapshot supervised.source with
        | .error error => supervised.loseStart id start error
        | .ok () => supervised.moveStart id start stage) id start.stage := by
  cases start.session.snapshot supervised.source with
  | error error => exact own_lose h error
  | ok => exact own_follow h hstage hfollows

theorem prepareStart_own (h : Fits start.stage (supervised.trace id))
    (hstage : start.stage = .preparing) (answer : Answer) :
    Own supervised (supervised.prepareStart id start answer) id start.stage := by
  unfold prepareStart
  split
  · exact own_follow h hstage rfl
  split
  · exact own_follow h hstage rfl
  · exact own_follow h hstage rfl

theorem acquireStart_own (h : Fits start.stage (supervised.trace id))
    (hstart : supervised.starts id = some start) (hstage : start.stage = .acquiring)
    (answer : Answer) :
    Own supervised (supervised.acquireStart id start answer) id start.stage := by
  unfold acquireStart
  split
  · exact own_follow h hstage rfl
  split
  · exact own_stay h hstart
  · have hfits : Fits (.attaching answer.lease) (supervised.trace id) := by
      rw [hstage] at h
      exact h.follow rfl
    apply ((Local.refl supervised id).grant answer.lease (.acquisition id)).own hfits
    · simp [hstage]
    · simp

variable {operation : Uuid}

theorem attach_fits {state : State} (hattach : supervised.state.attach id operation = some state)
    {stage : StartStage} (h : Fits stage (supervised.trace id)) (hreturns : stage.returns? = none) :
    Fits stage ((supervised.setState state).trace id) := by
  have hactive : state.activeIs id = (supervised.state.activeIs id).map
      fun active => { active with operation := some operation } := by
    rw [State.attach_activeIs hattach, if_pos rfl]
  constructor
  · intro hbegun
    obtain ⟨⟨active, hfound, hphase⟩, huncommanded⟩ := h.fresh hbegun
    change supervised.state.activeIs id = some active at hfound
    rw [hfound] at hactive
    exact ⟨⟨_, hactive, hphase⟩, huncommanded⟩
  · intro hbegun active hmem
    change active ∈ state.activeIs id at hmem
    rw [hactive] at hmem
    obtain ⟨prior, hprior, rfl⟩ := Option.map_eq_some_iff.mp hmem
    exact h.begun hbegun prior hprior
  · exact h.undispatched
  · exact h.sent
  · exact h.once
  · rw [hreturns]
    intro found hfound
    cases hfound

theorem attach_local {state : State} (hattach : supervised.state.attach id operation = some state) :
    Local supervised (supervised.setState state) id :=
  (Local.refl supervised id).setState fun other hother => by
    rw [State.attach_activeIs hattach, if_neg hother]

theorem Local.plain {effect : Effect} (heffect : effect.dispatched? = none) (id : Uuid) :
    ∀ other, other ≠ id → effect.dispatched? ≠ some other := by
  intro other _ hsome
  rw [heffect] at hsome
  cases hsome

theorem trace_note {effect : Effect} (heffect : effect.dispatched? = none) :
    (supervised.note effect).trace id = supervised.trace id := by
  have hne : effect.dispatched? ≠ some id := by
    rw [heffect]
    simp
  unfold Supervised.trace
  rw [Local.dispatches_note supervised hne]
  rfl

theorem attachStart_own (h : Fits start.stage (supervised.trace id))
    (hstage : start.stage = .attaching operation) :
    Own supervised (supervised.attachStart id start operation) id start.stage := by
  unfold attachStart
  cases hattach : supervised.state.attach id operation with
  | none => exact own_follow h hstage rfl
  | some state =>
    have hfits : Fits (.measuring operation) (((supervised.setState state).note
        (.attached operation)).trace id) := by
      rw [trace_note rfl]
      apply attach_fits hattach _ rfl
      rw [hstage] at h
      exact h.follow rfl
    apply ((attach_local hattach).note (Local.plain rfl id)).own hfits
    · simp [hstage]
    · simp

theorem measureStart_own (h : Fits start.stage (supervised.trace id))
    (hstage : start.stage = .measuring operation) (answer : Answer) :
    Own supervised (supervised.measureStart id start operation answer) id start.stage := by
  unfold measureStart
  split
  · exact own_follow h hstage rfl
  · have hfits : Fits (.prepared ⟨operation, answer.geometry⟩)
        ((supervised.note (.measured id answer.geometry)).trace id) := by
      rw [trace_note rfl]
      rw [hstage] at h
      exact h.follow rfl
    apply ((Local.refl supervised id).note (Local.plain rfl id)).own hfits
    · simp [hstage]
    · simp

theorem dispatchStart_own {plan : Plan} (h : Fits start.stage (supervised.trace id))
    (hstage : start.stage = .prepared plan) (answer : Answer) :
    Own supervised (supervised.dispatchStart id start plan answer) id start.stage := by
  have hfresh : Fresh (supervised.trace id) := h.fresh (by rw [hstage]; rfl)
  unfold dispatchStart
  split
  · exact own_follow h hstage rfl
  cases hattach : supervised.state.attach id plan.operation with
  | none =>
    obtain ⟨active, hfound, -⟩ := hfresh.active
    change supervised.state.activeIs id = some active at hfound
    simp [State.attach, hfound] at hattach
  | some state =>
    have hnone : supervised.dispatches id = 0 := h.undispatched (by rw [hstage]; rfl)
    have hone : ((supervised.setState state).note (.dispatched id)).dispatches id = 1 := by
      rw [Local.dispatches_note_self]
      exact congrArg (· + 1) hnone
    have hattached : Fits (.prepared plan) ((supervised.setState state).trace id) := by
      rw [hstage] at h
      exact attach_fits hattach h rfl
    have hfits : Fits (.writing plan) (((supervised.setState state).note
        (.dispatched id)).trace id) := by
      obtain ⟨hactive, huncommanded⟩ := hattached.fresh rfl
      constructor
      · intro _
        exact ⟨hactive, huncommanded⟩
      · intro hbegun
        cases hbegun
      · intro hundispatched
        cases hundispatched
      · intro _
        exact hone
      · exact le_of_eq hone
      · intro found hfound
        cases hfound
    apply ((attach_local hattach).note _).own hfits
    · simp [hstage]
    · simp
    · intro other hother hsome
      exact hother (Option.some.inj hsome).symm

theorem answerStart_own {plan : Plan} (h : Fits start.stage (supervised.trace id))
    (hstart : supervised.starts id = some start) (hstage : start.stage = .writing plan)
    (answer : Answer) :
    Own supervised (supervised.answerStart id start plan answer) id start.stage := by
  unfold answerStart
  split
  · exact own_follow h hstage rfl
  split
  · exact own_follow h hstage rfl
  · exact own_stay h hstart

end

section

variable {supervised : Supervised} {id : Uuid} {start : Start}

theorem replace_local {active changed : Active}
    (hactive : supervised.state.activeIs id = some active) {state : State}
    (hafter : state.active = some changed) (hid : changed.id = active.id) :
    Local supervised (supervised.setState state) id :=
  (Local.refl supervised id).setState fun other hother => by
    rw [State.activeIs_replace hactive changed hafter hid, if_neg hother]

theorem clear_local {active : Active} (hactive : supervised.state.activeIs id = some active)
    {state : State} (hafter : state.active = none) :
    Local supervised (supervised.setState state) id :=
  (Local.refl supervised id).setState fun other hother => by
    rw [State.activeIs_clear hactive hafter, if_neg hother]

theorem own_begins {after : Supervised} (hlocal : Local supervised after id)
    (hopen : start.stage.closing = false) (hdispatches : after.dispatches id = 1)
    {stage : StartStage} (hbegun : stage.begun = true)
    (hactive : ∀ found ∈ after.state.activeIs id, found.phase ≠ .starting) :
    Own supervised (after.moveStart id start stage) id start.stage := by
  have hfits : Fits stage (after.trace id) := by
    constructor
    · intro hfresh
      rw [hbegun] at hfresh
      cases hfresh
    · intro _
      exact hactive
    · intro hundispatched
      cases hbegun.symm.trans (StartStage.begun_of_undispatched hundispatched)
    · intro _
      exact hdispatches
    · exact le_of_eq hdispatches
    · intro operation hreturns
      cases hbegun.symm.trans (StartStage.begun_of_returns hreturns)
  apply hlocal.own hfits
  · intro hclosing
    rw [hopen] at hclosing
    cases hclosing
  · intro _ _ hnone
    omega

variable {plan : Plan}

theorem acknowledgeStart_own {result : Except SourceError Uuid}
    (h : Fits start.stage (supervised.trace id)) (hstage : start.stage = .answered plan result) :
    Own supervised (supervised.acknowledgeStart id start plan result) id start.stage := by
  have hone : supervised.dispatches id = 1 := h.sent (by rw [hstage]; rfl)
  unfold acknowledgeStart
  cases result with
  | error error =>
    dsimp only
    split
    · exact own_lose h error
    · exact own_follow h hstage rfl
  | ok generation =>
    dsimp only
    obtain ⟨active, hfound, hphase⟩ := (h.fresh (by rw [hstage]; rfl)).active
    change supervised.state.activeIs id = some active at hfound
    by_cases huncertain : active.phase = .uncertain
    · have hnone : supervised.state.acknowledge id = none := by
        simp [State.acknowledge, hfound, huncertain]
      rw [hnone]
      apply own_finish h
      · intro found hmem
        cases hfound.symm.trans hmem
        simp [huncertain]
      · intro _ hzero
        omega
    · have hsome : supervised.state.acknowledge id = some { supervised.state with
          active := some { active with phase := .exposing }
          completed := none
          error := none } := by
        simp [State.acknowledge, hfound, huncertain]
      rw [hsome]
      have hlocal : Local supervised (supervised.setState { supervised.state with
          active := some { active with phase := .exposing }
          completed := none
          error := none }) id := replace_local hfound rfl rfl
      apply own_begins (hlocal.note (Local.plain rfl id))
      · rw [hstage]
        rfl
      · rw [Local.dispatches_note _ (by simp [Effect.dispatched?])]
        exact hone
      · rfl
      · intro found hmem
        obtain ⟨hactive, -⟩ := State.activeIs_eq_some.mp hmem
        cases hactive
        simp

theorem waitStart_own (h : Fits start.stage (supervised.trace id))
    (hstage : start.stage = .waiting plan) (answer : Answer) :
    Own supervised (supervised.waitStart id start plan answer) id start.stage := by
  unfold waitStart
  split
  · exact own_lose h _
  split
  · exact own_lose h _
  · exact snapshot_own h hstage rfl

theorem pauseStart_own (h : Fits start.stage (supervised.trace id))
    (hstage : start.stage = .pausing plan) :
    Own supervised (supervised.pauseStart id start plan) id start.stage := by
  unfold pauseStart
  split
  · exact own_dispatched h (by rw [hstage]; rfl)
  · exact own_follow h hstage rfl
  · exact own_follow h hstage rfl

theorem readStart_own (h : Fits start.stage (supervised.trace id))
    (hstage : start.stage = .reading plan) (answer : Answer) :
    Own supervised (supervised.readStart id start plan answer) id start.stage := by
  unfold readStart
  split
  · exact own_lose h _
  split
  · exact own_lose h _
  split
  · exact own_lose h _
  split
  · exact own_lose h _
  · exact own_follow h hstage rfl

theorem observeStart_own {ready : Bool} {cameraState : Int}
    (h : Fits start.stage (supervised.trace id))
    (hstage : start.stage = .sampled plan ready cameraState) :
    Own supervised (supervised.observeStart id start plan ready cameraState) id start.stage := by
  have hone : supervised.dispatches id = 1 := h.sent (by rw [hstage]; rfl)
  have hbegun : Begun (supervised.trace id) := h.begun (by rw [hstage]; rfl)
  have hopen : start.stage.closing = false := by rw [hstage]; rfl
  unfold observeStart
  cases hobserved : supervised.state.observe id ready cameraState with
  | none => exact own_dispatched h (by rw [hstage]; rfl)
  | some observed =>
    obtain ⟨state, downloaded⟩ := observed
    obtain ⟨active, hfound, hafter⟩ := Option.bind_eq_some_iff.mp hobserved
    -- the entry keeps its phase or takes one of an exposure
    have hentry : Local supervised (supervised.setState state) id
        ∧ ∀ found ∈ state.activeIs id, found.phase ≠ .starting := by
      split at hafter
      · cases hafter
      split at hafter
      · split at hafter
        · cases hafter
          refine ⟨replace_local hfound rfl rfl, fun found hmem => ?_⟩
          obtain ⟨hactive, -⟩ := State.activeIs_eq_some.mp hmem
          cases hactive
          simp
        · cases hafter
          refine ⟨replace_local hfound rfl rfl, fun found hmem => ?_⟩
          obtain ⟨hactive, -⟩ := State.activeIs_eq_some.mp hmem
          cases hactive
          dsimp only
          split
          · simp
          · simp
      · cases hafter
        exact ⟨Local.refl supervised id, hbegun⟩
    cases downloaded with
    | true => exact own_begins hentry.1 hopen hone rfl hentry.2
    | false => exact own_begins hentry.1 hopen hone rfl hentry.2

theorem downloadStart_own (h : Fits start.stage (supervised.trace id))
    (hstage : start.stage = .downloading plan) (answer : Answer) :
    Own supervised (supervised.downloadStart id start plan answer) id start.stage := by
  unfold downloadStart
  split
  · exact own_lose h _
  split
  · exact own_lose h _
  split
  · exact snapshot_own h hstage rfl
  · exact own_lose h _

theorem publishStart_own (h : Fits start.stage (supervised.trace id))
    (hbegun : start.stage.begun = true) (hopen : start.stage.closing = false)
    (hdownloads : supervised.state.downloads id = true) (image : CapturedImage) :
    Own supervised (supervised.publishStart id start image) id start.stage := by
  obtain ⟨active, hfound⟩ : ∃ active, supervised.state.activeIs id = some active := by
    apply Option.isSome_iff_exists.mp
    unfold State.downloads at hdownloads
    cases hfound : supervised.state.activeIs id with
    | none => simp [hfound] at hdownloads
    | some active => rfl
  have hunfinished : start.stage ≠ .finished := by
    intro hended
    rw [hended] at hopen
    cases hopen
  have hone := open_dispatched h hunfinished hbegun
  have hlocal : Local supervised (supervised.setState (supervised.state.publish image)) id :=
    clear_local hfound rfl
  apply own_begins (hlocal.note (Local.plain rfl id)) hopen
  · rw [Local.dispatches_note _ (by simp [Effect.dispatched?])]
    exact hone
  · rfl
  · intro found hmem
    cases hmem

theorem decideStart_own {image : CapturedImage} (h : Fits start.stage (supervised.trace id))
    (hstage : start.stage = .deciding plan image) :
    Own supervised (supervised.decideStart id start plan image) id start.stage := by
  have hbegun : start.stage.begun = true := by rw [hstage]; rfl
  have hopen : start.stage.closing = false := by rw [hstage]; rfl
  unfold decideStart
  split
  next hretained =>
    simp only [Bool.and_eq_true] at hretained
    exact publishStart_own h hbegun hopen hretained.1 image
  · apply own_begins ((Local.refl supervised id).note (Local.plain rfl id)) hopen
    · rw [Local.dispatches_note _ (by simp [Effect.dispatched?])]
      exact h.sent (by rw [hstage]; rfl)
    · rfl
    · exact h.begun hbegun

theorem releaseStart_own {image : CapturedImage} (h : Fits start.stage (supervised.trace id))
    (hstage : start.stage = .releasing plan image) (answer : Answer) :
    Own supervised (supervised.releaseStart id start plan image answer) id start.stage := by
  have hbegun : start.stage.begun = true := by rw [hstage]; rfl
  have hopen : start.stage.closing = false := by rw [hstage]; rfl
  have hlocal : Local supervised (supervised.note (.released plan.operation)) id :=
    (Local.refl supervised id).note (Local.plain rfl id)
  have hone : (supervised.note (.released plan.operation)).dispatches id = 1 := by
    rw [Local.dispatches_note _ (by simp [Effect.dispatched?])]
    exact h.sent (by rw [hstage]; rfl)
  unfold releaseStart
  split
  · exact own_lose h _
  split
  · exact own_lose h _
  dsimp only
  split
  next error _ =>
    have hlost : Local supervised ((supervised.note (.released plan.operation)).setState
        ((supervised.note (.released plan.operation)).state.uncertain id error)) id :=
      hlocal.setState fun other hother => by
        rw [State.uncertain_activeIs, if_neg hother]
    apply own_begins hlost hopen hone rfl
    intro found hmem
    change found ∈ (supervised.state.uncertain id error).activeIs id at hmem
    rw [State.uncertain_activeIs, if_pos rfl] at hmem
    obtain ⟨prior, -, rfl⟩ := Option.map_eq_some_iff.mp hmem
    simp [Active.lose]
  · exact own_begins hlocal hopen hone rfl (h.begun hbegun)

theorem finishStart_own {image : CapturedImage} (h : Fits start.stage (supervised.trace id))
    (hstage : start.stage = .publishing plan image) :
    Own supervised (supervised.finishStart id start image) id start.stage := by
  have hbegun : start.stage.begun = true := by rw [hstage]; rfl
  unfold finishStart
  split
  next hdownloads => exact publishStart_own h hbegun (by rw [hstage]; rfl) hdownloads image
  · exact own_dispatched h hbegun

end

section

variable {supervised : Supervised} {id : Uuid} {start : Start}

theorem own_rejected {after : Supervised} (h : Fits start.stage (supervised.trace id))
    (hlocal : Local supervised after id) (hactive : after.state.activeIs id = none)
    (hdispatches : after.dispatches id = supervised.dispatches id)
    (hreleased : ∀ active ∈ supervised.state.activeIs id, ∀ operation ∈ active.operation,
      supervised.state.guideRetains operation = true
        ∨ .released operation ∈ after.log.drop supervised.log.length) :
    Own supervised (after.moveStart id start .finished) id start.stage := by
  have honce : (after.trace id).dispatches ≤ 1 := by
    change after.dispatches id ≤ 1
    rw [hdispatches]
    exact h.once
  apply hlocal.own
  · apply Fits.finish _ honce
    intro active hmem
    change active ∈ after.state.activeIs id at hmem
    rw [hactive] at hmem
    cases hmem
  · intro _
    exact ⟨rfl, hdispatches⟩
  · intro _ _ _
    exact .inl ⟨hactive, hreleased⟩

theorem activeIs_removed {state : State} (hactive : state.active = none) (id : Uuid) :
    state.activeIs id = none := by
  unfold State.activeIs
  rw [hactive]
  rfl

theorem rejectStart_own {error : Option SourceError} (h : Fits start.stage (supervised.trace id))
    (hstage : start.stage = .rejecting error) :
    Own supervised (supervised.rejectStart id start error) id start.stage := by
  have hfresh : Fresh (supervised.trace id) := h.fresh (by rw [hstage]; rfl)
  obtain ⟨active, hfound, -⟩ := hfresh.active
  change supervised.state.activeIs id = some active at hfound
  have hsame : ∀ found ∈ supervised.state.activeIs id, found = active := by
    intro found hmem
    rw [hfound] at hmem
    exact (Option.some.inj hmem).symm
  have hcleared : Local supervised (supervised.setState { supervised.state with
      active := none
      error := error }) id := clear_local hfound rfl
  unfold rejectStart State.endRejected
  rw [hfound]
  dsimp only
  cases hoperation : active.operation with
  | none =>
    dsimp only
    apply own_rejected h hcleared (activeIs_removed rfl id) rfl
    intro found hmem operation hheld
    rw [hsame found hmem, hoperation] at hheld
    cases hheld
  | some operation =>
    dsimp only
    by_cases hretains : supervised.state.guideRetains operation = true
    · rw [if_pos hretains]
      apply own_rejected h hcleared (activeIs_removed rfl id) rfl
      intro found hmem held hheld
      rw [hsame found hmem, hoperation] at hheld
      cases hheld
      exact .inl hretains
    · rw [if_neg hretains]
      have hlocal : Local supervised ((supervised.setState supervised.state).note
          (.release operation (.acquisition id))) id :=
        (Local.refl supervised id).note (Local.plain rfl id)
      have htrace : ((supervised.setState supervised.state).note
          (.release operation (.acquisition id))).trace id = supervised.trace id := trace_note rfl
      have hfits : Fits (.returning operation error) (((supervised.setState
          supervised.state).note (.release operation (.acquisition id))).trace id) := by
        rw [htrace]
        constructor
        · intro _
          exact hfresh
        · intro hbegun
          cases hbegun
        · intro hundispatched
          cases hundispatched
        · intro hsent
          cases hsent
        · exact h.once
        · intro held hreturns found hmem
          cases hreturns
          rw [hsame found hmem]
          exact hoperation
      apply hlocal.own hfits
      · intro _
        exact ⟨rfl, congrArg Trace.dispatches htrace⟩
      · simp

theorem returnStart_own {operation : Uuid} {error : Option SourceError}
    (h : Fits start.stage (supervised.trace id)) (hstage : start.stage = .returning operation error)
    (answer : Answer) :
    Own supervised (supervised.returnStart id start operation error answer) id start.stage := by
  have hreturns : ∀ active ∈ supervised.state.activeIs id, active.operation = some operation :=
    h.returning operation (by rw [hstage]; rfl)
  obtain ⟨active, hfound, -⟩ := (h.fresh (by rw [hstage]; rfl)).active
  change supervised.state.activeIs id = some active at hfound
  have hcleared : (supervised.state.clearRejected id error).active = none := by
    unfold State.clearRejected
    rw [hfound]
  unfold returnStart
  split
  · exact own_lose h _
  · have hlocal : Local supervised (supervised.setState
        (supervised.state.clearRejected id error)) id := clear_local hfound hcleared
    apply own_rejected h (hlocal.note (Local.plain rfl id)) (activeIs_removed hcleared id)
    · exact Local.dispatches_note _ (by simp [Effect.dispatched?])
    · intro found hmem held hheld
      rw [hreturns found hmem] at hheld
      cases hheld
      right
      change _ ∈ (supervised.log ++ [Effect.released operation]).drop supervised.log.length
      rw [List.drop_left]
      exact List.mem_singleton_self _

end

theorem runStart_own {supervised : Supervised} {id : Uuid} {start : Start}
    (h : Fits start.stage (supervised.trace id)) (hstart : supervised.starts id = some start)
    (answer : Answer) : Own supervised (supervised.runStart id start answer) id start.stage := by
  unfold runStart
  split
  next hstage => exact prepareStart_own h hstage answer
  next hstage => exact acquireStart_own h hstart hstage answer
  next hstage => exact attachStart_own h hstage
  next hstage => exact measureStart_own h hstage answer
  next hstage => exact dispatchStart_own h hstage answer
  next hstage => exact answerStart_own h hstart hstage answer
  next hstage => exact acknowledgeStart_own h hstage
  next hstage => exact waitStart_own h hstage answer
  next hstage => exact pauseStart_own h hstage
  next hstage => exact readStart_own h hstage answer
  next hstage => exact observeStart_own h hstage
  next hstage => exact downloadStart_own h hstage answer
  next hstage => exact decideStart_own h hstage
  next hstage => exact releaseStart_own h hstage answer
  next hstage => exact finishStart_own h hstage
  next hstage => exact rejectStart_own h hstage
  next hstage => exact returnStart_own h hstage answer
  next => exact own_stay h hstart

theorem dropStart_own {supervised : Supervised} {id : Uuid} {start : Start}
    (h : Fits start.stage (supervised.trace id)) (hstart : supervised.starts id = some start)
    (runtime : Bool) : Own supervised (supervised.dropStart id start runtime) id start.stage := by
  have hdropped : ∀ {prior : StartStage}, start.stage = prior →
      prior.follows (.rejecting none) = true →
      Own supervised (if runtime then supervised.moveStart id start (.rejecting none)
        else supervised.loseStart id start .uncertain) id start.stage := by
    intro prior hstage hfollows
    split
    · exact own_follow h hstage hfollows
    · exact own_lose h _
  unfold dropStart
  split
  · split
    next => exact own_stay h hstart
    next hstage => exact hdropped hstage rfl
    next hstage => exact hdropped hstage rfl
    next hstage => exact hdropped hstage rfl
    next hstage => exact hdropped hstage rfl
    next hstage => exact hdropped hstage rfl
    next => exact own_lose h _
  · exact own_stay h hstart

end Supervised

end Regain.Hub.CameraSupervisor
