import Regain.Alpaca.Camera.Tasks

/-!
# The session of the Alpaca camera

The changes of the connection and the shutdowns alone move the session, under the lock of the
changes.
-/

namespace Regain.Alpaca.Camera

/-- The stages between the status of a session and its place in the engine. -/
def ChangeStage.apart : ChangeStage → Bool
  | .store _ => true
  | .close _ => true
  | .clear => true
  | _ => false

def ShutdownStage.apart : ShutdownStage → Bool
  | .close _ => true
  | .clear => true
  | _ => false

namespace Device

variable {device next : Device}

def Settled (device : Device) : Prop :=
  ∀ session, device.state.status = some session → device.engine = some session

def ChangeFits (device : Device) : ChangeStage → Prop
  | .leaveLock => device.cancelled device.starts = true
  | .leaveLook => device.cancelled device.starts = true
  | .thermal => device.cancelled device.starts = true
  | .take => device.cancelled device.starts = true
  | .close session => device.cancelled device.starts = true
      ∧ ∀ session', device.state.status = some session' → session' = session
  | .clear => device.cancelled device.starts = true
      ∧ ∀ session, device.state.status = some session → device.gone session = true
  | .connect => device.state.status = none
  | .publish _ => device.state.status = none
  | .store session => device.state.status = some session
  | _ => True

def ShutdownFits (device : Device) : ShutdownStage → Prop
  | .close session => device.engine = none
      ∧ ∀ session', device.state.status = some session' → session' = session
  | .clear => device.engine = none
      ∧ ∀ session, device.state.status = some session → device.gone session = true
  | _ => True

structure Joined (device : Device) : Prop where
  change : ∀ change, device.change = some change → device.ChangeFits change.stage
  shutdown : ∀ call stage, device.shutdowns call = some stage → device.ShutdownFits stage
  settled : (∀ change, device.change = some change → change.stage.apart = false) →
    (∀ call stage, device.shutdowns call = some stage → stage.apart = false) → device.Settled

variable {call : Nat} {stage : ShutdownStage} {change : ConnectionChange}

theorem Locked.noShutdown (h : Locked device) (hchange : device.change = some change)
    (hgated : change.stage.gated = true) (hstage : device.shutdowns call = some stage) :
    stage = .gate := by
  have hown := h.connection .change ⟨change, hchange, hgated⟩
  by_contra hnot
  have hheld : stage.gated = true := by cases stage <;> first | rfl | exact absurd rfl hnot
  have hother := h.connection (.shutdown call) ⟨stage, hstage, hheld⟩
  rw [hown] at hother
  cases hother

structure ChangeTurn (device next : Device) (change : ConnectionChange) (stage : ChangeStage) :
    Prop where
  change : next.change = some { change with stage := stage }
  shutdowns : next.shutdowns = device.shutdowns
  fits : next.ChangeFits stage
  settled : stage.apart = false → next.Settled

theorem changeTurn (hnamed : device.state.cancel = device.starts)
    (hchange : device.change = some change) (hfits : device.ChangeFits change.stage)
    (hsettled : change.stage.apart = false → device.Settled) (hstage : change.stage ≠ .done)
    (ok : Bool) : ∃ stage, ChangeTurn device (device.changeStep change ok) change stage := by
  obtain ⟨client, on, wheel, stage⟩ := change
  cases stage with
  | gate =>
    simp only [changeStep]
    split
    · split
      · exact ⟨.enter, rfl, rfl, trivial, fun _ => hsettled rfl⟩
      · exact ⟨.leave, rfl, rfl, trivial, fun _ => hsettled rfl⟩
    · exact ⟨.gate, hchange, rfl, trivial, fun _ => hsettled rfl⟩
  | leave =>
    simp only [changeStep, leave]
    split
    · split
      · exact ⟨.release, rfl, rfl, trivial, fun _ => hsettled rfl⟩
      · refine ⟨.leaveLock, rfl, rfl, ?_, fun _ => hsettled rfl⟩
        simp [ChangeFits, changeTo, cancelToken, setState, hnamed]
    · exact ⟨.release, rfl, rfl, trivial, fun _ => hsettled rfl⟩
  | leaveLock =>
    simp only [changeStep, take]
    split
    · exact ⟨.leaveLook, rfl, rfl, hfits, fun _ => hsettled rfl⟩
    · exact ⟨.leaveLock, hchange, rfl, hfits, fun _ => hsettled rfl⟩
  | leaveLook =>
    simp only [changeStep]
    split
    · exact ⟨.thermal, rfl, rfl, hfits, fun _ => hsettled rfl⟩
    · exact ⟨.take, rfl, rfl, hfits, fun _ => hsettled rfl⟩
  | thermal => exact ⟨.release, rfl, rfl, trivial, fun _ => hsettled rfl⟩
  | take =>
    simp only [changeStep]
    cases hengine : device.engine with
    | some session =>
      refine ⟨.close session, rfl, rfl, ⟨hfits, ?_⟩, fun hapart => by cases hapart⟩
      intro session' hstatus
      have hsame := hsettled rfl session' hstatus
      rw [hengine] at hsame
      exact (Option.some.inj hsame).symm
    | none =>
      refine ⟨.clear, rfl, rfl, ⟨hfits, ?_⟩, fun hapart => by cases hapart⟩
      intro session hstatus
      have hsame := hsettled rfl session hstatus
      rw [hengine] at hsame
      cases hsame
  | close session =>
    refine ⟨.clear, rfl, rfl, ⟨hfits.1, ?_⟩, fun hapart => by cases hapart⟩
    intro session' hstatus
    obtain rfl := hfits.2 session' hstatus
    simp [changeStep, changeTo, closeSession]
  | clear =>
    refine ⟨.release, rfl, rfl, trivial, ?_⟩
    intro _ session hstatus
    cases hstatus
  | enter =>
    simp only [changeStep]
    split
    · exact ⟨.wheelLock, rfl, rfl, trivial, fun _ => hsettled rfl⟩
    · exact ⟨.first, rfl, rfl, trivial, fun _ => hsettled rfl⟩
  | wheelLock =>
    simp only [changeStep, take]
    split
    · exact ⟨.wheelStatus, rfl, rfl, trivial, fun _ => hsettled rfl⟩
    · exact ⟨.wheelLock, hchange, rfl, trivial, fun _ => hsettled rfl⟩
  | wheelStatus =>
    simp only [changeStep, requireSession]
    split
    · exact ⟨.first, rfl, rfl, trivial, fun _ => hsettled rfl⟩
    · exact ⟨.release, rfl, rfl, trivial, fun _ => hsettled rfl⟩
  | first =>
    simp only [changeStep]
    split
    · exact ⟨.controlsLock, rfl, rfl, trivial, fun _ => hsettled rfl⟩
    · exact ⟨.join, rfl, rfl, trivial, fun _ => hsettled rfl⟩
  | controlsLock =>
    simp only [changeStep, take]
    split
    · exact ⟨.controls, rfl, rfl, trivial, fun _ => hsettled rfl⟩
    · exact ⟨.controlsLock, hchange, rfl, trivial, fun _ => hsettled rfl⟩
  | controls =>
    simp only [changeStep, requireSession]
    split
    · exact ⟨.join, rfl, rfl, trivial, fun _ => hsettled rfl⟩
    · exact ⟨.release, rfl, rfl, trivial, fun _ => hsettled rfl⟩
  | join =>
    simp only [changeStep]
    split
    · exact ⟨.release, rfl, rfl, trivial, fun _ => hsettled rfl⟩
    · rename_i hnone
      have hstatus : device.state.status = none := by simpa using hnone
      exact ⟨.connect, rfl, rfl, hstatus, fun _ => hsettled rfl⟩
  | connect =>
    simp only [changeStep]
    split
    · exact ⟨.publish device.sessions, rfl, rfl, hfits, fun _ => hsettled rfl⟩
    · exact ⟨.release, rfl, rfl, trivial, fun _ => hsettled rfl⟩
  | publish session => exact ⟨.store session, rfl, rfl, rfl, fun hapart => by cases hapart⟩
  | store session =>
    simp only [changeStep]
    split
    · refine ⟨.release, rfl, rfl, trivial, ?_⟩
      intro _ session' hstatus
      exact hfits.symm.trans hstatus
    · exact ⟨.store session, hchange, rfl, hfits, fun hapart => by cases hapart⟩
  | release => exact ⟨.done, rfl, rfl, trivial, fun _ => hsettled rfl⟩
  | done => exact absurd rfl hstage

theorem Joined.kept (h : Joined device) (hchange : next.change = device.change)
    (hshutdowns : next.shutdowns = device.shutdowns)
    (hsession : next.state.status = device.state.status ∧ next.engine = device.engine
      ∧ next.gone = device.gone) (hcancelled : ∀ change, device.change = some change →
      device.cancelled device.starts = true → next.cancelled next.starts = true) : Joined next := by
  obtain ⟨hstatus, hengine, hgone⟩ := hsession
  constructor
  · intro change hnext
    rw [hchange] at hnext
    have hfits := h.change change hnext
    have hkept := hcancelled change hnext
    cases hstage : change.stage <;> simp_all [ChangeFits]
  · intro call stage hnext
    rw [hshutdowns] at hnext
    have hfits := h.shutdown call stage hnext
    cases stage <;> simp_all [ShutdownFits]
  · intro hnext hnext'
    rw [hchange] at hnext
    rw [hshutdowns] at hnext'
    have hsettled := h.settled hnext hnext'
    unfold Settled
    rw [hstatus, hengine]
    exact hsettled

theorem joined_change (h : Joined device) (htasked : Tasked device) (hlocked : Locked device)
    (hchange : device.change = some change) (ok : Bool) : Joined (device.changeStep change ok) := by
  by_cases hgated : change.stage.gated = true
  · -- no shutdown is past its gate
    have hgate : ∀ call stage, device.shutdowns call = some stage → stage = .gate :=
      fun call stage hstage => hlocked.noShutdown hchange hgated hstage
    have hsettled : change.stage.apart = false → device.Settled := by
      intro hapart
      refine h.settled ?_ ?_
      · intro change' hsame
        rw [hchange] at hsame
        cases hsame
        exact hapart
      · intro call stage hstage
        rw [hgate call stage hstage]
        rfl
    have hdone : change.stage ≠ .done := by
      intro hdone
      rw [hdone] at hgated
      cases hgated
    obtain ⟨stage, hturn⟩ := changeTurn htasked.named hchange (h.change change hchange) hsettled
      hdone ok
    constructor
    · intro change' hnext
      rw [hturn.change] at hnext
      cases hnext
      exact hturn.fits
    · intro call stage' hstage
      rw [hturn.shutdowns] at hstage
      rw [hgate call stage' hstage]
      trivial
    · intro hapart _
      exact hturn.settled (hapart _ hturn.change)
  · obtain ⟨client, on, wheel, stage⟩ := change
    have hnot : stage.apart = false := by
      cases stage <;> first | rfl | exact absurd rfl hgated
    have hsettled : (∀ call stage, device.shutdowns call = some stage → stage.apart = false) →
        device.Settled := by
      intro hshutdowns
      refine h.settled ?_ hshutdowns
      intro change hsame
      rw [hchange] at hsame
      cases hsame
      exact hnot
    cases stage with
    | gate =>
      simp only [changeStep]
      split
      · refine ⟨?_, h.shutdown, fun _ => hsettled⟩
        intro change hnext
        cases hnext
        cases on <;> trivial
      · exact h
    | done =>
      refine ⟨?_, h.shutdown, fun _ => hsettled⟩
      intro change hnext
      cases hnext
    | _ => exact absurd rfl hgated

theorem Locked.noChange (h : Locked device) (hshutdown : device.shutdowns call = some stage)
    (hgated : stage.gated = true) (hchange : device.change = some change) :
    change.stage.gated = false := by
  by_contra hnot
  have hheld : change.stage.gated = true := by simpa using hnot
  have hstage := h.noShutdown hchange hheld hshutdown
  rw [hstage] at hgated
  cases hgated

theorem Locked.oneShutdown (h : Locked device) {other : Nat} {stage' : ShutdownStage}
    (hshutdown : device.shutdowns call = some stage) (hgated : stage.gated = true)
    (hother : device.shutdowns other = some stage') (hne : other ≠ call) : stage' = .gate := by
  by_contra hnot
  have hheld : stage'.gated = true := by cases stage' <;> first | rfl | exact absurd rfl hnot
  have hown := h.connection (.shutdown call) ⟨stage, hshutdown, hgated⟩
  have hboth := h.connection (.shutdown other) ⟨stage', hother, hheld⟩
  rw [hown] at hboth
  exact hne (Owner.shutdown.inj (Option.some.inj hboth)).symm

structure ShutdownTurn (device next : Device) (call : Nat) (stage : Option ShutdownStage) :
    Prop where
  shutdowns : next.shutdowns = Function.update device.shutdowns call stage
  change : next.change = device.change
  fits : ∀ stage', stage = some stage' → next.ShutdownFits stage'
  settled : (∀ stage', stage = some stage' → stage'.apart = false) → next.Settled

theorem shutdownTurn (hfits : device.ShutdownFits stage)
    (hsettled : stage.apart = false → device.Settled)
    (hshutdown : device.shutdowns call = some stage) (hgated : stage.gated = true) :
    ∃ stage', ShutdownTurn device (device.shutdownStep call stage) call stage' := by
  cases stage with
  | gate => cases hgated
  | lock =>
    simp only [shutdownStep, take]
    split
    · refine ⟨some .take, rfl, rfl, ?_, fun _ => hsettled rfl⟩
      intro stage' hstage
      cases hstage
      trivial
    · refine ⟨some .lock, ?_, rfl, ?_, fun _ => hsettled rfl⟩
      · rw [← hshutdown, Function.update_eq_self]
      · intro stage' hstage
        cases hstage
        trivial
  | take =>
    simp only [shutdownStep]
    cases hengine : device.engine with
    | some session =>
      refine ⟨some (.close session), rfl, rfl, ?_, fun hapart => ?_⟩
      · intro stage' hstage
        cases hstage
        refine ⟨rfl, ?_⟩
        intro session' hstatus
        have hsame := hsettled rfl session' hstatus
        rw [hengine] at hsame
        exact (Option.some.inj hsame).symm
      · cases hapart _ rfl
    | none =>
      refine ⟨some .clear, rfl, rfl, ?_, fun hapart => ?_⟩
      · intro stage' hstage
        cases hstage
        refine ⟨hengine, ?_⟩
        intro session hstatus
        have hsame := hsettled rfl session hstatus
        rw [hengine] at hsame
        cases hsame
      · cases hapart _ rfl
  | close session =>
    refine ⟨some .clear, rfl, rfl, ?_, fun hapart => ?_⟩
    · intro stage' hstage
      cases hstage
      refine ⟨hfits.1, ?_⟩
      intro session' hstatus
      obtain rfl := hfits.2 session' hstatus
      simp [shutdownStep, shutdownTo, closeSession]
    · cases hapart _ rfl
  | clear =>
    refine ⟨none, rfl, rfl, ?_, ?_⟩
    · intro stage' hstage
      cases hstage
    · intro _ session hstatus
      cases hstatus

theorem joined_shutdown (h : Joined device) (hlocked : Locked device)
    (hshutdown : device.shutdowns call = some stage) : Joined (device.shutdownStep call stage) := by
  by_cases hgated : stage.gated = true
  · have hungated : ∀ change, device.change = some change → change.stage.gated = false :=
      fun change hchange => hlocked.noChange hshutdown hgated hchange
    have hothers : ∀ other stage', other ≠ call → device.shutdowns other = some stage' →
        stage' = .gate :=
      fun other stage' hne hother => hlocked.oneShutdown hshutdown hgated hother hne
    have hsettled : stage.apart = false → device.Settled := by
      intro hapart
      refine h.settled ?_ ?_
      · intro change hchange
        have hnot := hungated change hchange
        cases hstage : change.stage <;> simp_all [ChangeStage.gated, ChangeStage.apart]
      · intro other stage' hother
        by_cases hsame : other = call
        · subst hsame
          rw [hshutdown] at hother
          cases hother
          exact hapart
        · rw [hothers other stage' hsame hother]
          rfl
    obtain ⟨stage', hturn⟩ := shutdownTurn (h.shutdown call stage hshutdown) hsettled hshutdown
      hgated
    constructor
    · intro change hchange
      rw [hturn.change] at hchange
      have hnot := hungated change hchange
      cases hstage : change.stage <;> simp_all [ChangeStage.gated, ChangeFits]
    · intro other stage'' hother
      rw [hturn.shutdowns] at hother
      by_cases hsame : other = call
      · subst hsame
        rw [Function.update_self] at hother
        exact hturn.fits stage'' hother
      · rw [Function.update_of_ne hsame] at hother
        rw [hothers other stage'' hsame hother]
        trivial
    · intro _ hapart
      refine hturn.settled ?_
      intro stage'' hstage
      refine hapart call stage'' ?_
      rw [hturn.shutdowns, Function.update_self, hstage]
  · cases stage with
    | gate =>
      simp only [shutdownStep]
      split
      · refine ⟨h.change, ?_, ?_⟩
        · intro other stage' hother
          by_cases hsame : other = call
          · subst hsame
            simp only [shutdownTo, Function.update_self] at hother
            cases hother
            trivial
          · simp only [shutdownTo, Function.update_of_ne hsame] at hother
            exact h.shutdown other stage' hother
        · intro hchange hapart
          refine h.settled hchange ?_
          intro other stage' hother
          by_cases hsame : other = call
          · subst hsame
            rw [hshutdown] at hother
            cases hother
            rfl
          · refine hapart other stage' ?_
            simpa [shutdownTo, Function.update_of_ne hsame] using hother
      · exact h
    | _ => exact absurd rfl hgated

end Device

end Regain.Alpaca.Camera
