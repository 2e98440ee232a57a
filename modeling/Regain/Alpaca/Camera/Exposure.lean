import Regain.Alpaca.Camera.Session

/-!
# What the last start can rely on
-/

namespace Regain.Alpaca.Camera

open Lib

namespace Device

variable {device : Device}

def Over (device : Device) : Prop :=
  device.state.status = none ∧ device.state.closed = true ∧ device.state.changing = false

structure Exposed (device : Device) : Prop where
  accepted : ∀ exposure stage, device.captures exposure = some stage →
    (device.acceptedOn exposure).isSome = true
  unclosed : ∀ session, device.acceptedOn device.starts = some session →
    device.gone session = false → device.state.status = some session
  fresh : (device.acceptedOn device.starts).isSome = true →
    device.cancelled device.starts = false →
      (device.state.closed = false ∧ device.state.status = device.acceptedOn device.starts
        ∧ device.engine = device.acceptedOn device.starts)
      ∨ (device.state.closed = true ∧ device.state.changing = false
        ∧ (device.engine = device.acceptedOn device.starts ∨ device.engine = none))
  reports : ∀ exposure session frame, device.captures exposure = some (.report session frame) →
    device.cancelled exposure = false → session = device.acceptedOn exposure
      ∨ session = none ∧ frame = false ∧ device.Over
  frame : ∀ answer, device.state.frame = some answer → answer.exposure = device.starts
    ∧ answer.session = device.acceptedOn device.starts ∧ device.aborted device.starts = false
    ∧ device.state.busy = false
  error : ∀ answer, device.state.error = some answer → answer.exposure = device.starts
    ∧ (answer.session = device.acceptedOn device.starts ∨ device.Over)
    ∧ device.aborted device.starts = false ∧ device.state.busy = false
  busy : ∀ stage session, device.captures device.starts = some stage → stage.reported = false →
    device.acceptedOn device.starts = some session → device.gone session = false →
      device.state.busy = true

theorem Exposed.cancelToken (h : Exposed device) (hnamed : device.state.cancel = device.starts) :
    Exposed device.cancelToken := by
  refine { h with fresh := ?_, reports := ?_ }
  · intro _ hcancelled
    simp [Device.cancelToken, hnamed] at hcancelled
  · intro exposure session frame hcapture hcancelled
    refine h.reports exposure session frame hcapture ?_
    by_contra hbefore
    have hafter := device.cancelled_mono (by simpa using hbefore)
    rw [hcancelled] at hafter
    cases hafter

theorem closeSession_open {session other : Nat}
    (hgone : (device.closeSession session).gone other = false) : device.gone other = false := by
  by_cases hsame : other = session
  · simp [closeSession, hsame] at hgone
  · simpa [closeSession, Function.update_of_ne hsame] using hgone

theorem Exposed.closeSession (h : Exposed device) (session : Nat) :
    Exposed (device.closeSession session) := by
  refine { h with unclosed := ?_, busy := ?_ }
  · intro other haccepted hgone
    exact h.unclosed other haccepted (closeSession_open hgone)
  · intro stage other hcapture hreported haccepted hgone
    exact h.busy stage other hcapture hreported haccepted (closeSession_open hgone)

theorem Over.not_changing (h : device.Over) : device.state.changing = false :=
  h.2.2

theorem exposed_change (h : Exposed device) (htasked : Tasked device) {change : ConnectionChange}
    (hchange : device.change = some change) (hfits : device.ChangeFits change.stage) (ok : Bool) :
    Exposed (device.changeStep change ok) := by
  have hchanging := htasked.changing change hchange
  obtain ⟨client, on, wheel, stage⟩ := change
  cases stage with
  | leave =>
    simp only [changeStep, leave]
    split
    · split
      · exact { h with }
      · have hcancelled := h.cancelToken htasked.named
        exact { hcancelled with }
    · exact { h with }
  | take =>
    have hcancelled : device.cancelled device.starts = true := hfits
    simp only [changeStep]
    split
    · refine { h with fresh := ?_ }
      intro _ hnot
      exact absurd (hcancelled.symm.trans hnot) (by decide)
    · exact { h with }
  | close session =>
    have hclosed := h.closeSession session
    exact { hclosed with }
  | clear =>
    have hcancelled : device.cancelled device.starts = true := hfits.1
    have hgone : ∀ session, device.acceptedOn device.starts = some session →
        device.gone session = false → False := by
      intro session haccepted hopen
      have hgone := hfits.2 session (h.unclosed session haccepted hopen)
      exact absurd (hgone.symm.trans hopen) (by decide)
    refine ⟨h.accepted, ?_, ?_, ?_, ?_, ?_, ?_⟩
    · intro session haccepted hopen
      exact (hgone session haccepted hopen).elim
    · intro _ hnot
      exact absurd (hcancelled.symm.trans hnot) (by decide)
    · intro exposure session frame hcapture hnot
      rcases h.reports exposure session frame hcapture hnot with hsame | ⟨_, _, hover⟩
      · exact .inl hsame
      · exact absurd (hchanging.symm.trans hover.not_changing) (by decide)
    · intro answer hnone
      cases hnone
    · intro answer hnone
      cases hnone
    · intro stage session _ _ haccepted hopen
      exact (hgone session haccepted hopen).elim
  | publish session =>
    have hstatus : device.state.status = none := hfits
    refine ⟨h.accepted, ?_, ?_, ?_, ?_, ?_, h.busy⟩
    · intro session' haccepted hopen
      have hsome := h.unclosed session' haccepted hopen
      rw [hstatus] at hsome
      cases hsome
    · intro hsome hcancelled
      rcases h.fresh hsome hcancelled with ⟨_, hsame, _⟩ | ⟨_, hnot, _⟩
      · have hnone : (device.acceptedOn device.starts).isSome = true := hsome
        rw [← hsame, hstatus] at hnone
        cases hnone
      · exact absurd (hchanging.symm.trans hnot) (by decide)
    · intro exposure session' frame hcapture hnot
      rcases h.reports exposure session' frame hcapture hnot with hsame | ⟨_, _, hover⟩
      · exact .inl hsame
      · exact absurd (hchanging.symm.trans hover.not_changing) (by decide)
    · intro answer hnone
      cases hnone
    · intro answer hnone
      cases hnone
  | store session =>
    have hstatus : device.state.status = some session := hfits
    simp only [changeStep]
    split
    · refine { h with fresh := ?_ }
      intro hsome hcancelled
      rcases h.fresh hsome hcancelled with ⟨hopen, hsame, _⟩ | ⟨_, hnot, _⟩
      · exact .inl ⟨hopen, hsame, hstatus.symm.trans hsame⟩
      · exact absurd (hchanging.symm.trans hnot) (by decide)
    · exact { h with }
  | done =>
    refine ⟨h.accepted, h.unclosed, ?_, ?_, h.frame, ?_, h.busy⟩
    · intro hsome hcancelled
      rcases h.fresh hsome hcancelled with hopen | ⟨hclosed, _, hengine⟩
      · exact .inl hopen
      · exact .inr ⟨hclosed, rfl, hengine⟩
    · intro exposure session frame hcapture hnot
      rcases h.reports exposure session frame hcapture hnot with hsame | ⟨_, _, hover⟩
      · exact .inl hsame
      · exact absurd (hchanging.symm.trans hover.not_changing) (by decide)
    · intro answer herror
      obtain ⟨hexposure, hsession, hrest⟩ := h.error answer herror
      rcases hsession with hsame | hover
      · exact ⟨hexposure, .inl hsame, hrest⟩
      · exact absurd (hchanging.symm.trans hover.not_changing) (by decide)
  | _ =>
    simp only [changeStep, Device.take, requireSession]
    (repeat' split) <;>
      exact { h with }

theorem exposed_wheel (h : Exposed device) (stage : WheelStage) (dropped : Bool) :
    Exposed (device.wheelStep dropped stage) := by
  cases stage <;> simp only [wheelStep, take] <;> (repeat' split) <;>
    exact { h with }

theorem exposed_shutdown (h : Exposed device) (htasked : Tasked device) {call : Nat}
    {stage : ShutdownStage} (hshutdown : device.shutdowns call = some stage)
    (hfits : device.ShutdownFits stage) : Exposed (device.shutdownStep call stage) := by
  have hclosed := htasked.closed call stage hshutdown
  cases stage with
  | gate =>
    simp only [shutdownStep]
    split <;> exact { h with }
  | lock =>
    simp only [shutdownStep, Device.take]
    split <;> exact { h with }
  | take =>
    simp only [shutdownStep]
    split
    · refine { h with fresh := ?_ }
      intro hsome hcancelled
      rcases h.fresh hsome hcancelled with ⟨hopen, _⟩ | ⟨_, hchanging, _⟩
      · exact absurd (hclosed.symm.trans hopen) (by decide)
      · exact .inr ⟨hclosed, hchanging, .inr rfl⟩
    · exact { h with }
  | close session =>
    have hgone := h.closeSession session
    exact { hgone with }
  | clear =>
    have hover : device.Over → (device.shutdownStep call .clear).Over :=
      fun hend => ⟨rfl, hend.2⟩
    refine ⟨h.accepted, ?_, ?_, ?_, ?_, ?_, h.busy⟩
    · intro session haccepted hopen
      have hgone := hfits.2 session (h.unclosed session haccepted hopen)
      exact absurd (hgone.symm.trans hopen) (by decide)
    · intro hsome hcancelled
      rcases h.fresh hsome hcancelled with ⟨hopen, _⟩ | hlast
      · exact absurd (hclosed.symm.trans hopen) (by decide)
      · exact .inr hlast
    · intro exposure session frame hcapture hnot
      rcases h.reports exposure session frame hcapture hnot with hsame | ⟨hnone, hframe, hend⟩
      · exact .inl hsame
      · exact .inr ⟨hnone, hframe, hover hend⟩
    · intro answer hnone
      cases hnone
    · intro answer herror
      obtain ⟨hexposure, hsession, hrest⟩ := h.error answer herror
      rcases hsession with hsame | hend
      · exact ⟨hexposure, .inl hsame, hrest⟩
      · exact ⟨hexposure, .inr (hover hend), hrest⟩

/-- A capture goes on to a stage whose answer can be relied on. -/
theorem Exposed.captureTo (h : Exposed device) {exposure : Nat} {stage : CaptureStage}
    (hcapture : device.captures exposure = some stage) (next : Option CaptureStage)
    (hnext : ∀ stage', next = some stage' → stage'.reported = false → stage.reported = false)
    (hreports : ∀ session frame, next = some (.report session frame) →
      device.cancelled exposure = false → session = device.acceptedOn exposure
        ∨ session = none ∧ frame = false ∧ device.Over) :
    Exposed (device.captureTo exposure next) := by
  refine ⟨?_, h.unclosed, h.fresh, ?_, h.frame, h.error, ?_⟩
  · intro other stage' hother
    by_cases hsame : other = exposure
    · rw [hsame]
      exact h.accepted exposure stage hcapture
    · simp only [Device.captureTo, Function.update_of_ne hsame] at hother
      exact h.accepted other stage' hother
  · intro other session frame hother hcancelled
    by_cases hsame : other = exposure
    · subst hsame
      simp only [Device.captureTo, Function.update_self] at hother
      exact hreports session frame hother hcancelled
    · simp only [Device.captureTo, Function.update_of_ne hsame] at hother
      exact h.reports other session frame hother hcancelled
  · intro stage' session hlast hreported haccepted hopen
    by_cases hsame : device.starts = exposure
    · have hstage : device.captures device.starts = some stage := by
        rw [hsame]
        exact hcapture
      have hlast' : next = some stage' := by
        simpa [Device.captureTo, hsame] using hlast
      exact h.busy stage session hstage (hnext stage' hlast' hreported) haccepted hopen
    · refine h.busy stage' session ?_ hreported haccepted hopen
      simpa [Device.captureTo, Function.update_of_ne hsame] using hlast

/-- What the engine has for the capture of the last start. -/
theorem capture_session (h : Exposed device) (htasked : Tasked device) (hlocked : Locked device)
    (hjoined : Joined device) {exposure : Nat} (hcapture : device.captures exposure = some .capture)
    (hcancelled : device.cancelled exposure = false) :
    device.engine = device.acceptedOn exposure ∨ device.engine = none ∧ device.Over := by
  have hlast := htasked.latest exposure .capture hcapture rfl
  subst hlast
  rcases h.fresh (h.accepted _ _ hcapture) hcancelled with
    ⟨_, _, hengine⟩ | ⟨hclosed, hchanging, hengine⟩
  · exact .inl hengine
  · rcases hengine with hengine | hnone
    · exact .inl hengine
    · refine .inr ⟨hnone, ?_, hclosed, hchanging⟩
      have hown := hlocked.engine (.capture device.starts) ⟨.capture, hcapture, rfl⟩
      have hsettled : device.Settled := by
        refine hjoined.settled ?_ ?_
        · intro change hchange
          exact absurd ((htasked.changing change hchange).symm.trans hchanging) (by decide)
        · intro call stage hstage
          by_contra hapart
          have hholds : stage.holds = true := by
            cases stage <;> first | rfl | exact absurd rfl hapart
          have hother := hlocked.engine (.shutdown call) ⟨stage, hstage, hholds⟩
          rw [hown] at hother
          cases hother
      cases hstatus : device.state.status with
      | none => rfl
      | some session =>
        have hsome := hsettled session hstatus
        rw [hnone] at hsome
        cases hsome

theorem exposed_capture (h : Exposed device) (htasked : Tasked device) (hlocked : Locked device)
    (hjoined : Joined device) {exposure : Nat} {stage : CaptureStage}
    (hcapture : device.captures exposure = some stage) (frame : Bool) :
    Exposed (device.captureStep exposure frame stage) := by
  cases stage with
  | lock =>
    simp only [captureStep, take]
    split
    · have hnext := h.captureTo hcapture (some .capture) (fun _ _ _ => rfl)
        (fun _ _ hreport => by cases hreport)
      exact { hnext with }
    · exact h
  | capture =>
    refine h.captureTo hcapture _ (fun _ _ _ => rfl) ?_
    intro session answered hreport hcancelled
    cases hreport
    rcases capture_session h htasked hlocked hjoined hcapture hcancelled with
      hengine | ⟨hnone, hover⟩
    · exact .inl hengine
    · exact .inr ⟨hnone, by simp [hnone], hover⟩
  | report session answered =>
    have hlast := htasked.latest exposure _ hcapture rfl
    subst hlast
    have hnext := h.captureTo hcapture (some .release)
      (fun stage' hstage hreported => by cases hstage; cases hreported)
      (fun _ _ hreport => by cases hreport)
    have hbusy : ∀ stage : CaptureStage, ∀ state : State,
        ((device.setState state).captureTo device.starts (some .release)).captures device.starts
          = some stage → stage.reported = false → False := by
      intro stage state hstage hreported
      simp only [Device.captureTo, Function.update_self] at hstage
      cases hstage
      cases hreported
    have haborted : device.cancelled device.starts ≠ true →
        device.aborted device.starts = false := by
      intro hnot
      by_contra htrue
      exact hnot (htasked.aborted _ (by simpa using htrue))
    simp only [captureStep, Device.report]
    split
    · refine { hnext with frame := ?_, error := ?_, busy := ?_ }
      · intro answer hframe
        obtain ⟨hexposure, hsession, hnot, _⟩ := h.frame answer hframe
        exact ⟨hexposure, hsession, hnot, rfl⟩
      · intro answer herror
        obtain ⟨hexposure, hsession, hnot, _⟩ := h.error answer herror
        exact ⟨hexposure, hsession, hnot, rfl⟩
      · intro stage session hstage hreported
        exact (hbusy stage _ hstage hreported).elim
    · rename_i hnot
      have hcancelled : device.cancelled device.starts = false := by simpa using hnot
      have hsession := h.reports _ session answered hcapture hcancelled
      split
      · rename_i hframe
        refine { hnext with frame := ?_, error := ?_, busy := ?_ }
        · intro answer hsome
          cases hsome
          rcases hsession with hsame | ⟨_, hno, _⟩
          · exact ⟨rfl, hsame, haborted hnot, rfl⟩
          · exact absurd (hframe.symm.trans hno) (by decide)
        · intro answer herror
          obtain ⟨hexposure, hsession, hnot, _⟩ := h.error answer herror
          exact ⟨hexposure, hsession, hnot, rfl⟩
        · intro stage session hstage hreported
          exact (hbusy stage _ hstage hreported).elim
      · refine { hnext with frame := ?_, error := ?_, busy := ?_ }
        · intro answer hframe
          obtain ⟨hexposure, hsession, hnot, _⟩ := h.frame answer hframe
          exact ⟨hexposure, hsession, hnot, rfl⟩
        · intro answer hsome
          cases hsome
          refine ⟨rfl, ?_, haborted hnot, rfl⟩
          rcases hsession with hsame | ⟨_, _, hover⟩
          · exact .inl hsame
          · exact .inr hover
        · intro stage session hstage hreported
          exact (hbusy stage _ hstage hreported).elim
  | release =>
    have hnext := h.captureTo hcapture none (fun _ hnone => by cases hnone)
      (fun _ _ hnone => by cases hnone)
    exact { hnext with }

end Device

end Regain.Alpaca.Camera
