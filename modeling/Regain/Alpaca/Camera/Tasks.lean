import Regain.Alpaca.Camera.Locks

/-!
# Tasks of the Alpaca camera
-/

namespace Regain.Alpaca.Camera

open Lib

def CaptureStage.reported : CaptureStage → Bool
  | .release => true
  | _ => false

namespace Device

variable {device next : Device}

structure Tasked (device : Device) : Prop where
  changing : ∀ change, device.change = some change → device.state.changing = true
  wheelBusy : ∀ stage, device.wheel = some stage → device.state.wheelBusy = true
  named : device.state.cancel = device.starts
  latest : ∀ exposure stage, device.captures exposure = some stage → stage.reported = false →
    exposure = device.starts
  ahead : ∀ exposure, device.starts < exposure → device.captures exposure = none
    ∧ device.cancelled exposure = false ∧ device.aborted exposure = false
  aborted : ∀ exposure, device.aborted exposure = true → device.cancelled exposure = true
  closed : ∀ call stage, device.shutdowns call = some stage → device.state.closed = true
  later : ∀ call, device.calls ≤ call → device.shutdowns call = none

theorem cancelled_mono (device : Device) {exposure : Nat}
    (hcancelled : device.cancelled exposure = true) :
    device.cancelToken.cancelled exposure = true := by
  by_cases hsame : exposure = device.state.cancel
  · simp [cancelToken, hsame]
  · simpa [cancelToken, Function.update_of_ne hsame] using hcancelled

theorem Tasked.cancelToken (h : Tasked device) : Tasked device.cancelToken := by
  refine { h with ahead := ?_, aborted := ?_ }
  · intro exposure hexposure
    obtain ⟨hcapture, hcancelled, haborted⟩ := h.ahead exposure hexposure
    have hlt : device.starts < exposure := hexposure
    have hne : exposure ≠ device.state.cancel := by
      rw [h.named]
      omega
    exact ⟨hcapture, by simpa [Device.cancelToken, Function.update_of_ne hne] using hcancelled,
      haborted⟩
  · intro exposure haborted
    exact device.cancelled_mono (h.aborted exposure haborted)

theorem Tasked.changeTo (h : Tasked device) {change : ConnectionChange}
    (hchange : device.change = some change) (stage : ChangeStage) :
    Tasked (device.changeTo change stage) :=
  { h with changing := fun _ _ => h.changing change hchange }

theorem tasked_change (h : Tasked device) {change : ConnectionChange}
    (hchange : device.change = some change) (ok : Bool) : Tasked (device.changeStep change ok) := by
  have hchanging := h.changing change hchange
  obtain ⟨client, on, wheel, stage⟩ := change
  obtain ⟨-, hwheel, hnamed, hlatest, hahead, haborted, hclosed, hlater⟩ := id h
  cases stage with
  | leave =>
    simp only [changeStep, leave]
    split
    · split
      · exact ⟨fun _ _ => hchanging, hwheel, hnamed, hlatest, hahead, haborted, hclosed, hlater⟩
      · have hleft : Tasked (device.setState { device.state with
            clients := device.state.clients.erase (wheel, client) }) :=
          ⟨fun _ _ => hchanging, hwheel, hnamed, hlatest, hahead, haborted, hclosed, hlater⟩
        exact hleft.cancelToken.changeTo hchange .leaveLock
    · exact h.changeTo hchange .release
  | done =>
    refine ⟨fun _ hnone => ?_, hwheel, hnamed, hlatest, hahead, haborted, hclosed, hlater⟩
    cases hnone
  | _ =>
    simp only [changeStep, take, requireSession]
    (repeat' split) <;>
      exact ⟨fun _ _ => hchanging, hwheel, hnamed, hlatest, hahead, haborted, hclosed, hlater⟩

theorem tasked_wheel (h : Tasked device) {stage : WheelStage} (hwheel : device.wheel = some stage)
    (dropped : Bool) : Tasked (device.wheelStep dropped stage) := by
  have hbusy := h.wheelBusy stage hwheel
  cases stage with
  | lock =>
    simp only [wheelStep, take]
    (repeat' split) <;>
      exact { h with wheelBusy := fun _ _ => hbusy }
  | move => exact { h with wheelBusy := fun _ _ => hbusy }
  | drop =>
    refine { h with wheelBusy := fun _ hnone => ?_ }
    cases hnone

theorem Tasked.captures (h : Tasked device) {exposure : Nat} {stage : CaptureStage}
    (hcapture : device.captures exposure = some stage) (next : Option CaptureStage)
    (hnext : ∀ stage', next = some stage' → stage'.reported = false → stage.reported = false) :
    (∀ other stage', (device.captureTo exposure next).captures other = some stage' →
      stage'.reported = false → other = device.starts)
    ∧ ∀ other, device.starts < other → (device.captureTo exposure next).captures other = none
      ∧ device.cancelled other = false ∧ device.aborted other = false := by
  constructor
  · intro other stage' hother hreported
    by_cases hsame : other = exposure
    · subst hsame
      simp only [captureTo, Function.update_self] at hother
      exact h.latest other stage hcapture (hnext stage' hother hreported)
    · simp only [captureTo, Function.update_of_ne hsame] at hother
      exact h.latest other stage' hother hreported
  · intro other hother
    obtain ⟨hnone, hrest⟩ := h.ahead other hother
    have hne : other ≠ exposure := by
      rintro rfl
      simp [hcapture] at hnone
    exact ⟨by simpa [captureTo, Function.update_of_ne hne] using hnone, hrest⟩

theorem tasked_capture (h : Tasked device) {exposure : Nat} {stage : CaptureStage}
    (hcapture : device.captures exposure = some stage) (frame : Bool) :
    Tasked (device.captureStep exposure frame stage) := by
  cases stage with
  | lock =>
    simp only [captureStep, take]
    split
    · obtain ⟨hlatest, hahead⟩ := h.captures hcapture (some .capture) (fun _ _ _ => rfl)
      exact { h with latest := hlatest, ahead := hahead }
    · exact h
  | capture =>
    obtain ⟨hlatest, hahead⟩ := h.captures hcapture
      (some (.report device.engine (device.engine.isSome && frame))) (fun _ _ _ => rfl)
    exact { h with latest := hlatest, ahead := hahead }
  | report session answered =>
    obtain ⟨hlatest, hahead⟩ := h.captures hcapture (some .release)
      (fun stage' hstage hreported => by cases hstage; cases hreported)
    simp only [captureStep, report]
    (repeat' split) <;> exact { h with latest := hlatest, ahead := hahead }
  | release =>
    obtain ⟨hlatest, hahead⟩ := h.captures hcapture none
      (fun stage' hstage => by cases hstage)
    exact { h with latest := hlatest, ahead := hahead }

theorem tasked_shutdown (h : Tasked device) {call : Nat} {stage : ShutdownStage}
    (hshutdown : device.shutdowns call = some stage) : Tasked (device.shutdownStep call stage) := by
  have hclosed : ∀ next other stage', (device.shutdownTo call next).shutdowns other = some stage' →
      device.state.closed = true :=
    fun _ _ _ _ => h.closed call stage hshutdown
  have hlater : ∀ next other, device.calls ≤ other →
      (device.shutdownTo call next).shutdowns other = none := by
    intro next other hother
    have hne : other ≠ call := by
      rintro rfl
      simp [h.later other hother] at hshutdown
    simpa [shutdownTo, Function.update_of_ne hne] using h.later other hother
  cases stage with
  | gate =>
    simp only [shutdownStep]
    split
    · exact { h with closed := hclosed _, later := hlater _ }
    · exact h
  | lock =>
    simp only [shutdownStep, take]
    split
    · exact { h with closed := hclosed _, later := hlater _ }
    · exact h
  | take =>
    simp only [shutdownStep]
    split <;> exact { h with closed := hclosed _, later := hlater _ }
  | close session => exact { h with closed := hclosed _, later := hlater _ }
  | clear => exact { h with closed := hclosed _, later := hlater _ }

end Device

end Regain.Alpaca.Camera
