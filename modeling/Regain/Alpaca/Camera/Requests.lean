import Regain.Alpaca.Camera.Exposure

/-!
# Requests to the camera
-/

namespace Regain.Alpaca.Camera

open Lib

namespace Device

variable {device next : Device}

def idle (device : Device) : Bool :=
  (List.range (device.starts + 1)).all fun exposure =>
    match device.captures exposure with
    | some stage => stage.reported
    | none => true

theorem Tasked.reported (h : Tasked device) (hidle : device.idle = true) {exposure : Nat}
    {stage : CaptureStage} (hcapture : device.captures exposure = some stage) :
    stage.reported = true := by
  by_cases hlt : device.starts < exposure
  · have hnone := (h.ahead exposure hlt).1
    rw [hcapture] at hnone
    cases hnone
  · have hmem : exposure ∈ List.range (device.starts + 1) := by
      rw [List.mem_range]
      omega
    have hreported := List.all_eq_true.mp hidle exposure hmem
    simpa [hcapture] using hreported

/-- What holds of the camera while starts are accepted when it is idle. -/
structure Sound (device : Device) : Prop where
  locked : Locked device
  tasked : Tasked device
  joined : Joined device
  exposed : Exposed device

theorem Sound.change (h : Sound device) {change : ConnectionChange}
    (hchange : device.change = some change) (ok : Bool) : Sound (device.changeStep change ok) :=
  ⟨(changeLocks device hchange ok).locked h.locked, tasked_change h.tasked hchange ok,
    joined_change h.joined h.tasked h.locked hchange ok,
    exposed_change h.exposed h.tasked hchange (h.joined.change change hchange) ok⟩

theorem Sound.wheel (h : Sound device) {stage : WheelStage} (hwheel : device.wheel = some stage)
    (dropped : Bool) : Sound (device.wheelStep dropped stage) := by
  refine ⟨(wheelLocks device hwheel dropped).locked h.locked, tasked_wheel h.tasked hwheel dropped,
    ?_, exposed_wheel h.exposed stage dropped⟩
  cases stage <;> simp only [wheelStep, take] <;> (repeat' split) <;>
    exact { h.joined with }

theorem Sound.capture (h : Sound device) {exposure : Nat} {stage : CaptureStage}
    (hcapture : device.captures exposure = some stage) (frame : Bool) :
    Sound (device.captureStep exposure frame stage) := by
  refine ⟨(captureLocks device hcapture frame).locked h.locked,
    tasked_capture h.tasked hcapture frame, ?_,
    exposed_capture h.exposed h.tasked h.locked h.joined hcapture frame⟩
  cases stage <;> simp only [captureStep, take, report] <;> (repeat' split) <;>
    exact h.joined.kept rfl rfl ⟨rfl, rfl, rfl⟩ fun _ _ => id

theorem Sound.shutdownStep (h : Sound device) {call : Nat} {stage : ShutdownStage}
    (hshutdown : device.shutdowns call = some stage) : Sound (device.shutdownStep call stage) :=
  ⟨(shutdownLocks device hshutdown).locked h.locked, tasked_shutdown h.tasked hshutdown,
    joined_shutdown h.joined h.locked hshutdown,
    exposed_shutdown h.exposed h.tasked hshutdown (h.joined.shutdown call stage hshutdown)⟩

theorem Tasked.noChange (h : Tasked device) (hchanging : device.state.changing = false) :
    device.change = none := by
  cases hchange : device.change with
  | none => rfl
  | some change => exact absurd ((h.changing change hchange).symm.trans hchanging) (by decide)

theorem Tasked.noWheel (h : Tasked device) (hbusy : device.state.wheelBusy = false) :
    device.wheel = none := by
  cases hwheel : device.wheel with
  | none => rfl
  | some stage => exact absurd ((h.wheelBusy stage hwheel).symm.trans hbusy) (by decide)

theorem Sound.connected (h : Sound device) (client : UInt32) (on wheel : Bool) :
    Sound (device.connected client on wheel) := by
  unfold Device.connected
  split
  · rename_i hfree
    obtain ⟨hchanging, hopen⟩ : device.state.changing = false ∧ device.state.closed = false := by
      simpa using hfree
    have hnone := h.tasked.noChange hchanging
    have hover : ¬ device.Over := by
      intro hover
      exact absurd (hover.2.1.symm.trans hopen) (by decide)
    refine ⟨?_, ?_, ?_, ?_⟩
    · have hlocks : TaskLocks device { device.setState { device.state with changing := true } with
          change := some ⟨client, on, wheel, .gate⟩ } .change := by
        refine ⟨fun other hother => ?_, .inl ⟨rfl, ?_⟩, .inl ⟨rfl, ?_⟩⟩
        · cases other <;> first | exact absurd rfl hother | exact ⟨id, id⟩
        · rintro ⟨change, hchange, hholds⟩
          cases hchange
          cases hholds
        · rintro ⟨change, hchange, hgated⟩
          cases hchange
          cases hgated
      exact hlocks.locked h.locked
    · exact { h.tasked with changing := fun _ _ => rfl }
    · refine ⟨?_, h.joined.shutdown, ?_⟩
      · intro change hchange
        cases hchange
        trivial
      · intro _ hapart
        refine h.joined.settled ?_ hapart
        intro change hchange
        rw [hnone] at hchange
        cases hchange
    · refine { h.exposed with fresh := ?_, reports := ?_, error := ?_ }
      · intro hsome hcancelled
        rcases h.exposed.fresh hsome hcancelled with hfirst | ⟨hclosed, _⟩
        · exact .inl hfirst
        · exact absurd (hclosed.symm.trans hopen) (by decide)
      · intro exposure session frame hcapture hcancelled
        rcases h.exposed.reports exposure session frame hcapture hcancelled with
          hsame | ⟨_, _, hend⟩
        · exact .inl hsame
        · exact absurd hend hover
      · intro answer herror
        obtain ⟨hexposure, hsession, hrest⟩ := h.exposed.error answer herror
        rcases hsession with hsame | hend
        · exact ⟨hexposure, .inl hsame, hrest⟩
        · exact absurd hend hover
  · exact h

theorem Sound.abort (h : Sound device) (client : UInt32) : Sound (device.abort client) := by
  unfold Device.abort
  split
  · rename_i hbusy
    simp only [Bool.and_eq_true, Bool.not_eq_true'] at hbusy
    obtain ⟨⟨_, hchanging⟩, hbusy⟩ := hbusy
    have htasked := h.tasked.cancelToken
    have hexposed := h.exposed.cancelToken h.tasked.named
    have hnone := h.tasked.noChange hchanging
    refine ⟨⟨h.locked.engine, h.locked.connection⟩, ?_, ?_, ?_⟩
    · refine { htasked with ahead := ?_, aborted := ?_ }
      · intro exposure hexposure
        obtain ⟨hcapture, hcancelled, haborted⟩ := htasked.ahead exposure hexposure
        have hlt : device.starts < exposure := hexposure
        have hne : exposure ≠ device.state.cancel := by
          rw [h.tasked.named]
          omega
        have hkept : device.aborted exposure = false := haborted
        exact ⟨hcapture, hcancelled, by simpa [Function.update_of_ne hne] using hkept⟩
      · intro exposure haborted
        by_cases hsame : exposure = device.state.cancel
        · simp [cancelToken, hsame]
        · simp only [Function.update_of_ne hsame] at haborted
          exact htasked.aborted exposure haborted
    · refine h.joined.kept rfl rfl ⟨rfl, rfl, rfl⟩ ?_
      intro change hchange
      rw [hnone] at hchange
      cases hchange
    · refine { hexposed with frame := ?_, error := ?_ }
      · intro answer hframe
        obtain ⟨_, _, _, hnot⟩ := h.exposed.frame answer hframe
        exact absurd (hbusy.symm.trans hnot) (by decide)
      · intro answer herror
        obtain ⟨_, _, _, hnot⟩ := h.exposed.error answer herror
        exact absurd (hbusy.symm.trans hnot) (by decide)
  · exact h

theorem Sound.move (h : Sound device) (client : UInt32) : Sound (device.move client) := by
  unfold Device.move
  split
  · refine ⟨?_, ?_, { h.joined with },
      { h.exposed with }⟩
    · have hlocks : TaskLocks device { device.setState { device.state with wheelBusy := true } with
          wheel := some .lock } .wheel := by
        refine ⟨fun other hother => ?_, .inl ⟨rfl, ?_⟩, .inl ⟨rfl, ?_⟩⟩
        · cases other <;> first | exact absurd rfl hother | exact ⟨id, id⟩
        · intro hholds
          cases hholds
        · intro hgated
          cases hgated
      exact hlocks.locked h.locked
    · exact { h.tasked with wheelBusy := fun _ _ => rfl }
  · exact h

theorem Sound.refresh (h : Sound device) : Sound device.refresh := by
  unfold Device.refresh
  split
  · rename_i hfree
    refine ⟨⟨?_, h.locked.connection⟩,
      { h.tasked with },
      { h.joined with },
      { h.exposed with }⟩
    intro owner hholds
    have hown := h.locked.engine owner (by cases owner <;> exact hholds)
    rw [hfree] at hown
    cases hown
  · exact h

theorem Sound.refreshed (h : Sound device) : Sound device.refreshed := by
  unfold Device.refreshed
  split
  · rename_i hrefresh
    refine ⟨⟨?_, h.locked.connection⟩,
      { h.tasked with },
      { h.joined with },
      { h.exposed with }⟩
    intro owner hholds
    have hheld : device.Holds owner := by cases owner <;> exact hholds
    have hown := h.locked.engine owner hheld
    rw [hrefresh] at hown
    cases hown
    cases hheld
  · exact h

theorem Sound.shutdown (h : Sound device) : Sound device.shutdown := by
  have hclosed : device.Over → device.shutdown.Over :=
    fun hend => ⟨hend.1, rfl, hend.2.2⟩
  have hcall : device.shutdowns device.calls = none := h.tasked.later device.calls le_rfl
  refine ⟨?_, ?_, ?_, ?_⟩
  · have hlocks : TaskLocks device device.shutdown (.shutdown device.calls) := by
      refine ⟨fun other hother => ?_, .inl ⟨rfl, ?_⟩, .inl ⟨rfl, ?_⟩⟩
      · cases other with
        | shutdown call =>
          have hne : call ≠ device.calls := fun hsame => hother (by rw [hsame])
          have hsame : device.shutdown.shutdowns call = device.shutdowns call := by
            simp [Device.shutdown, Function.update_of_ne hne]
          simp [Holds, Gated, hsame]
        | _ => exact ⟨id, id⟩
      · rintro ⟨stage, hstage, hholds⟩
        simp only [Device.shutdown, Function.update_self] at hstage
        cases hstage
        cases hholds
      · rintro ⟨stage, hstage, hgated⟩
        simp only [Device.shutdown, Function.update_self] at hstage
        cases hstage
        cases hgated
    exact hlocks.locked h.locked
  · have htasked := h.tasked.cancelToken
    refine { htasked with closed := fun _ _ _ => rfl, later := ?_ }
    intro call hlater
    have hlt : device.calls + 1 ≤ call := hlater
    have hne : call ≠ device.calls := by omega
    have hnone := h.tasked.later call (by omega)
    simpa [Device.shutdown, Function.update_of_ne hne] using hnone
  · have hkept : Joined device.cancelToken := by
      refine h.joined.kept rfl rfl ⟨rfl, rfl, rfl⟩ ?_
      intro _ _ hcancelled
      exact device.cancelled_mono hcancelled
    refine ⟨hkept.change, ?_, ?_⟩
    · intro call stage hstage
      by_cases hsame : call = device.calls
      · subst hsame
        simp only [Device.shutdown, Function.update_self] at hstage
        cases hstage
        trivial
      · simp only [Device.shutdown, Function.update_of_ne hsame] at hstage
        exact hkept.shutdown call stage hstage
    · intro hchange hapart
      refine h.joined.settled hchange ?_
      intro call stage hstage
      refine hapart call stage ?_
      have hne : call ≠ device.calls := by
        rintro rfl
        rw [hcall] at hstage
        cases hstage
      simpa [Device.shutdown, Function.update_of_ne hne] using hstage
  · have hexposed := h.exposed.cancelToken h.tasked.named
    refine { hexposed with fresh := ?_, reports := ?_, error := ?_ }
    · intro _ hcancelled
      have hnot : device.cancelToken.cancelled device.starts = false := hcancelled
      simp [cancelToken, h.tasked.named] at hnot
    · intro exposure session frame hcapture hcancelled
      rcases hexposed.reports exposure session frame hcapture hcancelled with
        hsame | ⟨hnone, hframe, hover⟩
      · exact .inl hsame
      · exact .inr ⟨hnone, hframe, hclosed hover⟩
    · intro answer herror
      obtain ⟨hexposure, hsession, hrest⟩ := h.exposed.error answer herror
      rcases hsession with hsame | hover
      · exact ⟨hexposure, .inl hsame, hrest⟩
      · exact ⟨hexposure, .inr (hclosed hover), hrest⟩

/-- What lets a start in. -/
theorem accepts_iff {client : UInt32} {valid : Bool} :
    device.accepts client valid = true ↔ device.check client = true
      ∧ device.state.changing = false ∧ device.state.wheelBusy = false
      ∧ device.state.busy = false ∧ valid = true := by
  simp [accepts, and_assoc]

theorem Sound.start (h : Sound device) {client : UInt32} {valid : Bool}
    (hidle : device.accepts client valid = true → device.idle = true) :
    Sound (device.start client valid) := by
  unfold Device.start
  split
  · rename_i haccepts
    obtain ⟨hcheck, hchanging, -, hnotbusy, -⟩ := accepts_iff.mp haccepts
    have hreported : ∀ exposure stage, device.captures exposure = some stage →
        stage.reported = true :=
      fun _ _ => h.tasked.reported (hidle haccepts)
    have hnone := h.tasked.noChange hchanging
    obtain ⟨hcapture, hcancelled, haborted⟩ := h.tasked.ahead (device.starts + 1) (by omega)
    have hstatus : device.state.status.isSome = true := by
      simp only [check, Bool.and_eq_true] at hcheck
      exact hcheck.2
    refine ⟨?_, ?_, ?_, ?_⟩
    · have hlocks : TaskLocks device { device with
          state := { device.state with
            frame := none
            error := none
            busy := true
            cancel := device.starts + 1 }
          starts := device.starts + 1
          acceptedOn := Function.update device.acceptedOn (device.starts + 1) device.state.status
          captures := Function.update device.captures (device.starts + 1) (some .lock) }
          (.capture (device.starts + 1)) := by
        refine ⟨fun other hother => ?_, .inl ⟨rfl, ?_⟩, .inl ⟨rfl, ?_⟩⟩
        · cases other with
          | capture exposure =>
            have hne : exposure ≠ device.starts + 1 := fun hsame => hother (by rw [hsame])
            simp [Holds, Gated, Function.update_of_ne hne]
          | _ => exact ⟨id, id⟩
        · rintro ⟨stage, hstage, hholds⟩
          simp only [Function.update_self] at hstage
          cases hstage
          cases hholds
        · intro hgated
          cases hgated
      exact hlocks.locked h.locked
    · refine { h.tasked with named := rfl, latest := ?_, ahead := ?_ }
      · intro exposure stage hstage hnot
        by_cases hsame : exposure = device.starts + 1
        · exact hsame
        · simp only [Function.update_of_ne hsame] at hstage
          exact absurd ((hreported exposure stage hstage).symm.trans hnot) (by decide)
      · intro exposure hlater
        have hlt : device.starts + 1 < exposure := hlater
        have hne : exposure ≠ device.starts + 1 := by omega
        have hahead := h.tasked.ahead exposure (by omega)
        simpa [Function.update_of_ne hne] using hahead
    · refine h.joined.kept rfl rfl ⟨rfl, rfl, rfl⟩ ?_
      intro change hchange
      rw [hnone] at hchange
      cases hchange
    · refine ⟨?_, ?_, ?_, ?_, ?_, ?_, fun _ _ _ _ _ _ => rfl⟩
      · intro exposure stage hstage
        by_cases hsame : exposure = device.starts + 1
        · simpa [hsame] using hstatus
        · simp only [Function.update_of_ne hsame] at hstage ⊢
          exact h.exposed.accepted exposure stage hstage
      · intro session haccepted _
        simpa using haccepted
      · intro _ _
        simp only [Function.update_self]
        have hchanges : ∀ change, device.change = some change → change.stage.apart = false := by
          intro change hchange
          rw [hnone] at hchange
          cases hchange
        obtain ⟨session, hsession⟩ := Option.isSome_iff_exists.mp hstatus
        cases hclosed : device.state.closed with
        | false =>
          have hshutdowns : ∀ call stage, device.shutdowns call = some stage →
              stage.apart = false := by
            intro call stage hstage
            exact absurd ((h.tasked.closed call stage hstage).symm.trans hclosed) (by decide)
          have hengine := h.joined.settled hchanges hshutdowns session hsession
          exact .inl ⟨rfl, trivial, hengine.trans hsession.symm⟩
        | true =>
          refine .inr ⟨rfl, hchanging, ?_⟩
          by_cases hshutdowns : ∀ call stage, device.shutdowns call = some stage →
              stage.apart = false
          · have hengine := h.joined.settled hchanges hshutdowns session hsession
            exact .inl (hengine.trans hsession.symm)
          · push Not at hshutdowns
            obtain ⟨call, stage, hstage, hapart⟩ := hshutdowns
            have hfits := h.joined.shutdown call stage hstage
            refine .inr ?_
            cases stage with
            | close other => exact hfits.1
            | clear => exact hfits.1
            | _ => exact absurd rfl hapart
      · intro exposure session frame hreport hnot
        by_cases hsame : exposure = device.starts + 1
        · simp [hsame] at hreport
        · simp only [Function.update_of_ne hsame] at hreport ⊢
          exact absurd (hreported exposure _ hreport) (by simp [CaptureStage.reported])
      · intro answer hframe
        cases hframe
      · intro answer herror
        cases herror
  · exact h

/-- A step preserves what holds of the camera, given that starts are accepted when it is idle. -/
theorem Sound.step (h : Sound device) (op : Op)
    (hidle : (machine.perform device op).result ≠ none → device.idle = true) :
    Sound (device.step op) := by
  cases op with
  | connected client on wheel => exact h.connected client on wheel
  | start client valid =>
    refine h.start ?_
    intro haccepts
    refine hidle ?_
    simp [Machine.perform, machine, haccepts]
  | abort client => exact h.abort client
  | move client => exact h.move client
  | refresh => exact h.refresh
  | refreshed => exact h.refreshed
  | shutdown => exact h.shutdown
  | changeStep ok =>
    simp only [Device.step]
    split
    · rename_i change hchange
      exact h.change hchange ok
    · exact h
  | wheelStep dropped =>
    simp only [Device.step]
    split
    · rename_i stage hwheel
      exact h.wheel hwheel dropped
    · exact h
  | captureStep exposure frame =>
    simp only [Device.step]
    split
    · rename_i stage hcapture
      exact h.capture hcapture frame
    · exact h
  | shutdownStep call =>
    simp only [Device.step]
    split
    · rename_i stage hshutdown
      exact h.shutdownStep hshutdown
    · exact h

end Device

end Regain.Alpaca.Camera
