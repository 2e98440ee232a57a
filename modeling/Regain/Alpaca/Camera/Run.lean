import Mathlib.Data.Finset.Insert
import Regain.Alpaca.Camera.Requests

/-!
# Exposures over runs of the Alpaca camera

While starts are accepted only when the tasks of the earlier ones have reported, an exposure has the
camera until its own task has reported or its session was closed, and what clients see is its own.
-/

namespace Regain.Alpaca.Camera

open Lib

namespace Device

variable {device : Device}

def image (device : Device) (client : UInt32) : Except (Option Answer) Answer :=
  if device.check client then
    match device.state.error with
    | some answer => .error (some answer)
    | none =>
      if device.state.busy then .error none
      else
        match device.state.frame with
        | some answer => .ok answer
        | none => .error none
  else .error none

def imageReady (device : Device) (client : UInt32) : Except (Option Answer) Bool :=
  if device.check client then
    match device.state.error with
    | some answer => .error (some answer)
    | none => .ok (!device.state.busy && device.state.frame.isSome)
  else .error none

/-- A client sees an answer: through `image`, or as what `imageready` is about. -/
def Shows (device : Device) (client : UInt32) (answer : Answer) : Prop :=
  device.image client = .ok answer ∨ device.image client = .error (some answer)
    ∨ device.imageReady client = .error (some answer)
    ∨ device.imageReady client = .ok true ∧ device.state.frame = some answer

/-- The last start has produced an answer, on its session, and was not aborted. -/
structure Produced (device : Device) (answer : Answer) : Prop where
  exposure : answer.exposure = device.starts
  session : answer.session = device.acceptedOn device.starts
  aborted : device.aborted device.starts = false

/-- An accepted exposure whose task has not reported and whose session was not closed. -/
def Pending (device : Device) (exposure : Nat) : Prop :=
  (∃ stage, device.captures exposure = some stage ∧ stage.reported = false)
    ∧ ∃ session, device.acceptedOn exposure = some session ∧ device.gone session = false

structure Owned (t : Transition Device Op (Option Nat)) : Prop where
  /-- A start is the last one, and nothing else was going on. -/
  started : ∀ exposure, t.result = some exposure → exposure = t.after.starts
    ∧ t.before.state.busy = false ∧ t.before.wheel = none ∧ t.before.change = none
    ∧ t.after.state.busy = true
  pending : ∀ exposure, t.after.Pending exposure → t.after.state.busy = true
  /-- The camera is given back by the task of the last start, or with its session. -/
  cleared : t.before.state.busy = true → t.after.state.busy = false →
    (∃ frame, t.op = .captureStep t.before.starts frame)
      ∨ ∀ session, t.before.acceptedOn t.before.starts = some session →
        t.before.gone session = true
  shown : ∀ client answer, t.after.Shows client answer → t.after.Produced answer

theorem Sound.pending (h : Sound device) {exposure : Nat} (hpending : device.Pending exposure) :
    device.state.busy = true := by
  obtain ⟨⟨stage, hcapture, hreported⟩, session, haccepted, hopen⟩ := hpending
  have hlast := h.tasked.latest exposure stage hcapture hreported
  subst hlast
  exact h.exposed.busy stage session hcapture hreported haccepted hopen

theorem Sound.shown (h : Sound device) {client : UInt32} {answer : Answer}
    (hshows : device.Shows client answer) : device.Produced answer := by
  have hsource : device.check client = true
      ∧ (device.state.frame = some answer ∨ device.state.error = some answer) := by
    unfold Shows image imageReady at hshows
    cases hcheck : device.check client <;> cases herror : device.state.error <;>
      cases hbusy : device.state.busy <;> cases hframe : device.state.frame <;> simp_all
  obtain ⟨hcheck, hframe | herror⟩ := hsource
  · obtain ⟨hexposure, hsession, haborted, -⟩ := h.exposed.frame answer hframe
    exact ⟨hexposure, hsession, haborted⟩
  · obtain ⟨hexposure, hsession, haborted, -⟩ := h.exposed.error answer herror
    refine ⟨hexposure, ?_, haborted⟩
    rcases hsession with hsame | hover
    · exact hsame
    · -- a camera that was shut down has no status
      simp [check, hover.1] at hcheck

theorem changeStep_busy {change : ConnectionChange} (hstage : change.stage ≠ .clear) (ok : Bool) :
    (device.changeStep change ok).state.busy = device.state.busy := by
  obtain ⟨client, on, wheel, stage⟩ := change
  cases stage with
  | clear => exact absurd rfl hstage
  | _ =>
    simp only [changeStep, leave, take, requireSession]
    (repeat' split) <;> rfl

theorem wheelStep_busy (stage : WheelStage) (dropped : Bool) :
    (device.wheelStep dropped stage).state.busy = device.state.busy := by
  cases stage <;> simp only [wheelStep, take] <;> (repeat' split) <;> rfl

theorem shutdownStep_busy (call : Nat) (stage : ShutdownStage) :
    (device.shutdownStep call stage).state.busy = device.state.busy := by
  cases stage <;> simp only [shutdownStep, take] <;> (repeat' split) <;> rfl

theorem captureStep_busy {exposure : Nat} {stage : CaptureStage}
    (hstage : ∀ session answered, stage ≠ .report session answered) (frame : Bool) :
    (device.captureStep exposure frame stage).state.busy = device.state.busy := by
  cases stage with
  | lock =>
    simp only [captureStep, take]
    split <;> rfl
  | capture => rfl
  | report session answered => exact absurd rfl (hstage session answered)
  | release => rfl

theorem Sound.cleared (h : Sound device) (op : Op) (hbusy : device.state.busy = true)
    (hcleared : (device.step op).state.busy = false) :
    (∃ frame, op = .captureStep device.starts frame)
      ∨ ∀ session, device.acceptedOn device.starts = some session → device.gone session = true := by
  have hkept : ∀ {busy : Bool}, busy = device.state.busy → busy = false → False := by
    intro busy hsame hnot
    rw [hsame, hbusy] at hnot
    cases hnot
  cases op with
  | connected client on wheel =>
    refine (hkept ?_ hcleared).elim
    simp only [Device.step, Device.connected]
    split <;> rfl
  | start client valid =>
    simp only [Device.step, Device.start, accepts, hbusy] at hcleared
    simp [hbusy] at hcleared
  | abort client =>
    refine (hkept ?_ hcleared).elim
    simp only [Device.step, Device.abort]
    split <;> rfl
  | move client =>
    refine (hkept ?_ hcleared).elim
    simp only [Device.step, Device.move]
    split <;> rfl
  | refresh =>
    refine (hkept ?_ hcleared).elim
    simp only [Device.step, Device.refresh]
    split <;> rfl
  | refreshed =>
    refine (hkept ?_ hcleared).elim
    simp only [Device.step, Device.refreshed]
    split <;> rfl
  | shutdown => exact (hkept rfl hcleared).elim
  | changeStep ok =>
    simp only [Device.step] at hcleared
    split at hcleared
    · rename_i change hchange
      by_cases hclear : change.stage = .clear
      · have hfits := h.joined.change change hchange
        rw [hclear] at hfits
        refine .inr ?_
        intro session haccepted
        by_contra hopen
        have hstatus := h.exposed.unclosed session haccepted (by simpa using hopen)
        exact hopen (hfits.2 session hstatus)
      · exact (hkept (changeStep_busy hclear ok) hcleared).elim
    · exact (hkept rfl hcleared).elim
  | wheelStep dropped =>
    simp only [Device.step] at hcleared
    split at hcleared
    · exact (hkept (wheelStep_busy _ dropped) hcleared).elim
    · exact (hkept rfl hcleared).elim
  | captureStep exposure frame =>
    simp only [Device.step] at hcleared
    split at hcleared
    · rename_i stage hcapture
      by_cases hreport : ∀ session answered, stage ≠ .report session answered
      · exact (hkept (captureStep_busy hreport frame) hcleared).elim
      · push Not at hreport
        obtain ⟨session, answered, rfl⟩ := hreport
        have hlast := h.tasked.latest exposure _ hcapture rfl
        exact .inl ⟨frame, by rw [hlast]⟩
    · exact (hkept rfl hcleared).elim
  | shutdownStep call =>
    simp only [Device.step] at hcleared
    split at hcleared
    · exact (hkept (shutdownStep_busy call _) hcleared).elim
    · exact (hkept rfl hcleared).elim

theorem Sound.started (h : Sound device) (op : Op) {exposure : Nat}
    (hresult : (machine.perform device op).result = some exposure) :
    exposure = (device.step op).starts ∧ device.state.busy = false ∧ device.wheel = none
      ∧ device.change = none ∧ (device.step op).state.busy = true := by
  cases op with
  | start client valid =>
    by_cases haccepts : device.accepts client valid = true
    · obtain ⟨-, hchanging, hwheel, hbusy, -⟩ := accepts_iff.mp haccepts
      have hexposure : device.starts + 1 = exposure := by
        simpa [Machine.perform, machine, haccepts] using hresult
      refine ⟨?_, hbusy, h.tasked.noWheel hwheel, h.tasked.noChange hchanging, ?_⟩
      · simp [Device.step, Device.start, haccepts, ← hexposure]
      · simp [Device.step, Device.start, haccepts]
    · simp [Machine.perform, machine, haccepts] at hresult
  | _ => cases hresult

theorem sound_initial : Sound {} := by
  refine ⟨⟨?_, ?_⟩, ?_, ?_, ?_⟩
  · rintro (_ | _ | _ | _ | _) hholds <;> simp [Holds] at hholds
  · rintro (_ | _ | _ | _ | _) hgated <;> simp [Gated] at hgated
  · constructor <;> simp
  · constructor <;> simp [Settled]
  · constructor <;> simp

theorem Sound.mem_run (h : Sound device) {ops : List Op}
    (hidle : ∀ t ∈ machine.run device ops, t.result ≠ none → t.before.idle = true)
    {t : Transition Device Op (Option Nat)} (hmem : t ∈ machine.run device ops) :
    Sound t.before ∧ Sound t.after ∧ t = machine.perform t.before t.op := by
  induction ops generalizing device with
  | nil => cases hmem
  | cons op ops ih =>
    have hnext : Sound (machine.next device op) :=
      h.step op (hidle _ List.mem_cons_self)
    rcases List.mem_cons.mp hmem with rfl | htail
    · exact ⟨h, hnext, rfl⟩
    · exact ih hnext (fun t' hmem' => hidle t' (List.mem_cons_of_mem _ hmem')) htail

/-- The operations of a client that connects, and those of the last one that leaves. -/
def connects (client : UInt32) : List Op :=
  .connected client true false :: List.replicate 10 (.changeStep true)

def disconnects (client : UInt32) : List Op :=
  .connected client false false :: List.replicate 10 (.changeStep true)

def reportsFrame (exposure : Nat) : List Op :=
  List.replicate 3 (.captureStep exposure true)

def exposedTwice : List Op :=
  connects 1 ++ .start 1 true :: reportsFrame 1 ++ [.captureStep 1 true, .start 1 true]

def overtaken : List Op :=
  connects 1 ++ .start 1 true :: disconnects 1 ++ connects 1 ++ .start 1 true :: reportsFrame 1

/-- In every run whose starts are accepted when the tasks of the earlier ones have reported, each
exposure has the camera to itself. -/
theorem exposures_owned (ops : List Op)
    (hidle : ∀ t ∈ machine.run {} ops, t.result ≠ none → t.before.idle = true) :
    ∀ t ∈ machine.run {} ops, Owned t := by
  intro t hmem
  obtain ⟨hbefore, hafter, hstep⟩ := sound_initial.mem_run hidle hmem
  have hnext : t.after = t.before.step t.op := congrArg Transition.after hstep
  refine ⟨?_, fun exposure => hafter.pending, ?_, fun client answer => hafter.shown⟩
  · intro exposure hresult
    rw [hstep] at hresult
    have hstarted := hbefore.started t.op hresult
    rw [← hnext] at hstarted
    exact hstarted
  · intro hbusy hcleared
    rw [hnext] at hcleared
    exact hbefore.cleared t.op hbusy hcleared

/-- An exposure, and another one when its task has reported. -/
theorem exposures_owned_two :
    (machine.final {} exposedTwice).starts = 2 ∧ ∀ t ∈ machine.run {} exposedTwice, Owned t :=
  ⟨by decide +kernel, exposures_owned exposedTwice (by decide +kernel)⟩

/-- The task of the first start was left behind by a disconnection; its report takes the camera
away from the second one, which has not begun. -/
theorem exposure_disowned : ¬ ∀ ops : List Op, ∀ t ∈ machine.run {} ops, Owned t := by
  intro h
  have hlast := h overtaken _ (List.getLast_mem (by decide +kernel : machine.run {} overtaken ≠ []))
  have hbusy :
      ((machine.run {} overtaken).getLast (by decide +kernel)).after.state.busy = false := by
    decide +kernel
  have hpending : ((machine.run {} overtaken).getLast (by decide +kernel)).after.Pending 2 :=
    ⟨⟨.lock, by decide +kernel, rfl⟩, 1, by decide +kernel, by decide +kernel⟩
  exact absurd ((hlast.pending 2 hpending).symm.trans hbusy) (by decide)

end Device

end Regain.Alpaca.Camera
