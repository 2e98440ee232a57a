import Regain.Alpaca.Camera.Device

/-!
# Locks of the Alpaca camera

A task that is past its lock has it.
-/

namespace Regain.Alpaca.Camera

open Lib

def ChangeStage.holds : ChangeStage → Bool
  | .leaveLook => true
  | .thermal => true
  | .take => true
  | .close _ => true
  | .clear => true
  | .wheelStatus => true
  | .controls => true
  | _ => false

def ChangeStage.gated : ChangeStage → Bool
  | .gate => false
  | .done => false
  | _ => true

def CaptureStage.holds : CaptureStage → Bool
  | .lock => false
  | _ => true

def ShutdownStage.holds : ShutdownStage → Bool
  | .gate => false
  | .lock => false
  | _ => true

def ShutdownStage.gated : ShutdownStage → Bool
  | .gate => false
  | _ => true

namespace Device

variable {device next : Device}

def Holds (device : Device) : Owner → Prop
  | .change => ∃ change, device.change = some change ∧ change.stage.holds = true
  | .wheel => device.wheel = some .move
  | .capture exposure => ∃ stage, device.captures exposure = some stage ∧ stage.holds = true
  | .shutdown call => ∃ stage, device.shutdowns call = some stage ∧ stage.holds = true
  | .refresh => False

def Gated (device : Device) : Owner → Prop
  | .change => ∃ change, device.change = some change ∧ change.stage.gated = true
  | .shutdown call => ∃ stage, device.shutdowns call = some stage ∧ stage.gated = true
  | _ => False

structure Locked (device : Device) : Prop where
  engine : ∀ owner, device.Holds owner → device.engineOwner = some owner
  connection : ∀ owner, device.Gated owner → device.connection = some owner

section

variable {Task : Type} {holds holds' : Task → Prop} {owner owner' : Option Task}

theorem lock_kept (h : ∀ task, holds task → owner = some task)
    (hsub : ∀ task, holds' task → holds task) (howner : owner' = owner) :
    ∀ task, holds' task → owner' = some task := by
  intro task hholds
  rw [howner]
  exact h task (hsub task hholds)

theorem lock_taken (h : ∀ task, holds task → owner = some task) (hfree : owner = none)
    (task : Task) (hsub : ∀ other, other ≠ task → holds' other → holds other)
    (howner : owner' = some task) : ∀ other, holds' other → owner' = some other := by
  intro other hholds
  by_cases hother : other = task
  · rw [hother]
    exact howner
  · have hnone := h other (hsub other hother hholds)
    rw [hfree] at hnone
    cases hnone

theorem lock_released (h : ∀ task, holds task → owner = some task) (task : Task)
    (hholds : holds task) (hnot : ¬ holds' task)
    (hsub : ∀ other, other ≠ task → holds' other → holds other) :
    ∀ other, holds' other → owner' = some other := by
  intro other hother
  by_cases hsame : other = task
  · rw [hsame] at hother
    exact absurd hother hnot
  · have hboth := (h task hholds).symm.trans (h other (hsub other hsame hother))
    exact absurd (Option.some.inj hboth).symm hsame

end

structure TaskLocks (device next : Device) (owner : Owner) : Prop where
  others : ∀ other, other ≠ owner → (next.Holds other → device.Holds other)
    ∧ (next.Gated other → device.Gated other)
  engine : (next.engineOwner = device.engineOwner ∧ (next.Holds owner → device.Holds owner))
    ∨ (device.engineOwner = none ∧ next.engineOwner = some owner)
    ∨ (device.Holds owner ∧ ¬ next.Holds owner)
  connection : (next.connection = device.connection ∧ (next.Gated owner → device.Gated owner))
    ∨ (device.connection = none ∧ next.connection = some owner)
    ∨ (device.Gated owner ∧ ¬ next.Gated owner)

theorem TaskLocks.locked {owner : Owner} (hlocks : TaskLocks device next owner)
    (h : Locked device) : Locked next := by
  have hholds := fun other hother => (hlocks.others other hother).1
  have hgated := fun other hother => (hlocks.others other hother).2
  constructor
  · rcases hlocks.engine with ⟨hsame, hkept⟩ | ⟨hfree, howner⟩ | ⟨hheld, hnot⟩
    · refine lock_kept h.engine ?_ hsame
      intro other hother
      by_cases hown : other = owner
      · subst hown
        exact hkept hother
      · exact hholds other hown hother
    · exact lock_taken h.engine hfree owner hholds howner
    · exact lock_released h.engine owner hheld hnot hholds
  · rcases hlocks.connection with ⟨hsame, hkept⟩ | ⟨hfree, howner⟩ | ⟨hheld, hnot⟩
    · refine lock_kept h.connection ?_ hsame
      intro other hother
      by_cases hown : other = owner
      · subst hown
        exact hkept hother
      · exact hgated other hown hother
    · exact lock_taken h.connection hfree owner hgated howner
    · exact lock_released h.connection owner hheld hnot hgated

theorem changeLocks (device : Device) {change : ConnectionChange}
    (hchange : device.change = some change) (ok : Bool) :
    TaskLocks device (device.changeStep change ok) .change := by
  obtain ⟨client, on, wheel, stage⟩ := change
  cases stage <;> simp only [changeStep, leave, take, requireSession] <;> (repeat' split) <;>
    refine ⟨fun other hother => by cases other <;> first | exact absurd rfl hother | exact ⟨id, id⟩,
      ?_, ?_⟩ <;>
    simp_all [Holds, Gated, changeTo, setState, cancelToken, closeSession, ChangeStage.holds,
      ChangeStage.gated]

theorem wheelLocks (device : Device) {stage : WheelStage} (hwheel : device.wheel = some stage)
    (dropped : Bool) : TaskLocks device (device.wheelStep dropped stage) .wheel := by
  cases stage <;> simp only [wheelStep, take] <;> (repeat' split) <;>
    refine ⟨fun other hother => by cases other <;> first | exact absurd rfl hother | exact ⟨id, id⟩,
      ?_, ?_⟩ <;>
    simp_all [Holds, Gated, setState]

theorem captureLocks (device : Device) {exposure : Nat} {stage : CaptureStage}
    (hcapture : device.captures exposure = some stage) (frame : Bool) :
    TaskLocks device (device.captureStep exposure frame stage) (.capture exposure) := by
  cases stage <;> simp only [captureStep, take] <;> (repeat' split) <;>
    refine ⟨fun other hother => ?_, ?_, ?_⟩ <;>
    (try cases other) <;>
    simp_all [Holds, Gated, setState, captureTo, CaptureStage.holds]

theorem shutdownLocks (device : Device) {call : Nat} {stage : ShutdownStage}
    (hshutdown : device.shutdowns call = some stage) :
    TaskLocks device (device.shutdownStep call stage) (.shutdown call) := by
  cases stage <;> simp only [shutdownStep, take] <;> (repeat' split) <;>
    refine ⟨fun other hother => ?_, ?_, ?_⟩ <;>
    (try cases other) <;>
    simp_all [Holds, Gated, setState, shutdownTo, closeSession,
      ShutdownStage.holds, ShutdownStage.gated]

end Device

end Regain.Alpaca.Camera
