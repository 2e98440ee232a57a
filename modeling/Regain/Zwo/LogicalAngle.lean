import Mathlib.Tactic.LinearCombination
import Mathlib.Tactic.Ring
import Regain.Lib.Rounding
import Regain.Zwo.RotationRun

/-!
# The logical angle of a rotator

The adjuster shows a logical angle in a transform of its own, a sign and an offset. A write of the
direction or of the mechanical reference that fails may still have reached the device.
-/

namespace Regain.Zwo.Rotation

open Lib
open Routine

/-! ## The device -/

def moveTo (degrees : ℚ) : Task Unit := do
  angle degrees
  let owner ← controller
  onlyIf owner.camera.pendingReverse.isSome resolveReverse
  let owner ← controller
  moveMechanical (wrapMechanical ((degrees - owner.camera.offset) * owner.camera.sign))

def moveRelative (degrees : ℚ) : Task Unit := do
  Routine.ensure (decide (|degrees| ≤ 360)) "relative angle must be finite and within one turn"
  let state ← idle
  let owner ← controller
  moveMechanical (wrapMechanical (state.mechanicalDegrees + owner.camera.sign * degrees))

structure Device where
  /-- The mechanical angle in units of a ten-thousandth of a degree. -/
  units : Nat
  reverse : Bool

namespace Device

def mechanical (device : Device) : ℚ :=
  device.units / 10000

def sign (device : Device) : ℚ :=
  if device.reverse then -1 else 1

def apply (device : Device) : Event → Device
  | .wrote (.reference degrees) _ => { device with units := (roundAway (degrees * 10000)).toNat }
  | .wrote (.reverse enabled) _ => { device with reverse := enabled }
  | _ => device

def Tells (device : Device) (answer : Answer) : Prop :=
  (∀ report ∈ answer.status, report.units = device.units)
    ∧ ∀ reply ∈ answer.settings, decide (reply.2 ≠ 0) = device.reverse

instance (device : Device) (answer : Answer) : Decidable (device.Tells answer) :=
  inferInstanceAs (Decidable ((∀ report ∈ answer.status, report.units = device.units)
    ∧ ∀ reply ∈ answer.settings, decide (reply.2 ≠ 0) = device.reverse))

end Device

/-- A device, and which of the writes reach it, whether or not they are acknowledged. -/
structure Truth where
  device : Device
  applied : Nat → Bool

namespace Truth

def after (truth : Truth) (events : List Event) : Device :=
  events.zipIdx.foldl
    (fun device entry => if truth.applied entry.2 then device.apply entry.1 else device) truth.device

def Honest (truth : Truth) (world : World) : Prop :=
  ∀ count < world.events.length,
    (truth.after (world.events.take count)).Tells (world.answers count)

instance (truth : Truth) (world : World) : Decidable (truth.Honest world) :=
  inferInstanceAs (Decidable (∀ count < world.events.length,
    (truth.after (world.events.take count)).Tells (world.answers count)))

end Truth

/-! ## Calls -/

inductive Call where
  | status
  | settings
  | sync (degrees : ℚ)
  | restoreLogicalOffset (offset : ℚ)
  | setReverse (enabled : Bool)
  | setMechanicalReference (degrees : ℚ)
  | setLimit (degrees : Nat)

def Call.serve : Call → Task Unit
  | .status => do
    let _ ← Rotation.status
    Routine.ret ()
  | .settings => resolveReverse
  | .sync degrees => Rotation.sync degrees
  | .restoreLogicalOffset offset => Rotation.restoreLogicalOffset offset
  | .setReverse enabled => Rotation.setReverse enabled
  | .setMechanicalReference degrees => Rotation.setMechanicalReference degrees
  | .setLimit degrees => Rotation.setLimit degrees

def Call.angle (device : Device) (call : Call) (result : Progress String Unit) (logical : ℚ) : ℚ :=
  match call with
  | .sync degrees => if result.isDone then degrees else logical
  | .restoreLogicalOffset offset =>
    if result.isDone then device.sign * device.mechanical + offset else logical
  | _ => logical

def Truth.next (truth : Truth) (state : World × ℚ) (call : Call) : World × ℚ :=
  let (result, world) := call.serve state.1
  (world, call.angle (truth.after world.events) result state.2)

def Truth.connected (truth : Truth) (answers : Nat → Answer) : World :=
  start ⟨0, truth.device.reverse, none, none⟩ 0 answers

def Truth.run (truth : Truth) (answers : Nat → Answer) (calls : List Call) : World × ℚ :=
  calls.foldl truth.next (truth.connected answers, truth.device.sign * truth.device.mechanical)

/-! ## Angles -/

def Congruent (first second : ℚ) : Prop :=
  ∃ turns : ℤ, first = second + 360 * turns

variable {first second : ℚ}

theorem Congruent.of_eq (h : first = second) : Congruent first second :=
  ⟨0, by simpa using h⟩

theorem Congruent.trans {third : ℚ} (h : Congruent first second) (h' : Congruent second third) :
    Congruent first third := by
  obtain ⟨turns, hturns⟩ := h
  obtain ⟨turns', hturns'⟩ := h'
  refine ⟨turns + turns', ?_⟩
  rw [hturns, hturns']
  push_cast
  ring

theorem Congruent.add_right (h : Congruent first second) (degrees : ℚ) :
    Congruent (first + degrees) (second + degrees) := by
  obtain ⟨turns, rfl⟩ := h
  exact ⟨turns, by ring⟩

theorem remEuclid_congruent (value : ℚ) : Congruent (remEuclid value) value := by
  refine ⟨-⌊value / 360⌋, ?_⟩
  unfold remEuclid
  push_cast
  ring

theorem remEuclid_range (value : ℚ) : 0 ≤ remEuclid value ∧ remEuclid value < 360 := by
  have hle := Int.floor_le (value / 360)
  have hlt := Int.lt_floor_add_one (value / 360)
  unfold remEuclid
  constructor <;> linarith

theorem remEuclid_eq (h : Congruent first second) : remEuclid first = remEuclid second := by
  obtain ⟨turns, rfl⟩ := h
  have hshift : (second + 360 * turns) / 360 = second / 360 + turns := by ring
  unfold remEuclid
  rw [hshift, Int.floor_add_intCast]
  push_cast
  ring

theorem wrapMechanical_spec (value : ℚ) : (0 ≤ wrapMechanical value ∧ wrapMechanical value ≤ 360)
      ∧ Congruent (wrapMechanical value) value := by
  have hrange := remEuclid_range value
  have hcongruent := remEuclid_congruent value
  unfold wrapMechanical
  split
  · rename_i hzero
    refine ⟨by norm_num, Congruent.trans ⟨1, ?_⟩ hcongruent⟩
    rw [hzero.1]
    norm_num
  · exact ⟨⟨hrange.1, hrange.2.le⟩, hcongruent⟩

theorem Device.sign_mul_sign (device : Device) : device.sign * device.sign = 1 := by
  unfold Device.sign
  split <;> norm_num

theorem Congruent.sign_mul (h : Congruent first second) (device : Device) (offset : ℚ) :
    Congruent (device.sign * first + offset) (device.sign * second + offset) := by
  obtain ⟨turns, rfl⟩ := h
  unfold Device.sign
  split
  · refine ⟨-turns, ?_⟩
    push_cast
    ring
  · refine ⟨turns, ?_⟩
    ring

/-! ## What a call adds to the log -/

structure Adds (P : Event → Prop) (before after : World) : Prop where
  answers : after.answers = before.answers
  events : ∃ new, after.events = before.events ++ new ∧ ∀ event ∈ new, P event

section

variable {P : Event → Prop} {world : World}

theorem Adds.refl (world : World) : Adds P world world :=
  ⟨rfl, [], by simp, by simp⟩

theorem Adds.trans {first second third : World} (h : Adds P first second)
    (h' : Adds P second third) : Adds P first third := by
  obtain ⟨new, hnew, hevery⟩ := h.events
  obtain ⟨new', hnew', hevery'⟩ := h'.events
  refine ⟨h'.answers.trans h.answers, new ++ new', ?_, ?_⟩
  · rw [hnew', hnew, List.append_assoc]
  · intro event hmem
    rcases List.mem_append.mp hmem with hfirst | hsecond
    · exact hevery event hfirst
    · exact hevery' event hsecond

theorem Adds.mono {P' : Event → Prop} {before after : World} (h : Adds P before after)
    (himp : ∀ event, P event → P' event) : Adds P' before after := by
  obtain ⟨new, hnew, hevery⟩ := h.events
  exact ⟨h.answers, new, hnew, fun event hmem => himp event (hevery event hmem)⟩

theorem Adds.log (world : World) {event : Event} (h : P event) : Adds P world (world.log event) :=
  ⟨rfl, [event], rfl, by simpa using h⟩

theorem adds_bind {task : Task α} {next : α → Task β} (h : task.Keeps (Adds P))
    (hnext : ∀ value, (next value).Keeps (Adds P)) : (task >>= next).Keeps (Adds P) :=
  Keeps.bind (fun _ _ _ => .trans) h hnext

theorem adds_ensure (condition : Bool) (error : String) :
    (ensure condition error : Task Unit).Keeps (Adds P) :=
  keeps_ensure .refl condition error

theorem adds_ret (value : α) : (ret value : Task α).Keeps (Adds P) := .refl

theorem adds_controller : controller.Keeps (Adds P) := .refl

theorem adds_updateCamera (f : Caa → Caa) : (updateCamera f).Keeps (Adds P) :=
  fun _ => ⟨rfl, [], by simp [updateCamera, update, Routine.modify, World.set], by simp⟩

theorem adds_write {report : Write} (h : ∀ ok, P (.wrote report ok)) :
    (write report).Keeps (Adds P) :=
  fun world => .log world (h _)

theorem adds_writeChecked {report : Write} (h : ∀ ok, P (.wrote report ok)) :
    (writeChecked report).Keeps (Adds P) :=
  adds_bind (adds_write h) fun _ => adds_ensure _ _

end

section

theorem adds_query (reply : Answer → Option α) : (query reply).Keeps (Adds Event.Plain) := by
  intro world
  unfold query
  split
  · exact .log world trivial
  · exact .log world trivial

theorem adds_read : read.Keeps (Adds Event.Plain) := by
  intro world
  unfold read
  split
  · exact .log world trivial
  · exact .log world trivial

theorem adds_settings : settings.Keeps (Adds Event.Plain) := by
  unfold settings
  exact adds_bind (adds_query _) fun _ => adds_bind (adds_ensure _ _) fun _ =>
    adds_bind (adds_updateCamera _) fun _ => adds_ret _

theorem adds_resolveReverse (condition : Bool) :
    (onlyIf condition resolveReverse).Keeps (Adds Event.Plain) := by
  cases condition with
  | false => exact adds_ret ()
  | true => exact adds_bind adds_settings fun _ => adds_ret ()

theorem adds_status : status.Keeps (Adds Event.Plain) := by
  unfold status
  exact adds_bind adds_controller fun _ => adds_bind (adds_resolveReverse _) fun _ =>
    adds_bind adds_read fun _ => adds_bind (adds_ensure _ _) fun _ =>
    adds_bind (adds_updateCamera _) fun _ => adds_bind (adds_ensure _ _) fun _ =>
    adds_bind adds_controller fun _ => adds_ret _

theorem adds_idle : idle.Keeps (Adds Event.Plain) := by
  unfold idle
  exact adds_bind adds_status fun _ => adds_bind (adds_ensure _ _) fun _ =>
    adds_bind (adds_ensure _ _) fun _ => adds_ret _

theorem adds_serve (call : Call) : call.serve.Keeps (Adds Event.Plain) := by
  cases call with
  | status => exact adds_bind adds_status fun _ => adds_ret ()
  | settings => exact adds_resolveReverse true
  | sync degrees =>
    exact adds_bind (adds_ensure _ _) fun _ => adds_bind adds_idle fun _ => adds_updateCamera _
  | restoreLogicalOffset offset =>
    exact adds_bind (adds_ensure _ _) fun _ => adds_bind adds_idle fun _ => adds_updateCamera _
  | setReverse enabled =>
    refine adds_bind adds_idle fun _ => adds_bind (adds_updateCamera _) fun _ => ?_
    refine adds_bind (adds_write fun _ => trivial) fun _ => ?_
    refine adds_bind (Keeps.attempt adds_settings) fun _ => adds_bind (adds_ensure _ _) fun _ => ?_
    exact adds_bind (keeps_ofExcept .refl _) fun _ => adds_ensure _ _
  | setMechanicalReference degrees =>
    refine adds_bind (adds_ensure _ _) fun _ => adds_bind adds_idle fun _ => ?_
    refine adds_bind (adds_ensure _ _) fun _ => adds_bind (adds_updateCamera _) fun _ => ?_
    refine adds_bind (adds_write fun _ => trivial) fun _ => adds_bind adds_status fun _ => ?_
    refine adds_bind (adds_updateCamera _) fun _ => adds_bind (adds_ensure _ _) fun _ => ?_
    exact adds_ensure _ _
  | setLimit degrees =>
    refine adds_bind (adds_ensure _ _) fun _ => adds_bind adds_idle fun _ => ?_
    refine adds_bind (adds_ensure _ _) fun _ => ?_
    refine adds_bind (adds_writeChecked fun _ => trivial) fun _ => adds_bind adds_status fun _ => ?_
    exact adds_ensure _ _

end

/-! ## Honest replies -/

@[simp] theorem Truth.after_snoc (truth : Truth) (events : List Event) (event : Event) :
    truth.after (events ++ [event]) = if truth.applied events.length
      then (truth.after events).apply event else truth.after events := by
  simp [after, List.zipIdx_append]

theorem Truth.Honest.before {truth : Truth} {P : Event → Prop} {before after : World}
    (h : truth.Honest after) (hadds : Adds P before after) : truth.Honest before := by
  obtain ⟨new, hnew, -⟩ := hadds.events
  intro count hcount
  have hlater := h count (by rw [hnew, List.length_append]; omega)
  rwa [hadds.answers, hnew, List.take_append_of_le_length hcount.le] at hlater

theorem Truth.Honest.last {truth : Truth} {world : World} {event : Event}
    (h : truth.Honest (world.log event)) : (truth.after world.events).Tells world.answer := by
  have hlast := h world.events.length (by simp [World.log])
  simpa [World.log, World.answer] using hlast

def Given (truth : Truth) (post : Progress String α → World → Prop) :
    Progress String α → World → Prop :=
  fun result after => truth.Honest after → post result after

theorem given_bind {truth : Truth} {P : Event → Prop} {task : Task α} {next : α → Task β}
    {world : World} {mid : Progress String α → World → Prop}
    {post : Progress String β → World → Prop} (h : task.Meets world (Given truth mid))
    (hadds : ∀ value, (next value).Keeps (Adds P))
    (hfail : ∀ error world', mid (.failed error) world' → post (.failed error) world')
    (hpending : ∀ world', mid .pending world' → post .pending world')
    (hnext : ∀ value world', mid (.done value) world' →
      (next value).Meets world' (Given truth post)) :
    (task >>= next).Meets world (Given truth post) := by
  rw [meets_bind]
  unfold Meets at h ⊢
  cases hresult : (task world).1 with
  | done value =>
    rw [hresult] at h
    rw [continues_done]
    intro hhonest
    have hbefore := hhonest.before (hadds value (task world).2)
    exact hnext value _ (h hbefore) hhonest
  | failed error =>
    rw [hresult] at h
    exact fun hhonest => hfail error _ (h hhonest)
  | pending =>
    rw [hresult] at h
    exact fun hhonest => hpending _ (h hhonest)

def Caa.held (caa : Caa) (device : Device) : ℚ :=
  match caa.pendingReverse, caa.pendingReference with
  | some (_, logical), _ => logical
  | none, some logical => logical
  | none, none => device.sign * device.mechanical + caa.offset

/-- An unresolved direction was written at the angle where the device stands, after the reference
was resolved. -/
structure Consistent (caa : Caa) (device : Device) : Prop where
  pending : ∀ mechanical logical, caa.pendingReverse = some (mechanical, logical) →
    mechanical = device.mechanical ∧ caa.pendingReference = none
  direction : caa.pendingReverse = none → caa.reverse = device.reverse

/-! ## What a call keeps -/

structure Kept (truth : Truth) (before after : World) : Prop where
  device : truth.after after.events = truth.after before.events
  consistent : Consistent after.controller.camera (truth.after after.events)
  held : after.controller.camera.held (truth.after after.events)
    = before.controller.camera.held (truth.after before.events)

structure Resolved (caa : Caa) : Prop where
  reverse : caa.pendingReverse = none
  reference : caa.pendingReference = none

theorem Consistent.sign {caa : Caa} {device : Device} (h : Consistent caa device)
    (hreverse : caa.pendingReverse = none) : caa.sign = device.sign := by
  unfold Caa.sign Device.sign
  rw [h.direction hreverse]

theorem Resolved.held {caa : Caa} (h : Resolved caa) (device : Device) :
    caa.held device = device.sign * device.mechanical + caa.offset := by
  unfold Caa.held
  rw [h.reverse, h.reference]

section

variable {truth : Truth} {world : World}

theorem Kept.refl (h : Consistent world.controller.camera (truth.after world.events)) :
    Kept truth world world :=
  ⟨rfl, h, rfl⟩

theorem Kept.trans {first second third : World} (h : Kept truth first second)
    (h' : Kept truth second third) : Kept truth first third :=
  ⟨h'.device.trans h.device, h'.consistent, h'.held.trans h.held⟩

theorem Kept.log (h : Consistent world.controller.camera (truth.after world.events)) {event : Event}
    (hevent : ∀ device : Device, device.apply event = device) :
    Kept truth world (world.log event) := by
  have hsame : truth.after (world.log event).events = truth.after world.events := by
    simp [World.log, hevent]
  refine ⟨hsame, ?_, ?_⟩
  · rw [hsame]
    exact h
  · rw [hsame]
    rfl

def Finds (truth : Truth) (before : World) (P : α → World → Prop) :
    Progress String α → World → Prop
  | .done value, after => Kept truth before after ∧ P value after
  | .failed _, after => Kept truth before after
  | .pending, _ => False

theorem finds_bind {task : Task α} {next : α → Task β}
    {Q : α → World → Prop} {Q' : β → World → Prop}
    (h : task.Meets world (Given truth (Finds truth world Q)))
    (hadds : ∀ value, (next value).Keeps (Adds Event.Plain))
    (hnext : ∀ value mid, Kept truth world mid → Q value mid →
      (next value).Meets mid (Given truth (Finds truth mid Q'))) :
    (task >>= next).Meets world (Given truth (Finds truth world Q')) := by
  refine given_bind h hadds (fun _ _ hfail => hfail) (fun _ hpending => hpending) ?_
  intro value mid hmid
  refine (hnext value mid hmid.1 hmid.2).mono fun result after hafter hhonest => ?_
  have hfound := hafter hhonest
  cases result with
  | done value => exact ⟨hmid.1.trans hfound.1, hfound.2⟩
  | failed error => exact hmid.1.trans hfound
  | pending => exact hfound.elim

theorem finds_ensure (h : Consistent world.controller.camera (truth.after world.events))
    (condition : Bool) (error : String) : (ensure condition error : Task Unit).Meets world
      (Given truth (Finds truth world fun _ after => condition = true ∧ after = world)) := by
  cases condition with
  | true => exact fun _ => ⟨.refl h, rfl, rfl⟩
  | false => exact fun _ => .refl h

theorem finds_query (h : Consistent world.controller.camera (truth.after world.events))
    (reply : Answer → Option α) :
    (query reply).Meets world (Given truth (Finds truth world fun value after =>
      after.controller = world.controller ∧ reply world.answer = some value
        ∧ (truth.after world.events).Tells world.answer)) := by
  unfold Meets query
  split
  · exact fun _ => .log h fun _ => rfl
  · exact fun hhonest => ⟨.log h fun _ => rfl, rfl, by assumption, hhonest.last⟩

theorem finds_read (h : Consistent world.controller.camera (truth.after world.events)) :
    read.Meets world (Given truth (Finds truth world fun report after =>
      after.controller = world.controller ∧ report.units = (truth.after world.events).units)) := by
  unfold Meets read
  split
  · exact fun _ => .log h fun _ => rfl
  · next report hreport =>
    refine fun hhonest => ⟨.log h fun _ => rfl, rfl, ?_⟩
    exact hhonest.last.1 report hreport

theorem finds_updateCamera {f : Caa → Caa}
    (hconsistent : Consistent (f world.controller.camera) (truth.after world.events))
    (hheld : (f world.controller.camera).held (truth.after world.events)
      = world.controller.camera.held (truth.after world.events)) :
    (updateCamera f).Meets world (Given truth (Finds truth world fun _ after =>
      after = world.set { world.controller with camera := f world.controller.camera })) :=
  fun _ => ⟨⟨rfl, hconsistent, hheld⟩, rfl⟩

theorem finds_ret (h : Consistent world.controller.camera (truth.after world.events)) (value : α) :
    (ret value : Task α).Meets world
      (Given truth (Finds truth world fun found after => found = value ∧ after = world)) :=
  fun _ => ⟨.refl h, rfl, rfl⟩

def Caa.settle (caa : Caa) (reverse : Bool) : Caa :=
  match caa.pendingReverse with
  | some (mechanical, logical) =>
    { caa with
      pendingReverse := none
      reverse := reverse
      offset := logical - { caa with reverse := reverse }.sign * mechanical }
  | none => { caa with reverse := reverse }

/-- A truthful reading of the direction keeps the held angle. -/
structure Settled (caa : Caa) (device : Device) (settled : Caa) : Prop where
  consistent : Consistent settled device
  held : settled.held device = caa.held device
  pendingReverse : settled.pendingReverse = none
  pendingReference : settled.pendingReference = caa.pendingReference

theorem Consistent.settle {caa : Caa} {device : Device} (h : Consistent caa device) :
    Settled caa device (caa.settle device.reverse) := by
  obtain ⟨offset, reverse, pendingReverse, pendingReference⟩ := caa
  cases pendingReverse with
  | none => exact ⟨⟨fun _ _ hsome => (by cases hsome), fun _ => rfl⟩, rfl, rfl, rfl⟩
  | some pending =>
    obtain ⟨mechanical, logical⟩ := pending
    obtain ⟨hmechanical, hreference⟩ := h.pending mechanical logical rfl
    dsimp only at hmechanical hreference
    refine ⟨⟨fun _ _ hsome => (by cases hsome), fun _ => rfl⟩, ?_, rfl, rfl⟩
    simp only [Caa.held, Caa.settle, Caa.sign, Device.sign, hreference, hmechanical]
    ring

theorem finds_settings (h : Consistent world.controller.camera (truth.after world.events)) :
    settings.Meets world (Given truth (Finds truth world fun found after =>
      after.controller.camera.pendingReverse = none
        ∧ after.controller.camera.pendingReference = world.controller.camera.pendingReference
        ∧ found.reverse = (truth.after after.events).reverse)) := by
  unfold settings
  refine finds_bind (finds_query h _) (fun _ => ?_) ?_
  · exact adds_bind (adds_ensure _ _) fun _ => adds_bind (adds_updateCamera _) fun _ => adds_ret _
  intro reply first hfirst hquery
  obtain ⟨hsame, hreply, htells⟩ := hquery
  have hreverse := htells.2 reply hreply
  rw [← hfirst.device] at hreverse
  refine finds_bind (finds_ensure hfirst.consistent _ _) (fun _ => ?_) ?_
  · exact adds_bind (adds_updateCamera _) fun _ => adds_ret _
  rintro _ _ - ⟨-, rfl⟩
  have hsettled := hfirst.consistent.settle
  rw [← hreverse] at hsettled
  refine finds_bind (finds_updateCamera hsettled.consistent hsettled.held)
    (fun _ => adds_ret _) ?_
  rintro _ _ hlast rfl
  refine (finds_ret hlast.consistent _).mono fun result after hafter hhonest => ?_
  have hfound := hafter hhonest
  cases result with
  | failed error => exact hfound
  | pending => exact hfound.elim
  | done found =>
    obtain ⟨hkept, rfl, rfl⟩ := hfound
    exact ⟨hkept, hsettled.pendingReverse,
      hsettled.pendingReference.trans (congrArg (·.camera.pendingReference) hsame), hreverse⟩

theorem finds_resolveReverse (h : Consistent world.controller.camera (truth.after world.events)) :
    (onlyIf world.controller.camera.pendingReverse.isSome resolveReverse).Meets world
      (Given truth (Finds truth world fun _ after => after.controller.camera.pendingReverse = none
          ∧ after.controller.camera.pendingReference
            = world.controller.camera.pendingReference)) := by
  cases hcase : world.controller.camera.pendingReverse with
  | none => exact fun _ => ⟨.refl h, hcase, rfl⟩
  | some pending =>
    refine finds_bind (finds_settings h) (fun _ => adds_ret ()) ?_
    intro found after hkept hfound
    exact fun _ => ⟨.refl hkept.consistent, hfound.1, hfound.2.1⟩

def Caa.locate (caa : Caa) (mechanical : ℚ) : Caa :=
  match caa.pendingReference with
  | some logical =>
    { caa with pendingReference := none, offset := logical - caa.sign * mechanical }
  | none => caa

/-- A truthful reading of the position keeps the held angle. -/
structure Located (caa : Caa) (device : Device) (located : Caa) : Prop where
  consistent : Consistent located device
  resolved : Resolved located
  held : located.held device = caa.held device

theorem Consistent.locate {caa : Caa} {device : Device} (h : Consistent caa device)
    (hreverse : caa.pendingReverse = none) : Located caa device (caa.locate device.mechanical) := by
  have hsign := h.sign hreverse
  obtain ⟨offset, reverse, pendingReverse, pendingReference⟩ := caa
  dsimp only at hreverse
  subst hreverse
  cases pendingReference with
  | none => exact ⟨h, ⟨rfl, rfl⟩, rfl⟩
  | some logical =>
    refine ⟨⟨fun _ _ hsome => (by cases hsome), h.direction⟩, ⟨rfl, rfl⟩, ?_⟩
    simp only [Caa.held, Caa.locate]
    rw [hsign]
    ring

/-- What a status tells of a transform without pending corrections. -/
structure Shows (truth : Truth) (found : Status) (after : World) : Prop where
  resolved : Resolved after.controller.camera
  mechanical : found.mechanicalDegrees = (truth.after after.events).mechanical
  logical : found.logicalDegrees
    = remEuclid (after.controller.camera.held (truth.after after.events))

theorem finds_status (h : Consistent world.controller.camera (truth.after world.events)) :
    status.Meets world (Given truth (Finds truth world (Shows truth))) := by
  unfold status
  rw [meets_bind, meets_controller, continues_done]
  refine finds_bind (finds_resolveReverse h) (fun _ => ?_) ?_
  · exact adds_bind adds_read fun _ => adds_bind (adds_ensure _ _) fun _ =>
      adds_bind (adds_updateCamera _) fun _ => adds_bind (adds_ensure _ _) fun _ =>
      adds_bind adds_controller fun _ => adds_ret _
  intro _ first hfirst hreverse
  refine finds_bind (finds_read hfirst.consistent) (fun _ => ?_) ?_
  · exact adds_bind (adds_ensure _ _) fun _ => adds_bind (adds_updateCamera _) fun _ =>
      adds_bind (adds_ensure _ _) fun _ => adds_bind adds_controller fun _ => adds_ret _
  intro report second hsecond hread
  obtain ⟨hsame, hunits⟩ := hread
  have hmechanical : (report.units / 10000 : ℚ) = (truth.after second.events).mechanical := by
    rw [hunits, hsecond.device]
    rfl
  have hlocated := hsecond.consistent.locate (by rw [hsame]; exact hreverse.1)
  rw [← hmechanical] at hlocated
  refine finds_bind (finds_ensure hsecond.consistent _ _) (fun _ => ?_) ?_
  · exact adds_bind (adds_updateCamera _) fun _ => adds_bind (adds_ensure _ _) fun _ =>
      adds_bind adds_controller fun _ => adds_ret _
  rintro _ second - ⟨-, rfl⟩
  refine finds_bind (finds_updateCamera hlocated.consistent hlocated.held) (fun _ => ?_) ?_
  · exact adds_bind (adds_ensure _ _) fun _ => adds_bind adds_controller fun _ => adds_ret _
  rintro _ _ hlast rfl
  refine finds_bind (finds_ensure hlast.consistent _ _) (fun _ => ?_) ?_
  · exact adds_bind adds_controller fun _ => adds_ret _
  rintro _ _ - ⟨-, rfl⟩
  rw [meets_bind, meets_controller, continues_done]
  refine fun _ => ⟨.refl hlast.consistent, hlocated.resolved, hmechanical, ?_⟩
  have hsign := hlocated.consistent.sign hlocated.resolved.reverse
  have hheld := hlocated.resolved.held (truth.after second.events)
  change remEuclid ((second.controller.camera.locate _).sign * _
    + (second.controller.camera.locate _).offset) = _
  rw [hsign]
  rw [hmechanical] at hheld ⊢
  exact congrArg remEuclid hheld.symm

theorem finds_idle (h : Consistent world.controller.camera (truth.after world.events)) :
    idle.Meets world (Given truth (Finds truth world (Shows truth))) := by
  unfold idle
  refine finds_bind (finds_status h) (fun _ => ?_) ?_
  · exact adds_bind (adds_ensure _ _) fun _ => adds_bind (adds_ensure _ _) fun _ => adds_ret _
  intro found first hfirst hfound
  refine finds_bind (finds_ensure hfirst.consistent _ _) (fun _ => ?_) ?_
  · exact adds_bind (adds_ensure _ _) fun _ => adds_ret _
  rintro _ first - ⟨-, rfl⟩
  refine finds_bind (finds_ensure hfirst.consistent _ _) (fun _ => adds_ret _) ?_
  rintro _ first - ⟨-, rfl⟩
  exact fun _ => ⟨.refl hfirst.consistent, hfound⟩

end

/-! ## Settings -/

structure Holds (truth : Truth) (logical : ℚ) (world : World) : Prop where
  consistent : Consistent world.controller.camera (truth.after world.events)
  held : Congruent (world.controller.camera.held (truth.after world.events)) logical

section

variable {truth : Truth} {logical : ℚ} {world : World}

theorem Kept.holds {before after : World} (h : Kept truth before after)
    (hholds : Holds truth logical before) : Holds truth logical after := by
  refine ⟨h.consistent, ?_⟩
  rw [h.held]
  exact hholds.held

theorem holds_bind {P : Event → Prop} {task : Task α} {next : α → Task β} {Q : α → World → Prop}
    {post : Progress String β → World → Prop} (hholds : Holds truth logical world)
    (h : task.Meets world (Given truth (Finds truth world Q)))
    (hadds : ∀ value, (next value).Keeps (Adds P))
    (hfail : ∀ error mid, Holds truth logical mid → post (.failed error) mid)
    (hnext : ∀ value mid, Holds truth logical mid → Q value mid →
      (next value).Meets mid (Given truth post)) :
    (task >>= next).Meets world (Given truth post) := by
  refine given_bind h hadds ?_ (fun _ hpending => hpending.elim) ?_
  · exact fun error mid hkept => hfail error mid (hkept.holds hholds)
  · exact fun value mid hmid => hnext value mid (hmid.1.holds hholds) hmid.2

theorem holds_last {task : Task α} {Q : α → World → Prop} (hholds : Holds truth logical world)
    (h : task.Meets world (Given truth (Finds truth world Q))) :
    task.Meets world (Given truth fun _ after => Holds truth logical after) := by
  refine h.mono fun result after hafter hhonest => ?_
  have hfound := hafter hhonest
  cases result with
  | done value => exact hfound.1.holds hholds
  | failed error => exact hfound.holds hholds
  | pending => exact hfound.elim

variable {found : Status}

theorem holds_offset (hholds : Holds truth logical world) (hshows : Shows truth found world)
    (offset : ℚ) :
    Holds truth ((truth.after world.events).sign * (truth.after world.events).mechanical + offset)
      (world.set { world.controller with
        camera := { world.controller.camera with offset := offset } }) := by
  have hresolved : Resolved { world.controller.camera with offset := offset } :=
    ⟨hshows.resolved.reverse, hshows.resolved.reference⟩
  refine ⟨⟨?_, fun _ => hholds.consistent.direction hshows.resolved.reverse⟩, ?_⟩
  · intro mechanical logical hsome
    exact absurd (hshows.resolved.reverse.symm.trans hsome) (by simp)
  · exact .of_eq (hresolved.held (truth.after world.events))

theorem sync_holds (hholds : Holds truth logical world) (degrees : ℚ) :
    (sync degrees).Meets world (Given truth fun result after =>
      Holds truth (if result.isDone then degrees else logical) after) := by
  unfold sync
  refine holds_bind hholds (finds_ensure hholds.consistent _ _) (P := Event.Plain) (fun _ => ?_)
    (fun _ _ h => h) ?_
  · exact adds_bind adds_idle fun _ => adds_updateCamera _
  rintro _ world hholds ⟨-, rfl⟩
  refine holds_bind hholds (finds_idle hholds.consistent) (P := Event.Plain)
    (fun _ => adds_updateCamera _) (fun _ _ h => h) ?_
  rintro found after hholds hshows -
  have hoffset := holds_offset hholds hshows
    (degrees - after.controller.camera.sign * found.mechanicalDegrees)
  have hangle : (truth.after after.events).sign * (truth.after after.events).mechanical
      + (degrees - after.controller.camera.sign * found.mechanicalDegrees) = degrees := by
    rw [hshows.mechanical, hholds.consistent.sign hshows.resolved.reverse]
    ring
  rw [hangle] at hoffset
  exact hoffset

theorem restoreLogicalOffset_holds (hholds : Holds truth logical world) (offset : ℚ) :
    (restoreLogicalOffset offset).Meets world (Given truth fun result after =>
      Holds truth (if result.isDone then
        (truth.after after.events).sign * (truth.after after.events).mechanical + offset
        else logical) after) := by
  unfold restoreLogicalOffset
  refine holds_bind hholds (finds_ensure hholds.consistent _ _) (P := Event.Plain) (fun _ => ?_)
    (fun _ _ h => h) ?_
  · exact adds_bind adds_idle fun _ => adds_updateCamera _
  rintro _ world hholds ⟨-, rfl⟩
  refine holds_bind hholds (finds_idle hholds.consistent) (P := Event.Plain)
    (fun _ => adds_updateCamera _) (fun _ _ h => h) ?_
  rintro found after hholds hshows -
  exact holds_offset hholds hshows offset

theorem Shows.congruent (hshows : Shows truth found world) (hholds : Holds truth logical world) :
    Congruent found.logicalDegrees logical := by
  rw [hshows.logical]
  exact (remEuclid_congruent _).trans hholds.held

theorem holds_then {P : Event → Prop} {task : Task α} {next : α → Task β}
    (h : task.Meets world (Given truth fun _ after => Holds truth logical after))
    (hadds : ∀ value, (next value).Keeps (Adds P)) (hnext : ∀ value mid, Holds truth logical mid →
      (next value).Meets mid (Given truth fun _ after => Holds truth logical after)) :
    (task >>= next).Meets world (Given truth fun _ after => Holds truth logical after) :=
  given_bind h hadds (fun _ _ hmid => hmid) (fun _ hmid => hmid) hnext

theorem holds_attempt {task : Task α}
    (h : task.Meets world (Given truth fun _ after => Holds truth logical after)) :
    (task.attempt : Task (Except String α)).Meets world
      (Given truth fun _ after => Holds truth logical after) := by
  rw [meets_attempt]
  refine h.mono fun result after hafter => ?_
  cases result with
  | done value => exact hafter
  | failed error => exact hafter
  | pending => exact hafter

theorem holds_ensure (hholds : Holds truth logical world) (condition : Bool) (error : String) :
    (ensure condition error : Task Unit).Meets world
      (Given truth fun _ after => Holds truth logical after) :=
  holds_last hholds (finds_ensure hholds.consistent condition error)

theorem holds_ofExcept (hholds : Holds truth logical world) (result : Except String α) :
    (ofExcept result : Task α).Meets world
      (Given truth fun _ after => Holds truth logical after) := by
  cases result with
  | ok value => exact fun _ => hholds
  | error error => exact fun _ => hholds

theorem holds_pendingReverse (hholds : Holds truth logical world) (hshows : Shows truth found world)
    (enabled ok : Bool) :
    Holds truth logical ((world.set { world.controller with
      camera := { world.controller.camera with
        pendingReverse := some (found.mechanicalDegrees, found.logicalDegrees) } }).log
      (.wrote (.reverse enabled) ok)) := by
  refine ⟨⟨?_, fun hnone => (by cases hnone)⟩, hshows.congruent hholds⟩
  intro mechanical logical hsome
  cases hsome
  refine ⟨?_, hshows.resolved.reference⟩
  rw [hshows.mechanical]
  simp only [World.log, World.set, Truth.after_snoc]
  split <;> rfl

theorem holds_pendingReference (hholds : Holds truth logical world)
    (hshows : Shows truth found world) (degrees : ℚ) (ok : Bool) :
    Holds truth logical ((world.set { world.controller with
      camera := { world.controller.camera with
        pendingReference := some found.logicalDegrees } }).log
      (.wrote (.reference degrees) ok)) := by
  refine ⟨⟨?_, fun _ => ?_⟩, ?_⟩
  · intro mechanical logical hsome
    exact absurd (hshows.resolved.reverse.symm.trans hsome) (by simp)
  · have hdirection := hholds.consistent.direction hshows.resolved.reverse
    simp only [World.log, World.set, Truth.after_snoc]
    split <;> exact hdirection
  · have hheld : ∀ device : Device, ({ world.controller.camera with
        pendingReference := some found.logicalDegrees } : Caa).held device
          = found.logicalDegrees := by
      intro device
      simp only [Caa.held, hshows.resolved.reverse]
    exact (Congruent.of_eq (hheld _)).trans (hshows.congruent hholds)

theorem setReverse_holds (hholds : Holds truth logical world) (enabled : Bool) :
    (setReverse enabled).Meets world (Given truth fun _ after => Holds truth logical after) := by
  have hrest : ∀ (written : Bool) (found : Except String Settings),
      (ensure written writeFailed >>= fun _ => ofExcept found >>= fun settings =>
        ensure (settings.reverse == enabled) "CAA did not accept reverse setting" :
          Task Unit).Keeps (Adds Event.Plain) := fun written found =>
    adds_bind (adds_ensure _ _) fun _ => adds_bind (keeps_ofExcept .refl _) fun _ => adds_ensure _ _
  unfold setReverse
  refine holds_bind hholds (finds_idle hholds.consistent) (P := Event.Plain) (fun _ => ?_)
    (fun _ _ h => h) ?_
  · exact adds_bind (adds_updateCamera _) fun _ => adds_bind (adds_write fun _ => trivial) fun _ =>
      adds_bind (Keeps.attempt adds_settings) fun _ => hrest _ _
  intro found first hholds hshows
  rw [meets_bind]
  change Meets _ (first.set _) _
  refine holds_then (fun _ => holds_pendingReverse hholds hshows enabled _) (P := Event.Plain)
    (fun _ => adds_bind (Keeps.attempt adds_settings) fun _ => hrest _ _) ?_
  intro written second hholds
  refine holds_then (holds_attempt (holds_last hholds (finds_settings hholds.consistent)))
    (P := Event.Plain) (fun _ => hrest _ _) ?_
  intro settings third hholds
  refine holds_then (holds_ensure hholds _ _) (P := Event.Plain)
    (fun _ => adds_bind (keeps_ofExcept .refl _) fun _ => adds_ensure _ _) ?_
  intro _ fourth hholds
  refine holds_then (holds_ofExcept hholds _) (P := Event.Plain) (fun _ => adds_ensure _ _) ?_
  exact fun _ _ hholds => holds_ensure hholds _ _

theorem setMechanicalReference_holds (hholds : Holds truth logical world) (degrees : ℚ) :
    (setMechanicalReference degrees).Meets world
      (Given truth fun _ after => Holds truth logical after) := by
  unfold setMechanicalReference
  refine holds_then (holds_ensure hholds _ _) (P := Event.Plain) (fun _ => ?_) ?_
  · exact adds_bind adds_idle fun _ => adds_bind (adds_ensure _ _) fun _ =>
      adds_bind (adds_updateCamera _) fun _ => adds_bind (adds_write fun _ => trivial) fun _ =>
      adds_bind adds_status fun _ => adds_bind (adds_updateCamera _) fun _ =>
      adds_bind (adds_ensure _ _) fun _ => adds_ensure _ _
  intro _ first hholds
  refine holds_bind hholds (finds_idle hholds.consistent) (P := Event.Plain) (fun _ => ?_)
    (fun _ _ h => h) ?_
  · exact adds_bind (adds_ensure _ _) fun _ => adds_bind (adds_updateCamera _) fun _ =>
      adds_bind (adds_write fun _ => trivial) fun _ => adds_bind adds_status fun _ =>
      adds_bind (adds_updateCamera _) fun _ => adds_bind (adds_ensure _ _) fun _ => adds_ensure _ _
  intro found second hholds hshows
  have hlogical := hshows.congruent hholds
  refine holds_bind hholds (finds_ensure hholds.consistent _ _) (P := Event.Plain) (fun _ => ?_)
    (fun _ _ h => h) ?_
  · exact adds_bind (adds_updateCamera _) fun _ => adds_bind (adds_write fun _ => trivial) fun _ =>
      adds_bind adds_status fun _ => adds_bind (adds_updateCamera _) fun _ =>
      adds_bind (adds_ensure _ _) fun _ => adds_ensure _ _
  rintro _ second hholds ⟨-, rfl⟩
  rw [meets_bind]
  change Meets _ (second.set _) _
  refine holds_then (fun _ => holds_pendingReference hholds hshows degrees _) (P := Event.Plain)
    (fun _ => ?_) ?_
  · exact adds_bind adds_status fun _ => adds_bind (adds_updateCamera _) fun _ =>
      adds_bind (adds_ensure _ _) fun _ => adds_ensure _ _
  intro written third hholds
  refine holds_bind hholds (finds_status hholds.consistent) (P := Event.Plain) (fun _ => ?_)
    (fun _ _ h => h) ?_
  · exact adds_bind (adds_updateCamera _) fun _ => adds_bind (adds_ensure _ _) fun _ =>
      adds_ensure _ _
  intro after fourth hholds hafter
  rw [meets_bind]
  change Meets _ (fourth.set _) _
  -- The status has resolved the reference, and the offset is set once more.
  have hoffset := holds_offset hholds hafter
    (found.logicalDegrees - fourth.controller.camera.sign * after.mechanicalDegrees)
  have hangle : (truth.after fourth.events).sign * (truth.after fourth.events).mechanical
      + (found.logicalDegrees - fourth.controller.camera.sign * after.mechanicalDegrees)
        = found.logicalDegrees := by
    rw [hafter.mechanical, hholds.consistent.sign hafter.resolved.reverse]
    ring
  rw [hangle] at hoffset
  have hholds : Holds truth logical _ := ⟨hoffset.consistent, hoffset.held.trans hlogical⟩
  refine holds_then (holds_ensure hholds _ _) (P := Event.Plain) (fun _ => adds_ensure _ _) ?_
  exact fun _ _ hholds => holds_ensure hholds _ _

theorem setLimit_holds (hholds : Holds truth logical world) (degrees : Nat) :
    (setLimit degrees).Meets world (Given truth fun _ after => Holds truth logical after) := by
  unfold setLimit
  refine holds_then (holds_ensure hholds _ _) (P := Event.Plain) (fun _ => ?_) ?_
  · exact adds_bind adds_idle fun _ => adds_bind (adds_ensure _ _) fun _ =>
      adds_bind (adds_writeChecked fun _ => trivial) fun _ => adds_bind adds_status fun _ =>
      adds_ensure _ _
  intro _ first hholds
  refine holds_then (holds_last hholds (finds_idle hholds.consistent)) (P := Event.Plain)
    (fun _ => ?_) ?_
  · exact adds_bind (adds_ensure _ _) fun _ =>
      adds_bind (adds_writeChecked fun _ => trivial) fun _ => adds_bind adds_status fun _ =>
      adds_ensure _ _
  intro found second hholds
  refine holds_then (holds_ensure hholds _ _) (P := Event.Plain) (fun _ => ?_) ?_
  · exact adds_bind (adds_writeChecked fun _ => trivial) fun _ => adds_bind adds_status fun _ =>
      adds_ensure _ _
  intro _ third hholds
  have hwrite : (writeChecked (.limit degrees)).Meets third
      (Given truth fun _ after => Holds truth logical after) := by
    refine holds_then (fun _ => (Kept.log hholds.consistent fun _ => rfl).holds hholds)
      (P := Event.Plain) (fun _ => adds_ensure _ _) ?_
    exact fun _ _ hholds => holds_ensure hholds _ _
  refine holds_then hwrite (P := Event.Plain)
    (fun _ => adds_bind adds_status fun _ => adds_ensure _ _) ?_
  intro _ fourth hholds
  refine holds_then (holds_last hholds (finds_status hholds.consistent)) (P := Event.Plain)
    (fun _ => adds_ensure _ _) ?_
  exact fun _ _ hholds => holds_ensure hholds _ _

theorem serve_holds (hholds : Holds truth logical world) (call : Call) :
    call.serve.Meets world (Given truth fun result after =>
      Holds truth (call.angle (truth.after after.events) result logical) after) := by
  cases call with
  | status =>
    refine holds_then (holds_last hholds (finds_status hholds.consistent)) (P := Event.Plain)
      (fun _ => adds_ret _) ?_
    exact fun _ _ hholds _ => hholds
  | settings =>
    refine holds_then (holds_last hholds (finds_settings hholds.consistent)) (P := Event.Plain)
      (fun _ => adds_ret _) ?_
    exact fun _ _ hholds _ => hholds
  | sync degrees => exact sync_holds hholds degrees
  | restoreLogicalOffset offset => exact restoreLogicalOffset_holds hholds offset
  | setReverse enabled => exact setReverse_holds hholds enabled
  | setMechanicalReference degrees => exact setMechanicalReference_holds hholds degrees
  | setLimit degrees => exact setLimit_holds hholds degrees

end

/-! ## Moves -/

def Caa.Maps (caa : Caa) (target degrees : ℚ) : Prop :=
  Congruent (caa.sign * target + caa.offset) degrees

def Event.Toward (target : ℚ) (event : Event) : Prop :=
  event.Plain ∨ ∃ limit ok, event = .wrote (.start target limit) ok

theorem adds_moveMechanical (target : ℚ) :
    (moveMechanical target).Keeps (Adds (Event.Toward target)) := by
  unfold moveMechanical
  refine adds_bind (adds_ensure _ _) fun _ => ?_
  refine adds_bind (adds_idle.mono fun _ _ h => h.mono fun _ => .inl) fun _ => ?_
  refine adds_bind (adds_ensure _ _) fun _ => ?_
  exact adds_writeChecked fun ok => .inr ⟨_, ok, rfl⟩

section

variable {truth : Truth} {logical : ℚ} {world : World}

theorem target_of_mem {new target : ℚ} {limit : Nat} {ok : Bool} {after : World}
    (hplain : ∀ event ∈ world.events, event.Plain) (hadds : Adds (Event.Toward target) world after)
    (hmem : Event.wrote (.start new limit) ok ∈ after.events) : new = target := by
  obtain ⟨added, hadded, hevery⟩ := hadds.events
  rw [hadded, List.mem_append] at hmem
  rcases hmem with hold | hnew
  · exact (hplain _ hold).elim
  · rcases hevery _ hnew with hplain | ⟨_, _, heq⟩
    · exact hplain.elim
    · cases heq
      rfl

theorem Adds.plain {before after : World} (h : Adds Event.Plain before after)
    (hplain : ∀ event ∈ before.events, event.Plain) : ∀ event ∈ after.events, event.Plain := by
  obtain ⟨new, hnew, hevery⟩ := h.events
  intro event hmem
  rw [hnew, List.mem_append] at hmem
  exact hmem.elim (hplain event) (hevery event)

def Still (before after : World) : Prop :=
  Resolved before.controller.camera → after.controller = before.controller

theorem Still.trans {first second third : World} (h : Still first second)
    (h' : Still second third) : Still first third := by
  intro hresolved
  have hsame := h hresolved
  exact (h' (by rw [hsame]; exact hresolved)).trans hsame

theorem still_bind {task : Task α} {next : α → Task β} (h : task.Keeps Still)
    (hnext : ∀ value, (next value).Keeps Still) : (task >>= next).Keeps Still :=
  Keeps.bind (fun _ _ _ => .trans) h hnext

theorem still_ensure (condition : Bool) (error : String) :
    (ensure condition error : Task Unit).Keeps Still :=
  keeps_ensure (fun _ _ => rfl) condition error

theorem still_read : read.Keeps Still := by
  intro world _
  unfold read
  split <;> rfl

theorem still_status : status.Keeps Still := by
  intro world hresolved
  unfold status
  change ((onlyIf world.controller.camera.pendingReverse.isSome resolveReverse
    >>= _) world).2.controller
    = world.controller
  rw [hresolved.reverse]
  refine still_bind (fun _ _ => rfl) (fun _ => still_bind still_read fun report => ?_) world hresolved
  refine still_bind (still_ensure _ _) fun _ => still_bind ?_ fun _ => ?_
  · intro world hresolved
    change { world.controller with
      camera := world.controller.camera.locate (report.units / 10000) } = world.controller
    simp only [Caa.locate, hresolved.reference]
  · exact still_bind (still_ensure _ _) fun _ => still_bind (fun _ _ => rfl) fun _ _ _ => rfl

theorem still_moveMechanical (target : ℚ) : (moveMechanical target).Keeps Still := by
  unfold moveMechanical idle writeChecked
  refine still_bind (still_ensure _ _) fun _ => still_bind ?_ fun _ => ?_
  · exact still_bind still_status fun _ => still_bind (still_ensure _ _) fun _ =>
      still_bind (still_ensure _ _) fun _ _ _ => rfl
  · exact still_bind (still_ensure _ _) fun _ => still_bind (fun _ _ => rfl) fun _ =>
      still_ensure _ _

/-- Every start that a move has added goes to a mechanical angle that shows the requested one. -/
def Aims (after : World) (Shown : ℚ → Prop) : Prop :=
  ∀ target limit ok, Event.wrote (.start target limit) ok ∈ after.events →
    (0 ≤ target ∧ target ≤ 360) ∧ Shown target

theorem aims_plain {after : World} (h : ∀ event ∈ after.events, event.Plain)
    (Shown : ℚ → Prop) : Aims after Shown :=
  fun _ _ _ hmem => (h _ hmem).elim

theorem maps_target {caa : Caa} {device : Device} (hsign : caa.sign = device.sign) (degrees : ℚ) :
    caa.Maps (wrapMechanical ((degrees - caa.offset) * caa.sign)) degrees := by
  have hmap := (wrapMechanical_spec ((degrees - caa.offset) * caa.sign)).2.sign_mul device caa.offset
  have hangle : device.sign * ((degrees - caa.offset) * caa.sign) + caa.offset = degrees := by
    rw [hsign]
    linear_combination (degrees - caa.offset) * device.sign_mul_sign
  rw [hangle] at hmap
  unfold Caa.Maps
  rw [hsign]
  rw [hsign] at hmap
  exact hmap

theorem aims_moveMechanical (hplain : ∀ event ∈ world.events, event.Plain) {value degrees : ℚ}
    {Condition : Prop} (hmaps : truth.Honest world → Condition → Resolved world.controller.camera
      ∧ world.controller.camera.Maps (wrapMechanical value) degrees) :
    (moveMechanical (wrapMechanical value)).Meets world fun _ after => Aims after fun target =>
      truth.Honest after → Condition → after.controller.camera.Maps target degrees := by
  intro target limit ok hmem
  have hadds := adds_moveMechanical (wrapMechanical value) world
  rw [target_of_mem hplain hadds hmem]
  refine ⟨(wrapMechanical_spec value).1, fun hhonest hcondition => ?_⟩
  obtain ⟨hresolved, hmap⟩ := hmaps (hhonest.before hadds) hcondition
  rw [still_moveMechanical _ world hresolved]
  exact hmap

theorem aims_bind {task : Task α} {next : α → Task Unit} {Q : α → World → Prop}
    {Shown : World → ℚ → Prop} (hplain : ∀ event ∈ world.events, event.Plain)
    (hadds : task.Keeps (Adds Event.Plain))
    (hfinds : truth.Honest world → task.Meets world (Given truth (Finds truth world Q)))
    (hnext : ∀ value mid, (∀ event ∈ mid.events, event.Plain) →
      (truth.Honest mid → truth.Honest world ∧ Kept truth world mid ∧ Q value mid) →
        (next value).Meets mid fun _ after => Aims after (Shown after)) :
    (task >>= next).Meets world fun _ after => Aims after (Shown after) := by
  have hlater := (hadds world).plain hplain
  have hbefore : truth.Honest (task world).2 → truth.Honest world :=
    fun hhonest => hhonest.before (hadds world)
  have hfound : Given truth (Finds truth world Q) (task world).1 (task world).2 :=
    fun hhonest => hfinds (hbefore hhonest) hhonest
  rw [meets_bind]
  unfold Meets
  cases hresult : (task world).1 with
  | done value =>
    rw [hresult] at hfound
    exact hnext value _ hlater fun hhonest => ⟨hbefore hhonest, hfound hhonest⟩
  | failed error => exact aims_plain hlater _
  | pending => exact aims_plain hlater _

theorem aims_moveTo (hplain : ∀ event ∈ world.events, event.Plain)
    (hholds : truth.Honest world → Holds truth logical world) (degrees : ℚ) :
    (moveTo degrees).Meets world fun _ after => Aims after fun target =>
      truth.Honest after → world.controller.camera.pendingReference = none →
        after.controller.camera.Maps target degrees := by
  unfold moveTo angle
  rw [meets_bind, meets_ensure]
  split
  · rw [continues_done, meets_bind, meets_controller, continues_done]
    refine aims_bind hplain (adds_resolveReverse _)
      (fun hhonest => finds_resolveReverse (hholds hhonest).consistent) ?_
    intro _ mid hplain hfinds
    rw [meets_bind, meets_controller, continues_done]
    refine aims_moveMechanical hplain fun hhonest hnone => ?_
    obtain ⟨-, hkept, hreverse, hreference⟩ := hfinds hhonest
    exact ⟨⟨hreverse, hreference.trans hnone⟩, maps_target (hkept.consistent.sign hreverse) degrees⟩
  · exact aims_plain hplain _

theorem maps_step {caa : Caa} {device : Device} (hsign : caa.sign = device.sign) {logical : ℚ}
    (hheld : Congruent (device.sign * device.mechanical + caa.offset) logical) (degrees : ℚ) :
    caa.Maps (wrapMechanical (device.mechanical + caa.sign * degrees)) (logical + degrees) := by
  have hmap := (wrapMechanical_spec (device.mechanical + caa.sign * degrees)).2.sign_mul device
    caa.offset
  have hangle : device.sign * (device.mechanical + caa.sign * degrees) + caa.offset
      = device.sign * device.mechanical + caa.offset + degrees := by
    rw [hsign]
    linear_combination degrees * device.sign_mul_sign
  rw [hangle] at hmap
  unfold Caa.Maps
  rw [hsign]
  rw [hsign] at hmap
  exact hmap.trans (hheld.add_right degrees)

theorem aims_moveRelative (hplain : ∀ event ∈ world.events, event.Plain)
    (hholds : truth.Honest world → Holds truth logical world) (degrees : ℚ) :
    (moveRelative degrees).Meets world fun _ after => Aims after fun target =>
      truth.Honest after → True → after.controller.camera.Maps target (logical + degrees) := by
  unfold moveRelative
  rw [meets_bind, meets_ensure]
  split
  · rw [continues_done]
    refine aims_bind hplain adds_idle (fun hhonest => finds_idle (hholds hhonest).consistent) ?_
    intro found mid hplain hfinds
    rw [meets_bind, meets_controller, continues_done]
    refine aims_moveMechanical hplain fun hhonest _ => ?_
    obtain ⟨hbefore, hkept, hshows⟩ := hfinds hhonest
    have hheld := (hkept.holds (hholds hbefore)).held
    rw [hshows.resolved.held] at hheld
    rw [hshows.mechanical]
    exact ⟨hshows.resolved, maps_step (hkept.consistent.sign hshows.resolved.reverse) hheld degrees⟩
  · exact aims_plain hplain _

end

/-! ## Runs -/

/-- What a run has made of the adjuster shows in its reports and in its moves. -/
structure Tracked (truth : Truth) (world : World) (logical : ℚ) : Prop where
  status : ∀ found after, Rotation.status world = (.done found, after) → truth.Honest after →
    found.logicalDegrees = remEuclid logical
  moveTo : ∀ degrees, Aims (Rotation.moveTo degrees world).2 fun target =>
    truth.Honest (Rotation.moveTo degrees world).2 →
      world.controller.camera.pendingReference = none →
        (Rotation.moveTo degrees world).2.controller.camera.Maps target degrees
  moveRelative : ∀ degrees, Aims (Rotation.moveRelative degrees world).2 fun target =>
    truth.Honest (Rotation.moveRelative degrees world).2 →
      (Rotation.moveRelative degrees world).2.controller.camera.Maps target (logical + degrees)

structure Followed (truth : Truth) (state : World × ℚ) : Prop where
  plain : ∀ event ∈ state.1.events, event.Plain
  holds : truth.Honest state.1 → Holds truth state.2 state.1

theorem followed_connected (truth : Truth) (answers : Nat → Answer) :
    Followed truth (truth.connected answers, truth.device.sign * truth.device.mechanical) := by
  refine ⟨fun event hmem => (by cases hmem), fun _ => ⟨⟨fun _ _ hsome => ?_, fun _ => rfl⟩, ?_⟩⟩
  · cases hsome
  · exact .of_eq (add_zero _)

theorem followed_next {truth : Truth} {state : World × ℚ} (h : Followed truth state) (call : Call) :
    Followed truth (truth.next state call) := by
  have hadds := adds_serve call state.1
  refine ⟨hadds.plain h.plain, fun hhonest => ?_⟩
  exact serve_holds (h.holds (hhonest.before hadds)) call hhonest

theorem followed_run (truth : Truth) (answers : Nat → Answer) (calls : List Call) :
    Followed truth (truth.run answers calls) := by
  unfold Truth.run
  have hstart := followed_connected truth answers
  generalize (truth.connected answers, truth.device.sign * truth.device.mechanical) = state at hstart
  induction calls generalizing state with
  | nil => exact hstart
  | cons call calls ih => exact ih _ (followed_next hstart call)

/-- In every honest run the adjuster shows the one logical angle. -/
theorem logicalAngle_tracked (truth : Truth) (answers : Nat → Answer) (calls : List Call) :
    Tracked truth (truth.run answers calls).1 (truth.run answers calls).2 := by
  have hrun := followed_run truth answers calls
  generalize truth.run answers calls = state at hrun
  refine ⟨?_, ?_, ?_⟩
  · intro found after hstatus hhonest
    have hafter : (status state.1).2 = after := congrArg Prod.snd hstatus
    have hadds := adds_status state.1
    rw [hafter] at hadds
    have hholds := hrun.holds (hhonest.before hadds)
    have hmeets := finds_status hholds.consistent
    unfold Meets at hmeets
    rw [hstatus] at hmeets
    obtain ⟨hkept, hshows⟩ := hmeets hhonest
    rw [hshows.logical]
    exact remEuclid_eq (hkept.holds hholds).held
  · exact aims_moveTo hrun.plain hrun.holds
  · intro degrees target limit ok hmem
    obtain ⟨hrange, hmaps⟩ := aims_moveRelative hrun.plain hrun.holds degrees target limit ok hmem
    exact ⟨hrange, fun hhonest => hmaps hhonest trivial⟩

def resting (units : Nat) : Answer where
  written := true
  status := some ⟨0, 0, units, 360, 0⟩
  settings := some (0, 0)
  identity := true
  name := none
  now := 0

def uprightTruth : Truth where
  device := ⟨0, false⟩
  applied := fun _ => true

def reported (world : World) : Option ℚ :=
  match (status world).1 with
  | .done found => some found.logicalDegrees
  | _ => none

/-- A write of the reference that is applied and not acknowledged, and a lost reading after it. -/
def lostReference : Nat → Answer
  | 0 => resting 0
  | 1 => { resting 0 with written := false }
  | 2 => { resting 900000 with status := none }
  | _ => resting 900000

/-- The world after a move to thirty degrees with the offset of before the reference. -/
def staleMove : World :=
  (moveTo 30 (uprightTruth.run lostReference [.setMechanicalReference 90]).1).2

/-- A restored offset changes the logical angle, and a move with an unresolved reference goes to a
mechanical angle that does not show the requested one. -/
theorem angle_restored : (reported (uprightTruth.run (fun _ => resting 0) []).1 = some 0
      ∧ reported (uprightTruth.run (fun _ => resting 0) [.restoreLogicalOffset 90]).1 = some 90
      ∧ uprightTruth.Honest
        (status (uprightTruth.run (fun _ => resting 0) [.restoreLogicalOffset 90]).1).2)
      ∧ .wrote (.start 30 360) true ∈ staleMove.events ∧ uprightTruth.Honest staleMove
      ∧ ¬staleMove.controller.camera.Maps 30 30 := by
  refine ⟨⟨by decide +kernel, by decide +kernel, by decide +kernel⟩, by decide +kernel,
    by decide +kernel, ?_⟩
  rintro ⟨turns, hturns⟩
  have hshown : staleMove.controller.camera.sign * 30 + staleMove.controller.camera.offset = -60 := by
    decide +kernel
  rw [hshown] at hturns
  have hwhole : (-90 : ℤ) = 360 * turns := by
    have hshift : (-90 : ℚ) = 360 * turns := by linarith
    exact_mod_cast hshift
  omega

end Regain.Zwo.Rotation
