import Regain.Lib.Monitor
import Regain.Qhy.Worker

/-!
# Steps that leave the acquisition and the wheel alone

Much of what the worker does concerns the cooler, the controls or the identity of the camera.
-/

namespace Regain.Qhy

open Lib

@[simp] theorem meets_host {world : World} {post : Progress Fault Host → World → Prop} :
    host.Meets world post ↔ post (.done world.host) world :=
  Iff.rfl

@[simp] theorem meets_sense {world : World} {post : Progress Fault Answer → World → Prop} :
    sense.Meets world post ↔ post (.done world.answer) world :=
  Iff.rfl

@[simp] theorem meets_log {world : World} {event : Event}
    {post : Progress Fault Unit → World → Prop} :
    (log event).Meets world post ↔ post (.done ()) (world.log event) :=
  Iff.rfl

@[simp] theorem meets_update {world : World} {f : Host → Host}
    {post : Progress Fault Unit → World → Prop} :
    (update f).Meets world post ↔ post (.done ()) (world.set (f world.host)) :=
  Iff.rfl

theorem meets_call {world : World} {name : Call} {post : Progress Fault Answer → World → Prop}
    (hclosed : world.host.backend = none → post (.failed notOpen) world)
    (hfailed : world.host.backend.isSome = true → ∀ message,
      post (.failed (.failed message)) (world.log (.called name false)))
    (hdone : world.host.backend.isSome = true →
      post (.done world.answer) (world.log (.called name true))) :
    (call name).Meets world post := by
  unfold Routine.Meets call
  cases hbackend : world.host.backend with
  | none => exact hclosed hbackend
  | some backend =>
    have hopen : world.host.backend.isSome = true := by simp [hbackend]
    simp only [Option.isNone_some, Bool.false_eq_true, if_false]
    split
    · exact hfailed hopen _
    · exact hdone hopen

@[simp] theorem log_host (world : World) (event : Event) : (world.log event).host = world.host :=
  rfl

@[simp] theorem set_host (world : World) (owner : Host) : (world.set owner).host = owner := rfl

@[simp] theorem log_events (world : World) (event : Event) :
    (world.log event).events = world.events ++ [event] :=
  rfl

@[simp] theorem set_events (world : World) (owner : Host) :
    (world.set owner).events = world.events :=
  rfl

abbrev Preserves (Inv : World → Prop) (task : Task α) : Prop :=
  task.Keeps fun before after => Inv before → Inv after

section

variable {Inv : World → Prop}

theorem preserves_bind {task : Task α} {next : α → Task β} (h : Preserves Inv task)
    (hnext : ∀ value, Preserves Inv (next value)) : Preserves Inv (task >>= next) :=
  Routine.Keeps.invariant_bind h hnext

theorem preserves_host : Preserves Inv host := fun _ h => h

theorem preserves_ret (value : α) : Preserves Inv (Routine.ret value : Task α) := fun _ h => h

theorem preserves_ensure (condition : Bool) (error : Fault) :
    Preserves Inv (Routine.ensure condition error : Task Unit) := by
  cases condition <;> exact fun _ h => h

theorem preserves_ofExcept (result : Except Fault α) :
    Preserves Inv (Routine.ofExcept result : Task α) := by
  cases result <;> exact fun _ h => h

theorem preserves_onlyIf {condition : Bool} {task : Task Unit} (h : Preserves Inv task) :
    Preserves Inv (onlyIf condition task) := by
  cases condition
  · exact fun _ hworld => hworld
  · exact h

theorem preserves_attempt {task : Task α} (h : Preserves Inv task) :
    Preserves Inv (task.attempt : Task (Except Fault α)) :=
  Routine.Keeps.attempt h

end

/-- The same acquisition, and the same latches of the wheel. -/
structure Host.Same (before after : Host) : Prop where
  backend : after.backend = before.backend
  exposure : after.exposure = before.exposure
  ready : after.ready = before.ready
  cancelled : after.cancelled = before.cancelled
  wheelExpected : after.wheelExpected = before.wheelExpected
  wheelPending : after.wheelPending = before.wheelPending
  videoParams : after.videoParams = before.videoParams

theorem Host.Same.trans {first second third : Host} (h : Host.Same first second)
    (h' : Host.Same second third) : Host.Same first third where
  backend := h'.backend.trans h.backend
  exposure := h'.exposure.trans h.exposure
  ready := h'.ready.trans h.ready
  cancelled := h'.cancelled.trans h.cancelled
  wheelExpected := h'.wheelExpected.trans h.wheelExpected
  wheelPending := h'.wheelPending.trans h.wheelPending
  videoParams := h'.videoParams.trans h.videoParams

/-- Only events of a kind are logged, and the host is the same. -/
structure Plain (Quiet : Event → Prop) (before after : World) : Prop where
  same : Host.Same before.host after.host
  later : ∃ events, after.events = before.events ++ events ∧ ∀ event ∈ events, Quiet event

section

variable {Quiet : Event → Prop}

theorem Plain.refl (world : World) : Plain Quiet world world where
  same := ⟨rfl, rfl, rfl, rfl, rfl, rfl, rfl⟩
  later := ⟨[], by simp, fun _ h => absurd h List.not_mem_nil⟩

theorem Plain.trans {first second third : World} (h : Plain Quiet first second)
    (h' : Plain Quiet second third) : Plain Quiet first third where
  same := h.same.trans h'.same
  later := by
    obtain ⟨events, hevents, hquiet⟩ := h.later
    obtain ⟨events', hevents', hquiet'⟩ := h'.later
    refine ⟨events ++ events', by rw [hevents', hevents, List.append_assoc], ?_⟩
    intro event hmem
    rcases List.mem_append.mp hmem with hmem | hmem
    · exact hquiet event hmem
    · exact hquiet' event hmem

theorem Plain.log (world : World) {event : Event} (h : Quiet event) :
    Plain Quiet world (world.log event) where
  same := ⟨rfl, rfl, rfl, rfl, rfl, rfl, rfl⟩
  later := ⟨[event], rfl, fun _ hmem => List.mem_singleton.mp hmem ▸ h⟩

theorem plain_update {f : Host → Host} (h : ∀ owner, Host.Same owner (f owner)) :
    (update f).Keeps (Plain Quiet) :=
  fun world => ⟨h world.host, [], by simp [update, Routine.modify, World.set],
    fun _ hmem => absurd hmem List.not_mem_nil⟩

theorem plain_call {name : Call} (h : ∀ ok, Quiet (.called name ok)) :
    (call name).Keeps (Plain Quiet) := by
  intro world
  unfold call
  split
  · exact .refl world
  · split
    · exact .log world (h false)
    · exact .log world (h true)

theorem plain_host : host.Keeps (Plain Quiet) := .refl

theorem plain_sense : sense.Keeps (Plain Quiet) := .refl

theorem plain_ret (value : α) : (Routine.ret value : Task α).Keeps (Plain Quiet) := .refl

theorem plain_fail (error : Fault) : (Routine.fail error : Task α).Keeps (Plain Quiet) := .refl

theorem plain_ensure (condition : Bool) (error : Fault) :
    (Routine.ensure condition error : Task Unit).Keeps (Plain Quiet) :=
  Routine.keeps_ensure .refl condition error

theorem plain_bind {task : Task α} {next : α → Task β} (h : task.Keeps (Plain Quiet))
    (hnext : ∀ value, (next value).Keeps (Plain Quiet)) : (task >>= next).Keeps (Plain Quiet) :=
  Routine.Keeps.bind (fun _ _ _ => .trans) h hnext

theorem plain_ite {condition : Prop} [Decidable condition] {task task' : Task α}
    (h : task.Keeps (Plain Quiet)) (h' : task'.Keeps (Plain Quiet)) :
    (if condition then task else task').Keeps (Plain Quiet) := by
  split
  · exact h
  · exact h'

theorem plain_onlyIf {condition : Bool} {task : Task Unit} (h : task.Keeps (Plain Quiet)) :
    (onlyIf condition task).Keeps (Plain Quiet) :=
  plain_ite h (plain_ret _)

theorem plain_call_ret {name : Call} (h : ∀ ok, Quiet (.called name ok)) :
    (do let _ ← call name; Routine.ret () : Task Unit).Keeps (Plain Quiet) :=
  plain_bind (plain_call h) fun _ => plain_ret _

theorem plain_forEach {body : α → Task Unit} (h : ∀ item, (body item).Keeps (Plain Quiet))
    (items : List α) : (Routine.forEach body items).Keeps (Plain Quiet) :=
  Routine.keeps_forEach .refl (fun _ _ _ => .trans) h items

theorem same_values (owner : Host) (values : Nat → Option Int) :
    Host.Same owner { owner with values := values } :=
  ⟨rfl, rfl, rfl, rfl, rfl, rfl, rfl⟩

theorem plain_setValue (kind : Nat) (value : Int) : (setValue kind value).Keeps (Plain Quiet) :=
  plain_update fun owner => same_values owner _

theorem plain_observe (h : ∀ ok, Quiet (.called .telemetry ok)) : observe.Keeps (Plain Quiet) := by
  unfold observe
  refine plain_bind (plain_call h) fun answer => ?_
  cases answer.telemetry with
  | none => exact plain_fail _
  | some telemetry => exact plain_update fun owner => same_values owner _

theorem plain_power {off : Bool} (h : ∀ ok, Quiet (.called (.power off) ok)) :
    (power off).Keeps (Plain Quiet) := by
  unfold power
  refine plain_bind (plain_call h).attempt fun result => ?_
  cases result with
  | ok answer => exact plain_ret _
  | error error => exact plain_fail _

theorem plain_tick (htelemetry : ∀ ok, Quiet (.called .telemetry ok))
    (hpower : ∀ ok, Quiet (.called (.power false) ok)) : tick.Keeps (Plain Quiet) := by
  unfold tick refresh
  refine plain_bind plain_host fun owner => plain_bind plain_sense fun answer => ?_
  refine plain_ite (plain_ret _) (plain_bind (plain_observe htelemetry) fun _ => ?_)
  refine plain_bind plain_host fun owner => plain_onlyIf ?_
  exact plain_bind plain_sense fun answer => plain_onlyIf (plain_power hpower)

theorem plain_idle (hpump : ∀ ok, Quiet (.called .pumpVideo ok))
    (htelemetry : ∀ ok, Quiet (.called .telemetry ok))
    (hpower : ∀ ok, Quiet (.called (.power false) ok)) : idle.Keeps (Plain Quiet) := by
  unfold idle
  refine plain_bind plain_host fun owner => ?_
  exact plain_bind (plain_onlyIf (plain_call_ret hpump)) fun _ => plain_tick htelemetry hpower

theorem plain_getControl (kind : Nat) (htelemetry : ∀ ok, Quiet (.called .telemetry ok)) :
    (getControl kind).Keeps (Plain Quiet) := by
  unfold getControl
  refine plain_bind plain_host fun owner => plain_bind (plain_ensure _ _) fun _ => ?_
  refine plain_bind (plain_onlyIf (plain_observe htelemetry)) fun _ => ?_
  refine plain_bind plain_host fun owner => ?_
  cases owner.values kind with
  | none => exact plain_fail _
  | some value => exact plain_ret _

theorem plain_resumeCooling (valid : Bool) (htelemetry : ∀ ok, Quiet (.called .telemetry ok))
    (hpower : ∀ ok, Quiet (.called (.power false) ok)) :
    (resumeCooling valid).Keeps (Plain Quiet) := by
  unfold resumeCooling
  refine plain_bind (plain_ensure _ _) fun _ => plain_bind (plain_observe htelemetry) fun _ => ?_
  refine plain_bind plain_host fun owner => ?_
  exact plain_bind (plain_onlyIf (plain_power hpower)) fun _ => plain_ret _

theorem plain_slots (h : ∀ ok, Quiet (.called .wheelSlots ok)) : slots.Keeps (Plain Quiet) := by
  unfold slots
  refine plain_bind plain_host fun owner => ?_
  cases owner.wheelSlots with
  | some slots => exact plain_ret _
  | none =>
    refine plain_bind (plain_call h) fun answer => ?_
    refine plain_bind (plain_update fun owner => ?_) fun _ => plain_ret _
    exact ⟨rfl, rfl, rfl, rfl, rfl, rfl, rfl⟩

end

end Regain.Qhy
