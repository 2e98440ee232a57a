import Regain.Qhy.WorkerSteps

/-!
# The cleanup of acquisitions

The view is what an observer of the calls knows of the acquisition: whether an exposure was
dispatched that was neither delivered nor stopped, whether a download or a stop failed.
-/

namespace Regain.Qhy

open Lib
open Routine (continues_done meets_attempt meets_bind meets_ensure meets_ret)

/-! ## The observer -/

structure CleanupView where
  /-- The host owns a camera. -/
  owned : Bool
  /-- An exposure was dispatched, and neither delivered nor stopped. -/
  active : Bool
  /-- A video stream was accepted and not stopped. -/
  streaming : Bool
  /-- A download or a stop failed, and no stop succeeded since. -/
  doubtful : Bool
  /-- An acquisition was cancelled or lost since the camera was opened. -/
  stale : Bool
  /-- The controls that were written since then. -/
  written : List Nat
  /-- The exposure of the last start that was accepted or dispatched. -/
  armed : Option Exposure
  downloading : Bool
  /-- The controls that were written since this command started a stream. -/
  streamed : Option (List Nat)
  stopTried : Bool
  offTried : Bool

def Rewritten (written : List Nat) : Prop :=
  ∀ kind ∈ [0, 5, 6], kind ∈ written

namespace CleanupView

def new : CleanupView where
  owned := false
  active := false
  streaming := false
  doubtful := false
  stale := false
  written := []
  armed := none
  downloading := false
  streamed := none
  stopTried := false
  offTried := false

def lose (view : CleanupView) : CleanupView :=
  { view with stale := true, written := [] }

def observe (view : CleanupView) : Event → CleanupView
  | .asked =>
    { view with
      downloading := false
      streamed := none
      stopTried := false
      offTried := false }
  | .called .open_ true => { view with owned := true }
  | .called (.set kind _) true =>
    { view with
      written := kind :: view.written
      streamed := view.streamed.map (kind :: ·) }
  | .called (.start _) _ => { view with active := true }
  | .called (.startVideo _) _ =>
    { view with active := true, streamed := some [] }
  | .called .download _ => { view with downloading := true }
  | .called .stop true =>
    { view.lose with
      active := false
      streaming := false
      doubtful := false
      downloading := false
      stopTried := true }
  | .called .stop false => { view.lose with doubtful := true, stopTried := true }
  | .called (.power true) _ => { view with offTried := true }
  | .armed exposure => { view with armed := some exposure }
  | .delivered _ => { view with active := false, downloading := false }
  | .released =>
    { view with
      owned := false
      active := false
      streaming := false
      doubtful := false
      stale := false
      downloading := false }
  | .accepted true => { view with streaming := true }
  | .replied _ false => if view.downloading then { view.lose with doubtful := true } else view
  | _ => view

def Settled (view : CleanupView) : Prop :=
  view.active = false ∧ view.doubtful = false

/-- What may come next; `every` asks for the controls before a stream and for a stop at every
close. -/
def Allows (every : Bool) (view : CleanupView) : Event → Prop
  | .called (.start _) _ => view.Settled ∧ (view.stale = true → Rewritten view.written)
  | .called (.startVideo _) _ =>
    view.Settled ∧ (every = true → view.stale = true → Rewritten view.written)
  | .accepted true => ∀ written, view.streamed = some written → Rewritten written
  | .delivered exposure => view.armed = some exposure
  | .released =>
    view.offTried = true ∧
      (every = true ∨ view.active = true ∨ view.streaming = true → view.stopTried = true)
  | .replied closing _ => closing = true → view.owned = false
  | _ => True

def monitor (every : Bool) : Monitor CleanupView Event where
  observe := observe
  Allows := Allows every

end CleanupView

def World.cleanup (world : World) : CleanupView :=
  world.events.foldl CleanupView.observe .new

/-! ## The invariant -/

structure CleanupLinked (owner : Host) (view : CleanupView) : Prop where
  owned : view.owned = owner.backend.isSome
  active : view.active = true → owner.exposure.isSome = true
  streaming : view.streaming = true → owner.videoParams.isSome = true
  doubtful : view.doubtful = true →
    owner.videoParams.isSome = true ∨ (owner.exposure.isSome = true ∧ owner.cancelled = true)
  stale : view.stale = true →
    owner.cancelled = true ∨ owner.videoParams.isSome = true ∨ Rewritten view.written
  downloading : view.downloading = true →
    owner.cancelled = true ∧ owner.exposure.isSome = true ∧ owner.backend.isSome = true
  armed : ∀ exposure, owner.exposure = some exposure → view.armed = some exposure
  ready : owner.ready = true → owner.cancelled = false
  closed : owner.backend = none → view.doubtful = false ∧ view.stale = false

structure CleanupSound (world : World) : Prop where
  kept : (CleanupView.monitor false).Kept .new world.events
  linked : CleanupLinked world.host world.cleanup

@[simp] theorem cleanup_log (world : World) (event : Event) :
    (world.log event).cleanup = world.cleanup.observe event := by
  simp [World.cleanup, World.log]

@[simp] theorem cleanup_set (world : World) (owner : Host) :
    (world.set owner).cleanup = world.cleanup :=
  rfl

variable {world after before : World}

theorem CleanupSound.log (h : CleanupSound world) (event : Event)
    (hallows : world.cleanup.Allows false event)
    (hlinked : CleanupLinked world.host (world.cleanup.observe event)) :
    CleanupSound (world.log event) where
  kept := by
    rw [log_events, Monitor.kept_append]
    exact ⟨h.kept, hallows, trivial⟩
  linked := by
    rw [cleanup_log]
    exact hlinked

theorem CleanupSound.set (h : CleanupSound world) {owner : Host}
    (hlinked : CleanupLinked owner world.cleanup) : CleanupSound (world.set owner) where
  kept := h.kept
  linked := hlinked

def CleanupQuiet (event : Event) : Prop :=
  (CleanupView.monitor false).Quiet event

/-! ## What leaves the acquisition alone -/

/-- The acquisition is the same, and an observer has seen nothing of it. -/
structure Aside (before after : World) : Prop where
  backend : after.host.backend = before.host.backend
  exposure : after.host.exposure = before.host.exposure
  ready : after.host.ready = before.host.ready
  cancelled : after.host.cancelled = before.host.cancelled
  videoParams : after.host.videoParams = before.host.videoParams
  later : ∃ events, after.events = before.events ++ events ∧
    ∀ event ∈ events, CleanupQuiet event

theorem Plain.aside (h : Plain CleanupQuiet before after) : Aside before after :=
  { h.same with later := h.later }

theorem Aside.refl (world : World) : Aside world world :=
  (Plain.refl world).aside

theorem Aside.trans {first second third : World} (h : Aside first second)
    (h' : Aside second third) : Aside first third where
  backend := h'.backend.trans h.backend
  exposure := h'.exposure.trans h.exposure
  ready := h'.ready.trans h.ready
  cancelled := h'.cancelled.trans h.cancelled
  videoParams := h'.videoParams.trans h.videoParams
  later := by
    obtain ⟨events, hevents, hquiet⟩ := h.later
    obtain ⟨events', hevents', hquiet'⟩ := h'.later
    refine ⟨events ++ events', by rw [hevents', hevents, List.append_assoc], ?_⟩
    intro event hmem
    rcases List.mem_append.mp hmem with hmem | hmem
    · exact hquiet event hmem
    · exact hquiet' event hmem

theorem Aside.view (h : Aside before after) : after.cleanup = before.cleanup := by
  obtain ⟨events, hevents, hquiet⟩ := h.later
  change (CleanupView.monitor false).view .new after.events = before.cleanup
  rw [hevents, Monitor.view_append]
  exact Monitor.view_of_quiet hquiet

theorem CleanupSound.aside (h : CleanupSound before) (haside : Aside before after) :
    CleanupSound after where
  kept := by
    obtain ⟨events, hevents, hquiet⟩ := haside.later
    rw [hevents, Monitor.kept_append]
    exact ⟨h.kept, Monitor.kept_of_quiet hquiet⟩
  linked := by
    rw [haside.view]
    have hlinked := h.linked
    constructor
    · rw [haside.backend]; exact hlinked.owned
    · rw [haside.exposure]; exact hlinked.active
    · rw [haside.videoParams]; exact hlinked.streaming
    · rw [haside.exposure, haside.videoParams, haside.cancelled]; exact hlinked.doubtful
    · rw [haside.videoParams, haside.cancelled]; exact hlinked.stale
    · rw [haside.exposure, haside.cancelled, haside.backend]; exact hlinked.downloading
    · rw [haside.exposure]; exact hlinked.armed
    · rw [haside.ready, haside.cancelled]; exact hlinked.ready
    · rw [haside.backend]; exact hlinked.closed

def Call.isAside : Call → Bool
  | .wheelSlots => true
  | .wheelPosition => true
  | .wheelMove _ _ => true
  | .telemetry => true
  | .power off => !off
  | .readControl _ => true
  | .version => true
  | .initCamera => true
  | .ready => true
  | .pumpVideo => true
  | _ => false

theorem cleanupQuiet_call {name : Call} (h : name.isAside = true) (ok : Bool) :
    CleanupQuiet (.called name ok) := by
  intro view
  cases name with
  | power off =>
    cases off with
    | true => cases h
    | false => exact ⟨rfl, trivial⟩
  | _ => first | exact ⟨rfl, trivial⟩ | cases h

theorem aside_of_plain {task : Task α} (h : task.Keeps (Plain CleanupQuiet)) : task.Keeps Aside :=
  fun world => (h world).aside

theorem aside_bind {task : Task α} {next : α → Task β} (h : task.Keeps Aside)
    (hnext : ∀ value, (next value).Keeps Aside) : (task >>= next).Keeps Aside :=
  Routine.Keeps.bind (fun _ _ _ => .trans) h hnext

theorem aside_ret (value : α) : (Routine.ret value : Task α).Keeps Aside := .refl

theorem aside_host : host.Keeps Aside := .refl

theorem aside_ensure (condition : Bool) (error : Fault) :
    (Routine.ensure condition error : Task Unit).Keeps Aside :=
  Routine.keeps_ensure .refl condition error

theorem aside_log {event : Event} (h : CleanupQuiet event) : (log event).Keeps Aside :=
  fun world => (Plain.log world h).aside

theorem aside_call {name : Call} (h : name.isAside = true) : (call name).Keeps Aside :=
  aside_of_plain (plain_call (cleanupQuiet_call h))

theorem aside_latch {f : Host → Host} (h : ∀ owner, ∃ expected pending,
    f owner = { owner with wheelExpected := expected, wheelPending := pending }) :
    (update f).Keeps Aside := by
  intro world
  obtain ⟨expected, pending, hf⟩ := h world.host
  have hset : (update f world).2 = world.set
      { world.host with wheelExpected := expected, wheelPending := pending } := by
    rw [← hf]
    rfl
  rw [hset]
  exact ⟨rfl, rfl, rfl, rfl, rfl, [], by simp, fun _ hmem => absurd hmem List.not_mem_nil⟩

theorem aside_settle (position : Option Nat) (now : Nat) : (settle position now).Keeps Aside := by
  unfold settle
  refine aside_bind aside_host fun owner => ?_
  split
  · exact aside_ret _
  · refine aside_bind (Routine.keeps_ofExcept .refl _) fun observed => ?_
    exact aside_latch fun owner => ⟨owner.wheelExpected, _, rfl⟩

theorem aside_wheelStatus : wheelStatus.Keeps Aside := by
  unfold wheelStatus
  refine aside_bind (aside_of_plain (plain_slots (cleanupQuiet_call rfl))) fun slots => ?_
  refine aside_bind (aside_call rfl) fun answer => aside_bind (aside_ensure _ _) fun _ => ?_
  refine aside_bind (aside_log fun _ => ⟨rfl, trivial⟩) fun _ => ?_
  exact aside_bind (aside_settle _ _) fun _ => aside_bind aside_host fun _ => aside_ret _

theorem aside_verifyWheel : verifyWheel.Keeps Aside := by
  unfold verifyWheel
  refine aside_bind aside_host fun owner => ?_
  split
  · exact aside_ret _
  · exact aside_bind aside_wheelStatus fun status => aside_ensure _ _

theorem aside_expectWheel (wheelExpected : Option WheelExpected) :
    (expectWheel wheelExpected).Keeps Aside := by
  unfold expectWheel
  split
  · exact aside_ret _
  · refine aside_bind aside_wheelStatus fun status => aside_bind (aside_ensure _ _) fun _ => ?_
    refine aside_bind (aside_ensure _ _) fun _ => ?_
    refine aside_bind (aside_latch fun owner => ⟨_, owner.wheelPending, rfl⟩) fun _ => ?_
    exact aside_bind (aside_log fun _ => ⟨rfl, trivial⟩) fun _ => aside_verifyWheel

theorem aside_wheelMove (position : Option Nat) : (wheelMove position).Keeps Aside := by
  unfold wheelMove
  refine aside_bind aside_host fun owner => aside_bind (aside_ensure _ _) fun _ => ?_
  refine aside_bind aside_wheelStatus fun status => aside_bind (aside_ensure _ _) fun _ => ?_
  split
  · exact Routine.keeps_fail .refl _
  · refine aside_bind (aside_latch fun owner => ⟨_, owner.wheelPending, rfl⟩) fun _ => ?_
    refine aside_bind (aside_log fun _ => ⟨rfl, trivial⟩) fun _ => ?_
    split
    · exact aside_ret _
    · refine aside_bind .refl fun answer => ?_
      refine aside_bind (aside_latch fun owner => ⟨owner.wheelExpected, _, rfl⟩) fun _ => ?_
      exact aside_bind (aside_call rfl) fun _ => aside_ret _

theorem aside_tick : tick.Keeps Aside :=
  aside_of_plain (plain_tick (cleanupQuiet_call rfl) (cleanupQuiet_call rfl))

/-! ## Writes of controls -/

structure Wrote (kinds : List Nat) (before after : World) : Prop where
  written : ∀ kind, kind ∈ kinds ∨ kind ∈ before.cleanup.written →
    kind ∈ after.cleanup.written
  streamed : ∀ kind, (kind ∈ kinds ∨ ∀ written, before.cleanup.streamed = some written →
    kind ∈ written) → ∀ written, after.cleanup.streamed = some written → kind ∈ written

/-- Nothing but writes of controls concerns the acquisition. -/
structure Writes (before after : World) : Prop where
  sound : CleanupSound before → CleanupSound after
  backend : after.host.backend = before.host.backend
  exposure : after.host.exposure = before.host.exposure
  cancelled : after.host.cancelled = before.host.cancelled
  videoParams : after.host.videoParams = before.host.videoParams
  active : after.cleanup.active = before.cleanup.active
  doubtful : after.cleanup.doubtful = before.cleanup.doubtful
  stale : after.cleanup.stale = before.cleanup.stale
  downloading : after.cleanup.downloading = before.cleanup.downloading
  wrote : Wrote [] before after

theorem Wrote.trans {kinds kinds' : List Nat} {first second third : World}
    (h : Wrote kinds first second) (h' : Wrote kinds' second third) :
    Wrote (kinds ++ kinds') first third where
  written kind hkind := by
    rcases hkind with hmem | hmem
    · rcases List.mem_append.mp hmem with hmem | hmem
      · exact h'.written kind (.inr (h.written kind (.inl hmem)))
      · exact h'.written kind (.inl hmem)
    · exact h'.written kind (.inr (h.written kind (.inr hmem)))
  streamed kind hkind := by
    rcases hkind with hmem | hbefore
    · rcases List.mem_append.mp hmem with hmem | hmem
      · exact h'.streamed kind (.inr (h.streamed kind (.inl hmem)))
      · exact h'.streamed kind (.inl hmem)
    · exact h'.streamed kind (.inr (h.streamed kind (.inr hbefore)))

theorem Aside.wrote (h : Aside before after) : Wrote [] before after where
  written kind hkind := by
    rw [h.view]
    exact hkind.resolve_left List.not_mem_nil
  streamed kind hkind := by
    rw [h.view]
    exact hkind.resolve_left List.not_mem_nil

theorem Aside.writes (h : Aside before after) : Writes before after where
  sound hsound := hsound.aside h
  backend := h.backend
  exposure := h.exposure
  cancelled := h.cancelled
  videoParams := h.videoParams
  active := by rw [h.view]
  doubtful := by rw [h.view]
  stale := by rw [h.view]
  downloading := by rw [h.view]
  wrote := h.wrote

theorem Writes.refl (world : World) : Writes world world :=
  (Aside.refl world).writes

theorem Writes.trans {first second third : World} (h : Writes first second)
    (h' : Writes second third) : Writes first third where
  sound hsound := h'.sound (h.sound hsound)
  backend := h'.backend.trans h.backend
  exposure := h'.exposure.trans h.exposure
  cancelled := h'.cancelled.trans h.cancelled
  videoParams := h'.videoParams.trans h.videoParams
  active := h'.active.trans h.active
  doubtful := h'.doubtful.trans h.doubtful
  stale := h'.stale.trans h.stale
  downloading := h'.downloading.trans h.downloading
  wrote := h.wrote.trans h'.wrote

theorem writes_bind {task : Task α} {next : α → Task β} (h : task.Keeps Writes)
    (hnext : ∀ value, (next value).Keeps Writes) : (task >>= next).Keeps Writes :=
  Routine.Keeps.bind (fun _ _ _ => .trans) h hnext

theorem writes_of_aside {task : Task α} (h : task.Keeps Aside) : task.Keeps Writes :=
  fun world => (h world).writes

theorem Rewritten.cons {written : List Nat} (h : Rewritten written) (kind : Nat) :
    Rewritten (kind :: written) :=
  fun other hmem => List.mem_cons_of_mem _ (h other hmem)

theorem wrote_set (world : World) (kind : Nat) (value : Int) :
    Writes world (world.log (.called (.set kind value) true))
      ∧ Wrote [kind] world (world.log (.called (.set kind value) true)) := by
  have hview : (world.log (.called (.set kind value) true)).cleanup
      = { world.cleanup with
          written := kind :: world.cleanup.written
          streamed := world.cleanup.streamed.map (kind :: ·) } :=
    cleanup_log _ _
  have hwrote : Wrote [kind] world (world.log (.called (.set kind value) true)) := by
    constructor
    · intro other hother
      rw [hview]
      simpa using hother
    · intro other hother written hwritten
      rw [hview] at hwritten
      obtain ⟨earlier, hearlier, rfl⟩ := Option.map_eq_some_iff.mp hwritten
      rcases hother with hmem | hmem
      · exact List.mem_cons.mpr (.inl (List.mem_singleton.mp hmem))
      · exact List.mem_cons_of_mem _ (hmem earlier hearlier)
  refine ⟨⟨fun hsound => ?_, rfl, rfl, rfl, rfl, ?_, ?_, ?_, ?_, ?_⟩, hwrote⟩
  · have hlinked := hsound.linked
    refine hsound.log _ trivial { hlinked with stale := fun hstale => ?_ }
    exact (hlinked.stale hstale).imp_right fun h => h.imp_right fun h => h.cons kind
  · rw [hview]
  · rw [hview]
  · rw [hview]
  · rw [hview]
  · exact ⟨fun other hother => hwrote.written other (.inr (hother.resolve_left List.not_mem_nil)),
      fun other hother => hwrote.streamed other (.inr (hother.resolve_left List.not_mem_nil))⟩

theorem cleanupQuiet_failedSet (kind : Nat) (value : Int) :
    CleanupQuiet (.called (.set kind value) false) :=
  fun _ => ⟨rfl, trivial⟩

theorem set_meets (world : World) (kind : Nat) (value : Int) :
    (call (.set kind value)).Meets world fun result after => Writes world after
      ∧ ∀ answer, result = .done answer → Wrote [kind] world after := by
  apply meets_call
  · exact fun _ => ⟨.refl world, fun _ hdone => by cases hdone⟩
  · exact fun _ _ => ⟨(Plain.log world (cleanupQuiet_failedSet kind value)).aside.writes,
      fun _ hdone => by cases hdone⟩
  · exact fun _ => ⟨(wrote_set world kind value).1, fun _ _ => (wrote_set world kind value).2⟩

theorem writes_set (kind : Nat) (value : Int) : (call (.set kind value)).Keeps Writes :=
  fun world => (set_meets world kind value).1

theorem writes_setValue (kind : Nat) (value : Int) : (setValue kind value).Keeps Writes :=
  writes_of_aside (aside_of_plain (plain_setValue kind value))

theorem rewrite_meets (world : World) (owner : Host) (kind : Nat) :
    (rewrite owner kind).Meets world fun result after => Writes world after
      ∧ (result = .done () → Wrote [kind] world after) := by
  unfold rewrite
  refine (set_meets world kind _).bind fun result after hafter => ?_
  cases result with
  | failed error => exact ⟨hafter.1, fun hdone => by cases hdone⟩
  | pending => exact ⟨hafter.1, fun hdone => by cases hdone⟩
  | done answer => exact ⟨hafter.1, fun _ => hafter.2 answer rfl⟩

theorem rewrites_meets (owner : Host) (kinds : List Nat) (world : World) :
    (Routine.forEach (rewrite owner) kinds).Meets world fun result after => Writes world after
      ∧ (result = .done () → Wrote kinds world after) := by
  induction kinds generalizing world with
  | nil => exact ⟨.refl world, fun _ => (Aside.refl world).wrote⟩
  | cons kind kinds ih =>
    refine (rewrite_meets world owner kind).bind fun result after hafter => ?_
    cases result with
    | failed error => exact ⟨hafter.1, fun hdone => by cases hdone⟩
    | pending => exact ⟨hafter.1, fun hdone => by cases hdone⟩
    | done _ =>
      simp only [continues_done]
      refine (ih after).mono fun result last hlast => ?_
      refine ⟨hafter.1.trans hlast.1, fun hdone => ?_⟩
      exact (hafter.2 rfl).trans (hlast.2 hdone)

theorem writes_setGain (gain : Int) : (setGain gain).Keeps Writes := by
  unfold setGain
  refine writes_bind (fun world => .refl world) fun owner => ?_
  unfold onlyIf
  split
  · exact writes_bind (writes_set _ _) fun _ => writes_setValue _ _
  · exact fun world => .refl world

theorem writes_off (ok : Bool) (world : World) :
    Writes world (world.log (.called (.power true) ok)) := by
  have hview : (world.log (.called (.power true) ok)).cleanup
      = { world.cleanup with offTried := true } :=
    cleanup_log _ _
  refine ⟨fun hsound => ?_, rfl, rfl, rfl, rfl, ?_, ?_, ?_, ?_, ?_, ?_⟩
  · have hlinked := hsound.linked
    exact hsound.log _ trivial { hlinked with }
  · rw [hview]
  · rw [hview]
  · rw [hview]
  · rw [hview]
  · intro kind hkind
    rw [hview]
    exact hkind.resolve_left List.not_mem_nil
  · intro kind hkind
    rw [hview]
    exact hkind.resolve_left List.not_mem_nil

theorem writes_callOff : (call (.power true)).Keeps Writes := by
  intro world
  change (call (.power true)).Meets world fun _ after => Writes world after
  exact meets_call (fun _ => .refl world) (fun _ _ => writes_off false world)
    (fun _ => writes_off true world)

theorem writes_power (off : Bool) : (power off).Keeps Writes := by
  have hcall : (call (.power off)).Keeps Writes := by
    cases off with
    | true => exact writes_callOff
    | false => exact writes_of_aside (aside_call rfl)
  unfold power
  refine writes_bind hcall.attempt fun result => ?_
  cases result with
  | ok answer => exact fun world => .refl world
  | error error => exact fun world => .refl world

/-! ## Stops -/

/-- What a stop establishes; a successful one leaves no acquisition. -/
structure Stopped (world after : World) (result : Progress Fault Unit) : Prop where
  sound : CleanupSound after
  ended : result ≠ .pending
  backend : after.host.backend = world.host.backend
  done : result = .done () → after.host.exposure = none ∧ after.host.videoParams = none
  tried : world.host.backend.isSome = true →
    after.cleanup.active = true ∨ after.cleanup.streaming = true →
      after.cleanup.stopTried = true
  streamed : after.cleanup.streamed = world.cleanup.streamed
  downloading : world.cleanup.downloading = false → after.cleanup.downloading = false

theorem stopActive_meets (h : CleanupSound world)
    (hheld : world.host.exposure.isSome = true ∨ world.host.videoParams.isSome = true) :
    stopActive.Meets world fun result after => Stopped world after result := by
  have hlinked := h.linked
  unfold stopActive
  simp only [meets_bind, meets_update, continues_done]
  have hcancelled : CleanupSound
      (world.set { world.host with ready := false, cancelled := true }) :=
    h.set ⟨hlinked.owned, hlinked.active, hlinked.streaming,
      fun hdoubtful => (hlinked.doubtful hdoubtful).imp_right fun hexposure => ⟨hexposure.1, rfl⟩,
      fun _ => .inl rfl, fun hdownloading => ⟨rfl, (hlinked.downloading hdownloading).2⟩,
      hlinked.armed, (fun hready => by cases hready), hlinked.closed⟩
  apply meets_call
  · intro hclosed
    refine ⟨hcancelled, (fun h => by cases h), rfl, (fun hdone => by cases hdone),
      (fun hopen => ?_), rfl, id⟩
    rw [show world.host.backend = none from hclosed] at hopen
    cases hopen
  · intro hopen message
    have hlogged := hcancelled.log (.called .stop false) trivial (by
      refine ⟨hlinked.owned, hlinked.active, hlinked.streaming, fun _ => ?_, fun _ => .inl rfl,
        fun hdownloading => ⟨rfl, (hlinked.downloading hdownloading).2⟩, hlinked.armed,
        (fun hready => by cases hready), fun hclosed => ?_⟩
      · exact hheld.symm.imp_right fun hexposure => ⟨hexposure, rfl⟩
      · simp only [set_host] at hclosed hopen
        simp [hclosed] at hopen)
    refine ⟨hlogged, (fun h => by cases h), rfl, (fun hdone => by cases hdone), (fun _ _ => ?_),
      ?_, (fun hidle => ?_)⟩
    · rw [cleanup_log]
      rfl
    · rw [cleanup_log]
      rfl
    · rw [cleanup_log]
      exact hidle
  · intro hopen
    simp only [continues_done, meets_update]
    have hkept : (CleanupView.monitor false).Kept .new
        ((world.set { world.host with ready := false, cancelled := true }).log
          (.called .stop true)).events := by
      rw [log_events, Monitor.kept_append]
      exact ⟨h.kept, trivial, trivial⟩
    have hview := cleanup_log (world.set { world.host with ready := false, cancelled := true })
      (.called .stop true)
    refine ⟨⟨hkept, ?_⟩, (fun h => by cases h), rfl, fun _ => ⟨rfl, rfl⟩, ?_, ?_, ?_⟩
    · rw [cleanup_set, hview]
      refine ⟨hlinked.owned, (fun h => by cases h), (fun h => by cases h), (fun h => by cases h),
        fun _ => .inl rfl, (fun h => by cases h), (fun _ h => by cases h), (fun h => by cases h),
        fun hclosed => ?_⟩
      simp only [set_host] at hclosed hopen
      simp only [log_host, set_host] at hclosed
      simp [hclosed] at hopen
    · intro _ hactive
      rw [cleanup_set, hview]
      rfl
    · rw [cleanup_set, hview]
      rfl
    · intro _
      rw [cleanup_set, hview]
      rfl

theorem stop_meets (h : CleanupSound world) :
    stop.Meets world fun result after => Stopped world after result := by
  have hforget : ∀ {after : World}, Stopped world after (.done ()) →
      Stopped world (after.set { after.host with backgroundError := false }) (.done ()) := by
    intro after hafter
    have hlinked := hafter.sound.linked
    exact ⟨hafter.sound.set { hlinked with },
      hafter.ended, hafter.backend, hafter.done, hafter.tried, hafter.streamed, hafter.downloading⟩
  unfold stop stopWith onlyIf
  simp only [meets_bind, meets_host, continues_done]
  split
  · rename_i hheld
    simp only [Bool.or_eq_true] at hheld
    refine (stopActive_meets h hheld).mono fun result after hafter => ?_
    cases result with
    | failed error => exact hafter
    | pending => exact hafter
    | done _ => exact hforget hafter
  · rename_i hheld
    simp only [Bool.or_eq_true, not_or, Option.isSome_iff_ne_none, ne_eq, not_not] at hheld
    refine hforget ⟨h, (fun h => by cases h), rfl, fun _ => hheld, fun _ hactive => ?_, rfl, id⟩
    rcases hactive with hactive | hstreaming
    · have hexposure := h.linked.active hactive
      simp [hheld.1] at hexposure
    · have hvideo := h.linked.streaming hstreaming
      simp [hheld.2] at hvideo

/-! ## Starts -/

/-- No exposure was dispatched, and the host is about to dispatch one. -/
structure Dispatchable (world : World) : Prop where
  sound : CleanupSound world
  exposure : world.host.exposure.isSome = true
  settled : world.cleanup.Settled

def World.arm (world : World) (exposure : Exposure) : World :=
  (world.set { world.host with exposure := some exposure }).log (.armed exposure)

theorem arm_view (world : World) (exposure : Exposure) :
    (world.arm exposure).cleanup = { world.cleanup with armed := some exposure } :=
  cleanup_log _ _

theorem CleanupSound.arm (h : CleanupSound world) (exposure : Exposure) :
    CleanupSound (world.arm exposure) where
  kept := by
    change (CleanupView.monitor false).Kept .new (world.events ++ [.armed exposure])
    rw [Monitor.kept_append]
    exact ⟨h.kept, trivial, trivial⟩
  linked := by
    rw [arm_view]
    have hlinked := h.linked
    refine ⟨hlinked.owned, fun _ => rfl, hlinked.streaming, fun hdoubtful => ?_, hlinked.stale,
      fun hdownloading => (hlinked.downloading hdownloading).imp_right fun hheld => ⟨rfl, hheld.2⟩,
      ?_, hlinked.ready, hlinked.closed⟩
    · exact (hlinked.doubtful hdoubtful).imp_right fun hexposure => ⟨rfl, hexposure.2⟩
    · intro other hother
      cases hother
      rfl

theorem CleanupSound.settled (h : CleanupSound world) (hexposure : world.host.exposure = none)
    (hvideo : world.host.videoParams = none) : world.cleanup.Settled := by
  have hlinked := h.linked
  constructor
  · by_contra hactive
    have hheld := hlinked.active (by simpa using hactive)
    simp [hexposure] at hheld
  · by_contra hdoubtful
    have hheld := hlinked.doubtful (by simpa using hdoubtful)
    simp [hexposure, hvideo] at hheld

theorem Dispatchable.dispatched {world : World} (h : Dispatchable world) (event : Event)
    (streamed : Option (List Nat)) (hallows : world.cleanup.Allows false event)
    (hview : world.cleanup.observe event
      = { world.cleanup with active := true, streamed := streamed }) :
    CleanupSound (world.log event) := by
  have hlinked := h.sound.linked
  refine h.sound.log event hallows ?_
  rw [hview]
  exact { hlinked with active := fun _ => h.exposure }

def StreamWritten (view : CleanupView) : Prop :=
  ∀ written, view.streamed = some written → Rewritten written

structure Streaming (world : World) : Prop where
  sound : CleanupSound world
  videoParams : world.host.videoParams.isSome = true
  downloading : world.cleanup.downloading = false
  written : StreamWritten world.cleanup

theorem CleanupSound.videoParams (h : CleanupSound world) (settings : VideoSettings) :
    CleanupSound (world.set { world.host with videoParams := some settings }) := by
  have hlinked := h.linked
  exact h.set ⟨hlinked.owned, hlinked.active, fun _ => rfl, fun _ => .inl rfl,
    fun _ => .inr (.inl rfl), hlinked.downloading, hlinked.armed, hlinked.ready, hlinked.closed⟩

theorem streamControls_meets (settings : VideoSettings) (h : CleanupSound world)
    (hdownloading : world.cleanup.downloading = false) :
    (do
      let owner ← host
      let _ ← call (.set 0 settings.gain)
      Routine.forEach (rewrite owner) [5, 6]
      setValue 0 settings.gain
      update fun owner => { owner with videoParams := some settings } : Task Unit).Meets world
        fun result after => CleanupSound after ∧ (result = .done () → Streaming after) := by
  simp only [meets_bind, meets_host, continues_done]
  refine (set_meets world 0 _).mono fun result first hfirst => ?_
  cases result with
  | failed error => exact ⟨hfirst.1.sound h, fun hdone => by cases hdone⟩
  | pending => exact ⟨hfirst.1.sound h, fun hdone => by cases hdone⟩
  | done answer =>
    simp only [continues_done, meets_bind]
    refine (rewrites_meets world.host [5, 6] first).mono fun result second hsecond => ?_
    have hwrites := hfirst.1.trans hsecond.1
    cases result with
    | failed error => exact ⟨hwrites.sound h, fun hdone => by cases hdone⟩
    | pending => exact ⟨hwrites.sound h, fun hdone => by cases hdone⟩
    | done _ =>
      have hwrote := (hfirst.2 answer rfl).trans (hsecond.2 rfl)
      have hthird := writes_setValue 0 settings.gain second
      have htotal := hwrites.trans hthird
      have hstream := hwrote.trans hthird.wrote
      refine ⟨(htotal.sound h).videoParams settings, fun _ => ?_⟩
      refine ⟨(htotal.sound h).videoParams settings, rfl, ?_, ?_⟩
      · exact htotal.downloading.trans hdownloading
      · intro written hwritten kind hkind
        exact hstream.streamed kind (.inl (by simpa using hkind)) written hwritten

theorem startStream_meets (settings : VideoSettings) (h : CleanupSound world)
    (hdownloading : world.cleanup.downloading = false) :
    (startStream settings).Meets world fun result after => CleanupSound after
      ∧ (result = .done () → Streaming after) := by
  unfold startStream
  refine (stop_meets h).bind fun result first hfirst => ?_
  cases result with
  | failed error => exact ⟨hfirst.sound, fun hdone => by cases hdone⟩
  | pending => exact ⟨hfirst.sound, fun hdone => by cases hdone⟩
  | done _ =>
    obtain ⟨hexposure, hvideo⟩ := hfirst.done rfl
    have hsettled := hfirst.sound.settled hexposure hvideo
    have harmed : Dispatchable (first.arm settings.exposure) := by
      refine ⟨hfirst.sound.arm _, rfl, ?_⟩
      rw [arm_view]
      exact hsettled
    have hidle : (first.arm settings.exposure).cleanup.downloading = false := by
      rw [arm_view]
      exact hfirst.downloading hdownloading
    have hallows : ∀ ok, (first.arm settings.exposure).cleanup.Allows false
        (.called (.startVideo settings.exposure) ok) :=
      fun _ => ⟨harmed.settled, fun hevery => by cases hevery⟩
    simp only [continues_done]
    rw [meets_bind]
    change Routine.Continues _ _ (.done ()) (first.arm settings.exposure)
    simp only [continues_done]
    rw [meets_bind]
    apply meets_call
    · exact fun _ => ⟨harmed.sound, fun hdone => by cases hdone⟩
    · exact fun _ _ => ⟨harmed.dispatched _ (some []) (hallows false) rfl,
        fun hdone => by cases hdone⟩
    · intro _
      have hstarted := harmed.dispatched _ (some []) (hallows true) rfl
      refine streamControls_meets settings hstarted ?_
      rw [cleanup_log]
      exact hidle

theorem startVideo_meets (request : Request) (h : CleanupSound world)
    (hdownloading : world.cleanup.downloading = false) (hstreamed : world.cleanup.streamed = none) :
    (startVideo request).Meets world fun result after => CleanupSound after
      ∧ (result = .done () → Streaming after) := by
  have hrest : ∀ {after : World}, Streaming after → (do
      arm request.exposure
      update fun owner =>
        { owner with videoInterval := request.interval, cancelled := false, ready := false }
      : Task Unit).Meets after fun result after => CleanupSound after
        ∧ (result = .done () → Streaming after) := by
    intro after hafter
    have harmed := hafter.sound.arm request.exposure
    have hlinked := harmed.linked
    have hidle : (after.arm request.exposure).cleanup.downloading = false := by
      rw [arm_view]
      exact hafter.downloading
    have hsound : CleanupSound ((after.arm request.exposure).set
        { (after.arm request.exposure).host with
          videoInterval := request.interval
          cancelled := false
          ready := false }) := by
      refine harmed.set ⟨hlinked.owned, hlinked.active, hlinked.streaming,
        fun _ => .inl hafter.videoParams, fun _ => .inr (.inl hafter.videoParams),
        fun hdownload => ?_, hlinked.armed, fun _ => rfl, hlinked.closed⟩
      rw [hidle] at hdownload
      cases hdownload
    refine ⟨hsound, fun _ => ⟨hsound, hafter.videoParams, hidle, ?_⟩⟩
    change StreamWritten (after.arm request.exposure).cleanup
    rw [arm_view]
    exact hafter.written
  unfold startVideo
  simp only [meets_bind, meets_host, continues_done]
  unfold onlyIf
  split
  · refine (startStream_meets _ h hdownloading).mono fun result after hafter => ?_
    cases result with
    | failed error => exact ⟨hafter.1, fun hdone => by cases hdone⟩
    | pending => exact ⟨hafter.1, fun hdone => by cases hdone⟩
    | done _ =>
      have hmeets := hrest (hafter.2 rfl)
      rw [meets_bind] at hmeets
      exact hmeets
  · rename_i hreuse
    have hvideo : world.host.videoParams.isSome = true := by
      simp only [ne_eq, decide_not, Bool.not_eq_true', decide_eq_false_iff_not, not_not] at hreuse
      simp [hreuse]
    have hmeets := hrest ⟨h, hvideo, hdownloading, fun written hwritten => by
      rw [hstreamed] at hwritten
      cases hwritten⟩
    rw [meets_bind] at hmeets
    exact hmeets

/-- No acquisition, and none that was cancelled or lost without a rewrite of the controls. -/
structure Fresh (world : World) : Prop where
  sound : CleanupSound world
  exposure : world.host.exposure = none
  videoParams : world.host.videoParams = none
  rewritten : world.cleanup.stale = true → Rewritten world.cleanup.written

theorem Fresh.writes (h : Fresh before) (hwrites : Writes before after) :
    Fresh after where
  sound := hwrites.sound h.sound
  exposure := hwrites.exposure.trans h.exposure
  videoParams := hwrites.videoParams.trans h.videoParams
  rewritten hstale kind hkind := by
    rw [hwrites.stale] at hstale
    exact hwrites.wrote.written kind (.inr (h.rewritten hstale kind hkind))

theorem reinitialize_meets (h : CleanupSound world) (hexposure : world.host.exposure = none)
    (hvideo : world.host.videoParams = none) :
    reinitialize.Meets world fun result after => CleanupSound after
      ∧ (result = .done () → Fresh after) := by
  unfold reinitialize initCamera
  simp only [meets_bind, meets_host, continues_done]
  have hinit : (onlyIf (world.host.backend = some .direct)
      (do let _ ← call .initCamera; Routine.ret ())).Meets world
        fun _ after => Writes world after :=
    (plain_onlyIf (plain_call_ret (cleanupQuiet_call rfl)) world).aside.writes
  refine hinit.mono fun result first hfirst => ?_
  cases result with
  | failed error => exact ⟨hfirst.sound h, fun hdone => by cases hdone⟩
  | pending => exact ⟨hfirst.sound h, fun hdone => by cases hdone⟩
  | done _ =>
    simp only [continues_done, meets_bind]
    refine (rewrites_meets world.host [0, 5, 6] first).mono fun result second hsecond => ?_
    have hwrites := hfirst.trans hsecond.1
    cases result with
    | failed error => exact ⟨hwrites.sound h, fun hdone => by cases hdone⟩
    | pending => exact ⟨hwrites.sound h, fun hdone => by cases hdone⟩
    | done _ =>
      simp only [continues_done, meets_update]
      have hrewritten : Rewritten second.cleanup.written :=
        fun kind hkind => (hsecond.2 rfl).written kind (.inl hkind)
      have hlinked := (hwrites.sound h).linked
      have hnone := hwrites.exposure.trans hexposure
      have hnoVideo := hwrites.videoParams.trans hvideo
      have hsettled := (hwrites.sound h).settled hnone hnoVideo
      have hsound : CleanupSound (second.set { second.host with cancelled := false }) := by
        refine (hwrites.sound h).set ⟨hlinked.owned, hlinked.active, hlinked.streaming,
          fun hdoubtful => ?_, fun _ => .inr (.inr hrewritten), fun hdownload => ?_,
          hlinked.armed, fun _ => rfl, hlinked.closed⟩
        · rw [hsettled.2] at hdoubtful
          cases hdoubtful
        · have hheld := (hlinked.downloading hdownload).2.1
          simp [hnone] at hheld
      exact ⟨hsound, fun _ => ⟨hsound, hnone, hnoVideo, fun _ => hrewritten⟩⟩

theorem dispatchStill_meets (exposure : Exposure) (h : Fresh world) :
    (do
      arm exposure
      update fun owner => { owner with ready := false }
      let _ ← call (.start exposure)
      Routine.ret () : Task Unit).Meets world fun _ after => CleanupSound after := by
  have hsound := h.sound.arm exposure
  have hlinked := hsound.linked
  have harmed : Dispatchable ((world.arm exposure).set
      { (world.arm exposure).host with ready := false }) := by
    refine ⟨hsound.set { hlinked with ready := (fun hready => by cases hready) }, rfl, ?_⟩
    rw [cleanup_set, arm_view]
    exact h.sound.settled h.exposure h.videoParams
  have hallows : ∀ ok, ((world.arm exposure).set
      { (world.arm exposure).host with ready := false }).cleanup.Allows false
        (.called (.start exposure) ok) := by
    intro ok
    refine ⟨harmed.settled, ?_⟩
    rw [cleanup_set, arm_view]
    exact h.rewritten
  rw [meets_bind]
  change Routine.Continues _ _ (.done ()) (world.arm exposure)
  simp only [continues_done, meets_bind, meets_update]
  apply meets_call
  · exact fun _ => harmed.sound
  · exact fun _ _ => harmed.dispatched _ _ (hallows false) rfl
  · exact fun _ => harmed.dispatched _ _ (hallows true) rfl

theorem endStream_meets (h : CleanupSound world) (hexposure : world.host.exposure = none) :
    (onlyIf world.host.videoParams.isSome stop).Meets world fun result after =>
      CleanupSound after ∧ (result = .done () →
        after.host.exposure = none ∧ after.host.videoParams = none) := by
  unfold onlyIf
  split
  · exact (stop_meets h).mono fun result after hafter => ⟨hafter.sound, hafter.done⟩
  · rename_i hvideo
    have hnone : world.host.videoParams = none := by simpa using hvideo
    exact ⟨h, fun _ => ⟨hexposure, hnone⟩⟩

/-! ## Commands -/

theorem refresh_meets (h : CleanupSound world) (hexposure : world.host.exposure = none)
    (hvideo : world.host.videoParams = none) :
    (onlyIf world.host.cancelled reinitialize).Meets world fun result after =>
      CleanupSound after ∧ (result = .done () → Fresh after) := by
  unfold onlyIf
  split
  · exact reinitialize_meets h hexposure hvideo
  · rename_i hcancelled
    refine ⟨h, fun _ => ⟨h, hexposure, hvideo, fun hstale => ?_⟩⟩
    rcases h.linked.stale hstale with hcancel | hstream | hrewritten
    · exact absurd hcancel hcancelled
    · rw [show world.host.videoParams = none from hvideo] at hstream
      cases hstream
    · exact hrewritten

theorem startStill_meets (request : Request) (h : CleanupSound world)
    (hexposure : world.host.exposure = none) :
    (startStill request).Meets world fun _ after => CleanupSound after := by
  unfold startStill
  simp only [meets_bind, meets_host, continues_done]
  refine (endStream_meets h hexposure).mono fun result first hfirst => ?_
  cases result with
  | failed error => exact hfirst.1
  | pending => exact hfirst.1
  | done _ =>
    obtain ⟨hnone, hnoVideo⟩ := hfirst.2 rfl
    simp only [continues_done, meets_bind, meets_host]
    refine (refresh_meets hfirst.1 hnone hnoVideo).mono fun result second hsecond => ?_
    cases result with
    | failed error => exact hsecond.1
    | pending => exact hsecond.1
    | done _ =>
      have hfresh := hsecond.2 rfl
      have hgain : (setGain request.gain).Meets second fun _ after => Fresh after :=
        hfresh.writes (writes_setGain request.gain second)
      simp only [continues_done, meets_bind]
      refine hgain.mono fun result third hthird => ?_
      cases result with
      | failed error => exact hthird.sound
      | pending => exact hthird.sound
      | done _ =>
        have hdispatch := dispatchStill_meets request.exposure hthird
        simp only [meets_bind] at hdispatch
        exact hdispatch

theorem dispatch_meets (request : Request) (h : CleanupSound world)
    (hexposure : world.host.exposure = none) (hdownloading : world.cleanup.downloading = false)
    (hstreamed : world.cleanup.streamed = none) :
    (do dispatch request; log (.accepted request.video); Routine.ret .null : Task Reply).Meets
      world fun _ after => CleanupSound after := by
  unfold dispatch
  split
  · rename_i hvideo
    refine (startVideo_meets request h hdownloading hstreamed).bind fun result after hafter => ?_
    cases result with
    | failed error => exact hafter.1
    | pending => exact hafter.1
    | done _ =>
      have hstreaming := hafter.2 rfl
      have hlinked := hstreaming.sound.linked
      rw [hvideo]
      exact hstreaming.sound.log (.accepted true) hstreaming.written
        { hlinked with streaming := fun _ => hstreaming.videoParams }
  · rename_i hstill
    refine (startStill_meets request h hexposure).bind fun result after hafter => ?_
    cases result with
    | failed error => exact hafter
    | pending => exact hafter
    | done _ =>
      rw [show request.video = false by simpa using hstill]
      exact hafter.aside (Plain.log after fun _ => ⟨rfl, trivial⟩).aside

theorem startCleanup_meets (request : Request) (h : CleanupSound world)
    (hdownloading : world.cleanup.downloading = false) (hstreamed : world.cleanup.streamed = none) :
    (start request).Meets world fun _ after => CleanupSound after := by
  have haside : (expectWheel request.wheelExpected).Meets world fun _ after =>
      Aside world after :=
    aside_expectWheel request.wheelExpected world
  unfold start
  refine haside.bind fun result after hafter => ?_
  have hsound := h.aside hafter
  cases result with
  | failed error => exact hsound
  | pending => exact hsound
  | done _ =>
    simp only [continues_done, meets_bind, meets_host, meets_ensure]
    split
    · rename_i hexposure
      have hdispatch := dispatch_meets request hsound (by simpa using hexposure)
        (by rw [hafter.view]; exact hdownloading) (by rw [hafter.view]; exact hstreamed)
      rw [meets_bind] at hdispatch
      simpa only [continues_done] using hdispatch
    · exact hsound

theorem statusCleanup_meets (h : CleanupSound world) :
    status.Meets world fun _ after => CleanupSound after := by
  unfold status
  simp only [meets_bind, meets_host, continues_done]
  split
  · exact h
  · split
    · exact h
    · rename_i hcancelled _
      have hready : (do tick; call .ready : Task Answer).Meets world fun _ after =>
          Aside world after :=
        aside_bind aside_tick (fun _ => aside_call rfl) world
      simp only [meets_bind] at hready ⊢
      refine hready.mono fun result first hfirst => ?_
      cases result with
      | failed error => exact h.aside hfirst
      | pending => exact h.aside hfirst
      | done _ =>
        simp only [continues_done, meets_bind] at hfirst ⊢
        refine Routine.Meets.mono hfirst fun result second hsecond => ?_
        have hsound := h.aside hsecond
        cases result with
        | failed error => exact hsound
        | pending => exact hsound
        | done answer =>
          have hlinked := hsound.linked
          have hnot : second.host.cancelled = false := by
            rw [hsecond.cancelled]
            simpa using hcancelled
          exact hsound.set { hlinked with ready := fun _ => hnot }

theorem delivered_sound {world after : World} (exposure : Exposure) (h : CleanupSound world)
    (hready : world.host.ready = true) (hexposure : world.host.exposure = some exposure)
    (hafter : CleanupSound after) (hbackend : after.host.backend = world.host.backend)
    (hvideo : after.host.videoParams = world.host.videoParams)
    (hview : after.cleanup = { world.cleanup with downloading := true }) (delivered : Option Nat) :
    CleanupSound ((after.set
      { after.host with
        exposure := none
        cancelled := false
        videoDelivered := delivered }).log (.delivered exposure)) := by
  have hlinked := h.linked
  have hnotCancelled := hlinked.ready hready
  constructor
  · rw [log_events, set_events, Monitor.kept_append]
    refine ⟨hafter.kept, ?_, trivial⟩
    change after.cleanup.armed = some exposure
    rw [hview]
    exact hlinked.armed exposure hexposure
  · rw [cleanup_log, cleanup_set, hview]
    refine ⟨?_, (fun hactive => by cases hactive), fun hstreaming => ?_, fun hdoubtful => ?_,
      fun hstale => ?_, (fun hdownloading => by cases hdownloading),
      (fun _ hnone => by cases hnone), fun hready' => ?_, fun hclosed => ?_⟩
    · simp only [log_host, set_host, hbackend]
      exact hlinked.owned
    · simp only [log_host, set_host, hvideo]
      exact hlinked.streaming hstreaming
    · rcases hlinked.doubtful hdoubtful with hstream | hcancel
      · simp only [log_host, set_host, hvideo]
        exact .inl hstream
      · rw [hnotCancelled] at hcancel
        cases hcancel.2
    · rcases hlinked.stale hstale with hcancel | hstream
      · rw [hnotCancelled] at hcancel
        cases hcancel
      · simp only [log_host, set_host, hvideo]
        exact .inr hstream
    · rfl
    · exact hlinked.closed (hbackend.symm.trans hclosed)

theorem downloadCleanup_meets (h : CleanupSound world) :
    download.Meets world fun _ after => CleanupSound after := by
  have hlinked := h.linked
  unfold download
  simp only [meets_bind, meets_host, continues_done]
  split
  · exact h
  · rename_i exposure hexposure
    simp only [meets_bind, meets_ensure]
    split
    · rename_i hready
      have hbegun : CleanupSound
          (world.set { world.host with ready := false, cancelled := true }) := by
        refine h.set ⟨hlinked.owned, hlinked.active, hlinked.streaming, fun hdoubtful => ?_,
          fun _ => .inl rfl, fun hdownloading => ⟨rfl, (hlinked.downloading hdownloading).2⟩,
          hlinked.armed, (fun hready => by cases hready), hlinked.closed⟩
        exact (hlinked.doubtful hdoubtful).imp_right fun hheld => ⟨hheld.1, rfl⟩
      have hcalled : world.host.backend.isSome = true → ∀ ok, CleanupSound
          ((world.set { world.host with ready := false, cancelled := true }).log
            (.called .download ok)) := by
        intro hopen ok
        have hlink := hbegun.linked
        refine hbegun.log _ trivial { hlink with downloading := fun _ => ⟨rfl, ?_, hopen⟩ }
        simp [hexposure]
      simp only [continues_done, meets_bind, meets_update]
      apply meets_call
      · exact fun _ => hbegun
      · exact fun hopen _ => hcalled hopen false
      · intro hopen
        simp only [continues_done, meets_bind]
        have hverify : verifyWheel.Meets
            ((world.set { world.host with ready := false, cancelled := true }).log
              (.called .download true)) fun _ after => Aside
            ((world.set { world.host with ready := false, cancelled := true }).log
              (.called .download true)) after :=
          aside_verifyWheel _
        refine hverify.mono fun result after hafter => ?_
        have hsound := (hcalled hopen true).aside hafter
        cases result with
        | failed error => exact hsound
        | pending => exact hsound
        | done _ =>
          simp only [continues_done, meets_bind]
          cases frame world.host exposure _ with
          | error fault => exact hsound
          | ok pixels =>
            simp only [Routine.meets_ofExcept_ok, continues_done, meets_bind,
              meets_sense, meets_update, meets_log, meets_ret]
            refine delivered_sound exposure h hready hexposure hsound hafter.backend
              hafter.videoParams ?_ _
            rw [hafter.view, cleanup_log]
            rfl
    · exact h

/-! ## Opening and closing -/

theorem forget_meets {world : World} (h : CleanupSound world) (hoff : world.cleanup.offTried = true)
    (hstop : world.cleanup.active = true ∨ world.cleanup.streaming = true →
      world.cleanup.stopTried = true) :
    forget.Meets world fun _ after => CleanupSound after ∧ after.host.backend = none := by
  unfold forget
  simp only [meets_bind, meets_update, continues_done, meets_log]
  refine ⟨⟨?_, ?_⟩, rfl⟩
  · rw [log_events, set_events, Monitor.kept_append]
    refine ⟨h.kept, ⟨hoff, ?_⟩, trivial⟩
    rintro (hevery | hheld)
    · cases hevery
    · exact hstop hheld
  · rw [cleanup_log, cleanup_set]
    exact ⟨rfl, (fun h => by cases h), (fun h => by cases h), (fun h => by cases h),
      (fun h => by cases h), (fun h => by cases h), h.linked.armed, fun _ => rfl,
      fun _ => ⟨rfl, rfl⟩⟩

theorem off_meets (hopen : world.host.backend.isSome = true) :
    ((power true).attempt : Task (Except Fault Unit)).Meets world fun result after =>
      result ≠ .pending ∧ Writes world after ∧ after.cleanup.offTried = true
        ∧ after.cleanup.stopTried = world.cleanup.stopTried
        ∧ after.cleanup.streaming = world.cleanup.streaming ∧ ∀ fault, result ≠ .failed fault := by
  have hlogged : ∀ ok, (world.log (.called (.power true) ok)).cleanup
      = { world.cleanup with offTried := true } :=
    fun ok => cleanup_log _ _
  have hpost : ∀ ok, (world.log (.called (.power true) ok)).cleanup.offTried = true
      ∧ (world.log (.called (.power true) ok)).cleanup.stopTried = world.cleanup.stopTried
      ∧ (world.log (.called (.power true) ok)).cleanup.streaming = world.cleanup.streaming := by
    intro ok
    rw [hlogged ok]
    exact ⟨rfl, rfl, rfl⟩
  unfold power
  simp only [meets_attempt, meets_bind]
  apply meets_call
  · intro hclosed
    simp [hclosed] at hopen
  · intro _ message
    exact ⟨(fun h => by cases h), writes_off false world, (hpost false).1, (hpost false).2.1,
      (hpost false).2.2, fun _ h => by cases h⟩
  · intro _
    exact ⟨(fun h => by cases h), writes_off true world, (hpost true).1, (hpost true).2.1,
      (hpost true).2.2, fun _ h => by cases h⟩

theorem closeCleanup_meets (h : CleanupSound world) :
    close.Meets world fun _ after => CleanupSound after ∧ after.host.backend = none := by
  unfold close
  simp only [meets_bind, meets_host, continues_done]
  split
  · rename_i hclosed
    have hnone : world.host.backend = none := by simpa using hclosed
    exact ⟨h, hnone⟩
  · rename_i hopen
    have hisOpen : world.host.backend.isSome = true := by
      simpa [Option.isSome_iff_ne_none] using hopen
    have hrest : ∀ {first : World} (stopped : Except Fault Unit) (result : Progress Fault Unit),
        Stopped world first result → (do
          let off ← (power true).attempt
          forget
          Routine.ofExcept stopped
          Routine.ofExcept off : Task Unit).Meets first fun _ after =>
            CleanupSound after ∧ after.host.backend = none := by
      intro first stopped result hfirst
      have hfirstOpen : first.host.backend.isSome = true := by
        rw [hfirst.backend]
        exact hisOpen
      refine (off_meets hfirstOpen).bind fun result second hsecond => ?_
      obtain ⟨hnotPending, hwrites, hoff, hstopTried, hstreaming, hnotFailed⟩ := hsecond
      cases result with
      | failed error => exact absurd rfl (hnotFailed error)
      | pending => exact absurd rfl hnotPending
      | done off =>
        simp only [continues_done]
        have hforget := forget_meets (hwrites.sound hfirst.sound) hoff (by
          rw [hwrites.active, hstreaming, hstopTried]
          exact hfirst.tried hisOpen)
        refine hforget.bind fun result third hthird => ?_
        cases result with
        | failed error => exact hthird
        | pending => exact hthird
        | done _ =>
          simp only [continues_done, meets_bind]
          cases stopped with
          | error fault => exact hthird
          | ok _ => cases off <;> exact hthird
    rw [meets_bind, meets_attempt]
    refine (stop_meets h).mono fun result first hfirst => ?_
    cases result with
    | failed error => exact hrest (.error error) _ hfirst
    | pending => exact absurd rfl hfirst.ended
    | done value => exact hrest (.ok value) _ hfirst

/-- A camera that was just opened was neither cancelled nor lost. -/
structure Opening (world : World) : Prop where
  sound : CleanupSound world
  doubtful : world.cleanup.doubtful = false
  stale : world.cleanup.stale = false
  downloading : world.cleanup.downloading = false

theorem Opening.writes (h : Opening before) (hwrites : Writes before after) : Opening after where
  sound := hwrites.sound h.sound
  doubtful := hwrites.doubtful.trans h.doubtful
  stale := hwrites.stale.trans h.stale
  downloading := hwrites.downloading.trans h.downloading

theorem opening_of_writes {task : Task α} (h : task.Keeps Writes) : Preserves Opening task :=
  fun world hworld => hworld.writes (h world)

theorem acquire_meets (h : CleanupSound world) (hclosed : world.host.backend = none)
    (hdownloading : world.cleanup.downloading = false) :
    acquire.Meets world fun _ after => Opening after := by
  obtain ⟨hdoubtful, hstale⟩ := h.linked.closed hclosed
  unfold Routine.Meets acquire
  split
  · exact Opening.writes ⟨h, hdoubtful, hstale, hdownloading⟩
      (Plain.log world fun _ => ⟨rfl, trivial⟩).aside.writes
  · have hlinked := h.linked
    have hview := cleanup_log world (.called .open_ true)
    refine ⟨⟨?_, ?_⟩, ?_, ?_, ?_⟩
    · rw [set_events, log_events, Monitor.kept_append]
      exact ⟨h.kept, trivial, trivial⟩
    · rw [cleanup_set, hview]
      exact ⟨rfl, hlinked.active, hlinked.streaming, hlinked.doubtful, hlinked.stale,
        fun hdownload => (hlinked.downloading hdownload).imp_right fun hheld => ⟨hheld.1, rfl⟩,
        hlinked.armed, hlinked.ready, (fun hnone => by cases hnone)⟩
    · rw [cleanup_set, hview]
      exact hdoubtful
    · rw [cleanup_set, hview]
      exact hstale
    · rw [cleanup_set, hview]
      exact hdownloading

theorem writes_readControl (limit : Nat × Int) : (readControl limit).Keeps Writes := by
  unfold readControl
  refine writes_bind (writes_of_aside (aside_call rfl)) fun answer => ?_
  exact writes_bind (writes_of_aside (aside_ensure _ _)) fun _ => writes_setValue _ _

theorem opening_notCancelled : Preserves Opening
    (update fun owner => { owner with cancelled := false }) := by
  intro world h
  have hlinked := h.sound.linked
  refine ⟨h.sound.set ⟨hlinked.owned, hlinked.active, hlinked.streaming, fun hdoubtful => ?_,
    fun hstale => ?_, fun hdownloading => ?_, hlinked.armed, fun _ => rfl, hlinked.closed⟩,
    h.doubtful, h.stale, h.downloading⟩
  · rw [h.doubtful] at hdoubtful
    cases hdoubtful
  · rw [h.stale] at hstale
    cases hstale
  · rw [h.downloading] at hdownloading
    cases hdownloading

theorem writes_onlyIf {condition : Bool} {task : Task Unit} (h : task.Keeps Writes) :
    (onlyIf condition task).Keeps Writes := by
  cases condition
  · exact fun world => .refl world
  · exact h

theorem openCleanup_meets (h : CleanupSound world)
    (hdownloading : world.cleanup.downloading = false) :
    openCamera.Meets world fun _ after => CleanupSound after := by
  unfold openCamera version
  simp only [meets_bind, meets_host, continues_done, meets_ensure]
  split
  · rename_i hclosed
    refine (acquire_meets h (by simpa using hclosed) hdownloading).mono
      fun result after hafter => ?_
    cases result with
    | failed error => exact hafter.sound
    | pending => exact hafter.sound
    | done _ =>
      have hrest : Preserves Opening (do
          onlyIf (!world.host.direct) (Routine.forEach readControl [(0, 200), (5, 255), (6, 60)])
          observe
          power true
          update fun owner => { owner with cancelled := false }
          onlyIf (!world.host.direct) (do let _ ← call .version; Routine.ret ())
          : Task Unit) := by
        refine preserves_bind (opening_of_writes (writes_onlyIf
          (Routine.keeps_forEach .refl (fun _ _ _ => .trans) writes_readControl _))) fun _ => ?_
        refine preserves_bind (opening_of_writes (writes_of_aside (aside_of_plain
          (plain_observe (cleanupQuiet_call rfl))))) fun _ => ?_
        refine preserves_bind (opening_of_writes (writes_power true)) fun _ => ?_
        refine preserves_bind opening_notCancelled fun _ => ?_
        exact opening_of_writes (writes_onlyIf (writes_of_aside (aside_of_plain
          (plain_call_ret (cleanupQuiet_call rfl)))))
      exact (hrest after hafter).sound
  · exact h

theorem writes_setControl (kind : Nat) (value : Int) : (setControl kind value).Keeps Writes := by
  unfold setControl
  refine writes_bind (fun world => .refl world) fun owner => ?_
  split
  · exact fun world => .refl world
  · refine writes_bind (writes_of_aside (aside_ensure _ _)) fun _ => ?_
    refine writes_bind (writes_of_aside (aside_ensure _ _)) fun _ => ?_
    refine writes_bind ?_ fun _ => writes_bind (writes_setValue _ _) fun _ world => .refl world
    unfold writeControl
    split
    · exact writes_bind (writes_set _ _) fun _ world => .refl world
    · split
      · exact fun world => .refl world
      · split
        · split
          · exact writes_power true
          · exact fun world => .refl world
        · exact fun world => .refl world

section

/-! ## Runs -/

variable {Params : Type} (parse : (Nat → Option Int) → Params → Except Fault Request)

/-- At the beginning of a command nothing was downloaded or streamed by it. -/
structure Begun (world : World) : Prop where
  sound : CleanupSound world
  downloading : world.cleanup.downloading = false
  streamed : world.cleanup.streamed = none

variable {world : World}

theorem performCleanup_meets (h : Begun world) (request : Command Params) :
    (perform parse request).Meets world fun _ after => CleanupSound after
      ∧ (request.isClose = true → after.host.backend = none) := by
  cases request with
  | wheelStatus =>
    have haside : (perform parse (.wheelStatus : Command Params)).Keeps Aside :=
      aside_bind aside_wheelStatus fun status => aside_ret _
    exact ⟨h.sound.aside (haside world), fun hclose => by cases hclose⟩
  | wheelMove position =>
    exact ⟨h.sound.aside (aside_wheelMove position world), fun hclose => by cases hclose⟩
  | open_ =>
    refine (openCleanup_meets h.sound h.downloading).bind fun result after hafter => ?_
    cases result <;> exact ⟨hafter, fun hclose => by cases hclose⟩
  | get kind =>
    have haside := (plain_getControl kind (cleanupQuiet_call rfl) world).aside
    exact ⟨h.sound.aside haside, fun hclose => by cases hclose⟩
  | set kind value =>
    exact ⟨(writes_setControl kind value world).sound h.sound, fun hclose => by cases hclose⟩
  | resumeCooling valid =>
    have haside := (plain_resumeCooling valid (cleanupQuiet_call rfl) (cleanupQuiet_call rfl)
      world).aside
    exact ⟨h.sound.aside haside, fun hclose => by cases hclose⟩
  | validate params =>
    have haside : (perform parse (.validate params)).Keeps Aside :=
      aside_bind aside_host fun _ =>
        aside_bind (Routine.keeps_ofExcept .refl _) fun _ => aside_ret _
    exact ⟨h.sound.aside (haside world), fun hclose => by cases hclose⟩
  | start params =>
    simp only [perform, meets_bind, meets_host, continues_done]
    cases parse world.host.values params with
    | error fault => exact ⟨h.sound, fun hclose => by cases hclose⟩
    | ok request =>
      exact ⟨startCleanup_meets request h.sound h.downloading h.streamed,
        fun hclose => by cases hclose⟩
  | status =>
    exact (statusCleanup_meets h.sound).mono
      fun result after hafter => ⟨hafter, fun hclose => by cases hclose⟩
  | download =>
    exact (downloadCleanup_meets h.sound).mono
      fun result after hafter => ⟨hafter, fun hclose => by cases hclose⟩
  | stop =>
    refine (stop_meets h.sound).bind fun result after hafter => ?_
    cases result <;> exact ⟨hafter.sound, fun hclose => by cases hclose⟩
  | close =>
    refine (closeCleanup_meets h.sound).bind fun result after hafter => ?_
    cases result <;> exact ⟨hafter.1, fun _ => hafter.2⟩

theorem CleanupSound.replied (h : CleanupSound world) {closing : Bool} (ok : Bool)
    (hclosed : closing = true → world.host.backend = none) :
    CleanupSound (world.log (.replied closing ok)) := by
  have hlinked := h.linked
  have howned : closing = true → world.cleanup.owned = false := by
    intro hclosing
    rw [hlinked.owned, hclosed hclosing]
    rfl
  refine h.log _ howned ?_
  cases ok with
  | true => exact hlinked
  | false =>
    change CleanupLinked world.host
      (if world.cleanup.downloading then { world.cleanup.lose with doubtful := true }
        else world.cleanup)
    split
    · rename_i hdownloading
      obtain ⟨hcancelled, hexposure, hopen⟩ := hlinked.downloading hdownloading
      refine ⟨hlinked.owned, hlinked.active, hlinked.streaming,
        fun _ => .inr ⟨hexposure, hcancelled⟩, fun _ => .inl hcancelled, hlinked.downloading,
        hlinked.armed, hlinked.ready, fun hclosed => ?_⟩
      simp [hclosed] at hopen
    · exact hlinked

theorem commandCleanup_sound (h : CleanupSound world) (request : Command Params) :
    CleanupSound (command parse request world).2 := by
  change (command parse request).Meets world fun _ after => CleanupSound after
  unfold command
  simp only [meets_bind, meets_log, continues_done]
  rw [meets_attempt]
  have hlinked := h.linked
  have hview := cleanup_log world .asked
  have hbegun : Begun (world.log .asked) := by
    refine ⟨h.log .asked trivial ⟨hlinked.owned, hlinked.active, hlinked.streaming,
      hlinked.doubtful, hlinked.stale, (fun h => by cases h), hlinked.armed, hlinked.ready,
      hlinked.closed⟩, ?_, ?_⟩ <;> rw [hview] <;> rfl
  have hblock : (do admissible request; perform parse request : Task Reply).Meets
      (world.log .asked) fun _ after => CleanupSound after
        ∧ (request.isClose = true → after.host.backend = none) := by
    unfold admissible
    simp only [meets_bind, meets_host, continues_done, meets_ensure]
    split
    · exact performCleanup_meets parse hbegun request
    · rename_i hrefused
      have hcleanup : request.isClose = true → request.isCleanup = true := by
        cases request <;> first | exact fun _ => rfl | exact fun hclose => by cases hclose
      refine ⟨hbegun.sound, fun hclose => absurd ?_ hrefused⟩
      rw [hcleanup hclose, Bool.or_true]
  refine hblock.mono fun result after hafter => ?_
  cases result with
  | done value => exact hafter.1.replied true hafter.2
  | failed error => exact hafter.1.replied false hafter.2
  | pending => exact hafter.1

theorem backgroundCleanup_sound (h : CleanupSound world) : CleanupSound (background world).2 := by
  have hidle : idle.Meets world fun _ after => CleanupSound after :=
    h.aside (plain_idle (cleanupQuiet_call rfl) (cleanupQuiet_call rfl) (cleanupQuiet_call rfl)
      world).aside
  change background.Meets world fun _ after => CleanupSound after
  unfold background
  simp only [meets_bind, meets_host, continues_done]
  split
  · exact h
  · simp only [meets_bind, meets_attempt]
    refine hidle.mono fun result after hafter => ?_
    cases result with
    | done value => exact hafter
    | failed error =>
      have hlinked := hafter.linked
      exact hafter.set { hlinked with }
    | pending => exact hafter

theorem runCleanup_sound (h : CleanupSound world) (ops : List (Option (Command Params))) :
    CleanupSound (run parse world ops) := by
  induction ops generalizing world with
  | nil => exact h
  | cons op ops ih =>
    cases op with
    | none => exact ih (backgroundCleanup_sound h)
    | some request => exact ih (commandCleanup_sound parse h request)

theorem startCleanup_sound (direct : Bool) (answers : Nat → Answer) :
    CleanupSound (.start direct answers) :=
  ⟨trivial, ⟨rfl, (fun h => by cases h), (fun h => by cases h), (fun h => by cases h),
    (fun h => by cases h), (fun h => by cases h), (fun _ h => by cases h), (fun h => by cases h),
    fun _ => ⟨rfl, rfl⟩⟩⟩

/-- No exposure is dispatched before the one before it is over and cleaned up, and a closed camera
was stopped and switched off. -/
theorem acquisitionCleanup (direct : Bool) (answers : Nat → Answer)
    (ops : List (Option (Command Params))) :
    (CleanupView.monitor false).Kept .new (run parse (.start direct answers) ops).events :=
  (runCleanup_sound parse (startCleanup_sound direct answers) ops).kept

end

def fullSensor (values : Nat → Option Int) (video : Bool) : Except Fault Request :=
  .ok ⟨⟨1000, 9600, 6422, 0, 0, false⟩, video, (values 0).getD 0, 16, 0, 0, none⟩

def acknowledged : Answer where
  error := none
  slots := 9
  position := some 0
  telemetry := some (0, 0)
  value := 30
  ready := false
  pixels := []
  now := 0
  due := false
  refresh := false

def stopAndStream : List Event :=
  (run fullSensor (.start true fun _ => acknowledged)
    [some .open_, some (.start false), some .stop, some (.start true)]).events

/-- A video is streamed before its controls are written again. -/
theorem stream_before_controls : ¬(CleanupView.monitor true).Kept .new stopAndStream := by
  intro hkept
  rw [Monitor.kept_iff] at hkept
  have hstream := hkept (stopAndStream.take 15) _ (stopAndStream.drop 16) rfl
  cases hstream.2 rfl rfl 0 (by decide)

end Regain.Qhy
