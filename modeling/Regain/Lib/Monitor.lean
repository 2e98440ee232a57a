/-!
# Monitors

A monitor reads the events of a system one by one.  It keeps a view of what it has seen and says
which event may come next.  A list of events is kept if every event is allowed by the view of the
events before it.
-/

namespace Regain.Lib

structure Monitor (View Event : Type) where
  observe : View → Event → View
  Allows : View → Event → Prop

namespace Monitor

variable {View Event : Type} (monitor : Monitor View Event)

def view (start : View) (events : List Event) : View :=
  events.foldl monitor.observe start

def Kept (start : View) : List Event → Prop
  | [] => True
  | event :: events => monitor.Allows start event ∧ Kept (monitor.observe start event) events

variable {monitor} {start : View} {events later : List Event}

@[simp] theorem view_nil : monitor.view start [] = start := rfl

@[simp] theorem view_append :
    monitor.view start (events ++ later) = monitor.view (monitor.view start events) later :=
  List.foldl_append

@[simp] theorem view_cons (event : Event) :
    monitor.view start (event :: events) = monitor.view (monitor.observe start event) events :=
  rfl

@[simp] theorem kept_nil : monitor.Kept start [] := trivial

@[simp] theorem kept_cons {event : Event} : monitor.Kept start (event :: events)
      ↔ monitor.Allows start event ∧ monitor.Kept (monitor.observe start event) events :=
  Iff.rfl

@[simp] theorem kept_append : monitor.Kept start (events ++ later)
      ↔ monitor.Kept start events ∧ monitor.Kept (monitor.view start events) later := by
  induction events generalizing start with
  | nil => simp
  | cons event events ih => simp [ih, and_assoc]

/-- Every event of a kept list is allowed by the events before it. -/
theorem kept_iff : monitor.Kept start events ↔ ∀ before event after,
    events = before ++ event :: after → monitor.Allows (monitor.view start before) event := by
  constructor
  · intro hkept before event after hevents
    rw [hevents, kept_append, kept_cons] at hkept
    exact hkept.2.1
  · intro hallows
    induction events generalizing start with
    | nil => exact trivial
    | cons event events ih =>
      refine ⟨hallows [] event events rfl, ih ?_⟩
      intro before other after hevents
      exact hallows (event :: before) other after (by rw [hevents]; rfl)

/-- An event that every view allows and that changes none. -/
def Quiet (monitor : Monitor View Event) (event : Event) : Prop :=
  ∀ view, monitor.observe view event = view ∧ monitor.Allows view event

theorem view_of_quiet (h : ∀ event ∈ events, monitor.Quiet event) :
    monitor.view start events = start := by
  induction events with
  | nil => rfl
  | cons event events ih =>
    rw [view_cons, (h event List.mem_cons_self start).1]
    exact ih fun other hmem => h other (List.mem_cons_of_mem _ hmem)

theorem kept_of_quiet (h : ∀ event ∈ events, monitor.Quiet event) : monitor.Kept start events := by
  induction events generalizing start with
  | nil => trivial
  | cons event events ih =>
    refine ⟨(h event List.mem_cons_self start).2, ?_⟩
    exact ih fun other hmem => h other (List.mem_cons_of_mem _ hmem)

end Monitor

end Regain.Lib
