import Mathlib.Tactic.Common
import Mathlib.Tactic.FinCases
import Regain.Lib.History
import Regain.Wanderer.Tilter

/-!
# Runs of the tilter

The history of a session is the list of its events.  A point is commanded only at rest: the last
command before it was followed by three readings in a row within its tolerance.
-/

namespace Regain.Wanderer

open Lib
open Outcome (andThen)

namespace Tilter

/-! ## Commands and readings -/

def sends (log : List Event) : List (Nat × Int) :=
  log.filterMap fun
    | .sent point target _ => some (point, target)
    | _ => none

def acceptances (log : List Event) : List (Nat × Int) :=
  log.filterMap fun
    | .accepted point target => some (point, target)
    | _ => none

def readings (log : List Event) : List (Telemetry × Nat) :=
  log.filterMap fun
    | .read telemetry now => some (telemetry, now)
    | _ => none

@[simp] theorem sends_append (log rest : List Event) :
    sends (log ++ rest) = sends log ++ sends rest :=
  List.filterMap_append

@[simp] theorem acceptances_append (log rest : List Event) :
    acceptances (log ++ rest) = acceptances log ++ acceptances rest :=
  List.filterMap_append

@[simp] theorem readings_append (log rest : List Event) :
    readings (log ++ rest) = readings log ++ readings rest :=
  List.filterMap_append

@[simp] theorem sends_accepted (targets : List (Nat × Int)) :
    sends (targets.map fun target => .accepted target.1 target.2) = [] := by
  induction targets with
  | nil => rfl
  | cons target targets ih => exact ih

@[simp] theorem acceptances_accepted (targets : List (Nat × Int)) :
    acceptances (targets.map fun target => .accepted target.1 target.2) = targets := by
  induction targets with
  | nil => rfl
  | cons target targets ih => exact congrArg (target :: ·) ih

/-- A command has settled in what followed it: three readings in a row were within tolerance, the
third of them when the settle time was over. -/
def SettledIn (point : Nat) (target : Int) (started : Nat) (mid : List Event) : Prop :=
  ∃ early first second third late, readings mid = early ++ [first, second, third] ++ late
    ∧ (∀ reading ∈ [first, second, third], Telemetry.Within reading.1 point target)
    ∧ started + settleTime ≤ third.2

def AtRest (log : List Event) : Prop :=
  ∀ older point target started mid, log = older ++ .sent point target started :: mid →
    sends mid = [] → SettledIn point target started mid

def Sequenced (before : List Event) : Event → Prop
  | .sent _ _ _ => AtRest before
  | _ => True

section

variable {log rest mid mid' older older' : List Event} {point point' started started' : Nat}
  {target target' : Int}

theorem SettledIn.append (h : SettledIn point target started mid) (rest : List Event) :
    SettledIn point target started (mid ++ rest) := by
  obtain ⟨early, first, second, third, late, hmid, hwithin, htime⟩ := h
  refine ⟨early, first, second, third, late ++ readings rest, ?_, hwithin, htime⟩
  rw [readings_append, hmid]
  simp

theorem sends_ne_nil : sends (older ++ .sent point target started :: mid) ≠ [] := by
  simp [sends]

theorem lastSent_unique (h : older ++ .sent point target started :: mid
      = older' ++ .sent point' target' started' :: mid')
    (hmid : sends mid = []) (hmid' : sends mid' = []) :
    Event.sent point target started = .sent point' target' started' ∧ mid = mid' := by
  rcases List.append_eq_append_iff.mp h with ⟨extra, holder, hrest⟩ | ⟨extra, holder, hrest⟩
  · cases extra with
    | nil => exact List.cons.inj hrest
    | cons event extra =>
      obtain ⟨_, hsplit⟩ := List.cons.inj hrest
      exact absurd (hsplit ▸ hmid) sends_ne_nil
  · cases extra with
    | nil =>
      obtain ⟨hsame, hrest'⟩ := List.cons.inj hrest
      exact ⟨hsame.symm, hrest'.symm⟩
    | cons event extra =>
      obtain ⟨_, hsplit⟩ := List.cons.inj hrest
      exact absurd (hsplit ▸ hmid') sends_ne_nil

theorem AtRest.of_settled (hmid : sends mid = []) (h : SettledIn point target started mid) :
    AtRest (older ++ .sent point target started :: mid) := by
  intro older' point' target' started' mid' hsplit hmid'
  obtain ⟨hsame, hrest⟩ := lastSent_unique hsplit hmid hmid'
  cases hsame
  rw [← hrest]
  exact h

theorem AtRest.append (h : AtRest log) (hrest : sends rest = []) : AtRest (log ++ rest) := by
  intro older point target started mid hsplit hmid
  rcases List.append_eq_append_iff.mp hsplit with ⟨extra, _, hextra⟩ | ⟨extra, hlog, hextra⟩
  · exact absurd (hextra ▸ hrest) sends_ne_nil
  · cases extra with
    | nil =>
      have hsame : rest = [] ++ .sent point target started :: mid := hextra.symm
      exact absurd (hsame ▸ hrest) sends_ne_nil
    | cons event extra =>
      have hevent : Event.sent point target started = event := (List.cons.inj hextra).1
      have hsame : mid = extra ++ rest := (List.cons.inj hextra).2
      subst hevent hsame
      rw [sends_append, List.append_eq_nil_iff] at hmid
      exact (h older point target started extra hlog hmid.1).append rest

end

/-! ## Steps of a motion -/

/-- The readings since the command of the active motion that its counter counts. -/
def Counted (log : List Event) (motion : Motion) : Prop :=
  ∃ older mid early recent,
    log = older ++ .sent motion.point motion.target motion.started :: mid ∧ sends mid = []
      ∧ readings mid = early ++ recent ∧ motion.settled ≤ recent.length
      ∧ ∀ reading ∈ recent, Telemetry.Within reading.1 motion.point motion.target

theorem counted_sent (log : List Event) (point : Nat) (target : Int) (started : Nat) :
    Counted (log ++ [.sent point target started])
      { point := point, target := target, started := started } :=
  ⟨log, [], [], [], rfl, rfl, rfl, Nat.le_refl 0, fun _ hmem => by cases hmem⟩

theorem Counted.read {log : List Event} {motion : Motion} (h : Counted log motion)
    (telemetry : Telemetry) (now : Nat) :
    Counted (log ++ [.read telemetry now]) (Motion.count telemetry motion) := by
  obtain ⟨older, mid, early, recent, rfl, hmid, hreadings, hcount, hwithin⟩ := h
  have hread : readings (mid ++ [.read telemetry now]) = early ++ recent ++ [(telemetry, now)] := by
    rw [readings_append, hreadings]
    rfl
  have hsends : sends (mid ++ [.read telemetry now]) = [] := by
    rw [sends_append, hmid]
    rfl
  by_cases hthis : telemetry.Within motion.point motion.target
  · refine ⟨older, mid ++ [.read telemetry now], early, recent ++ [(telemetry, now)],
      by simp [Motion.count], hsends, by simp [hread], ?_, ?_⟩
    · rw [Motion.count, if_pos hthis, List.length_append, List.length_singleton]
      exact (Nat.min_le_left _ _).trans (Nat.add_le_add_right hcount 1)
    · intro reading hmem
      rcases List.mem_append.mp hmem with hbefore | hlast
      · exact hwithin reading hbefore
      · rw [List.mem_singleton.mp hlast]
        exact hthis
  · refine ⟨older, mid ++ [.read telemetry now], early ++ recent ++ [(telemetry, now)], [],
      by simp [Motion.count], hsends, by simp [hread], ?_, fun _ hmem => by cases hmem⟩
    rw [Motion.count, if_neg hthis]
    exact Nat.zero_le 0

theorem Counted.atRest {log : List Event} {motion : Motion} {telemetry : Telemetry} {now : Nat}
    (h : Counted (log ++ [.read telemetry now]) motion) (hcount : 3 ≤ motion.settled)
    (htime : motion.started + settleTime ≤ now) : AtRest (log ++ [.read telemetry now]) := by
  obtain ⟨older, mid, early, recent, hlog, hmid, hreadings, hle, hwithin⟩ := h
  rw [hlog]
  refine AtRest.of_settled hmid ?_
  have hlong : 3 ≤ recent.length := by omega
  have hsplit := List.take_append_drop (recent.length - 3) recent
  have hdrop : (recent.drop (recent.length - 3)).length = 3 := by
    rw [List.length_drop]
    omega
  obtain ⟨first, second, third, hthree⟩ := List.length_eq_three.mp hdrop
  have hrecent : readings mid
      = (early ++ recent.take (recent.length - 3)) ++ [first, second, third] ++ [] := by
    rw [hreadings, List.append_nil, List.append_assoc, ← hthree, hsplit]
  refine ⟨_, first, second, third, [], hrecent, ?_, ?_⟩
  · intro reading hmem
    refine hwithin reading ?_
    rw [← hsplit, hthree]
    exact List.mem_append_right _ hmem
  · have hlast : (readings mid).getLast? = some third := by
      rw [hrecent]
      simp
    have hends : (readings (log ++ [.read telemetry now])).getLast? = some (telemetry, now) := by
      simp [readings]
    have hskip : readings (older ++ .sent motion.point motion.target motion.started :: mid)
        = readings older ++ readings mid :=
      readings_append older _
    rw [hlog, hskip, List.getLast?_append, hlast] at hends
    cases hends
    exact htime

/-- What a status does: the cases of its read and of the active motion. -/
inductive Observed (env : Env) (tilter : Tilter) : List Event → Tilter → Prop
  | faulted (hfault : tilter.fault.isSome = true) : Observed env tilter [] tilter
  | unread (error : String) (hfault : tilter.fault = none) :
      Observed env tilter [] (tilter.poison error)
  | idle (telemetry : Telemetry) (hfault : tilter.fault = none) (hactive : tilter.active = none) :
      Observed env tilter [.read telemetry env.later] { tilter with telemetry := telemetry }
  | late (telemetry : Telemetry) (motion : Motion) (error : String) (hfault : tilter.fault = none)
      (hactive : tilter.active = some motion) :
      Observed env tilter [.read telemetry env.later]
        (poison error { tilter with telemetry := telemetry })
  | counting (telemetry : Telemetry) (motion : Motion) (hfault : tilter.fault = none)
      (hactive : tilter.active = some motion) :
      Observed env tilter [.read telemetry env.later]
        { tilter with telemetry := telemetry, active := some (Motion.count telemetry motion) }
  | settled (telemetry : Telemetry) (motion : Motion) (hfault : tilter.fault = none)
      (hactive : tilter.active = some motion)
      (hcount : 3 ≤ (Motion.count telemetry motion).settled)
      (htime : motion.started + settleTime ≤ env.later) :
      Observed env tilter
        (.read telemetry env.later
          :: (next env { tilter with telemetry := telemetry, active := none }).events)
        (next env { tilter with telemetry := telemetry, active := none }).tilter

theorem Outcome.andThen_report {α β : Type} (first : Outcome α) (value : α → Tilter → β) :
    (first.andThen fun found tilter => ⟨.ok (value found tilter), [], tilter⟩).events = first.events
      ∧ (first.andThen fun found tilter => ⟨.ok (value found tilter), [], tilter⟩).tilter
        = first.tilter := by
  unfold andThen
  split
  · exact ⟨rfl, rfl⟩
  · exact ⟨List.append_nil _, rfl⟩

theorem status_observed (env : Env) (tilter : Tilter) :
    Observed env tilter (tilter.status env).events (tilter.status env).tilter := by
  obtain ⟨old, active, queue, fault⟩ := tilter
  unfold status
  cases fault with
  | some fault => exact .faulted rfl
  | none =>
    cases env.reading with
    | error error => exact .unread error rfl
    | ok telemetry =>
      dsimp only
      rw [(Outcome.andThen_report _ _).1, (Outcome.andThen_report _ _).2]
      simp only [andThen, advance]
      cases active with
      | none => exact .idle telemetry rfl rfl
      | some motion =>
        dsimp only
        by_cases hlate : moveTimeout < env.now - motion.started
        · rw [if_pos hlate]
          exact .late telemetry motion _ rfl rfl
        · rw [if_neg hlate]
          split
          · rename_i hsettled
            have htime : motion.started + settleTime ≤ env.later := by
              have hpositive : 0 < settleTime := by decide
              omega
            exact .settled telemetry motion rfl rfl hsettled.1 htime
          · exact .counting telemetry motion rfl rfl

/-! ## Requests -/

/-- A request that has accepted targets commands the first of them. -/
structure Accepted (env : Env) (tilter : Tilter) (telemetry : Telemetry)
    (targets : List (Nat × Int)) (events : List Event) (tilter' : Tilter) : Prop where
  fault : tilter.fault = none
  active : tilter.active = none
  events : events = .read telemetry env.later
    :: (enqueue targets env { tilter with telemetry := telemetry }).events
  after : tilter' = (enqueue targets env { tilter with telemetry := telemetry }).tilter

/-- A tilter that is not ready for a move accepts nothing. -/
inductive Refused (env : Env) (tilter : Tilter) : List Event → Tilter → Prop
  | same : Refused env tilter [] tilter
  | unread (error : String) (hfault : tilter.fault = none) (hactive : tilter.active = none) :
      Refused env tilter [] (tilter.poison error)
  | read (telemetry : Telemetry) (hfault : tilter.fault = none) (hactive : tilter.active = none) :
      Refused env tilter [.read telemetry env.later] { tilter with telemetry := telemetry }

theorem ready_cases (env : Env) (tilter : Tilter) :
    ((∃ error, (tilter.ready env).ending = .error error)
        ∧ Refused env tilter (tilter.ready env).events (tilter.ready env).tilter)
      ∨ tilter.fault = none ∧ tilter.active = none ∧ ∃ telemetry,
        tilter.ready env
          = ⟨.ok (), [.read telemetry env.later], { tilter with telemetry := telemetry }⟩ := by
  obtain ⟨old, active, queue, fault⟩ := tilter
  cases fault with
  | some fault => exact .inl ⟨⟨_, rfl⟩, .same⟩
  | none =>
    cases active with
    | some motion => exact .inl ⟨⟨_, rfl⟩, .same⟩
    | none =>
      cases hreading : env.reading with
      | error error =>
        refine .inl ?_
        simp only [ready, status, hreading, pending, andThen]
        exact ⟨⟨_, rfl⟩, .unread error rfl rfl⟩
      | ok telemetry =>
        refine .inr ⟨rfl, rfl, telemetry, ?_⟩
        simp only [ready, status, hreading, pending, andThen]
        rfl

def Valid (accepted : Nat × Int) : Prop :=
  (1 ≤ accepted.1 ∧ accepted.1 ≤ 3) ∧ 0 ≤ accepted.2 ∧ accepted.2 ≤ maxPosition

theorem command_valid {point : Nat} {target : Int} {text : String}
    (h : command point target = .ok text) : Valid (point, target) := by
  unfold command at h
  split at h
  · cases h
  · split at h
    · cases h
    · rename_i hpoint htarget
      exact ⟨not_not.mp hpoint, not_not.mp htarget⟩

theorem preflight_valid {targets : List (Nat × Int)} (h : preflight targets = .ok ()) :
    ∀ accepted ∈ targets, Valid accepted := by
  induction targets with
  | nil => simp
  | cons first targets ih =>
    rw [preflight] at h
    split at h
    · cases h
    · rename_i hcommand
      intro accepted hmem
      rcases List.mem_cons.mp hmem with rfl | htail
      · exact command_valid hcommand
      · exact ih h accepted htail

theorem movePoint_cases (point : Nat) (target : Int) (env : Env) (tilter : Tilter) :
    Refused env tilter (tilter.movePoint point target env).events
        (tilter.movePoint point target env).tilter
      ∨ Valid (point, target) ∧ ∃ telemetry, Accepted env tilter telemetry [(point, target)]
        (tilter.movePoint point target env).events (tilter.movePoint point target env).tilter := by
  unfold movePoint
  cases hcommand : command point target with
  | error error => exact .inl .same
  | ok text =>
    dsimp only
    rcases tilter.ready_cases env with ⟨⟨error, hending⟩, hrefused⟩
      | ⟨hfault, hactive, telemetry, hready⟩
    · simpa only [andThen, hending] using .inl hrefused
    · refine .inr ⟨command_valid hcommand, telemetry, ?_⟩
      rw [hready]
      exact ⟨hfault, hactive, rfl, rfl⟩

theorem moveTo_cases (position : Int) (env : Env) (tilter : Tilter) :
    Refused env tilter (tilter.moveTo position env).events (tilter.moveTo position env).tilter
      ∨ ∃ telemetry, (∀ accepted ∈ targets position telemetry, Valid accepted)
        ∧ Accepted env tilter telemetry (targets position telemetry)
          (tilter.moveTo position env).events (tilter.moveTo position env).tilter := by
  unfold moveTo
  split
  · exact .inl .same
  · rcases tilter.ready_cases env with ⟨⟨error, hending⟩, hrefused⟩
      | ⟨hfault, hactive, telemetry, hready⟩
    · simpa only [andThen, hending] using .inl hrefused
    · rw [hready]
      simp only [andThen]
      cases hpreflight : preflight (targets position telemetry) with
      | error error => exact .inl (.read telemetry hfault hactive)
      | ok _ => exact .inr ⟨telemetry, preflight_valid hpreflight, hfault, hactive, rfl, rfl⟩

/-! ## The invariant -/

structure Kept (log : List Event) (tilter : Tilter) : Prop where
  sequential : Justified Sequenced log
  once : (sends log ++ tilter.queue).Sublist (acceptances log)
  valid : ∀ accepted ∈ acceptances log, Valid accepted
  rest : tilter.active = none → AtRest log
  counting : tilter.fault = none → ∀ motion, tilter.active = some motion → Counted log motion

theorem sequenced_append {log rest : List Event} (h : Justified Sequenced log)
    (hrest : sends rest = []) : Justified Sequenced (log ++ rest) := by
  induction rest generalizing log with
  | nil => simpa using h
  | cons event rest ih =>
    have hevent : Sequenced log event ∧ sends rest = [] := by
      cases event with
      | read telemetry now => exact ⟨trivial, hrest⟩
      | accepted point target => exact ⟨trivial, hrest⟩
      | sent point target started => cases hrest
    simpa using ih (h.concat hevent.1) hevent.2

section

variable {log : List Event} {tilter tilter' : Tilter} {env : Env} {events : List Event}

theorem Kept.poison (h : Kept log tilter) (error : String) : Kept log (tilter.poison error) where
  sequential := h.sequential
  once := by
    simp only [Tilter.poison, List.append_nil]
    exact (List.sublist_append_left _ _).trans h.once
  valid := h.valid
  rest := h.rest
  counting hfault := by cases hfault

theorem Kept.read (h : Kept log tilter) (hactive : tilter.active = none) (telemetry : Telemetry)
    (now : Nat) : Kept (log ++ [.read telemetry now]) { tilter with telemetry := telemetry } where
  sequential := sequenced_append h.sequential rfl
  once := by simpa [sends, acceptances] using h.once
  valid := by simpa [acceptances] using h.valid
  rest _ := (h.rest hactive).append rfl
  counting _ motion hmotion := by
    rw [hactive] at hmotion
    cases hmotion

theorem Kept.next (h : Kept log tilter) (hactive : tilter.active = none) :
    Kept (log ++ (next env tilter).events) (next env tilter).tilter := by
  obtain ⟨telemetry, active, queue, fault⟩ := tilter
  cases queue with
  | nil => simpa [Tilter.next] using h
  | cons first queue =>
    obtain ⟨point, target⟩ := first
    have hmoved : Kept (log ++ [.sent point target env.started])
        { telemetry := telemetry, queue := queue, fault := fault,
          active := some { point := point, target := target, started := env.started } } := by
      refine ⟨h.sequential.concat (h.rest hactive), ?_, ?_, ?_, ?_⟩
      · simpa [sends, acceptances] using h.once
      · simpa [acceptances] using h.valid
      · intro hnone
        cases hnone
      · intro _ motion hmotion
        cases hmotion
        exact counted_sent log point target env.started
    simp only [Tilter.next]
    cases env.written with
    | ok _ => exact hmoved
    | error error => exact hmoved.poison error

theorem Kept.readMoving (h : Kept log tilter) (telemetry : Telemetry) (now : Nat)
    (hqueue : tilter'.queue.Sublist tilter.queue)
    (hrest : tilter'.active = none → AtRest (log ++ [.read telemetry now]))
    (hactive : tilter'.fault = none → ∀ motion, tilter'.active = some motion →
      Counted (log ++ [.read telemetry now]) motion) :
    Kept (log ++ [.read telemetry now]) tilter' where
  sequential := sequenced_append h.sequential rfl
  once := by
    have honce : (sends log ++ tilter'.queue).Sublist (acceptances log) :=
      (hqueue.append_left _).trans h.once
    simpa [sends, acceptances] using honce
  valid := by simpa [acceptances] using h.valid
  rest := hrest
  counting := hactive

theorem Kept.observe (h : Kept log tilter) (hobserved : Observed env tilter events tilter') :
    Kept (log ++ events) tilter' := by
  cases hobserved with
  | faulted => simpa using h
  | unread error => simpa using h.poison error
  | idle telemetry _ hactive => exact h.read hactive telemetry env.later
  | late telemetry motion error hfault hactive =>
    refine h.readMoving telemetry env.later (List.nil_sublist _) ?_ ?_
    · intro hnone
      have hsome : tilter.active = none := hnone
      rw [hactive] at hsome
      cases hsome
    · intro hnone
      cases hnone
  | counting telemetry motion hfault hactive =>
    refine h.readMoving telemetry env.later (List.Sublist.refl _) ?_ ?_
    · intro hnone
      cases hnone
    · intro _ counted hcounted
      cases hcounted
      exact (h.counting hfault motion hactive).read telemetry env.later
  | settled telemetry motion hfault hactive hcount htime =>
    have hcounted := (h.counting hfault motion hactive).read telemetry env.later
    have hatRest := hcounted.atRest hcount htime
    have hread : Kept (log ++ [.read telemetry env.later])
        { tilter with telemetry := telemetry, active := none } := by
      refine h.readMoving telemetry env.later (List.Sublist.refl _) (fun _ => hatRest) ?_
      intro _ motion hnone
      cases hnone
    simpa using hread.next rfl

theorem Kept.refuse (h : Kept log tilter) (hrefused : Refused env tilter events tilter') :
    Kept (log ++ events) tilter' := by
  cases hrefused with
  | same => simpa using h
  | unread error => simpa using h.poison error
  | read telemetry hfault hactive => exact h.read hactive telemetry env.later

theorem Kept.accept {telemetry : Telemetry} {targets : List (Nat × Int)} (h : Kept log tilter)
    (hvalid : ∀ accepted ∈ targets, Valid accepted)
    (haccepted : Accepted env tilter telemetry targets events tilter') :
    Kept (log ++ events) tilter' := by
  obtain ⟨hfault, hactive, rfl, rfl⟩ := haccepted
  have hread := h.read hactive telemetry env.later
  have hqueued : Kept (log ++ [.read telemetry env.later]
        ++ targets.map fun target => .accepted target.1 target.2)
      { tilter with telemetry := telemetry, queue := tilter.queue ++ targets } := by
    refine ⟨sequenced_append hread.sequential (sends_accepted targets), ?_, ?_, ?_, ?_⟩
    · rw [sends_append, sends_accepted, List.append_nil, acceptances_append, acceptances_accepted,
        ← List.append_assoc]
      exact hread.once.append (List.Sublist.refl targets)
    · intro accepted hmem
      rw [acceptances_append, acceptances_accepted] at hmem
      rcases List.mem_append.mp hmem with hbefore | hnew
      · exact hread.valid accepted hbefore
      · exact hvalid accepted hnew
    · exact fun _ => (hread.rest hactive).append (sends_accepted targets)
    · intro _ motion hmotion
      have hsome : tilter.active = some motion := hmotion
      rw [hactive] at hsome
      cases hsome
  simpa [enqueue, andThen] using hqueued.next hactive

theorem Kept.serve (h : Kept log tilter) (op : Request × Env) :
    Kept (log ++ (tilter.serve op).events) (tilter.serve op).tilter := by
  obtain ⟨request, env⟩ := op
  cases request with
  | status =>
    simp only [Tilter.serve, (Outcome.andThen_report _ _).1, (Outcome.andThen_report _ _).2]
    exact h.observe (status_observed env tilter)
  | movePoint point target =>
    simp only [Tilter.serve, (Outcome.andThen_report _ _).1, (Outcome.andThen_report _ _).2]
    rcases movePoint_cases point target env tilter with hrefused | ⟨hvalid, telemetry, haccepted⟩
    · exact h.refuse hrefused
    · exact h.accept (by simpa using hvalid) haccepted
  | moveTo position =>
    simp only [Tilter.serve, (Outcome.andThen_report _ _).1, (Outcome.andThen_report _ _).2]
    rcases moveTo_cases position env tilter with hrefused | ⟨telemetry, hvalid, haccepted⟩
    · exact h.refuse hrefused
    · exact h.accept hvalid haccepted
  | cancelQueued =>
    refine ⟨by simpa [Tilter.serve] using h.sequential, ?_, ?_, ?_, ?_⟩
    · have honce := (List.sublist_append_left _ _).trans h.once
      simpa [Tilter.serve, Tilter.cancelQueued] using honce
    · simpa [Tilter.serve] using h.valid
    · simpa [Tilter.serve, Tilter.cancelQueued] using h.rest
    · simpa [Tilter.serve, Tilter.cancelQueued] using h.counting

end

/-- Targets that move the mean of the readings to a position and keep the tilt. -/
structure Shift (telemetry : Telemetry) (position : Int) (targets : Fin 3 → Int) : Prop where
  valid : ∀ point, 0 ≤ targets point ∧ targets point ≤ maxPosition
  tilt : ∀ first second,
    |((targets first : ℚ) - targets second) - (telemetry.points first - telemetry.points second)| ≤ 1
  mean : |((targets 0 : ℚ) + targets 1 + targets 2) / 3 - position| ≤ 1 / 2

theorem asI32_valid {value : ℚ} (h : 0 ≤ asI32 value ∧ asI32 value ≤ maxPosition) :
    |(asI32 value : ℚ) - value| ≤ 1 / 2 := by
  have hsame : asI32 value = roundAway value := by
    unfold asI32 maxPosition at *
    omega
  rw [hsame]
  exact abs_roundAway_sub_le value

theorem targets_shift {position : Int} {telemetry : Telemetry}
    (hvalid : ∀ accepted ∈ targets position telemetry, Valid accepted) :
    ∃ shifted : Fin 3 → Int, Shift telemetry position shifted
      ∧ targets position telemetry = [(1, shifted 0), (2, shifted 1), (3, shifted 2)] := by
  let shifted : Fin 3 → Int := fun point =>
    asI32 (telemetry.points point + position - telemetry.mean)
  have hrange : ∀ point, 0 ≤ shifted point ∧ shifted point ≤ maxPosition := by
    intro point
    fin_cases point
    · exact (hvalid (1, shifted 0) (by simp [targets, shifted])).2
    · exact (hvalid (2, shifted 1) (by simp [targets, shifted])).2
    · exact (hvalid (3, shifted 2) (by simp [targets, shifted])).2
  have hnear : ∀ point, |(shifted point : ℚ) - (telemetry.points point + position - telemetry.mean)|
      ≤ 1 / 2 := fun point => asI32_valid (hrange point)
  refine ⟨shifted, ⟨hrange, ?_, ?_⟩, rfl⟩
  · intro first second
    have hfirst := abs_le.mp (hnear first)
    have hsecond := abs_le.mp (hnear second)
    rw [abs_le]
    constructor <;> linarith [hfirst.1, hfirst.2, hsecond.1, hsecond.2]
  · have hfirst := abs_le.mp (hnear 0)
    have hsecond := abs_le.mp (hnear 1)
    have hthird := abs_le.mp (hnear 2)
    have hmean : telemetry.mean
        = (telemetry.points 0 + telemetry.points 1 + telemetry.points 2) / 3 := rfl
    rw [abs_le]
    constructor <;> linarith [hfirst.1, hfirst.2, hsecond.1, hsecond.2, hthird.1, hthird.2]

abbrev Step := Transition Tilter (Request × Env) Reply

def Untouched (events : List Event) : Prop :=
  sends events = [] ∧ acceptances events = []

structure Safe (t : Step) : Prop where
  moving : ∀ status, t.result.ending = .ok (some status) → status.moving = t.after.pending
  faulted : t.before.fault.isSome = true → Untouched t.result.events
    ∧ t.after.fault = t.before.fault ∧ t.after.pending = t.before.pending
  latched : t.after.fault.isSome = true → t.before.pending = true ∨ sends t.result.events ≠ [] →
    t.after.pending = true
  movePoint : ∀ point target, t.op.1 = .movePoint point target →
    Untouched t.result.events ∨ acceptances t.result.events = [(point, target)]
  moveTo : ∀ position, t.op.1 = .moveTo position → Untouched t.result.events
    ∨ ∃ shifted, Shift t.after.telemetry position shifted
      ∧ acceptances t.result.events = [(1, shifted 0), (2, shifted 1), (3, shifted 2)]
  others : t.op.1 = .status ∨ t.op.1 = .cancelQueued → acceptances t.result.events = []

section

variable {tilter tilter' : Tilter} {env : Env} {events : List Event}

theorem next_spec (env : Env) (tilter : Tilter) :
    (next env tilter).tilter.telemetry = tilter.telemetry
      ∧ acceptances (next env tilter).events = [] ∧ ((next env tilter).tilter.pending = true
        ∨ tilter.queue = [] ∧ sends (next env tilter).events = []
          ∧ (next env tilter).tilter = tilter) := by
  obtain ⟨telemetry, active, queue, fault⟩ := tilter
  cases queue with
  | nil => exact ⟨rfl, rfl, .inr ⟨rfl, rfl, rfl⟩⟩
  | cons first queue =>
    simp only [next]
    cases env.written with
    | ok _ => exact ⟨rfl, rfl, .inl rfl⟩
    | error error => exact ⟨rfl, rfl, .inl rfl⟩

theorem Refused.untouched (h : Refused env tilter events tilter') : Untouched events := by
  cases h <;> exact ⟨rfl, rfl⟩

theorem Refused.pending (h : Refused env tilter events tilter') :
    tilter'.pending = tilter.pending := by
  cases h <;> rfl

theorem Refused.faulted (h : Refused env tilter events tilter')
    (hfault : tilter.fault.isSome = true) : tilter'.fault = tilter.fault := by
  cases h with
  | same => rfl
  | unread _ hnone => simp [hnone] at hfault
  | read _ hnone => simp [hnone] at hfault

theorem Accepted.acceptances {telemetry : Telemetry} {targets : List (Nat × Int)}
    (h : Accepted env tilter telemetry targets events tilter') :
    acceptances events = targets ∧ tilter'.telemetry = telemetry := by
  obtain ⟨_, _, rfl, rfl⟩ := h
  obtain ⟨htelemetry, hnone, _⟩ := next_spec env
    { tilter with telemetry := telemetry, queue := tilter.queue ++ targets }
  constructor
  · have hread : ∀ log, Tilter.acceptances (.read telemetry env.later :: log)
        = Tilter.acceptances log := fun log => rfl
    rw [hread]
    simp only [enqueue, andThen, acceptances_append, acceptances_accepted, hnone, List.append_nil]
  · exact htelemetry

theorem Accepted.pending {telemetry : Telemetry} {targets : List (Nat × Int)}
    (h : Accepted env tilter telemetry targets events tilter') (htargets : targets ≠ []) :
    tilter'.pending = true := by
  obtain ⟨_, _, rfl, rfl⟩ := h
  obtain ⟨_, _, hpending | ⟨hempty, _⟩⟩ := next_spec env
    { tilter with telemetry := telemetry, queue := tilter.queue ++ targets }
  · exact hpending
  · exact absurd (List.append_eq_nil_iff.mp hempty).2 htargets

theorem Observed.spec (h : Observed env tilter events tilter') : acceptances events = []
      ∧ (tilter.fault.isSome = true → events = [] ∧ tilter' = tilter)
      ∧ (tilter'.fault.isSome = true → tilter.pending = true ∨ sends events ≠ [] →
        tilter'.pending = true) := by
  cases h with
  | faulted hfault => exact ⟨rfl, fun _ => ⟨rfl, rfl⟩, fun _ h => h.resolve_right fun h => h rfl⟩
  | unread error hfault =>
    exact ⟨rfl, by simp [hfault], fun _ h => h.resolve_right fun h => h rfl⟩
  | idle telemetry hfault hactive => exact ⟨rfl, by simp [hfault], by simp [hfault]⟩
  | late telemetry motion error hfault hactive =>
    exact ⟨rfl, by simp [hfault], by simp [Tilter.pending, poison, hactive]⟩
  | counting telemetry motion hfault hactive => exact ⟨rfl, by simp [hfault], by simp [hfault]⟩
  | settled telemetry motion hfault hactive hcount htime =>
    obtain ⟨_, hnone, hnext⟩ := next_spec env
      { tilter with telemetry := telemetry, active := none }
    refine ⟨hnone, by simp [hfault], ?_⟩
    intro hlatched _
    rcases hnext with hpending | ⟨_, _, hsame⟩
    · exact hpending
    · rw [hsame] at hlatched
      simp [hfault] at hlatched

theorem status_moving {status : Status} (h : (tilter.status env).ending = .ok status) :
    status.moving = (tilter.status env).tilter.pending := by
  obtain ⟨old, active, queue, fault⟩ := tilter
  cases fault with
  | some fault =>
    cases h
    rfl
  | none =>
    simp only [Tilter.status] at h ⊢
    cases hreading : env.reading with
    | error error =>
      rw [hreading] at h
      cases h
    | ok telemetry =>
      rw [hreading] at h
      dsimp only at h ⊢
      rw [(Outcome.andThen_report _ _).2]
      generalize (andThen _ fun _ => advance env) = read at h ⊢
      unfold andThen at h
      split at h
      · cases h
      · cases h
        rfl

theorem Outcome.andThen_none {first : Outcome Unit} {found : Status} :
    (first.andThen fun _ tilter => (⟨.ok none, [], tilter⟩ : Outcome (Option Status))).ending
      ≠ .ok (some found) := by
  unfold andThen
  split
  · intro h
    cases h
  · intro h
    cases h

theorem safe_of_move {t : Step} (env : Env) (targets : Telemetry → List (Nat × Int))
    (hnone : ∀ status, t.result.ending ≠ .ok (some status))
    (hmove : Refused env t.before t.result.events t.after ∨ ∃ telemetry,
      targets telemetry ≠ [] ∧ (∀ accepted ∈ targets telemetry, Valid accepted)
        ∧ Accepted env t.before telemetry (targets telemetry) t.result.events t.after)
    (hpoint : ∀ point target, t.op.1 = .movePoint point target →
      ∀ telemetry, targets telemetry = [(point, target)])
    (hto : ∀ position telemetry, t.op.1 = .moveTo position →
      (∀ accepted ∈ targets telemetry, Valid accepted) → ∃ shifted, Shift telemetry position shifted
        ∧ targets telemetry = [(1, shifted 0), (2, shifted 1), (3, shifted 2)])
    (hothers : ¬ (t.op.1 = .status ∨ t.op.1 = .cancelQueued)) : Safe t := by
  rcases hmove with hrefused | ⟨telemetry, hsome, hvalid, haccepted⟩
  · refine ⟨fun status h => absurd h (hnone status), ?_, ?_, ?_, ?_, fun h => absurd h hothers⟩
    · exact fun hfault => ⟨hrefused.untouched, hrefused.faulted hfault, hrefused.pending⟩
    · intro _ h
      rw [hrefused.pending]
      exact h.resolve_right fun hsends => hsends hrefused.untouched.1
    · exact fun _ _ _ => .inl hrefused.untouched
    · exact fun _ _ => .inl hrefused.untouched
  · obtain ⟨hacceptances, htelemetry⟩ := haccepted.acceptances
    refine ⟨fun status h => absurd h (hnone status), ?_, fun _ _ => haccepted.pending hsome, ?_, ?_,
      fun h => absurd h hothers⟩
    · intro hfault
      rw [haccepted.fault] at hfault
      cases hfault
    · intro point target hop
      exact .inr (hacceptances.trans (hpoint point target hop telemetry))
    · intro position hop
      obtain ⟨shifted, hshift, htargets⟩ := hto position telemetry hop hvalid
      refine .inr ⟨shifted, ?_, hacceptances.trans htargets⟩
      rw [htelemetry]
      exact hshift

theorem perform_safe (tilter : Tilter) (op : Request × Env) : Safe (machine.perform tilter op) := by
  obtain ⟨request, env⟩ := op
  cases request with
  | status =>
    have hsame := Outcome.andThen_report (tilter.status env) fun status _ => some status
    have hobserved := status_observed env tilter
    rw [← hsame.1, ← hsame.2] at hobserved
    obtain ⟨hnone, hfaulted, hlatched⟩ := hobserved.spec
    refine ⟨?_, ?_, hlatched, ?_, ?_, fun _ => hnone⟩
    · intro status hending
      have hmoving : (tilter.status env).ending = .ok status := by
        change ((tilter.status env).andThen _).ending = _ at hending
        unfold andThen at hending
        split at hending
        · cases hending
        · rename_i value hvalue
          cases hending
          exact hvalue
      exact (status_moving hmoving).trans (congrArg Tilter.pending hsame.2.symm)
    · intro hfault
      obtain ⟨hevents, hafter⟩ := hfaulted hfault
      refine ⟨⟨(congrArg sends hevents).trans rfl, hnone⟩, ?_, ?_⟩
      · exact congrArg Tilter.fault hafter
      · exact congrArg Tilter.pending hafter
    · intro point target hop
      cases hop
    · intro position hop
      cases hop
  | movePoint point target =>
    have hsame := Outcome.andThen_report (tilter.movePoint point target env)
      fun _ _ => (none : Option Status)
    have hmove := movePoint_cases point target env tilter
    rw [← hsame.1, ← hsame.2] at hmove
    refine safe_of_move env (fun _ => [(point, target)]) ?_ ?_ ?_ ?_ ?_
    · exact fun status => Outcome.andThen_none
    · rcases hmove with hrefused | ⟨hvalid, telemetry, haccepted⟩
      · exact .inl hrefused
      · exact .inr ⟨telemetry, by simp, by simpa using hvalid, haccepted⟩
    · rintro point' target' hop _
      cases hop
      rfl
    · rintro position telemetry hop
      cases hop
    · rintro (hop | hop) <;> cases hop
  | moveTo position =>
    have hsame := Outcome.andThen_report (tilter.moveTo position env)
      fun _ _ => (none : Option Status)
    have hmove := moveTo_cases position env tilter
    rw [← hsame.1, ← hsame.2] at hmove
    refine safe_of_move env (targets position) ?_ ?_ ?_ ?_ ?_
    · exact fun status => Outcome.andThen_none
    · rcases hmove with hrefused | ⟨telemetry, hvalid, haccepted⟩
      · exact .inl hrefused
      · exact .inr ⟨telemetry, by simp [targets], hvalid, haccepted⟩
    · rintro point' target' hop
      cases hop
    · rintro position' telemetry hop hvalid
      cases hop
      exact targets_shift hvalid
    · rintro (hop | hop) <;> cases hop
  | cancelQueued =>
    refine ⟨?_, fun _ => ⟨⟨rfl, rfl⟩, rfl, rfl⟩, ?_, ?_, ?_, fun _ => rfl⟩
    · intro status hending
      cases hending
    · exact fun _ h => h.resolve_right fun hsends => hsends rfl
    · intro point target hop
      cases hop
    · intro position hop
      cases hop

end

/-- Every run from a first reading: one point at a time, every accepted target at most once. -/
theorem tilter_run_safe (telemetry : Telemetry) (ops : List (Request × Env)) :
    let log := machine.emitted Reply.events { telemetry := telemetry } ops
    Justified Sequenced log ∧ (sends log).Sublist (acceptances log)
      ∧ (∀ accepted ∈ acceptances log, Valid accepted)
      ∧ ∀ t ∈ machine.run { telemetry := telemetry } ops, Safe t := by
  intro log
  have hinitial : Kept [] { telemetry := telemetry } := by
    refine ⟨.nil, List.Sublist.refl _, ?_, ?_, ?_⟩
    · intro _ hmem
      cases hmem
    · intro _ older point target started mid hsplit
      exact absurd hsplit.symm (by simp)
    · intro _ motion hmotion
      cases hmotion
  have hkept : Kept log (machine.final { telemetry := telemetry } ops) :=
    Machine.emitted_kept (fun log tilter op h => h.serve op) hinitial ops
  refine ⟨hkept.sequential, (List.sublist_append_left _ _).trans hkept.once, hkept.valid, ?_⟩
  intro t hmem
  have hany : machine.Inductive { telemetry := telemetry } fun _ => True :=
    ⟨trivial, fun _ _ => trivial⟩
  obtain ⟨_, _, hstep⟩ := hany.mem_run hmem
  rw [hstep]
  exact perform_safe t.before t.op

end Tilter

end Regain.Wanderer
