import Regain.Hub.Source.Sampling

/-!
# Passes of a property poll

A pass goes from the first sample of a plan to the last one. The failures of a sample are bounded by
its attempts, for its age and for its value, so a pass ends.
-/

namespace Regain.Hub.PropertyPoll

open Lib
open Std (TreeMap)

/-! ## Passes -/

/-- A request with its readings of the clock and its result. -/
structure Request where
  now : Nat
  began : Nat
  result : Except SourceError Json
  badValue : SourceError

inductive Op where
  | request (request : Request)
  | restart

abbrev Answer := Option (PreparedSample × Except SourceError SampleBatch)

def request (poll : PropertyPoll) (request : Request) : Answer × PropertyPoll :=
  match poll.prepare request.now request.began with
  | none => (none, poll)
  | some prepared =>
    (some (prepared, (poll.finish prepared request.result request.badValue).1),
      (poll.finish prepared request.result request.badValue).2)

def machine : Machine PropertyPoll Op Answer where
  step poll
    | .request request => poll.request request
    | .restart => (none, poll.restart)

abbrev Step := Transition PropertyPoll Op Answer

/-- The batch that a step reports; a lost transport and a failure of a safety plan have none. -/
def batchOf (t : Step) : Option SampleBatch :=
  match t.result with
  | some (_, .ok batch) => some batch
  | _ => none

def ends (t : Step) : Bool :=
  (batchOf t).any fun batch => !batch.more

/-- A step reports the outcome of its sample: the pass ends, or another sample is next. -/
def settles (t : Step) : Bool :=
  (batchOf t).isSome && (ends t || decide (t.after.cursor ≠ t.before.cursor))

def pass (poll : PropertyPoll) : List Request → List Step
  | [] => []
  | request :: requests =>
    let t := machine.perform poll (.request request)
    t :: if ends t then [] else pass t.after requests

theorem pass_cons (poll : PropertyPoll) (request : Request) (requests : List Request) :
    poll.pass (request :: requests) = machine.perform poll (.request request)
      :: if ends (machine.perform poll (.request request)) then []
        else pass (machine.next poll (.request request)) requests :=
  rfl

theorem pass_eq_run (poll : PropertyPoll) (requests : List Request) :
    ∃ count, poll.pass requests = machine.run poll ((requests.take count).map .request) := by
  induction requests generalizing poll with
  | nil => exact ⟨0, rfl⟩
  | cons request requests ih =>
    rw [pass_cons]
    by_cases hends : ends (machine.perform poll (.request request)) = true
    · rw [if_pos hends]
      exact ⟨1, rfl⟩
    · obtain ⟨count, hcount⟩ := ih (machine.next poll (.request request))
      rw [if_neg hends, hcount]
      exact ⟨count + 1, rfl⟩

/-! ## The invariant -/

structure Sound (poll : PropertyPoll) : Prop where
  failures : poll.failures < poll.attempts
  cursor : poll.cursor < poll.samples.length

/-- The outcome of a sample: its value with its age, or an error. -/
inductive Outcome (poll : PropertyPoll) (prepared : PreparedSample) (value : Except SourceError Json) :
    SampleBatch → Prop where
  | error (error : SourceError) :
      Outcome poll prepared value (poll.withError prepared.sample.key error)
  | value (json : Json) (hneeds : prepared.needsAge = false) (hvalue : value = .ok json) :
      Outcome poll prepared value (poll.withValue prepared.sample.key json prepared.age)

theorem finishError_cases (poll : PropertyPoll) (key : String) (error : SourceError) :
    poll.finishError key error = (.error error, poll)
      ∨ poll.failures + 1 < poll.attempts ∧ poll.finishError key error
        = (.ok { poll.withError key error with more := true },
          { poll with failures := poll.failures + 1 })
      ∨ poll.finishError key error = poll.settle (poll.withError key error) := by
  unfold finishError
  split
  · exact .inl rfl
  · split
    · split
      · rename_i hattempts
        exact .inr (.inl ⟨hattempts, rfl⟩)
      · exact .inr (.inr rfl)
    · exact .inr (.inr rfl)

inductive Finished (poll : PropertyPoll) (prepared : PreparedSample)
    (value : Except SourceError Json) : Except SourceError SampleBatch × PropertyPoll → Prop where
  | refused (error : SourceError) : Finished poll prepared value (.error error, poll)
  | aged (json : Json) (age : F64) (hneeds : prepared.needsAge = true) (hvalue : value = .ok json)
      (hage : answeredAge json = some age) :
      Finished poll prepared value (.ok { poll.emptyBatch with more := true },
        { poll with failures := 0, pendingAge := some (age, prepared.began) })
  | retried (error : SourceError) (hattempts : poll.failures + 1 < poll.attempts) :
      Finished poll prepared value
        (.ok { poll.withError prepared.sample.key error with more := true },
          { poll with failures := poll.failures + 1 })
  | settled (batch : SampleBatch) (houtcome : Outcome poll prepared value batch) :
      Finished poll prepared value (poll.settle batch)

theorem finish_finished (poll : PropertyPoll) (prepared : PreparedSample)
    (value : Except SourceError Json) (badValue : SourceError) :
    Finished poll prepared value (poll.finish prepared value badValue) := by
  unfold finish
  cases value with
  | error error =>
    dsimp only
    rcases finishError_cases poll prepared.sample.key error with heq | ⟨hattempts, heq⟩ | heq
    · rw [heq]
      exact .refused error
    · rw [heq]
      exact .retried error hattempts
    · rw [heq]
      exact .settled _ (.error error)
  | ok json =>
    dsimp only
    by_cases hneeds : prepared.needsAge = true
    · rw [if_pos hneeds]
      cases hage : answeredAge json with
      | some age => exact .aged json age hneeds rfl hage
      | none => exact .settled _ (.error _)
    · rw [if_neg hneeds]
      split
      · exact .settled _ (.value json (by simpa using hneeds) rfl)
      · split
        · exact .refused _
        · exact .settled _ (.error _)

variable {poll : PropertyPoll}

theorem prepare_of_sound (h : poll.Sound) (now began : Nat) :
    ∃ prepared, poll.prepare now began = some prepared
      ∧ (prepared.needsAge = true → poll.pendingAge = none) := by
  have hsample := List.getElem?_eq_getElem h.cursor
  unfold prepare
  rw [hsample]
  refine ⟨_, rfl, fun hneeds => ?_⟩
  simp only [Bool.and_eq_true, Option.isNone_iff_eq_none] at hneeds
  exact hneeds.2

def cost (poll : PropertyPoll) : Nat :=
  (if poll.pendingAge.isSome then poll.attempts else 2 * poll.attempts) - poll.failures

structure SamePlan (poll poll' : PropertyPoll) : Prop where
  samples : poll'.samples = poll.samples
  attempts : poll'.attempts = poll.attempts
  safety : poll'.safety = poll.safety

inductive Progress (poll : PropertyPoll) (t : Step) : Prop where
  | refused (hbatch : batchOf t = none) (hafter : t.after = poll)
  | goesOn (hbatch : (batchOf t).isSome = true) (hends : ends t = false)
      (hplan : poll.SamePlan t.after) (hcursor : t.after.cursor = poll.cursor)
      (hsound : t.after.Sound) (hcost : t.after.cost < poll.cost)
  | next (hbatch : (batchOf t).isSome = true) (hends : ends t = false)
      (hplan : poll.SamePlan t.after) (hcursor : t.after.cursor = poll.cursor + 1)
      (hsound : t.after.Sound) (hcost : t.after.cost = 2 * poll.attempts)
  | last (hbatch : (batchOf t).isSome = true) (hends : ends t = true)
      (hcursor : poll.cursor + 1 = poll.samples.length) (hafter : t.after = poll.restart)

variable {prepared : PreparedSample}

theorem batchOf_request {req : Request} (h : poll.prepare req.now req.began = some prepared) :
    machine.perform poll (.request req) = {
      before := poll
      op := .request req
      result := some (prepared, (poll.finish prepared req.result req.badValue).1)
      after := (poll.finish prepared req.result req.badValue).2 } := by
  simp only [Machine.perform, Machine.next, machine, request, h]

theorem progress (h : poll.Sound) (req : Request) :
    Progress poll (machine.perform poll (.request req)) := by
  have hfailures := h.failures
  have hcursor := h.cursor
  obtain ⟨prepared, hprepare, hneeds⟩ := prepare_of_sound h req.now req.began
  rw [batchOf_request hprepare]
  have hfinished := finish_finished poll prepared req.result req.badValue
  generalize poll.finish prepared req.result req.badValue = finished at hfinished ⊢
  cases hfinished with
  | refused error => exact .refused rfl rfl
  | aged json age hage hvalue hanswered =>
    have hnone := hneeds hage
    refine .goesOn rfl rfl ⟨rfl, rfl, rfl⟩ rfl ⟨?_, hcursor⟩ ?_
    · dsimp only
      omega
    · simp only [cost, hnone, Option.isSome_some, Option.isSome_none, if_true,
        Bool.false_eq_true, if_false]
      omega
  | retried error hattempts =>
    refine .goesOn rfl rfl ⟨rfl, rfl, rfl⟩ rfl ⟨hattempts, hcursor⟩ ?_
    unfold cost
    dsimp only
    split <;> omega
  | settled batch houtcome =>
    by_cases hlast : poll.cursor + 1 = poll.samples.length
    · have hzero : poll.advance.cursor = 0 := by simp [advance, hlast]
      refine .last rfl ?_ hlast ?_
      · simp [ends, batchOf, settle, hzero]
      · simp [settle, advance, restart, hlast]
    · have hnext : poll.advance.cursor = poll.cursor + 1 :=
        Nat.mod_eq_of_lt (by omega)
      refine .next rfl ?_ ⟨rfl, rfl, rfl⟩ hnext ⟨?_, ?_⟩ rfl
      · simp [ends, batchOf, settle, hnext]
      · simp only [settle, advance]
        omega
      · simp only [settle, hnext]
        simp only [advance]
        omega

def answers (place : Nat) (steps : List Step) : Nat :=
  steps.countP fun t => (batchOf t).isSome && decide (t.before.cursor = place)

def outcomes (place : Nat) (steps : List Step) : Nat :=
  steps.countP fun t => settles t && decide (t.before.cursor = place)

def budget (poll : PropertyPoll) (place : Nat) : Nat :=
  if place < poll.cursor then 0 else if place = poll.cursor then poll.cost else 2 * poll.attempts

theorem answers_le (h : poll.Sound) (requests : List Request)
    (place : Nat) : answers place (poll.pass requests) ≤ poll.budget place := by
  induction requests generalizing poll with
  | nil => exact Nat.zero_le _
  | cons req requests ih =>
    have hfailures := h.failures
    have hbefore : (machine.perform poll (.request req)).before = poll := rfl
    have hnext : machine.next poll (.request req)
        = (machine.perform poll (.request req)).after := rfl
    rw [pass_cons, answers, List.countP_cons, hbefore, hnext]
    have hpositive : 0 < poll.cost := by
      unfold cost
      split <;> omega
    cases progress h req with
    | refused hbatch hafter =>
      have hends : ends (machine.perform poll (.request req)) = false := by
        simp [ends, hbatch]
      have hrest := ih h
      rw [answers] at hrest
      simpa [hbatch, hends, hafter] using hrest
    | goesOn hbatch hends hplan hcursor hsound hcost =>
      have hrest := ih hsound
      rw [answers, budget, hcursor, hplan.attempts] at hrest
      simp only [hbatch, hends, Bool.false_eq_true, if_false, Bool.true_and, decide_eq_true_eq]
      rw [budget]
      split_ifs at hrest ⊢ <;> omega
    | next hbatch hends hplan hcursor hsound hcost =>
      have hrest := ih hsound
      rw [answers, budget, hcursor, hplan.attempts] at hrest
      simp only [hbatch, hends, Bool.false_eq_true, if_false, Bool.true_and, decide_eq_true_eq]
      rw [budget]
      split_ifs at hrest ⊢ <;> omega
    | last hbatch hends hcursor hafter =>
      simp only [hbatch, hends, if_true, List.countP_nil, Bool.true_and, decide_eq_true_eq]
      rw [budget]
      split_ifs <;> omega

theorem outcomes_pass (h : poll.Sound) (requests : List Request)
    (place : Nat) : outcomes place (poll.pass requests) ≤ (if place < poll.cursor then 0 else 1)
      ∧ ((poll.pass requests).any ends = true → poll.cursor ≤ place →
        place < poll.samples.length → outcomes place (poll.pass requests) = 1) := by
  induction requests generalizing poll with
  | nil => exact ⟨Nat.zero_le _, fun hends => by simp [pass] at hends⟩
  | cons req requests ih =>
    have hbefore : (machine.perform poll (.request req)).before = poll := rfl
    have hnext : machine.next poll (.request req)
        = (machine.perform poll (.request req)).after := rfl
    rw [pass_cons, outcomes, List.countP_cons, List.any_cons, hbefore, hnext]
    cases progress h req with
    | refused hbatch hafter =>
      have hends : ends (machine.perform poll (.request req)) = false := by
        simp [ends, hbatch]
      have hsettles : settles (machine.perform poll (.request req)) = false := by
        simp [settles, hbatch]
      have hrest := ih h
      rw [outcomes] at hrest
      simpa [hsettles, hends, hafter] using hrest
    | goesOn hbatch hends hplan hcursor hsound hcost =>
      have hsettles : settles (machine.perform poll (.request req)) = false := by
        simp [settles, hends, hcursor, hbefore]
      have hrest := ih hsound
      rw [outcomes, hcursor, hplan.samples] at hrest
      simpa [hsettles, hends] using hrest
    | next hbatch hends hplan hcursor hsound hcost =>
      have hsettles : settles (machine.perform poll (.request req)) = true := by
        simp [settles, hends, hcursor, hbefore, hbatch]
      obtain ⟨hbound, hone⟩ := ih hsound
      rw [outcomes, hcursor] at hbound hone
      rw [hplan.samples] at hone
      simp only [hsettles, hends, Bool.false_eq_true, if_false, Bool.true_and, Bool.false_or,
        decide_eq_true_eq]
      refine ⟨by split_ifs at hbound ⊢ <;> omega, fun hrest hle hlt => ?_⟩
      by_cases hplace : poll.cursor = place
      · rw [if_pos hplace]
        split_ifs at hbound <;> omega
      · rw [if_neg hplace, hone hrest (by omega) hlt]
    | last hbatch hends hcursor hafter =>
      have hsettles : settles (machine.perform poll (.request req)) = true := by
        simp [settles, hends, hbatch]
      simp only [hsettles, hends, if_true, List.countP_nil, Bool.true_and, decide_eq_true_eq]
      refine ⟨by split_ifs <;> omega, fun _ hle hlt => ?_⟩
      rw [if_pos (by omega)]

def answered (steps : List Step) : Nat :=
  steps.countP fun t => (batchOf t).isSome

def potential (poll : PropertyPoll) : Nat :=
  (poll.samples.length - 1 - poll.cursor) * (2 * poll.attempts) + poll.cost

theorem answered_lt (h : poll.Sound) (requests : List Request)
    (hends : (poll.pass requests).any ends = false) :
    answered (poll.pass requests) < poll.potential := by
  induction requests generalizing poll with
  | nil =>
    have hfailures := h.failures
    unfold potential cost
    simp only [pass, answered, List.countP_nil]
    split <;> omega
  | cons req requests ih =>
    have hnext : machine.next poll (.request req)
        = (machine.perform poll (.request req)).after := rfl
    rw [pass_cons, List.any_cons, Bool.or_eq_false_iff, hnext] at hends
    rw [pass_cons, answered, List.countP_cons, hnext]
    obtain ⟨hfirst, hrest⟩ := hends
    rw [hfirst] at hrest ⊢
    simp only [Bool.false_eq_true, if_false] at hrest ⊢
    cases progress h req with
    | refused hbatch hafter =>
      rw [hafter] at hrest ⊢
      have hlt := ih h hrest
      rw [answered] at hlt
      simpa [hbatch] using hlt
    | goesOn hbatch _ hplan hcursor hsound hcost =>
      have hlt := ih hsound hrest
      rw [answered, potential, hplan.samples, hplan.attempts, hcursor] at hlt
      rw [potential, if_pos hbatch]
      omega
    | next hbatch _ hplan hcursor hsound hcost =>
      have hlt := ih hsound hrest
      have hlength := hsound.cursor
      have hpositive : 0 < poll.cost := by
        have hfailures := h.failures
        unfold cost
        split <;> omega
      rw [answered, potential, hplan.samples, hplan.attempts, hcursor, hcost] at hlt
      rw [hplan.samples, hcursor] at hlength
      have hplaces : poll.samples.length - 1 - poll.cursor
          = poll.samples.length - 1 - (poll.cursor + 1) + 1 := by omega
      rw [potential, if_pos hbatch, hplaces, Nat.add_mul, Nat.one_mul]
      omega
    | last hbatch hended hcursor hafter =>
      rw [hended] at hfirst
      cases hfirst

theorem SamePlan.refl (poll : PropertyPoll) : poll.SamePlan poll :=
  ⟨rfl, rfl, rfl⟩

theorem SamePlan.trans {first second third : PropertyPoll} (h : first.SamePlan second)
    (h' : second.SamePlan third) : first.SamePlan third :=
  ⟨h'.samples.trans h.samples, h'.attempts.trans h.attempts, h'.safety.trans h.safety⟩

theorem SamePlan.restart {poll poll' : PropertyPoll} (h : poll.SamePlan poll') :
    poll'.restart = poll.restart := by
  obtain ⟨hsamples, hattempts, hsafety⟩ := h
  simp only [PropertyPoll.restart, hsamples, hattempts, hsafety]

theorem samePlan_finish (poll : PropertyPoll) (prepared : PreparedSample)
    (value : Except SourceError Json) (badValue : SourceError) :
    poll.SamePlan (poll.finish prepared value badValue).2 := by
  have hfinished := finish_finished poll prepared value badValue
  generalize poll.finish prepared value badValue = finished at hfinished ⊢
  cases hfinished <;> exact ⟨rfl, rfl, rfl⟩

theorem samePlan_inductive (poll : PropertyPoll) : machine.Inductive poll poll.SamePlan where
  init := SamePlan.refl poll
  step op h := by
    cases op with
    | restart => exact h.trans ⟨rfl, rfl, rfl⟩
    | request req =>
      refine h.trans ?_
      simp only [Machine.next, machine, request]
      split
      · exact SamePlan.refl _
      · exact samePlan_finish _ _ _ _

theorem mem_pass {requests : List Request} {t : Step} (h : t ∈ poll.pass requests) :
    ∃ req, t = machine.perform t.before (.request req) ∧ poll.SamePlan t.before
      ∧ (poll.Sound → t.before.Sound) := by
  induction requests generalizing poll with
  | nil => simp [pass] at h
  | cons req requests ih =>
    rw [pass_cons] at h
    rcases List.mem_cons.mp h with rfl | hlater
    · exact ⟨req, rfl, SamePlan.refl poll, id⟩
    · split at hlater
      · simp at hlater
      · rename_i hends
        obtain ⟨other, hother, hplan, hsound⟩ := ih hlater
        refine ⟨other, hother, ((samePlan_inductive poll).next _).init.trans hplan, fun h => ?_⟩
        refine hsound ?_
        have hprogress := progress h req
        cases hprogress with
        | refused hbatch hafter => exact hafter.symm.subst h
        | goesOn _ _ _ _ hnext _ => exact hnext
        | next _ _ _ _ hnext _ => exact hnext
        | last _ hended _ _ => exact absurd hended hends

/-! ## Outcomes -/

/-- The final word on a sample: one value with its age, or one error. -/
inductive Final (key : String) (batch : SampleBatch) : Prop where
  | value (json : Json) (age : F64) (hvalues : batch.values = (∅ : Values).insert key json)
      (hages : batch.agesSeconds = (∅ : TreeMap String F64).insert key age)
      (herrors : batch.errors = ∅)
  | error (error : SourceError)
      (herrors : batch.errors = (∅ : TreeMap String SourceError).insert key error)
      (hvalues : batch.values = ∅) (hages : batch.agesSeconds = ∅)

theorem Outcome.final {value : Except SourceError Json} {batch : SampleBatch}
    (h : Outcome poll prepared value batch) (more : Bool) :
    Final prepared.sample.key { batch with more := more } := by
  cases h with
  | error error => exact .error error rfl rfl rfl
  | value json => exact .value json _ rfl rfl rfl

theorem prepare_sample {now began : Nat}
    (h : poll.prepare now began = some prepared) : poll.samples[poll.cursor]? = some prepared.sample
      ∧ prepared.needsAge = (prepared.sample.sensorAge.isSome && poll.pendingAge.isNone)
      ∧ prepared.age = (poll.pendingAge.map fun pending =>
        pending.1.add (Duration.asSecsF64 (now - pending.2))).getD 0 ∧ prepared.began = began := by
  obtain ⟨sample, hsample, rfl⟩ := Option.map_eq_some_iff.mp h
  exact ⟨hsample, rfl, rfl, rfl⟩

theorem settles_final (req : Request) (h : settles (machine.perform poll (.request req)) = true) :
    ∃ sample batch, poll.samples[poll.cursor]? = some sample
      ∧ batchOf (machine.perform poll (.request req)) = some batch ∧ Final sample.key batch := by
  cases hprepare : poll.prepare req.now req.began with
  | none => simp [settles, batchOf, Machine.perform, machine, request, hprepare] at h
  | some prepared =>
    obtain ⟨hsample, -⟩ := prepare_sample hprepare
    rw [batchOf_request hprepare] at h ⊢
    have hfinished := finish_finished poll prepared req.result req.badValue
    generalize poll.finish prepared req.result req.badValue = finished at hfinished h ⊢
    cases hfinished with
    | refused error => simp [settles, batchOf] at h
    | aged json age hage hvalue hanswered => simp [settles, ends, batchOf] at h
    | retried error hattempts => simp [settles, ends, batchOf] at h
    | settled batch houtcome => exact ⟨_, _, hsample, rfl, houtcome.final _⟩

def Aged (place : Nat) (age : F64) (began : Nat) (t : Step) : Prop :=
  ∃ req json, t.op = .request req ∧ t.before.cursor = place ∧ req.result = .ok json
    ∧ answeredAge json = some age ∧ req.began = began
    ∧ (∃ prepared, t.before.prepare req.now req.began = some prepared ∧ prepared.needsAge = true)

theorem aged_since (place : Nat) (age : F64) (began : Nat) : Machine.Since machine (fun _ => True)
      (fun poll => poll.pendingAge = some (age, began) ∧ poll.cursor = place)
      (Aged place age began) := by
  intro poll op _ hfact
  cases op with
  | restart => simp [Machine.next, machine, restart] at hfact
  | request req =>
    cases hprepare : poll.prepare req.now req.began with
    | none =>
      refine .inr ?_
      simpa [Machine.next, machine, request, hprepare] using hfact
    | some prepared =>
      obtain ⟨-, -, -, hbegan⟩ := prepare_sample hprepare
      simp only [Machine.next, machine, request, hprepare] at hfact
      have hfinished := finish_finished poll prepared req.result req.badValue
      generalize poll.finish prepared req.result req.badValue = finished at hfinished hfact
      cases hfinished with
      | refused error => exact .inr hfact
      | aged json answered hneeds hvalue hanswered =>
        obtain ⟨hpending, hplace⟩ := hfact
        simp only [Option.some.injEq, Prod.mk.injEq] at hpending
        refine .inl ⟨req, json, rfl, hplace, hvalue, ?_, ?_, prepared, hprepare, hneeds⟩
        · rw [hanswered, hpending.1]
        · rw [← hbegan, hpending.2]
      | retried error hattempts => exact .inr hfact
      | settled batch houtcome => simp [settle, advance] at hfact

def reportedAge (t : Step) (key : String) : Option F64 :=
  (batchOf t).bind fun batch => batch.agesSeconds[key]?

theorem reportedAge_eq {req : Request} {sample : SampleRequest} {age : F64}
    (hsample : poll.samples[poll.cursor]? = some sample) (hsensor : sample.sensorAge.isSome = true)
    (h : reportedAge (machine.perform poll (.request req)) sample.key = some age) :
    ∃ pending, poll.pendingAge = some pending
      ∧ age = pending.1.add (Duration.asSecsF64 (req.now - pending.2)) := by
  cases hprepare : poll.prepare req.now req.began with
  | none => simp [reportedAge, batchOf, Machine.perform, machine, request, hprepare] at h
  | some prepared =>
    obtain ⟨hprepared, hneeds, hage, -⟩ := prepare_sample hprepare
    rw [hprepared] at hsample
    obtain rfl := Option.some.inj hsample
    unfold reportedAge at h
    rw [batchOf_request hprepare] at h
    have hfinished := finish_finished poll prepared req.result req.badValue
    generalize poll.finish prepared req.result req.badValue = finished at hfinished h
    cases hfinished with
    | refused error => simp [batchOf] at h
    | aged json answered hneeds hvalue hanswered => simp [batchOf, emptyBatch] at h
    | retried error hattempts => simp [batchOf, withError, emptyBatch] at h
    | settled batch houtcome =>
      cases houtcome with
      | error error => simp [batchOf, settle, withError, emptyBatch] at h
      | value json hvalue _ =>
        simp only [batchOf, settle, withValue, Option.bind_some, Std.TreeMap.getElem?_insert_self,
          Option.some.injEq] at h
        rw [hvalue, hsensor, Bool.true_and] at hneeds
        obtain ⟨pending, hpending⟩ := Option.isSome_iff_exists.mp
          (by simpa using hneeds.symm : poll.pendingAge.isSome = true)
        refine ⟨pending, hpending, ?_⟩
        rw [← h, hage, hpending]
        rfl

structure Reported (poll : PropertyPoll) (steps : List Step) : Prop where
  bounded : ∀ place, answers place steps ≤ 2 * poll.attempts
  /-- A request without a batch leaves the poll as it was. -/
  refused : ∀ t ∈ steps, batchOf t = none → t.after = t.before
  ended : poll.samples ≠ [] → 2 * poll.attempts * poll.samples.length ≤ answered steps →
    steps.any ends = true
  restarted : ∀ t ∈ steps, ends t = true → t.after = poll
  atMostOnce : ∀ place, outcomes place steps ≤ 1
  once : steps.any ends = true → ∀ place < poll.samples.length, outcomes place steps = 1
  final : ∀ t ∈ steps, settles t = true → ∃ sample batch,
    poll.samples[t.before.cursor]? = some sample ∧ batchOf t = some batch
      ∧ Final sample.key batch
  /-- A value has the age that its sensor answered, and the time since that request began. -/
  aged : ∀ before t after, steps = before ++ t :: after → ∀ sample age,
    poll.samples[t.before.cursor]? = some sample → sample.sensorAge.isSome = true →
      reportedAge t sample.key = some age →
        ∃ req earlier answer began, t.op = .request req ∧ earlier ∈ before
          ∧ Aged t.before.cursor answer began earlier
          ∧ age = answer.add (Duration.asSecsF64 (req.now - began))

structure Started (poll : PropertyPoll) : Prop where
  cursor : poll.cursor = 0
  pendingAge : poll.pendingAge = none
  failures : poll.failures = 0
  attempts : 0 < poll.attempts

section

variable {poll : PropertyPoll}

theorem Started.restart (h : Started poll) : poll.restart = poll := by
  obtain ⟨hcursor, hpending, hfailures, -⟩ := h
  cases poll
  simp_all [PropertyPoll.restart]

theorem Started.sound (h : Started poll) (hne : poll.samples ≠ []) : poll.Sound where
  failures := by
    rw [h.failures]
    exact h.attempts
  cursor := by
    rw [h.cursor]
    exact List.length_pos_of_ne_nil hne

variable {requests : List Request}

theorem idle_pass (hnil : poll.samples = []) {t : Step} (h : t ∈ poll.pass requests) :
    batchOf t = none ∧ t.after = t.before := by
  obtain ⟨req, heq, hplan, -⟩ := mem_pass h
  have hprepare : t.before.prepare req.now req.began = none := by
    simp [prepare, hplan.samples, hnil]
  rw [heq]
  simp [batchOf, Machine.perform, Machine.next, machine, request, hprepare]

theorem Started.aged (h : Started poll) (requests : List Request) :
    ∀ before t after, poll.pass requests = before ++ t :: after → ∀ sample age,
      poll.samples[t.before.cursor]? = some sample → sample.sensorAge.isSome = true →
        reportedAge t sample.key = some age →
          ∃ req earlier answer began, t.op = .request req ∧ earlier ∈ before
            ∧ Aged t.before.cursor answer began earlier
            ∧ age = answer.add (Duration.asSecsF64 (req.now - began)) := by
  intro before t after hpass sample age hsample hsensor hreported
  have hmem : t ∈ poll.pass requests := by simp [hpass]
  obtain ⟨req, heq, hplan, -⟩ := mem_pass hmem
  rw [← hplan.samples] at hsample
  rw [heq] at hreported
  obtain ⟨⟨answer, began⟩, hpending, hage⟩ := reportedAge_eq hsample hsensor hreported
  obtain ⟨count, hrun⟩ := pass_eq_run poll requests
  rw [hrun] at hpass
  have hinductive : machine.Inductive poll (fun _ => True) := ⟨trivial, fun _ _ => trivial⟩
  have hinitial : ¬(poll.pendingAge = some (answer, began) ∧ poll.cursor = t.before.cursor) := by
    simp [h.pendingAge]
  obtain ⟨earlier, hearlier, haged⟩ := (aged_since t.before.cursor answer began).earlier
    hinductive hinitial hpass ⟨hpending, rfl⟩
  exact ⟨req, earlier, answer, began, by rw [heq]; rfl, hearlier, haged, hage⟩

theorem refused_pass {t : Step} (hsound : poll.Sound) (h : t ∈ poll.pass requests)
    (hbatch : batchOf t = none) : t.after = t.before := by
  obtain ⟨req, heq, -, hbefore⟩ := mem_pass h
  rw [heq] at hbatch
  cases progress (hbefore hsound) req with
  | refused _ hafter => rw [heq]; exact hafter
  | goesOn hsome => simp [hbatch] at hsome
  | next hsome => simp [hbatch] at hsome
  | last hsome => simp [hbatch] at hsome

theorem restarted_pass {t : Step} (hsound : poll.Sound) (h : t ∈ poll.pass requests)
    (hends : ends t = true) : t.after = poll.restart := by
  obtain ⟨req, heq, hplan, hbefore⟩ := mem_pass h
  rw [heq] at hends
  cases progress (hbefore hsound) req with
  | refused hbatch => simp [ends, hbatch] at hends
  | goesOn _ hgoes => simp [hends] at hgoes
  | next _ hgoes => simp [hends] at hgoes
  | last _ _ _ hafter =>
    rw [heq, ← hplan.restart]
    exact hafter

theorem Started.reported (h : Started poll) (requests : List Request) :
    Reported poll (poll.pass requests) := by
  by_cases hne : poll.samples = []
  · have hidle : ∀ t ∈ poll.pass requests, batchOf t = none := fun t ht => (idle_pass hne ht).1
    have hends : ∀ t ∈ poll.pass requests, ends t = false := fun t ht => by
      simp [ends, hidle t ht]
    have hsettles : ∀ t ∈ poll.pass requests, settles t = false := fun t ht => by
      simp [settles, hidle t ht]
    exact {
      bounded := fun place => by
        rw [answers, List.countP_eq_zero.mpr fun t ht => by simp [hidle t ht]]
        exact Nat.zero_le _
      refused := fun t ht _ => (idle_pass hne ht).2
      ended := fun hsome => absurd hne hsome
      restarted := fun t ht hend => by simp [hends t ht] at hend
      atMostOnce := fun place => by
        rw [outcomes, List.countP_eq_zero.mpr fun t ht => by simp [hsettles t ht]]
        exact Nat.zero_le _
      once := fun _ place hplace => by simp [hne] at hplace
      final := fun t ht hsettled => by simp [hsettles t ht] at hsettled
      aged := h.aged requests }
  · have hsound := h.sound hne
    have hcost : poll.cost = 2 * poll.attempts := by simp [cost, h.pendingAge, h.failures]
    have hlength : 0 < poll.samples.length := List.length_pos_of_ne_nil hne
    exact {
      bounded := fun place => by
        have hbound := answers_le hsound requests place
        rw [budget, h.cursor, hcost] at hbound
        split_ifs at hbound <;> omega
      refused := fun t ht hbatch => refused_pass hsound ht hbatch
      ended := fun _ hanswered => by
        by_contra hnot
        have hlt := answered_lt hsound requests (by simpa using hnot)
        have hplaces : poll.samples.length = poll.samples.length - 1 - 0 + 1 := by omega
        rw [potential, h.cursor, hcost] at hlt
        rw [hplaces, Nat.mul_add, Nat.mul_one, Nat.mul_comm (2 * poll.attempts)] at hanswered
        omega
      restarted := fun t ht hend => by
        rw [restarted_pass hsound ht hend, h.restart]
      atMostOnce := fun place => by
        have hbound := (outcomes_pass hsound requests place).1
        split_ifs at hbound <;> omega
      once := fun hend place hplace =>
        (outcomes_pass hsound requests place).2 hend (by rw [h.cursor]; omega) hplace
      final := fun t ht hsettled => by
        obtain ⟨req, heq, hplan, -⟩ := mem_pass ht
        rw [heq] at hsettled
        obtain ⟨sample, batch, hsample, hbatch, hfinal⟩ := settles_final req hsettled
        rw [hplan.samples] at hsample
        rw [← heq] at hbatch
        exact ⟨sample, batch, hsample, hbatch, hfinal⟩
      aged := h.aged requests }

end

end Regain.Hub.PropertyPoll
