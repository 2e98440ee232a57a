import Regain.Lib.MapValues
import Regain.Hub.Safety.Evidence

/-!
# Permission of a safety hub

Each endpoint of the hub is the replay of the calls it received since its fence was installed, so a
safe aggregate rests on the evidence of every endpoint.
-/

namespace Regain.Hub

open Lib
open Std (TreeMap)

structure HubSnapshot where
  isSafe : Bool
  endpoints : TreeMap Uuid Snapshot
  safeObservedAt : Option Nat

structure SafetyHub where
  endpoints : TreeMap Uuid Endpoint
  aggregateSafe : Bool
  resumeEpoch : Nat

namespace SafetyHub

def new (endpoints : TreeMap Uuid Endpoint) : SafetyHub where
  endpoints := endpoints
  aggregateSafe := false
  resumeEpoch := 0

def aggregate (previous : Bool) (endpoints : TreeMap Uuid Snapshot) : Bool :=
  if endpoints.isEmpty || (mapValues endpoints).any (fun s => !s.permitsSafe) then false
  else if !previous then
    (mapValues endpoints).all fun s => s.phase == .freshSafe && s.recoveryConfirmed
  else true

def snapshot (hub : SafetyHub) (now : Nat) : HubSnapshot × SafetyHub :=
  let endpoints := hub.endpoints.map fun _ endpoint => (endpoint.snapshot now).1
  let hub := { hub with
    endpoints := hub.endpoints.map fun _ endpoint => (endpoint.snapshot now).2
    aggregateSafe := aggregate hub.aggregateSafe endpoints }
  ({ isSafe := hub.aggregateSafe
     endpoints := endpoints
     safeObservedAt :=
      if hub.aggregateSafe then ((mapValues hub.endpoints).filterMap (·.lastSafeStart)).min?
      else none }, hub)

/-- A late safe response must not hide expiry, so the previous aggregate is observed first. -/
def observe (hub : SafetyHub) (source : Uuid) (observation : Observation) (now : Nat) :
    Bool × SafetyHub :=
  let hub := (hub.snapshot now).2
  match hub.endpoints[source]? with
  | none => (false, (hub.snapshot now).2)
  | some endpoint =>
    let (accepted, endpoint) := endpoint.observe observation now
    (accepted, ({ hub with endpoints := hub.endpoints.insert source endpoint }.snapshot now).2)

def resetSource (hub : SafetyHub) (source : Uuid) (fence : Fence) :
    Except (List FieldError) SafetyHub :=
  match hub.endpoints[source]? with
  | none => .ok hub
  | some previous => do
    let replacement ← Endpoint.new previous.policy fence
    return { hub with
      endpoints := hub.endpoints.insert source replacement
      aggregateSafe := false }

/-- A fence with a nil identity is refused by every endpoint, and by none of an empty hub. -/
def resetGeneration (hub : SafetyHub) (fence : Fence) : Except (List FieldError) SafetyHub :=
  if hfence : fence.nonNil = true then
    .ok { hub with
      endpoints := hub.endpoints.map fun _ endpoint =>
        Endpoint.fresh endpoint.policy fence endpoint.policyValid hfence
      aggregateSafe := false }
  else
    match (mapValues hub.endpoints).head? with
    | none => .ok { hub with aggregateSafe := false }
    | some endpoint => do
      let _ ← Endpoint.new endpoint.policy fence
      return hub

end SafetyHub
open Endpoint (fresh replay replay_append replay_policy)

namespace SafetyHub

inductive Call where
  | observe (source : Uuid) (observation : Observation) (now : Nat)
  | resetSource (source : Uuid) (fence : Fence)
  | resetGeneration (fence : Fence)
  | snapshot (now : Nat)

def apply (hub : SafetyHub) : Call → SafetyHub
  | .observe source observation now => (hub.observe source observation now).2
  | .resetSource source fence => (hub.resetSource source fence).toOption.getD hub
  | .resetGeneration fence => (hub.resetGeneration fence).toOption.getD hub
  | .snapshot now => (hub.snapshot now).2

def run (hub : SafetyHub) (calls : List Call) : SafetyHub :=
  calls.foldl apply hub

/-- The calls of one endpoint since its installation, extended by one hub call. -/
def extendHistory (source : Uuid) (history : List Endpoint.Call) : Call → List Endpoint.Call
  | .observe target observation now =>
    if target = source then
      history ++ [.snapshot now, .observe observation now, .snapshot now]
    else history ++ [.snapshot now, .snapshot now]
  | .resetSource target fence => if target = source ∧ fence.nonNil = true then [] else history
  | .resetGeneration fence => if fence.nonNil = true then [] else history
  | .snapshot now => history ++ [.snapshot now]

def history (source : Uuid) (prior : List Endpoint.Call) (calls : List Call) :
    List Endpoint.Call :=
  calls.foldl (extendHistory source) prior

/--
Every endpoint of the hub is a fresh endpoint of its configured policy, driven
through the calls recorded for it.
-/
def Replays (configured : TreeMap Uuid Endpoint) (hub : SafetyHub)
    (histories : Uuid → List Endpoint.Call) : Prop :=
  ∀ (source : Uuid) (endpoint : Endpoint), hub.endpoints[source]? = some endpoint →
    ∃ original fence, ∃ hfence : fence.nonNil = true,
      configured[source]? = some original
        ∧ endpoint = (fresh original.policy fence original.policyValid hfence).replay
            (histories source)

theorem snapshot_getElem? (hub : SafetyHub) (now : Nat) (source : Uuid) :
    (hub.snapshot now).2.endpoints[source]?
      = hub.endpoints[source]?.map fun endpoint => (endpoint.snapshot now).2 := by
  simp [snapshot, TreeMap.getElem?_map]

theorem aggregate_permits {previous : Bool} {endpoints : TreeMap Uuid Snapshot}
    (hsafe : aggregate previous endpoints = true) : endpoints.isEmpty = false ∧
      ∀ (source : Uuid) (s : Snapshot), endpoints[source]? = some s → s.permitsSafe = true := by
  unfold aggregate at hsafe
  split at hsafe
  · exact nomatch hsafe
  · rename_i hkeeps
    simp only [Bool.or_eq_true, List.any_eq_true, not_or, not_exists, not_and,
      Bool.not_eq_true, Bool.not_eq_eq_eq_not, Bool.not_true] at hkeeps
    refine ⟨hkeeps.1, ?_⟩
    intro source s hget
    simpa using hkeeps.2 s (mem_mapValues.mpr ⟨source, hget⟩)

theorem snapshot_isSafe_permits {hub : SafetyHub} {now : Nat}
    (hsafe : (hub.snapshot now).1.isSafe = true) : (hub.snapshot now).2.endpoints.isEmpty = false ∧
      ∀ (source : Uuid) (endpoint : Endpoint),
        (hub.snapshot now).2.endpoints[source]? = some endpoint → endpoint.permits = true := by
  obtain ⟨hempty, hpermits⟩ := aggregate_permits (show aggregate _ _ = true from hsafe)
  refine ⟨by simpa [snapshot, TreeMap.isEmpty_map] using hempty, ?_⟩
  intro source endpoint hget
  rw [snapshot_getElem?] at hget
  obtain ⟨before, hbefore, rfl⟩ := Option.map_eq_some_iff.mp hget
  refine hpermits source (before.snapshot now).1 ?_
  simp [TreeMap.getElem?_map, hbefore]

def endpointAfter (source : Uuid) (call : Call) (endpoint : Endpoint) : Endpoint :=
  match call with
  | .observe target observation now =>
    if target = source then
      endpoint.replay [.snapshot now, .observe observation now, .snapshot now]
    else endpoint.replay [.snapshot now, .snapshot now]
  | .resetSource target fence =>
    if hreset : target = source ∧ fence.nonNil = true then
      fresh endpoint.policy fence endpoint.policyValid hreset.2
    else endpoint
  | .resetGeneration fence =>
    if hfence : fence.nonNil = true then
      fresh endpoint.policy fence endpoint.policyValid hfence
    else endpoint
  | .snapshot now => endpoint.replay [.snapshot now]

private theorem endpointAfter_observe_of_ne {source target : Uuid} {observation : Observation}
    {now : Nat} (hne : target ≠ source) : endpointAfter source (.observe target observation now)
      = fun endpoint => endpoint.replay [.snapshot now, .snapshot now] := by
  funext endpoint
  simp only [endpointAfter, hne, if_false]

private theorem observe_getElem? (hub : SafetyHub) (target source : Uuid)
    (observation : Observation) (now : Nat) :
    (hub.observe target observation now).2.endpoints[source]?
      = hub.endpoints[source]?.map (endpointAfter source (.observe target observation now)) := by
  simp only [observe]
  cases htarget : (hub.snapshot now).2.endpoints[target]? with
  | none =>
    dsimp only
    rw [snapshot_getElem?, snapshot_getElem?, Option.map_map]
    rw [snapshot_getElem?] at htarget
    by_cases hsame : target = source
    · subst hsame
      rw [Option.map_eq_none_iff] at htarget
      simp [htarget]
    · rw [endpointAfter_observe_of_ne hsame]
      rfl
  | some endpoint =>
    dsimp only
    rw [snapshot_getElem?, TreeMap.getElem?_insert]
    rw [snapshot_getElem?] at htarget
    obtain ⟨before, hbefore, rfl⟩ := Option.map_eq_some_iff.mp htarget
    by_cases hsame : target = source
    · subst hsame
      simp [hbefore, endpointAfter, replay, Endpoint.apply]
    · have hne : compare target source ≠ .eq := by
        simpa using hsame
      rw [if_neg hne, snapshot_getElem?, Option.map_map, endpointAfter_observe_of_ne hsame]
      rfl

private theorem new_eq_fresh {policy : SafetyPolicy} {fence : Fence}
    (hpolicy : policy.validate = []) (hfence : fence.nonNil = true) :
    Endpoint.new policy fence = .ok (fresh policy fence hpolicy hfence) := by
  simp [Endpoint.new, hpolicy, hfence]

private theorem new_eq_error {policy : SafetyPolicy} {fence : Fence}
    (hpolicy : policy.validate = []) (hfence : fence.nonNil ≠ true) :
    ∃ errors, Endpoint.new policy fence = .error errors := by
  simp [Endpoint.new, hpolicy, hfence]

private theorem endpointAfter_resetSource_eq_id {source target : Uuid} {fence : Fence}
    (hkept : ¬(target = source ∧ fence.nonNil = true)) :
    endpointAfter source (.resetSource target fence) = id := by
  funext endpoint
  simp only [endpointAfter, hkept, dite_false, id]

private theorem resetSource_getElem? (hub : SafetyHub) (target source : Uuid) (fence : Fence) :
    (hub.apply (.resetSource target fence)).endpoints[source]?
      = hub.endpoints[source]?.map (endpointAfter source (.resetSource target fence)) := by
  simp only [apply, resetSource]
  cases htarget : hub.endpoints[target]? with
  | none =>
    by_cases hsame : target = source
    · subst hsame
      simp [htarget, Except.toOption]
    · rw [endpointAfter_resetSource_eq_id (by simp [hsame])]
      simp [Except.toOption]
  | some previous =>
    by_cases hfence : fence.nonNil = true
    · simp only [new_eq_fresh previous.policyValid hfence, bind, Except.bind, pure, Except.pure,
        Except.toOption, Option.getD_some]
      rw [TreeMap.getElem?_insert]
      by_cases hsame : target = source
      · subst hsame
        simp [htarget, endpointAfter, hfence]
      · have hne : compare target source ≠ .eq := by
          simpa using hsame
        rw [if_neg hne, endpointAfter_resetSource_eq_id (by simp [hsame])]
        simp
    · obtain ⟨errors, herror⟩ := new_eq_error previous.policyValid hfence
      rw [endpointAfter_resetSource_eq_id (by simp [hfence])]
      simp [herror, bind, Except.bind, Except.toOption]

private theorem endpointAfter_resetGeneration_eq_id {source : Uuid} {fence : Fence}
    (hfence : ¬fence.nonNil = true) : endpointAfter source (.resetGeneration fence) = id := by
  funext endpoint
  simp only [endpointAfter, hfence, Bool.false_eq_true, dite_false, id]

private theorem resetGeneration_getElem? (hub : SafetyHub) (source : Uuid) (fence : Fence) :
    (hub.apply (.resetGeneration fence)).endpoints[source]?
      = hub.endpoints[source]?.map (endpointAfter source (.resetGeneration fence)) := by
  simp only [apply, resetGeneration]
  by_cases hfence : fence.nonNil = true
  · have hafter : endpointAfter source (.resetGeneration fence) = fun endpoint =>
        fresh endpoint.policy fence endpoint.policyValid hfence := by
      funext endpoint
      simp only [endpointAfter, hfence, dite_true]
    simp [hfence, hafter, Except.toOption, TreeMap.getElem?_map]
  · rw [endpointAfter_resetGeneration_eq_id hfence, dif_neg hfence]
    cases hfirst : (mapValues hub.endpoints).head? with
    | none => simp [Except.toOption]
    | some endpoint =>
      obtain ⟨errors, herror⟩ := new_eq_error endpoint.policyValid hfence
      simp [herror, bind, Except.bind, Except.toOption]

theorem apply_getElem? (hub : SafetyHub) (call : Call) (source : Uuid) :
    (hub.apply call).endpoints[source]?
      = hub.endpoints[source]?.map (endpointAfter source call) := by
  cases call with
  | observe target observation now => exact observe_getElem? hub target source observation now
  | resetSource target fence => exact resetSource_getElem? hub target source fence
  | resetGeneration fence => exact resetGeneration_getElem? hub source fence
  | snapshot now => exact snapshot_getElem? hub now source

theorem Replays.apply {configured : TreeMap Uuid Endpoint} {hub : SafetyHub}
    {histories : Uuid → List Endpoint.Call} (hreplays : Replays configured hub histories)
    (call : Call) : Replays configured (hub.apply call)
      (fun source => extendHistory source (histories source) call) := by
  intro source endpoint hget
  rw [apply_getElem?] at hget
  obtain ⟨before, hbefore, rfl⟩ := Option.map_eq_some_iff.mp hget
  obtain ⟨original, fence, hfence, horiginal, rfl⟩ := hreplays source before hbefore
  have hpolicy : ((fresh original.policy fence original.policyValid hfence).replay
      (histories source)).policy = original.policy :=
    replay_policy _ _
  cases call with
  | snapshot now =>
    exact ⟨original, fence, hfence, horiginal, (replay_append _ _ _).symm⟩
  | observe target observation now =>
    refine ⟨original, fence, hfence, horiginal, ?_⟩
    simp only [endpointAfter, extendHistory]
    split <;> exact (replay_append _ _ _).symm
  | resetSource target newFence =>
    by_cases hreset : target = source ∧ newFence.nonNil = true
    · refine ⟨original, newFence, hreset.2, horiginal, ?_⟩
      simp only [endpointAfter, extendHistory, hreset, and_self, dite_true, if_true, hpolicy]
      rfl
    · refine ⟨original, fence, hfence, horiginal, ?_⟩
      simp only [endpointAfter, extendHistory, hreset, dite_false, if_false]
  | resetGeneration newFence =>
    by_cases hreset : newFence.nonNil = true
    · refine ⟨original, newFence, hreset, horiginal, ?_⟩
      simp only [endpointAfter, extendHistory, hreset, dite_true, if_true, hpolicy]
      rfl
    · refine ⟨original, fence, hfence, horiginal, ?_⟩
      simp only [endpointAfter, extendHistory, hreset]
      rfl

theorem Replays.run {configured : TreeMap Uuid Endpoint} {hub : SafetyHub}
    {histories : Uuid → List Endpoint.Call} (hreplays : Replays configured hub histories)
    (calls : List Call) :
    Replays configured (hub.run calls) (fun source => history source (histories source) calls) := by
  induction calls generalizing hub histories with
  | nil => exact hreplays
  | cons call calls ih => exact ih (hreplays.apply call)

/--
A hub that reports safe has an endpoint, and every endpoint holds fresh evidence
and a completed recovery since its last withdrawal, without a clock reversal
since its fence was installed.
-/
theorem run_isSafe_evidenced (configured : TreeMap Uuid Endpoint)
    (prior : Uuid → List Endpoint.Call) (hconfigured : Replays configured (new configured) prior)
    (calls : List Call) (now : Nat)
    (hsafe : (((new configured).run calls).snapshot now).1.isSafe = true) :
    (((new configured).run calls).snapshot now).2.endpoints.isEmpty = false ∧
      ∀ (source : Uuid) (endpoint : Endpoint),
        (((new configured).run calls).snapshot now).2.endpoints[source]? = some endpoint →
        ∃ original, configured[source]? = some original ∧ endpoint.policy = original.policy
          ∧ endpoint.Evidenced (fresh endpoint.policy endpoint.fence endpoint.policyValid
                endpoint.fenceValid)
              (history source (prior source) (calls ++ [.snapshot now])) now := by
  obtain ⟨hempty, hpermits⟩ := snapshot_isSafe_permits hsafe
  refine ⟨hempty, ?_⟩
  intro source endpoint hget
  have hgranted := hpermits source endpoint hget
  rw [snapshot_getElem?] at hget
  obtain ⟨before, hbefore, rfl⟩ := Option.map_eq_some_iff.mp hget
  obtain ⟨original, fence, hfence, horiginal, rfl⟩ := hconfigured.run calls source before hbefore
  have hhistory : history source (prior source) (calls ++ [.snapshot now])
      = history source (prior source) calls ++ [.snapshot now] := by
    simp [history, List.foldl_append, extendHistory]
  have hsnapshot : (((fresh original.policy fence original.policyValid hfence).replay
      (history source (prior source) calls)).snapshot now).2
      = (fresh original.policy fence original.policyValid hfence).replay
        (history source (prior source) calls ++ [.snapshot now]) :=
    (Endpoint.replay_concat _ _ (.snapshot now)).symm
  rw [hsnapshot] at hgranted ⊢
  rw [hhistory]
  refine ⟨original, horiginal, replay_policy _ _, ?_⟩
  simp only [replay_policy, Endpoint.replay_fence]
  exact Endpoint.evidenced_of_permits (Endpoint.fresh_backed _ _ _ _) hgranted

/-- Three readings a second apart, and two seconds of them, before a source is safe again. -/
def returningPolicy : SafetyPolicy :=
  { (default : SafetyPolicy) with
    confirmationSeconds := 1.0
    safeReadingsToSafe := 3
    returnToSafeHoldSeconds := 2.0 }

def returningEndpoint : Endpoint :=
  fresh returningPolicy ⟨1, 1⟩ (by decide +kernel) (by decide)

def returningEndpoints : TreeMap Uuid Endpoint :=
  (∅ : TreeMap Uuid Endpoint).insert 1 returningEndpoint

private theorem returning_replays :
    Replays returningEndpoints (new returningEndpoints) (fun _ => []) := by
  intro source endpoint hget
  refine ⟨endpoint, ⟨1, 1⟩, by decide, hget, ?_⟩
  change returningEndpoints[source]? = some endpoint at hget
  rw [returningEndpoints, TreeMap.getElem?_insert] at hget
  split at hget
  · obtain rfl : returningEndpoint = endpoint := by simpa using hget
    rfl
  · simp at hget

/-- One unsafe reading at 1 s, and then safe ones. -/
def returningCalls : List Call :=
  [.observe 1 ⟨0, ⟨1, 1⟩, 1, 1000000000, 1000000000, .unsafe_⟩ 1000000000,
    .observe 1 ⟨0, ⟨1, 1⟩, 2, 2000000000, 2000000000, .safe⟩ 2000000000,
    .observe 1 ⟨0, ⟨1, 1⟩, 3, 3000000000, 3000000000, .safe⟩ 3000000000,
    .observe 1 ⟨0, ⟨1, 1⟩, 4, 4500000000, 4500000000, .safe⟩ 4500000000]

/-- The third safe reading makes the hub safe; before it the hub is not. -/
theorem returning_isSafe_evidenced :
    let hub := (new returningEndpoints).run returningCalls
    (((new returningEndpoints).run (returningCalls.take 3)).snapshot 5000000000).1.isSafe = false ∧
      (hub.snapshot 5000000000).1.isSafe = true ∧
      ∀ (source : Uuid) (endpoint : Endpoint),
        (hub.snapshot 5000000000).2.endpoints[source]? = some endpoint →
        ∃ original, returningEndpoints[source]? = some original
          ∧ endpoint.policy = original.policy
          ∧ endpoint.Evidenced
              (fresh endpoint.policy endpoint.fence endpoint.policyValid
                endpoint.fenceValid)
              (history source [] (returningCalls ++ [.snapshot 5000000000])) 5000000000 :=
  ⟨by decide +kernel, by decide +kernel, (run_isSafe_evidenced returningEndpoints (fun _ => [])
    returning_replays returningCalls 5000000000 (by decide +kernel)).2⟩

end SafetyHub

end Regain.Hub
