import Regain.Core.ContinuousSteps

/-!
# Steps of the published state

What a call, a publication and a step of the service can do, said once.
-/

namespace Regain.Core.Continuous

open Lib

namespace Published

def active (published : Published) : Bool :=
  published.status.any fun status => status.active

inductive Called (published : Published) (asked delivered : Nat) :
    Except String Answer → Published → Prop
  | told (answer : Except String Answer)
      (quiet : ∀ frame status, answer ≠ .ok (.frame frame status)) :
      Called published asked delivered answer published
  /-- The owner has not published for too long. -/
  | latched (answer : Except String Answer)
      (quiet : ∀ frame status, answer ≠ .ok (.frame frame status))
      (active : published.active = true) :
      Called published asked delivered answer
        { published with ownerUnresponsive := true, latest := none }
  | taken (frame : Frame) (status : StreamStatus) (latest : published.latest = some frame)
      (sound : published.error = none)
      (paced : ∀ earlier, published.deliveredAt = some earlier →
        published.interval ≤ asked - earlier) :
      Called published asked delivered (.ok (.frame frame status))
        { published with
          latest := none
          delivered := published.delivered + 1
          deliveredAt := some delivered }

theorem checkOwner_cases (published : Published) (now : Nat) :
    published.checkOwner now = published ∨
      (published.active = true ∧ published.checkOwner now
        = { published with ownerUnresponsive := true, latest := none }) := by
  unfold checkOwner
  split
  next hlate =>
    refine .inr ⟨?_, rfl⟩
    unfold active
    cases hstatus : published.status with
    | none => simp [hstatus] at hlate
    | some status =>
      simp only [hstatus, Option.any_some, Bool.and_eq_true] at hlate
      exact hlate.1.1
  next => exact .inl rfl

theorem take_delivers {published : Published} {asked : Nat} {frame : Frame}
    (hlatest : published.latest = some frame) (hready : published.ready asked = true) :
    published.error = none ∧ ∀ earlier, published.deliveredAt = some earlier →
      published.interval ≤ asked - earlier := by
  simp only [ready, hlatest, Option.isSome_some, Bool.true_and, Bool.and_eq_true] at hready
  refine ⟨Option.isNone_iff_eq_none.mp hready.1, fun earlier hearlier => ?_⟩
  simpa [hearlier] using hready.2

theorem call_called (published : Published) (method : String)
    (checked asked delivered answered : Nat) : Called published asked delivered
      (published.call method checked asked delivered answered).1
      (published.call method checked asked delivered answered).2 := by
  have hquiet : ∀ answer : Except String Answer, (∀ frame status, answer ≠ .ok (.frame frame status)) →
      Called published asked delivered answer (published.checkOwner checked) := by
    intro answer hquiet
    rcases published.checkOwner_cases checked with hsame | ⟨hactive, hlatched⟩
    · rw [hsame]
      exact .told answer hquiet
    · rw [hlatched]
      exact .latched answer hquiet hactive
  simp only [call]
  split
  · exact hquiet _ (fun _ _ h => by cases h)
  split
  · exact hquiet _ (fun _ _ h => by cases h)
  split
  · exact hquiet _ (fun _ _ h => by cases h)
  split
  next frame hlatest hready =>
    rcases published.checkOwner_cases checked with hsame | ⟨-, hlatched⟩
    · rw [hsame] at hlatest hready ⊢
      obtain ⟨hsound, hpaced⟩ := take_delivers hlatest hready
      exact .taken frame _ hlatest hsound hpaced
    · rw [hlatched] at hlatest
      cases hlatest
  · exact hquiet _ (fun _ _ h => by cases h)

/-- What a publication leaves of the stream, and what it shows of it. -/
structure Publication (published : Published) (stream stream' : Stream) (published' : Published) :
    Prop where
  params : stream'.params = stream.params
  requested : stream'.requested = stream.requested
  stopping : stream'.stopping = stream.stopping
  generation : stream'.generation = stream.generation
  acquired : stream'.acquired = stream.acquired
  emptied : stream'.latest = none
  failure : stream'.failure = none →
    stream.failure = none ∧ (stream.params = none ∨ published.ownerUnresponsive = false)
  inactive : stream.params = none → stream'.failure = stream.failure
  status : ∃ reading, published'.status = some (stream'.status reading)
  unresponsive : published'.ownerUnresponsive
    = (stream.params.isSome && published.ownerUnresponsive)
  deliveredAt : published'.deliveredAt
    = if stream.params.isSome && published.active then published.deliveredAt else none
  /-- A published frame is new, or it was published before under the same settings. -/
  latest : ∀ frame, published'.latest = some frame →
    stream.latest = some frame ∨
      (published.latest = some frame ∧ stream.params ≠ none ∧ stream.requested = none
        ∧ ∃ status, published.status = some status
          ∧ status.settingsGeneration = stream.generation)

section

variable (stream : Stream) (unresponsive : Bool)

@[simp] theorem heed_params : (stream.heed unresponsive).params = stream.params := by
  unfold Stream.heed
  split <;> rfl

@[simp] theorem heed_requested : (stream.heed unresponsive).requested = stream.requested := by
  unfold Stream.heed
  split <;> rfl

@[simp] theorem heed_stopping : (stream.heed unresponsive).stopping = stream.stopping := by
  unfold Stream.heed
  split <;> rfl

@[simp] theorem heed_generation : (stream.heed unresponsive).generation = stream.generation := by
  unfold Stream.heed
  split <;> rfl

@[simp] theorem heed_acquired : (stream.heed unresponsive).acquired = stream.acquired := by
  unfold Stream.heed
  split <;> rfl

theorem heed_latest {frame : Frame} (hlatest : (stream.heed unresponsive).latest = some frame) :
    stream.latest = some frame := by
  unfold Stream.heed at hlatest
  split at hlatest
  · cases hlatest
  · exact hlatest

theorem heed_failure (hsound : (stream.heed unresponsive).failure = none) :
    stream.failure = none ∧ (stream.params = none ∨ unresponsive = false) := by
  unfold Stream.heed at hsound
  split at hsound
  · cases hsound
  next hheeded =>
    refine ⟨hsound, ?_⟩
    cases hparams : stream.params with
    | none => exact .inl rfl
    | some params => exact .inr (by simpa [hparams] using hheeded)

theorem heed_inactive (hinactive : stream.params = none) :
    (stream.heed unresponsive).failure = stream.failure := by
  simp [Stream.heed, hinactive]

end

theorem not_superseded {published : Published} {stream : Stream}
    (hkept : stream.supersedes published = false) : stream.params ≠ none ∧ stream.requested = none
      ∧ ∃ status, published.status = some status
        ∧ status.settingsGeneration = stream.generation := by
  simp only [Stream.supersedes, Bool.or_eq_false_iff] at hkept
  obtain ⟨⟨⟨⟨hactive, -⟩, hrequested⟩, hgeneration⟩, -⟩ := hkept
  refine ⟨?_, ?_, ?_⟩
  · exact Option.isSome_iff_ne_none.mp (by simpa using hactive)
  · simpa using hrequested
  · cases hstatus : published.status with
    | none => simp [hstatus] at hgeneration
    | some status => exact ⟨status, rfl, by simpa [hstatus] using hgeneration⟩

theorem beginSession_kept (published : Published) (stream : Stream) :
    (published.beginSession stream).status = published.status
      ∧ (published.beginSession stream).latest = published.latest
      ∧ (published.beginSession stream).ownerUnresponsive
        = (stream.params.isSome && published.ownerUnresponsive)
      ∧ (published.beginSession stream).deliveredAt
        = if stream.params.isSome && published.active then published.deliveredAt else none := by
  unfold beginSession
  cases hparams : stream.params with
  | none => exact ⟨rfl, rfl, rfl, rfl⟩
  | some params =>
    simp only [Option.isNone_some, Bool.false_eq_true, if_false, Option.isSome_some, Bool.true_and]
    split
    next hactive => exact ⟨rfl, rfl, rfl, (if_pos hactive).symm⟩
    next hidle => exact ⟨rfl, rfl, rfl, (if_neg hidle).symm⟩

theorem receive_kept (published : Published) (stream : Stream) :
    (published.receive stream).status = published.status
      ∧ (published.receive stream).ownerUnresponsive = published.ownerUnresponsive
      ∧ (published.receive stream).deliveredAt = published.deliveredAt := by
  unfold receive
  cases stream.latest <;> exact ⟨rfl, rfl, rfl⟩

theorem receive_latest {published : Published} {stream : Stream} {frame : Frame}
    (hlatest : (published.receive stream).latest = some frame) : stream.latest = some frame ∨
      (published.latest = some frame ∧ stream.supersedes published = false) := by
  unfold receive at hlatest
  cases hnew : stream.latest with
  | some next =>
    rw [hnew] at hlatest
    exact .inl hlatest
  | none =>
    rw [hnew] at hlatest
    cases hsupersedes : stream.supersedes published with
    | true => simp [hsupersedes] at hlatest
    | false => exact .inr ⟨by simpa [hsupersedes] using hlatest, rfl⟩

theorem publish_publication (published : Published) (stream : Stream) (reading updated : Nat) :
    Publication published stream (published.publish stream reading updated).1
      (published.publish stream reading updated).2 := by
  have hreceive := receive_kept (published.beginSession (stream.heed published.ownerUnresponsive))
    (stream.heed published.ownerUnresponsive)
  have hbegin := beginSession_kept published (stream.heed published.ownerUnresponsive)
  rw [heed_params] at hbegin
  refine {
    params := heed_params stream _
    requested := heed_requested stream _
    stopping := heed_stopping stream _
    generation := heed_generation stream _
    acquired := heed_acquired stream _
    emptied := rfl
    failure := heed_failure stream _
    inactive := heed_inactive stream _
    status := ⟨reading, rfl⟩
    unresponsive := hreceive.2.1.trans hbegin.2.2.1
    deliveredAt := hreceive.2.2.trans hbegin.2.2.2
    latest := fun frame hframe => ?_ }
  rcases receive_latest hframe with hnew | ⟨hold, hkept⟩
  · exact .inl (heed_latest stream _ hnew)
  · obtain ⟨hactive, hrequested, status, hstatus, hgeneration⟩ := not_superseded hkept
    rw [heed_params] at hactive
    rw [heed_requested] at hrequested
    rw [hbegin.1] at hstatus
    rw [heed_generation] at hgeneration
    exact .inr ⟨hbegin.2.1 ▸ hold, hactive, hrequested, status, hstatus, hgeneration⟩

end Published

namespace Service

variable {World E : Type}

inductive Stepped (service : Service World E) : Op → Result E → Service World E → Prop
  | refused (op : Op) : Stepped service op .refused service
  | commanded {method : String} {params : Json} {result : Progress E Answer}
      {owner : Owner World} {phase : Phase E} (uncached : isCached method = false)
      (receiving : service.phase = .receiving)
      (performs : Owner.Performs method params service.owner result owner)
      (replies : ∀ reply, phase = .replying (.ok reply) → result = .done reply)
      (busy : phase ≠ .receiving ∧ phase ≠ .ticking) :
      Stepped service (.command method params) .done
        { service with owner := owner, phase := phase }
  | waited (receiving : service.phase = .receiving) :
      Stepped service .timeout .done { service with phase := .ticking }
  | ticked {result : Progress E Unit} {owner : Owner World} {phase : Phase E}
      (ticking : service.phase = .ticking) (ticked : Owner.Ticked service.owner result owner)
      (next : phase = .publishing ∨ phase = .ended) :
      Stepped service .tick .done { service with owner := owner, phase := phase }
  | published {result : Result E} {phase : Phase E} {stream : Stream} {published : Published}
      {instant : Nat} {world : World}
      (publication : service.published.Publication service.owner.stream stream published)
      (clock : service.owner.clock ≤ instant)
      (next : (∃ reply, service.phase = .replying reply ∧ result = .replied reply
          ∧ phase = .ticking)
        ∨ (service.phase = .publishing ∧ result = .done ∧ phase = .receiving)) :
      Stepped service .publish result
        { owner := { stream := stream, clock := instant, world := world }
          published := published
          phase := phase }
  | called {method : String} {answer : Except String Answer} {published : Published}
      {asked delivered instant : Nat} {world : World}
      (called : service.published.Called asked delivered answer published)
      (ordered : service.owner.clock ≤ asked ∧ asked ≤ delivered ∧ delivered ≤ instant) :
      Stepped service (.call method) (.called answer)
        { service with
          owner := { service.owner with clock := instant, world := world }
          published := published }

theorem performPublish_stepped (backend : Backend World E) {service : Service World E}
    {result : Result E} {phase : Phase E}
    (hnext : (∃ reply, service.phase = .replying reply ∧ result = .replied reply ∧ phase = .ticking)
      ∨ (service.phase = .publishing ∧ result = .done ∧ phase = .receiving)) :
    Stepped service .publish result (service.performPublish backend phase) := by
  refine .published (Published.publish_publication _ _ _ _) ?_ hnext
  show service.owner.clock ≤ service.owner.clock + _ + _
  omega

theorem performCommand_stepped (backend : Backend World E) {service : Service World E}
    (method : String) (params : Json) (huncached : isCached method = false)
    (hreceiving : service.phase = .receiving) :
    Stepped service (.command method params) .done (service.performCommand backend method params) := by
  have hperforms : Owner.Performs method params service.owner
      (Owner.command backend method params service.owner).1
      (Owner.command backend method params service.owner).2 :=
    Owner.command_meets backend
  refine .commanded huncached hreceiving hperforms ?_ ?_
  · intro reply
    cases (Owner.command backend method params service.owner).1 with
    | done answer => rintro ⟨⟩; rfl
    | failed error => rintro ⟨⟩
    | pending => rintro ⟨⟩
  · cases (Owner.command backend method params service.owner).1 <;> exact ⟨by rintro ⟨⟩, by rintro ⟨⟩⟩

theorem performTick_stepped (backend : Backend World E) {service : Service World E}
    (hticking : service.phase = .ticking) :
    Stepped service .tick .done (service.performTick backend) := by
  have hticked : Owner.Ticked service.owner (Owner.tick backend service.owner).1
      (Owner.tick backend service.owner).2 :=
    Owner.tick_meets backend
  refine .ticked hticking hticked ?_
  cases (Owner.tick backend service.owner).1 with
  | done value => exact .inl rfl
  | failed error => exact .inl rfl
  | pending => exact .inr rfl

theorem performCall_stepped (backend : Backend World E) (service : Service World E)
    (method : String) :
    Stepped service (.call method) (.called (service.performCall backend method).1)
      (service.performCall backend method).2 := by
  refine .called (Published.call_called _ _ _ _ _ _) ⟨?_, ?_, ?_⟩
  · show service.owner.clock ≤ service.owner.clock + _ + _
    omega
  · exact Nat.le_add_right _ _
  · exact Nat.le_add_right _ _

theorem step_stepped (backend : Backend World E) (service : Service World E) (op : Op) :
    Stepped service op ((machine backend).step service op).1
      ((machine backend).step service op).2 := by
  cases op with
  | call method => exact service.performCall_stepped backend method
  | command method params =>
    cases hphase : service.phase with
    | receiving =>
      simp only [machine, hphase]
      split
      · exact .refused _
      next huncached =>
        exact performCommand_stepped backend method params (by simpa using huncached) hphase
    | _ => simpa only [machine, hphase] using .refused _
  | timeout =>
    cases hphase : service.phase with
    | receiving => simpa only [machine, hphase] using .waited hphase
    | _ => simpa only [machine, hphase] using .refused _
  | publish =>
    cases hphase : service.phase with
    | replying reply =>
      simpa only [machine, hphase] using
        performPublish_stepped backend (.inl ⟨reply, hphase, rfl, rfl⟩)
    | publishing =>
      simpa only [machine, hphase] using
        performPublish_stepped backend (.inr ⟨hphase, rfl, rfl⟩)
    | _ => simpa only [machine, hphase] using .refused _
  | tick =>
    cases hphase : service.phase with
    | ticking => simpa only [machine, hphase] using performTick_stepped backend hphase
    | _ => simpa only [machine, hphase] using .refused _

end Service

end Regain.Core.Continuous
