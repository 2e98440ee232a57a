import Regain.Core.ContinuousCoherence
import Regain.Core.ContinuousSettling

/-!
# Delivery of published frames

What the owner thread and the I/O thread guarantee together about the frames that
a client receives, over every order of their steps.
-/

namespace Regain.Core.Continuous.Service

open Lib

variable {World E : Type}

abbrev Step (World E : Type) : Type :=
  Transition (Service World E) Op (Result E)

def delivered (t : Step World E) : Option Frame :=
  match t.result with
  | .called (.ok (.frame frame _)) => some frame
  | .replied (.ok (.frame frame _)) => some frame
  | _ => none

/-- The settings generation under which a step acknowledges an edit as pending. -/
def acknowledged (t : Step World E) : Option Nat :=
  match t.result with
  | .replied (.ok (.status status)) =>
    if status.settingsPending then some status.settingsGeneration else none
  | _ => none

def EndsSession (t : Step World E) : Prop :=
  t.before.published.active = true ∧ t.after.published.active = false

def Withdraws (t : Step World E) : Prop :=
  ∃ method request, t.op = .command method request ∧ t.before.phase = .receiving
    ∧ Stream.Withdrawn method request t.before.owner.stream

/-- A fact about the two copies that every step of an active session keeps, except a withdrawal
where it may. -/
structure Persists (World E : Type) (lapses : Prop) (Fact : Published → Stream → Prop) : Prop where
  moved : ∀ {service : Service World E} {withdrawn : Prop} {stream : Stream}, service.Coherent →
    service.owner.stream.params ≠ none →
    Stream.Moves withdrawn service.owner.stream stream →
    Fact service.published service.owner.stream →
    (lapses ∧ withdrawn) ∨ Fact service.published stream
  published : ∀ {service : Service World E} {stream : Stream} {published : Published},
    service.Coherent → service.published.active = true → service.owner.stream.params ≠ none →
    service.published.Publication service.owner.stream stream published →
    Fact service.published service.owner.stream → Fact published stream
  called : ∀ {service : Service World E} {answer : Except String Answer} {published : Published}
    {asked delivered : Nat}, service.Coherent →
    service.published.Called asked delivered answer published →
    service.owner.clock ≤ asked ∧ asked ≤ delivered →
    Fact service.published service.owner.stream → Fact published service.owner.stream

theorem publication_active {published published' : Published} {stream stream' : Stream}
    (hpublication : published.Publication stream stream' published') :
    published'.active = stream.params.isSome := by
  obtain ⟨reading, hstatus⟩ := hpublication.status
  simp [Published.active, hstatus, Stream.status, hpublication.params]

theorem called_active {published published' : Published} {answer : Except String Answer}
    {asked delivered : Nat} (hcalled : published.Called asked delivered answer published') :
    published'.active = published.active := by
  cases hcalled with
  | told => rfl
  | latched => rfl
  | taken => rfl

variable {op : Op}

theorem Persists.stepped {lapses : Prop} {Fact : Published → Stream → Prop}
    (hpersists : Persists World E lapses Fact) {service after : Service World E} {result : Result E}
    (hcoherent : service.Coherent) (hstepped : Stepped service op result after)
    (hfact : service.published.active = true ∧ Fact service.published service.owner.stream) :
    (EndsSession ⟨service, op, result, after⟩ ∨ (lapses ∧ Withdraws ⟨service, op, result, after⟩)) ∨
      (after.published.active = true ∧ Fact after.published after.owner.stream) := by
  obtain ⟨hactive, hfact⟩ := hfact
  cases hstepped with
  | refused op => exact .inr ⟨hactive, hfact⟩
  | waited hreceiving => exact .inr ⟨hactive, hfact⟩
  | commanded huncached hreceiving hperforms =>
    have hrunning := (hcoherent.synced (.inl hreceiving)).mp hactive
    rcases hpersists.moved hcoherent hrunning
      (.of_commanded hcoherent.stream hperforms.stream) hfact with ⟨hlapses, hwithdrawn⟩ | hkept
    · exact .inl (.inr ⟨hlapses, _, _, rfl, hreceiving, hwithdrawn⟩)
    · exact .inr ⟨hactive, hkept⟩
  | ticked hticking hticked =>
    have hrunning := (hcoherent.synced (.inr hticking)).mp hactive
    rcases hpersists.moved hcoherent hrunning (.of_ticked hcoherent.stream hticked) hfact with
      ⟨-, hfalse⟩ | hkept
    · exact hfalse.elim
    · exact .inr ⟨hactive, hkept⟩
  | published hpublication =>
    have hstatus := publication_active hpublication
    by_cases hrunning : service.owner.stream.params = none
    · rw [hrunning] at hstatus
      exact .inl (.inl ⟨hactive, hstatus⟩)
    · exact .inr ⟨hstatus.trans (Option.isSome_iff_ne_none.mpr hrunning),
        hpersists.published hcoherent hactive hrunning hpublication hfact⟩
  | called hcalled hordered =>
    have hkept := hpersists.called hcoherent hcalled ⟨hordered.1, hordered.2.1⟩ hfact
    exact .inr ⟨(called_active hcalled).trans hactive, hkept⟩

/-! ## Facts that persist -/

/-- Every frame of the session that is still to come has a higher sequence number. -/
def Increasing (sequence : Nat) (published : Published) (stream : Stream) : Prop :=
  (∀ frame, published.latest = some frame → sequence < frame.acquisitionSequence)
    ∧ (∀ frame, stream.latest = some frame → sequence < frame.acquisitionSequence)
    ∧ (stream.params ≠ none → sequence ≤ stream.acquired)

theorem increasing_persists (sequence : Nat) :
    Persists World E False (Increasing sequence) where
  moved := by
    rintro service withdrawn stream hcoherent hrunning hmoves ⟨hpublished, hbuffered, hacquired⟩
    refine .inr ⟨hpublished, fun frame hlatest => ?_, fun _ => ?_⟩
    · rcases hmoves.latest frame hlatest with hold | ⟨hnew, -⟩
      · exact hbuffered frame hold
      · exact Nat.lt_of_le_of_lt (hacquired hrunning) hnew
    · exact Nat.le_trans (hacquired hrunning) (hmoves.acquired hrunning)
  published := by
    rintro service stream published hcoherent hactive hrunning hpublication
      ⟨hpublished, hbuffered, hacquired⟩
    refine ⟨fun frame hlatest => ?_, Stream.no_frame hpublication.emptied, fun _ => ?_⟩
    · rcases hpublication.latest frame hlatest with hnew | ⟨hold, -⟩
      · exact hbuffered frame hnew
      · exact hpublished frame hold
    · rw [hpublication.acquired]
      exact hacquired hrunning
  called := by
    rintro service answer published asked delivered hcoherent hcalled hordered
      ⟨hpublished, hbuffered, hacquired⟩
    cases hcalled with
    | told => exact ⟨hpublished, hbuffered, hacquired⟩
    | latched => exact ⟨(fun _ h => by cases h), hbuffered, hacquired⟩
    | taken => exact ⟨(fun _ h => by cases h), hbuffered, hacquired⟩

def DeliveredSince (instant : Nat) (published : Published) (_ : Stream) : Prop :=
  ∃ delivered, published.deliveredAt = some delivered ∧ instant ≤ delivered

theorem deliveredSince_persists (instant : Nat) :
    Persists World E False (DeliveredSince instant) where
  moved := fun _ _ _ hfact => .inr hfact
  published := by
    rintro service stream published hcoherent hactive hrunning hpublication ⟨delivered, hdelivered, hlate⟩
    refine ⟨delivered, ?_, hlate⟩
    rw [hpublication.deliveredAt, hactive, Option.isSome_iff_ne_none.mpr hrunning]
    exact hdelivered
  called := by
    rintro service answer published asked delivered hcoherent hcalled hordered
      ⟨earlier, hearlier, hlate⟩
    cases hcalled with
    | told => exact ⟨earlier, hearlier, hlate⟩
    | latched => exact ⟨earlier, hearlier, hlate⟩
    | taken =>
      have hbefore := hcoherent.delivered earlier hearlier
      exact ⟨delivered, rfl, by omega⟩

def Failed (published : Published) (_ : Stream) : Prop :=
  published.error ≠ none

theorem failed_persists : Persists World E False Failed where
  moved := fun _ _ _ hfact => .inr hfact
  published := by
    intro service stream published hcoherent hactive hrunning hpublication hfailed hsound
    obtain ⟨reading, hstatus⟩ := hpublication.status
    obtain ⟨-, hreason⟩ := hcoherent.error hfailed
    simp only [Published.error, hpublication.unresponsive, hstatus,
      Option.isSome_iff_ne_none.mpr hrunning, Bool.true_and, Option.bind_some] at hsound
    split at hsound
    · cases hsound
    next htimely =>
      obtain ⟨hsame, -⟩ := hpublication.failure hsound
      rcases hreason with hlate | hfailure | hnone
      · exact htimely hlate
      · exact hfailure hsame
      · exact hrunning hnone
  called := by
    intro service answer published asked delivered hcoherent hcalled hordered hfailed
    cases hcalled with
    | told => exact hfailed
    | latched => exact fun h => by cases h
    | taken frame status hlatest hsound => exact absurd hsound hfailed

/-- No frame of these settings is still to come, as an edit is pending or already applied. -/
def Superseded (generation : Nat) (published : Published) (stream : Stream) : Prop :=
  (∀ frame, published.latest = some frame → generation < frame.settingsGeneration)
    ∧ (∀ frame, stream.latest = some frame → generation < frame.settingsGeneration)
    ∧ (stream.params ≠ none → generation ≤ stream.generation
      ∧ (stream.failure ≠ none ∨ generation < stream.generation
        ∨ stream.requested ≠ none ∨ stream.stopping = true))

theorem superseded_persists (generation : Nat) :
    Persists World E True (Superseded generation) where
  moved := by
    rintro service withdrawn stream hcoherent hrunning hmoves ⟨hpublished, hbuffered, hcurrent⟩
    obtain ⟨hgeneration, hreason⟩ := hcurrent hrunning
    have hlater := hmoves.generation hrunning
    have hslot : ∀ frame, stream.latest = some frame → generation < frame.settingsGeneration := by
      intro frame hlatest
      rcases hmoves.latest frame hlatest with hold | ⟨-, hsame, hrequested, hstopping, hsound⟩
      · exact hbuffered frame hold
      · rcases hreason with h | h | h | h
        · exact absurd hsound h
        · omega
        · exact absurd hrequested h
        · simp [hstopping] at h
    have hstill : withdrawn ∨ stream.params = none ∨ stream.failure ≠ none
        ∨ generation < stream.generation ∨ stream.requested ≠ none ∨ stream.stopping = true := by
      rcases hreason with hfailure | hnewer | hpending
      · rcases hmoves.failure hfailure with h | h
        · exact .inr (.inr (.inl h))
        · exact .inr (.inl h)
      · exact .inr (.inr (.inr (.inl (by omega))))
      · rcases hmoves.pending hrunning hpending with h | h | h | h | h
        · exact .inl h
        · exact .inr (.inl h)
        · exact .inr (.inr (.inl h))
        · exact .inr (.inr (.inr (.inl (by omega))))
        · exact .inr (.inr (.inr (.inr h)))
    rcases hstill with hwithdrawn | hnone | hstill
    · exact .inl ⟨trivial, hwithdrawn⟩
    · exact .inr ⟨hpublished, hslot, fun h => absurd hnone h⟩
    · exact .inr ⟨hpublished, hslot, fun _ => ⟨Nat.le_trans hgeneration hlater, hstill⟩⟩
  published := by
    rintro service stream published hcoherent hactive hrunning hpublication
      ⟨hpublished, hbuffered, hcurrent⟩
    refine ⟨fun frame hlatest => ?_, Stream.no_frame hpublication.emptied, fun _ => ?_⟩
    · rcases hpublication.latest frame hlatest with hnew | ⟨hold, -⟩
      · exact hbuffered frame hnew
      · exact hpublished frame hold
    · obtain ⟨hgeneration, hreason⟩ := hcurrent hrunning
      rw [hpublication.generation, hpublication.requested, hpublication.stopping]
      refine ⟨hgeneration, ?_⟩
      rcases hreason with hfailure | hreason
      · exact .inl fun hsound => hfailure (hpublication.failure hsound).1
      · exact .inr hreason
  called := by
    rintro service answer published asked delivered hcoherent hcalled hordered
      ⟨hpublished, hbuffered, hcurrent⟩
    cases hcalled with
    | told => exact ⟨hpublished, hbuffered, hcurrent⟩
    | latched => exact ⟨(fun _ h => by cases h), hbuffered, hcurrent⟩
    | taken => exact ⟨(fun _ h => by cases h), hbuffered, hcurrent⟩

theorem not_delivered {service after : Service World E} {answer : Except String Answer}
    {frame : Frame} (hquiet : ∀ frame status, answer ≠ .ok (.frame frame status)) :
    delivered ⟨service, op, .called answer, after⟩ ≠ some frame := by
  cases answer with
  | error message => exact fun h => by cases h
  | ok answer =>
    cases answer with
    | frame frame status => exact absurd rfl (hquiet frame status)
    | status status => exact fun h => by cases h
    | continuous status => exact fun h => by cases h
    | backend value pixels => exact fun h => by cases h

theorem delivered_taken {service after : Service World E} {result : Result E} {frame : Frame}
    (hcoherent : service.Coherent) (hstepped : Stepped service op result after)
    (hdelivered : delivered ⟨service, op, result, after⟩ = some frame) :
    service.published.latest = some frame ∧ service.published.error = none
      ∧ ∃ asked delivered, service.owner.clock ≤ asked ∧ asked ≤ delivered
        ∧ (∀ earlier, service.published.deliveredAt = some earlier →
          service.published.interval ≤ asked - earlier)
        ∧ after.published = { service.published with
            latest := none
            delivered := service.published.delivered + 1
            deliveredAt := some delivered }
        ∧ after.owner.stream = service.owner.stream := by
  cases hstepped with
  | refused op => cases hdelivered
  | commanded => cases hdelivered
  | waited => cases hdelivered
  | ticked => cases hdelivered
  | published hpublication hclock hnext =>
    rcases hnext with ⟨reply, hphase, rfl, -⟩ | ⟨-, rfl, -⟩
    · cases reply with
      | error error => cases hdelivered
      | ok answer =>
        obtain ⟨method, huncached, hshows⟩ := hcoherent.reply answer hphase
        cases answer with
        | frame frame status =>
          have hcached : isCached method = true := hshows
          rw [huncached] at hcached
          cases hcached
        | status status => cases hdelivered
        | continuous status => cases hdelivered
        | backend value pixels => cases hdelivered
    · cases hdelivered
  | called hcalled hordered =>
    cases hcalled with
    | told answer hquiet => exact absurd hdelivered (not_delivered hquiet)
    | latched answer hquiet hactive => exact absurd hdelivered (not_delivered hquiet)
    | taken frame status hlatest hsound hpaced =>
      cases hdelivered
      exact ⟨hlatest, hsound, _, _, hordered.1, hordered.2.1, hpaced, rfl, rfl⟩

theorem acknowledged_pending {service after : Service World E} {result : Result E}
    {generation : Nat} (hcoherent : service.Coherent) (hstepped : Stepped service op result after)
    (hacknowledged : acknowledged ⟨service, op, result, after⟩ = some generation) :
    after.published.active = true ∧ Superseded generation after.published after.owner.stream := by
  cases hstepped with
  | refused op => cases hacknowledged
  | commanded => cases hacknowledged
  | waited => cases hacknowledged
  | ticked => cases hacknowledged
  | called => cases hacknowledged
  | published hpublication hclock hnext =>
    rcases hnext with ⟨reply, hphase, rfl, -⟩ | ⟨-, rfl, -⟩
    · cases reply with
      | error error => cases hacknowledged
      | ok answer =>
        obtain ⟨method, -, hshows⟩ := hcoherent.reply answer hphase
        cases answer with
        | frame frame status => cases hacknowledged
        | continuous status => cases hacknowledged
        | backend value pixels => cases hacknowledged
        | status status =>
          obtain ⟨reading, rfl⟩ := hshows
          simp only [acknowledged] at hacknowledged
          split at hacknowledged
          next hpending =>
            cases hacknowledged
            have hrequested : service.owner.stream.requested ≠ none :=
              Option.isSome_iff_ne_none.mp hpending
            have hrunning : service.owner.stream.params ≠ none := fun hnone =>
              hrequested (hcoherent.stream.inactive hnone).2.1
            refine ⟨?_, ?_, Stream.no_frame hpublication.emptied, fun _ => ?_⟩
            · exact (publication_active hpublication).trans
                (Option.isSome_iff_ne_none.mpr hrunning)
            · intro frame hlatest
              rcases hpublication.latest frame hlatest with hnew | ⟨-, -, hnone, -⟩
              · exact absurd (hcoherent.stream.buffered (by simp [hnew])).2.1 hrequested
              · exact absurd hnone hrequested
            · refine ⟨Nat.le_of_eq hpublication.generation.symm, .inr (.inr (.inl ?_))⟩
              rw [show (_ : Stream).requested = _ from hpublication.requested]
              exact hrequested
          next => cases hacknowledged
    · cases hacknowledged

def Stops (t : Step World E) : Prop :=
  ∃ method request, t.op = .command method request ∧ isStop method = true

/-- The stream that was published as active is stopped or stops after its exposure. -/
def Stopping (service : Service World E) : Prop :=
  service.published.active = true ∧
    (service.owner.stream.params = none ∨ service.owner.stream.stopping = true)

theorem commanded_stopping {method : String} {request : Json} {stream stream' : Stream}
    (hcommanded : Owner.Commanded method request stream stream') (hrunning : stream.params ≠ none)
    (hstopping : stream'.params = none ∨ stream'.stopping = true) :
    isStop method = true ∨ stream.stopping = true := by
  cases hcommanded with
  | kept => exact .inr (hstopping.resolve_left hrunning)
  | queued next deliver interval hactive hsound hstill => exact .inr (hstopping.resolve_left hrunning)
  | withdrawn start params interval hmethod hchecked hparams hsame hstill =>
    exact .inr (hstopping.resolve_left hrunning)
  | started params deliver interval hinactive => exact absurd hinactive hrunning
  | stopping hactive hasked => exact .inl hasked
  | stopped deliver hasked => exact .inl (hasked.resolve_left hrunning)
  | stopFailed requested message details hactive hkept =>
    exact .inr (hstopping.resolve_left hrunning)
  | opened camera hinactive => exact absurd hinactive hrunning
  | downloaded delivered hsound => exact .inr (hstopping.resolve_left hrunning)

theorem ticked_stopping {owner after : Owner World} {result : Progress E Unit}
    (hticked : Owner.Ticked owner result after)
    (hstopping : after.stream.params = none ∨ after.stream.stopping = true) :
    owner.stream.params = none ∨ owner.stream.stopping = true := by
  cases hticked with
  | idle => exact hstopping
  | failed message details hactive hsound hmidway hstream =>
    rw [hstream] at hstopping
    exact hstopping.imp hmidway.params.symm.trans hmidway.stopping.symm.trans
  | acquired params hparams hsound hcompleted hacquired =>
    cases hacquired with
    | exposing hstream => rwa [hstream] at hstopping
    | ended rawAt hended hstream => exact .inr hended
    | applied rawAt next hrequested hstream =>
      rw [hstream] at hstopping
      exact .inr (hstopping.resolve_left (Option.some_ne_none _))
    | dropped rawAt hrequested hrunning htransitional hstream =>
      rw [hstream] at hstopping
      exact hstopping
    | offered rawAt framed receivedMs metadata pixels hrequested hrunning hstream =>
      rw [hstream] at hstopping
      simpa [Owner.retain] using hstopping
    | failed error => exact absurd rfl (hcompleted error)
    | panicked rawAt framed hrequested hrunning hstream =>
      rw [hstream] at hstopping
      simpa using hstopping

theorem stopping_stepped {service after : Service World E} {result : Result E}
    (hcoherent : service.Coherent) (hstepped : Stepped service op result after)
    (hstopping : Stopping after) : Stops ⟨service, op, result, after⟩ ∨ Stopping service := by
  obtain ⟨hactive, hstopping⟩ := hstopping
  cases hstepped with
  | refused op => exact .inr ⟨hactive, hstopping⟩
  | waited hreceiving => exact .inr ⟨hactive, hstopping⟩
  | commanded huncached hreceiving hperforms =>
    have hrunning := (hcoherent.synced (.inl hreceiving)).mp hactive
    rcases commanded_stopping hperforms.stream hrunning hstopping with hasked | hbefore
    · exact .inl ⟨_, _, rfl, hasked⟩
    · exact .inr ⟨hactive, .inr hbefore⟩
  | ticked hticking hticked => exact .inr ⟨hactive, ticked_stopping hticked hstopping⟩
  | published hpublication =>
    have hstatus := publication_active hpublication
    have hrunning : service.owner.stream.params ≠ none :=
      Option.isSome_iff_ne_none.mp (hstatus.symm.trans hactive)
    have hbefore : service.owner.stream.stopping = true := by
      rcases hstopping with hnone | hstopping
      · exact absurd (hpublication.params.symm.trans hnone) hrunning
      · exact hpublication.stopping.symm.trans hstopping
    cases hpublished : service.published.active with
    | true => exact .inr ⟨hpublished, .inr hbefore⟩
    | false =>
      rw [hcoherent.idle hpublished] at hbefore
      cases hbefore
  | called hcalled => exact .inr ⟨(called_active hcalled).symm.trans hactive, hstopping⟩

theorem stopping_since (backend : Backend World E) :
    Machine.Since (machine backend) Coherent Stopping Stops :=
  fun service op hcoherent hstopping =>
    stopping_stepped hcoherent (step_stepped backend service op) hstopping

theorem endsSession_stopping {service after : Service World E} {result : Result E}
    (hstepped : Stepped service op result after)
    (hends : EndsSession ⟨service, op, result, after⟩) : Stopping service := by
  obtain ⟨hactive, hended⟩ := hends
  have hsame : after.published = service.published → Stopping service := by
    intro hsame
    have hcontra : service.published.active = false := hsame ▸ hended
    rw [hactive] at hcontra
    cases hcontra
  cases hstepped with
  | refused op => exact hsame rfl
  | waited hreceiving => exact hsame rfl
  | commanded => exact hsame rfl
  | ticked => exact hsame rfl
  | published hpublication =>
    have hstatus := (publication_active hpublication).symm.trans hended
    exact ⟨hactive, .inl (by simpa using hstatus)⟩
  | called hcalled =>
    have hcontra := (called_active hcalled).symm.trans hended
    rw [hactive] at hcontra
    cases hcontra

/-! ## Delivery -/

structure DeliversInOrder (run : List (Step World E)) : Prop where
  /-- Within a session the sequence numbers of delivered frames increase. -/
  increasing : ∀ {before mid after : List (Step World E)} {t t' : Step World E} {frame frame' : Frame},
    run = before ++ t :: mid ++ t' :: after → delivered t = some frame → delivered t' = some frame' →
    (∀ step ∈ mid, ¬EndsSession step) → frame.acquisitionSequence < frame'.acquisitionSequence
  /-- A delivered frame was taken under the published settings. -/
  current : ∀ {t : Step World E} {frame : Frame}, t ∈ run → delivered t = some frame →
    ∃ status, t.before.published.status = some status ∧ status.active = true
      ∧ status.settingsGeneration = frame.settingsGeneration
  /-- Once an edit is acknowledged as pending, only frames of later settings are delivered, until
  the session ends or a client asks for the settings in force again. -/
  superseded : ∀ {before mid after : List (Step World E)} {t t' : Step World E} {generation : Nat}
      {frame : Frame},
    run = before ++ t :: mid ++ t' :: after → acknowledged t = some generation →
    delivered t' = some frame → (∀ step ∈ mid, ¬EndsSession step ∧ ¬Withdraws step) →
    generation < frame.settingsGeneration
  /-- After an error nothing is delivered until the session ends. -/
  sound : ∀ {before mid after : List (Step World E)} {t t' : Step World E} {frame : Frame},
    run = before ++ t :: mid ++ t' :: after → t.after.published.error ≠ none →
    delivered t' = some frame → ∃ step ∈ mid, EndsSession step
  /-- Two deliveries of a session are an interval apart. -/
  paced : ∀ {before mid after : List (Step World E)} {t t' : Step World E} {frame frame' : Frame},
    run = before ++ t :: mid ++ t' :: after → delivered t = some frame → delivered t' = some frame' →
    (∀ step ∈ mid, ¬EndsSession step) →
    ∃ instant instant', t.after.published.deliveredAt = some instant
      ∧ t'.after.published.deliveredAt = some instant'
      ∧ instant + t'.before.published.interval ≤ instant'
  /-- A session ends only after a client asked to stop. -/
  stopped : ∀ {before after : List (Step World E)} {t : Step World E},
    run = before ++ t :: after → EndsSession t → ∃ earlier ∈ before, Stops earlier

section

variable {backend : Backend World E}

theorem Persists.until {lapses : Prop} {Fact : Published → Stream → Prop}
    (hpersists : Persists World E lapses Fact) : Machine.Until (machine backend) Coherent
      (fun service => service.published.active = true ∧ Fact service.published service.owner.stream)
      (fun t => EndsSession t ∨ (lapses ∧ Withdraws t)) :=
  fun service op hcoherent hfact => hpersists.stepped hcoherent (step_stepped backend service op) hfact

variable {frame : Frame}

theorem delivered_session {service after : Service World E} {op : Op} {result : Result E}
    (hcoherent : service.Coherent) (hstepped : Stepped service op result after)
    (hdelivered : delivered ⟨service, op, result, after⟩ = some frame) :
    after.published.active = true
      ∧ Increasing frame.acquisitionSequence after.published after.owner.stream
      ∧ ∃ instant, after.published.deliveredAt = some instant := by
  obtain ⟨hlatest, -, asked, instant, -, -, -, hpublished, hstream⟩ :=
    delivered_taken hcoherent hstepped hdelivered
  obtain ⟨⟨status, hstatus, hactive, -⟩, hsequence⟩ := hcoherent.frame frame hlatest
  rw [hpublished, hstream]
  exact ⟨active_of_status hstatus hactive,
    ⟨(fun _ h => by cases h), fun next => hcoherent.newer frame next hlatest, hsequence⟩,
    instant, rfl⟩

theorem run_increasing {world : World} {ops : List Op} {before mid after : List (Step World E)}
    {t t' : Step World E} {frame' : Frame}
    (hrun : (machine backend).run (start world) ops = before ++ t :: mid ++ t' :: after)
    (hdelivered : delivered t = some frame) (hdelivered' : delivered t' = some frame')
    (hsession : ∀ step ∈ mid, ¬EndsSession step) :
    frame.acquisitionSequence < frame'.acquisitionSequence := by
  by_contra hnot
  have hreleased := (increasing_persists frame.acquisitionSequence).until.between
    (fun t => delivered t = some frame) (fun t => delivered t = some frame')
    (coherent_inductive backend world) ?_ ?_ hrun hdelivered hdelivered'
  · obtain ⟨step, hmem, hends | ⟨hfalse, -⟩⟩ := hreleased
    · exact hsession step hmem hends
    · exact hfalse
  · intro service op hcoherent hestablish
    obtain ⟨hactive, hincreasing, -⟩ :=
      delivered_session hcoherent (step_stepped backend service op) hestablish
    exact ⟨hactive, hincreasing⟩
  · rintro service op hcoherent ⟨-, hpublished, -⟩ hexcluded
    obtain ⟨hlatest, -⟩ := delivered_taken hcoherent (step_stepped backend service op) hexcluded
    exact hnot (hpublished frame' hlatest)

theorem run_superseded {world : World} {ops : List Op} {before mid after : List (Step World E)}
    {t t' : Step World E} {generation : Nat}
    (hrun : (machine backend).run (start world) ops = before ++ t :: mid ++ t' :: after)
    (hacknowledged : acknowledged t = some generation) (hdelivered : delivered t' = some frame)
    (hsession : ∀ step ∈ mid, ¬EndsSession step ∧ ¬Withdraws step) :
    generation < frame.settingsGeneration := by
  by_contra hnot
  have hreleased := (superseded_persists generation).until.between
    (fun t => acknowledged t = some generation) (fun t => delivered t = some frame)
    (coherent_inductive backend world) ?_ ?_ hrun hacknowledged hdelivered
  · obtain ⟨step, hmem, hends | ⟨-, hwithdraws⟩⟩ := hreleased
    · exact (hsession step hmem).1 hends
    · exact (hsession step hmem).2 hwithdraws
  · intro service op hcoherent hestablish
    exact acknowledged_pending hcoherent (step_stepped backend service op) hestablish
  · rintro service op hcoherent ⟨-, hpublished, -⟩ hexcluded
    obtain ⟨hlatest, -⟩ := delivered_taken hcoherent (step_stepped backend service op) hexcluded
    exact hnot (hpublished frame hlatest)

theorem run_sound {world : World} {ops : List Op} {before mid after : List (Step World E)}
    {t t' : Step World E}
    (hrun : (machine backend).run (start world) ops = before ++ t :: mid ++ t' :: after)
    (herror : t.after.published.error ≠ none) (hdelivered : delivered t' = some frame) :
    ∃ step ∈ mid, EndsSession step := by
  have hreleased := failed_persists.until.between
    (fun t => t.after.published.error ≠ none) (fun t => delivered t = some frame)
    (coherent_inductive backend world) ?_ ?_ hrun herror hdelivered
  · obtain ⟨step, hmem, hends | ⟨hfalse, -⟩⟩ := hreleased
    · exact ⟨step, hmem, hends⟩
    · exact hfalse.elim
  · intro service op hcoherent hestablish
    have hafter := hcoherent.stepped (step_stepped backend service op)
    exact ⟨(hafter.error hestablish).1, hestablish⟩
  · rintro service op hcoherent ⟨-, hfailed⟩ hexcluded
    obtain ⟨-, hsound, -⟩ := delivered_taken hcoherent (step_stepped backend service op) hexcluded
    exact hfailed hsound

theorem run_paced {world : World} {ops : List Op} {before mid after : List (Step World E)}
    {t t' : Step World E} {frame' : Frame}
    (hrun : (machine backend).run (start world) ops = before ++ t :: mid ++ t' :: after)
    (hdelivered : delivered t = some frame) (hdelivered' : delivered t' = some frame')
    (hsession : ∀ step ∈ mid, ¬EndsSession step) :
    ∃ instant instant', t.after.published.deliveredAt = some instant
      ∧ t'.after.published.deliveredAt = some instant'
      ∧ instant + t'.before.published.interval ≤ instant' := by
  have hinv := coherent_inductive backend world
  have hmem : t ∈ (machine backend).run (start world) ops := by simp [hrun]
  obtain ⟨hbefore, -, hstep⟩ := hinv.mem_run hmem
  rw [hstep] at hdelivered
  obtain ⟨hactive, -, instant, hinstant⟩ :=
    delivered_session hbefore (step_stepped backend _ _) hdelivered
  have hestablishes : t.after.published.active = true
      ∧ t.after.published.deliveredAt = some instant := by
    rw [hstep]
    exact ⟨hactive, hinstant⟩
  by_contra hnot
  have hreleased := (deliveredSince_persists instant).until.between
    (fun t => t.after.published.active = true ∧ t.after.published.deliveredAt = some instant)
    (fun t => delivered t = some frame' ∧ ¬∃ instant', t.after.published.deliveredAt = some instant'
      ∧ instant + t.before.published.interval ≤ instant')
    hinv ?_ ?_ hrun hestablishes ⟨hdelivered', ?_⟩
  · obtain ⟨step, hmem, hends | ⟨hfalse, -⟩⟩ := hreleased
    · exact hsession step hmem hends
    · exact hfalse
  · rintro service op hcoherent ⟨hactive, hinstant⟩
    exact ⟨hactive, instant, hinstant, Nat.le_refl _⟩
  · rintro service op hcoherent ⟨-, earlier, hearlier, hlate⟩ ⟨htaken, hearly⟩
    obtain ⟨-, -, asked, delivered, hasked, hordered, hpaced, hpublished, -⟩ :=
      delivered_taken hcoherent (step_stepped backend service op) htaken
    have hclock := hcoherent.delivered earlier hearlier
    have hinterval := hpaced earlier hearlier
    refine hearly ⟨delivered, ?_, ?_⟩
    · show ((machine backend).step service op).2.published.deliveredAt = some delivered
      rw [hpublished]
    · show instant + service.published.interval ≤ delivered
      omega
  · rintro ⟨instant', hinstant', hpaced⟩
    exact hnot ⟨instant, instant', hestablishes.2, hinstant', hpaced⟩

end

/-- Every run delivers its frames in order, under the published settings. -/
theorem run_deliversInOrder (backend : Backend World E) (world : World) (ops : List Op) :
    DeliversInOrder ((machine backend).run (start world) ops) := by
  have hinv := coherent_inductive backend world
  refine ⟨run_increasing, fun hmem hdelivered => ?_, run_superseded, run_sound, run_paced,
    fun {_ _ t} hrun hends => ?_⟩
  · obtain ⟨hbefore, -, hstep⟩ := hinv.mem_run hmem
    rw [hstep] at hdelivered
    obtain ⟨hlatest, -⟩ := delivered_taken hbefore (step_stepped backend _ _) hdelivered
    exact (hbefore.frame _ hlatest).1
  · have hidle : ¬Stopping (start world : Service World E) := fun h => by cases h.1
    refine (stopping_since backend).earlier hinv hidle hrun ?_
    have hmem : t ∈ (machine backend).run (start world) ops := by simp [hrun]
    obtain ⟨-, -, hstep⟩ := hinv.mem_run hmem
    rw [hstep] at hends
    exact endsSession_stopping (step_stepped backend _ _) hends

/-- A camera that is exposing at its first two polls, then always has a frame. -/
def exposingBackend : Backend Nat String where
  command method _ polls :=
    if method = "status" then (.ok (.ofNat (if polls < 2 then 1 else 2), []), polls + 1)
    else if method = "download" then (.ok (.object [], []), polls)
    else (.ok (.null, []), polls)
  elapse polls := (1000000, polls)
  unixMilliseconds polls := (0, polls)
  plain message := message
  message error := error
  errorFields _ := .null
  text _ := ""

def commandOps (method : String) (request : Json) : List Op :=
  [.command method request, .publish, .tick, .publish]

/-- A stream of 2 s exposures, and a request for 1 s exposures that is performed. -/
def editOps : List Op :=
  commandOps "open" .null ++ commandOps "stream-start" (Owner.videoRequest 2000000 1)
    ++ [.command "stream-start" (Owner.videoRequest 1000000 1)]

/-- The camera still exposes; a request for the settings in force; a frame arrives. -/
def withdrawOps : List Op :=
  [.tick, .publish] ++ commandOps "stream-start" (Owner.videoRequest 2000000 1)

/-- Nothing of the acknowledged settings is delivered until new settings have taken effect. -/
def SupersededUntilApplied (run : List (Step World E)) : Prop :=
  ∀ {before mid after : List (Step World E)} {t t' : Step World E} {generation : Nat}
    {frame : Frame},
    run = before ++ t :: mid ++ t' :: after → acknowledged t = some generation →
    delivered t' = some frame → (∀ step ∈ mid, ¬EndsSession step) →
    generation < frame.settingsGeneration

/-- After a pending edit is withdrawn, frames of the settings before it are delivered. -/
theorem withdrawn_edit_delivers :
    ¬SupersededUntilApplied ((machine exposingBackend).run (start 0)
      (editOps ++ .publish :: withdrawOps ++ [.call "stream-poll"])) := by
  intro hclaim
  let edited := (machine exposingBackend).final (start 0) editOps
  let pending := (machine exposingBackend).next edited .publish
  let withdrawn := (machine exposingBackend).final pending withdrawOps
  have hrun : (machine exposingBackend).run (start 0)
        (editOps ++ .publish :: withdrawOps ++ [.call "stream-poll"])
      = (machine exposingBackend).run (start 0) editOps
        ++ (machine exposingBackend).perform edited .publish
          :: (machine exposingBackend).run pending withdrawOps
        ++ (machine exposingBackend).perform withdrawn (.call "stream-poll") :: [] :=
    rfl
  have hacknowledged : acknowledged ((machine exposingBackend).perform edited .publish) = some 1 := by
    decide +kernel
  have hsession : ∀ step ∈ (machine exposingBackend).run pending withdrawOps, ¬EndsSession step := by
    unfold EndsSession
    decide +kernel
  have hgeneration : (delivered ((machine exposingBackend).perform withdrawn
      (.call "stream-poll"))).map (fun frame => frame.settingsGeneration) = some 1 := by
    decide +kernel
  obtain ⟨frame, hdelivered, hsame⟩ := Option.map_eq_some_iff.mp hgeneration
  have hlater := hclaim hrun hacknowledged hdelivered hsession
  omega

end Regain.Core.Continuous.Service
