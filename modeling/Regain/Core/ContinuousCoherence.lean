import Regain.Core.PublishedSteps

/-!
# Coherence of the stream and its published copy

The invariant that ties the owner's stream to the copy that the I/O thread answers
from, at every point of the owner's round and of the calls between.
-/

namespace Regain.Core.Continuous

open Lib

/-- A buffered frame belongs to a running stream with no edit pending. -/
structure Stream.WellFormed (stream : Stream) : Prop where
  inactive : stream.params = none →
    stream.failure = none ∧ stream.requested = none ∧ stream.stopping = false
  stopping : stream.stopping = true → stream.requested = none
  buffered : stream.latest ≠ none →
    stream.params ≠ none ∧ stream.requested = none ∧ stream.stopping = false
  frame : ∀ frame, stream.latest = some frame →
    frame.settingsGeneration = stream.generation ∧ frame.acquisitionSequence ≤ stream.acquired

namespace Stream

theorem WellFormed.of_empty {stream : Stream} (hlatest : stream.latest = none)
    (hinactive : stream.params = none →
      stream.failure = none ∧ stream.requested = none ∧ stream.stopping = false)
    (hstopping : stream.stopping = true → stream.requested = none) : stream.WellFormed where
  inactive := hinactive
  stopping := hstopping
  buffered := fun hsome => absurd hlatest hsome
  frame := fun _ hsome => by rw [hlatest] at hsome; cases hsome

theorem WellFormed.latest_none {stream : Stream} (hformed : stream.WellFormed)
    (hidle : stream.params = none ∨ stream.requested ≠ none ∨ stream.stopping = true) :
    stream.latest = none := by
  by_contra hsome
  obtain ⟨hactive, hrequested, hrunning⟩ := hformed.buffered hsome
  rcases hidle with hidle | hidle | hidle
  · exact hactive hidle
  · exact hidle hrequested
  · simp [hrunning] at hidle

theorem default_wellFormed : default.WellFormed :=
  .of_empty rfl (fun _ => ⟨rfl, rfl, rfl⟩) (fun _ => rfl)

theorem WellFormed.commanded {method : String} {params : Json} {stream stream' : Stream}
    (hformed : stream.WellFormed) (hcommanded : Owner.Commanded method params stream stream') :
    stream'.WellFormed := by
  have hactive : ∀ {α : Prop}, stream.params.isSome = true → stream.params = none → α := by
    intro α hsome hnone
    simp [hnone] at hsome
  cases hcommanded with
  | kept => exact hformed
  | queued next deliver interval hsome hsound hrunning =>
    refine .of_empty rfl (fun hnone => hactive hsome hnone) (fun hstopping => ?_)
    rw [hrunning] at hstopping
    cases hstopping
  | withdrawn start params interval hmethod hchecked hparams hsame hrunning =>
    refine ⟨fun hnone => ?_, fun _ => rfl, fun hlatest => ?_, fun frame hlatest => ?_⟩
    · exact ⟨(hformed.inactive hnone).1, rfl, hrunning⟩
    · simp only [Owner.reaffirm] at hlatest
      split at hlatest
      · exact absurd rfl hlatest
      · exact ⟨(hformed.buffered hlatest).1, rfl, hrunning⟩
    · simp only [Owner.reaffirm] at hlatest
      split at hlatest
      · cases hlatest
      · exact hformed.frame frame hlatest
  | started params deliver interval hinactive =>
    exact .of_empty rfl (fun hnone => by cases hnone) (fun _ => rfl)
  | stopping hsome hasked => exact .of_empty rfl (fun hnone => hactive hsome hnone) (fun _ => rfl)
  | stopped => exact .of_empty rfl (fun _ => ⟨rfl, rfl, rfl⟩) (fun _ => rfl)
  | stopFailed requested message details hsome hkept =>
    refine .of_empty rfl (fun hnone => hactive hsome hnone) (fun hstopping => ?_)
    rcases hkept with rfl | rfl
    · exact hformed.stopping hstopping
    · rfl
  | opened camera hinactive =>
    refine .of_empty (hformed.latest_none (.inl hinactive)) ?_ hformed.stopping
    exact hformed.inactive
  | downloaded delivered hsound => exact .of_empty rfl hformed.inactive hformed.stopping

theorem WellFormed.ticked {E World : Type} {owner after : Owner World} {result : Progress E Unit}
    (hformed : owner.stream.WellFormed) (hticked : Owner.Ticked owner result after) :
    after.stream.WellFormed := by
  cases hticked with
  | idle => exact hformed
  | failed message details hactive hsound hmidway hstream =>
    rw [hstream]
    refine .of_empty rfl (fun hnone => ?_) (fun hstopping => ?_)
    · have hnone' : owner.stream.params = none := hmidway.params.symm.trans hnone
      simp [hnone'] at hactive
    · rcases hmidway.requested with hsame | hnone
      · exact hsame.trans (hformed.stopping (hmidway.stopping.symm.trans hstopping))
      · exact hnone
  | acquired params hparams hsound hcompleted hacquired =>
    have hactive : owner.stream.params ≠ none := by simp [hparams]
    cases hacquired with
    | exposing hstream => exact hstream ▸ hformed
    | ended rawAt hstopping hstream =>
      rw [hstream]
      exact .of_empty (hformed.latest_none (.inr (.inr hstopping)))
        (fun _ => ⟨hsound, hformed.stopping hstopping, rfl⟩) (fun h => by cases h)
    | applied rawAt next hrequested hstream =>
      rw [hstream]
      exact .of_empty rfl (fun h => by cases h) (fun _ => rfl)
    | dropped rawAt hrequested hstopping htransitional hstream =>
      rw [hstream]
      exact { hformed with inactive := fun hnone => absurd hnone hactive }
    | offered rawAt framed receivedMs metadata pixels hrequested hstopping hstream =>
      rw [hstream]
      refine ⟨fun hnone => ?_, fun _ => ?_, fun _ => ?_, fun frame hlatest => ?_⟩
      · exact absurd (by simpa [Owner.retain] using hnone) hactive
      · simpa [Owner.retain] using hrequested
      · simpa [Owner.retain] using ⟨hactive, hrequested, hstopping⟩
      · cases hlatest
        exact ⟨rfl, Nat.le_refl _⟩
    | failed error => exact absurd rfl (hcompleted error)
    | panicked rawAt framed hrequested hstopping hstream =>
      rw [hstream]
      refine ⟨fun hnone => ?_, fun _ => ?_, fun _ => ?_, fun frame hlatest => ?_⟩
      · exact absurd (by simpa using hnone) hactive
      · simpa using hrequested
      · simpa using ⟨hactive, hrequested, hstopping⟩
      · have hframe := hformed.frame frame (by simpa using hlatest)
        exact ⟨by simpa using hframe.1, Nat.le_succ_of_le hframe.2⟩

/-- The pending edit is withdrawn: the request asks for the settings in force. -/
def Withdrawn (method : String) (request : Json) (stream : Stream) : Prop :=
  method = "stream-start" ∧ stream.requested ≠ none ∧
    ∃ start params, Owner.startRequest stream.camera request = .ok start
      ∧ stream.params = some params ∧ (params == start.params) = true

/-- What a command or a round keeps of an active stream, unless a pending edit is withdrawn. -/
structure Moves (withdrawn : Prop) (stream stream' : Stream) : Prop where
  /-- A buffered frame is old, or it is the next one under the settings in force. -/
  latest : ∀ frame, stream'.latest = some frame → stream.latest = some frame ∨
    (stream.acquired < frame.acquisitionSequence
      ∧ frame.settingsGeneration = stream.generation
      ∧ stream.requested = none ∧ stream.stopping = false ∧ stream.failure = none)
  acquired : stream.params ≠ none → stream.acquired ≤ stream'.acquired
  failure : stream.failure ≠ none → stream'.failure ≠ none ∨ stream'.params = none
  generation : stream.params ≠ none → stream.generation ≤ stream'.generation
  pending : stream.params ≠ none → stream.requested ≠ none ∨ stream.stopping = true →
    withdrawn ∨ stream'.params = none ∨ stream'.failure ≠ none
      ∨ stream.generation < stream'.generation
      ∨ stream'.requested ≠ none ∨ stream'.stopping = true
  /-- An inactive stream is not stopping either. -/
  inactive : stream.params = none → stream'.stopping = false

theorem no_frame {stream : Stream} {p : Frame → Prop} (hempty : stream.latest = none) :
    ∀ frame, stream.latest = some frame → p frame := by
  intro frame hlatest
  rw [hempty] at hlatest
  cases hlatest

theorem Moves.of_commanded {method : String} {params : Json} {stream stream' : Stream}
    (hformed : stream.WellFormed) (hcommanded : Owner.Commanded method params stream stream') :
    Moves (Withdrawn method params stream) stream stream' := by
  have hidle : stream.params = none → stream.stopping = false := fun hnone =>
    (hformed.inactive hnone).2.2
  cases hcommanded with
  | kept =>
    exact ⟨fun _ h => .inl h, fun _ => Nat.le_refl _, .inl, fun _ => Nat.le_refl _,
      fun _ h => .inr (.inr (.inr (.inr h))), hidle⟩
  | queued next deliver interval hactive hsound hrunning =>
    exact ⟨no_frame rfl, fun _ => Nat.le_refl _, .inl, fun _ => Nat.le_refl _,
      fun _ _ => .inr (.inr (.inr (.inr (.inl (Option.some_ne_none _))))), hidle⟩
  | withdrawn start current interval hmethod hchecked hparams hsame hrunning =>
    refine ⟨fun frame hlatest => .inl ?_, fun _ => Nat.le_refl _, .inl, fun _ => Nat.le_refl _,
      fun _ hpending => .inl ?_, hidle⟩
    · simp only [Owner.reaffirm] at hlatest
      split at hlatest
      · cases hlatest
      · exact hlatest
    · rcases hpending with hrequested | hstopping
      · exact ⟨hmethod, hrequested, start, current, hchecked, hparams, hsame⟩
      · rw [hrunning] at hstopping
        cases hstopping
  | started next deliver interval hinactive =>
    exact ⟨no_frame rfl, fun h => absurd hinactive h, fun h => absurd (hformed.inactive hinactive).1 h,
      fun h => absurd hinactive h, fun h => absurd hinactive h, fun _ => rfl⟩
  | stopping hactive hasked =>
    exact ⟨no_frame rfl, fun _ => Nat.le_refl _, .inl, fun _ => Nat.le_refl _,
      fun _ _ => .inr (.inr (.inr (.inr (.inr rfl)))),
      fun hnone => absurd hnone (Option.isSome_iff_ne_none.mp hactive)⟩
  | stopped deliver hasked =>
    exact ⟨no_frame rfl, fun _ => Nat.le_refl _, fun _ => .inr rfl, fun _ => Nat.le_refl _,
      fun _ _ => .inr (.inl rfl), fun _ => rfl⟩
  | stopFailed requested message details hactive hkept =>
    exact ⟨no_frame rfl, fun _ => Nat.le_refl _, fun _ => .inl (Option.some_ne_none _),
      fun _ => Nat.le_refl _, fun _ _ => .inr (.inr (.inl (Option.some_ne_none _))), hidle⟩
  | opened camera hinactive =>
    exact ⟨fun _ h => .inl h, fun _ => Nat.le_refl _, .inl, fun h => absurd hinactive h,
      fun h => absurd hinactive h, hidle⟩
  | downloaded delivered hsound =>
    exact ⟨no_frame rfl, fun _ => Nat.le_refl _, .inl, fun _ => Nat.le_refl _,
      fun _ h => .inr (.inr (.inr (.inr h))), hidle⟩

theorem Moves.of_ticked {E World : Type} {owner after : Owner World} {result : Progress E Unit}
    (hformed : owner.stream.WellFormed) (hticked : Owner.Ticked owner result after) :
    Moves False owner.stream after.stream := by
  have hkept : ∀ {stream' : Stream}, stream'.generation = owner.stream.generation →
      owner.stream.generation ≤ stream'.generation := fun h => Nat.le_of_eq h.symm
  cases hticked with
  | idle =>
    exact ⟨fun _ h => .inl h, fun _ => Nat.le_refl _, .inl, fun _ => Nat.le_refl _,
      fun _ h => .inr (.inr (.inr (.inr h))), fun hnone => (hformed.inactive hnone).2.2⟩
  | failed message details hactive hsound hmidway hstream =>
    rw [hstream]
    exact ⟨no_frame rfl, fun _ => hmidway.acquired, fun h => absurd hsound h,
      fun _ => hkept hmidway.generation, fun _ _ => .inr (.inr (.inl (Option.some_ne_none _))),
      fun hnone => absurd hnone (Option.isSome_iff_ne_none.mp hactive)⟩
  | acquired params hparams hsound hcompleted hacquired =>
    have hfault : owner.stream.failure ≠ none →
        after.stream.failure ≠ none ∨ after.stream.params = none := fun h => absurd hsound h
    have hrunning : ∀ {stream' : Stream}, owner.stream.params = none → stream'.stopping = false :=
      fun hnone => by simp [hparams] at hnone
    have hdone : ∀ {stream' : Stream}, owner.stream.requested = none →
        owner.stream.stopping = false →
        (owner.stream.requested ≠ none ∨ owner.stream.stopping = true) →
        False ∨ stream'.params = none ∨ stream'.failure ≠ none
          ∨ owner.stream.generation < stream'.generation
          ∨ stream'.requested ≠ none ∨ stream'.stopping = true := by
      intro stream' hrequested hstopping hpending
      rcases hpending with h | h
      · exact absurd hrequested h
      · rw [hstopping] at h
        cases h
    cases hacquired with
    | exposing hstream =>
      rw [hstream]
      exact ⟨fun _ h => .inl h, fun _ => Nat.le_refl _, .inl, fun _ => Nat.le_refl _,
        fun _ h => .inr (.inr (.inr (.inr h))), hrunning⟩
    | ended rawAt hstopping hstream =>
      rw [hstream] at hfault ⊢
      exact ⟨no_frame (hformed.latest_none (.inr (.inr hstopping))), fun _ => Nat.le_refl _,
        hfault, fun _ => Nat.le_refl _, fun _ _ => .inr (.inl rfl), hrunning⟩
    | applied rawAt next hrequested hstream =>
      rw [hstream] at hfault ⊢
      exact ⟨no_frame rfl, fun _ => Nat.le_refl _, hfault, fun _ => Nat.le_succ _,
        fun _ _ => .inr (.inr (.inr (.inl (Nat.lt_succ_self _)))), hrunning⟩
    | dropped rawAt hrequested hstopping htransitional hstream =>
      rw [hstream] at hfault ⊢
      exact ⟨fun _ h => .inl h, fun _ => Nat.le_refl _, hfault, fun _ => Nat.le_refl _,
        fun _ => hdone hrequested hstopping, hrunning⟩
    | offered rawAt framed receivedMs metadata pixels hrequested hstopping hstream =>
      rw [hstream] at hfault ⊢
      refine ⟨fun frame hlatest => ?_, fun _ => Nat.le_succ _, hfault, fun _ => ?_,
        fun _ => hdone hrequested hstopping, hrunning⟩
      · cases hlatest
        exact .inr ⟨Nat.lt_succ_self _, Owner.counted_generation _ rawAt framed _, hrequested,
          hstopping, hsound⟩
      · exact hkept (Owner.counted_generation _ rawAt framed _)
    | failed error => exact absurd rfl (hcompleted error)
    | panicked rawAt framed hrequested hstopping hstream =>
      rw [hstream] at hfault ⊢
      refine ⟨fun frame hlatest => .inl ?_, fun _ => Nat.le_succ _, hfault, fun _ => ?_,
        fun _ => hdone hrequested hstopping, hrunning⟩
      · rw [Owner.counted_latest] at hlatest
        exact hlatest
      · exact hkept (Owner.counted_generation _ _ _ _)

end Stream

namespace Service

variable {World E : Type}

/-- What the owner's stream and its published copy have in common, wherever the owner is. -/
structure Coherent (service : Service World E) : Prop where
  stream : service.owner.stream.WellFormed
  synced : service.phase = .receiving ∨ service.phase = .ticking →
    (service.published.active = true ↔ service.owner.stream.params ≠ none)
  /-- A published frame belongs to the published settings. -/
  frame : ∀ frame, service.published.latest = some frame →
    (∃ status, service.published.status = some status ∧ status.active = true
      ∧ status.settingsGeneration = frame.settingsGeneration)
    ∧ (service.owner.stream.params ≠ none →
      frame.acquisitionSequence ≤ service.owner.stream.acquired)
  newer : ∀ frame next, service.published.latest = some frame →
    service.owner.stream.latest = some next → frame.acquisitionSequence < next.acquisitionSequence
  error : service.published.error ≠ none → service.published.active = true
    ∧ (service.published.ownerUnresponsive = true ∨ service.owner.stream.failure ≠ none
      ∨ service.owner.stream.params = none)
  delivered : ∀ delivered, service.published.deliveredAt = some delivered →
    delivered ≤ service.owner.clock
  idle : service.published.active = false → service.owner.stream.stopping = false
  /-- A reply that waits shows the stream as it is; it carries no frame. -/
  reply : ∀ answer, service.phase = .replying (.ok answer) →
    ∃ method, isCached method = false ∧ Owner.Shows method service.owner.stream answer

theorem active_of_status {published : Published} {status : StreamStatus}
    (hstatus : published.status = some status) (hactive : status.active = true) :
    published.active = true := by
  simp [Published.active, hstatus, hactive]

theorem start_coherent (world : World) : (start world : Service World E).Coherent where
  stream := Stream.default_wellFormed
  synced := fun _ => by simp [start, Published.active, Published.default, Stream.default]
  frame := fun _ h => by cases h
  newer := fun _ _ h => by cases h
  error := fun h => absurd rfl h
  delivered := fun _ h => by cases h
  idle := fun _ => rfl
  reply := fun _ h => by cases h

theorem Coherent.moved {service : Service World E} {withdrawn : Prop} {owner : Owner World}
    {phase : Phase E} (hcoherent : service.Coherent)
    (hidle : service.phase = .receiving ∨ service.phase = .ticking)
    (hbusy : phase ≠ .receiving ∧ phase ≠ .ticking) (hformed : owner.stream.WellFormed)
    (hmoves : Stream.Moves withdrawn service.owner.stream owner.stream)
    (hclock : service.owner.clock ≤ owner.clock)
    (hreply : ∀ answer, phase = .replying (.ok answer) →
      ∃ method, isCached method = false ∧ Owner.Shows method owner.stream answer) :
    ({ service with owner := owner, phase := phase } : Service World E).Coherent := by
  have hactive : ∀ frame, service.published.latest = some frame →
      service.owner.stream.params ≠ none := by
    intro frame hlatest
    obtain ⟨⟨status, hstatus, hstatusActive, -⟩, -⟩ := hcoherent.frame frame hlatest
    exact (hcoherent.synced hidle).mp (active_of_status hstatus hstatusActive)
  refine ⟨hformed, fun h => ?_, fun frame hlatest => ?_, fun frame next hlatest hnext => ?_,
    fun herror => ?_, fun delivered hdelivered => ?_, fun hinactive => ?_, hreply⟩
  · rcases h with h | h
    · exact absurd h hbusy.1
    · exact absurd h hbusy.2
  · obtain ⟨hpublished, hsequence⟩ := hcoherent.frame frame hlatest
    refine ⟨hpublished, fun _ => ?_⟩
    exact Nat.le_trans (hsequence (hactive frame hlatest)) (hmoves.acquired (hactive frame hlatest))
  · have hsequence := (hcoherent.frame frame hlatest).2 (hactive frame hlatest)
    rcases hmoves.latest next hnext with hold | ⟨hnew, -⟩
    · exact hcoherent.newer frame next hlatest hold
    · omega
  · obtain ⟨hpublished, hreason⟩ := hcoherent.error herror
    refine ⟨hpublished, ?_⟩
    rcases hreason with hlate | hfailure | hnone
    · exact .inl hlate
    · exact .inr (hmoves.failure hfailure)
    · exact absurd hnone ((hcoherent.synced hidle).mp hpublished)
  · exact Nat.le_trans (hcoherent.delivered delivered hdelivered) hclock
  · refine hmoves.inactive ?_
    by_contra hrunning
    rw [(hcoherent.synced hidle).mpr hrunning] at hinactive
    cases hinactive

theorem Coherent.publication {service : Service World E} {phase : Phase E} {stream : Stream}
    {published : Published} {clock : Nat} {world : World} (hcoherent : service.Coherent)
    (hpublication : service.published.Publication service.owner.stream stream published)
    (hclock : service.owner.clock ≤ clock) (hphase : phase = .receiving ∨ phase = .ticking) :
    ({ owner := { stream := stream, clock := clock, world := world }
       published := published
       phase := phase } : Service World E).Coherent := by
  obtain ⟨reading, hstatus⟩ := hpublication.status
  have hactive : published.active = stream.params.isSome := by
    simp [Published.active, hstatus, Stream.status]
  have hformed : stream.WellFormed := by
    refine .of_empty hpublication.emptied (fun hnone => ?_) (fun hstopping => ?_)
    · have hnone' := hpublication.params.symm.trans hnone
      obtain ⟨hsound, hrequested, hrunning⟩ := hcoherent.stream.inactive hnone'
      exact ⟨(hpublication.inactive hnone').trans hsound, hpublication.requested.trans hrequested,
        hpublication.stopping.trans hrunning⟩
    · exact hpublication.requested.trans
        (hcoherent.stream.stopping (hpublication.stopping.symm.trans hstopping))
  refine ⟨hformed, fun _ => ?_, fun frame hlatest => ?_, fun frame next _ hnext => ?_,
    fun herror => ?_, fun delivered hdelivered => ?_, fun hinactive => ?_, fun answer hreply => ?_⟩
  · show published.active = true ↔ stream.params ≠ none
    rw [hactive]
    exact Option.isSome_iff_ne_none
  · have hframe : service.owner.stream.params ≠ none
        ∧ frame.settingsGeneration = service.owner.stream.generation
        ∧ frame.acquisitionSequence ≤ service.owner.stream.acquired := by
      rcases hpublication.latest frame hlatest with hnew | ⟨hold, hrunning, -, status, hsame, hcurrent⟩
      · exact ⟨(hcoherent.stream.buffered (by simp [hnew])).1, hcoherent.stream.frame frame hnew⟩
      · obtain ⟨⟨status', hstatus', -, hgeneration⟩, hsequence⟩ := hcoherent.frame frame hold
        obtain rfl : status = status' := Option.some.inj (hsame.symm.trans hstatus')
        exact ⟨hrunning, hgeneration.symm.trans hcurrent, hsequence hrunning⟩
    obtain ⟨hrunning, hgeneration, hsequence⟩ := hframe
    refine ⟨⟨_, hstatus, ?_, ?_⟩, fun _ => ?_⟩
    · exact Option.isSome_iff_ne_none.mpr (by rwa [hpublication.params])
    · exact hpublication.generation.trans hgeneration.symm
    · exact Nat.le_trans hsequence (Nat.le_of_eq hpublication.acquired.symm)
  · rw [show stream.latest = none from hpublication.emptied] at hnext
    cases hnext
  · show published.active = true ∧ (published.ownerUnresponsive = true ∨ _)
    rw [hactive, hpublication.unresponsive, hpublication.params]
    cases hlate : service.owner.stream.params.isSome && service.published.ownerUnresponsive with
    | true => exact ⟨(Bool.and_eq_true_iff.mp hlate).1, .inl rfl⟩
    | false =>
      have hfailure : stream.failure ≠ none := by
        intro hsound
        apply herror
        show published.error = none
        simp [Published.error, hpublication.unresponsive, hlate, hstatus, Stream.status, hsound]
      refine ⟨?_, .inr (.inl hfailure)⟩
      rw [← hpublication.params, Option.isSome_iff_ne_none]
      exact fun hnone => hfailure (hformed.inactive hnone).1
  · rw [show published.deliveredAt = _ from hpublication.deliveredAt] at hdelivered
    split at hdelivered
    · exact Nat.le_trans (hcoherent.delivered delivered hdelivered) hclock
    · cases hdelivered
  · rw [show published.active = _ from hactive] at hinactive
    exact (hformed.inactive (by simpa using hinactive)).2.2
  · rcases hphase with rfl | rfl <;> cases hreply

theorem Coherent.called {service : Service World E} {answer : Except String Answer}
    {published : Published} {asked delivered clock : Nat} {world : World}
    (hcoherent : service.Coherent)
    (hcalled : service.published.Called asked delivered answer published)
    (hordered : service.owner.clock ≤ asked ∧ asked ≤ delivered ∧ delivered ≤ clock) :
    ({ service with
       owner := { service.owner with clock := clock, world := world }
       published := published } : Service World E).Coherent := by
  have hclock : service.owner.clock ≤ clock := by omega
  have hlater : ∀ earlier, service.published.deliveredAt = some earlier → earlier ≤ clock :=
    fun earlier hearlier => Nat.le_trans (hcoherent.delivered earlier hearlier) hclock
  cases hcalled with
  | told answer hquiet =>
    exact { hcoherent with delivered := hlater }
  | latched answer hquiet hactive =>
    exact ⟨hcoherent.stream, hcoherent.synced, (fun _ h => by cases h), (fun _ _ h => by cases h),
      fun _ => ⟨hactive, .inl rfl⟩, hlater, hcoherent.idle, hcoherent.reply⟩
  | taken frame status hlatest hsound hpaced =>
    refine ⟨hcoherent.stream, hcoherent.synced, (fun _ h => by cases h), (fun _ _ h => by cases h),
      hcoherent.error, fun earlier hearlier => ?_, hcoherent.idle, hcoherent.reply⟩
    cases hearlier
    exact hordered.2.2

theorem Coherent.stepped {service after : Service World E} {op : Op} {result : Result E}
    (hcoherent : service.Coherent) (hstepped : Stepped service op result after) :
    after.Coherent := by
  cases hstepped with
  | refused op => exact hcoherent
  | commanded huncached hreceiving hperforms hreplies hbusy =>
    refine hcoherent.moved (.inl hreceiving) hbusy (hcoherent.stream.commanded hperforms.stream)
      (.of_commanded hcoherent.stream hperforms.stream) hperforms.clock fun answer hreply => ?_
    exact ⟨_, huncached, hperforms.told answer (hreplies answer hreply)⟩
  | waited hreceiving =>
    exact ⟨hcoherent.stream, fun _ => hcoherent.synced (.inl hreceiving), hcoherent.frame,
      hcoherent.newer, hcoherent.error, hcoherent.delivered, hcoherent.idle, fun _ h => by cases h⟩
  | ticked hticking hticked hnext =>
    refine hcoherent.moved (.inr hticking) ?_ (hcoherent.stream.ticked hticked)
      (.of_ticked hcoherent.stream hticked) hticked.clock fun answer hreply => ?_
    · rcases hnext with rfl | rfl <;> exact ⟨by rintro ⟨⟩, by rintro ⟨⟩⟩
    · rcases hnext with rfl | rfl <;> cases hreply
  | published hpublication hclock hnext =>
    refine hcoherent.publication hpublication hclock ?_
    rcases hnext with ⟨_, _, _, h⟩ | ⟨_, _, h⟩
    · exact .inr h
    · exact .inl h
  | called hcalled hordered => exact hcoherent.called hcalled hordered

theorem coherent_inductive (backend : Backend World E) (world : World) :
    (machine backend).Inductive (start world) Coherent :=
  ⟨start_coherent world, fun op hcoherent => hcoherent.stepped (step_stepped backend _ op)⟩

end Service

end Regain.Core.Continuous
