import Regain.Core.Published

/-!
# Steps of the acquisition owner

What one command and one round of the owner can do to the stream, said once.
-/

namespace Regain.Core.Continuous

open Lib
open Routine (continues_done meets_attempt meets_bind meets_ensure)

variable {World E : Type} (backend : Backend World E)

namespace Owner

variable {owner : Owner World}

theorem meets_send {method : String} {params : Json}
    {post : Progress E (Json × List UInt8) → Owner World → Prop}
    (hok : ∀ frame world, post (.done frame) { owner with world := world })
    (herror : ∀ error world, post (.failed error) { owner with world := world }) :
    (send backend method params).Meets owner post := by
  unfold Routine.Meets send
  dsimp only
  cases (backend.command method params owner.world).1 with
  | ok frame => exact hok frame _
  | error error => exact herror error _

theorem meets_now {post : Progress E Nat → Owner World → Prop}
    (hpost : ∀ reading world, owner.clock ≤ reading →
      post (.done reading) { owner with clock := reading, world := world }) :
    (now backend).Meets owner post :=
  hpost _ _ (Nat.le_add_right _ _)

theorem meets_unixMilliseconds {post : Progress E Nat → Owner World → Prop}
    (hpost : ∀ reading world, post (.done reading) { owner with world := world }) :
    (unixMilliseconds backend).Meets owner post :=
  hpost _ _

@[simp] theorem meets_read {post : Progress E Stream → Owner World → Prop} :
    (read : OwnerRoutine World E Stream).Meets owner post ↔ post (.done owner.stream) owner :=
  Iff.rfl

@[simp] theorem meets_update {f : Stream → Stream} {post : Progress E Unit → Owner World → Prop} :
    (update f : OwnerRoutine World E Unit).Meets owner post
      ↔ post (.done ()) { owner with stream := f owner.stream } :=
  Iff.rfl

/-- The stream in the middle of a failed round: its counters may have moved on. -/
structure Midway (stream stream' : Stream) : Prop where
  params : stream'.params = stream.params
  generation : stream'.generation = stream.generation
  acquired : stream.acquired ≤ stream'.acquired
  stopping : stream'.stopping = stream.stopping
  requested : stream'.requested = stream.requested ∨ stream'.requested = none

/-- The stream after a frame of the current settings was counted, before it is retained. -/
def counted (stream : Stream) (rawAt framed : Nat) (transitional : Bool) : Stream :=
  { countTransition (noteRaw stream rawAt) transitional with
    acquired := stream.acquired + 1
    lastFrameAt := some framed }

section

variable (stream : Stream) (rawAt framed : Nat) (transitional : Bool)

@[simp] theorem counted_params : (counted stream rawAt framed transitional).params = stream.params := by
  cases transitional <;> rfl

@[simp] theorem counted_requested :
    (counted stream rawAt framed transitional).requested = stream.requested := by
  cases transitional <;> rfl

@[simp] theorem counted_stopping :
    (counted stream rawAt framed transitional).stopping = stream.stopping := by
  cases transitional <;> rfl

@[simp] theorem counted_failure :
    (counted stream rawAt framed transitional).failure = stream.failure := by
  cases transitional <;> rfl

@[simp] theorem counted_latest : (counted stream rawAt framed transitional).latest = stream.latest := by
  cases transitional <;> rfl

@[simp] theorem counted_generation :
    (counted stream rawAt framed transitional).generation = stream.generation := by
  cases transitional <;> rfl

end

/-- What polling the camera of a stream with these settings does to the stream. -/
inductive Acquired (params : Json) (before : Owner World) : Progress E Unit → Owner World → Prop
  /-- The camera is still exposing. -/
  | exposing {after : Owner World} (stream : after.stream = before.stream)
      (clock : before.clock ≤ after.clock) : Acquired params before (.done ()) after
  /-- The last frame of a stopping stream. -/
  | ended {after : Owner World} (rawAt : Nat) (stopping : before.stream.stopping = true)
      (stream : after.stream
        = { noteRaw before.stream rawAt with params := none, stopping := false })
      (clock : before.clock ≤ after.clock) : Acquired params before (.done ()) after
  /-- The requested settings took effect. -/
  | applied {after : Owner World} (rawAt : Nat) (next : Json)
      (requested : before.stream.requested = some next)
      (stream : after.stream
        = Owner.applied { noteRaw before.stream rawAt with requested := none } next
          (isLive before.stream.camera params next) (after.clock + settlingTime params next))
      (clock : before.clock ≤ after.clock) : Acquired params before (.done ()) after
  /-- A transitional frame that is not delivered. -/
  | dropped {after : Owner World} (rawAt : Nat)
      (requested : before.stream.requested = none) (stopping : before.stream.stopping = false)
      (transitional : isTransitional before.stream rawAt = true)
      (stream : after.stream = countTransition (noteRaw before.stream rawAt) true)
      (raw : before.clock ≤ rawAt) (clock : rawAt ≤ after.clock) :
      Acquired params before (.done ()) after
  | offered {after : Owner World} (rawAt framed receivedMs : Nat)
      (metadata : Json.Fields) (pixels : List UInt8)
      (requested : before.stream.requested = none) (stopping : before.stream.stopping = false)
      (stream : let transitional := isTransitional before.stream rawAt
        after.stream = retain (counted before.stream rawAt framed transitional)
          (stamp (counted before.stream rawAt framed transitional) params metadata pixels
            receivedMs !transitional))
      (raw : before.clock ≤ rawAt) (clock : rawAt ≤ after.clock) :
      Acquired params before (.done ()) after
  | failed {after : Owner World} (error : E) (stream : Midway before.stream after.stream)
      (clock : before.clock ≤ after.clock) : Acquired params before (.failed error) after
  /-- The metadata of the frame take no further fields. -/
  | panicked {after : Owner World} (rawAt framed : Nat)
      (requested : before.stream.requested = none) (stopping : before.stream.stopping = false)
      (stream : after.stream
        = counted before.stream rawAt framed (isTransitional before.stream rawAt))
      (raw : before.clock ≤ rawAt) (clock : rawAt ≤ after.clock) :
      Acquired params before .pending after

theorem countTransition_midway (stream : Stream) (transitional : Bool) :
    Midway stream (countTransition stream transitional)
      ∧ (countTransition stream transitional).acquired = stream.acquired := by
  cases transitional <;> exact ⟨⟨rfl, rfl, Nat.le_refl _, rfl, .inl rfl⟩, rfl⟩

theorem applyRequested_meets {params next : Json} {rawAt : Nat} {before owner : Owner World}
    (hstream : owner.stream = noteRaw before.stream rawAt)
    (hrequested : before.stream.requested = some next) (hclock : before.clock ≤ owner.clock) :
    (applyRequested backend params next).Meets owner (Acquired params before) := by
  have hmidway : Midway before.stream { noteRaw before.stream rawAt with requested := none } :=
    ⟨rfl, rfl, Nat.le_refl _, rfl, .inr rfl⟩
  -- the restart of the camera with the new settings
  have hstart : ∀ world, Routine.Meets (do
        let _ ← send backend "start" next
        let configured ← now backend
        update fun stream => Owner.applied stream next (isLive before.stream.camera params next)
          (configured + settlingTime params next) : OwnerRoutine World E Unit)
      { stream := { noteRaw before.stream rawAt with requested := none }
        clock := owner.clock
        world := world } (Acquired params before) := by
    intro world
    refine meets_bind.mpr (meets_send backend ?_ ?_)
    · intro frame world
      refine meets_bind.mpr (meets_now backend fun reading world hreading => ?_)
      exact .applied rawAt next hrequested rfl (Nat.le_trans hclock hreading)
    · intro error world
      exact .failed error hmidway hclock
  unfold applyRequested
  simp only [meets_bind, meets_update, continues_done, meets_read, hstream]
  split
  · refine meets_bind.mpr (meets_send backend ?_ ?_)
    · exact fun _ world => hstart world
    · exact fun error _ => .failed error hmidway hclock
  · exact hstart owner.world

theorem offer_meets {params : Json} {frame : Json × List UInt8} {receivedMs rawAt : Nat}
    {before owner : Owner World} (hstream : owner.stream = noteRaw before.stream rawAt)
    (hrequested : before.stream.requested = none) (hstopping : before.stream.stopping = false)
    (hraw : before.clock ≤ rawAt) (hclock : rawAt ≤ owner.clock) :
    (offer backend params frame receivedMs rawAt).Meets owner (Acquired params before) := by
  have hlater : before.clock ≤ owner.clock := Nat.le_trans hraw hclock
  unfold offer
  simp only [meets_bind, meets_update, continues_done, meets_read, hstream]
  generalize htransitional : isTransitional (noteRaw before.stream rawAt) rawAt = transitional
  have hcount := countTransition_midway (noteRaw before.stream rawAt) transitional
  split
  next hdropped =>
    have hon : transitional = true := by
      cases transitional
      · cases hdropped
      · rfl
    subst hon
    refine meets_bind.mpr (meets_send backend ?_ ?_)
    · intro answer world
      exact .dropped rawAt hrequested hstopping htransitional rfl hraw hclock
    · intro error world
      exact .failed error { hcount.1 with } hlater
  next =>
    refine meets_bind.mpr (meets_now backend fun framed world hframed => ?_)
    simp only [continues_done, meets_bind, meets_update, hcount.2]
    have hsame : isTransitional before.stream rawAt = transitional := htransitional
    have hdone : rawAt ≤ framed := Nat.le_trans hclock hframed
    cases hmetadata : frame.1.assignable with
    | none =>
      refine .panicked rawAt framed hrequested hstopping ?_ hraw hdone
      rw [hsame]
      rfl
    | some metadata =>
      simp only [meets_bind, meets_update, continues_done]
      refine meets_send backend (fun answer world => ?_) (fun error world => ?_)
      · refine .offered rawAt framed receivedMs metadata frame.2 hrequested hstopping ?_ hraw hdone
        rw [hsame]
        rfl
      · exact .failed error { hcount.1 with acquired := Nat.le_succ _ } (Nat.le_trans hraw hdone)

theorem drain_meets {params : Json} {before owner : Owner World}
    (hstream : owner.stream = before.stream) (hclock : before.clock ≤ owner.clock) :
    (drain backend params).Meets owner (Acquired params before) := by
  have hraw : ∀ rawAt, Midway before.stream (noteRaw before.stream rawAt) := fun _ =>
    ⟨rfl, rfl, Nat.le_refl _, rfl, .inl rfl⟩
  unfold drain
  refine meets_bind.mpr (meets_send backend ?_ ?_)
  · intro frame world
    refine meets_bind.mpr (meets_now backend fun rawAt world hreading => ?_)
    refine meets_bind.mpr (meets_unixMilliseconds backend fun receivedMs world => ?_)
    have hlater : before.clock ≤ rawAt := Nat.le_trans hclock hreading
    simp only [meets_bind, meets_update, continues_done, meets_read, hstream]
    cases hstopping : before.stream.stopping with
    | true =>
      rw [if_pos (show (noteRaw before.stream rawAt).stopping = true from hstopping)]
      refine meets_bind.mpr (meets_send backend ?_ ?_)
      · exact fun _ _ => .ended rawAt hstopping rfl hlater
      · exact fun error _ => .failed error (hraw rawAt) hlater
    | false =>
      rw [if_neg (show ¬(noteRaw before.stream rawAt).stopping = true by simp [noteRaw, hstopping])]
      cases hrequested : before.stream.requested with
      | none =>
        rw [show (noteRaw before.stream rawAt).requested = none from hrequested]
        exact offer_meets backend rfl hrequested hstopping hlater (Nat.le_refl _)
      | some next =>
        rw [show (noteRaw before.stream rawAt).requested = some next from hrequested]
        exact applyRequested_meets backend rfl hrequested hlater
  · exact fun error _ => .failed error (hstream ▸ ⟨rfl, rfl, Nat.le_refl _, rfl, .inl rfl⟩) hclock

theorem acquire_meets {params : Json} {before : Owner World} :
    (acquire backend params).Meets before (Acquired params before) := by
  have hkept : Midway before.stream before.stream := ⟨rfl, rfl, Nat.le_refl _, rfl, .inl rfl⟩
  unfold acquire
  refine meets_bind.mpr (meets_send backend ?_ ?_)
  · rintro ⟨state, pixels⟩ world
    rw [continues_done]
    dsimp only
    split
    · exact .exposing rfl (Nat.le_refl _)
    · exact drain_meets backend rfl (Nat.le_refl _)
    · exact .failed _ hkept (Nat.le_refl _)
  · exact fun error _ => .failed error hkept (Nat.le_refl _)

inductive Ticked (before : Owner World) : Progress E Unit → Owner World → Prop
  /-- The stream is inactive or faulted. -/
  | idle (idle : before.stream.params = none ∨ before.stream.failure.isSome = true) :
      Ticked before (.done ()) before
  | acquired {after : Owner World} {result : Progress E Unit} (params : Json)
      (active : before.stream.params = some params) (sound : before.stream.failure = none)
      (completed : ∀ error, result ≠ .failed error)
      (acquired : Acquired params before result after) : Ticked before result after
  /-- The failure is latched; a frame is not kept. -/
  | failed {after : Owner World} {stream : Stream} (message : String) (details : Json)
      (active : before.stream.params.isSome = true) (sound : before.stream.failure = none)
      (midway : Midway before.stream stream)
      (stream : after.stream
        = { stream with failureDetails := details, latest := none, failure := some message })
      (clock : before.clock ≤ after.clock) : Ticked before (.done ()) after

theorem tick_meets {before : Owner World} : (tick backend).Meets before (Ticked before) := by
  unfold tick
  simp only [meets_bind, meets_read, continues_done]
  cases hfailure : before.stream.failure with
  | some failure => exact .idle (.inr (by rw [hfailure]; rfl))
  | none =>
    cases hparams : before.stream.params with
    | none => exact .idle (.inl hparams)
    | some params =>
      simp only [Option.isSome_none, Bool.false_eq_true, if_false, meets_bind, meets_attempt]
      refine (acquire_meets backend).mono fun result after hacquired => ?_
      cases result with
      | done value => exact .acquired params hparams hfailure (by rintro _ ⟨⟩) hacquired
      | pending => exact .acquired params hparams hfailure (by rintro _ ⟨⟩) hacquired
      | failed error =>
        cases hacquired with
        | failed _ hmidway hclock =>
          exact .failed _ _ (by rw [hparams]; rfl) hfailure hmidway rfl hclock

theorem Ticked.clock {before after : Owner World} {result : Progress E Unit}
    (hticked : Ticked before result after) : before.clock ≤ after.clock := by
  cases hticked with
  | idle => exact Nat.le_refl _
  | failed message details hactive hsound hmidway hstream hclock => exact hclock
  | acquired params hparams hsound hcompleted hacquired =>
    cases hacquired with
    | exposing hstream hclock => exact hclock
    | ended rawAt hstopping hstream hclock => exact hclock
    | applied rawAt next hrequested hstream hclock => exact hclock
    | failed error hmidway hclock => exact hclock
    | dropped rawAt hrequested hstopping htransitional hstream hraw hclock =>
      exact Nat.le_trans hraw hclock
    | offered rawAt framed receivedMs metadata pixels hrequested hstopping hstream hraw hclock =>
      exact Nat.le_trans hraw hclock
    | panicked rawAt framed hrequested hstopping hstream hraw hclock =>
      exact Nat.le_trans hraw hclock

inductive Commanded (method : String) (request : Json) (before : Stream) : Stream → Prop
  | kept : Commanded method request before before
  | queued (next : Json) (deliver : Bool) (interval : Nat) (active : before.params.isSome = true)
      (sound : before.failure = none) (running : before.stopping = false) :
      Commanded method request before
        { before with
          deliverTransitions := deliver
          requested := some next
          latest := none
          interval := interval }
  /-- The request asks for the settings in force. -/
  | withdrawn (start : StartRequest) (params : Json) (interval : Nat)
      (started : method = "stream-start")
      (checked : startRequest before.camera request = .ok start)
      (active : before.params = some params) (same : (params == start.params) = true)
      (running : before.stopping = false) :
      Commanded method request before
        { reaffirm before start.deliverTransitions with interval := interval }
  | started (params : Json) (deliver : Bool) (interval : Nat) (inactive : before.params = none) :
      Commanded method request before
        { ({ before with deliverTransitions := deliver }.stopped).started params with
          interval := interval }
  /-- The stream stops after the exposure in flight. -/
  | stopping (active : before.params.isSome = true) (asked : Service.isStop method = true) :
      Commanded method request before
        { before with requested := none, stopping := true, latest := none }
  | stopped (deliver : Bool) (asked : before.params = none ∨ Service.isStop method = true) :
      Commanded method request before { before with deliverTransitions := deliver }.stopped
  | stopFailed (requested : Option Json) (message : String) (details : Json)
      (active : before.params.isSome = true)
      (kept : requested = before.requested ∨ requested = none) :
      Commanded method request before
        { before with
          requested := requested
          failureDetails := details
          latest := none
          failure := some message }
  | opened (camera : Json) (inactive : before.params = none) :
      Commanded method request before
        { before with deliveredAt := none, generation := 0, camera := camera }
  | downloaded (delivered : Nat) (sound : before.failure = none) :
      Commanded method request before
        { before with
          latest := none
          delivered := before.delivered + 1
          deliveredAt := some delivered }

/-- What an answer to a command shows: the status of the stream, and a frame only on a request that
the I/O thread answers itself in the service. -/
def Shows (method : String) (stream : Stream) : Answer → Prop
  | .status status => ∃ reading, status = stream.status reading
  | .frame _ _ => Service.isCached method = true
  | .continuous _ => True
  | .backend _ _ => True

structure Performs (method : String) (request : Json) (before : Owner World)
    (result : Progress E Answer) (after : Owner World) : Prop where
  clock : before.clock ≤ after.clock
  stream : Commanded method request before.stream after.stream
  told : ∀ answer, result = .done answer → Shows method after.stream answer

section

variable {method : String} {request : Json} {before : Owner World}

variable {owner : Owner World}

theorem statusAnswer_meets (hclock : before.clock ≤ owner.clock)
    (hstream : Commanded method request before.stream owner.stream) :
    (statusAnswer backend).Meets owner (Performs method request before) := by
  unfold statusAnswer
  simp only [meets_bind, meets_read, continues_done]
  refine meets_now backend fun reading world hreading => ?_
  refine ⟨Nat.le_trans hclock hreading, hstream, ?_⟩
  rintro answer ⟨⟩
  exact ⟨reading, rfl⟩

theorem performs_failed (error : E) (hclock : before.clock ≤ owner.clock)
    (hstream : Commanded method request before.stream owner.stream) :
    Performs method request before (.failed error) owner :=
  ⟨hclock, hstream, fun _ h => by cases h⟩

theorem stop_meets {post : Progress E Unit → Owner World → Prop} (hstopped : ∀ world,
      post (.done ()) { owner with stream := owner.stream.stopped, world := world })
    (hfailed : ∀ error message details world, owner.stream.params.isSome = true →
      post (.failed error) { owner with
        stream := { owner.stream with
          failureDetails := details
          latest := none
          failure := some message }
        world := world }) :
    (stop backend).Meets owner post := by
  unfold stop
  simp only [meets_bind, meets_read, continues_done]
  split
  next hactive =>
    refine meets_bind.mpr (meets_attempt.mpr (meets_send backend ?_ ?_))
    · exact fun _ world => hstopped world
    · exact fun error world => hfailed error _ _ world hactive
  next => exact hstopped owner.world

theorem streamStop_meets (hasked : Service.isStop method = true) :
    (streamStop backend).Meets before (Performs method request before) := by
  unfold streamStop
  simp only [meets_bind, meets_update, meets_read, continues_done]
  split
  next hstill =>
    have hactive : before.stream.params.isSome = true := by
      cases hparams : before.stream.params with
      | none => simp [hparams] at hstill
      | some params => rfl
    simp only [meets_bind, meets_update, continues_done]
    exact statusAnswer_meets backend (Nat.le_refl _) (.stopping hactive hasked)
  next =>
    refine meets_bind.mpr (stop_meets backend (fun world => ?_) ?_)
    · exact statusAnswer_meets backend (Nat.le_refl _)
        (.stopped before.stream.deliverTransitions (.inr hasked))
    · intro error message details world hactive
      exact performs_failed error (Nat.le_refl _)
        (.stopFailed none message details hactive (.inr rfl))

theorem streamDownload_meets (hcached : Service.isCached method = true)
    (hclock : before.clock ≤ owner.clock) (hstream : owner.stream = before.stream) :
    (streamDownload backend).Meets owner (Performs method request before) := by
  unfold streamDownload
  simp only [meets_bind, meets_read, continues_done, hstream]
  have hkept : Commanded method request before.stream before.stream := .kept
  cases hfailure : before.stream.failure with
  | some failure => exact performs_failed _ hclock (hstream ▸ hkept)
  | none =>
    refine meets_bind.mpr (meets_now backend fun asked world hasked => ?_)
    rw [continues_done]
    have hlater : before.clock ≤ asked := Nat.le_trans hclock hasked
    split
    · simp only [meets_bind, meets_update, continues_done, hstream]
      refine meets_now backend fun delivered world hdelivered => ?_
      simp only [meets_bind, meets_update, meets_read, continues_done]
      refine meets_now backend fun reading world hreading => ?_
      refine ⟨?_, .downloaded delivered hfailure, fun _ h => by cases h; exact hcached⟩
      exact Nat.le_trans hlater (Nat.le_trans hdelivered hreading)
    · exact performs_failed _ hlater (hstream ▸ hkept)

theorem streamPoll_meets (hcached : Service.isCached method = true) :
    (streamPoll backend).Meets before (Performs method request before) := by
  unfold streamPoll
  simp only [meets_bind, meets_read, continues_done]
  refine meets_now backend fun asked world hasked => ?_
  rw [continues_done]
  split
  · exact streamDownload_meets backend hcached hasked rfl
  · refine meets_bind.mpr (meets_now backend fun reading world hreading => ?_)
    exact ⟨Nat.le_trans hasked hreading, .kept, fun _ h => by cases h; trivial⟩

/-- What new settings do, before the delivery interval is set. -/
inductive Configured (start : StartRequest) (before : Owner World) :
    Progress E Unit → Owner World → Prop
  | refused (error : E) (world : World) :
      Configured start before (.failed error) { before with world := world }
  | queued (world : World) (active : before.stream.params.isSome = true) :
      Configured start before (.done ())
        { before with
          stream := { before.stream with
            deliverTransitions := start.deliverTransitions
            requested := some start.params
            latest := none }
          world := world }
  | started (world : World) (inactive : before.stream.params = none) :
      Configured start before (.done ())
        { before with
          stream := { before.stream with
            deliverTransitions := start.deliverTransitions }.stopped.started start.params
          world := world }
  /-- The start of the camera failed. -/
  | cleared (error : E) (world : World) (inactive : before.stream.params = none) :
      Configured start before (.failed error)
        { before with
          stream := { before.stream with
            deliverTransitions := start.deliverTransitions }.stopped
          world := world }

theorem configure_meets {start : StartRequest} :
    (configure backend start).Meets before (Configured start before) := by
  unfold configure
  refine meets_bind.mpr (meets_send backend ?_ ?_)
  · intro answer world
    simp only [meets_bind, meets_update, meets_read, continues_done]
    split
    next hactive => exact .queued world hactive
    next hinactive =>
      refine meets_bind.mpr (stop_meets backend (fun world => ?_) ?_)
      · refine meets_bind.mpr (meets_send backend (fun answer world => ?_) ?_)
        · exact .started world (Option.not_isSome_iff_eq_none.mp hinactive)
        · exact fun error world =>
            .cleared error world (Option.not_isSome_iff_eq_none.mp hinactive)
      · exact fun error message details world hactive => absurd hactive hinactive
  · exact fun error world => .refused error world

theorem streamStart_meets (hmethod : method = "stream-start") :
    (streamStart backend request).Meets before (Performs method request before) := by
  unfold streamStart require
  simp only [meets_bind, meets_read, continues_done, meets_ensure]
  have hkept : ∀ error : E, Performs method request before (.failed error) before := fun error =>
    performs_failed error (Nat.le_refl _) .kept
  cases hstopping : before.stream.stopping with
  | true => exact hkept _
  | false =>
    simp only [Bool.not_false, if_true]
    cases hchecked : startRequest before.stream.camera request with
    | error message => exact hkept _
    | ok start =>
      simp only [Except.mapError, meets_bind, Routine.meets_ofExcept_ok,
        continues_done, meets_ensure]
      cases hfailure : before.stream.failure with
      | some failure => exact hkept _
      | none =>
        simp only [Option.isNone_none, if_true]
        split
        next hsame =>
          obtain ⟨params, hparams, hsame⟩ := Option.any_eq_true _ _ |>.mp hsame
          simp only [meets_bind, meets_update, continues_done]
          exact statusAnswer_meets backend (Nat.le_refl _)
            (.withdrawn start params _ hmethod hchecked hparams hsame hstopping)
        next =>
          refine Routine.Meets.bind (configure_meets backend) fun result after hresult => ?_
          cases hresult with
          | refused error world => exact performs_failed error (Nat.le_refl _) .kept
          | queued world hactive =>
            simp only [meets_bind, meets_update, continues_done]
            exact statusAnswer_meets backend (Nat.le_refl _)
              (.queued start.params start.deliverTransitions _ hactive hfailure hstopping)
          | started world hinactive =>
            simp only [meets_bind, meets_update, continues_done]
            exact statusAnswer_meets backend (Nat.le_refl _)
              (.started start.params start.deliverTransitions _ hinactive)
          | cleared error world hinactive =>
            exact performs_failed error (Nat.le_refl _)
              (.stopped start.deliverTransitions (.inl hinactive))

theorem passCommand_meets {params : Json} :
    (passCommand backend method params).Meets before (Performs method request before) := by
  unfold passCommand require
  simp only [meets_bind, meets_read, continues_done, meets_ensure]
  split
  next hinactive =>
    have hparams : before.stream.params = none := Option.isNone_iff_eq_none.mp hinactive
    refine meets_send backend ?_ ?_
    · rintro ⟨value, pixels⟩ world
      rw [continues_done]
      dsimp only
      split
      · simp only [meets_bind, meets_update, continues_done]
        cases hfields : value.assignable with
        | none =>
          exact ⟨Nat.le_refl _, .opened before.stream.camera hparams, fun _ h => by cases h⟩
        | some fields =>
          exact ⟨Nat.le_refl _, .opened _ hparams, fun _ h => by cases h; trivial⟩
      · exact ⟨Nat.le_refl _, .kept, fun _ h => by cases h; trivial⟩
    · exact fun error world => performs_failed error (Nat.le_refl _) .kept
  next => exact performs_failed _ (Nat.le_refl _) .kept

theorem command_meets :
    (command backend method request).Meets before (Performs method request before) := by
  unfold command
  split
  next hmethod => exact streamStart_meets backend hmethod
  split
  · exact statusAnswer_meets backend (Nat.le_refl _) .kept
  split
  next hmethod => exact streamPoll_meets backend (by simp [Service.isCached, hmethod])
  split
  next hmethod =>
    exact streamDownload_meets backend (by simp [Service.isCached, hmethod]) (Nat.le_refl _) rfl
  split
  next hmethod => exact streamStop_meets backend (by simp [Service.isStop, hmethod])
  simp only [meets_bind, meets_read, continues_done]
  split
  next hstop =>
    refine meets_bind.mpr (stop_meets backend (fun world => ?_) ?_)
    · have hstopped : Commanded method request before.stream before.stream.stopped := by
        refine .stopped before.stream.deliverTransitions (.inr ?_)
        simp only [Bool.and_eq_true] at hstop
        simp only [Service.isStop, Bool.or_eq_true] at hstop ⊢
        exact .inr hstop.1
      rw [continues_done]
      split
      · refine meets_bind.mpr (meets_send backend ?_ ?_)
        · exact fun _ _ => ⟨Nat.le_refl _, hstopped, fun _ h => by cases h; trivial⟩
        · exact fun error _ => performs_failed error (Nat.le_refl _) hstopped
      · exact ⟨Nat.le_refl _, hstopped, fun _ h => by cases h; trivial⟩
    · intro error message details world hactive
      exact performs_failed error (Nat.le_refl _)
        (.stopFailed before.stream.requested message details hactive (.inl rfl))
  next => exact passCommand_meets backend

end

end Owner

end Regain.Core.Continuous
