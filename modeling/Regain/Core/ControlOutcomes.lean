import Regain.Core.ControlWrite
import Regain.Core.WorkerFraming

/-!
# Outcomes of control writes

What a control write may report, on a session whose worker is reached through its pipes. The world
answers everything the owner asks from fixed sequences.
-/

namespace Regain.Core

open Lib
open Regain.Core.Cooling (CoolingError)
open Routine (continues_done meets_attempt meets_bind meets_ensure meets_modify meets_pure)
open Owner (admitCooling admitSetting applyOrder applySetting callWorker controlResult mayClamp
  read rememberCooling setRequest takeWorker update withdraw writeControl writeError)

/-! ## Calls of the worker -/

structure Pipes where
  clock : Nat → Nat
  cancelled : Nat → Bool
  callers : Nat → List Caller
  wires : Nat → Wire
  /-- The number of answers that the world has given. -/
  position : Nat
  /-- The calls that were made, in order. -/
  calls : List (Call × Called)
  /-- The workers that were killed, in order. -/
  killed : List Worker

def Pipes.advance (world : Pipes) : Pipes :=
  { world with position := world.position + 1 }

def Wire.under (wire : Wire) : Token → Wire
  | .caller => wire
  | .exchange =>
    { wire with
      cancelled := false
      halt := if wire.halt = .cancelled then .timedOut else wire.halt }

def Request.overWire (request : Request) (wire : Wire) : Call where
  method := request.method
  params := request.params
  deadline := request.deadline
  maximumBytes := request.maximumBytes
  wire := wire.under request.token

def pipes (codec : Codec) : Host Pipes Worker where
  now world := (world.clock world.position, world.advance)
  cancelled world := (world.cancelled world.position, world.advance)
  callers world := (world.callers world.position, world.advance)
  call worker request world :=
    let call := request.overWire (world.wires world.position)
    let (called, worker) := callUntil codec worker call
    ((called.outcome, worker),
      { world.advance with calls := world.calls ++ [(call, called)] })
  kill worker world := { world.advance with killed := world.killed ++ [kill worker] }

abbrev PipesOwner : Type :=
  Owner Pipes Worker

/-! ## Requests on a wire -/

variable (codec : Codec)

/-- A request that was made over some wire, and what the worker behind it did. -/
structure Sent (request : Request) (sent : Call × Called) : Prop where
  carried : ∃ wire, sent.1 = request.overWire wire
  performed : ∃ worker, (callUntil codec worker sent.1).1 = sent.2

def progressOf : Except Error Reply → Progress Error Reply
  | .ok reply => .done reply
  | .error error => .failed error

/-- A call changes nothing of the session but its worker. -/
structure OnlyWorker (owner owner' : PipesOwner) : Prop where
  session : owner'.session = { owner.session with worker := owner'.session.worker }
  settings : owner'.settings = owner.settings

theorem OnlyWorker.refl (owner : PipesOwner) : OnlyWorker owner owner :=
  ⟨rfl, rfl⟩

variable {owner owner' mid : PipesOwner} {allowSdkOffsetClamp : Bool}

theorem OnlyWorker.trans (hfirst : OnlyWorker owner mid) (hsecond : OnlyWorker mid owner') :
    OnlyWorker owner owner' := by
  refine ⟨?_, hsecond.settings.trans hfirst.settings⟩
  have hsession := hsecond.session
  rw [hfirst.session] at hsession
  exact hsession

/-- What a call of the worker did to the owner and its world. -/
structure CallRun (request : Request) (owner : PipesOwner) (result : Progress Error Reply)
    (owner' : PipesOwner) : Prop where
  only : OnlyWorker owner owner'
  answered : (owner'.world.calls = owner.world.calls
      ∧ result = .failed (.other "Camera worker is disconnected"))
    ∨ ∃ sent, Sent codec request sent ∧ owner'.world.calls = owner.world.calls ++ [sent]
        ∧ result = progressOf sent.2.outcome

theorem callWorker_meets (request : Request) (owner : PipesOwner) :
    (callWorker (pipes codec) request).Meets owner (CallRun codec request owner) := by
  unfold Routine.Meets callWorker
  cases hworker : owner.session.worker with
  | none => exact ⟨OnlyWorker.refl owner, .inl ⟨rfl, rfl⟩⟩
  | some worker =>
    have hsent : Sent codec request (request.overWire (owner.world.wires owner.world.position),
        (callUntil codec worker (request.overWire (owner.world.wires owner.world.position))).1) :=
      ⟨⟨_, rfl⟩, ⟨worker, rfl⟩⟩
    dsimp only [pipes]
    cases houtcome : (callUntil codec worker
        (request.overWire (owner.world.wires owner.world.position))).1.outcome with
    | ok reply => exact ⟨⟨rfl, rfl⟩, .inr ⟨_, hsent, rfl, by rw [houtcome]; rfl⟩⟩
    | error error => exact ⟨⟨rfl, rfl⟩, .inr ⟨_, hsent, rfl, by rw [houtcome]; rfl⟩⟩

theorem Sent.spec {codec : Codec} {request : Request} {sent : Call × Called}
    (hsent : Sent codec request sent) :
    ∃ worker worker', CallSpec codec worker sent.1 sent.2 worker' := by
  obtain ⟨worker, hcalled⟩ := hsent.performed
  have hspec := callUntil_spec codec worker sent.1
  rw [hcalled] at hspec
  exact ⟨worker, _, hspec⟩

theorem Sent.unsent {codec : Codec} {kind value : Int} {deadline : Nat} {sent : Call × Called}
    (hsent : Sent codec (setRequest kind value deadline) sent) {error : Error}
    (herror : sent.2.outcome = .error error) (hcertain : error.isUncertainControl = false) :
    sent.2.written = [] := by
  obtain ⟨worker, worker', hspec⟩ := hsent.spec
  obtain ⟨wire, hcall⟩ := hsent.carried
  have hcontrol : isControl sent.1.method sent.1.params = true := by
    rw [hcall]
    rfl
  exact hspec.unsent hcontrol herror hcertain

@[simp] theorem meets_now {post : Progress Error Nat → PipesOwner → Prop} :
    (Owner.now (pipes codec)).Meets owner post
      ↔ post (.done (owner.world.clock owner.world.position))
        { owner with world := owner.world.advance } :=
  Iff.rfl

@[simp] theorem meets_read {World W : Type} {owner : Owner World W}
    {post : Progress Error (Session W) → Owner World W → Prop} :
    (read : OwnerRoutine World W (Session W)).Meets owner post ↔ post (.done owner.session) owner :=
  Iff.rfl

def InTime (deadline : Nat) (owner : PipesOwner) : Prop :=
  ∃ reading, owner.world.position = reading + 1 ∧ owner.world.clock reading < deadline

structure Confirms (kind value : Int) (deadline : Nat) (allowSdkOffsetClamp : Bool)
    (session : Session Worker) (sent : Call × Called) (observation : ControlObservation) :
    Prop where
  request : Sent codec (Owner.readbackRequest kind deadline) sent
  replied : ∃ reply started, sent.2.outcome = .ok reply
    ∧ Owner.readbackObservation kind reply.1 started = .ok observation
  value : observation.value = value
    ∨ mayClamp session kind observation.value allowSdkOffsetClamp = true

/-! ## Writes -/

structure ReadbackRun (kind value : Int) (deadline : Nat) (allowSdkOffsetClamp : Bool)
    (owner : PipesOwner) (result : Progress Error ControlObservation) (owner' : PipesOwner) :
    Prop where
  only : OnlyWorker owner owner'
  ended : result ≠ .pending
  confirmed : ∀ observation, result = .done observation → InTime deadline owner'
    ∧ ∃ sent, owner'.world.calls = owner.world.calls ++ [sent]
      ∧ Confirms codec kind value deadline allowSdkOffsetClamp owner.session sent observation

theorem ReadbackRun.failed {kind value : Int} {deadline : Nat} {error : Error}
    (honly : OnlyWorker owner owner') :
    ReadbackRun codec kind value deadline allowSdkOffsetClamp owner (.failed error) owner' :=
  ⟨honly, by simp, by simp⟩

theorem mayClamp_onlyWorker (honly : OnlyWorker owner owner') (kind actual : Int)
    (allowSdkOffsetClamp : Bool) : mayClamp owner'.session kind actual allowSdkOffsetClamp
      = mayClamp owner.session kind actual allowSdkOffsetClamp := by
  rw [honly.session]
  rfl

theorem readback_meets (kind value : Int) (deadline : Nat) (allowSdkOffsetClamp : Bool)
    (owner : PipesOwner) :
    (Owner.readback (pipes codec) kind value deadline allowSdkOffsetClamp).Meets owner
      (ReadbackRun codec kind value deadline allowSdkOffsetClamp owner) := by
  unfold Owner.readback
  simp only [meets_bind, meets_now, continues_done, meets_ensure]
  split
  · refine (callWorker_meets codec _ _).mono fun result owner' hcall => ?_
    have honly : OnlyWorker owner owner' := ⟨hcall.only.session, hcall.only.settings⟩
    rcases hcall.answered with ⟨-, rfl⟩ | ⟨sent, hsent, hcalls, rfl⟩
    · exact ReadbackRun.failed codec honly
    · cases houtcome : sent.2.outcome with
      | error error => exact ReadbackRun.failed codec honly
      | ok reply =>
        simp only [progressOf, continues_done, meets_bind]
        cases hobserved : Owner.readbackObservation kind reply.1
            (owner.world.advance.clock owner.world.advance.position) with
        | error error => exact ReadbackRun.failed codec honly
        | ok observation =>
          simp only [Routine.meets_ofExcept_ok, continues_done, meets_bind,
            meets_read, meets_ensure, meets_now, meets_pure]
          split
          · rename_i hvalue
            split
            · rename_i hfinished
              refine ⟨honly.trans ⟨rfl, rfl⟩, by simp, fun found hfound => ?_⟩
              cases hfound
              rw [mayClamp_onlyWorker honly, Bool.or_eq_true, decide_eq_true_eq] at hvalue
              exact ⟨⟨_, rfl, of_decide_eq_true hfinished⟩, sent, hcalls, hsent,
                ⟨reply, _, houtcome, hobserved⟩, hvalue⟩
            · exact ReadbackRun.failed codec (honly.trans ⟨rfl, rfl⟩)
          · exact ReadbackRun.failed codec honly
  · exact ReadbackRun.failed codec ⟨rfl, rfl⟩

/-- What the outcome of a write says about the calls that it made. -/
structure WriteRun (kind value : Int) (deadline : Nat) (allowSdkOffsetClamp : Bool)
    (owner : PipesOwner) (outcome : Except CoolingError ControlObservation)
    (owner' : PipesOwner) : Prop where
  only : OnlyWorker owner owner'
  acknowledged : ∀ observation, outcome = .ok observation → InTime deadline owner'
    ∧ ∃ set reply readback, owner'.world.calls = owner.world.calls ++ [set, readback]
      ∧ Sent codec (setRequest kind value deadline) set ∧ set.2.outcome = .ok reply
      ∧ Confirms codec kind value deadline allowSdkOffsetClamp owner.session readback observation
  unsent : ∀ error, outcome = .error error → error = .expired ∨ error = .cancelled →
    ∃ calls, owner'.world.calls = owner.world.calls ++ calls ∧ ∀ sent ∈ calls, sent.2.written = []
  otherwise : ∀ error, outcome = .error error →
    error = .expired ∨ error = .cancelled ∨ ∃ message code, error = .uncertain message code

theorem writeError_cases (setAcknowledged : Bool) (error : Error) :
    writeError setAcknowledged error = .expired ∨ writeError setAcknowledged error = .cancelled
      ∨ ∃ message code, writeError setAcknowledged error = .uncertain message code := by
  unfold writeError
  split
  · exact .inl rfl
  · split
    · exact .inr (.inl rfl)
    · exact .inr (.inr ⟨_, _, rfl⟩)

theorem writeError_unsent {error : Error} (hwrite : writeError false error = .expired
      ∨ writeError false error = .cancelled) : error.isUncertainControl = false := by
  unfold writeError at hwrite
  cases error with
  | cooling error => rfl
  | other message => rfl
  | failure failure =>
    cases failure with
    | uncertainControl message code =>
      simp [Error.isExpired, Error.asCooling, Error.asFailure] at hwrite
    | invalid message => rfl
    | cancelled => rfl
    | worker message code => rfl

theorem writeControl_meets (kind value : Int) (deadline : Nat) (allowSdkOffsetClamp : Bool)
    (owner : PipesOwner) :
    (writeControl (pipes codec) kind value deadline allowSdkOffsetClamp).Meets owner
      fun result owner' => ∃ outcome, result = .done outcome
        ∧ WriteRun codec kind value deadline allowSdkOffsetClamp owner outcome owner' := by
  unfold writeControl
  rw [meets_bind, meets_attempt]
  refine (callWorker_meets codec _ owner).mono fun result acked hset => ?_
  have hrefused : ∀ error, result = .failed error →
      WriteRun codec kind value deadline allowSdkOffsetClamp owner
        (.error (writeError false error)) acked := by
    rintro error rfl
    refine ⟨hset.only, by simp, ?_, ?_⟩
    · intro found hfound hunsent
      cases hfound
      have hcertain := writeError_unsent hunsent
      rcases hset.answered with ⟨hcalls, -⟩ | ⟨set, hsent, hcalls, hfailed⟩
      · exact ⟨[], by simp [hcalls], by simp⟩
      · refine ⟨[set], hcalls, ?_⟩
        cases houtcome : set.2.outcome with
        | ok reply => simp [houtcome, progressOf] at hfailed
        | error error' =>
          rw [houtcome] at hfailed
          cases hfailed
          simpa using hsent.unsent houtcome hcertain
    · intro found hfound
      cases hfound
      exact writeError_cases false error
  cases result with
  | pending =>
    rcases hset.answered with ⟨-, hpending⟩ | ⟨set, -, -, hpending⟩
    · cases hpending
    · cases houtcome : set.2.outcome <;> simp [houtcome, progressOf] at hpending
  | failed error => exact ⟨_, rfl, hrefused error rfl⟩
  | done reply =>
    simp only [Routine.Attempted, continues_done, meets_bind, meets_attempt]
    refine (readback_meets codec kind value deadline allowSdkOffsetClamp acked).mono
      fun result owner' hread => ?_
    have honly := hset.only.trans hread.only
    cases result with
    | pending => exact absurd rfl hread.ended
    | failed error =>
      refine ⟨.error (writeError true error), rfl, honly, by simp, ?_, ?_⟩
      · intro found hfound hunsent
        cases hfound
        simp [writeError] at hunsent
      · intro found hfound
        cases hfound
        exact writeError_cases true error
    | done observation =>
      show ∃ outcome, Progress.done (.ok observation) = .done outcome
        ∧ WriteRun codec kind value deadline allowSdkOffsetClamp owner outcome owner'
      refine ⟨_, rfl, honly, ?_, by simp, by simp⟩
      intro found hfound
      cases hfound
      obtain ⟨htime, readback, hcalls, hconfirms⟩ := hread.confirmed observation rfl
      rcases hset.answered with ⟨-, hdone⟩ | ⟨set, hsent, hset', hdone⟩
      · cases hdone
      · cases houtcome : set.2.outcome with
        | error error => simp [houtcome, progressOf] at hdone
        | ok reply' =>
          refine ⟨htime, set, reply', readback, ?_, hsent, houtcome, ?_⟩
          · rw [hcalls, hset', List.append_assoc]
            rfl
          · exact ⟨hconfirms.request, hconfirms.replied, by
              rw [← mayClamp_onlyWorker hset.only]
              exact hconfirms.value⟩

/-! ## Other callers -/

/-- Nothing was asked of the worker and nothing was recorded. -/
structure Undisturbed (owner owner' : PipesOwner) : Prop where
  worker : owner'.session.worker = owner.session.worker
  applied : owner'.session.applied = owner.session.applied
  observations : owner'.session.status.observations = owner.session.status.observations
  calls : owner'.world.calls = owner.world.calls
  killed : owner'.world.killed = owner.world.killed

theorem Undisturbed.refl (owner : PipesOwner) : Undisturbed owner owner :=
  ⟨rfl, rfl, rfl, rfl, rfl⟩

theorem Undisturbed.trans (hfirst : Undisturbed owner mid) (hsecond : Undisturbed mid owner') :
    Undisturbed owner owner' :=
  ⟨hsecond.worker.trans hfirst.worker, hsecond.applied.trans hfirst.applied,
    hsecond.observations.trans hfirst.observations, hsecond.calls.trans hfirst.calls,
    hsecond.killed.trans hfirst.killed⟩

theorem queueControl_observations {status status' : Status} {kind value : Int}
    (hqueued : Session.queueControl status kind value = .ok status') :
    status'.observations = status.observations := by
  unfold Session.queueControl at hqueued
  split at hqueued
  · cases hqueued
  · split at hqueued
    · cases hqueued
    · split at hqueued
      · cases hqueued
      · split at hqueued
        · cases hqueued
        · cases hqueued
          rfl

theorem caller_keeps (session : Session Worker) (op : Caller) :
    (session.caller op).worker = session.worker ∧ (session.caller op).applied = session.applied
      ∧ (session.caller op).status.observations = session.status.observations := by
  cases op with
  | submit kind value timeout now => exact ⟨rfl, rfl, rfl⟩
  | cancelBeforeDispatch handle => exact ⟨rfl, rfl, rfl⟩
  | dropReceipt handle => exact ⟨rfl, rfl, rfl⟩
  | expire handle => exact ⟨rfl, rfl, rfl⟩
  | queueControl kind value =>
    unfold Session.caller
    dsimp only
    cases hqueued : Session.queueControl session.status kind value with
    | ok status => exact ⟨rfl, rfl, queueControl_observations hqueued⟩
    | error error => exact ⟨rfl, rfl, rfl⟩
  | updateRuntimeOptions options =>
    unfold Session.caller
    dsimp only
    split <;> exact ⟨rfl, rfl, rfl⟩

theorem callers_keep (session : Session Worker) (ops : List Caller) :
    (ops.foldl Session.caller session).worker = session.worker
      ∧ (ops.foldl Session.caller session).applied = session.applied
      ∧ (ops.foldl Session.caller session).status.observations = session.status.observations := by
  induction ops generalizing session with
  | nil => exact ⟨rfl, rfl, rfl⟩
  | cons op ops ih =>
    obtain ⟨hworker, happlied, hobservations⟩ := caller_keeps session op
    obtain ⟨hworker', happlied', hobservations'⟩ := ih (session.caller op)
    exact ⟨hworker'.trans hworker, happlied'.trans happlied, hobservations'.trans hobservations⟩

theorem meanwhile_completes : (Owner.meanwhile (pipes codec)).Completes Undisturbed := by
  intro owner
  obtain ⟨hworker, happlied, hobservations⟩ := callers_keep owner.session
    ((pipes codec).callers owner.world).1
  exact ⟨(), rfl, hworker, happlied, hobservations, rfl, rfl⟩

theorem now_completes : (Owner.now (pipes codec)).Completes Undisturbed :=
  fun _ => ⟨_, rfl, rfl, rfl, rfl, rfl, rfl⟩

theorem isCancelled_completes : (Owner.isCancelled (pipes codec)).Completes Undisturbed :=
  fun _ => ⟨_, rfl, rfl, rfl, rfl, rfl, rfl⟩

theorem read_completes : (read : OwnerRoutine Pipes Worker _).Completes Undisturbed :=
  fun owner => ⟨_, rfl, Undisturbed.refl owner⟩

theorem update_completes {f : Session Worker → Session Worker}
    (hworker : ∀ session, (f session).worker = session.worker)
    (happlied : ∀ session, (f session).applied = session.applied)
    (hobservations : ∀ session, (f session).status.observations = session.status.observations) :
    (update f : OwnerRoutine Pipes Worker Unit).Completes Undisturbed :=
  fun _ => ⟨(), rfl, hworker _, happlied _, hobservations _, rfl, rfl⟩

/-! ## Uncertain writes -/

/-- An uncertain write ended: the worker is gone and its value is not recorded. -/
structure Retires (owner : PipesOwner) (result : Progress Error α) (owner' : PipesOwner) :
    Prop where
  reported : ∃ message code,
    result = .failed (.failure (.uncertainControl message code))
      ∧ retryable (.failure (.uncertainControl message code)) = false
  worker : owner'.session.worker = none
  killed : ∀ worker, owner.session.worker = some worker →
    ∃ worker', owner'.world.killed = owner.world.killed ++ [kill worker']
  applied : owner'.session.applied = owner.session.applied
  observations : owner'.session.status.observations = owner.session.status.observations

/-- The worker was retired, and nothing else that matters here changed. -/
structure Invalidated (owner owner' : PipesOwner) : Prop where
  worker : owner'.session.worker = none
  killed : ∀ worker, owner.session.worker = some worker →
    owner'.world.killed = owner.world.killed ++ [kill worker]
  applied : owner'.session.applied = owner.session.applied
  observations : owner'.session.status.observations = owner.session.status.observations
  calls : owner'.world.calls = owner.world.calls

theorem rememberCooling_keeps (session : Session Worker) :
    (rememberCooling session).worker = session.worker
      ∧ (rememberCooling session).applied = session.applied
      ∧ (rememberCooling session).status.observations = session.status.observations := by
  unfold rememberCooling
  split <;> exact ⟨rfl, rfl, rfl⟩

theorem withdraw_keeps (session : Session Worker) : (withdraw session).worker = session.worker
      ∧ (withdraw session).applied = session.applied
      ∧ (withdraw session).status.observations = session.status.observations := by
  unfold withdraw
  dsimp only
  split <;> exact ⟨rfl, rfl, rfl⟩

theorem takeWorker_meets (hmid : Undisturbed owner mid) :
    (takeWorker (pipes codec)).Meets mid fun result owner' =>
      result = .done () ∧ Invalidated owner owner' := by
  unfold takeWorker
  simp only [meets_modify, true_and]
  cases hworker : mid.session.worker with
  | none =>
    refine { hmid with worker := hworker, killed := ?_ }
    intro worker hheld
    rw [← hmid.worker, hworker] at hheld
    cases hheld
  | some worker =>
    refine { hmid with worker := rfl, killed := ?_ }
    intro worker' hheld
    rw [← hmid.worker, hworker] at hheld
    cases hheld
    exact congrArg (· ++ [kill worker]) hmid.killed

theorem invalidate_meets (owner : PipesOwner) :
    (Owner.invalidate (pipes codec)).Meets owner fun result owner' =>
      result = .done () ∧ Invalidated owner owner' := by
  have hretire : (update fun session => { session with cooling := session.cooling.retire }
      : OwnerRoutine Pipes Worker Unit).Completes Undisturbed :=
    update_completes (fun _ => rfl) (fun _ => rfl) (fun _ => rfl)
  have hwithdraw : (update fun session => withdraw (rememberCooling session)
      : OwnerRoutine Pipes Worker Unit).Completes Undisturbed := by
    refine update_completes ?_ ?_ ?_ <;> intro session
    · exact (withdraw_keeps _).1.trans (rememberCooling_keeps session).1
    · exact (withdraw_keeps _).2.1.trans (rememberCooling_keeps session).2.1
    · exact (withdraw_keeps _).2.2.trans (rememberCooling_keeps session).2.2
  refine Routine.Meets.after (meanwhile_completes codec) fun _ first hfirst => ?_
  refine Routine.Meets.after hretire fun _ second hsecond => ?_
  refine Routine.Meets.after (meanwhile_completes codec) fun _ third hthird => ?_
  refine Routine.Meets.after hwithdraw fun _ fourth hfourth => ?_
  have hbefore := hfirst.trans (hsecond.trans (hthird.trans hfourth))
  refine Routine.Meets.bind (takeWorker_meets codec hbefore) ?_
  rintro result taken ⟨rfl, htaken⟩
  exact ⟨rfl, htaken.worker, htaken.killed, htaken.applied, htaken.observations, htaken.calls⟩

/-- How an owner ends after the outcome of its write is known. -/
structure Settles (written : PipesOwner) (outcome : Except CoolingError ControlObservation)
    (result : Progress Error α) (owner' : PipesOwner) : Prop where
  uncertain : ∀ message code, outcome = .error (.uncertain message code) →
    Retires written result owner'
  unrecorded : ∀ error, outcome = .error error →
    owner'.session.applied = written.session.applied
      ∧ owner'.session.status.observations = written.session.status.observations

theorem controlResult_uncertain (message : String) (code : Option Int) (owner : PipesOwner) :
    (controlResult (pipes codec) (.error (.uncertain message code))).Meets owner
      (Retires owner) := by
  refine Routine.Meets.bind (invalidate_meets codec owner) ?_
  rintro result owner' ⟨rfl, hinvalid⟩
  refine { hinvalid with reported := ⟨message, code, rfl, rfl⟩, killed := ?_ }
  intro worker hheld
  exact ⟨worker, hinvalid.killed worker hheld⟩

theorem controlResult_failed (error : CoolingError) (owner : PipesOwner) :
    (controlResult (pipes codec) (.error error)).Meets owner fun result owner' =>
      (∃ failure, result = .failed failure) ∧ Settles owner (.error error) result owner' := by
  have hquiet : ∀ failure : Error, (∀ message code, error ≠ .uncertain message code) →
      (Routine.fail failure : OwnerRoutine Pipes Worker ControlObservation).Meets owner
        fun result owner' =>
          (∃ failure, result = .failed failure) ∧ Settles owner (.error error) result owner' := by
    intro failure hcertain
    refine ⟨⟨failure, rfl⟩, ?_, fun _ _ => ⟨rfl, rfl⟩⟩
    intro message code huncertain
    cases huncertain
    exact absurd rfl (hcertain message code)
  cases error with
  | uncertain message code =>
    refine (controlResult_uncertain codec message code owner).mono fun result owner' hretires => ?_
    obtain ⟨message', code', hresult, -⟩ := hretires.reported
    exact ⟨⟨_, hresult⟩, fun _ _ _ => hretires,
      fun _ _ => ⟨hretires.applied, hretires.observations⟩⟩
  | cancelled =>
    refine Routine.Meets.bind (invalidate_meets codec owner) ?_
    rintro result owner' ⟨rfl, hinvalid⟩
    refine ⟨⟨_, rfl⟩, ?_, fun _ _ => ⟨hinvalid.applied, hinvalid.observations⟩⟩
    intro message code huncertain
    cases huncertain
  | busy => exact hquiet _ (by simp)
  | unavailable => exact hquiet _ (by simp)
  | expired => exact hquiet _ (by simp)
  | invalid message => exact hquiet _ (by simp)

def Writes (kind value : Int) (deadline : Nat) (allowSdkOffsetClamp : Bool) (owner : PipesOwner)
    (result : Progress Error α) (owner' : PipesOwner) : Prop :=
  ∃ outcome written,
    writeControl (pipes codec) kind value deadline allowSdkOffsetClamp owner
        = (.done outcome, written)
      ∧ Settles written outcome result owner'

theorem writes_bind {kind value : Int} {deadline : Nat}
    {next : Except CoolingError ControlObservation → OwnerRoutine Pipes Worker α}
    (hnext : ∀ outcome written, (next outcome).Meets written (Settles written outcome))
    (owner : PipesOwner) :
    (writeControl (pipes codec) kind value deadline allowSdkOffsetClamp >>= next).Meets
      owner (Writes codec kind value deadline allowSdkOffsetClamp owner) := by
  have hwrite := writeControl_meets codec kind value deadline allowSdkOffsetClamp owner
  rw [meets_bind]
  unfold Routine.Meets at hwrite ⊢
  cases hrun : writeControl (pipes codec) kind value deadline allowSdkOffsetClamp owner with
  | mk result written =>
    rw [hrun] at hwrite
    obtain ⟨outcome, rfl, -⟩ := hwrite
    rw [continues_done]
    exact (hnext outcome written).mono fun _ _ hsettles => ⟨outcome, written, hrun, hsettles⟩

theorem controlResult_settles {next : ControlObservation → OwnerRoutine Pipes Worker α}
    (outcome : Except CoolingError ControlObservation) (written : PipesOwner) :
    (controlResult (pipes codec) outcome >>= next).Meets written (Settles written outcome) := by
  cases outcome with
  | ok observation => exact ⟨by simp, by simp⟩
  | error error =>
    refine Routine.Meets.bind (controlResult_failed codec error written) ?_
    rintro result owner' ⟨⟨failure, rfl⟩, hsettles⟩
    refine ⟨fun message code huncertain => ?_, hsettles.unrecorded⟩
    have hretires := hsettles.uncertain message code huncertain
    obtain ⟨message', code', hresult, hretry⟩ := hretires.reported
    cases hresult
    exact { hretires with reported := ⟨message', code', rfl, hretry⟩ }

theorem writeImagingControl_writes (kind value : Int) (deadline : Nat) (owner : PipesOwner) :
    (Owner.writeImagingControl (pipes codec) kind value deadline).Meets owner
      (Writes codec kind value deadline true owner) :=
  writes_bind codec (controlResult_settles codec) owner

theorem writeSetting_writes (cap : Control) (kind value : Int) (deadline : Nat)
    (owner : PipesOwner) : (Owner.writeSetting (pipes codec) cap kind value deadline).Meets owner
      (Writes codec kind value deadline true owner) :=
  writes_bind codec (controlResult_settles codec) owner

theorem finish_outcome (mailbox : Cooling.Mailbox) (handle : Nat) (result : Cooling.Outcome)
    (now : Nat) :
    (result.isUncertain = true → (mailbox.finish handle result now).1.outcome.isUncertain = true)
      ∧ (∀ error, result = .error error →
        (mailbox.finish handle result now).1.committed = false) := by
  unfold Cooling.Mailbox.finish
  cases mailbox.current handle with
  | none => exact ⟨fun _ => rfl, fun _ _ => rfl⟩
  | some request =>
    dsimp only
    split
    · exact ⟨fun _ => rfl, fun _ _ => rfl⟩
    · unfold Cooling.Mailbox.acknowledged
      split
      · exact ⟨fun _ => rfl, fun _ _ => rfl⟩
      · refine ⟨id, ?_⟩
        rintro error rfl
        rfl

theorem finishWrite_meets (handle : Nat) (kind value : Int)
    (outcome : Except CoolingError ControlObservation) (owner : PipesOwner) :
    (Owner.finishWrite (pipes codec) handle kind value outcome).Meets owner fun result owner' =>
      ∃ finished, result = .done finished
        ∧ (∀ message code, outcome = .error (.uncertain message code) → finished.isUncertain = true)
        ∧ (∀ error, outcome = .error error → Undisturbed owner owner') := by
  unfold Owner.finishWrite
  refine Routine.Meets.after (meanwhile_completes codec) fun _ first hfirst => ?_
  refine Routine.Meets.after (now_completes codec) fun finishing second hsecond => ?_
  refine Routine.Meets.after read_completes fun session third hthird => ?_
  obtain ⟨huncertain, hcommitted⟩ := finish_outcome session.cooling handle
    (outcome.map fun observed => observed.value) finishing
  dsimp only
  have hstore : (update fun session' => { session' with
      cooling := (session.cooling.finish handle (outcome.map fun observed => observed.value)
        finishing).2 } : OwnerRoutine Pipes Worker Unit).Completes Undisturbed :=
    update_completes (fun _ => rfl) (fun _ => rfl) (fun _ => rfl)
  refine Routine.Meets.after hstore fun _ fourth hfourth => ?_
  have hquiet := hfirst.trans (hsecond.trans (hthird.trans hfourth))
  cases outcome with
  | ok observation =>
    split <;> exact ⟨_, rfl, by simp, by simp⟩
  | error error =>
    rw [hcommitted error rfl]
    refine ⟨_, rfl, ?_, fun _ _ => hquiet⟩
    intro message code hfound
    cases hfound
    exact huncertain rfl

theorem Retires.before {result : Progress Error α} (hquiet : Undisturbed owner mid)
    (hretires : Retires mid result owner') :
    Retires owner result owner' := { hretires with
  killed := by
    intro worker hheld
    rw [← hquiet.worker] at hheld
    rw [← hquiet.killed]
    exact hretires.killed worker hheld
  applied := hretires.applied.trans hquiet.applied
  observations := hretires.observations.trans hquiet.observations }

theorem settles_quiet {written : PipesOwner} {outcome : Except CoolingError ControlObservation}
    {result : Progress Error α}
    (hcertain : ∀ message code, outcome ≠ .error (.uncertain message code))
    (hquiet : ∀ error, outcome = .error error → Undisturbed written owner') :
    Settles written outcome result owner' where
  uncertain := fun message code huncertain => absurd huncertain (hcertain message code)
  unrecorded := fun error herror => ⟨(hquiet error herror).applied, (hquiet error herror).observations⟩

theorem serviceDispatched_writes (handle : Nat) (kind value : Int) (deadline : Nat)
    (owner : PipesOwner) :
    (Owner.serviceDispatched (pipes codec) handle kind value deadline).Meets owner
      (Writes codec kind value deadline false owner) := by
  refine writes_bind codec (fun outcome written => ?_) owner
  refine Routine.Meets.bind (finishWrite_meets codec handle kind value outcome written) ?_
  rintro result mid ⟨finished, rfl, huncertain, hquiet⟩
  rw [continues_done]
  have hcertain : finished.isUncertain = false →
      ∀ message code, outcome ≠ .error (.uncertain message code) := by
    intro hfinished message code houtcome
    rw [huncertain message code houtcome] at hfinished
    cases hfinished
  cases finished with
  | ok value => exact settles_quiet (hcertain rfl) hquiet
  | error error =>
    cases error with
    | busy => exact settles_quiet (hcertain rfl) hquiet
    | unavailable => exact settles_quiet (hcertain rfl) hquiet
    | expired => exact settles_quiet (hcertain rfl) hquiet
    | cancelled => exact settles_quiet (hcertain rfl) hquiet
    | invalid message => exact settles_quiet (hcertain rfl) hquiet
    | uncertain message code =>
      refine (controlResult_settles codec (.error (.uncertain message code)) mid).mono
        fun result owner' hsettles => ?_
      have hretires := hsettles.uncertain message code rfl
      refine ⟨fun message' code' houtcome => hretires.before (hquiet _ houtcome), ?_⟩
      intro error herror
      have hboth := hretires.before (hquiet error herror)
      exact ⟨hboth.applied, hboth.observations⟩

/-! ## Admission -/

theorem quiet_bind {first : OwnerRoutine Pipes Worker β} {next : β → OwnerRoutine Pipes Worker α}
    (hfirst : first.Keeps Undisturbed) (hnext : ∀ value, (next value).Keeps Undisturbed) :
    (first >>= next).Keeps Undisturbed := by
  refine Routine.Keeps.bind ?_ hfirst hnext
  exact fun _ _ _ hearlier hlater => hearlier.trans hlater

theorem pure_quiet (value : α) : (pure value : OwnerRoutine Pipes Worker α).Keeps Undisturbed :=
  Routine.keeps_pure Undisturbed.refl value

theorem fail_quiet (error : Error) :
    (Routine.fail error : OwnerRoutine Pipes Worker α).Keeps Undisturbed :=
  Routine.keeps_fail Undisturbed.refl error

theorem updateCooling_quiet (f : Session Worker → Cooling.Mailbox) :
    (update fun session => { session with cooling := f session }
      : OwnerRoutine Pipes Worker Unit).Keeps Undisturbed :=
  fun _ => ⟨rfl, rfl, rfl, rfl, rfl⟩

theorem finishUnsent_quiet (handle : Nat) (error : CoolingError) :
    (Owner.finishUnsent (pipes codec) handle error).Keeps Undisturbed :=
  quiet_bind (meanwhile_completes codec).keeps fun _ =>
    quiet_bind (now_completes codec).keeps fun _ => updateCooling_quiet _

theorem claimCooling_quiet : (Owner.claimCooling (pipes codec)).Keeps Undisturbed :=
  quiet_bind (meanwhile_completes codec).keeps fun _ =>
    quiet_bind (now_completes codec).keeps fun _ =>
      quiet_bind read_completes.keeps fun _ =>
        quiet_bind (updateCooling_quiet _) fun _ => pure_quiet _

theorem dispatchCooling_quiet (handle : Nat) :
    (Owner.dispatchCooling (pipes codec) handle).Keeps Undisturbed :=
  quiet_bind (meanwhile_completes codec).keeps fun _ =>
    quiet_bind (now_completes codec).keeps fun _ =>
      quiet_bind read_completes.keeps fun _ =>
        quiet_bind (updateCooling_quiet _) fun _ => pure_quiet _

theorem boundedDeadline_quiet (deadline : Nat) :
    (Owner.boundedDeadline (pipes codec) deadline).Keeps Undisturbed :=
  quiet_bind (now_completes codec).keeps fun _ =>
    quiet_bind read_completes.keeps fun _ => pure_quiet _

theorem admitCooling_quiet : (admitCooling (pipes codec)).Keeps Undisturbed := by
  refine quiet_bind (claimCooling_quiet codec) fun claimed => ?_
  cases claimed with
  | none => exact pure_quiet _
  | some claimed =>
    refine quiet_bind (boundedDeadline_quiet codec _) fun deadline => ?_
    refine quiet_bind read_completes.keeps fun session => ?_
    split
    · exact quiet_bind (finishUnsent_quiet codec _ _) fun _ => pure_quiet _
    · refine quiet_bind (isCancelled_completes codec).keeps fun cancelled => ?_
      split
      · exact quiet_bind (finishUnsent_quiet codec _ _) fun _ => fail_quiet _
      · refine quiet_bind (now_completes codec).keeps fun starting => ?_
        split
        · exact quiet_bind (finishUnsent_quiet codec _ _) fun _ => pure_quiet _
        · refine quiet_bind (dispatchCooling_quiet codec _) fun sent => ?_
          split <;> exact pure_quiet _

theorem admitImagingControl_quiet (kind value : Int) (deadline : Nat) :
    (Owner.admitImagingControl (pipes codec) kind value deadline).Keeps Undisturbed := by
  refine quiet_bind (meanwhile_completes codec).keeps fun _ => ?_
  refine quiet_bind read_completes.keeps fun session => ?_
  refine quiet_bind (Routine.keeps_ofExcept Undisturbed.refl _) fun _ => ?_
  refine quiet_bind (isCancelled_completes codec).keeps fun cancelled => ?_
  split
  · exact fail_quiet _
  · refine quiet_bind (now_completes codec).keeps fun admitted => ?_
    split
    · exact fail_quiet _
    · exact boundedDeadline_quiet codec _

theorem admitSetting_meets (setting : Int × Int) (owner : PipesOwner) :
    (admitSetting (pipes codec) setting).Meets owner fun result mid =>
      mid.world.calls = owner.world.calls
        ∧ ∀ admitted, result = .done (some admitted) → Undisturbed owner mid := by
  refine Routine.Meets.after (meanwhile_completes codec) fun _ first hfirst => ?_
  refine Routine.Meets.after read_completes fun session second hsecond => ?_
  have hquiet := hfirst.trans hsecond
  split
  · exact ⟨hquiet.calls, fun _ _ => hquiet⟩
  · split
    · exact ⟨hquiet.calls, fun _ _ => hquiet⟩
    · split
      · exact ⟨hquiet.calls, fun _ _ => hquiet⟩
      · split
        · rw [meets_bind, meets_ensure]
          split
          · exact ⟨hquiet.calls, fun _ hdone => by cases hdone⟩
          · exact ⟨hquiet.calls, fun _ _ => hquiet⟩
        · refine Routine.Meets.after (now_completes codec) fun started third hthird => ?_
          exact ⟨(hquiet.trans hthird).calls, fun _ _ => hquiet.trans hthird⟩

/-! ## Owners -/

/-- An owner that admits a request and then writes: the admission makes no call, and an admitted
request is written from the state in which the admission left the owner. -/
structure WritesAfter {α β : Type} (admission : OwnerRoutine Pipes Worker β)
    (write : β → Option (Int × Int × Nat)) (allowSdkOffsetClamp : Bool)
    (routine : OwnerRoutine Pipes Worker α) (owner : PipesOwner) : Prop where
  silent : (admission owner).2.world.calls = owner.world.calls
  unsent : (∀ admitted, (admission owner).1 = .done admitted → write admitted = none) →
    (routine owner).2 = (admission owner).2
  written : ∀ admitted kind value deadline, (admission owner).1 = .done admitted →
    write admitted = some (kind, value, deadline) → Undisturbed owner (admission owner).2
      ∧ routine.Meets owner
        (Writes codec kind value deadline allowSdkOffsetClamp (admission owner).2)

theorem writesAfter {admission : OwnerRoutine Pipes Worker β}
    {write : β → Option (Int × Int × Nat)} {allowSdkOffsetClamp : Bool}
    {next : β → OwnerRoutine Pipes Worker α} {owner : PipesOwner}
    (hadmission : admission.Meets owner fun result mid => mid.world.calls = owner.world.calls
      ∧ ∀ admitted, result = .done admitted → (write admitted).isSome = true →
        Undisturbed owner mid)
    (hunsent : ∀ admitted mid, write admitted = none → (next admitted mid).2 = mid)
    (hwrites : ∀ admitted kind value deadline mid, write admitted = some (kind, value, deadline) →
      (next admitted).Meets mid (Writes codec kind value deadline allowSdkOffsetClamp mid)) :
    WritesAfter codec admission write allowSdkOffsetClamp (admission >>= next) owner := by
  obtain ⟨hsilent, hquiet⟩ := hadmission
  refine ⟨hsilent, ?_, ?_⟩
  · intro hnone
    simp only [Bind.bind, Routine.andThen]
    cases hrun : admission owner with
    | mk result mid =>
      rw [hrun] at hnone
      cases result with
      | done admitted => exact hunsent admitted mid (hnone admitted rfl)
      | failed error => rfl
      | pending => rfl
  · intro admitted kind value deadline hdone hwrite
    refine ⟨hquiet admitted hdone (by rw [hwrite]; rfl), ?_⟩
    rw [meets_bind]
    unfold Routine.Meets
    rw [hdone]
    exact hwrites admitted kind value deadline _ hwrite

/-- What every control write and every owner of one does. -/
structure ControlWrites : Prop where
  /-- The outcome of a write says what its calls did, for every world. -/
  write : ∀ kind value deadline allowSdkOffsetClamp owner,
    (writeControl (pipes codec) kind value deadline allowSdkOffsetClamp).Meets owner
      fun result owner' => ∃ outcome, result = .done outcome
        ∧ WriteRun codec kind value deadline allowSdkOffsetClamp owner outcome owner'
  /-- The owners of a write end as its outcome requires. -/
  service : ∀ owner, WritesAfter codec (admitCooling (pipes codec))
    (fun admitted => admitted.map fun (_, request, deadline) =>
      (request.kind, request.value, deadline))
    false (Owner.serviceCoolingWith (pipes codec)) owner
  imaging : ∀ kind value deadline owner,
    WritesAfter codec (Owner.admitImagingControl (pipes codec) kind value deadline)
      (fun deadline => some (kind, value, deadline))
      true (Owner.setImagingControl (pipes codec) kind value deadline) owner
  setting : ∀ setting owner, WritesAfter codec (admitSetting (pipes codec) setting)
    (fun admitted => admitted.map fun (_, deadline) => (setting.1, setting.2, deadline))
    true (applySetting (pipes codec) setting) owner
  /-- Applying settings ends with the first one that fails. -/
  apply : ∀ (owner mid owner' : PipesOwner) before setting after error,
    applyOrder owner.settings = before ++ setting :: after →
    Routine.forEach (applySetting (pipes codec)) before owner = (.done (), mid) →
    applySetting (pipes codec) setting mid = (.failed error, owner') →
    Owner.apply (pipes codec) owner = (.failed error, owner')

theorem serviceCoolingWith_writes (owner : PipesOwner) :
    WritesAfter codec (admitCooling (pipes codec))
      (fun admitted => admitted.map fun (_, request, deadline) =>
        (request.kind, request.value, deadline))
      false (Owner.serviceCoolingWith (pipes codec)) owner := by
  have hquiet := admitCooling_quiet codec owner
  refine writesAfter codec ⟨hquiet.calls, fun _ _ _ => hquiet⟩ ?_ ?_
  · intro admitted mid hnone
    cases admitted with
    | none => rfl
    | some admitted => cases hnone
  · intro admitted kind value deadline mid hsome
    cases admitted with
    | none => cases hsome
    | some admitted =>
      cases hsome
      exact serviceDispatched_writes codec _ _ _ _ mid

theorem setImagingControl_writes (kind value : Int) (deadline : Nat) (owner : PipesOwner) :
    WritesAfter codec (Owner.admitImagingControl (pipes codec) kind value deadline)
      (fun deadline => some (kind, value, deadline))
      true (Owner.setImagingControl (pipes codec) kind value deadline) owner := by
  have hquiet := admitImagingControl_quiet codec kind value deadline owner
  refine writesAfter codec ⟨hquiet.calls, fun _ _ _ => hquiet⟩ ?_ ?_
  · intro admitted mid hnone
    cases hnone
  · intro admitted kind' value' deadline' mid hsome
    cases hsome
    exact writeImagingControl_writes codec kind value _ mid

theorem applySetting_writes (setting : Int × Int) (owner : PipesOwner) :
    WritesAfter codec (admitSetting (pipes codec) setting)
      (fun admitted => admitted.map fun (_, deadline) => (setting.1, setting.2, deadline))
      true (applySetting (pipes codec) setting) owner := by
  obtain ⟨hsilent, hquiet⟩ := admitSetting_meets codec setting owner
  refine writesAfter codec ⟨hsilent, ?_⟩ ?_ ?_
  · intro admitted hdone hsome
    cases admitted with
    | none => cases hsome
    | some admitted => exact hquiet admitted hdone
  · intro admitted mid hnone
    cases admitted with
    | none => rfl
    | some admitted => cases hnone
  · intro admitted kind value deadline mid hsome
    cases admitted with
    | none => cases hsome
    | some admitted =>
      cases hsome
      exact writeSetting_writes codec _ _ _ _ mid

theorem apply_failed {owner mid owner' : PipesOwner} {before after : List (Int × Int)}
    {setting : Int × Int} {error : Error}
    (horder : applyOrder owner.settings = before ++ setting :: after)
    (hbefore : Routine.forEach (applySetting (pipes codec)) before owner = (.done (), mid))
    (hsetting : applySetting (pipes codec) setting mid = (.failed error, owner')) :
    Owner.apply (pipes codec) owner = (.failed error, owner') := by
  have hloop := Routine.forEach_failed after hbefore hsetting
  rw [← horder] at hloop
  show (Routine.forEach (applySetting (pipes codec)) (applyOrder owner.settings)
    >>= fun _ => Owner.resumeCooling (pipes codec)) owner = _
  simp only [Bind.bind, Routine.andThen, hloop]

/-- A control write reports what happened, and an uncertain one retires its worker. -/
theorem control_writes : ControlWrites codec where
  write := writeControl_meets codec
  service := serviceCoolingWith_writes codec
  imaging := setImagingControl_writes codec
  setting := applySetting_writes codec
  apply := fun _ _ _ _ _ _ _ => apply_failed codec

end Regain.Core
