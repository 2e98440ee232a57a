import Regain.Hub.Source.Actor

/-!
# The write fence of a source

A write reaches the backend only for the owner of source control.  After a write or
a handshake whose outcome is unknown, no write does until every lease was released.
-/

namespace Regain.Hub

open Lib

def Write.unresolved (write : Write) : Bool :=
  write.resumed ||
    match write.ended with
    | .notified => false
    | .late => true
    | .answered (.ok _) => false
    | .answered (.error error) => error.leavesWriteOpen

structure Write.Authorized (write : Write) : Prop where
  leased : write.lease ∈ write.leases
  controls : write.controller = some write.lease
  certain : write.writeUncertain = false
  current : ∀ generation, write.expectedGeneration = some generation → generation = write.generation

def Effect.write? : Effect → Option Write
  | wrote write => some write
  | published _ => none
  | handshake _ => none
  | disconnected => none
  | polled _ => none
  | replied _ => none

def Effect.isUncertainHandshake : Effect → Bool
  | handshake (.error error) => error.kind == .uncertain
  | handshake (.ok _) => false
  | published _ => false
  | wrote _ => false
  | disconnected => false
  | polled _ => false
  | replied _ => false

/-! ## The write fence -/

theorem fence_entry {α : Type} {clock : ResumeClock} {epoch : Nat} {late : SourceError}
    {exchange : Exchange α} (hsent : (fence clock epoch late exchange).sent = true) :
    (clock.after exchange.earlier).epoch = epoch ∧ (clock.after exchange.earlier).failed = false := by
  unfold fence at hsent
  simp only at hsent
  split at hsent
  · cases hsent
  next hentry => simpa using hentry

theorem fence_unresumed {α : Type} {clock : ResumeClock} {epoch : Nat} {late : SourceError}
    {exchange : Exchange α} {events : List ClockEvent}
    (hsent : (fence clock epoch late exchange).sent = true)
    (hepoch : ((fence clock epoch late exchange).clock.after events).epoch = epoch) :
    (fence clock epoch late exchange).result
      = match exchange.ended with
        | .notified => .error interrupted
        | .late => .error late
        | .answered result => result := by
  obtain ⟨hentry, hfailed⟩ := fence_entry hsent
  have hopen : ((clock.after exchange.earlier).epoch ≠ epoch || (clock.after exchange.earlier).failed)
      = false := by simp [hentry, hfailed]
  have hclock : (fence clock epoch late exchange).clock
      = (clock.after exchange.earlier).after exchange.during := by
    simp only [fence, hopen, Bool.false_eq_true, if_false]
    split <;> rfl
  rw [hclock] at hepoch
  have hexit := (clock.after exchange.earlier).after_epoch exchange.during
  have hlater := ((clock.after exchange.earlier).after exchange.during).after_epoch events
  have hsame : (clock.after exchange.earlier).after exchange.during = clock.after exchange.earlier := by
    rcases hexit with hlt | hsame
    · rcases hlater with hlt' | hsame'
      · omega
      · rw [hsame'] at hepoch
        omega
    · exact hsame
  simp only [fence, hopen, hsame]
  rfl

namespace Actor

def writes (actor : Actor) : List Write :=
  actor.log.filterMap Effect.write?

def shaken (actor : Actor) : Bool :=
  actor.log.any Effect.isUncertainHandshake

/-! ## Steps that leave the writes alone -/

/-- Leases, control and writes are unchanged, and the latch is not cleared. -/
structure Quiet (before after : Actor) : Prop where
  leases : after.leases = before.leases
  controller : after.controller = before.controller
  disconnectResult : after.disconnectResult = before.disconnectResult
  uncertain : before.writeUncertain = true → after.writeUncertain = true
  writes : after.writes = before.writes
  shaken : after.shaken = true → before.shaken = true ∨ after.writeUncertain = true

theorem Quiet.refl (actor : Actor) : Quiet actor actor :=
  ⟨rfl, rfl, rfl, id, rfl, .inl⟩

theorem Quiet.trans {first second third : Actor} (h : Quiet first second) (h' : Quiet second third) :
    Quiet first third where
  leases := h'.leases.trans h.leases
  controller := h'.controller.trans h.controller
  disconnectResult := h'.disconnectResult.trans h.disconnectResult
  uncertain := h'.uncertain ∘ h.uncertain
  writes := h'.writes.trans h.writes
  shaken hshaken := by
    rcases h'.shaken hshaken with hbefore | hlatched
    · exact (h.shaken hbefore).imp_right h'.uncertain
    · exact .inr hlatched

structure Alike (before after : Actor) : Prop where
  leases : after.leases = before.leases
  controller : after.controller = before.controller
  disconnect : after.disconnectResult = before.disconnectResult
  uncertain : after.writeUncertain = before.writeUncertain
  log : after.log = before.log

variable {before after actor : Actor} {lease : Uuid}

theorem Quiet.update {after' : Actor} (h : Quiet before after) (halike : Alike after after') :
    Quiet before after' where
  leases := halike.leases.trans h.leases
  controller := halike.controller.trans h.controller
  disconnectResult := halike.disconnect.trans h.disconnectResult
  uncertain hlatched := halike.uncertain.trans (h.uncertain hlatched)
  writes := by
    rw [← h.writes]
    exact congrArg (List.filterMap Effect.write?) halike.log
  shaken hshaken := by
    rw [halike.uncertain]
    exact h.shaken ((congrArg (List.any · Effect.isUncertainHandshake) halike.log).symm.trans hshaken)

theorem quiet_emit (actor : Actor) {effect : Effect} (hwrite : effect.write? = none)
    (hshake : effect.isUncertainHandshake = true → actor.writeUncertain = true) :
    Quiet actor (actor.emit effect) where
  leases := rfl
  controller := rfl
  disconnectResult := rfl
  uncertain := id
  writes := by simp [writes, emit, hwrite]
  shaken hshaken := by
    simp only [Actor.shaken, emit, List.any_append, List.any_cons, List.any_nil, Bool.or_false,
      Bool.or_eq_true] at hshaken
    exact hshaken.imp_right hshake

theorem quiet_publish (actor : Actor) : Quiet actor actor.publish := by
  have hstate : Quiet actor { actor with state := { actor.state with
      writeUncertain := actor.writeUncertain
      leaseCount := actor.leases.card } } := (Quiet.refl actor).update (by constructor <;> rfl)
  exact hstate.trans (quiet_emit _ rfl (fun h => by cases h))

theorem Quiet.published (h : Quiet before after) : Quiet before after.publish :=
  h.trans (quiet_publish after)

theorem Quiet.replied (h : Quiet before after) (io : Io) (result : Except SourceError Unit) :
    Quiet before (after.reply io result) := by
  refine h.trans ?_
  unfold reply
  split
  · exact .refl after
  · exact quiet_emit after rfl (fun h => by cases h)

theorem quiet_resume (actor : Actor) (now : Nat) : Quiet actor (actor.resume now) := by
  unfold resume
  split
  · exact .refl actor
  · exact .published ((Quiet.refl actor).update (by constructor <;> rfl))

theorem quiet_look (actor : Actor) (events : List ClockEvent) (now : Nat) :
    Quiet actor (actor.look events now) := by
  have hobserved : Quiet actor (actor.observe events) :=
    (Quiet.refl actor).update (by constructor <;> rfl)
  exact hobserved.trans (quiet_resume (actor.observe events) now)

theorem Quiet.faulted (h : Quiet before after) (error : SourceError) (generation : Uuid) :
    Quiet before (after.fault error generation) :=
  .published (h.update (by constructor <;> rfl))

theorem Quiet.faultedIfLost (h : Quiet before after) (error : SourceError) (generation : Uuid) :
    Quiet before (after.faultIfLost error generation) := by
  unfold faultIfLost
  split
  · exact h.faulted error generation
  · exact h

/-! ## Handshakes -/

structure Shaken (before after : Actor) (result : Except SourceError Bool) : Prop where
  leases : after.leases = before.leases
  controller : after.controller = before.controller
  disconnectResult : after.disconnectResult = before.disconnectResult
  uncertain : after.writeUncertain = before.writeUncertain
  writes : after.writes = before.writes
  shaken : after.shaken = (before.shaken || Effect.isUncertainHandshake (.handshake result))

theorem handshake_shaken (actor : Actor) (io : ConnectIo) (started : Nat) :
    Shaken actor (actor.handshake io started).2 (actor.handshake io started).1 := by
  unfold handshake
  split
  · constructor <;> simp [writes, shaken, emit, Effect.write?]
  · constructor <;> simp [writes, shaken, emit, Effect.write?]

@[simp] theorem publish_shaken (actor : Actor) : actor.publish.shaken = actor.shaken := by
  simp [publish, shaken, emit, Effect.isUncertainHandshake]

@[simp] theorem reply_shaken (actor : Actor) (io : Io) (result : Except SourceError Unit) :
    (actor.reply io result).shaken = actor.shaken := by
  unfold reply
  split
  · rfl
  · simp [shaken, emit, Effect.isUncertainHandshake]

@[simp] theorem fault_shaken (actor : Actor) (error : SourceError) (generation : Uuid) :
    (actor.fault error generation).shaken = actor.shaken :=
  publish_shaken _

@[simp] theorem faultIfLost_shaken (actor : Actor) (error : SourceError) (generation : Uuid) :
    (actor.faultIfLost error generation).shaken = actor.shaken := by
  unfold faultIfLost
  split
  · exact fault_shaken actor error generation
  · rfl

theorem look_shaken (actor : Actor) (events : List ClockEvent) (now : Nat) :
    (actor.look events now).shaken = actor.shaken := by
  simp only [look, resume]
  split
  · rfl
  · exact publish_shaken _

theorem Shaken.quiet {result : Except SourceError Bool} (h : Shaken before after result)
    (hcertain : Effect.isUncertainHandshake (.handshake result) = false) : Quiet before after where
  leases := h.leases
  controller := h.controller
  disconnectResult := h.disconnectResult
  uncertain huncertain := h.uncertain.trans huncertain
  writes := h.writes
  shaken hshaken := by
    rw [h.shaken, hcertain, Bool.or_false] at hshaken
    exact .inl hshaken

theorem Shaken.connected {result : Except SourceError Bool} (h : Shaken before after result)
    (io : ConnectIo) : Quiet before (after.connected io result).2 := by
  cases result with
  | ok done =>
    have hquiet := h.quiet rfl
    cases done with
    | false =>
      exact .published (hquiet.update (by constructor <;> rfl))
    | true =>
      exact .published (hquiet.update (by constructor <;> rfl))
  | error error =>
    refine Quiet.faulted ?_ error io.generation
    refine { h with uncertain := fun huncertain => ?_, shaken := fun hshaken => ?_ }
    · simp [h.uncertain, huncertain]
    · have hadded := h.shaken.symm.trans hshaken
      rcases (Bool.or_eq_true _ _).mp hadded with hbefore | huncertain
      · exact .inl hbefore
      · exact .inr ((Bool.or_eq_true _ _).mpr (.inr huncertain))

theorem quiet_started (actor : Actor) (started : Nat) :
    Quiet actor { actor with connectionStarted := some started }.publish :=
  .published ((Quiet.refl actor).update (by constructor <;> rfl))

theorem connect_quiet (actor : Actor) (io : ConnectIo) : Quiet actor (actor.connect io).2 := by
  unfold connect
  split
  · exact .refl actor
  · exact (quiet_started actor _).trans ((handshake_shaken _ io _).connected io)

theorem connect_certain {io : ConnectIo} (hok : (actor.connect io).1 = .ok ()) :
    (actor.connect io).2.shaken = actor.shaken
      ∧ (actor.connect io).2.writeUncertain = actor.writeUncertain := by
  unfold connect at hok ⊢
  split
  · exact ⟨rfl, rfl⟩
  next hdown =>
    rw [if_neg hdown] at hok
    dsimp only at hok ⊢
    have hshaken := handshake_shaken { actor with
      connectionStarted := some (actor.connectionStarted.getD io.started) }.publish io
        (actor.connectionStarted.getD io.started)
    generalize handshake _ io _ = shaken at hok hshaken ⊢
    obtain ⟨result, after⟩ := shaken
    cases result with
    | error error => cases hok
    | ok done =>
      cases done with
      | false => cases hok
      | true =>
        refine ⟨?_, hshaken.uncertain⟩
        show Actor.shaken (publish _) = actor.shaken
        rw [publish_shaken]
        refine hshaken.shaken.trans ((Bool.or_false _).trans ?_)
        exact publish_shaken _

theorem Quiet.requested (h : Quiet before after) (exchange : Exchange Unit) (io : Io) :
    Quiet before (after.request exchange io) := by
  unfold request
  have hread : Quiet before { after with
      clock := (fence after.clock after.state.resumeEpoch .timeout exchange).clock } :=
    h.update (by constructor <;> rfl)
  dsimp only
  split
  · exact hread.replied io _
  · exact (hread.faultedIfLost _ _).replied io _

theorem updateSimulation_quiet (actor : Actor) (lease : Uuid) (io : Io) :
    Quiet actor (actor.updateSimulation lease io) := by
  unfold updateSimulation
  split
  · exact .refl actor
  split
  · exact (Quiet.refl actor).replied io _
  split
  · exact (Quiet.refl actor).replied io _
  · exact Quiet.replied (.published ((Quiet.refl actor).update (by constructor <;> rfl))) io _

/-! ## Commands -/

theorem Quiet.refreshed (h : Quiet before after) (io : Io) (result : Except SourceError Unit) :
    Quiet before (after.afterRefresh io result) := by
  cases result with
  | ok value => exact h.update (by constructor <;> rfl)
  | error error =>
    simp only [afterRefresh]
    split
    · exact h
    · have hfaulted := h.faultedIfLost error io.generation
      split
      · exact hfaulted.update (by constructor <;> rfl)
      · exact hfaulted

theorem refresh_quiet (actor : Actor) (lease : Uuid) (io : Io) :
    Quiet actor (actor.refresh lease io) := by
  unfold refresh
  split
  · exact .refl actor
  split
  · exact ((Quiet.refl actor).refreshed io _).published.replied io _
  · have hread : Quiet actor { actor with
        clock := (fence actor.clock actor.state.resumeEpoch .timeout io.request).clock } :=
      (Quiet.refl actor).update (by constructor <;> rfl)
    exact (hread.refreshed io _).published.replied io _

theorem cameraImage_quiet (actor : Actor) (lease expectedGeneration : Uuid) (io : Io) :
    Quiet actor (actor.cameraImage lease expectedGeneration io) := by
  have hconnect := connect_quiet actor io.connect
  unfold cameraImage
  split
  · exact .refl actor
  split
  · exact (Quiet.refl actor).replied io _
  dsimp only
  split
  · exact hconnect.replied io _
  split
  · exact hconnect.replied io _
  · exact hconnect.requested io.request io

theorem read_quiet (actor : Actor) (lease : Uuid) (expectedGeneration : Option Uuid) (io : Io) :
    Quiet actor (actor.read lease expectedGeneration io) := by
  have hconnect := connect_quiet actor io.connect
  unfold read
  split
  · exact .refl actor
  split
  · exact (Quiet.refl actor).replied io _
  dsimp only
  split
  · exact hconnect.replied io _
  split
  · exact hconnect.replied io _
  · exact hconnect.requested io.request io

theorem Quiet.emitted (h : Quiet before after) {effect : Effect} (hwrite : effect.write? = none)
    (hshake : effect.isUncertainHandshake = false) : Quiet before (after.emit effect) :=
  h.trans (quiet_emit after hwrite (fun huncertain => by rw [hshake] at huncertain; cases huncertain))

theorem Quiet.polled (h : Quiet before after) (io : PollIo) (sampled : Bool)
    (result : Except SourceError SampleBatch) :
    Quiet before (after.finishPoll io sampled result) := by
  cases result with
  | ok batch => exact .emitted (.published (h.update (by constructor <;> rfl))) rfl rfl
  | error error =>
    simp only [finishPoll]
    split
    · have hfaulted := h.faultedIfLost error io.generation
      exact .emitted (.published (hfaulted.update (by constructor <;> rfl))) rfl rfl
    · exact .emitted (.published (h.update (by constructor <;> rfl))) rfl rfl

theorem Quiet.polledConnected (h : Quiet before after) (io : PollIo)
    (connection : Except SourceError Unit) : Quiet before (after.pollConnected io connection) := by
  unfold pollConnected
  cases connection with
  | error error =>
    dsimp only
    split
    · exact Quiet.trans (h.update (by constructor <;> rfl)) (quiet_resume _ _)
    · exact Quiet.polled (h.update (by constructor <;> rfl)) io _ _
  | ok value =>
    have hsampled : Quiet before
        ({ after with attempt := after.attempt + 1 }.publish.sample io).2 :=
      (Quiet.published (h.update (by constructor <;> rfl))).update (by constructor <;> rfl)
    dsimp only
    split
    · exact (hsampled.update (by constructor <;> rfl)).trans (quiet_resume _ _)
    · exact (hsampled.update (by constructor <;> rfl)).polled io _ _

theorem poll_quiet (actor : Actor) (io : PollIo) : Quiet actor (actor.poll io) := by
  have hconnect := connect_quiet actor io.connect
  unfold poll
  dsimp only
  split
  · exact .published (hconnect.update (by constructor <;> rfl))
  · exact hconnect.polledConnected io _

/-! ## The invariant -/

structure Held (actor : Actor) : Prop where
  controller : ∀ owner, actor.controller = some owner → owner ∈ actor.leases
  connected : actor.leases ≠ ∅ → actor.disconnectResult = none

structure Fresh (actor : Actor) : Prop where
  writes : actor.writes = []
  shaken : actor.shaken = false

structure Turned (before after : Actor) : Prop where
  authorized : ∀ write ∈ after.writes, write.Authorized
  silent : after.shaken = true → after.writes = []
  latched : (after.shaken = true ∨ ∃ write ∈ after.writes, write.unresolved = true) →
    after.writeUncertain = true ∨ after.leases = ∅
  kept : before.writeUncertain = true → after.writeUncertain = true ∨ after.leases = ∅
  blocked : before.writeUncertain = true → after.writes = []
  held : Held before → Held after

theorem Turned.of_writes (hwrites : after.writes = [])
    (hlatched : after.shaken = true → after.writeUncertain = true ∨ after.leases = ∅)
    (hkept : before.writeUncertain = true → after.writeUncertain = true ∨ after.leases = ∅)
    (hheld : Held before → Held after) : Turned before after where
  authorized write hmem := by simp [hwrites] at hmem
  silent _ := hwrites
  latched h := by
    rcases h with hshaken | ⟨write, hmem, -⟩
    · exact hlatched hshaken
    · simp [hwrites] at hmem
  kept := hkept
  blocked _ := hwrites
  held := hheld

theorem Quiet.held (h : Quiet before after) (hheld : Held before) : Held after := by
  refine ⟨fun owner howner => ?_, fun hleases => ?_⟩
  · rw [h.leases]
    exact hheld.controller owner (h.controller.symm.trans howner)
  · rw [h.disconnectResult]
    exact hheld.connected (h.leases ▸ hleases)

theorem Quiet.latched (h : Quiet before after) (hfresh : Fresh before)
    (hshaken : after.shaken = true) : after.writeUncertain = true := by
  rcases h.shaken hshaken with hbefore | hlatched
  · rw [hfresh.shaken] at hbefore
    cases hbefore
  · exact hlatched

theorem Quiet.turned (h : Quiet before after) (hfresh : Fresh before) : Turned before after :=
  .of_writes (h.writes.trans hfresh.writes) (fun hshaken => .inl (h.latched hfresh hshaken))
    (fun huncertain => .inl (h.uncertain huncertain)) h.held

theorem Turned.after_quiet {mid : Actor} (hquiet : Quiet before mid) (h : Turned mid after) :
    Turned before after := { h with
  kept huncertain := h.kept (hquiet.uncertain huncertain)
  blocked huncertain := h.blocked (hquiet.uncertain huncertain)
  held hheld := h.held (hquiet.held hheld) }

theorem Fresh.looked (h : Fresh actor) (events : List ClockEvent) (now : Nat) :
    Fresh (actor.look events now) :=
  ⟨(quiet_look actor events now).writes.trans h.writes, (look_shaken actor events now).trans h.shaken⟩

theorem authorized_write (h : actor.authorized lease true = .ok ()) :
    lease ∈ actor.leases ∧ actor.writeUncertain = false ∧ actor.controller = some lease := by
  unfold authorized at h
  split at h
  · cases h
  next hleased =>
    split at h
    · cases h
    next hcertain =>
      split at h
      · cases h
      next hcontrols => exact ⟨by simpa using hleased, by simpa using hcertain, by simpa using hcontrols⟩

theorem authorized_lease {write : Bool} (h : actor.authorized lease write = .ok ()) :
    lease ∈ actor.leases := by
  unfold authorized at h
  split at h
  · cases h
  next hleased => simpa using hleased

theorem settleWrite_quiet (actor : Actor) (io : Io) (result : Except SourceError Unit) :
    Quiet actor (actor.settleWrite io result) := by
  cases result with
  | ok value =>
    exact Quiet.replied (.published ((Quiet.refl actor).update (by constructor <;> rfl))) io _
  | error error =>
    simp only [settleWrite]
    split
    · refine Quiet.replied (.faulted ?_ _ _) io _
      exact ⟨rfl, rfl, rfl, fun _ => rfl, rfl, fun _ => .inr rfl⟩
    · exact ((Quiet.refl actor).faultedIfLost _ _).replied io _

theorem settleWrite_shaken (actor : Actor) (io : Io) (result : Except SourceError Unit) :
    (actor.settleWrite io result).shaken = actor.shaken := by
  cases result with
  | ok value =>
    simp only [settleWrite, reply_shaken, publish_shaken]
    rfl
  | error error =>
    simp only [settleWrite]
    split
    · simp only [reply_shaken, fault_shaken]
      rfl
    · simp only [reply_shaken, faultIfLost_shaken]

theorem settleWrite_latched (actor : Actor) (io : Io) {error : SourceError}
    (hopen : error.leavesWriteOpen = true) :
    (actor.settleWrite io (.error error)).writeUncertain = true := by
  simp only [settleWrite, hopen, if_true]
  exact (Quiet.replied (.faulted (.refl _) _ _) io _).uncertain rfl

theorem settleWrite_turned {actor : Actor} {write : Write} {io : Io}
    {result : Except SourceError Unit} (hfresh : Fresh actor) (hauthorized : write.Authorized)
    (hcertain : actor.writeUncertain = false)
    (hresult : write.unresolved = true → ∃ error, result = .error error
      ∧ error.leavesWriteOpen = true) :
    Turned actor ((actor.emit (.wrote write)).settleWrite io result) := by
  have hquiet := settleWrite_quiet (actor.emit (.wrote write)) io result
  have hwrites : ((actor.emit (.wrote write)).settleWrite io result).writes = [write] := by
    rw [hquiet.writes]
    have hnone := hfresh.writes
    simp only [writes] at hnone
    simp [writes, emit, Effect.write?, hnone]
  have hshaken : ((actor.emit (.wrote write)).settleWrite io result).shaken = false := by
    rw [settleWrite_shaken]
    have hnone := hfresh.shaken
    simp only [shaken] at hnone
    simp only [shaken, emit, List.any_append, hnone]
    rfl
  have hnot : actor.writeUncertain ≠ true := by simp [hcertain]
  refine ⟨fun other hmem => ?_, fun h => ?_, fun h => ?_, fun h => absurd h hnot,
    fun h => absurd h hnot, fun hheld => hquiet.held ⟨hheld.controller, hheld.connected⟩⟩
  · rw [hwrites] at hmem
    rw [List.mem_singleton.mp hmem]
    exact hauthorized
  · rw [hshaken] at h
    cases h
  · rcases h with h | ⟨other, hmem, hunresolved⟩
    · rw [hshaken] at h
      cases h
    · rw [hwrites] at hmem
      obtain ⟨error, rfl, hopen⟩ := hresult (List.mem_singleton.mp hmem ▸ hunresolved)
      exact .inl (settleWrite_latched _ io hopen)

theorem dispatchWrite_turned {expectedGeneration : Option Uuid} (member : String)
    (parameters : Values) (io : Io) (hfresh : Fresh actor) (hleased : lease ∈ actor.leases)
    (hcertain : actor.writeUncertain = false) (hcontrols : actor.controller = some lease)
    (hcurrent : actor.superseded expectedGeneration = false) :
    Turned actor (actor.dispatchWrite lease expectedGeneration member parameters io) := by
  have hresult : (fence actor.clock actor.state.resumeEpoch .uncertain io.request).sent = true →
      ((fence actor.clock actor.state.resumeEpoch .uncertain io.request).clock.after io.settled).epoch
        = actor.state.resumeEpoch → _ := fence_unresumed
  unfold dispatchWrite
  dsimp only
  generalize fence actor.clock actor.state.resumeEpoch .uncertain io.request = fenced at hresult ⊢
  cases hsent : fenced.sent with
  | false =>
    rw [if_neg (by simp)]
    refine (Quiet.trans ?_ (settleWrite_quiet _ io _)).turned hfresh
    exact (Quiet.refl actor).update (by constructor <;> rfl)
  | true =>
    rw [if_pos rfl]
    have hread : Fresh { actor with clock := fenced.clock.after io.settled } :=
      ⟨hfresh.writes, hfresh.shaken⟩
    have hclock : Quiet actor { actor with clock := fenced.clock.after io.settled } :=
      (Quiet.refl actor).update (by constructor <;> rfl)
    refine Turned.after_quiet hclock (settleWrite_turned hread ?_ hcertain ?_)
    · refine ⟨hleased, hcontrols, hcertain, ?_⟩
      rintro generation rfl
      simpa [superseded] using hcurrent
    · -- a resume leaves the outcome open; without one the outcome is the backend's own
      intro hunresolved
      by_cases hresumed : (fenced.clock.after io.settled).epoch = actor.state.resumeEpoch
      · rw [hresult hsent hresumed]
        simp only [Write.unresolved, hresumed] at hunresolved ⊢
        cases hended : io.request.ended with
        | notified => simp [hended] at hunresolved
        | late => exact ⟨.uncertain, by simp, rfl⟩
        | answered outcome =>
          cases outcome with
          | ok value => simp [hended] at hunresolved
          | error error => exact ⟨error, by simp, by simpa [hended] using hunresolved⟩
      · exact ⟨.uncertain, by simp [hresumed], rfl⟩

theorem write_turned (lease : Uuid) (expectedGeneration : Option Uuid) (member : String)
    (parameters : Values) (io : Io) (hfresh : Fresh actor) :
    Turned actor (actor.write lease expectedGeneration member parameters io) := by
  have hconnect := connect_quiet actor io.connect
  unfold write
  split
  · exact (Quiet.refl actor).turned hfresh
  split
  · exact ((Quiet.refl actor).replied io _).turned hfresh
  next hauthorized =>
    dsimp only
    split
    · exact (hconnect.replied io _).turned hfresh
    next hok =>
      split
      · exact (hconnect.replied io _).turned hfresh
      next hcurrent =>
        obtain ⟨hleased, hcertain, hcontrols⟩ := authorized_write hauthorized
        obtain ⟨hshaken, huncertain⟩ := connect_certain hok
        refine Turned.after_quiet hconnect ?_
        exact dispatchWrite_turned member parameters io
          ⟨hconnect.writes.trans hfresh.writes, hshaken.trans hfresh.shaken⟩
          (hconnect.leases ▸ hleased) (huncertain.trans hcertain)
          (hconnect.controller.trans hcontrols) (by simpa using hcurrent)

/-! ## Leases and control -/

/-- A change of the leases or of control that writes nothing and keeps the latch. -/
structure Calm (before after : Actor) : Prop where
  uncertain : before.writeUncertain = true → after.writeUncertain = true
  writes : after.writes = before.writes
  shaken : after.shaken = true → before.shaken = true ∨ after.writeUncertain = true

theorem Quiet.calm (h : Quiet before after) : Calm before after :=
  { h with }

theorem Calm.turned (h : Calm before after) (hfresh : Fresh before)
    (hheld : Held before → Held after) : Turned before after :=
  .of_writes (h.writes.trans hfresh.writes)
    (fun hshaken => .inl ((h.shaken hshaken).resolve_left (by simp [hfresh.shaken])))
    (fun huncertain => .inl (h.uncertain huncertain)) hheld

theorem Turned.of_released (hfresh : Fresh before) (hwrites : after.writes = before.writes)
    (hleases : after.leases = ∅) (hcontroller : Held before → after.controller = none) :
    Turned before after :=
  .of_writes (hwrites.trans hfresh.writes) (fun _ => .inr hleases) (fun _ => .inr hleases)
    (fun hheld => ⟨(fun owner howner => by rw [hcontroller hheld] at howner; cases howner),
      fun hopen => absurd hleases hopen⟩)

theorem takeControl_cases (actor : Actor) (lease : Uuid) (acquire : Bool) :
    (actor.takeControl lease acquire).2 = actor ∨
      (lease ∈ actor.leases ∧ (actor.takeControl lease acquire).2
        = { actor with controller := some lease }) ∨
      (actor.takeControl lease acquire).2 = { actor with controller := none } := by
  unfold takeControl
  split
  · exact .inl rfl
  next hauthorized =>
    have hleased := authorized_lease hauthorized
    split
    · split
      · exact .inl rfl
      · exact .inr (.inl ⟨hleased, rfl⟩)
    · split
      · exact .inr (.inr rfl)
      · exact .inl rfl

theorem takeControl_held (lease : Uuid) (acquire : Bool) (hheld : Held actor) :
    Held (actor.takeControl lease acquire).2 := by
  rcases takeControl_cases actor lease acquire with hsame | ⟨hleased, htaken⟩ | hgiven
  · rw [hsame]
    exact hheld
  · rw [htaken]
    refine ⟨fun owner howner => ?_, hheld.connected⟩
    cases howner
    exact hleased
  · rw [hgiven]
    exact ⟨(fun owner howner => by cases howner), hheld.connected⟩

theorem takeControl_calm (actor : Actor) (lease : Uuid) (acquire : Bool) :
    Calm actor (actor.takeControl lease acquire).2
      ∧ (actor.takeControl lease acquire).2.leases = actor.leases
      ∧ (actor.takeControl lease acquire).2.disconnectResult = actor.disconnectResult := by
  rcases takeControl_cases actor lease acquire with hsame | ⟨-, htaken⟩ | hgiven
  · rw [hsame]
    exact ⟨(Quiet.refl actor).calm, rfl, rfl⟩
  · rw [htaken]
    exact ⟨⟨id, rfl, .inl⟩, rfl, rfl⟩
  · rw [hgiven]
    exact ⟨⟨id, rfl, .inl⟩, rfl, rfl⟩

theorem Calm.trans {first second third : Actor} (h : Calm first second) (h' : Calm second third) :
    Calm first third where
  uncertain := h'.uncertain ∘ h.uncertain
  writes := h'.writes.trans h.writes
  shaken hshaken := by
    rcases h'.shaken hshaken with hbefore | hlatched
    · exact (h.shaken hbefore).imp_right h'.uncertain
    · exact .inr hlatched

theorem control_turned (lease : Uuid) (acquire : Bool) (io : Io) (hfresh : Fresh actor) :
    Turned actor (actor.control lease acquire io) := by
  obtain ⟨hcalm, hleases, hdisconnect⟩ := takeControl_calm actor lease acquire
  unfold control
  split
  · exact (Quiet.refl actor).turned hfresh
  dsimp only
  split
  · -- a cancelled claim gives control back to whoever held it
    refine Calm.turned { hcalm with } hfresh fun hheld => ?_
    exact ⟨fun owner howner => hleases ▸ hheld.controller owner howner,
      fun hopen => hdisconnect.trans (hheld.connected (hleases ▸ hopen))⟩
  · have hreplied := (Quiet.refl (actor.takeControl lease acquire).2).replied io
      (actor.takeControl lease acquire).1
    exact (hcalm.trans hreplied.calm).turned hfresh fun hheld =>
      hreplied.held (takeControl_held lease acquire hheld)

/-- A disconnection keeps the leases and gives nobody control. -/
structure Disconnects (before after : Actor) : Prop where
  leases : after.leases = before.leases
  writes : after.writes = before.writes
  controller : after.controller = before.controller ∨ after.controller = none
  cleared : before.disconnectResult = none → after.controller = none

theorem disconnect_spec (actor : Actor) (io : DisconnectIo) :
    Disconnects actor (actor.disconnect io).2 := by
  unfold disconnect
  split
  next hdone => exact ⟨rfl, rfl, .inl rfl, fun hnone => by rw [hdone] at hnone; cases hnone⟩
  next =>
    have hemitted : ∀ {after : Actor}, Quiet actor after →
        Quiet actor (if (fence actor.clock actor.state.resumeEpoch .uncertain io.request).sent = true
          then after.emit .disconnected else after) := by
      intro after hafter
      split
      · exact hafter.emitted rfl rfl
      · exact hafter
    have hquiet := hemitted (.refl actor)
    exact ⟨hquiet.leases, (quiet_publish _).writes.trans hquiet.writes, .inr rfl, fun _ => rfl⟩

theorem controller_of_unleased (hheld : Held actor) (hempty : actor.leases = ∅) :
    actor.controller = none := by
  cases howner : actor.controller with
  | none => rfl
  | some owner =>
    have hmem := hheld.controller owner howner
    rw [hempty] at hmem
    simp at hmem

theorem surrender_spec (actor : Actor) (lease : Uuid) :
    Calm actor (actor.surrender lease) ∧ (actor.surrender lease).leases = actor.leases
      ∧ (actor.surrender lease).disconnectResult = actor.disconnectResult
      ∧ ∀ owner, (actor.surrender lease).controller = some owner →
        owner ≠ lease ∧ actor.controller = some owner := by
  unfold surrender
  split
  · exact ⟨⟨id, rfl, .inl⟩, rfl, rfl, fun owner howner => by cases howner⟩
  next hother =>
    refine ⟨(Quiet.refl actor).calm, rfl, rfl, fun owner howner => ⟨?_, howner⟩⟩
    rintro rfl
    exact hother howner

theorem controller_of_last {owner : Uuid} (hheld : Held actor)
    (hlast : actor.leases.erase lease = ∅) (howner : actor.controller = some owner) :
    owner = lease := by
  have hmem := hheld.controller owner howner
  by_contra hne
  have hkept : owner ∈ actor.leases.erase lease := Finset.mem_erase.mpr ⟨hne, hmem⟩
  rw [hlast] at hkept
  simp at hkept

theorem release_turned (lease : Uuid) (io : Io) (hfresh : Fresh actor) :
    Turned actor (actor.release lease io) := by
  unfold release
  dsimp only
  split
  next hlast =>
    have hempty : actor.leases.erase lease = ∅ := by
      simp only [Bool.and_eq_true, decide_eq_true_eq] at hlast
      exact hlast.2
    have hdisconnects := disconnect_spec { actor with leases := actor.leases.erase lease }
      io.disconnect
    generalize (disconnect _ io.disconnect).2 = gone at hdisconnects ⊢
    obtain ⟨hcalm, hleases, -, hcontroller⟩ := surrender_spec gone lease
    have hreplied := (Quiet.refl (gone.surrender lease)).published.replied io (.ok ())
    refine Turned.of_released hfresh ?_ ?_ fun hheld => ?_
    · exact hreplied.writes.trans (hcalm.writes.trans hdisconnects.writes)
    · exact hreplied.leases.trans (hleases.trans (hdisconnects.leases.trans hempty))
    · rw [hreplied.controller]
      cases howner : (gone.surrender lease).controller with
      | none => rfl
      | some owner =>
        obtain ⟨hother, hgone⟩ := hcontroller owner howner
        rcases hdisconnects.controller with hsame | hnone
        · exact absurd (controller_of_last hheld hempty (hsame.symm.trans hgone)) hother
        · rw [hnone] at hgone
          cases hgone
  next hmore =>
    obtain ⟨hcalm, hleases, hdisconnect, hcontroller⟩ :=
      surrender_spec { actor with leases := actor.leases.erase lease } lease
    have hreplied := (Quiet.refl
      ({ actor with leases := actor.leases.erase lease }.surrender lease)).published.replied io (.ok ())
    have hall := hcalm.trans hreplied.calm
    refine Calm.turned { hall with } hfresh fun hheld => ?_
    refine hreplied.held ⟨fun owner howner => ?_, fun hopen => ?_⟩
    · obtain ⟨hother, hbefore⟩ := hcontroller owner howner
      rw [hleases]
      exact Finset.mem_erase.mpr ⟨hother, hheld.controller owner hbefore⟩
    · rw [hdisconnect]
      refine hheld.connected fun hnone => hopen ?_
      rw [hleases]
      simp [hnone]

theorem rollback_turned (lease : Uuid) (io : Io) (hfresh : Fresh before) (hcalm : Calm before actor)
    (hcontroller : actor.controller = before.controller)
    (hleases : actor.leases.erase lease = before.leases)
    (hconnected : before.leases ≠ ∅ → actor.disconnectResult = before.disconnectResult) :
    Turned before (actor.rollback lease io) := by
  unfold rollback
  dsimp only
  rw [hleases]
  split
  next hempty =>
    have hdisconnects := disconnect_spec { actor with leases := before.leases } io.disconnect
    refine Turned.of_released hfresh (hdisconnects.writes.trans hcalm.writes)
      (hdisconnects.leases.trans hempty) fun hheld => ?_
    rcases hdisconnects.controller with hsame | hnone
    · exact hsame.trans (hcontroller.trans (controller_of_unleased hheld hempty))
    · exact hnone
  next hmore =>
    have hpublished := quiet_publish { actor with leases := before.leases }
    have hkept : Calm before { actor with leases := before.leases } :=
      { hcalm with }
    refine (hkept.trans hpublished.calm).turned hfresh fun hheld => hpublished.held ?_
    refine ⟨fun owner howner => hheld.controller owner (hcontroller.symm.trans howner), fun hopen => ?_⟩
    exact (hconnected hopen).trans (hheld.connected hopen)

theorem connectFirst_quiet (actor : Actor) (io : Io) :
    Quiet { actor with disconnectResult := none } (actor.connectFirst io) := by
  have hconnect := connect_quiet { actor with disconnectResult := none } io.connect
  simp only [connectFirst]
  split
  · exact hconnect.update (by constructor <;> rfl)
  · exact hconnect.update (by constructor <;> rfl)

structure Added (before after : Actor) (lease : Uuid) : Prop where
  calm : Calm before after
  leases : after.leases = insert lease before.leases
  controller : after.controller = before.controller
  kept : before.leases ≠ ∅ → after.disconnectResult = before.disconnectResult
  opened : before.leases = ∅ → after.disconnectResult = none

theorem insert_added (io : Io) (hnew : lease ∉ actor.leases) :
    Added actor
      ((if (insert lease actor.leases).card == 1 then
        { actor with leases := insert lease actor.leases }.connectFirst io
        else { actor with leases := insert lease actor.leases }).publish) lease := by
  have hcard : (insert lease actor.leases).card = actor.leases.card + 1 :=
    Finset.card_insert_of_notMem hnew
  split
  next hfirst =>
    have hquiet := (connectFirst_quiet { actor with leases := insert lease actor.leases } io).published
    have hempty : actor.leases = ∅ := by
      simp only [hcard, beq_iff_eq, Nat.add_eq_right] at hfirst
      exact Finset.card_eq_zero.mp hfirst
    exact ⟨{ hquiet with }, hquiet.leases, hquiet.controller,
      fun hopen => absurd hempty hopen, fun _ => hquiet.disconnectResult⟩
  next hmore =>
    have hquiet := quiet_publish { actor with leases := insert lease actor.leases }
    refine ⟨{ hquiet with }, hquiet.leases, hquiet.controller,
      fun _ => hquiet.disconnectResult, fun hempty => absurd ?_ hmore⟩
    simp [hempty]

theorem acquire_turned (lease : Uuid) (io : Io) (hfresh : Fresh actor) :
    Turned actor (actor.acquire lease io) := by
  unfold acquire
  split
  · exact (Quiet.refl actor).turned hfresh
  split
  · exact ((Quiet.refl actor).replied io _).turned hfresh
  dsimp only
  by_cases hmem : lease ∈ actor.leases
  · -- the lease is held already
    have hsame : insert lease actor.leases = actor.leases := Finset.insert_eq_self.mpr hmem
    simp only [hmem, not_true, decide_false, Bool.false_and, Bool.false_eq_true, if_false,
      Bool.and_false, hsame]
    exact ((Quiet.refl actor).published.replied io _).turned hfresh
  · simp only [hmem, not_false_iff, decide_true, Bool.true_and, Bool.and_true]
    have hadded := insert_added io hmem
    generalize publish _ = added at hadded ⊢
    split
    · refine rollback_turned lease io hfresh hadded.calm hadded.controller ?_ hadded.kept
      rw [hadded.leases]
      exact Finset.erase_insert hmem
    · have hreplied := (Quiet.refl added).replied io (.ok ())
      refine (hadded.calm.trans hreplied.calm).turned hfresh fun hheld => hreplied.held ?_
      refine ⟨fun owner howner => ?_, fun _ => ?_⟩
      · rw [hadded.leases]
        exact Finset.mem_insert_of_mem (hheld.controller owner (hadded.controller.symm.trans howner))
      · by_cases hempty : actor.leases = ∅
        · exact hadded.opened hempty
        · exact (hadded.kept hempty).trans (hheld.connected hempty)

theorem shutdown_turned (io : DisconnectIo) (drained : Except SourceError Unit)
    (hfresh : Fresh actor) : Turned actor (actor.shutdown io drained) := by
  have hdisconnects := disconnect_spec { actor with leases := ∅ } io
  have hstopped : Quiet ({ actor with leases := ∅ }.disconnect io).2 (actor.shutdown io drained) :=
    .published ((Quiet.refl _).update (by constructor <;> rfl))
  refine Turned.of_released hfresh (hstopped.writes.trans hdisconnects.writes)
    (hstopped.leases.trans hdisconnects.leases) fun hheld => ?_
  rw [hstopped.controller]
  by_cases hempty : actor.leases = ∅
  · rcases hdisconnects.controller with hsame | hnone
    · have hnone := controller_of_unleased hheld hempty
      exact hsame.trans hnone
    · exact hnone
  · exact hdisconnects.cleared (hheld.connected hempty)

theorem command_turned (command : Command) (io : Io) (hfresh : Fresh actor) :
    Turned actor (actor.command command io) := by
  cases command with
  | cameraImage lease expectedGeneration =>
    exact (cameraImage_quiet actor lease expectedGeneration io).turned hfresh
  | updateSimulation lease => exact (updateSimulation_quiet actor lease io).turned hfresh
  | refresh lease => exact (refresh_quiet actor lease io).turned hfresh
  | acquire lease => exact acquire_turned lease io hfresh
  | release lease => exact release_turned lease io hfresh
  | control lease claims => exact control_turned lease claims io hfresh
  | read lease expectedGeneration => exact (read_quiet actor lease expectedGeneration io).turned hfresh
  | write lease expectedGeneration member parameters =>
    exact write_turned lease expectedGeneration member parameters io hfresh

theorem queued_turned (queued : QueuedCommand) (io : Io) (hfresh : Fresh actor) :
    Turned actor (actor.queued queued io) := by
  unfold Actor.queued
  split
  · split
    · exact (Quiet.refl actor).turned hfresh
    · exact ((Quiet.refl actor).replied io _).turned hfresh
  · exact command_turned queued.command io hfresh

theorem turn_turned (op : Op) (hfresh : Fresh actor) : Turned actor (actor.turn op) := by
  cases op with
  | woken events now => exact (quiet_look actor events now).turned hfresh
  | poll events now io =>
    refine Turned.after_quiet (quiet_look actor events now) ?_
    have hlooked := hfresh.looked events now
    show Turned (actor.look events now)
      (if (actor.look events now).isDue io.due then (actor.look events now).poll io
        else actor.look events now)
    split
    · exact (poll_quiet _ io).turned hlooked
    · exact (Quiet.refl _).turned hlooked
  | command events now received receivedAt queued io =>
    refine Turned.after_quiet (quiet_look actor events now) ?_
    refine Turned.after_quiet (quiet_look _ received receivedAt) ?_
    exact queued_turned queued io ((hfresh.looked events now).looked received receivedAt)
  | shutdown events now io drained =>
    refine Turned.after_quiet (quiet_look actor events now) ?_
    exact shutdown_turned io drained (hfresh.looked events now)

/-! ## Runs -/

/-- What a step of the machine does to the fence, read off its effects. -/
structure Stepped (actor : Actor) (op : Op) : Prop where
  authorized : ∀ write, .wrote write ∈ (machine.step actor op).1 → write.Authorized
  silent : (machine.step actor op).1.any Effect.isUncertainHandshake = true →
    ∀ write, .wrote write ∉ (machine.step actor op).1
  latched : ((machine.step actor op).1.any Effect.isUncertainHandshake = true ∨
      ∃ write, .wrote write ∈ (machine.step actor op).1 ∧ write.unresolved = true) →
    (machine.next actor op).writeUncertain = true ∨ (machine.next actor op).leases = ∅
  kept : actor.writeUncertain = true →
    (machine.next actor op).writeUncertain = true ∨ (machine.next actor op).leases = ∅
  blocked : actor.writeUncertain = true → ∀ write, .wrote write ∉ (machine.step actor op).1
  held : Held actor → Held (machine.next actor op)

theorem mem_writes {write : Write} : write ∈ actor.writes ↔ .wrote write ∈ actor.log := by
  simp only [writes, List.mem_filterMap]
  constructor
  · rintro ⟨effect, hmem, heffect⟩
    cases effect <;> simp only [Effect.write?, reduceCtorEq, Option.some.injEq] at heffect
    subst heffect
    exact hmem
  · exact fun hmem => ⟨_, hmem, rfl⟩

theorem step_stepped (actor : Actor) (op : Op) : Stepped actor op := by
  have hturned : Turned { actor with log := [] } ({ actor with log := [] }.turn op) :=
    turn_turned op ⟨rfl, rfl⟩
  cases hstopped : actor.stopped with
  | true =>
    have hstep : machine.step actor op = ([], actor) := by simp [machine, hstopped]
    have hnext : machine.next actor op = actor := by simp [Machine.next, hstep]
    constructor <;> simp_all
  | false =>
    have hstep : machine.step actor op
        = (({ actor with log := [] }.turn op).log, { actor with log := [] }.turn op) := by
      simp [machine, hstopped]
    have hnext : machine.next actor op = { actor with log := [] }.turn op := by
      simp [Machine.next, hstep]
    have hnone : ({ actor with log := [] }.turn op).writes = [] →
        ∀ write, .wrote write ∉ ({ actor with log := [] }.turn op).log := by
      intro hwrites write hmem
      have hwrote := mem_writes.mpr hmem
      simp [hwrites] at hwrote
    refine ⟨?_, ?_, ?_, ?_, ?_, ?_⟩
    · rw [hstep]
      exact fun write hmem => hturned.authorized write (mem_writes.mpr hmem)
    · rw [hstep]
      exact fun hshaken => hnone (hturned.silent hshaken)
    · rw [hstep, hnext]
      exact fun hunresolved => hturned.latched (hunresolved.imp_right fun ⟨write, hmem, hopen⟩ =>
        ⟨write, mem_writes.mpr hmem, hopen⟩)
    · rw [hnext]
      exact hturned.kept
    · rw [hstep]
      exact fun huncertain => hnone (hturned.blocked huncertain)
    · rw [hnext]
      exact fun hheld => hturned.held ⟨hheld.controller, hheld.connected⟩

theorem spawn_held (setup : Setup) (clock : ResumeClock) (generation : Uuid) (now : Nat) :
    Held (spawn setup clock generation now) :=
  ⟨(fun owner howner => by cases howner), fun hopen => absurd rfl hopen⟩

theorem held_inductive (setup : Setup) (clock : ResumeClock) (generation : Uuid) (now : Nat) :
    machine.Inductive (spawn setup clock generation now) Held :=
  ⟨spawn_held setup clock generation now, fun op hheld => (step_stepped _ op).held hheld⟩

abbrev Turn : Type :=
  Transition Actor Op (List Effect)

def Dispatches (t : Turn) : Prop :=
  ∃ write, .wrote write ∈ t.result

def Shakes (t : Turn) : Prop :=
  t.result.any Effect.isUncertainHandshake = true

def Unresolved (t : Turn) : Prop :=
  Shakes t ∨ ∃ write, .wrote write ∈ t.result ∧ write.unresolved = true

def Released (t : Turn) : Prop :=
  t.after.leases = ∅

theorem uncertain_until :
    Machine.Until machine Held (fun actor => actor.writeUncertain = true) Released := by
  intro actor op _ huncertain
  exact ((step_stepped actor op).kept huncertain).symm

structure WriteFenced (run : List Turn) : Prop where
  /-- A write is dispatched for its controlling lease, unlatched, in the generation it expects. -/
  authorized : ∀ t ∈ run, ∀ write, .wrote write ∈ t.result → write.Authorized
  /-- A handshake that reports an uncertain write is not followed by another one in its turn. -/
  silent : ∀ t ∈ run, Shakes t → ¬Dispatches t
  /-- After an unknown outcome no write is dispatched before every lease was released. -/
  latched : ∀ {before mid after : List Turn} {t t' : Turn},
    run = before ++ t :: mid ++ t' :: after → Unresolved t → Dispatches t' →
    ∃ step ∈ t :: mid, Released step
  controller : ∀ t ∈ run, ∀ owner, t.after.controller = some owner → owner ∈ t.after.leases

/-- After a write with an unknown outcome the next one waits for the release of every lease. -/
theorem run_writeFenced (setup : Setup) (clock : ResumeClock) (generation : Uuid) (now : Nat)
    (ops : List Op) : WriteFenced (machine.run (spawn setup clock generation now) ops) := by
  have hinv := held_inductive setup clock generation now
  refine ⟨fun t hmem => ?_, fun t hmem hshakes hdispatches => ?_, ?_, fun t hmem => ?_⟩
  · obtain ⟨-, -, hstep⟩ := hinv.mem_run hmem
    rw [hstep]
    exact (step_stepped t.before t.op).authorized
  · obtain ⟨-, -, hstep⟩ := hinv.mem_run hmem
    rw [hstep] at hshakes hdispatches
    obtain ⟨write, hwrote⟩ := hdispatches
    exact (step_stepped t.before t.op).silent hshakes write hwrote
  · intro before mid after t t' hrun hunresolved hdispatches
    by_cases hreleased : t.after.leases = ∅
    · exact ⟨t, List.mem_cons_self, hreleased⟩
    · obtain ⟨step, hmem, hstep⟩ := uncertain_until.between
        (fun t => Unresolved t ∧ t.after.leases ≠ ∅) Dispatches hinv
        (fun actor op _ h => ((step_stepped actor op).latched h.1).resolve_right h.2)
        (fun actor op _ huncertain ⟨write, hwrote⟩ =>
          (step_stepped actor op).blocked huncertain write hwrote)
        hrun ⟨hunresolved, hreleased⟩ hdispatches
      exact ⟨step, List.mem_cons_of_mem _ hmem, hstep⟩
  · exact (hinv.mem_run hmem).2.1.controller

end Actor

end Regain.Hub
