import Regain.Hub.Source.WriteFence

/-!
# When a source is cleaned up

Only the removal of the last lease and the shutdown ask the backend to disconnect.  Between turns
the result of a cleanup is kept exactly while no lease is held.
-/

namespace Regain.Hub

open Lib

def Effect.isDisconnect : Effect → Bool
  | disconnected => true
  | published _ => false
  | handshake _ => false
  | wrote _ => false
  | polled _ => false
  | replied _ => false

namespace Actor

/-! ## Steps without a cleanup -/

def cleanups (actor : Actor) : Nat :=
  actor.log.countP Effect.isDisconnect

theorem emit_cleanups (actor : Actor) {effect : Effect} (h : effect.isDisconnect = false) :
    (actor.emit effect).cleanups = actor.cleanups := by
  simp [cleanups, emit, List.countP_append, h]

@[simp] theorem publish_cleanups (actor : Actor) : actor.publish.cleanups = actor.cleanups :=
  emit_cleanups _ rfl

@[simp] theorem reply_cleanups (actor : Actor) (io : Io) (result : Except SourceError Unit) :
    (actor.reply io result).cleanups = actor.cleanups := by
  unfold reply
  split
  · rfl
  · exact emit_cleanups actor rfl

@[simp] theorem resume_cleanups (actor : Actor) (now : Nat) :
    (actor.resume now).cleanups = actor.cleanups := by
  unfold resume
  split
  · rfl
  · exact publish_cleanups _

@[simp] theorem look_cleanups (actor : Actor) (events : List ClockEvent) (now : Nat) :
    (actor.look events now).cleanups = actor.cleanups :=
  resume_cleanups _ now

@[simp] theorem fault_cleanups (actor : Actor) (error : SourceError) (generation : Uuid) :
    (actor.fault error generation).cleanups = actor.cleanups :=
  publish_cleanups _

@[simp] theorem faultIfLost_cleanups (actor : Actor) (error : SourceError) (generation : Uuid) :
    (actor.faultIfLost error generation).cleanups = actor.cleanups := by
  unfold faultIfLost
  split
  · exact fault_cleanups actor error generation
  · rfl

@[simp] theorem handshake_cleanups (actor : Actor) (io : ConnectIo) (started : Nat) :
    (actor.handshake io started).2.cleanups = actor.cleanups := by
  unfold handshake
  split
  · exact emit_cleanups actor rfl
  · exact emit_cleanups _ rfl

@[simp] theorem connected_cleanups (actor : Actor) (io : ConnectIo)
    (result : Except SourceError Bool) :
    (actor.connected io result).2.cleanups = actor.cleanups := by
  cases result with
  | ok done =>
    cases done with
    | false => exact publish_cleanups _
    | true => exact publish_cleanups _
  | error error => exact fault_cleanups _ error io.generation

@[simp] theorem connect_cleanups (actor : Actor) (io : ConnectIo) :
    (actor.connect io).2.cleanups = actor.cleanups := by
  unfold connect
  split
  · rfl
  · dsimp only
    rw [connected_cleanups, handshake_cleanups, publish_cleanups]
    rfl

@[simp] theorem request_cleanups (actor : Actor) (exchange : Exchange Unit) (io : Io) :
    (actor.request exchange io).cleanups = actor.cleanups := by
  unfold request
  dsimp only
  split
  · exact reply_cleanups _ io _
  · rw [reply_cleanups, faultIfLost_cleanups]
    rfl

theorem updateSimulation_cleanups (actor : Actor) (lease : Uuid) (io : Io) :
    (actor.updateSimulation lease io).cleanups = actor.cleanups := by
  unfold updateSimulation
  split
  · rfl
  split
  · exact reply_cleanups actor io _
  split
  · exact reply_cleanups actor io _
  · rw [reply_cleanups, publish_cleanups]
    rfl

@[simp] theorem afterRefresh_cleanups (actor : Actor) (io : Io) (result : Except SourceError Unit) :
    (actor.afterRefresh io result).cleanups = actor.cleanups := by
  cases result with
  | ok value => rfl
  | error error =>
    simp only [afterRefresh]
    split
    · rfl
    split
    · exact faultIfLost_cleanups actor error io.generation
    · exact faultIfLost_cleanups actor error io.generation

theorem refresh_cleanups (actor : Actor) (lease : Uuid) (io : Io) :
    (actor.refresh lease io).cleanups = actor.cleanups := by
  unfold refresh
  split
  · rfl
  split
  · rw [reply_cleanups, publish_cleanups, afterRefresh_cleanups]
  · rw [reply_cleanups, publish_cleanups, afterRefresh_cleanups]
    rfl

theorem cameraImage_cleanups (actor : Actor) (lease expectedGeneration : Uuid) (io : Io) :
    (actor.cameraImage lease expectedGeneration io).cleanups = actor.cleanups := by
  unfold cameraImage
  split
  · rfl
  split
  · exact reply_cleanups actor io _
  dsimp only
  split
  · rw [reply_cleanups, connect_cleanups]
  split
  · rw [reply_cleanups, connect_cleanups]
  · rw [request_cleanups, connect_cleanups]

theorem read_cleanups (actor : Actor) (lease : Uuid) (expectedGeneration : Option Uuid) (io : Io) :
    (actor.read lease expectedGeneration io).cleanups = actor.cleanups := by
  unfold read
  split
  · rfl
  split
  · exact reply_cleanups actor io _
  dsimp only
  split
  · rw [reply_cleanups, connect_cleanups]
  split
  · rw [reply_cleanups, connect_cleanups]
  · rw [request_cleanups, connect_cleanups]

@[simp] theorem settleWrite_cleanups (actor : Actor) (io : Io) (result : Except SourceError Unit) :
    (actor.settleWrite io result).cleanups = actor.cleanups := by
  cases result with
  | ok value =>
    simp only [settleWrite, reply_cleanups, publish_cleanups]
    rfl
  | error error =>
    simp only [settleWrite]
    split
    · simp only [reply_cleanups, fault_cleanups]
      rfl
    · simp only [reply_cleanups, faultIfLost_cleanups]

@[simp] theorem dispatchWrite_cleanups (actor : Actor) (lease : Uuid)
    (expectedGeneration : Option Uuid) (member : String) (parameters : Values) (io : Io) :
    (actor.dispatchWrite lease expectedGeneration member parameters io).cleanups
      = actor.cleanups := by
  unfold dispatchWrite
  dsimp only
  rw [settleWrite_cleanups]
  split
  · exact emit_cleanups _ rfl
  · rfl

@[simp] theorem finishPoll_cleanups (actor : Actor) (io : PollIo) (sampled : Bool)
    (result : Except SourceError SampleBatch) :
    (actor.finishPoll io sampled result).cleanups = actor.cleanups := by
  cases result with
  | ok batch => exact (emit_cleanups _ rfl).trans (publish_cleanups _)
  | error error =>
    simp only [finishPoll]
    rw [emit_cleanups _ rfl, publish_cleanups]
    split
    · exact faultIfLost_cleanups actor error io.generation
    · rfl

@[simp] theorem pollConnected_cleanups (actor : Actor) (io : PollIo)
    (connection : Except SourceError Unit) :
    (actor.pollConnected io connection).cleanups = actor.cleanups := by
  unfold pollConnected
  cases connection with
  | error error =>
    dsimp only
    split
    · exact resume_cleanups _ io.settledAt
    · exact finishPoll_cleanups _ io _ _
  | ok value =>
    have hpublished : { actor with attempt := actor.attempt + 1 }.publish.cleanups
        = actor.cleanups := publish_cleanups _
    dsimp only
    split
    · exact (resume_cleanups _ io.settledAt).trans hpublished
    · exact (finishPoll_cleanups _ io _ _).trans hpublished

theorem poll_cleanups (actor : Actor) (io : PollIo) : (actor.poll io).cleanups = actor.cleanups := by
  unfold poll
  dsimp only
  split
  · rw [publish_cleanups]
    exact connect_cleanups actor io.connect
  · rw [pollConnected_cleanups, connect_cleanups]

@[simp] theorem connectFirst_cleanups (actor : Actor) (io : Io) :
    (actor.connectFirst io).cleanups = actor.cleanups := by
  have hconnect := connect_cleanups { actor with disconnectResult := none } io.connect
  simp only [connectFirst]
  split
  · exact hconnect
  · exact hconnect

@[simp] theorem surrender_cleanups (actor : Actor) (lease : Uuid) :
    (actor.surrender lease).cleanups = actor.cleanups := by
  unfold surrender
  split <;> rfl

theorem takeControl_cleanups (actor : Actor) (lease : Uuid) (acquire : Bool) :
    (actor.takeControl lease acquire).2.cleanups = actor.cleanups := by
  rcases takeControl_cases actor lease acquire with hsame | ⟨-, htaken⟩ | hgiven
  · rw [hsame]
  · rw [htaken]
    rfl
  · rw [hgiven]
    rfl

theorem control_cleanups (actor : Actor) (lease : Uuid) (acquire : Bool) (io : Io) :
    (actor.control lease acquire io).cleanups = actor.cleanups := by
  unfold control
  split
  · rfl
  dsimp only
  split
  · exact takeControl_cleanups actor lease acquire
  · rw [reply_cleanups, takeControl_cleanups]

/-! ## Cleanups -/

/-- The backend was asked to disconnect, or the cleanup was interrupted before that. -/
structure Cleaned (before after : Actor) : Prop where
  leases : after.leases = before.leases
  most : after.cleanups ≤ before.cleanups + 1
  result : after.disconnectResult ≠ none
  asked : after.cleanups = before.cleanups + 1
    ∨ after.disconnectResult = some (.error interrupted)

variable {actor after : Actor}

theorem disconnect_cleaned (hopen : actor.disconnectResult = none) (io : DisconnectIo) :
    Cleaned actor (actor.disconnect io).2 := by
  unfold disconnect
  rw [hopen]
  dsimp only
  have hinterrupted : (fence actor.clock actor.state.resumeEpoch .uncertain io.request).sent = false →
      (fence actor.clock actor.state.resumeEpoch .uncertain io.request).result
        = .error interrupted := by
    intro hsent
    unfold fence at hsent ⊢
    dsimp only at hsent ⊢
    split
    · rfl
    · next hentry =>
        rw [if_neg hentry] at hsent
        split at hsent <;> cases hsent
  generalize fence actor.clock actor.state.resumeEpoch .uncertain io.request = fenced at hinterrupted ⊢
  cases hsent : fenced.sent with
  | false =>
    rw [if_neg (by simp)]
    refine ⟨rfl, ?_, (by simp [publish, emit]), .inr ?_⟩
    · rw [publish_cleanups]
      exact Nat.le_succ _
    · rw [hinterrupted hsent]
      rfl
  | true =>
    rw [if_pos rfl]
    have hasked : (actor.emit .disconnected).cleanups = actor.cleanups + 1 := by
      simp [cleanups, emit, List.countP_append, Effect.isDisconnect]
    refine ⟨rfl, ?_, (by simp [publish, emit]), .inl ?_⟩
    · rw [publish_cleanups]
      exact le_of_eq hasked
    · rw [publish_cleanups]
      exact hasked

/-! ## The invariant -/

/-- Between turns the result of a cleanup is kept exactly while no lease is held. -/
def Settled (actor : Actor) : Prop :=
  actor.leases = ∅ ↔ actor.disconnectResult ≠ none

/-- What a turn does to the leases and the cleanups; it may have given out a new lease. -/
structure Accounts (before after : Actor) (acquired : Option Uuid) : Prop where
  leases : ∀ lease ∈ after.leases, lease ∈ before.leases ∨ acquired = some lease
  settled : Settled after
  most : after.cleanups ≤ 1
  asked : after.cleanups ≠ 0 → after.leases = ∅ ∧ (before.leases ≠ ∅ ∨ acquired ≠ none)
  closed : before.leases ≠ ∅ ∨ acquired ≠ none → after.leases = ∅ →
    after.cleanups = 1 ∨ after.disconnectResult = some (.error interrupted)

theorem accounts_same {before : Actor} (hfresh : before.cleanups = 0) (hsettled : Settled before)
    (hleases : after.leases = before.leases)
    (hresult : after.disconnectResult = before.disconnectResult)
    (hcleanups : after.cleanups = before.cleanups) : Accounts before after none where
  leases lease hmem := .inl (hleases ▸ hmem)
  settled := by
    unfold Settled at hsettled ⊢
    rw [hleases, hresult]
    exact hsettled
  most := by
    rw [hcleanups, hfresh]
    exact Nat.zero_le 1
  asked h := by
    rw [hcleanups, hfresh] at h
    exact absurd rfl h
  closed h hnone := by
    rcases h with hsome | hacquired
    · rw [hleases] at hnone
      exact absurd hnone hsome
    · exact absurd rfl hacquired

theorem Quiet.accounts {before : Actor} (h : Quiet before after) (hfresh : before.cleanups = 0)
    (hsettled : Settled before) (hcleanups : after.cleanups = before.cleanups) :
    Accounts before after none :=
  accounts_same hfresh hsettled h.leases h.disconnectResult hcleanups

theorem Cleaned.accounts {before mid : Actor} {acquired : Option Uuid} (h : Cleaned mid after)
    (hfresh : mid.cleanups = 0) (hnone : mid.leases = ∅)
    (hopen : before.leases ≠ ∅ ∨ acquired ≠ none) : Accounts before after acquired where
  leases lease hmem := by
    rw [h.leases, hnone] at hmem
    exact absurd hmem (Finset.notMem_empty lease)
  settled := ⟨fun _ => h.result, fun _ => h.leases.trans hnone⟩
  most := by
    have hmost := h.most
    omega
  asked _ := ⟨h.leases.trans hnone, hopen⟩
  closed _ _ := by
    rcases h.asked with hasked | hinterrupted
    · exact .inl (by omega)
    · exact .inr hinterrupted

theorem control_accounts (lease : Uuid) (acquire : Bool) (io : Io) (hfresh : actor.cleanups = 0)
    (hsettled : Settled actor) : Accounts actor (actor.control lease acquire io) none := by
  obtain ⟨-, hleases, hresult⟩ := takeControl_calm actor lease acquire
  have hcleanups := control_cleanups actor lease acquire io
  unfold control at hcleanups ⊢
  split at hcleanups
  · next hclosed =>
      rw [if_pos hclosed]
      exact accounts_same hfresh hsettled rfl rfl rfl
  next hlive =>
    rw [if_neg hlive]
    dsimp only at hcleanups ⊢
    split at hcleanups
    · next hcancelled =>
        rw [if_pos hcancelled]
        exact accounts_same hfresh hsettled hleases hresult hcleanups
    · next hkept =>
        rw [if_neg hkept]
        have hreplied := (Quiet.refl (actor.takeControl lease acquire).2).replied io
          (actor.takeControl lease acquire).1
        exact accounts_same hfresh hsettled (hreplied.leases.trans hleases)
          (hreplied.disconnectResult.trans hresult) hcleanups

theorem release_accounts (lease : Uuid) (io : Io) (hfresh : actor.cleanups = 0)
    (hsettled : Settled actor) :
    Accounts actor (actor.release lease io) none ∧ lease ∉ (actor.release lease io).leases := by
  unfold release
  dsimp only
  split
  next hlast =>
    simp only [Bool.and_eq_true, decide_eq_true_eq] at hlast
    have hheld : actor.leases ≠ ∅ := Finset.ne_empty_of_mem hlast.1
    have hopen : actor.disconnectResult = none := by
      by_contra hdone
      exact hheld (hsettled.mpr hdone)
    have hcleaned := disconnect_cleaned
      (show { actor with leases := actor.leases.erase lease }.disconnectResult = none from hopen)
      io.disconnect
    generalize (disconnect _ io.disconnect).2 = gone at hcleaned ⊢
    obtain ⟨-, hleases, hresult, -⟩ := surrender_spec gone lease
    have hreplied := (Quiet.refl (gone.surrender lease)).published.replied io (.ok ())
    have hall : Cleaned { actor with leases := actor.leases.erase lease }
        (((gone.surrender lease).publish).reply io (.ok ())) := by
      have hcleanups : (((gone.surrender lease).publish).reply io (.ok ())).cleanups
          = gone.cleanups := by
        rw [reply_cleanups, publish_cleanups, surrender_cleanups]
      refine ⟨hreplied.leases.trans (hleases.trans hcleaned.leases), ?_, ?_, ?_⟩
      · rw [hcleanups]
        exact hcleaned.most
      · rw [hreplied.disconnectResult, hresult]
        exact hcleaned.result
      · rw [hcleanups, hreplied.disconnectResult, hresult]
        exact hcleaned.asked
    refine ⟨hall.accounts hfresh hlast.2 (.inl hheld), ?_⟩
    rw [hall.leases]
    exact Finset.notMem_erase lease actor.leases
  next hmore =>
    obtain ⟨-, hleases, hresult, -⟩ :=
      surrender_spec { actor with leases := actor.leases.erase lease } lease
    have hreplied := (Quiet.refl
      ({ actor with leases := actor.leases.erase lease }.surrender lease)).published.replied io (.ok ())
    have hafter := hreplied.leases.trans hleases
    have hcleanups : ((({ actor with leases := actor.leases.erase lease }.surrender lease).publish).reply
        io (.ok ())).cleanups = 0 := by
      rw [reply_cleanups, publish_cleanups, surrender_cleanups]
      exact hfresh
    have hsame : actor.leases.erase lease = ∅ ↔ actor.leases = ∅ := by
      constructor
      · intro hnone
        by_cases hmem : lease ∈ actor.leases
        · simp [hmem, hnone] at hmore
        · rwa [Finset.erase_eq_of_notMem hmem] at hnone
      · intro hnone
        simp [hnone]
    refine ⟨⟨?_, ?_, ?_, ?_, ?_⟩, ?_⟩
    · intro other hmem
      rw [hafter] at hmem
      exact .inl (Finset.mem_of_mem_erase hmem)
    · unfold Settled at hsettled ⊢
      rw [hafter, hreplied.disconnectResult, hresult]
      exact hsame.trans hsettled
    · omega
    · intro hasked
      exact absurd hcleanups hasked
    · intro hopen hnone
      rw [hafter] at hnone
      rcases hopen with hsome | hacquired
      · exact absurd (hsame.mp hnone) hsome
      · exact absurd rfl hacquired
    · rw [hafter]
      exact Finset.notMem_erase lease actor.leases

/-- The lease that an acquisition adds, if its client is there and it is a new one. -/
def admitted (actor : Actor) (lease : Uuid) (io : Io) : Option Uuid :=
  if io.closed || lease.isNil || decide (lease ∈ actor.leases) then none else some lease

theorem insert_cleanups (actor : Actor) (lease : Uuid) (io : Io) :
    ((if (insert lease actor.leases).card == 1 then
        { actor with leases := insert lease actor.leases }.connectFirst io
        else { actor with leases := insert lease actor.leases }).publish).cleanups
      = actor.cleanups := by
  rw [publish_cleanups]
  split
  · exact connectFirst_cleanups _ io
  · rfl

theorem acquire_accounts (lease : Uuid) (io : Io) (hfresh : actor.cleanups = 0)
    (hsettled : Settled actor) :
    Accounts actor (actor.acquire lease io) (actor.admitted lease io) := by
  unfold acquire admitted
  by_cases hclosed : io.closed = true
  · rw [if_pos hclosed, if_pos (by simp [hclosed])]
    exact accounts_same hfresh hsettled rfl rfl rfl
  rw [if_neg hclosed]
  by_cases hnil : lease.isNil = true
  · rw [if_pos hnil, if_pos (by simp [hnil])]
    exact ((Quiet.refl actor).replied io _).accounts hfresh hsettled (reply_cleanups actor io _)
  rw [if_neg hnil]
  dsimp only
  by_cases hmem : lease ∈ actor.leases
  · -- the lease is held already
    have hsame : insert lease actor.leases = actor.leases := Finset.insert_eq_self.mpr hmem
    rw [if_pos (show (io.closed || lease.isNil || decide (lease ∈ actor.leases)) = true by simp [hmem])]
    simp only [hmem, not_true, decide_false, Bool.false_and, Bool.false_eq_true, if_false,
      Bool.and_false, hsame]
    refine ((Quiet.refl actor).published.replied io _).accounts hfresh hsettled ?_
    rw [reply_cleanups, publish_cleanups]
  · rw [if_neg (show ¬(io.closed || lease.isNil || decide (lease ∈ actor.leases)) = true by
      simp [hmem, hclosed, hnil])]
    simp only [hmem, not_false_iff, decide_true, Bool.true_and, Bool.and_true]
    have hadded := insert_added io hmem
    have hcleanups := insert_cleanups actor lease io
    generalize publish _ = added at hadded hcleanups ⊢
    have hopen : added.disconnectResult = none := by
      by_cases hempty : actor.leases = ∅
      · exact hadded.opened hempty
      · by_contra hdone
        rw [hadded.kept hempty] at hdone
        exact hempty (hsettled.mpr hdone)
    split
    · -- the client is gone: its lease is taken back
      unfold rollback
      dsimp only
      have herased : added.leases.erase lease = actor.leases := by
        rw [hadded.leases]
        exact Finset.erase_insert hmem
      rw [herased]
      split
      next hempty =>
        have hcleaned := disconnect_cleaned
          (show { added with leases := actor.leases }.disconnectResult = none from hopen)
          io.disconnect
        have hzero : { added with leases := actor.leases }.cleanups = 0 := hcleanups.trans hfresh
        exact hcleaned.accounts hzero hempty (.inr (by simp))
      next hmore =>
        have hpublished := quiet_publish { added with leases := actor.leases }
        have hzero : { added with leases := actor.leases }.publish.cleanups = 0 := by
          rw [publish_cleanups]
          exact hcleanups.trans hfresh
        refine ⟨fun other hother => .inl hother, ?_, by omega, fun hasked => absurd hzero hasked, ?_⟩
        · constructor
          · intro hnone
            exact absurd hnone hmore
          · intro hdone
            rw [hpublished.disconnectResult] at hdone
            exact absurd hopen hdone
        · intro _ hnone
          exact absurd hnone hmore
    · have hreplied := (Quiet.refl added).replied io (.ok ())
      have hzero : (added.reply io (.ok ())).cleanups = 0 := by
        rw [reply_cleanups, hcleanups]
        exact hfresh
      have hsome : (added.reply io (.ok ())).leases ≠ ∅ := by
        rw [hreplied.leases, hadded.leases]
        exact Finset.insert_ne_empty lease actor.leases
      refine ⟨?_, ?_, by omega, fun hasked => absurd hzero hasked, fun _ hnone => absurd hnone hsome⟩
      · intro other hother
        rw [hreplied.leases, hadded.leases] at hother
        rcases Finset.mem_insert.mp hother with hnew | hold
        · exact .inr (by rw [hnew])
        · exact .inl hold
      · constructor
        · intro hnone
          exact absurd hnone hsome
        · intro hdone
          rw [hreplied.disconnectResult] at hdone
          exact absurd hopen hdone

theorem shutdown_accounts (io : DisconnectIo) (drained : Except SourceError Unit)
    (hfresh : actor.cleanups = 0) (hsettled : Settled actor) :
    Accounts actor (actor.shutdown io drained) none ∧ (actor.shutdown io drained).leases = ∅ := by
  have hstopped : Quiet ({ actor with leases := ∅ }.disconnect io).2 (actor.shutdown io drained) :=
    .published ((Quiet.refl _).update (by constructor <;> rfl))
  have hcleanups : (actor.shutdown io drained).cleanups
      = ({ actor with leases := ∅ }.disconnect io).2.cleanups := publish_cleanups _
  by_cases hempty : actor.leases = ∅
  · -- the result of the last cleanup is repeated
    obtain ⟨result, hresult⟩ := Option.ne_none_iff_exists'.mp (hsettled.mp hempty)
    have hsame : ({ actor with leases := ∅ }.disconnect io).2 = { actor with leases := ∅ } := by
      unfold disconnect
      rw [hresult]
    have hleases : (actor.shutdown io drained).leases = ∅ := by
      rw [hstopped.leases, hsame]
    refine ⟨accounts_same hfresh hsettled (hleases.trans hempty.symm) ?_ ?_, hleases⟩
    · rw [hstopped.disconnectResult, hsame]
    · rw [hcleanups, hsame]
      rfl
  · have hopen : actor.disconnectResult = none := by
      by_contra hdone
      exact hempty (hsettled.mpr hdone)
    have hcleaned := disconnect_cleaned
      (show { actor with leases := ∅ }.disconnectResult = none from hopen) io
    have hall : Cleaned { actor with leases := ∅ } (actor.shutdown io drained) := by
      refine ⟨hstopped.leases.trans hcleaned.leases, ?_, ?_, ?_⟩
      · rw [hcleanups]
        exact hcleaned.most
      · rw [hstopped.disconnectResult]
        exact hcleaned.result
      · rw [hcleanups, hstopped.disconnectResult]
        exact hcleaned.asked
    exact ⟨hall.accounts hfresh rfl (.inl hempty), hall.leases⟩

/-! ## Runs -/

def acquires (actor : Actor) (queued : QueuedCommand) (io : Io) : Option Uuid :=
  match queued.command with
  | .acquire lease =>
    if queued.epoch = actor.state.resumeEpoch then actor.admitted lease io else none
  | _ => none

def acquired (actor : Actor) : Op → Option Uuid
  | .command events now received receivedAt queued io =>
    ((actor.look events now).look received receivedAt).acquires queued io
  | _ => none

theorem acquires_stale {queued : QueuedCommand} (io : Io)
    (h : (queued.epoch ≠ actor.state.resumeEpoch && !queued.command.isCleanup) = true) :
    actor.acquires queued io = none := by
  simp only [ne_eq, decide_not, Bool.and_eq_true, Bool.not_eq_true', decide_eq_false_iff_not] at h
  unfold acquires
  split
  · exact if_neg h.1
  · rfl

theorem dispatchWrite_same (actor : Actor) (lease : Uuid) (expectedGeneration : Option Uuid)
    (member : String) (parameters : Values) (io : Io) :
    (actor.dispatchWrite lease expectedGeneration member parameters io).leases = actor.leases
      ∧ (actor.dispatchWrite lease expectedGeneration member parameters io).disconnectResult
        = actor.disconnectResult := by
  unfold dispatchWrite
  dsimp only
  split
  · exact ⟨(settleWrite_quiet _ io _).leases, (settleWrite_quiet _ io _).disconnectResult⟩
  · exact ⟨(settleWrite_quiet _ io _).leases, (settleWrite_quiet _ io _).disconnectResult⟩

theorem write_accounts (lease : Uuid) (expectedGeneration : Option Uuid) (member : String)
    (parameters : Values) (io : Io) (hfresh : actor.cleanups = 0) (hsettled : Settled actor) :
    Accounts actor (actor.write lease expectedGeneration member parameters io) none := by
  have hconnect := connect_quiet actor io.connect
  have hcleanups := connect_cleanups actor io.connect
  unfold write
  split
  · exact accounts_same hfresh hsettled rfl rfl rfl
  split
  · exact ((Quiet.refl actor).replied io _).accounts hfresh hsettled (reply_cleanups actor io _)
  dsimp only
  split
  · refine (hconnect.replied io _).accounts hfresh hsettled ?_
    rw [reply_cleanups, hcleanups]
  split
  · refine (hconnect.replied io _).accounts hfresh hsettled ?_
    rw [reply_cleanups, hcleanups]
  · obtain ⟨hleases, hresult⟩ := dispatchWrite_same (actor.connect io.connect).2 lease
      expectedGeneration member parameters io
    refine accounts_same hfresh hsettled (hleases.trans hconnect.leases)
      (hresult.trans hconnect.disconnectResult) ?_
    rw [dispatchWrite_cleanups, hcleanups]

theorem command_accounts (epoch : Nat) (command : Command) (io : Io) (hfresh : actor.cleanups = 0)
    (hsettled : Settled actor) :
    Accounts actor (actor.queued ⟨epoch, command⟩ io) (actor.acquires ⟨epoch, command⟩ io)
      ∧ ∀ lease, command = .release lease → lease ∉ (actor.queued ⟨epoch, command⟩ io).leases := by
  unfold Actor.queued
  by_cases hstale : (epoch ≠ actor.state.resumeEpoch && !command.isCleanup) = true
  · -- a command from before a resume is refused
    rw [if_pos hstale, acquires_stale io hstale]
    constructor
    · split
      · exact accounts_same hfresh hsettled rfl rfl rfl
      · exact ((Quiet.refl actor).replied io _).accounts hfresh hsettled (reply_cleanups actor io _)
    · intro lease hrelease
      rw [hrelease] at hstale
      simp [Command.isCleanup] at hstale
  · rw [if_neg hstale]
    cases command with
    | cameraImage lease expectedGeneration =>
      exact ⟨(cameraImage_quiet actor lease expectedGeneration io).accounts hfresh hsettled
        (cameraImage_cleanups actor lease expectedGeneration io), fun other h => by cases h⟩
    | updateSimulation lease =>
      exact ⟨(updateSimulation_quiet actor lease io).accounts hfresh hsettled
        (updateSimulation_cleanups actor lease io), fun other h => by cases h⟩
    | refresh lease =>
      exact ⟨(refresh_quiet actor lease io).accounts hfresh hsettled
        (refresh_cleanups actor lease io), fun other h => by cases h⟩
    | acquire lease =>
      have hepoch : epoch = actor.state.resumeEpoch := by
        by_contra hne
        exact hstale (by simp [hne, Command.isCleanup])
      have hacquires : actor.acquires ⟨epoch, Command.acquire lease⟩ io
          = actor.admitted lease io := if_pos hepoch
      rw [hacquires]
      exact ⟨acquire_accounts lease io hfresh hsettled, fun other h => by cases h⟩
    | release lease =>
      obtain ⟨haccounts, hgone⟩ := release_accounts lease io hfresh hsettled
      refine ⟨haccounts, fun other h => ?_⟩
      cases h
      exact hgone
    | control lease claims =>
      exact ⟨control_accounts lease claims io hfresh hsettled, fun other h => by cases h⟩
    | read lease expectedGeneration =>
      exact ⟨(read_quiet actor lease expectedGeneration io).accounts hfresh hsettled
        (read_cleanups actor lease expectedGeneration io), fun other h => by cases h⟩
    | write lease expectedGeneration member parameters =>
      exact ⟨write_accounts lease expectedGeneration member parameters io hfresh hsettled,
        fun other h => by cases h⟩

theorem Quiet.before {before mid : Actor} {acquired : Option Uuid} (h : Quiet before mid)
    (haccounts : Accounts mid after acquired) : Accounts before after acquired := { haccounts with
  leases lease hmem := h.leases ▸ haccounts.leases lease hmem
  asked hasked := h.leases ▸ haccounts.asked hasked
  closed hopen := haccounts.closed (h.leases.symm ▸ hopen) }

theorem Quiet.settled {before : Actor} (h : Quiet before after) (hsettled : Settled before) :
    Settled after := by
  unfold Settled at hsettled ⊢
  rw [h.leases, h.disconnectResult]
  exact hsettled

/-- A turn takes only the lease that a release names, and a shutdown takes all of them. -/
structure Takes (after : Actor) (op : Op) : Prop where
  released : ∀ events now received receivedAt epoch io lease,
    op = .command events now received receivedAt ⟨epoch, .release lease⟩ io → lease ∉ after.leases
  stopped : ∀ events now io drained, op = .shutdown events now io drained → after.leases = ∅

theorem turn_accounts (op : Op) (hfresh : actor.cleanups = 0) (hsettled : Settled actor) :
    Accounts actor (actor.turn op) (actor.acquired op) ∧ Takes (actor.turn op) op := by
  cases op with
  | woken events now =>
    refine ⟨(quiet_look actor events now).accounts hfresh hsettled (look_cleanups actor events now),
      ⟨?_, ?_⟩⟩
    · intro _ _ _ _ _ _ _ h
      cases h
    · intro _ _ _ _ h
      cases h
  | poll events now io =>
    have hlook := quiet_look actor events now
    refine ⟨?_, ⟨?_, ?_⟩⟩
    · change Accounts actor
        (if (actor.look events now).isDue io.due then (actor.look events now).poll io
          else actor.look events now) none
      split
      · refine (hlook.trans (poll_quiet _ io)).accounts hfresh hsettled ?_
        rw [poll_cleanups, look_cleanups]
      · exact hlook.accounts hfresh hsettled (look_cleanups actor events now)
    · intro _ _ _ _ _ _ _ h
      cases h
    · intro _ _ _ _ h
      cases h
  | command events now received receivedAt queued io =>
    have hlook := (quiet_look actor events now).trans
      (quiet_look (actor.look events now) received receivedAt)
    have hlooked : ((actor.look events now).look received receivedAt).cleanups = 0 := by
      rw [look_cleanups, look_cleanups]
      exact hfresh
    obtain ⟨epoch, command⟩ := queued
    obtain ⟨haccounts, hreleased⟩ :=
      command_accounts epoch command io hlooked (hlook.settled hsettled)
    refine ⟨hlook.before haccounts, ⟨?_, ?_⟩⟩
    · intro _ _ _ _ _ _ lease h
      cases h
      exact hreleased lease rfl
    · intro _ _ _ _ h
      cases h
  | shutdown events now io drained =>
    have hlook := quiet_look actor events now
    have hlooked : (actor.look events now).cleanups = 0 := by
      rw [look_cleanups]
      exact hfresh
    obtain ⟨haccounts, hnone⟩ := shutdown_accounts io drained hlooked (hlook.settled hsettled)
    refine ⟨hlook.before haccounts, ⟨?_, ?_⟩⟩
    · intro _ _ _ _ _ _ _ h
      cases h
    · intro _ _ _ _ _
      exact hnone

end Actor

end Regain.Hub
