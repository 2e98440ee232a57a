import Regain.Core.UsbPeripherals

/-!
# The fence of unconfirmed resets

After a reset no exposure is admitted until the episode is confirmed, or the camera
is retired and then reconnected.
-/

namespace Regain.Core.UsbPeripherals

open Lib

abbrev Step : Type :=
  Transition Handle Op Result

/-! ## Steps -/

/-- What a step does to the shared state and to the episode counter. -/
inductive Changes (handle : Handle) : Op → State → Nat → Prop
  | same (op : Op) : Changes handle op handle.state handle.lastId
  | enabled (enabled : Bool) :
      Changes handle (.enable enabled) { handle.state with enabled := enabled } handle.lastId
  | reconnected (retired : handle.state.retired = true) :
      Changes handle .reconnectAfterClose
        { handle.state with retired := false, blocked := none } handle.lastId
  | retired : Changes handle .retire handle.state.retire handle.lastId
  | begun (seed id : Nat) (ready : handle.state.ensureReady = .ok ()) (fresh : handle.lastId < id) :
      Changes handle (.begin seed)
        { handle.state with pending := some { id := id, deadline := none, reply := true } } id
  | taken (acknowledgement : Acknowledgement) (now : Nat) (pending : Pending)
      (held : handle.state.pending = some pending) (same : pending.id = acknowledgement.id)
      (timely : ∃ deadline, pending.deadline = some deadline ∧ now < deadline)
      (reply : pending.reply = true) :
      Changes handle (.acknowledge acknowledgement now)
        { handle.state with pending := some { pending with reply := false } } handle.lastId
  | awaited (now : Nat) (pending : Pending) (held : handle.state.pending = some pending) :
      Changes handle (.wait pending.id now)
        { handle.state with
          pending := some { pending with deadline := some (now + waitNanoseconds) }
          recoveryId := some pending.id } handle.lastId
  | finished (id : Nat) (outcome : Except Error Unit)
      (decided : handle.episodes id = some (.decided outcome))
      (pending : handle.state.isPending id = true) :
      Changes handle (.finish id)
        { handle.state with
          pending := none
          blocked := (Handle.failureOf outcome).map State.blockedMessage
          recoveryId := none } handle.lastId
  | dropped (id : Nat) (pending : handle.state.isPending id = true) :
      Changes handle (.drop id)
        { handle.state with
          pending := none
          blocked := some (State.blockedMessage "recovery did not complete")
          recoveryId := none } handle.lastId

theorem takeReply_cases (state : State) (acknowledgement : Acknowledgement) (now : Nat) :
    ((state.takeReply acknowledgement now).2 = state
        ∧ ∃ error, (state.takeReply acknowledgement now).1 = .error error) ∨
      ((state.takeReply acknowledgement now).1 = .ok () ∧ ∃ pending, state.pending = some pending
        ∧ pending.id = acknowledgement.id
        ∧ (∃ deadline, pending.deadline = some deadline ∧ now < deadline) ∧ pending.reply = true
        ∧ (state.takeReply acknowledgement now).2
          = { state with pending := some { pending with reply := false } }) := by
  unfold State.takeReply
  split
  · exact .inl ⟨rfl, _, rfl⟩
  split
  · exact .inl ⟨rfl, _, rfl⟩
  next pending hpending =>
    by_cases hid : pending.id = acknowledgement.id
    · rw [if_neg (not_not_intro hid)]
      cases hdeadline : pending.deadline with
      | none => exact .inl ⟨rfl, _, rfl⟩
      | some deadline =>
        by_cases htimely : now < deadline
        · cases hreply : pending.reply with
          | false => exact .inl (by simp [htimely])
          | true =>
            refine .inr ⟨by simp [htimely], pending, hpending, hid,
              ⟨deadline, hdeadline, htimely⟩, hreply, ?_⟩
            simp [htimely, hid, hdeadline]
        · exact .inl (by simp [htimely])
    · rw [if_pos hid]
      exact .inl ⟨rfl, _, rfl⟩

theorem ensureReady_ok {state : State} (hready : state.ensureReady = .ok ()) :
    state.retired = false ∧ state.blocked = none ∧ state.pending = none := by
  unfold State.ensureReady at hready
  split at hready
  · cases hready
  next hretired =>
    split at hready
    · cases hready
    next hblocked =>
      split at hready
      · cases hready
      next hpending => exact ⟨by simpa using hretired, hblocked, by simpa using hpending⟩

@[simp] theorem stage_state (handle : Handle) (id : Nat) (stage : Stage) :
    (handle.stage id stage).state = handle.state :=
  rfl

@[simp] theorem stage_lastId (handle : Handle) (id : Nat) (stage : Stage) :
    (handle.stage id stage).lastId = handle.lastId :=
  rfl

@[simp] theorem stage_episodes (handle : Handle) (id other : Nat) (stage : Stage) :
    (handle.stage id stage).episodes other
      = if other = id then some stage else handle.episodes other :=
  rfl

theorem finish_cases (state : State) (id : Nat) (failure : Option String) :
    (state.isPending id = false ∧ state.finish id failure = state) ∨
      (state.isPending id = true ∧ state.finish id failure
        = { state with
            pending := none
            blocked := failure.map State.blockedMessage
            recoveryId := none }) := by
  unfold State.finish
  cases hpending : state.isPending id with
  | true => exact .inr ⟨rfl, rfl⟩
  | false => exact .inl ⟨rfl, rfl⟩

theorem begin_cases (handle : Handle) (seed : Nat) :
    ((handle.begin seed).2 = handle ∧ ∀ id, (handle.begin seed).1 ≠ .ok (some id)) ∨
      ∃ id, handle.state.ensureReady = .ok () ∧ handle.lastId < id
        ∧ handle.begin seed = (.ok (some id),
          { handle with
            state := { handle.state with
              pending := some { id := id, deadline := none, reply := true } }
            lastId := id }.stage id .reserved) := by
  unfold Handle.begin
  split
  · exact .inl ⟨rfl, fun _ h => by cases h⟩
  next hready =>
    split
    · exact .inl ⟨rfl, fun _ h => by cases h⟩
    · split
      · exact .inl ⟨rfl, fun _ h => by cases h⟩
      next id hid =>
        refine .inr ⟨id, hready, ?_, rfl⟩
        unfold Handle.nextId at hid
        split at hid
        · cases hid
          omega
        · cases hid

theorem wait_cases (handle : Handle) (id now : Nat) :
    handle.wait id now
        = (some (.error (.invalid "USB peripheral recovery was retired")), handle.stage id .finished) ∨
      ∃ pending, handle.state.pending = some pending ∧ pending.id = id ∧ handle.wait id now
        = (none,
          { handle with
            state := { handle.state with
              pending := some { pending with deadline := some (now + waitNanoseconds) }
              recoveryId := some id } }.stage id (.waiting (now + waitNanoseconds) none)) := by
  unfold Handle.wait
  cases hheld : handle.state.pending with
  | none => exact .inl rfl
  | some pending =>
    by_cases hid : pending.id = id
    · exact .inr ⟨pending, rfl, hid, if_pos hid⟩
    · exact .inl (if_neg hid)

theorem step_changes (handle : Handle) (op : Op) :
    Changes handle op (machine.next handle op).state (machine.next handle op).lastId := by
  cases op with
  | enable enabled =>
    simp only [Machine.next, machine, State.enable]
    split
    · exact .enabled enabled
    · exact .same _
  | ensureReady => exact .same _
  | reconnectAfterClose =>
    simp only [Machine.next, machine, State.reconnectAfterClose]
    split
    next hretired => exact .reconnected hretired
    next => exact .same _
  | retire => exact .retired
  | begin seed =>
    simp only [Machine.next, machine]
    rcases begin_cases handle seed with ⟨hsame, -⟩ | ⟨id, hready, hfresh, hbegun⟩
    · rw [hsame]
      exact .same _
    · rw [hbegun]
      exact .begun seed id hready hfresh
  | acknowledge acknowledgement now =>
    have hcases := takeReply_cases handle.state acknowledgement now
    simp only [Machine.next, machine, Handle.acknowledge]
    rcases hcases with ⟨hsame, error, herror⟩ | ⟨htaken, pending, hheld, hid, htimely, hreply, hnext⟩
    · rw [herror, hsame]
      exact .same _
    · rw [htaken, hnext]
      have hchange := Changes.taken acknowledgement now pending hheld hid htimely hreply
      dsimp only
      split
      · exact hchange
      · exact hchange
  | wait id now =>
    simp only [Machine.next, machine]
    split
    · rcases wait_cases handle id now with hrefused | ⟨pending, hheld, rfl, hwaits⟩
      · rw [hrefused]
        exact .same _
      · rw [hwaits]
        exact .awaited now pending hheld
    · exact .same _
  | poll id now cancelled =>
    simp only [Machine.next, machine]
    split
    · split <;> exact .same _
    · exact .same _
  | finish id =>
    simp only [Machine.next, machine, Handle.conclude]
    split
    next outcome hdecided =>
      rcases finish_cases handle.state id (Handle.failureOf outcome) with ⟨-, hsame⟩ |
        ⟨hpending, hnext⟩
      · simp only [stage_state, stage_lastId, hsame]
        exact .same _
      · simp only [stage_state, stage_lastId, hnext]
        exact .finished id outcome hdecided hpending
    next => exact .same _
  | drop id =>
    simp only [Machine.next, machine, Handle.conclude]
    split
    · exact .same _
    · exact .same _
    next =>
      rcases finish_cases handle.state id (some "recovery did not complete") with ⟨-, hsame⟩ |
        ⟨hpending, hnext⟩
      · simp only [stage_state, stage_lastId, hsame]
        exact .same _
      · simp only [stage_state, stage_lastId, hnext]
        exact .dropped id hpending

/-! ## The invariant -/

/-- A pending episode is not yet settled, and no episode is younger than the counter says. -/
structure Sound (handle : Handle) : Prop where
  pending : ∀ pending, handle.state.pending = some pending →
    handle.state.retired = false ∧ handle.state.blocked = none ∧ pending.id ≤ handle.lastId
  fresh : ∀ id, handle.lastId < id → handle.episodes id = none

theorem default_sound : Sound Handle.default :=
  ⟨(fun _ h => by cases h), fun _ _ => rfl⟩

variable {handle : Handle} {op : Op} {id : Nat} {acknowledgement : Acknowledgement}

theorem pending_of_isPending {state : State} (hpending : state.isPending id = true) :
    ∃ pending, state.pending = some pending ∧ pending.id = id := by
  unfold State.isPending at hpending
  cases hheld : state.pending with
  | none => simp [hheld] at hpending
  | some pending => exact ⟨pending, rfl, by simpa [hheld] using hpending⟩

inductive Advances (handle : Handle) (id : Nat) : Op → Result → Option Stage → Prop
  | same (op : Op) (result : Result) : Advances handle id op result (handle.episodes id)
  | begun (seed : Nat) (fresh : handle.lastId < id)
      (counted : (machine.next handle (.begin seed)).lastId = id) :
      Advances handle id (.begin seed) (.began (.ok (some id))) (some .reserved)
  | acknowledged (acknowledgement : Acknowledgement) (now deadline : Nat)
      (mail : Option Acknowledgement) (same : acknowledgement.id = id)
      (waiting : handle.episodes id = some (.waiting deadline mail)) :
      Advances handle id (.acknowledge acknowledgement now) (.answered (.ok ()))
        (some (.waiting deadline (some acknowledgement)))
  | waits (now : Nat) (reserved : handle.episodes id = some .reserved) :
      Advances handle id (.wait id now) .done (some (.waiting (now + waitNanoseconds) none))
  | decided (now deadline : Nat) (cancelled : Bool) (mail : Option Acknowledgement)
      (outcome : Except Error Unit) (waiting : handle.episodes id = some (.waiting deadline mail))
      (replied : outcome = .ok () → ∃ reply, mail = some reply ∧ reply.success = true) :
      Advances handle id (.poll id now cancelled) .done (some (.decided outcome))
  | ended (op : Op) (result : Result) (known : handle.episodes id ≠ none) :
      Advances handle id op result (some .finished)

theorem poll_replied {now deadline : Nat} {mail : Option Acknowledgement} {cancelled : Bool}
    {outcome : Except Error Unit}
    (hpolled : handle.poll id now deadline mail cancelled = some outcome) (hok : outcome = .ok ()) :
    ∃ reply, mail = some reply ∧ reply.success = true := by
  subst hok
  unfold Handle.poll at hpolled
  split at hpolled
  · cases hpolled
  split at hpolled
  · cases hpolled
  split at hpolled
  next reply =>
    refine ⟨reply, rfl, ?_⟩
    simp only [Handle.replyOutcome, Option.some.injEq] at hpolled
    split at hpolled
    next hsuccess => exact hsuccess
    next => cases hpolled
  next =>
    split at hpolled
    · cases hpolled
    · cases hpolled

theorem step_advances (handle : Handle) (op : Op) (id : Nat) :
    Advances handle id op (machine.step handle op).1 ((machine.step handle op).2.episodes id) := by
  cases op with
  | enable enabled => exact .same _ _
  | ensureReady => exact .same _ _
  | reconnectAfterClose => exact .same _ _
  | retire => exact .same _ _
  | begin seed =>
    simp only [machine]
    rcases begin_cases handle seed with ⟨hsame, -⟩ | ⟨fresh, hready, hfresh, hbegun⟩
    · rw [hsame]
      exact .same _ _
    · rw [hbegun]
      simp only [stage_episodes]
      split
      next hid =>
        subst hid
        exact .begun seed hfresh (by simp only [Machine.next, machine, hbegun, stage_lastId])
      next => exact .same _ _
  | acknowledge acknowledgement now =>
    simp only [machine, Handle.acknowledge]
    split
    · exact .same _ _
    · split
      next deadline mail hwaiting =>
        simp only [stage_episodes]
        split
        next hid =>
          subst hid
          exact .acknowledged acknowledgement now deadline mail rfl hwaiting
        next => exact .same _ _
      next => exact .same _ _
  | wait other now =>
    simp only [machine]
    split
    next hreserved =>
      rcases wait_cases handle other now with hrefused | ⟨pending, hheld, -, hwaits⟩
      · rw [hrefused]
        simp only [stage_episodes]
        split
        next hid =>
          subst hid
          exact .ended _ _ (by simp [hreserved])
        next => exact .same _ _
      · rw [hwaits]
        simp only [stage_episodes]
        split
        next hid =>
          subst hid
          exact .waits now hreserved
        next => exact .same _ _
    next => exact .same _ _
  | poll other now cancelled =>
    simp only [machine]
    split
    next deadline mail hwaiting =>
      split
      next => exact .same _ _
      next outcome hpolled =>
        simp only [stage_episodes]
        split
        next hid =>
          subst hid
          exact .decided now deadline cancelled mail outcome hwaiting (poll_replied hpolled)
        next => exact .same _ _
    next => exact .same _ _
  | finish other =>
    simp only [machine, Handle.conclude]
    split
    next outcome hdecided =>
      simp only [stage_episodes]
      split
      next hid =>
        subst hid
        exact .ended _ _ (by simp [hdecided])
      next => exact .same _ _
    next => exact .same _ _
  | drop other =>
    simp only [machine, Handle.conclude]
    split
    · exact .same _ _
    · exact .same _ _
    next stage hknown =>
      simp only [stage_episodes]
      split
      next hid =>
        subst hid
        exact .ended _ _ (by simp [hknown])
      next => exact .same _ _

theorem lastId_le_next (handle : Handle) (op : Op) :
    handle.lastId ≤ (machine.next handle op).lastId := by
  have hchanges := step_changes handle op
  generalize (machine.next handle op).state = state at hchanges
  generalize (machine.next handle op).lastId = lastId at hchanges
  cases hchanges with
  | begun seed id hready hfresh => exact Nat.le_of_lt hfresh
  | _ => exact Nat.le_refl _

theorem sound_next (op : Op) (hsound : Sound handle) : Sound (machine.next handle op) := by
  refine ⟨fun pending hpending => ?_, fun id hyoung => ?_⟩
  · have hchanges := step_changes handle op
    generalize (machine.next handle op).state = state at hchanges hpending ⊢
    generalize (machine.next handle op).lastId = lastId at hchanges ⊢
    cases hchanges with
    | same => exact hsound.pending pending hpending
    | enabled enabled => exact hsound.pending pending hpending
    | reconnected hretired =>
      have hbefore := (hsound.pending pending hpending).1
      rw [hretired] at hbefore
      cases hbefore
    | retired => cases hpending
    | begun seed id hready hfresh =>
      obtain ⟨hretired, hblocked, -⟩ := ensureReady_ok hready
      cases hpending
      exact ⟨hretired, hblocked, Nat.le_refl _⟩
    | taken acknowledgement now held hheld =>
      cases hpending
      exact hsound.pending held hheld
    | awaited now held hheld =>
      cases hpending
      exact hsound.pending held hheld
    | finished => cases hpending
    | dropped => cases hpending
  · have hadvances := step_advances handle op id
    have hle := lastId_le_next handle op
    have hbefore : handle.episodes id = none := hsound.fresh id (by omega)
    show (machine.step handle op).2.episodes id = none
    generalize (machine.step handle op).1 = result at hadvances
    generalize (machine.step handle op).2.episodes id = stage at hadvances ⊢
    cases hadvances with
    | same => exact hbefore
    | begun seed hfresh hcounted => omega
    | acknowledged acknowledgement now deadline mail hsame hwaiting => simp [hbefore] at hwaiting
    | waits now hreserved => simp [hbefore] at hreserved
    | decided now deadline cancelled mail outcome hwaiting => simp [hbefore] at hwaiting
    | ended _ _ hknown => exact absurd hbefore hknown

theorem sound_inductive : machine.Inductive Handle.default Sound :=
  ⟨default_sound, fun op hsound => sound_next op hsound⟩

/-! ## Episodes -/

def Begins (id : Nat) (t : Step) : Prop :=
  ∃ seed, t.op = .begin seed ∧ t.result = .began (.ok (some id))

def Admits (t : Step) : Prop :=
  (t.op = .ensureReady ∧ t.result = .answered (.ok ())) ∨
    ∃ seed episode, t.op = .begin seed ∧ t.result = .began (.ok episode)

def Confirms (id : Nat) (t : Step) : Prop :=
  t.op = .finish id ∧ t.before.episodes id = some (.decided (.ok ()))
    ∧ t.before.state.isPending id = true

def Retires (t : Step) : Prop :=
  t.op = .retire

def Reconnects (t : Step) : Prop :=
  t.op = .reconnectAfterClose ∧ t.before.state.retired = true

def Accepts (acknowledgement : Acknowledgement) (t : Step) : Prop :=
  ∃ now, t.op = .acknowledge acknowledgement now ∧ t.result = .answered (.ok ())

def Ends (id : Nat) (t : Step) : Prop :=
  t.op = .finish id ∨ t.op = .drop id

inductive Recovery (id : Nat) : Op → Prop
  | wait (now : Nat) : Recovery id (.wait id now)
  | poll (now : Nat) (cancelled : Bool) : Recovery id (.poll id now cancelled)
  | finish : Recovery id (.finish id)
  | drop : Recovery id (.drop id)

def Recovers (id : Nat) (t : Step) : Prop :=
  Recovery id t.op

def Fails (id : Nat) (t : Step) : Prop :=
  Ends id t ∧ t.result ≠ .refused ∧ t.before.state.isPending id = true
    ∧ ¬Confirms id t

/-! ## Unconfirmed episodes -/

/-- The episode, or a failed one, keeps the camera that is not retired from exposures. -/
def Unconfirmed (id : Nat) (handle : Handle) : Prop :=
  handle.state.retired = false ∧
    (handle.state.isPending id = true ∨ handle.state.blocked ≠ none)

theorem unconfirmed_held (hunconfirmed : Unconfirmed id handle) :
    handle.state.ensureReady ≠ .ok () := by
  intro hready
  obtain ⟨-, hblocked, hpending⟩ := ensureReady_ok hready
  rcases hunconfirmed.2 with h | h
  · simp [State.isPending, hpending] at h
  · exact h hblocked

theorem unconfirmed_until (id : Nat) :
    Machine.Until machine Sound (Unconfirmed id) (fun t => Confirms id t ∨ Retires t) := by
  rintro handle op hsound ⟨hretired, hheld⟩
  have hchanges := step_changes handle op
  show _ ∨ ((machine.next handle op).state.retired = false
    ∧ ((machine.next handle op).state.isPending id = true
      ∨ (machine.next handle op).state.blocked ≠ none))
  generalize hnext : (machine.next handle op).state = state at hchanges ⊢
  generalize (machine.next handle op).lastId = lastId at hchanges
  cases hchanges with
  | same => exact .inr ⟨hretired, hheld⟩
  | enabled enabled => exact .inr ⟨hretired, hheld⟩
  | reconnected hwas =>
    rw [hretired] at hwas
    cases hwas
  | retired => exact .inl (.inr rfl)
  | begun seed other hready => exact absurd hready (unconfirmed_held ⟨hretired, hheld⟩)
  | taken acknowledgement now held hpending =>
    refine .inr ⟨hretired, hheld.imp_left fun hcurrent => ?_⟩
    simpa [State.isPending, hpending] using hcurrent
  | awaited now held hpending =>
    refine .inr ⟨hretired, hheld.imp_left fun hcurrent => ?_⟩
    simpa [State.isPending, hpending] using hcurrent
  | finished other outcome hdecided hpending =>
    obtain ⟨held, hpending', rfl⟩ := pending_of_isPending hpending
    rcases hheld with hcurrent | hblocked
    · have hsame : held.id = id := by simpa [State.isPending, hpending'] using hcurrent
      subst hsame
      cases outcome with
      | ok value => exact .inl (.inl ⟨rfl, hdecided, hcurrent⟩)
      | error error => exact .inr ⟨hretired, .inr (by simp [Handle.failureOf])⟩
    · exact absurd (hsound.pending held hpending').2.1 hblocked
  | dropped other hpending => exact .inr ⟨hretired, .inr (by simp)⟩

theorem retired_until :
    Machine.Until machine Sound (fun handle => handle.state.retired = true) Reconnects := by
  intro handle op _ hretired
  have hchanges := step_changes handle op
  show _ ∨ (machine.next handle op).state.retired = true
  generalize (machine.next handle op).state = state at hchanges ⊢
  generalize (machine.next handle op).lastId = lastId at hchanges
  cases hchanges with
  | reconnected hwas => exact .inl ⟨rfl, hwas⟩
  | retired => exact .inr rfl
  | _ => exact .inr hretired

def Acknowledged (id : Nat) (handle : Handle) : Prop :=
  id ≤ handle.lastId ∧
    ∀ pending, handle.state.pending = some pending → pending.id = id → pending.reply = false

theorem acknowledged_lasting (id : Nat) : Machine.Lasting machine Sound (Acknowledged id) := by
  rintro handle op _ ⟨hold, htaken⟩
  have hchanges := step_changes handle op
  have hle := lastId_le_next handle op
  refine ⟨by omega, fun pending hpending hid => ?_⟩
  generalize (machine.next handle op).state = state at hchanges hpending
  generalize (machine.next handle op).lastId = lastId at hchanges
  cases hchanges with
  | same => exact htaken pending hpending hid
  | enabled enabled => exact htaken pending hpending hid
  | reconnected hwas => exact htaken pending hpending hid
  | retired => cases hpending
  | begun seed other hready hfresh =>
    cases hpending
    have hyoung : handle.lastId < id := hid ▸ hfresh
    omega
  | taken acknowledgement now held hheld =>
    cases hpending
    rfl
  | awaited now held hheld =>
    cases hpending
    exact htaken held hheld hid
  | finished => cases hpending
  | dropped => cases hpending

def Replied (id : Nat) (handle : Handle) : Prop :=
  handle.episodes id = some (.decided (.ok ())) ∨
    ∃ deadline reply, handle.episodes id = some (.waiting deadline (some reply))
      ∧ reply.success = true

theorem replied_since (id : Nat) : Machine.Since machine Sound (Replied id)
      (fun t => ∃ acknowledgement, acknowledgement.id = id ∧ acknowledgement.success = true
        ∧ Accepts acknowledgement t) := by
  intro handle op _ hreplied
  have hadvances := step_advances handle op id
  have hreplied' : (machine.step handle op).2.episodes id = some (.decided (.ok ())) ∨
      ∃ deadline reply, (machine.step handle op).2.episodes id
        = some (.waiting deadline (some reply)) ∧ reply.success = true := hreplied
  generalize hresult : (machine.step handle op).1 = result at hadvances
  generalize (machine.step handle op).2.episodes id = stage at hadvances hreplied'
  cases hadvances with
  | same => exact .inr hreplied'
  | begun seed hfresh =>
    rcases hreplied' with h | ⟨_, _, h, _⟩ <;> cases h
  | acknowledged acknowledgement now deadline mail hsame hwaiting =>
    rcases hreplied' with h | ⟨_, reply, h, hsuccess⟩
    · cases h
    · cases h
      exact .inl ⟨acknowledgement, hsame, hsuccess, now, rfl, hresult⟩
  | waits now hreserved =>
    rcases hreplied' with h | ⟨_, _, h, _⟩ <;> cases h
  | decided now deadline cancelled mail outcome hwaiting hanswered =>
    rcases hreplied' with h | ⟨_, _, h, _⟩
    · cases h
      obtain ⟨reply, rfl, hsuccess⟩ := hanswered rfl
      exact .inr (.inr ⟨deadline, reply, hwaiting, hsuccess⟩)
    · cases h
  | ended =>
    rcases hreplied' with h | ⟨_, _, h, _⟩ <;> cases h

theorem begin_ready {seed : Nat} {episode : Option Nat}
    (hbegun : (handle.begin seed).1 = .ok episode) : handle.state.ensureReady = .ok () := by
  unfold Handle.begin at hbegun
  split at hbegun
  · cases hbegun
  next hready => exact hready

theorem admits_ready (hadmits : Admits (machine.perform handle op)) :
    handle.state.ensureReady = .ok () := by
  rcases hadmits with ⟨hop, hresult⟩ | ⟨seed, episode, hop, hresult⟩
  · obtain rfl : op = .ensureReady := hop
    exact Result.answered.inj hresult
  · obtain rfl : op = .begin seed := hop
    exact begin_ready (Result.began.inj hresult)

def Reopened (steps : List Step) : Prop :=
  ∃ before mid after retirement reconnection, steps = before ++ retirement :: mid ++ reconnection :: after
    ∧ Retires retirement ∧ Reconnects reconnection

theorem held_admitted {Fact : Handle → Prop} {Settles : Step → Prop} (Holds : Step → Prop)
    (huntil : Machine.Until machine Sound Fact (fun t => Settles t ∨ Retires t))
    (hheld : ∀ handle, Fact handle → handle.state.ensureReady ≠ .ok ())
    (hholds : ∀ handle op, Sound handle → Holds (machine.perform handle op) →
      Fact (machine.next handle op)) {ops : List Op} {before mid after : List Step} {t t' : Step}
    (hrun : machine.run Handle.default ops = before ++ t :: mid ++ t' :: after)
    (ht : Holds t) (hadmits : Admits t') : (∃ step ∈ mid, Settles step) ∨ Reopened mid := by
  obtain ⟨step, hmem, hsettles | hretires⟩ := huntil.between Holds Admits sound_inductive hholds
    (fun handle op _ hfact hadmitted => hheld handle hfact (admits_ready hadmitted)) hrun ht hadmits
  · exact .inl ⟨step, hmem, hsettles⟩
  · -- the retirement splits the steps in between
    obtain ⟨earlier, later, rfl⟩ := List.append_of_mem hmem
    have hsplit : machine.run Handle.default ops
        = (before ++ t :: earlier) ++ step :: later ++ t' :: after := by
      rw [hrun]
      simp
    obtain ⟨reconnection, hmem', hreconnects⟩ := retired_until.between Retires Admits sound_inductive
      (fun handle op _ hop => by
        obtain rfl : op = .retire := hop
        rfl)
      (fun handle op _ hretired hadmitted => by
        have hnot := (ensureReady_ok (admits_ready hadmitted)).1
        rw [hretired] at hnot
        cases hnot) hsplit hretires hadmits
    obtain ⟨mid, last, rfl⟩ := List.append_of_mem hmem'
    exact .inr ⟨earlier, mid, last, step, reconnection, by simp, hretires, hreconnects⟩

def Blocked (handle : Handle) : Prop :=
  handle.state.retired = false ∧ handle.state.blocked ≠ none

theorem blocked_held (hblocked : Blocked handle) : handle.state.ensureReady ≠ .ok () :=
  fun hready => hblocked.2 (ensureReady_ok hready).2.1

theorem blocked_until : Machine.Until machine Sound Blocked (fun t => False ∨ Retires t) := by
  rintro handle op hsound ⟨hretired, hblocked⟩
  have hchanges := step_changes handle op
  have hnone : ∀ {pending : Pending}, handle.state.pending ≠ some pending := fun hpending =>
    hblocked (hsound.pending _ hpending).2.1
  show _ ∨ ((machine.next handle op).state.retired = false
    ∧ (machine.next handle op).state.blocked ≠ none)
  generalize (machine.next handle op).state = state at hchanges ⊢
  generalize (machine.next handle op).lastId = lastId at hchanges
  cases hchanges with
  | same => exact .inr ⟨hretired, hblocked⟩
  | enabled enabled => exact .inr ⟨hretired, hblocked⟩
  | reconnected hwas =>
    rw [hretired] at hwas
    cases hwas
  | retired => exact .inl (.inr rfl)
  | begun seed other hready => exact absurd hready (blocked_held ⟨hretired, hblocked⟩)
  | taken acknowledgement now held hpending => exact absurd hpending hnone
  | awaited now held hpending => exact absurd hpending hnone
  | finished other outcome hdecided hpending =>
    obtain ⟨held, hpending', -⟩ := pending_of_isPending hpending
    exact absurd hpending' hnone
  | dropped other hpending =>
    obtain ⟨held, hpending', -⟩ := pending_of_isPending hpending
    exact absurd hpending' hnone

theorem begins_unconfirmed (hbegins : Begins id (machine.perform handle op)) :
    Unconfirmed id (machine.next handle op) := by
  obtain ⟨seed, hop, hresult⟩ := hbegins
  obtain rfl : op = .begin seed := hop
  have hbegun : (handle.begin seed).1 = .ok (some id) := Result.began.inj hresult
  rcases begin_cases handle seed with ⟨-, hnone⟩ | ⟨other, hready, hfresh, hsome⟩
  · exact absurd hbegun (hnone id)
  · rw [hsome] at hbegun
    cases hbegun
    have hnext : machine.next handle (.begin seed) = (handle.begin seed).2 := rfl
    rw [hnext, hsome]
    exact ⟨(ensureReady_ok hready).1, .inl (by simp [State.isPending])⟩

theorem fails_blocked (hsound : Sound handle) (hfails : Fails id (machine.perform handle op)) :
    Blocked (machine.next handle op) := by
  obtain ⟨hends, hperformed, hpending, hunconfirmed⟩ := hfails
  obtain ⟨held, hpending', -⟩ := pending_of_isPending hpending
  have hretired := (hsound.pending held hpending').1
  have hblocks : ∀ message, Blocked (handle.conclude id (some message)) := fun message => by
    rcases finish_cases handle.state id (some message) with ⟨hnot, -⟩ | ⟨-, hnext⟩
    · have hpending : handle.state.isPending id = true := hpending
      rw [hnot] at hpending
      cases hpending
    · show (handle.state.finish id (some message)).retired = false
        ∧ (handle.state.finish id (some message)).blocked ≠ none
      rw [hnext]
      exact ⟨hretired, by simp⟩
  rcases hends with hop | hop
  · obtain rfl : op = .finish id := hop
    simp only [Machine.perform, machine] at hperformed
    split at hperformed
    next outcome hdecided =>
      cases outcome with
      | ok value => exact absurd ⟨rfl, hdecided, hpending⟩ hunconfirmed
      | error error =>
        simp only [Machine.next, machine, hdecided]
        exact hblocks error.message
    next => exact absurd rfl hperformed
  · obtain rfl : op = .drop id := hop
    simp only [Machine.perform, machine] at hperformed
    simp only [Machine.next, machine]
    split at hperformed
    · exact absurd rfl hperformed
    · exact absurd rfl hperformed
    next stage hstage hunfinished =>
      exact hblocks _

/-! ## The fence -/

theorem accepts_spec {now : Nat} (haccepted : (handle.acknowledge acknowledgement now).1 = .ok ()) :
    ∃ pending deadline, handle.state.pending = some pending ∧ pending.id = acknowledgement.id
      ∧ pending.deadline = some deadline ∧ now < deadline ∧ pending.reply = true
      ∧ (∃ waited mail, handle.episodes acknowledgement.id = some (.waiting waited mail))
      ∧ (handle.acknowledge acknowledgement now).2.state
        = { handle.state with pending := some { pending with reply := false } } := by
  unfold Handle.acknowledge at haccepted ⊢
  rcases takeReply_cases handle.state acknowledgement now with ⟨-, error, herror⟩ |
    ⟨htaken, pending, hheld, hid, ⟨deadline, hdeadline, htimely⟩, hreply, hnext⟩
  · simp only [herror] at haccepted
    cases haccepted
  · simp only [htaken, hnext] at haccepted ⊢
    split at haccepted
    next waited mail hwaiting =>
      exact ⟨pending, deadline, hheld, hid, hdeadline, htimely, hreply, ⟨waited, mail, hwaiting⟩, rfl⟩
    next => cases haccepted

structure Fenced (run : List Step) : Prop where
  /-- After an episode began, a capture or a reset is admitted only once the episode was confirmed
  or the camera was retired and reconnected. -/
  admitted : ∀ {before mid after : List Step} {t t' : Step} {id : Nat},
    run = before ++ t :: mid ++ t' :: after → Begins id t → Admits t' →
    (∃ step ∈ mid, Confirms id step) ∨ Reopened mid
  /-- A failed episode blocks until the camera is retired and reconnected. -/
  failed : ∀ {before mid after : List Step} {t t' : Step} {id : Nat},
    run = before ++ t :: mid ++ t' :: after → Fails id t → Admits t' → Reopened mid
  /-- A confirmation rests on an accepted acknowledgement of success. -/
  confirmed : ∀ {before after : List Step} {t : Step} {id : Nat},
    run = before ++ t :: after → Confirms id t →
    ∃ earlier ∈ before, ∃ acknowledgement, acknowledgement.id = id
      ∧ acknowledgement.success = true ∧ Accepts acknowledgement earlier
  /-- An acknowledgement is accepted for the pending episode, awaiting and unexpired. -/
  accepted : ∀ {t : Step} {acknowledgement : Acknowledgement} {now : Nat}, t ∈ run →
    t.op = .acknowledge acknowledgement now → t.result = .answered (.ok ()) →
    ∃ pending deadline, t.before.state.pending = some pending
      ∧ pending.id = acknowledgement.id ∧ pending.deadline = some deadline ∧ now < deadline
      ∧ ∃ waited mail, t.before.episodes acknowledgement.id = some (.waiting waited mail)
  once : ∀ id, run.Pairwise fun earlier later =>
    (∃ acknowledgement, acknowledgement.id = id ∧ Accepts acknowledgement earlier) →
      ¬∃ acknowledgement, acknowledgement.id = id ∧ Accepts acknowledgement later
  /-- A recovery whose episode is not the pending one leaves the state alone. -/
  stale : ∀ {t : Step} {id : Nat}, t ∈ run → Recovers id t →
    t.before.state.isPending id = false →
    t.after.state = t.before.state

theorem accepts_taken (haccepts : Accepts acknowledgement (machine.perform handle op)) :
    ∃ now, op = .acknowledge acknowledgement now
      ∧ (handle.acknowledge acknowledgement now).1 = .ok () := by
  obtain ⟨now, hop, hresult⟩ := haccepts
  obtain rfl : op = .acknowledge acknowledgement now := hop
  exact ⟨now, rfl, Result.answered.inj hresult⟩

theorem accepts_acknowledged (hsound : Sound handle)
    (haccepts : Accepts acknowledgement (machine.perform handle op)) :
    Acknowledged acknowledgement.id (machine.next handle op) := by
  obtain ⟨now, rfl, haccepted⟩ := accepts_taken haccepts
  obtain ⟨pending, deadline, hheld, hid, -, -, -, -, hnext⟩ := accepts_spec haccepted
  have hyoung := (hsound.pending pending hheld).2.2
  have hle := lastId_le_next handle (.acknowledge acknowledgement now)
  refine ⟨by omega, fun later hlater _ => ?_⟩
  have hstate : (machine.next handle (.acknowledge acknowledgement now)).state
      = (handle.acknowledge acknowledgement now).2.state := rfl
  rw [hstate, hnext] at hlater
  cases hlater
  rfl

theorem acknowledged_excludes (hacknowledged : Acknowledged acknowledgement.id handle) :
    ¬Accepts acknowledgement (machine.perform handle op) := by
  intro haccepts
  obtain ⟨now, -, haccepted⟩ := accepts_taken haccepts
  obtain ⟨pending, deadline, hheld, hid, -, -, hreply, -⟩ := accepts_spec haccepted
  have htaken := hacknowledged.2 pending hheld hid
  rw [hreply] at htaken
  cases htaken

theorem recovers_stale (hrecovers : Recovers id (machine.perform handle op))
    (hstale : handle.state.isPending id = false) :
    (machine.next handle op).state = handle.state := by
  have hchanges := step_changes handle op
  generalize (machine.next handle op).state = state at hchanges ⊢
  generalize (machine.next handle op).lastId = lastId at hchanges
  have hop : Recovery id op := hrecovers
  cases hop with
  | wait now =>
    cases hchanges with
    | same => rfl
    | awaited now pending hheld => simp [State.isPending, hheld] at hstale
  | poll now cancelled =>
    cases hchanges with
    | same => rfl
  | finish =>
    cases hchanges with
    | same => rfl
    | finished id outcome hdecided hpending =>
      rw [hstale] at hpending
      cases hpending
  | drop =>
    cases hchanges with
    | same => rfl
    | dropped id hpending =>
      rw [hstale] at hpending
      cases hpending

/-- In every run a pending or failed episode fences captures and resets. -/
theorem run_fenced (ops : List Op) : Fenced (machine.run Handle.default ops) where
  admitted hrun hbegins hadmits :=
    held_admitted (Begins _) (unconfirmed_until _) (fun _ => unconfirmed_held)
      (fun _ _ _ => begins_unconfirmed) hrun hbegins hadmits
  failed hrun hfails hadmits := by
    rcases held_admitted (Fails _) blocked_until (fun _ => blocked_held)
      (fun _ _ => fails_blocked) hrun hfails hadmits with ⟨_, _, hnever⟩ | hreopened
    · exact hnever.elim
    · exact hreopened
  confirmed hrun hconfirms :=
    (replied_since _).earlier sound_inductive (by rintro (h | ⟨_, _, h, _⟩) <;> cases h) hrun
      (.inl hconfirms.2.1)
  accepted {t acknowledgement now} hmem hop hresult := by
    obtain ⟨-, -, hstep⟩ := sound_inductive.mem_run hmem
    obtain ⟨before, op, result, after⟩ := t
    obtain rfl : op = .acknowledge acknowledgement now := hop
    have haccepts : Accepts acknowledgement
        (machine.perform before (.acknowledge acknowledgement now)) := hstep ▸ ⟨now, rfl, hresult⟩
    obtain ⟨_, hnow, haccepted⟩ := accepts_taken haccepts
    cases hnow
    obtain ⟨pending, deadline, hheld, hid, hdeadline, htimely, -, hwaiting, -⟩ :=
      accepts_spec haccepted
    exact ⟨pending, deadline, hheld, hid, hdeadline, htimely, hwaiting⟩
  once id := by
    refine (acknowledged_lasting id).pairwise _ _ sound_inductive ?_ ?_ ops
    · rintro handle op hsound ⟨acknowledgement, rfl, haccepts⟩
      exact accepts_acknowledged hsound haccepts
    · rintro handle op _ hacknowledged ⟨acknowledgement, rfl, haccepts⟩
      exact acknowledged_excludes hacknowledged haccepts
  stale {t id} hmem hrecovers hstale := by
    obtain ⟨-, -, hstep⟩ := sound_inductive.mem_run hmem
    rw [hstep] at hrecovers hstale ⊢
    exact recovers_stale hrecovers hstale

end Regain.Core.UsbPeripherals
