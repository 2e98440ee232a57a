import Regain.Zwo.CoolingQueueRun

/-!
# Acknowledgements and the fence of the cooling queue

An acknowledgement that a caller sees was given before the owner retired and in time. An alarm, that
is an uncertain outcome or a failure of `apply`, leaves the queue closed with nothing to dispatch in
the slot.
-/

namespace Regain.Zwo

open Lib

namespace CoolingQueue

open Queue (failure new unlink)

variable {queue : Queue}

attribute [local grind =] Stage.isAdmitted Phase.isFinished Service.call Service.serving
  Service.holding Service.leaving Owner.isAlive Function.update_apply Outcome.isUncertain
  Service.outcome

/-! ## Acknowledged calls -/

def Acknowledged (events : List Event) (call : Nat) (value : Int) (limit : Nat) : Prop :=
  ∃ before after deadline time, events = before ++ .ended call deadline time (.ok value) :: after
    ∧ time ≤ limit ∧ .retired ∉ before

theorem Acknowledged.later {events : List Event} {call limit limit' : Nat} {value : Int}
    (h : Acknowledged events call value limit) (hlimit : limit ≤ limit') :
    Acknowledged events call value limit' := by
  obtain ⟨before, after, deadline, time, hevents, htime, hretired⟩ := h
  exact ⟨before, after, deadline, time, hevents, Nat.le_trans htime hlimit, hretired⟩

theorem Acknowledged.append {events : List Event} {call limit : Nat} {value : Int}
    (h : Acknowledged events call value limit) (later : List Event) :
    Acknowledged (events ++ later) call value limit := by
  obtain ⟨before, after, deadline, time, hevents, htime, hretired⟩ := h
  refine ⟨before, after ++ later, deadline, time, ?_, htime, hretired⟩
  rw [hevents, List.append_assoc]
  rfl

def Owner.isGone : Owner → Bool
  | .gone => true
  | _ => false

structure Confirmed (queue : Queue) : Prop where
  retired : .retired ∈ queue.events → queue.owner.isGone = true
  applied : ∀ call value, queue.service = .applied call (.ok value) →
    (queue.calls call).phase = .running → Acknowledged queue.events call value queue.now
  completed : ∀ call value, queue.service.holding = some call →
    queue.service.outcome = some (call, .ok value) →
      Acknowledged queue.events call value (queue.calls call).deadline
  published : ∀ call time value, (queue.calls call).phase = .finished time (.ok value) →
    Acknowledged queue.events call value (queue.calls call).deadline

attribute [local grind =] Owner.isGone

theorem new_confirmed : Confirmed new := by
  constructor <;> grind -linarith [new]

variable {queue' : Queue}

theorem Confirmed.keep (h : Confirmed queue) (events : List Event)
    (hevents : queue'.events = queue.events ++ events)
    (hretired : .retired ∈ events → queue'.owner.isGone = true)
    (howner : queue.owner.isGone = true → queue'.owner.isGone = true)
    (hnow : queue.now ≤ queue'.now) (hservice : queue'.service = queue.service)
    (hdeadline : ∀ call, (queue.service.holding = some call
      ∨ ∃ time value, (queue.calls call).phase = .finished time (.ok value)) →
        (queue'.calls call).deadline = (queue.calls call).deadline)
    (hrunning : ∀ call, (queue'.calls call).phase = .running → (queue.calls call).phase = .running)
    (hphase : ∀ call time value, (queue'.calls call).phase = .finished time (.ok value) →
      (queue.calls call).phase = .finished time (.ok value)) : Confirmed queue' where
  retired := by
    rw [hevents]
    intro hmem
    rcases List.mem_append.mp hmem with hold | hnew
    · exact howner (h.retired hold)
    · exact hretired hnew
  applied := by
    intro call value happlied hphase'
    rw [hservice] at happlied
    rw [hevents]
    exact ((h.applied call value happlied (hrunning call hphase')).later hnow).append events
  completed := by
    intro call value hholding houtcome
    rw [hservice] at hholding houtcome
    rw [hevents, hdeadline call (.inl hholding)]
    exact (h.completed call value hholding houtcome).append events
  published := by
    intro call time value hpublished
    have hold := hphase call time value hpublished
    rw [hevents, hdeadline call (.inr ⟨time, value, hold⟩)]
    exact (h.published call time value hold).append events

theorem call_confirmed (h : Confirmed queue) (hplaced : Placed queue)
    (latest call control : Nat) (value : Int) (timeout : Nat) :
    Confirmed (queue.call latest call control value timeout) := by
  unfold Queue.call
  split
  · have hfresh := hplaced.fresh call
    have hholding := hplaced.holding call
    split
    · refine h.keep [.told call (.error .expired)] rfl ?_ id (Nat.le_refl _) rfl ?_ ?_ ?_
        <;> grind -linarith
    · refine h.keep [] (List.append_nil _).symm ?_ id (Nat.le_refl _) rfl ?_ ?_ ?_
        <;> grind -linarith
  · exact h

theorem enqueue_confirmed (h : Confirmed queue) (call : Nat) : Confirmed (queue.enqueue call) := by
  unfold Queue.enqueue
  split
  · split
    · refine h.keep [.told call (.error .closed)] rfl ?_ id (Nat.le_refl _) rfl ?_ ?_ ?_
        <;> grind -linarith
    · split
      · refine h.keep [.told call (.error .busy)] rfl ?_ id (Nat.le_refl _) rfl ?_ ?_ ?_
          <;> grind -linarith
      · refine h.keep [] (List.append_nil _).symm ?_ id (Nat.le_refl _) rfl ?_ ?_ ?_
          <;> grind -linarith
  · exact h

theorem check_confirmed (h : Confirmed queue) (call : Nat) : Confirmed (queue.check call) := by
  unfold Queue.check
  split
  · split
    · exact h
    · split
      · next time result _ =>
        refine h.keep [.told call (Queue.late (queue.calls call).deadline time result)]
          rfl ?_ id (Nat.le_refl _) rfl ?_ ?_ ?_ <;> grind -linarith
      · split
        · refine h.keep [] (List.append_nil _).symm ?_ id (Nat.le_refl _) rfl ?_ ?_ ?_
            <;> grind -linarith
        · exact h
      · split
        · refine h.keep [.told call (.error (.uncertain _))] rfl ?_ id (Nat.le_refl _)
            rfl ?_ ?_ ?_ <;> grind -linarith
        · exact h
  · exact h

theorem free_confirmed (h : Confirmed queue) (call : Nat) : Confirmed (queue.free call) := by
  unfold Queue.free unlink
  split
  · split
    · refine h.keep [.told call (.error .expired)] rfl ?_ id (Nat.le_refl _) rfl ?_ ?_ ?_
        <;> grind -linarith
    · refine h.keep [.told call (.error .expired)] rfl ?_ id (Nat.le_refl _) rfl ?_ ?_ ?_
        <;> grind -linarith
  · exact h

theorem drop_confirmed (h : Confirmed queue) : Confirmed queue.drop := by
  unfold Queue.drop
  split
  · split
    · refine h.keep [] (List.append_nil _).symm ?_ ?_ (Nat.le_refl _) rfl ?_ ?_ ?_
        <;> grind -linarith
    · refine h.keep [.retired] rfl ?_ ?_ (Nat.le_refl _) rfl ?_ ?_ ?_ <;> grind -linarith
  · exact h

theorem retire_confirmed (h : Confirmed queue) : Confirmed queue.retire := by
  unfold Queue.retire
  split
  · split
    · exact h
    · split
      · refine h.keep [.retired] rfl ?_ ?_ (Nat.le_refl _) rfl ?_ ?_ ?_ <;> grind -linarith
      · refine h.keep [.retired] rfl ?_ ?_ (Nat.le_refl _) rfl ?_ ?_ ?_ <;> grind -linarith
      · refine h.keep [.retired] rfl ?_ ?_ (Nat.le_refl _) rfl ?_ ?_ ?_ <;> grind -linarith
  · exact h

theorem select_confirmed (h : Confirmed queue) : Confirmed queue.select := by
  unfold Queue.select
  split
  · cases h
    constructor <;> grind -linarith
  · exact h

theorem dispatch_confirmed (h : Confirmed queue) : Confirmed queue.dispatch := by
  unfold Queue.dispatch
  split
  · split
    · split
      · cases h
        constructor <;> grind -linarith [Acknowledged.append]
      · cases h
        constructor <;> grind -linarith
    · cases h
      constructor <;> grind -linarith
    · cases h
      constructor <;> grind -linarith
  · exact h

variable {call : Nat}

theorem Placed.unretired (h : Placed queue) (hconfirmed : Confirmed queue)
    (hservice : queue.service = .applying call) (hphase : (queue.calls call).phase = .running) :
    .retired ∉ queue.events := by
  intro hretired
  have hgone := hconfirmed.retired hretired
  have hadmitted := h.served call (by rw [hservice]; rfl)
  have hwaits := h.waits call hadmitted (by rw [hphase]; rfl) (by rw [hservice]; exact fun hleaving => by cases hleaving)
  have hslot := h.retired
  grind -linarith

theorem finish_confirmed (h : Confirmed queue) (hplaced : Placed queue)
    (result : Except String Int) : Confirmed (queue.finish result) := by
  unfold Queue.finish
  split
  · next call hservice =>
    have hnew : (queue.calls call).phase = .running → ∀ value,
        result.mapError failure = .ok value →
          Acknowledged (queue.events ++ [.ended call (queue.calls call).deadline queue.now
            (result.mapError failure)]) call value queue.now := by
      intro hphase value hvalue
      rw [hvalue]
      exact ⟨queue.events, [], _, queue.now, rfl, Nat.le_refl _,
        hplaced.unretired h hservice hphase⟩
    cases h
    constructor <;> grind -linarith [Acknowledged.append]
  · exact h

theorem complete_confirmed (h : Confirmed queue) (hplaced : Placed queue) :
    Confirmed queue.complete := by
  unfold Queue.complete
  split
  · next call result hservice =>
    split
    · cases h
      constructor <;> grind -linarith
    · next hphase =>
      have hruns := hplaced.runs call (by rw [hservice]; rfl) hphase
      split
      · next value hlate =>
        obtain ⟨rfl, hle⟩ := late_ok hlate
        have hacknowledged := (h.applied call value hservice hruns).later hle
        cases h
        constructor <;> grind -linarith
      · cases h
        constructor <;> grind -linarith
  · exact h

theorem close_confirmed (h : Confirmed queue) : Confirmed queue.close := by
  unfold Queue.close
  split
  · cases h
    constructor <;> grind -linarith
  · exact h

theorem release_confirmed (h : Confirmed queue) : Confirmed queue.release := by
  unfold Queue.release unlink
  split
  · split
    · cases h
      constructor <;> grind -linarith
    · cases h
      constructor <;> grind -linarith
  · split
    · cases h
      constructor <;> grind -linarith
    · cases h
      constructor <;> grind -linarith
  · exact h

theorem publish_confirmed (h : Confirmed queue) : Confirmed queue.publish := by
  unfold Queue.publish
  split
  · next call time result hservice =>
    have hcompleted : ∀ value, result = .ok value →
        Acknowledged queue.events call value (queue.calls call).deadline := by
      intro value hvalue
      refine h.completed call value (by rw [hservice]; rfl) ?_
      rw [hservice, hvalue]
      rfl
    cases h
    constructor <;> grind -linarith
  · exact h

theorem step_confirmed (h : Confirmed queue) (hplaced : Placed queue) (latest : Nat) (op : Op) :
    Confirmed (queue.step latest op) := by
  cases op with
  | call call control value timeout => exact call_confirmed h hplaced latest call control value timeout
  | enqueue call => exact enqueue_confirmed h call
  | check call => exact check_confirmed h call
  | free call => exact free_confirmed h call
  | tick elapsed =>
    exact h.keep [] (List.append_nil _).symm (by simp) id (Nat.le_add_right _ _) rfl
      (fun _ _ => rfl) (fun _ => id) (fun _ _ _ => id)
  | select => exact select_confirmed h
  | dispatch => exact dispatch_confirmed h
  | finish result => exact finish_confirmed h hplaced result
  | complete => exact complete_confirmed h hplaced
  | close => exact close_confirmed h
  | release => exact release_confirmed h
  | publish => exact publish_confirmed h
  | drop => exact drop_confirmed h
  | retire => exact retire_confirmed h

/-! ## The fence -/

def Event.isAlarm : Event → Bool
  | .told _ result => Outcome.isUncertain result
  | .ended _ _ _ (.error _) => true
  | _ => false

def Stage.isUncertain : Stage → Bool
  | .returned result => Outcome.isUncertain result
  | _ => false

structure Fenced (queue : Queue) : Prop where
  closed : queue.closed = true
  slot : ∀ call, queue.pending = some call → (queue.calls call).phase ≠ .queued
  selected : ∀ call, queue.service = .selected call → (queue.calls call).phase ≠ .queued

def Abandoned (queue : Queue) (call : Nat) : Prop :=
  (queue.calls call).stage.isUncertain = true ∧ (queue.calls call).deadline ≤ queue.now

/-- The completion of the request that runs will close the queue. -/
inductive Doomed (queue : Queue) : Prop
  | applying (call : Nat) (hservice : queue.service = .applying call)
      (hphase : (queue.calls call).phase = .running) (habandoned : Abandoned queue call)
  | failed (call : Nat) (error : CoolingError) (hservice : queue.service = .applied call (.error error))
      (hphase : (queue.calls call).phase = .running)
  | late (call : Nat) (result : Outcome) (hservice : queue.service = .applied call result)
      (hphase : (queue.calls call).phase = .running) (habandoned : Abandoned queue call)
  | closing (call time : Nat) (result : Outcome) (hservice : queue.service = .closing call time result)

structure Guarded (queue : Queue) : Prop where
  alarm : (∃ event ∈ queue.events, event.isAlarm = true) → Fenced queue ∨ Doomed queue
  unserved : ∀ call, queue.service.serving = some call → (queue.calls call).phase ≠ .running →
    Fenced queue
  failed : ∀ call error, queue.service.outcome = some (call, .error error) →
    (∀ result, queue.service ≠ .applied call result) →
      (∀ time result, queue.service ≠ .closing call time result) → Fenced queue
  lost : ∀ call result, (queue.calls call).phase.result = some result →
    Outcome.isUncertain result = true → Fenced queue

/-- An apply that was successful is completed at the very instant of its deadline, after its caller
had given it up. -/
def Tied (queue : Queue) : Prop :=
  ∃ call value, queue.service = .applied call (.ok value) ∧ (queue.calls call).phase = .running
    ∧ (queue.calls call).deadline = queue.now ∧ (queue.calls call).stage.isUncertain = true

theorem Fenced.of_calls (h : Fenced queue) (hclosed : queue'.closed = true)
    (hslot : ∀ call, queue'.pending = some call → queue.pending = some call := by grind -linarith)
    (hselected : ∀ call, queue'.service = .selected call →
      queue.service = .selected call ∨ queue.pending = some call := by grind -linarith)
    (hphase : ∀ call, (queue.pending = some call ∨ queue.service = .selected call) →
      (queue'.calls call).phase = .queued → (queue.calls call).phase = .queued := by
        grind -linarith) :
    Fenced queue' where
  closed := hclosed
  slot := by
    intro call hcall hqueued
    have hold := hslot call hcall
    exact h.slot call hold (hphase call (.inl hold) hqueued)
  selected := by
    intro call hcall hqueued
    rcases hselected call hcall with hold | hold
    · exact h.selected call hold (hphase call (.inr hold) hqueued)
    · exact h.slot call hold (hphase call (.inl hold) hqueued)

theorem Fenced.step (h : Fenced queue) (hplaced : Placed queue) (latest : Nat) (op : Op) :
    Fenced (queue.step latest op) := by
  have hclosed := h.closed
  cases op with
  | call call control value timeout =>
    have hslot := hplaced.slot call
    have hserved := hplaced.served call
    change Fenced (queue.call latest call control value timeout)
    unfold Queue.call
    split
    · split
      · exact h.of_calls hclosed
      · exact h.of_calls hclosed
    · exact h
  | enqueue call =>
    change Fenced (queue.enqueue call)
    unfold Queue.enqueue
    split
    · rw [if_pos hclosed]
      exact h.of_calls hclosed
    · exact h
  | check call =>
    change Fenced (queue.check call)
    unfold Queue.check
    split
    · split
      · exact h
      · split
        · exact h.of_calls hclosed
        · split
          · exact h.of_calls hclosed
          · exact h
        · split
          · exact h.of_calls hclosed
          · exact h
    · exact h
  | free call =>
    change Fenced (queue.free call)
    unfold Queue.free unlink
    split
    · split
      · exact h.of_calls hclosed
      · exact h.of_calls hclosed
    · exact h
  | tick elapsed => exact h.of_calls hclosed (fun _ => id) (fun _ => .inl) (fun _ _ => id)
  | select =>
    change Fenced queue.select
    unfold Queue.select
    split
    · exact h.of_calls hclosed
    · exact h
  | dispatch =>
    change Fenced queue.dispatch
    unfold Queue.dispatch
    split
    · next call hservice =>
      split
      · next hqueued => exact absurd hqueued (h.selected call hservice)
      · exact h.of_calls hclosed
      · exact h.of_calls hclosed
    · exact h
  | finish result =>
    change Fenced (queue.finish result)
    unfold Queue.finish
    split
    · exact h.of_calls hclosed
    · exact h
  | complete =>
    change Fenced queue.complete
    unfold Queue.complete
    split
    · split
      · exact h.of_calls hclosed
      · split
        · exact h.of_calls hclosed
        · exact h.of_calls hclosed
    · exact h
  | close =>
    change Fenced queue.close
    unfold Queue.close
    split
    · exact h.of_calls rfl (by grind -linarith) (by grind -linarith) (by grind -linarith)
    · exact h
  | release =>
    change Fenced queue.release
    unfold Queue.release unlink
    split
    · split
      · exact h.of_calls hclosed
      · exact h.of_calls hclosed
    · split
      · exact h.of_calls hclosed
      · exact h.of_calls hclosed
    · exact h
  | publish =>
    change Fenced queue.publish
    unfold Queue.publish
    split
    · exact h.of_calls hclosed
    · exact h
  | drop =>
    change Fenced queue.drop
    unfold Queue.drop
    split
    · split
      · exact h.of_calls rfl (by grind -linarith) (by grind -linarith) (by grind -linarith)
      · exact h.of_calls rfl (by grind -linarith) (by grind -linarith) (by grind -linarith)
    · exact h
  | retire =>
    change Fenced queue.retire
    unfold Queue.retire
    split
    · split
      · exact h
      · split
        · exact h.of_calls hclosed
        · exact h.of_calls hclosed
        · exact h.of_calls hclosed
    · exact h

theorem Placed.fenced_retired (h : Placed queue) (howner : queue.owner.isAlive = false)
    (hserving : queue.service.serving = some call) (hclosed : queue'.closed = queue.closed)
    (hpending : queue'.pending = queue.pending) (hservice : queue'.service = queue.service) :
    Fenced queue' where
  closed := hclosed.trans (h.retired howner).1
  slot := by
    intro other hother
    rw [hpending, (h.retired howner).2] at hother
    cases hother
  selected := by
    intro other hother
    rw [hservice] at hother
    rw [hother] at hserving
    cases hserving

theorem Placed.fenced_closing (h : Placed queue) {call time : Nat} {result : Outcome}
    (hservice : queue.service = .closing call time result) :
    Fenced { queue with closed := true, service := .releasing call time result } where
  closed := rfl
  slot := by
    intro other hother hqueued
    have hruns := h.holding call (by rw [hservice]; rfl)
    have hadmitted := h.served call (by rw [hservice]; rfl)
    have hwaits := h.waits call hadmitted (by rw [hruns]; rfl) (by rw [hservice]; exact fun hleaving => by cases hleaving)
    rcases hwaits with hpending | hretiring
    · have hsame : call = other := Option.some.inj (hpending.symm.trans hother)
      rw [← hsame] at hqueued
      exact absurd (hruns.symm.trans hqueued) (fun heq => by cases heq)
    · have hnone := (h.retired (by rw [hretiring]; rfl)).2
      exact absurd (hnone.symm.trans hother) (fun heq => by cases heq)
  selected := by
    intro other hother
    cases hother

theorem Doomed.keep (h : Doomed queue) (hservice : queue'.service = queue.service)
    (hnow : queue.now ≤ queue'.now)
    (hphase : ∀ call, queue.service.serving = some call → (queue.calls call).phase = .running →
      (queue'.calls call).phase = .running := by grind -linarith)
    (hcall : ∀ call, queue.service.serving = some call → (queue.calls call).stage.isUncertain = true →
      (queue'.calls call).stage.isUncertain = true
        ∧ (queue'.calls call).deadline = (queue.calls call).deadline := by grind -linarith) :
    Doomed queue' := by
  have habandoned : ∀ call, queue.service.serving = some call → Abandoned queue call →
      Abandoned queue' call := by
    intro call hserving hold
    obtain ⟨hstage, hdeadline⟩ := hcall call hserving hold.1
    exact ⟨hstage, by rw [hdeadline]; exact Nat.le_trans hold.2 hnow⟩
  cases h with
  | applying call hold hruns hgiven =>
    have hserving : queue.service.serving = some call := by rw [hold]; rfl
    exact .applying call (hservice.trans hold) (hphase call hserving hruns)
      (habandoned call hserving hgiven)
  | failed call error hold hruns =>
    have hserving : queue.service.serving = some call := by rw [hold]; rfl
    exact .failed call error (hservice.trans hold) (hphase call hserving hruns)
  | late call result hold hruns hgiven =>
    have hserving : queue.service.serving = some call := by rw [hold]; rfl
    exact .late call result (hservice.trans hold) (hphase call hserving hruns)
      (habandoned call hserving hgiven)
  | closing call time result hold => exact .closing call time result (hservice.trans hold)

attribute [local grind =] Stage.isUncertain Event.isAlarm Phase.result CoolingError.isUncertain

theorem Doomed.serving (h : Doomed queue) : ∃ call, queue.service.serving = some call := by
  cases h with
  | applying call hservice => exact ⟨call, by rw [hservice]; rfl⟩
  | failed call error hservice => exact ⟨call, by rw [hservice]; rfl⟩
  | late call result hservice => exact ⟨call, by rw [hservice]; rfl⟩
  | closing call time result hservice => exact ⟨call, by rw [hservice]; rfl⟩

theorem Doomed.finish (h : Doomed queue) (result : Except String Int) :
    Doomed (queue.finish result) := by
  unfold Queue.finish
  split
  · next call hservice =>
    cases h with
    | applying other hold hruns hgiven =>
      cases hservice.symm.trans hold
      exact .late call _ rfl hruns hgiven
    | failed other error hold => cases hservice.symm.trans hold
    | late other result hold => cases hservice.symm.trans hold
    | closing other time result hold => cases hservice.symm.trans hold
  · exact h

theorem Doomed.complete (h : Doomed queue) (htied : ¬Tied queue) : Doomed queue.complete := by
  unfold Queue.complete
  split
  · next call result hservice =>
    have hmust : (queue.calls call).phase = .running ∧ ∀ value,
        Queue.late (queue.calls call).deadline queue.now result ≠ .ok value := by
      cases h with
      | applying other hold => cases hservice.symm.trans hold
      | failed other error hold hruns =>
        cases hservice.symm.trans hold
        exact ⟨hruns, fun value heq => by cases heq⟩
      | late other result' hold hruns hgiven =>
        cases hservice.symm.trans hold
        refine ⟨hruns, fun value hlate => htied ?_⟩
        obtain ⟨rfl, hle⟩ := late_ok hlate
        exact ⟨call, value, hservice, hruns, Nat.le_antisymm hgiven.2 hle, hgiven.1⟩
      | closing other time result' hold => cases hservice.symm.trans hold
    split
    · next hphase => exact absurd (hmust.1.symm.trans hphase) (fun heq => by cases heq)
    · split
      · next hlate => exact absurd hlate (hmust.2 _)
      · exact .closing call _ _ rfl
  · exact h

theorem Doomed.retire (h : Doomed queue) (hplaced : Placed queue) :
    Fenced queue.retire ∨ Doomed queue.retire := by
  obtain ⟨serving, hserving⟩ := h.serving
  unfold Queue.retire
  split
  · next call howner =>
    have halive : queue.owner.isAlive = false := by rw [howner]; rfl
    split
    · exact .inr h
    · split
      · exact .inl (hplaced.fenced_retired halive hserving rfl rfl rfl)
      · exact .inl (hplaced.fenced_retired halive hserving rfl rfl rfl)
      · exact .inl (hplaced.fenced_retired halive hserving rfl rfl rfl)
  · exact .inr h

theorem Doomed.close (h : Doomed queue) (hplaced : Placed queue) :
    Fenced queue.close ∨ Doomed queue.close := by
  unfold Queue.close
  split
  · next call time result hservice => exact .inl (hplaced.fenced_closing hservice)
  · exact .inr h

theorem Doomed.step (h : Doomed queue) (hplaced : Placed queue) (latest : Nat) (op : Op)
    (htied : op = .complete → ¬Tied queue) :
    Fenced (queue.step latest op) ∨ Doomed (queue.step latest op) := by
  obtain ⟨serving, hserving⟩ := h.serving
  have hserved := hplaced.served serving
  have hbegun := hplaced.begun serving
  cases op with
  | call call control value timeout =>
    refine .inr ?_
    have hfresh := hplaced.fresh call
    change Doomed (queue.call latest call control value timeout)
    unfold Queue.call
    split
    · split
      · exact h.keep rfl (Nat.le_refl _)
      · exact h.keep rfl (Nat.le_refl _)
    · exact h
  | enqueue call =>
    refine .inr ?_
    change Doomed (queue.enqueue call)
    unfold Queue.enqueue
    split
    · split
      · exact h.keep rfl (Nat.le_refl _)
      · split
        · exact h.keep rfl (Nat.le_refl _)
        · exact h.keep rfl (Nat.le_refl _)
    · exact h
  | check call =>
    refine .inr ?_
    change Doomed (queue.check call)
    unfold Queue.check
    split
    · split
      · exact h
      · split
        · exact h.keep rfl (Nat.le_refl _)
        · split
          · exact h.keep rfl (Nat.le_refl _)
          · exact h
        · split
          · exact h.keep rfl (Nat.le_refl _)
          · exact h
    · exact h
  | free call =>
    refine .inr ?_
    change Doomed (queue.free call)
    unfold Queue.free unlink
    split
    · split
      · exact h.keep rfl (Nat.le_refl _)
      · exact h.keep rfl (Nat.le_refl _)
    · exact h
  | tick elapsed =>
    exact .inr (h.keep rfl (Nat.le_add_right _ _) (fun _ _ => id) (fun _ _ hstage => ⟨hstage, rfl⟩))
  | select =>
    refine .inr ?_
    change Doomed queue.select
    unfold Queue.select
    split
    · grind -linarith
    · exact h
  | dispatch =>
    refine .inr ?_
    change Doomed queue.dispatch
    unfold Queue.dispatch
    split
    · grind -linarith
    · exact h
  | finish result => exact .inr (h.finish result)
  | complete => exact .inr (h.complete (htied rfl))
  | close => exact h.close hplaced
  | release =>
    refine .inr ?_
    change Doomed queue.release
    unfold Queue.release unlink
    cases h <;> grind -linarith [Doomed]
  | publish =>
    refine .inr ?_
    change Doomed queue.publish
    unfold Queue.publish
    cases h <;> grind -linarith [Doomed]
  | drop =>
    refine .inr ?_
    change Doomed queue.drop
    unfold Queue.drop
    split
    · split
      · exact h.keep rfl (Nat.le_refl _)
      · exact h.keep rfl (Nat.le_refl _)
    · exact h
  | retire => exact h.retire hplaced

/-! ## Steps without an alarm -/

structure Quiet (queue queue' : Queue) : Prop where
  events : ∀ event ∈ queue'.events, event.isAlarm = true →
    event ∈ queue.events ∨ Fenced queue' ∨ Doomed queue'
  unserved : ∀ call, queue'.service.serving = some call → (queue'.calls call).phase ≠ .running →
    Fenced queue' ∨ queue.service.serving = some call ∧ (queue.calls call).phase ≠ .running
  failed : ∀ call error, queue'.service.outcome = some (call, .error error) →
    (∀ result, queue'.service ≠ .applied call result) →
      (∀ time result, queue'.service ≠ .closing call time result) →
        Fenced queue' ∨ queue.service.outcome = some (call, .error error)
          ∧ (∀ result, queue.service ≠ .applied call result)
          ∧ ∀ time result, queue.service ≠ .closing call time result
  lost : ∀ call result, (queue'.calls call).phase.result = some result →
    Outcome.isUncertain result = true →
      Fenced queue' ∨ (queue.calls call).phase.result = some result

theorem Guarded.step_of (h : Guarded queue) (hquiet : Quiet queue queue')
    (hfenced : Fenced queue → Fenced queue') (hdoomed : Doomed queue → Fenced queue' ∨ Doomed queue') :
    Guarded queue' where
  alarm := by
    intro halarm
    obtain ⟨event, hmem, halarm⟩ := halarm
    rcases hquiet.events event hmem halarm with hold | hnew
    · rcases h.alarm ⟨event, hold, halarm⟩ with hbefore | hbefore
      · exact .inl (hfenced hbefore)
      · exact hdoomed hbefore
    · exact hnew
  unserved := by
    intro call hserving hphase
    rcases hquiet.unserved call hserving hphase with hnew | hold
    · exact hnew
    · exact hfenced (h.unserved call hold.1 hold.2)
  failed := by
    intro call error houtcome happlied hclosing
    rcases hquiet.failed call error houtcome happlied hclosing with hnew | hold
    · exact hnew
    · exact hfenced (h.failed call error hold.1 hold.2.1 hold.2.2)
  lost := by
    intro call result hresult huncertain
    rcases hquiet.lost call result hresult huncertain with hnew | hold
    · exact hnew
    · exact hfenced (h.lost call result hold huncertain)

theorem Quiet.refl (queue : Queue) : Quiet queue queue where
  events := fun _ hmem _ => .inl hmem
  unserved := fun _ hserving hphase => .inr ⟨hserving, hphase⟩
  failed := fun _ _ houtcome happlied hclosing => .inr ⟨houtcome, happlied, hclosing⟩
  lost := fun _ _ hresult _ => .inr hresult

theorem check_quiet (h : Guarded queue) (hplaced : Placed queue) (hknown : Known queue) (call : Nat) :
    Quiet queue (queue.check call) := by
  unfold Queue.check
  split
  · split
    · exact .refl queue
    · next hlocked =>
      split
      · next time result hphase =>
        have htimely : ∀ value, result = .ok value → time ≤ (queue.calls call).deadline := by
          intro value hvalue
          exact hknown.timely call time value (by rw [hphase, hvalue])
        rw [late_of_le htimely]
        have hlost : Outcome.isUncertain result = true → Fenced queue :=
          h.lost call result (by rw [hphase]; rfl)
        have hfenced : Fenced queue → Fenced (queue.answer call result) := fun hold =>
          hold.of_calls hold.closed (by grind -linarith) (by grind -linarith) (by grind -linarith)
        constructor <;> grind -linarith
      · next hqueued =>
        split
        · have hbegun := hplaced.begun call
          constructor <;> grind -linarith
        · exact .refl queue
      · next hruns =>
        split
        · next hexpired =>
          have hserving := hplaced.running call hruns
          have hunlocked : queue.service.holding ≠ some call :=
            fun hholding => hlocked ((hplaced.locked call).mpr hholding)
          -- The caller gives up while `apply` runs, or before its result is looked at.
          have hdoomed : Doomed (queue.answer call
              (.error (.uncertain "USB dispatch has no acknowledgement"))) := by
            cases hservice : queue.service with
            | applying other => grind -linarith [Doomed, Abandoned]
            | applied other result => grind -linarith [Doomed, Abandoned]
            | _ => grind -linarith
          constructor <;> grind -linarith
        · exact .refl queue
  · exact .refl queue

theorem call_quiet (hplaced : Placed queue) (latest call control : Nat) (value : Int)
    (timeout : Nat) : Quiet queue (queue.call latest call control value timeout) := by
  have hserved := hplaced.served call
  have hfresh := hplaced.fresh call
  unfold Queue.call
  split
  · split
    · constructor <;> grind -linarith
    · have hserving : queue.service.serving ≠ some call := fun hserving => by
        have hbegun := hplaced.begun call hserving
        grind -linarith
      constructor <;> grind -linarith
  · exact .refl queue

theorem isAlarm_told (call : Nat) (error : CoolingError) (herror : error.isUncertain = false) :
    (Event.told call (.error error)).isAlarm = false :=
  herror

theorem enqueue_quiet (call : Nat) : Quiet queue (queue.enqueue call) := by
  have hclosed := isAlarm_told call .closed rfl
  have hbusy := isAlarm_told call .busy rfl
  unfold Queue.enqueue
  split
  · split
    · constructor <;> grind -linarith
    · split
      · constructor <;> grind -linarith
      · constructor <;> grind -linarith
  · exact .refl queue

theorem free_quiet (call : Nat) : Quiet queue (queue.free call) := by
  have hexpired := isAlarm_told call .expired rfl
  unfold Queue.free unlink
  split
  · split
    · constructor <;> grind -linarith
    · constructor <;> grind -linarith
  · exact .refl queue

theorem select_quiet : Quiet queue queue.select := by
  unfold Queue.select
  split
  · constructor <;> grind -linarith
  · exact .refl queue

theorem dispatch_quiet : Quiet queue queue.dispatch := by
  unfold Queue.dispatch
  split
  · split
    · split
      · constructor <;> grind -linarith
      · constructor <;> grind -linarith
    · constructor <;> grind -linarith
    · constructor <;> grind -linarith
  · exact .refl queue

theorem finish_quiet (h : Guarded queue) (hplaced : Placed queue) (result : Except String Int) :
    Quiet queue (queue.finish result) := by
  unfold Queue.finish
  split
  · next call hservice =>
    have hfenced : Fenced queue → Fenced (queue.finish result) :=
      fun hold => hold.step hplaced 0 (.finish result)
    unfold Queue.finish at hfenced
    rw [hservice] at hfenced
    have hunserved := h.unserved call (by rw [hservice]; rfl)
    cases hresult : result.mapError failure with
    | ok value => constructor <;> grind -linarith
    | error error =>
      by_cases hruns : (queue.calls call).phase = .running
      · have hdoomed : Doomed ((queue.goto (.applied call (.error error))).log
            (.ended call (queue.calls call).deadline queue.now (.error error))) :=
          .failed call error rfl hruns
        constructor <;> grind -linarith
      · constructor <;> grind -linarith
  · exact .refl queue

theorem complete_quiet : Quiet queue queue.complete := by
  unfold Queue.complete
  split
  · split
    · constructor <;> grind -linarith
    · split
      · constructor <;> grind -linarith
      · constructor <;> grind -linarith
  · exact .refl queue

theorem close_quiet (hplaced : Placed queue) : Quiet queue queue.close := by
  unfold Queue.close
  split
  · next call time result hservice =>
    have hfenced := hplaced.fenced_closing hservice
    constructor <;> grind -linarith
  · exact .refl queue

theorem release_quiet : Quiet queue queue.release := by
  unfold Queue.release unlink
  split
  · split
    · constructor <;> grind -linarith
    · constructor <;> grind -linarith
  · split
    · constructor <;> grind -linarith
    · constructor <;> grind -linarith
  · exact .refl queue

theorem publish_quiet (h : Guarded queue) (hplaced : Placed queue) : Quiet queue queue.publish := by
  have hfenced : Fenced queue → Fenced queue.publish := fun hold => hold.step hplaced 0 .publish
  unfold Queue.publish at hfenced ⊢
  split
  · next call time result hservice =>
    rw [hservice] at hfenced
    cases result with
    | ok value => constructor <;> grind -linarith
    | error error =>
      have hfailed := h.failed call error (by rw [hservice]; rfl) (by grind -linarith) (by grind -linarith)
      constructor <;> grind -linarith
  · exact .refl queue

theorem drop_quiet : Quiet queue queue.drop := by
  unfold Queue.drop
  split
  · split
    · constructor <;> grind -linarith
    · constructor <;> grind -linarith
  · exact .refl queue

theorem retire_quiet (hplaced : Placed queue) : Quiet queue queue.retire := by
  unfold Queue.retire
  split
  · next call howner =>
    have halive : queue.owner.isAlive = false := by rw [howner]; rfl
    split
    · exact .refl queue
    · split
      · next hqueued =>
        have hbegun := hplaced.begun call
        constructor <;> grind -linarith
      · next hruns =>
        have hfenced : ∀ queue' : Queue, queue'.closed = queue.closed →
            queue'.pending = queue.pending → queue'.service = queue.service → Fenced queue' :=
          fun _ => hplaced.fenced_retired halive (hplaced.running call hruns)
        constructor <;> grind -linarith
      · constructor <;> grind -linarith
  · exact .refl queue

theorem step_quiet (h : Guarded queue) (hplaced : Placed queue) (hknown : Known queue)
    (latest : Nat) (op : Op) : Quiet queue (queue.step latest op) := by
  cases op with
  | call call control value timeout => exact call_quiet hplaced latest call control value timeout
  | enqueue call => exact enqueue_quiet call
  | check call => exact check_quiet h hplaced hknown call
  | free call => exact free_quiet call
  | tick elapsed =>
    exact ⟨fun _ hmem _ => .inl hmem, fun _ hserving hphase => .inr ⟨hserving, hphase⟩,
      fun _ _ houtcome happlied hclosing => .inr ⟨houtcome, happlied, hclosing⟩,
      fun _ _ hresult _ => .inr hresult⟩
  | select => exact select_quiet
  | dispatch => exact dispatch_quiet
  | finish result => exact finish_quiet h hplaced result
  | complete => exact complete_quiet
  | close => exact close_quiet hplaced
  | release => exact release_quiet
  | publish => exact publish_quiet h hplaced
  | drop => exact drop_quiet
  | retire => exact retire_quiet hplaced

theorem step_guarded (h : Guarded queue) (hplaced : Placed queue) (hknown : Known queue)
    (latest : Nat) (op : Op) (htied : op = .complete → ¬Tied queue) :
    Guarded (queue.step latest op) :=
  h.step_of (step_quiet h hplaced hknown latest op) (fun hfenced => hfenced.step hplaced latest op)
    (fun hdoomed => hdoomed.step hplaced latest op htied)

def Undisturbed (before : List Event) (event : Event) : Prop :=
  event.dispatch ≠ none → ∀ earlier ∈ before, earlier.isAlarm = false

attribute [local grind =] Event.dispatch

theorem step_events (queue : Queue) (latest : Nat) (op : Op) :
    (queue.step latest op).events = queue.events
      ∨ ∃ event, (queue.step latest op).events = queue.events ++ [event] ∧ (event.dispatch = none
          ∨ ∃ call, queue.service = .selected call ∧ (queue.calls call).phase = .queued) := by
  cases op with
  | call call control value timeout =>
    simp only [Queue.step, Queue.call]
    repeat' split
    all_goals grind -linarith
  | enqueue call =>
    simp only [Queue.step, Queue.enqueue]
    repeat' split
    all_goals grind -linarith
  | check call =>
    simp only [Queue.step, Queue.check]
    repeat' split
    all_goals grind -linarith
  | free call =>
    simp only [Queue.step, Queue.free, unlink]
    repeat' split
    all_goals grind -linarith
  | tick elapsed => exact .inl rfl
  | select =>
    simp only [Queue.step, Queue.select]
    split <;> exact .inl rfl
  | dispatch =>
    simp only [Queue.step, Queue.dispatch]
    repeat' split
    all_goals grind -linarith
  | finish result =>
    simp only [Queue.step, Queue.finish]
    split
    all_goals grind -linarith
  | complete =>
    simp only [Queue.step, Queue.complete]
    repeat' split
    all_goals exact .inl rfl
  | close =>
    simp only [Queue.step, Queue.close]
    split <;> exact .inl rfl
  | release =>
    simp only [Queue.step, Queue.release, unlink]
    repeat' split
    all_goals exact .inl rfl
  | publish =>
    simp only [Queue.step, Queue.publish]
    split <;> exact .inl rfl
  | drop =>
    simp only [Queue.step, Queue.drop]
    repeat' split
    all_goals grind -linarith
  | retire =>
    simp only [Queue.step, Queue.retire]
    repeat' split
    all_goals grind -linarith

theorem Guarded.quiet_dispatch (h : Guarded queue)
    (hservice : queue.service = .selected call) (hphase : (queue.calls call).phase = .queued) :
    ∀ event ∈ queue.events, event.isAlarm = false := by
  intro event hmem
  by_contra halarm
  rcases h.alarm ⟨event, hmem, by simpa using halarm⟩ with hfenced | hdoomed
  · exact hfenced.selected call hservice hphase
  · obtain ⟨serving, hserving⟩ := hdoomed.serving
    rw [hservice] at hserving
    cases hserving

/-! ## Runs -/

structure Reached (queue : Queue) : Prop where
  placed : Placed queue
  known : Known queue
  confirmed : Confirmed queue
  guarded : Guarded queue
  ordered : Justified Undisturbed queue.events

theorem new_reached : Reached new where
  placed := new_placed
  known := new_known
  confirmed := new_confirmed
  guarded := by
    constructor <;> grind -linarith [new]
  ordered := .nil

theorem step_reached (h : Reached queue) (latest : Nat) (op : Op)
    (htied : op = .complete → ¬Tied queue) : Reached (queue.step latest op) where
  placed := step_placed h.placed latest op
  known := step_known h.known h.placed latest op
  confirmed := step_confirmed h.confirmed h.placed latest op
  guarded := step_guarded h.guarded h.placed h.known latest op htied
  ordered := by
    rcases step_events queue latest op with hsame | ⟨event, hevents, hevent⟩
    · rw [hsame]
      exact h.ordered
    · rw [hevents]
      refine h.ordered.concat fun hdispatch => ?_
      rcases hevent with hnone | ⟨call, hservice, hphase⟩
      · exact absurd hnone hdispatch
      · exact h.guarded.quiet_dispatch hservice hphase

theorem run_reached (latest : Nat) {ops : List Op} (h : Reached queue)
    (htied : ∀ t ∈ (machine latest).run queue ops, t.op = .complete → ¬Tied t.before) :
    Reached ((machine latest).final queue ops) := by
  induction ops generalizing queue with
  | nil => exact h
  | cons op ops ih =>
    have hstep := step_reached h latest op (htied _ List.mem_cons_self)
    exact ih hstep fun t hmem => htied t (List.mem_cons_of_mem _ hmem)

def Open (queue : Queue) (call : Nat) : Prop :=
  (queue.calls call).stage.isAdmitted = true ∧ (queue.calls call).phase.isFinished = false
    ∧ queue.service.leaving ≠ some call

structure Sound (queue : Queue) : Prop where
  single : ∀ first second, Open queue first → Open queue second → first = second
  refused : ∀ call error, error.isUncertain = false → .told call (.error error) ∈ queue.events →
    ∀ deadline time, .dispatched call deadline time ∉ queue.events
  once : (queue.events.filterMap Event.dispatch).Nodup
  timely : ∀ call deadline time, .dispatched call deadline time ∈ queue.events →
    deadline = (queue.calls call).deadline ∧ time < deadline
  acknowledged : ∀ call value, .told call (.ok value) ∈ queue.events →
    Acknowledged queue.events call value (queue.calls call).deadline
  fenced : Justified Undisturbed queue.events

theorem Reached.single (h : Reached queue) {first second : Nat} (hfirst : Open queue first)
    (hsecond : Open queue second) : first = second := by
  have hplaced := h.placed
  have hone := hplaced.waits first hfirst.1 hfirst.2.1 hfirst.2.2
  have htwo := hplaced.waits second hsecond.1 hsecond.2.1 hsecond.2.2
  have hretired := hplaced.retired
  grind -linarith

theorem Reached.refused (h : Reached queue) {error : CoolingError}
    (herror : error.isUncertain = false) (htold : .told call (.error error) ∈ queue.events)
    (deadline time : Nat) : .dispatched call deadline time ∉ queue.events := by
  intro hmem
  have hdispatched := (h.known.dispatched call deadline time hmem).2.2
  have hanswer := h.known.told call _ htold
  have hfresh := h.placed.fresh call
  cases hstage : (queue.calls call).stage with
  | refused refusal =>
    rw [hfresh (by rw [hstage]; rfl)] at hdispatched
    cases hdispatched
  | returned result =>
    rw [hstage] at hanswer
    cases hanswer
    have hresult := h.known.returned call _ hstage herror
    cases hphase : (queue.calls call).phase with
    | finished time result =>
      rw [hphase] at hresult hdispatched
      cases hresult
      exact absurd (herror.symm.trans hdispatched) (by decide)
    | _ =>
      rw [hphase] at hresult
      cases hresult
  | _ =>
    rw [hstage] at hanswer
    cases hanswer

theorem Reached.acknowledged (h : Reached queue) {value : Int}
    (htold : .told call (.ok value) ∈ queue.events) :
    Acknowledged queue.events call value (queue.calls call).deadline := by
  have hanswer := h.known.told call _ htold
  cases hstage : (queue.calls call).stage with
  | returned result =>
    rw [hstage] at hanswer
    cases hanswer
    have hresult := h.known.returned call _ hstage rfl
    cases hphase : (queue.calls call).phase with
    | finished time result =>
      rw [hphase] at hresult
      cases hresult
      exact h.confirmed.published call time value hphase
    | _ =>
      rw [hphase] at hresult
      cases hresult
  | _ =>
    rw [hstage] at hanswer
    cases hanswer

/-- In every run in which no success is completed at the very instant of its deadline after its
caller gave it up, the queue keeps what it promises. -/
theorem coolingQueue (latest : Nat) (ops : List Op)
    (htied : ∀ t ∈ (machine latest).run new ops, t.op = .complete → ¬Tied t.before) :
    Sound ((machine latest).final new ops) := by
  have h := run_reached latest new_reached htied
  exact
    { single := fun _ _ => h.single
      refused := fun _ _ => h.refused
      once := h.known.once
      timely := fun call deadline time hmem =>
        ⟨(h.known.dispatched call deadline time hmem).1, (h.known.dispatched call deadline time hmem).2.1⟩
      acknowledged := fun _ _ => h.acknowledged
      fenced := h.ordered }

def served : List Op :=
  [.call 0 16 (-10) 5, .enqueue 0, .select, .dispatch, .tick 2, .finish (.ok (-10)), .complete,
    .release, .publish, .check 0]

theorem coolingQueue_served : Sound ((machine 100).final new served)
      ∧ ((machine 100).final new served).events
          = [.dispatched 0 5 0, .ended 0 5 2 (.ok (-10)), .told 0 (.ok (-10))] := by
  refine ⟨coolingQueue 100 served ?_, rfl⟩
  intro t hmem hop htied
  simp only [served, Machine.run, List.mem_cons, List.not_mem_nil, or_false] at hmem
  rcases hmem with rfl | rfl | rfl | rfl | rfl | rfl | rfl | rfl | rfl | rfl <;> cases hop
  obtain ⟨call, value, hservice, -, hdeadline, -⟩ := htied
  cases hservice
  cases hdeadline

/-- A caller gives up at its deadline, the success is completed at the same instant, and the next
request is applied. -/
def tied : List Op :=
  [.call 0 16 (-10) 5, .enqueue 0, .select, .dispatch, .tick 5, .check 0, .finish (.ok (-10)),
    .complete, .release, .publish, .call 1 17 0 5, .enqueue 1, .select, .dispatch]

/-- The caller was told that the outcome is unknown, and the next request is dispatched. -/
theorem tied_dispatches :
    ((machine 100).final new tied).events
        = [.dispatched 0 5 0, .told 0 (.error (.uncertain "USB dispatch has no acknowledgement")),
          .ended 0 5 5 (.ok (-10)), .dispatched 1 10 5]
      ∧ ¬Sound ((machine 100).final new tied) := by
  refine ⟨rfl, fun hsound => ?_⟩
  have hquiet := hsound.fenced
    [.dispatched 0 5 0, .told 0 (.error (.uncertain "USB dispatch has no acknowledgement")),
      .ended 0 5 5 (.ok (-10))] (.dispatched 1 10 5) [] rfl (fun hnone => by cases hnone)
  have halarm := hquiet (.told 0 (.error (.uncertain "USB dispatch has no acknowledgement")))
    (List.mem_cons_of_mem _ List.mem_cons_self)
  cases halarm

end CoolingQueue

end Regain.Zwo
