import Regain.Core.Cooling

/-!
# Outcomes of cooler commands

What every interleaving of mailbox operations guarantees. At most one admitted request is
unresolved, and it occupies the slot; each request is resolved once; a commit belongs to a
dispatched, pending, timely acknowledgement.
-/

namespace Regain.Core.Cooling

open Lib
open Mailbox (empty enqueue settle store)

abbrev Step := Transition Mailbox Op Answer

/-! ## Requests and the slot -/

/-- The slot and the requests agree on which request is open. -/
structure Coherent (mailbox : Mailbox) : Prop where
  occupied : ∀ handle, mailbox.pending = some handle →
    ∃ request, mailbox.requests[handle]? = some request
      ∧ request.phase ≠ .finished ∧ request.replied = none
  settled : ∀ handle request, mailbox.requests[handle]? = some request →
    mailbox.pending ≠ some handle → request.phase = .finished ∧ request.replied ≠ none

/-- The progress of the pending request that keeps the slot occupied. -/
inductive Progress (before : Mailbox) (op : Op) (handle : Nat) (request : Request) :
    Request → Prop where
  | claimed (hphase : request.phase = .queued) :
      Progress before op handle request { request with phase := .claimed }
  | dispatched (now : Nat) (hop : op = .dispatch handle now) (haccepting : before.accepting = true)
      (hphase : request.phase = .claimed) (htimely : now < request.deadline) :
      Progress before op handle request { request with phase := .running }
  | overdue (hphase : request.phase = .running) :
      Progress before op handle request { request with uncertain := true }

def Admission (before : Mailbox) (op : Op) (accepting : Bool) : Prop :=
  accepting = true → before.accepting = true ∨ op = .accept

/-- Every step leaves the requests alone, admits one, advances the pending one or settles it. -/
inductive Effect (before : Mailbox) (op : Op) : Mailbox → Prop where
  | same (accepting : Bool) (haccepting : Admission before op accepting) :
      Effect before op { before with accepting := accepting }
  | admitted (kind value : Int) (deadline : Nat) (hfree : before.pending = none) :
      Effect before op (before.enqueue kind value deadline).2
  | progressed {handle : Nat} {request request' : Request} (accepting : Bool)
      (haccepting : Admission before op accepting)
      (hcurrent : before.current handle = some request)
      (hprogress : Progress before op handle request request') :
      Effect before op { before.store handle request' with accepting := accepting }
  | settled {handle : Nat} {request : Request} (outcome : Outcome) (accepting : Bool)
      (haccepting : Admission before op accepting)
      (hfenced : outcome.isUncertain = true → accepting = false)
      (hcurrent : before.current handle = some request) :
      Effect before op { before.settle handle request outcome with accepting := accepting }

theorem Effect.unchanged (before : Mailbox) (op : Op) : Effect before op before :=
  .same before.accepting .inl

variable {mailbox before : Mailbox} {handle : Nat} {op : Op}

theorem current_eq_some {request : Request} : mailbox.current handle = some request
      ↔ mailbox.pending = some handle ∧ mailbox.requests[handle]? = some request := by
  unfold Mailbox.current
  split <;> simp_all

theorem Coherent.current_open (hcoherent : Coherent mailbox) {request : Request}
    (hcurrent : mailbox.current handle = some request) :
    request.phase ≠ .finished ∧ request.replied = none := by
  obtain ⟨hpending, hrequest⟩ := current_eq_some.mp hcurrent
  obtain ⟨found, hfound, hopen⟩ := hcoherent.occupied handle hpending
  obtain rfl : found = request := by simpa [hfound] using hrequest
  exact hopen

private theorem submit_effect (mailbox : Mailbox) (op : Op) (status : Status)
    (kind value : Int) (timeout now : Nat) :
    Effect mailbox op (mailbox.submit status kind value timeout now).2 := by
  unfold Mailbox.submit
  split
  · exact .unchanged mailbox op
  · split
    · exact .unchanged mailbox op
    · rename_i deadline _
      cases hpending : mailbox.pending with
      | none => exact .admitted kind value deadline hpending
      | some handle =>
        unfold enqueue
        split
        · exact .unchanged mailbox op
        · simp only [hpending, Option.isSome_some, if_true]
          exact .unchanged mailbox op

private theorem retire_effect (op : Op) (hcoherent : Coherent mailbox) :
    Effect mailbox op mailbox.retire := by
  unfold Mailbox.retire
  dsimp only
  split
  · exact .same false (by rintro ⟨⟩)
  · rename_i handle hpending
    obtain ⟨request, hrequest, -⟩ := hcoherent.occupied handle hpending
    simp only [hrequest]
    exact .settled _ false (by rintro ⟨⟩) (fun _ => rfl)
      (current_eq_some.mpr ⟨hpending, hrequest⟩)

private theorem cancelQueued_effect (mailbox : Mailbox) (op : Op) (handle : Nat) :
    Effect mailbox op (mailbox.cancelQueued handle) := by
  unfold Mailbox.cancelQueued
  cases hcurrent : mailbox.current handle with
  | none => exact .unchanged mailbox op
  | some request =>
    dsimp only
    split
    · exact .settled _ mailbox.accepting .inl (by rintro ⟨⟩) hcurrent
    · exact .unchanged mailbox op

private theorem expire_effect (op : Op) (hcoherent : Coherent mailbox) (handle : Nat) :
    Effect mailbox op (mailbox.expire handle).2 := by
  unfold Mailbox.expire
  cases hcurrent : mailbox.current handle with
  | none => exact .unchanged mailbox op
  | some request =>
    have hopen := (hcoherent.current_open hcurrent).1
    dsimp only
    split
    · exact .settled _ mailbox.accepting .inl (by rintro ⟨⟩) hcurrent
    · refine .progressed false (by rintro ⟨⟩) hcurrent (.overdue ?_)
      cases hphase : request.phase <;> simp_all

private theorem claim_effect (mailbox : Mailbox) (op : Op) (now : Nat) :
    Effect mailbox op (mailbox.claim now).2 := by
  unfold Mailbox.claim
  cases hpending : mailbox.pending with
  | none => exact .unchanged mailbox op
  | some handle =>
    dsimp only
    cases hrequest : mailbox.requests[handle]? with
    | none => exact .unchanged mailbox op
    | some request =>
      have hcurrent : mailbox.current handle = some request :=
        current_eq_some.mpr ⟨hpending, hrequest⟩
      dsimp only
      split
      · exact .unchanged mailbox op
      · rename_i hphase
        split
        · exact .settled _ mailbox.accepting .inl (by rintro ⟨⟩) hcurrent
        · exact .progressed mailbox.accepting .inl hcurrent (.claimed (by simpa using hphase))

private theorem dispatch_effect (mailbox : Mailbox) (handle now : Nat) :
    Effect mailbox (.dispatch handle now) (mailbox.dispatch handle now).2 := by
  unfold Mailbox.dispatch
  cases hcurrent : mailbox.current handle with
  | none => exact .unchanged mailbox _
  | some request =>
    dsimp only
    split
    · exact .unchanged mailbox _
    · rename_i hready
      simp only [not_or, ne_eq, Decidable.not_not, Bool.not_eq_false] at hready
      split
      · exact .settled _ mailbox.accepting .inl (by rintro ⟨⟩) hcurrent
      · rename_i htimely
        exact .progressed mailbox.accepting .inl hcurrent
          (.dispatched now rfl hready.2 hready.1 (by omega))

private theorem finish_effect (mailbox : Mailbox) (op : Op) (handle : Nat) (result : Outcome)
    (now : Nat) : Effect mailbox op (mailbox.finish handle result now).2 := by
  unfold Mailbox.finish
  cases hcurrent : mailbox.current handle with
  | none => exact .unchanged mailbox op
  | some request =>
    dsimp only
    split
    · exact .unchanged mailbox op
    · split
      · exact .settled _ false (by rintro ⟨⟩) (fun _ => rfl) hcurrent
      · rename_i hknown
        exact .settled _ mailbox.accepting .inl (fun h => absurd h hknown) hcurrent

theorem next_effect (hcoherent : Coherent mailbox) (op : Op) :
    Effect mailbox op (machine.next mailbox op) := by
  cases op with
  | submit status kind value timeout now =>
    exact submit_effect mailbox _ status kind value timeout now
  | claim now => exact claim_effect mailbox _ now
  | dispatch handle now => exact dispatch_effect mailbox handle now
  | finish handle result now => exact finish_effect mailbox _ handle result now
  | cancelBeforeDispatch handle => exact cancelQueued_effect mailbox _ handle
  | dropReceipt handle => exact cancelQueued_effect mailbox _ handle
  | expire handle => exact expire_effect _ hcoherent handle
  | retire => exact retire_effect _ hcoherent
  | accept => exact .same true (fun _ => .inr rfl)

theorem Request.finish_phase (request : Request) (outcome : Outcome) :
    (request.finish outcome).phase = .finished := by
  unfold Request.finish Request.send
  split <;> rfl

theorem Request.finish_replied (request : Request) (outcome : Outcome) :
    (request.finish outcome).replied = some (request.replied.getD outcome) := by
  unfold Request.finish Request.send
  split
  · rename_i hheld
    have hnone : request.replied = none := hheld
    simp [hnone]
  · rename_i sent hsent
    have hsome : request.replied = some sent := hsent
    simp [hsome]

theorem Progress.open_ {request request' : Request}
    (hprogress : Progress before op handle request request') :
    request'.phase ≠ .finished ∧ request'.replied = request.replied := by
  cases hprogress with
  | claimed => exact ⟨Phase.noConfusion, rfl⟩
  | dispatched now => exact ⟨Phase.noConfusion, rfl⟩
  | overdue hphase => exact ⟨by simp [hphase], rfl⟩

theorem store_getElem? (mailbox : Mailbox) (handle id : Nat) (request : Request) :
    (mailbox.store handle request).requests[id]?
      = if handle = id then mailbox.requests[id]?.map fun _ => request
        else mailbox.requests[id]? := by
  simp only [store, List.getElem?_set]
  split
  · rename_i hsame
    subst hsame
    split
    · rename_i hlt
      simp [List.getElem?_eq_getElem hlt]
    · rename_i hge
      simp [List.getElem?_eq_none (Nat.le_of_not_lt hge)]
  · rfl

theorem Effect.coherent {after : Mailbox} (heffect : Effect before op after)
    (hcoherent : Coherent before) : Coherent after := by
  cases heffect with
  | same accepting => exact ⟨hcoherent.occupied, hcoherent.settled⟩
  | admitted kind value deadline hfree =>
    unfold enqueue
    split
    · exact hcoherent
    · simp only [hfree, Option.isSome_none, Bool.false_eq_true, if_false]
      constructor
      · intro handle hpending
        obtain rfl : before.requests.length = handle := by simpa using hpending
        exact ⟨_, List.getElem?_concat_length, Phase.noConfusion, rfl⟩
      · intro handle request hrequest hother
        rw [List.getElem?_append] at hrequest
        split at hrequest
        · exact hcoherent.settled handle request hrequest (by simp [hfree])
        · rename_i hge
          have hne : before.requests.length ≠ handle := by simpa using hother
          have hout : handle - before.requests.length ≠ 0 := by omega
          simp [hout] at hrequest
  | @progressed target request request' accepting haccepting hcurrent hprogress =>
    obtain ⟨hpending, hrequest⟩ := current_eq_some.mp hcurrent
    obtain ⟨hopen, hreplied⟩ := hprogress.open_
    constructor
    · intro handle hslot
      obtain rfl : target = handle := by simpa [store, hpending] using hslot
      refine ⟨request', ?_, hopen, hreplied.trans (hcoherent.current_open hcurrent).2⟩
      simp [store_getElem?, hrequest]
    · intro handle found hfound hother
      have hne : target ≠ handle := by simpa [store, hpending] using hother
      rw [store_getElem?, if_neg hne] at hfound
      exact hcoherent.settled handle found hfound (by simpa [hpending] using hne)
  | @settled target request outcome accepting haccepting hfenced hcurrent =>
    obtain ⟨hpending, hrequest⟩ := current_eq_some.mp hcurrent
    constructor
    · intro handle hslot
      simp [settle] at hslot
    · intro handle found hfound _
      change (before.store target (request.finish outcome)).requests[handle]? = some found
        at hfound
      rw [store_getElem?] at hfound
      split at hfound
      · rename_i hsame
        subst hsame
        rw [hrequest] at hfound
        obtain rfl : request.finish outcome = found := by simpa using hfound
        exact ⟨request.finish_phase outcome, by simp [request.finish_replied]⟩
      · rename_i hne
        exact hcoherent.settled handle found hfound (by simpa [hpending] using hne)

/-! ## Runs -/

theorem coherent_inductive : machine.Inductive empty Coherent where
  init := ⟨by simp [empty], by simp [empty]⟩
  step op hcoherent := (next_effect hcoherent op).coherent hcoherent

theorem Effect.request {after : Mailbox} (heffect : Effect before op after) {request : Request}
    (hrequest : before.requests[handle]? = some request) :
    ∃ request', after.requests[handle]? = some request' ∧
      (request' = request ∨ (before.current handle = some request
        ∧ (Progress before op handle request request' ∨ ∃ outcome, request' = request.finish outcome
            ∧ (outcome.isUncertain = true → after.accepting = false)))) := by
  cases heffect with
  | same accepting => exact ⟨request, hrequest, .inl rfl⟩
  | admitted kind value deadline hfree =>
    refine ⟨request, ?_, .inl rfl⟩
    unfold enqueue
    split
    · exact hrequest
    · simp only [hfree, Option.isSome_none, Bool.false_eq_true, if_false]
      exact (List.getElem?_append_left (List.getElem?_eq_some_iff.mp hrequest).1).trans hrequest
  | @progressed target current request' accepting haccepting hcurrent hprogress =>
    change ∃ r, (before.store target request').requests[handle]? = some r ∧ _
    rw [store_getElem?]
    by_cases hsame : target = handle
    · subst hsame
      obtain rfl : current = request := by
        simpa [hrequest] using (current_eq_some.mp hcurrent).2.symm
      exact ⟨request', by simp [hrequest], .inr ⟨hcurrent, .inl hprogress⟩⟩
    · exact ⟨request, by simp [hsame, hrequest], .inl rfl⟩
  | @settled target current outcome accepting haccepting hfenced hcurrent =>
    change ∃ r, (before.store target (current.finish outcome)).requests[handle]? = some r ∧ _
    rw [store_getElem?]
    by_cases hsame : target = handle
    · subst hsame
      obtain rfl : current = request := by
        simpa [hrequest] using (current_eq_some.mp hcurrent).2.symm
      exact ⟨current.finish outcome, by simp [hrequest],
        .inr ⟨hcurrent, .inr ⟨outcome, rfl, hfenced⟩⟩⟩
    · exact ⟨request, by simp [hsame, hrequest], .inl rfl⟩

theorem Effect.request_before {after : Mailbox} (heffect : Effect before op after)
    {request' : Request} (hrequest : after.requests[handle]? = some request') :
    (∃ request, before.requests[handle]? = some request)
      ∨ (request'.phase = .queued ∧ request'.replied = none) := by
  cases hbefore : before.requests[handle]? with
  | some request => exact .inl ⟨request, rfl⟩
  | none =>
    right
    cases heffect with
    | same accepting => simp [hbefore] at hrequest
    | admitted kind value deadline hfree =>
      unfold enqueue at hrequest
      split at hrequest
      · simp [hbefore] at hrequest
      · simp only [hfree, Option.isSome_none, Bool.false_eq_true, if_false,
          List.getElem?_append_right (List.getElem?_eq_none_iff.mp hbefore)] at hrequest
        have hmem := List.mem_of_getElem? hrequest
        rw [List.mem_singleton] at hmem
        subst hmem
        exact ⟨rfl, rfl⟩
    | @progressed target current request' accepting =>
      change (before.store target request').requests[handle]? = _ at hrequest
      simp [store_getElem?, hbefore] at hrequest
    | @settled target current outcome =>
      change (before.store target (current.finish outcome)).requests[handle]? = _ at hrequest
      simp [store_getElem?, hbefore] at hrequest

/-! ## Outcomes -/

def Mailbox.repliedOf (mailbox : Mailbox) (handle : Nat) : Option Outcome :=
  mailbox.requests[handle]?.bind (·.replied)

def admits (handle : Nat) (t : Step) : Bool :=
  match t.result with
  | .submitted (.ok submitted) => submitted == handle
  | _ => false

def dispatches (handle : Nat) (t : Step) : Bool :=
  match t.op, t.result with
  | .dispatch target _, .dispatched sent => target == handle && sent
  | _, _ => false

def commits (handle : Nat) (t : Step) : Bool :=
  match t.op, t.result with
  | .finish target _ _, .finished finished => target == handle && finished.committed
  | _, _ => false

def resolves (handle : Nat) (t : Step) : Bool :=
  !(t.before.repliedOf handle).isSome && (t.after.repliedOf handle).isSome

/-- The waiter learns an outcome through its channel, or from the expiry of its own deadline. -/
def Tells (handle : Nat) (outcome : Outcome) (t : Step) : Prop :=
  (t.before.repliedOf handle = none ∧ t.after.repliedOf handle = some outcome)
    ∨ ∃ error, t.op = .expire handle ∧ t.result = .expired (some error) ∧ outcome = .error error

def Known (handle : Nat) (mailbox : Mailbox) : Prop :=
  ∃ request, mailbox.requests[handle]? = some request

def Running (handle : Nat) (mailbox : Mailbox) : Prop :=
  ∃ request, mailbox.requests[handle]? = some request ∧ request.phase = .running

def Settled (handle : Nat) (mailbox : Mailbox) : Prop :=
  ∃ request, mailbox.requests[handle]? = some request ∧ request.phase = .finished

/-- A request that can no longer commit: settled, or dispatched and overdue. -/
def Doomed (handle : Nat) (mailbox : Mailbox) : Prop :=
  ∃ request, mailbox.requests[handle]? = some request
    ∧ (request.phase = .finished ∨ (request.phase = .running ∧ request.uncertain = true))

theorem Settled.doomed (hsettled : Settled handle mailbox) : Doomed handle mailbox := by
  obtain ⟨request, hrequest, hphase⟩ := hsettled
  exact ⟨request, hrequest, .inl hphase⟩

theorem settle_getElem? {request : Request} (request' : Request) (outcome : Outcome)
    (hrequest : mailbox.requests[handle]? = some request) :
    (mailbox.settle handle request' outcome).requests[handle]? = some (request'.finish outcome) := by
  change (mailbox.store handle (request'.finish outcome)).requests[handle]? = _
  simp [store_getElem?, hrequest]

theorem settle_settled {request : Request} (request' : Request) (outcome : Outcome)
    (hrequest : mailbox.requests[handle]? = some request) :
    Settled handle (mailbox.settle handle request' outcome) :=
  ⟨_, settle_getElem? request' outcome hrequest, request'.finish_phase outcome⟩

theorem known_lasting (handle : Nat) : Machine.Lasting machine Coherent (Known handle) := by
  rintro mailbox op hcoherent ⟨request, hrequest⟩
  obtain ⟨request', hrequest', -⟩ := (next_effect hcoherent op).request hrequest
  exact ⟨request', hrequest'⟩

theorem settled_lasting (handle : Nat) : Machine.Lasting machine Coherent (Settled handle) := by
  rintro mailbox op hcoherent ⟨request, hrequest, hphase⟩
  obtain ⟨request', hrequest', rfl | ⟨hcurrent, -⟩⟩ := (next_effect hcoherent op).request hrequest
  · exact ⟨request', hrequest', hphase⟩
  · exact absurd hphase (hcoherent.current_open hcurrent).1

theorem doomed_lasting (handle : Nat) : Machine.Lasting machine Coherent (Doomed handle) := by
  rintro mailbox op hcoherent ⟨request, hrequest, hdoomed⟩
  obtain ⟨request', hrequest', rfl | ⟨hcurrent, hprogress | ⟨outcome, rfl, -⟩⟩⟩ :=
    (next_effect hcoherent op).request hrequest
  · exact ⟨request', hrequest', hdoomed⟩
  · have hrunning : request.phase = .running ∧ request.uncertain = true :=
      hdoomed.resolve_left (hcoherent.current_open hcurrent).1
    cases hprogress with
    | claimed hphase => simp [hphase] at hrunning
    | dispatched now hop haccepting hphase => simp [hphase] at hrunning
    | overdue hphase => exact ⟨_, hrequest', .inr ⟨hphase, rfl⟩⟩
  · exact ⟨_, hrequest', .inl (request.finish_phase outcome)⟩

theorem Settled.closed (hcoherent : Coherent mailbox) (hsettled : Settled handle mailbox) :
    mailbox.current handle = none ∧ mailbox.repliedOf handle ≠ none := by
  obtain ⟨request, hrequest, hphase⟩ := hsettled
  have hcurrent : mailbox.current handle = none := by
    cases hcurrent : mailbox.current handle with
    | none => rfl
    | some found =>
      obtain rfl : request = found := by
        simpa [hrequest] using (current_eq_some.mp hcurrent).2
      exact absurd hphase (hcoherent.current_open hcurrent).1
  have hpending : mailbox.pending ≠ some handle := by
    intro hpending
    simp [current_eq_some.mpr ⟨hpending, hrequest⟩] at hcurrent
  refine ⟨hcurrent, ?_⟩
  simpa [Mailbox.repliedOf, hrequest] using (hcoherent.settled handle request hrequest hpending).2

theorem replied_lasting (handle : Nat) : Machine.Lasting machine Coherent
      (fun mailbox => (mailbox.repliedOf handle).isSome = true) := by
  intro mailbox op hcoherent hreplied
  cases hrequest : mailbox.requests[handle]? with
  | none => simp [Mailbox.repliedOf, hrequest] at hreplied
  | some request =>
    have hsent : request.replied.isSome = true := by
      simpa [Mailbox.repliedOf, hrequest] using hreplied
    obtain ⟨request', hrequest', rfl | ⟨hcurrent, -⟩⟩ :=
      (next_effect hcoherent op).request hrequest
    · simpa [Mailbox.repliedOf, hrequest'] using hsent
    · simp [(hcoherent.current_open hcurrent).2] at hsent

theorem admits_spec (hadmits : admits handle (machine.perform mailbox op) = true) :
    mailbox.accepting = true ∧ Known handle (machine.next mailbox op) := by
  cases op with
  | submit status kind value timeout now =>
    simp only [admits, Machine.perform, Machine.next, machine, Mailbox.submit] at hadmits ⊢
    split at hadmits
    · rename_i submitted hanswer
      have hhandle : submitted = handle := by simpa using hadmits
      subst hhandle
      split at hanswer
      · simp at hanswer
      · split at hanswer
        · simp at hanswer
        · unfold enqueue at hanswer ⊢
          split at hanswer
          · simp at hanswer
          · split at hanswer
            · simp at hanswer
            · rename_i haccepting hfree
              obtain rfl : mailbox.requests.length = submitted := by simpa using hanswer
              simp only [haccepting, hfree, Bool.false_eq_true, if_false]
              exact ⟨by simpa using haccepting, _, List.getElem?_concat_length⟩
    · cases hadmits
  | claim now => cases hadmits
  | dispatch target now => cases hadmits
  | finish target result now => cases hadmits
  | cancelBeforeDispatch target => cases hadmits
  | dropReceipt target => cases hadmits
  | expire target => cases hadmits
  | retire => cases hadmits
  | accept => cases hadmits

theorem dispatches_spec (hdispatches : dispatches handle (machine.perform mailbox op) = true) :
    ∃ request, mailbox.current handle = some request := by
  cases op with
  | dispatch target now =>
    simp only [dispatches, Machine.perform, machine, Bool.and_eq_true, beq_iff_eq]
      at hdispatches
    obtain ⟨rfl, hsent⟩ := hdispatches
    cases hcurrent : mailbox.current target with
    | none => simp [Mailbox.dispatch, hcurrent] at hsent
    | some request => exact ⟨request, rfl⟩
  | submit status kind value timeout now => cases hdispatches
  | claim now => cases hdispatches
  | finish target result now => cases hdispatches
  | cancelBeforeDispatch target => cases hdispatches
  | dropReceipt target => cases hdispatches
  | expire target => cases hdispatches
  | retire => cases hdispatches
  | accept => cases hdispatches

theorem dispatched_of_progress {now : Nat} {request : Request}
    (hcurrent : mailbox.current handle = some request) (haccepting : mailbox.accepting = true)
    (hphase : request.phase = .claimed) (htimely : now < request.deadline) :
    dispatches handle (machine.perform mailbox (.dispatch handle now)) = true := by
  have hlate : ¬request.deadline ≤ now := by omega
  simp [dispatches, Machine.perform, machine, Mailbox.dispatch, hcurrent, haccepting, hphase, hlate]

theorem acknowledged_isOk {request : Request} {result : Outcome} {now : Nat}
    (hok : (mailbox.acknowledged request result now).isOk = true) :
    mailbox.acknowledged request result now = result ∧ result.isOk = true
      ∧ request.phase = .running ∧ request.uncertain = false ∧ mailbox.accepting = true
      ∧ now ≤ request.deadline := by
  unfold Mailbox.acknowledged at hok ⊢
  split at hok
  · cases hok
  · rename_i hpassed
    rw [if_neg hpassed]
    cases result with
    | error error => cases hok
    | ok value =>
      have hguards : request.uncertain = false ∧ mailbox.accepting = true
          ∧ request.phase = .running ∧ now ≤ request.deadline := by
        simpa [Outcome.isUncertain, Except.isOk, Except.toBool, and_assoc] using hpassed
      obtain ⟨hcertain, haccepting, hrunning, htimely⟩ := hguards
      exact ⟨rfl, rfl, hrunning, hcertain, haccepting, htimely⟩

structure Acknowledged (mailbox : Mailbox) (op : Op) (handle : Nat) (request : Request)
    (value : Int) (now : Nat) : Prop where
  current : mailbox.current handle = some request
  running : request.phase = .running
  certain : request.uncertain = false
  accepting : mailbox.accepting = true
  finish : op = .finish handle (.ok value) now
  timely : now ≤ request.deadline
  result : (machine.perform mailbox op).result = .finished ⟨.ok value, true⟩
  replied : request.replied = none →
    (machine.next mailbox op).repliedOf handle = some (.ok value)
  settled : Settled handle (machine.next mailbox op)

theorem commits_spec (hcommits : commits handle (machine.perform mailbox op) = true) :
    ∃ request value now, Acknowledged mailbox op handle request value now := by
  cases op with
  | finish target result now =>
    simp only [commits, Machine.perform, machine, Bool.and_eq_true, beq_iff_eq] at hcommits
    obtain ⟨rfl, hcommitted⟩ := hcommits
    cases hcurrent : mailbox.current target with
    | none => simp [Mailbox.finish, hcurrent] at hcommitted
    | some request =>
      simp only [Mailbox.finish, hcurrent] at hcommitted
      split at hcommitted
      · cases hcommitted
      · rename_i hphase
        obtain ⟨hresult, hok, hrunning, hcertain, haccepting, htimely⟩ :=
          acknowledged_isOk hcommitted
        cases result with
        | error error => cases hok
        | ok value =>
          have hrequest := (current_eq_some.mp hcurrent).2
          have hfinish : mailbox.finish target (.ok value) now
              = (⟨.ok value, true⟩, mailbox.settle target request (.ok value)) := by
            simp only [Mailbox.finish, hcurrent, if_neg hphase, hresult]
            rfl
          have hstored := settle_getElem? request (.ok value) hrequest
          refine ⟨request, value, now, hcurrent, hrunning, hcertain, haccepting, rfl,
            htimely, ?_, ?_, ?_⟩
          · simp [Machine.perform, machine, hfinish]
          · intro hheld
            simp [Machine.next, machine, hfinish, Mailbox.repliedOf, hstored,
              request.finish_replied, hheld]
          · simp only [Machine.next, machine, hfinish]
            exact settle_settled request (.ok value) hrequest
  | submit status kind value timeout now => cases hcommits
  | claim now => cases hcommits
  | dispatch target now => cases hcommits
  | cancelBeforeDispatch target => cases hcommits
  | dropReceipt target => cases hcommits
  | expire target => cases hcommits
  | retire => cases hcommits
  | accept => cases hcommits

private theorem expire_tells {error : CoolingError} (hcoherent : Coherent mailbox)
    (hexpire : (mailbox.expire handle).1 = some error) : Doomed handle (mailbox.expire handle).2
      ∧ (error.isUncertain = false → Settled handle (mailbox.expire handle).2)
      ∧ (error.isUncertain = true → (mailbox.expire handle).2.accepting = false) := by
  cases hcurrent : mailbox.current handle with
  | none => simp [Mailbox.expire, hcurrent] at hexpire
  | some request =>
    obtain ⟨hopen, -⟩ := hcoherent.current_open hcurrent
    have hrequest := (current_eq_some.mp hcurrent).2
    simp only [Mailbox.expire, hcurrent] at hexpire ⊢
    split at hexpire
    · rename_i hwaiting
      obtain rfl : CoolingError.expired = error := by simpa using hexpire
      have hsettled := settle_settled request (.error .expired) hrequest
      simp only [hwaiting, if_true]
      exact ⟨hsettled.doomed, fun _ => hsettled, by rintro ⟨⟩⟩
    · rename_i hwaiting
      obtain rfl := Option.some.inj hexpire
      rw [if_neg hwaiting]
      refine ⟨⟨{ request with uncertain := true }, ?_, .inr ⟨?_, rfl⟩⟩,
        fun h => by simp [CoolingError.isUncertain] at h, fun _ => rfl⟩
      · change (mailbox.store handle { request with uncertain := true }).requests[handle]? = _
        simp [store_getElem?, hrequest]
      · cases hphase : request.phase <;> simp_all

private theorem resolution_tells {outcome : Outcome} (hcoherent : Coherent mailbox)
    (hheld : mailbox.repliedOf handle = none)
    (hreplied : (machine.next mailbox op).repliedOf handle = some outcome) :
    Settled handle (machine.next mailbox op)
      ∧ (outcome.isUncertain = true → (machine.next mailbox op).accepting = false) := by
  have heffect := next_effect hcoherent op
  obtain ⟨request', hrequest', hsent⟩ := Option.bind_eq_some_iff.mp hreplied
  rcases heffect.request_before hrequest' with ⟨request, hrequest⟩ | ⟨-, hnone⟩
  · have hnone : request.replied = none := by
      simpa [Mailbox.repliedOf, hrequest] using hheld
    obtain ⟨found, hfound, hcases⟩ := heffect.request hrequest
    obtain rfl : found = request' := by simpa [hfound] using hrequest'
    rcases hcases with rfl | ⟨hcurrent, hprogress | ⟨sent, rfl, hfenced⟩⟩
    · simp [hnone] at hsent
    · simp [hprogress.open_.2, hnone] at hsent
    · have hsame : sent = outcome := by
        simpa [request.finish_replied, hnone] using hsent
      subst hsame
      exact ⟨⟨_, hrequest', request.finish_phase sent⟩, hfenced⟩
  · simp [hnone] at hsent

theorem tells_spec {outcome : Outcome} (hcoherent : Coherent mailbox)
    (htells : Tells handle outcome (machine.perform mailbox op)) :
    Doomed handle (machine.next mailbox op)
      ∧ (outcome.isUncertain = false → Settled handle (machine.next mailbox op))
      ∧ (outcome.isUncertain = true → (machine.next mailbox op).accepting = false) := by
  rcases htells with ⟨hheld, hreplied⟩ | ⟨error, rfl, hresult, rfl⟩
  · obtain ⟨hsettled, hfenced⟩ := resolution_tells hcoherent hheld hreplied
    exact ⟨hsettled.doomed, fun _ => hsettled, hfenced⟩
  · have hexpire : (mailbox.expire handle).1 = some error := by
      simpa [Machine.perform, machine] using hresult
    exact expire_tells hcoherent hexpire

def Forfeits (handle : Nat) (t : Step) : Prop :=
  (t.before.pending = some handle ∧ (t.op = .expire handle ∨ t.op = .retire))
    ∨ ∃ message code, Tells handle (.error (.uncertain message code)) t

theorem forfeits_doomed (hcoherent : Coherent mailbox)
    (hforfeits : Forfeits handle (machine.perform mailbox op)) :
    Doomed handle (machine.next mailbox op) := by
  rcases hforfeits with ⟨hpending, hop⟩ | ⟨message, code, htells⟩
  · obtain ⟨request, hrequest, -⟩ := hcoherent.occupied handle hpending
    have hcurrent : mailbox.current handle = some request :=
      current_eq_some.mpr ⟨hpending, hrequest⟩
    rcases hop with rfl | rfl
    · cases hexpire : (mailbox.expire handle).1 with
      | some error => exact (expire_tells hcoherent hexpire).1
      | none =>
        simp only [Mailbox.expire, hcurrent] at hexpire
        split at hexpire <;> cases hexpire
    · have hslot : mailbox.pending = some handle := hpending
      simp only [Machine.next, machine, Mailbox.retire, hslot, hrequest]
      have hretired : { mailbox with accepting := false }.requests[handle]? = some request :=
        hrequest
      exact (settle_settled request _ hretired).doomed
  · exact (tells_spec hcoherent htells).1

theorem doomed_no_commit (hcoherent : Coherent mailbox) (hdoomed : Doomed handle mailbox) :
    ¬commits handle (machine.perform mailbox op) = true := by
  intro hcommits
  obtain ⟨request, value, now, hack⟩ := commits_spec hcommits
  obtain ⟨found, hfound, hcases⟩ := hdoomed
  obtain rfl : found = request := by simpa [hfound] using (current_eq_some.mp hack.current).2
  rcases hcases with hfinished | ⟨-, huncertain⟩
  · exact (hcoherent.current_open hack.current).1 hfinished
  · simp [hack.certain] at huncertain

theorem settled_not_forfeits (hcoherent : Coherent mailbox) (hsettled : Settled handle mailbox) :
    ¬Forfeits handle (machine.perform mailbox op) := by
  obtain ⟨hclosed, hreplied⟩ := hsettled.closed hcoherent
  rintro (⟨hpending, -⟩ | ⟨message, code, ⟨hheld, -⟩ | ⟨error, rfl, hresult, -⟩⟩)
  · obtain ⟨request, hrequest, -⟩ := hcoherent.occupied handle hpending
    have hcurrent := current_eq_some.mpr ⟨hpending, hrequest⟩
    simp only [Machine.perform, hclosed] at hcurrent
    cases hcurrent
  · exact hreplied hheld
  · simp [Machine.perform, machine, Mailbox.expire, hclosed] at hresult

theorem commits_not_forfeits (hcoherent : Coherent mailbox)
    (hcommits : commits handle (machine.perform mailbox op) = true) :
    ¬Forfeits handle (machine.perform mailbox op) := by
  obtain ⟨request, value, now, hack⟩ := commits_spec hcommits
  have hsent := hack.replied (hcoherent.current_open hack.current).2
  obtain rfl := hack.finish
  rintro (⟨-, hop⟩ | ⟨message, code, ⟨-, htold⟩ | ⟨error, hop, -⟩⟩)
  · rcases hop with hop | hop <;> cases hop
  · have hafter : (machine.next mailbox (.finish handle (.ok value) now)).repliedOf handle
        = some (.error (.uncertain message code)) := htold
    simp [hsent] at hafter
  · cases hop

theorem running_since (handle : Nat) : Machine.Since machine Coherent (Running handle)
      (fun t => dispatches handle t = true ∧ t.before.accepting = true) := by
  rintro mailbox op hcoherent ⟨request', hrequest', hphase'⟩
  have heffect := next_effect hcoherent op
  rcases heffect.request_before hrequest' with ⟨request, hrequest⟩ | ⟨hqueued, -⟩
  · obtain ⟨found, hfound, hcases⟩ := heffect.request hrequest
    obtain rfl : found = request' := by simpa [hfound] using hrequest'
    rcases hcases with rfl | ⟨hcurrent, hprogress | ⟨outcome, rfl, -⟩⟩
    · exact .inr ⟨found, hrequest, hphase'⟩
    · cases hprogress with
      | claimed => cases hphase'
      | dispatched now hop haccepting hclaimed htimely =>
        subst hop
        exact .inl ⟨dispatched_of_progress hcurrent haccepting hclaimed htimely, haccepting⟩
      | overdue hrunning => exact .inr ⟨request, hrequest, hrunning⟩
    · simp [request.finish_phase] at hphase'
  · simp [hqueued] at hphase'

theorem closed_until_accept :
    Machine.Until machine Coherent (fun mailbox => mailbox.accepting = false)
      (fun t => t.op = .accept) := by
  intro mailbox op hcoherent hclosed
  by_cases hop : op = .accept
  · exact .inl hop
  · right
    have hkept : ∀ {accepting : Bool}, Admission mailbox op accepting → accepting = false := by
      intro accepting hadmission
      cases accepting with
      | false => rfl
      | true =>
        rcases hadmission rfl with hbefore | haccept
        · simp [hclosed] at hbefore
        · exact absurd haccept hop
    have heffect := next_effect hcoherent op
    generalize machine.next mailbox op = after at heffect
    cases heffect with
    | same accepting haccepting => exact hkept haccepting
    | admitted kind value deadline hfree => simp [enqueue, hclosed]
    | progressed accepting haccepting hcurrent hprogress => exact hkept haccepting
    | settled outcome accepting haccepting hfenced hcurrent => exact hkept haccepting

/-! ## Guarantees -/

/-- The guarantees of one run of mailbox operations that ended in `last`. -/
structure Guarantees (run : List Step) (last : Mailbox) : Prop where
  /-- An unresolved request is the pending one, so there is at most one. -/
  one_pending : ∀ handle, (∃ t ∈ run, admits handle t = true) → last.repliedOf handle = none →
    last.pending = some handle
  resolved_once : ∀ handle, (∃ t ∈ run, admits handle t = true) →
    run.countP (resolves handle) = if last.pending = some handle then 0 else 1
  committed_once : ∀ handle, run.countP (commits handle) ≤ 1
  /-- A commit belongs to a dispatched, pending and timely acknowledgement. -/
  commit_acknowledged : ∀ handle before t after, run = before ++ t :: after →
    commits handle t = true →
      (∃ earlier ∈ before, dispatches handle earlier = true ∧ earlier.before.accepting = true)
        ∧ t.before.accepting = true ∧ t.before.pending = some handle
        ∧ ∃ request value now, t.before.requests[handle]? = some request
          ∧ t.op = .finish handle (.ok value) now ∧ now ≤ request.deadline
          ∧ t.result = .finished ⟨.ok value, true⟩
  undispatched : ∀ handle error, error = .expired ∨ error = .cancelled ∨ error = .unavailable →
    run.Pairwise fun earlier later =>
      Tells handle (.error error) earlier → ¬dispatches handle later = true
  forfeited : ∀ handle, ∀ t ∈ run, ∀ t' ∈ run, Forfeits handle t → ¬commits handle t' = true
  /-- After an uncertain outcome only an activation readmits requests. -/
  closed : ∀ handle next message code before t mid t' after,
    run = before ++ t :: mid ++ t' :: after →
    Tells handle (.error (.uncertain message code)) t → admits next t' = true →
      ∃ released ∈ mid, released.op = .accept

theorem commits_resolves (hcoherent : Coherent mailbox)
    (hcommits : commits handle (machine.perform mailbox op) = true) :
    resolves handle (machine.perform mailbox op) = true := by
  obtain ⟨request, value, now, hack⟩ := commits_spec hcommits
  have hheld := (hcoherent.current_open hack.current).2
  have hbefore : mailbox.repliedOf handle = none := by
    simp [Mailbox.repliedOf, (current_eq_some.mp hack.current).2, hheld]
  simp [resolves, Machine.perform, hbefore, hack.replied hheld]

theorem replied_iff_closed (hcoherent : Coherent mailbox) (hknown : Known handle mailbox) :
    mailbox.repliedOf handle = none ↔ mailbox.pending = some handle := by
  obtain ⟨request, hrequest⟩ := hknown
  constructor
  · intro hheld
    have hnone : request.replied = none := by
      simpa [Mailbox.repliedOf, hrequest] using hheld
    by_cases hpending : mailbox.pending = some handle
    · exact hpending
    · exact absurd hnone (hcoherent.settled handle request hrequest hpending).2
  · intro hpending
    have hcurrent := current_eq_some.mpr ⟨hpending, hrequest⟩
    simp [Mailbox.repliedOf, hrequest, (hcoherent.current_open hcurrent).2]

/-- The guarantees hold for every sequence of mailbox operations. -/
theorem run_guarantees (ops : List Op) :
    Guarantees (machine.run empty ops) (machine.final empty ops) := by
  have hinv := coherent_inductive
  have hknown : ∀ handle, (∃ t ∈ machine.run empty ops, admits handle t = true) →
      Known handle (machine.final empty ops) := by
    rintro handle ⟨t, hmem, hadmits⟩
    obtain ⟨-, -, hstep⟩ := hinv.mem_run hmem
    rw [hstep] at hadmits
    refine (known_lasting handle).final_of_mem hinv hmem ?_
    rw [hstep]
    exact (admits_spec hadmits).2
  have hfinal := hinv.final ops
  have hcount : ∀ handle, (machine.run empty ops).countP (resolves handle)
      = if ((machine.final empty ops).repliedOf handle).isSome then 1 else 0 := by
    intro handle
    have hempty : Mailbox.empty.repliedOf handle = none := by
      simp [empty, Mailbox.repliedOf]
    refine ((replied_lasting handle).countP_raised hinv ops).trans ?_
    simp [hempty]
  refine ⟨?_, ?_, ?_, ?_, ?_, ?_, ?_⟩
  · intro handle hadmitted hheld
    exact (replied_iff_closed hfinal (hknown handle hadmitted)).mp hheld
  · intro handle hadmitted
    rw [hcount]
    have hiff := replied_iff_closed hfinal (hknown handle hadmitted)
    by_cases hpending : (machine.final empty ops).pending = some handle
    · simp [hiff.mpr hpending, hpending]
    · have hsome : ((machine.final empty ops).repliedOf handle).isSome = true :=
        Option.isSome_iff_ne_none.mpr fun hnone => hpending (hiff.mp hnone)
      simp [hsome, hpending]
  · intro handle
    have hle : (machine.run empty ops).countP (commits handle)
        ≤ (machine.run empty ops).countP (resolves handle) := by
      refine List.countP_mono_left ?_
      intro t hmem hcommits
      obtain ⟨hbefore, -, hstep⟩ := hinv.mem_run hmem
      rw [hstep] at hcommits ⊢
      exact commits_resolves hbefore hcommits
    have hone := hcount handle
    split at hone <;> omega
  · intro handle before t after hrun hcommits
    have hmem : t ∈ machine.run empty ops := by simp [hrun]
    obtain ⟨-, -, hstep⟩ := hinv.mem_run hmem
    rw [hstep] at hcommits
    obtain ⟨request, value, now, hack⟩ := commits_spec hcommits
    obtain ⟨hpending, hrequest⟩ := current_eq_some.mp hack.current
    have hnever : ¬Running handle empty := by
      rintro ⟨found, hfound, -⟩
      simp [empty] at hfound
    refine ⟨(running_since handle).earlier hinv hnever hrun ⟨request, hrequest, hack.running⟩,
      hack.accepting, hpending, request, value, now, hrequest, hack.finish, hack.timely, ?_⟩
    rw [hstep]
    exact hack.result
  · intro handle error herror
    refine (settled_lasting handle).pairwise _ (fun t => dispatches handle t = true) hinv ?_ ?_ ops
    · intro mailbox op hcoherent htells
      refine (tells_spec hcoherent htells).2.1 ?_
      rcases herror with rfl | rfl | rfl <;> rfl
    · intro mailbox op hcoherent hsettled hdispatches
      obtain ⟨request, hcurrent⟩ := dispatches_spec hdispatches
      simp [(hsettled.closed hcoherent).1] at hcurrent
  · intro handle
    have hforward := (doomed_lasting handle).pairwise (Forfeits handle)
      (fun t => commits handle t = true) hinv
      (fun _ _ hcoherent hforfeits => forfeits_doomed hcoherent hforfeits)
      (fun _ _ hcoherent hdoomed => doomed_no_commit hcoherent hdoomed) ops
    have hbackward := (settled_lasting handle).pairwise
      (fun t => commits handle t = true) (Forfeits handle) hinv
      (fun _ _ _ hcommits => by
        obtain ⟨request, value, now, hack⟩ := commits_spec hcommits
        exact hack.settled)
      (fun _ _ hcoherent hsettled => settled_not_forfeits hcoherent hsettled) ops
    intro t hmem t' hmem'
    refine List.Pairwise.forall_of_forall_of_flip ?_ hforward ?_ hmem hmem'
    · intro t hmem hforfeits hcommits
      obtain ⟨hbefore, -, hstep⟩ := hinv.mem_run hmem
      rw [hstep] at hforfeits hcommits
      exact commits_not_forfeits hbefore hcommits hforfeits
    · refine hbackward.imp ?_
      intro earlier later hexclusive hforfeits hcommits
      exact hexclusive hcommits hforfeits
  · intro handle next message code before t mid t' after hrun htells hadmits
    refine closed_until_accept.between (Tells handle (.error (.uncertain message code)))
      (fun t => admits next t = true) hinv ?_ ?_ hrun htells hadmits
    · intro mailbox op hcoherent htold
      exact (tells_spec hcoherent htold).2.2 rfl
    · intro mailbox op _ hclosed hadmitted
      simp [(admits_spec hadmitted).1] at hclosed

end Regain.Core.Cooling
