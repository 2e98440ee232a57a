import Mathlib.Tactic.Common
import Regain.Zwo.Accessory

/-!
# A motion at a time

Whatever the device answers, one move or one calibration is pending at a time, an accepted request
writes one motion, and pending work ends without a fault only when a status shows that it is done,
or when a focuser is halted.
-/

namespace Regain.Zwo.Accessory

open Lib
open Exchange

/-! ## Motions -/

abbrev Log : Type := List (Command × Reply)

def Command.isMotion : Command → Bool
  | .output (3 :: 0x7e :: 0x5a :: 1 :: _) => true
  | .output (3 :: 0x7e :: 0x5a :: 3 :: 1 :: _) => true
  | _ => false

def motions (log : Log) : Nat :=
  log.countP fun entry => entry.1.isMotion

def Reads (kind : Kind) (log : Log) (found : Status) : Prop :=
  ∃ reply, (Command.input, reply) ∈ log ∧ reply.failed = false
    ∧ decodeStatus kind reply.report = .ok found

@[simp] theorem motions_append (log rest : Log) :
    motions (log ++ rest) = motions log + motions rest :=
  List.countP_append

theorem Reads.left {kind : Kind} {log : Log} {found : Status} (h : Reads kind log found)
    (rest : Log) : Reads kind (log ++ rest) found := by
  obtain ⟨reply, hmem, hreply⟩ := h
  exact ⟨reply, List.mem_append_left rest hmem, hreply⟩

theorem Reads.right {kind : Kind} {log : Log} {found : Status} (h : Reads kind log found)
    (rest : Log) : Reads kind (rest ++ log) found := by
  obtain ⟨reply, hmem, hreply⟩ := h
  exact ⟨reply, List.mem_append_right rest hmem, hreply⟩

/-! ## Parts of the worker -/

/-- A part that moves nothing and leaves the worker as it is. -/
structure Calm (before : Worker) (log : Log) (after : Worker) : Prop where
  motions : motions log = 0
  same : after = before

section

variable {kind : Kind} {worker : Worker}

theorem Calm.refl (worker : Worker) : Calm worker [] worker :=
  ⟨rfl, rfl⟩

theorem Calm.trans {mid after : Worker} {log rest : Log} (h : Calm worker log mid)
    (h' : Calm mid rest after) : Calm worker (log ++ rest) after := by
  refine ⟨?_, h'.same.trans h.same⟩
  rw [motions_append, h.motions, h'.motions]

def Yields (before : Worker) (P : Log → α → Prop) (log : Log) (ending : Except String α)
    (after : Worker) : Prop :=
  Calm before log after ∧ ∀ value, ending = .ok value → P log value

theorem yields_bind {P : Log → α → Prop} {first : AccessoryExchange α}
    {next : α → AccessoryExchange β} {post : Log → Except String β → Worker → Prop}
    (h : first.Meets worker (Yields worker P))
    (hfail : ∀ log error, motions log = 0 → post log (.error error) worker)
    (hnext : ∀ log value, motions log = 0 → P log value →
      (next value).Meets worker fun rest => post (log ++ rest)) :
    (first >>= next).Meets worker post := by
  refine Meets.bind h fun log ending after hyields => ?_
  obtain ⟨⟨hmotions, hsame⟩, hvalue⟩ := hyields
  subst hsame
  cases ending with
  | error error => exact hfail log error hmotions
  | ok value => exact hnext log value hmotions (hvalue value rfl)

theorem yields_ensure (condition : Bool) (error : String) :
    (ensure condition error : AccessoryExchange Unit).Meets worker
      (Yields worker fun log _ => log = [] ∧ condition = true) := by
  rw [meets_ensure]
  cases condition with
  | true => exact ⟨.refl worker, fun _ _ => ⟨rfl, rfl⟩⟩
  | false => exact ⟨.refl worker, fun _ hvalue => by cases hvalue⟩

theorem yields_output {report : List UInt8} (h : (Command.output report).isMotion = false) :
    (setOutput report).Meets worker (Yields worker fun _ _ => True) := by
  simp only [setOutput, meets_bind, meets_send, continues_ok, meets_ensure]
  intro reply
  have hcalm : Calm worker [(.output report, reply)] worker := by
    refine ⟨?_, rfl⟩
    simp [motions, h]
  cases reply.failed with
  | true => exact ⟨hcalm, fun _ hvalue => by cases hvalue⟩
  | false => exact ⟨hcalm, fun _ _ => trivial⟩

theorem yields_now : now.Meets worker (Yields worker fun _ _ => True) := by
  simp only [now, meets_bind, meets_send, continues_ok, meets_ret]
  exact fun reply => ⟨⟨rfl, rfl⟩, fun _ _ => trivial⟩

theorem yields_ret (value : α) :
    (ret value : AccessoryExchange α).Meets worker (Yields worker fun log found =>
      log = [] ∧ found = value) := by
  rw [meets_ret]
  refine ⟨.refl worker, fun found hfound => ⟨rfl, ?_⟩⟩
  injection hfound with hfound
  exact hfound.symm

theorem yields_ofExcept (value : Except String α) :
    (ofExcept value).Meets worker (Yields worker fun log found =>
      log = [] ∧ value = .ok found) := by
  cases value with
  | error error => exact ⟨.refl worker, fun found hfound => by cases hfound⟩
  | ok value =>
    refine ⟨.refl worker, fun found hfound => ⟨rfl, ?_⟩⟩
    injection hfound with hfound
    rw [hfound]

theorem isMotion_query (selector : UInt8) :
    (Command.output (padded [3, 0x7e, 0x5a, 2, selector])).isMotion = false := by
  rfl

theorem yields_query (selector : UInt8) :
    (query selector).Meets worker (Yields worker fun log report =>
      ∃ reply, (Command.input, reply) ∈ log ∧ reply.failed = false ∧ reply.report = report) := by
  unfold query
  refine yields_bind (yields_output (isMotion_query selector)) (fun log error hmotions => ?_) ?_
  · exact ⟨⟨hmotions, rfl⟩, fun _ hvalue => by cases hvalue⟩
  intro first _ hfirst _
  simp only [getInput, meets_bind, meets_send, continues_ok, meets_ensure]
  intro reply
  have hcalm : Calm worker (first ++ [(.input, reply)]) worker := by
    refine ⟨?_, rfl⟩
    rw [motions_append, hfirst]
    rfl
  cases hfailed : reply.failed with
  | true => exact ⟨hcalm, fun _ hvalue => by cases hvalue⟩
  | false =>
    simp only [Bool.not_false, if_true, continues_ok, meets_ret, meets_bind, meets_ensure,
      List.append_nil]
    split
    · refine ⟨by simpa using hcalm, fun report hreport => ?_⟩
      injection hreport with hreport
      exact ⟨reply, by simp, hfailed, hreport⟩
    · exact ⟨by simpa using hcalm, fun _ hvalue => by cases hvalue⟩

theorem yields_status (kind : Kind) : (status kind).Meets worker (Yields worker (Reads kind)) := by
  unfold status
  refine yields_bind (yields_query (selector kind)) (fun log error hmotions => ?_) ?_
  · exact ⟨⟨hmotions, rfl⟩, fun _ hvalue => by cases hvalue⟩
  intro log report hmotions hread
  refine (yields_ofExcept _).mono fun rest ending after hyields => ?_
  obtain ⟨hcalm, hvalue⟩ := hyields
  refine ⟨Calm.trans ⟨hmotions, rfl⟩ hcalm, fun found hfound => ?_⟩
  obtain ⟨reply, hmem, hfailed, hreport⟩ := hread
  refine Reads.left ⟨reply, hmem, hfailed, ?_⟩ rest
  rw [hreport]
  exact (hvalue found hfound).2

theorem yields_then {P : Log → α → Prop} {Q : Log → β → Prop} {first : AccessoryExchange α}
    {next : α → AccessoryExchange β} (h : first.Meets worker (Yields worker P))
    (hnext : ∀ log value, P log value → (next value).Meets worker
      (Yields worker fun rest found => Q (log ++ rest) found)) :
    (first >>= next).Meets worker (Yields worker Q) := by
  refine yields_bind h (fun log error hmotions => ?_) fun log value hmotions hvalue => ?_
  · exact ⟨⟨hmotions, rfl⟩, fun _ hfound => by cases hfound⟩
  · refine (hnext log value hvalue).mono fun rest ending after hyields => ?_
    exact ⟨Calm.trans ⟨hmotions, rfl⟩ hyields.1, hyields.2⟩

theorem yields_awaitHalt (kind : Kind) (deadline rounds : Nat) :
    (awaitHalt kind deadline rounds).Meets worker (Yields worker fun _ _ => True) := by
  induction rounds with
  | zero => exact ⟨.refl worker, fun _ _ => trivial⟩
  | succ rounds ih =>
    refine yields_then (yields_status kind) fun _ stopped _ => ?_
    refine yields_then (yields_ensure _ _) fun _ _ _ => ?_
    cases stopped.moving with
    | false => exact ⟨.refl worker, fun _ _ => trivial⟩
    | true =>
      refine yields_then yields_now fun _ _ _ => ?_
      exact yields_then (yields_ensure _ _) fun _ _ _ => ih

theorem yields_halt (kind : Kind) : (halt kind).Meets worker (Yields worker fun _ _ => True) := by
  unfold halt
  refine yields_then (yields_ensure _ _) fun _ _ _ => ?_
  refine yields_then (yields_status kind) fun _ found _ => ?_
  refine yields_then (yields_ensure _ _) fun _ _ _ => ?_
  refine yields_then (yields_output rfl) fun _ _ _ => ?_
  refine yields_then yields_now fun _ _ _ => ?_
  exact yields_awaitHalt kind _ _

theorem yields_settings (kind : Kind) (changes : Changes) :
    (settings kind changes).Meets worker (Yields worker fun _ _ => True) := by
  unfold settings
  refine yields_then (yields_ensure _ _) fun _ _ _ => ?_
  refine yields_then (yields_status kind) fun _ found _ => ?_
  refine yields_then (yields_ensure _ _) fun _ _ _ => ?_
  refine yields_then (yields_ensure _ _) fun _ _ _ => ?_
  refine yields_then (yields_output rfl) fun _ _ _ => ?_
  refine yields_then (yields_status kind) fun _ _ _ => ?_
  exact (yields_ensure _ _).mono fun _ _ _ h => ⟨h.1, fun _ _ => trivial⟩

/-- A part that writes one motion at most, and one if it succeeds. -/
structure Starts (before : Worker) (P : Log → α → Prop) (log : Log) (ending : Except String α)
    (after : Worker) : Prop where
  same : after = before
  most : motions log ≤ 1
  once : ∀ value, ending = .ok value → motions log = 1 ∧ P log value

theorem starts_bind {P : Log → α → Prop} {Q : Log → β → Prop} {first : AccessoryExchange α}
    {next : α → AccessoryExchange β} (h : first.Meets worker (Yields worker P))
    (hnext : ∀ log value, P log value → (next value).Meets worker
      (Starts worker fun rest found => Q (log ++ rest) found)) :
    (first >>= next).Meets worker (Starts worker Q) := by
  refine yields_bind h (fun log error hmotions => ?_) fun log value hmotions hvalue => ?_
  · exact ⟨rfl, hmotions.le.trans (Nat.zero_le 1), fun _ hfound => by cases hfound⟩
  · refine (hnext log value hvalue).mono fun rest ending after hstarts => ?_
    refine ⟨hstarts.same, ?_, ?_⟩
    · rw [motions_append, hmotions, Nat.zero_add]
      exact hstarts.most
    · rw [motions_append, hmotions, Nat.zero_add]
      exact hstarts.once

theorem starts_output {report : List UInt8} (h : (Command.output report).isMotion = true) :
    (setOutput report).Meets worker (Starts worker fun _ _ => True) := by
  simp only [setOutput, meets_bind, meets_send, continues_ok, meets_ensure]
  intro reply
  have hone : motions [(.output report, reply)] = 1 := by
    simp [motions, h]
  cases reply.failed with
  | true => exact ⟨rfl, hone.le, fun _ hvalue => by cases hvalue⟩
  | false => exact ⟨rfl, hone.le, fun _ _ => ⟨hone, trivial⟩⟩

theorem starts_moveTo (kind : Kind) (position : Int) (unidirectional : Bool) :
    (moveTo kind position unidirectional).Meets worker (Starts worker fun _ _ => True) := by
  unfold moveTo
  refine starts_bind (yields_status kind) fun _ found _ => ?_
  refine starts_bind (yields_ensure _ _) fun _ _ _ => ?_
  refine starts_bind (yields_ensure _ _) fun _ _ _ => ?_
  cases kind with
  | efw => exact starts_bind (yields_ensure _ _) fun _ _ _ => starts_output rfl
  | eaf => exact starts_bind (yields_ensure _ _) fun _ _ _ => starts_output rfl

/-- A calibration starts from an idle wheel and keeps its number of slots. -/
structure Begins (kind : Kind) (log : Log) (active : Calibration) : Prop where
  unseen : active.sawMoving = false
  slots : ∃ found, Reads kind log found ∧ found.moving = false ∧ found.error = 0
    ∧ found.slots = active.slots

theorem starts_calibrate (kind : Kind) :
    (calibrate kind).Meets worker (Starts worker (Begins kind)) := by
  unfold calibrate
  refine starts_bind (yields_ensure _ _) fun first _ _ => ?_
  refine starts_bind (yields_status kind) fun second found hread => ?_
  refine starts_bind (yields_ensure _ _) fun third _ hidle => ?_
  obtain ⟨-, hidle⟩ := hidle
  rw [Bool.and_eq_true, Bool.not_eq_true', decide_eq_true_eq] at hidle
  refine Meets.bind (starts_output rfl) fun log ending after hwrite => ?_
  obtain ⟨hsame, hmost, honce⟩ := hwrite
  subst hsame
  cases ending with
  | error error => exact ⟨rfl, hmost, fun _ hvalue => by cases hvalue⟩
  | ok value =>
    have hone := (honce value rfl).1
    simp only [continues_ok, meets_bind, now, meets_send, meets_ret, meets_pure]
    intro reply
    have htotal : motions (log ++ ([(.clock, reply)] ++ [])) = 1 := by
      rw [motions_append, hone]
      rfl
    refine ⟨rfl, by simpa using htotal.le, fun active hactive => ⟨by simpa using htotal, ?_⟩⟩
    injection hactive with hactive
    subst hactive
    refine ⟨rfl, found, ?_, hidle.1, hidle.2, rfl⟩
    exact (hread.left _).right first

/-! ## Calibration -/

/-- The wheel was seen to move, and has stopped at its first slot with its slots. -/
structure Complete (active : Calibration) (found : Status) : Prop where
  seen : active.sawMoving = true
  error : found.error = 0
  moving : found.moving = false
  slots : found.slots = active.slots
  position : found.position = 0

structure Arrived (position : Int) (found : Status) : Prop where
  error : found.error = 0
  moving : found.moving = false
  position : found.position = position

theorem observe_cases (active : Calibration) (found : Status) (time : Nat) :
    (∃ error, active.observe found time = .error error)
      ∨ active.observe found time
        = .ok (some { active with sawMoving := active.sawMoving || found.moving })
      ∨ (active.observe found time = .ok none ∧ Complete active found) := by
  unfold Calibration.observe
  by_cases hdeadline : active.deadline ≤ time
  · exact .inl ⟨_, if_pos hdeadline⟩
  rw [if_neg hdeadline]
  by_cases herror : found.error = 0
  · rw [if_neg (not_not.mpr herror)]
    dsimp only
    cases hmoving : found.moving with
    | true => exact .inr (.inl rfl)
    | false =>
      rw [Bool.or_false, Bool.not_false, Bool.true_and]
      cases hseen : active.sawMoving with
      | false => exact .inr (.inl rfl)
      | true =>
        rw [if_pos rfl]
        by_cases hslots : found.slots = active.slots
        · rw [if_neg (not_not.mpr hslots)]
          by_cases hposition : found.position = 0
          · rw [if_neg (not_not.mpr hposition)]
            exact .inr (.inr ⟨rfl, hseen, herror, hmoving, hslots, hposition⟩)
          · exact .inl ⟨_, if_pos hposition⟩
        · exact .inl ⟨_, if_pos hslots⟩
  · exact .inl ⟨_, if_pos herror⟩

structure Watches (kind : Kind) (before : Worker) (log : Log) (after : Worker) : Prop where
  motions : motions log = 0
  target : after.target = before.target
  fault : before.fault.isSome = true → after.fault.isSome = true
  absent : before.calibration = none → after = before
  active : ∀ active, before.calibration = some active →
    (∃ moved, after.calibration = some { active with sawMoving := active.sawMoving || moved }
      ∧ (moved = true → ∃ found, Reads kind log found ∧ found.moving = true))
    ∨ (after.calibration = none ∧ (after.fault.isSome = true
      ∨ ∃ found, Reads kind log found ∧ Complete active found))

structure Follows (kind : Kind) (before : Worker) (log : Log) (after : Worker) : Prop where
  motions : motions log = 0
  calibration : after.calibration = before.calibration
  fault : before.fault.isSome = true → after.fault.isSome = true
  absent : before.target = none → after = before
  pending : ∀ position deadline, before.target = some (position, deadline) →
    after.target = before.target
    ∨ (after.target = none ∧ (after.fault.isSome = true
      ∨ ∃ found, Reads kind log found ∧ Arrived position found))

theorem watches_absent {log : Log} (hmotions : motions log = 0) (h : worker.calibration = none) :
    Watches kind worker log worker :=
  ⟨hmotions, rfl, id, fun _ => rfl, fun _ hsome => by rw [h] at hsome; cases hsome⟩

theorem watches_fault {log : Log} (hmotions : motions log = 0) {active : Calibration}
    (h : worker.calibration = some active) (error : String) :
    Watches kind worker log { worker with fault := some error, calibration := none } := by
  refine ⟨hmotions, rfl, fun _ => rfl, fun hnone => ?_, fun _ _ => .inr ⟨rfl, .inl rfl⟩⟩
  rw [h] at hnone
  cases hnone

theorem observeCalibration_watches {log : Log} {found : Status} (hmotions : motions log = 0)
    (hread : Reads kind log found) :
    (observeCalibration found).Meets worker fun rest ending after =>
      Watches kind worker (log ++ rest) after ∧ ending = .ok () := by
  simp only [observeCalibration, meets_bind, meets_get, continues_ok]
  cases hactive : worker.calibration with
  | none => exact ⟨watches_absent (by simpa using hmotions) hactive, rfl⟩
  | some active =>
    simp only [now, meets_bind, meets_send, continues_ok, meets_ret]
    intro reply
    have hsame : motions (log ++ [(.clock, reply)]) = 0 := by
      rw [motions_append, hmotions]
      rfl
    rcases observe_cases active found reply.now with ⟨error, hcase⟩ | hcase | ⟨hcase, hcomplete⟩
    · rw [hcase]
      exact ⟨watches_fault hsame hactive error, rfl⟩
    · rw [hcase]
      refine ⟨⟨hsame, rfl, id, fun hnone => ?_, fun _ hsome => .inl ⟨found.moving, ?_, ?_⟩⟩, rfl⟩
      · rw [hactive] at hnone
        cases hnone
      · rw [hactive] at hsome
        injection hsome with hsome
        rw [← hsome]
      · exact fun hmoving => ⟨found, hread.left _, hmoving⟩
    · rw [hcase]
      refine ⟨⟨hsame, rfl, id, fun hnone => ?_, fun _ hsome => .inr ⟨rfl, .inr ?_⟩⟩, rfl⟩
      · rw [hactive] at hnone
        cases hnone
      · rw [hactive] at hsome
        injection hsome with hsome
        exact ⟨found, hread.left _, hsome ▸ hcomplete⟩

theorem pollCalibration_watches (kind : Kind) :
    (pollCalibration kind).Meets worker fun log ending after =>
      Watches kind worker log after ∧ ending = .ok () := by
  simp only [pollCalibration, meets_bind, meets_get, continues_ok]
  cases hactive : worker.calibration with
  | none => exact ⟨watches_absent rfl hactive, rfl⟩
  | some active =>
    simp only [Option.isSome_some, if_true, meets_bind, meets_attempt]
    refine (yields_status kind).mono fun log ending after hyields => ?_
    obtain ⟨⟨hmotions, hsame⟩, hread⟩ := hyields
    subst hsame
    rw [continues_ok]
    cases ending with
    | ok found => exact observeCalibration_watches hmotions (hread found rfl)
    | error error =>
      refine ⟨watches_fault ?_ hactive _, rfl⟩
      simpa using hmotions

theorem failMotion_follows {log : Log} (hmotions : motions log = 0)
    (htarget : worker.target ≠ none) : (failMotion kind).Meets worker fun rest ending after =>
      Follows kind worker (log ++ rest) after ∧ ending = .ok () := by
  have hdone : ∀ rest, motions rest = 0 → Follows kind worker (log ++ rest)
      { worker with fault := some "motion failed or timed out", target := none } := by
    intro rest hrest
    refine ⟨?_, rfl, fun _ => rfl, fun hnone => (htarget hnone).elim, ?_⟩
    · rw [motions_append, hmotions, hrest]
    · exact fun _ _ _ => .inr ⟨rfl, .inl rfl⟩
  simp only [failMotion, meets_bind, meets_modify, continues_ok, haltEaf]
  split
  · simp only [meets_bind, meets_attempt]
    refine (yields_halt kind).mono fun rest ending after hyields => ?_
    obtain ⟨⟨hcalm, hsame⟩, -⟩ := hyields
    subst hsame
    exact ⟨hdone _ (by simpa using hcalm), rfl⟩
  · exact ⟨hdone _ rfl, rfl⟩

theorem pollMotion_follows (kind : Kind) : (pollMotion kind).Meets worker fun log ending after =>
      Follows kind worker log after ∧ ending = .ok () := by
  simp only [pollMotion, meets_bind, meets_get, continues_ok]
  cases htarget : worker.target with
  | none =>
    refine ⟨⟨rfl, rfl, id, fun _ => rfl, fun _ _ hsome => ?_⟩, rfl⟩
    rw [htarget] at hsome
    cases hsome
  | some pending =>
    obtain ⟨position, deadline⟩ := pending
    have hpending : worker.target ≠ none := by simp [htarget]
    simp only [meets_bind, meets_attempt]
    refine (yields_status kind).mono fun log ending after hyields => ?_
    obtain ⟨⟨hmotions, hsame⟩, hread⟩ := hyields
    subst hsame
    rw [continues_ok]
    cases ending with
    | error error => exact failMotion_follows hmotions hpending
    | ok found =>
      dsimp only
      split
      · rename_i harrived
        refine ⟨⟨by simpa using hmotions, rfl, id, fun hnone => (hpending hnone).elim, ?_⟩, rfl⟩
        intro position' deadline' hsome
        rw [htarget] at hsome
        cases hsome
        exact .inr ⟨rfl, .inr ⟨found, by simpa using hread found rfl,
          harrived.2.1, harrived.1, harrived.2.2⟩⟩
      · split
        · simp only [now, meets_bind, meets_send, continues_ok, meets_ret]
          intro reply
          have hsame : motions (log ++ [(.clock, reply)]) = 0 := by
            rw [motions_append, hmotions]
            rfl
          split
          · refine ⟨⟨by simpa using hsame, rfl, id, fun _ => rfl, fun _ _ _ => .inl rfl⟩, rfl⟩
          · have hfail := @failMotion_follows kind _ _ hsame hpending
            simpa using hfail
        · exact failMotion_follows hmotions hpending

theorem poll_watches_follows (kind : Kind) :
    (poll kind).Meets worker fun log ending after => ∃ first rest mid, log = first ++ rest
      ∧ Watches kind worker first mid ∧ Follows kind mid rest after ∧ ending = .ok () := by
  refine Meets.bind (pollCalibration_watches kind) fun first ending mid hfirst => ?_
  obtain ⟨hwatches, hending⟩ := hfirst
  subst hending
  rw [continues_ok]
  refine (pollMotion_follows kind).mono fun rest ending after hrest => ?_
  exact ⟨first, rest, mid, rfl, hwatches, hrest.1, hrest.2⟩

end

/-! ## The invariant -/

def Worker.Exclusive (worker : Worker) : Prop :=
  worker.target = none ∨ worker.calibration = none

def Turn.starts : Turn → Bool
  | .serve (.move _ _) => true
  | .serve .calibrate => true
  | _ => false

structure Sound (kind : Kind) (turn : Turn) (before : Worker) (log : Log)
    (ending : Except String (Option Response)) (after : Worker) : Prop where
  exclusive : before.Exclusive → after.Exclusive
  fault : before.fault.isSome = true → after.fault.isSome = true
  most : motions log ≤ 1
  starts : motions log ≠ 0 → turn.starts = true ∧ before.idle = true ∧ before.fault = none
  /-- A motion that was written is pending, or it is a fault. -/
  written : motions log ≠ 0 → after.idle = false ∨ after.fault.isSome = true
  move : ∀ position unidirectional response, turn = .serve (.move position unidirectional) →
    ending = .ok response → motions log = 1
      ∧ ∃ target deadline, asI32 position = .ok target ∧ after.target = some (target, deadline)
  calibrate : ∀ response, turn = .serve .calibrate → ending = .ok response →
    motions log = 1 ∧ ∃ active, after.calibration = some active
  pending : ∀ position deadline, before.target = some (position, deadline) →
    after.target = before.target
    ∨ (after.target = none ∧ (after.fault.isSome = true
      ∨ (∃ found, Reads kind log found ∧ Arrived position found)
      ∨ (turn = .serve .halt ∧ kind = .eaf)))
  active : ∀ active, before.calibration = some active →
    (∃ moved, after.calibration = some { active with sawMoving := active.sawMoving || moved }
      ∧ (moved = true → ∃ found, Reads kind log found ∧ found.moving = true))
    ∨ (after.calibration = none ∧ (after.fault.isSome = true
      ∨ ∃ found, Reads kind log found ∧ Complete active found))
  began : before.calibration = none → ∀ active, after.calibration = some active →
    turn = .serve .calibrate ∧ (∃ response, ending = .ok response) ∧ Begins kind log active
  moving : ∀ reply, ending = .ok (some (.status reply)) → after.idle = false → reply.moving = true

section

variable {kind : Kind} {turn : Turn} {worker : Worker}

theorem idle_iff : worker.idle = true ↔ worker.target = none ∧ worker.calibration = none := by
  simp [Worker.idle]

theorem follows_refl (kind : Kind) (worker : Worker) : Follows kind worker [] worker :=
  ⟨rfl, rfl, id, fun _ => rfl, fun _ _ _ => .inl rfl⟩

variable {log : Log} {ending : Except String (Option Response)}

theorem watches_sound {mid after : Worker} {log rest : Log}
    {ending : Except String (Option Response)} (h : Watches kind worker log mid)
    (h' : Follows kind mid rest after)
    (hstarts : ∀ response, ending = .ok response → turn.starts = false)
    (hmoving : ∀ reply, ending = .ok (some (.status reply)) → after.idle = false →
      reply.moving = true) : Sound kind turn worker (log ++ rest) ending after := by
  have hnone : motions (log ++ rest) = 0 := by
    rw [motions_append, h.motions, h'.motions]
  have hbegan : worker.calibration = none → after.calibration = none := fun habsent => by
    rw [h'.calibration, h.absent habsent, habsent]
  refine ⟨?_, fun hfault => h'.fault (h.fault hfault), hnone.le.trans (Nat.zero_le 1),
    fun hsome => absurd hnone hsome, fun hsome => absurd hnone hsome, ?_, ?_, ?_, ?_, ?_, hmoving⟩
  · intro hexclusive
    rcases hexclusive with htarget | hcalibration
    · have hmid : mid.target = none := h.target.trans htarget
      exact .inl (by rw [h'.absent hmid, hmid])
    · exact .inr (hbegan hcalibration)
  · intro position unidirectional response hturn hending
    have hfalse := hstarts response hending
    rw [hturn] at hfalse
    cases hfalse
  · intro response hturn hending
    have hfalse := hstarts response hending
    rw [hturn] at hfalse
    cases hfalse
  · intro position deadline hpending
    rcases h'.pending position deadline (h.target.trans hpending) with hkept | ⟨hdone, hwhy⟩
    · exact .inl (hkept.trans h.target)
    · rcases hwhy with hfault | ⟨found, hread, harrived⟩
      · exact .inr ⟨hdone, .inl hfault⟩
      · exact .inr ⟨hdone, .inr (.inl ⟨found, hread.right log, harrived⟩)⟩
  · intro active hactive
    rcases h.active active hactive with ⟨moved, hkept, hseen⟩ | ⟨hdone, hwhy⟩
    · refine .inl ⟨moved, h'.calibration.trans hkept, fun hmoved => ?_⟩
      obtain ⟨found, hread, hfound⟩ := hseen hmoved
      exact ⟨found, hread.left rest, hfound⟩
    · refine .inr ⟨h'.calibration.trans hdone, ?_⟩
      rcases hwhy with hfault | ⟨found, hread, hcomplete⟩
      · exact .inl (h'.fault hfault)
      · exact .inr ⟨found, hread.left rest, hcomplete⟩
  · intro habsent active hactive
    rw [hbegan habsent] at hactive
    cases hactive

theorem calm_sound (h : motions log = 0)
    (hstarts : ∀ response, ending = .ok response → turn.starts = false)
    (hstatus : ∀ reply, ending ≠ .ok (some (.status reply))) :
    Sound kind turn worker log ending worker := by
  have hwatches : Watches kind worker log worker := by
    refine ⟨h, rfl, id, fun _ => rfl, fun active hactive => .inl ⟨false, ?_, ?_⟩⟩
    · rw [hactive, Bool.or_false]
    · exact fun hmoved => by cases hmoved
  have hsound := watches_sound hwatches (follows_refl kind worker) hstarts
    fun reply hreply => absurd hreply (hstatus reply)
  rwa [List.append_nil] at hsound

theorem calm_failed (h : motions log = 0) (error : String) :
    Sound kind turn worker log (.error error) worker :=
  calm_sound h (fun _ hending => by cases hending) fun _ hending => by cases hending

theorem sound_failed (hmost : motions log ≤ 1) (hstarts : turn.starts = true)
    (hidle : worker.idle = true) (hfault : worker.fault = none) (error fault : String) :
    Sound kind turn worker log (.error error) { worker with fault := some fault } := by
  obtain ⟨htarget, hcalibration⟩ := idle_iff.mp hidle
  refine ⟨fun _ => .inl htarget, fun _ => rfl, hmost, fun _ => ⟨hstarts, hidle, hfault⟩,
    fun _ => .inr rfl, ?_, ?_, fun _ _ _ => .inl rfl, ?_, ?_, ?_⟩
  · exact fun _ _ _ _ hending => by cases hending
  · exact fun _ _ hending => by cases hending
  · intro active hactive
    rw [hcalibration] at hactive
    cases hactive
  · intro _ active hactive
    have hactive' : worker.calibration = some active := hactive
    rw [hcalibration] at hactive'
    cases hactive'
  · exact fun _ hending => by cases hending

theorem sound_moved (hone : motions log = 1) (hidle : worker.idle = true)
    (hfault : worker.fault = none) {position : Option Int} {target : Int}
    (htarget : asI32 position = .ok target) (unidirectional : Bool) (deadline : Nat) :
    Sound kind (.serve (.move position unidirectional)) worker log (.ok (some .null))
      { worker with target := some (target, deadline) } := by
  obtain ⟨hnone, hcalibration⟩ := idle_iff.mp hidle
  refine ⟨fun _ => .inr hcalibration, id, hone.le, fun _ => ⟨rfl, hidle, hfault⟩,
    fun _ => .inl rfl, ?_, ?_, ?_, ?_, ?_, ?_⟩
  · intro position' unidirectional' response hturn _
    cases hturn
    exact ⟨hone, target, deadline, htarget, rfl⟩
  · exact fun _ hturn => by cases hturn
  · intro position deadline hpending
    rw [hnone] at hpending
    cases hpending
  · intro active hactive
    rw [hcalibration] at hactive
    cases hactive
  · intro _ active hactive
    have hactive' : worker.calibration = some active := hactive
    rw [hcalibration] at hactive'
    cases hactive'
  · exact fun _ hending => by cases hending

theorem sound_calibrating (hone : motions log = 1) (hidle : worker.idle = true)
    (hfault : worker.fault = none) {active : Calibration} (hbegins : Begins kind log active) :
    Sound kind (.serve .calibrate) worker log (.ok (some .null))
      { worker with calibration := some active } := by
  obtain ⟨htarget, hnone⟩ := idle_iff.mp hidle
  refine ⟨fun _ => .inl htarget, id, hone.le, fun _ => ⟨rfl, hidle, hfault⟩, fun _ => .inl ?_,
    ?_, fun _ _ _ => ⟨hone, active, rfl⟩, ?_, ?_, ?_, ?_⟩
  · simp [Worker.idle]
  · exact fun _ _ _ hturn => by cases hturn
  · intro position deadline hpending
    rw [htarget] at hpending
    cases hpending
  · intro active' hactive
    rw [hnone] at hactive
    cases hactive
  · intro _ active' hactive
    cases hactive
    exact ⟨rfl, ⟨_, rfl⟩, hbegins⟩
  · exact fun _ hending => by cases hending

theorem sound_halted (hnone : motions log = 0)
    (hnull : ∀ reply, ending ≠ .ok (some (.status reply))) :
    Sound .eaf (.serve .halt) worker log ending { worker with target := none } := by
  refine ⟨fun _ => .inl rfl, id, hnone.le.trans (Nat.zero_le 1), fun hsome => absurd hnone hsome,
    fun hsome => absurd hnone hsome, ?_, ?_, ?_, ?_, ?_, ?_⟩
  · exact fun _ _ _ hturn => by cases hturn
  · exact fun _ hturn => by cases hturn
  · exact fun _ _ _ => .inr ⟨rfl, .inr (.inr ⟨rfl, rfl⟩)⟩
  · intro active hactive
    refine .inl ⟨false, ?_, fun hmoved => by cases hmoved⟩
    simpa using hactive
  · intro habsent active hactive
    have hactive' : worker.calibration = some active := hactive
    rw [habsent] at hactive'
    cases hactive'
  · exact fun reply hreply => absurd hreply (hnull reply)

/-! ## Requests -/

def Serves (kind : Kind) (request : Request) (before : Worker) (log : Log)
    (ending : Except String Response) (after : Worker) : Prop :=
  Sound kind (.serve request) before log (ending.map some) after

theorem serves_quiet {request : Request} {P : α → Prop} {first : AccessoryExchange α}
    {next : α → AccessoryExchange Response}
    (h : first.Meets worker (Yields worker fun log value => log = [] ∧ P value))
    (hnext : ∀ value, P value → (next value).Meets worker (Serves kind request worker)) :
    (first >>= next).Meets worker (Serves kind request worker) := by
  refine yields_bind h (fun log error hmotions => ?_) fun log value _ hvalue => ?_
  · exact calm_failed hmotions _
  · obtain ⟨hlog, hvalue⟩ := hvalue
    subst hlog
    exact hnext value hvalue

theorem yields_get : (get : AccessoryExchange Worker).Meets worker (Yields worker fun log found =>
      log = [] ∧ found = worker) :=
  yields_ret worker

theorem yields_haltEaf (kind : Kind) :
    (haltEaf kind).Meets worker (Yields worker fun _ _ => True) := by
  unfold haltEaf
  split
  · simp only [meets_bind, meets_attempt]
    refine (yields_halt kind).mono fun log ending after hyields => ?_
    obtain ⟨⟨hmotions, hsame⟩, -⟩ := hyields
    subst hsame
    exact ⟨⟨by simpa using hmotions, rfl⟩, fun _ _ => trivial⟩
  · exact ⟨.refl worker, fun _ _ => trivial⟩

theorem serveMove_serves (kind : Kind) (position : Option Int) (unidirectional : Bool) :
    (serveMove kind position unidirectional).Meets worker
      (Serves kind (.move position unidirectional) worker) := by
  unfold serveMove
  refine serves_quiet yields_get fun found hfound => ?_
  rw [hfound]
  refine serves_quiet (yields_ensure _ _) fun _ hfault => ?_
  refine serves_quiet (yields_ensure _ _) fun _ hidle => ?_
  refine serves_quiet (yields_ofExcept _) fun target htarget => ?_
  have hfault : worker.fault = none := Option.isNone_iff_eq_none.mp hfault
  simp only [meets_bind, meets_attempt]
  refine (starts_moveTo kind target unidirectional).mono fun log ending after hstarts => ?_
  obtain ⟨hsame, hmost, honce⟩ := hstarts
  subst hsame
  rw [continues_ok]
  cases ending with
  | ok value =>
    simp only [now, meets_bind, meets_send, meets_modify, meets_ret, meets_pure, continues_ok]
    intro reply
    have hone : motions (log ++ [(.clock, reply)]) = 1 := by
      rw [motions_append, (honce value rfl).1]
      rfl
    exact sound_moved (by simpa using hone) hidle hfault htarget unidirectional _
  | error error =>
    simp only [faultWith, meets_bind, meets_modify, continues_ok]
    refine (yields_haltEaf kind).mono fun rest ending after hyields => ?_
    obtain ⟨⟨hmotions, hsame⟩, -⟩ := hyields
    subst hsame
    cases ending with
    | ok _ =>
      refine sound_failed ?_ rfl hidle hfault error error
      simpa [hmotions] using hmost
    | error error' =>
      refine sound_failed ?_ rfl hidle hfault error' error
      simpa [hmotions] using hmost

theorem serveCalibrate_serves (kind : Kind) :
    (serveCalibrate kind).Meets worker (Serves kind .calibrate worker) := by
  unfold serveCalibrate
  refine serves_quiet (yields_ensure _ _) fun _ _ => ?_
  refine serves_quiet yields_get fun found hfound => ?_
  rw [hfound]
  refine serves_quiet (yields_ensure _ _) fun _ hfault => ?_
  refine serves_quiet (yields_ensure _ _) fun _ hidle => ?_
  have hfault : worker.fault = none := Option.isNone_iff_eq_none.mp hfault
  simp only [meets_bind, meets_attempt]
  refine (starts_calibrate kind).mono fun log ending after hstarts => ?_
  obtain ⟨hsame, hmost, honce⟩ := hstarts
  subst hsame
  rw [continues_ok]
  cases ending with
  | error error => exact sound_failed (by simpa using hmost) rfl hidle hfault error error
  | ok active =>
    obtain ⟨hone, hbegins⟩ := honce active rfl
    have hsound := sound_calibrating hone hidle hfault hbegins
    simpa [Serves, Except.map] using hsound

theorem status_serves (kind : Kind) :
    (serve kind .status).Meets worker (Serves kind .status worker) := by
  simp only [serve]
  refine yields_bind (yields_status kind) (fun log error hmotions => ?_)
    fun log found hmotions hread => ?_
  · exact calm_failed hmotions _
  refine Meets.bind (observeCalibration_watches hmotions hread) fun rest ending after hrest => ?_
  obtain ⟨hwatches, hending⟩ := hrest
  subst hending
  simp only [meets_bind, meets_get, meets_pure, continues_ok, List.append_nil]
  have hsound : Sound kind (.serve .status) worker ((log ++ rest) ++ [])
      (.ok (some (.status (after.report found)))) after := by
    refine watches_sound hwatches (follows_refl kind after) (fun _ _ => rfl) ?_
    intro reply hreply hidle
    cases hreply
    have hbusy : (after.calibration.isSome || after.target.isSome) = true := by
      cases htarget : after.target <;> cases hcalibration : after.calibration <;>
        simp_all [Worker.idle]
    simp [Worker.report, Bool.or_assoc, hbusy]
  rw [List.append_nil] at hsound
  exact hsound

theorem halt_serves (kind : Kind) : (serve kind .halt).Meets worker (Serves kind .halt worker) := by
  simp only [serve]
  refine serves_quiet (yields_ensure _ _) fun _ hkind => ?_
  rw [decide_eq_true_eq] at hkind
  subst hkind
  simp only [meets_bind, meets_modify, continues_ok]
  refine (yields_halt .eaf).mono fun log ending after hyields => ?_
  obtain ⟨⟨hmotions, hsame⟩, -⟩ := hyields
  subst hsame
  cases ending with
  | ok value =>
    exact sound_halted (by simpa using hmotions) fun _ hending => by cases hending
  | error error =>
    exact sound_halted (by simpa using hmotions) fun _ hending => by cases hending

theorem settings_serves (kind : Kind) (changes : Except String Changes) :
    (serve kind (.settings changes)).Meets worker (Serves kind (.settings changes) worker) := by
  simp only [serve]
  refine serves_quiet yields_get fun found _ => ?_
  refine serves_quiet (yields_ensure _ _) fun _ _ => ?_
  refine serves_quiet (yields_ofExcept _) fun changes _ => ?_
  have hboth : (settings kind changes >>= fun _ => status kind).Meets worker
      (Yields worker fun _ _ => True) :=
    yields_then (yields_settings kind changes) fun _ _ _ =>
      (yields_status kind).mono fun _ _ _ h => ⟨h.1, fun _ _ => trivial⟩
  rw [meets_bind] at hboth ⊢
  refine hboth.mono fun log ending after hyields => ?_
  cases ending with
  | error error =>
    obtain ⟨⟨hmotions, hsame⟩, -⟩ := hyields
    subst hsame
    exact calm_failed hmotions _
  | ok value =>
    rw [continues_ok] at hyields ⊢
    rw [meets_bind]
    refine hyields.mono fun rest ending after hrest => ?_
    obtain ⟨⟨hmotions, hsame⟩, -⟩ := hrest
    subst hsame
    cases ending with
    | error error =>
      exact calm_failed hmotions _
    | ok value =>
      exact calm_sound (by simpa using hmotions) (fun _ _ => rfl) fun _ hending => by cases hending

theorem serve_serves (kind : Kind) (request : Request) :
    (serve kind request).Meets worker (Serves kind request worker) := by
  cases request with
  | malformed => exact calm_failed rfl _
  | identity => exact calm_sound rfl (fun _ _ => rfl) fun _ hending => by cases hending
  | status => exact status_serves kind
  | move position unidirectional => exact serveMove_serves kind position unidirectional
  | halt => exact halt_serves kind
  | settings changes => exact settings_serves kind changes
  | calibrate => exact serveCalibrate_serves kind

theorem take_sound (kind : Kind) (turn : Turn) :
    (take kind turn).Meets worker (Sound kind turn worker) := by
  cases turn with
  | serve request =>
    refine Meets.bind (serve_serves kind request) fun log ending after hserves => ?_
    cases ending with
    | error error => exact hserves
    | ok response =>
      simp only [continues_ok, meets_pure, List.append_nil]
      exact hserves
  | poll =>
    refine Meets.bind (poll_watches_follows kind) fun log ending after hpoll => ?_
    obtain ⟨first, rest, mid, hlog, hwatches, hfollows, hending⟩ := hpoll
    subst hlog hending
    simp only [continues_ok, meets_pure, List.append_nil]
    exact watches_sound hwatches hfollows (fun _ _ => rfl) fun _ hreply => by cases hreply

end

/-! ## Runs -/

abbrev Step : Type :=
  Transition Worker (Turn × (Nat → Reply))
    (Exchange.Answered Command Reply String (Option Response))

def Step.Sound (kind : Kind) (t : Step) : Prop :=
  Accessory.Sound kind t.op.1 t.before t.result.log t.result.ending t.after

/-- The calibration was accepted on a wheel with its slots, and its motion was seen since. -/
def Accounted (kind : Kind) (history : List Step) (worker : Worker) : Prop :=
  ∀ active, worker.calibration = some active → ∃ earlier accepted since,
    history = earlier ++ accepted :: since ∧ accepted.op.1 = .serve .calibrate
      ∧ (∃ first, Begins kind accepted.result.log first ∧ first.slots = active.slots)
      ∧ (active.sawMoving = true →
        ∃ t ∈ since, ∃ found, Reads kind t.result.log found ∧ found.moving = true)

theorem perform_sound (kind : Kind) (worker : Worker) (op : Turn × (Nat → Reply)) :
    Step.Sound kind ((machine kind).perform worker op) :=
  (take_sound kind op.1).perform op.2

theorem accounted_step {kind : Kind} (history : List Step) (worker : Worker)
    (op : Turn × (Nat → Reply)) (h : Accounted kind history worker) :
    Accounted kind (history ++ [(machine kind).perform worker op])
      ((machine kind).next worker op) := by
  have hsound := perform_sound kind worker op
  intro active hactive
  cases hbefore : worker.calibration with
  | none =>
    obtain ⟨hturn, -, hbegins⟩ := hsound.began hbefore active hactive
    refine ⟨history, _, [], rfl, hturn, ⟨active, hbegins, rfl⟩, fun hseen => ?_⟩
    rw [hbegins.unseen] at hseen
    cases hseen
  | some first =>
    obtain ⟨earlier, accepted, since, hhistory, haccepted, hbegan, hseen⟩ := h first hbefore
    rcases hsound.active first hbefore with ⟨moved, hkept, hmoved⟩ | ⟨hdone, -⟩
    · have hsame : active = { first with sawMoving := first.sawMoving || moved } := by
        have heq := hkept.symm.trans hactive
        injection heq with heq
        exact heq.symm
      subst hsame
      refine ⟨earlier, accepted, since ++ [(machine kind).perform worker op], ?_, haccepted, hbegan,
        fun hnow => ?_⟩
      · rw [hhistory, List.append_assoc, List.cons_append]
      rcases Bool.or_eq_true_iff.mp hnow with hold | hnew
      · obtain ⟨t, hmem, hfound⟩ := hseen hold
        exact ⟨t, List.mem_append_left _ hmem, hfound⟩
      · exact ⟨_, List.mem_append_right _ List.mem_cons_self, hmoved hnew⟩
    · have hgone : some active = none := hactive.symm.trans hdone
      cases hgone

/-- One motion at a time, in any order of requests and polls and whatever the device answers. -/
theorem one_motion_pending (kind : Kind) (ops : List (Turn × (Nat → Reply))) :
    (∀ t ∈ (machine kind).run {} ops, t.before.Exclusive ∧ t.after.Exclusive ∧ Step.Sound kind t)
      ∧ (∀ earlier t later, (machine kind).run {} ops = earlier ++ t :: later →
        Accounted kind earlier t.before) ∧ ((machine kind).run {} ops).Pairwise fun earlier later =>
        earlier.after.fault.isSome = true → motions later.result.log = 0 := by
  have hinv : (machine kind).Inductive {} Worker.Exclusive :=
    ⟨.inl rfl, fun op h => (perform_sound kind _ op).exclusive h⟩
  refine ⟨fun t hmem => ?_, fun earlier t later hrun => ?_, ?_⟩
  · obtain ⟨hbefore, hafter, hstep⟩ := hinv.mem_run hmem
    refine ⟨hbefore, hafter, ?_⟩
    rw [hstep]
    exact perform_sound kind t.before t.op
  · have hinitial : Accounted kind [] {} := fun _ hnone => by cases hnone
    exact Machine.history_kept accounted_step hinitial hrun
  · have hlasting : Machine.Lasting (machine kind) Worker.Exclusive
        fun worker => worker.fault.isSome = true :=
      fun worker op _ hfault => (perform_sound kind worker op).fault hfault
    have hpairwise := hlasting.pairwise (fun t => t.after.fault.isSome = true)
      (fun t => motions t.result.log ≠ 0) hinv (fun _ _ _ hfault => hfault)
      (fun worker op _ hfault hsome => ?_) ops
    · exact hpairwise.imp fun h hfault => not_not.mp (h hfault)
    · have hnone := ((perform_sound kind worker op).starts hsome).2.2
      have hnone' : worker.fault = none := hnone
      rw [hnone'] at hfault
      cases hfault

/-! ## A halt -/

private def restReport : List UInt8 :=
  [1, 0x7e, 0x5a, 3, 0, 0, 0, 0, 0, 0, 0, 0, 0, 0, 0x10, 0]

private def haltedRun : List (Turn × (Nat → Reply)) :=
  [(.serve (.move (some 100) false), fun _ => { report := restReport }),
    (.serve .halt, fun _ => { report := restReport })]

/-- A halt clears the pending motion of a focuser that has not arrived. -/
theorem halt_clears_pending : ¬ ∀ t ∈ (machine .eaf).run {} haltedRun, ∀ position deadline,
      t.before.target = some (position, deadline) → t.after.target = none →
        t.after.fault.isSome = false →
          ∃ found, Reads .eaf t.result.log found ∧ Arrived position found := by
  intro hall
  obtain ⟨found, ⟨reply, hmem, -, hread⟩, harrived⟩ :=
    hall _ (List.mem_cons_of_mem _ List.mem_cons_self) 100 600000 (by decide +kernel)
      (by decide +kernel) (by decide +kernel)
  obtain ⟨index, hreply⟩ := mem_perform hmem
  have hsame : reply = { report := restReport } := hreply
  have hposition : (decodeStatus .eaf restReport).toOption.map Status.position = some 0 := by
    decide +kernel
  rw [hsame] at hread
  rw [hread] at hposition
  have hzero : found.position = 0 := by
    injection hposition
  have hhundred := harrived.position
  omega

end Regain.Zwo.Accessory
