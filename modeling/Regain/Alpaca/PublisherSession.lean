import Regain.Alpaca.Publisher

/-!
# What a step leaves of a session

Every step of a connection change keeps what the session has promised: it stays retired, its
stream stays closed, and the change that holds the gate finds what it has recorded.
-/

namespace Regain.Alpaca

open Lib
open Regain.Hub (Uuid)
open Std (TreeMap TreeSet)

variable {Timing : Type}

namespace Session

/-! ## Sessions -/

/-- The session is retired, and a stream that was opened before that is closed. -/
def Shut (session : Session Timing) : Prop :=
  session.retired = true
    ∧ ∀ client, session.client = some client → client.late = false → client.isConnected = false

def Opened (session : Session Timing) : Prop :=
  ∃ client, session.client = some client ∧ client.late = false

def Prompt (session : Session Timing) : Prop :=
  ∀ client, session.client = some client → client.late = true → session.retired = true

structure Grows (before after : Session Timing) : Prop where
  owner : after.owner = before.owner
  retired : before.retired = true → after.retired = true
  disrupted : before.disrupted = true → after.disrupted = true
  kept : ∀ client, before.client = some client → ∃ closed, after.client = some closed
    ∧ closed.late = client.late ∧ (client.isConnected = false → closed.isConnected = false)
  opened : ∀ client, before.client = none → after.client = some client →
    client.late = before.retired

/-- A step that also keeps failures recorded and connects no output. -/
structure Quiet (before after : Session Timing) : Prop extends Grows before after where
  progress : before.progress.isEmpty = false → after.progress.isEmpty = false
  outputs : before.outputs.isEmpty = true → after.outputs.isEmpty = true
  calm : after.disrupted = false → after.outputs.isEmpty = before.outputs.isEmpty
    ∧ after.progress.isEmpty = before.progress.isEmpty

theorem Grows.refl (session : Session Timing) : Grows session session :=
  ⟨rfl, id, id, fun client h => ⟨client, h, rfl, id⟩, fun client hnone hsome => by simp_all⟩

theorem Quiet.refl (session : Session Timing) : Quiet session session :=
  ⟨Grows.refl session, id, id, fun _ => ⟨rfl, rfl⟩⟩

theorem Grows.shut {before after : Session Timing} (h : Grows before after) (hshut : before.Shut) :
    after.Shut := by
  refine ⟨h.retired hshut.1, ?_⟩
  intro client hclient hlate
  cases hbefore : before.client with
  | none =>
    have hopened := h.opened client hbefore hclient
    rw [hshut.1] at hopened
    simp [hopened] at hlate
  | some previous =>
    obtain ⟨closed, hclosed, hsame, hkept⟩ := h.kept previous hbefore
    obtain rfl : closed = client := by simpa [hclosed] using hclient
    exact hkept (hshut.2 previous hbefore (hsame ▸ hlate))

theorem Grows.prompt {before after : Session Timing} (h : Grows before after)
    (hprompt : before.Prompt) : after.Prompt := by
  intro client hclient hlate
  cases hbefore : before.client with
  | none =>
    rw [h.opened client hbefore hclient] at hlate
    exact h.retired hlate
  | some previous =>
    obtain ⟨closed, hclosed, hsame, -⟩ := h.kept previous hbefore
    obtain rfl : closed = client := by simpa [hclosed] using hclient
    exact h.retired (hprompt previous hbefore (hsame ▸ hlate))

theorem Prompt.opened {session : Session Timing} (h : session.Prompt) {client : Client}
    (hclient : session.client = some client) (hopen : session.retired = false) :
    session.Opened := by
  refine ⟨client, hclient, ?_⟩
  by_contra hlate
  have hretired := h client hclient (by simpa using hlate)
  simp [hopen] at hretired

theorem Grows.hasOpened {before after : Session Timing} (h : Grows before after)
    (hopened : before.Opened) : after.Opened := by
  obtain ⟨client, hclient, hlate⟩ := hopened
  obtain ⟨closed, hclosed, hsame, -⟩ := h.kept client hclient
  exact ⟨closed, hclosed, hsame.trans hlate⟩

theorem quiet_close_client (session : Session Timing) :
    Quiet session { session with client := session.client.map Client.close } := by
  refine ⟨⟨rfl, id, id, ?_, ?_⟩, id, id, fun _ => ⟨rfl, rfl⟩⟩
  · intro client hclient
    exact ⟨client.close, by simp [hclient], rfl, fun _ => rfl⟩
  · intro client hnone hsome
    simp [hnone] at hsome

theorem quiet_close (session : Session Timing) (closing : Closing) :
    Quiet session (session.close closing).1 := by
  cases closing with
  | retired => exact ⟨⟨rfl, fun _ => rfl, id, fun client h => ⟨client, h, rfl, id⟩,
      fun client hnone hsome => by simp_all [Session.close]⟩, id, id, fun _ => ⟨rfl, rfl⟩⟩
  | timings => exact ⟨⟨rfl, id, id, fun client h => ⟨client, h, rfl, id⟩,
      fun client hnone hsome => by simp_all [Session.close]⟩, id, id, fun _ => ⟨rfl, rfl⟩⟩
  | client => exact session.quiet_close_client

end Session

def GateMoves (before after held held' : Bool) : Prop :=
  (after = before ∧ held' = held) ∨ (before = false ∧ held = false ∧ after = true ∧ held' = true)
    ∨ (held = true ∧ after = false ∧ held' = false)

/-- A request took the stream of a session before the session was retired. -/
def Reading.inTime : Reading → Bool
  | .memberTiming _ late => !late
  | .connectedOpen late => !late
  | .connectedRetired late => !late
  | .request late => !late
  | _ => false

namespace Stage

/-! ## Stages -/

def held : Stage Timing → Bool
  | .found => false
  | .forget _ => false
  | .forgotten => false
  | .gate => false
  | .finish _ held _ => held
  | _ => true

def marking : Stage Timing → Bool
  | .start => true
  | .initialise => true
  | .check => true
  | .discard => true
  | .timing => true
  | .timingReply => true
  | .send _ => true
  | .reply _ => true
  | .timings _ => true
  | .outputs => true
  | .finish _ true .record => true
  | .finish _ true .resolve => true
  | _ => false

def sendable : Stage Timing → Bool
  | .found => true
  | .gate => true
  | .spawn => true
  | .start => true
  | .initialise => true
  | .check => true
  | .timing => true
  | .timingReply => true
  | .send _ => true
  | _ => false

def reads : Stage Timing → Bool
  | .found => true
  | .forgotten => true
  | .start => true
  | .check => true
  | .timing => true
  | .timingReply => true
  | .send _ => true
  | .reply _ => true
  | _ => false

end Stage

def Closing.marked : Closing → Bool
  | .retired => false
  | _ => true

namespace Ending

def marked : Ending → Bool
  | .close closing => closing.marked
  | .retire closing => closing.marked
  | .remove => true
  | _ => false

def recorded : Ending → Bool
  | .record => false
  | .resolve => false
  | .inspect => false
  | _ => true

def closed : Ending → Bool
  | .clear => true
  | .retire _ => true
  | .remove => true
  | .release => true
  | _ => false

def leaving : Ending → Bool
  | .retire _ => true
  | .remove => true
  | _ => false

def failing (failure : Failure) : Ending → Bool
  | .resolve => false
  | .inspect => false
  | .close _ => !failure.rejected
  | .clear => !failure.rejected
  | _ => true

def succeeding : Ending → Bool
  | .record => false
  | .judge => false
  | .close _ => false
  | .clear => false
  | _ => true

end Ending

/-! ## Failures -/

/-- What a session has when the guard of a failed change is at an ending. -/
structure FitsFailure (session : Session Timing) (failure : Failure) (held : Bool)
    (ending : Ending) : Prop where
  failing : ending.failing failure = true
  marked : ending.marked = true → session.retired = true
  stopped : held = false → failure.rejected = false ∧ session.disrupted = true
  shut : failure.rejected = false → ending.closed = true → session.Shut
  recorded : held = true → ending.recorded = true → session.progress.isEmpty = false
  leaving : failure.rejected = true → ending.leaving = true → session.outputs.isEmpty = true

def Fits (session : Session Timing) : Stage Timing → Prop
  | .forget closing => closing.marked = true → session.retired = true
  | .forgotten => session.retired = true
  | .finish (.ok ()) held ending =>
    held = true ∧ ending.succeeding = true ∧ (ending.marked = true → session.retired = true)
  | .finish (.error failure) held ending => FitsFailure session failure held ending
  | .timing => session.Opened
  | .timingReply => session.Opened
  | .send _ => session.Opened
  | .reply _ => session.Opened
  | .timings _ => session.Opened
  | .outputs => session.Opened
  | .check => ∃ client, session.client = some client
  | _ => True

theorem Fits.grows {before after : Session Timing} {stage : Stage Timing}
    (h : Fits before stage) (hheld : stage.held = false)
    (hgrows : Session.Grows before after) : Fits after stage := by
  have hretired := hgrows.retired
  have hdisrupted := hgrows.disrupted
  have hshut := hgrows.shut
  match stage with
  | .finish (.ok ()) held ending => simp_all [Fits, Stage.held]
  | .finish (.error failure) held ending =>
    have hnot : held = false := hheld
    have hplain := (h.stopped hnot).1
    exact {
      failing := h.failing
      marked := fun hmarked => hretired (h.marked hmarked)
      stopped := fun _ => ⟨hplain, hdisrupted (h.stopped hnot).2⟩
      shut := fun _ hclosed => hshut (h.shut hplain hclosed)
      recorded := fun hgate => by simp [hnot] at hgate
      leaving := fun hrejected => by simp [hplain] at hrejected }
  | .forget closing => exact fun hmarked => hretired (h hmarked)
  | .forgotten => exact hretired h
  | .found => trivial
  | .gate => trivial
  | .spawn => trivial
  | .start => trivial
  | .initialise => trivial
  | .check => simp [Stage.held] at hheld
  | .discard => trivial
  | .timing => simp [Stage.held] at hheld
  | .timingReply => simp [Stage.held] at hheld
  | .send _ => simp [Stage.held] at hheld
  | .reply _ => simp [Stage.held] at hheld
  | .timings _ => simp [Stage.held] at hheld
  | .outputs => simp [Stage.held] at hheld

theorem Fits.quiet {before after : Session Timing} {stage : Stage Timing}
    (h : Fits before stage) (hquiet : Session.Quiet before after) : Fits after stage := by
  have hgrows := hquiet.toGrows
  match stage with
  | .finish (.ok ()) held ending => exact ⟨h.1, h.2.1, fun hm => hgrows.retired (h.2.2 hm)⟩
  | .finish (.error failure) held ending =>
    exact {
      failing := h.failing
      marked := fun hmarked => hgrows.retired (h.marked hmarked)
      stopped := fun hnot => ⟨(h.stopped hnot).1, hgrows.disrupted (h.stopped hnot).2⟩
      shut := fun hplain hclosed => hgrows.shut (h.shut hplain hclosed)
      recorded := fun hheld hrecorded => hquiet.progress (h.recorded hheld hrecorded)
      leaving := fun hrejected hleaving => hquiet.outputs (h.leaving hrejected hleaving) }
  | .forget closing => exact fun hmarked => hgrows.retired (h hmarked)
  | .forgotten => exact hgrows.retired h
  | .found => trivial
  | .gate => trivial
  | .spawn => trivial
  | .start => trivial
  | .initialise => trivial
  | .check =>
    obtain ⟨client, hclient⟩ := h
    obtain ⟨closed, hclosed, -⟩ := hgrows.kept client hclient
    exact ⟨closed, hclosed⟩
  | .discard => trivial
  | .timing => exact hgrows.hasOpened h
  | .timingReply => exact hgrows.hasOpened h
  | .send _ => exact hgrows.hasOpened h
  | .reply _ => exact hgrows.hasOpened h
  | .timings _ => exact hgrows.hasOpened h
  | .outputs => exact hgrows.hasOpened h

namespace Session

theorem Grows.of_same {before after : Session Timing} (howner : after.owner = before.owner)
    (hclient : after.client = before.client) (hretired : after.retired = before.retired)
    (hdisrupted : after.disrupted = before.disrupted) : Grows before after :=
  ⟨howner, by simp [hretired], by simp [hdisrupted], fun client h => ⟨client, hclient ▸ h, rfl, id⟩,
    fun client hnone hsome => by simp [hclient, hnone] at hsome⟩

theorem grows_opened {session : Session Timing} (hclient : session.client = none) (hello : Hello) :
    Grows session { session with client := some ⟨true, hello, session.retired⟩ } := by
  refine ⟨rfl, id, id, ?_, ?_⟩
  · intro client hsome
    simp [hclient] at hsome
  · intro client _ hsome
    obtain rfl := Option.some.inj hsome
    rfl

theorem judge_session (session : Session Timing) (change : Change)
    (result : Except Failure Unit) : (session.finish change result .judge).1 = session := by
  simp only [finish]
  split
  · split <;> rfl
  · rfl

theorem inspect_session (session : Session Timing) (change : Change)
    (result : Except Failure Unit) : (session.finish change result .inspect).1 = session := by
  simp only [finish]
  split <;> rfl

theorem advance_reads (session : Session Timing) (change : Change) (choice : Choice Timing)
    {stage : Stage Timing} (hreads : stage.reads = true) :
    (session.advance change choice stage).1 = session := by
  cases stage with
  | found => rfl
  | forgotten => rfl
  | start => rfl
  | check => rfl
  | timing =>
    simp only [advance]
    split
    · split <;> rfl
    · rfl
  | timingReply =>
    simp only [advance]
    split <;> rfl
  | send timing =>
    simp only [advance]
    split
    · split <;> rfl
    · rfl
  | reply timing =>
    simp only [advance]
    split <;> rfl
  | _ => cases hreads

theorem finish_grows (session : Session Timing) (change : Change)
    (result : Except Failure Unit) (ending : Ending) :
    Grows session (session.finish change result ending).1 := by
  cases ending with
  | record => exact Grows.of_same rfl rfl rfl rfl
  | judge =>
    rw [judge_session]
    exact Grows.refl session
  | close closing => exact (session.quiet_close closing).toGrows
  | clear => exact Grows.of_same rfl rfl rfl rfl
  | resolve => exact Grows.of_same rfl rfl rfl rfl
  | inspect =>
    rw [inspect_session]
    exact Grows.refl session
  | retire closing => exact (session.quiet_close closing).toGrows
  | remove => exact Grows.refl session
  | release => exact Grows.refl session

theorem advance_grows (session : Session Timing) (change : Change) (choice : Choice Timing)
    (stage : Stage Timing) : Grows session (session.advance change choice stage).1 := by
  have hsame := Grows.refl session
  by_cases hreads : stage.reads = true
  · rw [advance_reads session change choice hreads]
    exact hsame
  cases stage with
  | forget closing => exact (session.quiet_close closing).toGrows
  | gate =>
    simp only [advance]
    split
    · exact hsame
    · exact Grows.of_same rfl rfl rfl rfl
  | spawn => exact Grows.of_same rfl rfl rfl rfl
  | initialise =>
    simp only [advance]
    split
    · exact hsame
    · rename_i hclient
      split
      · exact grows_opened hclient _
      · exact hsame
  | discard => exact session.quiet_close_client.toGrows
  | timings timing => exact Grows.of_same rfl rfl rfl rfl
  | outputs => exact Grows.of_same rfl rfl rfl rfl
  | finish result held ending =>
    cases ending with
    | release =>
      cases held with
      | true => exact Grows.of_same rfl rfl rfl rfl
      | false => exact hsame
    | _ => exact session.finish_grows change result _
  | _ => exact absurd rfl hreads

theorem advance_quiet (session : Session Timing) (change : Change) (choice : Choice Timing)
    (stage : Stage Timing) (hfits : Fits session stage) (hheld : stage.held = false) :
    Quiet session (session.advance change choice stage).1 := by
  have hgrows := session.advance_grows change choice stage
  match stage with
  | .found => exact Quiet.refl session
  | .forget closing => exact session.quiet_close closing
  | .forgotten => exact Quiet.refl session
  | .gate =>
    refine ⟨hgrows, ?_, ?_, ?_⟩ <;> simp only [advance] <;> split
    · exact id
    · exact id
    · exact id
    · exact id
    · exact fun _ => ⟨rfl, rfl⟩
    · exact fun _ => ⟨rfl, rfl⟩
  | .finish (.ok ()) held ending =>
    rw [Stage.held] at hheld
    simp [Fits, hheld] at hfits
  | .finish (.error failure) held ending =>
    rw [Stage.held] at hheld
    subst hheld
    have hfailing := hfits.failing
    have hdisrupted := hgrows.disrupted (hfits.stopped rfl).2
    refine ⟨hgrows, ?_, ?_, fun hnot => by simp [hdisrupted] at hnot⟩
    · cases ending with
      | judge => simp [advance, judge_session]
      | close closing => exact (session.quiet_close closing).progress
      | retire closing => exact (session.quiet_close closing).progress
      | resolve => cases hfailing
      | inspect => cases hfailing
      | _ => simp [advance, finish]
    · cases ending with
      | judge => simp [advance, judge_session]
      | close closing => exact (session.quiet_close closing).outputs
      | retire closing => exact (session.quiet_close closing).outputs
      | resolve => cases hfailing
      | inspect => cases hfailing
      | _ => simp [advance, finish]

theorem close_gate (session : Session Timing) (closing : Closing) :
    (session.close closing).1.gate = session.gate := by
  cases closing <;> rfl

theorem finish_gate (session : Session Timing) (change : Change)
    (result : Except Failure Unit) (ending : Ending) :
    (session.finish change result ending).1.gate = session.gate := by
  cases ending with
  | judge => rw [judge_session]
  | inspect => rw [inspect_session]
  | close closing => exact session.close_gate closing
  | retire closing => exact session.close_gate closing
  | _ => rfl

theorem advance_gate (session : Session Timing) (change : Change) (choice : Choice Timing)
    (stage : Stage Timing) : ((session.advance change choice stage).1.gate = session.gate
        ∧ (∀ next, (session.advance change choice stage).2.1 = some next → next.held = stage.held)
        ∧ ((session.advance change choice stage).2.1 = none → stage.held = false))
      ∨ (session.gate = false ∧ stage = .gate ∧ (session.advance change choice stage).1.gate = true
        ∧ (session.advance change choice stage).2.1 = some .spawn)
      ∨ (∃ result, stage = .finish result true .release
        ∧ (session.advance change choice stage).1.gate = false
        ∧ (session.advance change choice stage).2.1 = none) := by
  cases stage with
  | gate =>
    by_cases hgate : session.gate = true
    · simp [advance, hgate, Stage.held]
    · simp [advance, hgate]
  | forget closing =>
    refine .inl ⟨session.close_gate closing, ?_, ?_⟩ <;> cases closing <;>
      simp [advance, Session.close, Stage.held]
  | finish result held ending =>
    cases ending with
    | release =>
      cases held with
      | true => exact .inr (.inr ⟨result, rfl, rfl, rfl⟩)
      | false => exact .inl ⟨rfl, by simp [advance], fun _ => rfl⟩
    | _ =>
      refine .inl ⟨session.finish_gate change result _, ?_, ?_⟩
      · intro next hnext
        obtain rfl := Option.some.inj hnext
        rfl
      · intro hnone
        cases hnone
  | _ =>
    left
    simp only [advance, Stage.finished]
    (repeat' split) <;> simp [Stage.held]

theorem close_marked (session : Session Timing) (closing next : Closing)
    (hclosing : closing.marked = true → session.retired = true)
    (hnext : (session.close closing).2 = some next) :
    next.marked = true → (session.close closing).1.retired = true := by
  cases closing with
  | retired => exact fun _ => rfl
  | timings => exact fun _ => hclosing rfl
  | client => cases hnext

theorem close_shut (session : Session Timing) (closing : Closing)
    (hclosing : closing.marked = true → session.retired = true)
    (hnext : (session.close closing).2 = none) : (session.close closing).1.Shut := by
  cases closing with
  | retired => cases hnext
  | timings => cases hnext
  | client =>
    refine ⟨hclosing rfl, ?_⟩
    intro client hclient _
    obtain ⟨previous, -, rfl⟩ := Option.map_eq_some_iff.mp hclient
    rfl

theorem fits_finished_error (session : Session Timing) (failure : Failure) :
    Fits session (.finished (.error failure) true : Stage Timing) where
  failing := rfl
  marked hmarked := by cases hmarked
  stopped hnot := by cases hnot
  shut _ hclosed := by cases hclosed
  recorded _ hrecorded := by cases hrecorded
  leaving _ hleaving := by cases hleaving

end Session

section

/-! ## Changes of a session -/

variable {session : Session Timing} {failure : Failure} {held : Bool}

theorem FitsFailure.released {ending : Ending} (h : FitsFailure session failure held ending)
    (hrecorded : ending.recorded = true) (hshut : failure.rejected = false → session.Shut) :
    FitsFailure session failure held .release where
  failing := rfl
  marked hmarked := by cases hmarked
  stopped := h.stopped
  shut hplain _ := hshut hplain
  recorded hheld _ := h.recorded hheld hrecorded
  leaving _ hleaving := by cases hleaving

theorem FitsFailure.record (change : Change) (h : FitsFailure session failure held .record) :
    FitsFailure (session.finish change (.error failure) .record).1 failure held .judge where
  failing := rfl
  marked hmarked := by cases hmarked
  stopped := h.stopped
  shut _ hclosed := by cases hclosed
  recorded _ _ := by simp [Session.finish]
  leaving _ hleaving := by cases hleaving

theorem FitsFailure.judge (change : Change) (h : FitsFailure session failure held .judge) :
    FitsFailure session failure held (session.finish change (.error failure) .judge).2 := by
  by_cases hrejected : failure.rejected = true
  · by_cases hempty : (!change.asynchronous
        && (session.outputs.isEmpty && session.progress.size == 1)) = true
    · have hnext : (session.finish change (.error failure) .judge).2 = .retire .retired := by
        simp only [Session.finish, isRejected, hrejected, hempty, if_true]
      rw [hnext]
      simp only [Bool.and_eq_true] at hempty
      exact {
        failing := rfl
        marked := fun hmarked => by cases hmarked
        stopped := h.stopped
        shut := fun hplain => by simp [hrejected] at hplain
        recorded := fun hheld _ => h.recorded hheld rfl
        leaving := fun _ _ => hempty.2.1 }
    · have hnext : (session.finish change (.error failure) .judge).2 = .release := by
        simp only [Session.finish, isRejected, hrejected, hempty, if_true, Bool.false_eq_true,
          if_false]
      rw [hnext]
      exact h.released rfl (fun hplain => by simp [hrejected] at hplain)
  · have hnext : (session.finish change (.error failure) .judge).2 = .close .retired := by
      simp only [Session.finish, isRejected, hrejected, Bool.false_eq_true, if_false]
    rw [hnext]
    exact {
      failing := by simpa [Ending.failing] using hrejected
      marked := fun hmarked => by cases hmarked
      stopped := h.stopped
      shut := fun _ hclosed => by cases hclosed
      recorded := fun hheld _ => h.recorded hheld rfl
      leaving := fun _ hleaving => by cases hleaving }

theorem FitsFailure.close (change : Change) (closing : Closing)
    (h : FitsFailure session failure held (.close closing)) :
    FitsFailure (session.finish change (.error failure) (.close closing)).1 failure held
      (session.finish change (.error failure) (.close closing)).2 := by
  have hquiet := session.quiet_close closing
  have hplain : failure.rejected = false := by simpa [Ending.failing] using h.failing
  exact {
    failing := by cases closing <;> simp [Session.finish, Session.close, Ending.failing, hplain]
    marked := by
      cases closing with
      | retired => exact fun _ => rfl
      | timings => exact fun _ => h.marked rfl
      | client => exact fun hmarked => by cases hmarked
    stopped := fun hnot => ⟨hplain, hquiet.disrupted (h.stopped hnot).2⟩
    shut := by
      intro _ hclosed
      cases closing with
      | retired => cases hclosed
      | timings => cases hclosed
      | client => exact session.close_shut .client h.marked rfl
    recorded := fun hheld _ => hquiet.progress (h.recorded hheld rfl)
    leaving := fun hrejected => by simp [hplain] at hrejected }

theorem FitsFailure.clear (change : Change) (h : FitsFailure session failure held .clear) :
    FitsFailure (session.finish change (.error failure) .clear).1 failure held
      (session.finish change (.error failure) .clear).2 := by
  have hplain : failure.rejected = false := by simpa [Ending.failing] using h.failing
  have hshut : (session.finish change (.error failure) .clear).1.Shut :=
    (session.finish_grows change _ .clear).shut (h.shut hplain rfl)
  exact {
    failing := by
      simp only [Session.finish]
      split <;> rfl
    marked := fun _ => hshut.1
    stopped := h.stopped
    shut := fun _ _ => hshut
    recorded := fun hheld _ => h.recorded hheld rfl
    leaving := fun hrejected => by simp [hplain] at hrejected }

theorem FitsFailure.retire (change : Change) (closing : Closing)
    (h : FitsFailure session failure held (.retire closing)) :
    FitsFailure (session.finish change (.error failure) (.retire closing)).1 failure held
      (session.finish change (.error failure) (.retire closing)).2 := by
  have hquiet := session.quiet_close closing
  exact {
    failing := by cases closing <;> rfl
    marked := by
      cases closing with
      | retired => exact fun _ => rfl
      | timings => exact fun _ => h.marked rfl
      | client => exact fun _ => h.marked rfl
    stopped := fun hnot => ⟨(h.stopped hnot).1, hquiet.disrupted (h.stopped hnot).2⟩
    shut := fun hplain _ => hquiet.shut (h.shut hplain rfl)
    recorded := fun hheld _ => hquiet.progress (h.recorded hheld rfl)
    leaving := fun hrejected _ => hquiet.outputs (h.leaving hrejected rfl) }

theorem FitsFailure.finish (change : Change) (ending : Ending)
    (h : FitsFailure session failure held ending) :
    FitsFailure (session.finish change (.error failure) ending).1 failure held
      (session.finish change (.error failure) ending).2 := by
  cases ending with
  | record => exact FitsFailure.record change h
  | judge =>
    rw [Session.judge_session]
    exact FitsFailure.judge change h
  | close closing => exact FitsFailure.close change closing h
  | clear => exact FitsFailure.clear change h
  | retire closing => exact FitsFailure.retire change closing h
  | remove => exact h.released rfl (fun hplain => h.shut hplain rfl)
  | release => exact h.released rfl (fun hplain => h.shut hplain rfl)
  | resolve => cases h.failing
  | inspect => cases h.failing

end

namespace Session

theorem finish_ok_fits (session : Session Timing) (change : Change) (held : Bool) (ending : Ending)
    (hfits : Fits session (.finish (.ok ()) held ending : Stage Timing)) :
    Fits (session.finish change (.ok ()) ending).1
      (.finish (.ok ()) held (session.finish change (.ok ()) ending).2 : Stage Timing) := by
  obtain ⟨hheld, hending, hmarked⟩ := hfits
  cases ending with
  | resolve => exact ⟨hheld, rfl, fun h => by cases h⟩
  | inspect =>
    simp only [finish]
    split <;> exact ⟨hheld, rfl, fun h => by cases h⟩
  | retire closing =>
    have hnext := session.close_marked closing
    cases closing with
    | retired => exact ⟨hheld, rfl, fun _ => rfl⟩
    | timings => exact ⟨hheld, rfl, fun _ => hmarked rfl⟩
    | client => exact ⟨hheld, rfl, fun _ => hmarked rfl⟩
  | remove => exact ⟨hheld, rfl, fun h => by cases h⟩
  | release => exact ⟨hheld, rfl, fun h => by cases h⟩
  | record => cases hending
  | judge => cases hending
  | close closing => cases hending
  | clear => cases hending

/-! ## Turns -/

theorem advance_fits (session : Session Timing) (change : Change) (choice : Choice Timing)
    (stage next : Stage Timing) (hprompt : session.Prompt) (hfits : Fits session stage)
    (hnext : (session.advance change choice stage).2.1 = some next) :
    Fits (session.advance change choice stage).1 next := by
  have hfailed := session.fits_finished_error
  match stage with
  | .found =>
    obtain rfl := Option.some.inj hnext
    split
    · exact fun h => by cases h
    · trivial
  | .forget closing =>
    obtain rfl := Option.some.inj hnext
    cases closing with
    | retired => exact fun _ => rfl
    | timings => exact fun _ => hfits rfl
    | client => exact hfits rfl
  | .forgotten => cases hnext
  | .gate =>
    simp only [advance] at hnext ⊢
    split at hnext
    · cases hnext
    · obtain rfl := Option.some.inj hnext
      trivial
  | .spawn =>
    obtain rfl := Option.some.inj hnext
    trivial
  | .start =>
    obtain rfl := Option.some.inj hnext
    split
    · exact hfailed _
    · trivial
  | .initialise =>
    simp only [advance] at hnext ⊢
    split at hnext
    · rename_i client hclient
      obtain rfl := Option.some.inj hnext
      exact ⟨client, hclient⟩
    · split at hnext
      · obtain rfl := Option.some.inj hnext
        exact ⟨_, rfl⟩
      · obtain rfl := Option.some.inj hnext
        exact hfailed _
  | .check =>
    obtain rfl := Option.some.inj hnext
    split
    · trivial
    · rename_i hopen
      obtain ⟨client, hclient⟩ := hfits
      have hopened := hprompt.opened hclient (by simpa using hopen)
      split
      · split <;> exact hopened
      · exact hfailed _
  | .discard =>
    obtain rfl := Option.some.inj hnext
    exact Session.fits_finished_error _ _
  | .timing =>
    rw [advance_reads session change choice rfl]
    simp only [advance] at hnext
    split at hnext
    · split at hnext
      · obtain rfl := Option.some.inj hnext
        exact hfailed _
      · obtain rfl := Option.some.inj hnext
        exact hfits
    · obtain rfl := Option.some.inj hnext
      exact hfailed _
  | .timingReply =>
    rw [advance_reads session change choice rfl]
    simp only [advance] at hnext
    split at hnext
    · obtain rfl := Option.some.inj hnext
      exact hfits
    · obtain rfl := Option.some.inj hnext
      exact hfailed _
  | .send timing =>
    rw [advance_reads session change choice rfl]
    simp only [advance] at hnext
    split at hnext
    · split at hnext
      · obtain rfl := Option.some.inj hnext
        exact hfailed _
      · obtain rfl := Option.some.inj hnext
        exact hfits
    · obtain rfl := Option.some.inj hnext
      exact hfailed _
  | .reply timing =>
    rw [advance_reads session change choice rfl]
    simp only [advance] at hnext
    split at hnext
    · obtain rfl := Option.some.inj hnext
      split <;> exact hfits
    · obtain rfl := Option.some.inj hnext
      exact hfailed _
  | .timings timing =>
    obtain rfl := Option.some.inj hnext
    exact hfits
  | .outputs =>
    obtain rfl := Option.some.inj hnext
    exact ⟨rfl, rfl, fun h => by cases h⟩
  | .finish (.ok ()) held ending =>
    have hfinish := session.finish_ok_fits change held ending hfits
    cases ending with
    | release => cases hnext
    | _ =>
      obtain rfl := Option.some.inj hnext
      exact hfinish
  | .finish (.error failure) held ending =>
    have hfinish := FitsFailure.finish change ending hfits
    cases ending with
    | release => cases hnext
    | _ =>
      obtain rfl := Option.some.inj hnext
      exact hfinish

theorem advance_moves (session : Session Timing) (change : Change) (choice : Choice Timing)
    (stage : Stage Timing) :
    GateMoves session.gate (session.advance change choice stage).1.gate stage.held
      (((session.advance change choice stage).2.1.map Stage.held).getD false) := by
  rcases session.advance_gate change choice stage with ⟨hgate, hnext, hnone⟩ | ⟨hopen, rfl, hgate,
    hnext⟩ | ⟨result, rfl, hgate, hnone⟩
  · refine .inl ⟨hgate, ?_⟩
    cases h : (session.advance change choice stage).2.1 with
    | none => simpa using (hnone h).symm
    | some stage' => simpa using hnext stage' h
  · exact .inr (.inl ⟨hopen, rfl, hgate, by rw [hnext]; rfl⟩)
  · exact .inr (.inr ⟨rfl, hgate, by rw [hnone]; rfl⟩)

theorem advance_none (session : Session Timing) (change : Change) (choice : Choice Timing)
    (stage : Stage Timing) (hnone : (session.advance change choice stage).2.1 = none) :
    stage = .forgotten ∨ stage = .gate ∧ session.gate = true
      ∨ ∃ result held, stage = .finish result held .release := by
  cases stage with
  | forgotten => exact .inl rfl
  | gate =>
    by_cases hgate : session.gate = true
    · exact .inr (.inl ⟨rfl, hgate⟩)
    · simp [advance, hgate] at hnone
  | finish result held ending =>
    cases ending with
    | release => exact .inr (.inr ⟨result, held, rfl⟩)
    | _ => cases hnone
  | _ =>
    simp only [advance] at hnone
    (repeat' split at hnone) <;> cases hnone

theorem advance_release (session : Session Timing) (change : Change) (choice : Choice Timing)
    (stage : Stage Timing) (hfits : Fits session stage)
    (hnext : (session.advance change choice stage).2.1 = some (.finish (.ok ()) true .release)) :
    stage = .finish (.ok ()) true .remove
      ∨ (session.outputs.isEmpty && session.progress.isEmpty) = false
        ∧ (session.advance change choice stage).1 = session := by
  cases stage with
  | finish result held ending =>
    have hof : result = .ok () → held = true → ending.succeeding = true := by
      rintro rfl rfl
      exact hfits.2.1
    cases ending with
    | release => cases hnext
    | remove =>
      cases hnext
      exact .inl rfl
    | inspect =>
      refine .inr ?_
      by_cases hempty : (session.outputs.isEmpty && session.progress.isEmpty) = true
      · simp [advance, finish, hempty] at hnext
      · exact ⟨by simpa using hempty, session.inspect_session change result⟩
    | retire closing => cases closing <;> simp [advance, finish, Session.close] at hnext
    | resolve => cases hnext
    | record => cases hnext
    | judge =>
      have hsame := Option.some.inj hnext
      injection hsame with hresult hheld
      cases hof hresult hheld
    | close closing =>
      have hsame := Option.some.inj hnext
      injection hsame with hresult hheld
      cases hof hresult hheld
    | clear =>
      have hsame := Option.some.inj hnext
      injection hsame with hresult hheld
      cases hof hresult hheld
  | forget closing => cases closing <;> cases hnext
  | _ =>
    simp only [advance, Stage.finished] at hnext
    (repeat' split at hnext) <;> cases hnext

theorem advance_sent (session : Session Timing) (change : Change) (choice : Choice Timing)
    (stage : Stage Timing) {command : Command}
    (hevent : (session.advance change choice stage).2.2 = some (.sent command)) :
    ∃ timing, stage = .send timing ∧ session.isClientConnected = true
      ∧ (session.advance change choice stage).2.1 = some (.reply timing) := by
  cases stage with
  | send timing =>
    refine ⟨timing, rfl, ?_⟩
    simp only [advance] at hevent ⊢
    split at hevent
    · rename_i hclient
      split at hevent
      · cases hevent
      · simp_all [isClientConnected]
    · cases hevent
  | finish result held ending => cases ending <;> cases hevent
  | _ =>
    simp only [advance] at hevent
    (repeat' split at hevent) <;> cases hevent

theorem close_progress (session : Session Timing) (closing : Closing) :
    (session.close closing).1.progress = session.progress := by
  cases closing <;> rfl

theorem finish_progress (session : Session Timing) (change : Change)
    (result : Except Failure Unit) (ending : Ending) {output : Uuid}
    (houtput : output ≠ change.output) :
    (session.finish change result ending).1.progress[output]? = session.progress[output]? := by
  cases ending with
  | record => simp [finish, TreeMap.getElem?_insert, Ne.symm houtput]
  | judge => rw [judge_session]
  | close closing => rw [← session.close_progress closing]; rfl
  | clear => rfl
  | resolve => simp [finish, TreeMap.getElem?_erase, Ne.symm houtput]
  | inspect => rw [inspect_session]
  | retire closing => rw [← session.close_progress closing]; rfl
  | remove => rfl
  | release => rfl

theorem advance_progress (session : Session Timing) (change : Change) (choice : Choice Timing)
    (stage : Stage Timing) {output : Uuid} (houtput : output ≠ change.output) :
    (session.advance change choice stage).1.progress[output]? = session.progress[output]? := by
  by_cases hreads : stage.reads = true
  · rw [advance_reads session change choice hreads]
  cases stage with
  | forget closing =>
    show (session.close closing).1.progress[output]? = _
    rw [close_progress]
  | gate =>
    simp only [advance]
    split <;> rfl
  | spawn => simp [advance, TreeMap.getElem?_insert, Ne.symm houtput]
  | initialise =>
    simp only [advance]
    split
    · rfl
    · split <;> rfl
  | discard => rfl
  | timings timing => rfl
  | outputs => rfl
  | finish result held ending =>
    cases ending with
    | release => cases held <;> rfl
    | _ => exact session.finish_progress change result _ houtput
  | _ => exact absurd rfl hreads

theorem advance_marked (session : Session Timing) (change : Change) (choice : Choice Timing)
    (stage : Stage Timing) (hfits : Fits session stage) (hmarking : stage.marking = true)
    (hmark : (session.advance change choice stage).1.progress[change.output]? = some ⟨none⟩) :
    ∃ next, (session.advance change choice stage).2.1 = some next ∧ next.marking = true := by
  cases stage with
  | finish result held ending =>
    cases ending with
    | record =>
      cases result with
      | ok value => cases hfits.2.1
      | error failure => simp [advance, finish, errorOf] at hmark
    | resolve => simp [advance, finish] at hmark
    | _ => cases held <;> cases hmarking
  | found => cases hmarking
  | forget closing => cases hmarking
  | forgotten => cases hmarking
  | gate => cases hmarking
  | spawn => cases hmarking
  | _ =>
    simp only [advance, Stage.finished]
    (repeat' split) <;> exact ⟨_, rfl, rfl⟩

theorem advance_unmarked (session : Session Timing) (change : Change) (choice : Choice Timing)
    (stage : Stage Timing) (hstage : stage ≠ .spawn) (hfits : Fits session stage)
    (hmark : (session.advance change choice stage).1.progress[change.output]? = some ⟨none⟩) :
    session.progress[change.output]? = some ⟨none⟩ := by
  by_cases hreads : stage.reads = true
  · rwa [advance_reads session change choice hreads] at hmark
  cases stage with
  | forget closing =>
    have hsame : (session.close closing).1.progress[change.output]? = some ⟨none⟩ := hmark
    rwa [close_progress] at hsame
  | gate =>
    simp only [advance] at hmark
    split at hmark <;> exact hmark
  | spawn => exact absurd rfl hstage
  | initialise =>
    simp only [advance] at hmark
    split at hmark
    · exact hmark
    · split at hmark <;> exact hmark
  | discard => exact hmark
  | timings timing => exact hmark
  | outputs => exact hmark
  | finish result held ending =>
    cases ending with
    | release => cases held <;> exact hmark
    | record =>
      cases result with
      | ok value => cases hfits.2.1
      | error failure => simp [advance, finish, errorOf] at hmark
    | judge => simpa [advance, judge_session] using hmark
    | close closing => simpa [advance, finish, close_progress] using hmark
    | clear => exact hmark
    | resolve => simp [advance, finish] at hmark
    | inspect => simpa [advance, inspect_session] using hmark
    | retire closing => simpa [advance, finish, close_progress] using hmark
    | remove => exact hmark
  | _ => exact absurd rfl hreads

theorem advance_past (session : Session Timing) (change : Change) (choice : Choice Timing)
    (stage next : Stage Timing) (hpast : stage.sendable = false)
    (hnext : (session.advance change choice stage).2.1 = some next) : next.sendable = false := by
  cases stage with
  | forget closing => cases closing <;> cases hnext <;> rfl
  | finish result held ending =>
    cases ending with
    | release => cases hnext
    | _ => cases hnext; rfl
  | found => cases hpast
  | gate => cases hpast
  | spawn => cases hpast
  | start => cases hpast
  | initialise => cases hpast
  | check => cases hpast
  | timing => cases hpast
  | timingReply => cases hpast
  | send timing => cases hpast
  | _ =>
    simp only [advance, Stage.finished] at hnext
    (repeat' split at hnext) <;> cases hnext <;> rfl

theorem close_disrupted (session : Session Timing) (closing : Closing) :
    (session.close closing).1.disrupted = session.disrupted := by
  cases closing <;> rfl

theorem read_inTime {session : Session Timing} {choice : Choice Timing} {reading next : Reading}
    (hprompt : session.Prompt) (hnext : (session.read choice reading).1 = some next)
    (hopened : reading.inTime = true → session.Opened) (htime : next.inTime = true) :
    session.Opened := by
  cases reading with
  | memberRetired output cameraPut =>
    simp only [read] at hnext
    split at hnext
    · cases hnext
    · cases hnext
      cases htime
  | memberClient output cameraPut =>
    simp only [read] at hnext
    split at hnext
    · cases hnext
    · rename_i client hclient
      cases hnext
      refine hprompt.opened hclient ?_
      split at htime <;> simpa [Reading.inTime] using htime
  | memberTiming output late =>
    simp only [read] at hnext
    split at hnext
    · cases hnext
    · cases hnext
      exact hopened htime
  | connectedClient =>
    simp only [read] at hnext
    split at hnext
    · cases hnext
    · rename_i client hclient
      cases hnext
      exact hprompt.opened hclient (by simpa [Reading.inTime] using htime)
  | connectedOpen late =>
    simp only [read] at hnext
    split at hnext
    · cases hnext
      exact hopened htime
    · cases hnext
  | connectedRetired late =>
    simp only [read] at hnext
    split at hnext
    · cases hnext
    · cases hnext
      exact hopened htime
  | request late =>
    simp only [read] at hnext
    (repeat' split at hnext) <;> cases hnext
  | connecting output => cases hnext

theorem read_forwarded {session : Session Timing} {choice : Choice Timing} {reading : Reading}
    {late : Bool} (hevent : (session.read choice reading).2 = some (.forwarded late)) :
    reading = .request late ∧ session.isClientConnected = true := by
  cases reading with
  | request late' =>
    simp only [read] at hevent
    split at hevent
    · rename_i hclient
      split at hevent
      · cases hevent
      · cases hevent
        exact ⟨rfl, hclient⟩
    · cases hevent
  | connecting output => cases hevent
  | _ =>
    simp only [read] at hevent
    (repeat' split at hevent) <;> cases hevent

end Session

end Regain.Alpaca
