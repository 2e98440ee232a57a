import Regain.Alpaca.PublisherRun

/-!
# What a client can rely on

Over every run: a command is sent once, a session that ended otherwise than by success or a definite
rejection carries nothing any more, and a rejection stays with its output.
-/

namespace Regain.Alpaca

open Lib
open Regain.Hub (Uuid)
open Std (TreeMap TreeSet)

variable {Timing : Type}

namespace Publisher

/-! ## Steps -/

variable {publisher : Publisher Timing}

abbrev Step (Timing : Type) : Type :=
  Transition (Publisher Timing) (Op Timing) (Option Effect)

variable {index session : Nat} {change : Change}

variable {thread : Thread Timing}

theorem next_step (hthread : publisher.threads index = some thread) (choice : Choice Timing) :
    machine.next publisher (.step index choice) = (publisher.advance index choice thread).2 := by
  simp [Machine.next, machine, hthread]

theorem next_stop (hthread : publisher.threads index = some thread) :
    machine.next publisher (.stop index) = publisher.stop index thread := by
  simp [Machine.next, machine, hthread]

structure Extends (publisher next : Publisher Timing) : Prop where
  created : publisher.created ≤ next.created
  grows : ∀ session, session < publisher.created →
    Session.Grows (publisher.sessions session) (next.sessions session)

theorem Extends.refl (publisher : Publisher Timing) : Extends publisher publisher :=
  ⟨Nat.le_refl _, fun _ _ => Session.Grows.refl _⟩

theorem Turn.extends {stage : Stage Timing} {after : Session Timing} {next : Option (Stage Timing)}
    {clients : TreeMap UInt32 Nat}
    (hturn : Turn publisher index change session stage after next clients) :
    Extends publisher (publisher.moved index change session after next clients) where
  created := Nat.le_refl _
  grows target _ := by
    by_cases htarget : target = session
    · subst htarget
      rw [moved_session]
      exact hturn.grows
    · rw [moved_other htarget]
      exact Session.Grows.refl _

theorem Aside.extends {next : Publisher Timing} (haside : Aside publisher next) :
    Extends publisher next where
  created := haside.created ▸ Nat.le_refl _
  grows session _ := (haside.quiet session).toGrows

theorem extends_create {id : UInt32} : Extends publisher ((publisher.create id).spawn thread) where
  created := Nat.le_succ _
  grows session hsession := by
    have hsame : ((publisher.create id).spawn thread).sessions session
        = publisher.sessions session :=
      create_other hsession
    rw [hsame]
    exact Session.Grows.refl _

theorem extends_spawn : Extends publisher (publisher.spawn thread) :=
  ⟨Nat.le_refl _, fun _ _ => Session.Grows.refl _⟩

theorem extends_connection (publisher : Publisher Timing) (change : Change)
    (choice : Choice Timing) : Extends publisher (publisher.connection change choice).2 := by
  unfold connection reserve existing
  (repeat' split) <;> rename_i hreserve
  · exact Extends.refl publisher
  · split at hreserve
    · split at hreserve
      · split at hreserve
        · cases hreserve
          exact extends_spawn
        · cases hreserve
          exact extends_create
      · split at hreserve
        · cases hreserve
          exact extends_create
        · cases hreserve
    · cases hreserve
  · exact extends_spawn
  · exact Extends.refl publisher

theorem Kept.extends (h : publisher.Kept) (op : Op Timing) :
    Extends publisher (machine.next publisher op) := by
  cases op with
  | connection change choice => exact extends_connection publisher change choice
  | request id call =>
    show Extends publisher (publisher.request id call).2
    unfold Publisher.request
    split
    · exact extends_spawn
    · exact Extends.refl publisher
  | close drained =>
    show Extends publisher (publisher.close drained)
    unfold Publisher.close
    dsimp only
    (repeat' split) <;> first
      | exact Extends.refl publisher
      | exact ⟨Nat.le_refl _, fun _ _ => Session.Grows.refl _⟩
  | step index choice =>
    cases hthread : publisher.threads index with
    | none => simpa [Machine.next, machine, hthread] using Extends.refl publisher
    | some thread =>
      rw [next_step hthread]
      cases thread with
      | change change session stage =>
        rw [advance_change]
        exact (turn h.sound choice hthread).extends
      | reading session reading => exact (aside_reading h.sound choice hthread).extends
      | closing session rest closing => exact (aside_closing h.sound choice hthread).extends
  | stop index =>
    cases hthread : publisher.threads index with
    | none => simpa [Machine.next, machine, hthread] using Extends.refl publisher
    | some thread =>
      rw [next_stop hthread]
      cases thread with
      | change change session stage =>
        unfold stop
        dsimp only
        by_cases hstop : stage.stoppable = true
        · rw [if_pos hstop]
          exact (turn_stop hstop hthread).extends
        · rw [if_neg hstop]
          exact Extends.refl publisher
      | reading session reading => exact Extends.refl publisher
      | closing session rest closing => exact Extends.refl publisher
  | lost index => exact (aside_lose publisher index).extends

/-! ## Where a stage comes from -/

structure Came (publisher : Publisher Timing) (op : Op Timing) (index : Nat) (change : Change)
    (session : Nat) (stage stage' : Stage Timing) : Prop where
  thread : publisher.threads index = some (.change change session stage)
  move : stage' = stage
    ∨ (∃ choice, op = .step index choice
      ∧ ((publisher.sessions session).advance change choice stage).2.1 = some stage')
    ∨ stage' = .finished (.error .stopped) false

variable {op : Op Timing}

theorem came_same {stage : Stage Timing}
    (hthread : publisher.threads index = some (.change change session stage)) :
    ∃ before, Came publisher op index change session before stage :=
  ⟨stage, hthread, .inl rfl⟩

theorem came_spawn {stage : Stage Timing} (hindex : index < publisher.spawned)
    (hthread : (publisher.spawn thread).threads index = some (.change change session stage)) :
    ∃ before, Came publisher op index change session before stage := by
  rw [spawn_threads (by omega)] at hthread
  exact came_same hthread

theorem Kept.came (h : publisher.Kept) (op : Op Timing) {stage : Stage Timing}
    (hindex : index < publisher.spawned)
    (hthread : (machine.next publisher op).threads index = some (.change change session stage)) :
    ∃ before, Came publisher op index change session before stage := by
  cases op with
  | connection change' choice =>
    have hconnection : (publisher.connection change' choice).2.threads index
        = some (.change change session stage) := hthread
    unfold Publisher.connection reserve existing at hconnection
    (repeat' split at hconnection) <;> rename_i hreserve
    · exact came_same hconnection
    · split at hreserve
      · split at hreserve
        · split at hreserve
          · cases hreserve
            exact came_spawn hindex hconnection
          · cases hreserve
            rw [spawn_threads (by show index ≠ publisher.spawned; omega)] at hconnection
            exact came_same hconnection
        · split at hreserve
          · cases hreserve
            rw [spawn_threads (by show index ≠ publisher.spawned; omega)] at hconnection
            exact came_same hconnection
          · cases hreserve
      · cases hreserve
    · exact came_spawn hindex hconnection
    · exact came_same hconnection
  | request id call =>
    have hrequest : (publisher.request id call).2.threads index
        = some (.change change session stage) := hthread
    unfold Publisher.request at hrequest
    split at hrequest
    · exact came_spawn hindex hrequest
    · exact came_same hrequest
  | close drained =>
    have hclose : (publisher.close drained).threads index
        = some (.change change session stage) := hthread
    unfold Publisher.close at hclose
    dsimp only at hclose
    (repeat' split at hclose)
    · exact came_same hclose
    · rw [spawn_threads (by show index ≠ publisher.spawned; omega)] at hclose
      exact came_same hclose
    · exact came_same hclose
  | step other choice =>
    cases hother : publisher.threads other with
    | none =>
      have hsame : machine.next publisher (.step other choice) = publisher := by
        simp [Machine.next, machine, hother]
      exact came_same (hsame ▸ hthread)
    | some thread =>
      rw [next_step hother] at hthread
      cases thread with
      | change change' session' stage' =>
        rw [advance_change] at hthread
        by_cases hsame : index = other
        · subst hsame
          rw [moved_thread] at hthread
          obtain ⟨next, hnext, hmoved⟩ := Option.map_eq_some_iff.mp hthread
          cases hmoved
          exact ⟨stage', hother, .inr (.inl ⟨choice, rfl, hnext⟩)⟩
        · rw [moved_threads hsame] at hthread
          exact came_same hthread
      | reading session' reading =>
        have haside := aside_reading h.sound choice hother
        exact came_same ((haside.changes index change session stage).mp hthread)
      | closing session' rest closing =>
        have haside := aside_closing h.sound choice hother
        exact came_same ((haside.changes index change session stage).mp hthread)
  | stop other =>
    cases hother : publisher.threads other with
    | none =>
      have hsame : machine.next publisher (.stop other) = publisher := by
        simp [Machine.next, machine, hother]
      exact came_same (hsame ▸ hthread)
    | some thread =>
      rw [next_stop hother] at hthread
      cases thread with
      | change change' session' stage' =>
        unfold stop at hthread
        dsimp only at hthread
        split at hthread
        · by_cases hsame : index = other
          · subst hsame
            simp only [setThread, Function.update_self] at hthread
            cases hthread
            exact ⟨stage', hother, .inr (.inr rfl)⟩
          · simp only [setThread, setSession, Function.update_of_ne hsame] at hthread
            exact came_same hthread
        · exact came_same hthread
      | reading session' reading => exact came_same hthread
      | closing session' rest closing => exact came_same hthread
  | lost other => exact came_same hthread

theorem spawned_le (publisher : Publisher Timing) (op : Op Timing) :
    publisher.spawned ≤ (machine.next publisher op).spawned := by
  cases op with
  | connection change choice =>
    show publisher.spawned ≤ (publisher.connection change choice).2.spawned
    unfold Publisher.connection reserve existing
    (repeat' split) <;> rename_i hreserve
    · exact Nat.le_refl _
    · (repeat' split at hreserve) <;> cases hreserve <;> exact Nat.le_succ _
    · exact Nat.le_succ _
    · exact Nat.le_refl _
  | request id call =>
    show publisher.spawned ≤ (publisher.request id call).2.spawned
    unfold Publisher.request
    split
    · exact Nat.le_succ _
    · exact Nat.le_refl _
  | close drained =>
    show publisher.spawned ≤ (publisher.close drained).spawned
    unfold Publisher.close
    dsimp only
    (repeat' split)
    · exact Nat.le_refl _
    · exact Nat.le_succ _
    · exact Nat.le_refl _
  | step index choice =>
    cases hthread : publisher.threads index with
    | none => simp [Machine.next, machine, hthread]
    | some thread =>
      rw [next_step hthread]
      cases thread with
      | change change session stage =>
        rw [advance_change]
        exact Nat.le_refl _
      | reading session reading => exact Nat.le_refl _
      | closing session rest closing =>
        simp only [advance]
        split <;> exact Nat.le_refl _
  | stop index =>
    cases hthread : publisher.threads index with
    | none => simp [Machine.next, machine, hthread]
    | some thread =>
      rw [next_stop hthread]
      unfold stop
      (repeat' split) <;> exact Nat.le_refl _
  | lost index => exact Nat.le_refl _

inductive Source where
  | change
  | request
  | close

def source : Event → Source
  | .sent _ => .change
  | .busy => .change
  | .idle => .change
  | .ended _ => .change
  | .forwarded _ => .request
  | .reported _ _ => .request
  | .refused _ => .request
  | .answered _ => .request
  | .closed => .close

theorem advance_source {session : Session Timing} {choice : Choice Timing} {stage : Stage Timing}
    {event : Event} (hevent : (session.advance change choice stage).2.2 = some event) :
    source event = .change := by
  cases stage with
  | finish result held ending =>
    cases ending <;> cases hevent
    rfl
  | _ =>
    simp only [Session.advance] at hevent
    (repeat' split at hevent) <;> cases hevent <;> rfl

theorem read_source {session : Session Timing} {choice : Choice Timing} {reading : Reading}
    {event : Event} (hevent : (session.read choice reading).2 = some event) :
    source event = .request := by
  cases reading with
  | connecting output =>
    cases hevent
    rfl
  | _ =>
    simp only [Session.read] at hevent
    (repeat' split at hevent) <;> cases hevent <;> rfl

theorem advance_ended {session : Session Timing} {choice : Choice Timing} {stage : Stage Timing}
    {result : Except Failure Unit}
    (hevent : (session.advance change choice stage).2.2 = some (.ended result)) :
    ∃ held, stage = .finish result held .release := by
  cases stage with
  | finish result' held ending =>
    cases ending with
    | release =>
      cases hevent
      exact ⟨held, rfl⟩
    | _ => cases hevent
  | _ =>
    simp only [Session.advance] at hevent
    (repeat' split at hevent) <;> cases hevent

/-! ## Events -/

inductive Happened (publisher : Publisher Timing) (op : Op Timing) (index session : Nat)
    (event : Event) : Prop where
  | change (change : Change) (stage : Stage Timing) (choice : Choice Timing)
      (hop : op = .step index choice)
      (hthread : publisher.threads index = some (.change change session stage))
      (hevent : ((publisher.sessions session).advance change choice stage).2.2 = some event)
  | reading (reading : Reading) (choice : Choice Timing) (hop : op = .step index choice)
      (hthread : publisher.threads index = some (.reading session reading))
      (hevent : ((publisher.sessions session).read choice reading).2 = some event)
  | closing (rest : List Nat) (closing : Closing) (choice : Choice Timing)
      (hop : op = .step index choice)
      (hthread : publisher.threads index = some (.closing session rest closing))
      (hclosed : ((publisher.sessions session).close closing).2 = none) (hevent : event = .closed)

theorem happened {event : Event}
    (h : (machine.perform publisher op).result = some ⟨index, some session, event⟩) :
    Happened publisher op index session event := by
  cases op with
  | connection change choice =>
    have hresult : (publisher.connection change choice).1 = some ⟨index, some session, event⟩ := h
    unfold connection reserve existing at hresult
    (repeat' split at hresult) <;> cases hresult
  | request id call =>
    have hresult : (publisher.request id call).1 = some ⟨index, some session, event⟩ := h
    unfold request at hresult
    split at hresult <;> cases hresult
  | close drained => cases h
  | step other choice =>
    cases hother : publisher.threads other with
    | none => simp [Machine.perform, machine, hother] at h
    | some thread =>
      have hresult : (publisher.advance other choice thread).1
          = some ⟨index, some session, event⟩ := by
        simpa [Machine.perform, machine, hother] using h
      cases thread with
      | change change session' stage =>
        obtain ⟨event', hevent, hsame⟩ := Option.map_eq_some_iff.mp hresult
        cases hsame
        exact .change change stage choice rfl hother hevent
      | reading session' reading =>
        obtain ⟨event', hevent, hsame⟩ := Option.map_eq_some_iff.mp hresult
        cases hsame
        exact .reading reading choice rfl hother hevent
      | closing session' rest closing =>
        simp only [advance] at hresult
        generalize hclosed : ((publisher.sessions session').close closing).2 = next at hresult
        cases next with
        | some closing' => cases hresult
        | none =>
          cases rest with
          | nil =>
            cases hresult
            exact .closing [] closing choice rfl hother hclosed rfl
          | cons other' rest =>
            cases hresult
            exact .closing (other' :: rest) closing choice rfl hother hclosed rfl
  | stop other =>
    cases hother : publisher.threads other with
    | none => simp [Machine.perform, machine, hother] at h
    | some thread => simp [Machine.perform, machine, hother] at h
  | lost other => cases h

/-! ## Commands and endings -/

def Sends (t : Step Timing) (index : Nat) : Prop :=
  ∃ session command, t.result = some ⟨index, some session, .sent command⟩

/-- A step ends a session: a change of it has ended otherwise than by success or by a definite
rejection, or the publisher has closed it. -/
def Shuts (t : Step Timing) (session : Nat) : Prop :=
  ∃ index, (∃ failure, failure.rejected = false
      ∧ t.result = some ⟨index, some session, .ended (.error failure)⟩)
    ∨ t.result = some ⟨index, some session, .closed⟩

/-- A step sends a command on the stream of a session: of a change, or of a request that took the
stream before the session was retired. -/
def Commands (t : Step Timing) (session : Nat) : Prop :=
  ∃ index, (∃ command, t.result = some ⟨index, some session, .sent command⟩)
    ∨ t.result = some ⟨index, some session, .forwarded false⟩

def Reserves (t : Step Timing) (session : Nat) : Prop :=
  ∃ (id : UInt32) (catalog : Bool) (next : Publisher Timing),
    t.before.reserve id catalog = .ok (session, next)

def Past (index : Nat) (publisher : Publisher Timing) : Prop :=
  index < publisher.spawned ∧ ∀ change session stage,
    publisher.threads index = some (.change change session stage) → stage.sendable = false

def Gone (session : Nat) (publisher : Publisher Timing) : Prop :=
  session < publisher.created ∧ (publisher.sessions session).Shut

theorem lasting_past (index : Nat) : Machine.Lasting
    (machine : Machine (Publisher Timing) (Op Timing) (Option Effect)) Kept (Past index) := by
  intro publisher op h hpast
  refine ⟨Nat.lt_of_lt_of_le hpast.1 (spawned_le publisher op), ?_⟩
  intro change session stage hthread
  obtain ⟨before, hcame⟩ := h.came op hpast.1 hthread
  have hbefore := hpast.2 change session before hcame.thread
  rcases hcame.move with rfl | ⟨choice, -, hnext⟩ | rfl
  · exact hbefore
  · exact Session.advance_past _ change choice before stage hbefore hnext
  · rfl

theorem lasting_gone (session : Nat) : Machine.Lasting
    (machine : Machine (Publisher Timing) (Op Timing) (Option Effect)) Kept (Gone session) := by
  intro publisher op h hgone
  have hextends := h.extends op
  exact ⟨Nat.lt_of_lt_of_le hgone.1 hextends.created, (hextends.grows session hgone.1).shut hgone.2⟩

theorem past_of_sends (h : publisher.Kept) (op : Op Timing)
    (hsends : Sends (machine.perform publisher op) index) :
    Past index (machine.next publisher op) := by
  obtain ⟨session, command, hresult⟩ := hsends
  cases happened hresult with
  | change change stage choice hop hthread hevent =>
    subst hop
    obtain ⟨timing, rfl, -, hnext⟩ := Session.advance_sent _ change choice stage hevent
    refine ⟨Nat.lt_of_lt_of_le (h.sound.spawned index _ hthread) (spawned_le publisher _), ?_⟩
    intro change' session' stage' hthread'
    rw [next_step hthread, advance_change, moved_thread, hnext] at hthread'
    cases hthread'
    rfl
  | reading reading choice hop hthread hevent => cases read_source hevent
  | closing rest closing choice hop hthread hclosed hevent => cases hevent

theorem not_sends_of_past (hpast : Past index publisher) :
    ¬ Sends (machine.perform publisher op) index := by
  rintro ⟨session, command, hresult⟩
  cases happened hresult with
  | change change stage choice hop hthread hevent =>
    obtain ⟨timing, rfl, -, -⟩ := Session.advance_sent _ change choice stage hevent
    cases hpast.2 change session _ hthread
  | reading reading choice hop hthread hevent => cases read_source hevent
  | closing rest closing choice hop hthread hclosed hevent => cases hevent

theorem gone_of_shuts (h : publisher.Kept) (op : Op Timing)
    (hshuts : Shuts (machine.perform publisher op) session) :
    Gone session (machine.next publisher op) := by
  have hextends := h.extends op
  obtain ⟨index, ⟨failure, hplain, hresult⟩ | hresult⟩ := hshuts
  · cases happened hresult with
    | change change stage choice hop hthread hevent =>
      obtain ⟨held, rfl⟩ := advance_ended hevent
      obtain ⟨-, hfits, -⟩ := h.sound.holding index _ hthread
      have hcreated := h.sound.created index _ hthread session (by simp [Thread.sessions])
      exact ⟨Nat.lt_of_lt_of_le hcreated hextends.created,
        (hextends.grows session hcreated).shut (hfits.shut hplain rfl)⟩
    | reading reading choice hop hthread hevent => cases read_source hevent
    | closing rest closing choice hop hthread hclosed hevent => cases hevent
  · cases happened hresult with
    | change change stage choice hop hthread hevent => cases advance_source hevent
    | reading reading choice hop hthread hevent => cases read_source hevent
    | closing rest closing choice hop hthread hclosed hevent =>
      subst hop
      have hholding := h.sound.holding index _ hthread
      have hcreated := h.sound.created index _ hthread session (by simp [Thread.sessions])
      have hshut := (publisher.sessions session).close_shut closing hholding hclosed
      refine ⟨Nat.lt_of_lt_of_le hcreated hextends.created, ?_⟩
      rw [next_step hthread]
      simp only [advance, hclosed]
      cases rest <;> simpa [setThread, setSession] using hshut

theorem not_open {session : Session Timing} (hshut : session.Shut) (hopened : session.Opened) :
    session.isClientConnected = false := by
  obtain ⟨client, hclient, hlate⟩ := hopened
  have hclosed := hshut.2 client hclient hlate
  simp [Session.isClientConnected, hclient, hclosed]

theorem not_commands_of_gone (h : publisher.Kept)
    (hgone : Gone session publisher) : ¬ Commands (machine.perform publisher op) session := by
  rintro ⟨index, ⟨command, hresult⟩ | hresult⟩
  · cases happened hresult with
    | change change stage choice hop hthread hevent =>
      obtain ⟨timing, rfl, hopen, -⟩ := Session.advance_sent _ change choice stage hevent
      obtain ⟨-, hfits, -⟩ := h.sound.holding index _ hthread
      simp [not_open hgone.2 hfits] at hopen
    | reading reading choice hop hthread hevent => cases read_source hevent
    | closing rest closing choice hop hthread hclosed hevent => cases hevent
  · cases happened hresult with
    | change change stage choice hop hthread hevent => cases advance_source hevent
    | reading reading choice hop hthread hevent =>
      obtain ⟨rfl, hopen⟩ := Session.read_forwarded hevent
      have hholding := h.sound.holding index _ hthread
      simp [not_open hgone.2 (hholding rfl)] at hopen
    | closing rest closing choice hop hthread hclosed hevent => cases hevent

theorem not_reserves_of_gone (hgone : Gone session publisher) :
    ¬ Reserves (machine.perform publisher op) session := by
  rintro ⟨id, catalog, next, hreserve⟩
  have hbefore : publisher.reserve id catalog = .ok (session, next) := hreserve
  have hretired := hgone.2.1
  have hcreated := hgone.1
  unfold reserve at hbefore
  split at hbefore
  · split at hbefore
    · split at hbefore
      · rename_i hopen
        cases hbefore
        simp [hretired] at hopen
      · cases hbefore
        omega
    · split at hbefore
      · cases hbefore
        omega
      · cases hbefore
  · cases hbefore

/-! ## Isolation -/

/-- A step of a session's thread changes neither another session nor its place in the map. -/
structure Confined (t : Step Timing) (session : Nat) : Prop where
  sessions : ∀ other, other ≠ session → t.after.sessions other = t.before.sessions other
  clients : ∀ id : UInt32, t.before.clients[id]? ≠ some session →
    t.after.clients[id]? = t.before.clients[id]?

def asks : Stage Timing → Bool
  | .timing => true
  | .timingReply => true
  | .send _ => true
  | .reply _ => true
  | _ => false

def isRejecting : Stage Timing → Bool
  | .finish (.error failure) _ _ => failure.rejected
  | _ => false

/-- A step of a change concerns its own output: it records nothing of another one, and when it is
rejected the connected outputs stay connected through the same session and stream. -/
structure Isolated (t : Step Timing) (change : Change) (session : Nat) (stage : Stage Timing) :
    Prop where
  progress : ∀ output, output ≠ change.output →
    (t.after.sessions session).progress[output]? = (t.before.sessions session).progress[output]?
  asked : asks stage = true → t.after.sessions session = t.before.sessions session
    ∧ t.after.clients = t.before.clients
  outputs : isRejecting stage = true →
    (t.after.sessions session).outputs = (t.before.sessions session).outputs
  recorded : ∀ failure held, stage = .finish (.error failure) held .record →
    (t.after.sessions session).progress[change.output]? = some ⟨some failure.error⟩
  connected : isRejecting stage = true → (t.before.sessions session).outputs.isEmpty = false →
    (t.after.sessions session).client = (t.before.sessions session).client
      ∧ (t.after.sessions session).retired = (t.before.sessions session).retired
      ∧ t.after.clients = t.before.clients

theorem clientsAfter_other {stage : Stage Timing} {id : UInt32}
    (hid : publisher.clients[id]? ≠ some session) :
    (publisher.clientsAfter change session stage)[id]? = publisher.clients[id]? := by
  unfold clientsAfter remove
  split
  · split
    · rename_i hmapped
      have hne : change.id ≠ id := by
        rintro rfl
        exact hid hmapped
      simp [TreeMap.getElem?_erase, hne]
    · rfl
  · rfl

theorem confined_step {stage : Stage Timing}
    (hthread : publisher.threads index = some (.change change session stage))
    (choice : Choice Timing) :
    Confined (machine.perform publisher (.step index choice)) session := by
  have hnext := next_step hthread choice
  rw [advance_change] at hnext
  constructor
  · intro other hother
    show (machine.next publisher _).sessions other = _
    rw [hnext, moved_other hother]
    rfl
  · intro id hid
    show (machine.next publisher _).clients[id]? = _
    rw [hnext]
    exact clientsAfter_other hid

theorem confined_stop {stage : Stage Timing}
    (hthread : publisher.threads index = some (.change change session stage)) :
    Confined (machine.perform publisher (.stop index)) session := by
  have hnext := next_stop hthread
  unfold stop at hnext
  dsimp only at hnext
  constructor
  · intro other hother
    show (machine.next publisher _).sessions other = publisher.sessions other
    rw [hnext]
    split
    · simp [setThread, setSession, Function.update_of_ne hother]
    · rfl
  · intro id hid
    show (machine.next publisher _).clients[id]? = publisher.clients[id]?
    rw [hnext]
    split <;> rfl

theorem finish_rejected {session : Session Timing} {failure : Failure} {held : Bool}
    {ending : Ending} (change : Change) (h : FitsFailure session failure held ending)
    (hrejected : failure.rejected = true) :
    (session.finish change (.error failure) ending).1.outputs = session.outputs
      ∧ (session.outputs.isEmpty = false →
        (session.finish change (.error failure) ending).1.client = session.client
          ∧ (session.finish change (.error failure) ending).1.retired = session.retired) := by
  have hfailing := h.failing
  cases ending with
  | record => exact ⟨rfl, fun _ => ⟨rfl, rfl⟩⟩
  | judge =>
    rw [Session.judge_session]
    exact ⟨rfl, fun _ => ⟨rfl, rfl⟩⟩
  | close closing => simp [Ending.failing, hrejected] at hfailing
  | clear => simp [Ending.failing, hrejected] at hfailing
  | resolve => cases hfailing
  | inspect => cases hfailing
  | retire closing =>
    have hempty := h.leaving hrejected rfl
    refine ⟨by cases closing <;> rfl, fun hsome => ?_⟩
    simp [hempty] at hsome
  | remove => exact ⟨rfl, fun _ => ⟨rfl, rfl⟩⟩
  | release => exact ⟨rfl, fun _ => ⟨rfl, rfl⟩⟩

theorem rejecting_stage {stage : Stage Timing} (hrejecting : isRejecting stage = true) :
    ∃ failure held ending, stage = .finish (.error failure) held ending
      ∧ failure.rejected = true := by
  cases stage with
  | finish result held ending =>
    cases result with
    | ok value => cases hrejecting
    | error failure => exact ⟨failure, held, ending, rfl, hrejecting⟩
  | _ => cases hrejecting

theorem advance_rejected {session : Session Timing} {failure : Failure} {held : Bool}
    {ending : Ending} (change : Change) (choice : Choice Timing)
    (h : FitsFailure session failure held ending) (hrejected : failure.rejected = true)
    {after : Session Timing} (hafter : after = (session.advance change choice
      (.finish (.error failure) held ending)).1) : after.outputs = session.outputs
      ∧ (session.outputs.isEmpty = false → after.client = session.client
        ∧ after.retired = session.retired
        ∧ Stage.removes (.finish (.error failure) held ending : Stage Timing) = false) := by
  have hfinish := finish_rejected change h hrejected
  subst hafter
  cases ending with
  | release => cases held <;> exact ⟨rfl, fun _ => ⟨rfl, rfl, rfl⟩⟩
  | remove =>
    refine ⟨rfl, fun hsome => ?_⟩
    have hempty := h.leaving hrejected rfl
    simp [hempty] at hsome
  | _ => exact ⟨hfinish.1, fun hsome => ⟨(hfinish.2 hsome).1, (hfinish.2 hsome).2, rfl⟩⟩

theorem asks_reads {stage : Stage Timing} (hasks : asks stage = true) :
    stage.reads = true ∧ stage.removes = false := by
  cases stage <;> first | exact ⟨rfl, rfl⟩ | cases hasks

theorem isolated_step (h : publisher.Kept) {stage : Stage Timing} (choice : Choice Timing)
    (hthread : publisher.threads index = some (.change change session stage)) :
    Isolated (machine.perform publisher (.step index choice)) change session stage := by
  obtain ⟨-, hfits, -⟩ := h.sound.holding index _ hthread
  have hnext := next_step hthread choice
  rw [advance_change] at hnext
  have hafter : (machine.perform publisher (.step index choice)).after.sessions session
      = ((publisher.sessions session).advance change choice stage).1 := by
    show (machine.next publisher _).sessions session = _
    rw [hnext, moved_session]
  have hstay : stage.removes = false →
      (machine.perform publisher (.step index choice)).after.clients = publisher.clients := by
    intro hremoves
    show (machine.next publisher _).clients = _
    rw [hnext]
    exact if_neg (by simp [hremoves])
  constructor
  · intro output houtput
    rw [hafter]
    exact Session.advance_progress _ change choice stage houtput
  · intro hasks
    obtain ⟨hreads, hremoves⟩ := asks_reads hasks
    exact ⟨hafter.trans (Session.advance_reads _ change choice hreads), hstay hremoves⟩
  · intro hrejecting
    obtain ⟨failure, held, ending, rfl, hrejected⟩ := rejecting_stage hrejecting
    exact (advance_rejected change choice hfits hrejected hafter).1
  · rintro failure held rfl
    rw [hafter]
    exact TreeMap.getElem?_insert_self
  · intro hrejecting houtputs
    obtain ⟨failure, held, ending, rfl, hrejected⟩ := rejecting_stage hrejecting
    obtain ⟨hclient, hretired, hremoves⟩ :=
      (advance_rejected change choice hfits hrejected hafter).2 houtputs
    exact ⟨hclient, hretired, hstay hremoves⟩

/-! ## Runs -/

structure Admitted (publisher : Publisher Timing) : Prop where
  /-- A session has one change in flight at most. -/
  single : ∀ session first second, publisher.Changes first session true →
    publisher.Changes second session true → first = second
  few : publisher.clients.size ≤ maxClients
  /-- A session without outputs, changes and failures is in the map no more, unless a task of it
  was stopped. -/
  present : ∀ (id : UInt32) session, publisher.clients[id]? = some session →
    (publisher.sessions session).disrupted = false →
      (publisher.sessions session).outputs.isEmpty = true →
        (∀ (output : Uuid) progress, (publisher.sessions session).progress[output]? = some progress →
          progress.error = none) →
        ∃ index held, publisher.Changes index session held

structure Served (run : List (Step Timing)) : Prop where
  once : run.Pairwise fun earlier later => ∀ index, Sends earlier index → ¬ Sends later index
  shut : run.Pairwise fun earlier later => ∀ session, Shuts earlier session →
    ¬ Commands later session ∧ ¬ Reserves later session
  confined : ∀ t ∈ run, ∀ index session change stage,
    (t.op = .stop index ∨ ∃ choice, t.op = .step index choice) →
      t.before.threads index = some (.change change session stage) → Confined t session
  isolated : ∀ t ∈ run, ∀ index choice session change stage, t.op = .step index choice →
    t.before.threads index = some (.change change session stage) →
      Isolated t change session stage

theorem Kept.admitted (h : publisher.Kept) : publisher.Admitted where
  single := h.sound.unique
  few := h.sound.few
  present := by
    intro id session hid hdisrupted houtputs hfailures
    by_cases hprogress : (publisher.sessions session).progress.isEmpty = true
    · rcases h.present id session hid with hleft | hchanges
      · exact absurd hid (hleft hdisrupted houtputs hprogress id)
      · exact hchanges
    · obtain ⟨output, houtput⟩ := TreeMap.isEmpty_eq_false_iff_exists_contains_eq_true.mp
        (by simpa using hprogress)
      rw [TreeMap.contains_eq_isSome_getElem?] at houtput
      obtain ⟨progress, hrecorded⟩ := Option.isSome_iff_exists.mp houtput
      have hnone := hfailures output progress hrecorded
      obtain ⟨error⟩ := progress
      subst hnone
      obtain ⟨index, change, stage, hthread, -, -⟩ := h.marked session output
        (h.sound.mapped id session hid).1 hdisrupted hrecorded
      exact ⟨index, stage.held, change, stage, hthread, rfl⟩

/-- Whatever the clients, the host and the tasks do, and in whichever order. -/
theorem sessions_served (ops : List (Op Timing)) :
    (machine.final (new : Publisher Timing) ops).Admitted
      ∧ Served (machine.run (new : Publisher Timing) ops) := by
  have hinductive : Machine.Inductive machine (new : Publisher Timing) Kept := kept_inductive
  refine ⟨(hinductive.final ops).admitted, ?_⟩
  have honce : ∀ index, (machine.run (new : Publisher Timing) ops).Pairwise
      fun earlier later => Sends earlier index → ¬ Sends later index := fun index =>
    (lasting_past index).pairwise (fun t => Sends t index) (fun t => Sends t index) hinductive
      (fun _ op h hsends => past_of_sends h op hsends)
      (fun _ _ _ hpast => not_sends_of_past hpast) ops
  have hshut : ∀ session, (machine.run (new : Publisher Timing) ops).Pairwise
      fun earlier later => Shuts earlier session →
        ¬ (Commands later session ∨ Reserves later session) := fun session =>
    (lasting_gone session).pairwise (fun t => Shuts t session)
      (fun t => Commands t session ∨ Reserves t session) hinductive
      (fun _ op h hshuts => gone_of_shuts h op hshuts)
      (fun _ _ h hgone hexcluded => hexcluded.elim (not_commands_of_gone h hgone)
        (not_reserves_of_gone hgone)) ops
  refine ⟨?_, ?_, ?_, ?_⟩
  · rw [List.pairwise_iff_getElem]
    intro i j hi hj hlt index
    exact List.pairwise_iff_getElem.mp (honce index) i j hi hj hlt
  · rw [List.pairwise_iff_getElem]
    intro i j hi hj hlt session hshuts
    exact not_or.mp (List.pairwise_iff_getElem.mp (hshut session) i j hi hj hlt hshuts)
  · intro t ht index session change stage hop hthread
    obtain ⟨-, -, hstep⟩ := hinductive.mem_run ht
    rw [hstep]
    rcases hop with hop | ⟨choice, hop⟩
    · rw [hop]
      exact confined_stop hthread
    · rw [hop]
      exact confined_step hthread choice
  · intro t ht index choice session change stage hop hthread
    obtain ⟨hbefore, -, hstep⟩ := hinductive.mem_run ht
    rw [hstep, hop]
    exact isolated_step hbefore choice hthread

def answering : Choice Unit where
  catalog := true
  opened := .ok ⟨true, true⟩
  refused := none
  timing := .ok ()
  reply := .ok ()

def unreachable : Choice Unit :=
  { answering with opened := .error .timeout }

def sevenOf (on asynchronous : Bool) : Change :=
  ⟨1, 7, on, asynchronous, false⟩

/-- A disconnection finds the session of a connection that fails, and a connection replaces it. -/
def overtaken : List (Op Unit) :=
  [.connection (sevenOf true false) answering, .step 0 answering, .step 0 answering,
    .step 0 answering, .connection (sevenOf false false) answering, .step 1 answering]
  ++ List.replicate 12 (.step 0 unreachable)
  ++ [.connection (sevenOf true false) answering, .step 2 answering, .step 1 answering]

def reopened : List (Op Unit) :=
  [.connection (sevenOf true false) answering, .step 0 answering, .step 0 answering,
    .step 0 answering, .request 1 (.member 7 false), .step 1 answering, .close [0],
    .step 2 answering, .step 2 answering, .step 2 answering, .step 0 answering,
    .step 1 answering, .step 1 answering]

/-- A task is stopped and its guard runs while another change of its output succeeds. -/
def forgotten : List (Op Unit) :=
  [.connection (sevenOf true true) answering, .step 0 answering, .step 0 answering,
    .step 0 answering, .stop 0, .connection (sevenOf true false) answering]
  ++ List.replicate 8 (.step 1 answering) ++ [.step 0 answering]
  ++ List.replicate 3 (.step 1 answering) ++ List.replicate 6 (.step 0 answering)

/-- A client may have two changes in flight, a request may use the stream that a closed session
opens late, and a session whose task was stopped may stay with nothing. -/
theorem sessions_overlap :
    (¬ ∀ (ops : List (Op Unit)) (first second : Nat) (change change' : Change)
        (session session' : Nat) (stage stage' : Stage Unit),
        (machine.final new ops).threads first = some (.change change session stage) →
          (machine.final new ops).threads second = some (.change change' session' stage') →
            stage.held = true → stage'.held = true → change.id = change'.id → first = second)
      ∧ (¬ ∀ ops : List (Op Unit), (machine.run new ops).Pairwise fun earlier later =>
        ∀ session, Shuts earlier session → ∀ index late,
          later.result ≠ some ⟨index, some session, .forwarded late⟩)
      ∧ ¬ ∀ (ops : List (Op Unit)) (id : UInt32) (session : Nat),
        (machine.final new ops).clients[id]? = some session →
          ((machine.final new ops).sessions session).outputs.isEmpty = true →
            (∀ (output : Uuid) progress,
              ((machine.final new ops).sessions session).progress[output]? = some progress →
                progress.error = none) →
              ∃ index held, (machine.final new ops).Changes index session held := by
  refine ⟨?_, ?_, ?_⟩
  · intro h
    have hsame := h overtaken 1 2 (sevenOf false false) (sevenOf true false) 0 1 .spawn .spawn
      (by decide +kernel) (by decide +kernel) rfl rfl rfl
    exact absurd hsame (by decide)
  · intro h
    have hpairs := List.pairwise_iff_getElem.mp (h reopened) 9 12 (by decide +kernel)
      (by decide +kernel) (by decide)
    exact hpairs 0 ⟨2, .inr (by decide +kernel)⟩ 1 true (by decide +kernel)
  · intro h
    have hempty : ((machine.final new forgotten).sessions 0).progress.isEmpty = true := by
      decide +kernel
    have hchanges := h forgotten 1 0 (by decide +kernel) (by decide +kernel) (by
      intro output progress hprogress
      have hcontains : ((machine.final new forgotten).sessions 0).progress.contains output
          = true := by
        rw [TreeMap.contains_eq_isSome_getElem?, hprogress]
        rfl
      rw [TreeMap.contains_of_isEmpty hempty] at hcontains
      cases hcontains)
    obtain ⟨index, held, change, stage, hthread, -⟩ := hchanges
    have hkept : (machine.final (new : Publisher Unit) forgotten).Kept :=
      kept_inductive.final forgotten
    have hindex := hkept.sound.spawned index _ hthread
    have hspawned : (machine.final (new : Publisher Unit) forgotten).spawned = 2 := by
      decide +kernel
    have hnone : ∀ index < 2,
        (machine.final (new : Publisher Unit) forgotten).threads index = none := by
      decide +kernel
    rw [hnone index (hspawned ▸ hindex)] at hthread
    cases hthread

end Publisher

end Regain.Alpaca
