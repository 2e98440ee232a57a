import Regain.Alpaca.PublisherSession

/-!
# Turns of the threads

The invariants of a publisher: the gate of a session has one holder, every thread finds in its
session what it has put there, the map has the sessions that are in use.
-/

namespace Regain.Alpaca

open Lib
open Regain.Hub (Uuid)
open Std (TreeMap TreeSet)

variable {Timing : Type}

def Thread.isChange : Thread Timing → Bool
  | .change _ _ _ => true
  | _ => false

def Thread.sessions : Thread Timing → List Nat
  | .change _ session _ => [session]
  | .reading session _ => [session]
  | .closing session rest _ => session :: rest

namespace Publisher

/-! ## The invariant -/

variable {publisher : Publisher Timing}

def Left (publisher : Publisher Timing) (session : Nat) : Prop :=
  (publisher.sessions session).disrupted = false →
    (publisher.sessions session).outputs.isEmpty = true →
      (publisher.sessions session).progress.isEmpty = true →
        ∀ id : UInt32, publisher.clients[id]? ≠ some session

def Holding (publisher : Publisher Timing) : Thread Timing → Prop
  | .change change session stage =>
    (publisher.sessions session).owner = change.id ∧ Fits (publisher.sessions session) stage
      ∧ (stage = .finish (.ok ()) true .release → publisher.Left session)
  | .reading session reading =>
    reading.inTime = true → (publisher.sessions session).Opened
  | .closing session _ closing =>
    closing.marked = true → (publisher.sessions session).retired = true

/-- The mark of a change in flight belongs to one, unless a task of the session was stopped. -/
def Marked (publisher : Publisher Timing) : Prop :=
  ∀ session output, session < publisher.created →
    (publisher.sessions session).disrupted = false →
      (publisher.sessions session).progress[output]? = some ⟨none⟩ →
        ∃ index change stage, publisher.threads index = some (.change change session stage)
          ∧ stage.marking = true ∧ change.output = output

def Changes (publisher : Publisher Timing) (index session : Nat) (held : Bool) : Prop :=
  ∃ change stage, publisher.threads index = some (.change change session stage)
    ∧ stage.held = held

structure Sound (publisher : Publisher Timing) : Prop where
  spawned : ∀ index thread, publisher.threads index = some thread → index < publisher.spawned
  created : ∀ index thread, publisher.threads index = some thread →
    ∀ session ∈ thread.sessions, session < publisher.created
  prompt : ∀ session, (publisher.sessions session).Prompt
  mapped : ∀ (id : UInt32) session, publisher.clients[id]? = some session →
    session < publisher.created ∧ (publisher.sessions session).owner = id
  holding : ∀ index thread, publisher.threads index = some thread → publisher.Holding thread
  unique : ∀ session first second, publisher.Changes first session true →
    publisher.Changes second session true → first = second
  locked : ∀ session, session < publisher.created →
    ((publisher.sessions session).gate = true ↔ ∃ index, publisher.Changes index session true)
  few : publisher.clients.size ≤ maxClients

def Present (publisher : Publisher Timing) : Prop :=
  ∀ (id : UInt32) session, publisher.clients[id]? = some session →
    publisher.Left session ∨ ∃ index held, publisher.Changes index session held

theorem sound_new : (new : Publisher Timing).Sound where
  spawned index thread h := by cases h
  created index thread h := by cases h
  prompt session client h := by cases h
  mapped id session h := by simp [new] at h
  holding index thread h := by cases h
  unique session first second h := by
    obtain ⟨change, stage, h, -⟩ := h
    cases h
  locked session h := by simp [new] at h
  few := by simp [new]

/-! ## Turns -/

def moved (publisher : Publisher Timing) (index : Nat) (change : Change) (session : Nat)
    (after : Session Timing) (next : Option (Stage Timing)) (clients : TreeMap UInt32 Nat) :
    Publisher Timing :=
  { publisher with
    clients := clients
    sessions := Function.update publisher.sessions session after
    threads := Function.update publisher.threads index (next.map fun stage =>
      .change change session stage) }

structure Turn (publisher : Publisher Timing) (index : Nat) (change : Change) (session : Nat)
    (stage : Stage Timing) (after : Session Timing) (next : Option (Stage Timing))
    (clients : TreeMap UInt32 Nat) : Prop where
  thread : publisher.threads index = some (.change change session stage)
  grows : Session.Grows (publisher.sessions session) after
  quiet : stage.held = false → Session.Quiet (publisher.sessions session) after
  fits : ∀ stage', next = some stage' → Fits after stage'
  gate : GateMoves (publisher.sessions session).gate after.gate stage.held
    ((next.map Stage.held).getD false)
  sub : ∀ (id : UInt32) other, clients[id]? = some other → publisher.clients[id]? = some other
  few : clients.size ≤ publisher.clients.size
  left : next = some (.finish (.ok ()) true .release) →
    (publisher.moved index change session after next clients).Left session
  ended : next = none → (publisher.moved index change session after next clients).Left session
    ∨ stage.held = false ∧ (publisher.sessions session).gate = true

section

variable {index session : Nat} {change : Change} {stage : Stage Timing} {after : Session Timing}
  {next : Option (Stage Timing)} {clients : TreeMap UInt32 Nat}

theorem moved_session : (publisher.moved index change session after next clients).sessions session
    = after := by
  simp [moved]

theorem moved_other {other : Nat} (hother : other ≠ session) :
    (publisher.moved index change session after next clients).sessions other
      = publisher.sessions other := by
  simp [moved, Function.update_of_ne hother]

theorem moved_thread : (publisher.moved index change session after next clients).threads index
    = next.map fun stage => .change change session stage := by
  simp [moved]

theorem moved_threads {other : Nat} (hother : other ≠ index) :
    (publisher.moved index change session after next clients).threads other
      = publisher.threads other := by
  simp [moved, Function.update_of_ne hother]

theorem changes_moved {other target : Nat} {held : Bool} (hother : other ≠ index) :
    (publisher.moved index change session after next clients).Changes other target held
      ↔ publisher.Changes other target held := by
  simp only [Changes, moved_threads hother]

theorem changes_next {target : Nat} {held : Bool} :
    (publisher.moved index change session after next clients).Changes index target held
      ↔ target = session ∧ ∃ stage, next = some stage ∧ stage.held = held := by
  constructor
  · rintro ⟨change', stage', hthread, hheld⟩
    rw [moved_thread] at hthread
    obtain ⟨stage, hstage, hsame⟩ := Option.map_eq_some_iff.mp hthread
    cases hsame
    exact ⟨rfl, _, hstage, hheld⟩
  · rintro ⟨rfl, stage, hstage, hheld⟩
    exact ⟨change, stage, by rw [moved_thread, hstage]; rfl, hheld⟩

theorem left_other (hsub : ∀ (id : UInt32) other, clients[id]? = some other →
    publisher.clients[id]? = some other) {other : Nat} (hother : other ≠ session)
    (h : publisher.Left other) :
    (publisher.moved index change session after next clients).Left other := by
  intro hdisrupted houtputs hprogress id hid
  rw [moved_other hother] at hdisrupted houtputs hprogress
  exact h hdisrupted houtputs hprogress id (hsub id other hid)

namespace Turn

variable (hturn : Turn publisher index change session stage after next clients)

include hturn

theorem changes : publisher.Changes index session stage.held :=
  ⟨change, stage, hturn.thread, rfl⟩

theorem changes_index {target : Nat} {held : Bool} (h : publisher.Changes index target held) :
    target = session ∧ stage.held = held := by
  obtain ⟨change', stage', hthread, hheld⟩ := h
  have hsame := hturn.thread.symm.trans hthread
  cases hsame
  exact ⟨rfl, hheld⟩

/-- A step of a thread without the gate leaves a session that has something. -/
theorem left_kept (hfree : stage.held = false) (h : publisher.Left session) :
    (publisher.moved index change session after next clients).Left session := by
  have hquiet := hturn.quiet hfree
  intro hdisrupted houtputs hprogress id hid
  rw [moved_session] at hdisrupted houtputs hprogress
  obtain ⟨hsame, hsame'⟩ := hquiet.calm hdisrupted
  refine h ?_ (hsame ▸ houtputs) (hsame' ▸ hprogress) id (hturn.sub id session hid)
  by_contra hbefore
  have hafter := hturn.grows.disrupted (by simpa using hbefore)
  simp [hafter] at hdisrupted

theorem holding_other (h : publisher.Sound) {other : Nat} (hother : other ≠ index)
    {thread : Thread Timing} (hthread : publisher.threads other = some thread) :
    (publisher.moved index change session after next clients).Holding thread := by
  have hholding := h.holding other thread hthread
  cases thread with
  | change change' target stage' =>
    obtain ⟨howner, hfits, hleft⟩ := hholding
    by_cases htarget : target = session
    · subst htarget
      refine ⟨by rw [moved_session]; exact hturn.grows.owner.trans howner, ?_, ?_⟩
      · rw [moved_session]
        by_cases hheld : stage'.held = true
        · have hfree : stage.held = false := by
            by_contra hboth
            have hboth : stage.held = true := by simpa using hboth
            exact hother (h.unique target other index ⟨change', stage', hthread, hheld⟩
              ⟨change, stage, hturn.thread, hboth⟩)
          exact hfits.quiet (hturn.quiet hfree)
        · exact hfits.grows (by simpa using hheld) hturn.grows
      · intro hrelease
        have hheld : stage'.held = true := by rw [hrelease]; rfl
        have hfree : stage.held = false := by
          by_contra hboth
          have hboth : stage.held = true := by simpa using hboth
          exact hother (h.unique target other index ⟨change', stage', hthread, hheld⟩
            ⟨change, stage, hturn.thread, hboth⟩)
        exact hturn.left_kept hfree (hleft hrelease)
    · refine ⟨by rw [moved_other htarget]; exact howner, by rw [moved_other htarget]; exact hfits,
        ?_⟩
      exact fun hrelease => left_other hturn.sub htarget (hleft hrelease)
  | reading target reading =>
    intro htime
    by_cases htarget : target = session
    · subst htarget
      rw [moved_session]
      exact hturn.grows.hasOpened (hholding htime)
    · rw [moved_other htarget]
      exact hholding htime
  | closing target rest closing =>
    intro hmarked
    by_cases htarget : target = session
    · subst htarget
      rw [moved_session]
      exact hturn.grows.retired (hholding hmarked)
    · rw [moved_other htarget]
      exact hholding hmarked

theorem holding (h : publisher.Sound) {other : Nat} {thread : Thread Timing}
    (hthread : (publisher.moved index change session after next clients).threads other
      = some thread) :
    (publisher.moved index change session after next clients).Holding thread := by
  by_cases hother : other = index
  · subst hother
    rw [moved_thread] at hthread
    obtain ⟨stage', hstage, rfl⟩ := Option.map_eq_some_iff.mp hthread
    obtain ⟨howner, -, -⟩ := h.holding other _ hturn.thread
    refine ⟨by rw [moved_session]; exact hturn.grows.owner.trans howner,
      by rw [moved_session]; exact hturn.fits stage' hstage, ?_⟩
    intro hrelease
    exact hturn.left (hrelease ▸ hstage)
  · rw [moved_threads hother] at hthread
    exact hturn.holding_other h hother hthread

theorem alone (h : publisher.Sound) {other : Nat} (hother : other ≠ index)
    (hheld : (next.map Stage.held).getD false = true) : ¬ publisher.Changes other session true := by
  intro hchanges
  have hcreated := h.created index _ hturn.thread session (by simp [Thread.sessions])
  rcases hturn.gate with ⟨-, hsame⟩ | ⟨hopen, -⟩ | ⟨-, -, hnot⟩
  · have hboth : publisher.Changes index session true := by
      have hchange := hturn.changes
      rwa [← hsame, hheld] at hchange
    exact hother (h.unique session other index hchanges hboth)
  · have hlocked := (h.locked session hcreated).mpr ⟨other, hchanges⟩
    simp [hopen] at hlocked
  · simp [hnot] at hheld

theorem unique (h : publisher.Sound) {target first second : Nat}
    (hfirst : (publisher.moved index change session after next clients).Changes first target true)
    (hsecond : (publisher.moved index change session after next clients).Changes second target
      true) : first = second := by
  by_cases hone : first = index
  · by_cases htwo : second = index
    · exact hone.trans htwo.symm
    · subst hone
      obtain ⟨rfl, stage', hstage, hheld⟩ := changes_next.mp hfirst
      exact absurd ((changes_moved htwo).mp hsecond)
        (hturn.alone h htwo (by simp [hstage, hheld]))
  · by_cases htwo : second = index
    · subst htwo
      obtain ⟨rfl, stage', hstage, hheld⟩ := changes_next.mp hsecond
      exact absurd ((changes_moved hone).mp hfirst)
        (hturn.alone h hone (by simp [hstage, hheld]))
    · exact h.unique target first second ((changes_moved hone).mp hfirst)
        ((changes_moved htwo).mp hsecond)

theorem locked (h : publisher.Sound) {target : Nat} (htarget : target < publisher.created) :
    ((publisher.moved index change session after next clients).sessions target).gate = true
      ↔ ∃ other,
        (publisher.moved index change session after next clients).Changes other target true := by
  have hlocked := h.locked target htarget
  by_cases hsame : target = session
  · subst hsame
    rw [moved_session]
    constructor
    · intro hgate
      by_cases hheld : (next.map Stage.held).getD false = true
      · cases hnext : next with
        | none => simp [hnext] at hheld
        | some stage' =>
          refine ⟨index, changes_next.mpr ⟨rfl, stage', hnext ▸ rfl, ?_⟩⟩
          simpa [hnext] using hheld
      · rcases hturn.gate with ⟨hkept, hnot⟩ | ⟨-, -, -, hnot⟩ | ⟨-, hopen, -⟩
        · obtain ⟨other, hother⟩ := hlocked.mp (hkept ▸ hgate)
          have hne : other ≠ index := by
            rintro rfl
            exact hheld (hnot.trans (hturn.changes_index hother).2)
          exact ⟨other, (changes_moved hne).mpr hother⟩
        · exact absurd hnot hheld
        · simp [hopen] at hgate
    · rintro ⟨other, hother⟩
      by_cases hindex : other = index
      · subst hindex
        obtain ⟨-, stage', hstage, hheld⟩ := changes_next.mp hother
        have hnext : (next.map Stage.held).getD false = true := by simp [hstage, hheld]
        rcases hturn.gate with ⟨hkept, hsame⟩ | ⟨-, -, hgate, -⟩ | ⟨-, -, hnot⟩
        · rw [hkept]
          have hchanges := hturn.changes
          rw [← hsame, hnext] at hchanges
          exact hlocked.mpr ⟨other, hchanges⟩
        · exact hgate
        · simp [hnot] at hnext
      · have hbefore := (changes_moved hindex).mp hother
        rcases hturn.gate with ⟨hkept, -⟩ | ⟨-, -, hgate, -⟩ | ⟨hheld, -⟩
        · rw [hkept]
          exact hlocked.mpr ⟨other, hbefore⟩
        · exact hgate
        · have hchanges := hturn.changes
          rw [hheld] at hchanges
          exact absurd (h.unique target other index hbefore hchanges) hindex
  · rw [moved_other hsame, hlocked]
    constructor
    · rintro ⟨other, hother⟩
      have hne : other ≠ index := by
        rintro rfl
        exact hsame (hturn.changes_index hother).1
      exact ⟨other, (changes_moved hne).mpr hother⟩
    · rintro ⟨other, hother⟩
      by_cases hindex : other = index
      · subst hindex
        exact absurd (changes_next.mp hother).1 hsame
      · exact ⟨other, (changes_moved hindex).mp hother⟩

theorem present (h : publisher.Sound) (hpresent : publisher.Present) :
    (publisher.moved index change session after next clients).Present := by
  intro id target hid
  by_cases hsame : target = session
  · subst hsame
    cases hnext : next with
    | some stage' => exact .inr ⟨index, stage'.held, changes_next.mpr ⟨rfl, stage', rfl, rfl⟩⟩
    | none =>
      rcases hturn.ended hnext with hleft | ⟨hfree, hgate⟩
      · exact .inl (hnext ▸ hleft)
      · have hcreated := h.created index _ hturn.thread target (by simp [Thread.sessions])
        obtain ⟨other, hother⟩ := (h.locked target hcreated).mp hgate
        have hne : other ≠ index := by
          rintro rfl
          have hheld := (hturn.changes_index hother).2
          simp [hfree] at hheld
        exact .inr ⟨other, true, (changes_moved hne).mpr hother⟩
  · rcases hpresent id target (hturn.sub id target hid) with hleft | ⟨other, held, hother⟩
    · exact .inl (left_other hturn.sub hsame hleft)
    · have hne : other ≠ index := by
        rintro rfl
        obtain ⟨change', stage', hthread, -⟩ := hother
        have hown := hturn.thread.symm.trans hthread
        cases hown
        exact hsame rfl
      exact .inr ⟨other, held, (changes_moved hne).mpr hother⟩

theorem sound (h : publisher.Sound) :
    (publisher.moved index change session after next clients).Sound where
  spawned other thread hthread := by
    by_cases hother : other = index
    · exact hother ▸ h.spawned index _ hturn.thread
    · rw [moved_threads hother] at hthread
      exact h.spawned other thread hthread
  created other thread hthread target htarget := by
    by_cases hother : other = index
    · subst hother
      rw [moved_thread] at hthread
      obtain ⟨stage', -, rfl⟩ := Option.map_eq_some_iff.mp hthread
      exact h.created other _ hturn.thread target htarget
    · rw [moved_threads hother] at hthread
      exact h.created other thread hthread target htarget
  prompt target := by
    by_cases htarget : target = session
    · subst htarget
      rw [moved_session]
      exact hturn.grows.prompt (h.prompt target)
    · rw [moved_other htarget]
      exact h.prompt target
  mapped id target hid := by
    obtain ⟨hcreated, howner⟩ := h.mapped id target (hturn.sub id target hid)
    refine ⟨hcreated, ?_⟩
    by_cases htarget : target = session
    · subst htarget
      rw [moved_session]
      exact hturn.grows.owner.trans howner
    · rw [moved_other htarget]
      exact howner
  holding other thread hthread := hturn.holding h hthread
  unique target first second hfirst hsecond := hturn.unique h hfirst hsecond
  locked target htarget := hturn.locked h htarget
  few := hturn.few.trans h.few

end Turn

end

/-! ## Clients -/

theorem remove_sub {id other : UInt32} {session target : Nat}
    (h : (publisher.remove id session).clients[other]? = some target) :
    publisher.clients[other]? = some target := by
  unfold remove at h
  split at h
  · rw [TreeMap.getElem?_erase] at h
    split at h
    · cases h
    · exact h
  · exact h

theorem remove_few (id : UInt32) (session : Nat) :
    (publisher.remove id session).clients.size ≤ publisher.clients.size := by
  unfold remove
  split
  · exact TreeMap.size_erase_le
  · exact Nat.le_refl _

theorem remove_gone (h : publisher.Sound) {id : UInt32} {session : Nat}
    (howner : (publisher.sessions session).owner = id) (other : UInt32) :
    (publisher.remove id session).clients[other]? ≠ some session := by
  intro hother
  have hmapped := (h.mapped other session (remove_sub hother)).2
  have hsame : id = other := howner.symm.trans hmapped
  subst hsame
  have hid := remove_sub hother
  unfold remove at hother
  rw [if_pos hid, TreeMap.getElem?_erase] at hother
  simp at hother

section

variable {index session : Nat} {change : Change} {stage : Stage Timing}

def clientsAfter (publisher : Publisher Timing) (change : Change) (session : Nat)
    (stage : Stage Timing) : TreeMap UInt32 Nat :=
  if stage.removes then (publisher.remove change.id session).clients else publisher.clients

theorem advance_change (publisher : Publisher Timing) (index session : Nat) (change : Change)
    (choice : Choice Timing) (stage : Stage Timing) :
    (publisher.advance index choice (.change change session stage)).2
      = publisher.moved index change session
        ((publisher.sessions session).advance change choice stage).1
        ((publisher.sessions session).advance change choice stage).2.1
        (publisher.clientsAfter change session stage) := by
  by_cases hremoves : stage.removes = true
  · simp only [advance, clientsAfter, hremoves, if_true, setSession, setThread, moved, remove]
    split <;> rfl
  · simp only [advance, clientsAfter, hremoves, setSession, setThread, moved]
    rfl

theorem left_gone (h : publisher.Sound) {after : Session Timing} {next : Option (Stage Timing)}
    (howner : (publisher.sessions session).owner = change.id) (hremoves : stage.removes = true) :
    (publisher.moved index change session after next
      (publisher.clientsAfter change session stage)).Left session := by
  intro _ _ _ id hid
  have hclients : publisher.clientsAfter change session stage
      = (publisher.remove change.id session).clients :=
    if_pos hremoves
  exact remove_gone h howner id (hclients ▸ hid)

theorem turn (h : publisher.Sound) (choice : Choice Timing)
    (hthread : publisher.threads index = some (.change change session stage)) :
    Turn publisher index change session stage
      ((publisher.sessions session).advance change choice stage).1
      ((publisher.sessions session).advance change choice stage).2.1
      (publisher.clientsAfter change session stage) := by
  obtain ⟨howner, hfits, hleft⟩ := h.holding index _ hthread
  have hprompt := h.prompt session
  have hgrows := (publisher.sessions session).advance_grows change choice stage
  refine {
    thread := hthread
    grows := hgrows
    quiet := (publisher.sessions session).advance_quiet change choice stage hfits
    fits := fun stage' => (publisher.sessions session).advance_fits change choice stage stage'
      hprompt hfits
    gate := (publisher.sessions session).advance_moves change choice stage
    sub := ?_
    few := ?_
    left := ?_
    ended := ?_ }
  · intro id other hid
    unfold clientsAfter at hid
    split at hid
    · exact remove_sub hid
    · exact hid
  · unfold clientsAfter
    split
    · exact remove_few change.id session
    · exact Nat.le_refl _
  · intro hnext
    rcases (publisher.sessions session).advance_release change choice stage hfits hnext with
      rfl | ⟨hkept, hsame⟩
    · exact left_gone h howner rfl
    · intro _ houtputs hprogress
      rw [moved_session, hsame] at houtputs hprogress
      simp [houtputs, hprogress] at hkept
  · intro hnone
    rcases (publisher.sessions session).advance_none change choice stage hnone with
      rfl | ⟨rfl, hgate⟩ | ⟨result, held, rfl⟩
    · exact .inl (left_gone h howner rfl)
    · exact .inr ⟨rfl, hgate⟩
    · left
      cases result with
      | ok value =>
        obtain ⟨rfl, -, -⟩ := hfits
        intro hdisrupted houtputs hprogress
        rw [moved_session] at hdisrupted houtputs hprogress
        exact hleft rfl hdisrupted houtputs hprogress
      | error failure =>
        intro hdisrupted _ hprogress
        rw [moved_session] at hdisrupted hprogress
        cases held with
        | true =>
          have hrecorded := hfits.recorded rfl rfl
          have hsame : (publisher.sessions session).progress.isEmpty = true := hprogress
          simp [hsame] at hrecorded
        | false =>
          have hafter := hgrows.disrupted (hfits.stopped rfl).2
          simp [hafter] at hdisrupted

theorem quiet_stopped (session : Session Timing) :
    Session.Quiet session { session with gate := false, disrupted := true } :=
  ⟨⟨rfl, id, fun _ => rfl, fun client h => ⟨client, h, rfl, id⟩,
    fun client hnone hsome => by simp [hnone] at hsome⟩, id, id, fun h => by cases h⟩

theorem stoppable_held (hstop : stage.stoppable = true) : stage.held = true := by
  cases stage <;> first | rfl | cases hstop

theorem turn_stop (hstop : stage.stoppable = true)
    (hthread : publisher.threads index = some (.change change session stage)) :
    Turn publisher index change session stage
      { publisher.sessions session with gate := false, disrupted := true }
      (some (.finished (.error .stopped) false)) publisher.clients where
  thread := hthread
  grows := (quiet_stopped _).toGrows
  quiet _ := quiet_stopped _
  fits stage' hstage := by
    cases hstage
    exact {
      failing := rfl
      marked := fun hmarked => by cases hmarked
      stopped := fun _ => ⟨rfl, rfl⟩
      shut := fun _ hclosed => by cases hclosed
      recorded := fun hheld => by cases hheld
      leaving := fun hrejected => by cases hrejected }
  gate := .inr (.inr ⟨stoppable_held hstop, rfl, rfl⟩)
  sub _ _ hid := hid
  few := Nat.le_refl _
  left hnext := by cases hnext
  ended hnone := by cases hnone

theorem marked_other {after : Session Timing} {next : Option (Stage Timing)}
    {clients : TreeMap UInt32 Nat} {target other : Nat} {output : Uuid} (hother : other ≠ index)
    (h : ∃ change stage, publisher.threads other = some (.change change target stage)
      ∧ stage.marking = true ∧ change.output = output) : ∃ other change' stage',
      (publisher.moved index change session after next clients).threads other
        = some (.change change' target stage') ∧ stage'.marking = true
        ∧ change'.output = output := by
  obtain ⟨change', stage', hthread, hmarking, houtput⟩ := h
  exact ⟨other, change', stage', (moved_threads hother).trans hthread, hmarking, houtput⟩

theorem marked_change (h : publisher.Sound) (hmarked : publisher.Marked) (choice : Choice Timing)
    (hthread : publisher.threads index = some (.change change session stage)) :
    (publisher.moved index change session
      ((publisher.sessions session).advance change choice stage).1
      ((publisher.sessions session).advance change choice stage).2.1
      (publisher.clientsAfter change session stage)).Marked := by
  intro target output hcreated hdisrupted hmark
  by_cases htarget : target = session
  · subst htarget
    rw [moved_session] at hdisrupted hmark
    have hgrows := (publisher.sessions target).advance_grows change choice stage
    have hbefore : (publisher.sessions target).disrupted = false := by
      by_contra hnot
      have hafter := hgrows.disrupted (by simpa using hnot)
      simp [hafter] at hdisrupted
    obtain ⟨-, hfits, -⟩ := h.holding index _ hthread
    by_cases houtput : output = change.output
    · subst houtput
      by_cases hspawn : stage = .spawn
      · subst hspawn
        exact ⟨index, change, .start, moved_thread, rfl, rfl⟩
      · have hwas := (publisher.sessions target).advance_unmarked change choice stage hspawn hfits
          hmark
        obtain ⟨other, change', stage', hthread', hmarking, hsame⟩ :=
          hmarked target change.output hcreated hbefore hwas
        by_cases hother : other = index
        · subst hother
          cases hthread.symm.trans hthread'
          obtain ⟨next, hnext, hmarks⟩ := (publisher.sessions target).advance_marked change choice
            stage hfits hmarking hmark
          exact ⟨other, change, next, by rw [moved_thread, hnext]; rfl, hmarks, rfl⟩
        · exact marked_other hother ⟨change', stage', hthread', hmarking, hsame⟩
    · rw [(publisher.sessions target).advance_progress change choice stage houtput] at hmark
      obtain ⟨other, change', stage', hthread', hmarking, hsame⟩ :=
        hmarked target output hcreated hbefore hmark
      have hother : other ≠ index := by
        rintro rfl
        cases hthread.symm.trans hthread'
        exact houtput hsame.symm
      exact marked_other hother ⟨change', stage', hthread', hmarking, hsame⟩
  · rw [moved_other htarget] at hdisrupted hmark
    obtain ⟨other, change', stage', hthread', hmarking, hsame⟩ :=
      hmarked target output hcreated hdisrupted hmark
    have hother : other ≠ index := by
      rintro rfl
      cases hthread.symm.trans hthread'
      exact htarget rfl
    exact marked_other hother ⟨change', stage', hthread', hmarking, hsame⟩

theorem marked_stop (hmarked : publisher.Marked) (next : Option (Stage Timing))
    (hthread : publisher.threads index = some (.change change session stage)) :
    (publisher.moved index change session
      { publisher.sessions session with gate := false, disrupted := true } next
      publisher.clients).Marked := by
  intro target output hcreated hdisrupted hmark
  by_cases htarget : target = session
  · subst htarget
    rw [moved_session] at hdisrupted
    cases hdisrupted
  · rw [moved_other htarget] at hdisrupted hmark
    obtain ⟨other, change', stage', hthread', hmarking, hsame⟩ :=
      hmarked target output hcreated hdisrupted hmark
    have hother : other ≠ index := by
      rintro rfl
      cases hthread.symm.trans hthread'
      exact htarget rfl
    exact marked_other hother ⟨change', stage', hthread', hmarking, hsame⟩

end

/-! ## Steps beside the sessions -/

/-- A step that changes no gate and moves no connection change. -/
structure Aside (publisher next : Publisher Timing) : Prop where
  clients : next.clients = publisher.clients
  created : next.created = publisher.created
  spawned : next.spawned = publisher.spawned
  quiet : ∀ session, Session.Quiet (publisher.sessions session) (next.sessions session)
  gate : ∀ session, (next.sessions session).gate = (publisher.sessions session).gate
  disrupted : ∀ session,
    (next.sessions session).disrupted = (publisher.sessions session).disrupted
  progress : ∀ session,
    (next.sessions session).progress = (publisher.sessions session).progress
  changes : ∀ index change session stage,
    next.threads index = some (.change change session stage)
      ↔ publisher.threads index = some (.change change session stage)
  others : ∀ index thread, next.threads index = some thread →
    (publisher.threads index = some thread)
      ∨ (∃ before, publisher.threads index = some before ∧ thread.sessions ⊆ before.sessions)
        ∧ next.Holding thread

namespace Aside

variable {next : Publisher Timing} (haside : Aside publisher next)

include haside

theorem changes_iff {index session : Nat} {held : Bool} :
    next.Changes index session held ↔ publisher.Changes index session held := by
  simp only [Changes, haside.changes]

theorem left {session : Nat} (h : publisher.Left session) : next.Left session := by
  intro hdisrupted houtputs hprogress id
  obtain ⟨hsame, hsame'⟩ := (haside.quiet session).calm hdisrupted
  rw [haside.clients]
  exact h (haside.disrupted session ▸ hdisrupted) (hsame ▸ houtputs) (hsame' ▸ hprogress) id

theorem holding {thread : Thread Timing} (h : publisher.Holding thread) : next.Holding thread := by
  cases thread with
  | change change session stage =>
    obtain ⟨howner, hfits, hleft⟩ := h
    exact ⟨(haside.quiet session).owner.trans howner, hfits.quiet (haside.quiet session),
      fun hrelease => haside.left (hleft hrelease)⟩
  | reading session reading =>
    exact fun htime => (haside.quiet session).toGrows.hasOpened (h htime)
  | closing session rest closing =>
    exact fun hmarked => (haside.quiet session).retired (h hmarked)

theorem sound (h : publisher.Sound) : next.Sound where
  spawned index thread hthread := by
    rw [haside.spawned]
    rcases haside.others index thread hthread with hsame | ⟨⟨before, hbefore, -⟩, -⟩
    · exact h.spawned index thread hsame
    · exact h.spawned index before hbefore
  created index thread hthread session hsession := by
    rw [haside.created]
    rcases haside.others index thread hthread with hsame | ⟨⟨before, hbefore, hsub⟩, -⟩
    · exact h.created index thread hsame session hsession
    · exact h.created index before hbefore session (hsub hsession)
  prompt session := (haside.quiet session).toGrows.prompt (h.prompt session)
  mapped id session hid := by
    rw [haside.clients] at hid
    obtain ⟨hcreated, howner⟩ := h.mapped id session hid
    exact ⟨haside.created ▸ hcreated, (haside.quiet session).owner.trans howner⟩
  holding index thread hthread := by
    rcases haside.others index thread hthread with hsame | ⟨-, hholding⟩
    · exact haside.holding (h.holding index thread hsame)
    · exact hholding
  unique session first second hfirst hsecond :=
    h.unique session first second (haside.changes_iff.mp hfirst) (haside.changes_iff.mp hsecond)
  locked session hsession := by
    rw [haside.gate, h.locked session (haside.created ▸ hsession)]
    simp only [haside.changes_iff]
  few := by
    rw [haside.clients]
    exact h.few

theorem present (hpresent : publisher.Present) : next.Present := by
  intro id session hid
  rw [haside.clients] at hid
  rcases hpresent id session hid with hleft | ⟨index, held, hchanges⟩
  · exact .inl (haside.left hleft)
  · exact .inr ⟨index, held, haside.changes_iff.mpr hchanges⟩

theorem marked (hmarked : publisher.Marked) : next.Marked := by
  intro session output hcreated hdisrupted hmark
  rw [haside.created] at hcreated
  rw [haside.disrupted] at hdisrupted
  rw [haside.progress] at hmark
  obtain ⟨index, change, stage, hthread, hmarking⟩ :=
    hmarked session output hcreated hdisrupted hmark
  exact ⟨index, change, stage, (haside.changes index change session stage).mpr hthread, hmarking⟩

end Aside

theorem quiet_update {session : Nat} {after : Session Timing}
    (hquiet : Session.Quiet (publisher.sessions session) after) (other : Nat) :
    Session.Quiet (publisher.sessions other)
      (Function.update publisher.sessions session after other) := by
  by_cases hother : other = session
  · subst hother
    simpa using hquiet
  · rw [Function.update_of_ne hother]
    exact Session.Quiet.refl _

theorem same_update {session : Nat} {after : Session Timing} {α : Type}
    (field : Session Timing → α) (hsame : field after = field (publisher.sessions session))
    (other : Nat) : field (Function.update publisher.sessions session after other)
      = field (publisher.sessions other) := by
  by_cases hother : other = session
  · subst hother
    simpa using hsame
  · rw [Function.update_of_ne hother]

theorem aside_lose (publisher : Publisher Timing) (index : Nat) :
    Aside publisher (publisher.lose index) where
  clients := rfl
  created := rfl
  spawned := rfl
  quiet := quiet_update (publisher.sessions index).quiet_close_client
  gate := same_update Session.gate rfl
  disrupted := same_update Session.disrupted rfl
  progress := same_update Session.progress rfl
  changes _ _ _ _ := Iff.rfl
  others _ _ hthread := .inl hthread

theorem aside_move {index : Nat} (session : Nat) {thread : Thread Timing}
    (after : Session Timing) (next : Option (Thread Timing))
    (hthread : publisher.threads index = some thread) (hkind : thread.isChange = false)
    (hnext : ∀ thread', next = some thread' →
      thread'.isChange = false ∧ thread'.sessions ⊆ thread.sessions
        ∧ ((publisher.setSession session after).setThread index next).Holding thread')
    (hquiet : Session.Quiet (publisher.sessions session) after)
    (hgate : after.gate = (publisher.sessions session).gate)
    (hdisrupted : after.disrupted = (publisher.sessions session).disrupted)
    (hprogress : after.progress = (publisher.sessions session).progress) :
    Aside publisher ((publisher.setSession session after).setThread index next) where
  clients := rfl
  created := rfl
  spawned := rfl
  quiet := quiet_update hquiet
  gate := same_update Session.gate hgate
  disrupted := same_update Session.disrupted hdisrupted
  progress := same_update Session.progress hprogress
  changes other change target stage := by
    by_cases hother : other = index
    · subst hother
      have hthreads : ((publisher.setSession session after).setThread other next).threads other
          = next := by
        simp [setThread]
      rw [hthreads, hthread]
      constructor
      · intro hsame
        cases (hnext _ hsame).1
      · intro hsame
        rw [Option.some.inj hsame] at hkind
        cases hkind
    · simp [setThread, setSession, Function.update_of_ne hother]
  others other thread' hthread' := by
    by_cases hother : other = index
    · subst hother
      have hthreads : ((publisher.setSession session after).setThread other next).threads other
          = next := by
        simp [setThread]
      rw [hthreads] at hthread'
      obtain ⟨-, hsub, hholding⟩ := hnext thread' hthread'
      exact .inr ⟨⟨thread, hthread, hsub⟩, hholding⟩
    · simp only [setThread, setSession, Function.update_of_ne hother] at hthread'
      exact .inl hthread'

theorem setSession_self (publisher : Publisher Timing) (session : Nat) :
    publisher.setSession session (publisher.sessions session) = publisher := by
  simp [setSession]

theorem aside_reading (h : publisher.Sound) {index session : Nat} {reading : Reading}
    (choice : Choice Timing) (hthread : publisher.threads index = some (.reading session reading)) :
    Aside publisher (publisher.advance index choice (.reading session reading)).2 := by
  have hholding := h.holding index _ hthread
  have hmove := aside_move session (publisher.sessions session)
    (((publisher.sessions session).read choice reading).1.map fun reading =>
      .reading session reading) hthread rfl
  rw [setSession_self] at hmove
  refine hmove ?_ (Session.Quiet.refl _) rfl rfl rfl
  intro thread' hnext
  obtain ⟨reading', hreading, rfl⟩ := Option.map_eq_some_iff.mp hnext
  refine ⟨rfl, fun _ hmem => hmem, ?_⟩
  exact fun htime => Session.read_inTime (h.prompt session) hreading hholding htime

theorem aside_closing (h : publisher.Sound) {index session : Nat} {rest : List Nat}
    {closing : Closing} (choice : Choice Timing)
    (hthread : publisher.threads index = some (.closing session rest closing)) :
    Aside publisher (publisher.advance index choice (.closing session rest closing)).2 := by
  have hholding := h.holding index _ hthread
  have hmove := fun next hnext => aside_move session
    ((publisher.sessions session).close closing).1 next hthread rfl hnext
    ((publisher.sessions session).quiet_close closing)
    ((publisher.sessions session).close_gate closing)
    ((publisher.sessions session).close_disrupted closing)
    ((publisher.sessions session).close_progress closing)
  have hmarked := (publisher.sessions session).close_marked closing
  simp only [advance]
  generalize hclosed : ((publisher.sessions session).close closing).2 = next
  cases next with
  | some closing' =>
    refine hmove _ ?_
    intro thread' hnext
    cases hnext
    refine ⟨rfl, fun _ hmem => hmem, ?_⟩
    intro hmark
    have hretired := hmarked closing' hholding hclosed hmark
    simpa [setThread, setSession] using hretired
  | none =>
    cases rest with
    | nil =>
      refine hmove _ ?_
      intro thread' hnext
      cases hnext
    | cons other rest =>
      refine hmove _ ?_
      intro thread' hnext
      cases hnext
      refine ⟨rfl, ?_, ?_⟩
      · intro target hmem
        exact List.mem_cons_of_mem session hmem
      · intro hmark
        cases hmark

end Publisher

end Regain.Alpaca
