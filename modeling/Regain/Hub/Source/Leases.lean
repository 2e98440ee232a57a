import Regain.Hub.Source.Cleanup

/-!
# Source leases

A guard holds a lease from before it is asked for until it is dropped, at any time; a task then
queues the release. The queue of the actor is bounded.
-/

namespace Regain.Hub.Leases

open Lib

/-! ## The queue -/

inductive Item where
  | command (queued : QueuedCommand)
  | shutdown

def queueCapacity : Nat := 16

structure System where
  actor : Actor
  queue : List Item
  /-- The guards that are alive. -/
  guards : Finset Uuid
  /-- The dropped guards whose release is not queued yet. -/
  releasing : Finset Uuid
  /-- Every lease ID so far; a new one is never among them. -/
  issued : Finset Uuid
  /-- The actor took a shutdown and left its loop. -/
  closed : Bool

inductive Work where
  | woken (events : List ClockEvent) (now : Nat)
  | poll (events : List ClockEvent) (now : Nat) (io : PollIo)
  | receive (events : List ClockEvent) (now : Nat) (received : List ClockEvent) (receivedAt : Nat)
      (io : Io) (drained : Except SourceError Unit)

inductive Op where
  /-- `SourceLease::acquire` up to its first suspension. -/
  | create (lease : Uuid) (epoch : Nat)
  /-- The guard, or the future that was to return it, is dropped. -/
  | drop (lease : Uuid)
  /-- A task goes on that was spawned by a dropped guard. -/
  | send (lease : Uuid) (epoch : Nat)
  /-- Any other request. -/
  | ask (queued : QueuedCommand)
  | shutdown
  | work (work : Work)

namespace System

def new (actor : Actor) : System where
  actor := actor
  queue := []
  guards := ∅
  releasing := ∅
  issued := ∅
  closed := false

def hasRoom (system : System) : Bool :=
  !system.closed && decide (system.queue.length < queueCapacity)

def push (system : System) (item : Item) : System :=
  { system with queue := system.queue ++ [item] }

/-- A guard exists before its acquisition is queued, and a refusal drops it. -/
def create (system : System) (lease : Uuid) (epoch : Nat) : System :=
  if lease.isNil || decide (lease ∈ system.issued) then system
  else
    let system := { system with issued := insert lease system.issued }
    if system.hasRoom then
      { system with guards := insert lease system.guards }.push (.command ⟨epoch, .acquire lease⟩)
    else { system with releasing := insert lease system.releasing }

def drop (system : System) (lease : Uuid) : System :=
  if lease ∈ system.guards then
    { system with
      guards := system.guards.erase lease
      releasing := insert lease system.releasing }
  else system

/-- The release waits for room; without an actor there is nothing to release. -/
def send (system : System) (lease : Uuid) (epoch : Nat) : System :=
  if lease ∉ system.releasing then system
  else if system.closed then { system with releasing := system.releasing.erase lease }
  else if system.hasRoom then
    { system with releasing := system.releasing.erase lease }.push (.command ⟨epoch, .release lease⟩)
  else system

def ask (system : System) (queued : QueuedCommand) : System :=
  match queued.command with
  | .acquire _ => system
  | _ => if system.hasRoom then system.push (.command queued) else system

def askShutdown (system : System) : System :=
  if system.hasRoom then system.push .shutdown else system

def turn (system : System) (op : Actor.Op) : List Effect × System :=
  let actor := { system.actor with log := [] }.turn op
  (actor.log, { system with actor := actor })

def receive (system : System) (events : List ClockEvent) (now : Nat) (received : List ClockEvent)
    (receivedAt : Nat) (io : Io) (drained : Except SourceError Unit) : List Effect × System :=
  match system.queue with
  | [] => ([], system)
  | .command queued :: queue =>
    { system with queue := queue }.turn (.command events now received receivedAt queued io)
  | .shutdown :: _ =>
    -- what is still queued is dropped before the cleanup
    { system with queue := [], closed := true }.turn (.shutdown events now io.disconnect drained)

def work (system : System) (work : Work) : List Effect × System :=
  if system.closed then ([], system)
  else
    match work with
    | .woken events now => system.turn (.woken events now)
    | .poll events now io => system.turn (.poll events now io)
    | .receive events now received receivedAt io drained =>
      system.receive events now received receivedAt io drained

def machine : Machine System Op (List Effect) where
  step system op :=
    match op with
    | .create lease epoch => ([], system.create lease epoch)
    | .drop lease => ([], system.drop lease)
    | .send lease epoch => ([], system.send lease epoch)
    | .ask queued => ([], system.ask queued)
    | .shutdown => ([], system.askShutdown)
    | .work work => system.work work

def acquired (system : System) : Op → Option Uuid
  | .work (.receive events now received receivedAt io _) =>
    if system.closed then none
    else
      match system.queue with
      | .command queued :: _ =>
        { system.actor with log := [] }.acquired
          (.command events now received receivedAt queued io)
      | _ => none
  | _ => none

end System

/-! ## The invariant -/

def Releases (queue : List Item) (lease : Uuid) : Prop :=
  ∃ epoch, .command ⟨epoch, .release lease⟩ ∈ queue

def System.Owed (system : System) (lease : Uuid) : Prop :=
  lease ∈ system.guards ∨ lease ∈ system.releasing ∨ Releases system.queue lease

def Ordered (holders : Finset Uuid) : List Item → Prop
  | [] => True
  | item :: queue =>
    (∀ epoch lease, item = .command ⟨epoch, .acquire lease⟩ →
      lease ∈ holders ∨ Releases queue lease) ∧ Ordered holders queue

structure Sound (system : System) : Prop where
  settled : Actor.Settled system.actor
  held : Actor.Held system.actor
  owed : ∀ lease ∈ system.actor.leases,
    lease ∈ system.guards ∪ system.releasing ∨ Releases system.queue lease
  ordered : Ordered (system.guards ∪ system.releasing) system.queue
  stopped : system.closed = true → system.actor.leases = ∅ ∧ system.queue = []

theorem Releases.push {queue : List Item} {lease : Uuid} (h : Releases queue lease) (item : Item) :
    Releases (queue ++ [item]) lease := by
  obtain ⟨epoch, hmem⟩ := h
  exact ⟨epoch, List.mem_append_left _ hmem⟩

theorem releases_self (queue : List Item) (epoch : Nat) (lease : Uuid) :
    Releases (queue ++ [Item.command ⟨epoch, .release lease⟩]) lease :=
  ⟨epoch, List.mem_append_right _ (List.mem_singleton_self _)⟩

theorem Ordered.push {holders : Finset Uuid} {queue : List Item} (h : Ordered holders queue)
    {item : Item}
    (hitem : ∀ epoch lease, item = .command ⟨epoch, .acquire lease⟩ → lease ∈ holders) :
    Ordered holders (queue ++ [item]) := by
  induction queue with
  | nil => exact ⟨fun epoch lease hsame => .inl (hitem epoch lease hsame), trivial⟩
  | cons first queue ih =>
    refine ⟨fun epoch lease hsame => ?_, ih h.2⟩
    rcases h.1 epoch lease hsame with hholder | hreleased
    · exact .inl hholder
    · exact .inr (hreleased.push item)

theorem Ordered.mono {holders others : Finset Uuid} {queue : List Item}
    (h : Ordered holders queue) (hsub : holders ⊆ others) : Ordered others queue := by
  induction queue with
  | nil => trivial
  | cons first queue ih =>
    refine ⟨fun epoch lease hsame => ?_, ih h.2⟩
    exact (h.1 epoch lease hsame).imp_left fun hmem => hsub hmem

theorem Ordered.hand {holders others : Finset Uuid} {queue : List Item} {epoch : Nat} {lease : Uuid}
    (h : Ordered holders queue) (hsub : ∀ holder ∈ holders, holder ∈ others ∨ holder = lease) :
    Ordered others (queue ++ [Item.command ⟨epoch, .release lease⟩]) := by
  induction queue with
  | nil => exact ⟨fun other wanted hsame => (by cases hsame), trivial⟩
  | cons first queue ih =>
    refine ⟨fun other wanted hsame => ?_, ih h.2⟩
    rcases h.1 other wanted hsame with hholder | hreleased
    · rcases hsub wanted hholder with hstill | hgone
      · exact .inl hstill
      · rw [hgone]
        exact .inr (releases_self queue epoch lease)
    · exact .inr (hreleased.push _)

namespace Sound

variable {system : System}

theorem create (h : Sound system) (lease : Uuid) (epoch : Nat) :
    Sound (system.create lease epoch) := by
  unfold System.create
  split
  · exact h
  dsimp only
  split
  · next hroom =>
      have hsub : system.guards ∪ system.releasing ⊆ insert lease system.guards ∪ system.releasing :=
        Finset.union_subset_union_left (Finset.subset_insert lease system.guards)
      refine ⟨h.settled, h.held, ?_, ?_, ?_⟩
      · intro other hmem
        rcases h.owed other hmem with hholder | hreleased
        · exact .inl (hsub hholder)
        · exact .inr (hreleased.push _)
      · refine (h.ordered.mono hsub).push ?_
        intro other wanted hsame
        cases hsame
        exact Finset.mem_union_left _ (Finset.mem_insert_self lease system.guards)
      · intro hclosed
        change (!system.closed && _) = true at hroom
        rw [show system.closed = true from hclosed] at hroom
        cases hroom
  · have hsub : system.guards ∪ system.releasing ⊆ system.guards ∪ insert lease system.releasing :=
      Finset.union_subset_union_right (Finset.subset_insert lease system.releasing)
    refine ⟨h.settled, h.held, ?_, h.ordered.mono hsub, h.stopped⟩
    intro other hmem
    exact (h.owed other hmem).imp_left fun hholder => hsub hholder

theorem drop (h : Sound system) (lease : Uuid) : Sound (system.drop lease) := by
  unfold System.drop
  split
  · next hguard =>
      have hsame : system.guards ∪ system.releasing
          ⊆ system.guards.erase lease ∪ insert lease system.releasing := by
        intro other hmem
        by_cases hother : other = lease
        · rw [hother]
          exact Finset.mem_union_right _ (Finset.mem_insert_self lease system.releasing)
        · rcases Finset.mem_union.mp hmem with hguarded | hreleasing
          · exact Finset.mem_union_left _ (Finset.mem_erase.mpr ⟨hother, hguarded⟩)
          · exact Finset.mem_union_right _ (Finset.mem_insert_of_mem hreleasing)
      refine ⟨h.settled, h.held, ?_, h.ordered.mono hsame, h.stopped⟩
      intro other hmem
      exact (h.owed other hmem).imp_left fun hholder => hsame hholder
  · exact h

theorem send (h : Sound system) (lease : Uuid) (epoch : Nat) : Sound (system.send lease epoch) := by
  have hsub : ∀ holder ∈ system.guards ∪ system.releasing,
      holder ∈ system.guards ∪ system.releasing.erase lease ∨ holder = lease := by
    intro holder hmem
    by_cases hsame : holder = lease
    · exact .inr hsame
    · rcases Finset.mem_union.mp hmem with hguarded | hreleasing
      · exact .inl (Finset.mem_union_left _ hguarded)
      · exact .inl (Finset.mem_union_right _ (Finset.mem_erase.mpr ⟨hsame, hreleasing⟩))
  unfold System.send
  split
  · exact h
  split
  · next hclosed =>
      obtain ⟨hleases, hqueue⟩ := h.stopped hclosed
      refine ⟨h.settled, h.held, ?_, ?_, h.stopped⟩
      · intro other hmem
        change other ∈ system.actor.leases at hmem
        rw [hleases] at hmem
        exact absurd hmem (Finset.notMem_empty other)
      · change Ordered _ system.queue
        rw [hqueue]
        trivial
  next hopen =>
    split
    · refine ⟨h.settled, h.held, ?_, h.ordered.hand hsub, fun hclosed => absurd hclosed hopen⟩
      intro other hmem
      rcases h.owed other hmem with hholder | hreleased
      · rcases hsub other hholder with hstill | hgone
        · exact .inl hstill
        · rw [hgone]
          exact .inr (releases_self system.queue epoch lease)
      · exact .inr (hreleased.push _)
    · exact h

theorem push (h : Sound system) {item : Item} (hroom : system.hasRoom = true)
    (hitem : ∀ epoch lease, item ≠ .command ⟨epoch, .acquire lease⟩) : Sound (system.push item) := by
  refine ⟨h.settled, h.held, ?_, ?_, ?_⟩
  · intro lease hmem
    exact (h.owed lease hmem).imp_right fun hreleased => hreleased.push item
  · exact h.ordered.push fun epoch lease hsame => absurd hsame (hitem epoch lease)
  · intro hclosed
    change (!system.closed && _) = true at hroom
    rw [show system.closed = true from hclosed] at hroom
    cases hroom

theorem ask (h : Sound system) (queued : QueuedCommand) : Sound (system.ask queued) := by
  obtain ⟨epoch, command⟩ := queued
  cases command with
  | acquire lease => exact h
  | _ =>
    unfold System.ask
    dsimp only
    split
    · next hroom => exact h.push hroom fun other lease hsame => by cases hsame
    · exact h

theorem askShutdown (h : Sound system) : Sound system.askShutdown := by
  unfold System.askShutdown
  split
  · next hroom => exact h.push hroom fun epoch lease hsame => by cases hsame
  · exact h

theorem turned (h : Sound system) (op : Actor.Op) :
    Actor.Accounts { system.actor with log := [] } (system.turn op).2.actor
        ({ system.actor with log := [] }.acquired op)
      ∧ Actor.Takes (system.turn op).2.actor op ∧ Actor.Held (system.turn op).2.actor := by
  have hsettled : Actor.Settled { system.actor with log := [] } := h.settled
  have hheld : Actor.Held { system.actor with log := [] } := ⟨h.held.controller, h.held.connected⟩
  obtain ⟨haccounts, htakes⟩ := Actor.turn_accounts op rfl hsettled
  exact ⟨haccounts, htakes, (Actor.turn_turned op ⟨rfl, rfl⟩).held hheld⟩

theorem turn (h : Sound system) {op : Actor.Op}
    (hnone : { system.actor with log := [] }.acquired op = none) (hopen : system.closed = false) :
    Sound (system.turn op).2 := by
  obtain ⟨haccounts, -, hheld⟩ := h.turned op
  refine ⟨haccounts.settled, hheld, ?_, h.ordered, ?_⟩
  · intro lease hmem
    rcases haccounts.leases lease hmem with hbefore | hnew
    · exact h.owed lease hbefore
    · rw [hnone] at hnew
      cases hnew
  · intro hclosed
    exact absurd (hopen.symm.trans hclosed) Bool.false_ne_true

end Sound

theorem acquired_command {actor : Actor} {events received : List ClockEvent} {now receivedAt : Nat}
    {queued : QueuedCommand} {io : Io} {lease : Uuid}
    (h : actor.acquired (.command events now received receivedAt queued io) = some lease) :
    queued.command = .acquire lease := by
  unfold Actor.acquired Actor.acquires at h
  dsimp only at h
  split at h
  · next other hcommand =>
      split at h
      · unfold Actor.admitted at h
        split at h
        · cases h
        · rw [hcommand]
          cases h
          rfl
      · cases h
  · cases h

namespace Sound

variable {system : System}

theorem receive (h : Sound system) (hopen : system.closed = false) (events : List ClockEvent)
    (now : Nat) (received : List ClockEvent) (receivedAt : Nat) (io : Io)
    (drained : Except SourceError Unit) :
    Sound (system.receive events now received receivedAt io drained).2 := by
  have howed := h.owed
  have hordered := h.ordered
  unfold System.receive
  split
  · exact h
  · next queued queue hqueue =>
      rw [hqueue] at howed hordered
      obtain ⟨haccounts, htakes, hheld⟩ :=
        h.turned (.command events now received receivedAt queued io)
      refine ⟨haccounts.settled, hheld, ?_, hordered.2, ?_⟩
      · intro lease hmem
        rcases haccounts.leases lease hmem with hbefore | hnew
        · rcases howed lease hbefore with hholder | ⟨epoch, hreleased⟩
          · exact .inl hholder
          · rcases List.mem_cons.mp hreleased with hfirst | hlater
            · cases hfirst
              exact absurd hmem (htakes.released _ _ _ _ epoch _ lease rfl)
            · exact .inr ⟨epoch, hlater⟩
        · obtain ⟨epoch, command⟩ := queued
          have hcommand := acquired_command hnew
          dsimp only at hcommand
          exact hordered.1 epoch lease (by rw [hcommand])
      · intro hclosed
        exact absurd (hopen.symm.trans hclosed) Bool.false_ne_true
  · obtain ⟨haccounts, htakes, hheld⟩ := h.turned (.shutdown events now io.disconnect drained)
    have hleases := htakes.stopped _ _ _ _ rfl
    refine ⟨haccounts.settled, hheld, ?_, trivial, fun _ => ⟨hleases, rfl⟩⟩
    intro lease hmem
    change lease ∈ (system.turn (.shutdown events now io.disconnect drained)).2.actor.leases at hmem
    rw [hleases] at hmem
    exact absurd hmem (Finset.notMem_empty lease)

theorem work (h : Sound system) (work : Work) : Sound (system.work work).2 := by
  unfold System.work
  cases hclosed : system.closed with
  | true => exact h
  | false =>
    cases work with
    | woken events now => exact h.turn rfl hclosed
    | poll events now io => exact h.turn rfl hclosed
    | receive events now received receivedAt io drained =>
      exact h.receive hclosed events now received receivedAt io drained

theorem step (h : Sound system) (op : Op) : Sound (System.machine.next system op) := by
  cases op with
  | create lease epoch => exact h.create lease epoch
  | drop lease => exact h.drop lease
  | send lease epoch => exact h.send lease epoch
  | ask queued => exact h.ask queued
  | shutdown => exact h.askShutdown
  | work work => exact h.work work

end Sound

theorem spawn_sound (setup : Setup) (clock : ResumeClock) (generation : Uuid) (now : Nat) :
    Sound (System.new (Actor.spawn setup clock generation now)) := by
  refine ⟨?_, Actor.spawn_held setup clock generation now, ?_, trivial, ?_⟩
  · constructor
    · intro _ hnone
      cases hnone
    · intro _
      rfl
  · intro lease hmem
    exact absurd hmem (Finset.notMem_empty lease)
  · intro hclosed
    cases hclosed

theorem sound_inductive (setup : Setup) (clock : ResumeClock) (generation : Uuid) (now : Nat) :
    System.machine.Inductive (System.new (Actor.spawn setup clock generation now)) Sound :=
  ⟨spawn_sound setup clock generation now, fun op h => h.step op⟩

def disconnects (effects : List Effect) : Nat :=
  effects.countP Effect.isDisconnect

structure Cleans (before after : System) (effects : List Effect) (acquired : Option Uuid) : Prop where
  most : disconnects effects ≤ 1
  /-- A cleanup follows the removal of the last lease, or of one that was just added. -/
  asked : disconnects effects ≠ 0 →
    after.actor.leases = ∅ ∧ (before.actor.leases ≠ ∅ ∨ acquired ≠ none)
  /-- The removal of the last lease is followed by a cleanup, unless a resume interrupts it. -/
  closed : before.actor.leases ≠ ∅ ∨ acquired ≠ none → after.actor.leases = ∅ →
    disconnects effects = 1 ∨ after.actor.disconnectResult = some (.error interrupted)
  /-- Nobody gets a lease in another way. -/
  opened : before.actor.leases = ∅ → acquired = none → after.actor.leases = ∅

theorem cleans_still {before after : System} (h : after.actor = before.actor) :
    Cleans before after [] none where
  most := Nat.zero_le 1
  asked hasked := absurd rfl hasked
  closed hopen hnone := by
    rw [h] at hnone
    rcases hopen with hsome | hnew
    · exact absurd hnone hsome
    · exact absurd rfl hnew
  opened hnone _ := by
    rw [h]
    exact hnone

theorem cleans_turned {system before : System} (h : Sound system) (op : Actor.Op)
    (hsame : before.actor = system.actor) {after : System}
    (hafter : after.actor = (system.turn op).2.actor) :
    Cleans before after (system.turn op).1 ({ system.actor with log := [] }.acquired op) := by
  obtain ⟨haccounts, -, -⟩ := h.turned op
  refine ⟨haccounts.most, ?_, ?_, ?_⟩
  · rw [hafter, hsame]
    exact haccounts.asked
  · rw [hafter, hsame]
    exact haccounts.closed
  · rw [hafter, hsame]
    intro hnone hnew
    by_contra hsome
    obtain ⟨lease, hmem⟩ := Finset.nonempty_iff_ne_empty.mpr hsome
    rcases haccounts.leases lease hmem with hbefore | hadded
    · change lease ∈ system.actor.leases at hbefore
      rw [hnone] at hbefore
      exact absurd hbefore (Finset.notMem_empty lease)
    · rw [hnew] at hadded
      cases hadded

theorem step_cleans {system : System} (h : Sound system) (op : Op) :
    Cleans system (System.machine.next system op) (System.machine.step system op).1
      (system.acquired op) := by
  cases op with
  | create lease epoch =>
    apply cleans_still
    change (system.create lease epoch).actor = system.actor
    unfold System.create
    split
    · rfl
    · dsimp only
      split <;> rfl
  | drop lease =>
    apply cleans_still
    change (system.drop lease).actor = system.actor
    unfold System.drop
    split <;> rfl
  | send lease epoch =>
    apply cleans_still
    change (system.send lease epoch).actor = system.actor
    unfold System.send
    split
    · rfl
    split
    · rfl
    split <;> rfl
  | ask queued =>
    apply cleans_still
    change (system.ask queued).actor = system.actor
    unfold System.ask
    split
    · rfl
    · split <;> rfl
  | shutdown =>
    apply cleans_still
    change system.askShutdown.actor = system.actor
    unfold System.askShutdown
    split <;> rfl
  | work work =>
    cases hclosed : system.closed with
    | true =>
      have hstep : System.machine.step system (.work work) = ([], system) := if_pos hclosed
      have hnone : system.acquired (.work work) = none := by
        cases work with
        | receive events now received receivedAt io drained => exact if_pos hclosed
        | _ => rfl
      unfold Machine.next
      rw [hstep, hnone]
      exact cleans_still rfl
    | false =>
      have hopen : ¬system.closed = true := by
        rw [hclosed]
        exact Bool.false_ne_true
      change Cleans system (system.work work).2 (system.work work).1 (system.acquired (.work work))
      unfold System.work
      rw [if_neg hopen]
      cases work with
      | woken events now => exact cleans_turned h (.woken events now) rfl rfl
      | poll events now io => exact cleans_turned h (.poll events now io) rfl rfl
      | receive events now received receivedAt io drained =>
        unfold System.receive System.acquired
        dsimp only
        rw [if_neg hopen]
        cases hqueue : system.queue with
        | nil => exact cleans_still rfl
        | cons item queue =>
          cases item with
          | command queued =>
            exact cleans_turned h (.command events now received receivedAt queued io)
              rfl rfl
          | shutdown =>
            exact cleans_turned h (.shutdown events now io.disconnect drained) rfl rfl

abbrev Step : Type :=
  Transition System Op (List Effect)

def Acquires (t : Step) : Prop :=
  t.before.acquired t.op ≠ none

def CleansUp (t : Step) : Prop :=
  disconnects t.result ≠ 0

structure Accounted (run : List Step) : Prop where
  owed : ∀ t ∈ run, ∀ lease ∈ t.after.actor.leases, t.after.Owed lease
  drained : ∀ t ∈ run, t.after.guards = ∅ → t.after.releasing = ∅ → t.after.queue = [] →
    t.after.actor.leases = ∅ ∧ t.after.actor.controller = none
  cleans : ∀ t ∈ run, Cleans t.before t.after t.result (t.before.acquired t.op)
  /-- Between two cleanups, or up to the second, a lease is added. -/
  once : ∀ {before mid after : List Step} {t t' : Step}, run = before ++ t :: mid ++ t' :: after →
    CleansUp t → CleansUp t' → ∃ step ∈ mid ++ [t'], Acquires step
  /-- A source that was never acquired is not cleaned up. -/
  acquired : ∀ {before after : List Step} {t : Step}, run = before ++ t :: after →
    CleansUp t → ∃ step ∈ before ++ [t], Acquires step

theorem Sound.owes {system : System} (h : Sound system) {lease : Uuid}
    (hmem : lease ∈ system.actor.leases) : system.Owed lease := by
  rcases h.owed lease hmem with hholder | hreleased
  · rcases Finset.mem_union.mp hholder with hguard | htask
    · exact .inl hguard
    · exact .inr (.inl htask)
  · exact .inr (.inr hreleased)

theorem Sound.drained {system : System} (h : Sound system) (hguards : system.guards = ∅)
    (hreleasing : system.releasing = ∅) (hqueue : system.queue = []) :
    system.actor.leases = ∅ ∧ system.actor.controller = none := by
  have hempty : system.actor.leases = ∅ := by
    by_contra hsome
    obtain ⟨lease, hmem⟩ := Finset.nonempty_iff_ne_empty.mpr hsome
    rcases h.owes hmem with hguard | htask | ⟨epoch, hreleased⟩
    · rw [hguards] at hguard
      exact absurd hguard (Finset.notMem_empty lease)
    · rw [hreleasing] at htask
      exact absurd htask (Finset.notMem_empty lease)
    · rw [hqueue] at hreleased
      cases hreleased
  exact ⟨hempty, Actor.controller_of_unleased h.held hempty⟩

theorem empty_until : Machine.Until System.machine Sound
    (fun system => system.actor.leases = ∅) Acquires := by
  intro system op h hnone
  by_cases hnew : system.acquired op = none
  · exact .inr ((step_cleans h op).opened hnone hnew)
  · exact .inl hnew

theorem held_since : Machine.Since System.machine Sound
    (fun system => system.actor.leases ≠ ∅) Acquires := by
  intro system op h hsome
  by_cases hnew : system.acquired op = none
  · exact .inr fun hnone => hsome ((step_cleans h op).opened hnone hnew)
  · exact .inl hnew

/-- The leases of a source, and the cleanups that follow them. -/
theorem leaseAccounting (setup : Setup) (clock : ResumeClock) (generation : Uuid) (now : Nat)
    (ops : List Op) :
    Accounted (System.machine.run (System.new (Actor.spawn setup clock generation now)) ops) := by
  have hinv := sound_inductive setup clock generation now
  refine ⟨?_, ?_, ?_, ?_, ?_⟩
  · intro t hmem lease hlease
    exact (hinv.mem_run hmem).2.1.owes hlease
  · intro t hmem hguards hreleasing hqueue
    exact (hinv.mem_run hmem).2.1.drained hguards hreleasing hqueue
  · intro t hmem
    obtain ⟨hbefore, -, hstep⟩ := hinv.mem_run hmem
    rw [hstep]
    exact step_cleans hbefore t.op
  · intro before mid after t t' hrun hcleans hcleans'
    by_cases hnew : Acquires t'
    · exact ⟨t', List.mem_append_right _ (List.mem_singleton_self t'), hnew⟩
    · obtain ⟨step, hmem, hstep⟩ := empty_until.between CleansUp
        (fun t => CleansUp t ∧ ¬Acquires t) hinv
        (fun system op h hasked => ((step_cleans h op).asked hasked).1)
        (fun system op h hnone hexcluded => by
          rcases ((step_cleans h op).asked hexcluded.1).2 with hsome | hadded
          · exact hsome hnone
          · exact hexcluded.2 hadded)
        hrun hcleans ⟨hcleans', hnew⟩
      exact ⟨step, List.mem_append_left _ hmem, hstep⟩
  · intro before after t hrun hcleans
    by_cases hnew : Acquires t
    · exact ⟨t, List.mem_append_right _ (List.mem_singleton_self t), hnew⟩
    · have hmem : t ∈ System.machine.run
          (System.new (Actor.spawn setup clock generation now)) ops := by
        rw [hrun]
        simp
      obtain ⟨hbefore, -, hstep⟩ := hinv.mem_run hmem
      have hasked := (step_cleans hbefore t.op).asked
      rw [hstep] at hcleans
      have hheld : t.before.actor.leases ≠ ∅ := by
        rcases (hasked hcleans).2 with hsome | hadded
        · exact hsome
        · exact absurd hadded hnew
      obtain ⟨step, hearlier, hstep⟩ := held_since.earlier hinv (fun h => h rfl) hrun hheld
      exact ⟨step, List.mem_append_left _ hearlier, hstep⟩

def plainSetup : Setup where
  source := 1
  revision := 1
  policy := {
    pollSeconds := 30
    attemptsPerCycle := 3
    initialBackoffSeconds := 0.5
    backoffMultiplier := 2
    backoffCapSeconds := 30 }
  connectionAllowance := 1000000000
  newV5 := fun id _ => id
  lastInstant := 1000000000000

/-- A command whose handshake succeeds, with some events of the host before its cleanup. -/
def quietIo (earlier : List ClockEvent) : Io where
  closed := false
  unsent := false
  now := 0
  connect := {
    started := 0
    asked := 0
    step := { earlier := [], ended := .answered (.ok true), during := [] }
    generation := 2 }
  request := { earlier := [], ended := .answered (.ok ()), during := [] }
  generation := 3
  settled := []
  settledAt := 0
  disconnect := {
    request := { earlier := earlier, ended := .answered (.ok ()), during := [] }
    generation := 4 }
  simulation := .ok ()

def received (earlier : List ClockEvent) : Op :=
  .work (.receive [] 0 [] 0 (quietIo earlier) (.ok ()))

/-- One lease comes and goes while the host resumes, then the next one comes. -/
def interruptedCleanup : List Op :=
  [.create 7 0, received [], .drop 7, .send 7 0, received [.notified], .create 8 1, received []]

def summary (run : List Step) : List (Nat × Nat) :=
  run.map fun t => (t.after.actor.leases.card, disconnects t.result)

/-- The last lease goes and the next one comes, and the backend is never asked to disconnect. -/
theorem cleanup_interrupted : summary (System.machine.run
      (System.new (Actor.spawn plainSetup ⟨0, false⟩ 1 0)) interruptedCleanup)
      = [(0, 0), (1, 0), (1, 0), (1, 0), (0, 0), (0, 0), (1, 0)] := by
  decide +kernel

end Regain.Hub.Leases
