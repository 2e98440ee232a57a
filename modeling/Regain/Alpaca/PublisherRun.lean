import Regain.Alpaca.PublisherTurns

/-!
# Sessions over runs

New threads and new sessions keep the invariants of the publisher, and so does every run.
-/

namespace Regain.Alpaca

open Lib
open Regain.Hub (Uuid)
open Std (TreeMap TreeSet)

variable {Timing : Type}

namespace Publisher

variable {publisher : Publisher Timing}

section

variable {thread : Thread Timing}

theorem spawn_threads {index : Nat} (hindex : index ≠ publisher.spawned) :
    (publisher.spawn thread).threads index = publisher.threads index := by
  simp [spawn, setThread, Function.update_of_ne hindex]

theorem spawn_new : (publisher.spawn thread).threads publisher.spawned = some thread := by
  simp [spawn, setThread]

theorem spawn_holding {other : Thread Timing} :
    (publisher.spawn thread).Holding other ↔ publisher.Holding other := by
  cases other <;> exact Iff.rfl

theorem Sound.spawn_changes (h : publisher.Sound) {index session : Nat} {held : Bool}
    (hchanges : publisher.Changes index session held) :
    (publisher.spawn thread).Changes index session held := by
  obtain ⟨change, stage, hthread, hheld⟩ := hchanges
  have hindex := h.spawned index _ hthread
  exact ⟨change, stage, by rw [spawn_threads (by omega)]; exact hthread, hheld⟩

/-- The gates are held by the threads that were there. -/
theorem Sound.spawn_held (h : publisher.Sound)
    (hfree : ∀ change session stage, thread = .change change session stage → stage.held = false)
    {index session : Nat} : (publisher.spawn thread).Changes index session true
      ↔ publisher.Changes index session true := by
  refine ⟨?_, h.spawn_changes⟩
  rintro ⟨change, stage, hthread, hheld⟩
  by_cases hindex : index = publisher.spawned
  · subst hindex
    rw [spawn_new] at hthread
    have hnot := hfree change session stage (Option.some.inj hthread)
    simp [hheld] at hnot
  · rw [spawn_threads hindex] at hthread
    exact ⟨change, stage, hthread, hheld⟩

theorem Sound.spawn (h : publisher.Sound)
    (hsessions : ∀ session ∈ thread.sessions, session < publisher.created)
    (hholding : publisher.Holding thread)
    (hfree : ∀ change session stage, thread = .change change session stage → stage.held = false) :
    (publisher.spawn thread).Sound := { h with
  spawned index other hother := by
    show index < publisher.spawned + 1
    by_cases hindex : index = publisher.spawned
    · omega
    · rw [spawn_threads hindex] at hother
      have hlt := h.spawned index other hother
      omega
  created index other hother session hsession := by
    show session < publisher.created
    by_cases hindex : index = publisher.spawned
    · subst hindex
      rw [spawn_new] at hother
      cases hother
      exact hsessions session hsession
    · rw [spawn_threads hindex] at hother
      exact h.created index other hother session hsession
  holding index other hother := by
    by_cases hindex : index = publisher.spawned
    · subst hindex
      rw [spawn_new] at hother
      cases hother
      exact spawn_holding.mpr hholding
    · rw [spawn_threads hindex] at hother
      exact spawn_holding.mpr (h.holding index other hother)
  unique session first second hfirst hsecond :=
    h.unique session first second ((h.spawn_held hfree).mp hfirst) ((h.spawn_held hfree).mp hsecond)
  locked session hsession := by
    simp only [h.spawn_held hfree]
    exact h.locked session hsession }

theorem Sound.spawn_present (h : publisher.Sound) (hpresent : publisher.Present) :
    (publisher.spawn thread).Present := by
  intro id session hid
  rcases hpresent id session hid with hleft | ⟨index, held, hchanges⟩
  · exact .inl hleft
  · exact .inr ⟨index, held, h.spawn_changes hchanges⟩

theorem Sound.spawn_marked (h : publisher.Sound) (hmarked : publisher.Marked) :
    (publisher.spawn thread).Marked := by
  intro session output hcreated hdisrupted hmark
  obtain ⟨index, change, stage, hthread, hmarking⟩ :=
    hmarked session output hcreated hdisrupted hmark
  have hindex := h.spawned index _ hthread
  exact ⟨index, change, stage, (spawn_threads (by omega)).trans hthread, hmarking⟩

end

section

variable {id : UInt32}

theorem create_other {session : Nat} (hsession : session < publisher.created) :
    (publisher.create id).sessions session = publisher.sessions session := by
  have hne : session ≠ publisher.created := by omega
  simp [create, setSession, Function.update_of_ne hne]

theorem create_new :
    (publisher.create id).sessions publisher.created = { owner := id } := by
  simp [create, setSession]

theorem create_clients (publisher : Publisher Timing) (id other : UInt32) :
    (publisher.create id).clients[other]?
      = if id = other then some publisher.created else publisher.clients[other]? := by
  simp [create, TreeMap.getElem?_insert]

/-- The sessions that a new session leaves in the map. -/
theorem create_left {session : Nat} (hsession : session < publisher.created)
    (h : publisher.Left session) : (publisher.create id).Left session := by
  intro hdisrupted houtputs hprogress other hother
  rw [create_other hsession] at hdisrupted houtputs hprogress
  rw [create_clients] at hother
  split at hother
  · cases hother
    omega
  · exact h hdisrupted houtputs hprogress other hother

theorem Sound.create (h : publisher.Sound)
    (hfew : publisher.clients.contains id = true ∨ publisher.clients.size < maxClients) :
    (publisher.create id).Sound := { h with
  created index thread hthread session hsession := by
    have hlt := h.created index thread hthread session hsession
    show session < publisher.created + 1
    omega
  prompt session := by
    by_cases hsession : session = publisher.created
    · subst hsession
      rw [create_new]
      intro client hclient
      cases hclient
    · have hother : (publisher.create id).sessions session = publisher.sessions session := by
        simp [Publisher.create, setSession, Function.update_of_ne hsession]
      rw [hother]
      exact h.prompt session
  mapped other session hother := by
    rw [create_clients] at hother
    split at hother
    · rename_i hsame
      cases hother
      rw [create_new]
      exact ⟨Nat.lt_succ_self _, hsame⟩
    · obtain ⟨hlt, howner⟩ := h.mapped other session hother
      rw [create_other hlt]
      exact ⟨Nat.lt_succ_of_lt hlt, howner⟩
  holding index thread hthread := by
    have hholding := h.holding index thread hthread
    have hcreated := h.created index thread hthread
    cases thread with
    | change change session stage =>
      have hlt := hcreated session (by simp [Thread.sessions])
      obtain ⟨howner, hfits, hleft⟩ := hholding
      refine ⟨by rw [create_other hlt]; exact howner, by rw [create_other hlt]; exact hfits, ?_⟩
      exact fun hrelease => create_left hlt (hleft hrelease)
    | reading session reading =>
      have hlt := hcreated session (by simp [Thread.sessions])
      intro htime
      rw [create_other hlt]
      exact hholding htime
    | closing session rest closing =>
      have hlt := hcreated session (by simp [Thread.sessions])
      intro hmarked
      rw [create_other hlt]
      exact hholding hmarked
  locked session hsession := by
    by_cases hnew : session = publisher.created
    · subst hnew
      rw [create_new]
      constructor
      · intro hgate
        cases hgate
      · rintro ⟨index, change, stage, hthread, -⟩
        have hlt := h.created index _ hthread publisher.created (by simp [Thread.sessions])
        omega
    · have hlt : session < publisher.created := by
        have hbound : session < publisher.created + 1 := hsession
        omega
      rw [create_other hlt]
      exact h.locked session hlt
  few := by
    show (publisher.clients.insert id publisher.created).size ≤ maxClients
    rw [TreeMap.size_insert]
    split
    · exact h.few
    · rename_i hnot
      rcases hfew with hmem | hlt
      · exact absurd hmem hnot
      · omega }

theorem Sound.create_present (h : publisher.Sound) (hpresent : publisher.Present)
    (change : Change) (stage : Stage Timing) :
    ((publisher.create id).spawn (.change change publisher.created stage)).Present := by
  intro other session hother
  by_cases hsession : session = publisher.created
  · subst hsession
    exact .inr ⟨publisher.spawned, stage.held, change, stage, spawn_new, rfl⟩
  · have hbefore : publisher.clients[other]? = some session := by
      have hclients : (publisher.create id).clients[other]? = some session := hother
      rw [create_clients] at hclients
      split at hclients
      · cases hclients
        exact absurd rfl hsession
      · exact hclients
    have hlt := (h.mapped other session hbefore).1
    rcases hpresent other session hbefore with hleft | ⟨index, held, change', stage', hthread, hheld⟩
    · exact .inl (create_left hlt hleft)
    · refine .inr ⟨index, held, change', stage', ?_, hheld⟩
      have hindex := h.spawned index _ hthread
      rw [spawn_threads (by show index ≠ publisher.spawned; omega)]
      exact hthread

theorem create_marked (hmarked : publisher.Marked) : (publisher.create id).Marked := by
  intro session output hcreated hdisrupted hmark
  by_cases hnew : session = publisher.created
  · subst hnew
    rw [create_new] at hmark
    simp at hmark
  · have hlt : session < publisher.created := by
      have hbound : session < publisher.created + 1 := hcreated
      omega
    rw [create_other hlt] at hdisrupted hmark
    exact hmarked session output hlt hdisrupted hmark

end

structure Kept (publisher : Publisher Timing) : Prop where
  sound : publisher.Sound
  present : publisher.Present
  marked : publisher.Marked

theorem Kept.spawn (h : publisher.Kept) {thread : Thread Timing}
    (hsessions : ∀ session ∈ thread.sessions, session < publisher.created)
    (hholding : publisher.Holding thread)
    (hfree : ∀ change session stage, thread = .change change session stage → stage.held = false) :
    (publisher.spawn thread).Kept :=
  ⟨h.sound.spawn hsessions hholding hfree, h.sound.spawn_present h.present,
    h.sound.spawn_marked h.marked⟩

theorem Kept.spawn_change (h : publisher.Kept) {change : Change} {session : Nat}
    {stage : Stage Timing} (hmapped : publisher.clients[change.id]? = some session)
    (hstage : stage = .found ∨ stage = .gate) :
    (publisher.spawn (.change change session stage)).Kept := by
  obtain ⟨hcreated, howner⟩ := h.sound.mapped change.id session hmapped
  refine h.spawn ?_ ?_ ?_
  · intro target htarget
    rw [List.mem_singleton.mp htarget]
    exact hcreated
  · rcases hstage with rfl | rfl
    · exact ⟨howner, trivial, fun hrelease => by cases hrelease⟩
    · exact ⟨howner, trivial, fun hrelease => by cases hrelease⟩
  · intro change' session' stage' hsame
    cases hsame
    rcases hstage with rfl | rfl <;> rfl

theorem Kept.create (h : publisher.Kept) {change : Change}
    (hfew : publisher.clients.contains change.id = true ∨ publisher.clients.size < maxClients) :
    ((publisher.create change.id).spawn (.change change publisher.created .gate)).Kept := by
  refine ⟨(h.sound.create hfew).spawn ?_ ?_ ?_, h.sound.create_present h.present change .gate,
    (h.sound.create hfew).spawn_marked (create_marked h.marked)⟩
  · intro target htarget
    rw [List.mem_singleton.mp htarget]
    exact Nat.lt_succ_self publisher.created
  · refine ⟨?_, trivial, fun hrelease => by cases hrelease⟩
    rw [create_new]
  · intro change' session' stage' hsame
    cases hsame
    rfl

theorem Kept.connection (h : publisher.Kept) (change : Change) (choice : Choice Timing) :
    (publisher.connection change choice).2.Kept := by
  unfold Publisher.connection
  by_cases hon : change.on = true
  · rw [if_pos hon]
    unfold reserve
    by_cases hopen : (!publisher.closed && choice.catalog) = true
    · rw [if_pos hopen]
      cases hclient : publisher.clients[change.id]? with
      | some session =>
        dsimp only
        by_cases hretired : (!(publisher.sessions session).retired) = true
        · rw [if_pos hretired]
          exact h.spawn_change hclient (.inr rfl)
        · rw [if_neg hretired]
          refine h.create (.inl ?_)
          rw [TreeMap.contains_eq_isSome_getElem?, hclient]
          rfl
      | none =>
        dsimp only
        by_cases hfew : publisher.clients.size < maxClients
        · rw [if_pos hfew]
          exact h.create (.inr hfew)
        · rw [if_neg hfew]
          exact h
    · rw [if_neg hopen]
      exact h
  · rw [if_neg hon]
    unfold existing
    cases hclient : publisher.clients[change.id]? with
    | some session => exact h.spawn_change hclient (.inl rfl)
    | none => exact h

theorem Kept.request (h : publisher.Kept) (id : UInt32) (call : Call) :
    (publisher.request id call).2.Kept := by
  unfold Publisher.request existing
  cases hclient : publisher.clients[id]? with
  | none => exact h
  | some session =>
    refine h.spawn ?_ ?_ ?_
    · intro target htarget
      rw [List.mem_singleton.mp htarget]
      exact (h.sound.mapped id session hclient).1
    · intro htime
      cases call <;> cases htime
    · intro change' session' stage' hsame
      cases hsame

theorem Kept.empty (h : publisher.Kept) : ({ publisher with closed := true, clients := ∅ } :
    Publisher Timing).Kept := by
  refine ⟨{ h.sound with
    mapped := fun id session hid => by simp at hid
    holding := ?_
    few := by simp }, ?_, h.marked⟩
  · intro index thread hthread
    have hholding := h.sound.holding index thread hthread
    cases thread with
    | change change session stage =>
      refine ⟨hholding.1, hholding.2.1, ?_⟩
      intro _ _ _ _ id
      simp
    | reading session reading => exact hholding
    | closing session rest closing => exact hholding
  · intro id session hid
    simp at hid

theorem Kept.close (h : publisher.Kept) (drained : List Nat) : (publisher.close drained).Kept := by
  unfold Publisher.close
  dsimp only
  by_cases hdrained : drained.Perm (publisher.clients.toList.map Prod.snd)
  · rw [if_pos hdrained]
    cases drained with
    | nil => exact h.empty
    | cons session rest =>
      refine h.empty.spawn ?_ ?_ ?_
      · intro target htarget
        obtain ⟨⟨id, target'⟩, hmem, rfl⟩ := List.mem_map.mp (hdrained.subset htarget)
        exact (h.sound.mapped id target' (TreeMap.mem_toList_iff_getElem?_eq_some.mp hmem)).1
      · intro hmarked
        cases hmarked
      · intro change' session' stage' hsame
        cases hsame
  · rw [if_neg hdrained]
    exact h

theorem kept_inductive : (machine : Machine (Publisher Timing) (Op Timing) (Option Effect)).Inductive
    new Kept where
  init := ⟨sound_new, fun id session hid => by simp [new] at hid, fun session output hcreated => by
    simp [new] at hcreated⟩
  step {publisher} op h := by
    cases op with
    | connection change choice => exact h.connection change choice
    | request id call => exact h.request id call
    | close drained => exact h.close drained
    | step index choice =>
      cases hthread : publisher.threads index with
      | none => simpa [Machine.next, machine, hthread] using h
      | some thread =>
        have hnext : machine.next publisher (.step index choice)
            = (publisher.advance index choice thread).2 := by
          simp [Machine.next, machine, hthread]
        rw [hnext]
        cases thread with
        | change change session stage =>
          rw [advance_change]
          have hturn := turn h.sound choice hthread
          exact ⟨hturn.sound h.sound, hturn.present h.sound h.present,
            marked_change h.sound h.marked choice hthread⟩
        | reading session reading =>
          have haside := aside_reading h.sound choice hthread
          exact ⟨haside.sound h.sound, haside.present h.present, haside.marked h.marked⟩
        | closing session rest closing =>
          have haside := aside_closing h.sound choice hthread
          exact ⟨haside.sound h.sound, haside.present h.present, haside.marked h.marked⟩
    | stop index =>
      cases hthread : publisher.threads index with
      | none => simpa [Machine.next, machine, hthread] using h
      | some thread =>
        have hnext : machine.next publisher (.stop index) = publisher.stop index thread := by
          simp [Machine.next, machine, hthread]
        rw [hnext]
        cases thread with
        | change change session stage =>
          unfold stop
          dsimp only
          by_cases hstop : stage.stoppable = true
          · rw [if_pos hstop]
            have hturn := turn_stop hstop hthread
            exact ⟨hturn.sound h.sound, hturn.present h.sound h.present,
              marked_stop h.marked (some (.finished (.error .stopped) false)) hthread⟩
          · rw [if_neg hstop]
            exact h
        | reading session reading => exact h
        | closing session rest closing => exact h
    | lost index =>
      have haside := aside_lose publisher index
      exact ⟨haside.sound h.sound, haside.present h.present, haside.marked h.marked⟩

end Publisher

end Regain.Alpaca
