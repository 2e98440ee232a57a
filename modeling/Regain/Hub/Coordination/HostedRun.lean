import Regain.Hub.Coordination.Hosted

/-!
# Runs of hosted group operations

An operation's status only changes until a terminal phase is published, and the guard goes through
its stages in order. The coordinator replaces an entry only when its operation is done with a known
result, so only the latest entry of a group can be active.
-/

namespace Regain.Hub

open Lib
open Std (TreeMap)

namespace Hosting

variable {kind : GroupKind}

def Stage.guarded : Stage kind → Bool
  | .closing => false
  | .finished => false
  | _ => true

def Stage.settled : Stage kind → Bool
  | .releasing => true
  | .closing => true
  | .finished => true
  | _ => false

def Stage.ended : Stage kind → Bool
  | .finished => true
  | _ => false

theorem Stage.live_spec {stage : Stage kind} (hlive : stage.live = true) :
    stage.guarded = true ∧ stage.ended = false ∧ stage.settled = false := by
  cases stage <;> first | exact ⟨rfl, rfl, rfl⟩ | cases hlive

theorem Stage.settled_of_ended {stage : Stage kind} (hended : stage.ended = true) :
    stage.settled = true ∧ stage.guarded = false := by
  cases stage <;> first | exact ⟨rfl, rfl⟩ | cases hended

namespace Hosted

/-! ## One operation -/

variable {hosted : Hosted kind}

/-- Nobody knows what the operation did, or nobody will: its task is over and published no
terminal phase, or the failure that it published is uncertain, or the task of its group was
lost. -/
def ResultUnknown (hosted : Hosted kind) : Prop :=
  hosted.stage.live = false ∧ hosted.status.phase.terminal = false
    ∨ hosted.status.uncertain = true
    ∨ ∃ running, hosted.running = some running ∧ running.task = .lost

/-- What was published: numbered values of one operation, of which only the last one can be
terminal. -/
structure Recorded (hosted : Hosted kind) : Prop where
  last : ∃ earlier, hosted.published = earlier ++ [hosted.status]
    ∧ ∀ status ∈ earlier, status.phase.terminal = false
  counted : hosted.status.sequence = hosted.published.length
  numbered : hosted.published.map Status.sequence = List.range' 1 hosted.published.length
  same : ∀ status ∈ hosted.published, status.operation = hosted.status.operation
    ∧ status.group = hosted.group

def tasks (hosted : Hosted kind) : Option (GroupTask × Bool) :=
  hosted.running.map fun running => (running.task, running.retained)

theorem mem_tasks {before after : Hosted kind} (htasks : after.tasks = before.tasks)
    {running : Running kind} (hsome : after.running = some running) :
    ∃ group, before.running = some group ∧ group.task = running.task
      ∧ group.retained = running.retained := by
  simp only [tasks, hsome, Option.map_some] at htasks
  obtain ⟨group, hgroup, heq⟩ := Option.map_eq_some_iff.mp htasks.symm
  obtain ⟨htask, hretained⟩ := Prod.mk.inj heq
  exact ⟨group, hgroup, htask, hretained⟩

def Placed (running : Option (Running kind)) : Stage kind → Prop
  | .connecting _ => running = none
  | .failing error => ∀ group, running = some group → error = .uncertain
  | .publishing result =>
    kind.terminal result = true → ∀ group, running = some group → group.task = .finished
  | _ => True

/-- How the guard stands at each stage, and what becomes of the running group. -/
structure Staged (hosted : Hosted kind) : Prop where
  unsettled : hosted.stage.live = true → hosted.status.phase.terminal = false
  held : hosted.held = hosted.stage.guarded
  done : hosted.done = hosted.stage.ended
  settled : hosted.stage.settled = true → hosted.status.phase.terminal = true
  placed : Placed hosted.running hosted.stage
  known : ∀ running, hosted.running = some running → hosted.status.phase.terminal = true →
    hosted.status.uncertain = true ∨ running.task = .finished
  released : ∀ running, hosted.running = some running → running.task = .finished →
    running.retained = false

structure Sound (hosted : Hosted kind) : Prop extends Recorded hosted, Staged hosted

structure Grows (before after : Hosted kind) : Prop where
  group : after.group = before.group
  operation : after.status.operation = before.status.operation
  published : before.published <+: after.published
  kept : before.status.phase.terminal = true →
    after.status = before.status ∧ after.published = before.published
  done : before.done = true → after.done = true
  unknown : before.ResultUnknown → after.ResultUnknown

theorem Grows.refl (hosted : Hosted kind) : Grows hosted hosted :=
  ⟨rfl, rfl, List.prefix_refl _, fun _ => ⟨rfl, rfl⟩, id, id⟩

theorem Grows.trans {first second third : Hosted kind} (h : Grows first second)
    (h' : Grows second third) : Grows first third where
  group := h'.group.trans h.group
  operation := h'.operation.trans h.operation
  published := h.published.trans h'.published
  kept := by
    intro hterminal
    obtain ⟨hstatus, hpublished⟩ := h.kept hterminal
    obtain ⟨hstatus', hpublished'⟩ := h'.kept (by rw [hstatus]; exact hterminal)
    exact ⟨hstatus'.trans hstatus, hpublished'.trans hpublished⟩
  done := fun hdone => h'.done (h.done hdone)
  unknown := fun hunknown => h'.unknown (h.unknown hunknown)

/-! ## Publishing -/

theorem Sound.quiet (h : hosted.Sound) {after : Hosted kind} (hgroup : after.group = hosted.group)
    (hstatus : after.status = hosted.status) (hpublished : after.published = hosted.published)
    (hstaged : after.Staged) (hdone : hosted.done = true → after.done = true)
    (hunknown : hosted.ResultUnknown → after.ResultUnknown) : after.Sound ∧ Grows hosted after := by
  have hrecorded : after.Recorded := by
    constructor
    · rw [hstatus, hpublished]
      exact h.last
    · rw [hstatus, hpublished]
      exact h.counted
    · rw [hpublished]
      exact h.numbered
    · rw [hstatus, hpublished, hgroup]
      exact h.same
  refine ⟨⟨hrecorded, hstaged⟩, hgroup, by rw [hstatus], ?_, ?_, hdone, hunknown⟩
  · rw [hpublished]
  · exact fun _ => ⟨hstatus, hpublished⟩

theorem Sound.publish (h : hosted.Sound) (hopen : hosted.status.phase.terminal = false)
    {after : Hosted kind} (hgroup : after.group = hosted.group)
    (hpublished : after.published = hosted.published ++ [after.status])
    (hsequence : after.status.sequence = hosted.status.sequence + 1)
    (hoperation : after.status.operation = hosted.status.operation)
    (hsame : after.status.group = hosted.status.group) (hstaged : after.Staged)
    (hdone : hosted.done = true → after.done = true)
    (hunknown : hosted.ResultUnknown → after.ResultUnknown) : after.Sound ∧ Grows hosted after := by
  obtain ⟨earlier, hlast, hearlier⟩ := h.last
  have hmem : hosted.status ∈ hosted.published := by
    rw [hlast]
    simp
  have hrecorded : after.Recorded := by
    constructor
    · refine ⟨hosted.published, hpublished, ?_⟩
      intro status hstatus
      rw [hlast, List.mem_append, List.mem_singleton] at hstatus
      rcases hstatus with hstatus | rfl
      · exact hearlier status hstatus
      · exact hopen
    · rw [hsequence, hpublished, List.length_append, List.length_singleton, h.counted]
    · rw [hpublished, List.map_append, h.numbered, List.length_append, List.length_singleton,
        List.range'_concat, List.map_singleton, hsequence, h.counted]
      simp [Nat.add_comm]
    · intro status hstatus
      rw [hpublished, List.mem_append, List.mem_singleton] at hstatus
      rw [hoperation, hgroup]
      rcases hstatus with hstatus | rfl
      · exact h.same status hstatus
      · exact ⟨hoperation, hsame.trans (h.same _ hmem).2⟩
  refine ⟨⟨hrecorded, hstaged⟩, hgroup, hoperation, ?_, ?_, hdone, hunknown⟩
  · rw [hpublished]
    exact List.prefix_append _ _
  · intro hterminal
    rw [hopen] at hterminal
    cases hterminal

theorem Staged.of_live (hlive : hosted.stage.live = true)
    (hopen : hosted.status.phase.terminal = false) (hheld : hosted.held = true)
    (hdone : hosted.done = false) (hplaced : Placed hosted.running hosted.stage)
    (hreleased : ∀ running, hosted.running = some running → running.task = .finished →
      running.retained = false) : hosted.Staged where
  unsettled := fun _ => hopen
  held := hheld.trans (Stage.live_spec hlive).1.symm
  done := hdone.trans (Stage.live_spec hlive).2.1.symm
  settled := by
    intro hsettled
    rw [(Stage.live_spec hlive).2.2] at hsettled
    cases hsettled
  placed := hplaced
  known := by
    intro running _ hterminal
    rw [hopen] at hterminal
    cases hterminal
  released := hreleased

theorem Sound.holds (h : hosted.Sound) (hlive : hosted.stage.live = true) :
    hosted.held = true ∧ hosted.done = false := by
  obtain ⟨hguarded, hended, -⟩ := Stage.live_spec hlive
  exact ⟨h.held.trans hguarded, h.done.trans hended⟩

theorem uncertain_terminal {status : Status kind} (h : status.uncertain = true) :
    status.phase.terminal = true := by
  simp only [Status.uncertain, Bool.and_eq_true, beq_iff_eq] at h
  rw [h.1]
  rfl

theorem Sound.lost_of_unknown (h : hosted.Sound) (hlive : hosted.stage.live = true)
    (hunknown : hosted.ResultUnknown) :
    ∃ running, hosted.running = some running ∧ running.task = .lost := by
  rcases hunknown with ⟨hdead, -⟩ | huncertain | hlost
  · rw [hlive] at hdead
    cases hdead
  · have hterminal := uncertain_terminal huncertain
    rw [h.unsettled hlive] at hterminal
    cases hterminal
  · exact hlost

theorem Sound.shifted (h : hosted.Sound) {after : Hosted kind} (hgroup : after.group = hosted.group)
    (hstatus : after.status = hosted.status) (hpublished : after.published = hosted.published)
    (htasks : after.tasks = hosted.tasks) (hlive : after.stage.live = true → hosted.stage.live = true)
    (hheld : after.held = after.stage.guarded) (hdone : after.done = after.stage.ended)
    (hmono : hosted.done = true → after.done = true)
    (hsettled : after.stage.settled = true → hosted.status.phase.terminal = true)
    (hplaced : Placed after.running after.stage) : after.Sound ∧ Grows hosted after := by
  refine h.quiet hgroup hstatus hpublished ?_ hmono ?_
  · constructor
    · rw [hstatus]
      exact fun hafter => h.unsettled (hlive hafter)
    · exact hheld
    · exact hdone
    · rw [hstatus]
      exact hsettled
    · exact hplaced
    · intro running hsome hterminal
      obtain ⟨group, hgroup, htask, -⟩ := mem_tasks htasks hsome
      rw [hstatus] at hterminal ⊢
      rw [← htask]
      exact h.known group hgroup hterminal
    · intro running hsome hfinished
      obtain ⟨group, hgroup, htask, hretained⟩ := mem_tasks htasks hsome
      rw [← hretained]
      exact h.released group hgroup (htask.trans hfinished)
  · rintro (⟨hdead, hopen⟩ | huncertain | ⟨running, hsome, hlost⟩)
    · refine .inl ⟨?_, by rw [hstatus]; exact hopen⟩
      by_contra hafter
      rw [hlive (by simpa using hafter)] at hdead
      cases hdead
    · exact .inr (.inl (by rw [hstatus]; exact huncertain))
    · obtain ⟨group, hsome', htask, -⟩ := mem_tasks htasks.symm hsome
      exact .inr (.inr ⟨group, hsome', htask.trans hlost⟩)

theorem Sound.moved (h : hosted.Sound) (hlive : hosted.stage.live = true) {stage : Stage kind}
    (hstage : stage.live = true) (hplaced : Placed hosted.running stage) :
    (hosted.at_ stage).Sound ∧ Grows hosted (hosted.at_ stage) := by
  obtain ⟨hheld, hdone⟩ := h.holds hlive
  obtain ⟨hguarded, hended, hunsettled⟩ := Stage.live_spec hstage
  refine h.shifted rfl rfl rfl rfl (fun _ => hlive) (hheld.trans hguarded.symm)
    (hdone.trans hended.symm) id ?_ hplaced
  intro hsettled
  have hsettled' : stage.settled = true := hsettled
  rw [hunsettled] at hsettled'
  cases hsettled'

theorem Sound.unmoved (h : hosted.Sound) : hosted.Sound ∧ Grows hosted hosted :=
  ⟨h, .refl hosted⟩

theorem Sound.unconnected (h : hosted.Sound) {sessions : List kind.Session}
    (hstage : hosted.stage = .connecting sessions) : hosted.running = none := by
  have hplaced := h.placed
  rwa [hstage] at hplaced

/-! ## Turns -/

theorem launch_sound (h : hosted.Sound) {sessions : List kind.Session}
    (hstage : hosted.stage = .connecting sessions) (connected : List kind.Session) :
    (hosted.launch connected).Sound ∧ Grows hosted (hosted.launch connected) := by
  have hlive : hosted.stage.live = true := by
    rw [hstage]
    rfl
  have hrunning := h.unconnected hstage
  obtain ⟨hheld, hdone⟩ := h.holds hlive
  unfold launch
  split
  · refine h.moved hlive rfl ?_
    intro running hsome
    rw [hrunning] at hsome
    cases hsome
  · refine h.quiet rfl rfl rfl ?_ id ?_
    · refine .of_live rfl (h.unsettled hlive) hheld hdone trivial ?_
      intro running hsome hfinished
      cases hsome
      cases hfinished
    · intro hunknown
      obtain ⟨running, hsome, -⟩ := h.lost_of_unknown hlive hunknown
      rw [hrunning] at hsome
      cases hsome

theorem Sound.returned (h : hosted.Sound) (hlive : hosted.stage.live = true)
    (change : Status kind → Status kind)
    (hsequence : (hosted.update change).status.sequence = hosted.status.sequence + 1)
    (hoperation : (hosted.update change).status.operation = hosted.status.operation)
    (hsame : (hosted.update change).status.group = hosted.status.group)
    (hknown : ∀ running, hosted.running = some running →
      (hosted.update change).status.phase.terminal = true →
      (hosted.update change).status.uncertain = true ∨ running.task = .finished) :
    ((hosted.update change).at_ .returned).Sound
      ∧ Grows hosted ((hosted.update change).at_ .returned) := by
  obtain ⟨hheld, hdone⟩ := h.holds hlive
  refine h.publish (h.unsettled hlive) rfl rfl hsequence hoperation hsame ?_ id ?_
  · constructor
    · intro hreturned
      cases hreturned
    · exact hheld
    · exact hdone
    · intro hreturned
      cases hreturned
    · trivial
    · exact hknown
    · exact h.released
  · intro hunknown
    exact .inr (.inr (h.lost_of_unknown hlive hunknown))

theorem connect_sound (h : hosted.Sound) {sessions : List kind.Session}
    (hstage : hosted.stage = .connecting sessions) (binding : GroupBinding) (poll : Poll kind) :
    (hosted.connect sessions binding poll).Sound
      ∧ Grows hosted (hosted.connect sessions binding poll) := by
  have hlive : hosted.stage.live = true := by
    rw [hstage]
    rfl
  have hrunning := h.unconnected hstage
  obtain ⟨hheld, hdone⟩ := h.holds hlive
  have hnone : ∀ running, hosted.running = some running → False := by
    intro running hsome
    rw [hrunning] at hsome
    cases hsome
  unfold connect
  split
  · exact h.returned hlive _ rfl rfl rfl fun running hsome => (hnone running hsome).elim
  · split
    · exact h.returned hlive _ rfl rfl rfl fun running hsome => (hnone running hsome).elim
    · split
      · exact h.unmoved
      · exact h.moved hlive rfl hrunning
      · refine h.publish (h.unsettled hlive) rfl rfl rfl rfl rfl ?_ id ?_
        · refine .of_live rfl (h.unsettled hlive) hheld hdone ?_ h.released
          exact fun running hsome => (hnone running hsome).elim
        · intro hunknown
          exact .inr (.inr (h.lost_of_unknown hlive hunknown))

theorem look_sound (h : hosted.Sound) (hlive : hosted.stage.live = true) :
    hosted.look.Sound ∧ Grows hosted hosted.look := by
  unfold look
  split
  · exact h.unmoved
  · exact h.moved hlive rfl trivial

theorem reported_sound (h : hosted.Sound) (hlive : hosted.stage.live = true)
    (result : kind.Result) :
    (hosted.at_ (if kind.terminal result then .settling result else .publishing result)).Sound
      ∧ Grows hosted
        (hosted.at_ (if kind.terminal result then .settling result else .publishing result)) := by
  by_cases hterminal : kind.terminal result = true
  · rw [if_pos hterminal]
    exact h.moved hlive rfl trivial
  · rw [if_neg hterminal]
    exact h.moved hlive rfl fun hother => absurd hother hterminal

theorem settle_sound (h : hosted.Sound) (hlive : hosted.stage.live = true) (result : kind.Result) :
    (hosted.settle result).Sound ∧ Grows hosted (hosted.settle result) := by
  unfold settle
  split
  · exact h.unmoved
  · next running hrunning =>
    split
    · exact h.unmoved
    · next htask =>
      refine h.moved hlive rfl ?_
      intro _ other hsome
      rw [hrunning] at hsome
      cases hsome
      exact htask
    · exact h.moved hlive rfl fun _ _ => rfl

theorem publishing_sound (h : hosted.Sound) {result : kind.Result}
    (hstage : hosted.stage = .publishing result) :
    let after := (hosted.update fun status =>
      { status with phase := kind.phase result, result := some result }).at_
        (if kind.terminal result then .returned else .waiting)
    after.Sound ∧ Grows hosted after := by
  have hlive : hosted.stage.live = true := by
    rw [hstage]
    rfl
  obtain ⟨hheld, hdone⟩ := h.holds hlive
  have hplaced : Placed hosted.running (.publishing result) := hstage ▸ h.placed
  dsimp only
  by_cases hterminal : kind.terminal result = true
  · rw [if_pos hterminal]
    refine h.returned hlive _ rfl rfl rfl ?_
    intro running hsome _
    exact .inr (hplaced hterminal running hsome)
  · rw [if_neg hterminal]
    refine h.publish (h.unsettled hlive) rfl rfl rfl rfl rfl ?_ id ?_
    · refine .of_live rfl ?_ hheld hdone trivial h.released
      have hphase : (kind.phase result).terminal = false := by
        rw [kind.phase_terminal]
        simpa using hterminal
      exact hphase
    · intro hunknown
      exact .inr (.inr (h.lost_of_unknown hlive hunknown))

theorem changed_sound (h : hosted.Sound) (hlive : hosted.stage.live = true) :
    hosted.changed.Sound ∧ Grows hosted hosted.changed := by
  obtain ⟨hheld, hdone⟩ := h.holds hlive
  unfold changed
  split
  · exact h.unmoved
  · next running hrunning =>
    dsimp only
    split
    · refine h.quiet rfl rfl rfl ?_ id ?_
      · refine .of_live rfl (h.unsettled hlive) hheld hdone trivial ?_
        intro other hsome hfinished
        cases hsome
        exact h.released running hrunning hfinished
      · intro hunknown
        obtain ⟨other, hsome, hlost⟩ := h.lost_of_unknown hlive hunknown
        rw [hrunning] at hsome
        cases hsome
        exact .inr (.inr ⟨_, rfl, hlost⟩)
    · split
      · exact h.unmoved
      · exact h.moved hlive rfl fun _ _ => rfl

theorem failing_sound (h : hosted.Sound) {error : SourceError}
    (hstage : hosted.stage = .failing error) :
    let after := (hosted.update fun status =>
      { status with phase := .failed, error := some error }).at_ .returned
    after.Sound ∧ Grows hosted after := by
  have hlive : hosted.stage.live = true := by
    rw [hstage]
    rfl
  have hplaced : Placed hosted.running (.failing error) := hstage ▸ h.placed
  refine h.returned hlive _ rfl rfl rfl ?_
  intro running hsome _
  have huncertain := hplaced running hsome
  exact .inl (by simp [update, Status.uncertain, huncertain, SourceError.uncertain,
    SourceError.new])

theorem cancel_tasks : hosted.cancel.tasks = hosted.tasks := by
  simp [cancel, tasks, Function.comp_def]

theorem Placed.cancelled {stage : Stage kind} (hplaced : Placed hosted.running stage) :
    Placed hosted.cancel.running stage := by
  have hmem := fun running => @mem_tasks kind hosted hosted.cancel cancel_tasks running
  cases stage with
  | connecting sessions =>
    have hnone : hosted.running = none := hplaced
    simp [Placed, cancel, hnone]
  | failing error =>
    intro running hsome
    obtain ⟨group, hgroup, -⟩ := hmem running hsome
    exact hplaced group hgroup
  | publishing result =>
    intro hterminal running hsome
    obtain ⟨group, hgroup, htask, -⟩ := hmem running hsome
    exact htask.symm.trans (hplaced hterminal group hgroup)
  | _ => trivial

theorem cancel_sound (h : hosted.Sound) : hosted.cancel.Sound ∧ Grows hosted hosted.cancel :=
  h.shifted rfl rfl rfl cancel_tasks id h.held h.done id h.settled h.placed.cancelled

theorem abort_sound (h : hosted.Sound) : hosted.abort.Sound ∧ Grows hosted hosted.abort := by
  unfold abort
  split
  · next hlive =>
    obtain ⟨hheld, hdone⟩ := h.holds hlive
    refine h.shifted rfl rfl rfl rfl (fun _ => hlive) hheld hdone id ?_ trivial
    intro hsettled
    cases hsettled
  · exact h.unmoved

theorem returned_sound (h : hosted.Sound) (hstage : hosted.stage = .returned) :
    (hosted.cancel.at_ .retiring).Sound ∧ Grows hosted (hosted.cancel.at_ .retiring) := by
  have hheld := h.held
  have hdone := h.done
  rw [hstage] at hheld hdone
  refine h.shifted rfl rfl rfl cancel_tasks ?_ hheld hdone id ?_ trivial
  · intro hlive
    cases hlive
  · intro hsettled
    cases hsettled

theorem retiring_sound (h : hosted.Sound) (hstage : hosted.stage = .retiring) :
    let after := if hosted.status.phase.terminal then hosted.at_ .releasing
      else (hosted.update fun status =>
        { status with phase := .failed, error := some .uncertain }).at_ .releasing
    after.Sound ∧ Grows hosted after := by
  have hheld := h.held
  have hdone := h.done
  rw [hstage] at hheld hdone
  dsimp only
  split
  · next hterminal =>
    refine h.shifted rfl rfl rfl rfl ?_ hheld hdone id (fun _ => hterminal) trivial
    intro hlive
    cases hlive
  · next hopen =>
    refine h.publish (by simpa using hopen) rfl rfl rfl rfl rfl ?_ id ?_
    · constructor
      · intro hlive
        cases hlive
      · exact hheld
      · exact hdone
      · exact fun _ => rfl
      · trivial
      · exact fun _ _ _ => .inl rfl
      · exact h.released
    · exact fun _ => .inr (.inl rfl)

theorem releasing_sound (h : hosted.Sound) (hstage : hosted.stage = .releasing) :
    ({ hosted with held := false, stage := .closing } : Hosted kind).Sound
      ∧ Grows hosted { hosted with held := false, stage := .closing } := by
  have hdone := h.done
  have hsettled := h.settled
  rw [hstage] at hdone hsettled
  refine h.shifted rfl rfl rfl rfl ?_ rfl hdone id hsettled trivial
  intro hlive
  cases hlive

theorem closing_sound (h : hosted.Sound) (hstage : hosted.stage = .closing) :
    ({ hosted with done := true, stage := .finished } : Hosted kind).Sound
      ∧ Grows hosted { hosted with done := true, stage := .finished } := by
  have hheld := h.held
  have hsettled := h.settled
  rw [hstage] at hheld hsettled
  refine h.shifted rfl rfl rfl rfl ?_ hheld rfl (fun _ => rfl) hsettled trivial
  intro hlive
  cases hlive

theorem poll_sound (h : hosted.Sound) (poll : Poll kind) :
    (hosted.poll poll).Sound ∧ Grows hosted (hosted.poll poll) := by
  unfold Hosted.poll
  split
  · next sessions hstage =>
    split
    · exact launch_sound h hstage sessions
    · exact connect_sound h hstage _ poll
  · next hstage => exact look_sound h (by rw [hstage]; rfl)
  · next result hstage => exact reported_sound h (by rw [hstage]; rfl) result
  · next result hstage => exact settle_sound h (by rw [hstage]; rfl) result
  · next result hstage => exact publishing_sound h hstage
  · next hstage => exact changed_sound h (by rw [hstage]; rfl)
  · next error hstage => exact failing_sound h hstage
  · next hstage => exact returned_sound h hstage
  · next hstage => exact retiring_sound h hstage
  · next hstage => exact releasing_sound h hstage
  · next hstage => exact closing_sound h hstage
  · exact h.unmoved

theorem group_sound (h : hosted.Sound) {step : Running kind → Running kind}
    (hstep : ∀ running, (step running).task = .finished → running.task = .working →
      (step running).retained = false) :
    (hosted.group_ step).Sound ∧ Grows hosted (hosted.group_ step) := by
  have hback : ∀ running, (hosted.group_ step).running = some running →
      ∃ group, hosted.running = some group
        ∧ (group.task ≠ .working ∧ running = group
          ∨ group.task = .working ∧ running = step group) := by
    intro running hsome
    obtain ⟨group, hgroup, heq⟩ := Option.map_eq_some_iff.mp hsome
    refine ⟨group, hgroup, ?_⟩
    by_cases hworking : group.task = .working
    · rw [if_pos hworking] at heq
      exact .inr ⟨hworking, heq.symm⟩
    · rw [if_neg hworking] at heq
      exact .inl ⟨hworking, heq.symm⟩
  refine h.quiet rfl rfl rfl ?_ id ?_
  · constructor
    · exact h.unsettled
    · exact h.held
    · exact h.done
    · exact h.settled
    · have hplaced := h.placed
      change Placed _ hosted.stage
      cases hstage : hosted.stage with
      | connecting sessions =>
        have hnone := h.unconnected hstage
        simp [Placed, group_, hnone]
      | failing error =>
        rw [hstage] at hplaced
        intro running hsome
        obtain ⟨group, hgroup, -⟩ := hback running hsome
        exact hplaced group hgroup
      | publishing result =>
        rw [hstage] at hplaced
        intro hterminal running hsome
        obtain ⟨group, hgroup, ⟨-, rfl⟩ | ⟨hworking, -⟩⟩ := hback running hsome
        · exact hplaced hterminal _ hgroup
        · rw [hplaced hterminal group hgroup] at hworking
          cases hworking
      | _ => trivial
    · intro running hsome hterminal
      obtain ⟨group, hgroup, ⟨-, rfl⟩ | ⟨hworking, -⟩⟩ := hback running hsome
      · exact h.known _ hgroup hterminal
      · rcases h.known group hgroup hterminal with huncertain | hfinished
        · exact .inl huncertain
        · rw [hfinished] at hworking
          cases hworking
    · intro running hsome hfinished
      obtain ⟨group, hgroup, ⟨-, rfl⟩ | ⟨hworking, rfl⟩⟩ := hback running hsome
      · exact h.released _ hgroup hfinished
      · exact hstep group hfinished hworking
  · rintro (hended | huncertain | ⟨group, hgroup, hlost⟩)
    · exact .inl hended
    · exact .inr (.inl huncertain)
    · refine .inr (.inr ⟨group, ?_, hlost⟩)
      simp [group_, hgroup, hlost]

theorem apply_sound (h : hosted.Sound) (event : Event kind) :
    (hosted.apply event).Sound ∧ Grows hosted (hosted.apply event) := by
  cases event with
  | poll poll => exact poll_sound h poll
  | abort => exact abort_sound h
  | wake wake =>
    refine group_sound h ?_
    intro running hfinished hworking
    rw [show running.task = .finished from hfinished] at hworking
    cases hworking
  | expire =>
    refine group_sound h ?_
    intro running hfinished hworking
    rw [show running.task = .finished from hfinished] at hworking
    cases hworking
  | finish =>
    refine group_sound h ?_
    intro running hfinished hworking
    split at hfinished
    · next hended => rw [if_pos hended]
    · rw [hworking] at hfinished
      cases hfinished
  | lose => exact group_sound h fun _ _ _ => rfl

theorem hosted_sound (definition : Definition kind) (start : Start kind) :
    (Coordinator.hosted definition start).Sound where
  last := ⟨[], rfl, by simp⟩
  counted := rfl
  numbered := rfl
  same := by
    intro status hmem
    rw [List.mem_singleton.mp hmem]
    exact ⟨rfl, rfl⟩
  unsettled := fun _ => rfl
  held := rfl
  done := rfl
  settled := by
    intro hsettled
    cases hsettled
  placed := rfl
  known := by
    intro running hsome
    cases hsome
  released := by
    intro running hsome
    cases hsome

theorem Sound.terminal_of_done (h : hosted.Sound) (hdone : hosted.done = true) :
    hosted.status.phase.terminal = true ∧ hosted.held = false := by
  obtain ⟨hsettled, hguarded⟩ := Stage.settled_of_ended (h.done.symm.trans hdone)
  exact ⟨h.settled hsettled, h.held.trans hguarded⟩

theorem Sound.uncertain_of_done (h : hosted.Sound) (hdone : hosted.done = true)
    (hunknown : hosted.ResultUnknown) : hosted.status.uncertain = true := by
  have hterminal := (h.terminal_of_done hdone).1
  rcases hunknown with ⟨-, hopen⟩ | huncertain | ⟨running, hsome, hlost⟩
  · rw [hterminal] at hopen
    cases hopen
  · exact huncertain
  · rcases h.known running hsome hterminal with huncertain | hfinished
    · exact huncertain
    · rw [hlost] at hfinished
      cases hfinished

theorem launch_done (connected : List kind.Session) :
    (hosted.launch connected).done = hosted.done := by
  unfold launch
  split <;> rfl

theorem connect_done (sessions : List kind.Session) (binding : GroupBinding) (poll : Poll kind) :
    (hosted.connect sessions binding poll).done = hosted.done := by
  unfold connect
  split
  · rfl
  · split
    · rfl
    · split <;> rfl

theorem settle_done (result : kind.Result) : (hosted.settle result).done = hosted.done := by
  unfold settle
  split
  · rfl
  · split <;> rfl

theorem changed_done : hosted.changed.done = hosted.done := by
  unfold changed
  split
  · rfl
  · dsimp only
    split
    · rfl
    · split <;> rfl

theorem look_done : hosted.look.done = hosted.done := by
  unfold look
  split <;> rfl

theorem apply_done {event : Event kind} (hopen : hosted.done = false)
    (hdone : (hosted.apply event).done = true) : hosted.stage = .closing := by
  by_contra hstage
  have hsame : (hosted.apply event).done = hosted.done := by
    cases event with
    | poll poll =>
      change (hosted.poll poll).done = hosted.done
      unfold Hosted.poll
      split
      · split
        · exact launch_done _
        · exact connect_done _ _ _
      · exact look_done
      · rfl
      · exact settle_done _
      · rfl
      · exact changed_done
      · rfl
      · rfl
      · split <;> rfl
      · rfl
      · next hclosing => exact absurd hclosing hstage
      · rfl
    | abort =>
      change hosted.abort.done = hosted.done
      unfold abort
      split <;> rfl
    | _ => rfl
  rw [hsame, hopen] at hdone
  cases hdone

end Hosted

namespace Coordinator

/-! ## The coordinator -/

variable {before after coordinator : Coordinator kind}

/-- The stop waits for every operation that is not done, and there will be no other. -/
def Waits (coordinator : Coordinator kind) (stop : Stop) : Prop :=
  coordinator.closed = true ∧ ∀ (index : Nat) (hosted : Hosted kind), coordinator.operations[index]? = some hosted →
    hosted.done = true ∨ index ∈ stop.waiting

def Found (coordinator : Coordinator kind) (call : Call kind) : Prop :=
  ∃ hosted, coordinator.operations[call.index]? = some hosted ∧ hosted.group = call.group
    ∧ ∀ operation, call.request.operation = some operation → hosted.status.operation = operation

/-- An operation is the entry of its group, or it is done with a known result. -/
structure Inv (coordinator : Coordinator kind) : Prop where
  sound : ∀ hosted ∈ coordinator.operations, hosted.Sound
  latest : ∀ (index : Nat) (hosted : Hosted kind), coordinator.operations[index]? = some hosted →
    coordinator.entries[hosted.group]? = some index
      ∨ hosted.done = true ∧ hosted.status.uncertain = false
  entries : ∀ (group : Uuid) (index : Nat), coordinator.entries[group]? = some index →
    ∃ hosted, coordinator.operations[index]? = some hosted ∧ hosted.group = group
  calls : ∀ call ∈ coordinator.calls, coordinator.Found call
  stops : ∀ stop ∈ coordinator.stops, coordinator.Waits stop

/-- Every operation is still there, and a closed coordinator has no new one. -/
structure Extends (before after : Coordinator kind) : Prop where
  operations : ∀ {index : Nat} {hosted : Hosted kind}, before.operations[index]? = some hosted →
    ∃ later, after.operations[index]? = some later ∧ Hosted.Grows hosted later
  closed : before.closed = true → after.closed = true
  length : before.closed = true → after.operations.length = before.operations.length

theorem Extends.refl (coordinator : Coordinator kind) : Extends coordinator coordinator :=
  ⟨fun hsome => ⟨_, hsome, .refl _⟩, id, fun _ => rfl⟩

theorem Extends.trans {first second third : Coordinator kind} (h : Extends first second)
    (h' : Extends second third) : Extends first third where
  operations := by
    intro index hosted hsome
    obtain ⟨next, hnext, hgrows⟩ := h.operations hsome
    obtain ⟨last, hlast, hgrows'⟩ := h'.operations hnext
    exact ⟨last, hlast, hgrows.trans hgrows'⟩
  closed := fun hclosed => h'.closed (h.closed hclosed)
  length := fun hclosed => (h'.length (h.closed hclosed)).trans (h.length hclosed)

structure Evolves (before after : Coordinator kind) : Prop where
  operations : ∀ {index : Nat} {hosted : Hosted kind}, before.operations[index]? = some hosted →
    ∃ later, after.operations[index]? = some later ∧ later.Sound ∧ Hosted.Grows hosted later
  length : after.operations.length = before.operations.length
  entries : after.entries = before.entries
  closed : before.closed = true → after.closed = true

theorem Evolves.back (h : Evolves before after) {index : Nat} {later : Hosted kind}
    (hsome : after.operations[index]? = some later) :
    ∃ hosted, before.operations[index]? = some hosted ∧ later.Sound
      ∧ Hosted.Grows hosted later := by
  have hlt := (List.getElem?_eq_some_iff.mp hsome).1
  rw [h.length] at hlt
  obtain ⟨next, hnext, hsound, hgrows⟩ := h.operations (List.getElem?_eq_getElem hlt)
  rw [hsome] at hnext
  cases hnext
  exact ⟨_, List.getElem?_eq_getElem hlt, hsound, hgrows⟩

theorem Evolves.extends (h : Evolves before after) : Extends before after where
  operations := by
    intro index hosted hsome
    obtain ⟨later, hlater, -, hgrows⟩ := h.operations hsome
    exact ⟨later, hlater, hgrows⟩
  closed := h.closed
  length := fun _ => h.length

theorem Evolves.waits (h : Evolves before after) {stop : Stop} (hwaits : before.Waits stop) :
    after.Waits stop := by
  refine ⟨h.closed hwaits.1, ?_⟩
  intro index later hsome
  obtain ⟨hosted, hbefore, -, hgrows⟩ := h.back hsome
  exact (hwaits.2 index hosted hbefore).imp hgrows.done id

theorem Extends.found (h : Extends before after) {call : Call kind} (hfound : before.Found call) :
    after.Found call := by
  obtain ⟨hosted, hsome, hgroup, hoperation⟩ := hfound
  obtain ⟨later, hlater, hgrows⟩ := h.operations hsome
  refine ⟨later, hlater, hgrows.group.trans hgroup, ?_⟩
  intro operation hrequest
  exact hgrows.operation.trans (hoperation operation hrequest)

theorem known_of_grows {hosted later : Hosted kind} (hsound : hosted.Sound)
    (hgrows : Hosted.Grows hosted later) (hdone : hosted.done = true)
    (hknown : hosted.status.uncertain = false) :
    later.done = true ∧ later.status.uncertain = false := by
  have hterminal := (hsound.terminal_of_done hdone).1
  exact ⟨hgrows.done hdone, by rw [(hgrows.kept hterminal).1, hknown]⟩

theorem Inv.evolve (h : before.Inv) (hevolves : Evolves before after)
    (hcalls : ∀ call ∈ after.calls, call ∈ before.calls ∨ after.Found call)
    (hstops : ∀ stop ∈ after.stops, stop ∈ before.stops ∨ after.Waits stop) :
    after.Inv ∧ Extends before after := by
  refine ⟨⟨?_, ?_, ?_, ?_, ?_⟩, hevolves.extends⟩
  · intro later hmem
    obtain ⟨index, hsome⟩ := List.getElem?_of_mem hmem
    obtain ⟨-, -, hsound, -⟩ := hevolves.back hsome
    exact hsound
  · intro index later hsome
    obtain ⟨hosted, hbefore, -, hgrows⟩ := hevolves.back hsome
    rw [hevolves.entries, hgrows.group]
    rcases h.latest index hosted hbefore with hlatest | ⟨hdone, hknown⟩
    · exact .inl hlatest
    · exact .inr (known_of_grows (h.sound hosted (List.mem_of_getElem? hbefore)) hgrows hdone hknown)
  · intro group index hentry
    rw [hevolves.entries] at hentry
    obtain ⟨hosted, hsome, hgroup⟩ := h.entries group index hentry
    obtain ⟨later, hlater, -, hgrows⟩ := hevolves.operations hsome
    exact ⟨later, hlater, hgrows.group.trans hgroup⟩
  · intro call hmem
    rcases hcalls call hmem with hbefore | hfound
    · exact hevolves.extends.found (h.calls call hbefore)
    · exact hfound
  · intro stop hmem
    rcases hstops stop hmem with hbefore | hwaits
    · exact hevolves.waits (h.stops stop hbefore)
    · exact hwaits

theorem modify_evolves (h : coordinator.Inv) (index : Nat) {change : Hosted kind → Hosted kind}
    (hchange : ∀ hosted, hosted.Sound → (change hosted).Sound ∧ Hosted.Grows hosted (change hosted)) :
    Evolves coordinator (coordinator.modify index change) where
  operations := by
    intro other hosted hsome
    have hsound := h.sound hosted (List.mem_of_getElem? hsome)
    simp only [modify, List.getElem?_modify, hsome, Option.map_eq_map, Option.map_some,
      Option.some.injEq, exists_eq_left']
    split
    · exact hchange hosted hsound
    · exact ⟨hsound, .refl hosted⟩
  length := by simp [modify]
  entries := rfl
  closed := id

theorem modify_inv (h : coordinator.Inv) (index : Nat) {change : Hosted kind → Hosted kind}
    (hchange : ∀ hosted, hosted.Sound → (change hosted).Sound ∧ Hosted.Grows hosted (change hosted)) :
    (coordinator.modify index change).Inv ∧ Extends coordinator (coordinator.modify index change) :=
  h.evolve (modify_evolves h index hchange) (fun _ => .inl) fun _ => .inl

theorem latest_eq_some {group : Uuid} {index : Nat} {hosted : Hosted kind} :
    coordinator.latest group = some (index, hosted) ↔
      coordinator.entries[group]? = some index ∧ coordinator.operations[index]? = some hosted := by
  unfold latest
  cases hentry : coordinator.entries[group]? with
  | none => simp
  | some found =>
    simp only [Option.bind_some, Option.map_eq_some_iff, Prod.mk.injEq, Option.some.injEq]
    constructor
    · rintro ⟨other, hsome, rfl, rfl⟩
      exact ⟨rfl, hsome⟩
    · rintro ⟨rfl, hsome⟩
      exact ⟨hosted, hsome, rfl, rfl⟩

theorem free_ok {group : Uuid} (hfree : coordinator.free group = .ok ()) {index : Nat}
    {hosted : Hosted kind} (hlatest : coordinator.latest group = some (index, hosted)) :
    hosted.done = true ∧ hosted.status.uncertain = false := by
  unfold free at hfree
  rw [hlatest] at hfree
  cases hdone : hosted.done <;> cases huncertain : hosted.status.uncertain <;>
    simp [hdone, huncertain] at hfree ⊢

theorem check_ok {start : Start kind} {definition : Definition kind}
    (hcheck : coordinator.check start = .ok definition) :
    coordinator.closed = false ∧ coordinator.free start.group = .ok () := by
  unfold check at hcheck
  split at hcheck
  · cases hcheck
  · next found hfound =>
    cases hrequest : kind.check found.config found.bindings start.request with
    | error error => simp [hrequest, bind, Except.bind] at hcheck
    | ok =>
      cases hruntime : start.runtime <;> cases hclosed : coordinator.closed <;>
        cases hfree : coordinator.free start.group <;>
        simp [hrequest, hruntime, hclosed, hfree, bind, Except.bind, throw, throwThe,
          MonadExceptOf.throw, pure, Except.pure] at hcheck ⊢

theorem start_inv (h : coordinator.Inv) (start : Start kind) :
    (coordinator.start start).2.Inv ∧ Extends coordinator (coordinator.start start).2 := by
  unfold Coordinator.start
  split
  · exact ⟨h, .refl coordinator⟩
  · next definition hcheck =>
    obtain ⟨hclosed, hfree⟩ := check_ok hcheck
    have hextends : Extends coordinator
        { coordinator with
          entries := coordinator.entries.insert start.group coordinator.operations.length
          operations := coordinator.operations ++ [hosted definition start] } := by
      constructor
      · intro index hosted hsome
        exact ⟨hosted, by simp [List.getElem?_append_left (List.getElem?_eq_some_iff.mp hsome).1,
          hsome], .refl hosted⟩
      · exact id
      · intro hclosed'
        rw [hclosed] at hclosed'
        cases hclosed'
    refine ⟨⟨?_, ?_, ?_, ?_, ?_⟩, hextends⟩
    · intro hosted hmem
      rcases List.mem_append.mp hmem with hmem | hnew
      · exact h.sound hosted hmem
      · rw [List.mem_singleton.mp hnew]
        exact Hosted.hosted_sound definition start
    · intro index hosted hsome
      simp only [TreeMap.getElem?_insert, Std.LawfulEqOrd.compare_eq_iff_eq]
      rcases Nat.lt_or_ge index coordinator.operations.length with hlt | hge
      · rw [List.getElem?_append_left hlt] at hsome
        by_cases hgroup : start.group = hosted.group
        · refine .inr ?_
          rcases h.latest index hosted hsome with hlatest | hdone
          · rw [← hgroup] at hlatest
            exact free_ok hfree (latest_eq_some.mpr ⟨hlatest, hsome⟩)
          · exact hdone
        · rw [if_neg hgroup]
          exact h.latest index hosted hsome
      · rw [List.getElem?_append_right hge] at hsome
        have hzero : index - coordinator.operations.length = 0 := by
          have hlt := (List.getElem?_eq_some_iff.mp hsome).1
          simpa using hlt
        rw [hzero] at hsome
        cases hsome
        refine .inl ?_
        rw [if_pos (show start.group = (hosted definition start).group from rfl), Option.some.injEq]
        omega
    · intro group index hentry
      simp only [TreeMap.getElem?_insert, Std.LawfulEqOrd.compare_eq_iff_eq] at hentry
      split at hentry
      · next hgroup =>
        cases hentry
        exact ⟨hosted definition start, by simp, hgroup⟩
      · obtain ⟨hosted, hsome, hgroup⟩ := h.entries group index hentry
        obtain ⟨later, hlater, hgrows⟩ := hextends.operations hsome
        exact ⟨later, hlater, hgrows.group.trans hgroup⟩
    · intro call hmem
      exact hextends.found (h.calls call hmem)
    · intro stop hmem
      have hwaits := (h.stops stop hmem).1
      rw [hclosed] at hwaits
      cases hwaits

theorem enter_inv (h : coordinator.Inv) (group : Uuid) (request : Request kind) :
    (coordinator.enter group request).2.Inv
      ∧ Extends coordinator (coordinator.enter group request).2 := by
  have hentry : ∀ (checked : Bool) (missing retired : SourceError) (operation : Option Uuid)
      (index : Nat), coordinator.entry checked missing retired group operation = .ok index →
      ∃ hosted, coordinator.operations[index]? = some hosted ∧ hosted.group = group
        ∧ ∀ named, operation = some named → hosted.status.operation = named := by
    intro checked missing retired operation index hentry
    unfold entry at hentry
    split at hentry
    · cases hentry
    · split at hentry
      · cases hentry
      · next found hosted hlatest =>
        split at hentry
        · cases hentry
        · next hnamed =>
          cases hentry
          obtain ⟨hindex, hsome⟩ := latest_eq_some.mp hlatest
          obtain ⟨other, hother, hgroup⟩ := h.entries group _ hindex
          rw [hsome] at hother
          cases hother
          refine ⟨hosted, hsome, hgroup, ?_⟩
          rintro named rfl
          simpa using Eq.symm (by simpa using hnamed)
  unfold enter
  split
  · exact ⟨h, .refl coordinator⟩
  · next index hfind =>
    refine h.evolve ⟨?_, rfl, rfl, id⟩ ?_ fun _ => .inl
    · intro other hosted hsome
      exact ⟨hosted, hsome, h.sound hosted (List.mem_of_getElem? hsome), .refl hosted⟩
    · intro call hmem
      rcases List.mem_append.mp hmem with hmem | hnew
      · exact .inl hmem
      · refine .inr ?_
        rw [List.mem_singleton.mp hnew]
        cases request with
        | status operation => exact hentry _ _ _ _ _ hfind
        | cancel operation => exact hentry _ _ _ _ _ hfind
        | query operation query => exact hentry _ _ _ _ _ hfind

theorem carry_sound (request : Request kind) (hosted : Hosted kind) (h : hosted.Sound) :
    (carry request hosted).Sound ∧ Hosted.Grows hosted (carry request hosted) := by
  cases request with
  | cancel operation => exact Hosted.cancel_sound h
  | _ => exact h.unmoved

theorem complete_inv (h : coordinator.Inv) (number : Nat) : (coordinator.complete number).2.Inv
      ∧ Extends coordinator (coordinator.complete number).2 := by
  unfold complete
  split
  · exact ⟨h, .refl coordinator⟩
  · next call hcall =>
    have hevolves := modify_evolves h call.index (carry_sound call.request)
    refine h.evolve ⟨hevolves.operations, hevolves.length, rfl, id⟩ ?_ fun _ => .inl
    intro other hmem
    exact .inl (List.mem_of_mem_eraseIdx hmem)

theorem stop_inv (h : coordinator.Inv) :
    coordinator.stop.Inv ∧ Extends coordinator coordinator.stop := by
  refine h.evolve ⟨?_, rfl, rfl, fun _ => rfl⟩ (fun _ => .inl) ?_
  · intro index hosted hsome
    exact ⟨hosted, hsome, h.sound hosted (List.mem_of_getElem? hsome), .refl hosted⟩
  · intro stop hmem
    rcases List.mem_append.mp hmem with hmem | hnew
    · exact .inl hmem
    · refine .inr ⟨rfl, ?_⟩
      rw [List.mem_singleton.mp hnew]
      intro index hosted hsome
      rcases h.latest index hosted hsome with hlatest | ⟨hdone, -⟩
      · refine .inr ?_
        exact List.mem_map.mpr
          ⟨(hosted.group, index), TreeMap.mem_toList_iff_getElem?_eq_some.mpr hlatest, rfl⟩
      · exact .inl hdone

theorem proceed_inv (h : coordinator.Inv) (number : Nat) : (coordinator.proceed number).2.Inv
      ∧ Extends coordinator (coordinator.proceed number).2 := by
  have hstill : ∀ {index : Nat} {hosted : Hosted kind},
      coordinator.operations[index]? = some hosted →
      ∃ later, coordinator.operations[index]? = some later ∧ later.Sound
        ∧ Hosted.Grows hosted later := by
    intro index hosted hsome
    exact ⟨hosted, hsome, h.sound hosted (List.mem_of_getElem? hsome), .refl hosted⟩
  unfold proceed
  split
  · exact ⟨h, .refl coordinator⟩
  · next index cancelling waiting hstop =>
    have hevolves := modify_evolves h index fun _ => Hosted.cancel_sound
    have hwaits := hevolves.waits (h.stops _ (List.mem_of_getElem? hstop))
    refine h.evolve ⟨hevolves.operations, hevolves.length, rfl, id⟩ (fun _ => .inl) ?_
    intro stop hmem
    rcases List.mem_or_eq_of_mem_set hmem with hmem | rfl
    · exact .inl hmem
    · exact .inr hwaits
  · next index waiting hstop =>
    have hwaits := h.stops _ (List.mem_of_getElem? hstop)
    split
    · next hdone =>
      refine h.evolve ⟨hstill, rfl, rfl, id⟩ (fun _ => .inl) ?_
      intro stop hmem
      rcases List.mem_or_eq_of_mem_set hmem with hmem | rfl
      · exact .inl hmem
      · refine .inr ⟨hwaits.1, ?_⟩
        intro other hosted hsome
        rcases hwaits.2 other hosted hsome with hfinished | hwaiting
        · exact .inl hfinished
        · rcases List.mem_cons.mp hwaiting with rfl | hlater
          · refine .inl ?_
            have hsome' : coordinator.operations[other]? = some hosted := hsome
            rw [hsome'] at hdone
            exact hdone
          · exact .inr hlater
    · exact ⟨h, .refl coordinator⟩
  · refine h.evolve ⟨hstill, rfl, rfl, id⟩ (fun _ => .inl) ?_
    intro stop hmem
    exact .inl (List.mem_of_mem_eraseIdx hmem)

theorem drop_inv (h : coordinator.Inv) :
    coordinator.drop.Inv ∧ Extends coordinator coordinator.drop := by
  have hall : ∀ (indices : List Nat) (current : Coordinator kind), current.Inv →
      (indices.foldl (fun current index => current.modify index Hosted.cancel) current).Inv
        ∧ Extends current
          (indices.foldl (fun current index => current.modify index Hosted.cancel) current) := by
    intro indices
    induction indices with
    | nil => exact fun current hcurrent => ⟨hcurrent, .refl current⟩
    | cons index indices ih =>
      intro current hcurrent
      obtain ⟨hnext, hextends⟩ := modify_inv hcurrent index fun _ => Hosted.cancel_sound
      obtain ⟨hlast, hextends'⟩ := ih _ hnext
      exact ⟨hlast, hextends.trans hextends'⟩
  exact hall _ coordinator h

theorem step_inv (h : coordinator.Inv) (op : Op kind) :
    (coordinator.step op).2.Inv ∧ Extends coordinator (coordinator.step op).2 := by
  cases op with
  | start start => exact start_inv h start
  | enter group request => exact enter_inv h group request
  | complete call => exact complete_inv h call
  | stop => exact stop_inv h
  | proceed stop => exact proceed_inv h stop
  | task index event =>
    exact modify_inv h index fun _ hsound => Hosted.apply_sound hsound event
  | drop => exact drop_inv h

theorem new_inv (definitions : TreeMap Uuid (Definition kind)) :
    (Coordinator.new definitions).Inv where
  sound := by
    intro hosted hmem
    cases hmem
  latest := by
    intro index hosted hsome
    cases hsome
  entries := by
    intro group index hentry
    simp [Coordinator.new] at hentry
  calls := by
    intro call hmem
    cases hmem
  stops := by
    intro stop hmem
    cases hmem

theorem modify_done (index : Nat) {change : Hosted kind → Hosted kind}
    (hchange : ∀ hosted, (change hosted).done = hosted.done) :
    (coordinator.modify index change).operations.map Hosted.done
      = coordinator.operations.map Hosted.done := by
  refine List.ext_getElem? ?_
  intro other
  simp only [modify, List.getElem?_map, List.getElem?_modify, Option.map_eq_map, Option.map_map]
  refine Option.map_congr ?_
  intro hosted _
  simp only [Function.comp_apply]
  split
  · exact hchange hosted
  · rfl

theorem carry_done (request : Request kind) (hosted : Hosted kind) :
    (carry request hosted).done = hosted.done := by
  cases request <;> rfl

theorem step_done (op : Op kind) {index : Nat} {hosted later : Hosted kind}
    (hbefore : coordinator.operations[index]? = some hosted)
    (hafter : (coordinator.step op).2.operations[index]? = some later)
    (hopen : hosted.done = false) (hdone : later.done = true) : hosted.stage = .closing := by
  have hkept : ∀ {after : Coordinator kind},
      after.operations.map Hosted.done = coordinator.operations.map Hosted.done →
      after.operations[index]? = some later → hosted.stage = .closing := by
    intro after hsame hsome
    have hindex := congrArg (fun flags => flags[index]?) hsame
    simp only [List.getElem?_map, hsome, hbefore, Option.map_some, Option.some.injEq] at hindex
    rw [hopen, hdone] at hindex
    cases hindex
  have hstill : coordinator.operations[index]? = some later → hosted.stage = .closing :=
    fun hsome => hkept rfl hsome
  cases op with
  | start start =>
    change (coordinator.start start).2.operations[index]? = some later at hafter
    unfold Coordinator.start at hafter
    split at hafter
    · exact hstill hafter
    · rw [List.getElem?_append_left (List.getElem?_eq_some_iff.mp hbefore).1] at hafter
      exact hstill hafter
  | enter group request =>
    change (coordinator.enter group request).2.operations[index]? = some later at hafter
    unfold enter at hafter
    split at hafter <;> exact hstill hafter
  | complete call =>
    change (coordinator.complete call).2.operations[index]? = some later at hafter
    unfold complete at hafter
    split at hafter
    · exact hstill hafter
    · next found _ => exact hkept (modify_done found.index (carry_done found.request)) hafter
  | stop => exact hstill hafter
  | proceed stop =>
    change (coordinator.proceed stop).2.operations[index]? = some later at hafter
    unfold proceed at hafter
    split at hafter
    · exact hstill hafter
    · next first _ _ _ =>
      exact hkept (@modify_done kind coordinator first Hosted.cancel fun _ => rfl) hafter
    · split at hafter <;> exact hstill hafter
    · exact hstill hafter
  | task other event =>
    change (coordinator.modify other fun hosted => hosted.apply event).operations[index]?
      = some later at hafter
    simp only [modify, List.getElem?_modify, hbefore, Option.map_eq_map, Option.map_some,
      Option.some.injEq] at hafter
    split at hafter
    · rw [← hafter] at hdone
      exact Hosted.apply_done hopen hdone
    · rw [hafter, hdone] at hopen
      cases hopen
  | drop =>
    have hall : ∀ (indices : List Nat) (current : Coordinator kind),
        (indices.foldl (fun current index => current.modify index Hosted.cancel)
          current).operations.map Hosted.done = current.operations.map Hosted.done := by
      intro indices
      induction indices with
      | nil => exact fun _ => rfl
      | cons first indices ih =>
        intro current
        exact (ih _).trans (modify_done first fun _ => rfl)
    exact hkept (hall _ coordinator) hafter

theorem start_blocked (h : coordinator.Inv) {hosted : Hosted kind}
    (hmem : hosted ∈ coordinator.operations) (hunknown : hosted.ResultUnknown)
    {start : Start kind} (hgroup : start.group = hosted.group) :
    ∃ error, (coordinator.start start).1 = .error error := by
  obtain ⟨index, hsome⟩ := List.getElem?_of_mem hmem
  have hsound := h.sound hosted hmem
  unfold Coordinator.start
  split
  · exact ⟨_, rfl⟩
  · next definition hcheck =>
    exfalso
    have hfree := (check_ok hcheck).2
    have hdone : hosted.done = true ∧ hosted.status.uncertain = false := by
      rcases h.latest index hosted hsome with hlatest | hdone
      · rw [hgroup] at hfree
        exact free_ok hfree (latest_eq_some.mpr ⟨hlatest, hsome⟩)
      · exact hdone
    have huncertain := hsound.uncertain_of_done hdone.1 hunknown
    rw [hdone.2] at huncertain
    cases huncertain

end Coordinator

/-! ## Runs -/

def reach (definitions : TreeMap Uuid (Definition kind)) (ops : List (Op kind)) :
    Coordinator kind :=
  (machine kind).final (.new definitions) ops

/-- What hosts promise about the operations of their groups. -/
structure HostedOperations (kind : GroupKind) (definitions : TreeMap Uuid (Definition kind)) :
    Prop where
  /-- At most one operation of a group is not done. -/
  single : ∀ (ops : List (Op kind)) (index other : Nat) (first second : Hosted kind),
    (reach definitions ops).operations[index]? = some first →
    (reach definitions ops).operations[other]? = some second →
    first.group = second.group → first.done = false → second.done = false → index = other
  /-- The values that the status of an operation had are numbered upwards. -/
  increasing : ∀ (ops : List (Op kind)), ∀ hosted ∈ (reach definitions ops).operations,
    hosted.published.Pairwise (fun earlier later => earlier.sequence < later.sequence)
      ∧ hosted.published.getLast? = some hosted.status
      ∧ ∀ status ∈ hosted.published, status.operation = hosted.status.operation
        ∧ status.group = hosted.group
  /-- At most one of them is terminal, and exactly one if the operation is done. -/
  terminal : ∀ (ops : List (Op kind)), ∀ hosted ∈ (reach definitions ops).operations,
    hosted.published.countP (fun status => status.phase.terminal)
      = if hosted.status.phase.terminal then 1 else 0
  /-- Values are only added, and none behind a terminal one. -/
  kept : ∀ (ops later : List (Op kind)) (index : Nat) (hosted : Hosted kind),
    (reach definitions ops).operations[index]? = some hosted →
    ∃ after, (reach definitions (ops ++ later)).operations[index]? = some after
      ∧ hosted.published <+: after.published
      ∧ (hosted.status.phase.terminal = true → after.published = hosted.published)
      ∧ (hosted.done = true → after.done = true)
  /-- When an operation becomes done, a terminal phase was published and its activity is
  released; its group's activity is released too, unless nobody knows what it did. -/
  released : ∀ (ops : List (Op kind)) (op : Op kind) (index : Nat) (before after : Hosted kind),
    (reach definitions ops).operations[index]? = some before →
    (reach definitions (ops ++ [op])).operations[index]? = some after →
    before.done = false → after.done = true →
    before.status.phase.terminal = true ∧ before.held = false
      ∧ (before.status.uncertain = false →
        ∀ running, before.running = some running → running.retained = false)
  /-- An operation without a known result blocks every later start of its group. -/
  blocked : ∀ (ops later : List (Op kind)), ∀ hosted ∈ (reach definitions ops).operations,
    hosted.ResultUnknown → ∀ t ∈ (machine kind).run (reach definitions ops) later,
    ∀ start, t.op = .start start → start.group = hosted.group →
    ∃ error, t.result = .status (.error error)
  /-- A request that enters changes no operation. -/
  entered : ∀ (ops : List (Op kind)) (group : Uuid) (request : Request kind),
    (reach definitions (ops ++ [.enter group request])) = reach definitions ops
      ∨ ∃ index, reach definitions (ops ++ [.enter group request])
        = { reach definitions ops with
            calls := (reach definitions ops).calls ++ [⟨index, group, request⟩] }
  /-- A request affects and reads the operation that it names, and no other. -/
  named : ∀ (ops : List (Op kind)) (number : Nat) (call : Call kind),
    (reach definitions ops).calls[number]? = some call →
    ∃ hosted, (reach definitions ops).operations[call.index]? = some hosted
      ∧ hosted.group = call.group
      ∧ (∀ operation, call.request.operation = some operation →
        hosted.status.operation = operation)
      ∧ ((reach definitions ops).complete number).1 = Coordinator.respond hosted call.request
      ∧ ∀ other, (reach definitions (ops ++ [.complete number])).operations[other]?
        = if other = call.index then some (Coordinator.carry call.request hosted)
          else (reach definitions ops).operations[other]?
  /-- When `stop` returns, every operation is done, and there will be no other. -/
  stopped : ∀ (ops later : List (Op kind)) (number : Nat),
    ((reach definitions ops).proceed number).1 = .stopped →
    ∀ hosted ∈ (reach definitions (ops ++ later)).operations, hosted.done = true

section

variable (definitions : TreeMap Uuid (Definition kind)) (ops : List (Op kind))

theorem reach_append (later : List (Op kind)) :
    reach definitions (ops ++ later) = (machine kind).final (reach definitions ops) later := by
  simp [reach, Machine.final]

theorem inductive_inv : (machine kind).Inductive (.new definitions) Coordinator.Inv where
  init := Coordinator.new_inv definitions
  step := fun op hinv => (Coordinator.step_inv hinv op).1

theorem reach_inv : (reach definitions ops).Inv :=
  (inductive_inv definitions).final ops

theorem inductive_extends {start : Coordinator kind} (h : start.Inv) :
    (machine kind).Inductive start
      (fun coordinator => coordinator.Inv ∧ Coordinator.Extends start coordinator) where
  init := ⟨h, .refl start⟩
  step := by
    intro state op hstate
    obtain ⟨hinv, hextends⟩ := Coordinator.step_inv hstate.1 op
    exact ⟨hinv, hstate.2.trans hextends⟩

theorem reach_extends (later : List (Op kind)) :
    Coordinator.Extends (reach definitions ops) (reach definitions (ops ++ later)) := by
  rw [reach_append]
  exact ((inductive_extends (reach_inv definitions ops)).final later).2

theorem active_latest {index : Nat} {hosted : Hosted kind}
    (hsome : (reach definitions ops).operations[index]? = some hosted)
    (hopen : hosted.done = false) :
    (reach definitions ops).entries[hosted.group]? = some index := by
  rcases (reach_inv definitions ops).latest index hosted hsome with hlatest | ⟨hdone, -⟩
  · exact hlatest
  · rw [hopen] at hdone
    cases hdone

theorem published_ordered {hosted : Hosted kind} (h : hosted.Sound) :
    hosted.published.Pairwise (fun earlier later => earlier.sequence < later.sequence)
      ∧ hosted.published.getLast? = some hosted.status
      ∧ ∀ status ∈ hosted.published, status.operation = hosted.status.operation
        ∧ status.group = hosted.group := by
  refine ⟨?_, ?_, h.same⟩
  · have hsorted : (hosted.published.map Status.sequence).Pairwise (· < ·) := by
      rw [h.numbered]
      exact List.pairwise_lt_range'
    exact List.pairwise_map.mp hsorted
  · obtain ⟨earlier, hpublished, -⟩ := h.last
    rw [hpublished]
    simp

theorem published_terminal {hosted : Hosted kind} (h : hosted.Sound) :
    hosted.published.countP (fun status => status.phase.terminal)
      = if hosted.status.phase.terminal then 1 else 0 := by
  obtain ⟨earlier, hpublished, hearlier⟩ := h.last
  have hnone : earlier.countP (fun status => status.phase.terminal) = 0 := by
    rw [List.countP_eq_zero]
    intro status hmem
    simp [hearlier status hmem]
  rw [hpublished, List.countP_append, hnone]
  simp [List.countP_cons]

end

theorem hostedOperations (definitions : TreeMap Uuid (Definition kind)) :
    HostedOperations kind definitions where
  single := by
    intro ops index other first second hfirst hsecond hgroup hopen hopen'
    have hlatest := active_latest definitions ops hfirst hopen
    rw [hgroup, active_latest definitions ops hsecond hopen'] at hlatest
    cases hlatest
    rfl
  increasing := fun ops hosted hmem =>
    published_ordered ((reach_inv definitions ops).sound hosted hmem)
  terminal := fun ops hosted hmem =>
    published_terminal ((reach_inv definitions ops).sound hosted hmem)
  kept := by
    intro ops later index hosted hsome
    obtain ⟨after, hafter, hgrows⟩ := (reach_extends definitions ops later).operations hsome
    exact ⟨after, hafter, hgrows.published, fun hterminal => (hgrows.kept hterminal).2, hgrows.done⟩
  released := by
    intro ops op index before after hbefore hafter hopen hdone
    have hsound := (reach_inv definitions ops).sound before (List.mem_of_getElem? hbefore)
    rw [reach_append] at hafter
    have hstage := Coordinator.step_done op hbefore hafter hopen hdone
    have hterminal : before.status.phase.terminal = true := hsound.settled (by rw [hstage]; rfl)
    refine ⟨hterminal, by rw [hsound.held, hstage]; rfl, ?_⟩
    intro hknown running hsome
    rcases hsound.known running hsome hterminal with huncertain | hfinished
    · rw [hknown] at huncertain
      cases huncertain
    · exact hsound.released running hsome hfinished
  blocked := by
    intro ops later hosted hmem hunknown t ht start hop hgroup
    obtain ⟨index, hsome⟩ := List.getElem?_of_mem hmem
    obtain ⟨⟨hinv, hextends⟩, -, hstep⟩ :=
      (inductive_extends (reach_inv definitions ops)).mem_run ht
    obtain ⟨now, hnow, hgrows⟩ := hextends.operations hsome
    obtain ⟨error, herror⟩ := Coordinator.start_blocked hinv (List.mem_of_getElem? hnow)
      (hgrows.unknown hunknown) (hgroup.trans hgrows.group.symm)
    refine ⟨error, ?_⟩
    rw [hstep, hop]
    change Reply.status (t.before.start start).1 = _
    rw [herror]
  entered := by
    intro ops group request
    rw [reach_append]
    change ((reach definitions ops).enter group request).2 = _ ∨ ∃ index,
      ((reach definitions ops).enter group request).2 = _
    unfold Coordinator.enter
    split
    · exact .inl rfl
    · exact .inr ⟨_, rfl⟩
  named := by
    intro ops number call hcall
    obtain ⟨hosted, hsome, hgroup, hoperation⟩ :=
      (reach_inv definitions ops).calls call (List.mem_of_getElem? hcall)
    refine ⟨hosted, hsome, hgroup, hoperation, ?_, ?_⟩
    · simp [Coordinator.complete, hcall, hsome]
    · intro other
      rw [reach_append]
      change ((reach definitions ops).complete number).2.operations[other]? = _
      simp only [Coordinator.complete, hcall, Coordinator.modify, List.getElem?_modify]
      by_cases hother : other = call.index
      · simp [hother, hsome]
      · simp [hother, Ne.symm hother]
  stopped := by
    intro ops later number hreply hosted hmem
    have hinv := reach_inv definitions ops
    obtain ⟨index, hsome⟩ := List.getElem?_of_mem hmem
    have hwaits : (reach definitions ops).Waits ⟨[], []⟩ := by
      unfold Coordinator.proceed at hreply
      split at hreply
      · cases hreply
      · cases hreply
      · split at hreply <;> cases hreply
      · next hstop => exact hinv.stops _ (List.mem_of_getElem? hstop)
    have hextends := reach_extends definitions ops later
    have hlt := (List.getElem?_eq_some_iff.mp hsome).1
    rw [hextends.length hwaits.1] at hlt
    obtain ⟨after, hafter, hgrows⟩ := hextends.operations (List.getElem?_eq_getElem hlt)
    rw [hsome] at hafter
    cases hafter
    rcases hwaits.2 index _ (List.getElem?_eq_getElem hlt) with hdone | hwaiting
    · exact hgrows.done hdone
    · cases hwaiting

end Hosting

/-- Both coordinators, whatever their groups are. -/
theorem coordinators_hostedOperations :
    (∀ definitions, Hosting.HostedOperations focuserGroups definitions)
      ∧ ∀ definitions, Hosting.HostedOperations cameraGroups definitions :=
  ⟨Hosting.hostedOperations, Hosting.hostedOperations⟩

end Regain.Hub
