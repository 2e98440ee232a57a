/-!
# Machines and their runs

A machine takes one operation at a time and answers with a result. Choices of an environment (clock
readings, outcomes, scheduling) are part of the operation, so a run is determined by its list of
operations.

The rules below carry a fact from single transitions to whole runs.
-/

namespace Regain.Lib

/-- One step of a machine: the result and the next state. -/
structure Machine (State Op Result : Type) where
  step : State → Op → Result × State

/-- One performed step. -/
structure Transition (State Op Result : Type) where
  before : State
  op : Op
  result : Result
  after : State

namespace Machine

variable {State Op Result : Type} (machine : Machine State Op Result)

def next (state : State) (op : Op) : State :=
  (machine.step state op).2

def perform (state : State) (op : Op) : Transition State Op Result where
  before := state
  op := op
  result := (machine.step state op).1
  after := machine.next state op

def final (state : State) (ops : List Op) : State :=
  ops.foldl machine.next state

/-- The transitions of a run, in order. -/
def run (state : State) : List Op → List (Transition State Op Result)
  | [] => []
  | op :: ops => machine.perform state op :: run (machine.next state op) ops

/-- An invariant of every state that a run from `initial` reaches. -/
structure Inductive (initial : State) (Inv : State → Prop) : Prop where
  init : Inv initial
  step : ∀ {state : State} (op : Op), Inv state → Inv (machine.next state op)

variable {machine}

variable {initial : State}

theorem Inductive.next {Inv : State → Prop} (hinv : machine.Inductive initial Inv) (op : Op) :
    machine.Inductive (machine.next initial op) Inv :=
  ⟨hinv.step op hinv.init, hinv.step⟩

theorem Inductive.final {Inv : State → Prop}
    (hinv : machine.Inductive initial Inv) (ops : List Op) : Inv (machine.final initial ops) := by
  induction ops generalizing initial with
  | nil => exact hinv.init
  | cons op ops ih => exact ih (hinv.next op)

variable {ops : List Op}

/-- Every transition of a run is a step of the machine from a state with the invariant. -/
theorem Inductive.mem_run {Inv : State → Prop}
    (hinv : machine.Inductive initial Inv) {t : Transition State Op Result}
    (hmem : t ∈ machine.run initial ops) :
    Inv t.before ∧ Inv t.after ∧ t = machine.perform t.before t.op := by
  induction ops generalizing initial with
  | nil => simp [run] at hmem
  | cons op ops ih =>
    rcases List.mem_cons.mp hmem with rfl | htail
    · exact ⟨hinv.init, hinv.step op hinv.init, rfl⟩
    · exact ih (hinv.next op) htail

/-- The events of the results of a run. -/
def emitted {Event : Type} (machine : Machine State Op Result) (emit : Result → List Event)
    (state : State) (ops : List Op) : List Event :=
  (machine.run state ops).flatMap fun t => emit t.result

/-- A relation between the events so far and the state. -/
theorem emitted_kept {Event : Type} {emit : Result → List Event} {Kept : List Event → State → Prop}
    (hstep : ∀ (log : List Event) (state : State) (op : Op), Kept log state →
      Kept (log ++ emit (machine.step state op).1) (machine.next state op))
    {log : List Event} (hinitial : Kept log initial) (ops : List Op) :
    Kept (log ++ machine.emitted emit initial ops) (machine.final initial ops) := by
  induction ops generalizing log initial with
  | nil => simpa [emitted, run, Machine.final] using hinitial
  | cons op ops ih =>
    have hrest := ih (hstep log initial op hinitial)
    simpa [emitted, run, perform, Machine.final] using hrest

variable {before after : List (Transition State Op Result)}

/-- A relation between the transitions so far and the state. -/
theorem history_kept {Kept : List (Transition State Op Result) → State → Prop}
    (hstep : ∀ (history : List (Transition State Op Result)) (state : State) (op : Op),
      Kept history state → Kept (history ++ [machine.perform state op]) (machine.next state op))
    {history : List (Transition State Op Result)} (hinitial : Kept history initial)
    {t : Transition State Op Result} (hrun : machine.run initial ops = before ++ t :: after) :
    Kept (history ++ before) t.before := by
  induction ops generalizing initial history before with
  | nil => simp [run] at hrun
  | cons op ops ih =>
    cases before with
    | nil =>
      obtain ⟨rfl, -⟩ := List.cons.inj hrun
      exact (List.append_nil history).symm ▸ hinitial
    | cons first before =>
      obtain ⟨rfl, htail⟩ := List.cons.inj hrun
      have hrest := ih (hstep history initial op hinitial) htail
      simpa using hrest

/-- A fact that no step from a state with the invariant undoes. -/
def Lasting (machine : Machine State Op Result) (Inv Fact : State → Prop) : Prop :=
  ∀ (state : State) (op : Op), Inv state → Fact state → Fact (machine.next state op)

variable {Inv Fact : State → Prop}

theorem Lasting.mem_run (hlasting : Lasting machine Inv Fact) (hinv : machine.Inductive initial Inv)
    (hfact : Fact initial) {t : Transition State Op Result}
    (hmem : t ∈ machine.run initial ops) : Fact t.before ∧ Fact t.after := by
  induction ops generalizing initial with
  | nil => simp [run] at hmem
  | cons op ops ih =>
    have hnext := hlasting initial op hinv.init hfact
    rcases List.mem_cons.mp hmem with rfl | htail
    · exact ⟨hfact, hnext⟩
    · exact ih (hinv.next op) hnext htail

/-- A lasting fact that holds after some transition of a run holds at its end. -/
theorem Lasting.final_of_mem (hlasting : Lasting machine Inv Fact)
    (hinv : machine.Inductive initial Inv) {t : Transition State Op Result}
    (hmem : t ∈ machine.run initial ops)
    (hfact : Fact t.after) : Fact (machine.final initial ops) := by
  induction ops generalizing initial with
  | nil => simp [run] at hmem
  | cons op ops ih =>
    rcases List.mem_cons.mp hmem with rfl | htail
    · have hboth : machine.Inductive (machine.next initial op)
          (fun state => Inv state ∧ Fact state) :=
        ⟨⟨hinv.step op hinv.init, hfact⟩,
          fun next hstate => ⟨hinv.step next hstate.1, hlasting _ next hstate.1 hstate.2⟩⟩
      exact (hboth.final ops).2
    · exact ih (hinv.next op) htail

/-- A transition that establishes a lasting fact excludes what the fact excludes. -/
theorem Lasting.pairwise (Establishes Excluded : Transition State Op Result → Prop)
    (hlasting : Lasting machine Inv Fact) (hinv : machine.Inductive initial Inv)
    (hestablish : ∀ (state : State) (op : Op), Inv state →
      Establishes (machine.perform state op) → Fact (machine.next state op))
    (hexclude : ∀ (state : State) (op : Op), Inv state → Fact state →
      ¬Excluded (machine.perform state op)) (ops : List Op) : (machine.run initial ops).Pairwise
      fun earlier later => Establishes earlier → ¬Excluded later := by
  induction ops generalizing initial with
  | nil => exact List.Pairwise.nil
  | cons op ops ih =>
    refine List.pairwise_cons.mpr ⟨?_, ih (hinv.next op)⟩
    intro later hlater hestablishes
    have hfact := hestablish initial op hinv.init hestablishes
    obtain ⟨hbefore, -, hstep⟩ := (hinv.next op).mem_run hlater
    have hheld := (hlasting.mem_run (hinv.next op) hfact hlater).1
    rw [hstep]
    exact hexclude later.before later.op hbefore hheld

/-- A lasting fact that is absent at some point of a run was never established before it. -/
theorem Lasting.absent_earlier (hlasting : Lasting machine Inv Fact)
    (hinv : machine.Inductive initial Inv) {t : Transition State Op Result}
    (hrun : machine.run initial ops = before ++ t :: after) (habsent : ¬Fact t.before) :
    ∀ earlier ∈ before, ¬Fact earlier.after := by
  have hpairwise := hlasting.pairwise (fun earlier => Fact earlier.after)
    (fun later => ¬Fact later.before) hinv (fun _ _ _ hfact => hfact)
    (fun _ _ _ hfact hnot => hnot hfact) ops
  rw [hrun, List.pairwise_append] at hpairwise
  intro earlier hmem hfact
  exact hpairwise.2.2 earlier hmem t List.mem_cons_self hfact habsent

/-- The number of transitions that turn a lasting flag on is the change of the flag. -/
theorem Lasting.countP_raised {Inv : State → Prop} {flag : State → Bool}
    (hlasting : Lasting machine Inv (fun state => flag state = true))
    (hinv : machine.Inductive initial Inv) (ops : List Op) :
    ((machine.run initial ops).countP fun t => !flag t.before && flag t.after)
      = if !flag initial && flag (machine.final initial ops) then 1 else 0 := by
  induction ops generalizing initial with
  | nil => cases h : flag initial <;> simp [run, Machine.final, h]
  | cons op ops ih =>
    have hrest := ih (hinv.next op)
    have hstep := hlasting initial op hinv.init
    have hfinal : machine.final initial (op :: ops)
        = machine.final (machine.next initial op) ops :=
      rfl
    simp only [run, List.countP_cons, hrest, hfinal]
    have hheld : flag (machine.next initial op) = true →
        flag (machine.final (machine.next initial op) ops) = true := by
      intro hon
      have hboth : machine.Inductive (machine.next initial op)
          (fun state => Inv state ∧ flag state = true) :=
        ⟨⟨hinv.step op hinv.init, hon⟩,
          fun next hstate => ⟨hinv.step next hstate.1, hlasting _ next hstate.1 hstate.2⟩⟩
      exact (hboth.final ops).2
    cases hinitial : flag initial <;> cases hnext : flag (machine.next initial op) <;>
      simp_all [perform]

/-- A fact that only a released step can undo. -/
def Until (machine : Machine State Op Result) (Inv Fact : State → Prop)
    (Released : Transition State Op Result → Prop) : Prop :=
  ∀ (state : State) (op : Op), Inv state → Fact state →
    Released (machine.perform state op) ∨ Fact (machine.next state op)

private theorem Until.held_or_released
    {Released : Transition State Op Result → Prop}
    (huntil : Until machine Inv Fact Released) (hinv : machine.Inductive initial Inv)
    (hfact : Fact initial)
    {t : Transition State Op Result} (hrun : machine.run initial ops = before ++ t :: after) :
    (∃ released ∈ before, Released released) ∨ Fact t.before := by
  induction ops generalizing initial before with
  | nil => simp [run] at hrun
  | cons op ops ih =>
    cases before with
    | nil =>
      obtain ⟨rfl, -⟩ := List.cons.inj hrun
      exact .inr hfact
    | cons first before =>
      obtain ⟨rfl, htail⟩ := List.cons.inj hrun
      rcases huntil initial op hinv.init hfact with hreleased | hnext
      · exact .inl ⟨_, List.mem_cons_self, hreleased⟩
      · rcases ih (hinv.next op) hnext htail with ⟨released, hmem, hreleased⟩ | hheld
        · exact .inl ⟨released, List.mem_cons_of_mem _ hmem, hreleased⟩
        · exact .inr hheld

/-- Between a transition that establishes the fact and one that it excludes lies a release. -/
theorem Until.between {Released : Transition State Op Result → Prop}
    (Establishes Excluded : Transition State Op Result → Prop)
    (huntil : Until machine Inv Fact Released) (hinv : machine.Inductive initial Inv)
    (hestablish : ∀ (state : State) (op : Op), Inv state →
      Establishes (machine.perform state op) → Fact (machine.next state op))
    (hexclude : ∀ (state : State) (op : Op), Inv state → Fact state →
      ¬Excluded (machine.perform state op)) {before mid after : List (Transition State Op Result)}
    {t t' : Transition State Op Result}
    (hrun : machine.run initial ops = before ++ t :: mid ++ t' :: after)
    (hestablishes : Establishes t) (hexcluded : Excluded t') :
    ∃ released ∈ mid, Released released := by
  induction ops generalizing initial before with
  | nil => simp [run] at hrun
  | cons op ops ih =>
    cases before with
    | cons first before =>
      obtain ⟨rfl, htail⟩ := List.cons.inj hrun
      exact ih (hinv.next op) htail
    | nil =>
      obtain ⟨rfl, htail⟩ := List.cons.inj hrun
      have hfact := hestablish initial op hinv.init hestablishes
      rcases huntil.held_or_released (hinv.next op) hfact htail with hreleased | hheld
      · exact hreleased
      · have hmem : t' ∈ machine.run (machine.next initial op) ops := by
          rw [htail]
          simp
        obtain ⟨hbefore, -, hstep⟩ := (hinv.next op).mem_run hmem
        rw [hstep] at hexcluded
        exact absurd hexcluded (hexclude t'.before t'.op hbefore hheld)

/-- A fact that only an establishing step brings about. -/
def Since (machine : Machine State Op Result) (Inv Fact : State → Prop)
    (Establishes : Transition State Op Result → Prop) : Prop :=
  ∀ (state : State) (op : Op), Inv state → Fact (machine.next state op) →
    Establishes (machine.perform state op) ∨ Fact state

theorem Since.earlier {Establishes : Transition State Op Result → Prop}
    (hsince : Since machine Inv Fact Establishes) (hinv : machine.Inductive initial Inv)
    (hinitial : ¬Fact initial) {t : Transition State Op Result}
    (hrun : machine.run initial ops = before ++ t :: after) (hfact : Fact t.before) :
    ∃ earlier ∈ before, Establishes earlier := by
  induction ops generalizing initial before with
  | nil => simp [run] at hrun
  | cons op ops ih =>
    cases before with
    | nil =>
      obtain ⟨rfl, -⟩ := List.cons.inj hrun
      exact absurd hfact hinitial
    | cons first before =>
      obtain ⟨rfl, htail⟩ := List.cons.inj hrun
      by_cases hestablishes : Establishes (machine.perform initial op)
      · exact ⟨_, List.mem_cons_self, hestablishes⟩
      · have hnext : ¬Fact (machine.next initial op) := fun h =>
          (hsince initial op hinv.init h).elim hestablishes hinitial
        obtain ⟨earlier, hmem, hearlier⟩ := ih (hinv.next op) hnext htail
        exact ⟨earlier, List.mem_cons_of_mem _ hmem, hearlier⟩

end Machine

end Regain.Lib
