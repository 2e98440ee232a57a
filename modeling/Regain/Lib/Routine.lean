/-!
# Routines of one owner

A routine is sequential code over a state: it ends with a value, fails with an error, or is still
pending when the observation of its run ends. State changes made before a failure stay. Whatever the
environment decides is part of the state, so a routine is a function.

`Meets` is a postcondition of one run, `Keeps` a relation between the states before and after.
-/

namespace Regain.Lib

inductive Progress (ε α : Type) where
  | done (value : α)
  | failed (error : ε)
  | pending

def Progress.isDone {ε α : Type} : Progress ε α → Bool
  | .done _ => true
  | .failed _ => false
  | .pending => false

def Routine (σ ε α : Type) : Type := σ → Progress ε α × σ

namespace Routine

variable {σ ε ε' α β : Type}

def ret (value : α) : Routine σ ε α :=
  fun state => (.done value, state)

def fail (error : ε) : Routine σ ε α :=
  fun state => (.failed error, state)

def andThen (routine : Routine σ ε α) (next : α → Routine σ ε β) : Routine σ ε β :=
  fun state =>
    match routine state with
    | (.done value, state') => next value state'
    | (.failed error, state') => (.failed error, state')
    | (.pending, state') => (.pending, state')

instance : Monad (Routine σ ε) where
  pure := ret
  bind := andThen

def get : Routine σ ε σ :=
  fun state => (.done state, state)

def modify (f : σ → σ) : Routine σ ε Unit :=
  fun state => (.done (), f state)

/-- One atomic step with an answer. -/
def act (f : σ → α × σ) : Routine σ ε α :=
  fun state => (.done (f state).1, (f state).2)

/-- Go on only if a condition holds. -/
def ensure (condition : Bool) (error : ε) : Routine σ ε Unit :=
  if condition then ret () else fail error

def ofExcept : Except ε α → Routine σ ε α
  | .ok value => ret value
  | .error error => fail error

/-- Run a block whose failure is a value for the code after it. -/
def attempt (routine : Routine σ ε α) : Routine σ ε' (Except ε α) :=
  fun state =>
    match routine state with
    | (.done value, state') => (.done (.ok value), state')
    | (.failed error, state') => (.done (.error error), state')
    | (.pending, state') => (.pending, state')

/-- A loop over a list that ends at the first failure. -/
def forEach (body : β → Routine σ ε Unit) : List β → Routine σ ε Unit
  | [] => ret ()
  | item :: items => do
    body item
    forEach body items

/-- A postcondition of the run from one state. -/
def Meets (routine : Routine σ ε α) (state : σ) (post : Progress ε α → σ → Prop) : Prop :=
  post (routine state).1 (routine state).2

/-- What the rest of the code makes of the result of a first part. -/
def Continues (next : α → Routine σ ε β) (post : Progress ε β → σ → Prop) :
    Progress ε α → σ → Prop
  | .done value, state => (next value).Meets state post
  | .failed error, state => post (.failed error) state
  | .pending, state => post .pending state

@[simp] theorem continues_done {next : α → Routine σ ε β} {post : Progress ε β → σ → Prop}
    {value : α} {state : σ} :
    Continues next post (.done value) state ↔ (next value).Meets state post :=
  Iff.rfl

@[simp] theorem meets_pure {value : α} {state : σ} {post : Progress ε α → σ → Prop} :
    (pure value : Routine σ ε α).Meets state post ↔ post (.done value) state :=
  Iff.rfl

@[simp] theorem meets_ret {value : α} {state : σ} {post : Progress ε α → σ → Prop} :
    (ret value : Routine σ ε α).Meets state post ↔ post (.done value) state :=
  Iff.rfl

@[simp] theorem meets_fail {error : ε} {state : σ} {post : Progress ε α → σ → Prop} :
    (fail error : Routine σ ε α).Meets state post ↔ post (.failed error) state :=
  Iff.rfl

@[simp] theorem meets_get {state : σ} {post : Progress ε σ → σ → Prop} :
    (get : Routine σ ε σ).Meets state post ↔ post (.done state) state :=
  Iff.rfl

@[simp] theorem meets_modify {f : σ → σ} {state : σ} {post : Progress ε Unit → σ → Prop} :
    (modify f : Routine σ ε Unit).Meets state post ↔ post (.done ()) (f state) :=
  Iff.rfl

@[simp] theorem meets_act {f : σ → α × σ} {state : σ} {post : Progress ε α → σ → Prop} :
    (act f : Routine σ ε α).Meets state post ↔ post (.done (f state).1) (f state).2 :=
  Iff.rfl

@[simp] theorem meets_bind {routine : Routine σ ε α} {next : α → Routine σ ε β} {state : σ}
    {post : Progress ε β → σ → Prop} :
    (routine >>= next).Meets state post ↔ routine.Meets state (Continues next post) := by
  unfold Meets
  simp only [bind, andThen]
  cases routine state with
  | mk result state' => cases result <;> exact Iff.rfl

@[simp] theorem meets_ensure {condition : Bool} {error : ε} {state : σ}
    {post : Progress ε Unit → σ → Prop} :
    (ensure condition error : Routine σ ε Unit).Meets state post
      ↔ if condition = true then post (.done ()) state else post (.failed error) state := by
  cases condition <;> exact Iff.rfl

@[simp] theorem meets_ofExcept_ok {value : α} {state : σ} {post : Progress ε α → σ → Prop} :
    (ofExcept (.ok value) : Routine σ ε α).Meets state post ↔ post (.done value) state :=
  Iff.rfl

/-- The failure of a block as the value that the code after it sees. -/
def Attempted (post : Progress ε' (Except ε α) → σ → Prop) : Progress ε α → σ → Prop
  | .done value, state => post (.done (.ok value)) state
  | .failed error, state => post (.done (.error error)) state
  | .pending, state => post .pending state

@[simp] theorem meets_attempt {routine : Routine σ ε α} {state : σ}
    {post : Progress ε' (Except ε α) → σ → Prop} :
    (routine.attempt : Routine σ ε' (Except ε α)).Meets state post
      ↔ routine.Meets state (Attempted post) := by
  unfold Meets
  simp only [attempt]
  cases routine state with
  | mk result state' => cases result <;> exact Iff.rfl

theorem Meets.mono {routine : Routine σ ε α} {state : σ} {post post' : Progress ε α → σ → Prop}
    (hmeets : routine.Meets state post) (himp : ∀ result state', post result state' →
      post' result state') : routine.Meets state post' :=
  himp _ _ hmeets

/-- What the first part establishes is what the rest starts from. -/
theorem Meets.bind {routine : Routine σ ε α} {next : α → Routine σ ε β} {state : σ}
    {mid : Progress ε α → σ → Prop} {post : Progress ε β → σ → Prop}
    (hfirst : routine.Meets state mid) (hnext : ∀ result state', mid result state' →
      Continues next post result state') : (routine >>= next).Meets state post :=
  meets_bind.mpr (hfirst.mono hnext)

/-- Every run leaves the state related to the one before it. -/
def Keeps (R : σ → σ → Prop) (routine : Routine σ ε α) : Prop :=
  ∀ state, R state (routine state).2

section

variable {R : σ → σ → Prop}

theorem Keeps.mono {R' : σ → σ → Prop} {routine : Routine σ ε α} (hkeeps : routine.Keeps R)
    (himp : ∀ state state', R state state' → R' state state') : routine.Keeps R' :=
  fun state => himp _ _ (hkeeps state)

/-- An invariant is a relation that is kept. -/
theorem Keeps.invariant_bind {I : σ → Prop} {routine : Routine σ ε α} {next : α → Routine σ ε β}
    (hfirst : routine.Keeps fun state state' => I state → I state')
    (hnext : ∀ value, (next value).Keeps fun state state' => I state → I state') :
    (routine >>= next).Keeps fun state state' => I state → I state' := by
  intro state hstate
  have hmid := hfirst state hstate
  simp only [Bind.bind, andThen]
  cases hrun : routine state with
  | mk result state' =>
    rw [hrun] at hmid
    cases result with
    | done value => exact hnext value state' hmid
    | failed error => exact hmid
    | pending => exact hmid

theorem Keeps.attempt {routine : Routine σ ε α} (hkeeps : routine.Keeps R) :
    (routine.attempt : Routine σ ε' (Except ε α)).Keeps R := by
  intro state
  have hstate := hkeeps state
  simp only [Routine.attempt]
  cases hrun : routine state with
  | mk result state' =>
    rw [hrun] at hstate
    cases result <;> exact hstate

section

variable (hrefl : ∀ state, R state state)
include hrefl

theorem keeps_pure (value : α) : (pure value : Routine σ ε α).Keeps R :=
  hrefl

theorem keeps_fail (error : ε) : (fail error : Routine σ ε α).Keeps R :=
  hrefl

theorem keeps_ensure (condition : Bool) (error : ε) :
    (ensure condition error : Routine σ ε Unit).Keeps R := by
  cases condition <;> exact hrefl

theorem keeps_ofExcept (result : Except ε α) : (ofExcept result : Routine σ ε α).Keeps R := by
  cases result <;> exact hrefl

end

theorem Keeps.bind (htrans : ∀ a b c, R a b → R b c → R a c) {routine : Routine σ ε α}
    {next : α → Routine σ ε β} (hfirst : routine.Keeps R) (hnext : ∀ value, (next value).Keeps R) :
    (routine >>= next).Keeps R := by
  intro state
  have hstate := hfirst state
  simp only [Bind.bind, andThen]
  cases hrun : routine state with
  | mk result state' =>
    rw [hrun] at hstate
    cases result with
    | done value => exact htrans _ _ _ hstate (hnext value state')
    | failed error => exact hstate
    | pending => exact hstate

theorem keeps_forEach (hrefl : ∀ state, R state state)
    (htrans : ∀ a b c, R a b → R b c → R a c) {body : β → Routine σ ε Unit}
    (hbody : ∀ item, (body item).Keeps R) (items : List β) : (forEach body items).Keeps R := by
  induction items with
  | nil => exact hrefl
  | cons item items ih => exact Keeps.bind htrans (hbody item) fun _ => ih

end

/-- Every failure of a run satisfies a predicate. -/
def FailsWith (P : ε → Prop) (routine : Routine σ ε α) : Prop :=
  ∀ state error state', routine state = (.failed error, state') → P error

section

variable {P : ε → Prop}

theorem failsWith_ret (value : α) : (ret value : Routine σ ε α).FailsWith P := by
  intro state error state' hrun
  cases hrun

theorem failsWith_fail {error : ε} (herror : P error) : (fail error : Routine σ ε α).FailsWith P := by
  intro state error' state' hrun
  cases hrun
  exact herror

theorem failsWith_modify (f : σ → σ) : (modify f : Routine σ ε Unit).FailsWith P := by
  intro state error state' hrun
  cases hrun

theorem failsWith_act (f : σ → α × σ) : (act f : Routine σ ε α).FailsWith P := by
  intro state error state' hrun
  cases hrun

theorem FailsWith.bind {routine : Routine σ ε α} {next : α → Routine σ ε β}
    (hfirst : routine.FailsWith P) (hnext : ∀ value, (next value).FailsWith P) :
    (routine >>= next).FailsWith P := by
  intro state error state' hrun
  simp only [Bind.bind, andThen] at hrun
  cases hroutine : routine state with
  | mk result mid =>
    rw [hroutine] at hrun
    cases result with
    | done value => exact hnext value mid error state' hrun
    | failed error' =>
      cases hrun
      exact hfirst state error state' hroutine
    | pending => cases hrun

/-- After a block whose failure is a value, only the code after it can fail. -/
theorem FailsWith.attempt {Q : ε → Prop} {P : ε' → Prop} {routine : Routine σ ε α}
    {next : Except ε α → Routine σ ε' β} (hfirst : routine.FailsWith Q)
    (hok : ∀ value, (next (.ok value)).FailsWith P)
    (herror : ∀ error, Q error → (next (.error error)).FailsWith P) :
    (routine.attempt >>= next).FailsWith P := by
  intro state error state' hrun
  simp only [Bind.bind, andThen, Routine.attempt] at hrun
  cases hroutine : routine state with
  | mk result mid =>
    rw [hroutine] at hrun
    cases result with
    | done value => exact hok value mid error state' hrun
    | failed error' => exact herror error' (hfirst state error' mid hroutine) mid error state' hrun
    | pending => cases hrun

end

/-- A completed run went through the end of its first part. -/
theorem bind_done {routine : Routine σ ε α} {next : α → Routine σ ε β} {state state' : σ}
    {value : β} (hrun : (routine >>= next) state = (.done value, state')) :
    ∃ first mid, routine state = (.done first, mid) ∧ next first mid = (.done value, state') := by
  simp only [bind, andThen] at hrun
  cases hroutine : routine state with
  | mk result mid =>
    rw [hroutine] at hrun
    cases result with
    | done first => exact ⟨first, mid, rfl, hrun⟩
    | failed error => cases hrun
    | pending => cases hrun

/-- Every run ends with a value and leaves the state related to the one before it. -/
def Completes (R : σ → σ → Prop) (routine : Routine σ ε α) : Prop :=
  ∀ state, ∃ value, (routine state).1 = .done value ∧ R state (routine state).2

section

variable {R : σ → σ → Prop}

theorem Completes.keeps {routine : Routine σ ε α} (hcompletes : routine.Completes R) :
    routine.Keeps R := by
  intro state
  obtain ⟨value, -, hstate⟩ := hcompletes state
  exact hstate

/-- The rest of the code after a step that always completes. -/
theorem Meets.after {routine : Routine σ ε α} {next : α → Routine σ ε β} {state : σ}
    {post : Progress ε β → σ → Prop} (hcompletes : routine.Completes R)
    (hnext : ∀ value mid, R state mid → (next value).Meets mid post) :
    (routine >>= next).Meets state post := by
  obtain ⟨value, hdone, hstate⟩ := hcompletes state
  rw [meets_bind]
  unfold Meets
  rw [hdone]
  exact hnext value _ hstate

end

/-- A loop over a list ends at the first item that fails. -/
theorem forEach_failed {body : β → Routine σ ε Unit} {before : List β} {item : β}
    {state mid state' : σ} {error : ε} (after : List β)
    (hbefore : forEach body before state = (.done (), mid))
    (hitem : body item mid = (.failed error, state')) :
    forEach body (before ++ item :: after) state = (.failed error, state') := by
  induction before generalizing state with
  | nil =>
    cases hbefore
    simp only [List.nil_append, forEach, bind, andThen, hitem]
  | cons first before ih =>
    simp only [forEach, bind, andThen] at hbefore
    cases hfirst : body first state with
    | mk result next =>
      rw [hfirst] at hbefore
      cases result with
      | failed error => cases hbefore
      | pending => cases hbefore
      | done value =>
        simp only [List.cons_append, forEach, bind, andThen, hfirst]
        exact ih hbefore

end Routine

end Regain.Lib
