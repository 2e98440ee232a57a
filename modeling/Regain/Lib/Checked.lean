import Mathlib.Algebra.Ring.Nat
import Mathlib.Data.List.Basic

/-!
# Checked programs

Lists are indexed with a check here: an index beyond the end, a difference below zero and a division
by zero stop the program, and a refusal returns an error.  `Returns` says that a program returns a
value with a property, `Safe` that it does so unless it refuses.
-/

namespace Regain.Lib

inductive Fault where
  /-- The program stops. -/
  | panic
  | refused (message : String)
  deriving DecidableEq

abbrev Checked (α : Type) := Except Fault α

namespace Checked

def ensure (condition : Bool) (message : String) : Checked Unit :=
  if condition then .ok () else .error (.refused message)

def get (items : List α) (index : Nat) : Checked α :=
  match items[index]? with
  | some item => .ok item
  | none => .error .panic

def set (items : List α) (index : Nat) (item : α) : Checked (List α) :=
  if index < items.length then .ok (items.set index item) else .error .panic

/-- The items from an index on. -/
def suffix (items : List α) (start : Nat) : Checked (List α) :=
  if start ≤ items.length then .ok (items.drop start) else .error .panic

/-- The items of a range of indices. -/
def slice (items : List α) (start stop : Nat) : Checked (List α) :=
  if start ≤ stop ∧ stop ≤ items.length then .ok ((items.take stop).drop start) else .error .panic

def minus (first second : Nat) : Checked Nat :=
  if second ≤ first then .ok (first - second) else .error .panic

/-- A 32-bit word; a larger value overflows. -/
def word32 (value : Nat) : Checked Nat :=
  if value < 4294967296 then .ok value else .error .panic

/-- A 64-bit word; a larger value overflows. -/
def word64 (value : Nat) : Checked Nat :=
  if value < 18446744073709551616 then .ok value else .error .panic

/-- The quotient and the remainder. -/
def divide (dividend divisor : Nat) : Checked (Nat × Nat) :=
  if divisor = 0 then .error .panic else .ok (dividend / divisor, dividend % divisor)

def Returns (program : Checked α) (post : α → Prop) : Prop :=
  ∃ value, program = .ok value ∧ post value

def Safe (program : Checked α) (post : α → Prop) : Prop :=
  program ≠ .error .panic ∧ ∀ value, program = .ok value → post value

section

variable {α β γ : Type} {program : Checked α} {post : α → Prop} {f : α → Checked β}
  {goal : β → Prop}

theorem Returns.safe (h : Returns program post) : Safe program post := by
  obtain ⟨value, rfl, hpost⟩ := h
  exact ⟨by simp, fun other hother => Except.ok.inj hother ▸ hpost⟩

theorem Returns.pure {value : α} (h : post value) : Returns (.ok value) post :=
  ⟨value, rfl, h⟩

theorem Returns.mono {weaker : α → Prop} (h : Returns program post)
    (hweaker : ∀ value, post value → weaker value) : Returns program weaker := by
  obtain ⟨value, heq, hpost⟩ := h
  exact ⟨value, heq, hweaker value hpost⟩

theorem Returns.bind (h : Returns program post) (hf : ∀ value, post value → Returns (f value) goal) :
    Returns (program >>= f) goal := by
  obtain ⟨value, rfl, hpost⟩ := h
  exact hf value hpost

theorem Safe.pure {value : α} (h : post value) : Safe (.ok value) post :=
  (Returns.pure h).safe

theorem Safe.bind (h : Safe program post) (hf : ∀ value, post value → Safe (f value) goal) :
    Safe (program >>= f) goal := by
  cases hprogram : program with
  | error fault =>
    refine ⟨fun heq => h.1 ?_, fun value hvalue => by cases hvalue⟩
    rw [hprogram]
    cases heq
    rfl
  | ok value => exact hf value (h.2 value hprogram)

/-- What is returned is known. -/
theorem Safe.known (h : Safe program post) :
    Safe program fun value => post value ∧ program = .ok value :=
  ⟨h.1, fun value hvalue => ⟨h.2 value hvalue, hvalue⟩⟩

theorem safe_refused (message : String) : Safe (.error (.refused message)) post :=
  ⟨by simp, fun value hvalue => by cases hvalue⟩

theorem safe_ensure (condition : Bool) (message : String) :
    Safe (ensure condition message) fun _ => condition = true := by
  unfold ensure
  split
  · rename_i hcondition
    exact Safe.pure hcondition
  · exact safe_refused message

theorem bind_eq_ok {f : α → Checked β} {value : β} :
    (program >>= f) = .ok value ↔ ∃ first, program = .ok first ∧ f first = .ok value := by
  cases program with
  | error fault => exact ⟨fun h => (by cases h), fun ⟨_, h, _⟩ => (by cases h)⟩
  | ok first => exact ⟨fun h => ⟨first, rfl, h⟩, fun ⟨_, rfl, h⟩ => h⟩

theorem ensure_bind_eq_ok {condition : Bool} {message : String} {result : Checked α} {value : α} :
    (do ensure condition message; result) = .ok value ↔ condition = true ∧ result = .ok value := by
  cases condition with
  | true => exact ⟨fun h => ⟨rfl, h⟩, fun h => h.2⟩
  | false => exact ⟨fun h => (by cases h), fun h => absurd h.1 (by decide)⟩

theorem word32_bind_eq_ok {word : Nat} {next : Nat → Checked α} {value : α} :
    (do let word ← word32 word; next word) = .ok value ↔ word < 4294967296 ∧ next word = .ok value := by
  by_cases h : word < 4294967296
  · have hword : word32 word = .ok word := if_pos h
    rw [hword]
    exact ⟨fun hnext => ⟨h, hnext⟩, fun hnext => hnext.2⟩
  · have hword : word32 word = .error .panic := if_neg h
    rw [hword]
    exact ⟨fun hnext => (by cases hnext), fun hnext => absurd hnext.1 h⟩

theorem returns_get {items : List α} {index : Nat} {item : α} (h : items[index]? = some item) :
    Returns (get items index) (· = item) :=
  ⟨item, by unfold get; rw [h], rfl⟩

theorem returns_get_of_lt {items : List α} {index : Nat} (h : index < items.length) :
    Returns (get items index) fun _ => True :=
  (returns_get (List.getElem?_eq_getElem h)).mono fun _ _ => trivial

theorem returns_set {items : List α} {index : Nat} (h : index < items.length) (item : α) :
    Returns (set items index item) (· = items.set index item) :=
  ⟨_, if_pos h, rfl⟩

theorem returns_minus {first second : Nat} (h : second ≤ first) :
    Returns (minus first second) (· = first - second) :=
  ⟨_, if_pos h, rfl⟩

theorem returns_foldlM {step : β → γ → Checked β} {inv : β → Prop} {items : List γ} {state : β}
    (hinv : inv state) (hstep : ∀ state, inv state → ∀ item ∈ items, Returns (step state item) inv) :
    Returns (items.foldlM step state) inv := by
  induction items generalizing state with
  | nil => exact Returns.pure hinv
  | cons item items ih =>
    rw [List.foldlM_cons]
    refine (hstep state hinv item List.mem_cons_self).bind fun next hnext => ih hnext ?_
    exact fun state hstate other hother => hstep state hstate other (List.mem_cons_of_mem _ hother)

/-- A loop that appends what it makes of each item. -/
theorem foldlM_append {step : List β → γ → Checked (List β)} {item : γ → List β} {items : List γ}
    (hstep : ∀ start, ∀ entry ∈ items, step start entry = .ok (start ++ item entry))
    (start : List β) : items.foldlM step start = .ok (start ++ items.flatMap item) := by
  induction items generalizing start with
  | nil => simp [pure, Except.pure]
  | cons entry items ih =>
    rw [List.foldlM_cons, hstep start entry List.mem_cons_self]
    have hrest := ih (fun start entry hmem => hstep start entry (List.mem_cons_of_mem _ hmem))
      (start ++ item entry)
    rw [List.flatMap_cons, ← List.append_assoc]
    exact hrest

/-- A loop that adds what it makes of each item. -/
theorem foldlM_sum {step : Nat → γ → Checked Nat} {item : γ → Nat} {items : List γ} (bound : Nat)
    (hstep : ∀ start, ∀ entry ∈ items, start + item entry ≤ bound →
      step start entry = .ok (start + item entry))
    {start : Nat} (hbound : start + (items.map item).sum ≤ bound) :
    items.foldlM step start = .ok (start + (items.map item).sum) := by
  induction items generalizing start with
  | nil => rfl
  | cons entry items ih =>
    rw [List.map_cons, List.sum_cons, ← Nat.add_assoc] at hbound ⊢
    rw [List.foldlM_cons, hstep start entry List.mem_cons_self (by omega)]
    exact ih (fun start entry hmem => hstep start entry (List.mem_cons_of_mem _ hmem)) hbound

theorem returns_allM {test : γ → Checked Bool} {items : List γ}
    (h : ∀ item ∈ items, Returns (test item) fun _ => True) :
    Returns (items.allM test) fun _ => True := by
  induction items with
  | nil => exact Returns.pure trivial
  | cons item items ih =>
    have hrest := ih fun other hother => h other (List.mem_cons_of_mem _ hother)
    refine (h item List.mem_cons_self).bind fun holds _ => ?_
    cases holds with
    | true => exact hrest
    | false => exact Returns.pure trivial

theorem returns_anyM {test : γ → Checked Bool} {items : List γ}
    (h : ∀ item ∈ items, Returns (test item) fun _ => True) :
    Returns (items.anyM test) fun _ => True := by
  induction items with
  | nil => exact Returns.pure trivial
  | cons item items ih =>
    have hrest := ih fun other hother => h other (List.mem_cons_of_mem _ hother)
    refine (h item List.mem_cons_self).bind fun holds _ => ?_
    cases holds with
    | true => exact Returns.pure trivial
    | false => exact hrest

end

end Checked

end Regain.Lib
