import Mathlib.Algebra.Order.Field.Rat

/-!
# Reading from a byte pipe

A reader takes exact amounts of bytes from a pipe. The pipe holds the bytes that its writer has
produced so far, and a budget says after how many further bytes the reader is interrupted. Every
reader only moves forward.
-/

namespace Regain.Lib

structure Pipe where
  available : List UInt8
  budget : Nat
  consumed : List UInt8

/-- Bytes moved from the front of the pipe to the end of the consumed ones. -/
def Pipe.Advances (pipe pipe' : Pipe) (bytes : List UInt8) : Prop :=
  pipe.available = bytes ++ pipe'.available ∧ pipe'.consumed = pipe.consumed ++ bytes

theorem Pipe.Advances.refl (pipe : Pipe) : pipe.Advances pipe [] :=
  ⟨rfl, by simp⟩

theorem Pipe.Advances.trans {pipe pipe' pipe'' : Pipe} {bytes bytes' : List UInt8}
    (hfirst : pipe.Advances pipe' bytes) (hsecond : pipe'.Advances pipe'' bytes') :
    pipe.Advances pipe'' (bytes ++ bytes') := by
  obtain ⟨havailable, hconsumed⟩ := hfirst
  obtain ⟨havailable', hconsumed'⟩ := hsecond
  exact ⟨by rw [havailable, havailable', List.append_assoc],
    by rw [hconsumed', hconsumed, List.append_assoc]⟩

/-- Why a reader ended without a value. -/
inductive Stop (ε : Type) where
  | interrupted
  | error (error : ε)

structure Reader (ε α : Type) where
  run : Pipe → Except (Stop ε) α × Pipe
  forward : ∀ pipe : Pipe, ∃ bytes, pipe.Advances (run pipe).2 bytes

namespace Reader

variable {ε α β : Type}

def ret (value : α) : Reader ε α where
  run pipe := (.ok value, pipe)
  forward pipe := ⟨[], Pipe.Advances.refl pipe⟩

def fail (error : ε) : Reader ε α where
  run pipe := (.error (.error error), pipe)
  forward pipe := ⟨[], Pipe.Advances.refl pipe⟩

def andThen (reader : Reader ε α) (next : α → Reader ε β) : Reader ε β where
  run pipe :=
    match reader.run pipe with
    | (.ok value, pipe') => (next value).run pipe'
    | (.error stop, pipe') => (.error stop, pipe')
  forward pipe := by
    obtain ⟨bytes, hfirst⟩ := reader.forward pipe
    cases hrun : reader.run pipe with
    | mk result pipe' =>
      rw [hrun] at hfirst
      cases result with
      | error stop => exact ⟨bytes, hfirst⟩
      | ok value =>
        obtain ⟨bytes', hsecond⟩ := (next value).forward pipe'
        exact ⟨bytes ++ bytes', hfirst.trans hsecond⟩

instance : Monad (Reader ε) where
  pure := ret
  bind := andThen

/-- Go on only if a condition holds. -/
def ensure (condition : Bool) (error : ε) : Reader ε Unit :=
  if condition then ret () else fail error

def ofExcept (result : Except ε α) : Reader ε α :=
  match result with
  | .ok value => ret value
  | .error error => fail error

/-- The bytes an interrupted read of `count` bytes still consumes. -/
def partialCount (pipe : Pipe) (count : Nat) : Nat :=
  min count (min pipe.budget pipe.available.length)

/-- Consume exactly `count` bytes, or be interrupted on the way. -/
def exactly (count : Nat) : Reader ε (List UInt8) where
  run pipe :=
    if count ≤ pipe.budget ∧ count ≤ pipe.available.length then
      (.ok (pipe.available.take count), {
        available := pipe.available.drop count
        budget := pipe.budget - count
        consumed := pipe.consumed ++ pipe.available.take count })
    else
      (.error .interrupted, {
        available := pipe.available.drop (partialCount pipe count)
        budget := 0
        consumed := pipe.consumed ++ pipe.available.take (partialCount pipe count) })
  forward pipe := by
    split
    · exact ⟨_, (List.take_append_drop _ _).symm, rfl⟩
    · exact ⟨_, (List.take_append_drop _ _).symm, rfl⟩

variable {pipe pipe' : Pipe}

theorem andThen_ok {reader : Reader ε α} {next : α → Reader ε β} {value : β}
    (hrun : (reader >>= next).run pipe = (.ok value, pipe')) :
    ∃ first mid, reader.run pipe = (.ok first, mid) ∧ (next first).run mid = (.ok value, pipe') := by
  simp only [bind, andThen] at hrun
  split at hrun
  · rename_i first mid hfirst
    exact ⟨first, mid, hfirst, hrun⟩
  · exact nomatch (Prod.mk.inj hrun).1

theorem andThen_error {reader : Reader ε α} {next : α → Reader ε β} {stop : Stop ε}
    (hrun : (reader >>= next).run pipe = (.error stop, pipe')) :
    reader.run pipe = (.error stop, pipe') ∨ ∃ first mid, reader.run pipe = (.ok first, mid)
        ∧ (next first).run mid = (.error stop, pipe') := by
  simp only [bind, andThen] at hrun
  split at hrun
  · rename_i first mid hfirst
    exact .inr ⟨first, mid, hfirst, hrun⟩
  · rename_i stop' mid hfirst
    obtain ⟨hstop, rfl⟩ := Prod.mk.inj hrun
    cases hstop
    exact .inl hfirst

theorem ensure_ok {condition : Bool} {error : ε} {value : Unit}
    (hrun : (ensure condition error).run pipe = (.ok value, pipe')) :
    condition = true ∧ pipe' = pipe := by
  cases condition with
  | true => exact ⟨rfl, (Prod.mk.inj hrun).2.symm⟩
  | false => exact nomatch (Prod.mk.inj hrun).1

theorem ensure_error {condition : Bool} {error : ε} {stop : Stop ε}
    (hrun : (ensure condition error).run pipe = (.error stop, pipe')) :
    stop = .error error ∧ pipe' = pipe := by
  cases condition with
  | true => exact nomatch (Prod.mk.inj hrun).1
  | false =>
    obtain ⟨hstop, hpipe⟩ := Prod.mk.inj hrun
    cases hstop
    exact ⟨rfl, hpipe.symm⟩

theorem ofExcept_ok {result : Except ε α} {value : α}
    (hrun : (ofExcept result).run pipe = (.ok value, pipe')) :
    result = .ok value ∧ pipe' = pipe := by
  cases result with
  | error error => exact nomatch (Prod.mk.inj hrun).1
  | ok found =>
    obtain ⟨hvalue, hpipe⟩ := Prod.mk.inj hrun
    cases hvalue
    exact ⟨rfl, hpipe.symm⟩

theorem ofExcept_error {result : Except ε α} {stop : Stop ε}
    (hrun : (ofExcept result).run pipe = (.error stop, pipe')) :
    ∃ error, result = .error error ∧ stop = .error error ∧ pipe' = pipe := by
  cases result with
  | ok found => exact nomatch (Prod.mk.inj hrun).1
  | error error =>
    obtain ⟨hstop, hpipe⟩ := Prod.mk.inj hrun
    cases hstop
    exact ⟨error, rfl, rfl, hpipe.symm⟩

theorem exactly_ok {count : Nat} {bytes : List UInt8}
    (hrun : (exactly count : Reader ε _).run pipe = (.ok bytes, pipe')) :
    bytes.length = count ∧ pipe.Advances pipe' bytes := by
  simp only [exactly] at hrun
  split at hrun
  · rename_i henough
    obtain ⟨hbytes, rfl⟩ := Prod.mk.inj hrun
    cases hbytes
    exact ⟨by simp [Nat.min_eq_left henough.2], (List.take_append_drop _ _).symm, rfl⟩
  · exact nomatch (Prod.mk.inj hrun).1

theorem exactly_error {count : Nat} {stop : Stop ε}
    (hrun : (exactly count : Reader ε _).run pipe = (.error stop, pipe')) :
    stop = .interrupted := by
  simp only [exactly] at hrun
  split at hrun
  · exact nomatch (Prod.mk.inj hrun).1
  · have hstop := (Prod.mk.inj hrun).1
    cases hstop
    rfl

end Reader

/-- The four bytes of a 32-bit word, lowest first. -/
def littleEndian32 (value : Nat) : List UInt8 :=
  [UInt8.ofNat value, UInt8.ofNat (value / 2 ^ 8), UInt8.ofNat (value / 2 ^ 16),
    UInt8.ofNat (value / 2 ^ 24)]

/-- The number that bytes denote, lowest first. -/
def ofLittleEndian : List UInt8 → Nat
  | [] => 0
  | byte :: rest => byte.toNat + 2 ^ 8 * ofLittleEndian rest

end Regain.Lib
