import Mathlib.Algebra.Order.Field.Rat

/-!
# Binary64 values and clock durations

A double is a rational number, an infinity or not a number. Arithmetic on finite doubles is exact
rational arithmetic followed by one rounding to the nearest representable value, ties to even. A
duration is a whole number of nanoseconds.
-/

namespace Regain.Lib

/-- The integer nearest to `value`, ties to the even neighbour. -/
def roundHalfEven (value : Rat) : Int :=
  let low := value.floor
  let rest := value - low
  if rest < 1 / 2 then low
  else if 1 / 2 < rest then low + 1
  else if low % 2 = 0 then low
  else low + 1

theorem roundHalfEven_le (value : Rat) : (roundHalfEven value : Rat) ≤ value + 1 / 2 := by
  have hlow : (value.floor : Rat) ≤ value := Rat.floor_le value
  have hhigh : value < ((value.floor + 1 : Int) : Rat) := Rat.lt_floor_add_one value
  simp only [roundHalfEven]
  split
  · grind
  · split
    · grind
    · split <;> grind

/-- An integer strictly below the rounded value is strictly below the value itself. -/
theorem lt_of_lt_roundHalfEven {count : Int} {value : Rat}
    (hlt : count < roundHalfEven value) : (count : Rat) < value := by
  have hround := roundHalfEven_le value
  have hnext : ((count + 1 : Int) : Rat) ≤ (roundHalfEven value : Rat) := by
    exact_mod_cast (show count + 1 ≤ roundHalfEven value by omega)
  grind

/-- `floor (log2 value)` for a positive rational. -/
def floorLog2 (value : Rat) : Int :=
  let guess : Int := (value.num.natAbs.log2 : Int) - (value.den.log2 : Int)
  if value < (2 : Rat) ^ guess then guess - 1 else guess

/-- The binary64 value nearest to `value` when the exponent range is unbounded above. -/
def roundBinary64 (value : Rat) : Rat :=
  if value = 0 then 0
  else
    let magnitude := if value < 0 then -value else value
    let unit := (2 : Rat) ^ max (floorLog2 magnitude - 52) (-1074)
    (roundHalfEven (value / unit) : Rat) * unit

inductive F64 where
  | finite (value : Rat)
  | infinite (negative : Bool)
  | nan
  deriving DecidableEq

namespace F64

/-- Round a rational to a double; magnitudes of `2 ^ 1024` and above overflow. -/
def ofRat (value : Rat) : F64 :=
  let rounded := roundBinary64 value
  if (2 : Rat) ^ (1024 : Nat) ≤ rounded then .infinite false
  else if rounded ≤ -(2 : Rat) ^ (1024 : Nat) then .infinite true
  else .finite rounded

instance : OfNat F64 count := ⟨ofRat (count : Nat)⟩

instance : OfScientific F64 :=
  ⟨fun mantissa negative exponent => ofRat (OfScientific.ofScientific mantissa negative exponent)⟩

/-- `n as f64` for a 32-bit count, which is exact. -/
def ofUInt32 (count : UInt32) : F64 :=
  .finite (count.toNat : Rat)

def isFinite : F64 → Bool
  | finite _ => true
  | infinite _ => false
  | nan => false

/-- The value of a finite double, zero otherwise. -/
def toRat : F64 → Rat
  | finite value => value
  | infinite _ => 0
  | nan => 0

/-- `a <= b` as the processor compares it: false whenever an operand is not a number. -/
def le : F64 → F64 → Bool
  | finite a, finite b => a ≤ b
  | infinite a, infinite b => a || !b
  | infinite a, finite _ => a
  | finite _, infinite b => !b
  | nan, _ => false
  | _, nan => false

instance : LE F64 := ⟨fun a b => a.le b = true⟩

/-- `a < b`: false whenever an operand is not a number. -/
def lt (a b : F64) : Bool :=
  a.le b && !b.le a

instance : LT F64 := ⟨fun a b => a.lt b = true⟩

instance (a b : F64) : Decidable (a ≤ b) := inferInstanceAs (Decidable (a.le b = true))

instance (a b : F64) : Decidable (a < b) := inferInstanceAs (Decidable (a.lt b = true))

/-! ### Arithmetic

The sign of zero is not kept; it matters only to a division by zero. -/

def neg : F64 → F64
  | finite value => finite (-value)
  | infinite negative => infinite !negative
  | nan => nan

def add : F64 → F64 → F64
  | finite a, finite b => ofRat (a + b)
  | infinite a, infinite b => if a = b then infinite a else nan
  | infinite a, finite _ => infinite a
  | finite _, infinite b => infinite b
  | nan, _ => nan
  | _, nan => nan

def sub (a b : F64) : F64 :=
  a.add b.neg

def mul : F64 → F64 → F64
  | finite a, finite b => ofRat (a * b)
  | infinite a, infinite b => infinite (a != b)
  | infinite a, finite b => if b = 0 then nan else infinite (a != decide (b < 0))
  | finite a, infinite b => if a = 0 then nan else infinite (decide (a < 0) != b)
  | nan, _ => nan
  | _, nan => nan

def div : F64 → F64 → F64
  | finite a, finite b =>
    if b ≠ 0 then ofRat (a / b)
    else if a = 0 then nan
    else infinite (decide (a < 0))
  | infinite a, finite b => infinite (a != decide (b < 0))
  | finite _, infinite _ => finite 0
  | infinite _, infinite _ => nan
  | nan, _ => nan
  | _, nan => nan

def abs : F64 → F64
  | finite value => finite (if value < 0 then -value else value)
  | infinite _ => infinite false
  | nan => nan

/-- `f64::min`: an operand that is not a number is ignored. -/
def min (a b : F64) : F64 :=
  if a = nan then b
  else if b = nan then a
  else if a ≤ b then a
  else b

/-- `f64::max`: an operand that is not a number is ignored. -/
def max (a b : F64) : F64 :=
  if a = nan then b
  else if b = nan then a
  else if a ≤ b then b
  else a

end F64

/-! ## Durations

A duration is a natural number of nanoseconds. -/

namespace Duration

def nanosPerSec : Nat := 1000000000

/-- A number of seconds rounded to the nearest nanosecond, ties to even. -/
def ofSecs (seconds : Rat) : Nat :=
  (roundHalfEven (seconds * nanosPerSec)).toNat

/-- `Duration::from_secs_f64` on the values it accepts. -/
def ofSecsF64 (seconds : F64) : Nat :=
  ofSecs seconds.toRat

/-- `Duration::try_from_secs_f64`: negative, infinite and overlong values are refused. -/
def tryFromSecsF64 : F64 → Option Nat
  | .finite seconds =>
    if seconds < 0 then none
    else if ofSecs seconds < 2 ^ 64 * nanosPerSec then some (ofSecs seconds)
    else none
  | .infinite _ => none
  | .nan => none

/-- The duration in seconds, as an exact rational number. -/
def toSecs (duration : Nat) : Rat :=
  (duration : Rat) / nanosPerSec

/-- `Duration::as_secs_f64`: whole seconds and the fraction are rounded separately. -/
def asSecsF64 (duration : Nat) : F64 :=
  F64.ofRat (roundBinary64 ((duration / nanosPerSec : Nat) : Rat)
    + roundBinary64 (((duration % nanosPerSec : Nat) : Rat) / nanosPerSec))

/-- A duration below a rounded limit is below the limit before rounding. -/
theorem toSecs_lt_of_lt_ofSecs {duration : Nat} {seconds : Rat}
    (hlt : duration < ofSecs seconds) : toSecs duration < seconds := by
  have hround : (duration : Int) < roundHalfEven (seconds * nanosPerSec) := by
    unfold ofSecs at hlt
    omega
  have hnanos := lt_of_lt_roundHalfEven hround
  have hpos : (0 : Rat) < (nanosPerSec : Rat) := by decide
  unfold toSecs
  rw [Rat.div_lt_iff hpos]
  exact_mod_cast hnanos

end Duration

end Regain.Lib
