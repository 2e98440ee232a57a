import Regain.Lib.Json

/-!
# White balance settings

The modes, outputs and gains of the software white balance, as a session keeps them.
-/

namespace Regain.Core.WhiteBalance

open Lib

inductive Mode where
  | off
  | manual
  | once
  | continuous
  | locked
  deriving DecidableEq

inductive Output where
  | raw
  | corrected
  deriving DecidableEq

/-- Linear multipliers relative to green. -/
structure Gains where
  red : F64 := 1
  blue : F64 := 1

structure Settings where
  mode : Mode := .off
  gains : Gains := {}
  output : Output := .raw

def Gains.accepts (gain : F64) : Bool :=
  gain.isFinite && decide (0.125 ≤ gain) && decide (gain ≤ 8)

def Gains.validate (gains : Gains) : Except String Unit :=
  if accepts gains.red && accepts gains.blue then .ok ()
  else .error "white balance gains must be finite linear multipliers between 0.125 and 8"

end Regain.Core.WhiteBalance
