import Regain.Lib.Float64

/-!
# Hub parameters

One declaration of a parameter gives its label, its units and the closed range
that validation enforces.  A policy is valid when every field is finite and in range.
-/

namespace Regain.Hub

open Lib

structure FieldError where
  path : String
  code : String
  message : String

/-- The declared part of a numeric parameter that validation reads. -/
structure Parameter where
  key : String
  label : String
  units : String
  minimum : F64
  maximum : F64
  /-- The bounds as the error message prints them. -/
  minimumText : String
  maximumText : String

def Parameter.check (parameter : Parameter) (value : F64) : List FieldError :=
  if !value.isFinite || !(decide (parameter.minimum ≤ value) && decide (value ≤ parameter.maximum))
  then [{
    path := parameter.key
    code := "range"
    message := parameter.label ++ " must be between " ++ parameter.minimumText ++ " and "
      ++ parameter.maximumText ++ " " ++ parameter.units }]
  else []

structure SafetyPolicy where
  confirmationSeconds : F64
  failedCyclesToUnsafe : UInt32
  unsafeReadingsToUnsafe : UInt32
  safeReadingsToSafe : UInt32
  maximumSafeAgeSeconds : F64
  returnToSafeHoldSeconds : F64

namespace SafetyPolicy

def confirmationSecondsParameter : Parameter where
  key := "confirmationSeconds"
  label := "Confirmation interval"
  units := "s"
  minimum := 0.1
  maximum := 3600.0
  minimumText := "0.1"
  maximumText := "3600"

def failedCyclesToUnsafeParameter : Parameter where
  key := "failedCyclesToUnsafe"
  label := "Failed checks before unsafe"
  units := "checks"
  minimum := 1.0
  maximum := 1000.0
  minimumText := "1"
  maximumText := "1000"

def unsafeReadingsToUnsafeParameter : Parameter where
  key := "unsafeReadingsToUnsafe"
  label := "Unsafe readings before unsafe"
  units := "readings"
  minimum := 1.0
  maximum := 1000.0
  minimumText := "1"
  maximumText := "1000"

def safeReadingsToSafeParameter : Parameter where
  key := "safeReadingsToSafe"
  label := "Safe readings before recovery"
  units := "readings"
  minimum := 1.0
  maximum := 1000.0
  minimumText := "1"
  maximumText := "1000"

def maximumSafeAgeSecondsParameter : Parameter where
  key := "maximumSafeAgeSeconds"
  label := "Maximum safe age"
  units := "s"
  minimum := 0.1
  maximum := 3600.0
  minimumText := "0.1"
  maximumText := "3600"

def returnToSafeHoldSecondsParameter : Parameter where
  key := "returnToSafeHoldSeconds"
  label := "Recovery hold"
  units := "s"
  minimum := 0.0
  maximum := 3600.0
  minimumText := "0"
  maximumText := "3600"

instance : Inhabited SafetyPolicy where
  default := {
    confirmationSeconds := 30.0
    failedCyclesToUnsafe := 3
    unsafeReadingsToUnsafe := 1
    safeReadingsToSafe := 3
    maximumSafeAgeSeconds := 90.0
    returnToSafeHoldSeconds := 10.0 }

def validate (policy : SafetyPolicy) : List FieldError :=
  confirmationSecondsParameter.check policy.confirmationSeconds
    ++ failedCyclesToUnsafeParameter.check (F64.ofUInt32 policy.failedCyclesToUnsafe)
    ++ unsafeReadingsToUnsafeParameter.check (F64.ofUInt32 policy.unsafeReadingsToUnsafe)
    ++ safeReadingsToSafeParameter.check (F64.ofUInt32 policy.safeReadingsToSafe)
    ++ maximumSafeAgeSecondsParameter.check policy.maximumSafeAgeSeconds
    ++ returnToSafeHoldSecondsParameter.check policy.returnToSafeHoldSeconds

example : (default : SafetyPolicy).validate = [] := by decide +kernel

end SafetyPolicy

end Regain.Hub
