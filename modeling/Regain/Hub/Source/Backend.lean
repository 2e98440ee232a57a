import Mathlib.Data.Finset.Card
import Regain.Hub.Safety.Endpoint
import Regain.Lib.Json
import Regain.Lib.MapValues

/-!
# Sources and their samples

What a source answers, and what its actor publishes of it.  Samples are flat typed
values; a batch that would exceed the bounds of the cache is refused as a whole.
-/

namespace Regain.Hub

open Lib
open Std (TreeMap)

inductive ErrorKind where
  | connecting
  | disconnected
  | busy
  | transient
  | permanent
  | uncertain
  | unsupported
  | invalidValue
  | unavailable
  deriving DecidableEq

structure SourceError where
  kind : ErrorKind
  message : String
  upstreamCode : Option Int
  retryAfter : Option Nat
  /-- The adapter can no longer match responses to requests. -/
  transportLost : Bool
  deriving DecidableEq

namespace SourceError

def new (kind : ErrorKind) (message : String) : SourceError where
  kind := kind
  message := message
  upstreamCode := none
  retryAfter := none
  transportLost := false

def transient : SourceError :=
  new .transient "Source request failed or timed out"

def timeout : SourceError :=
  { transient with transportLost := true }

def uncertain : SourceError :=
  new .uncertain
    "The write may have reached the device; reconcile its state before another command"

def closed : SourceError :=
  new .disconnected "Source actor stopped"

def leavesWriteOpen (error : SourceError) : Bool :=
  error.kind == .transient || error.kind == .uncertain

def isRetryable (error : SourceError) : Bool :=
  error.kind == .transient || error.kind == .disconnected

end SourceError

abbrev Values := TreeMap String Json

def maxSampleKeys : Nat := 1024
def maxSampleTextBytes : Nat := 1024 * 1024
def maxSampleArrayLength : Nat := 1024
def maxSampleArrayItems : Nat := 4096

structure SampleBatch where
  values : Values
  errors : TreeMap String SourceError
  agesSeconds : TreeMap String F64
  /-- The oldest safe request that a virtual safety source rests on. -/
  safetyObservedAt : Option Nat
  /-- Merge the supplied keys only. -/
  isPartial : Bool
  more : Bool

/-- Shared admission of all values of one cache. -/
structure SampleBudget where
  textBytes : Nat
  arrayItems : Nat

namespace SampleBudget

def admitItems (budget : SampleBudget) : List Json → Bool × SampleBudget
  | [] => (true, budget)
  | item :: items =>
    let textBytes :=
      match item with
      | .string text => some (budget.textBytes + text.utf8ByteSize)
      | .bool _ => some budget.textBytes
      | .number _ => some budget.textBytes
      | .null => none
      | .array _ => none
      | .object _ => none
    match textBytes with
    | none => (false, budget)
    | some textBytes =>
      if maxSampleTextBytes < textBytes then (false, { budget with textBytes := textBytes })
      else { budget with textBytes := textBytes }.admitItems items

def admits (budget : SampleBudget) (value : Json) : Bool × SampleBudget :=
  match value with
  | .array items =>
    let budget := { budget with arrayItems := budget.arrayItems + items.length }
    if maxSampleArrayLength < items.length || maxSampleArrayItems < budget.arrayItems then
      (false, budget)
    else budget.admitItems items
  | value => budget.admitItems [value]

def admitsAll (budget : SampleBudget) : List Json → Bool
  | [] => true
  | value :: values =>
    let admitted := budget.admits value
    admitted.1 && admitted.2.admitsAll values

end SampleBudget

/-- The published state of a source.  Times are kept in nanoseconds. -/
structure SourceSnapshot where
  resumeEpoch : Nat
  source : Uuid
  revision : Uuid
  generation : Uuid
  sequence : Nat
  transportConnected : Bool
  writeUncertain : Bool
  leaseCount : Nat
  values : Values
  sampleErrors : TreeMap String SourceError
  sampleAges : TreeMap String F64
  sampleStarted : TreeMap String Nat
  sampleSequences : TreeMap String Nat
  completedPasses : Nat
  sampledAt : Option Nat
  error : Option SourceError

def SourceSnapshot.forget (state : SourceSnapshot) : SourceSnapshot :=
  { state with
    values := ∅
    sampleErrors := ∅
    sampleAges := ∅
    sampleStarted := ∅
    sampledAt := none }

def SourceSnapshot.restart (state : SourceSnapshot) (generation : Uuid) : SourceSnapshot :=
  { state.forget with generation := generation, sequence := 0, sampleSequences := ∅ }

def sampleKeys (state : SourceSnapshot) (batch : SampleBatch) : Finset String :=
  (state.sampleSequences.keys ++ (if batch.isPartial then state.sampleErrors.keys else [])
    ++ batch.values.keys ++ batch.errors.keys).toFinset

def isAge (age : F64) : Bool :=
  age.isFinite && !decide (age < 0)

def validateBatch (state : SourceSnapshot) (batch : SampleBatch) : Except SourceError Unit :=
  let retained := (state.values.toList.filter fun entry =>
    batch.isPartial && !batch.values.contains entry.1 && !batch.errors.contains entry.1).map Prod.snd
  if maxSampleKeys < batch.values.size || maxSampleKeys < batch.errors.size
      || maxSampleKeys < batch.agesSeconds.size
      || (batch.values.keys ++ batch.errors.keys).any
          (fun key => key.isEmpty || 200 < key.utf8ByteSize)
      || maxSampleKeys < (sampleKeys state batch).card
      || batch.values.keys.any (fun key => batch.errors.contains key)
      || batch.agesSeconds.toList.any
          (fun entry => !batch.values.contains entry.1 || !isAge entry.2)
      || !(SampleBudget.mk 0 0).admitsAll (retained ++ mapValues batch.values) then
    .error (.new .permanent "Invalid or oversized source sample cache")
  else .ok ()

structure PollEvent where
  source : Uuid
  revision : Uuid
  generation : Uuid
  sequence : Nat
  started : Nat
  received : Nat
  result : Except SourceError Values
  cycleExhausted : Bool

end Regain.Hub
