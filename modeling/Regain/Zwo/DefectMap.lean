import Regain.Lib.Checked
import Regain.Lib.Raw16

/-!
# Defect maps

A camera stores the map of its defect pixels as a run-length stream of byte pairs: a pair of zeros
ends a block of 256 bytes of the bit map, another pair sets one byte of the current block.
-/

namespace Regain.Zwo.DefectMap

open Lib
open Checked

/-- A region of the sensor. -/
structure Roi where
  width : Nat
  height : Nat
  x : Nat
  y : Nat

structure Profile where
  sensorWidth : Nat
  sensorHeight : Nat
  /-- The distance to the next pixel of the same colour. -/
  step : Nat
  depth : Nat
  deriving DecidableEq

structure Defects where
  indices : List Nat
  mask : List Bool
  width : Nat
  height : Nat
  step : Nat
  depthMask : Nat
  deriving DecidableEq

def Roi.within (roi : Roi) (profile : Profile) : Bool :=
  decide (8 ≤ roi.width) && decide (4 ≤ roi.height) && decide (roi.width ≤ profile.sensorWidth)
    && decide (roi.height ≤ profile.sensorHeight)
    && decide (roi.x ≤ profile.sensorWidth - roi.width)
    && decide (roi.y ≤ profile.sensorHeight - roi.height)

def declaredLength : List UInt8 → Checked Nat
  | a :: s :: i :: d :: first :: second :: third :: fourth :: _ =>
    if [a, s, i, d] = [0x41, 0x53, 0x49, 0x44] then do
      let length := ((first.toNat * 256 + second.toNat) * 256 + third.toNat) * 256 + fourth.toNat
      ensure (decide (8 ≤ length) && decide (length ≤ 0x30000) && decide (length % 2 = 0))
        "invalid ASID length"
      return length
    else .error (.refused "missing ASID calibration header")
  | _ => .error (.refused "missing ASID calibration header")

def pairs : List UInt8 → List (UInt8 × UInt8)
  | first :: second :: rest => (first, second) :: pairs rest
  | _ => []

def swapNibbles (byte : UInt8) : Nat :=
  byte.toNat % 16 * 16 + byte.toNat / 16

def nextMultipleOf (value factor : Nat) : Nat :=
  (value + factor - 1) / factor * factor

def writePair (state : List UInt8 × Nat) (pair : UInt8 × UInt8) : Checked (List UInt8 × Nat) :=
  if pair = (0, 0) then do
    let base := state.2 + 256
    ensure (decide (base ≤ nextMultipleOf state.1.length 256)) "ASID block overflow"
    return (state.1, base)
  else do
    let address := state.2 + swapNibbles pair.1
    ensure (decide (address < state.1.length)) "ASID pixel offset overflow"
    let packed ← set state.1 address pair.2
    return (packed, state.2)

/-- The mask and the indices found so far. -/
structure Marks where
  mask : List Bool
  indices : List Nat

def mark (packed : List UInt8) (roi : Roi) (profile : Profile) (marks : Marks)
    (position : Nat × Nat) : Checked Marks := do
  let (row, column) := position
  let sensor := (roi.y + row) * profile.sensorWidth + roi.x + column
  let byte ← get packed (sensor / 8)
  if byte &&& (1 <<< UInt8.ofNat (sensor % 8)) ≠ 0 then
    let index := row * roi.width + column
    let mask ← set marks.mask index true
    return ⟨mask, marks.indices ++ [index]⟩
  else return marks

def positions (width height : Nat) : List (Nat × Nat) :=
  (List.range height).flatMap fun row => (List.range width).map fun column => (row, column)

def covers (mask : List Bool) (lines places : Nat) (index : Nat → Nat → Nat) : Checked Bool :=
  (List.range lines).anyM fun line => (List.range places).allM fun place =>
    get mask (index line place)

def coversLine (mask : List Bool) (roi : Roi) : Checked Bool := do
  if ← covers mask roi.height roi.width fun row column => row * roi.width + column then return true
  else covers mask roi.width roi.height fun column row => row * roi.width + column

def decodeProfile (data : List UInt8) (roi : Roi) (profile : Profile) : Checked Defects := do
  ensure (roi.within profile) "invalid correction ROI"
  let length ← declaredLength data
  ensure (decide (length ≤ data.length)) "truncated ASID calibration"
  let body ← slice data 8 length
  let (packed, _) ← (pairs body).foldlM writePair
    (List.replicate (profile.sensorWidth * profile.sensorHeight / 8) 0, 0)
  let marks ← (positions roi.width roi.height).foldlM (mark packed roi profile)
    ⟨List.replicate (roi.width * roi.height) false, []⟩
  ensure (decide (marks.indices.length ≤ 100000)) "unsupported defect count"
  let line ← coversLine marks.mask roi
  ensure (!line) "row/column defect correction is not implemented"
  return {
    indices := marks.indices
    mask := marks.mask
    width := roi.width
    height := roi.height
    step := profile.step
    depthMask := (65535 <<< (16 - profile.depth)) % 65536 }

def profile662 : Profile := ⟨1920, 1080, 2, 12⟩

def profile676 : Profile := ⟨3552, 3552, 2, 12⟩

def profileDuo : Profile := ⟨6248, 4176, 1, 16⟩

def profileGuide : Profile := ⟨1920, 1080, 1, 12⟩

def profile6200 : Profile := ⟨9576, 6388, 1, 16⟩

def profile585 : Profile := ⟨3840, 2160, 1, 12⟩

def profiles : List Profile :=
  [profile662, profile676, profileDuo, profileGuide, profile6200, profile585]

def pixel (data : List UInt8) (index : Nat) : Checked Nat := do
  let low ← get data (2 * index)
  let high ← get data (2 * index + 1)
  return Raw16.ofBytes low high

def putPixel (data : List UInt8) (index value : Nat) : Checked (List UInt8) :=
  if 2 * index + 2 ≤ data.length then .ok (Raw16.put data index value) else .error .panic

def borderSource (defects : Defects) (position index : Nat) : Checked Nat := do
  let step := defects.step
  let last ← minus defects.mask.length 1
  let right := min (index + step) last
  if defects.indices[position + 1]? ≠ some right then return right
  else if step * defects.width ≤ index then minus index (step * defects.width)
  else
    let below := index + step * defects.width
    let rest ← suffix defects.indices (position + 1)
    -- the indices increase, so the binary search finds what is there
    if rest.contains below then return min (below + step) last
    else return below

def neighbors (defects : Defects) (index : Nat) : Checked (List Nat) := do
  let above ← minus index (defects.step * defects.width)
  let left ← minus index defects.step
  return [above, left, index + defects.step, index + defects.step * defects.width]

/-- Add a neighbour that is no defect, or a corrected one, to the sum and the count. -/
def addNeighbor (defects : Defects) (data : List UInt8) (index : Nat) (total : Nat × Nat)
    (neighbor : Nat) : Checked (Nat × Nat) := do
  let masked ← get defects.mask neighbor
  if !masked || decide (neighbor ≤ index) then
    let value ← pixel data neighbor
    return (total.1 + value, total.2 + 1)
  else return total

/-- The mean of the neighbours, or the pixel to the left if all of them are defects. -/
def mean (data : List UInt8) (index : Nat) (total : Nat × Nat) : Checked Nat :=
  if total.2 = 0 then do pixel data (← minus index 1) else .ok (total.1 / total.2 % 65536)

def average (defects : Defects) (data : List UInt8) (index : Nat) : Checked Nat := do
  let total ← (← neighbors defects index).foldlM (addNeighbor defects data index) (0, 0)
  let value ← mean data index total
  return value &&& defects.depthMask

def replacement (defects : Defects) (data : List UInt8) (position index : Nat) : Checked Nat := do
  let step := defects.step
  let (y, x) ← divide index defects.width
  if x < step ∨ y < step then pixel data (← borderSource defects position index)
  else if (← minus defects.width step) ≤ x ∨ (← minus defects.height step) ≤ y then
    pixel data (← minus index step)
  else average defects data index

def correctAt (defects : Defects) (data : List UInt8) (entry : Nat × Nat) :
    Checked (List UInt8) := do
  let (index, position) := entry
  let value ← replacement defects data position index
  putPixel data index value

def correct (defects : Defects) (data : List UInt8) : Checked (List UInt8) := do
  ensure (decide (data.length = defects.width * defects.height * 2))
    "correction frame length mismatch"
  defects.indices.zipIdx.foldlM (correctAt defects) data

end Regain.Zwo.DefectMap
