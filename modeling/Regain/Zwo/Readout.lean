import Regain.Zwo.DefectMap

/-!
# Readouts

Two cameras read a region out of their sensors, and a host bins it. A small region is read as a
larger one around it, since a readout of fewer bytes stalls.
-/

namespace Regain.Zwo.Readout

open Lib
open Checked

structure Settings where
  width : Nat
  height : Nat
  x : Nat
  y : Nat
  microseconds : Nat
  gain : Nat := 0
  offset : Nat := 10
  replayPrefixBytes : Nat := 0
  interruptReadAfterBytes : Nat := 0
  timeoutReadAfterBytes : Nat := 0
  readRetries : Nat := 2
  reopenAfterBytes : Nat := 0
  reopenDelayMs : Nat := 1000
  deriving DecidableEq

def maxExposure : Nat := 2000000000

def minimumArea : Nat := 65536

def checkedMul (first second : Nat) (message : String) : Checked Nat :=
  if first * second < 4294967296 then .ok (first * second) else .error (.refused message)

/-- The width and the height of a sensor. -/
structure Sensor where
  width : Nat
  height : Nat

def Sensor.holds (sensor : Sensor) (s : Settings) : Bool :=
  decide (64 ≤ s.width) && decide (s.width ≤ sensor.width) && decide (s.width % 8 = 0)
    && decide (64 ≤ s.height) && decide (s.height ≤ sensor.height) && decide (s.height % 2 = 0)
    && decide (s.x % 16 = 0) && decide (s.y % 2 = 0) && decide (s.x ≤ sensor.width - s.width)
    && decide (s.y ≤ sensor.height - s.height)

def packetAligned (bytes count : Nat) : Bool :=
  decide (count = 0)
    || decide (1024 ≤ count) && decide (count < bytes) && decide (count % 1024 = 0)

def rawSettings (name : String) (validate : Settings → Int → Checked Unit) (s : Settings)
    (gain : Int) (bin : Nat) : Checked Settings := do
  ensure (decide (1 ≤ bin) && decide (bin ≤ 4)) (name ++ " bin must be 1..4")
  ensure (decide (s.width % 8 = 0) && decide (s.height % 2 = 0))
    (name ++ " output dimensions require width multiple of 8 and even height")
  let width ← checkedMul s.width bin (name ++ " width overflow")
  let height ← checkedMul s.height bin (name ++ " height overflow")
  let x ← checkedMul s.x bin (name ++ " x overflow")
  let y ← checkedMul s.y bin (name ++ " y overflow")
  let raw := { s with width := width, height := height, x := x, y := y }
  validate raw gain
  return raw

def Sensor.settings (sensor : Sensor) (raw : Settings) : Checked Settings := do
  let area ← word32 (raw.width * raw.height)
  if area < minimumArea then
    let width := max raw.width 512
    let height := max raw.height 128
    let columns ← minus sensor.width width
    let rows ← minus sensor.height height
    return { raw with
      width := width, height := height, x := min raw.x (columns / 16 * 16), y := min raw.y rows }
  else return raw

def steps (stop bin : Nat) : List Nat :=
  (List.range ((stop + bin - 1) / bin)).map (· * bin)

def squareSum (data : List UInt8) (width bin x y : Nat) : Checked Nat :=
  (List.range bin).foldlM (fun sum dy =>
    (List.range bin).foldlM (fun sum dx => do
      let index ← word64 (((y + dy) * width + x + dx) * 2)
      let low ← get data index
      let high ← get data (index + 1)
      word32 (sum + Raw16.ofBytes low high)) sum) 0

def sampleBytes (value : Nat) : List UInt8 :=
  [.ofNat value, .ofNat (value / 256)]

def binAverage (data : List UInt8) (width height bin : Nat) : Checked (List UInt8) := do
  ensure (decide (1 ≤ bin) && decide (bin ≤ 4) && decide (width % bin = 0)
    && decide (height % bin = 0) && decide (data.length = width * height * 2))
    "invalid software bin geometry"
  (steps height bin).foldlM (fun result y =>
    (steps width bin).foldlM (fun result x => do
      let sum ← squareSum data width bin x y
      return result ++ sampleBytes (sum / (bin * bin))) result) []

def crop (raw sensor : Settings) (data : List UInt8) : Checked (List UInt8) :=
  (List.range raw.height).foldlM (fun cropped row => do
    let line ← minus (← word32 (row + raw.y)) sensor.y
    let place ← minus (← word32 ((← word32 (line * sensor.width)) + raw.x)) sensor.x
    let start ← word64 (place * 2)
    let pixels ← slice data start (start + raw.width * 2)
    return cropped ++ pixels) []

def cropFrame (raw sensor : Settings) (data : List UInt8) : Checked (List UInt8) :=
  if sensor.width ≠ raw.width ∨ sensor.height ≠ raw.height then crop raw sensor data
  else .ok data

def binFrame (raw : Settings) (bin : Nat) (data : List UInt8) : Checked (List UInt8) :=
  if 1 < bin then binAverage data raw.width raw.height bin else .ok data

structure Metadata where
  wireBytes : Nat
  rawWidth : Nat
  rawHeight : Nat
  rawX : Nat
  rawY : Nat
  width : Nat
  height : Nat
  bin : Nat
  x : Nat
  y : Nat
  bytes : Nat

def finishOutput (s raw sensor : Settings) (bin : Nat) (data : List UInt8) :
    Checked (Metadata × List UInt8) := do
  let cropped ← cropFrame raw sensor data
  let binned ← binFrame raw bin cropped
  let wireBytes ← word32 (sensor.width * sensor.height * 2)
  return ({
    wireBytes := wireBytes
    rawWidth := sensor.width
    rawHeight := sensor.height
    rawX := sensor.x
    rawY := sensor.y
    width := s.width
    height := s.height
    bin := bin
    x := s.x
    y := s.y
    bytes := binned.length }, binned)

namespace Asi6200

def sensor : Sensor := ⟨9576, 6388⟩

def validate (s : Settings) (gain : Int) : Checked Unit := do
  ensure (sensor.holds s) "invalid ASI6200 bin-1 ROI (x multiple of 16, y even)"
  ensure (decide (32 ≤ s.microseconds) && decide (s.microseconds ≤ maxExposure)
    && decide (0 ≤ gain) && decide (gain ≤ 700) && decide (s.offset ≤ 200)
    && decide (s.readRetries ≤ 5)) "unsupported ASI6200 exposure/controls"
  let bytes ← word32 (s.width * s.height * 2)
  ensure (decide (s.interruptReadAfterBytes = 0) || decide (s.timeoutReadAfterBytes = 0))
    "choose one read fault injection"
  forM [s.interruptReadAfterBytes, s.replayPrefixBytes, s.timeoutReadAfterBytes] fun count =>
    ensure (packetAligned bytes count)
      "ASI6200 interruption prefix must be packet aligned and shorter than the frame"

def rawSettings : Settings → Int → Nat → Checked Settings :=
  Readout.rawSettings "ASI6200" validate

def sensorSettings : Settings → Checked Settings :=
  sensor.settings

end Asi6200

namespace Asi2600

def sensor : Sensor := ⟨6248, 4176⟩

def validate (s : Settings) (gain : Int) : Checked Unit := do
  ensure (sensor.holds s) "invalid Duo bin-1 ROI (x multiple of 16, y even)"
  ensure (decide (32 ≤ s.microseconds) && decide (s.microseconds ≤ maxExposure)
    && decide (-25 ≤ gain) && decide (gain ≤ 700) && decide (s.offset ≤ 240)
    && decide (s.readRetries ≤ 5)) "unsupported Duo exposure/controls"
  let bytes ← word32 (s.width * s.height * 2)
  ensure (decide (s.reopenDelayMs ≤ 10000)) "reopen delay must be at most 10000 ms"
  ensure (decide (s.reopenAfterBytes = 0) || decide (s.interruptReadAfterBytes = 0)
    && decide (s.timeoutReadAfterBytes = 0) && decide (0 < s.readRetries))
    "reopen experiment requires read retries and no other injected fault"
  ensure (decide (s.interruptReadAfterBytes = 0) || decide (s.timeoutReadAfterBytes = 0))
    "choose one read fault injection"
  forM [s.interruptReadAfterBytes, s.replayPrefixBytes, s.timeoutReadAfterBytes,
    s.reopenAfterBytes] fun count =>
      ensure (packetAligned bytes count)
        "Duo interruption prefix must be packet aligned and shorter than the frame"

def rawSettings : Settings → Int → Nat → Checked Settings :=
  Readout.rawSettings "Duo" validate

def sensorSettings : Settings → Checked Settings :=
  sensor.settings

end Asi2600

inductive Model where
  | asi2600
  | asi6200

namespace Model

def sensor : Model → Sensor
  | asi2600 => Asi2600.sensor
  | asi6200 => Asi6200.sensor

def validate : Model → Settings → Int → Checked Unit
  | asi2600 => Asi2600.validate
  | asi6200 => Asi6200.validate

def rawSettings : Model → Settings → Int → Nat → Checked Settings
  | asi2600 => Asi2600.rawSettings
  | asi6200 => Asi6200.rawSettings

def sensorSettings : Model → Settings → Checked Settings
  | asi2600 => Asi2600.sensorSettings
  | asi6200 => Asi6200.sensorSettings

def capture (model : Model) (native : Settings → Int → Checked (List UInt8)) (s : Settings)
    (gain : Int) (bin : Nat) : Checked (Metadata × List UInt8) := do
  let raw ← model.rawSettings s gain bin
  let sensor ← model.sensorSettings raw
  model.validate sensor gain
  let data ← native sensor gain
  finishOutput s raw sensor bin data

end Model

end Regain.Zwo.Readout
