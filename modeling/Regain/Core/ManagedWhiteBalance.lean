import Regain.Core.WhiteBalance
import Regain.Lib.Machine
import Regain.Lib.Raw16
import Regain.Lib.Rounding

/-!
# Managed white balance

The software white balance estimates the gains of the red and the blue samples of a frame and, when
the corrected output is selected, applies them.  The gains are exact numbers here; the source
computes them with doubles.
-/

namespace Regain.Core.WhiteBalance

open Lib

/-- Linear multipliers relative to green, in exact arithmetic. -/
structure ExactGains where
  red : ℚ := 1
  blue : ℚ := 1

def Gains.exact (gains : Gains) : ExactGains :=
  ⟨gains.red.toRat, gains.blue.toRat⟩

namespace ExactGains

def Within (gain : ℚ) : Prop :=
  1 / 8 ≤ gain ∧ gain ≤ 8

instance (gain : ℚ) : Decidable (Within gain) :=
  inferInstanceAs (Decidable (_ ∧ _))

def Valid (gains : ExactGains) : Prop :=
  Within gains.red ∧ Within gains.blue

instance (gains : ExactGains) : Decidable gains.Valid :=
  inferInstanceAs (Decidable (_ ∧ _))

def smoothed (gains estimate : ExactGains) : ExactGains where
  red := gains.red + 1 / 5 * (estimate.red - gains.red)
  blue := gains.blue + 1 / 5 * (estimate.blue - gains.blue)

theorem Within.smoothed {gain estimate : ℚ} (hgain : Within gain) (hestimate : Within estimate) :
    Within (gain + 1 / 5 * (estimate - gain)) := by
  unfold Within at *
  constructor <;> linarith [hgain.1, hgain.2, hestimate.1, hestimate.2]

theorem Valid.smoothed {gains estimate : ExactGains} (hgains : gains.Valid)
    (hestimate : estimate.Valid) : (gains.smoothed estimate).Valid :=
  ⟨hgains.1.smoothed hestimate.1, hgains.2.smoothed hestimate.2⟩

theorem valid_default : Valid {} := by
  decide +kernel

end ExactGains

structure Geometry where
  width : Nat
  height : Nat
  /-- The origin of the frame on the sensor. -/
  x : Nat
  y : Nat
  bayer : Nat
  dark : Bool

def checkedMul (first second : Nat) : Option Nat :=
  if first * second < 18446744073709551616 then some (first * second) else none

def Geometry.fits (frame : Geometry) (length : Nat) : Bool :=
  decide (0 < frame.width) && decide (0 < frame.height) && decide (frame.width % 2 = 0)
    && decide (frame.height % 2 = 0)
    && decide (((checkedMul frame.width frame.height).bind (checkedMul · 2)) = some length)
    && decide (frame.bayer ≤ 3)

/-- A frame of whole cells of one of the four patterns, its length two bytes a pixel. -/
structure Geometry.Valid (frame : Geometry) (length : Nat) : Prop where
  width : 0 < frame.width
  height : 0 < frame.height
  columns : frame.width % 2 = 0
  rows : frame.height % 2 = 0
  whole : frame.width * frame.height * 2 = length
  addressed : length < 18446744073709551616
  bayer : frame.bayer ≤ 3

/-- The channels of a cell: red, green, green and blue in the order of the pattern. -/
def channels : List (List Nat) :=
  [[0, 1, 1, 2], [2, 1, 1, 0], [1, 0, 2, 1], [1, 2, 0, 1]]

def channel (bayer x y : Nat) : Nat :=
  (channels[bayer]?.getD [])[y % 2 * 2 + x % 2]?.getD 1

structure Sums where
  red : Nat := 0
  green : Nat := 0
  blue : Nat := 0

def Sums.add (sums : Sums) (channel value : Nat) : Sums :=
  if channel = 0 then { sums with red := sums.red + value }
  else if channel = 1 then { sums with green := sums.green + value }
  else { sums with blue := sums.blue + value }

def Sums.plus (first second : Sums) : Sums :=
  ⟨first.red + second.red, first.green + second.green, first.blue + second.blue⟩

def cellSamples (pixels : List UInt8) (frame : Geometry) (index : Nat) : List (Nat × Nat) :=
  let x := index % (frame.width / 2) * 2
  let y := index / (frame.width / 2) * 2
  [(0, 0), (1, 0), (0, 1), (1, 1)].map fun site =>
    (channel frame.bayer (frame.x % 2 + x + site.1) (frame.y % 2 + y + site.2),
      Raw16.sample pixels ((y + site.2) * frame.width + x + site.1))

def cellSums (pixels : List UInt8) (frame : Geometry) (index : Nat) : Option Sums :=
  let samples := cellSamples pixels frame index
  if samples.all fun entry => decide (1024 ≤ entry.2) && decide (entry.2 ≤ 58981) then
    some (samples.foldl (fun sums entry => sums.add entry.1 entry.2) {})
  else none

def sampledCells (frame : Geometry) : List Nat :=
  let cells := frame.width / 2 * (frame.height / 2)
  let stride := max ((cells + 65535) / 65536) 1
  (List.range ((cells + stride - 1) / stride)).map (· * stride)

def estimate (pixels : List UInt8) (frame : Geometry) : Option ExactGains × Nat × String :=
  let attempted := sampledCells frame
  let usable := attempted.filterMap (cellSums pixels frame)
  let count := usable.length
  if count < 64 ∨ count * 10 < attempted.length then (none, count, "insufficient-signal")
  else
    let sum := usable.foldl Sums.plus {}
    let green : ℚ := sum.green / 2
    let gains : ExactGains := ⟨green / sum.red, green / sum.blue⟩
    if gains.Valid then (some gains, count, "updated") else (none, count, "gain-out-of-range")

structure Balance where
  mode : Mode := .off
  gains : ExactGains := {}
  output : Output := .raw

structure Report where
  implementation : String
  settings : Balance
  applied : Bool
  estimation : String
  sampleCells : Nat
  input : String
  bayer : Nat
  roiX : Nat
  roiY : Nat

namespace Balance

def configuredGains (state : Balance) (settings : Settings) : ExactGains :=
  match settings.mode with
  | .off => {}
  | .locked => state.gains
  | .manual => settings.gains.exact
  | .once => settings.gains.exact
  | .continuous => settings.gains.exact

def configure (state : Balance) (settings : Settings) : Except String Unit × Balance :=
  match settings.gains.validate with
  | .error error => (.error error, state)
  | .ok () =>
    (.ok (), {
      mode := settings.mode
      gains := state.configuredGains settings
      output := settings.output })

def updated (state : Balance) (gains : ExactGains) : Balance :=
  if state.mode = .once then { state with gains := gains, mode := .locked }
  else { state with gains := state.gains.smoothed gains }

def estimated (state : Balance) (pixels : List UInt8) (frame : Geometry) :
    Balance × Nat × String :=
  if frame.dark then (state, 0, "dark-frame")
  else if state.mode = .once ∨ state.mode = .continuous then
    let estimate := estimate pixels frame
    ((estimate.1.map state.updated).getD state, estimate.2.1, estimate.2.2)
  else (state, 0, "not-requested")

def gain (state : Balance) (channel : Nat) : ℚ :=
  if channel = 0 then state.gains.red else if channel = 2 then state.gains.blue else 1

def corrected (value : Nat) (gain : ℚ) : Nat :=
  (min (roundAway (value * gain)) 65535).toNat

def correctedAt (state : Balance) (frame : Geometry) (index value : Nat) : Nat :=
  corrected value (state.gain (channel frame.bayer (frame.x % 2 + index % frame.width)
    (frame.y % 2 + index / frame.width)))

def process (state : Balance) (pixels : List UInt8) (frame : Geometry) :
    Except String Report × Balance × List UInt8 :=
  if !frame.fits pixels.length then
    (.error "invalid white balance frame geometry", state, pixels)
  else
    let estimated := state.estimated pixels frame
    let settings := estimated.1
    let applied := !frame.dark && decide (settings.output = .corrected)
      && decide (settings.mode ≠ .off)
    (.ok {
        implementation := "regain-software-v1"
        settings := settings
        applied := applied
        estimation := estimated.2.2
        sampleCells := estimated.2.1
        input := "neutral-bayer-raw16"
        bayer := frame.bayer
        roiX := frame.x
        roiY := frame.y }, settings,
      if applied then Raw16.mapFrom (settings.correctedAt frame) 0 pixels else pixels)

/-- The gains are in their range, and neutral while the white balance is off. -/
structure Sound (state : Balance) : Prop where
  valid : state.gains.Valid
  neutral : state.mode = .off → state.gains = {}

theorem sound_default : Sound {} :=
  ⟨ExactGains.valid_default, fun _ => rfl⟩

theorem le_toRat {gain : F64} (h : Gains.accepts gain = true) : ExactGains.Within gain.toRat := by
  have hleast : (0.125 : F64) = .finite (1 / 8) := by decide +kernel
  have hgreatest : (8 : F64) = .finite 8 := by decide +kernel
  unfold Gains.accepts at h
  rw [hleast, hgreatest] at h
  cases gain with
  | finite value =>
    simp only [Bool.and_eq_true, decide_eq_true_eq] at h
    exact ⟨of_decide_eq_true h.1.2, of_decide_eq_true h.2⟩
  | infinite negative => simp [F64.isFinite] at h
  | nan => simp [F64.isFinite] at h

theorem valid_exact {gains : Gains} (h : gains.validate = .ok ()) : gains.exact.Valid := by
  unfold Gains.validate at h
  split at h
  · rename_i haccepts
    rw [Bool.and_eq_true] at haccepts
    exact ⟨le_toRat haccepts.1, le_toRat haccepts.2⟩
  · cases h

variable {state : Balance}

theorem Sound.configuredGains (h : state.Sound) {settings : Settings}
    (haccepted : settings.gains.validate = .ok ()) : (state.configuredGains settings).Valid := by
  unfold Balance.configuredGains
  cases settings.mode with
  | off => exact ExactGains.valid_default
  | locked => exact h.valid
  | manual => exact valid_exact haccepted
  | once => exact valid_exact haccepted
  | continuous => exact valid_exact haccepted

theorem configuredGains_off (state : Balance) {settings : Settings} (h : settings.mode = .off) :
    state.configuredGains settings = {} := by
  simp [configuredGains, h]

theorem Sound.configure (h : state.Sound) (settings : Settings) :
    (state.configure settings).2.Sound := by
  unfold Balance.configure
  cases haccepted : settings.gains.validate with
  | error error => exact h
  | ok => exact ⟨h.configuredGains haccepted, configuredGains_off state⟩

theorem valid_estimate {pixels : List UInt8} {frame : Geometry} {gains : ExactGains}
    (h : (estimate pixels frame).1 = some gains) : gains.Valid := by
  unfold estimate at h
  dsimp only at h
  split at h
  · cases h
  · split at h
    · rename_i hvalid
      cases h
      exact hvalid
    · cases h

theorem Sound.updated (h : state.Sound) (hmode : state.mode ≠ .off) {gains : ExactGains}
    (hgains : gains.Valid) : (state.updated gains).Sound := by
  unfold Balance.updated
  split
  · exact ⟨hgains, fun hoff => by cases hoff⟩
  · exact ⟨h.valid.smoothed hgains, fun hoff => absurd hoff hmode⟩

theorem estimated_cases (state : Balance) (pixels : List UInt8) (frame : Geometry) :
    (state.estimated pixels frame).1 = state ∨ (state.mode = .once ∨ state.mode = .continuous)
        ∧ ∃ gains, gains.Valid ∧ (state.estimated pixels frame).1 = state.updated gains := by
  unfold estimated
  split
  · exact .inl rfl
  · split
    · rename_i hmode
      cases hestimate : (estimate pixels frame).1 with
      | none => exact .inl (by simp [hestimate])
      | some gains => exact .inr ⟨hmode, gains, valid_estimate hestimate, by simp [hestimate]⟩
    · exact .inl rfl

theorem Sound.estimated (h : state.Sound) (pixels : List UInt8) (frame : Geometry) :
    (state.estimated pixels frame).1.Sound := by
  rcases estimated_cases state pixels frame with heq | ⟨hmode, gains, hgains, heq⟩
  · rw [heq]
    exact h
  · rw [heq]
    refine h.updated ?_ hgains
    rcases hmode with hmode | hmode <;> rw [hmode] <;> decide

theorem estimated_locked (h : state.mode = .locked) (pixels : List UInt8) (frame : Geometry) :
    (state.estimated pixels frame).1 = state := by
  rcases estimated_cases state pixels frame with heq | ⟨hmode, -⟩
  · exact heq
  · rw [h] at hmode
    rcases hmode with hmode | hmode <;> cases hmode

theorem estimated_output (state : Balance) (pixels : List UInt8) (frame : Geometry) :
    (state.estimated pixels frame).1.output = state.output := by
  rcases estimated_cases state pixels frame with heq | ⟨-, gains, -, heq⟩
  · rw [heq]
  · rw [heq, updated]
    split <;> rfl

theorem process_rejected {pixels : List UInt8} {frame : Geometry}
    (h : frame.fits pixels.length = false) :
    state.process pixels frame
      = (.error "invalid white balance frame geometry", state, pixels) := by
  simp [process, h]

theorem Sound.process (h : state.Sound) (pixels : List UInt8) (frame : Geometry) :
    (state.process pixels frame).2.1.Sound := by
  unfold Balance.process
  split
  · exact h
  · exact h.estimated pixels frame

end Balance

inductive Colour where
  | red
  | green
  | blue

/-- The column and the row of the red sample of a cell: RGGB, BGGR, GRBG and GBRG. -/
def redSite (bayer : Nat) : Nat × Nat :=
  if bayer = 0 then (0, 0) else if bayer = 1 then (1, 1) else if bayer = 2 then (1, 0) else (0, 1)

/-- The colour of a column and a row of the sensor: blue is opposite to red. -/
def colourAt (bayer column row : Nat) : Colour :=
  if column % 2 = (redSite bayer).1 ∧ row % 2 = (redSite bayer).2 then .red
  else if column % 2 ≠ (redSite bayer).1 ∧ row % 2 ≠ (redSite bayer).2 then .blue
  else .green

def ExactGains.ofColour (gains : ExactGains) : Colour → ℚ
  | .red => gains.red
  | .green => 1
  | .blue => gains.blue

namespace Balance

theorem channel_mod (bayer x y : Nat) : channel bayer x y = channel bayer (x % 2) (y % 2) := by
  simp [channel]

theorem gain_channel (state : Balance) {bayer : Nat} (hbayer : bayer ≤ 3) (x y : Nat) :
    state.gain (channel bayer x y) = state.gains.ofColour (colourAt bayer x y) := by
  have hcolour : colourAt bayer x y = colourAt bayer (x % 2) (y % 2) := by simp [colourAt]
  rw [channel_mod, hcolour]
  have hx : x % 2 = 0 ∨ x % 2 = 1 := by omega
  have hy : y % 2 = 0 ∨ y % 2 = 1 := by omega
  have hcases : bayer = 0 ∨ bayer = 1 ∨ bayer = 2 ∨ bayer = 3 := by omega
  rcases hcases with rfl | rfl | rfl | rfl <;> rcases hx with hx | hx <;> rcases hy with hy | hy <;>
    rw [hx, hy] <;> rfl

theorem colourAt_origin (bayer x y column row : Nat) :
    colourAt bayer (x % 2 + column) (y % 2 + row) = colourAt bayer (x + column) (y + row) := by
  have hx : (x % 2 + column) % 2 = (x + column) % 2 := by omega
  have hy : (y % 2 + row) % 2 = (y + row) % 2 := by omega
  unfold colourAt
  rw [hx, hy]

theorem corrected_lt (value : Nat) (gain : ℚ) : corrected value gain < 65536 := by
  unfold corrected
  omega

theorem corrected_one {value : Nat} (h : value < 65536) : corrected value 1 = value := by
  have hround : roundAway ((value : ℚ) * 1) = value := by
    rw [mul_one, roundAway_of_nonneg (Nat.cast_nonneg value), Int.floor_eq_iff]
    push_cast
    constructor <;> linarith
  unfold corrected
  rw [hround]
  omega

theorem checkedMul_eq {first second product : Nat} (h : checkedMul first second = some product) :
    first * second = product := by
  unfold checkedMul at h
  split at h
  · exact Option.some.inj h
  · cases h

variable {state : Balance} {frame : Geometry} {pixels : List UInt8}

theorem checked_length {width height length : Nat} :
    (checkedMul width height).bind (checkedMul · 2) = some length
      ↔ width * height * 2 = length ∧ length < 18446744073709551616 := by
  unfold checkedMul
  constructor
  · intro h
    obtain ⟨product, hproduct, hlength⟩ := Option.bind_eq_some_iff.mp h
    have hwhole := checkedMul_eq hproduct
    split at hlength
    · rename_i hbound
      cases hlength
      exact ⟨by rw [hwhole], hbound⟩
    · cases hlength
  · rintro ⟨hlength, hbound⟩
    rw [if_pos (by omega), Option.bind_some, if_pos (by omega), hlength]

theorem fits_iff {length : Nat} : frame.fits length = true ↔ frame.Valid length := by
  simp only [Geometry.fits, Bool.and_eq_true, decide_eq_true_eq, checked_length]
  constructor
  · rintro ⟨⟨⟨⟨⟨hwidth, hheight⟩, hcolumns⟩, hrows⟩, hlength, hbound⟩, hbayer⟩
    exact ⟨hwidth, hheight, hcolumns, hrows, hlength, hbound, hbayer⟩
  · intro h
    exact ⟨⟨⟨⟨⟨h.width, h.height⟩, h.columns⟩, h.rows⟩, h.whole, h.addressed⟩, h.bayer⟩

/-- What is promised of every pixel of a corrected frame. -/
structure Corrected (gains : ExactGains) (frame : Geometry) (pixels output : List UInt8) : Prop where
  length : output.length = pixels.length
  sample : ∀ column < frame.width, ∀ row < frame.height,
    Raw16.sample output (row * frame.width + column)
      = corrected (Raw16.sample pixels (row * frame.width + column))
        (gains.ofColour (colourAt frame.bayer (frame.x + column) (frame.y + row)))

theorem index_lt {width height column row : Nat} (hcolumn : column < width) (hrow : row < height) :
    row * width + column < width * height := by
  have hnext : (row + 1) * width ≤ height * width := Nat.mul_le_mul_right _ hrow
  rw [Nat.add_mul, Nat.one_mul, Nat.mul_comm height] at hnext
  omega

theorem corrected_mapFrom (hfits : frame.fits pixels.length = true) :
    Corrected state.gains frame pixels (Raw16.mapFrom (state.correctedAt frame) 0 pixels) := by
  have hvalid := fits_iff.mp hfits
  have hlength := hvalid.whole
  refine ⟨Raw16.length_mapFrom _ _ _, fun column hcolumn row hrow => ?_⟩
  have hindex := index_lt hcolumn hrow
  have hbound : ∀ index value, state.correctedAt frame index value < 65536 :=
    fun _ _ => corrected_lt _ _
  rw [Raw16.sample_mapFrom hbound 0 (by omega), Nat.zero_add]
  have hwidth : 0 < frame.width := by omega
  have hmod : (row * frame.width + column) % frame.width = column := by
    rw [Nat.add_comm, Nat.add_mul_mod_self_right, Nat.mod_eq_of_lt hcolumn]
  have hdiv : (row * frame.width + column) / frame.width = row := by
    rw [Nat.add_comm, Nat.add_mul_div_right _ _ hwidth, Nat.div_eq_of_lt hcolumn, Nat.zero_add]
  unfold correctedAt
  rw [hmod, hdiv, gain_channel state hvalid.bayer, colourAt_origin]

theorem corrected_neutral (frame : Geometry) (pixels : List UInt8) :
    Corrected {} frame pixels pixels := by
  refine ⟨rfl, fun column _ row _ => ?_⟩
  have hone : ExactGains.ofColour {} (colourAt frame.bayer (frame.x + column) (frame.y + row)) = 1 := by
    cases colourAt frame.bayer (frame.x + column) (frame.y + row) <;> rfl
  rw [hone, corrected_one (Raw16.sample_lt _ _)]

theorem Sound.corrected (h : state.Sound) (hfits : frame.fits pixels.length = true)
    (hdark : frame.dark = false) (houtput : state.output = .corrected) :
    Corrected (state.process pixels frame).2.1.gains frame pixels
      (state.process pixels frame).2.2 := by
  have hkept := estimated_output state pixels frame
  unfold Balance.process
  rw [hfits]
  simp only [Bool.not_true, Bool.false_eq_true, if_false, hdark, Bool.not_false, Bool.true_and,
    hkept, houtput, decide_true]
  split
  · exact corrected_mapFrom hfits
  · rename_i hoff
    rw [(h.estimated pixels frame).neutral (by simpa using hoff)]
    exact corrected_neutral frame pixels

theorem process_raw (h : frame.dark = true ∨ state.output = .raw) :
    (state.process pixels frame).2.2 = pixels := by
  have hkept := estimated_output state pixels frame
  unfold process
  rcases h with h | h
  · split
    · rfl
    · simp [h]
  · split
    · rfl
    · simp [hkept, h]

inductive Op where
  | configure (settings : Settings)
  | process (pixels : List UInt8) (frame : Geometry)

inductive Answer where
  | configured (result : Except String Unit)
  | processed (result : Except String Report) (pixels : List UInt8)

def machine : Machine Balance Op Answer where
  step state
    | .configure settings =>
      (.configured (state.configure settings).1, (state.configure settings).2)
    | .process pixels frame =>
      (.processed (state.process pixels frame).1 (state.process pixels frame).2.2,
        (state.process pixels frame).2.1)

theorem sound_inductive : machine.Inductive {} Sound where
  init := sound_default
  step op h := by
    cases op with
    | configure settings => exact h.configure settings
    | process pixels frame => exact h.process pixels frame

/-- What is promised of a step, whatever the mode. -/
structure Managed (t : Transition Balance Op Answer) : Prop where
  bounded : t.before.gains.Valid ∧ t.after.gains.Valid
  configureRejected : ∀ error, t.result = .configured (.error error) → t.after = t.before
  processRejected : ∀ pixels frame error output, t.op = .process pixels frame →
    t.result = .processed (.error error) output → t.after = t.before ∧ output = pixels
  /-- The frames of a valid geometry are accepted, and no others. -/
  processAccepted : ∀ pixels frame, t.op = .process pixels frame →
    ((∃ report output, t.result = .processed (.ok report) output)
      ↔ frame.Valid pixels.length)
  lockedConfigure : ∀ settings, t.op = .configure settings → settings.mode = .locked →
    t.after.gains = t.before.gains
  lockedProcess : ∀ pixels frame, t.op = .process pixels frame → t.before.mode = .locked →
    t.after = t.before
  raw : ∀ pixels frame result output, t.op = .process pixels frame →
    t.result = .processed result output → frame.dark = true ∨ t.before.output = .raw →
      output = pixels
  corrected : ∀ pixels frame report output, t.op = .process pixels frame →
    t.result = .processed (.ok report) output → frame.dark = false →
      t.before.output = .corrected → Corrected t.after.gains frame pixels output

theorem managed_configure (h : state.Sound) (settings : Settings) :
    Managed (machine.perform state (.configure settings)) where
  bounded := ⟨h.valid, (h.configure settings).valid⟩
  configureRejected error hresult := by
    simp only [Machine.perform, Machine.next, machine, Answer.configured.injEq] at hresult ⊢
    unfold configure at hresult ⊢
    cases haccepted : settings.gains.validate with
    | error error => rfl
    | ok =>
      rw [haccepted] at hresult
      cases hresult
  processRejected pixels frame error output hop := by cases hop
  processAccepted pixels frame hop := by cases hop
  lockedConfigure requested hop hmode := by
    cases hop
    simp only [Machine.perform, Machine.next, machine]
    unfold configure
    cases settings.gains.validate with
    | error error => rfl
    | ok => simp [configuredGains, hmode]
  lockedProcess pixels frame hop := by cases hop
  raw pixels frame result output hop := by cases hop
  corrected pixels frame report output hop := by cases hop

theorem process_ok {report : Report} (h : (state.process pixels frame).1 = .ok report) :
    frame.fits pixels.length = true := by
  cases hfits : frame.fits pixels.length with
  | true => rfl
  | false =>
    rw [process_rejected hfits] at h
    cases h

theorem managed_process (h : state.Sound) (pixels : List UInt8) (frame : Geometry) :
    Managed (machine.perform state (.process pixels frame)) where
  bounded := ⟨h.valid, (h.process pixels frame).valid⟩
  configureRejected error hresult := by cases hresult
  processRejected other shape error output hop hresult := by
    cases hop
    simp only [Machine.perform, Machine.next, machine, Answer.processed.injEq] at hresult ⊢
    cases hfits : frame.fits pixels.length with
    | true => simp [process, hfits] at hresult
    | false =>
      rw [process_rejected hfits] at hresult ⊢
      exact ⟨rfl, hresult.2.symm⟩
  processAccepted other shape hop := by
    cases hop
    rw [← fits_iff]
    constructor
    · rintro ⟨report, output, hresult⟩
      exact process_ok (Answer.processed.inj hresult).1
    · intro hfits
      simp only [Machine.perform, machine, process, hfits]
      exact ⟨_, _, rfl⟩
  lockedConfigure settings hop := by cases hop
  lockedProcess other shape hop hmode := by
    cases hop
    simp only [Machine.perform, Machine.next, machine] at hmode ⊢
    unfold process
    split
    · rfl
    · exact estimated_locked hmode pixels frame
  raw other shape result output hop hresult hkept := by
    cases hop
    simp only [Machine.perform, machine, Answer.processed.injEq] at hresult hkept
    rw [← hresult.2]
    exact process_raw hkept
  corrected other shape report output hop hresult hdark houtput := by
    cases hop
    simp only [Machine.perform, Machine.next, machine, Answer.processed.injEq]
      at hresult houtput ⊢
    rw [← hresult.2]
    exact h.corrected (process_ok hresult.1) hdark houtput

/-- Every step of a run of the white balance keeps its gains and its frames as promised. -/
theorem managed (ops : List Op) : ∀ t ∈ machine.run {} ops, Managed t := by
  intro t hmem
  obtain ⟨hsound, -, hstep⟩ := sound_inductive.mem_run hmem
  rw [hstep]
  cases t.op with
  | configure settings => exact managed_configure hsound settings
  | process pixels frame => exact managed_process hsound pixels frame

/-- Manual gains on the corrected output, then a cell of a GRBG sensor read from an odd column. -/
def manualOps : List Op :=
  [.configure {
      mode := .manual
      gains := { red := .finite 2, blue := .finite (1 / 2) }
      output := .corrected },
    .process [0xe8, 3, 0x40, 0x9c, 0xd0, 7, 7, 0] ⟨2, 2, 1, 0, 2, false⟩]

/-- The red sample is doubled, the two green ones are kept and the blue one is halved. -/
theorem managed_manual : ((machine.run {} manualOps).map fun t => match t.result with
        | .configured _ => []
        | .processed _ output => output) = [[], [0xd0, 7, 0x40, 0x9c, 0xd0, 7, 4, 0]]
      ∧ ∀ t ∈ machine.run {} manualOps, Managed t :=
  ⟨by decide +kernel, managed manualOps⟩

end Balance

end Regain.Core.WhiteBalance
