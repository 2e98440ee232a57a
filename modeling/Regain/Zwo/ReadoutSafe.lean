import Regain.Zwo.Readout

/-!
# What a readout delivers
-/

namespace Regain.Zwo.Readout

open Lib
open Checked

/-! ## Pictures -/

/-- The bytes of a picture with a given brightness at every column and row. -/
structure Shows (data : List UInt8) (width height : Nat) (bright : Nat → Nat → Nat) : Prop where
  length : data.length = width * height * 2
  sample : ∀ column row, column < width → row < height →
    Raw16.sample data (row * width + column) = bright column row

theorem place_lt {width height column row : Nat} (hcolumn : column < width) (hrow : row < height) :
    row * width + column < width * height := by
  have hle : (row + 1) * width ≤ height * width := Nat.mul_le_mul_right width (by omega)
  rw [Nat.succ_mul, Nat.mul_comm height] at hle
  omega

theorem shows_lines {width height : Nat} {keys : List Nat} {line : Nat → List UInt8}
    {bright : Nat → Nat → Nat} (hheight : keys.length = height)
    (hline : ∀ row key, keys[row]? = some key → (line key).length = width * 2
      ∧ ∀ column < width, Raw16.sample (line key) column = bright column row) :
    Shows (keys.flatMap line) width height bright := by
  have hsize : ∀ key ∈ keys, (line key).length = width * 2 := by
    intro key hmem
    obtain ⟨row, hrow⟩ := List.mem_iff_getElem?.mp hmem
    exact (hline row key hrow).1
  constructor
  · have hsum : (keys.map fun key => (line key).length) = List.replicate height (width * 2) := by
      rw [← hheight, List.eq_replicate_iff]
      refine ⟨List.length_map _, ?_⟩
      intro size hmem
      obtain ⟨key, hkey, rfl⟩ := List.mem_map.mp hmem
      exact hsize key hkey
    rw [List.length_flatMap, hsum, List.sum_replicate_nat]
    ac_rfl
  · intro column row hcolumn hrow
    have hkey : keys[row]? = some keys[row] := List.getElem?_eq_getElem (by omega)
    rw [Raw16.sample_flatMap hsize hkey hcolumn]
    exact (hline row _ hkey).2 column hcolumn

structure Contains (sensor raw : Settings) : Prop where
  left : sensor.x ≤ raw.x
  top : sensor.y ≤ raw.y
  right : raw.x + raw.width ≤ sensor.x + sensor.width
  bottom : raw.y + raw.height ≤ sensor.y + sensor.height

section

variable {sensor raw : Settings} {data : List UInt8} {bright : Nat → Nat → Nat}

theorem crop_shows (hcontains : Contains sensor raw)
    (hsmall : sensor.width * sensor.height * 2 < 4294967296)
    (hplace : raw.y + raw.height < 4294967296 ∧ sensor.width * sensor.height + raw.x < 4294967296)
    (hdata : Shows data sensor.width sensor.height bright) :
    ∃ cropped, crop raw sensor data = .ok cropped ∧ Shows cropped raw.width raw.height
        fun column row => bright (raw.x - sensor.x + column) (raw.y - sensor.y + row) := by
  obtain ⟨hleft, htop, hright, hbottom⟩ := hcontains
  let place : Nat → Nat := fun row => (row + raw.y - sensor.y) * sensor.width + raw.x - sensor.x
  let line : Nat → List UInt8 := fun row =>
    (data.take (place row * 2 + raw.width * 2)).drop (place row * 2)
  have hbound : ∀ row < raw.height, sensor.x ≤ (row + raw.y - sensor.y) * sensor.width + raw.x
      ∧ (row + raw.y - sensor.y) * sensor.width ≤ sensor.width * sensor.height
      ∧ place row + raw.width ≤ sensor.width * sensor.height := by
    intro row hrow
    have hlines : (row + raw.y - sensor.y + 1) * sensor.width ≤ sensor.height * sensor.width :=
      Nat.mul_le_mul_right sensor.width (by omega)
    rw [Nat.succ_mul, Nat.mul_comm sensor.height] at hlines
    refine ⟨by omega, by omega, ?_⟩
    change (row + raw.y - sensor.y) * sensor.width + raw.x - sensor.x + raw.width ≤ _
    omega
  refine ⟨(List.range raw.height).flatMap line, ?_, ?_⟩
  · refine (foldlM_append (fun start row hmem => ?_) []).trans (congrArg Except.ok (List.nil_append _))
    have hrow : row < raw.height := List.mem_range.mp hmem
    obtain ⟨hbelow, hinside, hstop⟩ := hbound row hrow
    have hstop' : (row + raw.y - sensor.y) * sensor.width + raw.x - sensor.x + raw.width
        ≤ sensor.width * sensor.height := hstop
    have hlength := hdata.length
    have hsum : word32 (row + raw.y) = .ok (row + raw.y) := if_pos (by omega)
    have hline : minus (row + raw.y) sensor.y = .ok (row + raw.y - sensor.y) := if_pos (by omega)
    have hmul : word32 ((row + raw.y - sensor.y) * sensor.width)
        = .ok ((row + raw.y - sensor.y) * sensor.width) := if_pos (by omega)
    have hadd : word32 ((row + raw.y - sensor.y) * sensor.width + raw.x)
        = .ok ((row + raw.y - sensor.y) * sensor.width + raw.x) := if_pos (by omega)
    have hminus : minus ((row + raw.y - sensor.y) * sensor.width + raw.x) sensor.x
        = .ok (place row) := if_pos hbelow
    have hword : word64 (place row * 2) = .ok (place row * 2) := if_pos (by omega)
    have hslice : slice data (place row * 2) (place row * 2 + raw.width * 2) = .ok (line row) :=
      if_pos (by omega)
    simp only [hsum, hline, hmul, hadd, hminus, hword, hslice, bind, Except.bind, pure, Except.pure]
  · refine shows_lines List.length_range fun row key hkey => ?_
    obtain ⟨hrow, hsame⟩ := List.getElem?_eq_some_iff.mp hkey
    rw [List.getElem_range] at hsame
    subst hsame
    rw [List.length_range] at hrow
    obtain ⟨hbelow, hinside, hstop⟩ := hbound row hrow
    have hlength := hdata.length
    constructor
    · rw [List.length_drop, List.length_take]
      omega
    · intro column hcolumn
      have hplace' : place row + column
          = (raw.y - sensor.y + row) * sensor.width + (raw.x - sensor.x + column) := by
        have hsame : row + raw.y - sensor.y = raw.y - sensor.y + row := by omega
        change (row + raw.y - sensor.y) * sensor.width + raw.x - sensor.x + column = _
        rw [hsame]
        omega
      have hfull : place row * 2 + raw.width * 2 = (place row + raw.width) * 2 := by omega
      rw [Raw16.sample_drop, hfull, Raw16.sample_take (by omega), hplace']
      exact hdata.sample _ _ (by omega) (by omega)

end

def binned (bright : Nat → Nat → Nat) (bin column row : Nat) : Nat :=
  ((List.range bin).map fun dy =>
    ((List.range bin).map fun dx => bright (column * bin + dx) (row * bin + dy)).sum).sum
      / (bin * bin)

section

variable {data : List UInt8} {width height bin : Nat} {bright : Nat → Nat → Nat}

theorem steps_eq (hbin : 0 < bin) (hdvd : width % bin = 0) :
    steps width bin = (List.range (width / bin)).map (· * bin) := by
  unfold steps
  have hcount : (width + bin - 1) / bin = width / bin := by
    obtain ⟨count, rfl⟩ := Nat.dvd_of_mod_eq_zero hdvd
    rw [Nat.mul_div_cancel_left count hbin, Nat.add_sub_assoc (by omega),
      Nat.mul_add_div hbin, Nat.div_eq_of_lt (by omega), Nat.add_zero]
  rw [hcount]

theorem sum_map_le (items : List Nat) (item : Nat → Nat) (bound : Nat)
    (h : ∀ entry ∈ items, item entry ≤ bound) : (items.map item).sum ≤ items.length * bound := by
  induction items with
  | nil => simp
  | cons entry items ih =>
    have hfirst := h entry List.mem_cons_self
    have hrest := ih fun other hmem => h other (List.mem_cons_of_mem _ hmem)
    rw [List.map_cons, List.sum_cons, List.length_cons, Nat.succ_mul]
    omega

theorem Shows.bright_le (hdata : Shows data width height bright) {column row : Nat}
    (hcolumn : column < width) (hrow : row < height) : bright column row ≤ 65535 := by
  rw [← hdata.sample column row hcolumn hrow]
  have hlt := Raw16.sample_lt data (row * width + column)
  omega

theorem Shows.square_le (hdata : Shows data width height bright) {x y : Nat}
    (hx : x + bin ≤ width) (hy : y + bin ≤ height) : ((List.range bin).map fun dy =>
      ((List.range bin).map fun dx => bright (x + dx) (y + dy)).sum).sum ≤ bin * (bin * 65535) := by
  have hline : ∀ dy ∈ List.range bin, ((List.range bin).map fun dx => bright (x + dx) (y + dy)).sum
      ≤ bin * 65535 := by
    intro dy hmem
    have hdy := List.mem_range.mp hmem
    have hle := sum_map_le (List.range bin) (fun dx => bright (x + dx) (y + dy)) 65535
      fun dx hmem => by
        have hdx := List.mem_range.mp hmem
        exact hdata.bright_le (by omega) (by omega)
    rwa [List.length_range] at hle
  have htotal := sum_map_le (List.range bin)
    (fun dy => ((List.range bin).map fun dx => bright (x + dx) (y + dy)).sum) (bin * 65535) hline
  rwa [List.length_range] at htotal

theorem squareSum_eq (hbin : bin ≤ 4) (hdata : Shows data width height bright)
    (hsmall : width * height * 2 < 4294967296) {x y : Nat} (hx : x + bin ≤ width)
    (hy : y + bin ≤ height) : squareSum data width bin x y = .ok ((List.range bin).map fun dy =>
      ((List.range bin).map fun dx => bright (x + dx) (y + dy)).sum).sum := by
  have htotal := hdata.square_le hx hy
  have hbound : bin * (bin * 65535) ≤ 1048560 := by
    have hsquare : bin * bin ≤ 4 * 4 := Nat.mul_le_mul hbin hbin
    rw [← Nat.mul_assoc]
    omega
  refine (foldlM_sum 1048560 (fun start dy hmem hstart => ?_) ?_).trans
    (congrArg Except.ok (Nat.zero_add _))
  · have hdy := List.mem_range.mp hmem
    refine foldlM_sum 1048560 (fun start dx hmem hstart => ?_) hstart
    have hdx := List.mem_range.mp hmem
    have hplace := place_lt (show x + dx < width by omega) (show y + dy < height by omega)
    have hlength := hdata.length
    have hindex : ((y + dy) * width + x + dx) * 2 = 2 * ((y + dy) * width + (x + dx)) := by omega
    obtain ⟨low, high, hlow, hhigh, hsample⟩ :=
      Raw16.get_sample (show 2 * ((y + dy) * width + (x + dx)) + 1 < data.length by omega)
    have hvalue := hdata.sample (x + dx) (y + dy) (by omega) (by omega)
    have hword : word64 (2 * ((y + dy) * width + (x + dx)))
        = .ok (2 * ((y + dy) * width + (x + dx))) := if_pos (by omega)
    have hsum : word32 (start + bright (x + dx) (y + dy)) = .ok (start + bright (x + dx) (y + dy)) :=
      if_pos (by omega)
    simp only [hindex, hword, Checked.get, hlow, hhigh, hsample, hvalue, hsum, bind, Except.bind]
  · omega

theorem sample_sampleBytes {value : Nat} (h : value < 65536) :
    Raw16.sample (sampleBytes value) 0 = value :=
  Raw16.ofBytes_ofNat h

theorem line_shows {keys : List Nat} {value : Nat → Nat} {count : Nat}
    (hvalue : ∀ key ∈ keys, value key < 65536) (hcount : keys.length = count) :
    (keys.flatMap fun key => sampleBytes (value key)).length = count * 2
      ∧ ∀ column key, keys[column]? = some key →
        Raw16.sample (keys.flatMap fun key => sampleBytes (value key)) column = value key := by
  constructor
  · have hsum : (keys.map fun key => (sampleBytes (value key)).length)
        = List.replicate count 2 := by
      rw [← hcount]
      simp [sampleBytes, List.map_const']
    rw [List.length_flatMap, hsum, List.sum_replicate_nat]
  · intro column key hkey
    have hsample : Raw16.sample (keys.flatMap fun key => sampleBytes (value key)) (column * 1 + 0)
        = Raw16.sample (sampleBytes (value key)) 0 :=
      Raw16.sample_flatMap (fun key _ => rfl) hkey Nat.one_pos
    rw [Nat.mul_one, Nat.add_zero] at hsample
    rw [hsample]
    exact sample_sampleBytes (hvalue key (List.mem_of_getElem? hkey))

theorem steps_getElem? {stop column key : Nat} (hbin : 0 < bin) (hdvd : stop % bin = 0)
    (hkey : (steps stop bin)[column]? = some key) : column < stop / bin ∧ key = column * bin := by
  rw [steps_eq hbin hdvd, List.getElem?_map, Option.map_eq_some_iff] at hkey
  obtain ⟨index, hindex, rfl⟩ := hkey
  obtain ⟨hlt, hsame⟩ := List.getElem?_eq_some_iff.mp hindex
  rw [List.getElem_range] at hsame
  rw [List.length_range] at hlt
  exact ⟨hlt, by rw [hsame]⟩

theorem steps_inside {stop : Nat} (hbin : 0 < bin) (hdvd : stop % bin = 0) :
    ∀ start ∈ steps stop bin, start + bin ≤ stop := by
  intro start hmem
  obtain ⟨column, hkey⟩ := List.mem_iff_getElem?.mp hmem
  obtain ⟨hlt, rfl⟩ := steps_getElem? hbin hdvd hkey
  have hle : (column + 1) * bin ≤ stop / bin * bin := Nat.mul_le_mul_right bin hlt
  have hdiv := Nat.div_mul_le_self stop bin
  rw [Nat.succ_mul] at hle
  omega

theorem binAverage_shows (hbin : 1 ≤ bin ∧ bin ≤ 4) (hwidth : width % bin = 0)
    (hheight : height % bin = 0) (hdata : Shows data width height bright)
    (hsmall : width * height * 2 < 4294967296) :
    ∃ result, binAverage data width height bin = .ok result
      ∧ Shows result (width / bin) (height / bin) (binned bright bin) := by
  let value : Nat → Nat → Nat := fun y x =>
    ((List.range bin).map fun dy =>
      ((List.range bin).map fun dx => bright (x + dx) (y + dy)).sum).sum / (bin * bin)
  have hpos : 0 < bin := by omega
  have hcolumn := steps_inside hpos hwidth
  have hrow := steps_inside hpos hheight
  have hvalue : ∀ y ∈ steps height bin, ∀ x ∈ steps width bin, value y x < 65536 := by
    intro y hy x hx
    have hle := hdata.square_le (hcolumn x hx) (hrow y hy)
    rw [← Nat.mul_assoc] at hle
    have hmean : value y x ≤ 65535 := Nat.div_le_of_le_mul hle
    omega
  refine ⟨(steps height bin).flatMap fun y =>
    (steps width bin).flatMap fun x => sampleBytes (value y x), ?_, ?_⟩
  · unfold binAverage
    have hgeometry : (decide (1 ≤ bin) && decide (bin ≤ 4) && decide (width % bin = 0)
        && decide (height % bin = 0) && decide (data.length = width * height * 2)) = true := by
      simp [hbin, hwidth, hheight, hdata.length]
    rw [hgeometry]
    refine (foldlM_append (fun start y hy => ?_) []).trans
      (congrArg Except.ok (List.nil_append _))
    refine foldlM_append (fun start x hx => ?_) start
    rw [squareSum_eq hbin.2 hdata hsmall (hcolumn x hx) (hrow y hy)]
    rfl
  · refine shows_lines ?_ fun row y hy => ?_
    · rw [steps_eq hpos hheight, List.length_map, List.length_range]
    · obtain ⟨hlt, rfl⟩ := steps_getElem? hpos hheight hy
      have hcount : (steps width bin).length = width / bin := by
        rw [steps_eq hpos hwidth, List.length_map, List.length_range]
      obtain ⟨hlength, hsample⟩ :=
        line_shows (hvalue _ (List.mem_of_getElem? hy)) hcount
      refine ⟨hlength, fun column hin => ?_⟩
      have hkey : (steps width bin)[column]? = some (column * bin) := by
        rw [steps_eq hpos hwidth, List.getElem?_map, List.getElem?_range hin]
        rfl
      exact hsample column _ hkey

end

/-! ## The sensor -/

def onSensor (sensor : Settings) (data : List UInt8) (column row : Nat) : Nat :=
  Raw16.sample data ((row - sensor.y) * sensor.width + (column - sensor.x))

/-- What a capture owes: the requested pixels, each the average of a square of the sensor. -/
structure Delivers (s sensor : Settings) (bin : Nat) (data : List UInt8)
    (output : Metadata × List UInt8) : Prop where
  width : output.1.width = s.width
  height : output.1.height = s.height
  pixels : Shows output.2 s.width s.height fun column row =>
    binned (onSensor sensor data) bin (s.x + column) (s.y + row)

/-- A small region at the right edge of the sensor, narrower than the smallest readout. -/
def AtEdge (sensor : Sensor) (raw : Settings) : Prop :=
  raw.width * raw.height < minimumArea ∧ raw.width < 512 ∧ raw.x + raw.width = sensor.width

/-- What is true of the settings of a capture in sensor pixels. -/
structure Raw (sensor : Sensor) (s : Settings) (bin : Nat) (raw : Settings) : Prop where
  bins : 1 ≤ bin ∧ bin ≤ 4
  width : raw.width = s.width * bin
  height : raw.height = s.height * bin
  x : raw.x = s.x * bin
  y : raw.y = s.y * bin
  holds : sensor.holds raw = true

section

variable {model : Model} {s raw : Settings} {gain : Int} {bin : Nat}

variable {sensor : Sensor}

theorem holds_iff : sensor.holds s = true
    ↔ (64 ≤ s.width ∧ s.width ≤ sensor.width ∧ s.width % 8 = 0)
      ∧ (64 ≤ s.height ∧ s.height ≤ sensor.height ∧ s.height % 2 = 0)
      ∧ s.x % 16 = 0 ∧ s.y % 2 = 0 ∧ s.x ≤ sensor.width - s.width
      ∧ s.y ≤ sensor.height - s.height := by
  simp only [Sensor.holds, Bool.and_eq_true, decide_eq_true_eq, and_assoc]

theorem checkedMul_ok {first second : Nat} {message : String} {next : Nat → Checked Settings}
    (h : (do let value ← checkedMul first second message; next value) = .ok raw) :
    next (first * second) = .ok raw := by
  by_cases hsmall : first * second < 4294967296
  · have hvalue : checkedMul first second message = .ok (first * second) := if_pos hsmall
    rw [hvalue] at h
    exact h
  · have hvalue : checkedMul first second message = .error (.refused message) := if_neg hsmall
    rw [hvalue] at h
    cases h

theorem rawSettings_raw {name : String} (validate : Settings → Int → Checked Unit)
    (hvalidate : ∀ s gain, validate s gain = .ok () → sensor.holds s = true)
    (h : rawSettings name validate s gain bin = .ok raw) :
    Raw sensor s bin raw ∧ validate raw gain = .ok () := by
  unfold rawSettings at h
  obtain ⟨hbin, h⟩ := ensure_bind_eq_ok.mp h
  obtain ⟨_, h⟩ := ensure_bind_eq_ok.mp h
  have hraw := checkedMul_ok (checkedMul_ok (checkedMul_ok (checkedMul_ok h)))
  dsimp only at hraw
  cases hvalid : validate { s with
    width := s.width * bin, height := s.height * bin, x := s.x * bin, y := s.y * bin } gain with
  | error fault =>
    rw [hvalid] at hraw
    cases hraw
  | ok _ =>
    rw [hvalid] at hraw
    cases hraw
    simp only [Bool.and_eq_true, decide_eq_true_eq] at hbin
    exact ⟨⟨hbin, rfl, rfl, rfl, rfl, hvalidate _ _ hvalid⟩, hvalid⟩

theorem Asi6200.validate_holds (h : Asi6200.validate s gain = .ok ()) :
    Asi6200.sensor.holds s = true :=
  (ensure_bind_eq_ok.mp h).1

theorem Asi2600.validate_holds (h : Asi2600.validate s gain = .ok ()) :
    Asi2600.sensor.holds s = true :=
  (ensure_bind_eq_ok.mp h).1

theorem packetAligned_mono {bytes bytes' count : Nat} (hle : bytes ≤ bytes')
    (h : packetAligned bytes count = true) : packetAligned bytes' count = true := by
  simp only [packetAligned, Bool.or_eq_true, Bool.and_eq_true, decide_eq_true_eq] at h ⊢
  omega

theorem Asi6200.validate_enlarged {width height x y : Nat} (h : Asi6200.validate raw gain = .ok ())
    (hholds : Asi6200.sensor.holds
      { raw with width := width, height := height, x := x, y := y } = true)
    (hbytes : raw.width * raw.height * 2 ≤ width * height * 2)
    (hsmall : width * height * 2 < 4294967296) :
    Asi6200.validate { raw with width := width, height := height, x := x, y := y } gain = .ok () := by
  simp only [Asi6200.validate, ensure_bind_eq_ok, word32_bind_eq_ok] at h ⊢
  obtain ⟨_, hlimits, _, hinjection, hcounts⟩ := h
  refine ⟨hholds, hlimits, hsmall, hinjection, ?_⟩
  simp only [List.forM_cons, List.forM_nil, ensure_bind_eq_ok] at hcounts ⊢
  obtain ⟨hfirst, hsecond, hthird, hdone⟩ := hcounts
  exact ⟨packetAligned_mono hbytes hfirst, packetAligned_mono hbytes hsecond,
    packetAligned_mono hbytes hthird, hdone⟩

theorem Asi2600.validate_enlarged {width height x y : Nat} (h : Asi2600.validate raw gain = .ok ())
    (hholds : Asi2600.sensor.holds
      { raw with width := width, height := height, x := x, y := y } = true)
    (hbytes : raw.width * raw.height * 2 ≤ width * height * 2)
    (hsmall : width * height * 2 < 4294967296) :
    Asi2600.validate { raw with width := width, height := height, x := x, y := y } gain = .ok () := by
  simp only [Asi2600.validate, ensure_bind_eq_ok, word32_bind_eq_ok] at h ⊢
  obtain ⟨_, hlimits, _, hdelay, hreopen, hinjection, hcounts⟩ := h
  refine ⟨hholds, hlimits, hsmall, hdelay, hreopen, hinjection, ?_⟩
  simp only [List.forM_cons, List.forM_nil, ensure_bind_eq_ok] at hcounts ⊢
  obtain ⟨hfirst, hsecond, hthird, hfourth, hdone⟩ := hcounts
  exact ⟨packetAligned_mono hbytes hfirst, packetAligned_mono hbytes hsecond,
    packetAligned_mono hbytes hthird, packetAligned_mono hbytes hfourth, hdone⟩

structure Reads (sensor : Sensor) (raw readout : Settings) : Prop where
  settings : sensor.settings raw = .ok readout
  holds : sensor.holds readout = true
  area : minimumArea ≤ readout.width * readout.height
  same : minimumArea ≤ raw.width * raw.height → readout = raw
  enlarged : ∃ width height x y,
    readout = { raw with width := width, height := height, x := x, y := y }
  left : readout.x ≤ raw.x
  top : readout.y ≤ raw.y
  wide : raw.width ≤ readout.width
  high : raw.height ≤ readout.height
  bottom : raw.y + raw.height ≤ readout.y + readout.height
  right : raw.x + raw.width ≤ readout.x + readout.width ↔ ¬ AtEdge sensor raw

theorem Reads.bytes {readout : Settings} (h : Reads sensor raw readout) :
    raw.width * raw.height * 2 ≤ readout.width * readout.height * 2 :=
  Nat.mul_le_mul_right 2 (Nat.mul_le_mul h.wide h.high)

theorem Reads.small {readout : Settings} (h : Reads sensor raw readout)
    (hsmall : sensor.width * sensor.height * 2 < 4294967296) :
    readout.width * readout.height * 2 < 4294967296 := by
  obtain ⟨⟨_, hwidth, _⟩, ⟨_, hheight, _⟩, _⟩ := holds_iff.mp h.holds
  have harea := Nat.mul_le_mul hwidth hheight
  omega

theorem settings_reads (hwidth : 1024 ≤ sensor.width ∧ sensor.width % 16 = 8)
    (hheight : 128 ≤ sensor.height ∧ sensor.height % 2 = 0)
    (hsmall : sensor.width * sensor.height * 2 < 4294967296) (hholds : sensor.holds raw = true) :
    ∃ readout, Reads sensor raw readout := by
  have hraw := holds_iff.mp hholds
  obtain ⟨⟨hwide, hwidth', hcolumns⟩, ⟨hhigh, hheight', hrows⟩, hx, hy, hright, hbottom⟩ := hraw
  have harea : raw.width * raw.height ≤ sensor.width * sensor.height :=
    Nat.mul_le_mul hwidth' hheight'
  have hword : word32 (raw.width * raw.height) = .ok (raw.width * raw.height) := if_pos (by omega)
  by_cases hless : raw.width * raw.height < minimumArea
  · have hnarrow : raw.width < 1024 := by
      have hle := Nat.mul_le_mul_left raw.width hhigh
      unfold minimumArea at hless
      omega
    have hcolumns' :
        minus sensor.width (max raw.width 512) = .ok (sensor.width - max raw.width 512) :=
      if_pos (by omega)
    have hrows' :
        minus sensor.height (max raw.height 128) = .ok (sensor.height - max raw.height 128) :=
      if_pos (by omega)
    refine ⟨{ raw with
      width := max raw.width 512, height := max raw.height 128,
      x := min raw.x ((sensor.width - max raw.width 512) / 16 * 16),
      y := min raw.y (sensor.height - max raw.height 128) }, ?_, ?_, ?_, ?_, ⟨_, _, _, _, rfl⟩,
      Nat.min_le_left _ _, Nat.min_le_left _ _, Nat.le_max_left _ _, Nat.le_max_left _ _, ?_, ?_⟩
    · simp only [Sensor.settings, hword, hcolumns', hrows', hless, bind, Except.bind, pure,
        Except.pure, if_true]
    · rw [holds_iff]
      dsimp only
      omega
    · exact Nat.mul_le_mul (Nat.le_max_right raw.width 512) (Nat.le_max_right raw.height 128)
    · intro hle
      omega
    · dsimp only
      omega
    · unfold AtEdge
      dsimp only
      omega
  · refine ⟨raw, ?_, hholds, by omega, fun _ => rfl, ⟨_, _, _, _, rfl⟩, le_rfl, le_rfl, le_rfl, le_rfl,
      le_rfl, ?_⟩
    · simp only [Sensor.settings, hword, hless, bind, Except.bind, pure, Except.pure, if_false]
    · simp [AtEdge, hless]

end

section

variable {s raw readout : Settings} {gain : Int} {bin : Nat} {data : List UInt8}

theorem binned_one {bright : Nat → Nat → Nat} {column row : Nat} :
    binned bright 1 column row = bright column row := by
  simp [binned, List.range_one]

theorem binned_onSensor {sensor : Sensor} (hraw : Raw sensor s bin raw)
    (hreads : Reads sensor raw readout) (column row : Nat) :
    binned (fun column row => Raw16.sample data
        ((raw.y - readout.y + row) * readout.width + (raw.x - readout.x + column))) bin column row
      = binned (onSensor readout data) bin (s.x + column) (s.y + row) := by
  have hx : ∀ dx, (s.x + column) * bin + dx - readout.x
      = raw.x - readout.x + (column * bin + dx) := by
    intro dx
    have hleft := hreads.left
    rw [Nat.add_mul, ← hraw.x]
    omega
  have hy : ∀ dy, (s.y + row) * bin + dy - readout.y = raw.y - readout.y + (row * bin + dy) := by
    intro dy
    have htop := hreads.top
    rw [Nat.add_mul, ← hraw.y]
    omega
  simp only [binned, onSensor, hx, hy]

theorem cropped_shows {sensor : Sensor} (hsmall : sensor.width * sensor.height * 2 < 4294967296)
    (hraw : Raw sensor s bin raw) (hreads : Reads sensor raw readout)
    (hright : raw.x + raw.width ≤ readout.x + readout.width)
    (hdata : data.length = readout.width * readout.height * 2) :
    ∃ cropped, cropFrame raw readout data = .ok cropped
      ∧ Shows cropped raw.width raw.height fun column row => Raw16.sample data
        ((raw.y - readout.y + row) * readout.width + (raw.x - readout.x + column)) := by
  have hshows : Shows data readout.width readout.height
      fun column row => Raw16.sample data (row * readout.width + column) :=
    ⟨hdata, fun _ _ _ _ => rfl⟩
  obtain ⟨⟨_, hwidth, _⟩, ⟨_, hheight, _⟩, _, _, hx, hy⟩ := holds_iff.mp hraw.holds
  obtain ⟨⟨_, hwidth', _⟩, ⟨_, hheight', _⟩, _⟩ := holds_iff.mp hreads.holds
  have hwide := hreads.wide
  have hhigh := hreads.high
  by_cases hcrop : readout.width ≠ raw.width ∨ readout.height ≠ raw.height
  · rw [cropFrame, if_pos hcrop]
    have harea : readout.width * readout.height ≤ sensor.width * sensor.height :=
      Nat.mul_le_mul hwidth' hheight'
    have hrow : sensor.width ≤ sensor.width * sensor.height :=
      Nat.le_mul_of_pos_right _ (by omega)
    have hcolumn : sensor.height ≤ sensor.width * sensor.height :=
      Nat.le_mul_of_pos_left _ (by omega)
    exact crop_shows { hreads with right := hright } (by omega)
      ⟨by omega, by omega⟩ hshows
  · rw [cropFrame, if_neg hcrop]
    obtain ⟨hsame, hsame'⟩ := not_or.mp hcrop
    have hwidths := not_not.mp hsame
    have hheights := not_not.mp hsame'
    have hleft := hreads.left
    have htop := hreads.top
    have hbottom := hreads.bottom
    have hx0 : raw.x - readout.x = 0 := by omega
    have hy0 : raw.y - readout.y = 0 := by omega
    refine ⟨data, rfl, ?_⟩
    simp only [hx0, hy0, Nat.zero_add]
    rw [← hwidths, ← hheights]
    exact hshows

theorem finishOutput_delivers {sensor : Sensor}
    (hsmall : sensor.width * sensor.height * 2 < 4294967296) (hraw : Raw sensor s bin raw)
    (hreads : Reads sensor raw readout) (hright : raw.x + raw.width ≤ readout.x + readout.width)
    (hdata : data.length = readout.width * readout.height * 2) :
    ∃ output, finishOutput s raw readout bin data = .ok output
      ∧ Delivers s readout bin data output := by
  obtain ⟨cropped, hcrop, hshows⟩ := cropped_shows hsmall hraw hreads hright hdata
  obtain ⟨⟨_, hwidth, _⟩, ⟨_, hheight, _⟩, _⟩ := holds_iff.mp hraw.holds
  obtain ⟨⟨_, hwidth', _⟩, ⟨_, hheight', _⟩, _⟩ := holds_iff.mp hreads.holds
  have harea : raw.width * raw.height ≤ sensor.width * sensor.height :=
    Nat.mul_le_mul hwidth hheight
  have harea' : readout.width * readout.height ≤ sensor.width * sensor.height :=
    Nat.mul_le_mul hwidth' hheight'
  have hpos : 0 < bin := hraw.bins.1
  have hbinned : ∃ result, binFrame raw bin cropped = .ok result
      ∧ Shows result s.width s.height fun column row =>
        binned (onSensor readout data) bin (s.x + column) (s.y + row) := by
    by_cases hbin : 1 < bin
    · rw [binFrame, if_pos hbin]
      obtain ⟨result, hresult, hlength, hsample⟩ := binAverage_shows hraw.bins
        (by rw [hraw.width, Nat.mul_mod_left]) (by rw [hraw.height, Nat.mul_mod_left]) hshows
        (by omega)
      rw [hraw.width, hraw.height, Nat.mul_div_cancel _ hpos, Nat.mul_div_cancel _ hpos]
        at hlength hsample
      refine ⟨result, hresult, hlength, fun column row hcolumn hrow => ?_⟩
      rw [hsample column row hcolumn hrow]
      exact binned_onSensor hraw hreads column row
    · rw [binFrame, if_neg hbin]
      have hone : bin = 1 := by omega
      have hwidths := hraw.width
      have hheights := hraw.height
      rw [hone, Nat.mul_one] at hwidths hheights
      rw [hwidths, hheights] at hshows
      refine ⟨cropped, rfl, hshows.length, fun column row hcolumn hrow => ?_⟩
      rw [hshows.sample column row hcolumn hrow, ← binned_onSensor hraw hreads column row, hone,
        binned_one]
  obtain ⟨result, hresult, hpixels⟩ := hbinned
  have hbytes : word32 (readout.width * readout.height * 2)
      = .ok (readout.width * readout.height * 2) := if_pos (by omega)
  let metadata : Metadata := {
    wireBytes := readout.width * readout.height * 2
    rawWidth := readout.width
    rawHeight := readout.height
    rawX := readout.x
    rawY := readout.y
    width := s.width
    height := s.height
    bin := bin
    x := s.x
    y := s.y
    bytes := result.length }
  refine ⟨(metadata, result), ?_, rfl, rfl, hpixels⟩
  simp only [finishOutput, hcrop, hresult, hbytes, bind, Except.bind, pure, Except.pure, metadata]

end

/-- What a capture owes for the settings of one request. -/
structure Sound (model : Model) (s : Settings) (gain : Int) (bin : Nat) (raw readout : Settings) :
    Prop where
  valid : model.validate readout gain = .ok ()
  area : minimumArea ≤ readout.width * readout.height
  same : minimumArea ≤ raw.width * raw.height → readout = raw
  contains : Contains readout raw
  delivers : ∀ (native : Settings → Int → Checked (List UInt8)) (data : List UInt8),
    native readout gain = .ok data → data.length = readout.width * readout.height * 2 →
      ∃ output, model.capture native s gain bin = .ok output ∧ Delivers s readout bin data output

structure Fits (model : Model) (s : Settings) (gain : Int) (bin : Nat) (raw : Settings) : Prop where
  inSensor : Raw model.sensor s bin raw
  small : model.sensor.width * model.sensor.height * 2 < 4294967296
  reads : ∃ readout, Reads model.sensor raw readout ∧ model.sensorSettings raw = .ok readout
    ∧ model.validate readout gain = .ok ()

theorem rawSettings_fits {model : Model} {s raw : Settings} {gain : Int} {bin : Nat}
    (h : model.rawSettings s gain bin = .ok raw) : Fits model s gain bin raw := by
  cases model with
  | asi2600 =>
    obtain ⟨hraw, hvalid⟩ :=
      rawSettings_raw Asi2600.validate (fun _ _ hvalid => Asi2600.validate_holds hvalid) h
    have hsmall : Asi2600.sensor.width * Asi2600.sensor.height * 2 < 4294967296 := by decide
    obtain ⟨readout, hreads⟩ := settings_reads (by decide) (by decide) hsmall hraw.holds
    refine ⟨hraw, hsmall, readout, hreads, hreads.settings, ?_⟩
    obtain ⟨width, height, x, y, rfl⟩ := hreads.enlarged
    exact Asi2600.validate_enlarged hvalid hreads.holds hreads.bytes (hreads.small hsmall)
  | asi6200 =>
    obtain ⟨hraw, hvalid⟩ :=
      rawSettings_raw Asi6200.validate (fun _ _ hvalid => Asi6200.validate_holds hvalid) h
    have hsmall : Asi6200.sensor.width * Asi6200.sensor.height * 2 < 4294967296 := by decide
    obtain ⟨readout, hreads⟩ := settings_reads (by decide) (by decide) hsmall hraw.holds
    refine ⟨hraw, hsmall, readout, hreads, hreads.settings, ?_⟩
    obtain ⟨width, height, x, y, rfl⟩ := hreads.enlarged
    exact Asi6200.validate_enlarged hvalid hreads.holds hreads.bytes (hreads.small hsmall)

/-- A readout delivers the requested pixels unless the region is a small one at the right edge. -/
theorem readout_sound_iff (model : Model) (s : Settings) (gain : Int) (bin : Nat) (raw : Settings)
    (h : model.rawSettings s gain bin = .ok raw) :
    (∃ readout, model.sensorSettings raw = .ok readout ∧ Sound model s gain bin raw readout)
      ↔ ¬ AtEdge model.sensor raw := by
  obtain ⟨hraw, hsmall, readout, hreads, hsettings, hvalid⟩ := rawSettings_fits h
  constructor
  · rintro ⟨readout', hsettings', hsound⟩
    rw [hsettings] at hsettings'
    cases hsettings'
    exact hreads.right.mp hsound.contains.right
  · intro hedge
    have hright := hreads.right.mpr hedge
    refine ⟨readout, hsettings, hvalid, hreads.area, hreads.same,
      { hreads with right := hright }, ?_⟩
    intro native data hnative hlength
    obtain ⟨output, houtput, hdelivers⟩ := finishOutput_delivers hsmall hraw hreads hright hlength
    refine ⟨output, ?_, hdelivers⟩
    simp only [Model.capture, h, hsettings, hvalid, hnative, houtput, bind, Except.bind]

private def cornerSettings : Settings :=
  { width := 72, height := 64, x := 0, y := 0, microseconds := 100000 }

theorem readout_sound_corner : ∃ readout, Model.asi6200.sensorSettings cornerSettings = .ok readout
      ∧ Sound .asi6200 cornerSettings 0 1 cornerSettings readout :=
  (readout_sound_iff .asi6200 cornerSettings 0 1 cornerSettings (by decide)).mpr
    fun hedge => absurd hedge.2.2 (by decide)

private def edgeSettings : Settings :=
  { width := 72, height := 64, x := 9504, y := 0, microseconds := 100000 }

/-- A small region at the right edge is not inside its readout. -/
theorem readout_misses_edge :
    ¬ ∀ (model : Model) (s : Settings) (gain : Int) (bin : Nat) (raw : Settings),
      model.rawSettings s gain bin = .ok raw →
        ∃ readout, model.sensorSettings raw = .ok readout ∧ Sound model s gain bin raw readout := by
  intro hall
  obtain ⟨readout, hsettings, hsound⟩ := hall .asi6200 edgeSettings 0 1 edgeSettings (by decide)
  have hreadout : Model.asi6200.sensorSettings edgeSettings
      = .ok { edgeSettings with width := 512, height := 128, x := 9056 } := by decide
  rw [hreadout] at hsettings
  cases hsettings
  exact absurd hsound.contains.right (by decide)

end Regain.Zwo.Readout
