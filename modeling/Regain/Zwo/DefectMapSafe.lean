import Mathlib.Data.Nat.Bitwise
import Mathlib.Tactic.IntervalCases
import Regain.Zwo.DefectMap

/-!
# Defect maps are safe

The bit map of a stream has, at every address, the last byte written there. A decoded map has the
positions of its region that are set in the bit map, so the map of a region is a part of the map of
the sensor.
-/

namespace Regain.Zwo.DefectMap

open Lib
open Checked

/-! ## Streams -/

/-- The bytes that a stream writes, with their addresses, from the base of a block on. -/
def written (base : Nat) : List (UInt8 × UInt8) → List (Nat × UInt8)
  | [] => []
  | pair :: rest =>
    if pair = (0, 0) then written (base + 256) rest
    else (base + swapNibbles pair.1, pair.2) :: written base rest

def byteAt (entries : List (Nat × UInt8)) (address : Nat) (byte : UInt8) : UInt8 :=
  (((entries.filter fun entry => entry.1 = address).getLast?).map Prod.snd).getD byte

def pixelSet (stream : List (UInt8 × UInt8)) (sensor : Nat) : Bool :=
  (byteAt (written 0 stream) (sensor / 8) 0).toNat.testBit (sensor % 8)

example : (List.range 2070).filter (pixelSet [(0x10, 0x81), (0, 0), (0x20, 1)]) = [8, 15, 2064] := by
  decide +kernel

theorem byteAt_cons (entry : Nat × UInt8) (rest : List (Nat × UInt8)) (address : Nat)
    (byte : UInt8) : byteAt (entry :: rest) address byte
      = byteAt rest address (if entry.1 = address then entry.2 else byte) := by
  unfold byteAt
  by_cases hentry : entry.1 = address
  · rw [List.filter_cons_of_pos (by simpa using hentry), if_pos hentry, List.getLast?_cons]
    cases (rest.filter fun other => other.1 = address).getLast? <;> rfl
  · rw [List.filter_cons_of_neg (by simpa using hentry), if_neg hentry]

theorem writePairs_safe (stream : List (UInt8 × UInt8)) (packed : List UInt8) (base : Nat) :
    Safe (stream.foldlM writePair (packed, base)) fun out => ∀ address, out.1[address]?
        = packed[address]?.map (byteAt (written base stream) address) := by
  induction stream generalizing packed base with
  | nil =>
    refine Safe.pure fun address => ?_
    cases packed[address]? <;> rfl
  | cons pair rest ih =>
    rw [List.foldlM_cons]
    unfold writePair
    by_cases hpair : pair = (0, 0)
    · rw [if_pos hpair, written, if_pos hpair, bind_assoc]
      exact (safe_ensure _ _).bind fun _ _ => ih packed (base + 256)
    · rw [if_neg hpair, written, if_neg hpair, bind_assoc]
      refine (safe_ensure _ _).bind fun _ hbound => ?_
      rw [bind_assoc]
      refine (returns_set (of_decide_eq_true hbound) pair.2).safe.bind fun next hnext => ?_
      refine ⟨(ih next base).1, fun out hout address => ?_⟩
      rw [(ih next base).2 out hout address, hnext, List.getElem?_set]
      by_cases haddress : base + swapNibbles pair.1 = address
      · have hlt := of_decide_eq_true hbound
        rw [haddress] at hlt ⊢
        rw [if_pos rfl, if_pos hlt, List.getElem?_eq_getElem hlt]
        simp only [Option.map_some, byteAt_cons, if_true]
      · rw [if_neg haddress]
        cases packed[address]? with
        | none => rfl
        | some byte => simp only [Option.map_some, byteAt_cons, if_neg haddress]

theorem and_bit_ne_zero (byte : UInt8) {bit : Nat} (h : bit < 8) :
    byte &&& (1 <<< UInt8.ofNat bit) ≠ 0 ↔ byte.toNat.testBit bit = true := by
  have hshift : ((1 : UInt8) <<< UInt8.ofNat bit).toNat = 2 ^ bit := by
    interval_cases bit <;> rfl
  have hand : (byte &&& (1 <<< UInt8.ofNat bit)).toNat = (byte.toNat.testBit bit).toNat * 2 ^ bit := by
    rw [UInt8.toNat_and, hshift, Nat.and_two_pow]
  have hpos : 0 < 2 ^ bit := by positivity
  rw [ne_eq, ← UInt8.toNat_inj, hand]
  cases byte.toNat.testBit bit with
  | true => simp
  | false => simp

theorem map_positions (width height : Nat) :
    (positions width height).map (fun position => position.1 * width + position.2)
      = List.range (height * width) := by
  induction height with
  | zero => simp [positions]
  | succ height ih =>
    have hlast : positions width (height + 1)
        = positions width height ++ (List.range width).map fun column => (height, column) := by
      simp [positions, List.range_succ]
    rw [hlast, List.map_append, ih, Nat.add_mul, Nat.one_mul, List.range_add, List.map_map]
    rfl

theorem mem_positions {width height row column : Nat} :
    (row, column) ∈ positions width height ↔ row < height ∧ column < width := by
  simp [positions]

theorem index_lt {width height row column : Nat} (hrow : row < height) (hcolumn : column < width) :
    row * width + column < width * height := by
  have hnext : (row + 1) * width ≤ height * width := Nat.mul_le_mul_right _ hrow
  rw [Nat.add_mul, Nat.one_mul, Nat.mul_comm height] at hnext
  omega

variable {profile : Profile} {roi : Roi}

theorem Roi.within_sensor (h : roi.within profile = true)
    {row column : Nat} (hrow : row < roi.height) (hcolumn : column < roi.width) :
    (roi.y + row) * profile.sensorWidth + roi.x + column
      < profile.sensorWidth * profile.sensorHeight := by
  simp only [Roi.within, Bool.and_eq_true, decide_eq_true_eq] at h
  rw [Nat.add_assoc]
  exact index_lt (by omega) (by omega)

def setIndices (stream : List (UInt8 × UInt8)) (roi : Roi) (profile : Profile)
    (places : List (Nat × Nat)) : List Nat :=
  (places.filter fun position =>
      pixelSet stream ((roi.y + position.1) * profile.sensorWidth + roi.x + position.2)).map
    fun position => position.1 * roi.width + position.2

theorem setIndices_cons (stream : List (UInt8 × UInt8)) (roi : Roi) (profile : Profile)
    (position : Nat × Nat) (rest : List (Nat × Nat)) :
    setIndices stream roi profile (position :: rest) = (if pixelSet stream
          ((roi.y + position.1) * profile.sensorWidth + roi.x + position.2) = true
        then [position.1 * roi.width + position.2] else [])
        ++ setIndices stream roi profile rest := by
  unfold setIndices
  rw [List.filter_cons]
  split <;> rfl

/-! ## Decoding -/

def Packed (stream : List (UInt8 × UInt8)) (profile : Profile) (packed : List UInt8) : Prop :=
  ∀ sensor < profile.sensorWidth * profile.sensorHeight,
    packed[sensor / 8]? = some (byteAt (written 0 stream) (sensor / 8) 0)

variable {packed : List UInt8}

theorem marks_returns {stream : List (UInt8 × UInt8)} (hpacked : Packed stream profile packed)
    (hwithin : roi.within profile = true) (places : List (Nat × Nat))
    (hplaces : ∀ position ∈ places, position.1 < roi.height ∧ position.2 < roi.width)
    (marks : Marks) (hmask : marks.mask.length = roi.width * roi.height) :
    Returns (places.foldlM (mark packed roi profile) marks) fun out =>
      out.mask.length = roi.width * roi.height
        ∧ out.indices = marks.indices ++ setIndices stream roi profile places := by
  induction places generalizing marks with
  | nil => exact Returns.pure ⟨hmask, by simp [setIndices]⟩
  | cons position rest ih =>
    have hrest := ih fun other hother => hplaces other (List.mem_cons_of_mem _ hother)
    obtain ⟨hrow, hcolumn⟩ := hplaces position List.mem_cons_self
    have hsensor := Roi.within_sensor hwithin hrow hcolumn
    have hbit : ((roi.y + position.1) * profile.sensorWidth + roi.x + position.2) % 8 < 8 :=
      Nat.mod_lt _ (by omega)
    rw [List.foldlM_cons]
    unfold mark
    dsimp only
    rw [bind_assoc]
    refine (returns_get (hpacked _ hsensor)).bind fun byte hbyte => ?_
    rw [hbyte]
    by_cases hset : pixelSet stream
        ((roi.y + position.1) * profile.sensorWidth + roi.x + position.2) = true
    · rw [if_pos ((and_bit_ne_zero _ hbit).mpr hset), bind_assoc]
      have hindex := index_lt hrow hcolumn
      refine (returns_set (by omega) true).bind fun mask hmarked => ?_
      refine (hrest ⟨mask, marks.indices ++ [position.1 * roi.width + position.2]⟩
        (by simp [hmarked, hmask])).mono fun out hout => ⟨hout.1, ?_⟩
      rw [hout.2, setIndices_cons, if_pos hset, List.append_assoc]
    · rw [if_neg (fun hbyte => hset ((and_bit_ne_zero _ hbit).mp hbyte))]
      refine (hrest marks hmask).mono fun out hout => ⟨hout.1, ?_⟩
      rw [hout.2, setIndices_cons, if_neg hset, List.nil_append]

/-- The stream of a calibration: the pairs behind its header, up to its declared length. -/
def stream (data : List UInt8) : List (UInt8 × UInt8) :=
  match declaredLength data with
  | .ok length => pairs ((data.take length).drop 8)
  | .error _ => []

structure Decoded (data : List UInt8) (roi : Roi) (profile : Profile) (defects : Defects) :
    Prop where
  within : roi.within profile = true
  indices : defects.indices
    = setIndices (stream data) roi profile (positions roi.width roi.height)
  mask : defects.mask.length = roi.width * roi.height
  width : defects.width = roi.width
  height : defects.height = roi.height
  step : defects.step = profile.step

theorem profile_fits (h : profile ∈ profiles) :
    profile.sensorWidth * profile.sensorHeight % 8 = 0 ∧ 1 ≤ profile.step ∧ profile.step ≤ 2 := by
  revert h
  revert profile
  decide

theorem declaredLength_safe (data : List UInt8) : Safe (declaredLength data) (8 ≤ ·) := by
  unfold declaredLength
  split
  · split
    · refine (safe_ensure _ _).bind fun _ hlength => Safe.pure ?_
      simp only [Bool.and_eq_true, decide_eq_true_eq] at hlength
      exact hlength.1.1
    · exact safe_refused _
  · exact safe_refused _

theorem packed_replicate (hprofile : profile ∈ profiles)
    {stream : List (UInt8 × UInt8)} (h : ∀ address, packed[address]?
      = (List.replicate (profile.sensorWidth * profile.sensorHeight / 8) 0)[address]?.map
        (byteAt (written 0 stream) address)) : Packed stream profile packed := by
  intro sensor hsensor
  have height := (profile_fits hprofile).1
  have hlt : sensor / 8 < profile.sensorWidth * profile.sensorHeight / 8 := by omega
  rw [h, List.getElem?_replicate_of_lt hlt]
  rfl

theorem covers_returns {mask : List Bool} {lines places : Nat} {index : Nat → Nat → Nat}
    (h : ∀ line < lines, ∀ place < places, index line place < mask.length) :
    Returns (covers mask lines places index) fun _ => True :=
  returns_anyM fun line hline => returns_allM fun place hplace =>
    returns_get_of_lt (h line (List.mem_range.mp hline) place (List.mem_range.mp hplace))

theorem coversLine_returns {mask : List Bool}
    (h : mask.length = roi.width * roi.height) : Returns (coversLine mask roi) fun _ => True := by
  unfold coversLine
  refine (covers_returns fun row hrow column hcolumn => ?_).bind fun found _ => ?_
  · rw [h]
    exact index_lt hrow hcolumn
  · cases found with
    | true => exact Returns.pure trivial
    | false =>
      refine covers_returns fun column hcolumn row hrow => ?_
      rw [h]
      exact index_lt hrow hcolumn

theorem decodeProfile_safe (hprofile : profile ∈ profiles) (data : List UInt8)
    (roi : Roi) : Safe (decodeProfile data roi profile) (Decoded data roi profile) := by
  unfold decodeProfile
  refine (safe_ensure _ _).bind fun _ hwithin => ?_
  refine (declaredLength_safe data).known.bind fun length ⟨hlength, hdeclared⟩ => ?_
  refine (safe_ensure _ _).bind fun _ htruncated => ?_
  have hslice : slice data 8 length = .ok ((data.take length).drop 8) :=
    if_pos ⟨hlength, of_decide_eq_true htruncated⟩
  have hstream : stream data = pairs ((data.take length).drop 8) := by
    unfold stream
    rw [hdeclared]
  rw [hslice]
  refine Safe.bind (Safe.pure rfl) fun body hbody => ?_
  subst hbody
  rw [← hstream]
  refine (writePairs_safe _ _ _).bind fun out hout => ?_
  refine (marks_returns (packed_replicate hprofile hout) hwithin _
    (fun position hposition => mem_positions.mp hposition) _ (by simp)).safe.bind
    fun marks hmarks => ?_
  refine (safe_ensure _ _).bind fun _ _ => ?_
  refine (coversLine_returns hmarks.1).safe.bind fun line _ => ?_
  refine (safe_ensure _ _).bind fun _ _ => ?_
  exact Safe.pure ⟨hwithin, by simpa using hmarks.2, hmarks.1, rfl, rfl, rfl⟩

section

variable {data : List UInt8} {roi : Roi} {profile : Profile} {defects : Defects}

theorem Decoded.increasing (h : Decoded data roi profile defects) :
    defects.indices.Pairwise (· < ·) := by
  have hall : ((positions roi.width roi.height).map
      fun position => position.1 * roi.width + position.2).Pairwise (· < ·) := by
    rw [map_positions]
    exact List.pairwise_lt_range
  rw [h.indices]
  exact hall.sublist (List.filter_sublist.map _)

theorem Decoded.mem (h : Decoded data roi profile defects) (index : Nat) :
    index ∈ defects.indices ↔ ∃ row < roi.height, ∃ column < roi.width,
      index = row * roi.width + column
        ∧ pixelSet (stream data) ((roi.y + row) * profile.sensorWidth + (roi.x + column))
          = true := by
  rw [h.indices]
  unfold setIndices
  rw [List.mem_map]
  constructor
  · rintro ⟨⟨row, column⟩, hmem, rfl⟩
    obtain ⟨hposition, hset⟩ := List.mem_filter.mp hmem
    obtain ⟨hrow, hcolumn⟩ := mem_positions.mp hposition
    exact ⟨row, hrow, column, hcolumn, rfl, by rwa [Nat.add_assoc] at hset⟩
  · rintro ⟨row, hrow, column, hcolumn, rfl, hset⟩
    refine ⟨(row, column), List.mem_filter.mpr ⟨mem_positions.mpr ⟨hrow, hcolumn⟩, ?_⟩, rfl⟩
    rwa [Nat.add_assoc]

theorem index_inj {width row column row' column' : Nat} (hcolumn : column < width)
    (hcolumn' : column' < width) (h : row * width + column = row' * width + column') :
    row = row' ∧ column = column' := by
  have hwidth : 0 < width := by omega
  have hrow := congrArg (· / width) h
  have hrest := congrArg (· % width) h
  simp only [Nat.add_comm (_ * width), Nat.add_mul_div_right _ _ hwidth, Nat.div_eq_of_lt hcolumn,
    Nat.div_eq_of_lt hcolumn', Nat.zero_add, Nat.add_mul_mod_self_right, Nat.mod_eq_of_lt hcolumn,
    Nat.mod_eq_of_lt hcolumn'] at hrow hrest
  exact ⟨hrow, hrest⟩

theorem Decoded.mem_index (h : Decoded data roi profile defects) {row column : Nat}
    (hrow : row < roi.height) (hcolumn : column < roi.width) :
    row * roi.width + column ∈ defects.indices
      ↔ pixelSet (stream data) ((roi.y + row) * profile.sensorWidth + (roi.x + column)) = true := by
  rw [h.mem]
  constructor
  · rintro ⟨row', -, column', hcolumn', heq, hset⟩
    obtain ⟨rfl, rfl⟩ := index_inj hcolumn hcolumn' heq
    exact hset
  · exact fun hset => ⟨row, hrow, column, hcolumn, rfl, hset⟩

def Profile.full (profile : Profile) : Roi :=
  ⟨profile.sensorWidth, profile.sensorHeight, 0, 0⟩

theorem Decoded.restrict {full : Defects} (h : Decoded data roi profile defects)
    (hfull : Decoded data profile.full profile full) {row column : Nat}
    (hrow : row < roi.height) (hcolumn : column < roi.width) :
    row * roi.width + column ∈ defects.indices
      ↔ (roi.y + row) * profile.sensorWidth + (roi.x + column) ∈ full.indices := by
  have hwithin := h.within
  simp only [Roi.within, Bool.and_eq_true, decide_eq_true_eq] at hwithin
  have hy : roi.y + row < profile.full.height := by simp only [Profile.full]; omega
  have hx : roi.x + column < profile.full.width := by simp only [Profile.full]; omega
  have hsensor := hfull.mem_index hy hx
  simp only [Profile.full, Nat.zero_add] at hsensor
  rw [h.mem_index hrow hcolumn, hsensor]

end

/-! ## Correction -/

structure Usable (defects : Defects) : Prop where
  wide : 8 ≤ defects.width
  high : 4 ≤ defects.height
  mask : defects.mask.length = defects.width * defects.height
  bounded : ∀ index ∈ defects.indices, index < defects.width * defects.height
  step : 1 ≤ defects.step ∧ defects.step ≤ 2

theorem Decoded.usable {data : List UInt8} {defects : Defects}
    (hprofile : profile ∈ profiles) (h : Decoded data roi profile defects) : Usable defects := by
  have hwithin := h.within
  simp only [Roi.within, Bool.and_eq_true, decide_eq_true_eq] at hwithin
  constructor
  · rw [h.width]
    omega
  · rw [h.height]
    omega
  · rw [h.mask, h.width, h.height]
  · intro index hindex
    obtain ⟨row, hrow, column, hcolumn, rfl, -⟩ := (h.mem index).mp hindex
    rw [h.width, h.height]
    exact index_lt hrow hcolumn
  · rw [h.step]
    exact (profile_fits hprofile).2

theorem pixel_returns {data : List UInt8} {index : Nat} (h : 2 * index + 1 < data.length) :
    Returns (pixel data index) fun _ => True :=
  (returns_get_of_lt (by omega)).bind fun _ _ => (returns_get_of_lt h).bind fun _ _ =>
    Returns.pure trivial

section

variable {defects : Defects} {data : List UInt8} {index : Nat}

theorem Usable.below_lt (h : Usable defects) (hindex : index < defects.step * defects.width) :
    index + defects.step * defects.width < defects.width * defects.height := by
  have hstep : defects.step * defects.width ≤ 2 * defects.width :=
    Nat.mul_le_mul_right _ h.step.2
  have hheight : defects.width * 4 ≤ defects.width * defects.height :=
    Nat.mul_le_mul_left _ h.high
  omega

theorem Usable.borderSource_returns (h : Usable defects) {position : Nat}
    (hposition : position < defects.indices.length)
    (hindex : index < defects.width * defects.height) :
    Returns (borderSource defects position index) (· < defects.width * defects.height) := by
  have hmask := h.mask
  unfold borderSource
  refine (returns_minus (by omega)).bind fun last hlast => ?_
  dsimp only
  split
  · exact Returns.pure (by omega)
  · split
    · rename_i habove
      exact (returns_minus habove).mono fun value hvalue => by omega
    · rename_i habove
      have hbelow := h.below_lt (not_le.mp habove)
      have hsuffix : suffix defects.indices (position + 1)
          = .ok (defects.indices.drop (position + 1)) := if_pos hposition
      rw [hsuffix]
      refine Returns.bind (Returns.pure rfl) fun rest hrest => ?_
      split
      · exact Returns.pure (by omega)
      · exact Returns.pure hbelow

theorem Usable.addNeighbor_returns (h : Usable defects)
    (hlength : data.length = defects.width * defects.height * 2) {total : Nat × Nat}
    {neighbor : Nat} (hneighbor : neighbor < defects.width * defects.height) :
    Returns (addNeighbor defects data index total neighbor) fun _ => True := by
  have hmask := h.mask
  unfold addNeighbor
  refine (returns_get_of_lt (by omega)).bind fun masked _ => ?_
  split
  · exact (pixel_returns (by omega)).bind fun _ _ => Returns.pure trivial
  · exact Returns.pure trivial

theorem Usable.average_returns (h : Usable defects)
    (hlength : data.length = defects.width * defects.height * 2)
    (habove : defects.step * defects.width ≤ index)
    (hbelow : index + defects.step * defects.width < defects.width * defects.height) :
    Returns (average defects data index) fun _ => True := by
  have hstep : defects.step ≤ defects.step * defects.width :=
    Nat.le_mul_of_pos_right _ (by have := h.wide; omega)
  have hpositive := h.step.1
  unfold average neighbors
  rw [bind_assoc]
  refine (returns_minus habove).bind fun above hab => ?_
  rw [bind_assoc]
  refine (returns_minus (by omega)).bind fun left hleft => ?_
  refine Returns.bind (Returns.pure rfl) fun places hplaces => ?_
  subst hplaces
  have hsum : Returns ([above, left, index + defects.step,
      index + defects.step * defects.width].foldlM (addNeighbor defects data index) (0, 0))
      fun _ => True := by
    refine returns_foldlM trivial fun total _ neighbor hneighbor => h.addNeighbor_returns hlength ?_
    simp only [List.mem_cons, List.not_mem_nil, or_false] at hneighbor
    omega
  refine hsum.bind fun total _ => ?_
  have hmean : Returns (mean data index total) fun _ => True := by
    unfold mean
    split
    · have hprevious : 1 ≤ index := by omega
      exact (returns_minus hprevious).bind fun previous hvalue => pixel_returns (by omega)
    · exact Returns.pure trivial
  exact hmean.bind fun _ _ => Returns.pure trivial

theorem row_bounds {width height : Nat} (hwidth : 0 < width) (hindex : index < width * height) :
    index / width < height ∧ index % width < width ∧ index = index / width * width + index % width := by
  refine ⟨?_, Nat.mod_lt _ hwidth, ?_⟩
  · exact Nat.div_lt_of_lt_mul hindex
  · rw [Nat.mul_comm]
    exact (Nat.div_add_mod _ _).symm

theorem Usable.replacement_returns (h : Usable defects)
    (hlength : data.length = defects.width * defects.height * 2) {position : Nat}
    (hposition : position < defects.indices.length)
    (hindex : index < defects.width * defects.height) :
    Returns (replacement defects data position index) fun _ => True := by
  have hwide := h.wide
  have hhigh := h.high
  have hstep := h.step
  obtain ⟨hy, hx, heq⟩ := row_bounds (by omega) hindex
  have hdivide : divide index defects.width
      = .ok (index / defects.width, index % defects.width) := if_neg (by omega)
  unfold replacement
  rw [hdivide]
  refine Returns.bind (Returns.pure rfl) fun place hplace => ?_
  subst hplace
  dsimp only
  split
  · exact (h.borderSource_returns hposition hindex).bind fun source hsource =>
      pixel_returns (by omega)
  · rename_i hinner
    rw [not_or, not_lt, not_lt] at hinner
    have hbefore : defects.step ≤ index := by
      rw [heq]
      omega
    refine (returns_minus (by omega)).bind fun right hright => ?_
    refine (returns_minus (by omega)).bind fun bottom hbottom => ?_
    split
    · exact (returns_minus hbefore).bind fun source hsource => pixel_returns (by omega)
    · rename_i hborder
      rw [not_or, not_le, not_le] at hborder
      have habove : defects.step * defects.width ≤ index / defects.width * defects.width :=
        Nat.mul_le_mul_right _ hinner.2
      have hlower : index / defects.width + defects.step < defects.height := by omega
      have hbelow := index_lt hlower hx
      rw [Nat.add_mul] at hbelow
      exact h.average_returns hlength (by omega) (by omega)

/-- A frame whose pixels outside of the map are those of another one. -/
structure Outside (defects : Defects) (before after : List UInt8) : Prop where
  length : after.length = before.length
  same : ∀ index, index ∉ defects.indices → Raw16.sample after index = Raw16.sample before index

theorem Usable.correctAt_returns (h : Usable defects) {before : List UInt8}
    (hlength : before.length = defects.width * defects.height * 2)
    (hbefore : Outside defects before data) {entry : Nat × Nat}
    (hentry : entry ∈ defects.indices.zipIdx) :
    Returns (correctAt defects data entry) (Outside defects before) := by
  obtain ⟨index, position⟩ := entry
  have hget := List.mk_mem_zipIdx_iff_getElem?.mp hentry
  have hposition := (List.getElem?_eq_some_iff.mp hget).choose
  have hmem := List.mem_of_getElem? hget
  have hindex := h.bounded index hmem
  have hdata : data.length = defects.width * defects.height * 2 := hbefore.length.trans hlength
  refine (h.replacement_returns hdata hposition hindex).bind fun value _ => ?_
  have hput : putPixel data index value = .ok (Raw16.put data index value) :=
    if_pos (by omega)
  rw [hput]
  refine Returns.pure ⟨by rw [Raw16.length_put, hbefore.length], fun other hother => ?_⟩
  have hne : other ≠ index := fun heq => hother (heq ▸ hmem)
  rw [Raw16.sample_put_of_ne _ _ hne, hbefore.same other hother]

theorem Usable.correct_returns (h : Usable defects)
    (hlength : data.length = defects.width * defects.height * 2) :
    Returns (correct defects data) (Outside defects data) := by
  have hensure : ensure (decide (data.length = defects.width * defects.height * 2))
      "correction frame length mismatch" = .ok () := if_pos (decide_eq_true hlength)
  unfold correct
  rw [hensure]
  refine Returns.bind (Returns.pure rfl) fun _ _ => ?_
  exact returns_foldlM ⟨rfl, fun _ _ => rfl⟩ fun state hstate entry hentry =>
    h.correctAt_returns hlength hstate hentry

end

def Marks.Agree (marks : Marks) : Prop :=
  ∀ index found, marks.mask[index]? = some found → (found = true ↔ index ∈ marks.indices)

theorem mark_agree {position : Nat × Nat} {marks out : Marks} (h : marks.Agree)
    (hmark : mark packed roi profile marks position = .ok out) : out.Agree := by
  unfold mark at hmark
  dsimp only at hmark
  obtain ⟨byte, -, hmark⟩ := bind_eq_ok.mp hmark
  split at hmark
  · obtain ⟨mask, hmask, hout⟩ := bind_eq_ok.mp hmark
    unfold Checked.set at hmask
    split at hmask
    · cases hmask
      cases hout
      intro index found hfound
      rw [List.getElem?_set] at hfound
      split at hfound
      · rename_i hsame
        injection hfound with hfound
        simp [← hfound, hsame]
      · rename_i hother
        have hbefore := h index found hfound
        simp only [List.mem_append, List.mem_singleton]
        constructor
        · exact fun htrue => .inl (hbefore.mp htrue)
        · rintro (hmem | hnew)
          · exact hbefore.mpr hmem
          · exact absurd hnew.symm hother
    · cases hmask
  · cases hmark
    exact h

theorem blank_agree (count : Nat) : Marks.Agree ⟨List.replicate count false, []⟩ := by
  intro index found hfound
  have hfalse : found = false := by
    rw [List.getElem?_replicate] at hfound
    split at hfound
    · injection hfound with hfound
      exact hfound.symm
    · cases hfound
  simp [hfalse]

theorem marks_agree {places : List (Nat × Nat)} {marks out : Marks} (h : marks.Agree)
    (hrun : places.foldlM (mark packed roi profile) marks = .ok out) : out.Agree := by
  induction places generalizing marks with
  | nil =>
    cases hrun
    exact h
  | cons position rest ih =>
    rw [List.foldlM_cons] at hrun
    obtain ⟨next, hnext, hrest⟩ := bind_eq_ok.mp hrun
    exact ih (mark_agree h hnext) hrest

structure Faithful (data : List UInt8) (roi : Roi) (profile : Profile) (defects : Defects) :
    Prop where
  increasing : defects.indices.Pairwise (· < ·)
  /-- The positions of the region whose pixel of the sensor is set in the bit map. -/
  described : ∀ index, index ∈ defects.indices ↔ ∃ row < roi.height, ∃ column < roi.width,
    index = row * roi.width + column
      ∧ pixelSet (stream data) ((roi.y + row) * profile.sensorWidth + (roi.x + column)) = true
  /-- The map is the part of the map of the sensor in the region. -/
  restricted : ∀ full, decodeProfile data profile.full profile = .ok full →
    ∀ row < roi.height, ∀ column < roi.width,
      (row * roi.width + column ∈ defects.indices
        ↔ (roi.y + row) * profile.sensorWidth + (roi.x + column) ∈ full.indices)
  corrects : ∀ frame, frame.length = roi.width * roi.height * 2 →
    ∃ corrected, correct defects frame = .ok corrected ∧ Outside defects frame corrected

/-- Decoding is safe for every calibration, region and camera, and a decoded map is faithful. -/
theorem decodeProfile_faithful (data : List UInt8) (roi : Roi) (profile : Profile)
    (hprofile : profile ∈ profiles) : decodeProfile data roi profile ≠ .error .panic
      ∧ ∀ defects, decodeProfile data roi profile = .ok defects →
        Faithful data roi profile defects := by
  obtain ⟨hsafe, hdecoded⟩ := decodeProfile_safe hprofile data roi
  refine ⟨hsafe, fun defects hdefects => ?_⟩
  have hmap := hdecoded defects hdefects
  refine ⟨hmap.increasing, hmap.mem, fun full hfull row hrow column hcolumn => ?_, ?_⟩
  · exact hmap.restrict ((decodeProfile_safe hprofile data profile.full).2 full hfull) hrow hcolumn
  · intro frame hframe
    refine (hmap.usable hprofile).correct_returns ?_
    rw [hframe, hmap.width, hmap.height]

/-- Bits 1 and 2 of the first two rows of the guide sensor. -/
def squareData : List UInt8 :=
  [0x41, 0x53, 0x49, 0x44, 0, 0, 0, 12, 0, 6, 0x0f, 6]

def squareMap : Defects where
  indices := [1, 2, 9, 10]
  mask := (List.range 32).map fun index => [1, 2, 9, 10].contains index
  width := 8
  height := 4
  step := 1
  depthMask := 65520

theorem decode_square : decodeProfile squareData ⟨8, 4, 0, 0⟩ profileGuide = .ok squareMap := by
  have hwithin : ensure (Roi.within ⟨8, 4, 0, 0⟩ profileGuide) "invalid correction ROI"
      = .ok () := by
    decide
  have hlength : declaredLength squareData = .ok 12 := by decide
  have hlong : ensure (decide (12 ≤ squareData.length)) "truncated ASID calibration" = .ok () := by
    decide
  have hbody : slice squareData 8 12 = .ok [0, 6, 0x0f, 6] := by decide
  have hpacked : ∀ packed : List UInt8, 240 < packed.length →
      (pairs [0, 6, 0x0f, 6]).foldlM writePair (packed, 0)
        = .ok ((packed.set 0 6).set 240 6, 0) := by
    intro packed hlong
    have hfirst : 0 < packed.length := by omega
    simp [pairs, writePair, swapNibbles, Checked.set, Checked.ensure, bind, Except.bind, pure,
      Except.pure, hlong, hfirst]
  have hrun := hpacked (List.replicate (profileGuide.sensorWidth * profileGuide.sensorHeight / 8) 0)
    (by rw [List.length_replicate]; decide)
  have hbits := packed_replicate (by decide) ((writePairs_safe _ _ _).2 _ hrun)
  have hinside : Roi.within ⟨8, 4, 0, 0⟩ profileGuide = true := by decide
  obtain ⟨marks, hmarks, hmask, hindices⟩ := marks_returns hbits hinside (positions 8 4)
    (fun position hposition => mem_positions.mp hposition) ⟨List.replicate (8 * 4) false, []⟩
    (by simp)
  have hfour : marks.indices = squareMap.indices := by
    rw [hindices]
    decide +kernel
  have hsame : marks.mask = squareMap.mask := by
    refine List.ext_getElem (by rw [hmask]; rfl) fun index hindex _ => ?_
    have hiff := marks_agree (blank_agree _) hmarks index _ (List.getElem?_eq_getElem hindex)
    rw [hfour, ← List.contains_iff_mem] at hiff
    simpa [squareMap] using Bool.eq_iff_iff.mpr hiff
  unfold decodeProfile
  refine bind_eq_ok.mpr ⟨(), hwithin, bind_eq_ok.mpr ⟨12, hlength, ?_⟩⟩
  refine bind_eq_ok.mpr ⟨(), hlong, bind_eq_ok.mpr ⟨_, hbody, ?_⟩⟩
  refine bind_eq_ok.mpr ⟨_, hrun, bind_eq_ok.mpr ⟨marks, hmarks, ?_⟩⟩
  rw [hfour, hsame]
  decide +kernel

theorem decodeProfile_faithful_square : profileGuide ∈ profiles
      ∧ decodeProfile squareData ⟨8, 4, 0, 0⟩ profileGuide ≠ .error .panic
      ∧ decodeProfile squareData ⟨8, 4, 0, 0⟩ profileGuide = .ok squareMap
      ∧ Faithful squareData ⟨8, 4, 0, 0⟩ profileGuide squareMap := by
  obtain ⟨hsafe, hfaithful⟩ :=
    decodeProfile_faithful squareData ⟨8, 4, 0, 0⟩ profileGuide (by decide)
  exact ⟨by decide, hsafe, decode_square, hfaithful squareMap decode_square⟩

end Regain.Zwo.DefectMap
