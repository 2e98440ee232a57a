import Regain.Zwo.DefectMapSafe

/-!
# Corrections that spread no defect

A defect is to be corrected from pixels of its own colour phase that are sound or corrected before.
Away from the upper border a correction reads no others.
-/

namespace Regain.Zwo.DefectMap

open Lib
open Checked
open Raw16 (put sample)

structure Accepted (defects : Defects) : Prop where
  usable : Usable defects
  increasing : defects.indices.Pairwise (· < ·)
  agrees : ∀ index found, defects.mask[index]? = some found →
    (found = true ↔ index ∈ defects.indices)

theorem decodeProfile_accepted {data : List UInt8} {roi : Roi} {profile : Profile}
    {defects : Defects} (hprofile : profile ∈ profiles)
    (h : decodeProfile data roi profile = .ok defects) : Accepted defects := by
  have hdecoded := (decodeProfile_safe hprofile data roi).2 defects h
  refine ⟨hdecoded.usable hprofile, hdecoded.increasing, ?_⟩
  unfold decodeProfile at h
  obtain ⟨_, -, h⟩ := bind_eq_ok.mp h
  obtain ⟨_, -, h⟩ := bind_eq_ok.mp h
  obtain ⟨_, -, h⟩ := bind_eq_ok.mp h
  obtain ⟨_, -, h⟩ := bind_eq_ok.mp h
  obtain ⟨⟨packed, base⟩, -, h⟩ := bind_eq_ok.mp h
  obtain ⟨marks, hmarks, h⟩ := bind_eq_ok.mp h
  obtain ⟨_, -, h⟩ := bind_eq_ok.mp h
  obtain ⟨_, -, h⟩ := bind_eq_ok.mp h
  obtain ⟨_, -, h⟩ := bind_eq_ok.mp h
  cases h
  exact marks_agree (blank_agree _) hmarks

/-- A pixel of the same phase that is sound, or corrected before. -/
structure Allowed (defects : Defects) (position index other : Nat) : Prop where
  inside : other < defects.width * defects.height
  column : other % defects.width % defects.step = index % defects.width % defects.step
  row : other / defects.width % defects.step = index / defects.width % defects.step
  sound : other ∈ defects.indices → other ∈ defects.indices.take position

def Adjacent (defects : Defects) (index other : Nat) : Prop :=
  (index % defects.width + defects.step < defects.width ∧ other = index + defects.step)
    ∨ (defects.step ≤ index % defects.width ∧ other + defects.step = index)
    ∨ other = index + defects.step * defects.width
    ∨ other + defects.step * defects.width = index

/-- The value of a defect is the same in frames that agree where the correction may look. -/
def DependsOnly (defects : Defects) (position index : Nat) : Prop :=
  ∀ data data' : List UInt8, data.length = defects.width * defects.height * 2 →
    data'.length = defects.width * defects.height * 2 →
    (∀ other, Allowed defects position index other → sample data other = sample data' other) →
    replacement defects data position index = replacement defects data' position index

def InRow (defects : Defects) (index : Nat) : Prop :=
  defects.step = 1 ∨ index % defects.width + defects.step < defects.width

/-- A border pixel has a sound pixel to its right, in its row; or the next defect is there, and the
pixel above, the one below or the one beside that can be used. -/
def Clear (defects : Defects) (position index : Nat) : Prop :=
  index % defects.width < defects.step ∨ index / defects.width < defects.step →
    if defects.indices[position + 1]? = some (index + defects.step) then
      index < defects.step * defects.width →
        index + defects.step * defects.width ∈ defects.indices →
          InRow defects index
            ∧ index + defects.step * defects.width + defects.step ∉ defects.indices
    else InRow defects index ∧ index + defects.step ∉ defects.indices

section

variable {defects : Defects} {position index : Nat}

theorem pixel_eq {data : List UInt8} {source : Nat} (h : 2 * source + 1 < data.length) :
    pixel data source = .ok (sample data source) := by
  obtain ⟨low, high, hlow, hhigh, hsample⟩ := Raw16.get_sample h
  unfold pixel Checked.get
  rw [hlow, hhigh, ← hsample]
  rfl

theorem sample_put_self {data : List UInt8} {source value : Nat} (h : 2 * source + 1 < data.length)
    (hvalue : value < 65536) : sample (put data source value) source = value := by
  unfold sample put
  rw [List.getElem?_set_ne (by omega), List.getElem?_set_self (by omega),
    List.getElem?_set_self (by rw [List.length_set]; omega)]
  exact Raw16.ofBytes_ofNat hvalue

theorem dependsOnly_copy {source : Nat} (hsource : source < defects.width * defects.height)
    (h : ∀ data : List UInt8, replacement defects data position index = pixel data source) :
    DependsOnly defects position index ↔ Allowed defects position index source := by
  constructor
  · intro hdepends
    by_contra hnot
    obtain ⟨blank, hblank⟩ : ∃ blank : List UInt8,
        blank = List.replicate (defects.width * defects.height * 2) 0 := ⟨_, rfl⟩
    have hlength : blank.length = defects.width * defects.height * 2 := by
      rw [hblank, List.length_replicate]
    have hput : (put blank source 1).length = defects.width * defects.height * 2 := by
      rw [Raw16.length_put, hlength]
    have hsame := hdepends blank (put blank source 1) hlength hput fun other hallowed => by
      have hother : other ≠ source := fun heq => hnot (heq ▸ hallowed)
      rw [Raw16.sample_put_of_ne _ _ hother]
    rw [h, h, pixel_eq (by omega), pixel_eq (by omega)] at hsame
    injection hsame with hsame
    have hzero : sample blank source = 0 := by
      rw [sample, hblank, List.getElem?_replicate_of_lt (by omega),
        List.getElem?_replicate_of_lt (by omega)]
      rfl
    rw [sample_put_self (by omega) (by omega), hzero] at hsame
    cases hsame
  · intro hallowed data data' hlength hlength' hagree
    rw [h, h, pixel_eq (by omega), pixel_eq (by omega), hagree source hallowed]

theorem place_div {width column : Nat} (row : Nat) (h : column < width) :
    (row * width + column) / width = row ∧ (row * width + column) % width = column := by
  have hwidth : 0 < width := by omega
  rw [Nat.add_comm, Nat.add_mul_div_right _ _ hwidth, Nat.add_mul_mod_self_right,
    Nat.div_eq_of_lt h, Nat.mod_eq_of_lt h]
  exact ⟨Nat.zero_add row, rfl⟩

theorem mem_take_iff (h : defects.indices.Pairwise (· < ·))
    (hentry : defects.indices[position]? = some index) (other : Nat) :
    other ∈ defects.indices.take position ↔ other ∈ defects.indices ∧ other < index := by
  obtain ⟨hposition, hindex⟩ := List.getElem?_eq_some_iff.mp hentry
  rw [List.pairwise_iff_getElem] at h
  constructor
  · intro hmem
    obtain ⟨place, hplace, hother⟩ := List.mem_iff_getElem.mp hmem
    rw [List.length_take] at hplace
    rw [List.getElem_take] at hother
    refine ⟨List.mem_of_mem_take hmem, ?_⟩
    rw [← hother, ← hindex]
    exact h place position (by omega) hposition (by omega)
  · rintro ⟨hmem, hlt⟩
    obtain ⟨place, hplace, hother⟩ := List.mem_iff_getElem.mp hmem
    have hbefore : place < position := by
      by_contra hnot
      rcases Nat.lt_or_ge position place with hafter | hle
      · have := h position place hposition hplace hafter
        omega
      · have hsame : place = position := by omega
        subst hsame
        omega
    rw [List.mem_iff_getElem]
    exact ⟨place, by rw [List.length_take]; omega, by rw [List.getElem_take]; exact hother⟩

theorem mem_drop_of_lt (h : defects.indices.Pairwise (· < ·))
    (hentry : defects.indices[position]? = some index) {other : Nat} (hlt : index < other) :
    other ∈ defects.indices.drop (position + 1) ↔ other ∈ defects.indices := by
  refine ⟨List.mem_of_mem_drop, fun hmem => ?_⟩
  obtain ⟨hposition, hindex⟩ := List.getElem?_eq_some_iff.mp hentry
  rw [← List.take_append_drop position defects.indices, List.mem_append] at hmem
  rcases hmem with hbefore | hafter
  · have hearlier := ((mem_take_iff h hentry other).mp hbefore).2
    omega
  · rw [List.drop_eq_getElem_cons hposition, hindex, List.mem_cons] at hafter
    rcases hafter with hsame | hafter
    · omega
    · exact hafter

end

section

variable {defects : Defects} {position row column y x : Nat}

theorem allowed_iff (hx : x < defects.width) (hrow : row < defects.height)
    (hcolumn : column < defects.width) :
    Allowed defects position (y * defects.width + x) (row * defects.width + column)
      ↔ column % defects.step = x % defects.step ∧ row % defects.step = y % defects.step
        ∧ (row * defects.width + column ∈ defects.indices →
          row * defects.width + column ∈ defects.indices.take position) := by
  obtain ⟨hy, hx'⟩ := place_div y hx
  obtain ⟨hr, hc⟩ := place_div row hcolumn
  constructor
  · rintro ⟨_, hcolumns, hrows, hsound⟩
    rw [hc, hx'] at hcolumns
    rw [hr, hy] at hrows
    exact ⟨hcolumns, hrows, hsound⟩
  · rintro ⟨hcolumns, hrows, hsound⟩
    refine ⟨index_lt hrow hcolumn, ?_, ?_, hsound⟩
    · rw [hc, hx', hcolumns]
    · rw [hr, hy, hrows]

theorem row_lt (h : row * defects.width + column < defects.width * defects.height) :
    row < defects.height := by
  by_contra hnot
  have hle : defects.height * defects.width ≤ row * defects.width :=
    Nat.mul_le_mul_right _ (not_lt.mp hnot)
  rw [Nat.mul_comm] at hle
  omega

theorem allowed_beside (husable : Usable defects) (hx : x < defects.width)
    (hrow : row % defects.step = y % defects.step)
    (hlt : row * defects.width + x + defects.step < defects.width * defects.height) :
    Allowed defects position (y * defects.width + x) (row * defects.width + x + defects.step)
      ↔ (defects.step = 1 ∨ x + defects.step < defects.width)
        ∧ (row * defects.width + x + defects.step ∈ defects.indices →
          row * defects.width + x + defects.step ∈ defects.indices.take position) := by
  have hwide := husable.wide
  have hstep := husable.step
  by_cases hin : x + defects.step < defects.width
  · rw [Nat.add_assoc] at hlt ⊢
    rw [allowed_iff hx (row_lt hlt) hin, Nat.add_mod_right]
    simp [hrow, hin]
  · have hplace : row * defects.width + x + defects.step
        = (row + 1) * defects.width + (x + defects.step - defects.width) := by
      rw [Nat.add_mul]
      omega
    have hcolumn : x + defects.step - defects.width < defects.width := by omega
    rw [hplace] at hlt ⊢
    rw [allowed_iff hx (row_lt hlt) hcolumn]
    have hcases : defects.step = 1 ∨ defects.step = 2 := by omega
    rcases hcases with hone | htwo
    · simp [hone, Nat.mod_one]
    · rw [htwo] at hrow hin ⊢
      constructor
      · rintro ⟨-, hrows, -⟩
        omega
      · rintro ⟨honly, -⟩
        omega

end

section

variable {defects : Defects} {position y x : Nat}

theorem above_eq (hstep : defects.step ≤ y) : y * defects.width + x - defects.step * defects.width
      = (y - defects.step) * defects.width + x := by
  have hle : defects.step * defects.width ≤ y * defects.width := Nat.mul_le_mul_right _ hstep
  rw [Nat.sub_mul]
  omega

theorem clamped_not_allowed (h : Accepted defects) (hx : x < defects.width) (hy : y < defects.step)
    (hentry : defects.indices[position]? = some (y * defects.width + x))
    (hbelow : (y + defects.step) * defects.width + x ∈ defects.indices)
    (hout : defects.width * defects.height
      ≤ (y + defects.step) * defects.width + x + defects.step) :
    ¬Allowed defects position (y * defects.width + x) (defects.width * defects.height - 1)
      ∧ ¬(defects.step = 1 ∨ x + defects.step < defects.width) := by
  have hwide := h.usable.wide
  have hhigh := h.usable.high
  have hstep := h.usable.step
  have hfour : defects.width * 4 ≤ defects.width * defects.height := Nat.mul_le_mul_left _ hhigh
  have hcases : defects.step = 1 ∨ defects.step = 2 := by omega
  have hinside := h.usable.bounded _ hbelow
  rcases hcases with hone | htwo
  · rw [hone] at hy hout
    have hzero : y = 0 := by omega
    subst hzero
    omega
  · rw [htwo] at hy hout hbelow hinside ⊢
    have hone : y = 1 := by
      by_contra hnot
      have hzero : y = 0 := by omega
      subst hzero
      omega
    subst hone
    have hheight : defects.height = 4 := by
      by_contra hnot
      have hfive : defects.width * 5 ≤ defects.width * defects.height :=
        Nat.mul_le_mul_left _ (by omega)
      omega
    rw [hheight] at hout hinside ⊢
    refine ⟨fun hallowed => ?_, by omega⟩
    have hlast : defects.width * 4 - 1 = 3 * defects.width + (defects.width - 1) := by omega
    rw [hlast, allowed_iff hx (by omega) (by omega), htwo] at hallowed
    obtain ⟨hphase, -, hsound⟩ := hallowed
    have hcorner : x = defects.width - 1 := by omega
    have hearlier := ((mem_take_iff h.increasing hentry _).mp (hsound (hcorner ▸ hbelow))).2
    omega

theorem border_source (h : Accepted defects) (hx : x < defects.width)
    (hentry : defects.indices[position]? = some (y * defects.width + x))
    (hborder : x < defects.step ∨ y < defects.step) : ∃ source < defects.width * defects.height,
      borderSource defects position (y * defects.width + x) = .ok source
        ∧ (Allowed defects position (y * defects.width + x) source
          ↔ Clear defects position (y * defects.width + x)) := by
  have hwide := h.usable.wide
  have hhigh := h.usable.high
  have hstep := h.usable.step
  have hmask := h.usable.mask
  have hindex := h.usable.bounded _ (List.mem_of_getElem? hentry)
  have hfour : defects.width * 4 ≤ defects.width * defects.height := Nat.mul_le_mul_left _ hhigh
  have hposition := (List.getElem?_eq_some_iff.mp hentry).1
  obtain ⟨hdiv, hmod⟩ := place_div y hx
  have hy : y < defects.height := row_lt hindex
  have hrow : (y + 1) * defects.width ≤ defects.height * defects.width :=
    Nat.mul_le_mul_right _ hy
  have htop : y < defects.step → y * defects.width ≤ defects.width := fun htop => by
    have hle : y * defects.width ≤ 1 * defects.width := Nat.mul_le_mul_right _ (by omega)
    omega
  rw [Nat.add_mul, Nat.mul_comm defects.height] at hrow
  have hright : y * defects.width + x + defects.step < defects.width * defects.height := by
    rcases hborder with hleft | hupper
    · omega
    · have := htop hupper
      omega
  have hlast : minus defects.mask.length 1 = .ok (defects.mask.length - 1) := if_pos (by omega)
  have hmin : min (y * defects.width + x + defects.step) (defects.mask.length - 1)
      = y * defects.width + x + defects.step := by omega
  -- a defect to the right is not corrected yet
  have hlater : ∀ other, y * defects.width + x < other →
      ((other ∈ defects.indices → other ∈ defects.indices.take position)
        ↔ other ∉ defects.indices) := by
    intro other hlt
    rw [mem_take_iff h.increasing hentry]
    constructor
    · intro himp hmem
      have hearlier := (himp hmem).2
      omega
    · exact fun hnot hmem => absurd hmem hnot
  unfold borderSource Clear InRow
  rw [hlast, hdiv, hmod]
  simp only [hmin, ite_not, Except.bind, bind]
  by_cases hnext : defects.indices[position + 1]? = some (y * defects.width + x + defects.step)
  · rw [if_pos hnext, if_pos hnext]
    by_cases habove : defects.step * defects.width ≤ y * defects.width + x
    · rw [if_pos habove]
      have hrows : defects.step ≤ y := by
        by_contra hnot
        have hle : (y + 1) * defects.width ≤ defects.step * defects.width :=
          Nat.mul_le_mul_right _ (by omega)
        rw [Nat.add_mul] at hle
        omega
      refine ⟨_, ?_, if_pos habove, ?_⟩
      · omega
      · rw [above_eq hrows, allowed_iff hx (by omega) hx, mem_take_iff h.increasing hentry]
        have hphase : (y - defects.step) % defects.step = y % defects.step := by
          conv_rhs => rw [← Nat.sub_add_cancel hrows, Nat.add_mod_right]
        have hless : (y - defects.step) * defects.width + x < y * defects.width + x := by
          have hlt : (y - defects.step) * defects.width < y * defects.width :=
            Nat.mul_lt_mul_of_pos_right (by omega) (by omega)
          omega
        refine ⟨fun _ _ htop' => absurd htop' (by omega), fun _ => ⟨rfl, hphase, ?_⟩⟩
        exact fun hmem => ⟨hmem, hless⟩
    · rw [if_neg habove]
      have hupper : y < defects.step := by
        by_contra hnot
        have hle : defects.step * defects.width ≤ y * defects.width :=
          Nat.mul_le_mul_right _ (by omega)
        omega
      have hbelow := h.usable.below_lt (not_le.mp habove)
      have hplace : y * defects.width + x + defects.step * defects.width
          = (y + defects.step) * defects.width + x := by
        rw [Nat.add_mul]
        omega
      have hpositive : 0 < defects.step * defects.width := Nat.mul_pos (by omega) (by omega)
      have hphase : (y + defects.step) % defects.step = y % defects.step := Nat.add_mod_right _ _
      have hsuffix : suffix defects.indices (position + 1)
          = .ok (defects.indices.drop (position + 1)) := if_pos hposition
      have hcontains : ((defects.indices.drop (position + 1)).contains
          (y * defects.width + x + defects.step * defects.width) = true)
          ↔ y * defects.width + x + defects.step * defects.width ∈ defects.indices := by
        rw [List.contains_iff_mem]
        exact mem_drop_of_lt h.increasing hentry (by omega)
      rw [hsuffix]
      dsimp only
      by_cases hmem : y * defects.width + x + defects.step * defects.width ∈ defects.indices
      · rw [if_pos (hcontains.mpr hmem)]
        refine ⟨_, ?_, rfl, ?_⟩
        · omega
        rw [hplace] at hmem hbelow ⊢
        by_cases hin : (y + defects.step) * defects.width + x + defects.step
            < defects.width * defects.height
        · have hmin' : min ((y + defects.step) * defects.width + x + defects.step)
              (defects.mask.length - 1)
              = (y + defects.step) * defects.width + x + defects.step := by omega
          rw [hmin', allowed_beside h.usable hx hphase hin, hlater _ (by omega)]
          exact ⟨fun hgood _ _ _ => hgood, fun hclear => hclear hborder (not_le.mp habove) hmem⟩
        · have hmin' : min ((y + defects.step) * defects.width + x + defects.step)
              (defects.mask.length - 1) = defects.width * defects.height - 1 := by omega
          obtain ⟨hnot, hnot'⟩ := clamped_not_allowed h hx hupper hentry hmem (by omega)
          rw [hmin']
          refine ⟨fun hallowed => absurd hallowed hnot, fun hclear => ?_⟩
          exact absurd (hclear hborder (not_le.mp habove) hmem).1 hnot'
      · rw [if_neg (fun hfound => hmem (hcontains.mp hfound))]
        refine ⟨_, hbelow, rfl, ?_⟩
        rw [hplace] at hmem hbelow ⊢
        rw [allowed_iff hx (row_lt hbelow) hx]
        exact ⟨fun _ _ _ hmem' => absurd hmem' hmem,
          fun _ => ⟨rfl, hphase, fun hmem' => absurd hmem' hmem⟩⟩
  · rw [if_neg hnext, if_neg hnext]
    refine ⟨_, hright, rfl, ?_⟩
    rw [allowed_beside h.usable hx rfl hright, hlater _ (by omega)]
    exact ⟨fun hgood _ => hgood, fun hclear => hclear hborder⟩

end

section

variable {defects : Defects} {data data' : List UInt8} {position index other : Nat}

theorem addNeighbor_counts (h : Usable defects)
    (hlength : data.length = defects.width * defects.height * 2) (total : Nat × Nat)
    (hother : other < defects.width * defects.height) :
    Returns (addNeighbor defects data index total other) fun out =>
      total.2 ≤ out.2 ∧ (other ≤ index → total.2 < out.2) := by
  have hmask := h.mask
  unfold addNeighbor
  refine (returns_get_of_lt (by omega)).bind fun masked _ => ?_
  by_cases hread : (!masked || decide (other ≤ index)) = true
  · rw [if_pos hread]
    refine (pixel_returns (by omega)).bind fun value _ => Returns.pure ⟨?_, fun _ => ?_⟩
    · exact Nat.le_succ _
    · exact Nat.lt_succ_self _
  · rw [if_neg hread]
    refine Returns.pure ⟨le_refl _, fun hbefore => ?_⟩
    simp [hbefore] at hread

theorem addNeighbor_agree (h : Accepted defects) (hentry : defects.indices[position]? = some index)
    (hlength : data.length = defects.width * defects.height * 2)
    (hlength' : data'.length = defects.width * defects.height * 2)
    (hagree : ∀ other, Allowed defects position index other →
      sample data other = sample data' other)
    (hother : other < defects.width * defects.height) (hne : other ≠ index)
    (hallowed : (other ∈ defects.indices → other ∈ defects.indices.take position) →
      Allowed defects position index other) (total : Nat × Nat) :
    addNeighbor defects data index total other = addNeighbor defects data' index total other := by
  have hmask := h.usable.mask
  have hfound : defects.mask[other]? = some defects.mask[other] :=
    List.getElem?_eq_getElem (by omega)
  have hmem := h.agrees other _ hfound
  unfold addNeighbor Checked.get
  rw [hfound]
  simp only [bind, Except.bind]
  by_cases hread : (!defects.mask[other] || decide (other ≤ index)) = true
  · rw [if_pos hread, if_pos hread, pixel_eq (by omega), pixel_eq (by omega),
      hagree other (hallowed fun hdefect => ?_)]
    rw [hmem.mpr hdefect, Bool.not_true, Bool.false_or, decide_eq_true_eq] at hread
    exact (mem_take_iff h.increasing hentry other).mpr ⟨hdefect, by omega⟩
  · rw [if_neg hread, if_neg hread]

theorem average_agree (h : Accepted defects) {y x : Nat}
    (hentry : defects.indices[position]? = some (y * defects.width + x))
    (hlength : data.length = defects.width * defects.height * 2)
    (hlength' : data'.length = defects.width * defects.height * 2)
    (hagree : ∀ other, Allowed defects position (y * defects.width + x) other →
      sample data other = sample data' other)
    (hy : defects.step ≤ y) (hx : defects.step ≤ x) (hbottom : y + defects.step < defects.height)
    (hright : x + defects.step < defects.width) : average defects data (y * defects.width + x)
      = average defects data' (y * defects.width + x) := by
  have hwide := h.usable.wide
  have hstep := h.usable.step
  have hin : x < defects.width := by omega
  have habove : defects.step * defects.width ≤ y * defects.width := Nat.mul_le_mul_right _ hy
  have hpositive : 0 < defects.step * defects.width := Nat.mul_pos (by omega) (by omega)
  have hless : defects.step ≤ defects.step * defects.width :=
    Nat.le_mul_of_pos_right _ (by omega)
  have hbelow := index_lt hbottom hin
  have hup : y * defects.width + x - defects.step * defects.width
      = (y - defects.step) * defects.width + x :=
    above_eq hy
  have hleft : y * defects.width + x - defects.step = y * defects.width + (x - defects.step) := by
    omega
  have hdown : y * defects.width + x + defects.step * defects.width
      = (y + defects.step) * defects.width + x := by
    rw [Nat.add_mul]
    omega
  have hrow : (y - defects.step) % defects.step = y % defects.step := by
    conv_rhs => rw [← Nat.sub_add_cancel hy, Nat.add_mod_right]
  have hcolumn : (x - defects.step) % defects.step = x % defects.step := by
    conv_rhs => rw [← Nat.sub_add_cancel hx, Nat.add_mod_right]
  obtain ⟨places, hplaces⟩ : ∃ places,
      places = [y * defects.width + x - defects.step * defects.width,
      y * defects.width + x - defects.step, y * defects.width + x + defects.step,
      y * defects.width + x + defects.step * defects.width] :=
    ⟨_, rfl⟩
  have hneighbors : neighbors defects (y * defects.width + x) = .ok places := by
    unfold neighbors minus
    rw [if_pos (by omega), if_pos (by omega), hplaces]
    rfl
  rw [← hdown] at hbelow
  have hbelow' : y * defects.width + x + defects.step * defects.width
      < defects.width * defects.height := by
    omega
  have hall : ∀ other ∈ places, ∀ total,
      addNeighbor defects data (y * defects.width + x) total other
        = addNeighbor defects data' (y * defects.width + x) total other := by
    intro other hother
    simp only [hplaces, List.mem_cons, List.not_mem_nil, or_false] at hother
    refine addNeighbor_agree h hentry hlength hlength' hagree ?_ ?_ fun hsound => ?_
    · omega
    · omega
    · rcases hother with rfl | rfl | rfl | rfl
      · rw [hup] at hsound ⊢
        exact (allowed_iff hin (by omega) hin).mpr ⟨rfl, hrow, hsound⟩
      · rw [hleft] at hsound ⊢
        exact (allowed_iff hin (by omega) (by omega)).mpr ⟨hcolumn, rfl, hsound⟩
      · rw [Nat.add_assoc] at hsound ⊢
        exact (allowed_iff hin (by omega) hright).mpr ⟨Nat.add_mod_right _ _, rfl, hsound⟩
      · rw [hdown] at hsound ⊢
        exact (allowed_iff hin hbottom hin).mpr ⟨rfl, Nat.add_mod_right _ _, hsound⟩
  obtain ⟨total, htotal, hcount⟩ : Returns (places.foldlM
      (addNeighbor defects data' (y * defects.width + x)) (0, 0)) fun total => 0 < total.2 := by
    rw [hplaces, List.foldlM_cons]
    -- the pixel above comes before, so it always counts
    refine (addNeighbor_counts h.usable hlength' _ (by omega)).bind fun total htotal => ?_
    refine returns_foldlM (htotal.2 (by omega)) fun total hsome other hother => ?_
    refine (addNeighbor_counts h.usable hlength' _ ?_).mono fun out hout => ?_
    · simp only [List.mem_cons, List.not_mem_nil, or_false] at hother
      omega
    · exact Nat.lt_of_lt_of_le hsome hout.1
  have hsame : places.foldlM (addNeighbor defects data (y * defects.width + x)) (0, 0)
      = .ok total := by
    rw [← htotal, hplaces]
    rw [hplaces] at hall
    simp only [List.forall_mem_cons, List.not_mem_nil, false_implies, implies_true,
      and_true] at hall
    simp only [List.foldlM_cons, List.foldlM_nil, hall.1, hall.2.1, hall.2.2.1, hall.2.2.2]
  unfold average
  rw [hneighbors]
  simp only [bind, Except.bind] at hsame htotal ⊢
  rw [hsame, htotal]
  have hmean : ∀ frame, mean frame (y * defects.width + x) total
      = .ok (total.1 / total.2 % 65536) := fun frame => if_neg (by omega)
  dsimp only
  rw [hmean, hmean]

theorem dependsOnly_iff (h : Accepted defects) (hentry : defects.indices[position]? = some index) :
    DependsOnly defects position index ↔ Clear defects position index := by
  have hwide := h.usable.wide
  have hstep := h.usable.step
  have hindex := h.usable.bounded _ (List.mem_of_getElem? hentry)
  obtain ⟨y, x, hx, rfl⟩ : ∃ y x, x < defects.width ∧ index = y * defects.width + x :=
    ⟨index / defects.width, index % defects.width, (row_bounds (by omega) hindex).2⟩
  obtain ⟨hdiv, hmod⟩ := place_div y hx
  have hy : y < defects.height := row_lt hindex
  have hdivide : divide (y * defects.width + x) defects.width = .ok (y, x) := by
    unfold divide
    rw [if_neg (by omega), hdiv, hmod]
  by_cases hborder : x < defects.step ∨ y < defects.step
  · obtain ⟨source, hsource, hfound, hiff⟩ := border_source h hx hentry hborder
    rw [← hiff]
    refine dependsOnly_copy hsource fun data => ?_
    unfold replacement
    rw [hdivide]
    simp only [bind, Except.bind]
    rw [if_pos hborder, hfound]
  · have hclear : Clear defects position (y * defects.width + x) := fun hnear => by
      rw [hdiv, hmod] at hnear
      exact absurd hnear hborder
    refine ⟨fun _ => hclear, fun _ => ?_⟩
    rw [not_or, not_lt, not_lt] at hborder
    have hwidth : minus defects.width defects.step = .ok (defects.width - defects.step) :=
      if_pos (by omega)
    have hheight : minus defects.height defects.step = .ok (defects.height - defects.step) :=
      if_pos (by omega)
    have hbefore : minus (y * defects.width + x) defects.step
        = .ok (y * defects.width + x - defects.step) := if_pos (by omega)
    have hreplacement : ∀ data, replacement defects data position (y * defects.width + x)
        = if defects.width - defects.step ≤ x ∨ defects.height - defects.step ≤ y then
            pixel data (y * defects.width + x - defects.step)
          else average defects data (y * defects.width + x) := by
      intro data
      unfold replacement
      rw [hdivide]
      simp only [bind, Except.bind]
      rw [if_neg (by omega), hwidth, hheight]
      dsimp only
      rw [hbefore]
    by_cases hedge : defects.width - defects.step ≤ x ∨ defects.height - defects.step ≤ y
    · have hplace : y * defects.width + x - defects.step
          = y * defects.width + (x - defects.step) := by
        omega
      have hinside : y * defects.width + x - defects.step < defects.width * defects.height := by
        omega
      refine (dependsOnly_copy hinside fun data => ?_).mpr ?_
      · rw [hreplacement, if_pos hedge]
      · rw [hplace, allowed_iff hx hy (by omega), mem_take_iff h.increasing hentry]
        refine ⟨?_, rfl, fun hmem => ⟨hmem, by omega⟩⟩
        conv_rhs => rw [← Nat.sub_add_cancel hborder.1, Nat.add_mod_right]
    · intro data data' hlength hlength' hagree
      rw [hreplacement, hreplacement, if_neg hedge, if_neg hedge]
      exact average_agree h hentry hlength hlength' hagree hborder.2 hborder.1 (by omega) (by omega)

end

/-- The corrections of a map spread no defect if every border defect with a usable neighbour lets
one be found. -/
theorem correct_depends_iff (data : List UInt8) (roi : Roi) (profile : Profile) (defects : Defects)
    (hprofile : profile ∈ profiles) (hdecode : decodeProfile data roi profile = .ok defects) :
    (∀ position index, defects.indices[position]? = some index →
      (∃ other, Adjacent defects index other ∧ Allowed defects position index other) →
        DependsOnly defects position index)
    ↔ ∀ position index, defects.indices[position]? = some index →
      (∃ other, Adjacent defects index other ∧ Allowed defects position index other) →
        Clear defects position index := by
  have haccepted := decodeProfile_accepted hprofile hdecode
  constructor
  · intro hall position index hentry hneighbor
    exact (dependsOnly_iff haccepted hentry).mp (hall position index hentry hneighbor)
  · intro hall position index hentry hneighbor
    exact (dependsOnly_iff haccepted hentry).mpr (hall position index hentry hneighbor)

/-- At the border a pixel is corrected from a defect that comes later. -/
theorem square_spreads : ¬ ∀ defects,
    decodeProfile squareData ⟨8, 4, 0, 0⟩ profileGuide = .ok defects →
      ∀ position index, defects.indices[position]? = some index →
        (∃ other, Adjacent defects index other ∧ Allowed defects position index other) →
          DependsOnly defects position index := by
  intro hall
  have haccepted := decodeProfile_accepted (by decide) decode_square
  have hneighbor : ∃ other, Adjacent squareMap 1 other ∧ Allowed squareMap 0 1 other :=
    ⟨0, .inr (.inl ⟨by decide, rfl⟩), ⟨by decide, by decide, by decide, by decide⟩⟩
  have hclear := (dependsOnly_iff haccepted rfl).mp (hall squareMap decode_square 0 1 rfl hneighbor)
  have hbeside := hclear (.inr (by decide))
  have hnext : squareMap.indices[0 + 1]? = some (1 + squareMap.step) := rfl
  rw [if_pos hnext] at hbeside
  exact (hbeside (by decide) (by decide)).2 (by decide)

theorem correct_depends_iff_square : profileGuide ∈ profiles
      ∧ ((∀ position index, squareMap.indices[position]? = some index →
        (∃ other, Adjacent squareMap index other ∧ Allowed squareMap position index other) →
          DependsOnly squareMap position index)
      ↔ ∀ position index, squareMap.indices[position]? = some index →
        (∃ other, Adjacent squareMap index other ∧ Allowed squareMap position index other) →
          Clear squareMap position index) :=
  ⟨by decide, correct_depends_iff _ _ _ _ (by decide) decode_square⟩

end Regain.Zwo.DefectMap
