import Mathlib.Tactic.Common
import Regain.Lib.Checked

/-!
# Cropping in place

The rows of a region move to the front of the buffer, first row first.  A row is read from behind
everything that was written, so the overlap of the ranges does no harm.
-/

namespace Regain.Qhy.Crop

open Lib
open Checked

def copyWithin (bytes : List UInt8) (start stop dest : Nat) : Checked (List UInt8) :=
  if start ≤ stop ∧ stop ≤ bytes.length ∧ dest + (stop - start) ≤ bytes.length then
    .ok (bytes.take dest ++ (bytes.take stop).drop start ++ bytes.drop (dest + (stop - start)))
  else .error .panic

def copyRow (sourceWidth x y width : Nat) (pixels : List UInt8) (row : Nat) :
    Checked (List UInt8) := do
  let line ← word64 (y + row)
  let place ← word64 (line * sourceWidth)
  let place ← word64 (place + x)
  let start ← word64 (place * 2)
  let bytes ← word64 (width * 2)
  let stop ← word64 (start + bytes)
  let dest ← word64 (row * width)
  let dest ← word64 (dest * 2)
  copyWithin pixels start stop dest

def copyRows (pixels : List UInt8) (sourceWidth x y width height : Nat) : Checked (List UInt8) :=
  if x ≠ 0 ∨ y ≠ 0 ∨ width ≠ sourceWidth then
    (List.range height).foldlM (copyRow sourceWidth x y width) pixels
  else .ok pixels

def fits64 (value : Nat) : Option Nat :=
  if value < 18446744073709551616 then some value else none

def cropRaw16 (pixels : List UInt8) (sourceWidth sourceHeight x y width height : Nat) :
    Checked (List UInt8) := do
  let some bytes := (fits64 (sourceWidth * sourceHeight)).bind fun count => fits64 (count * 2)
    | .error (.refused "QHY source geometry overflow")
  ensure (decide (pixels.length = bytes) && decide (0 < width) && decide (0 < height)
      && (fits64 (x + width)).any (decide <| · ≤ sourceWidth)
      && (fits64 (y + height)).any (decide <| · ≤ sourceHeight))
    "Invalid QHY crop geometry"
  let pixels ← copyRows pixels sourceWidth x y width height
  let count ← word64 (width * height)
  let count ← word64 (count * 2)
  return pixels.take count

structure Inside (pixels : List UInt8) (sourceWidth sourceHeight x y width height : Nat) :
    Prop where
  length : pixels.length = 2 * sourceWidth * sourceHeight
  wide : 0 < width
  high : 0 < height
  right : x + width ≤ sourceWidth
  bottom : y + height ≤ sourceHeight

/-- The rows before one are copied, and nothing behind them is changed. -/
structure Copied (pixels : List UInt8) (sourceWidth x y width row : Nat) (after : List UInt8) :
    Prop where
  length : after.length = pixels.length
  rows : ∀ line < row, ∀ offset < width * 2,
    after[line * (width * 2) + offset]? = pixels[((y + line) * sourceWidth + x) * 2 + offset]?
  rest : ∀ index, row * (width * 2) ≤ index → after[index]? = pixels[index]?

section

variable {pixels after : List UInt8} {sourceWidth sourceHeight x y width height row : Nat}

theorem getElem?_copyWithin {start stop dest : Nat} (hordered : start ≤ stop)
    (hstop : stop ≤ after.length) (hdest : dest + (stop - start) ≤ after.length) (index : Nat) :
    (after.take dest ++ (after.take stop).drop start ++ after.drop (dest + (stop - start)))[index]?
      = if dest ≤ index ∧ index < dest + (stop - start) then after[start + (index - dest)]?
        else after[index]? := by
  have htake : (after.take dest).length = dest := by
    rw [List.length_take]
    omega
  have hslice : ((after.take stop).drop start).length = stop - start := by
    rw [List.length_drop, List.length_take]
    omega
  by_cases hbefore : index < dest
  · rw [if_neg (by omega), List.append_assoc, List.getElem?_append_left (by omega),
      List.getElem?_take_of_lt hbefore]
  · by_cases hinside : index < dest + (stop - start)
    · rw [if_pos ⟨by omega, hinside⟩, List.append_assoc, List.getElem?_append_right (by omega),
        List.getElem?_append_left (by omega), List.getElem?_drop, htake,
        List.getElem?_take_of_lt (by omega)]
    · have hlength : (after.take dest ++ (after.take stop).drop start).length
          = dest + (stop - start) := by
        rw [List.length_append, htake, hslice]
      rw [if_neg (by omega), List.getElem?_append_right (by omega), hlength, List.getElem?_drop]
      congr 1
      omega

/-- A row of the region lies in the buffer, not before its place in the result. -/
theorem Inside.row_bounds (h : Inside pixels sourceWidth sourceHeight x y width height)
    (hrow : row < height) : row * (width * 2) ≤ ((y + row) * sourceWidth + x) * 2
      ∧ ((y + row) * sourceWidth + x) * 2 + width * 2 ≤ pixels.length := by
  have hright := h.right
  have hbottom := h.bottom
  constructor
  · have hnarrow : row * width ≤ (y + row) * sourceWidth := Nat.mul_le_mul (by omega) (by omega)
    rw [← Nat.mul_assoc]
    omega
  · have hlines : (y + row + 1) * sourceWidth ≤ sourceHeight * sourceWidth :=
      Nat.mul_le_mul_right _ (by omega)
    rw [Nat.add_mul, Nat.one_mul] at hlines
    rw [h.length, Nat.mul_assoc, Nat.mul_comm sourceWidth]
    omega

theorem copyRow_copied (h : Inside pixels sourceWidth sourceHeight x y width height)
    (hfits : pixels.length < 18446744073709551616) (hrow : row < height)
    (hbefore : Copied pixels sourceWidth x y width row after) :
    Returns (copyRow sourceWidth x y width after row)
      (Copied pixels sourceWidth x y width (row + 1)) := by
  obtain ⟨hbehind, hend⟩ := h.row_bounds hrow
  have hlength := hbefore.length
  have hword : ∀ value, value ≤ pixels.length → word64 value = .ok value :=
    fun value hvalue => if_pos (by omega)
  have hline : y + row ≤ (y + row) * sourceWidth :=
    Nat.le_mul_of_pos_right _ (by have := h.wide; have := h.right; omega)
  have hplace : row * width * 2 = row * (width * 2) := Nat.mul_assoc _ _ _
  have hcopy : copyRow sourceWidth x y width after row
      = copyWithin after (((y + row) * sourceWidth + x) * 2)
        (((y + row) * sourceWidth + x) * 2 + width * 2) (row * width * 2) := by
    unfold copyRow
    rw [hword (y + row) (by omega)]
    simp only [bind, Except.bind]
    rw [hword ((y + row) * sourceWidth) (by omega)]
    dsimp only
    rw [hword ((y + row) * sourceWidth + x) (by omega)]
    dsimp only
    rw [hword (((y + row) * sourceWidth + x) * 2) (by omega), hword (width * 2) (by omega)]
    dsimp only
    rw [hword (((y + row) * sourceWidth + x) * 2 + width * 2) hend, hword (row * width) (by omega)]
    dsimp only
    rw [hword (row * width * 2) (by omega)]
  have hcount : ((y + row) * sourceWidth + x) * 2 + width * 2 - ((y + row) * sourceWidth + x) * 2
      = width * 2 := by
    omega
  rw [hcopy, copyWithin, if_pos (by omega)]
  refine Returns.pure ⟨?_, fun line hline' offset hoffset => ?_, fun index hindex => ?_⟩
  · simp only [List.length_append, List.length_take, List.length_drop]
    omega
  · rw [getElem?_copyWithin (by omega) (by omega) (by omega), hcount, hplace]
    by_cases hlast : line = row
    · subst hlast
      rw [if_pos (by omega), hbefore.rest _ (by omega)]
      congr 1
      omega
    · have hless : (line + 1) * (width * 2) ≤ row * (width * 2) := Nat.mul_le_mul_right _ (by omega)
      rw [Nat.add_mul, Nat.one_mul] at hless
      rw [if_neg (by omega)]
      exact hbefore.rows line (by omega) offset hoffset
  · rw [Nat.add_mul, Nat.one_mul] at hindex
    rw [getElem?_copyWithin (by omega) (by omega) (by omega), hcount, hplace, if_neg (by omega)]
    exact hbefore.rest index (by omega)

theorem copyRows_copied (h : Inside pixels sourceWidth sourceHeight x y width height)
    (hfits : pixels.length < 18446744073709551616) {rows : Nat} (hrows : rows ≤ height) :
    Returns ((List.range rows).foldlM (copyRow sourceWidth x y width) pixels)
      (Copied pixels sourceWidth x y width rows) := by
  induction rows with
  | zero => exact Returns.pure ⟨rfl, fun line hline => absurd hline (Nat.not_lt_zero _), fun _ _ => rfl⟩
  | succ rows ih =>
    rw [List.range_succ, List.foldlM_append]
    refine (ih (by omega)).bind fun after hafter => ?_
    rw [List.foldlM_cons]
    exact (copyRow_copied h hfits hrows hafter).bind fun out hout => Returns.pure hout

/-- The whole frame is its own first row. -/
theorem copied_whole (hwhole : ¬(x ≠ 0 ∨ y ≠ 0 ∨ width ≠ sourceWidth)) :
    Copied pixels sourceWidth x y width height pixels := by
  refine ⟨rfl, fun line _ offset _ => ?_, fun _ _ => rfl⟩
  have hx : x = 0 := by omega
  have hy : y = 0 := by omega
  have hwidth : width = sourceWidth := by omega
  rw [hx, hy, hwidth, Nat.zero_add, Nat.add_zero, Nat.mul_assoc]

theorem fits64_le (hfits : pixels.length < 18446744073709551616) {value : Nat}
    (hvalue : value ≤ pixels.length) : fits64 value = some value :=
  if_pos (by omega)

theorem Inside.bounds (h : Inside pixels sourceWidth sourceHeight x y width height) :
    sourceWidth ≤ pixels.length ∧ sourceHeight ≤ pixels.length
      ∧ sourceWidth * sourceHeight * 2 = pixels.length ∧ width * height * 2 ≤ pixels.length := by
  have hwide := h.wide
  have hhigh := h.high
  have hright := h.right
  have hbottom := h.bottom
  have hlength : sourceWidth * sourceHeight * 2 = pixels.length := by
    rw [h.length, Nat.mul_comm, Nat.mul_assoc]
  have hwidth : sourceWidth ≤ sourceWidth * sourceHeight := Nat.le_mul_of_pos_right _ (by omega)
  have hheight : sourceHeight ≤ sourceWidth * sourceHeight := Nat.le_mul_of_pos_left _ (by omega)
  have harea : width * height ≤ sourceWidth * sourceHeight := Nat.mul_le_mul (by omega) (by omega)
  omega

theorem cropRaw16_returns (h : Inside pixels sourceWidth sourceHeight x y width height)
    (hfits : pixels.length < 18446744073709551616) : ∃ out,
      cropRaw16 pixels sourceWidth sourceHeight x y width height = .ok out
        ∧ out.length = width * height * 2
        ∧ ∀ i < width, ∀ j < height, ∀ byte < 2, out[(j * width + i) * 2 + byte]?
          = pixels[((y + j) * sourceWidth + (x + i)) * 2 + byte]? := by
  obtain ⟨hwidth, hheight, hlength, harea⟩ := h.bounds
  have hright := h.right
  have hbottom := h.bottom
  have hword : ∀ value, value ≤ pixels.length → word64 value = .ok value :=
    fun value hvalue => if_pos (by omega)
  obtain ⟨after, hafter, hcopied⟩ : Returns (copyRows pixels sourceWidth x y width height)
      (Copied pixels sourceWidth x y width height) := by
    unfold copyRows
    split
    · exact copyRows_copied h hfits le_rfl
    · rename_i hwhole
      exact Returns.pure (copied_whole hwhole)
  have hbytes : (fits64 (sourceWidth * sourceHeight)).bind (fun count => fits64 (count * 2))
      = some pixels.length := by
    rw [fits64_le hfits (by omega), Option.bind_some, hlength, fits64_le hfits le_rfl]
  have hchecked : (decide (pixels.length = pixels.length) && decide (0 < width)
      && decide (0 < height) && (fits64 (x + width)).any (decide <| · ≤ sourceWidth)
      && (fits64 (y + height)).any (decide <| · ≤ sourceHeight)) = true := by
    rw [fits64_le hfits (by omega), fits64_le hfits (by omega)]
    simp [h.wide, h.high, hright, hbottom]
  refine ⟨after.take (width * height * 2), ?_, ?_, fun i hi j hj byte hbyte => ?_⟩
  · unfold cropRaw16
    rw [hbytes]
    dsimp only
    rw [hchecked, hafter, hword _ (by omega)]
    simp only [ensure, if_true, bind, Except.bind]
    rw [hword _ harea]
    rfl
  · rw [List.length_take, hcopied.length]
    omega
  · have hplace : (j * width + i) * 2 + byte = j * (width * 2) + (i * 2 + byte) := by
      rw [Nat.add_mul, Nat.mul_assoc, Nat.add_assoc]
    have hsource : ((y + j) * sourceWidth + (x + i)) * 2 + byte
        = ((y + j) * sourceWidth + x) * 2 + (i * 2 + byte) := by
      omega
    have hless : (j + 1) * (width * 2) ≤ height * (width * 2) := Nat.mul_le_mul_right _ hj
    have harea' : height * (width * 2) = width * height * 2 := by
      rw [← Nat.mul_assoc, Nat.mul_comm height]
    rw [Nat.add_mul, Nat.one_mul] at hless
    rw [List.getElem?_take_of_lt (by omega), hplace, hsource]
    exact hcopied.rows j hj _ (by omega)

theorem cropRaw16_refuses (h : ¬Inside pixels sourceWidth sourceHeight x y width height) :
    ∃ message, cropRaw16 pixels sourceWidth sourceHeight x y width height
      = .error (.refused message) := by
  unfold cropRaw16
  cases hbytes : (fits64 (sourceWidth * sourceHeight)).bind fun count => fits64 (count * 2) with
  | none => exact ⟨_, rfl⟩
  | some bytes =>
    have hcount : bytes = 2 * sourceWidth * sourceHeight := by
      obtain ⟨count, hcount, hdouble⟩ := Option.bind_eq_some_iff.mp hbytes
      unfold fits64 at hcount hdouble
      split at hcount <;> cases hcount
      split at hdouble <;> cases hdouble
      rw [Nat.mul_comm, Nat.mul_assoc]
    have hany : ∀ value bound, (fits64 value).any (decide <| · ≤ bound) = true → value ≤ bound := by
      intro value bound hvalue
      unfold fits64 at hvalue
      split at hvalue
      · simpa using hvalue
      · cases hvalue
    refine ⟨"Invalid QHY crop geometry", ?_⟩
    dsimp only
    cases hcheck : decide (pixels.length = bytes) && decide (0 < width) && decide (0 < height)
        && (fits64 (x + width)).any (decide <| · ≤ sourceWidth)
        && (fits64 (y + height)).any (decide <| · ≤ sourceHeight) with
    | false => rfl
    | true =>
      simp only [Bool.and_eq_true, decide_eq_true_eq] at hcheck
      obtain ⟨⟨⟨⟨hlength, hwide⟩, hhigh⟩, hright⟩, hbottom⟩ := hcheck
      exact absurd ⟨hlength.trans hcount, hwide, hhigh, hany _ _ hright, hany _ _ hbottom⟩ h

end

/-- Cropping fails exactly for a bad geometry, and else it moves every pixel of the region. -/
theorem cropRaw16_exact (pixels : List UInt8) (sourceWidth sourceHeight x y width height : Nat)
    (hfits : pixels.length < 18446744073709551616) :
    ((∃ message, cropRaw16 pixels sourceWidth sourceHeight x y width height
        = .error (.refused message)) ↔ ¬Inside pixels sourceWidth sourceHeight x y width height)
    ∧ (Inside pixels sourceWidth sourceHeight x y width height → ∃ out,
      cropRaw16 pixels sourceWidth sourceHeight x y width height = .ok out
        ∧ out.length = width * height * 2
        ∧ ∀ i < width, ∀ j < height, ∀ byte < 2, out[(j * width + i) * 2 + byte]?
          = pixels[((y + j) * sourceWidth + (x + i)) * 2 + byte]?) := by
  have hreturns : Inside pixels sourceWidth sourceHeight x y width height → ∃ out,
      cropRaw16 pixels sourceWidth sourceHeight x y width height = .ok out
        ∧ out.length = width * height * 2
        ∧ ∀ i < width, ∀ j < height, ∀ byte < 2, out[(j * width + i) * 2 + byte]?
          = pixels[((y + j) * sourceWidth + (x + i)) * 2 + byte]? :=
    fun h => cropRaw16_returns h hfits
  refine ⟨⟨?_, cropRaw16_refuses⟩, hreturns⟩
  rintro ⟨message, hrefused⟩ h
  obtain ⟨out, hout, -⟩ := hreturns h
  rw [hout] at hrefused
  cases hrefused

/-- The lower right quarter of four by two pixels. -/
theorem cropRaw16_exact_quarter :
    ((∃ message, cropRaw16 (List.replicate 16 7) 4 2 2 1 2 1 = .error (.refused message))
      ↔ ¬Inside (List.replicate 16 7) 4 2 2 1 2 1)
    ∧ (Inside (List.replicate 16 7) 4 2 2 1 2 1 → ∃ out,
      cropRaw16 (List.replicate 16 7) 4 2 2 1 2 1 = .ok out ∧ out.length = 2 * 1 * 2
        ∧ ∀ i < 2, ∀ j < 1, ∀ byte < 2, out[(j * 2 + i) * 2 + byte]?
          = (List.replicate 16 7)[((1 + j) * 4 + (2 + i)) * 2 + byte]?) :=
  cropRaw16_exact (List.replicate 16 7) 4 2 2 1 2 1 (by decide)

end Regain.Qhy.Crop
