import Regain.Lib.Layout

/-!
# Bodies that are streamed in chunks

A stream hands out one chunk a step.  Chunks are cut wherever a limit is reached, and nested
arrays come out of one flat index, whose remainders say where an array begins and ends.
-/

namespace Regain.Lib

variable {α σ : Type}

/-- The chunks of a stream up to its end. -/
inductive Streams (step : σ → Option (List α × σ)) : σ → List (List α) → Prop
  | done {state : σ} : step state = none → Streams step state []
  | next {state state' : σ} {chunk : List α} {chunks : List (List α)} :
    step state = some (chunk, state') → Streams step state' chunks →
    Streams step state (chunk :: chunks)

/-- Items are added to a chunk while there are any left and the chunk is short. -/
def fill (item : Nat → List α) (limit : Nat) : Nat → Nat → List α → List α × Nat
  | 0, index, chunk => (chunk, index)
  | left + 1, index, chunk =>
    if chunk.length < limit then fill item limit left (index + 1) (chunk ++ item index)
    else (chunk, index)

theorem fill_spec {item : Nat → List α} {limit longest : Nat}
    (hitem : ∀ index, (item index).length ≤ longest) (left index : Nat) {chunk : List α}
    (hchunk : chunk.length < limit + longest) : ∃ taken ≤ left, fill item limit left index chunk
        = (chunk ++ (List.range' index taken).flatMap item, index + taken)
      ∧ (fill item limit left index chunk).1.length < limit + longest
      ∧ (chunk.length < limit → 0 < left → 0 < taken) := by
  induction left generalizing index chunk with
  | zero => exact ⟨0, le_rfl, by simp [fill], hchunk, fun _ h => h⟩
  | succ left ih =>
    rw [fill]
    split
    next hshort =>
      have hlonger : (chunk ++ item index).length < limit + longest := by
        have := hitem index
        rw [List.length_append]
        omega
      obtain ⟨taken, hle, hfill, hlength, -⟩ := ih (index + 1) hlonger
      refine ⟨taken + 1, by omega, ?_, hlength, fun _ _ => by omega⟩
      rw [hfill, List.range'_succ, List.flatMap_cons, List.append_assoc, Nat.add_right_comm]
      rfl
    next hlong => exact ⟨0, by omega, by simp, hchunk, fun h => absurd h hlong⟩

theorem ofLittleEndian_lt (bytes : List UInt8) : ofLittleEndian bytes < 2 ^ (8 * bytes.length) := by
  induction bytes with
  | nil => decide
  | cons byte bytes ih =>
    have hbyte := byte.toNat_lt
    rw [ofLittleEndian, List.length_cons, Nat.mul_succ, Nat.pow_add]
    omega

theorem intercalate_cons (separator first : List α) (items : List (List α)) :
    separator.intercalate (first :: items) = first ++ items.flatMap (separator ++ ·) := by
  induction items generalizing first with
  | nil => simp
  | cons item items ih => simp [List.intercalate_cons_cons, ih]

theorem flatMap_array {count : Nat} (hcount : 0 < count) (before separator after : List α)
    (item : Nat → List α) :
    ((List.range count).flatMap fun index => (if index = 0 then before else separator)
        ++ item index ++ (if index + 1 = count then after else []))
      = before ++ separator.intercalate ((List.range count).map item) ++ after := by
  obtain ⟨count, rfl⟩ : ∃ count', count = count' + 1 := ⟨count - 1, by omega⟩
  have hlast (f : Nat → List α) : ((List.range (count + 1)).flatMap fun index =>
      f index ++ (if index + 1 = count + 1 then after else []))
        = (List.range (count + 1)).flatMap f ++ after := by
    have hinner : ∀ index ∈ List.range count,
        f index ++ (if index + 1 = count + 1 then after else []) = f index := by
      intro index hindex
      have hindex := List.mem_range.mp hindex
      rw [if_neg (show ¬ index + 1 = count + 1 by omega), List.append_nil]
    rw [List.range_succ, List.flatMap_append, List.flatMap_append, List.flatMap_congr hinner]
    simp
  rw [hlast, List.range_succ_eq_map, List.map_cons, intercalate_cons]
  simp [List.flatMap_map]

/-- One flat index over arrays of equal size. -/
theorem flatMap_arrays {size : Nat} (hsize : 0 < size) (arrays : Nat) (separator : List α)
    (before after item : Nat → List α) : ((List.range (arrays * size)).flatMap fun index =>
        (if index % size = 0 then before (index / size) else separator) ++ item index
          ++ (if index % size + 1 = size then after (index / size) else []))
      = (List.range arrays).flatMap fun array => before array
        ++ separator.intercalate ((List.range size).map fun index => item (array * size + index))
        ++ after array := by
  induction arrays with
  | zero => simp
  | succ arrays ih =>
    rw [Nat.succ_mul, List.range_add, List.flatMap_append, ih, List.range_succ,
      List.flatMap_append, List.flatMap_singleton, List.flatMap_map, ← flatMap_array hsize]
    congr 1
    refine List.flatMap_congr fun index hindex => ?_
    have hindex := List.mem_range.mp hindex
    rw [Lib.mul_add_mod_of_lt hindex, Lib.mul_add_div_of_lt hindex]

end Regain.Lib
