import Mathlib.Data.List.Nodup
import Mathlib.Data.List.Perm.Subperm
import Regain.Lib.Pipe

/-!
# Layout of grids in flat storage

Storage is cut into blocks of one size, one block an element.  A grid of rows,
columns and lanes has two orders, with the row or with the column slowest; the
map between the two orders is a permutation of the elements.
-/

namespace Regain.Lib

variable {α β : Type}

/-- The element with a given index in storage of equal blocks. -/
def block (items : List α) (size index : Nat) : List α :=
  (items.drop (index * size)).take size

theorem length_block {items : List α} {size index : Nat}
    (hindex : (index + 1) * size ≤ items.length) : (block items size index).length = size := by
  rw [Nat.succ_mul] at hindex
  simp only [block, List.length_take, List.length_drop]
  omega

theorem take_drop_block (items : List α) (size start count : Nat) :
    ((List.range' start count).flatMap (block items size))
      = (items.drop (start * size)).take (count * size) := by
  induction count generalizing start with
  | zero => simp
  | succ count ih =>
    rw [List.range'_succ, List.flatMap_cons, ih, block, Nat.succ_mul, Nat.succ_mul,
      Nat.add_comm (count * size) size, List.take_add, List.drop_drop]

/-- A sequence of blocks, one for each key, holds the block of a key at the key's index. -/
theorem block_flatMap {keys : List β} {item : β → List α} {size index : Nat} {key : β}
    (hsize : ∀ key ∈ keys, (item key).length = size) (hkey : keys[index]? = some key) :
    block (keys.flatMap item) size index = item key := by
  induction keys generalizing index with
  | nil => simp at hkey
  | cons first keys ih =>
    have hfirst := hsize first List.mem_cons_self
    cases index with
    | zero =>
      obtain rfl : first = key := by simpa using hkey
      simp [block, List.flatMap_cons, ← hfirst]
    | succ index =>
      have hrest := ih (fun key hmem => hsize key (List.mem_cons_of_mem _ hmem))
        (by simpa using hkey)
      rw [← hrest, block, block, List.flatMap_cons, Nat.succ_mul, Nat.add_comm, ← List.drop_drop]
      simp [← hfirst]

/-- `storage[start..].copy_from_slice(items)`. -/
def overwrite (storage : List α) (start : Nat) (items : List α) : List α :=
  storage.take start ++ items ++ storage.drop (start + items.length)

theorem length_overwrite (storage items : List α) {start : Nat}
    (hfits : start + items.length ≤ storage.length) :
    (overwrite storage start items).length = storage.length := by
  simp only [overwrite, List.length_append, List.length_take, List.length_drop]
  omega

/-- Items written right behind a known beginning extend it. -/
theorem take_overwrite (storage items : List α) {start : Nat} (hstart : start ≤ storage.length) :
    (overwrite storage start items).take (start + items.length) = storage.take start ++ items := by
  have hlength : (storage.take start ++ items).length = start + items.length := by
    simp only [List.length_append, List.length_take]
    omega
  rw [overwrite, ← hlength, List.take_left]

theorem mul_add_div_of_lt {quotient divisor rest : Nat} (hrest : rest < divisor) :
    (quotient * divisor + rest) / divisor = quotient := by
  rw [Nat.mul_comm, Nat.mul_add_div (by omega), Nat.div_eq_of_lt hrest, Nat.add_zero]

theorem mul_add_mod_of_lt {quotient divisor rest : Nat} (hrest : rest < divisor) :
    (quotient * divisor + rest) % divisor = rest := by
  rw [Nat.mul_comm, Nat.mul_add_mod, Nat.mod_eq_of_lt hrest]

/-- The index of an element, the outer coordinate slowest and the lane fastest. -/
def gridIndex (inner lanes outer at_ lane : Nat) : Nat :=
  (outer * inner + at_) * lanes + lane

theorem gridIndex_lt {inner lanes outers outer at_ lane : Nat} (houter : outer < outers)
    (hinner : at_ < inner) (hlane : lane < lanes) :
    gridIndex inner lanes outer at_ lane < outers * inner * lanes := by
  have hpair : outer * inner + at_ < outers * inner := by
    calc outer * inner + at_ < outer * inner + inner := by omega
      _ = (outer + 1) * inner := (Nat.succ_mul _ _).symm
      _ ≤ outers * inner := Nat.mul_le_mul_right _ houter
  calc gridIndex inner lanes outer at_ lane
      < (outer * inner + at_) * lanes + lanes := by simp only [gridIndex]; omega
    _ = (outer * inner + at_ + 1) * lanes := (Nat.succ_mul _ _).symm
    _ ≤ outers * inner * lanes := Nat.mul_le_mul_right _ hpair

/-- The index of an element when the other coordinate is slowest. -/
def transposeIndex (inner outers lanes index : Nat) : Nat :=
  gridIndex outers lanes (index / lanes % inner) (index / lanes / inner) (index % lanes)

theorem transposeIndex_gridIndex {inner outers lanes outer at_ lane : Nat} (hinner : at_ < inner)
    (hlane : lane < lanes) :
    transposeIndex inner outers lanes (gridIndex inner lanes outer at_ lane)
      = gridIndex outers lanes at_ outer lane := by
  simp only [transposeIndex, gridIndex, mul_add_div_of_lt hlane, mul_add_mod_of_lt hlane,
    mul_add_div_of_lt hinner, mul_add_mod_of_lt hinner]

/-- Every index of a grid is the index of one element. -/
theorem exists_gridIndex {inner outers lanes index : Nat} (hindex : index < outers * inner * lanes) :
    ∃ outer at_ lane, outer < outers ∧ at_ < inner ∧ lane < lanes
      ∧ index = gridIndex inner lanes outer at_ lane := by
  have hlanes : 0 < lanes := Nat.pos_of_ne_zero fun h => by simp [h] at hindex
  have hinner : 0 < inner := Nat.pos_of_ne_zero fun h => by simp [h] at hindex
  refine ⟨index / lanes / inner, index / lanes % inner, index % lanes, ?_, Nat.mod_lt _ hinner,
    Nat.mod_lt _ hlanes, ?_⟩
  · rw [Nat.div_div_eq_div_mul, Nat.div_lt_iff_lt_mul (Nat.mul_pos hlanes hinner)]
    calc index < outers * inner * lanes := hindex
      _ = outers * (lanes * inner) := by rw [Nat.mul_assoc, Nat.mul_comm inner]
  · rw [gridIndex, Nat.mul_comm (_ / inner), Nat.div_add_mod, Nat.mul_comm, Nat.div_add_mod]

/-- The change between the two orders of a grid rearranges its elements. -/
theorem transposeIndex_perm (inner outers lanes : Nat) :
    ((List.range (outers * inner * lanes)).map (transposeIndex inner outers lanes)).Perm
      (List.range (outers * inner * lanes)) := by
  have hback : ∀ index < outers * inner * lanes,
      transposeIndex outers inner lanes (transposeIndex inner outers lanes index) = index := by
    intro index hindex
    obtain ⟨outer, at_, lane, houter, hinner, hlane, rfl⟩ := exists_gridIndex hindex
    rw [transposeIndex_gridIndex hinner hlane, transposeIndex_gridIndex houter hlane]
  have hnodup : ((List.range (outers * inner * lanes)).map
      (transposeIndex inner outers lanes)).Nodup := by
    refine List.Nodup.map_on ?_ List.nodup_range
    intro a ha b hb heq
    rw [← hback a (List.mem_range.mp ha), heq, hback b (List.mem_range.mp hb)]
  refine (List.subperm_of_subset hnodup ?_).perm_of_length_le (by simp)
  intro index hmem
  obtain ⟨source, hsource, rfl⟩ := List.mem_map.mp hmem
  obtain ⟨outer, at_, lane, houter, hinner, hlane, rfl⟩ :=
    exists_gridIndex (List.mem_range.mp hsource)
  rw [transposeIndex_gridIndex hinner hlane, List.mem_range, Nat.mul_comm outers inner]
  exact gridIndex_lt hinner houter hlane

/-- The `width` bytes of a number, lowest first. -/
def littleEndian : Nat → Nat → List UInt8
  | 0, _ => []
  | width + 1, value => UInt8.ofNat value :: littleEndian width (value / 2 ^ 8)

theorem length_littleEndian (width value : Nat) : (littleEndian width value).length = width := by
  induction width generalizing value with
  | zero => rfl
  | succ width ih => simp [littleEndian, ih]

theorem ofLittleEndian_littleEndian (width value : Nat) :
    ofLittleEndian (littleEndian width value) = value % 2 ^ (8 * width) := by
  induction width generalizing value with
  | zero => simp [littleEndian, ofLittleEndian, Nat.mod_one]
  | succ width ih =>
    rw [littleEndian, ofLittleEndian, ih, UInt8.toNat_ofNat', Nat.mul_succ,
      Nat.add_comm (8 * width) 8, Nat.pow_add, Nat.mod_mul]

/-- The words of four bytes each at the beginning of some bytes. -/
def words : List UInt8 → List Nat
  | a :: b :: c :: d :: rest => ofLittleEndian [a, b, c, d] :: words rest
  | _ => []

theorem words_littleEndian (value : Nat) (rest : List UInt8) (hvalue : value < 2 ^ 32) :
    words (littleEndian 4 value ++ rest) = value :: words rest := by
  have hword := ofLittleEndian_littleEndian 4 value
  rw [Nat.mod_eq_of_lt hvalue] at hword
  simp only [littleEndian] at hword ⊢
  simp only [List.cons_append, List.nil_append, words, hword]

end Regain.Lib
