import Mathlib.Tactic.Common
import Regain.Lib.Layout

/-!
# Little-endian 16-bit samples

A frame of samples as the list of its bytes: reading, writing and mapping single samples.
-/

namespace Regain.Lib.Raw16

/-- The sample of two bytes. -/
def ofBytes (low high : UInt8) : Nat :=
  low.toNat + 256 * high.toNat

/-- The sample at an index, zero beyond the end. -/
def sample (bytes : List UInt8) (index : Nat) : Nat :=
  ofBytes (bytes[2 * index]?.getD 0) (bytes[2 * index + 1]?.getD 0)

/-- Write the two bytes of a sample. -/
def put (bytes : List UInt8) (index value : Nat) : List UInt8 :=
  (bytes.set (2 * index) (.ofNat value)).set (2 * index + 1) (.ofNat (value / 256))

/-- Replace every sample by what a function makes of its index and its value. -/
def mapFrom (f : Nat → Nat → Nat) (index : Nat) : List UInt8 → List UInt8
  | low :: high :: rest =>
    let value := f index (ofBytes low high)
    .ofNat value :: .ofNat (value / 256) :: mapFrom f (index + 1) rest
  | bytes => bytes

theorem ofBytes_lt (low high : UInt8) : ofBytes low high < 65536 := by
  have hlow := low.toNat_lt
  have hhigh := high.toNat_lt
  unfold ofBytes
  omega

theorem sample_lt (bytes : List UInt8) (index : Nat) : sample bytes index < 65536 :=
  ofBytes_lt _ _

theorem ofBytes_ofNat {value : Nat} (h : value < 65536) :
    ofBytes (.ofNat value) (.ofNat (value / 256)) = value := by
  simp only [ofBytes, UInt8.toNat_ofNat']
  omega

theorem get_sample {bytes : List UInt8} {index : Nat} (h : 2 * index + 1 < bytes.length) :
    ∃ low high, bytes[2 * index]? = some low ∧ bytes[2 * index + 1]? = some high
      ∧ ofBytes low high = sample bytes index := by
  have hlow : bytes[2 * index]? = some bytes[2 * index] := List.getElem?_eq_getElem (by omega)
  have hhigh : bytes[2 * index + 1]? = some bytes[2 * index + 1] := List.getElem?_eq_getElem h
  exact ⟨_, _, hlow, hhigh, by rw [sample, hlow, hhigh, Option.getD_some, Option.getD_some]⟩

theorem sample_drop (bytes : List UInt8) (start index : Nat) :
    sample (bytes.drop (start * 2)) index = sample bytes (start + index) := by
  have hlow : start * 2 + 2 * index = 2 * (start + index) := by omega
  have hhigh : start * 2 + (2 * index + 1) = 2 * (start + index) + 1 := by omega
  rw [sample, sample, List.getElem?_drop, List.getElem?_drop, hlow, hhigh]

theorem sample_take {bytes : List UInt8} {count index : Nat} (h : index < count) :
    sample (bytes.take (count * 2)) index = sample bytes index := by
  rw [sample, sample, List.getElem?_take_of_lt (by omega), List.getElem?_take_of_lt (by omega)]

/-- The samples of a sequence of equal lines. -/
theorem sample_flatMap {Key : Type} {keys : List Key} {line : Key → List UInt8}
    {size index column : Nat} {key : Key} (hsize : ∀ key ∈ keys, (line key).length = size * 2)
    (hkey : keys[index]? = some key) (hcolumn : column < size) :
    sample (keys.flatMap line) (index * size + column) = sample (line key) column := by
  rw [← block_flatMap hsize hkey, block, sample_take hcolumn, ← Nat.mul_assoc, sample_drop]

@[simp] theorem length_put (bytes : List UInt8) (index value : Nat) :
    (put bytes index value).length = bytes.length := by
  simp [put]

theorem sample_put_of_ne (bytes : List UInt8) {index other : Nat} (value : Nat)
    (h : other ≠ index) : sample (put bytes index value) other = sample bytes other := by
  unfold sample put
  repeat rw [List.getElem?_set_ne (by omega)]

@[simp] theorem length_mapFrom (f : Nat → Nat → Nat) (index : Nat) (bytes : List UInt8) :
    (mapFrom f index bytes).length = bytes.length := by
  fun_induction mapFrom f index bytes with
  | case1 index low high rest value ih => simp [ih]
  | case2 index bytes => rfl

theorem sample_mapFrom {f : Nat → Nat → Nat} (hf : ∀ index value, f index value < 65536)
    (start : Nat) {bytes : List UInt8} {index : Nat} (h : 2 * index + 1 < bytes.length) :
    sample (mapFrom f start bytes) index = f (start + index) (sample bytes index) := by
  fun_induction mapFrom f start bytes generalizing index with
  | case1 start low high rest value =>
    rename_i ih
    cases index with
    | zero => exact ofBytes_ofNat (hf _ _)
    | succ index =>
      simp only [List.length_cons] at h
      have hrest : 2 * index + 1 < rest.length := by omega
      rw [show start + (index + 1) = start + 1 + index by omega]
      exact ih hrest
  | case2 start bytes hshort =>
    rcases bytes with - | ⟨low, - | ⟨high, rest⟩⟩
    · simp at h
    · simp at h
    · exact absurd rfl (hshort low high rest)

end Regain.Lib.Raw16
