import Std.Data.TreeMap

/-!
# Values of a tree map

The values of a map in key order, and when a predicate holds of all of them.
-/

namespace Regain.Lib

open Std

variable {α β γ : Type} {cmp : α → α → Ordering}

/-- The values of a map in the order of its keys. -/
def mapValues (map : TreeMap α β cmp) : List β :=
  map.toList.map Prod.snd

theorem mem_mapValues [TransCmp cmp] [LawfulEqCmp cmp] {map : TreeMap α β cmp} {value : β} :
    value ∈ mapValues map ↔ ∃ key : α, map[key]? = some value := by
  simp only [mapValues, List.mem_map, Prod.exists, TreeMap.mem_toList_iff_getElem?_eq_some]
  constructor
  · rintro ⟨key, _, hget, rfl⟩
    exact ⟨key, hget⟩
  · rintro ⟨key, hget⟩
    exact ⟨key, value, hget, rfl⟩

end Regain.Lib
