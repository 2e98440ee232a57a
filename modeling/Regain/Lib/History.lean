import Mathlib.Data.List.Basic

/-!
# Histories

A history is a list to which a system only appends.  A rule that justifies each entry by
the entries before it holds of the whole history if it held at every append.
-/

namespace Regain.Lib

variable {Entry : Type}

/-- Every entry of a history is justified by the entries before it. -/
def Justified (rule : List Entry → Entry → Prop) (history : List Entry) : Prop :=
  ∀ before entry after, history = before ++ entry :: after → rule before entry

namespace Justified

variable {rule : List Entry → Entry → Prop} {history : List Entry}

theorem nil : Justified rule [] := by
  intro before entry after hsplit
  simp at hsplit

theorem concat (h : Justified rule history) {entry : Entry} (hentry : rule history entry) :
    Justified rule (history ++ [entry]) := by
  intro before other after hsplit
  rcases List.eq_nil_or_concat after with rfl | ⟨rest, last, rfl⟩
  · have hlast := List.append_inj' (show history ++ [entry] = before ++ [other] from hsplit) rfl
    obtain ⟨rfl, hsame⟩ := hlast
    cases hsame
    exact hentry
  · have hlast : history ++ [entry] = (before ++ other :: rest) ++ [last] := by
      simpa using hsplit
    obtain ⟨hhistory, -⟩ := List.append_inj' hlast rfl
    exact h before other rest hhistory

/-- A rule that relates an entry to every earlier one holds pairwise. -/
theorem pairwise {relation : Entry → Entry → Prop}
    (hrule : ∀ before entry, rule before entry → ∀ earlier ∈ before, relation earlier entry)
    (h : Justified rule history) : history.Pairwise relation := by
  rw [List.pairwise_iff_forall_sublist]
  intro earlier later hsub
  obtain ⟨before, rest, rfl, hearlier, hlater⟩ := List.append_sublist_iff.mp
    (show ([earlier] ++ [later]).Sublist history from hsub)
  obtain ⟨mid, after, rfl⟩ := List.append_of_mem (List.singleton_sublist.mp hlater)
  have hrule' := h (before ++ mid) later after (by simp)
  exact hrule _ _ hrule' earlier (List.mem_append_left _ (List.singleton_sublist.mp hearlier))

end Justified

/-- One entry, and behind it another. -/
def Followed (history : List Entry) (first second : Entry) : Prop :=
  [first, second].Sublist history

theorem Followed.append {history : List Entry} {first second : Entry}
    (h : Followed history first second) (later : List Entry) :
    Followed (history ++ later) first second :=
  h.trans (List.sublist_append_left history later)

theorem followed_concat {history : List Entry} {first : Entry} (hfirst : first ∈ history)
    (second : Entry) : Followed (history ++ [second]) first second :=
  (List.singleton_sublist.mpr hfirst).append (List.Sublist.refl [second])

end Regain.Lib
