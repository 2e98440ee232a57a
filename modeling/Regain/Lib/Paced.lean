import Mathlib.Data.List.Chain

/-!
# Paced selections

The greedy selection of list entries that lie at least a gap apart.  The first
entry is kept, and every later one is kept when its time is far enough from the
time of the last kept entry.
-/

namespace Regain.Lib

section

variable {α : Type} (gap : Nat) (time : α → Nat)

/-- Whether an entry is far enough from the last kept one. -/
def farEnough (kept : List α) (entry : α) : Bool :=
  kept.getLast?.all fun last => decide (gap ≤ time entry - time last)

/-- One step of the selection. -/
def pacedStep (kept : List α) (entry : α) : List α :=
  if farEnough gap time kept entry then kept ++ [entry] else kept

def paced (entries : List α) : List α :=
  entries.foldl (pacedStep gap time) []

theorem paced_concat (entries : List α) (entry : α) :
    paced gap time (entries ++ [entry]) = pacedStep gap time (paced gap time entries) entry := by
  simp [paced, List.foldl_append]

/-- Consecutive entries lie at least the gap apart. -/
def Spaced (entries : List α) : Prop :=
  entries.IsChain fun earlier later => gap ≤ time later - time earlier

private theorem pacedStep_spaced {kept : List α} {entry : α} (hspaced : Spaced gap time kept) :
    Spaced gap time (pacedStep gap time kept entry) := by
  unfold pacedStep
  split
  · rename_i hfar
    refine List.isChain_append.mpr ⟨hspaced, List.isChain_singleton _, ?_⟩
    intro last hlast first hfirst
    obtain rfl : entry = first := by simpa using hfirst
    simpa [farEnough, Option.mem_def.mp hlast] using hfar
  · exact hspaced

private theorem foldl_pacedStep_spaced {kept : List α} (entries : List α)
    (hspaced : Spaced gap time kept) :
    Spaced gap time (entries.foldl (pacedStep gap time) kept) := by
  induction entries generalizing kept with
  | nil => exact hspaced
  | cons entry rest ih => exact ih (pacedStep_spaced gap time hspaced)

theorem paced_spaced (entries : List α) : Spaced gap time (paced gap time entries) :=
  foldl_pacedStep_spaced gap time entries List.isChain_nil

private theorem foldl_pacedStep_sublist {kept done : List α} (entries : List α)
    (hsub : kept.Sublist done) :
    (entries.foldl (pacedStep gap time) kept).Sublist (done ++ entries) := by
  induction entries generalizing kept done with
  | nil => simpa using hsub
  | cons entry rest ih =>
    have hnext : (pacedStep gap time kept entry).Sublist (done ++ [entry]) := by
      unfold pacedStep
      split
      · exact hsub.append (List.Sublist.refl _)
      · exact hsub.trans (List.sublist_append_left done [entry])
    simpa using ih hnext

theorem paced_sublist (entries : List α) : (paced gap time entries).Sublist entries := by
  have hsub : ([] : List α).Sublist [] := List.Sublist.refl []
  simpa [paced] using foldl_pacedStep_sublist gap time entries hsub

end

end Regain.Lib
