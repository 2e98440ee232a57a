import Mathlib.Data.Nat.Find
import Mathlib.Tactic.Common
import Regain.Lib.Checked

/-!
# Frames between markers

A frame follows a start marker of the bounded prefix and is followed by an end marker. The search
keeps its candidate while the stream grows.
-/

namespace Regain.Qhy.Framing

open Lib
open Checked

/-! ## The search -/

def startMarker : List UInt8 := [0x55, 0x55, 0x44, 0x44, 0xee, 0x11, 0xdd, 0x22]

def endMarker : List UInt8 := [0xee, 0x11, 0xdd, 0x22, 0x55, 0x55, 0x44, 0x44]

def marker : List UInt8 := [0xee, 0x11, 0xdd, 0x22, 0xee, 0x11, 0xdd, 0x22]

def prefixLength : Nat := 4194304

def firstWindow (bytes marker : List UInt8) : Option Nat :=
  (List.range (bytes.length - 7)).find? fun index => decide ((bytes.drop index).take 8 = marker)

def nextCandidate (wire start : List UInt8) (place : Nat) : Option Nat :=
  let stop := min wire.length prefixLength
  if place ≤ stop then
    (firstWindow ((wire.take stop).drop place) start).map fun index => place + index + 8
  else none

def tryCandidates (wire start stop : List UInt8) (frameBytes : Nat) :
    Nat → Nat → Checked (Option Nat) × Option Nat
  | 0, place => (.error .panic, some place)
  | fuel + 1, place =>
    let finish := place + frameBytes + 8
    if prefixLength < place then (.error (.refused "Invalid QHY frame prefix"), some place)
    else if 18446744073709551616 ≤ finish then
      (.error (.refused "Frame boundary overflow"), some place)
    else if wire.length < finish then (.ok none, some place)
    else
      match slice wire (finish - 8) finish with
      | .error fault => (.error fault, some place)
      | .ok footer =>
        if footer = stop then (.ok (some place), some place)
        else
          match nextCandidate wire start place with
          | some next => tryCandidates wire start stop frameBytes fuel next
          | none =>
            (.error (.refused "QHY frame boundary mismatch; no valid preamble candidate"), none)

def locateMarkers (wire : List UInt8) (candidate : Option Nat) (frameBytes : Nat)
    (start stop : List UInt8) : Checked (Option Nat) × Option Nat :=
  match candidate.or (nextCandidate wire start 0) with
  | some place => tryCandidates wire start stop frameBytes (wire.length + 1) place
  | none =>
    if wire.length < prefixLength then (.ok none, none)
    else (.error (.refused "QHY start marker missing in bounded prefix"), none)

def locate (wire : List UInt8) (candidate : Option Nat) (frameBytes : Nat) :
    Checked (Option Nat) × Option Nat :=
  locateMarkers wire candidate frameBytes startMarker endMarker

def locateRaw8 (wire : List UInt8) (candidate : Option Nat) (frameBytes : Nat) :
    Checked (Option Nat) × Option Nat :=
  locateMarkers wire candidate frameBytes marker marker

/-- The results of the calls on a growing stream, each with the candidate of the one before. -/
def locateAll (frameBytes : Nat) (start stop : List UInt8) :
    Option Nat → List (List UInt8) → List (Checked (Option Nat))
  | _, [] => []
  | candidate, wire :: wires =>
    let (result, candidate) := locateMarkers wire candidate frameBytes start stop
    result :: locateAll frameBytes start stop candidate wires

/-! ## Frames and markers -/

def Marks (wire start : List UInt8) (place : Nat) : Prop :=
  place + 8 ≤ min wire.length prefixLength ∧ (wire.drop place).take 8 = start

def footer (wire : List UInt8) (frameBytes place : Nat) : List UInt8 :=
  (wire.drop (place + 8 + frameBytes)).take 8

def Ended (wire start : List UInt8) (frameBytes place : Nat) : Prop :=
  Marks wire start place ∧ place + 8 + frameBytes + 8 ≤ wire.length

def Stands (wire start stop : List UInt8) (frameBytes place : Nat) : Prop :=
  Marks wire start place
    ∧ (place + 8 + frameBytes + 8 ≤ wire.length → footer wire frameBytes place = stop)

/-- No marker is at two places less than eight bytes apart, but for four bytes. -/
def Spaced (start : List UInt8) : Prop :=
  ∀ shift < 8, 0 < shift → shift ≠ 4 → start.drop shift ≠ start.take (8 - shift)

def Tried (wire start : List UInt8) (place : Nat) : Prop :=
  Marks wire start place ∧ ∀ _ : 4 ≤ place, ¬Tried wire start (place - 4)
termination_by place

structure First (wire start stop : List UInt8) (frameBytes place : Nat) : Prop where
  tried : Tried wire start place
  stands : Stands wire start stop frameBytes place
  least : ∀ other < place, Tried wire start other → ¬Stands wire start stop frameBytes other

def Tracks (wire start stop : List UInt8) (frameBytes : Nat) (candidate : Option Nat) : Prop :=
  ∀ place, candidate = some place → ∃ found, place = found + 8 ∧ Tried wire start found
      ∧ ∀ other < found, Tried wire start other → ¬Stands wire start stop frameBytes other

section

/-! ## One call -/

variable {wire start stop : List UInt8} {frameBytes place : Nat}

theorem window_take {low index : Nat} (h : low + index + 8 ≤ min wire.length prefixLength) :
    (((wire.take (min wire.length prefixLength)).drop low).drop index).take 8
      = (wire.drop (low + index)).take 8 := by
  rw [List.drop_drop, List.drop_take, List.take_take]
  congr 1
  omega

theorem nextCandidate_some {next : Nat} (h : nextCandidate wire start place = some next) :
    ∃ found, next = found + 8 ∧ place ≤ found ∧ Marks wire start found
      ∧ ∀ other, place ≤ other → other < found → ¬Marks wire start other := by
  unfold nextCandidate at h
  dsimp only at h
  split at h
  · obtain ⟨index, hindex, hnext⟩ := Option.map_eq_some_iff.mp h
    unfold firstWindow at hindex
    rw [List.find?_range_eq_some] at hindex
    obtain ⟨hwindow, hmem, hbefore⟩ := hindex
    rw [List.mem_range, List.length_drop, List.length_take] at hmem
    rw [decide_eq_true_eq, window_take (by omega)] at hwindow
    refine ⟨place + index, hnext.symm, by omega, ⟨by omega, hwindow⟩, fun other hle hlt hother => ?_⟩
    have hnot := hbefore (other - place) (by omega)
    rw [Bool.not_eq_true', decide_eq_false_iff_not, window_take (by omega)] at hnot
    rw [show place + (other - place) = other by omega] at hnot
    exact hnot hother.2
  · cases h

theorem nextCandidate_none (h : nextCandidate wire start place = none) :
    ∀ other, place ≤ other → ¬Marks wire start other := by
  intro other hle hother
  have hbound := hother.1
  unfold nextCandidate at h
  dsimp only at h
  rw [if_pos (by omega), Option.map_eq_none_iff] at h
  unfold firstWindow at h
  rw [List.find?_range_eq_none] at h
  have hnot := h (other - place) (by rw [List.length_drop, List.length_take]; omega)
  rw [Bool.not_eq_true', decide_eq_false_iff_not, window_take (by omega)] at hnot
  rw [show place + (other - place) = other by omega] at hnot
  exact hnot hother.2

theorem Marks.shift (hspaced : Spaced start) (h : Marks wire start place) {other : Nat}
    (hother : Marks wire start other) (hlt : place < other) (hnear : other < place + 8) :
    other = place + 4 := by
  by_contra hne
  refine hspaced (other - place) (by omega) (by omega) (by omega) ?_
  have hfirst : start.drop (other - place) = (wire.drop other).take (8 - (other - place)) := by
    rw [← h.2, List.drop_take, List.drop_drop]
    congr 2
    omega
  rw [hfirst, ← hother.2, List.take_take]
  congr 1
  omega

theorem tried_iff : Tried wire start place
    ↔ Marks wire start place ∧ ∀ _ : 4 ≤ place, ¬Tried wire start (place - 4) := by
  rw [Tried]

theorem Tried.marks (h : Tried wire start place) : Marks wire start place :=
  (tried_iff.mp h).1

theorem tried_of_first (h : Marks wire start place)
    (hfirst : ∀ other < place, ¬Marks wire start other) : Tried wire start place := by
  rw [Tried]
  exact ⟨h, fun hfour htried => hfirst (place - 4) (by omega) htried.marks⟩

/-- The search goes on from marker to marker. -/
theorem Tried.next (hspaced : Spaced start) (h : Tried wire start place) {next : Nat}
    (hnext : Marks wire start next) (hle : place + 8 ≤ next)
    (hleast : ∀ other, place + 8 ≤ other → other < next → ¬Marks wire start other) :
    Tried wire start next ∧ ∀ other, place < other → other < next → ¬Tried wire start other := by
  have hbetween : ∀ other, place < other → other < next → ¬Tried wire start other := by
    intro other hafter hbefore htried
    by_cases hnear : other < place + 8
    · have hfour := h.marks.shift hspaced htried.marks hafter hnear
      rw [Tried] at htried
      refine htried.2 (by omega) ?_
      rwa [hfour, Nat.add_sub_cancel]
    · exact hleast other (by omega) hbefore htried.marks
  refine ⟨?_, hbetween⟩
  rw [Tried]
  exact ⟨hnext, fun _ => hbetween (next - 4) (by omega) (by omega)⟩

inductive Outcome (wire start stop : List UInt8) (frameBytes : Nat) :
    Checked (Option Nat) → Option Nat → Prop where
  | found (place : Nat) : First wire start stop frameBytes place →
    Ended wire start frameBytes place →
      Outcome wire start stop frameBytes (.ok (some (place + 8))) (some (place + 8))
  | pending (place : Nat) : First wire start stop frameBytes place →
    ¬Ended wire start frameBytes place →
      Outcome wire start stop frameBytes (.ok none) (some (place + 8))
  | early : (∀ place, ¬Marks wire start place) → wire.length < prefixLength →
    Outcome wire start stop frameBytes (.ok none) none
  | missing : (∀ place, ¬Marks wire start place) → prefixLength ≤ wire.length →
    Outcome wire start stop frameBytes
      (.error (.refused "QHY start marker missing in bounded prefix")) none
  | mismatch (place : Nat) : Tried wire start place →
    (∀ other, Tried wire start other → ¬Stands wire start stop frameBytes other) →
      Outcome wire start stop frameBytes
        (.error (.refused "QHY frame boundary mismatch; no valid preamble candidate")) none

theorem tryCandidates_outcome (hspaced : Spaced start) (hframe : frameBytes < 9223372036854775808)
    {fuel : Nat} (htried : Tried wire start place)
    (hrefuted : ∀ other < place, Tried wire start other →
      ¬Stands wire start stop frameBytes other) (hfuel : wire.length < fuel + place + 8) :
    Outcome wire start stop frameBytes (tryCandidates wire start stop frameBytes fuel (place + 8)).1
      (tryCandidates wire start stop frameBytes fuel (place + 8)).2 := by
  induction fuel generalizing place with
  | zero =>
    have hbound := htried.marks.1
    omega
  | succ fuel ih =>
    have hbound := htried.marks.1
    have hshort : prefixLength = 4194304 := rfl
    rw [tryCandidates]
    rw [if_neg (by omega), if_neg (by omega)]
    by_cases hended : wire.length < place + 8 + frameBytes + 8
    · rw [if_pos hended]
      refine .pending place ⟨htried, ⟨htried.marks, fun hle => absurd hended (by omega)⟩, hrefuted⟩ ?_
      exact fun hdone => absurd hended (by have := hdone.2; omega)
    · have hslice : slice wire (place + 8 + frameBytes + 8 - 8) (place + 8 + frameBytes + 8)
          = .ok (footer wire frameBytes place) := by
        unfold slice footer
        rw [if_pos (by omega), List.drop_take, Nat.add_sub_cancel]
        congr 2
        omega
      rw [if_neg hended, hslice]
      dsimp only
      by_cases hfooter : footer wire frameBytes place = stop
      · rw [if_pos hfooter]
        exact .found place ⟨htried, ⟨htried.marks, fun _ => hfooter⟩, hrefuted⟩
          ⟨htried.marks, by omega⟩
      · rw [if_neg hfooter]
        have hthis : ¬Stands wire start stop frameBytes place :=
          fun hstands => hfooter (hstands.2 (by omega))
        cases hnext : nextCandidate wire start (place + 8) with
        | none =>
          refine .mismatch place htried fun other hother => ?_
          rcases Nat.lt_trichotomy other place with hless | rfl | hmore
          · exact hrefuted other hless hother
          · exact hthis
          · have hnear : other < place + 8 := by
              by_contra hfar
              exact nextCandidate_none hnext other (by omega) hother.marks
            have hfour := htried.marks.shift hspaced hother.marks hmore hnear
            rw [Tried] at hother
            exact absurd (by rwa [hfour, Nat.add_sub_cancel]) (hother.2 (by omega))
        | some next =>
          obtain ⟨found, rfl, hle, hmarks, hleast⟩ := nextCandidate_some hnext
          obtain ⟨hfound, hbetween⟩ := htried.next hspaced hmarks hle hleast
          refine ih hfound (fun other hless hother => ?_) (by omega)
          rcases Nat.lt_trichotomy other place with hbefore | rfl | hafter
          · exact hrefuted other hbefore hother
          · exact hthis
          · exact absurd hother (hbetween other hafter hless)

variable {candidate : Option Nat}

theorem locateMarkers_outcome (hspaced : Spaced start) (hframe : frameBytes < 9223372036854775808)
    (h : Tracks wire start stop frameBytes candidate) :
    Outcome wire start stop frameBytes (locateMarkers wire candidate frameBytes start stop).1
      (locateMarkers wire candidate frameBytes start stop).2 := by
  unfold locateMarkers
  cases candidate with
  | some place =>
    obtain ⟨found, rfl, htried, hrefuted⟩ := h place rfl
    exact tryCandidates_outcome hspaced hframe htried hrefuted (by omega)
  | none =>
    rw [Option.none_or]
    cases hnext : nextCandidate wire start 0 with
    | some next =>
      obtain ⟨found, rfl, -, hmarks, hleast⟩ := nextCandidate_some hnext
      have hnone : ∀ other < found, ¬Marks wire start other :=
        fun other hless => hleast other (Nat.zero_le other) hless
      exact tryCandidates_outcome hspaced hframe (tried_of_first hmarks hnone)
        (fun other hless hother => absurd hother.marks (hnone other hless)) (by omega)
    | none =>
      have hnone := fun other => nextCandidate_none hnext other (Nat.zero_le other)
      dsimp only
      split
      · exact .early hnone ‹_›
      · exact .missing hnone (not_lt.mp ‹_›)

theorem First.unique {other : Nat} (h : First wire start stop frameBytes place)
    (h' : First wire start stop frameBytes other) : place = other := by
  rcases Nat.lt_trichotomy place other with hless | hsame | hmore
  · exact absurd h.stands (h'.least place hless h.tried)
  · exact hsame
  · exact absurd h'.stands (h.least other hmore h'.tried)

/-- The outcome is a matter of the bytes alone. -/
theorem Outcome.unique {result result' : Checked (Option Nat)} {candidate candidate' : Option Nat}
    (h : Outcome wire start stop frameBytes result candidate)
    (h' : Outcome wire start stop frameBytes result' candidate') : result = result' := by
  cases h <;> cases h' <;> grind [First.unique, First, → Tried.marks]

theorem marks_grow {wire' : List UInt8} (hgrow : wire <+: wire') (hbound : place + 8 ≤ wire.length) :
    Marks wire' start place ↔ Marks wire start place := by
  obtain ⟨rest, rfl⟩ := hgrow
  unfold Marks
  rw [List.length_append, List.drop_append_of_le_length (by omega), List.take_append_of_le_length
    (by rw [List.length_drop]; omega)]
  constructor
  · exact fun h => ⟨by have := h.1; omega, h.2⟩
  · exact fun h => ⟨by have := h.1; omega, h.2⟩

theorem tried_grow {wire' : List UInt8} (hgrow : wire <+: wire') (hbound : place + 8 ≤ wire.length) :
    Tried wire' start place ↔ Tried wire start place := by
  induction place using Nat.strong_induction_on with
  | _ place ih =>
    refine tried_iff.trans (Iff.trans ?_ tried_iff.symm)
    rw [marks_grow hgrow hbound]
    refine and_congr_right fun _ => forall_congr' fun hfour => not_congr ?_
    exact ih (place - 4) (by omega) (by omega)

theorem Tracks.grow {wire' : List UInt8} (hgrow : wire <+: wire')
    (h : Tracks wire start stop frameBytes candidate) :
    Tracks wire' start stop frameBytes candidate := by
  intro place hplace
  obtain ⟨found, hfound, htried, hrefuted⟩ := h place hplace
  have hbound := htried.marks.1
  refine ⟨found, hfound, (tried_grow hgrow (by omega)).mpr htried, fun other hless hother hstands => ?_⟩
  have hold := (tried_grow hgrow (by omega)).mp hother
  refine hrefuted other hless hold ⟨hold.marks, fun hended => ?_⟩
  obtain ⟨rest, rfl⟩ := hgrow
  rw [← hstands.2 (by rw [List.length_append]; omega), footer, footer,
    List.drop_append_of_le_length (by omega), List.take_append_of_le_length
      (by rw [List.length_drop]; omega)]

theorem First.tracks (h : First wire start stop frameBytes place) :
    Tracks wire start stop frameBytes (some (place + 8)) := by
  intro kept hkept
  injection hkept with hkept
  exact ⟨place, hkept.symm, h.tried, h.least⟩

theorem Outcome.tracks {result : Checked (Option Nat)}
    (h : Outcome wire start stop frameBytes result candidate) :
    Tracks wire start stop frameBytes candidate := by
  cases h with
  | found place hfirst _ => exact hfirst.tracks
  | pending place hfirst _ => exact hfirst.tracks
  | early _ _ => exact fun _ hplace => by cases hplace
  | missing _ _ => exact fun _ hplace => by cases hplace
  | mismatch _ _ _ => exact fun _ hplace => by cases hplace

/-- However the stream grew, the last call finds what a single call finds. -/
theorem locateAll_last (hspaced : Spaced start) (hframe : frameBytes < 9223372036854775808)
    (wires : List (List UInt8)) (hgrows : (wires ++ [wire]).Pairwise (· <+: ·))
    (htracks : ∀ earlier ∈ wires ++ [wire], Tracks earlier start stop frameBytes candidate) :
    (locateAll frameBytes start stop candidate (wires ++ [wire])).getLast?
      = some (locateMarkers wire none frameBytes start stop).1 := by
  induction wires generalizing candidate with
  | nil =>
    have hlast := locateMarkers_outcome hspaced hframe (htracks wire (by simp))
    have hnothing : Tracks wire start stop frameBytes none := fun _ hplace => by cases hplace
    exact congrArg some (hlast.unique (locateMarkers_outcome hspaced hframe hnothing))
  | cons first rest ih =>
    rw [List.cons_append] at hgrows htracks ⊢
    obtain ⟨hbefore, hgrows⟩ := List.pairwise_cons.mp hgrows
    have hthis := locateMarkers_outcome hspaced hframe (htracks first List.mem_cons_self)
    have hrest := ih hgrows fun later hlater => hthis.tracks.grow (hbefore later hlater)
    rw [locateAll, List.getLast?_cons, hrest]
    rfl

/-! ## The first frame -/

/-- The end of the first start marker whose frame has arrived and is closed. -/
def Located (wire start stop : List UInt8) (frameBytes place : Nat) : Prop :=
  ∃ found, place = found + 8 ∧ Ended wire start frameBytes found
    ∧ footer wire frameBytes found = stop
    ∧ ∀ other < found, Ended wire start frameBytes other → footer wire frameBytes other ≠ stop

def MayQualify (wire start : List UInt8) (frameBytes : Nat) : Prop :=
  ∃ place, place + 8 ≤ prefixLength ∧ (Marks wire start place ∨ wire.length < place + 8)
    ∧ wire.length < place + 8 + frameBytes + 8

structure Exact (wire start stop : List UInt8) (frameBytes : Nat)
    (result : Checked (Option Nat)) : Prop where
  found : ∀ place, result = .ok (some place) ↔ Located wire start stop frameBytes place
  pending : result = .ok none ↔ (∀ place, ¬Located wire start stop frameBytes place)
    ∧ MayQualify wire start frameBytes
  safe : result ≠ .error .panic

/-- The first marker that stands is tried, or nothing is known yet of the first one that is. -/
def Reached (wire start stop : List UInt8) (frameBytes : Nat) : Prop :=
  ∀ place, Stands wire start stop frameBytes place →
    (∀ other < place, ¬Stands wire start stop frameBytes other) →
      Tried wire start place ∨ (¬Ended wire start frameBytes place
        ∧ ∃ other, Tried wire start other ∧ Stands wire start stop frameBytes other)

theorem exists_least {P : Nat → Prop} (h : ∃ place, P place) :
    ∃ place, P place ∧ ∀ other < place, ¬P other := by
  classical
  exact ⟨Nat.find h, Nat.find_spec h, fun other hless => Nat.find_min h hless⟩

theorem exists_first (h : ∃ other, Tried wire start other ∧ Stands wire start stop frameBytes other) :
    ∃ place, First wire start stop frameBytes place := by
  obtain ⟨place, ⟨htried, hstands⟩, hleast⟩ := exists_least h
  exact ⟨place, htried, hstands, fun other hless hother hstand => hleast other hless ⟨hother, hstand⟩⟩

theorem Outcome.first {result : Checked (Option Nat)}
    (h : Outcome wire start stop frameBytes result candidate)
    (hfirst : First wire start stop frameBytes place) :
    (Ended wire start frameBytes place → result = .ok (some (place + 8)))
      ∧ (¬Ended wire start frameBytes place → result = .ok none) := by
  constructor
  · exact fun hended => h.unique (.found place hfirst hended)
  · exact fun hended => h.unique (.pending place hfirst hended)

/-- A search is exact where it reaches the first marker that stands. -/
theorem Outcome.exact_iff (hlong : prefixLength ≤ frameBytes) {result : Checked (Option Nat)}
    (h : Outcome wire start stop frameBytes result candidate) :
    Exact wire start stop frameBytes result ↔ Reached wire start stop frameBytes := by
  have hstands : ∀ found, Ended wire start frameBytes found →
      footer wire frameBytes found = stop → Stands wire start stop frameBytes found :=
    fun found hended hfooter => ⟨hended.1, fun _ => hfooter⟩
  constructor
  · intro hexact place hthis hleast
    by_cases htried : Tried wire start place
    · exact .inl htried
    have hended : ¬Ended wire start frameBytes place := by
      intro hended
      have hsome := (hexact.found (place + 8)).mpr ⟨place, rfl, hended, hthis.2 hended.2,
        fun other hless hother hfooter => hleast other hless (hstands other hother hfooter)⟩
      subst hsome
      cases h with
      | found _ hfirst _ => exact htried hfirst.tried
    have hnone : result = .ok none := by
      refine hexact.pending.mpr ⟨?_, place, ?_, .inl hthis.1, ?_⟩
      · rintro _ ⟨found, -, hfound, hfooter, -⟩
        have hafter := hleast found
        by_cases hless : found < place
        · exact hafter hless (hstands found hfound hfooter)
        · exact hended ⟨hthis.1, by have := hfound.2; omega⟩
      · have := hthis.1.1
        omega
      · by_contra hnot
        exact hended ⟨hthis.1, by omega⟩
    subst hnone
    refine .inr ⟨hended, ?_⟩
    cases h with
    | pending other hfirst _ => exact ⟨other, hfirst.tried, hfirst.stands⟩
    | early hempty _ => exact absurd hthis.1 (hempty place)
  · intro hreached
    by_cases hany : ∃ place, Stands wire start stop frameBytes place
    · obtain ⟨place, hthis, hleast⟩ := exists_least hany
      have hlocated : ∀ found, Located wire start stop frameBytes found →
          found = place + 8 ∧ Ended wire start frameBytes place := by
        rintro _ ⟨found, rfl, hfound, hfooter, hbefore⟩
        rcases Nat.lt_trichotomy found place with hless | rfl | hmore
        · exact absurd (hstands found hfound hfooter) (hleast found hless)
        · exact ⟨rfl, hfound⟩
        · have hended : Ended wire start frameBytes place :=
            ⟨hthis.1, by have := hfound.2; omega⟩
          exact absurd (hthis.2 hended.2) (hbefore place hmore hended)
      by_cases hended : Ended wire start frameBytes place
      · have htried : Tried wire start place := by
          rcases hreached place hthis hleast with htried | ⟨hnot, -⟩
          · exact htried
          · exact absurd hended hnot
        have hsome := (h.first ⟨htried, hthis, fun other hless _ => hleast other hless⟩).1 hended
        have hthere : Located wire start stop frameBytes (place + 8) :=
          ⟨place, rfl, hended, hthis.2 hended.2, fun other hless hother hfooter =>
            hleast other hless (hstands other hother hfooter)⟩
        subst hsome
        refine ⟨fun found => ⟨fun heq => ?_, fun hfound => ?_⟩, ⟨fun heq => ?_, fun hnone => ?_⟩, ?_⟩
        · injection heq with heq
          injection heq with heq
          exact heq ▸ hthere
        · rw [(hlocated found hfound).1]
        · cases heq
        · exact absurd hthere (hnone.1 _)
        · exact fun heq => by cases heq
      · have hnone : result = .ok none := by
          rcases hreached place hthis hleast with htried | ⟨-, hother⟩
          · exact (h.first ⟨htried, hthis, fun other hless _ => hleast other hless⟩).2 hended
          · obtain ⟨first, hfirst⟩ := exists_first hother
            refine (h.first hfirst).2 fun hdone => hended ⟨hthis.1, ?_⟩
            have hle : place ≤ first := by
              by_contra hless
              exact hleast first (by omega) hfirst.stands
            have := hdone.2
            omega
        subst hnone
        refine ⟨fun found => ⟨fun heq => (by cases heq), fun hfound => ?_⟩, ⟨fun _ => ⟨?_, ?_⟩,
          fun _ => rfl⟩, fun heq => by cases heq⟩
        · exact absurd (hlocated found hfound).2 hended
        · exact fun found hfound => hended (hlocated found hfound).2
        · refine ⟨place, by have := hthis.1.1; omega, .inl hthis.1, ?_⟩
          by_contra hnot
          exact hended ⟨hthis.1, by omega⟩
    · rw [not_exists] at hany
      have hnone : ∀ place, ¬Located wire start stop frameBytes place := by
        rintro _ ⟨found, -, hfound, hfooter, -⟩
        exact hany found (hstands found hfound hfooter)
      have hmay : MayQualify wire start frameBytes → wire.length < prefixLength := by
        rintro ⟨place, hplace, hmarks | hshort, hless⟩
        · exact absurd ⟨hmarks, fun hle => absurd hle (by omega)⟩ (hany place)
        · omega
      refine ⟨fun found => ⟨fun heq => ?_, fun hfound => absurd hfound (hnone found)⟩, ?_, ?_⟩
      · subst heq
        cases h with
        | found place hfirst _ => exact absurd hfirst.stands (hany place)
      · cases h with
        | found place hfirst _ => exact absurd hfirst.stands (hany place)
        | pending place hfirst _ => exact absurd hfirst.stands (hany place)
        | early hempty hshort =>
          refine ⟨fun _ => ⟨hnone, prefixLength - 8, ?_, .inr ?_, ?_⟩, fun _ => rfl⟩
          · exact Nat.le_refl prefixLength
          · exact hshort
          · exact Nat.lt_of_lt_of_le hshort (by unfold prefixLength at *; omega)
        | missing _ hwhole =>
          exact ⟨fun heq => (by cases heq), fun hmore => absurd (hmay hmore.2) (by omega)⟩
        | mismatch place htried hrefuted =>
          refine ⟨fun heq => (by cases heq), fun hmore => ?_⟩
          have hshort := hmay hmore.2
          refine absurd ⟨htried.marks, fun hended => ?_⟩ (hany place)
          omega
      · cases h <;> exact fun heq => by cases heq

end

section

variable {wire : List UInt8} {frameBytes place : Nat}

theorem startMarker_spaced : Spaced startMarker := by
  unfold Spaced
  decide

theorem marker_spaced : Spaced marker := by
  unfold Spaced
  decide

/-- 16-bit start markers do not overlap. -/
theorem tried_startMarker : Tried wire startMarker place ↔ Marks wire startMarker place := by
  refine ⟨Tried.marks, fun hmarks => tried_iff.mpr ⟨hmarks, fun hfour hbefore => ?_⟩⟩
  have hthis := hmarks.2
  have htwice : (wire.drop (place - 4)).take 8 = startMarker := hbefore.marks.2
  have hhalf : startMarker.drop 4 = startMarker.take 4 := by
    calc startMarker.drop 4 = (wire.drop place).take 4 := by
          rw [← htwice, List.drop_take, List.drop_drop]
          congr 2
          omega
      _ = startMarker.take 4 := by
          rw [← hthis, List.take_take]
          rfl
  exact absurd hhalf (by decide)

def halves (wire : List UInt8) (place : Nat) : Nat :=
  if 4 ≤ place ∧ (wire.drop (place - 4)).take 4 = marker.take 4 then halves wire (place - 4) + 1
  else 0
termination_by place

theorem tried_marker :
    Tried wire marker place ↔ Marks wire marker place ∧ halves wire place % 2 = 0 := by
  induction place using Nat.strong_induction_on with
  | _ place ih =>
    rw [tried_iff, halves]
    refine and_congr_right fun hmarks => ?_
    by_cases hfour : 4 ≤ place
    · have hthis : (wire.drop place).take 4 = marker.take 4 := by
        have htake := congrArg (List.take 4) hmarks.2
        rwa [List.take_take] at htake
      have hmarks' : Marks wire marker (place - 4)
          ↔ (wire.drop (place - 4)).take 4 = marker.take 4 := by
        have hsplit : (wire.drop (place - 4)).take 8
            = (wire.drop (place - 4)).take 4 ++ (wire.drop place).take 4 := by
          have hplace : place - 4 + 4 = place := Nat.sub_add_cancel hfour
          rw [← List.take_append_drop 4 ((wire.drop (place - 4)).take 8), List.take_take,
            List.drop_take, List.drop_drop, hplace]
          rfl
        have hbound := hmarks.1
        unfold Marks
        rw [hsplit, hthis]
        constructor
        · exact fun h => (List.append_inj h.2 (by
            rw [List.length_take, List.length_drop]
            change min 4 _ = 4
            omega)).1
        · exact fun h => ⟨by omega, by rw [h]; rfl⟩
      rw [ih (place - 4) (by omega), hmarks']
      by_cases hhalf : (wire.drop (place - 4)).take 4 = marker.take 4
      · rw [if_pos ⟨hfour, hhalf⟩]
        constructor
        · intro hodd
          have hnot : ¬halves wire (place - 4) % 2 = 0 := fun heven => hodd hfour ⟨hhalf, heven⟩
          omega
        · rintro heven _ ⟨-, hodd⟩
          omega
      · rw [if_neg (fun h => hhalf h.2)]
        exact ⟨fun _ => rfl, fun _ _ h => hhalf h.1⟩
    · rw [if_neg (fun h => hfour h.1)]
      exact ⟨fun _ => rfl, fun _ hle => absurd hle hfour⟩

/-- The first 8-bit marker that stands has an even number of half markers before it, or its frame
has not arrived, and there is another one with an even number. -/
def Even8 (wire : List UInt8) (frameBytes : Nat) : Prop :=
  ∀ place, Stands wire marker marker frameBytes place →
    (∀ other < place, ¬Stands wire marker marker frameBytes other) →
      halves wire place % 2 = 0 ∨ (¬Ended wire marker frameBytes place
        ∧ ∃ other, Stands wire marker marker frameBytes other ∧ halves wire other % 2 = 0)

theorem reached_marker : Reached wire marker marker frameBytes ↔ Even8 wire frameBytes := by
  unfold Reached Even8
  refine forall_congr' fun place => forall_congr' fun hstands => forall_congr' fun _ => ?_
  rw [tried_marker]
  refine or_congr (and_iff_right hstands.1) (and_congr_right fun _ => exists_congr fun other => ?_)
  rw [tried_marker]
  exact ⟨fun h => ⟨h.2, h.1.2⟩, fun h => ⟨⟨h.1.1, h.2⟩, h.1⟩⟩

theorem reached_startMarker : Reached wire startMarker endMarker frameBytes :=
  fun _ hstands _ => .inl (tried_startMarker.mpr hstands.1)

end

/-- Chunks do not matter; 16-bit frames are located exactly, 8-bit frames where no half marker
hides the first one. -/
theorem located_iff (frameBytes : Nat) (hlong : prefixLength ≤ frameBytes)
    (hframe : frameBytes < 9223372036854775808) (wires : List (List UInt8)) (wire : List UInt8)
    (hgrows : (wires ++ [wire]).Pairwise (· <+: ·)) :
    (∀ start stop, (start = startMarker ∧ stop = endMarker ∨ start = marker ∧ stop = marker) →
      (locateAll frameBytes start stop none (wires ++ [wire])).getLast?
        = some (locateMarkers wire none frameBytes start stop).1)
    ∧ Exact wire startMarker endMarker frameBytes (locate wire none frameBytes).1
    ∧ (Exact wire marker marker frameBytes (locateRaw8 wire none frameBytes).1
      ↔ Even8 wire frameBytes) := by
  have htracks : ∀ {wire start stop}, Tracks wire start stop frameBytes none :=
    fun _ hplace => by cases hplace
  refine ⟨?_, ?_, ?_⟩
  · rintro start stop (⟨rfl, rfl⟩ | ⟨rfl, rfl⟩)
    · exact locateAll_last startMarker_spaced hframe wires hgrows fun _ _ => htracks
    · exact locateAll_last marker_spaced hframe wires hgrows fun _ _ => htracks
  · exact ((locateMarkers_outcome startMarker_spaced hframe htracks).exact_iff hlong).mpr
      reached_startMarker
  · exact ((locateMarkers_outcome marker_spaced hframe htracks).exact_iff hlong).trans
      reached_marker

/-- A stray byte, and then a frame of zeros between its markers. -/
private def zeroFrame (frameBytes : Nat) : List UInt8 :=
  0x22 :: startMarker ++ List.replicate frameBytes 0 ++ endMarker

theorem zeroFrame_located (frameBytes : Nat) :
    Located (zeroFrame frameBytes) startMarker endMarker frameBytes 9 := by
  have hfront : (0x22 :: startMarker ++ List.replicate frameBytes (0 : UInt8)).length
      = 1 + 8 + frameBytes := by
    simp [startMarker]
    omega
  have hlength : (zeroFrame frameBytes).length = frameBytes + 17 := by
    simp [zeroFrame, startMarker, endMarker]
  have hshort : prefixLength = 4194304 := rfl
  have hmarks : Marks (zeroFrame frameBytes) startMarker 1 := by
    refine ⟨by omega, ?_⟩
    simp [zeroFrame, startMarker]
  refine ⟨1, rfl, ⟨hmarks, by omega⟩, ?_, ?_⟩
  · unfold footer zeroFrame
    rw [← hfront, List.drop_left]
    rfl
  · intro other hless hended
    obtain rfl : other = 0 := by omega
    have hstart := hended.1.2
    simp [zeroFrame, startMarker] at hstart

theorem take_grows (bytes : List UInt8) {few many : Nat} (h : few ≤ many) :
    ([bytes.take few, bytes.take many] ++ [bytes]).Pairwise (· <+: ·) := by
  simp only [List.cons_append, List.nil_append, List.pairwise_cons, List.mem_cons,
    List.not_mem_nil, or_false, forall_eq_or_imp, forall_eq, false_implies, implies_true,
    List.Pairwise.nil, and_true]
  exact ⟨⟨List.take_prefix_take_left h, List.take_prefix _ _⟩, List.take_prefix _ _⟩

/-- The frame is found in the call in which it is whole, two calls after a part of its marker. -/
theorem located_iff_zeroFrame : prefixLength ≤ 4194304 ∧ 4194304 < 9223372036854775808
      ∧ ([(zeroFrame 4194304).take 3, (zeroFrame 4194304).take 4000000]
        ++ [zeroFrame 4194304]).Pairwise (· <+: ·)
      ∧ (locateAll 4194304 startMarker endMarker none
        ([(zeroFrame 4194304).take 3, (zeroFrame 4194304).take 4000000]
          ++ [zeroFrame 4194304])).getLast? = some (.ok (some 9))
      ∧ (Exact (zeroFrame 4194304) marker marker 4194304
          (locateRaw8 (zeroFrame 4194304) none 4194304).1
        ↔ Even8 (zeroFrame 4194304) 4194304) := by
  have hgrows := take_grows (zeroFrame 4194304) (by decide : 3 ≤ 4000000)
  obtain ⟨hlast, hexact, heven⟩ :=
    located_iff 4194304 (by decide) (by decide) _ (zeroFrame 4194304) hgrows
  refine ⟨by decide, by decide, hgrows, ?_, heven⟩
  rw [hlast _ _ (.inl ⟨rfl, rfl⟩)]
  exact congrArg some ((hexact.found 9).mpr (zeroFrame_located _))

private def halfWire (frameBytes : Nat) : List UInt8 :=
  marker.take 4 ++ marker ++ List.replicate frameBytes 0 ++ marker

/-- The search takes the half marker for the start of the frame. -/
theorem halfWire_hidden {frameBytes : Nat} (hlong : prefixLength ≤ frameBytes)
    (hframe : frameBytes < 9223372036854775808) :
    ¬Exact (halfWire frameBytes) marker marker frameBytes
      (locateRaw8 (halfWire frameBytes) none frameBytes).1 := by
  have hfront : (marker.take 4 ++ marker ++ List.replicate frameBytes (0 : UInt8)).length
      = 4 + 8 + frameBytes := by
    simp [marker]
    omega
  have hlength : (halfWire frameBytes).length = frameBytes + 20 := by
    simp [halfWire, marker]
  have hshort : prefixLength = 4194304 := rfl
  have hend : footer (halfWire frameBytes) frameBytes 4 = marker := by
    have hsplit : (halfWire frameBytes).drop (4 + 8 + frameBytes) = marker := by
      unfold halfWire
      rw [← hfront, List.drop_left]
    rw [footer, hsplit]
    rfl
  have hzero : footer (halfWire frameBytes) frameBytes 0 ≠ marker := by
    intro hmarker
    have hhead := congrArg (fun bytes => bytes[0]?) hmarker
    have hthere : (halfWire frameBytes)[8 + frameBytes]? = some 0 := by
      unfold halfWire
      rw [List.getElem?_append_left (by omega), List.getElem?_append_right (by simp [marker]; omega),
        List.getElem?_replicate_of_lt (by simp [marker]; omega)]
    rw [footer, List.getElem?_take_of_lt (by omega), List.getElem?_drop, Nat.zero_add,
      Nat.add_zero, hthere] at hhead
    exact absurd hhead (by decide)
  have hmarks : Marks (halfWire frameBytes) marker 4 := by
    refine ⟨by omega, ?_⟩
    simp [halfWire, marker]
  have hleast : ∀ other < 4, ¬Stands (halfWire frameBytes) marker marker frameBytes other := by
    intro other hless hother
    have hfour := hother.1.shift marker_spaced hmarks hless (by omega)
    have hfirst : other = 0 := by omega
    subst hfirst
    exact hzero (hother.2 (by omega))
  intro hexact
  have htracks : Tracks (halfWire frameBytes) marker marker frameBytes none :=
    fun _ hplace => by cases hplace
  have houtcome := locateMarkers_outcome marker_spaced hframe htracks
  rcases reached_marker.mp ((houtcome.exact_iff hlong).mp hexact) 4 ⟨hmarks, fun _ => hend⟩ hleast
    with heven | hnot
  · rw [halves, halves] at heven
    simp [halfWire, marker] at heven
  · exact hnot.1 ⟨hmarks, by omega⟩

/-- Half a marker in front of a frame hides the frame. -/
theorem half_marker_hides : ¬Exact (halfWire 4194304) marker marker 4194304
      (locateRaw8 (halfWire 4194304) none 4194304).1 :=
  halfWire_hidden (Nat.le_refl _) (by decide)

end Regain.Qhy.Framing
