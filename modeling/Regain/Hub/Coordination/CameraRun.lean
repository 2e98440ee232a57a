import Mathlib.Data.Finset.Image
import Regain.Hub.Coordination.Camera
import Regain.Lib.History

/-!
# Guarantees of a camera group operation

Every future that the loop waits for belongs to the phase of its member. From this follows what the
last report says.
-/

namespace Regain.Hub.CameraGroup

open Lib
open Operation (drain finishing handle launch note prepare ready recheck requestAbort setSkew
  settle stamp turn wait)

namespace Effect

def dispatched? : Effect → Option Nat
  | dispatched index => some index
  | _ => none

def aborted? : Effect → Option Nat
  | aborted index => some index
  | _ => none

def published? : Effect → Option CameraGroupResult
  | published report => some report
  | _ => none

end Effect

/-! ## Starts, aborts and reports -/

def startsIn (log : List Effect) : List Nat :=
  log.filterMap Effect.dispatched?

def abortsIn (log : List Effect) : List Nat :=
  log.filterMap Effect.aborted?

def publishedIn (log : List Effect) : List CameraGroupResult :=
  log.filterMap Effect.published?

theorem startsIn_concat (log : List Effect) (effect : Effect) :
    startsIn (log ++ [effect]) = startsIn log ++ effect.dispatched?.toList := by
  cases effect <;> simp [startsIn, Effect.dispatched?]

theorem abortsIn_concat (log : List Effect) (effect : Effect) :
    abortsIn (log ++ [effect]) = abortsIn log ++ effect.aborted?.toList := by
  cases effect <;> simp [abortsIn, Effect.aborted?]

theorem publishedIn_concat (log : List Effect) (effect : Effect) :
    publishedIn (log ++ [effect]) = publishedIn log ++ effect.published?.toList := by
  cases effect <;> simp [publishedIn, Effect.published?]

def Unfinished (log : List Effect) : Prop :=
  ∀ report ∈ publishedIn log, report.phase.terminal = false

def EndsWith (log : List Effect) (report : CameraGroupResult) : Prop :=
  ∃ before, publishedIn log = before ++ [report] ∧ report.phase.terminal = true
    ∧ ∀ earlier ∈ before, earlier.phase.terminal = false

namespace Future

def index : Future → Nat
  | start index => index
  | image index => index
  | abort index => index

def isStart : Future → Bool
  | start _ => true
  | _ => false

def isAbort : Future → Bool
  | abort _ => true
  | _ => false

end Future

/-! ## The loop -/

/-- What the loop knows of one member, next to its report. -/
structure View where
  requested : Bool
  pending : Bool
  pinned : Option CapturedImage
  starting : Bool
  imaging : Bool
  aborting : Bool

def Operation.view (operation : Operation) (index : Nat) : View where
  requested := operation.abortRequested index
  pending := operation.pendingImages index
  pinned := operation.images index
  starting := decide (.start index ∈ operation.events)
  imaging := decide (.image index ∈ operation.events)
  aborting := decide (.abort index ∈ operation.events)

def Fits (member : CameraMemberResult) (view : View) : Prop :=
  match member.phase with
  | .starting => view = ⟨false, false, none, true, false, false⟩
  | .exposing => view = ⟨false, true, none, false, true, false⟩
  | .aborting =>
    view.requested = true ∧ view.pinned = none ∧ view.starting = false ∧ view.aborting = true
      ∧ view.pending = view.imaging
  | .aborted =>
    view.requested = true ∧ view.pinned = none ∧ view.starting = false ∧ view.aborting = false
      ∧ view.pending = false
  | .failed =>
    view.pinned = none ∧ view.starting = false ∧ view.aborting = false
      ∧ view.pending = view.imaging
  | .uncertain =>
    view.pinned = none ∧ view.starting = false ∧ view.aborting = false
      ∧ view.pending = view.imaging
  | .complete =>
    (∃ image, view.pinned = some image ∧ member.matches_ image = true)
      ∧ view.starting = false ∧ view.imaging = false ∧ view.pending = false
  | _ => False

structure Loop (operation : Operation) : Prop where
  fits : ∀ index member, operation.report.members[index]? = some member →
    Fits member (operation.view index)
  bounded : ∀ future ∈ operation.events, future.index < operation.report.members.length
  starts : operation.startsPending = (operation.events.filter (·.isStart = true)).card
  aborts : operation.abortsPending = (operation.events.filter (·.isAbort = true)).card
  requested : ∀ index, operation.abortRequested index = true → operation.aborting = true
  stop : ∀ phase ∈ operation.stop, phase = .cancelled ∨ phase = .deadline
  acknowledged : ∀ index member, operation.report.members[index]? = some member →
    member.phase = .exposing → .acknowledged index ∈ operation.log
  dispatched : (startsIn operation.log).Nodup
  abortedOnce : (abortsIn operation.log).Nodup
  abortRequested : ∀ index ∈ abortsIn operation.log, operation.abortRequested index = true
  ordered : ∀ index ∈ abortsIn operation.log,
    Followed operation.log (.acknowledged index) (.aborted index)
  capturing : operation.report.phase = .capturing
  unfinished : Unfinished operation.log

variable {future : Future}

theorem card_filter_erase {events : Finset Future} (hmem : future ∈ events)
    (test : Future → Bool) : ((events.erase future).filter (test · = true)).card
      = (events.filter (test · = true)).card - (if test future then 1 else 0) := by
  rw [Finset.filter_erase]
  by_cases htest : test future = true
  · rw [if_pos htest, Finset.card_erase_of_mem (Finset.mem_filter.mpr ⟨hmem, htest⟩)]
  · have hout : future ∉ events.filter (test · = true) := fun h => htest (Finset.mem_filter.mp h).2
    rw [if_neg htest, Finset.erase_eq_of_notMem hout]
    rfl

theorem card_filter_insert {events : Finset Future} (hnew : future ∉ events)
    (test : Future → Bool) : ((insert future events).filter (test · = true)).card
      = (events.filter (test · = true)).card + (if test future then 1 else 0) := by
  rw [Finset.filter_insert]
  by_cases htest : test future = true
  · rw [if_pos htest, if_pos htest,
      Finset.card_insert_of_notMem (fun h => hnew (Finset.mem_filter.mp h).1)]
  · rw [if_neg htest, if_neg htest]
    rfl

variable {before after : Operation}

theorem mem_events_of_view {other : Nat}
    (hview : after.view other = before.view other) (hindex : future.index = other) :
    future ∈ after.events ↔ future ∈ before.events := by
  subst hindex
  simp only [Operation.view, View.mk.injEq, decide_eq_decide] at hview
  cases future with
  | start index => exact hview.2.2.2.1
  | image index => exact hview.2.2.2.2.1
  | abort index => exact hview.2.2.2.2.2

/-- What one event changes: its own member, and nothing of the others. -/
structure Shifted (before after : Operation) (index : Nat) (member : CameraMemberResult) : Prop where
  members : after.report.members = before.report.members.set index member
  others : ∀ other, other ≠ index → after.view other = before.view other
  own : Fits member (after.view index)
  starts : after.startsPending = (after.events.filter (·.isStart = true)).card
  aborts : after.abortsPending = (after.events.filter (·.isAbort = true)).card
  abortRequested : after.abortRequested = before.abortRequested
  config : after.config = before.config
  stop : after.stop = before.stop
  failure : before.failure = true → after.failure = true
  phase : after.report.phase = before.report.phase
  acknowledged : member.phase = .exposing → .acknowledged index ∈ after.log
  grown : ∃ effects, after.log = before.log ++ effects ∧ startsIn effects = []
    ∧ abortsIn effects = [] ∧ publishedIn effects = []

theorem aborting_mono (hconfig : after.config = before.config)
    (hstop : after.stop = before.stop) (hfailure : before.failure = true → after.failure = true)
    (haborting : before.aborting = true) : after.aborting = true := by
  unfold Operation.aborting at haborting ⊢
  rw [hconfig, hstop]
  simp only [Bool.or_eq_true, Bool.and_eq_true] at haborting ⊢
  exact haborting.imp (fun h => ⟨hfailure h.1, h.2⟩) id

theorem getElem?_set_cases {members : List CameraMemberResult} {index other : Nat}
    {member found : CameraMemberResult} (hindex : index < members.length)
    (hfound : (members.set index member)[other]? = some found) :
    (other = index ∧ found = member) ∨ (other ≠ index ∧ members[other]? = some found) := by
  by_cases hother : other = index
  · subst hother
    rw [List.getElem?_set_self hindex] at hfound
    exact .inl ⟨rfl, (Option.some.inj hfound).symm⟩
  · rw [List.getElem?_set_ne (fun h => hother h.symm)] at hfound
    exact .inr ⟨hother, hfound⟩

theorem Loop.shifted {index : Nat} {member : CameraMemberResult}
    (h : Loop before) (hshift : Shifted before after index member)
    (hindex : index < before.report.members.length) : Loop after := by
  obtain ⟨effects, hlog, hstarts, haborts, hpublished⟩ := hshift.grown
  have hstartsIn : startsIn after.log = startsIn before.log := by
    rw [hlog, startsIn, List.filterMap_append]
    exact (congrArg _ hstarts).trans (List.append_nil _)
  have habortsIn : abortsIn after.log = abortsIn before.log := by
    rw [hlog, abortsIn, List.filterMap_append]
    exact (congrArg _ haborts).trans (List.append_nil _)
  have hpublishedIn : publishedIn after.log = publishedIn before.log := by
    rw [hlog, publishedIn, List.filterMap_append]
    exact (congrArg _ hpublished).trans (List.append_nil _)
  have hmembers : ∀ other found, after.report.members[other]? = some found →
      (other = index ∧ found = member)
        ∨ (other ≠ index ∧ before.report.members[other]? = some found) := by
    rw [hshift.members]
    exact fun other found hfound => getElem?_set_cases hindex hfound
  exact { hshift with
    fits := by
      intro other found hfound
      rcases hmembers other found hfound with ⟨rfl, rfl⟩ | ⟨hother, hold⟩
      · exact hshift.own
      · rw [hshift.others other hother]
        exact h.fits other found hold
    bounded := by
      intro future hfuture
      rw [hshift.members, List.length_set]
      by_cases hother : future.index = index
      · rw [hother]
        exact hindex
      · exact h.bounded future ((mem_events_of_view (hshift.others _ hother) rfl).mp hfuture)
    requested := by
      intro other hrequested
      rw [hshift.abortRequested] at hrequested
      exact aborting_mono hshift.config hshift.stop hshift.failure (h.requested other hrequested)
    stop := by
      rw [hshift.stop]
      exact h.stop
    acknowledged := by
      intro other found hfound hexposing
      rcases hmembers other found hfound with ⟨rfl, rfl⟩ | ⟨-, hold⟩
      · exact hshift.acknowledged hexposing
      · rw [hlog]
        exact List.mem_append_left _ (h.acknowledged other found hold hexposing)
    dispatched := hstartsIn ▸ h.dispatched
    abortedOnce := habortsIn ▸ h.abortedOnce
    abortRequested := by
      rw [habortsIn, hshift.abortRequested]
      exact h.abortRequested
    ordered := by
      rw [habortsIn, hlog]
      exact fun other hmem => (h.ordered other hmem).append effects
    capturing := hshift.phase.trans h.capturing
    unfinished := by
      intro report hmem
      rw [hpublishedIn] at hmem
      exact h.unfinished report hmem }

theorem modify_eq_set {members : List CameraMemberResult} {index : Nat} {member : CameraMemberResult}
    (hmember : members[index]? = some member) (change : CameraMemberResult → CameraMemberResult) :
    members.modify index change = members.set index (change member) := by
  rw [List.modify_eq_set_getElem?, hmember]
  rfl

theorem view_erase {operation : Operation} {other : Nat} (hother : other ≠ future.index) :
    ({ operation with events := operation.events.erase future } : Operation).view other
      = operation.view other := by
  cases future <;> simp_all [Operation.view, Future.index]

section

/-! ## Events of a member -/

variable {operation : Operation} {index : Nat} {member : CameraMemberResult}

theorem fail_phase (member : CameraMemberResult) (error : SourceError) :
    (member.fail error).phase = .uncertain ∨ (member.fail error).phase = .failed := by
  unfold CameraMemberResult.fail
  dsimp only
  split
  · exact .inl rfl
  · exact .inr rfl

theorem Fits.starting {view : View} (h : Fits member view) (hstarting : view.starting = true) :
    view = ⟨false, false, none, true, false, false⟩ := by
  cases hphase : member.phase <;> simp_all [Fits]

theorem Fits.imaging {view : View} (h : Fits member view) (himaging : view.imaging = true) :
    view.pinned = none ∧ view.starting = false
      ∧ (member.phase = .aborting ∧ view.requested = true ∧ view.aborting = true
        ∨ member.phase = .aborted ∧ view.requested = true ∧ view.aborting = false
        ∨ ¬(member.phase = .aborting ∨ member.phase = .aborted) ∧ view.aborting = false) := by
  cases hphase : member.phase <;> simp_all [Fits]

theorem Fits.aborting {view : View} (h : Fits member view) (haborting : view.aborting = true) :
    member.phase = .complete ∨ member.phase = .aborting ∧ view.requested = true
      ∧ view.pinned = none ∧ view.starting = false ∧ view.pending = view.imaging := by
  cases hphase : member.phase <;> simp_all [Fits]

structure Same (before after : Operation) : Prop where
  abortRequested : after.abortRequested = before.abortRequested
  config : after.config = before.config
  stop : after.stop = before.stop
  phase : after.report.phase = before.report.phase
  log : after.log = before.log
  failure : before.failure = true → after.failure = true

theorem answered_shifted (h : Loop operation) {future : Future} (hmem : future ∈ operation.events)
    {after : Operation} {member' : CameraMemberResult} (hsame : Same operation after)
    (hevents : after.events = operation.events.erase future)
    (hmembers : after.report.members = operation.report.members.set future.index member')
    (hframe : ∀ other, other ≠ future.index →
      after.pendingImages other = operation.pendingImages other
        ∧ after.images other = operation.images other)
    (hstarts : after.startsPending = operation.startsPending - (if future.isStart then 1 else 0))
    (haborts : after.abortsPending = operation.abortsPending - (if future.isAbort then 1 else 0))
    (hexposing : member'.phase ≠ .exposing) (hown : Fits member' (after.view future.index)) :
    Shifted operation after future.index member' := { hsame with
  members := hmembers
  others := by
    intro other hother
    obtain ⟨hpending, hpinned⟩ := hframe other hother
    have herase : ({ operation with events := operation.events.erase future } : Operation).view
        other = operation.view other := view_erase hother
    simp only [Operation.view] at herase ⊢
    rw [hevents, hsame.abortRequested, hpending, hpinned]
    exact herase
  own := hown
  starts := by rw [hevents, card_filter_erase hmem, hstarts, h.starts]
  aborts := by rw [hevents, card_filter_erase hmem, haborts, h.aborts]
  acknowledged hphase := absurd hphase hexposing
  grown := ⟨[], by rw [hsame.log, List.append_nil], rfl, rfl, rfl⟩ }

theorem set_self {members : List CameraMemberResult} (hmember : members[index]? = some member) :
    members = members.set index member := by
  obtain ⟨hlength, rfl⟩ := List.getElem?_eq_some_iff.mp hmember
  exact (List.set_getElem_self hlength).symm

theorem handleStart_shifted (h : Loop operation)
    (hmember : operation.report.members[index]? = some member)
    (hmem : Future.start index ∈ operation.events)
    (receipt : Except SourceError CameraStartReceipt) :
    ∃ member', Shifted operation ({ operation with
      events := operation.events.erase (.start index) }.handleStart index member receipt)
      index member' := by
  have hview := (h.fits index member hmember).starting (decide_eq_true hmem)
  simp only [Operation.view, View.mk.injEq, decide_eq_true_eq, decide_eq_false_iff_not] at hview
  obtain ⟨hrequested, hpending, hpinned, -, himaging, haborting⟩ := hview
  unfold Operation.handleStart
  dsimp only
  split
  next hacknowledges =>
    refine ⟨{ stamp operation.origin receipt member with phase := .exposing }, ?_⟩
    have hnew : Future.image index ∉ operation.events.erase (.start index) := by simp [himaging]
    exact {
      members := modify_eq_set hmember _
      others := by
        intro other hother
        simp [Operation.view, setSkew, Operation.setMember, note, hother,
          Function.update]
      own := by
        simp [Fits, Operation.view, setSkew, Operation.setMember, note,
          hrequested, hpinned, haborting]
      starts := by
        rw [show (setSkew _).events = insert (Future.image index)
          (operation.events.erase (.start index)) from rfl, card_filter_insert hnew,
          card_filter_erase hmem]
        simp [setSkew, Operation.setMember, note, h.starts, Future.isStart]
      aborts := by
        rw [show (setSkew _).events = insert (Future.image index)
          (operation.events.erase (.start index)) from rfl, card_filter_insert hnew,
          card_filter_erase hmem]
        simp [setSkew, Operation.setMember, note, h.aborts, Future.isAbort]
      abortRequested := rfl
      config := rfl
      stop := rfl
      failure := id
      phase := rfl
      acknowledged := fun _ => List.mem_append_right _ List.mem_cons_self
      grown := ⟨[.acknowledged index], rfl, rfl, rfl, rfl⟩ }
  next hrefused =>
    have hphase := fail_phase (stamp operation.origin receipt member)
      (Operation.startError receipt)
    refine ⟨_, answered_shifted h hmem ⟨rfl, rfl, rfl, rfl, rfl, fun _ => rfl⟩ rfl
      (modify_eq_set hmember _) (fun _ _ => ⟨rfl, rfl⟩) rfl rfl ?_ ?_⟩
    · rcases hphase with hphase | hphase <;> rw [hphase] <;> decide
    · rcases hphase with hphase | hphase <;>
        simp [Fits, hphase, Operation.view, setSkew, Operation.setMember, Future.index,
          hpinned, haborting, hpending, himaging]

theorem lost_shifted (h : Loop operation) (hmember : operation.report.members[index]? = some member)
    (hmem : Future.image index ∈ operation.events) (error : SourceError) :
    let erased : Operation := { operation with
      events := operation.events.erase (.image index)
      pendingImages := Function.update operation.pendingImages index false }
    ∃ member', Shifted operation
      (if member.phase = .aborting ∨ member.phase = .aborted then erased
       else { erased.setMember index fun member =>
          { member with phase := .uncertain, error := some error } with failure := true })
      index member' := by
  intro erased
  obtain ⟨hpinned, hstarting, hphases⟩ :=
    (h.fits index member hmember).imaging (decide_eq_true hmem)
  simp only [Operation.view, decide_eq_true_eq, decide_eq_false_iff_not] at hpinned hstarting hphases
  have hframe : ∀ other, other ≠ index →
      erased.pendingImages other = operation.pendingImages other
        ∧ erased.images other = operation.images other := by
    intro other hother
    exact ⟨Function.update_of_ne hother _ _, rfl⟩
  split
  next hended =>
    refine ⟨member, answered_shifted h hmem ⟨rfl, rfl, rfl, rfl, rfl, id⟩ rfl (set_self hmember)
      hframe rfl rfl ?_ ?_⟩
    · rcases hended with hphase | hphase <;> rw [hphase] <;> decide
    · rcases hphases with ⟨hphase, hrequested, haborting⟩ | ⟨hphase, hrequested, haborting⟩ | ⟨hnot, -⟩
      · simp [Fits, hphase, Operation.view, erased, Future.index, hrequested, hpinned, hstarting,
          haborting]
      · simp [Fits, hphase, Operation.view, erased, Future.index, hrequested, hpinned, hstarting,
          haborting]
      · exact absurd hended hnot
  next hrunning =>
    obtain ⟨-, haborting⟩ := (hphases.resolve_left fun h => hrunning (.inl h.1)).resolve_left
      fun h => hrunning (.inr h.1)
    refine ⟨_, answered_shifted h hmem ⟨rfl, rfl, rfl, rfl, rfl, fun _ => rfl⟩ rfl
      (modify_eq_set hmember _) hframe rfl rfl (by simp) ?_⟩
    simp [Fits, Operation.view, Operation.setMember, erased, Future.index, hpinned, hstarting,
      haborting]

theorem handleImage_shifted (h : Loop operation)
    (hmember : operation.report.members[index]? = some member)
    (hmem : Future.image index ∈ operation.events) (result : Except SourceError CapturedImage) :
    ∃ member', Shifted operation ({ operation with
      events := operation.events.erase (.image index) }.handleImage index member result)
      index member' := by
  unfold Operation.handleImage
  dsimp only
  cases result with
  | error error => exact lost_shifted h hmember hmem error
  | ok image =>
    dsimp only
    split
    next hmatches =>
      obtain ⟨-, hstarting, -⟩ := (h.fits index member hmember).imaging (decide_eq_true hmem)
      simp only [Operation.view, decide_eq_false_iff_not] at hstarting
      refine ⟨_, answered_shifted h hmem ⟨rfl, rfl, rfl, rfl, rfl, id⟩ rfl
        (modify_eq_set hmember _) (fun other hother => ?_) rfl rfl (by simp) ?_⟩
      · exact ⟨Function.update_of_ne hother _ _, Function.update_of_ne hother _ _⟩
      · refine ⟨⟨image, by simp [Operation.view, Future.index], hmatches⟩, ?_⟩
        simp [Operation.view, Operation.setMember, Future.index, hstarting]
    next hdiffers => exact lost_shifted h hmember hmem .uncertain

theorem handleAbort_shifted (h : Loop operation)
    (hmember : operation.report.members[index]? = some member)
    (hmem : Future.abort index ∈ operation.events) (result : Except SourceError Unit) :
    ∃ member', Shifted operation ({ operation with
      events := operation.events.erase (.abort index) }.handleAbort index member result)
      index member' := by
  have hfits := h.fits index member hmember
  unfold Operation.handleAbort
  dsimp only
  rcases hfits.aborting (decide_eq_true hmem) with hcomplete | hrunning
  · -- The image came first: the member stays complete.
    rw [Fits, hcomplete] at hfits
    simp only [Operation.view, decide_eq_false_iff_not] at hfits
    obtain ⟨hpinned, hstarting, himaging, hpending⟩ := hfits
    cases result with
    | ok =>
      rw [if_pos hcomplete]
      refine ⟨member, answered_shifted h hmem ⟨rfl, rfl, rfl, rfl, rfl, id⟩ rfl
        (set_self hmember) (fun _ _ => ⟨rfl, rfl⟩) rfl rfl (by rw [hcomplete]; decide) ?_⟩
      simp only [Fits, hcomplete, Operation.view, Future.index]
      exact ⟨hpinned, by simp [hstarting], by simp [himaging], hpending⟩
    | error error =>
      refine ⟨_, answered_shifted h hmem ⟨rfl, rfl, rfl, rfl, rfl, id⟩ rfl
        (modify_eq_set hmember _) (fun _ _ => ⟨rfl, rfl⟩) rfl rfl (by simp [hcomplete]) ?_⟩
      simp only [Fits, hcomplete, if_true, Operation.view, Operation.setMember, Future.index]
      exact ⟨hpinned, by simp [hstarting], by simp [himaging], hpending⟩
  · obtain ⟨hphase, hrequested, hpinned, hstarting, hpending⟩ := hrunning
    simp only [Operation.view, decide_eq_false_iff_not] at hrequested hpinned hstarting hpending
    have hincomplete : member.phase ≠ .complete := by rw [hphase]; decide
    cases result with
    | ok =>
      rw [if_neg hincomplete]
      refine ⟨_, answered_shifted h hmem ⟨rfl, rfl, rfl, rfl, rfl, id⟩ rfl
        (modify_eq_set hmember _) (fun other hother => ?_) rfl rfl (by simp) ?_⟩
      · exact ⟨Function.update_of_ne hother _ _, rfl⟩
      · simp [Fits, Operation.view, Operation.setMember, Future.index, hrequested, hpinned, hstarting]
    | error error =>
      refine ⟨_, answered_shifted h hmem ⟨rfl, rfl, rfl, rfl, rfl, id⟩ rfl
        (modify_eq_set hmember _) (fun _ _ => ⟨rfl, rfl⟩) rfl rfl (by simp [hincomplete]) ?_⟩
      simp [Fits, hincomplete, Operation.view, Operation.setMember, Future.index, hpinned,
        hstarting, hpending]

theorem Loop.emit (h : Loop operation) : Loop operation.emit := { h with
  acknowledged other found hfound hexposing :=
    List.mem_append_left _ (h.acknowledged other found hfound hexposing)
  dispatched := by simpa [Operation.emit, startsIn_concat, Effect.dispatched?] using h.dispatched
  abortedOnce := by simpa [Operation.emit, abortsIn_concat, Effect.aborted?] using h.abortedOnce
  abortRequested := by
    simpa [Operation.emit, abortsIn_concat, Effect.aborted?] using h.abortRequested
  ordered other hmem := by
    refine (h.ordered other ?_).append _
    simpa [Operation.emit, abortsIn_concat, Effect.aborted?] using hmem
  unfinished := by
    intro report hmem
    simp only [Operation.emit, publishedIn_concat, Effect.published?, Option.toList_some,
      List.mem_append, List.mem_singleton] at hmem
    rcases hmem with hold | rfl
    · exact h.unfinished report hold
    · rw [h.capturing]
      rfl }

theorem Loop.staged {after : Operation} (h : Loop operation)
    (hevents : after.events = operation.events) (hreport : after.report = operation.report)
    (hview : after.view = operation.view) (hcounts : after.startsPending = operation.startsPending
      ∧ after.abortsPending = operation.abortsPending)
    (haborting : operation.aborting = true → after.aborting = true)
    (hstop : ∀ phase ∈ after.stop, phase = .cancelled ∨ phase = .deadline)
    (hrequested : after.abortRequested = operation.abortRequested)
    (hlog : after.log = operation.log) : Loop after := by
  obtain ⟨hfits, hbounded, hstarts, haborts, hasked, -, hacknowledged, hdispatched, honce,
    habortRequested, hordered, hcapturing, hunfinished⟩ := h
  refine ⟨?_, ?_, ?_, ?_, ?_, hstop, ?_, ?_, ?_, ?_, ?_, ?_, ?_⟩
  · rw [hreport, hview]
    exact hfits
  · rw [hreport, hevents]
    exact hbounded
  · rw [hcounts.1, hevents]
    exact hstarts
  · rw [hcounts.2, hevents]
    exact haborts
  · rw [hrequested]
    exact fun other hother => haborting (hasked other hother)
  · rw [hreport, hlog]
    exact hacknowledged
  · rw [hlog]
    exact hdispatched
  · rw [hlog]
    exact honce
  · rw [hlog, hrequested]
    exact habortRequested
  · rw [hlog]
    exact hordered
  · rw [hreport]
    exact hcapturing
  · rw [hlog]
    exact hunfinished

theorem handle_loop (h : Loop operation) (event : Event)
    (hmem : event.future ∈ operation.events) : Loop (operation.handle event) := by
  have hindex := h.bounded event.future hmem
  unfold handle
  cases event with
  | start index receipt =>
    obtain ⟨member, hmember⟩ : ∃ member, operation.report.members[index]? = some member :=
      ⟨_, List.getElem?_eq_getElem hindex⟩
    obtain ⟨member', hshift⟩ := handleStart_shifted h hmember hmem receipt
    have hnext := (h.shifted hshift hindex).emit
    simp only [hmember, Option.elim_some]
    exact hnext.staged rfl rfl rfl ⟨rfl, rfl⟩ id hnext.stop rfl rfl
  | image index result =>
    obtain ⟨member, hmember⟩ : ∃ member, operation.report.members[index]? = some member :=
      ⟨_, List.getElem?_eq_getElem hindex⟩
    obtain ⟨member', hshift⟩ := handleImage_shifted h hmember hmem result
    have hnext := (h.shifted hshift hindex).emit
    simp only [hmember, Option.elim_some]
    exact hnext.staged rfl rfl rfl ⟨rfl, rfl⟩ id hnext.stop rfl rfl
  | abort index result =>
    obtain ⟨member, hmember⟩ : ∃ member, operation.report.members[index]? = some member :=
      ⟨_, List.getElem?_eq_getElem hindex⟩
    obtain ⟨member', hshift⟩ := handleAbort_shifted h hmember hmem result
    have hnext := (h.shifted hshift hindex).emit
    simp only [hmember, Option.elim_some]
    exact hnext.staged rfl rfl rfl ⟨rfl, rfl⟩ id hnext.stop rfl rfl

theorem requestAbort_loop (h : Loop operation) (haborting : operation.aborting = true) :
    Loop (operation.requestAbort index) := by
  unfold requestAbort
  split
  next hask =>
    simp only [Bool.and_eq_true, Option.any_eq_true, beq_iff_eq] at hask
    obtain ⟨⟨member, hmember, hphase⟩, -⟩ := hask
    have hindex : index < operation.report.members.length :=
      (List.getElem?_eq_some_iff.mp hmember).1
    have hfits := h.fits index member hmember
    simp only [Fits, hphase, Operation.view, View.mk.injEq, decide_eq_true_eq,
      decide_eq_false_iff_not] at hfits
    obtain ⟨hrequested, hpending, hpinned, hstarting, himaging, hnew⟩ := hfits
    have hmembers : ∀ other found, (operation.report.members.modify index fun member =>
          { member with phase := .aborting })[other]? = some found →
        (other = index ∧ found = { member with phase := .aborting })
          ∨ (other ≠ index ∧ operation.report.members[other]? = some found) := by
      rw [modify_eq_set hmember]
      exact fun other found hfound => getElem?_set_cases hindex hfound
    have haborts : abortsIn (operation.log ++ [.aborted index])
        = abortsIn operation.log ++ [index] := abortsIn_concat _ _
    have hfresh : index ∉ abortsIn operation.log := fun hmem => by
      simp [h.abortRequested index hmem] at hrequested
    exact { h with
      fits := by
        intro other found hfound
        rcases hmembers other found hfound with ⟨rfl, rfl⟩ | ⟨hother, hold⟩
        · simp [Fits, Operation.view, Operation.setMember, note, hpinned, hstarting,
            hpending, himaging]
        · have hkept := h.fits other found hold
          simpa [Operation.view, Operation.setMember, note, hother] using hkept
      bounded := by
        intro future hfuture
        rcases Finset.mem_insert.mp hfuture with rfl | hold
        · simpa [Operation.setMember, note, Future.index] using hindex
        · simpa [Operation.setMember, note] using h.bounded future hold
      starts := by
        rw [show Finset.filter _ _ = _ from rfl, card_filter_insert hnew]
        exact h.starts
      aborts := by
        rw [show Finset.filter _ _ = _ from rfl, card_filter_insert hnew]
        exact congrArg (· + 1) h.aborts
      requested := fun _ _ => haborting
      acknowledged := by
        intro other found hfound hexposing
        rcases hmembers other found hfound with ⟨rfl, rfl⟩ | ⟨-, hold⟩
        · cases hexposing
        · exact List.mem_append_left _ (h.acknowledged other found hold hexposing)
      dispatched := by
        simpa [Operation.setMember, note, startsIn_concat, Effect.dispatched?]
          using h.dispatched
      abortedOnce := by
        show (abortsIn (operation.log ++ [.aborted index])).Nodup
        rw [haborts]
        exact h.abortedOnce.append (List.nodup_singleton index) (List.disjoint_singleton.mpr hfresh)
      abortRequested := by
        show ∀ other ∈ abortsIn (operation.log ++ [.aborted index]),
          Function.update operation.abortRequested index true other = true
        rw [haborts]
        intro other hmem
        by_cases hother : other = index
        · simp [hother]
        · rw [Function.update_of_ne hother]
          refine h.abortRequested other ((List.mem_append.mp hmem).resolve_right ?_)
          simpa using hother
      ordered := by
        show ∀ other ∈ abortsIn (operation.log ++ [.aborted index]),
          Followed (operation.log ++ [.aborted index]) (.acknowledged other) (.aborted other)
        rw [haborts]
        intro other hmem
        rcases List.mem_append.mp hmem with hold | hlast
        · exact (h.ordered other hold).append _
        · rw [List.mem_singleton.mp hlast]
          exact followed_concat (h.acknowledged index member hmember hphase) _
      unfinished := by
        intro report hmem
        refine h.unfinished report ?_
        simpa [Operation.setMember, note, publishedIn_concat, Effect.published?] using hmem }
  next => exact h

theorem requestAbort_keeps (operation : Operation) (index : Nat) :
    (operation.requestAbort index).aborting = operation.aborting
      ∧ (operation.requestAbort index).report.members.length = operation.report.members.length
      ∧ ∀ other, other ≠ index →
        (operation.requestAbort index).report.members[other]? = operation.report.members[other]? := by
  unfold requestAbort
  split
  · refine ⟨rfl, List.length_modify _ _ _, fun other hother => ?_⟩
    exact List.getElem?_modify_ne _ _ (fun heq => hother heq.symm)
  · exact ⟨rfl, rfl, fun _ _ => rfl⟩

theorem requestAbort_asked (h : Loop operation) {found : CameraMemberResult}
    (hfound : (operation.requestAbort index).report.members[index]? = some found) :
    found.phase ≠ .exposing := by
  unfold requestAbort at hfound
  split at hfound
  next hask =>
    simp only [Operation.setMember, note, List.getElem?_modify_eq, Option.map_eq_map,
      Option.map_eq_some_iff] at hfound
    obtain ⟨prior, -, rfl⟩ := hfound
    simp
  next hask =>
    intro hexposing
    have hfits := h.fits index found hfound
    simp only [Fits, hexposing, Operation.view, View.mk.injEq] at hfits
    exact hask (by simp [hfound, hexposing, hfits.1])

theorem requestAborts_upto (h : Loop operation) (haborting : operation.aborting = true)
    (count : Nat) : Loop ((List.range count).foldl requestAbort operation)
      ∧ ((List.range count).foldl requestAbort operation).aborting = true
      ∧ ((List.range count).foldl requestAbort operation).report.members.length
        = operation.report.members.length ∧ ∀ index < count, ∀ member,
        ((List.range count).foldl requestAbort operation).report.members[index]?
          = some member → member.phase ≠ .exposing := by
  induction count with
  | zero => exact ⟨h, haborting, rfl, fun index hindex => absurd hindex (Nat.not_lt_zero index)⟩
  | succ count ih =>
    obtain ⟨hloop, hasking, hlength, hasked⟩ := ih
    rw [List.range_succ, List.foldl_append, List.foldl_cons, List.foldl_nil]
    obtain ⟨hpolicy, hlength', hothers⟩ := requestAbort_keeps
      ((List.range count).foldl requestAbort operation) count
    refine ⟨requestAbort_loop hloop hasking, hpolicy.trans hasking,
      hlength'.trans hlength, fun index hindex member hmember => ?_⟩
    by_cases heq : index = count
    · subst heq
      exact requestAbort_asked hloop hmember
    · rw [hothers index heq] at hmember
      exact hasked index (by omega) member hmember

def Obeyed (operation : Operation) : Prop :=
  operation.aborting = true → ∀ member ∈ operation.report.members, member.phase ≠ .exposing

theorem requestAborts_loop (h : Loop operation) (hstatus : operation.status = operation.report) :
    Loop operation.requestAborts ∧ Obeyed operation.requestAborts
      ∧ operation.requestAborts.status = operation.requestAborts.report := by
  unfold Operation.requestAborts
  split
  next haborting =>
    obtain ⟨hloop, hasking, hlength, hasked⟩ :=
      requestAborts_upto h haborting operation.report.members.length
    refine ⟨hloop.emit, fun _ member hmember => ?_, rfl⟩
    obtain ⟨index, hindex, hget⟩ := List.mem_iff_getElem.mp hmember
    exact hasked index (hlength ▸ hindex) member (List.getElem?_eq_some_iff.mpr ⟨hindex, hget⟩)
  next hpassive => exact ⟨h, (fun haborting => absurd haborting hpassive), hstatus⟩

end

section

/-! ## Dispatch -/

variable {operation : Operation}

def idlePhase : CameraMemberPhase → Bool
  | .notStarted => true
  | .prepared => true
  | .rejected => true
  | .failed => true
  | .uncertain => true
  | _ => false

/-- Nothing but the reports and the log has changed since the operation began. -/
structure Untouched (operation : Operation) : Prop where
  running : operation.status.phase.terminal = false
  watched : ∀ member ∈ operation.status.members, idlePhase member.phase = true
  images : ∀ index, operation.images index = none
  pending : ∀ index, operation.pendingImages index = false
  requested : ∀ index, operation.abortRequested index = false
  aborts : operation.abortsPending = 0
  stop : operation.stop = none
  abortsIn : abortsIn operation.log = []
  unfinished : Unfinished operation.log

structure Idle (operation : Operation) : Prop extends Untouched operation where
  members : ∀ member ∈ operation.report.members, idlePhase member.phase = true
  events : operation.events = ∅
  startsIn : startsIn operation.log = []

theorem Untouched.published (h : Untouched operation)
    (hmembers : ∀ member ∈ operation.report.members, idlePhase member.phase = true)
    (hphase : operation.report.phase.terminal = false) : Untouched operation.emit := { h with
  running := hphase
  watched := hmembers
  abortsIn := by simpa [Operation.emit, abortsIn_concat, Effect.aborted?] using h.abortsIn
  unfinished := by
    intro report hmem
    simp only [Operation.emit, publishedIn_concat, Effect.published?, Option.toList_some,
      List.mem_append, List.mem_singleton] at hmem
    rcases hmem with hold | rfl
    · exact h.unfinished report hold
    · exact hphase }

theorem Idle.emit (h : Idle operation) (hphase : operation.report.phase.terminal = false) :
    Idle operation.emit := { h with
  toUntouched := h.toUntouched.published h.members hphase
  startsIn := by simpa [Operation.emit, startsIn_concat, Effect.dispatched?] using h.startsIn }

theorem Idle.setMember (h : Idle operation) (index : Nat)
    {change : CameraMemberResult → CameraMemberResult}
    (hidle : ∀ member, idlePhase member.phase = true → idlePhase (change member).phase = true) :
    Idle (operation.setMember index change) := { h with
  members := by
    intro member hmember
    obtain ⟨other, hother⟩ := List.mem_iff_getElem?.mp hmember
    simp only [Operation.setMember, List.getElem?_modify, Option.map_eq_map,
      Option.map_eq_some_iff] at hother
    obtain ⟨prior, hprior, rfl⟩ := hother
    have hbefore := h.members prior (List.mem_of_getElem? hprior)
    split
    · exact hidle prior hbefore
    · exact hbefore }

structure Launching (operation : Operation) (count : Nat) : Prop extends Untouched operation where
  started : ∀ index member, index < count → operation.report.members[index]? = some member →
    member.phase = .starting
  events : operation.events = (Finset.range count).image Future.start
  startsIn : startsIn operation.log = List.range count

theorem Launching.dispatchMember {count : Nat} (h : Launching operation count) (acquisition : Uuid) :
    Launching (operation.dispatchMember (acquisition, count)) (count + 1) := { h with
  abortsIn := by
    simpa [Operation.dispatchMember, Operation.setMember, note, abortsIn_concat,
      Effect.aborted?] using h.abortsIn
  unfinished := by
    intro report hmem
    refine h.unfinished report ?_
    simpa [Operation.dispatchMember, Operation.setMember, note, publishedIn_concat,
      Effect.published?] using hmem
  started := by
    intro index member hindex hmember
    simp only [Operation.dispatchMember, Operation.setMember, note, List.getElem?_modify,
      Option.map_eq_map, Option.map_eq_some_iff] at hmember
    obtain ⟨prior, hprior, rfl⟩ := hmember
    split
    · rfl
    next hother => exact h.started index prior (by omega) hprior
  events := by
    rw [Finset.range_add_one, Finset.image_insert, ← h.events]
    rfl
  startsIn := by
    rw [List.range_succ, ← h.startsIn]
    exact startsIn_concat _ _ }

theorem Launching.foldl {count : Nat} (h : Launching operation count) (prepared : List Uuid) :
    Launching ((prepared.zipIdx count).foldl Operation.dispatchMember operation)
        (count + prepared.length)
      ∧ ((prepared.zipIdx count).foldl Operation.dispatchMember operation).report.members.length
        = operation.report.members.length := by
  induction prepared generalizing count operation with
  | nil => exact ⟨h, rfl⟩
  | cons acquisition rest ih =>
    obtain ⟨hlast, hlength⟩ := ih (h.dispatchMember acquisition)
    rw [List.zipIdx_cons, List.foldl_cons, List.length_cons]
    refine ⟨?_, hlength.trans (List.length_modify _ _ _)⟩
    rw [Nat.add_comm rest.length 1, ← Nat.add_assoc]
    exact hlast

theorem Launching.loop (h : Launching operation operation.report.members.length) (stage : Stage) :
    Loop { (operation.setPhase .capturing).emit with
      startsPending := operation.report.members.length
      stage := stage } where
  fits index member hmember := by
    have hindex : index < operation.report.members.length :=
      (List.getElem?_eq_some_iff.mp hmember).1
    simp [Fits, h.started index member hindex hmember, Operation.view, Operation.emit,
      Operation.setPhase, h.requested, h.pending, h.images, h.events, hindex]
  bounded future hfuture := by
    simp only [Operation.emit, Operation.setPhase, h.events, Finset.mem_image,
      Finset.mem_range] at hfuture
    obtain ⟨index, hindex, rfl⟩ := hfuture
    exact hindex
  starts := by
    have hall : ((Finset.range operation.report.members.length).image Future.start).filter
        (·.isStart = true) = (Finset.range operation.report.members.length).image Future.start := by
      refine Finset.filter_true_of_mem fun future hfuture => ?_
      obtain ⟨index, -, rfl⟩ := Finset.mem_image.mp hfuture
      rfl
    simp only [Operation.emit, Operation.setPhase, h.events, hall]
    rw [Finset.card_image_of_injective _ (fun a b hab => by injection hab), Finset.card_range]
  aborts := by
    simp only [Operation.emit, Operation.setPhase, h.events, h.aborts]
    symm
    refine Finset.card_eq_zero.mpr (Finset.filter_false_of_mem fun future hfuture => ?_)
    obtain ⟨index, -, rfl⟩ := Finset.mem_image.mp hfuture
    simp [Future.isAbort]
  requested index hrequested := by simp [Operation.emit, Operation.setPhase, h.requested] at hrequested
  stop := by simp [Operation.emit, Operation.setPhase, h.stop]
  acknowledged index member hmember hexposing := by
    have hindex : index < operation.report.members.length :=
      (List.getElem?_eq_some_iff.mp hmember).1
    rw [h.started index member hindex hmember] at hexposing
    cases hexposing
  dispatched := by
    simp [Operation.emit, Operation.setPhase, startsIn_concat, Effect.dispatched?, h.startsIn,
      List.nodup_range]
  abortedOnce := by
    simp [Operation.emit, Operation.setPhase, abortsIn_concat, Effect.aborted?, h.abortsIn]
  abortRequested := by
    simp [Operation.emit, Operation.setPhase, abortsIn_concat, Effect.aborted?, h.abortsIn]
  ordered := by
    simp [Operation.emit, Operation.setPhase, abortsIn_concat, Effect.aborted?, h.abortsIn]
  capturing := rfl
  unfinished := by
    intro report hmem
    simp only [Operation.emit, Operation.setPhase, publishedIn_concat, Effect.published?,
      Option.toList_some, List.mem_append, List.mem_singleton] at hmem
    rcases hmem with hold | rfl
    · exact h.unfinished report hold
    · rfl

theorem dispatch_loop (h : Idle operation)
    (hprepared : operation.prepared.length = operation.report.members.length) :
    Loop operation.dispatch ∧ operation.dispatch.status = operation.dispatch.report := by
  have hfirst : Launching operation 0 :=
    ⟨h.toUntouched, fun index member hindex => absurd hindex (Nat.not_lt_zero index), h.events,
      h.startsIn⟩
  obtain ⟨hlast, hlength⟩ := hfirst.foldl operation.prepared
  rw [Nat.zero_add, hprepared, ← hlength] at hlast
  exact ⟨hlast.loop .head, rfl⟩

end

section

/-! ## Policies -/

variable {operation : Operation}

def Pinned (operation : Operation) (index : Nat) (member : CameraMemberResult) : Prop :=
  ∃ image, operation.images index = some image ∧ image.identity.source = member.source
    ∧ image.identity.generation = member.generation
    ∧ some image.identity.acquisition = member.acquisition

/-- The policy in force at the end asks that nothing started keeps running. -/
def AbortApplies (operation : Operation) (report : CameraGroupResult) : Prop :=
  (operation.failure = true ∧ operation.config.failurePolicy = .abortStarted)
    ∨ ((report.phase = .cancelled ∨ report.phase = .deadline)
      ∧ operation.config.cancellationPolicy = .abortStarted)

structure Ended (operation : Operation) (report : CameraGroupResult) : Prop where
  settled : ∀ member ∈ report.members, member.phase ≠ .starting ∧ member.phase ≠ .aborting
  pinned : ∀ index member, report.members[index]? = some member →
    (member.phase = .complete ↔ Pinned operation index member)
  complete : report.phase = .complete → ∀ member ∈ report.members, member.phase = .complete
  obeyed : AbortApplies operation report → ∀ member ∈ report.members, member.phase ≠ .exposing

variable {member : CameraMemberResult}

theorem matches_iff {image : CapturedImage} :
    member.matches_ image = true ↔ image.identity.source = member.source
      ∧ image.identity.generation = member.generation
      ∧ some image.identity.acquisition = member.acquisition := by
  simp [CameraMemberResult.matches_, and_assoc]

variable {index : Nat}

theorem Fits.pinned (h : Fits member (operation.view index)) :
    member.phase = .complete ↔ Pinned operation index member := by
  constructor
  · intro hcomplete
    simp only [Fits, hcomplete] at h
    obtain ⟨⟨image, hpinned, hmatches⟩, -⟩ := h
    exact ⟨image, hpinned, matches_iff.mp hmatches⟩
  · intro hpinned
    obtain ⟨image, hpinned, -⟩ := hpinned
    have hpinned : (operation.view index).pinned = some image := hpinned
    cases hphase : member.phase <;> simp_all [Fits]

theorem fits_starting_iff (h : Fits member (operation.view index)) :
    member.phase = .starting ↔ .start index ∈ operation.events := by
  cases hphase : member.phase <;> simp_all [Fits, Operation.view]

theorem fits_aborting_mem
    (h : Fits member (operation.view index)) (haborting : member.phase = .aborting) :
    .abort index ∈ operation.events := by
  simp_all [Fits, Operation.view]

structure Recorded (log : List Effect) : Prop where
  dispatched : (startsIn log).Nodup
  abortedOnce : (abortsIn log).Nodup
  ordered : ∀ index ∈ abortsIn log, Followed log (.acknowledged index) (.aborted index)

theorem Recorded.published {log : List Effect} (h : Recorded log) (report : CameraGroupResult) :
    Recorded (log ++ [.published report]) where
  dispatched := by simpa [startsIn_concat, Effect.dispatched?] using h.dispatched
  abortedOnce := by simpa [abortsIn_concat, Effect.aborted?] using h.abortedOnce
  ordered index hmem := by
    refine (h.ordered index ?_).append _
    simpa [abortsIn_concat, Effect.aborted?] using hmem

theorem Loop.recorded (h : Loop operation) : Recorded operation.log :=
  { h with }

theorem Idle.recorded (h : Idle operation) : Recorded operation.log where
  dispatched := by simp [h.startsIn]
  abortedOnce := by simp [h.abortsIn]
  ordered := by simp [h.abortsIn]

/-! ## The end of a loop -/

/-- A loop that ends: no start and no abort is outstanding, and the policy is kept. -/
structure Over (operation : Operation) : Prop extends Loop operation where
  settled : ∀ member ∈ operation.report.members, member.phase ≠ .starting ∧ member.phase ≠ .aborting
  obeyed : Obeyed operation
  unstopped : operation.stop = none →
    ∀ member ∈ operation.report.members, member.phase ≠ .exposing

def Standing (operation : Operation) : Stage → Prop
  | .preparing index =>
    Idle operation ∧ operation.report.phase.terminal = false ∧ operation.prepared.length = index
      ∧ index < operation.report.members.length
  | .rechecking _ =>
    Idle operation ∧ operation.report.phase.terminal = false
      ∧ operation.prepared.length = operation.report.members.length
  | .checked =>
    Idle operation ∧ operation.report.phase.terminal = false
      ∧ operation.prepared.length = operation.report.members.length
  | .releasing _ =>
    Idle operation ∧ operation.report.phase.terminal = true ∧ operation.report.phase ≠ .complete
  | .head => Loop operation ∧ operation.status = operation.report
  | .waiting =>
    Loop operation ∧ operation.status = operation.report ∧ Obeyed operation
      ∧ operation.finishing = false
  | .draining =>
    Loop operation ∧ operation.status = operation.report ∧ Obeyed operation
      ∧ operation.finishing = true
  | .settling => Over operation ∧ operation.status = operation.report
  | .finished =>
    Recorded operation.log ∧ EndsWith operation.log operation.status
      ∧ Ended operation operation.status

def Inv (operation : Operation) : Prop :=
  Standing operation operation.stage

theorem finish_inv (hrecorded : Recorded operation.log) (hunfinished : Unfinished operation.log)
    (hterminal : operation.report.phase.terminal = true)
    (hended : Ended operation operation.report) : Inv operation.finish := by
  refine ⟨hrecorded.published _, ⟨publishedIn operation.log, ?_, hterminal, hunfinished⟩, ?_⟩
  · exact publishedIn_concat _ _
  · exact { hended with }

theorem Idle.staged (h : Idle operation) (stage : Stage) (prepared : List Uuid) :
    Idle { operation with stage := stage, prepared := prepared } :=
  ⟨{ h with }, h.members, h.events, h.startsIn⟩

theorem Idle.setPhase (h : Idle operation) (phase : CameraGroupPhase) :
    Idle (operation.setPhase phase) :=
  ⟨{ h with }, h.members, h.events, h.startsIn⟩

theorem Idle.ended (h : Idle operation) (hphase : operation.report.phase ≠ .complete) :
    Ended operation operation.report where
  settled member hmember := by
    have hidle := h.members member hmember
    cases hcase : member.phase <;> simp_all [idlePhase]
  pinned index member hmember := by
    have hidle := h.members member (List.mem_of_getElem? hmember)
    refine iff_of_false (fun hcomplete => by simp [hcomplete, idlePhase] at hidle) ?_
    intro hpinned
    obtain ⟨image, himage, -⟩ := hpinned
    simp [h.images] at himage
  complete hcomplete := absurd hcomplete hphase
  obeyed _ member hmember := by
    have hidle := h.members member hmember
    cases hcase : member.phase <;> simp_all [idlePhase]

theorem releaseFrom_inv (h : Idle operation) (hterminal : operation.report.phase.terminal = true)
    (hphase : operation.report.phase ≠ .complete) (index : Nat) :
    Inv (operation.releaseFrom index) := by
  unfold Operation.releaseFrom
  split
  · exact ⟨h.staged _ _, hterminal, hphase⟩
  · exact finish_inv h.recorded h.unfinished hterminal (h.ended hphase)

theorem retreat_inv (h : Idle operation) {phase : CameraGroupPhase} (hterminal : phase.terminal = true)
    (hphase : phase ≠ .complete) : Inv (operation.retreat phase) :=
  releaseFrom_inv (h.setPhase phase) hterminal hphase 0

theorem reject_inv (h : Idle operation) (index : Nat) (error : SourceError) :
    Inv ((operation.setMember index (CameraMemberResult.reject error)).retreat .preflightFailed) :=
  retreat_inv (h.setMember index (fun _ _ => rfl)) rfl (by decide)

theorem interruption_terminal {phase : CameraGroupPhase}
    (hphase : operation.interruption = some phase) : phase = .cancelled ∨ phase = .deadline := by
  unfold Operation.interruption at hphase
  split at hphase
  · cases hphase
    exact .inl rfl
  · split at hphase
    · cases hphase
      exact .inr rfl
    · cases hphase

theorem interruptible_inv (h : Inv operation) (hidle : Idle operation) (timer : Bool) {α : Type}
    {work : Option α} {next : α → Operation} (hnext : ∀ result, Inv (next result)) :
    Inv (operation.interruptible timer work next) := by
  unfold Operation.interruptible
  split
  · exact retreat_inv hidle rfl (by decide)
  split
  · exact retreat_inv hidle rfl (by decide)
  cases work with
  | none => exact h
  | some result => exact hnext result

theorem prepare_inv (hstanding : Standing operation (.preparing index))
    (answer : Except SourceError Uuid) : Inv (operation.prepare index answer) := by
  obtain ⟨hidle, hphase, hprepared, hindex⟩ := hstanding
  cases answer with
  | error error => exact reject_inv hidle index error
  | ok acquisition =>
    let reserved : Operation :=
      { operation with prepared := operation.prepared ++ [acquisition] }
    have hreserved : Idle reserved := hidle.staged operation.stage _
    have hmarked : Idle (reserved.setMember index fun member => { member with phase := .prepared }) :=
      hreserved.setMember index (fun _ _ => rfl)
    have hlength : (operation.report.members.modify index fun member =>
        { member with phase := .prepared }).length = operation.report.members.length :=
      List.length_modify _ _ _
    have hcount : (operation.prepared ++ [acquisition]).length = index + 1 := by
      rw [List.length_append, hprepared]
      rfl
    unfold prepare
    dsimp only
    split
    next hmore => exact ⟨(hmarked.emit hphase).staged _ _, hphase, hcount, hmore⟩
    next hlast =>
      refine ⟨(hmarked.emit hphase).staged _ _, hphase, ?_⟩
      have hlast : ¬index + 1 < operation.report.members.length := hlength ▸ hlast
      exact hcount.trans (by
        show index + 1 = (operation.report.members.modify index _).length
        rw [hlength]
        omega)

theorem recheck_inv (hstanding : Standing operation (.rechecking index))
    (answer : Except SourceError Unit) : Inv (operation.recheck index answer) := by
  obtain ⟨hidle, hphase, hprepared⟩ := hstanding
  cases answer with
  | error error => exact reject_inv hidle index error
  | ok =>
    unfold recheck
    dsimp only
    split
    · exact ⟨hidle.staged _ _, hphase, hprepared⟩
    · exact ⟨hidle.staged _ _, hphase, hprepared⟩

theorem release_inv (hstanding : Standing operation (.releasing index))
    (answer : Except SourceError Unit) : Inv (operation.release index answer) := by
  obtain ⟨hidle, hterminal, hphase⟩ := hstanding
  refine releaseFrom_inv (hidle.setMember index fun member hmember => ?_) hterminal hphase _
  cases answer with
  | error error =>
    rcases fail_phase member error with hfailed | hfailed
    · simp [hfailed, idlePhase]
    · simp [hfailed, idlePhase]
  | ok =>
    dsimp only
    split
    · rfl
    · exact hmember

theorem launch_inv (hstanding : Standing operation .checked) : Inv operation.launch := by
  obtain ⟨hidle, hphase, hprepared⟩ := hstanding
  unfold launch
  cases hinterruption : operation.interruption with
  | some phase =>
    rcases interruption_terminal hinterruption with rfl | rfl
    · exact retreat_inv hidle rfl (by decide)
    · exact retreat_inv hidle rfl (by decide)
  | none => exact dispatch_loop hidle hprepared

theorem turn_inv (hstanding : Standing operation .head) : Inv operation.turn := by
  obtain ⟨hloop, hobeyed, hstatus⟩ := requestAborts_loop hstanding.1 hstanding.2
  have hstaged : ∀ stage, Loop { operation.requestAborts with stage := stage } := fun stage =>
    hloop.staged rfl rfl rfl ⟨rfl, rfl⟩ id hloop.stop rfl rfl
  unfold turn
  dsimp only
  cases hfinishing : operation.requestAborts.finishing with
  | true => exact ⟨hstaged _, hstatus, hobeyed, hfinishing⟩
  | false => exact ⟨hstaged _, hstatus, hobeyed, hfinishing⟩

theorem handle_inv (h : Loop operation) (event : Event) (hmem : event.future ∈ operation.events) :
    Inv (operation.handle event) :=
  ⟨handle_loop h event hmem, rfl⟩

theorem none_outstanding (test : Future → Bool)
    (hcount : (operation.events.filter (test · = true)).card = 0) {future : Future}
    (htest : test future = true) : future ∉ operation.events := by
  intro hmem
  have hempty := Finset.card_eq_zero.mp hcount
  exact Finset.notMem_empty future (hempty ▸ Finset.mem_filter.mpr ⟨hmem, htest⟩)

theorem Loop.settled (h : Loop operation) (hstarts : operation.startsPending = 0)
    (haborts : operation.abortsPending = 0) :
    ∀ member ∈ operation.report.members, member.phase ≠ .starting ∧ member.phase ≠ .aborting := by
  intro member hmember
  obtain ⟨index, hindex⟩ := List.mem_iff_getElem?.mp hmember
  have hfits := h.fits index member hindex
  refine ⟨fun hstarting => ?_, fun haborting => ?_⟩
  · have hnone : Future.start index ∉ operation.events :=
      none_outstanding Future.isStart (h.starts.symm.trans hstarts) rfl
    exact hnone ((fits_starting_iff hfits).mp hstarting)
  · have hnone : Future.abort index ∉ operation.events :=
      none_outstanding Future.isAbort (h.aborts.symm.trans haborts) rfl
    exact hnone (fits_aborting_mem hfits haborting)

theorem finishing_spec (hfinishing : operation.finishing = true) :
    operation.startsPending = 0 ∧ operation.abortsPending = 0
      ∧ (operation.stop.isSome = true ∨ operation.aborting = true)
      ∧ (operation.aborting = true → operation.anyPending = true → operation.deadlineHit = true) := by
  simp only [finishing, Bool.and_eq_true, Bool.or_eq_true, decide_eq_true_eq,
    Bool.not_eq_true'] at hfinishing
  obtain ⟨⟨⟨hstarts, haborts⟩, hstopped⟩, himages⟩ := hfinishing
  refine ⟨hstarts, haborts, hstopped, fun haborting hpending => ?_⟩
  simpa [haborting, hpending] using himages

theorem Loop.settling (h : Loop operation) (stage : Stage) : Loop { operation with stage := stage } :=
  h.staged rfl rfl rfl ⟨rfl, rfl⟩ id h.stop rfl rfl

theorem drained_inv (hstanding : Standing operation .draining) :
    Inv { operation with stage := .settling } := by
  obtain ⟨hloop, hstatus, hobeyed, hfinishing⟩ := hstanding
  obtain ⟨hstarts, haborts, hstopped, -⟩ := finishing_spec hfinishing
  refine ⟨⟨hloop.settling _, hloop.settled hstarts haborts, hobeyed, fun hnone => ?_⟩, hstatus⟩
  refine hobeyed (hstopped.resolve_left fun hsome => ?_)
  have hnone : operation.stop = none := hnone
  simp [hnone] at hsome

theorem exhausted_inv (hstanding : Standing operation .waiting) (hempty : operation.events = ∅) :
    Inv { operation with stage := .settling } := by
  obtain ⟨hloop, hstatus, hobeyed, -⟩ := hstanding
  have hstarts : operation.startsPending = 0 := by simp [hloop.starts, hempty]
  have haborts : operation.abortsPending = 0 := by simp [hloop.aborts, hempty]
  refine ⟨⟨hloop.settling _, hloop.settled hstarts haborts, hobeyed, fun _ member hmember => ?_⟩,
    hstatus⟩
  obtain ⟨index, hindex⟩ := List.mem_iff_getElem?.mp hmember
  have hfits := hloop.fits index member hindex
  intro hexposing
  simp [Fits, hexposing, Operation.view, hempty] at hfits

theorem ready_mem {wake : Wake} {event : Event} (hready : operation.ready wake = some event) :
    event.future ∈ operation.events := by
  unfold ready at hready
  simpa using (Option.filter_eq_some_iff.mp hready).2

theorem drain_inv (hstanding : Standing operation .draining) (wake : Wake) :
    Inv (operation.drain wake) := by
  unfold drain
  cases hready : operation.ready wake with
  | some event => exact handle_inv hstanding.1 event (ready_mem hready)
  | none => exact drained_inv hstanding

theorem aborting_stopped {operation after : Operation} (hconfig : after.config = operation.config)
    (hfailure : after.failure = operation.failure)
    (hstop : operation.stop.isSome = true → after.stop.isSome = true)
    (haborting : operation.aborting = true) : after.aborting = true := by
  unfold Operation.aborting at haborting ⊢
  rw [hconfig, hfailure]
  simp only [Bool.or_eq_true, Bool.and_eq_true] at haborting ⊢
  exact haborting.imp id (fun h => ⟨hstop h.1, h.2⟩)

theorem wait_inv (h : Inv operation) (hstanding : Standing operation .waiting) (wake : Wake) :
    Inv (operation.wait wake) := by
  unfold wait
  split
  next hempty => exact exhausted_inv hstanding hempty
  next hoccupied =>
    cases hready : operation.ready wake with
    | some event => exact handle_inv hstanding.1 event (ready_mem hready)
    | none =>
      obtain ⟨hloop, hstatus, -⟩ := hstanding
      dsimp only
      split
      · refine ⟨hloop.staged rfl rfl rfl ⟨rfl, rfl⟩ (aborting_stopped rfl rfl fun _ => rfl) ?_ rfl
          rfl, hstatus⟩
        intro phase hphase
        cases hphase
        exact .inl rfl
      split
      · refine ⟨hloop.staged rfl rfl rfl ⟨rfl, rfl⟩ (aborting_stopped rfl rfl fun _ => rfl) ?_ rfl
          rfl, hstatus⟩
        intro phase hphase
        cases hphase
        cases hstop : operation.stop with
        | none => exact .inr rfl
        | some stopped => exact hloop.stop stopped hstop
      · exact h

theorem end_phase (hstop : ∀ phase ∈ operation.stop, phase = .cancelled ∨ phase = .deadline)
    (phase : CameraGroupPhase) :
    operation.interruption.getD (operation.stop.getD phase) = .cancelled
      ∨ operation.interruption.getD (operation.stop.getD phase) = .deadline
      ∨ operation.interruption.getD (operation.stop.getD phase) = phase ∧ operation.stop = none := by
  cases hinterruption : operation.interruption with
  | some reason => exact (interruption_terminal hinterruption).imp id .inl
  | none =>
    cases hstopped : operation.stop with
    | some reason => exact (hstop reason hstopped).imp id .inl
    | none => exact .inr (.inr ⟨rfl, rfl⟩)

theorem settle_inv (hstanding : Standing operation .settling) : Inv operation.settle := by
  obtain ⟨hover, -⟩ := hstanding
  unfold settle
  dsimp only
  generalize hmade : (if operation.report.members.all fun member => member.phase == .complete then
      CameraGroupPhase.complete else .partialFailure) = made
  have hphases := end_phase hover.stop made
  have hterminal : made.terminal = true
      ∧ (made = .complete → ∀ member ∈ operation.report.members, member.phase = .complete) := by
    subst hmade
    split
    next hall => exact ⟨rfl, fun _ member hmember => by simpa using List.all_eq_true.mp hall member hmember⟩
    next => exact ⟨rfl, (fun hcomplete => by cases hcomplete)⟩
  generalize operation.interruption.getD (operation.stop.getD made) = phase at hphases
  have hended : Ended (operation.setPhase phase) (operation.setPhase phase).report := {
    settled := hover.settled
    pinned := fun index member hmember => (hover.fits index member hmember).pinned
    complete := by
      intro hcomplete
      have hcomplete : phase = .complete := hcomplete
      rcases hphases with rfl | rfl | ⟨rfl, -⟩
      · cases hcomplete
      · cases hcomplete
      · exact hterminal.2 hcomplete
    obeyed := by
      intro happlies
      by_cases haborting : operation.aborting = true
      · exact hover.obeyed haborting
      · refine hover.unstopped ?_
        rcases happlies with ⟨hfailure, hpolicy⟩ | ⟨-, hpolicy⟩
        · have hfailure : operation.failure = true := hfailure
          have hpolicy : operation.config.failurePolicy = .abortStarted := hpolicy
          exact absurd (by simp [Operation.aborting, hfailure, hpolicy]) haborting
        · have hpolicy : operation.config.cancellationPolicy = .abortStarted := hpolicy
          cases hstop : operation.stop with
          | none => rfl
          | some reason => exact absurd (by simp [Operation.aborting, hstop, hpolicy]) haborting }
  refine finish_inv hover.recorded hover.unfinished ?_ hended
  rcases hphases with rfl | rfl | ⟨rfl, -⟩
  · rfl
  · rfl
  · exact hterminal.1

/-! ## Dropped operations -/

/-- What observers see of an operation that is not over. -/
structure Watched (operation : Operation) : Prop where
  running : operation.status.phase.terminal = false
  recorded : Recorded operation.log
  unfinished : Unfinished operation.log
  pinned : ∀ index member, operation.status.members[index]? = some member →
    (member.phase = .complete ↔ Pinned operation index member)

theorem Idle.watching (h : Idle operation) : Watched operation where
  running := h.running
  recorded := h.recorded
  unfinished := h.unfinished
  pinned index member hmember := by
    have hidle := h.watched member (List.mem_of_getElem? hmember)
    refine iff_of_false (fun hcomplete => by simp [hcomplete, idlePhase] at hidle) ?_
    intro hpinned
    obtain ⟨image, himage, -⟩ := hpinned
    simp [h.images] at himage

theorem Loop.watching (h : Loop operation) (hstatus : operation.status = operation.report) :
    Watched operation where
  running := by
    rw [hstatus, h.capturing]
    rfl
  recorded := h.recorded
  unfinished := h.unfinished
  pinned index member hmember := by
    rw [hstatus] at hmember
    exact (h.fits index member hmember).pinned

theorem Inv.watching (h : Inv operation) (hstage : operation.stage ≠ .finished) :
    Watched operation := by
  unfold Inv at h
  cases hcase : operation.stage with
  | finished => exact absurd hcase hstage
  | preparing index => rw [hcase] at h; exact h.1.watching
  | rechecking index => rw [hcase] at h; exact h.1.watching
  | checked => rw [hcase] at h; exact h.1.watching
  | releasing index => rw [hcase] at h; exact h.1.watching
  | head => rw [hcase] at h; exact h.1.watching h.2
  | waiting => rw [hcase] at h; exact h.1.watching h.2.1
  | draining => rw [hcase] at h; exact h.1.watching h.2.1
  | settling => rw [hcase] at h; exact h.1.toLoop.watching h.2

theorem abandon_spec (member : CameraMemberResult) :
    member.abandon.phase ≠ .starting ∧ member.abandon.phase ≠ .aborting
      ∧ member.abandon.phase ≠ .exposing
      ∧ (member.abandon.phase = .complete ↔ member.phase = .complete)
      ∧ member.abandon.source = member.source ∧ member.abandon.generation = member.generation
      ∧ member.abandon.acquisition = member.acquisition := by
  unfold CameraMemberResult.abandon
  cases hphase : member.phase <;> simp [hphase]

theorem drop_inv (h : Inv operation) : Inv operation.drop := by
  unfold Operation.drop
  split
  next hover => exact h
  next hrunning =>
    have hstage : operation.stage ≠ .finished := by
      intro hstage
      unfold Inv at h
      rw [hstage] at h
      obtain ⟨-, ⟨before, -, hterminal, -⟩, -⟩ := h
      exact hrunning hterminal
    have hwatched := h.watching hstage
    refine finish_inv hwatched.recorded hwatched.unfinished rfl {
      settled := ?_
      pinned := ?_
      complete := fun hcomplete => by cases hcomplete
      obeyed := ?_ }
    · intro member hmember
      obtain ⟨prior, -, rfl⟩ := List.mem_map.mp hmember
      exact ⟨(abandon_spec prior).1, (abandon_spec prior).2.1⟩
    · intro index member hmember
      simp only [List.getElem?_map, Option.map_eq_some_iff] at hmember
      obtain ⟨prior, hprior, rfl⟩ := hmember
      obtain ⟨-, -, -, hcomplete, hsource, hgeneration, hacquisition⟩ := abandon_spec prior
      rw [hcomplete, hwatched.pinned index prior hprior]
      simp only [Pinned, hsource, hgeneration, hacquisition]
    · intro _ member hmember
      obtain ⟨prior, -, rfl⟩ := List.mem_map.mp hmember
      exact (abandon_spec prior).2.2.1

end

section

/-! ## Inputs -/

variable {operation : Operation}

theorem wake_inv (h : Inv operation) (wake : Wake) : Inv (operation.wake wake) := by
  have hstanding : Standing operation operation.stage := h
  unfold Operation.wake
  cases hstage : operation.stage with
  | preparing index =>
    rw [hstage] at hstanding
    exact interruptible_inv h hstanding.1 _ fun result => prepare_inv hstanding result
  | rechecking index =>
    rw [hstage] at hstanding
    exact interruptible_inv h hstanding.1 _ fun result => recheck_inv hstanding result
  | checked =>
    rw [hstage] at hstanding
    exact launch_inv hstanding
  | releasing index =>
    rw [hstage] at hstanding
    dsimp only
    cases hanswer : wake.answer with
    | none => exact h
    | some result => exact release_inv hstanding result
  | head =>
    rw [hstage] at hstanding
    exact turn_inv hstanding
  | waiting =>
    rw [hstage] at hstanding
    exact wait_inv h hstanding wake
  | draining =>
    rw [hstage] at hstanding
    exact drain_inv hstanding wake
  | settling =>
    rw [hstage] at hstanding
    exact settle_inv hstanding
  | finished => exact h

theorem Standing.flagged {stage : Stage} (h : Standing operation stage) (cancelled expired : Bool) :
    Standing { operation with cancelled := cancelled, expired := expired } stage := by
  have hidle : Idle operation →
      Idle { operation with cancelled := cancelled, expired := expired } := fun hidle =>
    ⟨{ hidle with }, hidle.members, hidle.events, hidle.startsIn⟩
  have hloop : Loop operation →
      Loop { operation with cancelled := cancelled, expired := expired } := fun hloop =>
    hloop.staged rfl rfl rfl ⟨rfl, rfl⟩ id hloop.stop rfl rfl
  cases stage with
  | preparing index => exact ⟨hidle h.1, h.2⟩
  | rechecking index => exact ⟨hidle h.1, h.2⟩
  | checked => exact ⟨hidle h.1, h.2⟩
  | releasing index => exact ⟨hidle h.1, h.2⟩
  | head => exact ⟨hloop h.1, h.2⟩
  | waiting => exact ⟨hloop h.1, h.2⟩
  | draining => exact ⟨hloop h.1, h.2⟩
  | settling => exact ⟨⟨hloop h.1.toLoop, h.1.settled, h.1.obeyed, h.1.unstopped⟩, h.2⟩
  | finished =>
    obtain ⟨hrecorded, hends, hended⟩ := h
    exact ⟨hrecorded, hends, hended.settled, hended.pinned, hended.complete, hended.obeyed⟩

theorem apply_inv (h : Inv operation) (input : Input) : Inv (operation.apply input) := by
  cases input with
  | cancel => exact Standing.flagged h true operation.expired
  | expire => exact Standing.flagged h operation.cancelled true
  | drop => exact drop_inv h
  | wake wake => exact wake_inv h wake

theorem two_le_members (group : CameraGroup) : 2 ≤ group.config.members.length := by
  have hchecked := group.checked
  unfold CameraGroupConfig.validate at hchecked
  split at hchecked
  · cases hchecked
  next hvalid =>
    simp only [Bool.or_eq_true, not_or, Bool.not_eq_true', Bool.not_eq_false, Bool.and_eq_true,
      decide_eq_true_eq] at hvalid
    omega

theorem startOwned_inv {group : CameraGroup} {runtime busy : Bool}
    {requests : List CameraMemberRequest} {id : Uuid} {origin : Nat}
    (hstart : group.startOwned runtime busy requests id origin = .ok operation) : Inv operation := by
  have hmembers := two_le_members group
  have hsessions : group.sessions.length = group.config.members.length := by
    rw [← group.matched, List.length_map]
  unfold startOwned at hstart
  simp only [bind, Except.bind, throw, throwThe, MonadExceptOf.throw, pure, Except.pure] at hstart
  split at hstart
  · cases hstart
  split at hstart
  · cases hstart
  split at hstart
  · cases hstart
  split at hstart
  · cases hstart
  next hsources _ _ _ =>
    have hrequests : requests.length = group.config.members.length := by
      have hsources : requests.map CameraMemberRequest.source = group.config.members :=
        not_not.mp hsources
      rw [← hsources, List.length_map]
    cases hstart
    have hidle : ∀ member ∈ (group.sessions.zip requests).map fun pair : _ × CameraMemberRequest =>
        ({ source := pair.2.source
           generation := pair.1.generation
           request := pair.2.exposure
           requireScalarImage := pair.2.requireScalarImage
           acquisition := none
           phase := .notStarted
           dispatchSeconds := none
           acknowledgementSeconds := none
           image := none
           error := none
           abortError := none } : CameraMemberResult), idlePhase member.phase = true := by
      intro member hmember
      obtain ⟨pair, -, rfl⟩ := List.mem_map.mp hmember
      rfl
    refine ⟨⟨⟨rfl, hidle, fun _ => rfl, fun _ => rfl, fun _ => rfl, rfl, rfl, rfl, ?_⟩, hidle, rfl,
      rfl⟩, rfl, rfl, ?_⟩
    · simp [Unfinished, publishedIn, Effect.published?, CameraGroupPhase.terminal]
    · simp only [List.length_map, List.length_zip]
      omega

def Awaits (operation : Operation) (index : Nat) : Prop :=
  operation.pendingImages index = true
    ∧ if operation.aborting then operation.deadlineHit = false else operation.stop = none

structure Done (operation : Operation) : Prop where
  starts : ∀ index, .start index ∉ operation.events
  aborts : ∀ index, .abort index ∉ operation.events
  images : ∀ index < operation.report.members.length, ¬Awaits operation index

theorem Loop.pending_mem (h : Loop operation) {index : Nat}
    (hindex : index < operation.report.members.length)
    (hpending : operation.pendingImages index = true) : .image index ∈ operation.events := by
  have hfits := h.fits index _ (List.getElem?_eq_getElem hindex)
  generalize operation.report.members[index] = member at hfits
  cases hphase : member.phase <;> simp_all [Fits, Operation.view]

theorem Loop.pending_of_mem (h : Loop operation) {index : Nat}
    (hindex : index < operation.report.members.length)
    (hrequested : operation.abortRequested index = false)
    (hmem : .image index ∈ operation.events) : operation.pendingImages index = true := by
  have hfits := h.fits index _ (List.getElem?_eq_getElem hindex)
  generalize operation.report.members[index] = member at hfits
  cases hphase : member.phase <;> simp_all [Fits, Operation.view]

theorem waiting_empty_iff (h : Loop operation) (hfinishing : operation.finishing = false) :
    operation.events = ∅ ↔ Done operation := by
  constructor
  · intro hempty
    refine ⟨?_, ?_, fun index hindex hawaits => ?_⟩
    · simp [hempty]
    · simp [hempty]
    · have houtstanding := h.pending_mem hindex hawaits.1
      simp [hempty] at houtstanding
  · intro hdone
    have hstarts : operation.startsPending = 0 := by
      rw [h.starts, Finset.card_eq_zero]
      refine Finset.filter_false_of_mem fun future hfuture => ?_
      cases future with
      | start index => exact absurd hfuture (hdone.starts index)
      | image index => simp [Future.isStart]
      | abort index => simp [Future.isStart]
    have haborts : operation.abortsPending = 0 := by
      rw [h.aborts, Finset.card_eq_zero]
      refine Finset.filter_false_of_mem fun future hfuture => ?_
      cases future with
      | start index => simp [Future.isAbort]
      | image index => simp [Future.isAbort]
      | abort index => exact absurd hfuture (hdone.aborts index)
    -- An abort in force would end the loop once the images came.
    have hpassive : operation.aborting = false := by
      by_contra haborting
      have haborting : operation.aborting = true := by simpa using haborting
      simp only [finishing, hstarts, haborts, haborting, decide_true, Bool.or_true,
        Bool.true_and, Bool.not_true, Bool.false_or, Bool.or_eq_false_iff, Bool.not_eq_false',
        Operation.anyPending, List.any_eq_true, List.mem_range] at hfinishing
      obtain ⟨⟨index, hindex, hpending⟩, hdeadline⟩ := hfinishing
      exact hdone.images index hindex ⟨hpending, by simpa [haborting] using hdeadline⟩
    have hstop : operation.stop = none := by
      simpa [finishing, hstarts, haborts, hpassive] using hfinishing
    have hunrequested : ∀ index, operation.abortRequested index = false := by
      intro index
      by_contra hrequested
      have hrequested : operation.abortRequested index = true := by simpa using hrequested
      simp [h.requested index hrequested] at hpassive
    refine Finset.eq_empty_of_forall_notMem fun future hfuture => ?_
    have hindex := h.bounded future hfuture
    cases future with
    | start index => exact hdone.starts index hfuture
    | image index =>
      have hpending := h.pending_of_mem hindex (hunrequested index) hfuture
      exact hdone.images index hindex ⟨hpending, by simpa [hpassive] using hstop⟩
    | abort index => exact hdone.aborts index hfuture

theorem draining_done (h : Loop operation) (hfinishing : operation.finishing = true) :
    Done operation := by
  obtain ⟨hstarts, haborts, hstopped, himages⟩ := finishing_spec hfinishing
  refine ⟨fun index => ?_, fun index => ?_, fun index hindex hawaits => ?_⟩
  · exact none_outstanding Future.isStart (h.starts.symm.trans hstarts) rfl
  · exact none_outstanding Future.isAbort (h.aborts.symm.trans haborts) rfl
  · obtain ⟨hpending, hopen⟩ := hawaits
    by_cases haborting : operation.aborting = true
    · have hany : operation.anyPending = true :=
        List.any_eq_true.mpr ⟨index, List.mem_range.mpr hindex, hpending⟩
      simp [haborting, himages haborting hany] at hopen
    · rw [if_neg haborting] at hopen
      simp [hopen, haborting] at hstopped

theorem ends_iff (h : Inv operation)
    (hstage : operation.stage = .waiting ∨ operation.stage = .draining) {wake : Wake}
    (hready : operation.ready wake = none) :
    (operation.wake wake).stage = .settling ↔ Done operation := by
  have hstanding : Standing operation operation.stage := h
  rcases hstage with hstage | hstage
  · rw [hstage] at hstanding
    obtain ⟨hloop, -, -, hfinishing⟩ := hstanding
    rw [← waiting_empty_iff hloop hfinishing]
    simp only [Operation.wake, hstage, wait, hready]
    by_cases hempty : operation.events = ∅
    · simp [hempty]
    · rw [if_neg hempty]
      refine iff_of_false ?_ hempty
      split
      · simp
      split
      · simp
      · simp [hstage]
  · rw [hstage] at hstanding
    obtain ⟨hloop, -, -, hfinishing⟩ := hstanding
    simp only [Operation.wake, hstage, drain, hready]
    exact iff_of_true trivial (draining_done hloop hfinishing)

/-! ## The group -/

structure Captured (operation : Operation) : Prop where
  dispatchedOnce : (startsIn operation.log).Nodup
  abortedOnce : (abortsIn operation.log).Nodup
  /-- An abort follows the acknowledgement of the start. -/
  acknowledged : ∀ index ∈ abortsIn operation.log,
    Followed operation.log (.acknowledged index) (.aborted index)
  /-- A terminal report is the last one, and only a finished operation has published one. -/
  terminal : if operation.stage = .finished then EndsWith operation.log operation.status
    else Unfinished operation.log
  ended : operation.stage = .finished → Ended operation operation.status
  /-- When no event is ready the loop ends exactly if nothing is left to wait for. -/
  ends : operation.stage = .waiting ∨ operation.stage = .draining →
    ∀ wake, operation.ready wake = none → ((operation.wake wake).stage = .settling ↔ Done operation)
  /-- Behind the loop the last report is published at once. -/
  reports : operation.stage = .settling → ∀ wake, (operation.wake wake).stage = .finished

theorem Inv.recorded (h : Inv operation) : Recorded operation.log := by
  by_cases hfinished : operation.stage = .finished
  · have hstanding : Standing operation operation.stage := h
    rw [hfinished] at hstanding
    exact hstanding.1
  · exact (h.watching hfinished).recorded

theorem Inv.captured (h : Inv operation) : Captured operation where
  dispatchedOnce := h.recorded.dispatched
  abortedOnce := h.recorded.abortedOnce
  acknowledged := h.recorded.ordered
  terminal := by
    have hstanding : Standing operation operation.stage := h
    split
    next hfinished =>
      rw [hfinished] at hstanding
      exact hstanding.2.1
    next hrunning => exact (h.watching hrunning).unfinished
  ended := by
    intro hfinished
    have hstanding : Standing operation operation.stage := h
    rw [hfinished] at hstanding
    exact hstanding.2.2
  ends hstage wake hready := ends_iff h hstage hready
  reports := by
    intro hstage wake
    simp only [Operation.wake, hstage]
    rfl

/-- In every run of an operation of a group, in whatever order receipts, images, results of
aborts, a cancellation and the deadline arrive. -/
theorem run_captured {group : CameraGroup} {runtime busy : Bool}
    {requests : List CameraMemberRequest} {id : Uuid} {origin : Nat}
    (hstart : group.startOwned runtime busy requests id origin = .ok operation)
    (inputs : List Input) : Captured (machine.final operation inputs) := by
  have hinductive : machine.Inductive operation Inv :=
    ⟨startOwned_inv hstart, fun input hstate => apply_inv hstate input⟩
  exact (hinductive.final inputs).captured

end

/-! ## Two cameras -/

def pair : CameraGroup where
  config := {
    id := 1
    label := "Pair"
    timeoutSeconds := 120.0
    failurePolicy := .abortStarted
    cancellationPolicy := .abortStarted
    members := [2, 3] }
  sessions := [⟨2, 12⟩, ⟨3, 13⟩]
  checked := by decide +kernel
  matched := by decide

def pairRequests : List CameraMemberRequest :=
  [⟨2, ⟨1.0, true⟩, false⟩, ⟨3, ⟨1.0, true⟩, false⟩]

def pairImage : CapturedImage where
  identity := {
    source := 3
    generation := 13
    acquisition := 23
    request := ⟨1.0, true⟩
    geometry := ⟨1, 1, 1, 1, 0, 0⟩
    exposure := ⟨none, none, none, none⟩ }
  image := .dot

/-- The first start fails, so the second one is aborted, but its image comes first. -/
def pairInputs : List Input :=
  let silent : Input := .wake ⟨false, none, none, none⟩
  let prepared := fun acquisition => Input.wake ⟨false, some (.ok acquisition), none, none⟩
  let answered : Input := .wake ⟨false, none, some (.ok ()), none⟩
  let event := fun event => Input.wake ⟨false, none, none, some event⟩
  [prepared 22, prepared 23, answered, answered, silent, silent,
    event (.start 1 (.ok ⟨5, 6, .ok 23⟩)), silent,
    event (.start 0 (.ok ⟨5, 7, .error .uncertain⟩)), silent,
    event (.image 1 (.ok pairImage)), silent, event (.abort 1 (.ok ())), silent, silent, silent]

theorem pair_captured : ∃ operation, pair.startOwned true false pairRequests 7 0 = .ok operation
    ∧ (machine.final operation pairInputs).stage = .finished
    ∧ (machine.final operation pairInputs).status.members.map CameraMemberResult.phase
      = [.uncertain, .complete] ∧ Captured (machine.final operation pairInputs) := by
  have hrun : ((pair.startOwned true false pairRequests 7 0).toOption.map fun operation =>
      ((machine.final operation pairInputs).stage,
        (machine.final operation pairInputs).status.members.map CameraMemberResult.phase))
      = some (.finished, [.uncertain, .complete]) := by decide +kernel
  cases hstart : pair.startOwned true false pairRequests 7 0 with
  | error error =>
    rw [hstart] at hrun
    cases hrun
  | ok operation =>
    rw [hstart] at hrun
    obtain ⟨hstage, hphases⟩ := Prod.mk.inj (Option.some.inj hrun)
    exact ⟨operation, rfl, hstage, hphases, run_captured hstart pairInputs⟩

end Regain.Hub.CameraGroup
