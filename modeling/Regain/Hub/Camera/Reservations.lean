import Regain.Hub.Camera.Image

/-!
# Reservations of the image budget

Threads reserve memory by compare and swap and hand it back by subtraction; a step is one atomic
access.  Of bytes that are stored, only how many there are matters here.
-/

namespace Regain.Hub.Reservations

def nativeMetadataBytes : Nat := 128 * 1024

def nativeWorkerHeaderBytes : Nat := 64 * 1024

structure Exposure where
  width : UInt32
  height : UInt32
  bin : UInt32
  x : UInt32
  y : UInt32
  microseconds : UInt64
  dark : Bool
  deriving DecidableEq

inductive Purpose where
  | allocate (descriptor : ImageDescriptor)
  | stage (length : Nat)
  | native (exposure : Exposure) (descriptor : ImageDescriptor)
  | transfer (length : Nat)

def Purpose.bytes : Purpose → Nat
  | allocate descriptor => descriptor.byteLen
  | stage length => length
  | native _ descriptor => descriptor.byteLen * 2 + nativeMetadataBytes + nativeWorkerHeaderBytes
  | transfer length => length

/-- Who owns a reservation. -/
inductive Owner where
  | admitted (purpose : Purpose)
  | allocation (descriptor : ImageDescriptor)
  | staged (length : Nat)
  | permit (exposure : Exposure) (descriptor : ImageDescriptor)
  | buffer (length : Nat)
  | image (descriptor : ImageDescriptor) (pixels metadata readers : Nat)
  | dropped

def Purpose.owner : Purpose → Owner
  | allocate descriptor => .allocation descriptor
  | stage length => .staged length
  | native exposure descriptor => .permit exposure descriptor
  | transfer length => .buffer length

inductive Slot where
  | trying (purpose : Purpose) (used : Nat)
  | reserved (bytes : Nat) (owner : Owner)
  | gone

structure BudgetInner where
  maximum : Nat
  used : Nat := 0
  slots : List Slot := []
  underflowed : Bool := false
  panicked : Bool := false

namespace BudgetInner

def put (budget : BudgetInner) (index : Nat) (slot : Slot) : BudgetInner :=
  { budget with slots := budget.slots.set index slot }

def wrappingSub (used bytes : Nat) : Nat :=
  if bytes ≤ used then used - bytes else used + 18446744073709551616 - bytes

def fetchSub (budget : BudgetInner) (bytes : Nat) : BudgetInner :=
  { budget with
    used := wrappingSub budget.used bytes
    underflowed := budget.underflowed || decide (budget.used < bytes) }

inductive Call where
  | allocate (descriptor : ImageDescriptor)
  | stage (length : Nat)
  | reserveNative (exposure : Exposure)
  | transferBuffer (image : Nat)

def purpose (budget : BudgetInner) : Call → Except SourceError Purpose
  | .allocate descriptor => .ok (.allocate descriptor)
  | .stage length =>
    if imageChunkBytes < length then
      .error (invalidImage "Camera transport chunk exceeds its bound")
    else .ok (.stage length)
  | .reserveNative exposure =>
    (ImageDescriptor.new exposure.width exposure.height none .int32 .uint16 .sensorRows).map
      (.native exposure)
  | .transferBuffer image =>
    match budget.slots[image]? with
    | some (.reserved _ (.image _ pixels _ _)) => .ok (.transfer (min pixels imageChunkBytes))
    | _ => .error (invalidImage "No such image")

def load (budget : BudgetInner) (call : Call) : BudgetInner :=
  match budget.purpose call with
  | .ok purpose => { budget with slots := budget.slots ++ [.trying purpose budget.used] }
  | .error _ => budget

/-- One turn of the loop; a weak exchange may fail on its own. -/
def compareExchange (budget : BudgetInner) (index : Nat) (spurious : Bool) : BudgetInner :=
  match budget.slots[index]? with
  | some (.trying purpose used) =>
    let next := used + purpose.bytes
    if 18446744073709551616 ≤ next ∨ budget.maximum < next then budget.put index .gone
    else if budget.used = used ∧ spurious = false then
      { budget.put index (.reserved purpose.bytes (.admitted purpose)) with used := next }
    else budget.put index (.trying purpose budget.used)
  | _ => budget

/-- A permit allocates nothing yet. -/
def build (budget : BudgetInner) (index : Nat) (allocated : Bool) : BudgetInner :=
  match budget.slots[index]? with
  | some (.reserved bytes (.admitted purpose)) =>
    match purpose with
    | .native exposure descriptor => budget.put index (.reserved bytes (.permit exposure descriptor))
    | _ => budget.put index (.reserved bytes (if allocated then purpose.owner else .dropped))
  | _ => budget

def finish (budget : BudgetInner) (index : Nat) : BudgetInner :=
  match budget.slots[index]? with
  | some (.reserved bytes (.allocation descriptor)) =>
    budget.put index (.reserved bytes (.image descriptor descriptor.byteLen 0 1))
  | _ => budget

/-- The length of the metadata after bounded writes. -/
def writeMetadata (writes : List Nat) : Option Nat :=
  writes.foldlM (fun length bytes =>
    if nativeMetadataBytes - length < bytes then none else some (length + bytes)) 0

def shrinkTo (budget : BudgetInner) (index held bytes : Nat) (owner : Owner) : BudgetInner :=
  if bytes ≤ held then (budget.fetchSub (held - bytes)).put index (.reserved bytes owner)
  else { budget.put index (.reserved held .dropped) with panicked := true }

def adopt (budget : BudgetInner) (index : Nat) (exposure : Exposure) (pixels : Nat)
    (allocated : Bool) (writes : List Nat) : BudgetInner :=
  match budget.slots[index]? with
  | some (.reserved bytes (.permit admitted descriptor)) =>
    if exposure ≠ admitted ∨ pixels ≠ descriptor.byteLen ∨ allocated = false then
      budget.put index (.reserved bytes .dropped)
    else
      match writeMetadata writes with
      | none => budget.put index (.reserved bytes .dropped)
      | some metadata =>
        budget.shrinkTo index bytes (descriptor.byteLen + nativeMetadataBytes)
          (.image descriptor pixels metadata 1)
  | _ => budget

def clone (budget : BudgetInner) (index : Nat) : BudgetInner :=
  match budget.slots[index]? with
  | some (.reserved bytes (.image descriptor pixels metadata readers)) =>
    budget.put index (.reserved bytes (.image descriptor pixels metadata (readers + 1)))
  | _ => budget

/-- An owner goes; of an image, one of its readers. -/
def drop (budget : BudgetInner) (index : Nat) : BudgetInner :=
  match budget.slots[index]? with
  | some (.reserved bytes (.image descriptor pixels metadata (readers + 2))) =>
    budget.put index (.reserved bytes (.image descriptor pixels metadata (readers + 1)))
  | some (.reserved bytes (.admitted purpose)) =>
    budget.put index (.reserved bytes (.admitted purpose))
  | some (.reserved bytes _) => budget.put index (.reserved bytes .dropped)
  | _ => budget

/-- The reservation itself is dropped, after what it was for. -/
def release (budget : BudgetInner) (index : Nat) : BudgetInner :=
  match budget.slots[index]? with
  | some (.reserved bytes .dropped) => (budget.fetchSub bytes).put index .gone
  | _ => budget

inductive Step where
  | load (call : Call)
  | compareExchange (index : Nat) (spurious : Bool)
  | build (index : Nat) (allocated : Bool)
  | finish (index : Nat)
  | adopt (index : Nat) (exposure : Exposure) (pixels : Nat) (allocated : Bool) (writes : List Nat)
  | clone (index : Nat)
  | drop (index : Nat)
  | release (index : Nat)

def step (budget : BudgetInner) : Step → BudgetInner
  | .load call => budget.load call
  | .compareExchange index spurious => budget.compareExchange index spurious
  | .build index allocated => budget.build index allocated
  | .finish index => budget.finish index
  | .adopt index exposure pixels allocated writes =>
    budget.adopt index exposure pixels allocated writes
  | .clone index => budget.clone index
  | .drop index => budget.drop index
  | .release index => budget.release index

def run (maximum : UInt64) (steps : List Step) : BudgetInner :=
  steps.foldl step { maximum := maximum.toNat }

end BudgetInner

def Slot.bytes : Slot → Nat
  | reserved bytes _ => bytes
  | _ => 0

/-- The bytes of what a slot owns are reserved. -/
def Slot.Covered : Slot → Prop
  | reserved bytes (.admitted purpose) => bytes = purpose.bytes
  | reserved bytes (.allocation descriptor) => descriptor.byteLen ≤ bytes
  | reserved bytes (.staged length) => length ≤ bytes
  | reserved bytes (.permit _ descriptor) => descriptor.byteLen + nativeMetadataBytes ≤ bytes
  | reserved bytes (.buffer length) => length ≤ bytes
  | reserved bytes (.image _ pixels metadata _) => pixels + metadata ≤ bytes
  | _ => True

def total (slots : List Slot) : Nat :=
  (slots.map Slot.bytes).sum

structure Sound (budget : BudgetInner) : Prop where
  word : budget.maximum < 18446744073709551616
  used : budget.used = total budget.slots
  bound : budget.used ≤ budget.maximum
  exact : budget.underflowed = false ∧ budget.panicked = false
  covered : ∀ slot ∈ budget.slots, slot.Covered

variable {budget : BudgetInner} {index : Nat} {old new : Slot}

theorem total_set {slots : List Slot} (h : slots[index]? = some old) (new : Slot) :
    total (slots.set index new) + old.bytes = total slots + new.bytes := by
  induction slots generalizing index with
  | nil => cases h
  | cons slot slots ih =>
    cases index with
    | zero =>
      cases h
      simp only [total, List.set_cons_zero, List.map_cons, List.sum_cons]
      omega
    | succ index =>
      have hrest := ih h
      simp only [total, List.set_cons_succ, List.map_cons, List.sum_cons] at hrest ⊢
      omega

theorem Sound.slot (h : Sound budget) (hslot : budget.slots[index]? = some old) :
    old.Covered ∧ old.bytes ≤ budget.used := by
  have htotal := total_set hslot .gone
  have hused := h.used
  have hgone : Slot.gone.bytes = 0 := rfl
  exact ⟨h.covered old (List.mem_of_getElem? hslot), by omega⟩

/-- A slot changes with the bytes in use. -/
theorem Sound.change (h : Sound budget) (hslot : budget.slots[index]? = some old)
    {after : BudgetInner} (hmaximum : after.maximum = budget.maximum)
    (hslots : after.slots = budget.slots.set index new)
    (hused : after.used + old.bytes = budget.used + new.bytes) (hbound : after.used ≤ budget.maximum)
    (hexact : after.underflowed = false ∧ after.panicked = false) (hcovered : new.Covered) :
    Sound after := by
  refine ⟨hmaximum ▸ h.word, ?_, hmaximum ▸ hbound, hexact, fun slot hmem => ?_⟩
  · have htotal := total_set hslot new
    have hbefore := h.used
    rw [hslots]
    omega
  · rw [hslots] at hmem
    rcases List.mem_or_eq_of_mem_set hmem with hold | rfl
    · exact h.covered slot hold
    · exact hcovered

theorem Sound.put (h : Sound budget) (hslot : budget.slots[index]? = some old)
    (hbytes : new.bytes = old.bytes) (hcovered : new.Covered) : Sound (budget.put index new) :=
  h.change hslot rfl rfl (by rw [hbytes]; rfl) h.bound h.exact hcovered

/-- Bytes of a reservation are handed back. -/
theorem Sound.fetchSub (h : Sound budget) (hslot : budget.slots[index]? = some old) {bytes : Nat}
    (hbytes : new.bytes + bytes = old.bytes) (hcovered : new.Covered) :
    Sound ((budget.fetchSub bytes).put index new) := by
  have hold := (h.slot hslot).2
  have hbound := h.bound
  have hless : bytes ≤ budget.used := by omega
  have hafter : BudgetInner.wrappingSub budget.used bytes = budget.used - bytes := if_pos hless
  have hflag : (budget.underflowed || decide (budget.used < bytes)) = false := by
    rw [h.exact.1, Bool.false_or, decide_eq_false_iff_not]
    exact Nat.not_lt_of_le hless
  have hused : BudgetInner.wrappingSub budget.used bytes + old.bytes = budget.used + new.bytes := by
    omega
  have hfits : BudgetInner.wrappingSub budget.used bytes ≤ budget.maximum := by
    omega
  exact h.change hslot rfl rfl hused hfits ⟨hflag, h.exact.2⟩ hcovered

theorem load_sound (h : Sound budget) (call : BudgetInner.Call) : Sound (budget.load call) := by
  unfold BudgetInner.load
  cases budget.purpose call with
  | error error => exact h
  | ok purpose =>
    refine ⟨h.word, ?_, h.bound, h.exact, fun slot hmem => ?_⟩
    · simpa [total, Slot.bytes] using h.used
    · rcases List.mem_append.mp hmem with hold | hnew
      · exact h.covered slot hold
      · rw [List.mem_singleton.mp hnew]
        trivial

theorem compareExchange_sound (h : Sound budget) (index : Nat) (spurious : Bool) :
    Sound (budget.compareExchange index spurious) := by
  unfold BudgetInner.compareExchange
  split
  · next purpose used hslot =>
    dsimp only
    split
    · exact h.put hslot rfl trivial
    split
    · next hbound hsame =>
      refine h.change hslot rfl rfl ?_ (not_lt.mp (not_or.mp hbound).2) h.exact rfl
      rw [hsame.1]
      rfl
    · exact h.put hslot rfl trivial
  · exact h

theorem build_sound (h : Sound budget) (index : Nat) (allocated : Bool) :
    Sound (budget.build index allocated) := by
  unfold BudgetInner.build
  split
  · next bytes purpose hslot =>
    have hbytes : bytes = purpose.bytes := (h.slot hslot).1
    split
    · refine h.put hslot rfl ?_
      simp only [Slot.Covered, hbytes, Purpose.bytes]
      omega
    · refine h.put hslot rfl ?_
      cases allocated with
      | false => trivial
      | true =>
        cases purpose with
        | native exposure descriptor =>
          simp only [if_true, Purpose.owner, Slot.Covered, hbytes, Purpose.bytes]
          omega
        | _ => exact Nat.le_of_eq hbytes.symm
  · exact h

theorem finish_sound (h : Sound budget) (index : Nat) : Sound (budget.finish index) := by
  unfold BudgetInner.finish
  split
  · next bytes descriptor hslot => exact h.put hslot rfl (h.slot hslot).1
  · exact h

theorem writeMetadata_le {writes : List Nat} {length : Nat}
    (h : BudgetInner.writeMetadata writes = some length) : length ≤ nativeMetadataBytes := by
  have hfold : ∀ start ≤ nativeMetadataBytes, writes.foldlM (fun length bytes =>
      if nativeMetadataBytes - length < bytes then none else some (length + bytes)) start
        = some length → length ≤ nativeMetadataBytes := by
    clear h
    induction writes with
    | nil => intro start hstart h; cases h; exact hstart
    | cons bytes writes ih =>
      intro start hstart h
      rw [List.foldlM_cons] at h
      split at h
      · cases h
      · exact ih _ (by omega) h
  exact hfold 0 (Nat.zero_le _) h

theorem adopt_sound (h : Sound budget) (index : Nat) (exposure : Exposure) (pixels : Nat)
    (allocated : Bool) (writes : List Nat) :
    Sound (budget.adopt index exposure pixels allocated writes) := by
  unfold BudgetInner.adopt
  split
  · next bytes admitted descriptor hslot =>
    have hbytes : descriptor.byteLen + nativeMetadataBytes ≤ bytes := (h.slot hslot).1
    split
    · exact h.put hslot rfl trivial
    next haccepted =>
    split
    · exact h.put hslot rfl trivial
    next metadata hmetadata =>
    have hlength := writeMetadata_le hmetadata
    unfold BudgetInner.shrinkTo
    rw [if_pos hbytes]
    refine h.fetchSub hslot (Nat.add_sub_cancel' hbytes) ?_
    simp only [not_or, not_not] at haccepted
    simp only [Slot.Covered, haccepted.2.1]
    omega
  · exact h

theorem step_sound (h : Sound budget) (step : BudgetInner.Step) : Sound (budget.step step) := by
  cases step with
  | load call => exact load_sound h call
  | compareExchange index spurious => exact compareExchange_sound h index spurious
  | build index allocated => exact build_sound h index allocated
  | finish index => exact finish_sound h index
  | adopt index exposure pixels allocated writes =>
    exact adopt_sound h index exposure pixels allocated writes
  | clone index =>
    simp only [BudgetInner.step, BudgetInner.clone]
    split
    · next hslot => exact h.put hslot rfl (h.slot hslot).1
    · exact h
  | drop index =>
    simp only [BudgetInner.step, BudgetInner.drop]
    split
    · next hslot => exact h.put hslot rfl (h.slot hslot).1
    · next hslot => exact h.put hslot rfl (h.slot hslot).1
    · next hslot => exact h.put hslot rfl trivial
    · exact h
  | release index =>
    simp only [BudgetInner.step, BudgetInner.release]
    split
    · next hslot => exact h.fetchSub hslot (Nat.zero_add _) trivial
    · exact h

/-- In every state, the budget is what the live reservations hold; nothing was subtracted that was
not reserved. -/
theorem budget_kept (maximum : UInt64) (steps : List BudgetInner.Step) :
    Sound (BudgetInner.run maximum steps) := by
  have hfold : ∀ budget, Sound budget → Sound (steps.foldl BudgetInner.step budget) := by
    induction steps with
    | nil => exact fun _ h => h
    | cons step steps ih => exact fun budget h => ih _ (step_sound h step)
  exact hfold _ ⟨maximum.toNat_lt, rfl, Nat.zero_le _, ⟨rfl, rfl⟩, fun _ hmem => by cases hmem⟩

end Regain.Hub.Reservations
