import Regain.Hub.Camera.ImageTransfer
import Regain.Hub.Camera.JsonImage

/-!
# Agreement of the two image readers

A JSON response yields an image only if its array is rectangular, of the announced rank and type,
and the image is the one that the ImageBytes encoding of the same array yields.
-/

namespace Regain.Hub.JsonImage

open Lib

section

variable {parse : List UInt8 → Option Doc} {budgets : Nat → ImageBudget}

def Reading.text (reading : Reading) : List UInt8 :=
  reading.chunks.flatten ++ reading.buffer

variable {reading reading' : Reading}

theorem stage_text (hstage : reading.stage budgets = .ok reading') :
    reading'.chunks.flatten = reading.text ∧ reading'.buffer = [] := by
  unfold Reading.stage at hstage
  split at hstage
  · cases hstage
  · cases hstage
    exact ⟨by simp [Reading.text], rfl⟩

theorem receive_text {bytes : List UInt8}
    (hreceive : reading.receive budgets bytes = .ok reading') :
    reading'.text = reading.text ++ bytes := by
  unfold Reading.receive at hreceive
  split at hreceive
  · cases hreceive
  split at hreceive
  · cases hreceive
  dsimp only at hreceive
  split at hreceive
  · cases hreceive
    simp [Reading.text]
  · obtain ⟨hchunks, hbuffer⟩ := stage_text hreceive
    simp [Reading.text, hchunks, hbuffer]

theorem receiveAll_text {sizes : List Nat} {body : List UInt8}
    (hreceive : reading.receiveAll budgets sizes body = .ok reading') :
    reading'.text = reading.text ++ body := by
  induction sizes generalizing reading body with
  | nil =>
    cases body with
    | nil =>
      cases hreceive
      simp
    | cons byte rest => cases hreceive
  | cons size sizes ih =>
    cases body with
    | nil =>
      cases hreceive
      simp
    | cons byte rest =>
      simp only [Reading.receiveAll] at hreceive
      split at hreceive
      · cases hreceive
      next middle hmiddle =>
        rw [ih hreceive, receive_text hmiddle, List.append_assoc, List.take_append_drop]

theorem finish_text {transaction : UInt32}
    (hfinish : reading.finish parse budgets transaction = .ok reading') :
    reading'.chunks.flatten = reading.text := by
  unfold Reading.finish at hfinish
  split at hfinish
  · cases hfinish
  · split at hfinish
    next hempty =>
      cases hfinish
      simp [Reading.text, List.isEmpty_iff.mp hempty]
    next => exact (stage_text hfinish).1

theorem readJsonImage_decode {sizes : List Nat} {transaction : UInt32} {body : List UInt8}
    {image : CameraImage} (hread : readJsonImage parse budgets sizes transaction body = .ok image) :
    ∃ budget, decode parse budget transaction body = .ok image := by
  unfold readJsonImage at hread
  cases hall : Reading.start.receiveAll budgets sizes body with
  | error error =>
    rw [hall] at hread
    cases hread
  | ok reading =>
    rw [hall] at hread
    cases hfinish : reading.finish parse budgets transaction with
    | error error =>
      simp only [bind, Except.bind, hfinish] at hread
      cases hread
    | ok finished =>
      simp only [bind, Except.bind, hfinish] at hread
      rw [finish_text hfinish, receiveAll_text hall] at hread
      exact ⟨_, hread⟩

end

/-! ## Rectangular arrays -/

def Doc.at_ : Doc → List Nat → Option Number
  | .number value, [] => some value
  | .array items, index :: path => (items[index]?).bind fun item => item.at_ path
  | _, _ => none

def Rectangular : List Nat → Doc → Prop
  | [], .number _ => True
  | [], _ => False
  | dimension :: dimensions, .array items =>
    items.length = dimension ∧ ∀ item ∈ items, Rectangular dimensions item
  | _ :: _, _ => False

def encodingItems (encoding : Doc → Option (List UInt8)) : List Doc → Option (List UInt8)
  | [] => some []
  | item :: items =>
    (encoding item).bind fun bytes => (encodingItems encoding items).map fun rest => bytes ++ rest

/-- The pixels of a rectangular array in serial order, its last dimension fastest. -/
def encoding (kind : ElementType) : List Nat → Doc → Option (List UInt8)
  | [], .number value => value.encode kind
  | [], _ => none
  | dimension :: dimensions, .array items =>
    if items.length = dimension then encodingItems (encoding kind dimensions) items else none
  | _ :: _, _ => none

def pathIndex : List Nat → List Nat → Nat
  | _ :: dimensions, index :: path => index * dimensions.prod + pathIndex dimensions path
  | _, _ => 0

def Within : List Nat → List Nat → Prop
  | [], [] => True
  | dimension :: dimensions, index :: path => index < dimension ∧ Within dimensions path
  | _, _ => False

theorem pathIndex_lt {dimensions path : List Nat} (h : Within dimensions path) :
    pathIndex dimensions path < dimensions.prod := by
  induction dimensions generalizing path with
  | nil => simp [pathIndex]
  | cons dimension dimensions ih =>
    cases path with
    | nil => exact h.elim
    | cons index path =>
      have hrest := ih h.2
      calc pathIndex (dimension :: dimensions) (index :: path)
          < index * dimensions.prod + dimensions.prod := Nat.add_lt_add_left hrest _
        _ = (index + 1) * dimensions.prod := (Nat.succ_mul _ _).symm
        _ ≤ (dimension :: dimensions).prod := by
            rw [List.prod_cons]
            exact Nat.mul_le_mul_right _ h.1

variable {descriptor : ImageDescriptor} {size : Nat} {kind : ElementType} {bytes : List UInt8}

theorem encodingItems_spec {encoding : Doc → Option (List UInt8)} {items : List Doc} {count : Nat}
    (hlength : ∀ item part, encoding item = some part → part.length = count * size)
    (hencoding : encodingItems encoding items = some bytes) :
    bytes.length = items.length * count * size ∧
      ∀ index < items.length, ∃ item part, items[index]? = some item ∧ encoding item = some part
        ∧ ∀ inner < count, block bytes size (index * count + inner) = block part size inner := by
  induction items generalizing bytes with
  | nil =>
    cases hencoding
    simp
  | cons item items ih =>
    simp only [encodingItems, Option.bind_eq_some_iff, Option.map_eq_some_iff] at hencoding
    obtain ⟨part, hpart, rest, hrest, rfl⟩ := hencoding
    obtain ⟨hrestLength, hblocks⟩ := ih hrest
    have hpartLength := hlength item part hpart
    refine ⟨?_, fun index hindex => ?_⟩
    · rw [List.length_append, hpartLength, hrestLength, List.length_cons, Nat.succ_mul,
        Nat.add_mul, Nat.add_comm]
    · cases index with
      | zero =>
        refine ⟨item, part, rfl, hpart, fun inner hinner => ?_⟩
        have hfits : inner * size + size ≤ part.length := by
          rw [hpartLength, ← Nat.succ_mul]
          exact Nat.mul_le_mul_right _ hinner
        rw [Nat.zero_mul, Nat.zero_add, block, block, List.drop_append_of_le_length (by omega),
          List.take_append_of_le_length (by rw [List.length_drop]; omega)]
      | succ index =>
        obtain ⟨item', part', hitem, hpart', hblock⟩ :=
          hblocks index (by simpa using hindex)
        refine ⟨item', part', by simpa using hitem, hpart', fun inner hinner => ?_⟩
        rw [← hblock inner hinner, block, block]
        have hskip : ((index + 1) * count + inner) * size
            = part.length + (index * count + inner) * size := by
          rw [hpartLength, Nat.succ_mul, ← Nat.add_mul]
          congr 1
          omega
        rw [hskip, ← List.drop_drop, List.drop_left]

theorem encoding_spec {dimensions : List Nat} {doc : Doc}
    (hencoding : encoding kind dimensions doc = some bytes) :
    bytes.length = dimensions.prod * kind.bytes ∧
      ∀ path, Within dimensions path → ∃ number, doc.at_ path = some number
        ∧ number.encode kind = some (block bytes kind.bytes (pathIndex dimensions path)) := by
  induction dimensions generalizing doc bytes with
  | nil =>
    cases doc with
    | number value =>
      have hlength := Number.length_encode hencoding
      refine ⟨by simpa using hlength, fun path hpath => ?_⟩
      cases path with
      | nil =>
        have hwhole : block bytes kind.bytes (pathIndex [] []) = bytes := by
          simp [block, pathIndex, ← hlength]
        exact ⟨value, rfl, hwhole.symm ▸ hencoding⟩
      | cons index path => exact hpath.elim
    | _ => cases hencoding
  | cons dimension dimensions ih =>
    cases doc with
    | array items =>
      simp only [encoding, Option.ite_none_right_eq_some] at hencoding
      obtain ⟨rfl, hitems⟩ := hencoding
      obtain ⟨hlength, hblocks⟩ := encodingItems_spec (fun item part hpart => (ih hpart).1) hitems
      refine ⟨by rw [hlength, List.prod_cons], fun path hpath => ?_⟩
      cases path with
      | nil => exact hpath.elim
      | cons index path =>
        obtain ⟨item, part, hitem, hpart, hblock⟩ := hblocks index hpath.1
        obtain ⟨number, hat, hencode⟩ := (ih hpart).2 path hpath.2
        refine ⟨number, by simp [Doc.at_, hitem, hat], ?_⟩
        rw [pathIndex, hblock _ (pathIndex_lt hpath.2)]
        exact hencode
    | _ => cases hencoding

theorem encoding_rectangular {dimensions : List Nat} {doc : Doc}
    (hencoding : encoding kind dimensions doc = some bytes) : Rectangular dimensions doc := by
  induction dimensions generalizing doc bytes with
  | nil =>
    cases doc with
    | number value => trivial
    | _ => cases hencoding
  | cons dimension dimensions ih =>
    cases doc with
    | array items =>
      simp only [encoding, Option.ite_none_right_eq_some] at hencoding
      obtain ⟨hcount, hitems⟩ := hencoding
      refine ⟨hcount, ?_⟩
      clear hcount
      induction items generalizing bytes with
      | nil => simp
      | cons item items ihitems =>
        simp only [encodingItems, Option.bind_eq_some_iff, Option.map_eq_some_iff] at hitems
        obtain ⟨part, hpart, rest, hrest, -⟩ := hitems
        intro other hmem
        rcases List.mem_cons.mp hmem with rfl | htail
        · exact ih hpart
        · exact ihitems hrest other htail
    | _ => cases hencoding

/-! ## The array -/

structure Appended {size : Nat} (before after : Pixels size) (bytes : List UInt8) : Prop where
  offset : after.offset = before.offset + bytes.length
  written : after.bytes.take after.offset = before.bytes.take before.offset ++ bytes

theorem Appended.trans {first second third : Pixels size} {bytes' : List UInt8}
    (h : Appended first second bytes) (h' : Appended second third bytes') :
    Appended first third (bytes ++ bytes') where
  offset := by rw [h'.offset, h.offset, List.length_append, Nat.add_assoc]
  written := by rw [h'.written, h.written, List.append_assoc]

theorem put_appended {before after : Pixels size} {number : Number}
    (hput : before.put kind number = some after) :
    ∃ bytes, number.encode kind = some bytes ∧ Appended before after bytes := by
  unfold Pixels.put at hput
  split at hput
  next hfits =>
    split at hput
    · cases hput
    next item hencoded =>
      cases hput
      have hlength := Number.length_encode hencoded
      refine ⟨item, hencoded, by simp [hlength], ?_⟩
      have hwritten := take_overwrite before.bytes item (show before.offset ≤ before.bytes.length by
        rw [before.sized]
        exact before.within)
      rw [hlength] at hwritten
      exact hwritten
  next => cases hput

theorem fillItems_appended {size : Nat} {fill : Doc → Pixels size → Option (Pixels size)}
    {encoding : Doc → Option (List UInt8)} {count : Nat} {items : List Doc}
    {before after : Pixels size} (hfill : ∀ item before after, fill item before = some after →
      ∃ bytes, encoding item = some bytes ∧ Appended before after bytes)
    (hfilled : fillItems fill count items before = some after) : items.length = count
      ∧ ∃ bytes, encodingItems encoding items = some bytes ∧ Appended before after bytes := by
  induction count generalizing items before with
  | zero =>
    cases items with
    | nil =>
      cases hfilled
      exact ⟨rfl, [], rfl, ⟨rfl, by simp⟩⟩
    | cons item items => cases hfilled
  | succ count ih =>
    cases items with
    | nil => cases hfilled
    | cons item items =>
      obtain ⟨middle, hitem, hrest⟩ := Option.bind_eq_some_iff.mp hfilled
      obtain ⟨part, hpart, hfirst⟩ := hfill item before middle hitem
      obtain ⟨hcount, rest, hencoded, hlater⟩ := ih hrest
      exact ⟨congrArg (· + 1) hcount, part ++ rest, by simp [encodingItems, hpart, hencoded],
        hfirst.trans hlater⟩

theorem fillArray_appended {dimensions : List Nat} {doc : Doc} {before after : Pixels size}
    (hfilled : fillArray kind dimensions doc before = some after) :
    ∃ bytes, encoding kind dimensions doc = some bytes ∧ Appended before after bytes := by
  induction dimensions generalizing doc before after with
  | nil =>
    cases doc with
    | number value => exact put_appended hfilled
    | _ => cases hfilled
  | cons dimension dimensions ih =>
    cases doc with
    | array items =>
      obtain ⟨hcount, bytes, hitems, happended⟩ :=
        fillItems_appended (fun item before after h => ih h) hfilled
      exact ⟨bytes, by simp [encoding, hcount, hitems], happended⟩
    | _ => cases hfilled

def named (name : String) (fields : List (String × Doc)) : List (String × Doc) :=
  fields.filter fun field => field.1 = name

theorem fillFields_found {fields : List (String × Doc)} {before after : Pixels size}
    (hfilled : fillFields descriptor true before fields = some (true, after)) :
    named "Value" fields = [] ∧ after = before := by
  induction fields with
  | nil =>
    cases hfilled
    exact ⟨rfl, rfl⟩
  | cons field fields ih =>
    unfold fillFields at hfilled
    split at hfilled
    · cases hfilled
    next hother =>
      obtain ⟨hnone, hsame⟩ := ih hfilled
      exact ⟨by simpa [named, hother] using hnone, hsame⟩

theorem fillFields_appended {fields : List (String × Doc)} {before after : Pixels size}
    (hfilled : fillFields descriptor false before fields = some (true, after)) :
    ∃ value bytes, named "Value" fields = [("Value", value)]
      ∧ encoding descriptor.elementType (dimensions descriptor) value = some bytes
      ∧ Appended before after bytes := by
  induction fields with
  | nil => cases hfilled
  | cons field fields ih =>
    unfold fillFields at hfilled
    split at hfilled
    next hvalue =>
      obtain ⟨middle, hfill, hrest⟩ := Option.bind_eq_some_iff.mp hfilled
      obtain ⟨bytes, hencoding, happended⟩ := fillArray_appended hfill
      obtain ⟨hnone, rfl⟩ := fillFields_found hrest
      obtain ⟨name, value⟩ := field
      obtain rfl : name = "Value" := hvalue
      refine ⟨value, bytes, ?_, hencoding, happended⟩
      simpa [named] using hnone
    next hother =>
      obtain ⟨value, bytes, hnamed, hrest⟩ := ih hfilled
      exact ⟨value, bytes, by simpa [named, hother] using hnamed, hrest⟩

theorem pixels_encoding {doc : Doc} {filled : Pixels descriptor.byteLen}
    (hpixels : pixels descriptor doc = some filled) :
    ∃ fields value, doc = .object fields ∧ named "Value" fields = [("Value", value)]
      ∧ encoding descriptor.elementType (dimensions descriptor) value = some filled.bytes := by
  cases doc with
  | object fields =>
    simp only [pixels] at hpixels
    split at hpixels
    · cases hpixels
    next found after hfilled =>
      split at hpixels
      · cases hpixels
      next hcomplete =>
        cases hpixels
        simp only [Bool.or_eq_true, Bool.not_eq_true', decide_eq_true_eq, not_or, Bool.not_eq_false,
          not_not] at hcomplete
        rw [hcomplete.1] at hfilled
        obtain ⟨value, bytes, hnamed, hencoding, happended⟩ := fillFields_appended hfilled
        have hwhole : filled.bytes.take filled.offset = filled.bytes :=
          List.take_of_length_le (by rw [filled.sized, hcomplete.2])
        have hbytes : filled.bytes = bytes :=
          hwhole.symm.trans (happended.written.trans (by simp))
        exact ⟨fields, value, rfl, hnamed, hbytes ▸ hencoding⟩
  | _ => cases hpixels

/-! ## The envelope -/

/-- One slot of the envelope: the field that fills it and how that field is read. -/
structure Slot (α : Type) where
  name : String
  get : Envelope → Option α
  read : Doc → Option α

/-- A step of the envelope fills the slot from its own field only, and only once. -/
def Slot.Fills {α : Type} (slot : Slot α) : Prop :=
  ∀ (before after : Envelope) (field : String × Doc), before.take field = some after →
    (field.1 = slot.name → slot.get before = none ∧ ∃ value, slot.read field.2 = some value
      ∧ slot.get after = some value)
    ∧ (field.1 ≠ slot.name → slot.get after = slot.get before)

namespace Slot

def value : Slot Shape := ⟨"Value", Envelope.value, shape 0⟩
def elementType : Slot UInt32 := ⟨"Type", Envelope.elementType, word?⟩
def rank : Slot UInt32 := ⟨"Rank", Envelope.rank, word?⟩
def number : Slot Int := ⟨"ErrorNumber", Envelope.number, int?⟩
def message : Slot String := ⟨"ErrorMessage", Envelope.message, message?⟩
def client : Slot UInt32 := ⟨"ClientTransactionID", Envelope.client, word?⟩
def server : Slot UInt32 := ⟨"ServerTransactionID", Envelope.server, word?⟩

end Slot

theorem store_some {α : Type} {slot value : Option α} {stored : Option α}
    (hstore : store slot value = some stored) :
    slot = none ∧ ∃ found, value = some found ∧ stored = some found := by
  unfold store at hstore
  split at hstore
  · cases hstore
  next found =>
    split at hstore
    · cases hstore
    next hempty =>
      cases hstore
      exact ⟨by simpa using hempty, found, rfl, rfl⟩

def fieldNames : List String :=
  ["Value", "Type", "Rank", "ErrorNumber", "ErrorMessage", "ClientTransactionID",
    "ServerTransactionID"]

inductive Takes (before : Envelope) : String × Doc → Envelope → Prop
  | value (doc : Doc) (found : Shape) (empty : before.value = none)
      (read : shape 0 doc = some found) :
      Takes before ("Value", doc) { before with value := some found }
  | elementType (doc : Doc) (found : UInt32) (empty : before.elementType = none)
      (read : word? doc = some found) :
      Takes before ("Type", doc) { before with elementType := some found }
  | rank (doc : Doc) (found : UInt32) (empty : before.rank = none) (read : word? doc = some found) :
      Takes before ("Rank", doc) { before with rank := some found }
  | number (doc : Doc) (found : Int) (empty : before.number = none)
      (read : int? doc = some found) :
      Takes before ("ErrorNumber", doc) { before with number := some found }
  | message (doc : Doc) (found : String) (empty : before.message = none)
      (read : message? doc = some found) :
      Takes before ("ErrorMessage", doc) { before with message := some found }
  | client (doc : Doc) (found : UInt32) (empty : before.client = none)
      (read : word? doc = some found) :
      Takes before ("ClientTransactionID", doc) { before with client := some found }
  | server (doc : Doc) (found : UInt32) (empty : before.server = none)
      (read : word? doc = some found) :
      Takes before ("ServerTransactionID", doc) { before with server := some found }
  | other (name : String) (doc : Doc) (other : name ∉ fieldNames) : Takes before (name, doc) before

theorem take_takes {before after : Envelope} {field : String × Doc}
    (htake : before.take field = some after) : Takes before field after := by
  obtain ⟨name, doc⟩ := field
  unfold Envelope.take at htake
  dsimp only at htake
  split at htake
  case h_8 hvalue htype hrank hnumber hmessage hclient hserver =>
    cases htake
    refine .other name doc ?_
    simp only [fieldNames, List.mem_cons, List.not_mem_nil, or_false, not_or]
    exact ⟨hvalue, htype, hrank, hnumber, hmessage, hclient, hserver⟩
  all_goals
    obtain ⟨stored, hstore, rfl⟩ := Option.map_eq_some_iff.mp htake
    obtain ⟨hempty, found, hread, rfl⟩ := store_some hstore
  · exact .value doc found hempty hread
  · exact .elementType doc found hempty hread
  · exact .rank doc found hempty hread
  · exact .number doc found hempty hread
  · exact .message doc found hempty hread
  · exact .client doc found hempty hread
  · exact .server doc found hempty hread

theorem other_slot {α : Type} {slot : Slot α} {name : String} (hslot : slot.name ∈ fieldNames)
    (hother : name ∉ fieldNames) : name ≠ slot.name := fun hname => hother (hname ▸ hslot)

theorem slots_fill : Slot.value.Fills ∧ Slot.elementType.Fills ∧ Slot.rank.Fills
    ∧ Slot.number.Fills ∧ Slot.message.Fills ∧ Slot.client.Fills ∧ Slot.server.Fills := by
  refine ⟨?_, ?_, ?_, ?_, ?_, ?_, ?_⟩
  all_goals
    intro before after field htake
    cases take_takes htake
    -- the field of the slot, a field of no slot, or the field of another slot
    all_goals first
      | rename_i doc found hempty hread
        exact ⟨fun _ => ⟨hempty, found, hread, rfl⟩, fun hne => absurd rfl hne⟩
      | rename_i name doc hother
        exact ⟨fun hname => absurd hname (other_slot (by decide) hother), fun _ => rfl⟩
      | exact ⟨fun hname => absurd hname (by dsimp only; decide), fun _ => rfl⟩

theorem Slot.Fills.fields {α : Type} {slot : Slot α} (hfills : slot.Fills) {seen : Nat}
    {fields : List (String × Doc)} {before after : Envelope}
    (htake : takeFields seen before fields = some after) :
    (named slot.name fields = [] ∧ slot.get after = slot.get before) ∨
      ∃ doc value, named slot.name fields = [(slot.name, doc)] ∧ slot.read doc = some value
        ∧ slot.get before = none ∧ slot.get after = some value := by
  induction fields generalizing seen before with
  | nil =>
    cases htake
    exact .inl ⟨rfl, rfl⟩
  | cons field fields ih =>
    simp only [takeFields] at htake
    split at htake
    · cases htake
    obtain ⟨middle, hfirst, hrest⟩ := Option.bind_eq_some_iff.mp htake
    obtain ⟨hown, hother⟩ := hfills before middle field hfirst
    by_cases hname : field.1 = slot.name
    · obtain ⟨hempty, value, hread, hfilled⟩ := hown hname
      rcases ih hrest with ⟨hnone, hsame⟩ | ⟨_, _, _, _, hfree, _⟩
      · obtain ⟨name, doc⟩ := field
        obtain rfl : name = slot.name := hname
        refine .inr ⟨doc, value, ?_, hread, hempty, hsame.trans hfilled⟩
        simpa [named] using hnone
      · rw [hfilled] at hfree
        cases hfree
    · have hskip : named slot.name (field :: fields) = named slot.name fields := by
        simp [named, hname]
      rw [hskip, ← hother hname]
      exact ih hrest

def Slot.Holds {α : Type} (slot : Slot α) (fields : List (String × Doc)) (found : Envelope) : Prop :=
  (named slot.name fields = [] ∧ slot.get found = none) ∨
    ∃ doc value, named slot.name fields = [(slot.name, doc)] ∧ slot.read doc = some value
      ∧ slot.get found = some value

theorem Slot.Fills.holds {α : Type} {slot : Slot α} (hfills : slot.Fills)
    (hdefault : slot.get .default = none) {fields : List (String × Doc)} {found : Envelope}
    (htake : takeFields 0 .default fields = some found) : slot.Holds fields found := by
  rcases hfills.fields htake with ⟨hnone, hsame⟩ | ⟨doc, value, hnamed, hread, -, hget⟩
  · exact .inl ⟨hnone, hsame.trans hdefault⟩
  · exact .inr ⟨doc, value, hnamed, hread, hget⟩

section

variable {α : Type} {slot : Slot α} {fields : List (String × Doc)} {found : Envelope}

theorem Slot.Holds.once (h : slot.Holds fields found) : (named slot.name fields).length ≤ 1 := by
  rcases h with ⟨hnone, -⟩ | ⟨doc, value, hone, -⟩
  · simp [hnone]
  · simp [hone]

theorem Slot.Holds.present {value : α} (h : slot.Holds fields found)
    (hget : slot.get found = some value) :
    ∃ doc, named slot.name fields = [(slot.name, doc)] ∧ slot.read doc = some value := by
  rcases h with ⟨-, hempty⟩ | ⟨doc, other, hone, hread, hother⟩
  · rw [hempty] at hget
    cases hget
  · exact ⟨doc, hone, by rw [hread, ← hother, hget]⟩

theorem Slot.Holds.reads {value : α} (h : slot.Holds fields found)
    (hall : ∀ other ∈ slot.get found, other = value) :
    ∀ field ∈ named slot.name fields, slot.read field.2 = some value := by
  intro field hmem
  rcases h with ⟨hnone, -⟩ | ⟨doc, other, hone, hread, hget⟩
  · simp [hnone] at hmem
  · obtain rfl : field = (slot.name, doc) := by simpa [hone] using hmem
    rw [hread, hall other hget]

end

/-- What the finished envelope says about the geometry that it announces. -/
structure Announced (envelope : Envelope) (transaction : UInt32) (descriptor : ImageDescriptor) :
    Prop where
  client : ∀ id ∈ envelope.client, id = transaction
  number : ∀ number ∈ envelope.number, number = 0
  message : ∀ message ∈ envelope.message, message = ""
  value : envelope.value ≠ none
  rank : envelope.rank = some (if descriptor.planes.isSome then 3 else 2)
  elementType : envelope.elementType = some descriptor.elementType.id
  transmissionType : descriptor.transmissionType = descriptor.elementType
  order : descriptor.order = .ascom

theorem id_fromId {id : UInt32} (hid : ElementType.fromId id = .ok kind) : kind.id = id := by
  unfold ElementType.fromId at hid
  repeat' split at hid
  all_goals
    cases hid
    try exact (‹id = _›).symm

theorem ofWire_wire {wire : DescriptorWire} (hwire : ImageDescriptor.ofWire wire = .ok descriptor) :
    descriptor.toDescriptorWire = wire := by
  unfold ImageDescriptor.ofWire at hwire
  split at hwire
  · cases hwire
    rfl
  · cases hwire

theorem mapError_ok {ε ε' α : Type} {wrap : ε → ε'} {result : Except ε α} {value : α}
    (hresult : result.mapError wrap = .ok value) : result = .ok value := by
  cases result with
  | error error => cases hresult
  | ok value =>
    cases hresult
    rfl

theorem any_false {α : Type} {test : α → Bool} {slot : Option α} (hslot : slot.any test = false) :
    ∀ value ∈ slot, test value = false := by
  intro value hvalue
  rw [Option.mem_def] at hvalue
  rw [hvalue] at hslot
  exact hslot

theorem announced_of_shape {envelope : Envelope} {transaction : UInt32}
    {descriptor : ImageDescriptor} {shape : Shape} {kind : ElementType}
    (hwire : descriptor.toDescriptorWire = ⟨UInt32.ofNat shape.dimensions.1,
      UInt32.ofNat shape.dimensions.2.1,
      if shape.rank = 3 then some (UInt32.ofNat shape.dimensions.2.2) else none, kind, kind, .ascom⟩)
    (hclient : envelope.client.any (fun id => id ≠ transaction) = false)
    (hnumber : envelope.number.getD 0 = 0)
    (hmessage : envelope.message.any (fun message => !message.isEmpty) = false)
    (hvalue : envelope.value = some shape)
    (hshape : (!(decide (shape.rank = 2) || decide (shape.rank = 3))) = false)
    (hrank : envelope.rank = some (UInt32.ofNat shape.rank))
    (hkind : envelope.elementType = some kind.id) :
    Announced envelope transaction descriptor where
  client := fun id hid => by simpa using any_false hclient id hid
  number := by
    intro number hsome
    rw [Option.mem_def] at hsome
    simpa [hsome] using hnumber
  message := fun message hsome => by simpa using any_false hmessage message hsome
  value := by simp [hvalue]
  rank := by
    have hplanes := congrArg DescriptorWire.planes hwire
    rw [hrank, hplanes]
    simp only [Bool.not_eq_false', Bool.or_eq_true, decide_eq_true_eq] at hshape
    rcases hshape with htwo | hthree
    · simp [htwo]
    · simp [hthree]
  elementType := by
    have hsame := congrArg DescriptorWire.elementType hwire
    rw [hkind, hsame]
  transmissionType :=
    (congrArg DescriptorWire.transmissionType hwire).trans
      (congrArg DescriptorWire.elementType hwire).symm
  order := congrArg DescriptorWire.order hwire

theorem descriptor_announced {envelope : Envelope} {transaction : UInt32}
    (hdescriptor : envelope.descriptor transaction = .ok descriptor) :
    Announced envelope transaction descriptor := by
  unfold Envelope.descriptor at hdescriptor
  split at hdescriptor
  · cases hdescriptor
  next hidentity =>
    dsimp only at hdescriptor
    split at hdescriptor
    · cases hdescriptor
    next hnumber =>
      split at hdescriptor
      · cases hdescriptor
      next hmessage =>
        split at hdescriptor
        · cases hdescriptor
        next shape hshape =>
          split at hdescriptor
          · cases hdescriptor
          next hrank =>
            split at hdescriptor
            · cases hdescriptor
            next id hid =>
              cases hkind : ElementType.fromId id with
              | error error =>
                rw [hkind] at hdescriptor
                cases hdescriptor
              | ok kind =>
                simp only [hkind, Except.bind] at hdescriptor
                have hwire := ofWire_wire (mapError_ok hdescriptor)
                simp only [Bool.or_eq_true, not_or, Bool.not_eq_true, decide_eq_false_iff_not,
                  not_not] at hidentity hmessage hrank
                exact announced_of_shape hwire hidentity.1 (by simpa using hnumber) hmessage
                  hshape hrank.1 hrank.2 (id_fromId hkind ▸ hid)

def position (descriptor : ImageDescriptor) (x y plane : Nat) : List Nat :=
  [x, y] ++ descriptor.planes.toList.map fun _ => plane

theorem position_within {x y plane : Nat} (hx : x < descriptor.width.toNat)
    (hy : y < descriptor.height.toNat) (hplane : plane < descriptor.planeCount) :
    Within (dimensions descriptor) (position descriptor x y plane) := by
  simp only [dimensions, position]
  cases hplanes : descriptor.planes with
  | none => exact ⟨hx, hy, trivial⟩
  | some planes =>
    simp only [DescriptorWire.planeCount, hplanes, Option.getD_some] at hplane
    exact ⟨hx, hy, hplane, trivial⟩

theorem position_index {x y plane : Nat} (hplane : plane < descriptor.planeCount) :
    pathIndex (dimensions descriptor) (position descriptor x y plane)
      = gridIndex descriptor.height.toNat descriptor.planeCount x y plane := by
  simp only [dimensions, position, gridIndex, DescriptorWire.planeCount] at hplane ⊢
  cases hplanes : descriptor.planes with
  | none =>
    obtain rfl : plane = 0 := by simpa [hplanes] using hplane
    simp [pathIndex]
  | some planes =>
    simp only [Option.toList_some, List.map_cons, List.map_nil, List.cons_append, List.nil_append,
      pathIndex, List.prod_cons, List.prod_nil, Option.getD_some, Nat.mul_one, Nat.add_zero,
      Nat.add_mul, Nat.mul_assoc, Nat.add_assoc]

theorem dimensions_pos (descriptor : ImageDescriptor) :
    ∀ dimension ∈ dimensions descriptor, 0 < dimension := by
  obtain ⟨hwidth, hheight, hplanes⟩ := descriptor.dimensions
  intro dimension hmem
  simp only [dimensions, List.mem_append, List.mem_cons, List.not_mem_nil, or_false, List.mem_map,
    Option.mem_toList] at hmem
  rcases hmem with (rfl | rfl) | ⟨planes, hsome, rfl⟩
  · exact hwidth
  · exact hheight
  · simpa [DescriptorWire.planeCount, hsome] using hplanes

/-- A response that announces an image: every field at most once, and no error. -/
structure Response (fields : List (String × Doc)) (transaction : UInt32) (value : Doc)
    (descriptor : ImageDescriptor) : Prop where
  once : ∀ name ∈ fieldNames, (named name fields).length ≤ 1
  array : named "Value" fields = [("Value", value)]
  elementType : ∃ doc, named "Type" fields = [("Type", doc)]
    ∧ word? doc = some descriptor.elementType.id
  rank : ∃ doc, named "Rank" fields = [("Rank", doc)]
    ∧ word? doc = some (if descriptor.planes.isSome then 3 else 2)
  number : ∀ field ∈ named "ErrorNumber" fields, int? field.2 = some 0
  message : ∀ field ∈ named "ErrorMessage" fields, message? field.2 = some ""
  client : ∀ field ∈ named "ClientTransactionID" fields, word? field.2 = some transaction

/-- The image is the array: in its geometry, in every element, and as ImageBytes. -/
structure Shows (value : Doc) (image : CameraImage) : Prop where
  rectangular : Rectangular (dimensions image.descriptor) value
  nonempty : ∀ dimension ∈ dimensions image.descriptor, 0 < dimension
  transmissionType : image.descriptor.transmissionType = image.descriptor.elementType
  order : image.descriptor.order = .ascom
  element : ∀ x y plane, x < image.descriptor.width.toNat → y < image.descriptor.height.toNat →
    plane < image.descriptor.planeCount →
    ∃ number, value.at_ (position image.descriptor x y plane) = some number
      ∧ number.encode image.descriptor.elementType = some (image.element x y plane)
  imagebytes : ∃ bytes,
    encoding image.descriptor.elementType (dimensions image.descriptor) value = some bytes
      ∧ ∀ budget rest client server, budget.reserve image.descriptor.byteLen = .ok rest →
        readImagebytes budget client (image.descriptor.imagebytesHeader client server ++ bytes)
          = .ok ⟨client, server, image⟩

theorem response_of_announced {fields : List (String × Doc)} {found : Envelope}
    {transaction : UInt32} {value : Doc} (htake : takeFields 0 .default fields = some found)
    (hannounced : Announced found transaction descriptor)
    (harray : named "Value" fields = [("Value", value)]) :
    Response fields transaction value descriptor := by
  obtain ⟨hvalue, htype, hrank, hnumber, hmessage, hclient, hserver⟩ := slots_fill
  have hvalue := hvalue.holds rfl htake
  have htype := htype.holds rfl htake
  have hrank := hrank.holds rfl htake
  have hnumber := hnumber.holds rfl htake
  have hmessage := hmessage.holds rfl htake
  have hclient := hclient.holds rfl htake
  have hserver := hserver.holds rfl htake
  exact {
    once := by
      simp only [fieldNames, List.forall_mem_cons]
      exact ⟨hvalue.once, htype.once, hrank.once, hnumber.once, hmessage.once, hclient.once,
        hserver.once, by simp⟩
    array := harray
    elementType := htype.present hannounced.elementType
    rank := hrank.present hannounced.rank
    number := hnumber.reads hannounced.number
    message := hmessage.reads hannounced.message
    client := hclient.reads hannounced.client }

theorem readImagebytes_serial {budget rest : ImageBudget} {image : CameraImage}
    (client server : UInt32) (horder : image.descriptor.order = .ascom)
    (hroom : budget.reserve image.descriptor.byteLen = .ok rest) :
    readImagebytes budget client (image.descriptor.imagebytesHeader client server ++ image.bytes)
      = .ok ⟨client, server, image⟩ := by
  obtain ⟨⟨⟨_, _, _, _, _, order⟩, _⟩, _, hsized⟩ := image
  cases horder
  exact readImagebytes_header client server hsized hroom

theorem shows_of_encoding {value : Doc} {image : CameraImage}
    (hkind : image.descriptor.transmissionType = image.descriptor.elementType)
    (horder : image.descriptor.order = .ascom)
    (hencoding : encoding image.descriptor.elementType (dimensions image.descriptor) value
      = some image.bytes) : Shows value image where
  rectangular := encoding_rectangular hencoding
  nonempty := dimensions_pos image.descriptor
  transmissionType := hkind
  order := horder
  element := by
    intro x y plane hx hy hplane
    obtain ⟨number, hat, hencode⟩ :=
      (encoding_spec hencoding).2 _ (position_within hx hy hplane)
    refine ⟨number, hat, ?_⟩
    rw [hencode, position_index hplane]
    simp only [CameraImage.element, horder, CameraImage.stored, hkind]
  imagebytes := by
    refine ⟨image.bytes, hencoding, fun budget rest client server hroom => ?_⟩
    exact readImagebytes_serial client server horder hroom

/-- Whatever the sizes in which a response arrives, it yields an image only if it announces
one without an error, and the image is the announced array. -/
theorem readJsonImage_agrees {parse : List UInt8 → Option Doc} {budgets : Nat → ImageBudget}
    {sizes : List Nat} {transaction : UInt32} {body : List UInt8} {image : CameraImage}
    (hread : readJsonImage parse budgets sizes transaction body = .ok image) :
    ∃ fields value, parse body = some (.object fields)
      ∧ Response fields transaction value image.descriptor ∧ Shows value image := by
  obtain ⟨budget, hdecode⟩ := readJsonImage_decode hread
  unfold decode at hdecode
  split at hdecode
  · cases hdecode
  next descriptor hdescriptor =>
    split at hdecode
    · cases hdecode
    split at hdecode
    · cases hdecode
    next filled hfilled =>
      cases hdecode
      obtain ⟨doc, hparse, hpixels⟩ := Option.bind_eq_some_iff.mp hfilled
      obtain ⟨fields, value, rfl, harray, hencoding⟩ := pixels_encoding hpixels
      unfold readDescriptor at hdescriptor
      split at hdescriptor
      · cases hdescriptor
      next found hfound =>
        simp only [hparse, Option.bind_some, envelope] at hfound
        have hannounced := descriptor_announced hdescriptor
        exact ⟨fields, value, hparse, response_of_announced hfound hannounced harray,
          shows_of_encoding hannounced.transmissionType hannounced.order hencoding⟩

def smallResponse : List UInt8 :=
  "\x7b\"Value\":[[1,2],[3,4],[5,6]],\"Type\":2,\"Rank\":2\x7d".toUTF8.data.toList

def smallParse (text : List UInt8) : Option Doc :=
  let pixel := fun value => Doc.number (.unsigned value)
  if text = smallResponse then
    some (.object [("Value", .array [.array [pixel 1, pixel 2], .array [pixel 3, pixel 4],
        .array [pixel 5, pixel 6]]), ("Type", pixel 2), ("Rank", pixel 2)])
  else none

/-- The small response in two reads. -/
theorem smallResponse_agrees : ∃ image,
    readJsonImage smallParse (fun _ => ⟨1000, 0⟩) [7, 100] 1 smallResponse = .ok image
      ∧ image.bytes = [1, 0, 0, 0, 2, 0, 0, 0, 3, 0, 0, 0, 4, 0, 0, 0, 5, 0, 0, 0, 6, 0, 0, 0]
      ∧ ∃ fields value, smallParse smallResponse = some (.object fields)
        ∧ Response fields 1 value image.descriptor ∧ Shows value image := by
  have hbytes : (readJsonImage smallParse (fun _ => ⟨1000, 0⟩) [7, 100] 1
      smallResponse).toOption.map CameraImage.bytes
      = some [1, 0, 0, 0, 2, 0, 0, 0, 3, 0, 0, 0, 4, 0, 0, 0, 5, 0, 0, 0, 6, 0, 0, 0] := by
    decide +kernel
  cases hread : readJsonImage smallParse (fun _ => ⟨1000, 0⟩) [7, 100] 1 smallResponse with
  | error error =>
    rw [hread] at hbytes
    cases hbytes
  | ok image =>
    rw [hread] at hbytes
    exact ⟨image, rfl, Option.some.inj hbytes, readJsonImage_agrees hread⟩

end Regain.Hub.JsonImage
