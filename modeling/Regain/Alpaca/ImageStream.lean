import Regain.Hub.Camera.ImageTransfer
import Regain.Lib.Stream

/-!
# Image bodies of the Alpaca server

A frame is sent column by column, as ImageBytes or as nested JSON arrays.
-/

namespace Regain.Alpaca

open Lib Hub

def ascii (text : String) : List UInt8 :=
  text.toList.map Char.toUInt8

def imageHeader (width height client server error : UInt32) : List UInt8 :=
  [1, error, client, server, 44, 2, 8, 2, width, height, 0].flatMap fun field =>
    littleEndian 4 field.toNat

/-- A frame of 16-bit pixels in rows. -/
structure Frame where
  width : UInt32
  height : UInt32
  image : CameraImage
  native : image.descriptor.toDescriptorWire
    = ⟨width, height, none, .int32, .uint16, .sensorRows⟩

namespace Frame

variable (frame : Frame)

def count : Nat :=
  frame.width.toNat * frame.height.toNat

def pixel (x y : Nat) : List UInt8 :=
  block frame.image.bytes 2 (y * frame.width.toNat + x)

def item (binary : Bool) (i : Nat) : List UInt8 :=
  let x := i / frame.height.toNat
  let y := i % frame.height.toNat
  if binary then frame.pixel x y
  else
    (if y = 0 then (if 0 < x then ascii "," else []) ++ ascii "[" else ascii ",")
      ++ ascii (toString (ofLittleEndian (frame.pixel x y)))
      ++ (if y + 1 = frame.height.toNat then ascii "]" else [])

def imagePrefix (binary : Bool) (client server : UInt32) : List UInt8 :=
  if binary then imageHeader frame.width frame.height client server 0
  else ascii ("\x7b\"ClientTransactionID\":" ++ toString client ++ ",\"ServerTransactionID\":"
    ++ toString server
    ++ ",\"ErrorNumber\":0,\"ErrorMessage\":\"\",\"Type\":2,\"Rank\":2,\"Value\":[")

/-- `image_response`: the pixels that were sent, and the prefix. -/
def imageStep (binary : Bool) :
    Nat × Option (List UInt8) → Option (List UInt8 × (Nat × Option (List UInt8)))
  | (i, some first) => some (first, (i, none))
  | (i, none) =>
    if frame.count < i then none
    else if i = frame.count then
      if binary then none else some (ascii "]\x7d", (frame.count + 1, none))
    else
      let filled := fill (frame.item binary) 65000 (frame.count - i) i []
      some (filled.1, (filled.2, none))

def contentLength : Nat :=
  44 + frame.count * 2

theorem element_image (x y : Nat) : frame.image.element x y 0 = frame.pixel x y := by
  simp [frame.native, CameraImage.element, CameraImage.stored, gridIndex, pixel,
    DescriptorWire.planeCount, ElementType.bytes]

theorem exported_image (i : Nat) : frame.image.exported i = frame.item true i := by
  simp [frame.native, item, CameraImage.exported, CameraImage.stored, ImageDescriptor.sourceIndex,
    transposeIndex, gridIndex, pixel, DescriptorWire.planeCount, ElementType.bytes, Nat.mod_one]

theorem elements_image : frame.image.descriptor.elements = frame.count := by
  simp [frame.native, count, DescriptorWire.elements, DescriptorWire.planeCount]

theorem length_item (binary : Bool) (i : Nat) : (frame.item binary i).length ≤ 8 := by
  generalize hpixel : frame.pixel (i / frame.height.toNat) (i % frame.height.toNat) = pixel
  have hlength : pixel.length ≤ 2 := by
    rw [← hpixel]
    exact List.length_take_le _ _
  have hvalue := ofLittleEndian_lt pixel
  have hpow := Nat.pow_le_pow_right (show 0 < 2 by decide) (Nat.mul_le_mul_left 8 hlength)
  have hdigits : (ascii (toString (ofLittleEndian pixel))).length ≤ 5 := by
    rw [ascii, List.length_map, Nat.toString_eq_ofList_toDigits, String.toList_ofList]
    exact (Nat.length_toDigits_le_iff (by decide) (by decide)).mpr (by omega)
  simp only [item, hpixel]
  cases binary with
  | true => exact Nat.le_trans hlength (by decide)
  | false =>
    simp only [Bool.false_eq_true, if_false, List.length_append]
    split_ifs <;> simp [ascii] at hdigits ⊢ <;> omega

theorem streams_rest (binary : Bool) {i : Nat} (hi : i ≤ frame.count) :
    ∃ chunks, Streams (frame.imageStep binary) (i, none) chunks
      ∧ chunks.flatten = (List.range' i (frame.count - i)).flatMap (frame.item binary)
        ++ (if binary then [] else ascii "]\x7d") ∧ ∀ chunk ∈ chunks, chunk.length < 65008 := by
  generalize hleft : frame.count - i = left
  induction left using Nat.strongRecOn generalizing i with
  | ind left ih =>
    by_cases hdone : i = frame.count
    · obtain rfl : left = 0 := by omega
      cases binary with
      | true => exact ⟨[], .done (by simp [imageStep, hdone]), by simp, by simp⟩
      | false =>
        have hend : frame.imageStep false (frame.count + 1, none) = none := by simp [imageStep]
        exact ⟨[ascii "]\x7d"], .next (by simp [imageStep, hdone]) (.done hend), by simp,
          by simp [ascii]⟩
    · obtain ⟨taken, htaken, hfill, hlength, hpos⟩ := fill_spec (frame.length_item binary) left i
        (show ([] : List UInt8).length < 65000 + 8 by decide)
      have hpos := hpos (by decide) (by omega)
      obtain ⟨chunks, hchunks, hflat, hall⟩ := ih (left - taken) (by omega)
        (show i + taken ≤ frame.count by omega) (by omega)
      have hstep : frame.imageStep binary (i, none)
          = some ((fill (frame.item binary) 65000 left i []).1, (i + taken, none)) := by
        rw [imageStep, if_neg (by omega), if_neg hdone, hleft, hfill]
      refine ⟨_, .next hstep hchunks, ?_, by simpa using ⟨hlength, hall⟩⟩
      have hrange : List.range' i left
          = List.range' i taken ++ List.range' (i + taken) (left - taken) := by
        rw [List.range'_append_1, Nat.add_sub_cancel' htaken]
      rw [List.flatten_cons, hflat, hfill, hrange, List.flatMap_append, List.append_assoc]
      simp

/-- The chunks of a response behind its prefix, all of them short. -/
def Sends (binary : Bool) (client server : UInt32) (chunks : List (List UInt8)) : Prop :=
  Streams (frame.imageStep binary) (0, some (frame.imagePrefix binary client server))
      (frame.imagePrefix binary client server :: chunks)
    ∧ ∀ chunk ∈ chunks, chunk.length < 65008

theorem sends (binary : Bool) (client server : UInt32) : ∃ chunks,
    frame.Sends binary client server chunks
      ∧ chunks.flatten = (List.range frame.count).flatMap (frame.item binary)
        ++ (if binary then [] else ascii "]\x7d") := by
  obtain ⟨chunks, hchunks, hflat, hbound⟩ := frame.streams_rest binary (Nat.zero_le _)
  rw [Nat.sub_zero, ← List.range_eq_range'] at hflat
  exact ⟨chunks, ⟨.next rfl hchunks, hbound⟩, hflat⟩

/-- The ImageBytes body has the announced length, and the hub's reader finds the frame in it. -/
theorem imageBytes_read (client server : UInt32) : ∃ chunks copy,
    frame.Sends true client server chunks
      ∧ (frame.imagePrefix true client server ++ chunks.flatten).length = frame.contentLength
      ∧ readImagebytes ⟨frame.image.bytes.length, 0⟩ client
          (frame.imagePrefix true client server ++ chunks.flatten) = .ok ⟨client, server, copy⟩
      ∧ CameraImage.SamePixels frame.image copy := by
  obtain ⟨chunks, hsends, hflat⟩ := frame.sends true client server
  have hpayload : chunks.flatten = frame.image.payload := by
    rw [hflat, CameraImage.payload, CameraImage.exportedRange, funext frame.exported_image,
      elements_image, List.range_eq_range']
    exact List.append_nil _
  have hheader : frame.imagePrefix true client server
      = frame.image.descriptor.imagebytesHeader client server := by
    simp [imagePrefix, imageHeader, ImageDescriptor.imagebytesHeader, frame.native, ElementType.id,
      imagebytesHeaderBytes]
  have hroom : ImageBudget.reserve ⟨frame.image.bytes.length, 0⟩
      frame.image.descriptor.serial.byteLen
        = .ok ⟨frame.image.bytes.length, 0 + frame.image.descriptor.serial.byteLen⟩ := by
    exact if_pos (by rw [Nat.zero_add, frame.image.sized]; rfl)
  refine ⟨chunks, _, hsends, ?_, ?_, frame.image.samePixels_payload⟩
  · rw [hheader, hpayload, List.length_append, CameraImage.payload,
      frame.image.length_exportedRange (by omega), elements_image,
      ImageDescriptor.length_imagebytesHeader]
    simp [frame.native, contentLength, imagebytesHeaderBytes, ElementType.bytes]
  · rw [hheader, hpayload]
    exact readImagebytes_header client server frame.image.length_payload hroom

/-- Three columns of two unsigned numbers each. -/
def columns : Frame where
  width := 3
  height := 2
  image := ⟨⟨⟨3, 2, none, .int32, .uint16, .sensorRows⟩, by decide⟩,
    [1, 0, 2, 0, 0xff, 0xff, 4, 0, 0x50, 0xc3, 6, 0], by decide⟩
  native := rfl

theorem imageBytes_read_columns : ∃ chunks copy,
    columns.Sends true 4294967295 42 chunks
      ∧ (columns.imagePrefix true 4294967295 42 ++ chunks.flatten).length = 56
      ∧ readImagebytes ⟨12, 0⟩ 4294967295
          (columns.imagePrefix true 4294967295 42 ++ chunks.flatten) = .ok ⟨4294967295, 42, copy⟩
      ∧ [(0, 0), (0, 1), (1, 0), (1, 1), (2, 0), (2, 1)].map
          (fun place => ofLittleEndian (copy.element place.1 place.2 0))
        = [1, 4, 2, 50000, 65535, 6] := by
  obtain ⟨chunks, copy, hsends, hlength, hread, hpixels⟩ := columns.imageBytes_read 4294967295 42
  refine ⟨chunks, copy, hsends, hlength, hread, ?_⟩
  have hinside : ∀ place ∈ [(0, 0), (0, 1), (1, 0), (1, 1), (2, 0), (2, 1)],
      place.1 < 3 ∧ place.2 < 2 := by
    decide
  rw [List.map_congr_left fun place hplace => congrArg ofLittleEndian
    (hpixels.element place.1 place.2 0 (hinside place hplace).1 (hinside place hplace).2 (by decide))]
  decide

/-- The JSON body holds one array a column, with one number a row. -/
theorem imageJson_arrays (client server : UInt32) : ∃ chunks, frame.Sends false client server chunks
      ∧ chunks.flatten = (ascii ",").intercalate ((List.range frame.width.toNat).map fun x =>
          ascii "[" ++ (ascii ",").intercalate ((List.range frame.height.toNat).map fun y =>
            ascii (toString (ofLittleEndian (frame.image.element x y 0)))) ++ ascii "]")
        ++ ascii "]\x7d" := by
  obtain ⟨chunks, hsends, hflat⟩ := frame.sends false client server
  obtain ⟨hwidth, hheight, -⟩ := frame.image.descriptor.dimensions
  rw [frame.native] at hwidth hheight
  refine ⟨chunks, hsends, ?_⟩
  have harrays := flatMap_arrays hheight frame.width.toNat (ascii ",")
    (fun x => (if 0 < x then ascii "," else []) ++ ascii "[") (fun _ => ascii "]")
    fun i => ascii (toString (ofLittleEndian
      (frame.pixel (i / frame.height.toNat) (i % frame.height.toNat))))
  have houter := flatMap_array hwidth [] (ascii ",") [] fun x =>
    ascii "[" ++ (ascii ",").intercalate ((List.range frame.height.toNat).map fun y =>
      ascii (toString (ofLittleEndian (frame.pixel x y)))) ++ ascii "]"
  rw [List.nil_append, List.append_nil] at houter
  simp only [element_image]
  rw [hflat, ← houter]
  refine congrArg (· ++ ascii "]\x7d") (harrays.trans (List.flatMap_congr fun x _ => ?_))
  have hinner : ∀ y ∈ List.range frame.height.toNat,
      frame.pixel ((x * frame.height.toNat + y) / frame.height.toNat)
        ((x * frame.height.toNat + y) % frame.height.toNat) = frame.pixel x y := by
    intro y hy
    have hy := List.mem_range.mp hy
    rw [Lib.mul_add_div_of_lt hy, Lib.mul_add_mod_of_lt hy]
  rw [List.map_congr_left fun y hy => by rw [hinner y hy]]
  rcases Nat.eq_zero_or_pos x with rfl | hx
  · simp
  · simp [hx, hx.ne']

theorem imageJson_arrays_columns : ∃ chunks, columns.Sends false 7 8 chunks
      ∧ chunks.flatten = ascii "[1,4],[2,50000],[65535,6]]\x7d" := by
  obtain ⟨chunks, hsends, hflat⟩ := columns.imageJson_arrays 7 8
  exact ⟨chunks, hsends, hflat.trans (by decide +kernel)⟩

end Frame

end Regain.Alpaca
