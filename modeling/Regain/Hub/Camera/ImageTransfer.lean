import Regain.Hub.Camera.Image

/-!
# Export and import of camera images

An image leaves in serial order, chunk by chunk, and comes back with the same
element at every position, whatever the order of its storage.
-/

namespace Regain.Hub

open Lib

namespace TransferBuffer

theorem overwrite_pos {storage items : List UInt8} (start : Nat) (hpos : 0 < storage.length) :
    0 < (overwrite storage start items).length := by
  simp only [overwrite, List.length_append, List.length_take, List.length_drop]
  omega

theorem place_pos (image : CameraImage) (size index : Nat) (elements : List Nat)
    {scratch : List UInt8} (hpos : 0 < scratch.length) :
    0 < (place image size scratch index elements).length := by
  induction elements generalizing scratch index with
  | nil => exact hpos
  | cons element elements ih => exact ih (index + 1) (overwrite_pos _ hpos)

theorem filledScratch_pos (buffer : TransferBuffer) (image : CameraImage) (offset : Nat) :
    0 < (buffer.filledScratch image offset).1.length := by
  unfold filledScratch
  dsimp only
  split
  · exact overwrite_pos 0 buffer.filled
  · exact place_pos image _ 0 _ buffer.filled

def fill (buffer : TransferBuffer) (image : CameraImage) (offset : Nat) :
    List UInt8 × TransferBuffer :=
  let filled := buffer.filledScratch image offset
  (filled.1.take filled.2, ⟨filled.1, buffer.filledScratch_pos image offset⟩)

theorem fill_pos (buffer : TransferBuffer) {image : CameraImage} {offset : Nat}
    (hoffset : offset < image.bytes.length) : 0 < (buffer.fill image offset).1.length := by
  have hscratch := buffer.filledScratch_pos image offset
  have hlength : (buffer.filledScratch image offset).2
      = min (image.bytes.length - offset) buffer.bytes.length := by
    unfold filledScratch
    dsimp only
    split <;> rfl
  have hfilled := buffer.filled
  simp only [fill, List.length_take, hlength]
  omega

end TransferBuffer

namespace CameraImage

def chunks (image : CameraImage) (buffer : TransferBuffer) (offset : Nat) : List (List UInt8) :=
  if _hoffset : offset < image.bytes.length then
    (buffer.fill image offset).1
      :: image.chunks (buffer.fill image offset).2 (offset + (buffer.fill image offset).1.length)
  else []
termination_by image.bytes.length - offset
decreasing_by
  have hpos := buffer.fill_pos _hoffset
  omega

end CameraImage

namespace ImageDescriptor

def sourceIndex (descriptor : ImageDescriptor) (element : Nat) : Nat :=
  if descriptor.order = .ascom then element
  else transposeIndex descriptor.height.toNat descriptor.width.toNat descriptor.planeCount element

theorem ascomOffset_eq (descriptor : ImageDescriptor) (element : Nat) :
    descriptor.ascomOffset element
      = descriptor.sourceIndex element * descriptor.transmissionType.bytes := by
  unfold ascomOffset sourceIndex
  split
  · rfl
  · rfl

theorem sourceIndex_perm (descriptor : ImageDescriptor) :
    ((List.range descriptor.elements).map descriptor.sourceIndex).Perm
      (List.range descriptor.elements) := by
  cases horder : descriptor.order with
  | ascom =>
    have hsame : descriptor.sourceIndex = id := by
      funext element
      simp [sourceIndex, horder]
    rw [hsame, List.map_id]
  | sensorRows =>
    have hsame : descriptor.sourceIndex = transposeIndex descriptor.height.toNat
        descriptor.width.toNat descriptor.planeCount := by
      funext element
      simp [sourceIndex, horder]
    rw [hsame]
    exact transposeIndex_perm _ _ _

theorem sourceIndex_lt {descriptor : ImageDescriptor} {element : Nat}
    (helement : element < descriptor.elements) :
    descriptor.sourceIndex element < descriptor.elements := by
  have hmem : descriptor.sourceIndex element
      ∈ (List.range descriptor.elements).map descriptor.sourceIndex :=
    List.mem_map_of_mem (List.mem_range.mpr helement)
  exact List.mem_range.mp (descriptor.sourceIndex_perm.mem_iff.mp hmem)

end ImageDescriptor

namespace CameraImage

variable (image : CameraImage)

def exported (element : Nat) : List UInt8 :=
  image.stored (image.descriptor.sourceIndex element)

theorem length_bytes :
    image.bytes.length = image.descriptor.elements * image.descriptor.transmissionType.bytes :=
  image.sized

theorem length_stored {index : Nat} (hindex : index < image.descriptor.elements) :
    (image.stored index).length = image.descriptor.transmissionType.bytes := by
  refine length_block ?_
  rw [image.length_bytes]
  exact Nat.mul_le_mul_right _ hindex

theorem length_exported {element : Nat} (helement : element < image.descriptor.elements) :
    (image.exported element).length = image.descriptor.transmissionType.bytes :=
  image.length_stored (ImageDescriptor.sourceIndex_lt helement)

theorem slice_ascomOffset (element : Nat) :
    image.slice (image.descriptor.ascomOffset element) image.descriptor.transmissionType.bytes
      = image.exported element := by
  rw [ImageDescriptor.ascomOffset_eq]
  rfl

def exportedRange (start count : Nat) : List UInt8 :=
  (List.range' start count).flatMap image.exported

variable {start count : Nat}

theorem length_exportedRange
    (hrange : start + count ≤ image.descriptor.elements) : (image.exportedRange start count).length
      = count * image.descriptor.transmissionType.bytes := by
  induction count generalizing start with
  | zero => simp [exportedRange]
  | succ count ih =>
    have hbound : start + 1 + count ≤ image.descriptor.elements := by omega
    have hrest := ih hbound
    simp only [exportedRange, List.range'_succ, List.flatMap_cons, List.length_append] at hrest ⊢
    rw [hrest, image.length_exported (by omega), Nat.succ_mul, Nat.add_comm]

theorem exportedRange_append (start count count' : Nat) :
    image.exportedRange start count ++ image.exportedRange (start + count) count'
      = image.exportedRange start (count + count') := by
  simp [exportedRange, ← List.flatMap_append, List.range'_append_1]

theorem slice_exportedRange (horder : image.descriptor.order = .ascom) (start count : Nat) :
    image.slice (start * image.descriptor.transmissionType.bytes)
        (count * image.descriptor.transmissionType.bytes) = image.exportedRange start count := by
  have hsame : image.exported = block image.bytes image.descriptor.transmissionType.bytes := by
    funext element
    simp [exported, stored, ImageDescriptor.sourceIndex, horder]
  rw [exportedRange, hsame, take_drop_block]
  rfl

theorem elementRange_mul {size : Nat} (hsize : 0 < size) (start count : Nat) :
    elementRange size (start * size) (count * size) = List.range' start count := by
  rw [elementRange, ← Nat.add_mul, Nat.mul_div_cancel _ hsize, Nat.mul_div_cancel _ hsize,
    Nat.add_sub_cancel_left]

theorem imagebytesChunk_eq (hstart : start ≤ image.descriptor.elements) (hcount : 0 < count)
    (hbound : count * image.descriptor.transmissionType.bytes ≤ imageChunkBytes) :
    image.imagebytesChunk (start * image.descriptor.transmissionType.bytes)
        (count * image.descriptor.transmissionType.bytes)
      = .ok (image.exportedRange start (min (image.descriptor.elements - start) count)) := by
  have hsize := image.descriptor.transmissionType.bytes_pos
  have hoffset : start * image.descriptor.transmissionType.bytes ≤ image.bytes.length := by
    rw [image.length_bytes]
    exact Nat.mul_le_mul_right _ hstart
  have hwhole : image.descriptor.transmissionType.bytes
      ≤ count * image.descriptor.transmissionType.bytes := Nat.le_mul_of_pos_left _ hcount
  have hlength : min (image.bytes.length - start * image.descriptor.transmissionType.bytes)
      (count * image.descriptor.transmissionType.bytes / image.descriptor.transmissionType.bytes
        * image.descriptor.transmissionType.bytes)
      = min (image.descriptor.elements - start) count
        * image.descriptor.transmissionType.bytes := by
    rw [image.length_bytes, Nat.mul_div_cancel _ hsize, ← Nat.sub_mul, Nat.mul_min_mul_right]
  unfold imagebytesChunk
  dsimp only
  rw [hlength, if_neg (by simp; omega)]
  split
  next horder => rw [image.slice_exportedRange horder]
  next => simp only [elementRange_mul hsize, slice_ascomOffset, exportedRange]

theorem take_place {size index : Nat} {elements : List Nat} {scratch : List UInt8}
    (hsize : ∀ element ∈ elements,
      (image.slice (image.descriptor.ascomOffset element) size).length = size)
    (hfits : (index + elements.length) * size ≤ scratch.length) :
    (TransferBuffer.place image size scratch index elements).take ((index + elements.length) * size)
        = scratch.take (index * size)
          ++ elements.flatMap (fun element => image.slice (image.descriptor.ascomOffset element) size)
      ∧ (TransferBuffer.place image size scratch index elements).length = scratch.length := by
  induction elements generalizing index scratch with
  | nil => simp [TransferBuffer.place]
  | cons element elements ih =>
    have hslice := hsize element List.mem_cons_self
    have hnext : (index + (elements.length + 1)) * size
        = index * size + size + elements.length * size := by
      rw [Nat.add_mul, Nat.succ_mul]
      omega
    have hroom : index * size + size + elements.length * size ≤ scratch.length := by
      rw [List.length_cons, hnext] at hfits
      exact hfits
    have hwritten := take_overwrite scratch
      (image.slice (image.descriptor.ascomOffset element) size)
      (show index * size ≤ scratch.length by omega)
    have hkept := length_overwrite scratch
      (image.slice (image.descriptor.ascomOffset element) size)
      (show index * size + _ ≤ scratch.length by omega)
    rw [hslice] at hwritten
    have hfits' : (index + 1 + elements.length) * size ≤ (overwrite scratch (index * size)
        (image.slice (image.descriptor.ascomOffset element) size)).length := by
      rw [hkept, Nat.add_mul, Nat.succ_mul]
      exact hroom
    obtain ⟨hplaced, hlength⟩ := ih
      (fun element hmem => hsize element (List.mem_cons_of_mem _ hmem)) hfits'
    refine ⟨?_, hlength.trans hkept⟩
    have hcount : index + (elements.length + 1) = index + 1 + elements.length := by omega
    rw [List.length_cons, hcount, TransferBuffer.place, hplaced, Nat.succ_mul, hwritten,
      List.flatMap_cons, List.append_assoc]

variable {buffer : TransferBuffer}

theorem fill_eq (hbuffer : buffer.bytes.length = count * image.descriptor.transmissionType.bytes)
    (hstart : start ≤ image.descriptor.elements) :
    (buffer.fill image (start * image.descriptor.transmissionType.bytes)).1
        = image.exportedRange start (min (image.descriptor.elements - start) count)
      ∧ (buffer.fill image (start * image.descriptor.transmissionType.bytes)).2.bytes.length
        = buffer.bytes.length := by
  have hsize := image.descriptor.transmissionType.bytes_pos
  have hlength : min (image.bytes.length - start * image.descriptor.transmissionType.bytes)
      buffer.bytes.length
      = min (image.descriptor.elements - start) count
        * image.descriptor.transmissionType.bytes := by
    rw [image.length_bytes, hbuffer, ← Nat.sub_mul, Nat.mul_min_mul_right]
  have hrange : start + min (image.descriptor.elements - start) count ≤ image.descriptor.elements := by
    omega
  have hroom : min (image.descriptor.elements - start) count
      * image.descriptor.transmissionType.bytes ≤ buffer.bytes.length := by omega
  simp only [TransferBuffer.fill, TransferBuffer.filledScratch, hlength]
  split
  next horder =>
    rw [image.slice_exportedRange horder]
    have hexported := image.length_exportedRange hrange
    have hwritten := take_overwrite buffer.bytes
      (image.exportedRange start (min (image.descriptor.elements - start) count))
      (Nat.zero_le buffer.bytes.length)
    rw [hexported] at hwritten
    refine ⟨by simpa using hwritten, length_overwrite _ _ ?_⟩
    omega
  next =>
    rw [elementRange_mul hsize]
    have hslices : ∀ element ∈ List.range' start (min (image.descriptor.elements - start) count),
        (image.slice (image.descriptor.ascomOffset element)
          image.descriptor.transmissionType.bytes).length
            = image.descriptor.transmissionType.bytes := by
      intro element hmem
      rw [slice_ascomOffset]
      refine image.length_exported ?_
      rw [List.mem_range'_1] at hmem
      omega
    obtain ⟨hplaced, hkept⟩ := image.take_place hslices
      (show (0 + _) * _ ≤ buffer.bytes.length by simpa using hroom)
    refine ⟨?_, hkept⟩
    simpa [slice_ascomOffset, exportedRange] using hplaced

theorem chunks_flatten
    (hbuffer : buffer.bytes.length = count * image.descriptor.transmissionType.bytes)
    (hstart : start ≤ image.descriptor.elements) :
    (image.chunks buffer (start * image.descriptor.transmissionType.bytes)).flatten
      = image.exportedRange start (image.descriptor.elements - start) := by
  have hsize := image.descriptor.transmissionType.bytes_pos
  have hcount : 0 < count := Nat.pos_of_ne_zero fun h => by
    have hfilled := buffer.filled
    simp [hbuffer, h] at hfilled
  generalize hleft : image.descriptor.elements - start = left
  induction left using Nat.strongRecOn generalizing start buffer with
  | ind left ih =>
    obtain ⟨hfilled, hkept⟩ := image.fill_eq hbuffer hstart
    rw [chunks]
    by_cases hdone : start = image.descriptor.elements
    · rw [dif_neg (by rw [hdone, image.length_bytes]; exact Nat.lt_irrefl _)]
      obtain rfl : left = 0 := by omega
      rfl
    · have hmore : start * image.descriptor.transmissionType.bytes < image.bytes.length := by
        rw [image.length_bytes]
        exact Nat.mul_lt_mul_of_pos_right (by omega) hsize
      have hchunk : start + min left count ≤ image.descriptor.elements := by omega
      rw [hleft] at hfilled
      rw [dif_pos hmore, List.flatten_cons, hfilled, image.length_exportedRange hchunk, ← Nat.add_mul,
        ih (left - min left count) (by omega) (hkept.trans hbuffer) hchunk (by omega),
        exportedRange_append]
      congr 1
      omega

theorem transferBuffer_aligned {budget rest : ImageBudget}
    (hbuffer : image.transferBuffer budget = .ok (buffer, rest)) :
    ∃ count, buffer.bytes.length = count * image.descriptor.transmissionType.bytes := by
  have hlength : buffer.bytes.length = min image.bytes.length imageChunkBytes := by
    unfold transferBuffer at hbuffer
    dsimp only at hbuffer
    split at hbuffer
    · cases hbuffer
    · cases hbuffer
      exact List.length_replicate
  rw [hlength, image.length_bytes]
  obtain ⟨count, hcount⟩ := image.descriptor.transmissionType.bytes_dvd_chunk
  by_cases hle : image.descriptor.elements * image.descriptor.transmissionType.bytes ≤ imageChunkBytes
  · exact ⟨_, Nat.min_eq_left hle⟩
  · exact ⟨count, by rw [Nat.min_eq_right (by omega), hcount, Nat.mul_comm]⟩

end CameraImage

theorem words_flatMap (fields : List UInt32) :
    words (fields.flatMap fun field => littleEndian 4 field.toNat)
      = fields.map fun field => field.toNat := by
  induction fields with
  | nil => rfl
  | cons field fields ih =>
    rw [List.flatMap_cons, words_littleEndian _ _ field.toNat_lt, ih, List.map_cons]

namespace ImageDescriptor

variable (descriptor : ImageDescriptor) (client server : UInt32)

theorem length_imagebytesHeader :
    (descriptor.imagebytesHeader client server).length = imagebytesHeaderBytes := by
  simp [imagebytesHeader, length_littleEndian, imagebytesHeaderBytes]

theorem ofBytes_imagebytesHeader :
    ImageRead.Header.ofBytes (descriptor.imagebytesHeader client server) = {
      version := 1
      error := 0
      client := client
      server := server
      dataStart := 44
      elementType := descriptor.elementType.id
      transmissionType := descriptor.transmissionType.id
      rank := if descriptor.planes.isSome then 3 else 2
      width := descriptor.width
      height := descriptor.height
      planes := descriptor.planes.getD 0 } := by
  unfold ImageRead.Header.ofBytes imagebytesHeader
  rw [words_flatMap]
  simp [imagebytesHeaderBytes]

def serial : ImageDescriptor where
  toDescriptorWire := { descriptor.toDescriptorWire with order := .ascom }
  checked := descriptor.checked

theorem planeCount_imagebytesHeader :
    (ImageRead.Header.ofBytes (descriptor.imagebytesHeader client server)).planeCount
      = some descriptor.planes := by
  have hpositive := descriptor.dimensions.2.2
  rw [ofBytes_imagebytesHeader, ImageRead.Header.planeCount]
  cases hplanes : descriptor.planes with
  | none => simp
  | some planes =>
    have hne : planes ≠ 0 := by
      rintro rfl
      simp [DescriptorWire.planeCount, hplanes] at hpositive
    simp [hne]

theorem descriptor_imagebytesHeader :
    (ImageRead.Header.ofBytes (descriptor.imagebytesHeader client server)).descriptor
      = .ok (some descriptor.serial) := by
  have hplanes := descriptor.planeCount_imagebytesHeader client server
  have hnew : ImageDescriptor.new descriptor.width descriptor.height descriptor.planes
      descriptor.elementType descriptor.transmissionType .ascom = .ok descriptor.serial :=
    ofWire_ok descriptor.serial.checked
  unfold ImageRead.Header.descriptor
  rw [hplanes, ofBytes_imagebytesHeader]
  simp only [if_true, ElementType.fromId_id, bind, Except.bind, pure, Except.pure, hnew]

end ImageDescriptor

theorem readImagebytes_header {budget rest : ImageBudget} {descriptor : ImageDescriptor}
    {payload : List UInt8} (client server : UInt32)
    (hpayload : payload.length = descriptor.serial.byteLen)
    (hroom : budget.reserve descriptor.serial.byteLen = .ok rest) :
    readImagebytes budget client (descriptor.imagebytesHeader client server ++ payload)
      = .ok ⟨client, server, ⟨descriptor.serial, payload, hpayload⟩⟩ := by
  have hlength := descriptor.length_imagebytesHeader client server
  have hexact : ImageRead.exactly imagebytesHeaderBytes
      (descriptor.imagebytesHeader client server ++ payload)
      = .ok (descriptor.imagebytesHeader client server, payload) := by
    rw [ImageRead.exactly, if_pos (by simp [hlength]), ← hlength, List.take_left, List.drop_left]
  have hdescriptor := descriptor.descriptor_imagebytesHeader client server
  have hheader := descriptor.ofBytes_imagebytesHeader client server
  have hpixels : ImageRead.pixels budget descriptor.serial payload
      = .ok ⟨descriptor.serial, payload, hpayload⟩ := by
    simp only [ImageRead.pixels, hroom]
    rw [dif_pos hpayload]
  have haccepted : (ImageRead.Header.ofBytes
      (descriptor.imagebytesHeader client server)).rejects client = false := by
    rw [hheader]
    simp [ImageRead.Header.rejects, imagebytesHeaderBytes, imageChunkBytes]
  have hdiscard : ImageRead.discard ((ImageRead.Header.ofBytes
      (descriptor.imagebytesHeader client server)).dataStart.toNat - imagebytesHeaderBytes) payload
      = .ok payload := by
    rw [hheader, ImageRead.discard]
    simp [imagebytesHeaderBytes]
  unfold readImagebytes readImagebytesMatching
  simp only [hexact, haccepted, hdescriptor, hdiscard, hpixels, bind, Except.bind, Except.mapError,
    ImageRead.Header.differs, Option.any_none]
  rw [hheader]
  rfl

namespace CameraImage

variable (image : CameraImage)

/-- Two images show the same: geometry, types and the element at every position. -/
structure SamePixels (image copy : CameraImage) : Prop where
  width : copy.descriptor.width = image.descriptor.width
  height : copy.descriptor.height = image.descriptor.height
  planes : copy.descriptor.planes = image.descriptor.planes
  elementType : copy.descriptor.elementType = image.descriptor.elementType
  transmissionType : copy.descriptor.transmissionType = image.descriptor.transmissionType
  element : ∀ x y plane, x < image.descriptor.width.toNat → y < image.descriptor.height.toNat →
    plane < image.descriptor.planeCount → copy.element x y plane = image.element x y plane

def payload : List UInt8 :=
  image.exportedRange 0 image.descriptor.elements

theorem length_payload : image.payload.length = image.descriptor.serial.byteLen :=
  image.length_exportedRange (by omega)

theorem block_payload {index : Nat} (hindex : index < image.descriptor.elements) :
    block image.payload image.descriptor.transmissionType.bytes index = image.exported index := by
  refine block_flatMap (fun element hmem => image.length_exported ?_) ?_
  · rw [List.mem_range'_1] at hmem
    omega
  · rw [List.getElem?_range' hindex]
    simp

theorem exported_gridIndex {x y plane : Nat} (hy : y < image.descriptor.height.toNat)
    (hplane : plane < image.descriptor.planeCount) :
    image.exported (gridIndex image.descriptor.height.toNat image.descriptor.planeCount x y plane)
      = image.element x y plane := by
  unfold exported element ImageDescriptor.sourceIndex
  cases horder : image.descriptor.order with
  | ascom => simp
  | sensorRows => simp [transposeIndex_gridIndex hy hplane]

theorem samePixels_payload :
    SamePixels image ⟨image.descriptor.serial, image.payload, image.length_payload⟩ := by
  refine ⟨rfl, rfl, rfl, rfl, rfl, fun x y plane hx hy hplane => ?_⟩
  have hindex := gridIndex_lt hx hy hplane
  have hblock := image.block_payload hindex
  rw [image.exported_gridIndex hy hplane] at hblock
  exact hblock

structure Exports (image : CameraImage) : Prop where
  /-- The header and the chunks of the transfer loop read back as the same picture. -/
  roundTrip : ∀ {budget rest reading read : ImageBudget} {buffer : TransferBuffer}
    (client server : UInt32), image.transferBuffer budget = .ok (buffer, rest) →
    reading.reserve image.descriptor.byteLen = .ok read →
    ∃ copy, readImagebytes reading client
        (image.descriptor.imagebytesHeader client server ++ (image.chunks buffer 0).flatten)
        = .ok ⟨client, server, copy⟩
      ∧ copy.descriptor.order = .ascom ∧ SamePixels image copy
  /-- The chunks are the stored elements, each of them once. -/
  once : ∀ {budget rest : ImageBudget} {buffer : TransferBuffer},
    image.transferBuffer budget = .ok (buffer, rest) →
    ∃ indices : List Nat, indices.Perm (List.range image.descriptor.elements)
      ∧ (image.chunks buffer 0).flatten = indices.flatMap image.stored
  /-- Both ways to cut an aligned chunk agree. -/
  agree : ∀ (buffer : TransferBuffer) (offset : Nat), offset ≤ image.bytes.length →
    image.descriptor.transmissionType.bytes ∣ offset →
    image.descriptor.transmissionType.bytes ∣ buffer.bytes.length →
    buffer.bytes.length ≤ imageChunkBytes →
    image.imagebytesChunk offset buffer.bytes.length = .ok (buffer.fill image offset).1

theorem chunks_payload {budget rest : ImageBudget} {buffer : TransferBuffer}
    (hbuffer : image.transferBuffer budget = .ok (buffer, rest)) :
    (image.chunks buffer 0).flatten = image.payload := by
  obtain ⟨count, hcount⟩ := image.transferBuffer_aligned hbuffer
  have hall := image.chunks_flatten hcount (Nat.zero_le _)
  rw [Nat.zero_mul, Nat.sub_zero] at hall
  exact hall

theorem chunk_eq_fill (buffer : TransferBuffer) {offset : Nat}
    (hoffset : offset ≤ image.bytes.length)
    (haligned : image.descriptor.transmissionType.bytes ∣ offset)
    (hbuffer : image.descriptor.transmissionType.bytes ∣ buffer.bytes.length)
    (hbound : buffer.bytes.length ≤ imageChunkBytes) :
    image.imagebytesChunk offset buffer.bytes.length = .ok (buffer.fill image offset).1 := by
  have hsize := image.descriptor.transmissionType.bytes_pos
  obtain ⟨start, rfl⟩ := haligned
  obtain ⟨count, hcount⟩ := hbuffer
  rw [Nat.mul_comm] at hoffset hcount ⊢
  have hstart : start ≤ image.descriptor.elements := by
    rw [image.length_bytes] at hoffset
    exact Nat.le_of_mul_le_mul_right hoffset hsize
  have hpos : 0 < count := Nat.pos_of_ne_zero fun h => by
    have hfilled := buffer.filled
    simp [hcount, h] at hfilled
  rw [(image.fill_eq hcount hstart).1, hcount]
  rw [hcount] at hbound
  exact image.imagebytesChunk_eq hstart hpos hbound

/-- Whatever is exported is read back with the samples of the image. -/
theorem exports_faithfully : Exports image where
  roundTrip client server hbuffer hroom := by
    rw [image.chunks_payload hbuffer]
    exact ⟨_, readImagebytes_header client server image.length_payload hroom, rfl,
      image.samePixels_payload⟩
  once hbuffer := by
    refine ⟨_, image.descriptor.sourceIndex_perm, ?_⟩
    rw [image.chunks_payload hbuffer, payload, exportedRange, List.flatMap_map,
      List.range_eq_range']
    rfl
  agree := image.chunk_eq_fill

end CameraImage

end Regain.Hub
