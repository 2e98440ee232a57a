import Regain.Hub.Source.Backend
import Regain.Lib.Layout

/-!
# Camera images

Pixels with a validated geometry, their transport as ImageBytes, and the budget that
all images of a host share.  Memory that the budget admits is taken to be there.
-/

namespace Regain.Hub

open Lib

def maxImageBytes : Nat := 512 * 1024 * 1024
def imageChunkBytes : Nat := 64 * 1024
def imagebytesHeaderBytes : Nat := 44
def maxErrorBytes : Nat := 4096

def int32Max : Nat := 2 ^ 31 - 1

def invalidImage (message : String) : SourceError :=
  .new .invalidValue message

inductive ElementType where
  | int16
  | int32
  | double
  | single
  | uint64
  | byte
  | int64
  | uint16
  | uint32
  deriving DecidableEq

namespace ElementType

def id : ElementType → UInt32
  | int16 => 1
  | int32 => 2
  | double => 3
  | single => 4
  | uint64 => 5
  | byte => 6
  | int64 => 7
  | uint16 => 8
  | uint32 => 9

def bytes : ElementType → Nat
  | byte => 1
  | int16 => 2
  | uint16 => 2
  | int32 => 4
  | uint32 => 4
  | single => 4
  | int64 => 8
  | uint64 => 8
  | double => 8

def fromId (value : UInt32) : Except SourceError ElementType :=
  if value = 1 then .ok int16
  else if value = 2 then .ok int32
  else if value = 3 then .ok double
  else if value = 4 then .ok single
  else if value = 5 then .ok uint64
  else if value = 6 then .ok byte
  else if value = 7 then .ok int64
  else if value = 8 then .ok uint16
  else if value = 9 then .ok uint32
  else .error (.new .unsupported "Unknown camera image element type")

theorem fromId_id (kind : ElementType) : fromId kind.id = .ok kind := by
  cases kind <;> rfl

theorem bytes_pos (kind : ElementType) : 0 < kind.bytes := by
  cases kind <;> decide

theorem bytes_dvd_chunk (kind : ElementType) : kind.bytes ∣ imageChunkBytes := by
  cases kind <;> decide

end ElementType

inductive ImageOrder where
  /-- `Array[X,Y,plane]`: the plane is fastest, then Y, then X. -/
  | ascom
  /-- Native rows: the plane is fastest, then X, then Y. -/
  | sensorRows
  deriving DecidableEq

structure DescriptorWire where
  width : UInt32
  height : UInt32
  /-- Nothing is rank two; a single plane is still rank three. -/
  planes : Option UInt32
  elementType : ElementType
  transmissionType : ElementType
  order : ImageOrder
  deriving DecidableEq

namespace DescriptorWire

def planeCount (wire : DescriptorWire) : Nat :=
  (wire.planes.getD 1).toNat

def elements (wire : DescriptorWire) : Nat :=
  wire.width.toNat * wire.height.toNat * wire.planeCount

def byteLen (wire : DescriptorWire) : Nat :=
  wire.elements * wire.transmissionType.bytes

def validDimension (dimension : Nat) : Bool :=
  decide (dimension ≠ 0) && decide (dimension ≤ int32Max)

def check (wire : DescriptorWire) : Except SourceError Unit :=
  if !(validDimension wire.width.toNat && validDimension wire.height.toNat
      && validDimension wire.planeCount) then
    .error (invalidImage "Camera image dimensions must be positive Int32 values")
  else if wire.elementType ≠ wire.transmissionType
      && !(wire.elementType = .int32 && (wire.transmissionType = .byte
        || wire.transmissionType = .int16 || wire.transmissionType = .uint16)) then
    .error (.new .unsupported "Camera image element conversion is not losslessly supported")
  else if maxImageBytes < wire.byteLen then
    .error (invalidImage "Camera image exceeds the bounded image size")
  else .ok ()

end DescriptorWire

/-- A geometry and encoding that passed its check. -/
structure ImageDescriptor extends DescriptorWire where
  checked : toDescriptorWire.check = .ok ()

namespace ImageDescriptor

def ofWire (wire : DescriptorWire) : Except SourceError ImageDescriptor :=
  match h : wire.check with
  | .ok () => .ok ⟨wire, h⟩
  | .error error => .error error

def new (width height : UInt32) (planes : Option UInt32)
    (elementType transmissionType : ElementType) (order : ImageOrder) :
    Except SourceError ImageDescriptor :=
  ofWire ⟨width, height, planes, elementType, transmissionType, order⟩

theorem ofWire_ok {wire : DescriptorWire} (h : wire.check = .ok ()) :
    ofWire wire = .ok ⟨wire, h⟩ := by
  unfold ofWire
  split
  · rfl
  next error herror =>
    rw [h] at herror
    cases herror

theorem dimensions (descriptor : ImageDescriptor) :
    0 < descriptor.width.toNat ∧ 0 < descriptor.height.toNat ∧ 0 < descriptor.planeCount := by
  have hchecked := descriptor.checked
  unfold DescriptorWire.check at hchecked
  split at hchecked
  · cases hchecked
  next hvalid =>
    simp only [DescriptorWire.validDimension, Bool.not_eq_true', Bool.not_eq_false, Bool.and_eq_true,
      decide_eq_true_eq] at hvalid
    omega

theorem elements_pos (descriptor : ImageDescriptor) : 0 < descriptor.elements := by
  obtain ⟨hwidth, hheight, hplanes⟩ := descriptor.dimensions
  exact Nat.mul_pos (Nat.mul_pos hwidth hheight) hplanes

theorem byteLen_pos (descriptor : ImageDescriptor) : 0 < descriptor.byteLen :=
  Nat.mul_pos descriptor.elements_pos descriptor.transmissionType.bytes_pos

def imagebytesHeader (descriptor : ImageDescriptor) (client server : UInt32) : List UInt8 :=
  [1, 0, client, server, UInt32.ofNat imagebytesHeaderBytes, descriptor.elementType.id,
    descriptor.transmissionType.id, if descriptor.planes.isSome then 3 else 2,
    descriptor.width, descriptor.height, descriptor.planes.getD 0].flatMap
      fun field => littleEndian 4 field.toNat

def ascomOffset (descriptor : ImageDescriptor) (element : Nat) : Nat :=
  if descriptor.order = .ascom then element * descriptor.transmissionType.bytes
  else
    let plane := element % descriptor.planeCount
    let pixel := element / descriptor.planeCount
    let x := pixel / descriptor.height.toNat
    let y := pixel % descriptor.height.toNat
    ((y * descriptor.width.toNat + x) * descriptor.planeCount + plane)
      * descriptor.transmissionType.bytes

end ImageDescriptor

structure ImageBudget where
  maximum : Nat
  used : Nat

def ImageBudget.reserve (budget : ImageBudget) (bytes : Nat) : Except SourceError ImageBudget :=
  if budget.used + bytes ≤ budget.maximum then .ok { budget with used := budget.used + bytes }
  else .error (.new .busy "Camera image memory is retained by active captures or readers")

/-- Pixel bytes are little endian, and exactly as many as the geometry says. -/
structure CameraImage where
  descriptor : ImageDescriptor
  bytes : List UInt8
  sized : bytes.length = descriptor.byteLen

namespace CameraImage

def dot : CameraImage where
  descriptor := ⟨⟨1, 1, none, .byte, .byte, .ascom⟩, by decide⟩
  bytes := [0]
  sized := by decide

def stored (image : CameraImage) (index : Nat) : List UInt8 :=
  block image.bytes image.descriptor.transmissionType.bytes index

def element (image : CameraImage) (x y plane : Nat) : List UInt8 :=
  match image.descriptor.order with
  | .ascom => image.stored
      (gridIndex image.descriptor.height.toNat image.descriptor.planeCount x y plane)
  | .sensorRows => image.stored
      (gridIndex image.descriptor.width.toNat image.descriptor.planeCount y x plane)

def slice (image : CameraImage) (start length : Nat) : List UInt8 :=
  (image.bytes.drop start).take length

def elementRange (size offset length : Nat) : List Nat :=
  List.range' (offset / size) ((offset + length) / size - offset / size)

def imagebytesChunk (image : CameraImage) (offset maximum : Nat) : Except SourceError (List UInt8) :=
  let size := image.descriptor.transmissionType.bytes
  if image.bytes.length < offset || offset % size ≠ 0 || maximum < size
      || imageChunkBytes < maximum then
    .error (invalidImage "Invalid camera image chunk range or alignment")
  else
    let length := min (image.bytes.length - offset) (maximum / size * size)
    if image.descriptor.order = .ascom then .ok (image.slice offset length)
    else
      .ok ((elementRange size offset length).flatMap fun element =>
        image.slice (image.descriptor.ascomOffset element) size)

end CameraImage

/-- The scratch of one outgoing stream; it is never empty. -/
structure TransferBuffer where
  bytes : List UInt8
  filled : 0 < bytes.length

/-- One scratch buffer for the stream of an image, out of the shared budget. -/
def CameraImage.transferBuffer (image : CameraImage) (budget : ImageBudget) :
    Except SourceError (TransferBuffer × ImageBudget) :=
  let length := min image.bytes.length imageChunkBytes
  match budget.reserve length with
  | .error error => .error error
  | .ok budget =>
    .ok (⟨List.replicate length 0, by
      have hpos := image.descriptor.byteLen_pos
      rw [← image.sized] at hpos
      simp only [length, List.length_replicate, imageChunkBytes]
      omega⟩, budget)

def TransferBuffer.place (image : CameraImage) (size : Nat) (scratch : List UInt8) (index : Nat) :
    List Nat → List UInt8
  | [] => scratch
  | element :: elements =>
    place image size (overwrite scratch (index * size)
      (image.slice (image.descriptor.ascomOffset element) size)) (index + 1) elements

def TransferBuffer.filledScratch (buffer : TransferBuffer) (image : CameraImage) (offset : Nat) :
    List UInt8 × Nat :=
  let size := image.descriptor.transmissionType.bytes
  let length := min (image.bytes.length - offset) buffer.bytes.length
  if image.descriptor.order = .ascom then
    (overwrite buffer.bytes 0 (image.slice offset length), length)
  else (place image size buffer.bytes 0 (CameraImage.elementRange size offset length), length)

inductive ImageReadError where
  | io
  | contract (error : SourceError)
  | upstream (code : UInt32) (message : String)

structure ImageBytesResponse where
  clientTransaction : UInt32
  serverTransaction : UInt32
  image : CameraImage

namespace ImageRead

def exactly (count : Nat) (body : List UInt8) : Except ImageReadError (List UInt8 × List UInt8) :=
  if count ≤ body.length then .ok (body.take count, body.drop count) else .error .io

def discard (remaining : Nat) (body : List UInt8) : Except ImageReadError (List UInt8) :=
  if remaining = 0 then .ok body
  else
    match exactly (min remaining 1024) body with
    | .error error => .error error
    | .ok (_, rest) => discard (remaining - min remaining 1024) rest
termination_by remaining
decreasing_by omega

/-- The fields of a header. -/
structure Header where
  version : UInt32
  error : UInt32
  client : UInt32
  server : UInt32
  dataStart : UInt32
  elementType : UInt32
  transmissionType : UInt32
  rank : UInt32
  width : UInt32
  height : UInt32
  planes : UInt32

def Header.ofBytes (bytes : List UInt8) : Header :=
  let field := fun index => UInt32.ofNat ((words bytes).getD index 0)
  { version := field 0
    error := field 1
    client := field 2
    server := field 3
    dataStart := field 4
    elementType := field 5
    transmissionType := field 6
    rank := field 7
    width := field 8
    height := field 9
    planes := field 10 }

def Header.rejects (header : Header) (expectedClient : UInt32) : Bool :=
  decide (header.version ≠ 1) || decide (int32Max < header.error.toNat)
    || decide (header.client ≠ expectedClient)
    || decide (header.dataStart.toNat < imagebytesHeaderBytes)
    || decide (imageChunkBytes < header.dataStart.toNat)

def Header.planeCount (header : Header) : Option (Option UInt32) :=
  if header.rank = 2 ∧ header.planes = 0 then some none
  else if header.rank = 3 ∧ header.planes ≠ 0 then some (some header.planes)
  else none

def Header.descriptor (header : Header) : Except SourceError (Option ImageDescriptor) :=
  if header.error = 0 then
    match header.planeCount with
    | none => .error (invalidImage "Invalid ImageBytes rank or plane dimension")
    | some planes => do
      let elementType ← ElementType.fromId header.elementType
      let transmissionType ← ElementType.fromId header.transmissionType
      let descriptor ← ImageDescriptor.new header.width header.height planes elementType
        transmissionType .ascom
      return some descriptor
  else .ok none

def Header.differs (header : Header) (descriptor : Option ImageDescriptor)
    (expected : Option (ImageDescriptor × UInt32)) : Bool :=
  expected.any fun admitted =>
    decide (descriptor.map (·.toDescriptorWire) ≠ some admitted.1.toDescriptorWire)
      || decide (header.server ≠ admitted.2)
      || decide (header.dataStart.toNat ≠ imagebytesHeaderBytes)

def upstreamError (code : UInt32) (body : List UInt8) : ImageReadError :=
  if maxErrorBytes < body.length then
    .contract (invalidImage "Camera image error message is too large")
  else
    match String.fromUTF8? ⟨body.toArray⟩ with
    | none => .contract (invalidImage "Camera image error is not UTF-8")
    | some message => .upstream code message

/-- The pixels of a body: exactly as many bytes as announced, and nothing behind them. -/
def pixels (budget : ImageBudget) (descriptor : ImageDescriptor) (body : List UInt8) :
    Except ImageReadError CameraImage :=
  match budget.reserve descriptor.byteLen with
  | .error error => .error (.contract error)
  | .ok _ =>
    if h : body.length = descriptor.byteLen then .ok ⟨descriptor, body, h⟩
    else if body.length < descriptor.byteLen then .error .io
    else .error (.contract (invalidImage "Camera image body contains trailing data"))

end ImageRead

open ImageRead in
def readImagebytesMatching (budget : ImageBudget) (expectedClient : UInt32)
    (expected : Option (ImageDescriptor × UInt32)) (body : List UInt8) :
    Except ImageReadError ImageBytesResponse := do
  let (bytes, body) ← exactly imagebytesHeaderBytes body
  let header := Header.ofBytes bytes
  if header.rejects expectedClient then
    throw (.contract (invalidImage "Invalid ImageBytes header or client transaction"))
  let descriptor ← header.descriptor.mapError .contract
  if header.differs descriptor expected then
    throw (.contract (invalidImage "ImageBytes header differs from its admitted body contract"))
  let body ← discard (header.dataStart.toNat - imagebytesHeaderBytes) body
  match descriptor with
  | none => throw (upstreamError header.error body)
  | some descriptor =>
    let image ← pixels budget descriptor body
    return ⟨header.client, header.server, image⟩

def readImagebytes (budget : ImageBudget) (expectedClient : UInt32) (body : List UInt8) :
    Except ImageReadError ImageBytesResponse :=
  readImagebytesMatching budget expectedClient none body

structure ExposureRequest where
  durationSeconds : F64
  light : Bool

structure CaptureGeometry where
  width : UInt32
  height : UInt32
  binX : UInt32
  binY : UInt32
  startX : UInt32
  startY : UInt32

structure ExposureMetadata where
  durationSeconds : Option F64
  startTime : Option String
  durationError : Option SourceError
  startTimeError : Option SourceError

structure AcquisitionIdentity where
  source : Uuid
  generation : Uuid
  acquisition : Uuid
  request : ExposureRequest
  geometry : CaptureGeometry
  exposure : ExposureMetadata

/-- The image and the metadata of its acquisition are frozen together. -/
structure CapturedImage where
  identity : AcquisitionIdentity
  image : CameraImage

end Regain.Hub
