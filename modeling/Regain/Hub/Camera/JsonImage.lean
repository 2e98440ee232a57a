import Regain.Hub.Camera.Image

/-!
# Camera images in JSON responses

A response is read in bounded chunks and decoded twice: a shape pass infers the geometry, then a
typed pass fills one allocation.
-/

namespace Regain.Hub

open Lib

namespace JsonImage

def maxJsonBytes : Nat := maxImageBytes * 32
def maxStringBytes : Nat := imageChunkBytes
def maxNumberBytes : Nat := 128
def maxFields : Nat := 32
def maxMessageBytes : Nat := 4096

def invalid : SourceError :=
  .new .invalidValue "Invalid bounded JSON camera image"

/-- A number as the library visits it. -/
inductive Number where
  | unsigned (value : UInt64)
  | signed (value : Int64)
  | double (value : Float)

/-- The events of a text, an object with its fields in order. -/
inductive Doc where
  | null
  | bool (value : Bool)
  | number (value : Number)
  | string (value : String)
  | array (items : List Doc)
  | object (fields : List (String × Doc))

namespace Number

def toInt? : Number → Option Int
  | unsigned value => some value.toNat
  | signed value => some value.toInt
  | double _ => none

def toDouble : Number → Float
  | unsigned value => value.toFloat
  | signed value =>
    let magnitude := (UInt64.ofNat value.toInt.natAbs).toFloat
    if value.toInt < 0 then -magnitude else magnitude
  | double value => value

def toSingle : Number → Float32
  | unsigned value => value.toFloat32
  | signed value =>
    let magnitude := (UInt64.ofNat value.toInt.natAbs).toFloat32
    if value.toInt < 0 then -magnitude else magnitude
  | double value => value.toFloat32

def integer (width : Nat) (least greatest : Int) (number : Number) : Option (List UInt8) :=
  match number.toInt? with
  | none => none
  | some value =>
    if least ≤ value ∧ value ≤ greatest then
      some (littleEndian width (value % 2 ^ (8 * width)).toNat)
    else none

def encode (number : Number) : ElementType → Option (List UInt8)
  | .int16 => number.integer 2 (-2 ^ 15) (2 ^ 15 - 1)
  | .int32 => number.integer 4 (-2 ^ 31) (2 ^ 31 - 1)
  | .int64 => number.integer 8 (-2 ^ 63) (2 ^ 63 - 1)
  | .uint16 => number.integer 2 0 (2 ^ 16 - 1)
  | .uint32 => number.integer 4 0 (2 ^ 32 - 1)
  | .uint64 => number.integer 8 0 (2 ^ 64 - 1)
  | .byte => number.integer 1 0 (2 ^ 8 - 1)
  | .single =>
    if number.toSingle.isFinite then some (littleEndian 4 number.toSingle.toBits.toNat) else none
  | .double =>
    if number.toDouble.isFinite then some (littleEndian 8 number.toDouble.toBits.toNat) else none

theorem length_integer {width : Nat} {least greatest : Int} {number : Number} {bytes : List UInt8}
    (hencoded : number.integer width least greatest = some bytes) : bytes.length = width := by
  unfold integer at hencoded
  split at hencoded
  · cases hencoded
  · split at hencoded
    · cases hencoded
      exact length_littleEndian width _
    · cases hencoded

theorem length_encode {number : Number} {kind : ElementType} {bytes : List UInt8}
    (hencoded : number.encode kind = some bytes) : bytes.length = kind.bytes := by
  cases kind with
  | single =>
    simp only [encode, Option.ite_none_right_eq_some, Option.some.injEq] at hencoded
    rw [← hencoded.2, length_littleEndian]
    rfl
  | double =>
    simp only [encode, Option.ite_none_right_eq_some, Option.some.injEq] at hencoded
    rw [← hencoded.2, length_littleEndian]
    rfl
  | _ => exact length_integer hencoded

end Number

structure Shape where
  rank : Nat
  dimensions : Nat × Nat × Nat
  elements : Nat
  deriving DecidableEq

/-- The elements of an array so far. -/
structure ShapeCount where
  child : Option Shape
  count : Nat
  elements : Nat

def ShapeCount.add (sofar : ShapeCount) (shape : Shape) : Option ShapeCount :=
  if sofar.child.any fun prior => prior ≠ shape then none
  else if int32Max < sofar.count + 1 then none
  else if maxImageBytes < sofar.elements + shape.elements then none
  else some ⟨some shape, sofar.count + 1, sofar.elements + shape.elements⟩

def ShapeCount.shape (counted : ShapeCount) : Option Shape :=
  match counted.child with
  | none => none
  | some child =>
    if child.elements = 0 then none
    else some ⟨child.rank + 1, (counted.count, child.dimensions.1, child.dimensions.2.1),
      counted.elements⟩

mutual

def shape (depth : Nat) : Doc → Option Shape
  | .null => if depth = 0 then some ⟨0, (0, 0, 0), 0⟩ else none
  | .number (.double value) => if value.isFinite then some ⟨0, (0, 0, 0), 1⟩ else none
  | .number (.unsigned _) => some ⟨0, (0, 0, 0), 1⟩
  | .number (.signed _) => some ⟨0, (0, 0, 0), 1⟩
  | .array items =>
    if 3 ≤ depth then none
    else (shapeItems (depth + 1) ⟨none, 0, 0⟩ items).bind ShapeCount.shape
  | .bool _ => none
  | .string _ => none
  | .object _ => none

def shapeItems (depth : Nat) (sofar : ShapeCount) : List Doc → Option ShapeCount
  | [] => some sofar
  | item :: items =>
    match shape depth item with
    | none => none
    | some found => (sofar.add found).bind fun sofar => shapeItems depth sofar items

end

structure Envelope where
  value : Option Shape
  elementType : Option UInt32
  rank : Option UInt32
  number : Option Int
  message : Option String
  client : Option UInt32
  server : Option UInt32

def Envelope.default : Envelope where
  value := none
  elementType := none
  rank := none
  number := none
  message := none
  client := none
  server := none

def word? : Doc → Option UInt32
  | .number number =>
    match number.toInt? with
    | some value => if 0 ≤ value ∧ value < 2 ^ 32 then some (UInt32.ofNat value.toNat) else none
    | none => none
  | _ => none

def int? : Doc → Option Int
  | .number number =>
    match number.toInt? with
    | some value => if -2 ^ 31 ≤ value ∧ value < 2 ^ 31 then some value else none
    | none => none
  | _ => none

def message? : Doc → Option String
  | .string message => if maxMessageBytes < message.utf8ByteSize then none else some message
  | _ => none

def store {α : Type} (slot value : Option α) : Option (Option α) :=
  match value with
  | none => none
  | some value => if slot.isSome then none else some (some value)

def Envelope.take (envelope : Envelope) (field : String × Doc) : Option Envelope :=
  match field.1 with
  | "Value" =>
    (store envelope.value (shape 0 field.2)).map fun value => { envelope with value := value }
  | "Type" =>
    (store envelope.elementType (word? field.2)).map fun kind =>
      { envelope with elementType := kind }
  | "Rank" => (store envelope.rank (word? field.2)).map fun rank => { envelope with rank := rank }
  | "ErrorNumber" =>
    (store envelope.number (int? field.2)).map fun number => { envelope with number := number }
  | "ErrorMessage" =>
    (store envelope.message (message? field.2)).map fun message =>
      { envelope with message := message }
  | "ClientTransactionID" =>
    (store envelope.client (word? field.2)).map fun client => { envelope with client := client }
  | "ServerTransactionID" =>
    (store envelope.server (word? field.2)).map fun server => { envelope with server := server }
  | _ => some envelope

def takeFields (seen : Nat) (envelope : Envelope) : List (String × Doc) → Option Envelope
  | [] => some envelope
  | field :: fields =>
    if maxFields < seen + 1 then none
    else (envelope.take field).bind fun envelope => takeFields (seen + 1) envelope fields

def envelope : Doc → Option Envelope
  | .object fields => takeFields 0 .default fields
  | _ => none

def Envelope.descriptor (envelope : Envelope) (transaction : UInt32) :
    Except ImageReadError ImageDescriptor :=
  if envelope.client.any (fun id => id ≠ transaction) || envelope.number.any (fun n => n < 0) then
    .error (.contract invalid)
  else
    let number := envelope.number.getD 0
    if number ≠ 0 then .error (.upstream (UInt32.ofNat number.toNat) (envelope.message.getD ""))
    else if envelope.message.any fun message => !message.isEmpty then .error (.contract invalid)
    else
      match envelope.value with
      | none => .error (.contract invalid)
      | some shape =>
        if !(shape.rank = 2 || shape.rank = 3)
            || decide (envelope.rank ≠ some (UInt32.ofNat shape.rank)) then
          .error (.contract invalid)
        else
          match envelope.elementType with
          | none => .error (.contract invalid)
          | some id =>
            ((ElementType.fromId id).bind fun kind =>
              ImageDescriptor.new (UInt32.ofNat shape.dimensions.1) (UInt32.ofNat shape.dimensions.2.1)
                (if shape.rank = 3 then some (UInt32.ofNat shape.dimensions.2.2) else none)
                kind kind .ascom).mapError .contract

/-- An allocation of fixed size that is filled from the front. -/
structure Pixels (size : Nat) where
  bytes : List UInt8
  offset : Nat
  sized : bytes.length = size
  within : offset ≤ size

def Pixels.put {size : Nat} (pixels : Pixels size) (kind : ElementType) (number : Number) :
    Option (Pixels size) :=
  if hfits : pixels.offset + kind.bytes ≤ size then
    match hencoded : number.encode kind with
    | none => none
    | some item =>
      some ⟨overwrite pixels.bytes pixels.offset item, pixels.offset + kind.bytes, by
        have hlength := Number.length_encode hencoded
        have hsized := pixels.sized
        rw [length_overwrite _ _ (by omega), hsized], hfits⟩
  else none

def fillItems {σ : Type} (fill : Doc → σ → Option σ) : Nat → List Doc → σ → Option σ
  | 0, [], state => some state
  | 0, _ :: _, _ => none
  | _ + 1, [], _ => none
  | count + 1, item :: items, state => (fill item state).bind (fillItems fill count items)

def fillArray {size : Nat} (kind : ElementType) :
    List Nat → Doc → Pixels size → Option (Pixels size)
  | [], .number number, pixels => pixels.put kind number
  | [], _, _ => none
  | dimension :: dimensions, .array items, pixels =>
    fillItems (fillArray kind dimensions) dimension items pixels
  | _ :: _, _, _ => none

def dimensions (descriptor : ImageDescriptor) : List Nat :=
  [descriptor.width.toNat, descriptor.height.toNat]
    ++ descriptor.planes.toList.map fun planes => planes.toNat

/-- The fields of the second pass; `found` says whether the pixels came already. -/
def fillFields {size : Nat} (descriptor : ImageDescriptor) (found : Bool) (pixels : Pixels size) :
    List (String × Doc) → Option (Bool × Pixels size)
  | [] => some (found, pixels)
  | field :: fields =>
    if field.1 = "Value" then
      if found then none
      else
        (fillArray descriptor.elementType (dimensions descriptor) field.2 pixels).bind
          fun pixels => fillFields descriptor true pixels fields
    else fillFields descriptor found pixels fields

def pixels (descriptor : ImageDescriptor) : Doc → Option (Pixels descriptor.byteLen)
  | .object fields =>
    match fillFields descriptor false
      ⟨List.replicate descriptor.byteLen 0, 0, List.length_replicate, Nat.zero_le _⟩ fields with
    | none => none
    | some (found, pixels) =>
      if !found || decide (pixels.offset ≠ descriptor.byteLen) then none else some pixels
  | _ => none

section

-- what the JSON library makes of a text, nothing if it refuses the text
variable (parse : List UInt8 → Option Doc)

def readDescriptor (transaction : UInt32) (text : List UInt8) :
    Except ImageReadError ImageDescriptor :=
  match (parse text).bind envelope with
  | none => .error (.contract invalid)
  | some envelope => envelope.descriptor transaction

def decode (budget : ImageBudget) (transaction : UInt32) (text : List UInt8) :
    Except ImageReadError CameraImage :=
  match readDescriptor parse transaction text with
  | .error error => .error error
  | .ok descriptor =>
    match budget.reserve descriptor.byteLen with
    | .error error => .error (.contract error)
    | .ok _ =>
      match (parse text).bind (pixels descriptor) with
      | none => .error (.contract invalid)
      | some pixels => .ok ⟨descriptor, pixels.bytes, pixels.sized⟩

/-- Bounds of strings and numbers over the raw bytes. -/
structure Tokens where
  string : Bool
  escape : Bool
  length : Nat

def isWhitespace (byte : UInt8) : Bool :=
  byte = 32 || byte = 9 || byte = 10 || byte = 12 || byte = 13

def isStructural (byte : UInt8) : Bool :=
  byte = 91 || byte = 93 || byte = 123 || byte = 125 || byte = 44 || byte = 58

def Tokens.feedByte (tokens : Tokens) (byte : UInt8) : Option Tokens :=
  if tokens.string then
    if maxStringBytes < tokens.length + 1 then none
    else if tokens.escape then some ⟨true, false, tokens.length + 1⟩
    else if byte = 92 then some ⟨true, true, tokens.length + 1⟩
    else if byte = 34 then some ⟨false, tokens.escape, 0⟩
    else some ⟨true, tokens.escape, tokens.length + 1⟩
  else if byte = 34 then some ⟨true, tokens.escape, 0⟩
  else if isWhitespace byte || isStructural byte then some ⟨false, tokens.escape, 0⟩
  else if maxNumberBytes < tokens.length + 1 then none
  else some ⟨false, tokens.escape, tokens.length + 1⟩

def Tokens.feed (tokens : Tokens) (bytes : List UInt8) : Option Tokens :=
  bytes.foldlM Tokens.feedByte tokens

/-- The working buffer, and the chunks staged before it. -/
structure Reading where
  chunks : List (List UInt8)
  buffer : List UInt8
  total : Nat
  tokens : Tokens

def Reading.start : Reading where
  chunks := []
  buffer := []
  total := 0
  tokens := ⟨false, false, 0⟩

-- the shared budget as each reservation finds it
variable (budgets : Nat → ImageBudget)

def Reading.stage (reading : Reading) : Except ImageReadError Reading :=
  match (budgets reading.chunks.length).reserve reading.buffer.length with
  | .error error => .error (.contract error)
  | .ok _ => .ok { reading with chunks := reading.chunks ++ [reading.buffer], buffer := [] }

def Reading.receive (reading : Reading) (bytes : List UInt8) : Except ImageReadError Reading :=
  if maxJsonBytes < reading.total + bytes.length then .error (.contract invalid)
  else
    match reading.tokens.feed bytes with
    | none => .error (.contract invalid)
    | some tokens =>
      let reading : Reading := {
        chunks := reading.chunks
        buffer := reading.buffer ++ bytes
        total := reading.total + bytes.length
        tokens := tokens }
      if reading.buffer.length < imageChunkBytes then .ok reading else reading.stage budgets

/-- How many bytes one read delivers: at least one, at most what the buffer still takes. -/
def Reading.portion (reading : Reading) (size : Nat) : Nat :=
  min (max size 1) (imageChunkBytes - reading.buffer.length)

/-- Read a body in portions of some sizes; with no size left the stream fails. -/
def Reading.receiveAll (reading : Reading) : List Nat → List UInt8 → Except ImageReadError Reading
  | _, [] => .ok reading
  | [], _ :: _ => .error .io
  | size :: sizes, byte :: rest =>
    match reading.receive budgets ((byte :: rest).take (reading.portion size)) with
    | .error error => .error error
    | .ok reading' =>
      reading'.receiveAll sizes ((byte :: rest).drop (reading.portion size))

def Reading.preview (reading : Reading) (transaction : UInt32) : Except ImageReadError Unit :=
  if reading.chunks.isEmpty then (readDescriptor parse transaction reading.buffer).map fun _ => ()
  else .ok ()

def Reading.finish (reading : Reading) (transaction : UInt32) : Except ImageReadError Reading :=
  match reading.preview parse transaction with
  | .error error => .error error
  | .ok () => if reading.buffer.isEmpty then .ok reading else reading.stage budgets

def readJsonImage (sizes : List Nat) (transaction : UInt32) (body : List UInt8) :
    Except ImageReadError CameraImage := do
  let reading ← Reading.start.receiveAll budgets sizes body
  let reading ← reading.finish parse budgets transaction
  decode parse (budgets reading.chunks.length) transaction reading.chunks.flatten

end

end JsonImage

end Regain.Hub
