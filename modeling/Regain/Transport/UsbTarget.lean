import Mathlib.Data.List.Induction
import Mathlib.Tactic.Common
import Mathlib.Tactic.IntervalCases
import Regain.Lib.Checked

/-!
# Tokens of USB recovery targets

A token is the JSON document of a target in hexadecimal digits.  Strings are given by their bytes;
a slice that does not fall on characters stops the program.
-/

namespace Regain.Transport

open Lib
open Checked

abbrev Bytes := List UInt8

def ascii (text : String) : Bytes :=
  text.toList.map fun digit => digit.toNat.toUInt8

structure Target where
  vendor : UInt16
  product : UInt16
  serial : Bytes
  location : Bytes
  /-- The device address detects a replacement since the binding. -/
  address : Option UInt8
  generation : Option UInt64

def isAsciiDigit (c : UInt8) : Bool :=
  decide (48 ≤ c.toNat ∧ c.toNat ≤ 57)

def isAsciiHexdigit (c : UInt8) : Bool :=
  isAsciiDigit c || decide (65 ≤ c.toNat ∧ c.toNat ≤ 70 ∨ 97 ≤ c.toNat ∧ c.toNat ≤ 102)

def isAsciiAlphanumeric (c : UInt8) : Bool :=
  isAsciiDigit c || decide (65 ≤ c.toNat ∧ c.toNat ≤ 90 ∨ 97 ≤ c.toNat ∧ c.toNat ≤ 122)

def verifiedProducts : List UInt16 :=
  [0x585e, 0x676d, 0x662b, 0x2601, 0x2209, 0x620b, 0x260e]

def locationByte (c : UInt8) : Bool :=
  isAsciiAlphanumeric c || (ascii "\\&_.-").contains c

def Target.validate (target : Target) : Checked Unit := do
  ensure (target.vendor == 0x03c3 && verifiedProducts.contains target.product)
    "USB recovery is limited to cameras with verified serial binding"
  ensure (target.serial.length == 16 && target.serial.all isAsciiHexdigit
      && target.serial != ascii "0000000000000000")
    "Invalid camera serial for USB recovery"
  ensure (!target.location.isEmpty && decide (target.location.length ≤ 512)
      && target.location.all locationByte)
    "Invalid USB recovery location"

def hexDigit (value : Nat) : UInt8 :=
  if value < 10 then (48 + value).toUInt8 else (87 + value).toUInt8

/-- A byte of a JSON string. -/
def escape (c : UInt8) : Bytes :=
  if c = 8 then ascii "\\b"
  else if c = 9 then ascii "\\t"
  else if c = 10 then ascii "\\n"
  else if c = 12 then ascii "\\f"
  else if c = 13 then ascii "\\r"
  else if c = 34 then ascii "\\\""
  else if c = 92 then ascii "\\\\"
  else if c.toNat < 32 then ascii "\\u00" ++ [hexDigit (c.toNat / 16), hexDigit (c.toNat % 16)]
  else [c]

def quoted (text : Bytes) : Bytes :=
  34 :: text.flatMap escape ++ [34]

def decimal (value : Nat) : Bytes :=
  (Nat.toDigits 10 value).map fun digit => digit.toNat.toUInt8

def optional (value : Option Nat) : Bytes :=
  match value with
  | some value => decimal value
  | none => ascii "null"

/-- The fields under their camelCase names, in the order of the declaration. -/
def document (target : Target) : Bytes :=
  ascii "\x7b\"vendor\":" ++ decimal target.vendor.toNat
    ++ ascii ",\"product\":" ++ decimal target.product.toNat
    ++ ascii ",\"serial\":" ++ quoted target.serial
    ++ ascii ",\"location\":" ++ quoted target.location
    ++ ascii ",\"address\":" ++ optional (target.address.map (·.toNat))
    ++ ascii ",\"generation\":" ++ optional (target.generation.map (·.toNat))
    ++ ascii "\x7d"

/-- The JSON library, which refuses what it cannot write or read. -/
structure Serde where
  toVec : Target → Except String Bytes
  fromSlice : Bytes → Except String Target

/-- The library writes the compact document of a target, and reads the target back from it. -/
structure Serde.Faithful (serde : Serde) (target : Target) : Prop where
  writes : serde.toVec target = .ok (document target)
  reads : serde.fromSlice (document target) = .ok target

def attempt (result : Except String α) : Checked α :=
  match result with
  | .ok value => .ok value
  | .error message => .error (.refused message)

def hexByte (byte : UInt8) : Bytes :=
  [hexDigit (byte.toNat / 16), hexDigit (byte.toNat % 16)]

def encode (serde : Serde) (target : Target) : Checked Bytes := do
  target.validate
  let bytes ← attempt (serde.toVec target)
  return bytes.flatMap hexByte

/-- No character has its other bytes from an index on. -/
def isCharBoundary (text : Bytes) (index : Nat) : Bool :=
  match text[index]? with
  | some byte => index == 0 || decide (byte.toNat < 128 ∨ 192 ≤ byte.toNat)
  | none => index == text.length

def sliceStr (text : Bytes) (start stop : Nat) : Checked Bytes :=
  if start ≤ stop ∧ isCharBoundary text start = true ∧ isCharBoundary text stop = true then
    .ok ((text.take stop).drop start)
  else .error .panic

def digitValue (c : UInt8) : Option Nat :=
  if isAsciiDigit c then some (c.toNat - 48)
  else if 65 ≤ c.toNat ∧ c.toNat ≤ 70 then some (c.toNat - 55)
  else if 97 ≤ c.toNat ∧ c.toNat ≤ 102 then some (c.toNat - 87)
  else none

def pushDigit (value : Nat) (c : UInt8) : Checked Nat :=
  match digitValue c with
  | none => .error (.refused "invalid digit found in string")
  | some digit =>
    if 16 * value + digit < 256 then .ok (16 * value + digit)
    else .error (.refused "number too large to fit in target type")

/-- `u8::from_str_radix` to the base 16: one sign `+` is allowed before digits. -/
def fromStrRadix (src : Bytes) : Checked UInt8 := do
  let digits := if src.head? = some 43 ∧ src.length ≠ 1 then src.tail else src
  ensure (!src.isEmpty) "cannot parse integer from empty string"
  let value ← digits.foldlM pushDigit 0
  return value.toUInt8

def byteAt (token : Bytes) (index : Nat) : Checked UInt8 := do
  let pair ← sliceStr token index (index + 2)
  fromStrRadix pair

def decode (serde : Serde) (token : Bytes) : Checked Target := do
  ensure (decide (token.length ≤ 4096) && token.length % 2 == 0 && token.all isAsciiHexdigit)
    "Invalid USB recovery token"
  let bytes ← (List.range ((token.length + 1) / 2)).mapM fun step => byteAt token (2 * step)
  let target ← attempt (serde.fromSlice bytes)
  target.validate
  return target

/-- A camera of the verified list, with a proper serial number and location. -/
structure Recoverable (target : Target) : Prop where
  vendor : target.vendor = 0x03c3
  product : target.product ∈ verifiedProducts
  digits : target.serial.length = 16 ∧ ∀ c ∈ target.serial, isAsciiHexdigit c = true
  bound : target.serial ≠ ascii "0000000000000000"
  length : target.location ≠ [] ∧ target.location.length ≤ 512
  location : ∀ c ∈ target.location, locationByte c = true

theorem validate_eq_ok {target : Target} : target.validate = .ok () ↔ Recoverable target := by
  unfold Target.validate
  rw [ensure_bind_eq_ok, ensure_bind_eq_ok]
  have hlast : ∀ condition message, ensure condition message = .ok () ↔ condition = true := by
    intro condition message
    cases condition <;> simp [ensure]
  rw [hlast]
  simp only [Bool.and_eq_true, beq_iff_eq, bne_iff_ne, List.contains_iff_mem, List.all_eq_true,
    decide_eq_true_eq, Bool.not_eq_true', List.isEmpty_eq_false_iff]
  constructor
  · rintro ⟨⟨hvendor, hproduct⟩, ⟨hdigits, hbound⟩, hlength, hlocation⟩
    exact ⟨hvendor, hproduct, hdigits, hbound, hlength, hlocation⟩
  · intro h
    exact ⟨⟨h.vendor, h.product⟩, ⟨h.digits, h.bound⟩, h.length, h.location⟩

theorem length_escape_hex {c : UInt8} (h : isAsciiHexdigit c = true) : (escape c).length = 1 := by
  have hrange : 48 ≤ c.toNat ∧ c.toNat ≤ 102 ∧ c.toNat ≠ 92 := by
    simp only [isAsciiHexdigit, isAsciiDigit, Bool.or_eq_true, decide_eq_true_eq] at h
    omega
  unfold escape
  repeat rw [if_neg (by rintro rfl; simp at hrange)]
  rw [if_neg (by omega)]
  rfl

theorem length_escape_location {c : UInt8} (h : locationByte c = true) : (escape c).length ≤ 2 := by
  have hrange : 38 ≤ c.toNat := by
    simp only [locationByte, isAsciiAlphanumeric, isAsciiDigit, Bool.or_eq_true,
      decide_eq_true_eq, List.contains_iff_mem] at h
    rcases h with h | h
    · omega
    · have hbytes : ascii "\\&_.-" = [92, 38, 95, 46, 45] := by decide
      rw [hbytes] at h
      simp only [List.mem_cons, List.not_mem_nil, or_false] at h
      rcases h with rfl | rfl | rfl | rfl | rfl <;> decide
  unfold escape
  split_ifs <;> first | decide | omega | simp

theorem length_flatMap_le {text : Bytes} {f : UInt8 → Bytes} {bound : Nat}
    (h : ∀ c ∈ text, (f c).length ≤ bound) : (text.flatMap f).length ≤ bound * text.length := by
  induction text with
  | nil => simp
  | cons c text ih =>
    have hfirst := h c List.mem_cons_self
    have hrest := ih fun other hother => h other (List.mem_cons_of_mem c hother)
    rw [List.flatMap_cons, List.length_append, List.length_cons, Nat.mul_succ]
    omega

theorem length_decimal {value digits : Nat} (hdigits : 0 < digits) (h : value < 10 ^ digits) :
    (decimal value).length ≤ digits := by
  unfold decimal
  rw [List.length_map]
  exact (Nat.length_toDigits_le_iff (by decide) hdigits).mpr h

theorem length_optional {value : Option Nat} {digits : Nat} (hdigits : 4 ≤ digits)
    (h : ∀ found, value = some found → found < 10 ^ digits) : (optional value).length ≤ digits := by
  cases value with
  | none => exact hdigits
  | some found => exact length_decimal (by omega) (h found rfl)

theorem length_document {target : Target} (h : Recoverable target) :
    (document target).length ≤ 2048 := by
  have hvendor : (decimal target.vendor.toNat).length ≤ 5 :=
    length_decimal (by decide) (Nat.lt_trans target.vendor.toNat_lt (by decide))
  have hproduct : (decimal target.product.toNat).length ≤ 5 :=
    length_decimal (by decide) (Nat.lt_trans target.product.toNat_lt (by decide))
  have hserial : (target.serial.flatMap escape).length ≤ 1 * target.serial.length :=
    length_flatMap_le fun c hc => Nat.le_of_eq (length_escape_hex (h.digits.2 c hc))
  have hlocation : (target.location.flatMap escape).length ≤ 2 * target.location.length :=
    length_flatMap_le fun c hc => length_escape_location (h.location c hc)
  have haddress : (optional (target.address.map (·.toNat))).length ≤ 4 :=
    length_optional (by decide) fun found hfound => by
      obtain ⟨address, -, rfl⟩ := Option.map_eq_some_iff.mp hfound
      exact Nat.lt_trans address.toNat_lt (by decide)
  have hgeneration : (optional (target.generation.map (·.toNat))).length ≤ 20 :=
    length_optional (by decide) fun found hfound => by
      obtain ⟨generation, -, rfl⟩ := Option.map_eq_some_iff.mp hfound
      exact Nat.lt_trans generation.toNat_lt (by decide)
  have hsixteen := h.digits.1
  have hbound := h.length.2
  simp [document, quoted, ascii, -List.length_flatMap]
  omega

theorem digitValue_hexDigit {value : Nat} (h : value < 16) :
    digitValue (hexDigit value) = some value := by
  interval_cases value <;> decide

theorem isAsciiHexdigit_hexDigit {value : Nat} (h : value < 16) :
    isAsciiHexdigit (hexDigit value) = true := by
  interval_cases value <;> decide

theorem fromStrRadix_hexByte (byte : UInt8) : fromStrRadix (hexByte byte) = .ok byte := by
  have hbyte := byte.toNat_lt
  have hhigh : digitValue (hexDigit (byte.toNat / 16)) = some (byte.toNat / 16) :=
    digitValue_hexDigit (by omega)
  have hlow : digitValue (hexDigit (byte.toNat % 16)) = some (byte.toNat % 16) :=
    digitValue_hexDigit (by omega)
  have hsign : ¬((hexByte byte).head? = some 43 ∧ (hexByte byte).length ≠ 1) := by
    rintro ⟨hhead, -⟩
    rw [Option.some.inj hhead] at hhigh
    cases hhigh
  have hvalue : 16 * (byte.toNat / 16) + byte.toNat % 16 = byte.toNat := by omega
  unfold fromStrRadix
  rw [if_neg hsign]
  simp only [hexByte, List.foldlM_cons, List.foldlM_nil, pushDigit, hhigh, hlow, ensure,
    List.isEmpty_cons, Bool.not_false, if_true, bind, Except.bind, Nat.mul_zero, Nat.zero_add, pure,
    Except.pure]
  rw [if_pos (by omega)]
  simp only [hvalue, if_pos hbyte, Nat.toUInt8, UInt8.ofNat_toNat]

theorem isCharBoundary_of_hex {token : Bytes} (h : token.all isAsciiHexdigit = true) {index : Nat}
    (hindex : index ≤ token.length) : isCharBoundary token index = true := by
  unfold isCharBoundary
  cases hbyte : token[index]? with
  | none =>
    have hend := List.getElem?_eq_none_iff.mp hbyte
    simp only [beq_iff_eq]
    omega
  | some byte =>
    have hdigit := List.all_eq_true.mp h byte (List.mem_of_getElem? hbyte)
    simp only [isAsciiHexdigit, isAsciiDigit, Bool.or_eq_true, decide_eq_true_eq] at hdigit
    simp only [Bool.or_eq_true, decide_eq_true_eq]
    omega

theorem byteAt_eq {token : Bytes} (h : token.all isAsciiHexdigit = true) {index : Nat}
    (hindex : index + 2 ≤ token.length) :
    byteAt token index = fromStrRadix ((token.take (index + 2)).drop index) := by
  unfold byteAt sliceStr
  rw [if_pos ⟨by omega, isCharBoundary_of_hex h (by omega), isCharBoundary_of_hex h hindex⟩]
  rfl

theorem length_hexBytes (bytes : Bytes) : (bytes.flatMap hexByte).length = 2 * bytes.length := by
  induction bytes with
  | nil => rfl
  | cons byte bytes ih =>
    rw [List.flatMap_cons, List.length_append, ih, List.length_cons]
    show 2 + _ = _
    omega

theorem all_hexBytes (bytes : Bytes) : (bytes.flatMap hexByte).all isAsciiHexdigit = true := by
  rw [List.all_flatMap, List.all_eq_true]
  intro byte _
  have hbyte := byte.toNat_lt
  simp only [hexByte, List.all_cons, List.all_nil, Bool.and_true, Bool.and_eq_true]
  exact ⟨isAsciiHexdigit_hexDigit (by omega), isAsciiHexdigit_hexDigit (by omega)⟩

theorem pair_hexBytes {bytes : Bytes} {step : Nat} (h : step < bytes.length) :
    ((bytes.flatMap hexByte).take (2 * step + 2)).drop (2 * step) = hexByte bytes[step] := by
  induction bytes generalizing step with
  | nil => cases h
  | cons byte bytes ih =>
    cases step with
    | zero => rfl
    | succ step => exact ih (Nat.lt_of_succ_lt_succ h)

theorem mapM_range {f : Nat → Checked UInt8} {bytes : Bytes}
    (h : ∀ step (hstep : step < bytes.length), f step = .ok bytes[step]) :
    (List.range bytes.length).mapM f = .ok bytes := by
  induction bytes using List.reverseRecOn with
  | nil => rfl
  | append_singleton bytes byte ih =>
    have hlast : f bytes.length = .ok byte := by
      rw [h bytes.length (by simp)]
      simp
    have hbefore := ih fun step hstep => by
      rw [h step (by simp; omega), List.getElem_append_left hstep]
    rw [List.length_append, List.length_singleton, List.range_succ, List.mapM_append, hbefore]
    simp [hlast]
    rfl

theorem decode_document {serde : Serde} {target : Target} (hvalid : target.validate = .ok ())
    (hfaithful : serde.Faithful target) :
    decode serde ((document target).flatMap hexByte) = .ok target := by
  have hlength := length_hexBytes (document target)
  have hhex := all_hexBytes (document target)
  have hdocument := length_document (validate_eq_ok.mp hvalid)
  have hbytes : ((List.range (document target).length).mapM fun step =>
      byteAt ((document target).flatMap hexByte) (2 * step)) = .ok (document target) :=
    mapM_range fun step hstep => by
      rw [byteAt_eq hhex (by omega), pair_hexBytes hstep, fromStrRadix_hexByte]
  have hsteps : (2 * (document target).length + 1) / 2 = (document target).length := by omega
  refine ensure_bind_eq_ok.mpr ⟨?_, ?_⟩
  · rw [hhex, hlength]
    simp only [Bool.and_true, Bool.and_eq_true, decide_eq_true_eq, beq_iff_eq]
    omega
  rw [hlength, hsteps]
  refine bind_eq_ok.mpr ⟨_, hbytes, bind_eq_ok.mpr ⟨target, ?_, bind_eq_ok.mpr ⟨_, hvalid, rfl⟩⟩⟩
  rw [hfaithful.reads]
  rfl

theorem safe_fromStrRadix (src : Bytes) : Safe (fromStrRadix src) fun _ => True := by
  have hdigits : ∀ digits value, Safe (List.foldlM pushDigit value digits) fun _ => True := by
    intro digits
    induction digits with
    | nil => exact fun value => Safe.pure trivial
    | cons c digits ih =>
      intro value
      have hpush : Safe (pushDigit value c) fun _ => True := by
        unfold pushDigit
        split
        · exact safe_refused _
        · split
          · exact Safe.pure trivial
          · exact safe_refused _
      exact hpush.bind fun next _ => ih next
  exact (safe_ensure _ _).bind fun _ _ => (hdigits _ 0).bind fun _ _ => Safe.pure trivial

theorem safe_mapM {f : Nat → Checked UInt8} {steps : List Nat}
    (h : ∀ step ∈ steps, Safe (f step) fun _ => True) : Safe (steps.mapM f) fun _ => True := by
  induction steps with
  | nil => exact Safe.pure trivial
  | cons step steps ih =>
    rw [List.mapM_cons]
    have hrest := ih fun other hother => h other (List.mem_cons_of_mem step hother)
    exact (h step List.mem_cons_self).bind fun _ _ => hrest.bind fun _ _ => Safe.pure trivial

theorem safe_attempt (result : Except String α) : Safe (attempt result) fun _ => True := by
  cases result with
  | ok value => exact Safe.pure trivial
  | error message => exact safe_refused message

theorem safe_validate (target : Target) :
    Safe target.validate fun _ => target.validate = .ok () := by
  have hvalidate : Safe target.validate fun _ => True :=
    (safe_ensure _ _).bind fun _ _ => (safe_ensure _ _).bind fun _ _ =>
      ⟨(safe_ensure _ _).1, fun _ _ => trivial⟩
  exact ⟨hvalidate.1, fun _ hvalue => hvalue⟩

theorem safe_decode (serde : Serde) (token : Bytes) :
    Safe (decode serde token) fun target => target.validate = .ok () ∧ Recoverable target := by
  refine (safe_ensure _ _).bind fun _ hhex => ?_
  simp only [Bool.and_eq_true, decide_eq_true_eq, beq_iff_eq] at hhex
  obtain ⟨⟨-, heven⟩, hhex⟩ := hhex
  have hbytes : Safe ((List.range ((token.length + 1) / 2)).mapM fun step =>
      byteAt token (2 * step)) fun _ => True := by
    refine safe_mapM fun step hstep => ?_
    have hlt := List.mem_range.mp hstep
    rw [byteAt_eq hhex (by omega)]
    exact safe_fromStrRadix _
  refine hbytes.bind fun bytes _ => (safe_attempt _).bind fun target _ => ?_
  exact (safe_validate target).bind fun _ hvalid => Safe.pure ⟨hvalid, validate_eq_ok.mp hvalid⟩

/-- Every valid target has a short token that gives it back, and no token at all gives another kind
of target or stops the program. -/
theorem codec_exact (serde : Serde) :
    (∀ target : Target, target.validate = .ok () → serde.Faithful target →
      ∃ token, encode serde target = .ok token ∧ token.length ≤ 4096
        ∧ decode serde token = .ok target) ∧ ∀ token, Safe (decode serde token) fun target =>
        target.validate = .ok () ∧ Recoverable target := by
  refine ⟨fun target hvalid hfaithful => ?_, safe_decode serde⟩
  have hdocument := length_document (validate_eq_ok.mp hvalid)
  refine ⟨(document target).flatMap hexByte, ?_, ?_, decode_document hvalid hfaithful⟩
  · refine bind_eq_ok.mpr ⟨_, hvalid, bind_eq_ok.mpr ⟨document target, ?_, rfl⟩⟩
    rw [hfaithful.writes]
    rfl
  · rw [length_hexBytes]
    omega

def camera : Target where
  vendor := 0x03c3
  product := 0x676d
  serial := ascii "1234567890abcdef"
  location := ascii "USB\\1-2.3"
  address := some 2
  generation := none

/-- A library that knows one document. -/
def onlyCamera : Serde where
  toVec target := .ok (document target)
  fromSlice bytes := if bytes = document camera then .ok camera else .error "unknown document"

theorem codec_exact_camera : ∃ token, encode onlyCamera camera = .ok token ∧ token.length ≤ 4096
      ∧ decode onlyCamera token = .ok camera :=
  (codec_exact onlyCamera).1 camera (by decide) ⟨rfl, by simp [onlyCamera]⟩

end Regain.Transport
