import Regain.Lib.Float64

/-!
# JSON values

Values as a JSON library with 64-bit integers keeps them: a number is a
non-negative integer, a negative integer or a double.  Indexing an absent field
gives null, and every accessor refuses a value of another kind.
-/

namespace Regain.Lib

inductive JsonNumber where
  /-- A non-negative 64-bit integer. -/
  | unsigned (value : Nat)
  /-- A negative 64-bit integer. -/
  | negative (value : Int)
  | double (value : F64)
  deriving DecidableEq

inductive Json where
  | null
  | bool (value : Bool)
  | number (value : JsonNumber)
  | string (value : String)
  | array (items : List Json)
  | object (fields : List (String × Json))

namespace Json

instance : Inhabited Json := ⟨null⟩

/-! ## Objects

The fields of an object are kept in the order of their names, each name once. -/

abbrev Fields := List (String × Json)

/-- Set a field, at its place in the order of names. -/
def Fields.set (name : String) (value : Json) : Fields → Fields
  | [] => [(name, value)]
  | (name', value') :: rest =>
    if name = name' then (name, value) :: rest
    else if name < name' then (name, value) :: (name', value') :: rest
    else (name', value') :: Fields.set name value rest

/-- `object.remove`: the removed value and the other fields. -/
def Fields.remove (name : String) (fields : Fields) : Option Json × Fields :=
  (fields.lookup name, fields.filter fun entry => entry.1 ≠ name)

mutual

/-- Equality of values; the two kinds of numbers differ even where their values agree. -/
def beq : Json → Json → Bool
  | null, null => true
  | bool a, bool b => a = b
  | number a, number b => a = b
  | string a, string b => a = b
  | array a, array b => beqItems a b
  | object a, object b => beqFields a b
  | _, _ => false

def beqItems : List Json → List Json → Bool
  | [], [] => true
  | a :: as, b :: bs => beq a b && beqItems as bs
  | _, _ => false

def beqFields : List (String × Json) → List (String × Json) → Bool
  | [], [] => true
  | (name, a) :: as, (name', b) :: bs => name = name' && beq a b && beqFields as bs
  | _, _ => false

end

instance : BEq Json := ⟨beq⟩

/-- `value.get(name)`: nothing unless the value is an object with that field. -/
def get? (value : Json) (name : String) : Option Json :=
  match value with
  | object fields => fields.lookup name
  | null => none
  | bool _ => none
  | number _ => none
  | string _ => none
  | array _ => none

/-- The fields that an indexed assignment works on; null counts as an empty object, and an
assignment to a field of any other value panics. -/
def assignable : Json → Option Fields
  | object fields => some fields
  | null => some []
  | bool _ => none
  | number _ => none
  | string _ => none
  | array _ => none

/-- `value[field]`: null unless the value is an object with that field. -/
def field (value : Json) (name : String) : Json :=
  match value with
  | object fields => (fields.lookup name).getD null
  | null => null
  | bool _ => null
  | number _ => null
  | string _ => null
  | array _ => null

def isNull : Json → Bool
  | null => true
  | bool _ => false
  | number _ => false
  | string _ => false
  | array _ => false
  | object _ => false

def asBool : Json → Option Bool
  | bool value => some value
  | _ => none

def asNat : Json → Option Nat
  | number (.unsigned value) => some value
  | _ => none

/-- `as_f64`: any number, rounded to a double. -/
def asF64 : Json → Option F64
  | number (.unsigned value) => some (F64.ofRat value)
  | number (.negative value) => some (F64.ofRat value)
  | number (.double value) => some value
  | _ => none

/-- `as_i64`: integers that fit a signed 64-bit word. -/
def asInt : Json → Option Int
  | number (.unsigned value) => if value < 2 ^ 63 then some value else none
  | number (.negative value) => some value
  | _ => none

def asString : Json → Option String
  | string value => some value
  | _ => none

/-- A double as a number; the values that JSON does not have become null. -/
def ofF64 (value : F64) : Json :=
  if value.isFinite then number (.double value) else null

def ofNat (value : Nat) : Json :=
  number (.unsigned value)

def ofInt (value : Int) : Json :=
  if value < 0 then number (.negative value) else number (.unsigned value.toNat)

end Json

end Regain.Lib
