import SdkForge.Decimal

/-!
# JSON values

A value as it stands in a document: the fields of an object in their order, repeated ones included,
and a number by its first decimal digits. A string that holds half of a surrogate pair has no text.
-/

namespace SdkForge

/-- A number of a document. -/
structure JsonNumber where
  /-- What the digits write that fit into 64 bits. -/
  value : Decimal
  /-- Written without fraction and exponent. -/
  whole : Bool
  deriving DecidableEq, Repr

/-- A JSON value. -/
inductive JsonValue where
  | null
  | bool (b : Bool)
  | number (n : JsonNumber)
  | string (text : Option String)
  | array (items : List JsonValue)
  | object (fields : List (Option String × JsonValue))
  deriving Inhabited, Repr

namespace JsonNumber

/-- The number, if it is one of 16 bits written as such. -/
def toUInt16? (n : JsonNumber) : Option UInt16 :=
  if n.whole ∧ !n.value.negative ∧ n.value.mantissa < UInt16.size then
    some (UInt16.ofNat n.value.mantissa) else none

/-- The greatest power of ten that is a double. -/
def maxPower : Nat := 308

/-- Whether the number can be kept as a double. It is computed from the doubles next to its digits
and to the power of ten, so that the bound is that of the product of the two. -/
def isKeepable (n : JsonNumber) : Bool :=
  n.value.mantissa = 0 || n.value.exponent < 0 || (n.value.exponent ≤ maxPower &&
    Decimal.nearestDouble n.value.mantissa *
      Decimal.nearestDouble (Nat.pow 10 n.value.exponent.toNat) < Decimal.doubleBound)

end JsonNumber

namespace JsonValue

/-- The text of a string. -/
def text? : JsonValue → Option String
  | .string text => text
  | _ => none

/-- The items of an array. -/
def items? : JsonValue → Option (List JsonValue)
  | .array items => some items
  | _ => none

/-- The value of an object's field, the last one if it is repeated. -/
def field? (name : String) : JsonValue → Option JsonValue
  | .object fields => (fields.reverse.find? (·.1 == some name)).map (·.2)
  | _ => none

/-- The text of an object's field. -/
def textField? (name : String) (json : JsonValue) : Option String := (json.field? name).bind text?

mutual
/-- Whether the value can be kept: its texts are whole, its numbers doubles, and arrays and objects
nest less than `room` deep. -/
def isSound (room : Nat) : JsonValue → Bool
  | .null | .bool _ => true
  | .number n => n.isKeepable
  | .string text => text.isSome
  | .array items => 1 < room && allSound (room - 1) items
  | .object fields => 1 < room && allFieldsSound (room - 1) fields
def allSound (room : Nat) : List JsonValue → Bool
  | [] => true
  | item :: rest => item.isSound room && allSound room rest
def allFieldsSound (room : Nat) : List (Option String × JsonValue) → Bool
  | [] => true
  | (name, value) :: rest => name.isSome && value.isSound room && allFieldsSound room rest
end

end JsonValue

end SdkForge
