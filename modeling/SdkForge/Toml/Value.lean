/-!
# TOML values

What a TOML document says, apart from how it is laid out. Numbers with a fraction and points in time
are kept as they were written.
-/

namespace SdkForge.Toml

/-- A TOML value. -/
inductive Value where
  | string (text : String)
  | integer (n : Int)
  | float (literal : String)
  | boolean (b : Bool)
  | datetime (literal : String)
  | array (items : List Value)
  /-- A table, by increasing key. -/
  | table (entries : List (String × Value))
  deriving Inhabited, Repr

/-- What kind of value it is. -/
def Value.kindName : Value → String
  | .string _ => "string"
  | .integer _ => "integer"
  | .float _ => "float"
  | .boolean _ => "boolean"
  | .datetime _ => "datetime"
  | .array _ => "array"
  | .table _ => "table"

/-- Puts an entry among others by its key. -/
def placeByKey (entry : String × Value) : List (String × Value) → List (String × Value)
  | [] => [entry]
  | first :: rest =>
    if entry.1 ≤ first.1 then entry :: first :: rest else first :: placeByKey entry rest

/-- Entries by increasing key. -/
def byKey (entries : List (String × Value)) : List (String × Value) := entries.foldr placeByKey []

end SdkForge.Toml
