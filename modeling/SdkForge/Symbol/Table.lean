import SdkForge.Model.Walk
import SdkForge.Symbol.Provider

/-!
# Tables of symbols

The symbols of the shapes that a service reaches. Shapes that define a type in the generated code
give different types, or there is no table.
-/

namespace SdkForge

/-- Symbols by shape, and the shapes that define the generated types. -/
structure SymbolTable where
  symbols : OrderedMap ShapeId Symbol := .empty
  definitions : OrderedMap String ShapeId := .empty

namespace SymbolTable

/-- Whether the generated code defines a type for the shape, if it has a type of its own. -/
def definesType (shape : Shape) : Bool :=
  match shape.body with
  | .record _ | .union _ | .operation .. | .service .. => true
  | .string => shape.traits.enumValues.isSome
  | _ => false

/-- Notes that a shape defines a type, unless another one does. -/
def define (t : SymbolTable) (shape : ShapeId) (type : String) : Except Fault SymbolTable :=
  match t.definitions.get? type with
  | some first => .error (.symbolCollision type first shape)
  | none => .ok { t with definitions := t.definitions.insert type shape }

/-- Adds the symbol of a shape. -/
def add (symbolOf : Shape → Except Fault Symbol) (t : SymbolTable) (shape : Shape) :
    Except Fault SymbolTable := do
  let symbol ← symbolOf shape
  let t ← if definesType shape && symbol.isGenerated then t.define shape.id symbol.fullName
      else pure t
  return { t with symbols := t.symbols.insert shape.id symbol }

/-- The table of the shapes that a service reaches, met in the order of the walk. -/
def resolve (symbolOf : Shape → Except Fault Symbol) (model : Model) (service : ShapeId) :
    Except Fault SymbolTable := do
  let _ ← Fault.ofModel (model.expectKind service .service)
  (model.walk service).foldlM (add symbolOf) {}

def get? (t : SymbolTable) (id : ShapeId) : Option Symbol := t.symbols.get? id

/-- The symbol of a shape, which has to be there. -/
def expect (t : SymbolTable) (id : ShapeId) : Except Fault Symbol :=
  (t.get? id).elim (.error (.model (.missingShape id))) .ok

def size (t : SymbolTable) : Nat := t.symbols.size

end SymbolTable

end SdkForge
