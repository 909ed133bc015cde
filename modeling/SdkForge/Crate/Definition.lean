import SdkForge.Crate.CheckedString
import SdkForge.Crate.Record
import SdkForge.Crate.StringEnum

/-!
# Definitions of types

Five modules of a crate hold types. A module defines a type for each shape whose symbol belongs to
the module, in the order of the types' names.
-/

namespace SdkForge.Crate

/-! ## Modules -/

/-- A module that holds types. -/
inductive TypeModule where
  | error | input | model | operation | output
  deriving DecidableEq, Repr

namespace TypeModule

/-- The modules in the order of their names. -/
def all : List TypeModule := [error, input, model, operation, output]

def name : TypeModule → String
  | error => "error"
  | input => "input"
  | model => "model"
  | operation => "operation"
  | output => "output"

/-- What the module holds. -/
def doc : TypeModule → String
  | error => "Errors returned by the service's operations."
  | input => "Operation inputs."
  | model => "Data shapes shared by operations."
  | operation => "Operation marker types."
  | output => "Operation outputs."

end TypeModule

/-! ## Operations -/

/-- The type that stands for an operation. -/
structure OperationMarker where
  name : String
  doc : Option String
  derives : List String
  operation : ShapeId
  deriving Repr

namespace OperationMarker

def ofShape (shape : Shape) (symbol : Symbol) : OperationMarker :=
  ⟨symbol.name, shape.traits.documentation, symbol.derives.map (·.name), shape.id⟩

/-- A constant with its documentation. -/
def constant (doc name value : String) : Fragment :=
  .seq [.doc doc, .line s!"pub const {name}: &'static str = {Text.quote value};"]

def fragment (m : OperationMarker) : Fragment :=
  .separated [
    .seq (Code.preamble m.doc [] [] ++
      [.line (Code.deriveLine m.derives), .line s!"pub struct {m.name};"]),
    ((({ type := m.name } : Code.Implementation).item
      (constant "Absolute shape id of the operation." "ID" (toString m.operation))).item
      (constant "Name of the operation within its service." "NAME" m.operation.name)).fragment]

end OperationMarker

/-! ## Definitions -/

/-- The definition of a type. -/
inductive Definition where
  | record (r : Record)
  | union (d : Code.EnumDecl)
  | stringEnum (e : StringEnum)
  | checkedString (c : CheckedString)
  | operation (m : OperationMarker)

namespace Definition

/-- The definition of a shape's type. -/
def ofShape (b : Blueprint) (shape : Shape) (symbol : Symbol) : Except Fault Definition :=
  match shape.body with
  | .record _ => return .record (← Record.ofShape b shape symbol)
  | .union _ => return .union (← unionDecl b shape symbol)
  | .string => match shape.traits.enumValues with
    | some values => return .stringEnum (.ofValues symbol shape.traits.documentation values)
    | none => return .checkedString (← CheckedString.ofShape b shape symbol)
  | .operation .. => return .operation (.ofShape shape symbol)
  | _ => .error (.noDefinition shape.id shape.kind)

def fragment : Definition → Fragment
  | record r => r.fragment
  | union d => d.fragment
  | stringEnum e => e.fragment
  | checkedString c => c.fragment
  | operation m => m.fragment

end Definition

namespace Blueprint

/-- The shapes that a module defines types for, with their symbols, by the types' names. -/
def definedIn (b : Blueprint) (module : TypeModule) : List (Shape × Symbol) :=
  let found := b.symbols.symbols.entries.filterMap fun (id, symbol) =>
    if symbol.module = some module.name then (b.project.model.get? id).map (·, symbol) else none
  (found.filter fun (shape, _) => !shape.isMember).mergeSort fun (_, a) (_, b) =>
    (compare a.name b.name).isLE

/-- The definitions of a module. -/
def definitions (b : Blueprint) (module : TypeModule) : Except Fault (List Definition) :=
  (b.definedIn module).mapM fun (shape, symbol) => Definition.ofShape b shape symbol

/-- The text of a module. -/
def typeFile (b : Blueprint) (module : TypeModule) : Except Fault String := do
  let definitions ← b.definitions module
  return (({ doc := some module.doc } : Code.SourceFile).addAll
    (definitions.map (·.fragment))).render

end Blueprint

end SdkForge.Crate
