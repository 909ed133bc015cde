import SdkForge.Naming
import SdkForge.Symbol.Provider

/-!
# Plain symbols

The first stage gives every shape the type that its kind asks for. A member has the type of its
target, optional unless the member is required; a list or map has the type of what it holds. These
are followed through the model, which ends where the references do not lead in a circle through
lists, maps and members.
-/

namespace SdkForge.PlainSymbols

/-- What the types depend on. -/
structure Settings where
  model : Model
  /-- The crate with the types that clients and servers share. -/
  typesCrate : String
  mode : Mode

def Settings.ofProject (p : Project) : Settings := ⟨p.model, p.typesCrate, p.mode⟩

/-- The name of a shape as a type. -/
def typeName (shape : Shape) : String := Naming.typeName shape.id.name

/-- The module that defines a structure. -/
def recordModule (ts : Traits) : String :=
  if ts.syntheticInput.isSome then "input"
  else if ts.syntheticOutput.isSome then "output"
  else if ts.error.isSome then "error"
  else "model"

/-- A type that a module of the generated crate defines. -/
def defined (shape : Shape) (module : String) (derives : List Instance) : Symbol :=
  { Symbol.generated (typeName shape) module with derives }

/-- The instances of structures and unions. -/
def aggregateInstances : List Instance := [.debug, .clone, .partialEq]

/-- Whether a string gets a type that checks its pattern: servers check, except for strings that
every model has. -/
def checksPattern (s : Settings) (shape : Shape) : Bool :=
  shape.traits.pattern.isSome && shape.id.ns != Model.preludeNamespace && s.mode == .server

/-- The type of a string. -/
def ofString (s : Settings) (shape : Shape) : Symbol :=
  if shape.traits.enumValues.isSome then
    defined shape "model" [.debug, .clone, .partialEq, .eq, .hash, .partialOrd, .ord]
  else if checksPattern s shape then defined shape "model" [.debug, .clone, .partialEq, .eq, .hash]
  else .external "String"

/-- A type of the runtime. -/
def runtimeType (s : Settings) (name : String) : Symbol := .external name (some s.typesCrate)

/-- The type of a number. -/
def ofNumber (s : Settings) : NumberKind → Symbol
  | .byte => .external "i8"
  | .short => .external "i16"
  | .integer => .external "i32"
  | .long => .external "i64"
  | .float => .external "f32"
  | .double => .external "f64"
  | .bigInteger => runtimeType s "BigInteger"
  | .bigDecimal => runtimeType s "BigDecimal"

/-- The shape that a member of a list or map holds. -/
def elementTarget (model : Model) (member : ShapeId) : Except ModelError Shape := do
  model.memberTarget (← model.expect member)

/-- The symbol of a shape; `fuel` bounds how far lists, maps and members are followed. -/
def symbolWithin (s : Settings) : Nat → Shape → Except Fault Symbol
  | 0, shape => .error (.endlessType shape.id)
  | fuel + 1, shape =>
    match shape.body with
    | .member _ target => do
      let symbol ← symbolWithin s fuel (← Fault.ofModel (s.model.expect target))
      return if shape.traits.required then symbol else symbol.optional
    | .list member => do
      let inner ← symbolWithin s fuel (← Fault.ofModel (elementTarget s.model member))
      return { type := .list inner.type }
    | .map _ value => do
      let inner ← symbolWithin s fuel (← Fault.ofModel (elementTarget s.model value))
      return { type := .map (.named "String") inner.type }
    | .record _ => return defined shape (recordModule shape.traits) aggregateInstances
    | .union _ => return defined shape "model" aggregateInstances
    | .operation .. => return defined shape "operation" [.debug, .clone]
    | .service .. =>
      return { type := .named (typeName shape) (some "crate"), module := some "service" }
    | .string => return ofString s shape
    | .number kind => return ofNumber s kind
    | .boolean => return .external "bool"
    | .blob => return runtimeType s "Blob"
    | .timestamp => return runtimeType s "DateTime"

/-- The symbol of a shape. A chain of references without a circle is no longer than the model. -/
def symbol (s : Settings) (shape : Shape) : Except Fault Symbol :=
  symbolWithin s (s.model.size + 1) shape

/-- The name of a member. -/
def memberName (member : Shape) : String := Text.snakeCase member.id.lastName

/-- The provider of plain symbols. -/
def provider (s : Settings) : SymbolProvider :=
  { name := "symbol-visitor", symbol := symbol s, memberName }

end SdkForge.PlainSymbols
