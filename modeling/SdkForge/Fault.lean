import SdkForge.Model
import SdkForge.Section

/-!
# Why nothing is generated

The causes for which a run stops, and their words.
-/

namespace SdkForge

/-- Why a run stops. -/
inductive Fault where
  /-- The model cannot be built or used. -/
  | model (e : ModelError)
  | missingTrait (shape : ShapeId) (trait : TraitKind)
  /-- A contribution of a decorator failed. -/
  | composition (decorator : String) (place : SectionName) (cause : String)
  /-- Two shapes, or two operations, give one name. -/
  | symbolCollision (name : String) (first second : ShapeId)
  /-- Two decorators have one name; their places in the list are given. -/
  | duplicateDecorator (name : String) (first second : Nat)
  | duplicateSection (place : SectionName)
  | unknownSection (place : SectionName)
  | unsupportedProtocol (service : ShapeId) (declared : List WireProtocol)
  | unboundOperation (operation : ShapeId)
  | unknownDecorator (name : String) (available : List String)
  /-- The lints found errors. -/
  | invalidModel (errors : Nat)
  | warningsDenied (warnings : Nat) (plugin : String)
  /-- Symbols were asked for before they were resolved. -/
  | unresolvedSymbols
  /-- A shape in a module of types is of a kind that has no definition. -/
  | noDefinition (shape : ShapeId) (kind : ShapeKind)
  | noOperations (service : ShapeId)
  | invalidPattern (shape : ShapeId)
  /-- The references from the shape lead back to it through lists, maps and members only. -/
  | endlessType (shape : ShapeId)
  /-- A decorator or plugin failed. -/
  | extension (message : String)
  deriving DecidableEq, Repr

namespace Fault

/-- The protocols that a service declares, for a message. -/
def declaredText : List WireProtocol → String
  | [] => "<none>"
  | declared => ", ".intercalate (declared.map toString)

def message : Fault → String
  | model e => e.message
  | missingTrait shape trait => s!"shape `{shape}` is missing required trait `{trait.id}`"
  | composition decorator place _ => s!"decorator `{decorator}` failed to render section `{place}`"
  | symbolCollision name first second => s!"`{first}` and `{second}` both generate `{name}`"
  | duplicateDecorator name first second =>
    s!"decorator `{name}` is registered twice (positions {first} and {second})"
  | duplicateSection place => s!"section `{place}` is already registered"
  | unknownSection place => s!"section `{place}` is not registered"
  | unsupportedProtocol service declared =>
    s!"service `{service}` uses protocol `{declaredText declared}`, which has no generator"
  | unboundOperation operation => s!"operation `{operation}` is not bound to any service"
  | unknownDecorator name available =>
    s!"unknown decorator `{name}` (available: " ++ ", ".intercalate available ++ ")"
  | invalidModel errors => s!"Validation failed with {errors} error(s)"
  | warningsDenied warnings plugin => s!"{warnings} warning(s) denied by `{plugin}`"
  | unresolvedSymbols => "symbols not resolved - did the resolve phase run?"
  | noDefinition shape kind => s!"`{shape}` ({kind.name}) has no type definition"
  | noOperations service => s!"service `{service}` has no operations"
  | invalidPattern shape => s!"invalid pattern on `{shape}`"
  | endlessType shape => s!"the type of `{shape}` has no end"
  | extension message => message

/-- What a use of the model gives, among the causes for which a run stops. -/
def ofModel (result : Except ModelError α) : Except Fault α := result.mapError .model

theorem ofModel_eq_ok {result : Except ModelError α} {a : α} :
    ofModel result = .ok a ↔ result = .ok a := by
  cases result with
  | error e => exact ⟨nofun, nofun⟩
  | ok b =>
    exact ⟨fun h => congrArg Except.ok (Except.ok.inj h),
      fun h => congrArg Except.ok (Except.ok.inj h)⟩

end Fault

end SdkForge
