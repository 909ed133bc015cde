import SdkForge.Crate.CheckedString
import SdkForge.Naming

/-!
# Builders of services

A generated service is made by a builder with a slot for each operation. `Blueprint.slots` lists the
slots; the builder's fields and functions are read off them. No two slots have one field.
-/

namespace SdkForge.Crate

/-! ## Slots -/

/-- The place of an operation in the builder. -/
structure Slot where
  operation : Shape
  /-- The field, which is also the name of the function that sets the handler. -/
  field : String
  /-- The name of the function that sets an assembled operation. -/
  setter : String
  /-- The type that stands for the operation. -/
  marker : String

namespace Slot

/-- The function that sets an assembled operation. -/
def setterOf (operation : ShapeId) : String := Project.operationField operation ++ "_operation"

/-- Adds the slot of an operation, whose field has to be a new one. -/
def add (b : Blueprint) (slots : List Slot) (operation : Shape) : Except Fault (List Slot) := do
  let field := Naming.fieldName operation.id.name
  if let some first := slots.find? (·.field == field) then
    throw (.symbolCollision field first.operation.id operation.id)
  let symbol ← b.symbols.expect operation.id
  return slots ++ [⟨operation, field, setterOf operation.id, symbol.fullName⟩]

end Slot

/-- The slots of a service's operations. -/
def Blueprint.slots (b : Blueprint) : Except Fault (List Slot) := do
  (← Fault.ofModel b.project.operations).foldlM (Slot.add b) []

/-! ## Texts that files of the server share -/

namespace Blueprint

/-- The type of a service that a handler makes. -/
def routeType (b : Blueprint) : String := s!"{b.server}::routing::Route<Body>"

/-- The type that says which requests reach an operation. -/
def bindingType (b : Blueprint) : String := s!"{b.server}::routing::RequestSpec"

/-- The condition on plugins. -/
def pluginParam (b : Blueprint) : String := s!"Plugin: {b.server}::operation::Plugin<Body>"

/-- The type of responses. -/
def responseType (b : Blueprint) : String :=
  s!"{b.server}::http::Response<{b.server}::bytes::Bytes>"

end Blueprint

/-- The name of a service's builder. -/
def builderName (service : String) : String := service ++ "Builder"

namespace ServiceBuilder

/-! ## The builder's fields -/

/-- The fields of a builder, each with its type. -/
def fields (b : Blueprint) (slots : List Slot) : List (String × String) :=
  slots.map (fun s => (s.field, s!"Option<{b.routeType}>")) ++
    [("plugin", "Plugin"), ("_body", "std::marker::PhantomData<Body>")]

def decl (b : Blueprint) (service : String) (slots : List Slot) : Fragment :=
  let builder := builderName service
  .seq [
    .doc (s!"Builder for [`{service}`].\n\n" ++
      s!"Every operation needs a handler before [`build`]({builder}::build) succeeds."),
    .braced (s!"pub struct {builder}<Body, Plugin> " ++ "\x7b")
      ((fields b slots).map fun (name, type) => .line s!"{name}: {type},")]

/-! ## Setters -/

/-- The function that sets the handler of an operation. -/
def handlerSetter (b : Blueprint) (s : Slot) : Code.Function where
  name := s.field
  doc := some s!"Sets the handler for `{s.operation.id.name}`."
  generics := ["H"]
  params := [⟨"self", ""⟩, ⟨"handler", "H"⟩]
  returns := some "Self"
  conditions :=
    [s!"H: Fn({b.server}::http::Request<Body>) -> {b.responseType} + Send + Sync + 'static"]
  body := [.line s!"self.{s.setter}({b.server}::operation::Operation::from_handler(handler))"]

/-- The function that sets an operation that is assembled already. -/
def operationSetter (b : Blueprint) (s : Slot) : Code.Function where
  name := s.setter
  doc := some s!"Sets an assembled operation for `{s.operation.id.name}`."
  params := [⟨"mut self", ""⟩, ⟨"operation", s!"{b.server}::operation::Operation<Body>"⟩]
  returns := some "Self"
  body :=
    [.line s!"self.{s.field} = Some(operation.upgrade({s.marker}::ID, &self.plugin));",
      .line "self"]

/-! ## Building -/

/-- Whether a shape's type checks a pattern that is compiled when it is first used. -/
def isChecked (shape : Shape) : Bool := shape.kind = .string && shape.traits.pattern.isSome

/-- The types of strings that check a pattern, each once and in their order. -/
def checkedTypes (b : Blueprint) : List String :=
  let shapes := (b.project.model.walk b.project.service).filter isChecked
  let symbols := (shapes.filterMap fun shape => b.symbols.get? shape.id).filter (·.isGenerated)
  (OrderedMap.ofList (symbols.map fun s => (s.fullName, ()))).keys

/-- The statement that makes a router of routes. -/
def routerOf (routesType : String) (routes steps : List Fragment) : List Fragment := [
  .block s!"let routes: {routesType} = [" routes (some "];"),
  .line "let router = routes",
  .indent ([.line ".into_iter()"] ++ steps ++ [.line ".collect();"])]

/-- The statement that notes a missing operation. -/
def noteMissing (s : Slot) : Fragment :=
  .braced (s!"if self.{s.field}.is_none() " ++ "\x7b")
    [.line s!"missing.push({s.marker}::ID, \".{s.field}()\");"]

/-- The function that builds the service if every operation is there. -/
def buildFunction (b : Blueprint) (service : String) (slots : List Slot) (prologue : Fragment) :
    Code.Function where
  name := "build"
  doc := some "Builds the service, failing when any operation has no handler."
  params := [⟨"self", ""⟩]
  returns := some s!"Result<{service}<{b.routeType}>, {b.server}::MissingOperationsError>"
  body :=
    (checkedTypes b).map (fun type => .line s!"{type}::{CheckedString.compileName}();") ++
    [prologue,
      .line ((if slots.isEmpty then "let" else "let mut") ++
        s!" missing = {b.server}::MissingOperationsError::new({Text.quote service});")] ++
    slots.map noteMissing ++
    [.braced "if !missing.is_empty() \x7b" [.line "return Err(missing);"]] ++
    routerOf s!"[({b.bindingType}, Option<{b.routeType}>); {slots.length}]"
      (slots.map fun s => .line s!"(request_specs::{s.field}(), self.{s.field}),")
      [.line ".filter_map(|(spec, route)| route.map(|route| (spec, route)))"] ++
    [.line (s!"Ok({service} " ++ "\x7b router \x7d)")]

/-- The route of an operation, which fails if there is no handler. -/
def uncheckedRoute (b : Blueprint) (s : Slot) : Fragment :=
  .block "(" [
    .line s!"request_specs::{s.field}(),",
    .line (s!"self.{s.field}.unwrap_or_else(|| " ++
      s!"{b.server}::operation::FailOnMissingOperation.upgrade({s.marker}::ID, &plugin)),")]
        (some "),")

/-- The function that builds the service with what is there. -/
def buildUncheckedFunction (b : Blueprint) (service : String) (slots : List Slot) :
    Code.Function where
  name := "build_unchecked"
  doc := some "Builds the service; operations without a handler answer every request with a 500."
  params := [⟨"self", ""⟩]
  returns := some s!"{service}<{b.routeType}>"
  body :=
    [.line (if slots.isEmpty then "let _ = self.plugin;" else "let plugin = self.plugin;")] ++
    routerOf s!"[({b.bindingType}, {b.routeType}); {slots.length}]" (slots.map (uncheckedRoute b))
      [] ++
    [.line (s!"{service} " ++ "\x7b router \x7d")]

/-! ## The builder's functions -/

/-- The functions that set operations. -/
def setters (b : Blueprint) (slots : List Slot) : List Code.Function :=
  slots.flatMap fun s => [handlerSetter b s, operationSetter b s]

/-- The functions of a builder, without what decorators add. -/
def functions (b : Blueprint) (service : String) (slots : List Slot) (prologue : Fragment) :
    List Code.Function :=
  setters b slots ++ [buildFunction b service slots prologue,
    buildUncheckedFunction b service slots]

/-- The block with the builder's functions. What decorators add stands before the functions that
build. -/
def implementation (b : Blueprint) (service : String) (slots : List Slot) :
    Except Fault Fragment := do
  let items ← b.contributed (.serviceBuilderImpl service)
  let prologue ← b.contributed (.serviceBuildPrologue service)
  let block : Code.Implementation := {
    type := s!"{builderName service}<Body, Plugin>", generics := ["Body: 'static", b.pluginParam] }
  let block := ((setters b slots).foldl .method block).item items
  return ((block.method (buildFunction b service slots prologue)).method
    (buildUncheckedFunction b service slots)).fragment

end ServiceBuilder

end SdkForge.Crate
