import SdkForge.Crate.ServiceBuilder

/-!
# The service of a server

The file with the service, its builder, and the functions that say which requests reach which
operation.
-/

namespace SdkForge.Crate

/-- What is said about the service. -/
def Blueprint.serviceDoc (b : Blueprint) : Except Fault String := do
  let service ← Fault.ofModel b.project.serviceShape
  return service.traits.documentation.getD s!"The `{b.project.serviceName}` service."

namespace ServerFile

/-! ## Bindings -/

/-- The function that gives the binding of an operation. -/
def bindingFunction (b : Blueprint) (s : Slot) : Except Fault Code.Function := do
  let binding ← b.protocol.binding b.project.model s.operation
  return {
    name := s.field
    visibility := .crate
    returns := some b.bindingType
    body := [binding.fragment b.server] }

/-- The module with the bindings. -/
def bindingModule (b : Blueprint) (slots : List Slot) : Except Fault Fragment := do
  let functions ← slots.mapM (bindingFunction b)
  return .braced "mod request_specs \x7b" ((functions.map (·.fragment)).intersperse .blank)

/-! ## The service -/

/-- The type of the service's router. -/
def routerType (b : Blueprint) : String :=
  s!"{b.protocol.router b.project}<S, {b.protocol.marker b.project}>"

def decl (b : Blueprint) (service : String) : Except Fault Fragment := do
  return .seq [
    .doc (← b.serviceDoc),
    .line "#[derive(Debug, Clone)]",
    .braced (s!"pub struct {service}<S = {b.server}::routing::Route> " ++ "\x7b")
    [.line s!"router: {routerType b},"]]

/-- The functions that start a builder. -/
def constructors (b : Blueprint) (service : String) (slots : List Slot) : List Code.Function := [
  { name := "builder_with_plugins"
    doc := some "A builder applying `plugin` to every operation it registers."
    generics := ["Body", b.pluginParam]
    params := [⟨"plugin", "Plugin"⟩]
    returns := some s!"{builderName service}<Body, Plugin>"
    body := [.braced (builderName service ++ " \x7b")
      ((slots.map fun s => .line s!"{s.field}: None,") ++
        [.line "plugin,", .line "_body: std::marker::PhantomData,"])] },
  { name := "builder_without_plugins"
    doc := some "A builder registering operations unchanged."
    generics := ["Body"]
    returns := some s!"{builderName service}<Body, {b.server}::operation::IdentityPlugin>"
    body := [.line s!"Self::builder_with_plugins({b.server}::operation::IdentityPlugin)"] }]

/-- The functions that change the routes of a service. -/
def adapters (b : Blueprint) (service : String) : List Code.Function := [
  { name := "layer"
    doc := some "Wraps every route in `layer`."
    generics := ["L"]
    params := [⟨"self", ""⟩, ⟨"layer", "&L"⟩]
    returns := some s!"{service}<L::Service>"
    conditions := [s!"L: {b.server}::routing::Layer<S>"]
    body := [.line (s!"{service} " ++ "\x7b router: self.router.map(|route| " ++
      s!"{b.server}::routing::Layer::layer(layer, route)) " ++ "\x7d")] },
  { name := "boxed"
    doc := some "Erases the route type."
    generics := ["Body"]
    params := [⟨"self", ""⟩]
    returns := some s!"{service}<{b.routeType}>"
    conditions :=
      [s!"S: {b.server}::routing::Service<Body> + Send + Sync + 'static", "Body: 'static"]
    body := [.line (s!"{service} " ++ "\x7b " ++
      s!"router: self.router.map({b.server}::routing::Route::from_service) " ++ "\x7d")] }]

/-- The function that answers a request. -/
def callFunction (b : Blueprint) : Code.Function where
  name := "call"
  visibility := .module
  params := [⟨"&self", ""⟩, ⟨"request", s!"{b.server}::http::Request<Body>"⟩]
  returns := some b.responseType
  body := [.line s!"{b.server}::routing::Service::call(&self.router, request)"]

/-- The blocks with the service's functions. -/
def implementations (b : Blueprint) (service : String) (slots : List Slot) : Fragment :=
  let serviceTrait := s!"{b.server}::routing::Service<Body>"
  .separated [
    ((constructors b service slots).foldl Code.Implementation.method
      { type := service ++ "<()>" }).fragment,
    ((adapters b service).foldl Code.Implementation.method
      { type := service ++ "<S>", generics := ["S"] }).fragment,
    (({ type := service ++ "<S>", trait := some serviceTrait, generics := ["S", "Body"],
        conditions := [s!"{routerType b}: {serviceTrait}"] } : Code.Implementation).method
          (callFunction b)).fragment]

end ServerFile

/-- The text of a server's service file. -/
def Blueprint.serverFile (b : Blueprint) : Except Fault String := do
  let service := b.project.serviceName
  let slots ← b.slots
  let builder ← ServiceBuilder.implementation b service slots
  let bindings ← ServerFile.bindingModule b slots
  let decl ← ServerFile.decl b service
  return (({ doc := some s!"The {service} service." } : Code.SourceFile).addAll [
    ServiceBuilder.decl b service slots, builder, bindings, decl,
    ServerFile.implementations b service slots]).render

end SdkForge.Crate
