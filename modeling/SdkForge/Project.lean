import SdkForge.Fault
import SdkForge.Manifest
import SdkForge.Text.Case

/-!
# Projects

A project is what one run works on: a model, and the settings from the manifest.
-/

namespace SdkForge

/-- A model with the settings for generating code from it. -/
structure Project where
  model : Model
  codegen : Manifest.Codegen
  runtime : Manifest.Runtime

namespace Project

def ofManifest (model : Model) (m : Manifest) : Project := ⟨model, m.codegen, m.runtime⟩

/-- The service that code is generated for. -/
def service (p : Project) : ShapeId := p.codegen.service

/-- The service's shape. -/
def serviceShape (p : Project) : Except ModelError Shape := p.model.expectKind p.service .service

/-- The operations of the service by increasing id. -/
def operations (p : Project) : Except ModelError (List Shape) := p.model.operations p.service

/-- The name of the service as a type. -/
def serviceName (p : Project) : String := Text.pascalCase p.service.name

def mode (p : Project) : Mode := p.codegen.mode

/-- A crate of the runtime as code spells it. -/
def runtimeCrate (p : Project) (purpose : String) : String := p.runtime.crateIdent purpose

/-- The crate with the server's part of the runtime. -/
def serverCrate (p : Project) : String := p.runtimeCrate "server"

/-- The crate with the types that clients and servers share. -/
def typesCrate (p : Project) : String := p.runtimeCrate "types"

/-- The name of an operation as a field. -/
def operationField (operation : ShapeId) : String := Text.snakeCase operation.name

end Project

end SdkForge
