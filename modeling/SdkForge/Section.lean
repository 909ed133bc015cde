import SdkForge.ShapeId

/-!
# Sections

A section is a place in the generated code to which decorators contribute. A `SectionName` says
which place, a `Section` also what stands around it.
-/

namespace SdkForge

/-- The places to which decorators contribute. -/
inductive SectionName where
  | configStruct | configImpl | configBuilderStruct | configBuilderImpl | configBuilderBuild
  | copySdkConfig | libAttributes | libBody | genericErrorExtras | serviceBuilderImpl |
      serviceBuildPrologue
  deriving DecidableEq, Repr

namespace SectionName

def all : List SectionName := [
  configStruct, configImpl, configBuilderStruct, configBuilderImpl, configBuilderBuild,
  copySdkConfig, libAttributes, libBody, genericErrorExtras, serviceBuilderImpl,
  serviceBuildPrologue]

protected def toString : SectionName → String
  | configStruct => "config.struct"
  | configImpl => "config.impl"
  | configBuilderStruct => "config.builder-struct"
  | configBuilderImpl => "config.builder-impl"
  | configBuilderBuild => "config.builder-build"
  | copySdkConfig => "sdk-config.copy-to-client-config"
  | libAttributes => "lib-rs.attributes"
  | libBody => "lib-rs.body"
  | genericErrorExtras => "operation.populate-generic-error-extras"
  | serviceBuilderImpl => "service.builder-impl"
  | serviceBuildPrologue => "service.build-prologue"

instance : ToString SectionName := ⟨SectionName.toString⟩

def ofName? (name : String) : Option SectionName := all.find? (toString · == name)

/-- What a contribution to the place is. -/
def description : SectionName → String
  | configStruct => "fields of the client Config"
  | configImpl => "items of impl Config"
  | configBuilderStruct => "fields of the config Builder"
  | configBuilderImpl => "items of impl Builder"
  | configBuilderBuild => "field initializers in Builder::build"
  | copySdkConfig => "statements copying shared SdkConfig settings into the Builder"
  | libAttributes => "crate attributes at the top of lib.rs"
  | libBody => "items appended to lib.rs"
  | genericErrorExtras => "statements run on the generic error builder"
  | serviceBuilderImpl => "items of impl <Service>Builder"
  | serviceBuildPrologue => "statements at the start of <Service>Builder::build"

end SectionName

/-- A place, with the names that can be used there. -/
inductive Section where
  | configStruct | configImpl | configBuilderStruct | configBuilderImpl | configBuilderBuild
  | copySdkConfig (sdkConfig builder : String)
  | libAttributes | libBody
  | genericErrorExtras (operation : ShapeId) (builder response : String)
  | serviceBuilderImpl (service : String)
  | serviceBuildPrologue (service : String)
  deriving DecidableEq, Repr

namespace Section

def name : Section → SectionName
  | configStruct => .configStruct
  | configImpl => .configImpl
  | configBuilderStruct => .configBuilderStruct
  | configBuilderImpl => .configBuilderImpl
  | configBuilderBuild => .configBuilderBuild
  | copySdkConfig .. => .copySdkConfig
  | libAttributes => .libAttributes
  | libBody => .libBody
  | genericErrorExtras .. => .genericErrorExtras
  | serviceBuilderImpl _ => .serviceBuilderImpl
  | serviceBuildPrologue _ => .serviceBuildPrologue

/-- The names that can be used at the place. -/
def payload : Section → List String
  | copySdkConfig sdkConfig builder => [sdkConfig, builder]
  | genericErrorExtras operation builder response => [toString operation, builder, response]
  | serviceBuilderImpl service | serviceBuildPrologue service => [service]
  | _ => []

end Section

end SdkForge
