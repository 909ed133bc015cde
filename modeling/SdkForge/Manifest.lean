import SdkForge.Manifest.Name
import SdkForge.ShapeId
import SdkForge.Version

/-!
# Manifests

A manifest says for which service code is made, from which model, and into what crate.
-/

namespace SdkForge

/-- The side of the wire that the code is for. -/
inductive Mode where
  | server | client
  deriving DecidableEq, Inhabited, Repr

protected def Mode.toString : Mode → String
  | .server => "server"
  | .client => "client"

instance : ToString Mode := ⟨Mode.toString⟩

/-- The version of a crate whose manifest names none. -/
def Version.initial : Version := ⟨0, 1, 0⟩

namespace Manifest

/-- What is generated, and from what. -/
structure Codegen where
  service : ShapeId
  /-- The path of the model, from the manifest's directory. -/
  model : String
  moduleName : String
  moduleVersion : Version := .initial
  moduleDescription : Option String := none
  mode : Mode := .server
  /-- Whether lists and maps get types of their own. -/
  wrapperTypes : Bool := false
  deriving DecidableEq, Inhabited, Repr

/-- The name of the generated crate as code spells it. -/
def Codegen.moduleUseName (c : Codegen) : String := identOf c.moduleName

/-- The crates that the generated code is built on. -/
structure Runtime where
  cratePrefix : String := "kiln"
  version : Version := .initial
  /-- The directory that holds the crates; they are fetched where there is none. -/
  path : Option String := none
  deriving DecidableEq, Inhabited, Repr

namespace Runtime

/-- The name of the crate for a purpose. -/
def crateName (r : Runtime) (purpose : String) : String := r.cratePrefix ++ "-" ++ purpose

/-- The name of the crate for a purpose as code spells it. -/
def crateIdent (r : Runtime) (purpose : String) : String := identOf (r.crateName purpose)

end Runtime

end Manifest

/-- The settings of one generated crate. -/
structure Manifest where
  codegen : Manifest.Codegen
  runtime : Manifest.Runtime := {}
  /-- The decorators to use, in place of the usual ones. -/
  decorators : Option (List String) := none
  deriving DecidableEq, Inhabited, Repr

end SdkForge
