import SdkForge.Code.SourceFile
import SdkForge.Protocol
import SdkForge.Section.Registry
import SdkForge.Symbol.Table

/-!
# Blueprints

A blueprint has all that the files of a crate are made from.
-/

namespace SdkForge.Crate

/-- What the files of a crate are made from. -/
structure Blueprint where
  project : Project
  symbols : SymbolTable
  registry : Registry
  protocol : Protocol

namespace Blueprint

/-- The crate with the server's part of the runtime. -/
def server (b : Blueprint) : String := b.project.serverCrate

/-- The crate with the types that clients and servers share. -/
def types (b : Blueprint) : String := b.project.typesCrate

/-- A member with its symbol. -/
def member (b : Blueprint) (id : ShapeId) : Except Fault (Shape × Symbol) := do
  return (← Fault.ofModel (b.project.model.expect id), ← b.symbols.expect id)

/-- What the decorators write at a place. -/
def contributed (b : Blueprint) (place : Section) : Except Fault Fragment :=
  b.registry.renderAll place

end Blueprint

end SdkForge.Crate
