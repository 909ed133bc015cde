import SdkForge.Crate.ClientFile
import SdkForge.Crate.Definition
import SdkForge.Crate.Package
import SdkForge.Decorator
import SdkForge.Path
import SdkForge.Pipeline
import SdkForge.Protocol.Standard

/-!
# The files of a crate

A crate has a root file that names its modules, the modules themselves, and a description for the
build tool, which names the crates that the modules use.
-/

namespace SdkForge.Crate

/-! ## The root file -/

namespace RootFile

/-- The modules that a crate shows, by their names. -/
def modules : Mode → List String
  | .server => TypeModule.all.map (·.name)
  | .client => ["config", "error", "input", "model", "operation", "output", "protocol_serde"]

/-- What the root shows of the modules. -/
def exports (service : String) : Mode → List String
  | .server => [s!"pub use service::\x7b{service}, {builderName service}\x7d;"]
  | .client => ["pub use config::Config;", s!"pub use service::{service};"]

end RootFile

/-- The text of the root file. -/
def Blueprint.rootFile (b : Blueprint) : Except Fault String := do
  let (mode, service) := (b.project.mode, b.project.serviceName)
  let attributes ← b.contributed .libAttributes
  let body ← b.contributed .libBody
  let file : Code.SourceFile := {
    doc := some (b.project.codegen.moduleDescription.getD
      s!"Generated {mode} for the `{service}` service.") }
  return ((file.addAttribute attributes).addAll [
    .seq (Fragment.lines ((RootFile.modules mode).map fun m => s!"pub mod {m};") ++
      [.line "mod service;"]),
    .seq (Fragment.lines (RootFile.exports service mode)), body]).render

/-! ## Sources -/

/-- The language of the sources. -/
def language : String := "rust"

/-- What the names of source files end in, after a point. -/
def sourceExtension : String := "rs"

/-- The path of a module's file. -/
def sourcePath (module : String) : String := s!"src/{module}.{sourceExtension}"

/-- The modules of one side of the wire, each with its text. -/
def Blueprint.sideFiles (b : Blueprint) : Except Fault (List (String × String)) := do
  match b.project.mode with
  | .server => return [("service", ← b.serverFile)]
  | .client =>
    return [("service", ← b.clientFile), ("config", ← b.configFile),
      ("protocol_serde", ← b.errorFile)]

/-- The modules of the crate, each with its text. -/
def Blueprint.sources (b : Blueprint) : Except Fault (List (String × String)) := do
  let root ← b.rootFile
  let types ← TypeModule.all.mapM fun module => return (module.name, ← b.typeFile module)
  return ("lib", root) :: types ++ (← b.sideFiles)

/-! ## The description -/

/-- The crates of the runtime that a crate may need, by purpose. -/
def purposes : List String := ["server", "types"]

/-- Whether a text mentions the crate for a purpose. -/
def mentions (p : Project) (purpose text : String) : Bool :=
  Text.contains (p.runtimeCrate purpose ++ "::").toList text.toList

/-- Where a crate of the runtime comes from. -/
def runtimeSource (r : Manifest.Runtime) (name : String) : Source :=
  match r.path with
  | some directory => .directory (Path.join directory name)
  | none => .release r.version.requirement

/-- The description of the crate with some sources. -/
def packageOf (p : Project) (sources : List String) : Package where
  name := p.codegen.moduleName
  version := p.codegen.moduleVersion
  description := p.codegen.moduleDescription
  dependencies :=
    (purposes.filter fun purpose => sources.any (mentions p purpose)).map fun purpose =>
      (p.runtime.crateName purpose, runtimeSource p.runtime (p.runtime.crateName purpose))

/-! ## All files -/

/-- The files of the crate. -/
def Blueprint.files (b : Blueprint) : Except Fault FileSet := do
  let sources ← b.sources
  return { path := Package.fileName, text := (packageOf b.project (sources.map (·.2))).render,
           category := .config,
           ownRules := some Package.rules } ::
    sources.map fun (module, text) => { path := sourcePath module, text, category := .generated }

/-- The blueprint of a finished run. -/
def Blueprint.ofCompilation (d : DecoratorSet) (c : Compilation) : Except Fault Blueprint := do
  let project := c.project
  let known := d.protocols project.service Protocol.standardMap
  let protocol ← Protocol.resolve (← Fault.ofModel project.serviceShape) known
  let registry ← d.registry project
  return { project, symbols := ← c.table, registry, protocol }

end SdkForge.Crate
