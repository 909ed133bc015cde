import SdkForge.FileSet
import SdkForge.Toml.Quoted
import SdkForge.Version

/-!
# Package descriptions

What the build tool reads about a crate: its name and version, and the crates it needs.
-/

namespace SdkForge.Crate

/-- Where a crate comes from. -/
inductive Source where
  /-- A release that meets a requirement. -/
  | release (requirement : String)
  /-- A directory. -/
  | directory (path : String)
  deriving DecidableEq, Repr

def Source.text : Source → String
  | .release requirement => Toml.quote requirement
  | .directory path => "\x7b path = " ++ Toml.quote path ++ " \x7d"

/-- The description of a crate. -/
structure Package where
  name : String
  version : Version := ⟨0, 1, 0⟩
  description : Option String := none
  dependencies : List (String × Source) := []
  deriving Repr

namespace Package

/-- The edition of the language that the crate is written in. -/
def edition : String := "2024"

/-- The name of the file with the description. -/
def fileName : String := "Cargo.toml"

def rules : FileRules := .always

/-- A line that sets a key. -/
def entry (key value : String) : String := s!"{key} = {value}\n"

def render (p : Package) : String :=
  "[package]\n" ++ entry "name" (Toml.quote p.name) ++
    entry "version" (Toml.quote (toString p.version)) ++ entry "edition" (Toml.quote edition) ++
      ((p.description.map fun d => entry "description" (Toml.quote d)).getD "") ++
    "\n[dependencies]\n" ++ String.join (p.dependencies.map fun (name, source) =>
      entry name source.text)

end Package

end SdkForge.Crate
