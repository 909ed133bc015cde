import SdkForge.Manifest.Reader
import SdkForge.Path

/-!
# Manifests in files

A manifest that was read from a file knows where its model is: the model's path starts at the
manifest's directory.
-/

namespace SdkForge.Manifest

/-- A manifest and the file it was read from. -/
structure File where
  path : String
  text : String
  manifest : Manifest

/-- The text of a file that was asked for. -/
def expectText (path : String) (text : Option String) : Except Problem String :=
  text.elim (.error (.unreadable path)) .ok

namespace File

/-- The manifest in a file that has this text; there is none if the file cannot be read. -/
def ofText (path : String) (text : Option String) : Except Problem File := do
  let text ← expectText path text
  return { path, text, manifest := ← Manifest.parse text path }

/-- The manifest's directory. -/
def directory (f : File) : String := (Path.parent? f.path).getD "."

/-- The path of the model. -/
def modelPath (f : File) : String := Path.join f.directory f.manifest.codegen.model

/-- The text of the model, given what its file has. -/
def modelText (f : File) (text : Option String) : Except Problem String :=
  expectText f.modelPath text

end File

end SdkForge.Manifest
