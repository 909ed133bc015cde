import SdkForge.Command.Help
import SdkForge.Command.Run
import SdkForge.FileSet

/-!
# Reports

What the command says about its work, line by line. A line may be a text that has lines of its own.
-/

namespace SdkForge.Command

/-- What the command leaves behind: its exit code, and the lines of its output and of its
complaints. -/
structure Outcome where
  code : Nat := 0
  out : List String := []
  complaints : List String := []
  deriving DecidableEq, Repr

/-- The text of some lines. -/
def textOf (lines : List String) : String := String.join (lines.map (· ++ "\n"))

namespace Report

/-! ## Parts -/

/-- A number of things. -/
def count (n : Nat) (thing : String) : String := s!"{n} {thing}" ++ if n = 1 then "" else "s"

/-- A diagnostic, with the shape that it is about in a line of its own. -/
def describe (d : Diagnostic) : String := d.message ++ (d.location.elim "" fun l => s!"\n  --> {l}")

/-- Diagnostics of one severity, each after its name. -/
def tell (severity : Severity) (found : List Diagnostic) : List String :=
  (found.filter (·.severity = severity)).map fun d => s!"{severity}: " ++ describe d

/-- Which release of which crate is made. -/
def titleLine (c : Manifest.Codegen) : String := s!"{c.moduleName} v{c.moduleVersion}"

def listItem (text : String) : String := "  - " ++ text

/-- Texts under a title. -/
def listUnder (title : String) (items : List String) : List String :=
  (title ++ ":") :: items.map listItem

/-- Texts under a title, with their numbers. -/
def numbered (title : String) (items : List String) : List String :=
  (title ++ ":") :: items.mapIdx fun i item => s!"  {i + 1}. {item}"

/-- Names under a title, with what they stand for. -/
def glossary (title : String) (entries : List (String × String)) : List String :=
  listUnder title (entries.map fun (name, meaning) => pad 24 name ++ meaning)

/-- A line that starts a part of the output. -/
def divider (label : String) : String := s!"── {label} ──"

/-! ## Reports on each verb -/

/-- The report on checking what a manifest at a path says. -/
def check (path : String) (c : Compilation) : Outcome :=
  let (errors, warnings) := (c.errors.length, c.warnings.length)
  let verdict :=
    if errors = 0 then (if warnings = 0 then [] else [""]) ++ [s!"✓ {path} is valid"]
    else ["", "✗ " ++ count errors "error" ++ ", " ++ count warnings "warning"]
  { code := if errors = 0 then 0 else 1
    out := tell .info c.diagnostics ++ verdict
    complaints := tell .error c.diagnostics ++ tell .warning c.diagnostics }

/-- The report on files that were written into a directory. -/
def written (directory : String) (c : Compilation) (operations : Nat) (log : WriteLog) :
    Outcome where
  out := [titleLine c.project.codegen,
      s!"{c.project.mode} " ++ (match c.project.mode with
        | .client => "SDK"
        | .server => "stubs") ++ s!" for {c.project.service} (" ++ count operations "operation" ++
          ")",
      "", s!"Generated in {directory}:"] ++
    log.written.map (fun path => s!"  + {path}") ++
      log.skipped.map (fun path => s!"  = {path} (kept)")
  complaints := tell .warning c.diagnostics

/-- The report that shows files in place of writing them. -/
def shown (c : Compilation) (files : FileSet) : Outcome where
  out := files.preview.flatMap (fun e => [divider e.path, e.contents]) ++
    [divider "Summary", s!"{files.length} files would be generated"]
  complaints := tell .warning c.diagnostics

/-- A line with the value of a key. -/
def keyLine (key value : String) : String := "  " ++ pad 12 key ++ value

/-- The report on what a run uses. -/
def info (manifest model : String) (d : DecoratorSet) (c : Compilation) (service : Shape)
    (operations : List ShapeId) :
    Outcome where
  out := titleLine c.project.codegen :: c.project.codegen.moduleDescription.toList ++ [
      "", keyLine "Service" (toString service.id), keyLine "Mode" (toString c.project.mode),
      keyLine "Protocol" (", ".intercalate (service.traits.protocols.map toString)),
      keyLine "Config" manifest, keyLine "Model" model, ""] ++
    listUnder s!"Operations ({operations.length})" (operations.map toString) ++ [""] ++
    numbered "Pipeline" ((Pipeline.standard d).phases.map (·.name)) ++ [""] ++
    numbered "Symbol providers" c.stages ++ [""] ++
    listUnder "Decorators" (if d.names.isEmpty then ["(none)"] else d.names) ++ [""] ++
    glossary "Lints" (Lint.all.map fun l => (l.name, l.description)) ++ [""] ++
    glossary "Sections" (SectionName.all.map fun s => (toString s, s.description))

/-- The report on a failure. -/
def failure (code : Nat) (message : String) : Outcome :=
  { code, complaints := ["error: " ++ message] }

end Report

end SdkForge.Command
