import SdkForge.Command.Line
import SdkForge.Command.Report
import SdkForge.Disk
import SdkForge.Manifest.File

/-!
# Sessions

A session is one call of the command. It works on any disk, and is over with an outcome: 0 for what
was done, 1 for what could not be done, 2 for what could not be understood.
-/

namespace SdkForge.Command

/-- Why what was asked for could not be done, in words. -/
abbrev Refusal := String

/-- What a run gives, or why it stops, in words. -/
def explain (result : Except Fault α) : Except Refusal α := result.mapError Fault.message

variable {m : Type → Type} [Monad m] (disk : Disk m)

/-- The manifest in a file, and the model that it names. -/
def load (path : String) : m (Except Refusal (Manifest.File × Input)) := do
  match Manifest.File.ofText path (← disk.read path) with
  | .error problem => return .error problem.message
  | .ok file =>
    match file.modelText (← disk.read file.modelPath) with
    | .error problem => return .error problem.message
    | .ok text =>
      match Model.ofText text with
      | .error e => return .error s!"{file.modelPath}: {e.message}"
      | .ok model => return .ok (file, ⟨file.manifest, model⟩)

/-- The report on generated files, which are written unless they are only to be shown. -/
def deliver (output : String) (dryRun : Bool) (c : Compilation) (files : FileSet) :
    m (Except Refusal Outcome) := do
  if dryRun then return .ok (Report.shown c files)
  match explain (Fault.ofModel c.project.operations) with
  | .error refusal => return .error refusal
  | .ok operations =>
    match ← disk.writeAll output files with
    | none => return .error s!"the files cannot be written to {output}"
    | some log => return .ok (Report.written output c operations.length log)

/-- The report on what a run uses. -/
def survey (manifest model : String) (i : Input) : Except Refusal Outcome := explain do
  let (d, c) ← i.compile false
  let service ← Fault.ofModel c.project.serviceShape
  let operations ← Fault.ofModel c.project.operations
  return Report.info manifest model d c service (operations.map (·.id))

/-- Does what is asked for, with a manifest and its model. -/
def perform (file : Manifest.File) (i : Input) : Ask → m (Except Refusal Outcome)
  | .generate _ output dryRun denyWarnings =>
    match explain (i.generate denyWarnings) with
    | .error refusal => return .error refusal
    | .ok (c, files) => deliver disk output dryRun c files
  | .check config => return explain do return Report.check config (← i.check)
  | .info config => return survey (← disk.locate config) file.modelPath i

/-- The path of the manifest. -/
def Ask.config : Ask → String
  | .generate config .. | .check config | .info config => config

/-- A call of the command with some words. -/
def session (words : List String) : m Outcome := do
  match Line.read words with
  | .error (.text lines) => return { out := lines }
  | .error .misuse =>
    return Report.failure 2 s!"this cannot be understood; `{programName} help` tells what can"
  | .ok ask =>
    match ← load disk ask.config with
    | .error refusal => return Report.failure 1 refusal
    | .ok (file, input) =>
      match ← perform disk file input ask with
      | .error refusal => return Report.failure 1 refusal
      | .ok outcome => return outcome

end SdkForge.Command
