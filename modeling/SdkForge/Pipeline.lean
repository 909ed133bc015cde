import SdkForge.Decorator
import SdkForge.Lint
import SdkForge.Model.Envelope
import SdkForge.Symbol.Memo
import SdkForge.Symbol.Stage
import SdkForge.Symbol.Table

/-!
# The pipeline

A run takes a project through phases: `transform` adapts the model, `validate` runs the lints, and
further phases follow. Plugins are called before and after each phase. `Pipeline.run` makes these
calls up to the first one that fails, and `Pipeline.trace` says which ones were made.
-/

namespace SdkForge

/-! ## Runs -/

/-- How far a run has come. -/
structure Compilation where
  project : Project
  /-- The symbols, once they are resolved. -/
  symbols : Option SymbolTable := none
  /-- The stages in which the symbols were made. -/
  stages : List String := []
  diagnostics : List Diagnostic := []

namespace Compilation

def errors (c : Compilation) : List Diagnostic := c.diagnostics.filter (·.isError)
def warnings (c : Compilation) : List Diagnostic := c.diagnostics.filter (·.isWarning)

/-- The run with more to say. -/
def report (c : Compilation) (found : List Diagnostic) : Compilation :=
  { c with diagnostics := c.diagnostics ++ found }

/-- The symbols, which have to be resolved. -/
def table (c : Compilation) : Except Fault SymbolTable :=
  c.symbols.elim (.error .unresolvedSymbols) .ok

end Compilation

/-- What a call makes of a run: the run after it, and why it failed if it did. -/
abbrev Action := Compilation → Compilation × Option Fault

/-- The action that leaves the run as it is. -/
def Action.skip : Action := fun c => (c, none)

/-- The action of a computation that leaves the run as it is when it fails. -/
def Action.ofExcept (f : Compilation → Except Fault Compilation) : Action := fun c =>
  match f c with
  | .ok c => (c, none)
  | .error fault => (c, some fault)

/-! ## Phases -/

/-- A part of a run. -/
structure Phase where
  name : String
  description : String
  body : Action

namespace Phase

/-- The model as the decorators leave it, with envelopes for the operations of the service. -/
def transformModel (d : DecoratorSet) (p : Project) : Except Fault Model := do
  let model ← d.transform p.service p.model
  let model ← Fault.ofModel model.normalize
  let _ ← Fault.ofModel (model.expectKind p.service .service)
  return model

def transform (d : DecoratorSet) : Phase where
  name := "transform"
  description := "Apply decorator model transforms and normalize operations"
  body := .ofExcept fun c => return { c with project.model := ← transformModel d c.project }

def validate (lints : List Lint) : Phase where
  name := Lint.phase
  description := "Check model integrity and collect diagnostics"
  body c :=
    let c := c.report (lints.flatMap fun lint => lint.check c.project)
    (c, if c.errors.isEmpty then none else some (.invalidModel c.errors.length))

def resolve (d : DecoratorSet) : Phase where
  name := "resolve"
  description := "Resolve Rust symbols for the service closure"
  body := .ofExcept fun c => do
    let chain := (d.symbols c.project (symbolChain c.project)).wrap Memo.stage
    let table ← SymbolTable.resolve chain.provider.symbol c.project.model c.project.service
    return { c with symbols := some table, stages := chain.stages }

end Phase

/-! ## Plugins -/

/-- What is called before and after each phase, with the phase's name. -/
structure Plugin where
  name : String
  before : String → Action := fun _ => .skip
  after : String → Action := fun _ => .skip

/-- The plugin that lets no warning of the lints pass. -/
def Plugin.denyWarnings : Plugin where
  name := "deny-warnings"
  after phase c :=
    (c, if phase = Lint.phase ∧ !c.warnings.isEmpty then
      some (.warningsDenied c.warnings.length "deny-warnings") else none)

/-! ## Pipelines -/

/-- Who is called. -/
inductive Call where
  | before (plugin phase : String)
  | body (phase : String)
  | after (plugin phase : String)
  deriving DecidableEq, Repr

/-- The calls that were made, and the run or why it failed. -/
abbrev Trace := List Call × Except Fault Compilation

/-- Goes on after calls if none of them failed. -/
def Trace.andThen (made : Trace) (next : Compilation → Trace) : Trace :=
  match made with
  | (calls, .ok c) => (calls ++ (next c).1, (next c).2)
  | (calls, .error fault) => (calls, .error fault)

/-- What is called in a run. -/
structure Pipeline where
  decorators : DecoratorSet
  lints : List Lint := Lint.all
  /-- The phases after the first two. -/
  further : List Phase := []
  plugins : List Plugin := []

namespace Pipeline

/-- The pipeline of a usual run. -/
def standard (d : DecoratorSet) : Pipeline := { decorators := d, further := [.resolve d] }

def phases (p : Pipeline) : List Phase := .transform p.decorators :: .validate p.lints :: p.further

/-- Makes calls one after the other, up to the first one that fails. -/
def perform (c : Compilation) : List (Call × Action) → Trace
  | [] => ([], .ok c)
  | (call, action) :: rest =>
    match action c with
    | (_, some fault) => ([call], .error fault)
    | (c, none) =>
      let (made, result) := perform c rest
      (call :: made, result)

/-- Runs a phase, with what the plugins do before and after it. -/
def runPhase (plugins : List Plugin) (phase : Phase) (c : Compilation) : Trace :=
  (perform c (plugins.map fun plugin =>
    (.before plugin.name phase.name, plugin.before phase.name))).andThen fun c =>
      (perform c [(.body phase.name, phase.body)]).andThen fun c =>
        perform c (plugins.map fun plugin =>
          (.after plugin.name phase.name, plugin.after phase.name))

/-- Runs one phase after the other. -/
def runPhases (plugins : List Plugin) (c : Compilation) : List Phase → Trace
  | [] => ([], .ok c)
  | phase :: rest => (runPhase plugins phase c).andThen fun c => runPhases plugins c rest

/-- Runs a project, and says which calls were made. -/
def trace (p : Pipeline) (project : Project) : Trace := runPhases p.plugins { project } p.phases

/-- Runs a project. -/
def run (p : Pipeline) (project : Project) : Except Fault Compilation := (p.trace project).2

end Pipeline

end SdkForge
