import SdkForge.Crate.Assembly
import SdkForge.Decorator.Builtin
import SdkForge.Model.Document

/-!
# What the command does with a model

`check` looks for what is wrong with a model, and `generate` makes the files of its crate. They
agree on which models can be used: `check` goes through the phases one by one, so that what the
lints find does not stop it before it is told.
-/

namespace SdkForge.Command

/-- A manifest, and the model that it is about. -/
structure Input where
  manifest : Manifest
  model : Model

namespace Input

def project (i : Input) : Project := .ofManifest i.model i.manifest

/-- The decorators that the manifest names, or all. -/
def decorators (i : Input) : Except Fault DecoratorSet := DecoratorSet.select i.manifest.decorators

/-- The pipeline of a run. -/
def pipeline (d : DecoratorSet) (denyWarnings : Bool) : Pipeline :=
  { Pipeline.standard d with plugins := if denyWarnings then [.denyWarnings] else [] }

/-- The finished run, with its decorators. -/
def compile (i : Input) (denyWarnings : Bool) : Except Fault (DecoratorSet × Compilation) := do
  let d ← i.decorators
  return (d, ← (pipeline d denyWarnings).run i.project)

/-- The finished run, and the files that come out of it. -/
def generate (i : Input) (denyWarnings : Bool) : Except Fault (Compilation × FileSet) := do
  let (d, c) ← i.compile denyWarnings
  return (c, ← (← Crate.Blueprint.ofCompilation d c).files)

/-- Resolves the symbols of a run; why that fails is one more thing to tell. -/
def tellResolve (d : DecoratorSet) (c : Compilation) : Compilation :=
  let phase := Phase.resolve d
  match phase.body c with
  | (c, none) => c
  | (c, some fault) =>
    c.report [{ severity := .error, phase := phase.name, message := fault.message }]

/-- A run that was taken as far as its model allows, with all there is to tell. -/
def check (i : Input) : Except Fault Compilation := do
  let d ← i.decorators
  let model ← Phase.transformModel d i.project
  let (c, failed) := (Phase.validate Lint.all).body { project := { i.project with model } }
  return if failed.isSome then c else tellResolve d c

end Input

end SdkForge.Command
