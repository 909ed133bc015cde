import SdkForge.Manifest
import SdkForge.Manifest.Place
import SdkForge.Toml.Reader

/-!
# Reading manifests

`Manifest.parse` reads a text as TOML, its entries as settings, and then checks the settings against
one another. Each record is read from a table, whose keys are met in their order, or from an array
that lists its fields. The first problem counts, and a missing field only where there is no other
problem.
-/

namespace SdkForge.Manifest

open Toml (Value)

/-! ## Values -/

def readText : Value → Except Misfit String
  | .string text => .ok text
  | _ => .error .wrongType

def readFlag : Value → Except Misfit Bool
  | .boolean b => .ok b
  | _ => .error .wrongType

def readShapeId (v : Value) : Except Misfit ShapeId := do
  let text ← readText v
  (ShapeId.parse text).mapError (.badShapeId text)

def readVersion (v : Value) : Except Misfit Version := do
  let text ← readText v
  (Version.parse text).mapError (.badVersion text)

def readTexts : Value → Except Misfit (List String)
  | .array items => items.mapM readText
  | _ => .error .wrongType

/-- The mode of a name. -/
def modeNamed (name : String) : Except Misfit Mode :=
  match [Mode.server, Mode.client].find? (toString · == name) with
  | some mode => .ok mode
  | none => .error (.unknownVariant name (["server", "client"]))

/-- A mode by its name, or by a table in which something empty stands under the name. -/
def readMode : Value → Except Misfit Mode
  | .string name => modeNamed name
  | .table [(name, inside)] => do
    let mode ← modeNamed name
    match inside with
    | .table [] | .array [] => return mode
    | .table _ => throw (.variantHolds "empty table")
    | .array _ => throw (.variantHolds "empty array")
    | other => throw (.variantHolds s!"table, found {other.kindName}")
  | _ => .error .wrongType

/-! ## Records -/

/-- How a record is read: its fields in their order, how many of them an array has to list, what
each field does to what has been read, and the record in the end. -/
structure Layout (σ α : Type) where
  fields : List String
  least : Nat
  set : σ → String → Value → Except Misfit σ
  finish : σ → Except Misfit α

/-- The key under which a point in time passes for a table. -/
def datetimeKey : String := "$__toml_private_datetime"

/-- Reads a record. -/
def Layout.read (layout : Layout σ α) (start : σ) : Value → Except Misfit α
  | .table entries => do
    let read ← entries.foldlM (fun read (name, value) =>
      if layout.fields.contains name then layout.set read name value
      else .error (.unknownField name layout.fields)) start
    layout.finish read
  | .array items => do
    let read ← (layout.fields.zip items).foldlM (fun read (name, value) =>
        layout.set read name value) start
    if items.length < layout.least then throw .wrongType
    layout.finish read
  | .datetime _ => .error (.unknownField datetimeKey layout.fields)
  | _ => .error .wrongType

/-- A field that has to be there. -/
def need (name : String) (value : Option α) : Except Misfit α :=
  value.elim (.error (.missingField name)) .ok

/-- The part of `Codegen` that has been read. -/
structure CodegenDraft where
  service : Option ShapeId := none
  model : Option String := none
  moduleName : Option String := none
  moduleVersion : Version := .initial
  moduleDescription : Option String := none
  mode : Mode := .server
  wrapperTypes : Bool := false

def codegenLayout : Layout CodegenDraft Codegen where
  fields :=
    ["service", "model", "module-name", "module-version", "module-description", "mode",
      "wrapper-types"]
  least := 5
  set d name v := match name with
    | "service" => return { d with service := some (← readShapeId v) }
    | "model" => return { d with model := some (← readText v) }
    | "module-name" => return { d with moduleName := some (← readText v) }
    | "module-version" => return { d with moduleVersion := ← readVersion v }
    | "module-description" => return { d with moduleDescription := some (← readText v) }
    | "mode" => return { d with mode := ← readMode v }
    | _ => return { d with wrapperTypes := ← readFlag v }
  finish d := do
    let service ← need "service" d.service
    let model ← need "model" d.model
    let moduleName ← need "module-name" d.moduleName
    return { service, model, moduleName, moduleVersion := d.moduleVersion,
             moduleDescription := d.moduleDescription
             mode := d.mode, wrapperTypes := d.wrapperTypes }

def runtimeLayout : Layout Runtime Runtime where
  fields := ["crate-prefix", "version", "path"]
  least := 3
  set r name v := match name with
    | "crate-prefix" => return { r with cratePrefix := ← readText v }
    | "version" => return { r with version := ← readVersion v }
    | _ => return { r with path := some (← readText v) }
  finish := .ok

def decoratorsLayout : Layout (Option (List String)) (Option (List String)) where
  fields := ["enabled"]
  least := 1
  set _ _ v := some <$> readTexts v
  finish := .ok

/-- The part of a manifest that has been read. -/
structure Draft where
  codegen : Option Codegen := none
  runtime : Runtime := {}
  decorators : Option (List String) := none

def layout : Layout Draft Manifest where
  fields := ["codegen", "runtime", "decorators"]
  least := 1
  set d name v := match name with
    | "codegen" => return { d with codegen := some (← codegenLayout.read {} v) }
    | "runtime" => return { d with runtime := ← runtimeLayout.read {} v }
    | _ => return { d with decorators := ← decoratorsLayout.read none v }
  finish d := return ⟨← need "codegen" d.codegen, d.runtime, d.decorators⟩

/-- The manifest that a document's entries make. -/
def ofEntries (entries : List (String × Value)) : Except Misfit Manifest :=
  layout.read {} (.table entries)

/-! ## Checks -/

/-- Checks that no decorator is there twice, after those in `before`. -/
def checkDecorators (place : Place) (before : List String) : List String → Except Problem Unit
  | [] => .ok ()
  | name :: rest =>
    if before.contains name then
      .error <| match place.spans name with
        | first :: second :: _ => .duplicateDecorator name first second
        | _ => place.invalid s!"decorator '{name}' is enabled twice" name
    else checkDecorators place (name :: before) rest

/-- Checks the settings of a manifest with the text `source`. -/
def check (m : Manifest) (source : String) : Except Problem Unit := do
  let place : Place := { source }
  let codegen := place.push "codegen"
  codegen.checkName m.codegen.moduleName "module name"
  if m.codegen.service.isMember then
    throw (codegen.invalid "service must be a shape, not a member" (toString m.codegen.service))
  if m.codegen.model.isEmpty then throw (.invalid "model path cannot be empty" none)
  (place.push "runtime").checkName m.runtime.cratePrefix "crate prefix"
  checkDecorators place [] (m.decorators.getD [])

/-- The name of a manifest's file. -/
def fileName : String := "kiln.toml"

/-- Reads a manifest; `file` is where the text comes from. -/
def parse (text : String) (file : String := fileName) : Except Problem Manifest := do
  let entries ← (Toml.parse text).elim (.error (.unparsable file none)) .ok
  let m ← (ofEntries entries).mapError fun misfit => .unparsable file (some misfit)
  m.check text
  return m

end SdkForge.Manifest
