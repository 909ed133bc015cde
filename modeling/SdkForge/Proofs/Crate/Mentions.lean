import SdkForge.Proofs.Crate.Declarations
import SdkForge.Proofs.Crate.Definitions

/-!
# Types that are mentioned are defined

Code that uses a generated type finds it: `exists_definition_of_mention` says that the module that
a type is looked for in defines it, however deep the type stands in options, lists and maps, and
that the module's file declares it.
-/

namespace SdkForge

open Crate (TypeModule Blueprint Definition)
open PlainSymbols (typeName)

/-- The type at the core of a symbol is defined by a shape of the closure. -/
lemma Resolved.exists_definition {c : Compilation} {t : SymbolTable} (h : Resolved c t)
    {id : ShapeId} {symbol : Symbol} (hget : t.get? id = some symbol) {m : TypeModule}
    {name : String} (hcore : symbol.type.core = (name, some m.path)) :
    ∃ origin ∈ c.project.closure, TypeModule.of? c.project.mode origin = some m ∧
      typeName origin = name := by
  obtain ⟨shape, hmem, _, hsymbol⟩ := h.get?_eq_some_iff.1 hget
  obtain ⟨origin, htyped, hpath, hname⟩ := Project.exists_origin_of_core hsymbol (.module m) hcore
  exact ⟨origin, Model.mem_walk_of_typedBy h.model htyped hmem,
    Crate.typePath?_eq_path_iff.1 hpath, hname⟩

/-- Whatever generated type a symbol of a finished run mentions, the module of the type defines it:
for a shape that is no member, and under the name that is mentioned. In every file that is written
for the module, the code for the type begins a line, and so does the declaration in this code; the
files of a crate have this file where the path of the module leads. -/
theorem exists_definition_of_mention {i : Command.Input} {denyWarnings : Bool} {d : DecoratorSet}
    {c : Compilation} (hmodel : i.model.IsBuilt) (hrun : i.compile denyWarnings = .ok (d, c)) :
    ∃ t, c.symbols = some t ∧ ∀ id symbol (m : TypeModule) name, t.get? id = some symbol →
      symbol.type.core = (name, some m.path) →
      ∃ shape definition, c.project.model.get? shape.id = some shape ∧ shape.isMember = false ∧
        t.get? shape.id = some definition ∧ definition.module = some m.name ∧
        definition.fullName = s!"crate::{m.name}::{name}" ∧
        ∀ b : Blueprint, b.project = c.project → b.symbols = t →
          (shape, definition) ∈ b.definedIn m ∧
          (∀ text, b.typeFile m = .ok text →
            ∃ definitions, b.definitions m = .ok definitions ∧ ∃ made ∈ definitions,
              Definition.ofShape b shape definition = .ok made ∧
              Text.BeginsLine (made.heading name).toList made.fragment.render.toList ∧
              Text.BeginsLine made.fragment.render.toList text.toList) ∧
          ∀ files, b.files = .ok files →
            ∃ file ∈ files, file.path = s!"src/{m.name}.rs" ∧ b.typeFile m = .ok file.text := by
  obtain ⟨_, _, t, h⟩ := resolved_of_compile hmodel hrun
  refine ⟨t, h.symbols, fun id symbol m name hget hcore => ?_⟩
  obtain ⟨origin, hmem, hm, rfl⟩ := h.exists_definition hget hcore
  obtain ⟨derives, hsymbol, _⟩ := Project.symbolOf_of_module hm
  refine ⟨origin, _, h.model_get?_of_mem_closure hmem,
    Shape.isMember_eq_false (TypeModule.of_of?_eq_some hm).1,
    h.get?_of_mem_closure hmem hsymbol, rfl, ?_, fun b hproject hsymbols => ?_⟩
  · show s!"{m.path}::{typeName origin}" = _
    rfl
  · have hdefined := (h.mem_definedIn_iff hproject hsymbols).2 ⟨hmem, hm, hsymbol⟩
    exact ⟨hdefined, fun text hfile => Blueprint.exists_definition_of_typeFile hfile hdefined,
      fun files hfiles => Blueprint.exists_file_of_files hfiles m⟩

/-- A service that takes a list of things. -/
def things : List Shape :=
  Command.Input.service [("things", ⟨"ex", "Things", none⟩)]
    (Command.Input.record ⟨"ex", "Thing", none⟩ [] ++
      [ { id := ⟨"ex", "Things", none⟩, body := .list ⟨"ex", "Things", some "member"⟩ },
    .ofMember ⟨"ex", "Things", some "member"⟩ ⟨"ex", "Thing", none⟩])

/-- The envelope's list of things mentions the type of a thing. -/
theorem exists_definition_of_things : ∃ d c t, ∃ shape : Shape, ∃ definition,
    (Command.Input.small things).compile false = .ok (d, c) ∧ c.symbols = some t ∧
    t.get? shape.id = some definition ∧
      definition.fullName = "crate::model::Thing" := by
  have hlookup : ((Command.Input.finished? things).bind (·.symbols)).bind
      (·.get? ⟨"ex.synthetic", "OpInput", some "things"⟩) =
        some { type := .option (.list (.named "Thing" (some "crate::model"))),
               nullable := true } := by
    decide +kernel
  obtain ⟨t, hsymbols, hget⟩ := Option.bind_eq_some_iff.1 hlookup
  obtain ⟨c, hc, ht⟩ := Option.bind_eq_some_iff.1 hsymbols
  obtain ⟨hmodel, hrun⟩ := Command.Input.of_finished? hc
  obtain ⟨t', ht', hdefined⟩ := exists_definition_of_mention hmodel hrun
  obtain rfl := Option.some.inj (ht.symm.trans ht')
  obtain ⟨shape, definition, _, _, hdefinition, _, hname, _⟩ := hdefined _ _ .model "Thing" hget rfl
  exact ⟨_, c, t, shape, definition, hrun, ht, hdefinition, hname⟩

end SdkForge
