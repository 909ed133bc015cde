import Mathlib.Data.List.Nodup
import SdkForge.Crate.Definition
import SdkForge.Proofs.Pipeline

/-!
# What the modules of a crate define

The modules that hold types define one for each shape of the closure that has a type of its own.

* `Resolved.get?_eq_some_iff` and `mem_walk_of_typedBy` say what the table of a finished run has
  symbols for.
* `Resolved.mem_definedIn_iff` says which shapes a module defines types for, and
  `Resolved.nodup_definedIn` that it takes none of them twice.
-/

namespace SdkForge

open Crate (TypeModule Blueprint)

/-- The shapes that the service of a project reaches. -/
def Project.closure (p : Project) : List Shape := p.model.walk p.service

/-- What a shape of the closure holds is in the closure too, and so is the origin of its type. -/
lemma Model.mem_walk_of_typedBy {model : Model} (hmodel : model.WellFormed) {start : ShapeId}
    {shape origin : Shape} (htyped : model.TypedBy shape origin) (hmem : shape ∈ model.walk start) :
    origin ∈ model.walk start := by
  induction htyped with
  | self => exact hmem
  | @held shape next _ hheld _ ih =>
    refine ih ?_
    obtain ⟨id, traits, body⟩ := shape
    cases body with
    | member container target => exact mem_walk_of_reference hmodel hmem List.mem_cons_self hheld
    | list member | map key member =>
      obtain ⟨found, hfound, htarget⟩ := Option.bind_eq_some_iff.1 hheld
      obtain ⟨target, htarget, hnext⟩ := Option.bind_eq_some_iff.1 htarget
      have hmember : found ∈ model.walk start :=
        mem_walk_of_reference hmodel hmem (by simp [Shape.references]) hfound
      refine mem_walk_of_reference hmodel hmember ?_ hnext
      obtain ⟨id, traits, body⟩ := found
      cases body <;> simp_all [Shape.target?, Shape.references]
    | _ => simp [Model.held?] at hheld

/-- A module takes the entries of the table that belong to it, other than members. -/
lemma Crate.Blueprint.mem_definedIn {b : Blueprint} {m : TypeModule} {shape : Shape}
    {symbol : Symbol} :
    (shape, symbol) ∈ b.definedIn m ↔ ∃ id, b.symbols.get? id = some symbol ∧
      symbol.module = some m.name ∧
      b.project.model.get? id = some shape ∧ shape.isMember = false := by
  simp only [definedIn, List.mem_mergeSort, List.mem_filter, List.mem_filterMap, SymbolTable.get?,
    OrderedMap.get?_eq_some_iff]
  constructor
  · rintro ⟨⟨⟨id, other⟩, hentry, hfound⟩, hmember⟩
    simp only [Option.ite_none_right_eq_some, Option.map_eq_some_iff, Prod.mk.injEq] at hfound
    obtain ⟨hmodule, found, hget, rfl, rfl⟩ := hfound
    exact ⟨id, hentry, hmodule, hget, by simpa using hmember⟩
  · rintro ⟨id, hentry, hmodule, hget, hmember⟩
    exact ⟨⟨(id, symbol), hentry, by simp [hmodule, hget]⟩, by simp [hmember]⟩

/-- A blueprint has the project and the symbols of its run. -/
lemma Crate.Blueprint.of_ofCompilation {d : DecoratorSet} {c : Compilation} {b : Blueprint}
    (h : ofCompilation d c = .ok b) : b.project = c.project ∧ c.symbols = some b.symbols := by
  simp only [ofCompilation, Outcome.bind_eq_ok, Outcome.pure_eq_ok, Compilation.table,
    Outcome.elim_eq_ok] at h
  obtain ⟨_, _, _, _, _, _, t, ht, rfl⟩ := h
  exact ⟨rfl, ht⟩

namespace Resolved

variable {c : Compilation} {t : SymbolTable} {b : Blueprint} {m : TypeModule} {shape : Shape}
  {symbol : Symbol}

/-- The table has the symbols of the shapes in the closure. -/
lemma get?_eq_some_iff (h : Resolved c t) {id : ShapeId} :
    t.get? id = some symbol ↔ ∃ shape ∈ c.project.closure, shape.id = id ∧
      c.project.symbolOf shape = .ok symbol :=
  h.tracks.symbols id symbol

lemma get?_of_mem_closure (h : Resolved c t) (hmem : shape ∈ c.project.closure)
    (hsymbol : c.project.symbolOf shape = .ok symbol) : t.get? shape.id = some symbol :=
  h.get?_eq_some_iff.2 ⟨shape, hmem, rfl, hsymbol⟩

lemma model_get?_of_mem_closure (h : Resolved c t) (hmem : shape ∈ c.project.closure) :
    c.project.model.get? shape.id = some shape :=
  Model.get?_of_mem_walk h.model hmem

/-- A finished run has a shape and its symbol exactly for the closure. -/
lemma found?_eq_some_iff (h : Resolved c t) {id : ShapeId} {shape : Shape} {symbol : Symbol} :
    c.found? id = some (shape, symbol) ↔
      shape ∈ c.project.closure ∧ shape.id = id ∧ c.project.symbolOf shape = .ok symbol := by
  constructor
  · intro hfound
    obtain ⟨hshape, hsymbol⟩ := h.of_found? hfound
    obtain ⟨found, hmem, rfl, hown⟩ := h.get?_eq_some_iff.1 hsymbol
    obtain rfl := Option.some.inj ((h.model_get?_of_mem_closure hmem).symm.trans hshape)
    exact ⟨hmem, rfl, hown⟩
  · rintro ⟨hmem, rfl, hsymbol⟩
    simp [Compilation.found?, h.model_get?_of_mem_closure hmem, h.symbols,
      h.get?_of_mem_closure hmem hsymbol]

/-- A module defines types for the shapes of the closure that the module is for. -/
theorem mem_definedIn_iff (h : Resolved c t) (hproject : b.project = c.project)
    (hsymbols : b.symbols = t) :
    (shape, symbol) ∈ b.definedIn m ↔ shape ∈ c.project.closure ∧
    TypeModule.of? c.project.mode shape = some m ∧
      c.project.symbolOf shape = .ok symbol := by
  rw [Blueprint.mem_definedIn, hproject, hsymbols]
  constructor
  · rintro ⟨id, hget, hmodule, hshape, hmember⟩
    obtain ⟨found, hmem, rfl, hsymbol⟩ := h.get?_eq_some_iff.1 hget
    obtain rfl := Option.some.inj ((h.model_get?_of_mem_closure hmem).symm.trans hshape)
    rcases Project.of?_of_symbol_module hmember hsymbol hmodule with ⟨m', hm', hname⟩ | ⟨_, hname⟩
    · obtain rfl := TypeModule.name_injective hname
      exact ⟨hmem, hm', hsymbol⟩
    · exact absurd hname m.name_ne_service
  · rintro ⟨hmem, hm, hsymbol⟩
    refine ⟨shape.id, h.get?_of_mem_closure hmem hsymbol, ?_, h.model_get?_of_mem_closure hmem, ?_⟩
    · obtain ⟨derives, hown, _⟩ := Project.symbolOf_of_module hm
      obtain rfl := Except.ok.inj (hsymbol.symm.trans hown)
      rfl
    · exact Shape.isMember_eq_false (TypeModule.of_of?_eq_some hm).1

lemma mem_definedIn_of_found? (h : Resolved c t) (hproject : b.project = c.project)
    (hsymbols : b.symbols = t) {id : ShapeId} (hfound : c.found? id = some (shape, symbol))
    (hmodule : symbol.module = some m.name) (hmember : shape.isMember = false) :
    (shape, symbol) ∈ b.definedIn m := by
  obtain ⟨hshape, hsymbol⟩ := h.of_found? hfound
  rw [Blueprint.mem_definedIn, hproject, hsymbols]
  exact ⟨id, hsymbol, hmodule, hshape, hmember⟩

/-- A member of a structure or union in the closure is in the closure. -/
lemma mem_closure_of_member (h : Resolved c t) {shape member : Shape} {id : ShapeId}
    (hmem : shape ∈ c.project.closure) (hid : id ∈ shape.members)
    (hget : c.project.model.get? id = some member) : member ∈ c.project.closure := by
  refine Model.mem_walk_of_reference h.model hmem ?_ hget
  obtain ⟨key, traits, body⟩ := shape
  cases body <;> simp_all [Shape.members, Shape.references]

/-- A module takes no shape twice. -/
theorem nodup_definedIn (h : Resolved c t) (hproject : b.project = c.project) :
    (b.definedIn m).Nodup := by
  -- the order does not matter, and the entries of the table have different ids
  rw [Blueprint.definedIn, (List.mergeSort_perm _ _).nodup_iff]
  refine (List.Nodup.filterMap ?_ b.symbols.symbols.nodup_keys.of_map).filter _
  rintro ⟨id, symbol⟩ ⟨id', symbol'⟩ ⟨shape, found⟩ hfirst hsecond
  simp only [hproject, Option.mem_def, Option.ite_none_right_eq_some, Option.map_eq_some_iff,
    Prod.mk.injEq] at hfirst hsecond
  obtain ⟨_, _, hget, rfl, rfl⟩ := hfirst
  obtain ⟨_, _, hget', rfl, rfl⟩ := hsecond
  rw [← h.model.id_eq hget, ← h.model.id_eq hget']

end Resolved

end SdkForge
