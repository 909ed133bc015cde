import SdkForge.Crate.Definition
import SdkForge.Proofs.Symbol.Origin
import SdkForge.Symbol.Stage

/-!
# Types that a module defines

Which module defines a type for a shape, said by the shape alone.

* `TypeModule.of?` gives the module, and `typePath?` how code spells the place of the type.
* `Owned` lists what the symbol of a shape that holds nothing can be; `owned_of_own` says that it is
  one of these.
* `IsOwnPath.getLast?_ne` keeps the runtime's crates apart from the generated one.
-/

namespace SdkForge

open PlainSymbols

/-! ## Modules -/

/-- A string that gets a type for its pattern: the server checks patterns, unless the string is an
enum or one that every model has. -/
def Shape.isCheckedString (mode : Mode) (shape : Shape) : Bool :=
  shape.kind = .string && shape.traits.enumValues.isNone && shape.traits.pattern.isSome &&
    shape.id.ns != Model.preludeNamespace && mode == .server

namespace Crate.TypeModule

/-- The module that defines a type for a shape, if one does. -/
def of? (mode : Mode) (shape : Shape) : Option TypeModule :=
  match shape.body with
  | .record _ =>
    if shape.traits.syntheticInput.isSome then some .input
    else if shape.traits.syntheticOutput.isSome then some .output
    else if shape.traits.error.isSome then some .error
    else some .model
  | .union _ => some .model
  | .operation .. => some .operation
  | .string =>
    if shape.traits.enumValues.isSome || shape.isCheckedString mode then some .model else none
  | _ => none

/-- A module defines types for shapes of few kinds only. -/
lemma of_of?_eq_some {mode : Mode} {m : TypeModule} {shape : Shape} (h : of? mode shape = some m) :
    shape.isHolder = false ∧ shape.kind ≠ .blob ∧ shape.kind ≠ .timestamp ∧
    shape.kind ≠ .service := by
  obtain ⟨id, traits, body⟩ := shape
  cases body <;>
    simp_all [of?, Shape.isHolder, Shape.isMember, Shape.isCollection, Shape.kind]

/-- Where code finds what the module defines. -/
def path (m : TypeModule) : String := s!"crate::{m.name}"

lemma name_injective {a b : TypeModule} (h : a.name = b.name) : a = b := by
  cases a <;> cases b <;> simp_all [name]

lemma path_injective {a b : TypeModule} (h : a.path = b.path) : a = b := by
  cases a <;> cases b <;> first | rfl | exact absurd h (by decide)

lemma name_ne_service (m : TypeModule) : m.name ≠ "service" := by
  cases m <;> decide

lemma path_ne_crate (m : TypeModule) : m.path ≠ "crate" := by
  cases m <;> decide

lemma getLast?_typesCrate (p : Project) : p.typesCrate.toList.getLast? = some 's' := by
  simp [Project.typesCrate, Project.runtimeCrate, Manifest.Runtime.crateIdent,
    Manifest.Runtime.crateName, Manifest.identOf]

lemma getLast?_serverTypes (crate : String) :
    (SymbolStage.serverTypes crate).toList.getLast? = some 's' := by
  show (crate ++ "::types").toList.getLast? = some 's'
  simp

end Crate.TypeModule

namespace Crate

open TypeModule

/-- The path of the type that generated code has for a shape, if the shape has a type of its own. -/
def typePath? (mode : Mode) (shape : Shape) : Option String :=
  if shape.kind = .service then some "crate" else (of? mode shape).map path

/-- The places where generated code has types of its own. -/
inductive IsOwnPath : String → Prop where
  | module (m : TypeModule) : IsOwnPath m.path
  | root : IsOwnPath "crate"

/-- No such place ends in the letter in which the paths of the runtime end. -/
lemma IsOwnPath.getLast?_ne {path : String} (h : IsOwnPath path) :
    path.toList.getLast? ≠ some 's' := by
  cases h with
  | module m => cases m <;> decide
  | root => decide

lemma isOwnPath_of_typePath? {mode : Mode} {shape : Shape} {path : String}
    (h : typePath? mode shape = some path) :
    IsOwnPath path := by
  unfold typePath? at h
  split at h
  · exact Option.some.inj h ▸ .root
  · obtain ⟨m, _, rfl⟩ := Option.map_eq_some_iff.1 h
    exact .module m

lemma typePath?_eq_path_iff {mode : Mode} {shape : Shape} {m : TypeModule} :
    typePath? mode shape = some m.path ↔ of? mode shape = some m := by
  unfold typePath?
  split
  · next hkind =>
    have hnone : of? mode shape = none := by
      obtain ⟨id, traits, body⟩ := shape
      cases body <;> simp_all [of?, Shape.kind]
    simp [hnone, m.path_ne_crate.symm]
  · rw [Option.map_eq_some_iff]
    constructor
    · rintro ⟨m', hm', hpath⟩
      rwa [← path_injective hpath]
    · exact fun hm => ⟨m, hm, rfl⟩

end Crate

open Crate (TypeModule)

/-! ## Symbols of shapes that hold nothing -/

namespace PlainSymbols

variable {s : Settings} {shape : Shape} {plain : Symbol}

/-- What the symbol of a shape that holds nothing can be. -/
inductive Owned (s : Settings) (shape : Shape) : Symbol → Prop where
  /-- A module defines the type. -/
  | defined (m : TypeModule) (derives : List Instance)
      (hmodule : TypeModule.of? s.mode shape = some m)
      (hderives : Instance.partialEq ∈ derives ↔ shape.kind ≠ .operation) :
      Owned s shape { Symbol.generated (typeName shape) m.name with derives }
  /-- The type stands for a service. -/
  | service (hkind : shape.kind = .service) :
      Owned s shape { type := .named (typeName shape) (some "crate"), module := some "service" }
  /-- The type is there already. -/
  | standing (name : String) (ns : Option String) (hmodule : TypeModule.of? s.mode shape = none)
      (hkind : shape.kind ≠ .service) (hns : ns = none ∨ ns = some s.typesCrate) :
      Owned s shape (.external name ns)

lemma isCheckedString_eq {id : ShapeId} {traits : Traits}
    (henum : traits.enumValues.isSome = false) :
    checksPattern s ⟨id, traits, .string⟩ = Shape.isCheckedString s.mode ⟨id, traits, .string⟩ := by
  simp_all [checksPattern, Shape.isCheckedString, Shape.kind]

/-- The symbol of a record is defined in the module that its traits choose. -/
lemma owned_record (id : ShapeId) (traits : Traits) (members : List ShapeId) :
    Owned s ⟨id, traits, .record members⟩
      (defined ⟨id, traits, .record members⟩ (recordModule traits) aggregateInstances) := by
  unfold recordModule
  split_ifs with hinput houtput herror
  · exact .defined .input _ (by simp [TypeModule.of?, hinput])
      (by simp [aggregateInstances, Shape.kind])
  · exact .defined .output _ (by simp [TypeModule.of?, hinput, houtput])
      (by simp [aggregateInstances, Shape.kind])
  · exact .defined .error _ (by simp [TypeModule.of?, hinput, houtput, herror])
      (by simp [aggregateInstances, Shape.kind])
  · exact .defined .model _ (by simp [TypeModule.of?, hinput, houtput, herror])
      (by simp [aggregateInstances, Shape.kind])

/-- The symbol of a string is that of an enum, of a checked string, or of a plain one. -/
lemma owned_string (id : ShapeId) (traits : Traits) :
    Owned s ⟨id, traits, .string⟩ (ofString s ⟨id, traits, .string⟩) := by
  unfold ofString
  split_ifs with henum hchecks
  · exact .defined .model _ (by simp_all [TypeModule.of?]) (by simp [Shape.kind])
  · rw [isCheckedString_eq (by simpa using henum)] at hchecks
    exact .defined .model _ (by simp [TypeModule.of?, hchecks]) (by simp [Shape.kind])
  · rw [isCheckedString_eq (by simpa using henum)] at hchecks
    exact .standing _ _ (by simp_all [TypeModule.of?]) (by simp [Shape.kind]) (.inl rfl)

lemma owned_number (id : ShapeId) (traits : Traits) (kind : NumberKind) :
    Owned s ⟨id, traits, .number kind⟩ (ofNumber s kind) := by
  cases kind <;> exact .standing _ _ rfl (by simp [Shape.kind]) (by simp)

/-- The symbol of a shape that holds nothing is one of those listed. -/
theorem owned_of_own (hholder : shape.isHolder = false) (hown : own s shape = .ok plain) :
    Owned s shape plain := by
  obtain ⟨id, traits, body⟩ := shape
  cases body with
  | record members => exact Except.ok.inj hown ▸ owned_record id traits members
  | union members =>
    exact Except.ok.inj hown ▸ .defined .model _ rfl (by simp [aggregateInstances, Shape.kind])
  | operation input output errors =>
    exact Except.ok.inj hown ▸ .defined .operation _ rfl (by simp [Shape.kind])
  | service version operations => exact Except.ok.inj hown ▸ .service rfl
  | string => exact Except.ok.inj hown ▸ owned_string id traits
  | number kind => exact Except.ok.inj hown ▸ owned_number id traits kind
  | boolean => exact Except.ok.inj hown ▸ .standing _ _ rfl (by simp [Shape.kind]) (.inl rfl)
  | blob => exact Except.ok.inj hown ▸ .standing _ _ rfl (by simp [Shape.kind]) (.inr rfl)
  | timestamp => exact Except.ok.inj hown ▸ .standing _ _ rfl (by simp [Shape.kind]) (.inr rfl)
  | _ => simp [Shape.isHolder, Shape.isMember, Shape.isCollection, Shape.kind] at hholder

/-- The symbol of a shape that a module defines a type for: only operations have no equality. -/
lemma Owned.eq_of_module (h : Owned s shape plain) {m : TypeModule}
    (hm : TypeModule.of? s.mode shape = some m) :
    ∃ derives, plain = { Symbol.generated (typeName shape) m.name with derives } ∧
      (Instance.partialEq ∈ derives ↔ shape.kind ≠ .operation) := by
  cases h with
  | defined m' derives hmodule hderives =>
    obtain rfl := Option.some.inj (hm.symm.trans hmodule)
    exact ⟨derives, rfl, hderives⟩
  | service hkind => exact absurd hkind (TypeModule.of_of?_eq_some hm).2.2.2
  | standing name ns hmodule =>
    rw [hm] at hmodule
    contradiction

/-- A type of its own has the shape's name, and its path. -/
lemma Owned.core_of_typePath? (h : Owned s shape plain) {path : String}
    (hpath : Crate.typePath? s.mode shape = some path) :
    plain.type.core = (typeName shape, some path) := by
  cases h with
  | defined m derives hmodule =>
    obtain rfl := Option.some.inj ((Crate.typePath?_eq_path_iff.2 hmodule).symm.trans hpath)
    rfl
  | service hkind =>
    rw [Crate.typePath?, if_pos hkind] at hpath
    rw [← Option.some.inj hpath]
    rfl
  | standing name ns hmodule hkind =>
    rw [Crate.typePath?, if_neg hkind, hmodule] at hpath
    contradiction

/-- Only a type of its own has a path in the generated crate. -/
lemma Owned.typePath?_of_core {p : Project} (h : Owned (.ofProject p) shape plain)
    {name path : String} (hpath : Crate.IsOwnPath path)
    (hcore : plain.type.core = (name, some path)) :
    Crate.typePath? p.mode shape = some path ∧ typeName shape = name := by
  cases h with
  | defined m derives hmodule =>
    obtain ⟨hname, hpath⟩ := Prod.mk.inj hcore
    exact ⟨(Crate.typePath?_eq_path_iff.2 hmodule).trans hpath, hname⟩
  | service hkind =>
    obtain ⟨hname, hpath⟩ := Prod.mk.inj hcore
    exact ⟨(if_pos hkind).trans hpath, hname⟩
  | standing type ns _ _ hns =>
    obtain ⟨_, hns'⟩ := Prod.mk.inj hcore
    subst hns'
    rcases hns with hns | hns
    · contradiction
    · obtain rfl := Option.some.inj hns
      exact absurd (TypeModule.getLast?_typesCrate p) hpath.getLast?_ne

end PlainSymbols

end SdkForge
