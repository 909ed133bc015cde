import SdkForge.Proofs.Crate.Definitions

/-!
# Derived equality and what it needs

Equality can be derived for a structure or union only if all that it holds has equality. The stage
that takes equality away looks at the members of one shape, and not at what lies below them.

* `Compilation.EqualityClosed` is what the language asks for.
* `Project.HoldsUncomparable` says, by the model alone, that a member has the type of a shape
  without equality.
* `Resolved.equalityClosed_iff` says that the one holds exactly if the other happens only to shapes
  that have a streaming member themselves.
-/

namespace SdkForge

open Crate (TypeModule)
open PlainSymbols (typeName)

/-! ## Shapes without equality -/

namespace Project

variable {p : Project} {shape : Shape}

/-- The generated type of the shape has no equality: it stands for an operation or a service, or has
a streaming member. -/
def Uncomparable (p : Project) (shape : Shape) : Prop :=
  shape.kind = .operation ∨ shape.kind = .service ∨
    (shape.isAggregate = true ∧ p.model.hasStreamingMember shape = true)

/-- Two shapes have one generated type. -/
def SharesType (p : Project) (a b : Shape) : Prop :=
  ∃ path, Crate.typePath? p.mode a = some path ∧ Crate.typePath? p.mode b = some path ∧
    typeName a = typeName b

/-- A member of the shape has the type of a shape without equality, itself or at the core of its own
type. -/
def HoldsUncomparable (p : Project) (shape : Shape) : Prop :=
  ∃ id ∈ shape.members, ∃ member origin other, p.model.get? id = some member ∧
    p.model.TypedBy member origin ∧
    other ∈ p.closure ∧ p.SharesType origin other ∧ p.Uncomparable other

/-- The symbol of a shape with a generated type of its own. -/
lemma symbolOf_of_typePath? {path : String} (hpath : Crate.typePath? p.mode shape = some path) :
    ∃ symbol, p.symbolOf shape = .ok symbol ∧ symbol.isGenerated = true ∧
      symbol.type.core = (typeName shape, some path) ∧
      (Instance.partialEq ∈ symbol.derives ↔ ¬p.Uncomparable shape) := by
  by_cases hservice : shape.kind = .service
  · rw [Crate.typePath?, if_pos hservice] at hpath
    refine ⟨_, symbolOf_of_service hservice, rfl, ?_, ?_⟩
    · rw [← Option.some.inj hpath, TypeExpr.core]
    · simp [Uncomparable, hservice]
  · rw [Crate.typePath?, if_neg hservice] at hpath
    obtain ⟨m, hm, rfl⟩ := Option.map_eq_some_iff.1 hpath
    obtain ⟨derives, hsymbol, hderives⟩ := symbolOf_of_module hm
    refine ⟨_, hsymbol, rfl, Symbol.core_generated _ _ _, ?_⟩
    rw [hderives, Uncomparable]
    tauto

/-- Only such a shape has a symbol that is generated, unless it is a member. -/
lemma exists_typePath?_of_isGenerated {symbol : Symbol} (hmember : shape.isMember = false)
    (hsymbol : p.symbolOf shape = .ok symbol) (hgenerated : symbol.isGenerated = true) :
    ∃ path, Crate.typePath? p.mode shape = some path := by
  obtain ⟨module, hmodule⟩ := Option.isSome_iff_exists.1 hgenerated
  rcases of?_of_symbol_module hmember hsymbol hmodule with ⟨m, hm, _⟩ | ⟨hservice, _⟩
  · exact ⟨m.path, Crate.typePath?_eq_path_iff.2 hm⟩
  · exact ⟨"crate", if_pos hservice⟩

lemma isMember_of_typePath? {mode : Mode} {path : String}
    (hpath : Crate.typePath? mode shape = some path) :
    shape.isMember = false := by
  unfold Crate.typePath? at hpath
  split at hpath
  · next hservice => simp [Shape.isMember, hservice]
  · obtain ⟨m, hm, _⟩ := Option.map_eq_some_iff.1 hpath
    exact Shape.isMember_eq_false (TypeModule.of_of?_eq_some hm).1

lemma exists_typePath?_of_isAggregate (mode : Mode) (h : shape.isAggregate = true) :
    ∃ path, Crate.typePath? mode shape = some path := by
  have hmodule : ∃ m, TypeModule.of? mode shape = some m := by
    obtain ⟨id, traits, body⟩ := shape
    cases body with
    | record =>
      unfold TypeModule.of?
      split_ifs <;> exact ⟨_, rfl⟩
    | union => exact ⟨_, rfl⟩
    | _ => simp [Shape.isAggregate, Shape.isRecord, Shape.isUnion, Shape.kind] at h
  obtain ⟨m, hm⟩ := hmodule
  exact ⟨m.path, Crate.typePath?_eq_path_iff.2 hm⟩

/-- A structure or union derives equality unless it has a streaming member. -/
lemma uncomparable_iff_of_isAggregate (h : shape.isAggregate = true) :
    p.Uncomparable shape ↔ p.model.hasStreamingMember shape = true := by
  obtain ⟨id, traits, body⟩ := shape
  cases body <;> simp_all [Uncomparable, Shape.isAggregate, Shape.isRecord,
    Shape.isUnion, Shape.kind]

end Project

/-! ## What the language asks for -/

/-- Whenever equality is derived for a structure or union, it is derived for every generated type at
the core of a member. -/
def Compilation.EqualityClosed (c : Compilation) : Prop :=
  ∀ id shape symbol, c.found? id = some (shape, symbol) → shape.isAggregate = true →
    .partialEq ∈ symbol.derives →
    ∀ m ∈ shape.members, ∀ member mentioned, c.found? m = some (member, mentioned) →
    ∀ id' other type, c.found? id' = some (other, type) → other.isMember = false →
      type.isGenerated = true →
      type.type.core = mentioned.type.core → .partialEq ∈ type.derives

namespace Resolved

variable {c : Compilation} {t : SymbolTable}

lemma isStreaming_of_hasStreamingMember {model : Model} {shape member : Shape} {id : ShapeId}
    (h : model.hasStreamingMember shape = false) (hid : id ∈ shape.members)
    (hget : model.get? id = some member) :
    model.isStreaming member = false := by
  have hmem : member ∈ shape.members.filterMap model.get? := List.mem_filterMap.2 ⟨id, hid, hget⟩
  simpa using List.any_eq_false.1 h member hmem

/-- Equality has what it needs exactly if only shapes with a streaming member hold what has no
equality. -/
theorem equalityClosed_iff (h : Resolved c t) :
    c.EqualityClosed ↔ ∀ shape ∈ c.project.closure, shape.isAggregate = true →
      c.project.HoldsUncomparable shape →
      c.project.model.hasStreamingMember shape = true := by
  constructor
  · rintro hclosed shape hmem haggregate ⟨id, hid, member, origin, other, hget, htyped, hother,
      ⟨path, horigin, hpath, hname⟩, hun⟩
    by_contra hstream
    have hstream : c.project.model.hasStreamingMember shape = false := by simpa using hstream
    obtain ⟨ownPath, hownPath⟩ := Project.exists_typePath?_of_isAggregate c.project.mode haggregate
    obtain ⟨symbol, hsymbol, _, _, hderives⟩ := Project.symbolOf_of_typePath? hownPath
    have hequal : Instance.partialEq ∈ symbol.derives := by
      rw [hderives, Project.uncomparable_iff_of_isAggregate haggregate, hstream]
      simp
    -- the member mentions the type of the other shape, because it is no stream
    have hmember := h.mem_closure_of_member hmem hid hget
    obtain ⟨mentioned, hmentioned⟩ := h.tracks.total member hmember
    have hcore :=
      Project.core_of_origin hmentioned htyped horigin
        (isStreaming_of_hasStreamingMember hstream hid hget)
    obtain ⟨type, htype, hgenerated, htypeCore, htypeDerives⟩ := Project.symbolOf_of_typePath? hpath
    refine htypeDerives.1 (hclosed shape.id shape symbol ?_ haggregate hequal id hid member
      mentioned ?_ other.id other type ?_ ?_ hgenerated ?_) hun
    · exact h.found?_eq_some_iff.2 ⟨hmem, rfl, hsymbol⟩
    · exact h.found?_eq_some_iff.2 ⟨hmember, h.model.id_eq hget, hmentioned⟩
    · exact h.found?_eq_some_iff.2 ⟨hother, rfl, htype⟩
    · exact Project.isMember_of_typePath? hpath
    · rw [htypeCore, hcore, hname]
  · intro hholds id shape symbol hfound haggregate hequal m hm member mentioned hmember id' other
      type htype hother hgenerated hcore
    obtain ⟨hmem, rfl, hsymbol⟩ := h.found?_eq_some_iff.1 hfound
    obtain ⟨hmemberMem, hmemberId, hmentioned⟩ := h.found?_eq_some_iff.1 hmember
    obtain ⟨hotherMem, _, hotherSymbol⟩ := h.found?_eq_some_iff.1 htype
    obtain ⟨path, hpath⟩ := Project.exists_typePath?_of_isGenerated hother hotherSymbol hgenerated
    -- that a symbol is generated says by itself which path its type has
    obtain ⟨type', htype', _, htypeCore, htypeDerives⟩ := Project.symbolOf_of_typePath? hpath
    obtain rfl := Except.ok.inj (hotherSymbol.symm.trans htype')
    rw [htypeDerives]
    intro hun
    obtain ⟨origin, htyped, horigin, hname⟩ :=
      Project.exists_origin_of_core hmentioned (Crate.isOwnPath_of_typePath? hpath)
        (hcore.symm.trans htypeCore)
    have hget : c.project.model.get? m = some member := by
      rw [← hmemberId]
      exact h.model_get?_of_mem_closure hmemberMem
    -- the origin of the member's type and the other shape share a type
    have hstream := hholds shape hmem haggregate
      ⟨m, hm, member, origin, other, hget, htyped, hotherMem, ⟨path, horigin, hpath, hname⟩, hun⟩
    obtain ⟨ownPath, hownPath⟩ := Project.exists_typePath?_of_isAggregate c.project.mode haggregate
    obtain ⟨symbol', hsymbol', _, _, hderives⟩ := Project.symbolOf_of_typePath? hownPath
    obtain rfl := Except.ok.inj (hsymbol.symm.trans hsymbol')
    exact hderives.1 hequal ((Project.uncomparable_iff_of_isAggregate haggregate).2 hstream)

end Resolved

/-- After a finished run, derived equality has what it needs exactly if every structure and union of
the closure that holds something without equality has a streaming member itself. -/
theorem equality_closed_iff_streams_direct {i : Command.Input} {denyWarnings : Bool}
    {d : DecoratorSet} {c : Compilation} (hmodel : i.model.IsBuilt)
    (hrun : i.compile denyWarnings = .ok (d, c)) :
    c.EqualityClosed ↔ ∀ shape ∈ c.project.closure, shape.isAggregate = true →
      c.project.HoldsUncomparable shape →
      c.project.model.hasStreamingMember shape = true := by
  obtain ⟨_, _, t, h⟩ := resolved_of_compile hmodel hrun
  exact h.equalityClosed_iff

/-! ## Photos -/

/-- A service that takes a photo: its bytes, or a structure that has them. -/
def photos (photo : ShapeId) : List Shape :=
  Command.Input.service [("photo", photo)]
    (Command.Input.record ⟨"ex", "Photo", none⟩ [("body", ⟨"ex", "Bytes", none⟩)] ++
      [⟨⟨"ex", "Bytes", none⟩, ({} : Traits).insert .streaming, .blob⟩])

/-- Bytes are a stream in the envelope itself, which has no equality then. -/
theorem equality_closed_of_bytes :
    ∃ d c, (Command.Input.small (photos ⟨"ex", "Bytes", none⟩)).compile false = .ok (d, c) ∧
      c.EqualityClosed := by
  have hdirect :
      ((Command.Input.finished? (photos ⟨"ex", "Bytes", none⟩)).any fun c =>
        c.project.closure.all fun shape =>
          !shape.isAggregate || shape.members.isEmpty || c.project.model.hasStreamingMember shape) =
            true := by
    decide +kernel
  obtain ⟨c, hc, hdirect⟩ := (Option.any_eq_true _ _).1 hdirect
  obtain ⟨hmodel, hrun⟩ := Command.Input.of_finished? hc
  refine ⟨_, c, hrun, (equality_closed_iff_streams_direct hmodel hrun).2
    fun shape hmem haggregate hholds => ?_⟩
  obtain ⟨id, hid, _⟩ := hholds
  have hshape := List.all_eq_true.1 hdirect shape hmem
  simpa [haggregate, List.ne_nil_of_mem hid] using hshape

/-- A structure with bytes has no equality, and the envelope that holds it derives equality all the
same. -/
theorem not_equality_closed_of_photo :
    ∃ d c, (Command.Input.small (photos ⟨"ex", "Photo", none⟩)).model.IsBuilt ∧
    (Command.Input.small (photos ⟨"ex", "Photo", none⟩)).compile false = .ok (d, c) ∧
    ¬c.EqualityClosed := by
  have hfound : ((Command.Input.finished? (photos ⟨"ex", "Photo", none⟩)).any fun c =>
      (c.found? ⟨"ex.synthetic", "OpInput", none⟩).any (fun found =>
        found.1.isAggregate && found.2.derives.contains .partialEq &&
          found.1.members.contains ⟨"ex.synthetic", "OpInput", some "photo"⟩) &&
      (c.found? ⟨"ex.synthetic", "OpInput", some "photo"⟩).any (fun found =>
        found.2.type.core == ("Photo", some "crate::model")) &&
      (c.found? ⟨"ex", "Photo", none⟩).any (fun found =>
        !found.1.isMember && found.2.isGenerated && found.2.type.core ==
          ("Photo", some "crate::model") && !found.2.derives.contains .partialEq)) = true := by
    decide +kernel
  obtain ⟨c, hc, hfound⟩ := (Option.any_eq_true _ _).1 hfound
  simp only [Bool.and_eq_true, Option.any_eq_true, Prod.exists, beq_iff_eq, Bool.not_eq_true',
    List.contains_iff_mem] at hfound
  obtain ⟨⟨⟨shape, symbol, hshape, ⟨haggregate, hequal⟩, hlists⟩, member, mentioned,
      hmember, hcore⟩, other, type, htype,
    ⟨⟨hother, hgenerated⟩, htypeCore⟩, hderives⟩ := hfound
  obtain ⟨hmodel, hrun⟩ := Command.Input.of_finished? hc
  refine ⟨_, c, hmodel, hrun, fun hclosed => ?_⟩
  have hneeded :=
    hclosed _ _ _ hshape haggregate hequal _ hlists _ _ hmember _ _ _ htype hother hgenerated
    (htypeCore.trans hcore.symm)
  simp [hneeded] at hderives

end SdkForge
