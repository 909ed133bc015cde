import SdkForge.Proofs.Model.Document

/-!
# Every model is closed

A draft changes step by step, and only building it asks for what its shapes need. What is built is
closed: everything that a shape of a model refers to is in the model.

* `Draft.IsStaged` says which drafts the steps lead to, and `Draft.IsStaged.keyed` that these keep
  their shapes under their ids.
* `Draft.offers?` is what a draft and the prelude have for an id. `Draft.exists_build_iff` says by
  it when there is a model, and `Draft.build_eq_error_iff` which shape and which id are told of when
  there is none.
* `IsObtained` says how models are come by, and `IsObtained.exists_draft` that all of them are built
  from such drafts.
-/

namespace SdkForge

open Outcome

/-- The ids that a shape needs in its model: its references in the order of their declaration, and
then its container. -/
def Shape.needs (shape : Shape) : List ShapeId := shape.references ++ shape.container?.toList

namespace Model

/-! ## Steps -/

namespace Draft

variable {draft : Draft} {model : Model} {shape : Shape} {e : ModelError}

/-- The draft with the traits of a shape changed, if the shape is there. -/
def changeTraits (draft : Draft) (id : ShapeId) (f : Traits → Traits) : Draft :=
  match draft.get? id with
  | some shape => ⟨draft.shapes.insert id { shape with traits := f shape.traits }⟩
  | none => draft

/-- A trait that is added is one change of traits. -/
lemma addTrait_eq_changeTraits (draft : Draft) (id : ShapeId) (t : Trait) :
    draft.addTrait id t = draft.changeTraits id (·.insert t) := rfl

/-- The steps of building lead to the draft. -/
inductive IsStaged : Draft → Prop where
  | empty : IsStaged {}
  | insert {draft : Draft} (h : IsStaged draft) (shape : Shape) : IsStaged (draft.insert shape)
  | erase {draft : Draft} (h : IsStaged draft) (id : ShapeId) : IsStaged (draft.erase id)
  | map {draft : Draft} (h : IsStaged draft) (f : Shape → Shape) : IsStaged (draft.map f)
  | changeTraits {draft : Draft} (h : IsStaged draft) (id : ShapeId) (f : Traits → Traits) :
      IsStaged (draft.changeTraits id f)
  /-- The shapes of a model that was built are taken up again. -/
  | ofModel {draft : Draft} {model : Model} (h : IsStaged draft)
      (hbuild : draft.build = .ok model) : IsStaged model.toDraft

/-- Other traits are found at the one id, and nothing else. -/
lemma get?_changeTraits (draft : Draft) (id other : ShapeId) (f : Traits → Traits) :
    (draft.changeTraits id f).get? other =
      if other = id then (draft.get? id).map fun shape => { shape with traits := f shape.traits }
        else draft.get? other := by
  unfold changeTraits
  split
  · next shape hget =>
    rw [hget]
    exact OrderedMap.get?_insert draft.shapes id other _
  · next hget =>
    rw [hget, Option.map_none]
    split
    · next heq => rw [heq, hget]
    · rfl

/-- Shapes that were put in by steps stand under their ids. -/
theorem IsStaged.keyed (h : draft.IsStaged) : Keyed draft.shapes := by
  induction h with
  | empty => exact keyed_empty
  | insert _ shape ih => exact ih.insert shape
  | @erase draft _ id ih =>
    intro other shape hget
    have hget : (if other = id then none else draft.shapes.get? other) = some shape :=
      (OrderedMap.get?_erase draft.shapes id other).symm.trans hget
    exact ih other shape (Option.ite_none_left_eq_some.1 hget).2
  | map => exact keyed_ofList _
  | @changeTraits draft _ id f ih =>
    intro other shape hget
    have hget := (get?_changeTraits draft id other f).symm.trans hget
    split at hget
    · next heq =>
      obtain ⟨old, hold, rfl⟩ := Option.map_eq_some_iff.1 hget
      rw [heq]
      exact ih id old hold
    · exact ih other shape hget
  | ofModel _ hbuild ih => exact (wellFormed_of_build ih hbuild).keyed

lemma IsStaged.foldl_insert (h : draft.IsStaged) (shapes : List Shape) :
    (shapes.foldl Draft.insert draft).IsStaged := by
  induction shapes generalizing draft with
  | nil => exact h
  | cons shape rest ih => exact ih (h.insert shape)

/-! ## What a draft has for its shapes -/

/-- The shape that a draft or else the prelude has for an id. -/
def offers? (draft : Draft) (id : ShapeId) : Option Shape :=
  (draft.get? id).or (prelude.find? (·.id = id))

/-- All that the shape needs is there. -/
def Supplies (draft : Draft) (shape : Shape) : Prop := ∀ id ∈ shape.needs, (draft.offers? id).isSome

/-- The shape needs an id that is not there, and all that it needs before is there. -/
def Lacks (draft : Draft) (shape : Shape) (target : ShapeId) : Prop :=
  draft.offers? target = none ∧
    ∃ before after, shape.needs = before ++ target :: after ∧
      ∀ id ∈ before, (draft.offers? id).isSome

/-- The shape is the first one of the draft that needs something that is not there, which is
`target`. -/
structure Blames (draft : Draft) (shape : Shape) (target : ShapeId) : Prop where
  staged : draft.get? shape.id = some shape
  lacks : draft.Lacks shape target
  least : ∀ other, draft.get? other.id = some other → compare other.id shape.id = .lt →
    draft.Supplies other

lemma contains_withPrelude (draft : Draft) (id : ShapeId) :
    (withPrelude draft.shapes).contains id = (draft.offers? id).isSome := by
  rw [OrderedMap.contains, get?_withPrelude]
  rfl

lemma unresolved_eq_none_iff :
    unresolved (withPrelude draft.shapes) shape = none ↔ draft.Supplies shape := by
  simp only [unresolved, Option.map_eq_none_iff, List.find?_eq_none, contains_withPrelude,
    Bool.not_eq_true', Bool.not_eq_false]
  rfl

lemma unresolved_eq_some_iff : unresolved (withPrelude draft.shapes) shape = some e ↔
    ∃ target, draft.Lacks shape target ∧ e = .unresolvedReference shape.id target := by
  simp only [unresolved, Option.map_eq_some_iff, List.find?_eq_some_iff_append,
    contains_withPrelude, Bool.not_eq_true', Option.isSome_eq_false_iff, Option.isNone_iff_eq_none]
  constructor
  · rintro ⟨target, ⟨hnone, before, after, hsplit, hbefore⟩, rfl⟩
    exact ⟨target, ⟨hnone, before, after, hsplit, by simpa using hbefore⟩, rfl⟩
  · rintro ⟨target, ⟨hnone, before, after, hsplit, hbefore⟩, rfl⟩
    exact ⟨target, ⟨hnone, before, after, hsplit, by simpa using hbefore⟩, rfl⟩

/-- The shapes of the prelude need nothing. -/
lemma supplies_of_mem_prelude (h : shape ∈ prelude) : draft.Supplies shape := by
  have hneeds : ∀ shape ∈ prelude, shape.needs = [] := by decide
  intro id hid
  rw [hneeds shape h] at hid
  contradiction

/-- A shape that is checked comes from the draft or needs nothing. -/
lemma get?_or_supplies (hkeyed : Keyed draft.shapes)
    (h : shape ∈ (withPrelude draft.shapes).values) :
    draft.get? shape.id = some shape ∨ draft.Supplies shape :=
  (get?_or_mem_prelude (hkeyed.withPrelude.mem_values.1 h)).imp_right supplies_of_mem_prelude

lemma mem_values_withPrelude (hkeyed : Keyed draft.shapes) (h : draft.get? shape.id = some shape) :
    shape ∈ (withPrelude draft.shapes).values :=
  hkeyed.withPrelude.mem_values.2 (get?_withPrelude_of_some h)

/-! ## Building -/

/-- A draft gives a model exactly if all that its shapes need is there. -/
theorem exists_build_iff (hkeyed : Keyed draft.shapes) :
    (∃ model, draft.build = .ok model) ↔ ∀ id shape, draft.get? id = some shape →
      draft.Supplies shape := by
  have hall : (∃ model, draft.build = .ok model) ↔
      ∀ shape ∈ (withPrelude draft.shapes).values, draft.Supplies shape := by
    simp only [build, ← unresolved_eq_none_iff, ← List.findSome?_eq_none_iff]
    cases (withPrelude draft.shapes).values.findSome? (unresolved (withPrelude draft.shapes)) <;>
      simp
  rw [hall]
  constructor
  · intro h id shape hget
    obtain rfl := hkeyed id shape hget
    exact h shape (mem_values_withPrelude hkeyed hget)
  · intro h shape hmem
    exact (get?_or_supplies hkeyed hmem).elim (h shape.id shape) id

/-- The model has the shapes of the draft and those of the prelude. -/
theorem get?_of_build (hbuild : draft.build = .ok model) (id : ShapeId) :
    model.get? id = draft.offers? id := by
  rw [Model.get?, (build_eq_ok hbuild).1, get?_withPrelude]
  rfl

/-- In a list that is sorted by id, what has a smaller id than a shape stands before it. -/
lemma mem_of_compare_lt {before after : List Shape} {other : Shape}
    (hsorted : (before ++ shape :: after).Pairwise fun a b => compare a.id b.id = .lt)
    (hmem : other ∈ before ++ shape :: after) (hlt : compare other.id shape.id = .lt) :
    other ∈ before := by
  rw [List.pairwise_append, List.pairwise_cons] at hsorted
  rw [List.mem_append, List.mem_cons] at hmem
  rcases hmem with hbefore | rfl | hafter
  · exact hbefore
  · have hself : compare other.id other.id = .eq := Std.ReflCmp.compare_self
    rw [hself] at hlt
    contradiction
  · have hswap : compare other.id shape.id = (compare shape.id other.id).swap :=
      Std.OrientedCmp.eq_swap
    rw [hswap, hsorted.2.1.1 other hafter] at hlt
    contradiction

/-- Otherwise the error tells of the first shape that misses something, and of the first id that it
misses. -/
theorem build_eq_error_iff (hkeyed : Keyed draft.shapes) : draft.build = .error e ↔
    ∃ shape target, draft.Blames shape target ∧ e = .unresolvedReference shape.id target := by
  have hfirst : draft.build = .error e ↔
      (withPrelude draft.shapes).values.findSome? (unresolved (withPrelude draft.shapes)) =
        some e := by
    rw [build]
    cases (withPrelude draft.shapes).values.findSome? (unresolved (withPrelude draft.shapes)) <;>
      simp
  have hsorted := hkeyed.withPrelude.pairwise_values
  rw [hfirst, List.findSome?_eq_some_iff]
  constructor
  · rintro ⟨before, shape, after, hsplit, hshape, hbefore⟩
    obtain ⟨target, hlacks, rfl⟩ := unresolved_eq_some_iff.1 hshape
    have hmem : shape ∈ (withPrelude draft.shapes).values := by
      simp [hsplit]
    -- what lacks something is no shape of the prelude
    have hstaged : draft.get? shape.id = some shape := by
      refine (get?_or_supplies hkeyed hmem).resolve_right fun hsupplies => ?_
      exact Option.some_ne_none _ (hshape.symm.trans (unresolved_eq_none_iff.2 hsupplies))
    refine ⟨shape, target, ⟨hstaged, hlacks, fun other hother hlt => ?_⟩, rfl⟩
    have hmem' := mem_values_withPrelude hkeyed hother
    rw [hsplit] at hmem' hsorted
    exact unresolved_eq_none_iff.1 (hbefore other (mem_of_compare_lt hsorted hmem' hlt))
  · rintro ⟨shape, target, hblames, rfl⟩
    obtain ⟨before, after, hsplit⟩ :=
      List.append_of_mem (mem_values_withPrelude hkeyed hblames.staged)
    refine ⟨before, shape, after, hsplit, unresolved_eq_some_iff.2 ⟨target, hblames.lacks, rfl⟩,
      fun other hmem => ?_⟩
    have hmem' : other ∈ (withPrelude draft.shapes).values := by
      simp [hsplit, hmem]
    rw [hsplit, List.pairwise_append] at hsorted
    have hlt := hsorted.2.2 other hmem shape List.mem_cons_self
    rw [unresolved_eq_none_iff]
    exact (get?_or_supplies hkeyed hmem').elim (fun hstaged => hblames.least other hstaged hlt) id

end Draft

/-! ## Models -/

variable {model : Model}

/-- The ways to come by a model. -/
inductive IsObtained : Model → Prop where
  | build {draft : Draft} {model : Model} (h : draft.IsStaged) (hbuild : draft.build = .ok model) :
      IsObtained model
  | read {text : String} {model : Model} (hread : ofText text = .ok model) : IsObtained model
  | normalize {source model : Model} (h : IsObtained source)
      (hnormal : source.normalize = .ok model) : IsObtained model

/-- Every model is built from a draft that steps lead to. -/
theorem IsObtained.exists_draft (h : model.IsObtained) :
    ∃ draft : Draft, draft.IsStaged ∧ draft.build = .ok model := by
  induction h with
  | @build draft _ h hbuild => exact ⟨draft, h, hbuild⟩
  | read hread =>
    obtain ⟨document, draft, _, hdraft, hbuild⟩ := exists_of_ofText hread
    obtain ⟨shapes, rfl, _⟩ := Document.exists_of_draft hdraft
    exact ⟨.ofList shapes, Draft.IsStaged.empty.foldl_insert shapes, hbuild⟩
  | normalize _ hnormal ih =>
    obtain ⟨draft, hstaged, hsource⟩ := ih
    obtain ⟨changes, hbuild⟩ := exists_changes_of_normalize hnormal
    exact ⟨_, (hstaged.ofModel hsource).foldl_insert changes, hbuild⟩

/-- A draft of the shapes of another one is that draft. -/
lemma Draft.ofList_values {draft : Draft} (hkeyed : Keyed draft.shapes) :
    Draft.ofList draft.shapes.values = draft := by
  have hget : ∀ id, (Draft.ofList draft.shapes.values).get? id = draft.get? id := by
    intro id
    cases hdraft : draft.get? id with
    | some shape =>
      obtain rfl := hkeyed id shape hdraft
      refine Draft.get?_ofList_of_unique (hkeyed.mem_values.2 hdraft) fun other hmem hid => ?_
      have hother := hkeyed.mem_values.1 hmem
      rw [hid] at hother
      exact Option.some.inj (hother.symm.trans hdraft)
    | none =>
      rw [Option.eq_none_iff_forall_ne_some]
      intro shape hfound
      obtain ⟨hmem, rfl⟩ := Draft.mem_of_get?_ofList hfound
      have hshape : draft.get? shape.id = some shape := hkeyed.mem_values.1 hmem
      rw [hdraft] at hshape
      contradiction
  exact congrArg Draft.mk (OrderedMap.ext_get? hget)

/-- Every model is built from a draft that shapes were put into. -/
theorem IsObtained.isBuilt (h : model.IsObtained) : model.IsBuilt := by
  obtain ⟨draft, hstaged, hbuild⟩ := h.exists_draft
  exact ⟨draft.shapes.values, by rwa [Draft.ofList_values hstaged.keyed]⟩

/-- A draft can be made of every model. -/
lemma IsObtained.isStaged_toDraft (h : model.IsObtained) : model.toDraft.IsStaged := by
  obtain ⟨draft, hstaged, hbuild⟩ := h.exists_draft
  exact hstaged.ofModel hbuild

/-- Every model is well formed. -/
theorem IsObtained.wellFormed (h : model.IsObtained) : model.WellFormed := by
  obtain ⟨draft, hstaged, hbuild⟩ := h.exists_draft
  exact wellFormed_of_build hstaged.keyed hbuild

/-- A model has all that its shapes need. -/
lemma WellFormed.exists_expect (hmodel : model.WellFormed) {id target : ShapeId} {shape : Shape}
    (hget : model.get? id = some shape) (htarget : target ∈ shape.needs) :
    ∃ found, model.expect target = .ok found := by
  have hsome : (model.get? target).isSome := by
    rcases List.mem_append.1 htarget with href | howner
    · exact hmodel.reference id shape hget target href
    · exact hmodel.container id shape hget target (Option.mem_toList.1 howner)
  obtain ⟨found, hfound⟩ := Option.isSome_iff_exists.1 hsome
  exact ⟨found, expect_eq_ok.2 hfound⟩

/-- Whatever steps lead to a draft, it gives a model exactly if all that its shapes need is there,
which then has these shapes and those of the prelude by increasing id; otherwise the error tells of
the first shape that lacks something, and of the first id that it lacks. So no lookup of a reference
or of a container can miss in a model, whose shapes steps can go on with. -/
theorem models_closed :
    (∀ draft : Draft, draft.IsStaged →
      ((∃ model, draft.build = .ok model) ↔ ∀ id shape, draft.get? id = some shape →
        draft.Supplies shape) ∧
      (∀ model, draft.build = .ok model →
        (∀ id, model.get? id = draft.offers? id) ∧
        (∀ id shape, model.get? id = some shape → shape.id = id) ∧
          model.toList.Pairwise fun a b => compare a.id b.id = .lt) ∧
      ∀ e, draft.build = .error e ↔ ∃ shape target, draft.Blames shape target ∧
        e = .unresolvedReference shape.id target) ∧
    ∀ model : Model, model.IsObtained → model.toDraft.IsStaged ∧
      ∀ id shape, model.get? id = some shape → ∀ target ∈ shape.needs, ∃ found,
      model.expect target = .ok found := by
  constructor
  · intro draft hstaged
    refine ⟨Draft.exists_build_iff hstaged.keyed, fun model hbuild => ?_,
      fun e => Draft.build_eq_error_iff hstaged.keyed⟩
    have hmodel : model.WellFormed := wellFormed_of_build hstaged.keyed hbuild
    exact ⟨Draft.get?_of_build hbuild, hmodel.keyed, pairwise_toList hmodel⟩
  · intro model hobtained
    refine ⟨hobtained.isStaged_toDraft, fun id shape hget target htarget => ?_⟩
    exact hobtained.wellFormed.exists_expect hget htarget

/-! ## A shape with another id -/

/-- A structure whose member holds a string, after the string got another id and the member one more
trait. -/
def renamedDraft : Draft :=
  let start := Draft.ofList [{ id := ⟨"ex", "A", none⟩, body := .record [⟨"ex", "A", some "b"⟩] },
    .ofMember ⟨"ex", "A", some "b"⟩ ⟨"ex", "B", none⟩,
    { id := ⟨"ex", "B", none⟩, body := .string }]
  let renamed := start.map fun shape =>
    if shape.id = ⟨"ex", "B", none⟩ then { shape with id := ⟨"ex", "C", none⟩ } else shape
  renamed.addTrait ⟨"ex", "A", some "b"⟩ .required

/-- The member is told of, and with a string of the old id there is a model. -/
theorem models_closed_of_renamedDraft : renamedDraft.IsStaged ∧
    (∃ shape target, renamedDraft.Blames shape target ∧
      shape.id = ⟨"ex", "A", some "b"⟩ ∧ target = ⟨"ex", "B", none⟩) ∧
    ∃ model, (renamedDraft.insert { id := ⟨"ex", "B", none⟩, body := .string }).build = .ok model ∧
      model.IsObtained ∧
      model.get? ⟨"ex", "A", some "b"⟩ =
        some ((Shape.ofMember ⟨"ex", "A", some "b"⟩ ⟨"ex", "B", none⟩).withTrait .required) ∧
      ∃ found, model.expect ⟨"ex", "B", none⟩ = .ok found := by
  obtain ⟨herror, hmember⟩ :
      renamedDraft.build =
        .error (.unresolvedReference ⟨"ex", "A", some "b"⟩ ⟨"ex", "B", none⟩) ∧
      ((renamedDraft.insert { id := ⟨"ex", "B", none⟩, body := .string }).build.toOption.any
        fun model => model.get? ⟨"ex", "A", some "b"⟩ ==
          some ((Shape.ofMember ⟨"ex", "A", some "b"⟩ ⟨"ex", "B", none⟩).withTrait .required)) =
        true := by
    decide +kernel
  have hstaged : renamedDraft.IsStaged := by
    rw [renamedDraft, Draft.addTrait_eq_changeTraits]
    exact ((Draft.IsStaged.empty.foldl_insert _).map _).changeTraits _ _
  refine ⟨hstaged, ?_, ?_⟩
  · obtain ⟨shape, target, hblames, heq⟩ :=
      ((models_closed.1 renamedDraft hstaged).2.2 _).1 herror
    obtain ⟨hid, htarget⟩ := ModelError.unresolvedReference.inj heq
    exact ⟨shape, target, hblames, hid.symm, htarget.symm⟩
  · obtain ⟨model, hbuild, hget⟩ := (Option.any_eq_true _ _).1 hmember
    have hbuild := toOption_eq_some.1 hbuild
    have hget := beq_iff_eq.1 hget
    have hobtained : model.IsObtained := .build (hstaged.insert _) hbuild
    exact ⟨model, hbuild, hobtained, hget,
      (models_closed.2 model hobtained).2 _ _ hget _ List.mem_cons_self⟩

end Model

end SdkForge
