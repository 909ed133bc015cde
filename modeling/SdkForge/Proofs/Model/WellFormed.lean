import Mathlib.Tactic.Common
import SdkForge.Model.Envelope

/-!
# Well-formed models

What holds of every model that a draft gives: a shape stands under its own id, and a reference leads
to a shape.

* `IsBuilt` says that a model comes out of a draft; `IsBuilt.wellFormed` is what the rest of the
  theory uses of it.
* `WellFormed.normalize` says that envelopes leave a model well formed.
-/

namespace SdkForge.Model

variable {model : Model}

/-! ## Shapes under their own ids -/

/-- Every shape stands under its own id. -/
def Keyed (shapes : OrderedMap ShapeId Shape) : Prop :=
  ∀ id shape, shapes.get? id = some shape → shape.id = id

lemma Keyed.insert {shapes : OrderedMap ShapeId Shape} (hkeyed : Keyed shapes) (shape : Shape) :
    Keyed (shapes.insert shape.id shape) := by
  intro id other hget
  rw [OrderedMap.get?_insert] at hget
  split at hget
  · next heq =>
    rw [← Option.some.inj hget, heq]
  · exact hkeyed id other hget

lemma keyed_foldl_insert (draft : Draft) (hkeyed : Keyed draft.shapes) (shapes : List Shape) :
    Keyed (shapes.foldl Draft.insert draft).shapes := by
  induction shapes generalizing draft with
  | nil => exact hkeyed
  | cons shape rest ih => exact ih _ (hkeyed.insert shape)

lemma keyed_empty : Keyed .empty := by
  intro id shape hget
  simp at hget

lemma keyed_ofList (shapes : List Shape) : Keyed (Draft.ofList shapes).shapes :=
  keyed_foldl_insert {} keyed_empty shapes

lemma Keyed.withPrelude {shapes : OrderedMap ShapeId Shape} (hkeyed : Keyed shapes) :
    Keyed (Draft.withPrelude shapes) := by
  unfold Draft.withPrelude
  generalize prelude = added
  induction added generalizing shapes with
  | nil => exact hkeyed
  | cons shape rest ih =>
    rw [List.foldl_cons]
    split
    · exact ih hkeyed
    · exact ih (hkeyed.insert shape)

/-- The values are the shapes that stand under their ids. -/
lemma Keyed.mem_values {shapes : OrderedMap ShapeId Shape} (hkeyed : Keyed shapes) {shape : Shape} :
    shape ∈ shapes.values ↔ shapes.get? shape.id = some shape := by
  rw [OrderedMap.mem_values]
  constructor
  · rintro ⟨id, hget⟩
    rwa [hkeyed id shape hget]
  · exact fun hget => ⟨shape.id, hget⟩

/-- They come by increasing id. -/
lemma Keyed.pairwise_values {shapes : OrderedMap ShapeId Shape} (hkeyed : Keyed shapes) :
    shapes.values.Pairwise fun a b => compare a.id b.id = .lt := by
  refine List.pairwise_map.2 (shapes.sorted.imp_of_mem fun {a b} ha hb hlt => ?_)
  have hida : a.2.id = a.1 := hkeyed _ _ (OrderedMap.get?_eq_some_iff.2 ha)
  have hidb : b.2.id = b.1 := hkeyed _ _ (OrderedMap.get?_eq_some_iff.2 hb)
  rwa [hida, hidb]

/-! ## Models that drafts give -/

/-- The model comes out of a draft. -/
def IsBuilt (model : Model) : Prop := ∃ shapes, (Draft.ofList shapes).build = .ok model

lemma isBuilt_of_isSome {shapes : List Shape}
    (h : (Draft.ofList shapes).build.toOption.isSome = true) :
    IsBuilt ((Draft.ofList shapes).build.toOption.getD {}) := by
  refine ⟨shapes, ?_⟩
  cases hbuild : (Draft.ofList shapes).build with
  | error fault => simp [hbuild, Except.toOption] at h
  | ok model => rfl

/-- What can be relied on in a model. -/
structure WellFormed (model : Model) : Prop where
  keyed : Keyed model.shapes
  reference : ∀ id shape, model.get? id = some shape → ∀ target ∈ shape.references,
    (model.get? target).isSome
  container : ∀ id shape, model.get? id = some shape → ∀ owner ∈ shape.container?,
    (model.get? owner).isSome

lemma WellFormed.id_eq (hmodel : WellFormed model) {id : ShapeId} {shape : Shape}
    (hget : model.get? id = some shape) :
    shape.id = id := hmodel.keyed id shape hget

lemma WellFormed.get?_id (hmodel : WellFormed model) {id : ShapeId} {shape : Shape}
    (hget : model.get? id = some shape) : model.get? shape.id = some shape := by
  rw [hmodel.id_eq hget]
  exact hget

lemma mem_toList_iff (hmodel : WellFormed model) {shape : Shape} :
    shape ∈ model.toList ↔ model.get? shape.id = some shape := hmodel.keyed.mem_values

lemma pairwise_toList (hmodel : WellFormed model) :
    model.toList.Pairwise fun a b => compare a.id b.id = .lt :=
  hmodel.keyed.pairwise_values

/-- A shape without an unresolved reference refers to shapes only. -/
lemma isSome_of_unresolved_eq_none {shapes : OrderedMap ShapeId Shape} {shape : Shape}
    (h : Draft.unresolved shapes shape = none) {id : ShapeId}
    (hid : id ∈ shape.references ∨ id ∈ shape.container?) : (shapes.get? id).isSome := by
  have hfind : (shape.references ++ shape.container?.toList).find? (!shapes.contains ·) = none := by
    simpa [Draft.unresolved] using h
  have hmem : id ∈ shape.references ++ shape.container?.toList := by
    simpa using hid
  have hcontains := List.find?_eq_none.1 hfind id hmem
  simpa [OrderedMap.contains, Option.isSome_iff_ne_none] using hcontains

/-- A draft gives a model only if all its references are resolved. -/
lemma build_eq_ok {draft : Draft} (hbuild : draft.build = .ok model) :
    model.shapes = Draft.withPrelude draft.shapes ∧
      ∀ shape ∈ model.shapes.values, Draft.unresolved model.shapes shape = none := by
  unfold Draft.build at hbuild
  generalize Draft.withPrelude draft.shapes = shapes at hbuild ⊢
  cases hfind : shapes.values.findSome? (Draft.unresolved shapes) with
  | some fault => simp [hfind] at hbuild
  | none =>
    simp only [hfind, Option.elim_none, Except.ok.injEq] at hbuild
    subst hbuild
    exact ⟨rfl, List.findSome?_eq_none_iff.1 hfind⟩

/-- What a draft gives is well formed, if the draft keeps shapes under their own ids. -/
theorem wellFormed_of_build {draft : Draft} (hkeyed : Keyed draft.shapes)
    (hbuild : draft.build = .ok model) :
    WellFormed model := by
  obtain ⟨hshapes, hresolved⟩ := build_eq_ok hbuild
  have hnone : ∀ id shape, model.get? id = some shape →
      Draft.unresolved model.shapes shape = none :=
    fun id shape hget => hresolved shape (OrderedMap.mem_values.2 ⟨id, hget⟩)
  constructor
  · rw [hshapes]
    exact hkeyed.withPrelude
  · intro id shape hget target href
    exact isSome_of_unresolved_eq_none (hnone id shape hget) (.inl href)
  · intro id shape hget owner howner
    exact isSome_of_unresolved_eq_none (hnone id shape hget) (.inr howner)

theorem IsBuilt.wellFormed (hmodel : IsBuilt model) : WellFormed model := by
  obtain ⟨shapes, hbuild⟩ := hmodel
  exact wellFormed_of_build (keyed_ofList shapes) hbuild

/-- Normalizing puts shapes into the draft of the model. -/
lemma exists_changes_of_normalize {normal : Model} (hnormal : model.normalize = .ok normal) :
    ∃ changes : List Shape, (changes.foldl Draft.insert model.toDraft).build = .ok normal := by
  unfold Model.normalize at hnormal
  cases hchanges : model.toList.mapM model.normalizeOperation with
  | error e => simp [hchanges, bind, Except.bind] at hnormal
  | ok changes =>
    refine ⟨changes.flatten, ?_⟩
    simpa [hchanges, bind, Except.bind] using hnormal

/-- Normalizing a well-formed model leaves it well formed. -/
theorem WellFormed.normalize (hmodel : WellFormed model) {normal : Model}
    (hnormal : model.normalize = .ok normal) :
    WellFormed normal := by
  obtain ⟨changes, hbuild⟩ := exists_changes_of_normalize hnormal
  exact wellFormed_of_build (keyed_foldl_insert model.toDraft hmodel.keyed changes) hbuild

/-- Changing the shapes of a model one by one leaves it well formed. -/
theorem wellFormed_of_map {draft : Draft} {f : Shape → Shape}
    (hbuild : (draft.map f).build = .ok model) :
    WellFormed model :=
  wellFormed_of_build (keyed_ofList _) hbuild

end SdkForge.Model
