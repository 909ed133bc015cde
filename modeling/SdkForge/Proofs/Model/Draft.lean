import Mathlib.Data.List.Nodup
import SdkForge.Proofs.Model.WellFormed

/-!
# What a draft holds

Shapes go into a draft one after the other. Of those with one id the last counts, and a draft in
which every reference leads to a shape gives a model.

* `Draft.get?_foldl_insert` says what stands at an id after shapes were put in, and
  `Draft.get?_withPrelude` after the prelude was.
* `Draft.build_of_resolved` says when a draft that has the prelude gives a model, and
  `IsBuilt.hasPrelude` that models have it.
* `ext_get?` says that two models with the same shapes are one.
-/

namespace SdkForge

/-- Two maps in which the same is found are equal. -/
theorem OrderedMap.ext_get? {κ ν : Type} [Ord κ] [Std.TransOrd κ] [Std.LawfulEqOrd κ]
    {a b : OrderedMap κ ν} (h : ∀ key, a.get? key = b.get? key) : a = b := by
  have hnodup : ∀ m : OrderedMap κ ν, m.entries.Nodup := fun m => List.Nodup.of_map _ m.nodup_keys
  have hmem : ∀ entry, entry ∈ a.entries ↔ entry ∈ b.entries := by
    intro entry
    have hfound : entry ∈ a.entries ↔ a.get? entry.1 = some entry.2 :=
      OrderedMap.get?_eq_some_iff.symm
    rw [hfound, h, OrderedMap.get?_eq_some_iff]
  -- both lists are sorted, and sorting leaves one order only
  have hentries : a.entries = b.entries := by
    refine ((List.perm_ext_iff_of_nodup (hnodup a) (hnodup b)).2 hmem).eq_of_pairwise ?_
      a.sorted b.sorted
    intro x y _ _ hxy hyx
    have hswap : compare x.1 y.1 = (compare y.1 x.1).swap := Std.OrientedCmp.eq_swap
    rw [hswap, hyx] at hxy
    contradiction
  cases a
  cases b
  congr

namespace Model

/-- Two models with the same shapes are equal. -/
lemma ext_get? {a b : Model} (h : ∀ id, a.get? id = b.get? id) : a = b := by
  cases a
  cases b
  congr
  exact OrderedMap.ext_get? h

/-! ## Shapes that were put in -/

namespace Draft

/-- After shapes were put in, the last with an id stands there, or what stood there before if none
has it. -/
lemma get?_foldl_insert (draft : Draft) (shapes : List Shape) (id : ShapeId) :
    (shapes.foldl insert draft).get? id = ((shapes.filter (·.id = id)).getLast?).or
      (draft.get? id) := by
  induction shapes generalizing draft with
  | nil => simp
  | cons shape rest ih =>
    have hinsert : (draft.insert shape).get? id = if id = shape.id then some shape
        else draft.get? id :=
      OrderedMap.get?_insert draft.shapes shape.id id shape
    rw [List.foldl_cons, ih, hinsert, List.filter_cons]
    by_cases heq : shape.id = id
    · rw [if_pos heq.symm, if_pos (by simpa using heq), List.getLast?_cons]
      cases (rest.filter (·.id = id)).getLast? <;> simp
    · rw [if_neg (Ne.symm heq), if_neg (by simpa using heq)]

lemma mem_of_get?_ofList {shapes : List Shape} {id : ShapeId} {shape : Shape}
    (h : (ofList shapes).get? id = some shape) :
    shape ∈ shapes ∧ shape.id = id := by
  rw [ofList, get?_foldl_insert, show ({} : Draft).get? id = none from OrderedMap.get?_empty id,
    Option.or_none] at h
  simpa using List.mem_of_getLast? h

end Draft

/-! ## The prelude -/

/-- Every shape of the prelude, or one in its place, is there. -/
def HasPrelude (shapes : OrderedMap ShapeId Shape) : Prop :=
  ∀ shape ∈ prelude, (shapes.get? shape.id).isSome

namespace Draft

variable {shapes : OrderedMap ShapeId Shape}

/-- Adding shapes where there is none keeps what is there, and finds the first one added
elsewhere. -/
lemma get?_foldl_unless_contains (added : List Shape) (id : ShapeId) :
    (added.foldl (fun m shape => if m.contains shape.id then m
      else m.insert shape.id shape) shapes).get? id =
        (shapes.get? id).or (added.find? (·.id = id)) := by
  induction added generalizing shapes with
  | nil => simp
  | cons shape rest ih =>
    rw [List.foldl_cons, ih, List.find?_cons]
    by_cases hcontains : shapes.contains shape.id = true
    · rw [if_pos hcontains]
      by_cases heq : shape.id = id
      · obtain ⟨found, hfound⟩ := Option.isSome_iff_exists.1 hcontains
        simp [← heq, hfound]
      · simp [heq]
    · rw [if_neg hcontains, OrderedMap.get?_insert]
      have hnone : shapes.get? shape.id = none := by
        simpa [OrderedMap.contains] using hcontains
      by_cases heq : shape.id = id
      · simp [← heq, hnone]
      · simp [heq, Ne.symm heq]

/-- A shape of the prelude is found where there is no other one. -/
lemma get?_withPrelude (shapes : OrderedMap ShapeId Shape) (id : ShapeId) :
    (withPrelude shapes).get? id = (shapes.get? id).or (prelude.find? (·.id = id)) :=
  get?_foldl_unless_contains prelude id

/-- Where the prelude is there already, nothing is added. -/
lemma withPrelude_of_hasPrelude (h : HasPrelude shapes) : withPrelude shapes = shapes := by
  refine OrderedMap.ext_get? fun id => ?_
  rw [get?_withPrelude]
  cases hget : shapes.get? id with
  | some shape => rfl
  | none =>
    rw [Option.none_or, List.find?_eq_none]
    intro shape hmem heq
    have hsome := h shape hmem
    rw [of_decide_eq_true heq, hget] at hsome
    contradiction

lemma hasPrelude_withPrelude (shapes : OrderedMap ShapeId Shape) :
    HasPrelude (withPrelude shapes) := by
  intro shape hmem
  have hfound : (prelude.find? (·.id = shape.id)).isSome :=
    List.find?_isSome.2 ⟨shape, hmem, by simp⟩
  rw [get?_withPrelude, Option.isSome_or, hfound, Bool.or_true]

/-- Nothing but the prelude is added. -/
lemma get?_or_mem_prelude {id : ShapeId} {shape : Shape}
    (h : (withPrelude shapes).get? id = some shape) :
    shapes.get? id = some shape ∨ shape ∈ prelude := by
  rw [get?_withPrelude, Option.or_eq_some_iff] at h
  rcases h with hfound | ⟨_, hfound⟩
  · exact .inl hfound
  · exact .inr (List.mem_of_find?_eq_some hfound)

end Draft

lemma hasPrelude_of_build {model : Model} {draft : Draft} (hbuild : draft.build = .ok model) :
    HasPrelude model.shapes := by
  rw [(build_eq_ok hbuild).1]
  exact Draft.hasPrelude_withPrelude draft.shapes

lemma IsBuilt.hasPrelude {model : Model} (hmodel : IsBuilt model) : HasPrelude model.shapes := by
  obtain ⟨shapes, hbuild⟩ := hmodel
  exact hasPrelude_of_build hbuild

/-- The shapes of a model are those of its draft, and some of the prelude. -/
lemma mem_or_mem_prelude_of_build {model : Model} {shapes : List Shape}
    (hbuild : (Draft.ofList shapes).build = .ok model) {id : ShapeId} {shape : Shape}
    (hget : model.get? id = some shape) : shape ∈ shapes ∧ shape.id = id ∨ shape ∈ prelude := by
  rw [get?, (build_eq_ok hbuild).1] at hget
  exact (Draft.get?_or_mem_prelude hget).imp_left Draft.mem_of_get?_ofList

/-! ## Drafts that give a model -/

/-- A draft that has the prelude gives the model of its shapes, if every reference leads to one of
them. -/
theorem Draft.build_of_resolved {draft : Draft} (hprelude : HasPrelude draft.shapes)
    (hresolved : ∀ shape ∈ draft.shapes.values, ∀ target, target ∈ shape.references ∨
      target ∈ shape.container? →
      (draft.shapes.get? target).isSome) : draft.build = .ok ⟨draft.shapes⟩ := by
  unfold build
  rw [withPrelude_of_hasPrelude hprelude]
  have hnone : draft.shapes.values.findSome? (unresolved draft.shapes) = none := by
    rw [List.findSome?_eq_none_iff]
    intro shape hmem
    have hfind : (shape.references ++ shape.container?.toList).find? (!draft.shapes.contains ·) =
        none := by
      rw [List.find?_eq_none]
      intro target htarget
      have hsome := hresolved shape hmem target (by simpa using htarget)
      simpa [OrderedMap.contains, Option.isSome_iff_ne_none] using hsome
    rw [unresolved, hfind, Option.map_none]
  simp only [hnone, Option.elim_none]

end Model

end SdkForge
