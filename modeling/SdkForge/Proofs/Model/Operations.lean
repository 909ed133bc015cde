import SdkForge.Proofs.Model.Repeated

/-!
# The operations of services

An operation can be in several services. `ids_of_operations` says which operations a service has,
`Owns` that a service has an operation, and `OwnsFirst` that no service with a smaller id has it
too. `AddsNoOperation` says that a changed model has no operation where there was none.
-/

namespace SdkForge.Model

open Outcome

variable {model : Model} {service shape : Shape} {id : ShapeId} {operations : List Shape}

lemma expectKind_eq_ok {kind : ShapeKind} :
    model.expectKind id kind = .ok shape ↔ model.get? id = some shape ∧ shape.kind = kind := by
  simp only [expectKind, bind_eq_ok, expect_eq_ok]
  constructor
  · rintro ⟨found, hget, h⟩
    split at h
    · obtain rfl := pure_eq_ok.1 h
      exact ⟨hget, ‹_›⟩
    · contradiction
  · rintro ⟨hget, hkind⟩
    exact ⟨shape, hget, by rw [if_pos hkind]; rfl⟩

/-! ## The operations of a service -/

/-- The operations of a service are those that it refers to, each once. -/
theorem ids_of_operations (hmodel : model.WellFormed)
    (hservice : model.expectKind id .service = .ok service)
    (h : model.operations id = .ok operations) :
    operations.map (·.id) = (OrderedMap.ofList (service.references.map (·, ()))).keys := by
  rw [Model.operations, bind_eq_ok] at h
  obtain ⟨found, hfound, h⟩ := h
  obtain rfl := Except.ok.inj (hfound.symm.trans hservice)
  have hids :=
    map_eq_of_mapM_eq_ok (fun _ _ hoperation => hmodel.id_eq (expectKind_eq_ok.1 hoperation).1) h
  rwa [List.map_id'] at hids

lemma mem_ids_of_operations (hmodel : model.WellFormed)
    (hservice : model.expectKind id .service = .ok service)
    (h : model.operations id = .ok operations) {operation : ShapeId} :
    operation ∈ operations.map (·.id) ↔ operation ∈ service.references := by
  rw [ids_of_operations hmodel hservice h, OrderedMap.mem_keys_ofList, List.map_map]
  simp

/-- The operations of a service are operations of the model. -/
lemma get?_of_mem_operations (hmodel : model.WellFormed) (h : model.operations id = .ok operations)
    (hmem : shape ∈ operations) : model.get? shape.id = some shape ∧ shape.isOperation = true := by
  simp only [Model.operations, bind_eq_ok] at h
  obtain ⟨_, _, h⟩ := h
  obtain ⟨key, _, hkey⟩ := exists_of_mem_mapM h hmem
  obtain ⟨hget, hkind⟩ := expectKind_eq_ok.1 hkey
  exact ⟨hmodel.get?_id hget, decide_eq_true hkind⟩

/-! ## The services of an operation -/

/-- A service of the model has the operation. -/
structure Owns (model : Model) (owner : Shape) (operation : ShapeId) : Prop where
  get?_eq : model.get? owner.id = some owner
  isService : owner.kind = .service
  mem : operation ∈ owner.references

/-- A service has the operation, and none with a smaller id has it. -/
structure OwnsFirst (model : Model) (owner : Shape) (operation : ShapeId) :
    Prop extends model.Owns owner operation where
  least : ∀ other, model.Owns other operation → compare other.id owner.id ≠ .lt

variable {owner other : Shape} {operation : ShapeId}

lemma owns_of_mem (hmodel : model.WellFormed)
    (hservice : model.expectKind id .service = .ok service)
    (hmem : operation ∈ service.references) : model.Owns service operation :=
  ⟨hmodel.get?_id (expectKind_eq_ok.1 hservice).1, (expectKind_eq_ok.1 hservice).2, hmem⟩

/-- There is one first service at most. -/
lemma OwnsFirst.unique (h : model.OwnsFirst owner operation)
    (hother : model.OwnsFirst other operation) : owner = other := by
  have hid : owner.id = other.id := by
    cases hcompare : compare owner.id other.id with
    | lt => exact absurd hcompare (hother.least owner h.toOwns)
    | eq => exact Std.LawfulEqCmp.eq_of_compare hcompare
    | gt => exact absurd (Std.OrientedCmp.lt_of_gt hcompare) (h.least other hother.toOwns)
  exact Option.some.inj (h.get?_eq.symm.trans (hid ▸ hother.get?_eq))

/-- Going through the services by their ids finds the first one that has an operation. -/
theorem exists_ownsFirst (hmodel : model.WellFormed) (h : model.Owns service operation) :
    ∃ owner, model.OwnsFirst owner operation ∧
      model.toList.find? (fun shape => shape.kind = .service ∧ operation ∈ shape.references) =
        some owner := by
  have hmem : ∀ {shape}, model.Owns shape operation → shape ∈ model.toList :=
    fun h => (mem_toList_iff hmodel).2 h.get?_eq
  cases hfind : model.toList.find? fun shape => shape.kind = .service ∧
    operation ∈ shape.references with
  | none =>
    have hnone : ¬(service.kind = .service ∧ operation ∈ service.references) := by
      simpa using List.find?_eq_none.1 hfind service (hmem h)
    exact absurd ⟨h.isService, h.mem⟩ hnone
  | some owner =>
    obtain ⟨howner, before, after, hsplit, hbefore⟩ := List.find?_eq_some_iff_append.1 hfind
    have hget : owner ∈ model.toList := List.mem_of_find?_eq_some hfind
    simp only [decide_eq_true_eq] at howner
    refine ⟨owner, ⟨⟨(mem_toList_iff hmodel).1 hget, howner.1, howner.2⟩,
      fun other hother hlt => ?_⟩, rfl⟩
    -- a service with a smaller id stands before the one that is found
    have hsorted := pairwise_toList hmodel
    have hlist := hmem hother
    rw [hsplit] at hsorted hlist
    rcases List.mem_append.1 hlist with hlist | hlist
    · simpa [hother.isService, hother.mem] using hbefore other hlist
    · rcases List.mem_cons.1 hlist with rfl | hlist
      · simp [Std.ReflCmp.compare_self] at hlt
      · have hgt : compare owner.id other.id = .lt :=
          (List.pairwise_cons.1 (List.pairwise_append.1 hsorted).2.1).1 other hlist
        rw [Std.OrientedCmp.gt_of_lt hgt] at hlt
        contradiction

/-! ## The operations of a changed model -/

/-- Where the changed model has an operation, the model has one. -/
def AddsNoOperation (model changed : Model) : Prop :=
  ∀ id shape, changed.get? id = some shape → shape.isOperation = true →
    ∃ operation, model.get? id = some operation ∧ operation.isOperation = true

lemma AddsNoOperation.refl (model : Model) : AddsNoOperation model model :=
  fun _ shape hget hshape => ⟨shape, hget, hshape⟩

lemma AddsNoOperation.trans {changed again : Model} (h : AddsNoOperation model changed)
    (hagain : AddsNoOperation changed again) :
    AddsNoOperation model again := by
  intro id shape hget hshape
  obtain ⟨operation, hfound, hoperation⟩ := hagain id shape hget hshape
  exact h id operation hfound hoperation

/-- A change of shapes that keeps ids and operations adds none, and nor does the prelude. -/
lemma addsNoOperation_of_map (hmodel : model.WellFormed) {changed : Model} {f : Shape → Shape}
    (hid : ∀ shape, (f shape).id = shape.id)
    (hkind : ∀ shape, (f shape).isOperation = shape.isOperation)
    (hbuild : (model.toDraft.map f).build = .ok changed) : AddsNoOperation model changed := by
  intro id shape hget hshape
  rcases mem_or_mem_prelude_of_build hbuild hget with ⟨hmapped, rfl⟩ | hprelude
  · obtain ⟨original, horiginal, rfl⟩ := List.mem_map.1 hmapped
    obtain ⟨key, hkey⟩ := OrderedMap.mem_values.1 horiginal
    rw [hid]
    exact ⟨original, hmodel.get?_id hkey, hkind original ▸ hshape⟩
  · have hplain : ∀ shape ∈ prelude, shape.isOperation = false := by
      decide
    simp [hplain shape hprelude] at hshape

lemma addsNoOperation_of_normalize (hmodel : model.WellFormed) (hprelude : HasPrelude model.shapes)
    {normal : Model} (hnormal : model.normalize = .ok normal) : AddsNoOperation model normal := by
  intro id shape hget hshape
  obtain ⟨operation, _, hfound, hoperation, _⟩ :=
    isOperation_of_normalize hmodel hprelude hnormal hget hshape
  exact ⟨operation, hfound, hoperation⟩

end SdkForge.Model
