import SdkForge.Proofs.Model.Envelope

/-!
# What normalization overwrites

Envelopes and the copies of members go to ids that are made of the operation's id. Nothing keeps
other shapes away from these ids, and a shape that stands there gives way.

* `Reserves` says, by the model alone, that normalization writes a part of an envelope to an id.
* `kept_iff_not_reserved` says that exactly the shapes at other ids are kept, and those that are
  what is written.
* `not_kept_of_beside_in_synthetic` shows a structure that gives way to an envelope.
-/

namespace SdkForge

open Outcome

/-- The shape carries a mark that normalization puts on what it makes. -/
def Shape.isStamped (shape : Shape) : Bool :=
  shape.traits.isSynthetic || shape.traits.refactoredFrom.isSome

namespace Envelope

variable {model : Model} {operation shape : Shape} {e : Envelope}

lemma isWrapped_eq_false_iff :
    e.isWrapped model operation = false ↔ ∀ source ∈ e.source? model operation,
    marks source.traits e = false := by
  unfold isWrapped
  cases e.source? model operation <;> simp

lemma mem_sourceMembers_iff {id : ShapeId} :
    id ∈ e.sourceMembers model operation ↔ ∃ source ∈ e.source? model operation,
    id ∈ source.members := by
  unfold sourceMembers
  cases e.source? model operation <;> simp

/-- Every part of an envelope is marked as one. -/
lemma isStamped_of_mem_made (h : shape ∈ e.made model operation) : shape.isStamped = true := by
  rcases (mem_made_iff.1 h).2 with hcopy | rfl
  · obtain ⟨id, _, member, target, _, _, rfl⟩ := mem_copies_iff.1 hcopy
    simp [Shape.isStamped, Traits.insert]
  · have hmarks : marks (e.record model operation).traits e = true := (marks_record e e).2 rfl
    cases e <;> simp_all [Shape.isStamped, Traits.isSynthetic, marks]

end Envelope

namespace Model

variable {model : Model}

/-- Normalization writes to the id: an operation that lacks an envelope gets it there, or a member
of what the operation names is copied to it. -/
def Reserves (model : Model) (id : ShapeId) : Prop :=
  ∃ (operation : Shape) (e : Envelope), model.get? operation.id = some operation ∧
    operation.isOperation = true ∧
    (∀ source ∈ e.source? model operation, Envelope.marks source.traits e = false) ∧
    (id = e.id operation.id ∨
      ∃ source ∈ e.source? model operation, ∃ m ∈ source.members, ∃ member ∈ model.get? m,
      member.isMember = true ∧
        id = (e.id operation.id).withMember m.lastName)

/-- The reserved ids are those of the parts of envelopes. -/
lemma reserves_iff {id : ShapeId} :
    model.Reserves id ↔ ∃ (operation : Shape) (e : Envelope) (shape : Shape),
    model.get? operation.id = some operation ∧ operation.isOperation = true ∧
    shape ∈ e.made model operation ∧
      shape.id = id := by
  constructor
  · rintro ⟨operation, e, hget, hoperation, hbare,
      rfl | ⟨source, hsource, m, hm, member, hmember, hisMember, rfl⟩⟩
    · refine ⟨operation, e, e.record model operation, hget, hoperation, ?_, rfl⟩
      exact Envelope.record_mem_made (Envelope.isWrapped_eq_false_iff.2 hbare)
    · obtain ⟨target, htarget⟩ := Shape.isMember_iff.1 hisMember
      have hcopy :=
        Envelope.mem_copies_iff.2 ⟨m, Envelope.mem_sourceMembers_iff.2 ⟨source, hsource, hm⟩,
          member, target,
        hmember, htarget, rfl⟩
      refine ⟨operation, e, _, hget, hoperation, Envelope.mem_made_iff.2 ⟨?_, .inl hcopy⟩, rfl⟩
      exact Envelope.isWrapped_eq_false_iff.2 hbare
  · rintro ⟨operation, e, shape, hget, hoperation, hmade, rfl⟩
    obtain ⟨hbare, hcopy | rfl⟩ := Envelope.mem_made_iff.1 hmade
    · obtain ⟨m, hm, member, target, hmember, htarget, rfl⟩ := Envelope.mem_copies_iff.1 hcopy
      obtain ⟨source, hsource, hmem⟩ := Envelope.mem_sourceMembers_iff.1 hm
      have hisMember : member.isMember = true := Shape.isMember_iff.2 ⟨target, htarget⟩
      exact ⟨operation, e, hget, hoperation, Envelope.isWrapped_eq_false_iff.1 hbare,
        .inr ⟨source, hsource, m, hmem, member, hmember, hisMember, rfl⟩⟩
    · exact ⟨operation, e, hget, hoperation, Envelope.isWrapped_eq_false_iff.1 hbare, .inl rfl⟩

/-- All reserved ids are in the namespaces of envelopes. -/
lemma ns_of_reserves {id : ShapeId} (h : model.Reserves id) :
    Envelope.namespaceEnding.toList <:+ id.ns.toList := by
  obtain ⟨operation, e, shape, _, _, hmade, rfl⟩ := reserves_iff.1 h
  rw [Envelope.ns_of_mem_made hmade, String.toList_append]
  exact List.suffix_append _ _

/-- A reserved id at which no operation stands is written to, and what is written bears a mark. -/
lemma exists_lastWritten?_iff (hmodel : model.WellFormed) {id : ShapeId}
    (hplain : ∀ other, model.get? id = some other → other.isOperation = false) :
    (∃ shape, model.lastWritten? id = some shape) ↔ model.Reserves id := by
  constructor
  · rintro ⟨shape, hlast⟩
    obtain ⟨operation, e, hget, hoperation, hmade, hid⟩ :=
      exists_made_of_lastWritten? hmodel hlast hplain
    exact reserves_iff.2 ⟨operation, e, shape, hget, hoperation, hmade, hid⟩
  · intro hreserved
    obtain ⟨operation, e, shape, hget, hoperation, hmade, hid⟩ := reserves_iff.1 hreserved
    rw [← Option.isSome_iff_exists, Option.isSome_iff_ne_none, ne_eq, lastWritten?_eq_none_iff]
    intro hnone
    exact hnone shape ((mem_written_iff hmodel).2 ⟨operation, hget, hoperation, .inl ⟨e, hmade⟩⟩)
      hid

/-- A shape other than an operation is kept exactly if its id is not reserved, or the shape is what
is written last to its id, which no shape without a mark is. -/
theorem kept_iff_not_reserved (hmodel : model.IsBuilt) : ∃ normal, model.normalize = .ok normal ∧
    ∀ id shape, model.get? id = some shape → shape.isOperation = false →
      (normal.get? id = some shape ↔ ¬model.Reserves id ∨ model.lastWritten? id = some shape) ∧
      (shape.isStamped = false → model.lastWritten? id ≠ some shape) := by
  obtain ⟨normal, hnormal, hview⟩ := exists_normalize hmodel.wellFormed hmodel.hasPrelude
  refine ⟨normal, hnormal, fun id shape hget hshape => ?_⟩
  have hplain : ∀ other, model.get? id = some other → other.isOperation = false := by
    intro other hother
    obtain rfl := Option.some.inj (hget.symm.trans hother)
    exact hshape
  constructor
  · rw [hview, ← exists_lastWritten?_iff hmodel.wellFormed hplain]
    cases hlast : model.lastWritten? id with
    | none => simp [hget]
    | some made => simp
  · intro hunmarked hlast
    obtain ⟨operation, e, _, _, hmade, _⟩ :=
      exists_made_of_lastWritten? hmodel.wellFormed hlast hplain
    simp [Envelope.isStamped_of_mem_made hmade] at hunmarked

/-! ## A structure beside an operation -/

/-- A structure with a documentation. -/
def documented (id : ShapeId) : Shape :=
  { id, traits := ({} : Traits).insert (.documentation "mine"), body := .record [] }

/-- An operation without input, and such a structure. -/
def beside (id : ShapeId) : List Shape :=
  [{ id := ⟨"ex", "Op", none⟩, body := .operation none none [] }, documented id]

/-- The model of such shapes. -/
def ofShapes (shapes : List Shape) : Model := (Draft.ofList shapes).build.toOption.getD {}

/-- A structure in the namespace of the operation is kept. -/
theorem kept_of_beside :
    ∃ normal, (ofShapes (beside ⟨"ex", "OpInput", none⟩)).normalize = .ok normal ∧
    normal.get? ⟨"ex", "OpInput", none⟩ = some (documented ⟨"ex", "OpInput", none⟩) := by
  have hbuild : (Draft.ofList (beside ⟨"ex", "OpInput", none⟩)).build.toOption.isSome = true := by
    decide +kernel
  have hget : (ofShapes (beside ⟨"ex", "OpInput", none⟩)).get? ⟨"ex", "OpInput", none⟩ =
      some (documented ⟨"ex", "OpInput", none⟩) := by
    decide +kernel
  obtain ⟨normal, hnormal, hkept⟩ := kept_iff_not_reserved (isBuilt_of_isSome hbuild)
  refine ⟨normal, hnormal, (hkept _ _ hget rfl).1.2 (.inl fun hreserved => ?_)⟩
  exact absurd (ns_of_reserves hreserved) (by decide)

/-- A structure where the envelope of the input goes is not kept. -/
theorem not_kept_of_beside_in_synthetic :
    IsBuilt (ofShapes (beside ⟨"ex.synthetic", "OpInput", none⟩)) ∧
    (ofShapes (beside ⟨"ex.synthetic", "OpInput", none⟩)).get? ⟨"ex.synthetic", "OpInput", none⟩ =
      some (documented ⟨"ex.synthetic", "OpInput", none⟩) ∧
    ∃ normal, (ofShapes (beside ⟨"ex.synthetic", "OpInput", none⟩)).normalize = .ok normal ∧
      normal.get? ⟨"ex.synthetic", "OpInput", none⟩ ≠
        some (documented ⟨"ex.synthetic", "OpInput", none⟩) := by
  have hfacts :
      (Draft.ofList (beside ⟨"ex.synthetic", "OpInput", none⟩)).build.toOption.isSome = true ∧
      (ofShapes (beside ⟨"ex.synthetic", "OpInput", none⟩)).get? ⟨"ex.synthetic", "OpInput", none⟩ =
        some (documented ⟨"ex.synthetic", "OpInput", none⟩) ∧
      ((ofShapes (beside ⟨"ex.synthetic", "OpInput", none⟩)).normalize.toOption.any fun normal =>
        normal.get? ⟨"ex.synthetic", "OpInput", none⟩ !=
          some (documented ⟨"ex.synthetic", "OpInput", none⟩)) = true := by
    decide +kernel
  obtain ⟨hbuild, hget, hnormal⟩ := hfacts
  obtain ⟨normal, hnormal, hne⟩ := (Option.any_eq_true _ _).1 hnormal
  exact ⟨isBuilt_of_isSome hbuild, hget, normal, toOption_eq_some.1 hnormal, bne_iff_ne.1 hne⟩

end Model

end SdkForge
