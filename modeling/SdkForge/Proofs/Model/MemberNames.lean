import SdkForge.Proofs.Model.Staging
import SdkForge.Proofs.Pipeline

/-!
# Names of members

A structure or union that was read from a text names none of its members twice, since a document has
no key twice. What the phases of a run do to its model keeps this.

* `Model.NamesOnce` says so of a model, and `namesOnce_of_ofText` that it holds of what is read.
* `NamesOnce.transform` and `NamesOnce.normalize` say that changes of the model keep it.
* `namesOnce_of_compile` says that it still holds after a finished run of the command.
-/

namespace SdkForge

open Outcome

/-- The names of the members of a structure or union. -/
def Shape.memberNames (shape : Shape) : List String := shape.members.map (·.lastName)

namespace Model

variable {model : Model} {shape : Shape}

/-- No structure or union of the model names a member twice. -/
def NamesOnce (model : Model) : Prop :=
  ∀ id shape, model.get? id = some shape → shape.memberNames.Nodup

lemma nodup_memberNames_of_mem_prelude (h : shape ∈ prelude) : shape.memberNames.Nodup := by
  have hplain : ∀ shape ∈ prelude, shape.members = [] := by decide
  rw [Shape.memberNames, hplain shape h]
  exact List.nodup_nil

/-! ## Models that are read -/

/-- What lists members as its parts names these, and anything else names none. -/
lemma memberNames_sublist (shape : Shape) :
    shape.memberNames.Sublist (shape.parts.map (·.lastName)) := by
  obtain ⟨id, traits, body⟩ := shape
  cases body with
  | record members | union members => exact List.Sublist.refl _
  | _ => exact List.nil_sublist _

/-- A shape of an entry has the names of the entry's parts, or none. -/
lemma nodup_memberNames_of_makes {document : Document} (hdistinct : document.Distinct)
    (hmakes : document.Makes shape) :
    shape.memberNames.Nodup := by
  obtain ⟨entry, hentry, shapes, hread, hmem⟩ := hmakes
  obtain ⟨id, members, own, hdescribes, rfl⟩ := Document.exists_describes hread
  rcases hdescribes.eq_or_exists_part hmem with rfl | ⟨part, _, hpart, _⟩
  · refine List.Nodup.sublist (memberNames_sublist shape) ?_
    have hnames : shape.parts.map (·.lastName) = entry.2.parts.map (·.1) := by
      rw [hdescribes.parts_eq, List.map_map]
      refine map_eq_of_mapM_eq_ok (fun part member hmember => ?_) hdescribes.members_read
      obtain ⟨_, _, _, _, rfl⟩ := Document.readMember_eq_ok hmember
      rfl
    rw [hnames]
    exact ShapeEntry.nodup_parts (hdistinct.members entry hentry)
  · obtain ⟨_, _, _, _, rfl⟩ := Document.readMember_eq_ok hpart
    exact List.nodup_nil

/-- What is read from a text names no member twice. -/
theorem namesOnce_of_ofText {text : String} (h : ofText text = .ok model) : model.NamesOnce := by
  obtain ⟨document, draft, hdocument, hdraft, hbuild⟩ := exists_of_ofText h
  obtain ⟨json, _, hjson⟩ := Option.bind_eq_some_iff.1 hdocument
  obtain ⟨shapes, rfl, hshapes, _⟩ := Document.exists_of_draft hdraft
  intro id shape hget
  rcases mem_or_mem_prelude_of_build hbuild hget with ⟨hmem, _⟩ | hprelude
  · exact nodup_memberNames_of_makes (Document.distinct_of_ofJson? hjson) ((hshapes shape).1 hmem)
  · exact nodup_memberNames_of_mem_prelude hprelude

/-! ## Models that are changed -/

/-- A change of shapes that keeps members keeps their names. -/
lemma NamesOnce.map (h : model.NamesOnce) {changed : Model} {f : Shape → Shape}
    (hmembers : ∀ shape, (f shape).memberNames = shape.memberNames)
    (hbuild : (model.toDraft.map f).build = .ok changed) :
    changed.NamesOnce := by
  intro id shape hget
  rcases mem_or_mem_prelude_of_build hbuild hget with ⟨hmapped, _⟩ | hprelude
  · obtain ⟨original, horiginal, rfl⟩ := List.mem_map.1 hmapped
    obtain ⟨key, hkey⟩ := OrderedMap.mem_values.1 horiginal
    rw [hmembers]
    exact h key original hkey
  · exact nodup_memberNames_of_mem_prelude hprelude

/-- The decorators that come along keep the names of members. -/
theorem NamesOnce.transform {d : DecoratorSet} {enabled : Option (List String)} {service : ShapeId}
    {changed : Model} (hselect : DecoratorSet.select enabled = .ok d) (h : model.NamesOnce)
    (htransform : d.transform service model = .ok changed) : changed.NamesOnce := by
  have hmembers : ∀ shape, (Decorator.allowFreeRoot shape).memberNames = shape.memberNames := by
    intro shape
    unfold Decorator.allowFreeRoot
    split <;> rfl
  exact DecoratorSet.transform_induction hselect h (fun _ _ hbetween => hbetween.map hmembers)
    htransform

variable {e : Envelope} {operation : Shape}

/-- An envelope has members of the names of the source's members, those that can be copied. -/
lemma memberNames_record_sublist :
    (e.record model operation).memberNames.Sublist
      ((e.sourceMembers model operation).map (·.lastName)) := by
  show ((e.copies model operation).map (·.id)).map (·.lastName) |>.Sublist _
  rw [List.map_map, Envelope.copies]
  induction e.sourceMembers model operation with
  | nil => exact List.Sublist.refl _
  | cons id rest ih =>
    rw [List.map_cons, List.filterMap_cons]
    split
    · exact ih.cons _
    · next copy hcopy =>
      obtain ⟨member, _, hmember⟩ := Option.bind_eq_some_iff.1 hcopy
      obtain ⟨target, _, rfl⟩ := Option.map_eq_some_iff.1 hmember
      exact ih.cons_cons _

lemma NamesOnce.nodup_sourceMembers (h : model.NamesOnce) :
    ((e.sourceMembers model operation).map (·.lastName)).Nodup := by
  unfold Envelope.sourceMembers
  cases hsource : e.source? model operation with
  | none => exact List.nodup_nil
  | some source =>
    obtain ⟨id, _, hget⟩ := Envelope.source?_eq_some.1 hsource
    exact h id source hget

lemma memberNames_wrapped (model : Model) (operation : Shape) :
    (model.wrapped operation).memberNames = operation.memberNames := by
  obtain ⟨id, traits, body⟩ := operation
  cases body <;> rfl

/-- What is written for an operation names no member twice. -/
lemma NamesOnce.nodup_of_mem_written (h : model.NamesOnce) (hmodel : model.WellFormed)
    (hmem : shape ∈ model.written) :
    shape.memberNames.Nodup := by
  obtain ⟨operation, hget, _, ⟨e, hmade⟩ | rfl⟩ := (mem_written_iff hmodel).1 hmem
  · obtain ⟨_, hcopy | rfl⟩ := Envelope.mem_made_iff.1 hmade
    · obtain ⟨_, _, _, _, _, _, rfl⟩ := Envelope.mem_copies_iff.1 hcopy
      exact List.nodup_nil
    · exact List.Nodup.sublist memberNames_record_sublist h.nodup_sourceMembers
  · rw [memberNames_wrapped]
    exact h operation.id operation hget

/-- Normalization keeps the names of members. -/
theorem NamesOnce.normalize (h : model.NamesOnce) (hmodel : model.WellFormed)
    (hprelude : HasPrelude model.shapes) {normal : Model} (hnormal : model.normalize = .ok normal) :
    normal.NamesOnce := by
  intro id shape hget
  rw [get?_of_normalize hmodel hprelude hnormal, Option.or_eq_some_iff] at hget
  rcases hget with hlast | ⟨_, hold⟩
  · exact h.nodup_of_mem_written hmodel (mem_written_of_lastWritten? hlast).1
  · exact h id shape hold

end Model

/-! ## Finished runs -/

lemma namesOnce_of_transformModel {d : DecoratorSet} {enabled : Option (List String)} {p : Project}
    {model : Model} (hselect : DecoratorSet.select enabled = .ok d) (hmodel : p.model.IsBuilt)
    (hnames : p.model.NamesOnce) (h : Phase.transformModel d p = .ok model) : model.NamesOnce := by
  simp only [Phase.transformModel, bind_eq_ok, pure_eq_ok, Fault.ofModel_eq_ok] at h
  obtain ⟨adapted, hadapted, normal, hnormal, _, _, rfl⟩ := h
  exact (hnames.transform hselect hadapted).normalize (hmodel.wellFormed.transform hselect hadapted)
    (Model.HasPrelude.transform hselect hmodel.hasPrelude hadapted) hnormal

/-- A finished run of the command names no member twice if the model that it was given does not. -/
theorem namesOnce_of_compile {i : Command.Input} {denyWarnings : Bool} {d : DecoratorSet}
    {c : Compilation} (hmodel : i.model.IsBuilt) (hnames : i.model.NamesOnce)
    (h : i.compile denyWarnings = .ok (d, c)) :
    c.project.model.NamesOnce := by
  obtain ⟨hselect, model, _, htransform, _, _, hproject⟩ := phases_of_compile h
  rw [hproject]
  exact namesOnce_of_transformModel hselect hmodel hnames htransform

end SdkForge
