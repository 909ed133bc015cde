import Mathlib.Data.String.Basic
import SdkForge.Proofs.Model.Draft
import SdkForge.Proofs.Outcome

/-!
# What normalization writes

Normalization reads one model and writes into another one: for every operation the envelopes that it
lacks, each with copies of members, and the operation itself.

* `Model.normalize_eq` says that what is written is `Model.written`, and `Envelope.mem_made_iff`
  what an envelope is made of.
* `Model.exists_normalize` says that normalization goes well, and what stands where afterwards.
* `Model.lastWritten?_of_operation` says that an operation is what stays at its id, and
  `Model.exists_made_of_lastWritten?` that elsewhere a part of an envelope does.
-/

namespace SdkForge

open Outcome

/-- A member is a shape that holds another one. -/
lemma Shape.isMember_iff {shape : Shape} :
    shape.isMember = true ↔ ∃ target, shape.target? = some target := by
  obtain ⟨key, traits, body⟩ := shape
  cases body <;> simp [isMember, kind, target?]

/-! ## Ids of envelopes -/

/-- An id in a later namespace is a later one. -/
lemma ShapeId.compare_of_ns {a b : ShapeId} (h : compare a.ns b.ns = .lt) : compare a b = .lt := by
  show ShapeId.order a b = .lt
  simp only [ShapeId.order, compareLex, compareOn, h, Ordering.lt_then]

namespace Envelope

/-- A namespace comes before the one for its envelopes. -/
lemma compare_ns (ns : String) : compare ns (ns ++ namespaceEnding) = .lt := by
  show compareOfLessAndEq ns (ns ++ namespaceEnding) = .lt
  rw [compareOfLessAndEq_eq_lt, String.lt_iff_toList_lt, String.toList_append]
  have hlt : ns.toList ++ [] < ns.toList ++ namespaceEnding.toList :=
    List.append_left_lt (by decide)
  rwa [List.append_nil] at hlt

/-- Names that end differently differ. -/
lemma eq_of_append_ending {e e' : Envelope} {name name' : String}
    (h : name ++ e.ending = name' ++ e'.ending) :
    e = e' ∧ name = name' := by
  have hchars : name.toList ++ e.ending.toList = name'.toList ++ e'.ending.toList := by
    rw [← String.toList_append, h, String.toList_append]
  have he : e = e' := by
    by_contra hne
    -- the shorter ending would end the longer one
    have hsuffix : "Input".toList <:+ "Output".toList := by
      cases e <;> cases e' <;> try contradiction
      · exact List.suffix_of_suffix_length_le ⟨_, hchars⟩ ⟨_, rfl⟩ (by decide)
      · exact List.suffix_of_suffix_length_le ⟨_, hchars.symm⟩ ⟨_, rfl⟩ (by decide)
    exact absurd hsuffix (by decide)
  subst he
  exact ⟨rfl, String.toList_inj.1 (List.append_cancel_right hchars)⟩

/-- Envelopes at one id are for one end, and for operations of one namespace and name. -/
lemma eq_of_id_eq {e e' : Envelope} {a b : ShapeId} (h : e.id a = e'.id b) :
    e = e' ∧ a.ns = b.ns ∧ a.name = b.name := by
  have hns : a.ns ++ namespaceEnding = b.ns ++ namespaceEnding := congrArg ShapeId.ns h
  obtain ⟨he, hname⟩ := eq_of_append_ending (congrArg ShapeId.name h)
  exact ⟨he, (String.append_left_inj _).1 hns, hname⟩

lemma compare_of_ns {operation id : ShapeId} (h : id.ns = operation.ns ++ namespaceEnding) :
    compare operation id = .lt :=
  ShapeId.compare_of_ns (h ▸ compare_ns operation.ns)

/-! ## What is written for one end -/

/-- The id that an operation names at this end. -/
def reference? (e : Envelope) (operation : Shape) : Option ShapeId :=
  match e, operation.body with
  | .input, .operation taken _ _ => taken
  | .output, .operation _ given _ => given
  | _, _ => none

/-- The shape that an operation names at this end. -/
def source? (e : Envelope) (model : Model) (operation : Shape) : Option Shape :=
  (e.reference? operation).bind model.get?

/-- Whether the operation has its envelope at this end already. -/
def isWrapped (e : Envelope) (model : Model) (operation : Shape) : Bool :=
  (e.source? model operation).any (marks ·.traits e)

/-- What the operation names at this end when it has its envelope. -/
def place (e : Envelope) (model : Model) (operation : Shape) : ShapeId :=
  ((e.source? model operation).filter (marks ·.traits e)).elim (e.id operation.id) (·.id)

/-- The members of the shape that an operation names at this end. -/
def sourceMembers (e : Envelope) (model : Model) (operation : Shape) : List ShapeId :=
  ((e.source? model operation).map (·.members)).getD []

/-- The copies of these members. -/
def copies (e : Envelope) (model : Model) (operation : Shape) : List Shape :=
  (e.sourceMembers model operation).filterMap fun id =>
    (model.get? id).bind (copyMember (e.id operation.id) id)

/-- The envelope of the operation. -/
def record (e : Envelope) (model : Model) (operation : Shape) : Shape where
  id := e.id operation.id
  traits := e.traits operation.id (((e.source? model operation).map (·.traits)).getD {})
  body := .record ((e.copies model operation).map (·.id))

/-- What is written for this end of the operation. -/
def made (e : Envelope) (model : Model) (operation : Shape) : List Shape :=
  if e.isWrapped model operation then [] else e.copies model operation ++ [e.record model operation]

variable {model : Model} {operation shape : Shape} {e : Envelope}

lemma mem_references_of_reference? {id : ShapeId} (h : e.reference? operation = some id) :
    id ∈ operation.references := by
  obtain ⟨key, traits, body⟩ := operation
  cases e <;> cases body <;> simp_all [reference?, Shape.references]

lemma isOperation_of_reference? {id : ShapeId} (h : e.reference? operation = some id) :
    operation.isOperation = true := by
  obtain ⟨key, traits, body⟩ := operation
  cases e <;> cases body <;> simp_all [reference?, Shape.isOperation, Shape.kind]

lemma mem_references_of_mem_members {id : ShapeId} (h : id ∈ shape.members) :
    id ∈ shape.references := by
  obtain ⟨key, traits, body⟩ := shape
  cases body <;> simp_all [Shape.members, Shape.references]

lemma source?_eq_some {source : Shape} : e.source? model operation = some source ↔
    ∃ id, e.reference? operation = some id ∧ model.get? id = some source := Option.bind_eq_some_iff

/-- The source of a shape of the model is in the model. -/
lemma mapM_expect (hmodel : model.WellFormed) (hget : model.get? operation.id = some operation) :
    (e.reference? operation).mapM model.expect = .ok (e.source? model operation) := by
  unfold source?
  cases href : e.reference? operation with
  | none => rfl
  | some id =>
    have hsome := hmodel.reference _ _ hget id (mem_references_of_reference? href)
    obtain ⟨source, hsource⟩ := Option.isSome_iff_exists.1 hsome
    have hexpect : model.expect id = .ok source := Model.expect_eq_ok.2 hsource
    simp [hexpect, hsource, Functor.map, Except.map]

/-- Every member of a source is in the model. -/
lemma isSome_of_mem_sourceMembers (hmodel : model.WellFormed) {id : ShapeId}
    (h : id ∈ e.sourceMembers model operation) :
    ∃ member, model.get? id = some member := by
  unfold sourceMembers at h
  cases hsource : e.source? model operation with
  | none => simp [hsource] at h
  | some source =>
    obtain ⟨key, _, hget⟩ := source?_eq_some.1 hsource
    have hmem : id ∈ source.members := by
      simpa [hsource] using h
    exact Option.isSome_iff_exists.1
      (hmodel.reference _ _ hget id (mem_references_of_mem_members hmem))

lemma copyMembers_eq (hmodel : model.WellFormed) :
    copyMembers model (e.id operation.id) (e.source? model operation) =
      .ok (e.copies model operation) := by
  unfold copyMembers
  have hmembers : ∀ id ∈ e.sourceMembers model operation,
      (do return copyMember (e.id operation.id) id (← model.expect id) : Except ModelError
        (Option Shape)) = .ok ((model.get? id).bind (copyMember (e.id operation.id) id)) := by
    intro id hmem
    obtain ⟨member, hget⟩ := isSome_of_mem_sourceMembers hmodel hmem
    have hexpect : model.expect id = .ok member := Model.expect_eq_ok.2 hget
    rw [hexpect, hget]
    rfl
  show (do return (← (e.sourceMembers model operation).mapM _).filterMap (·)) = _
  rw [mapM_eq_ok_of_forall hmembers]
  show Except.ok (List.filterMap _ (List.map _ _)) = _
  rw [List.filterMap_map]
  rfl

/-- For one end, `made` is what is put into the model, and `place` what the operation names from
then on. -/
lemma wrap_eq (hmodel : model.WellFormed) (hget : model.get? operation.id = some operation) :
    e.wrap model operation.id (e.reference? operation) = .ok (e.made model operation,
      e.place model operation) := by
  unfold wrap
  rw [mapM_expect hmodel hget]
  simp only [bind, Except.bind, copyMembers_eq hmodel, pure, Except.pure]
  unfold made place isWrapped
  cases hsource : e.source? model operation with
  | none => simp [record, hsource]
  | some source =>
    by_cases hmarks : marks source.traits e = true
    · simp [Option.filter, hmarks]
    · simp [Option.filter, hmarks, record, hsource]

/-- An envelope carries the marker of its own end and no other. -/
lemma marks_traits (e e' : Envelope) (operation : ShapeId) (ts : Traits) :
    marks (e.traits operation ts) e' = true ↔ e' = e := by
  cases e <;> cases e' <;> simp [traits, marks, marker, Traits.insert, Traits.erase]

lemma marks_record (e e' : Envelope) : marks (e.record model operation).traits e' = true ↔ e' = e :=
  marks_traits e e' operation.id _

/-- A copy stands in the envelope, holds what its original holds, and says where it comes from. -/
lemma mem_copies_iff : shape ∈ e.copies model operation ↔ ∃ id ∈ e.sourceMembers model operation,
    ∃ member target, model.get? id = some member ∧ member.target? = some target ∧
      shape = ⟨(e.id operation.id).withMember id.lastName,
        member.traits.insert (.refactoredMember id), .member (e.id operation.id) target⟩ := by
  simp only [copies, List.mem_filterMap, Option.bind_eq_some_iff, copyMember,
    Option.map_eq_some_iff]
  constructor
  · rintro ⟨id, hmem, member, hget, target, htarget, rfl⟩
    exact ⟨id, hmem, member, target, hget, htarget, rfl⟩
  · rintro ⟨id, hmem, member, target, hget, htarget, rfl⟩
    exact ⟨id, hmem, member, hget, target, htarget, rfl⟩

lemma mem_made_iff : shape ∈ e.made model operation ↔
    e.isWrapped model operation = false ∧
    (shape ∈ e.copies model operation ∨ shape = e.record model operation) := by
  unfold made
  by_cases hwrapped : e.isWrapped model operation = true
  · simp [hwrapped]
  · simp [hwrapped]

/-- What is written for an end stands in the namespace of envelopes. -/
lemma ns_of_mem_made (h : shape ∈ e.made model operation) :
    shape.id.ns = operation.id.ns ++ namespaceEnding := by
  rcases (mem_made_iff.1 h).2 with hcopy | rfl
  · obtain ⟨_, _, _, _, _, _, rfl⟩ := mem_copies_iff.1 hcopy
    rfl
  · rfl

lemma isOperation_of_mem_made (h : shape ∈ e.made model operation) : shape.isOperation = false := by
  rcases (mem_made_iff.1 h).2 with hcopy | rfl
  · obtain ⟨_, _, _, _, _, _, rfl⟩ := mem_copies_iff.1 hcopy
    rfl
  · rfl

lemma record_mem_made (h : e.isWrapped model operation = false) :
    e.record model operation ∈ e.made model operation :=
  mem_made_iff.2 ⟨h, .inr rfl⟩

/-- What an operation without its envelope names after normalization is a new one. -/
lemma place_eq_id (h : e.isWrapped model operation = false) :
    e.place model operation = e.id operation.id := by
  unfold isWrapped at h
  unfold place
  cases hsource : e.source? model operation with
  | none => rfl
  | some source =>
    rw [hsource, Option.any_some] at h
    simp [Option.filter, h]

/-- What an operation names after normalization carries the marker in the model, or is its
envelope. -/
lemma place_cases (hmodel : model.WellFormed) (e : Envelope) (operation : Shape) :
    (∃ source, e.source? model operation = some source ∧ marks source.traits e = true ∧
      e.reference? operation = some (e.place model operation) ∧
      model.get? (e.place model operation) = some source) ∨
    (e.isWrapped model operation = false ∧ e.place model operation = e.id operation.id) := by
  by_cases hwrapped : e.isWrapped model operation = true
  · obtain ⟨source, hsource, hmarks⟩ := (Option.any_eq_true _ _).1 hwrapped
    obtain ⟨id, href, hget⟩ := source?_eq_some.1 hsource
    have hplace : e.place model operation = id := by
      simp [place, hsource, Option.filter, hmarks, hmodel.id_eq hget]
    rw [hplace]
    exact .inl ⟨source, hsource, hmarks, href, hget⟩
  · have hbare : e.isWrapped model operation = false := by simpa using hwrapped
    exact .inr ⟨hbare, place_eq_id hbare⟩

end Envelope

/-! ## What is written for an operation -/

namespace Model

variable {model : Model} {operation shape : Shape} {e : Envelope}

/-- The operation with its envelopes in place of what it named. -/
def wrapped (model : Model) (operation : Shape) : Shape :=
  match operation.body with
  | .operation _ _ errors =>
    { operation with
      body :=
        .operation (some (Envelope.input.place model operation))
        (some (Envelope.output.place model operation)) errors }
  | _ => operation

/-- The shapes that are written for a shape: none unless it is an operation. -/
def writes (model : Model) (shape : Shape) : List Shape :=
  if shape.isOperation then
    Envelope.input.made model shape ++ Envelope.output.made model shape ++ [model.wrapped shape]
  else []

/-- All shapes that are written, the later in place of the earlier. -/
def written (model : Model) : List Shape := model.toList.flatMap model.writes

/-- The last shape that is written to an id. -/
def lastWritten? (model : Model) (id : ShapeId) : Option Shape :=
  (model.written.filter (·.id = id)).getLast?

@[simp] lemma wrapped_id (model : Model) (operation : Shape) :
    (model.wrapped operation).id = operation.id := by
  unfold wrapped
  split <;> rfl

@[simp] lemma wrapped_traits (model : Model) (operation : Shape) :
    (model.wrapped operation).traits = operation.traits := by
  unfold wrapped
  split <;> rfl

lemma isOperation_wrapped (h : operation.isOperation = true) :
    (model.wrapped operation).isOperation = true := by
  unfold wrapped
  split
  · rfl
  · exact h

lemma reference?_wrapped (h : operation.isOperation = true) (e : Envelope) :
    e.reference? (model.wrapped operation) = some (e.place model operation) := by
  obtain ⟨id, traits, body⟩ := operation
  cases body <;> simp [Shape.isOperation, Shape.kind] at h
  cases e <;> rfl

lemma references_wrapped {id : ShapeId} (h : id ∈ (model.wrapped operation).references) :
    id ∈ operation.references ∨ ∃ e : Envelope, id = e.place model operation := by
  obtain ⟨key, traits, body⟩ := operation
  cases body with
  | operation taken given errors =>
    simp only [wrapped, Shape.references, Option.toList_some, List.singleton_append,
      List.mem_append, List.mem_cons, List.not_mem_nil, or_false] at h
    rcases h with (rfl | rfl) | herror
    · exact .inr ⟨.input, rfl⟩
    · exact .inr ⟨.output, rfl⟩
    · exact .inl (List.mem_append_right _ herror)
  | _ => exact .inl h

lemma mem_writes_iff : shape ∈ model.writes operation ↔
    operation.isOperation = true ∧
    ((∃ e : Envelope, shape ∈ e.made model operation) ∨ shape = model.wrapped operation) := by
  unfold writes
  by_cases hoperation : operation.isOperation = true
  · rw [if_pos hoperation]
    simp only [List.mem_append, List.mem_singleton, hoperation, true_and]
    constructor
    · rintro ((h | h) | h)
      · exact .inl ⟨.input, h⟩
      · exact .inl ⟨.output, h⟩
      · exact .inr h
    · rintro (⟨e, h⟩ | h)
      · cases e
        · exact .inl (.inl h)
        · exact .inl (.inr h)
      · exact .inr h
  · simp [hoperation]

lemma mem_written_iff (hmodel : model.WellFormed) : shape ∈ model.written ↔
    ∃ operation, model.get? operation.id = some operation ∧ operation.isOperation = true ∧
      ((∃ e : Envelope, shape ∈ e.made model operation) ∨ shape = model.wrapped operation) := by
  simp only [written, List.mem_flatMap, mem_toList_iff hmodel, mem_writes_iff]

/-- `writes` is what is put into the model for an operation. -/
lemma normalizeOperation_eq (hmodel : model.WellFormed)
    (hget : model.get? operation.id = some operation) :
    model.normalizeOperation operation = .ok (model.writes operation) := by
  have hinput := Envelope.wrap_eq (e := .input) hmodel hget
  have houtput := Envelope.wrap_eq (e := .output) hmodel hget
  obtain ⟨id, traits, body⟩ := operation
  cases body with
  | operation taken given errors =>
    simp only [Envelope.reference?] at hinput houtput
    simp only [normalizeOperation, hinput, houtput, bind, Except.bind, pure, Except.pure]
    rfl
  | _ => rfl

/-- Normalization puts what is written into the model. -/
theorem normalize_eq (hmodel : model.WellFormed) :
    model.normalize = (model.written.foldl Draft.insert model.toDraft).build := by
  unfold normalize written
  have hoperations :
      ∀ shape ∈ model.toList, model.normalizeOperation shape = .ok (model.writes shape) :=
    fun shape hmem => normalizeOperation_eq hmodel ((mem_toList_iff hmodel).1 hmem)
  rw [mapM_eq_ok_of_forall hoperations]
  simp only [bind, Except.bind, List.flatMap_def]

/-! ## The last write to an id -/

/-- What is written for an operation does not stand before the operation. -/
lemma id_of_mem_writes (h : shape ∈ model.writes operation) :
    shape.id = operation.id ∨ compare operation.id shape.id = .lt := by
  obtain ⟨_, ⟨e, hmade⟩ | rfl⟩ := mem_writes_iff.1 h
  · exact .inr (Envelope.compare_of_ns (Envelope.ns_of_mem_made hmade))
  · exact .inl (wrapped_id model operation)

/-- The last shape written to the id of an operation is the operation itself. -/
lemma lastWritten?_of_operation (hmodel : model.WellFormed)
    (hget : model.get? operation.id = some operation) (hoperation : operation.isOperation = true) :
    model.lastWritten? operation.id = some (model.wrapped operation) := by
  obtain ⟨before, after, hsplit⟩ := List.append_of_mem ((mem_toList_iff hmodel).2 hget)
  have hsorted := pairwise_toList hmodel
  rw [hsplit, List.pairwise_append, List.pairwise_cons] at hsorted
  -- what comes later is written to later ids
  have hafter : (after.flatMap model.writes).filter (·.id = operation.id) = [] := by
    rw [List.filter_eq_nil_iff]
    intro shape hmem
    obtain ⟨other, hother, hwrites⟩ := List.mem_flatMap.1 hmem
    have hlt : compare operation.id other.id = .lt := hsorted.2.1.1 other hother
    have hself : compare operation.id operation.id = .eq := Std.ReflCmp.compare_self
    intro heq
    have heq : shape.id = operation.id := by simpa using heq
    rcases id_of_mem_writes hwrites with hid | hid
    · rw [← hid, heq, hself] at hlt
      contradiction
    · rw [heq] at hid
      rw [Std.TransCmp.lt_trans hlt hid] at hself
      contradiction
  have hown : model.writes operation =
      Envelope.input.made model operation ++ Envelope.output.made model operation ++
        [model.wrapped operation] :=
    if_pos hoperation
  rw [lastWritten?, written, hsplit, List.flatMap_append, List.flatMap_cons, List.filter_append,
    List.filter_append, hafter, List.append_nil, hown, List.filter_append, List.getLast?_append,
    List.getLast?_append]
  simp

lemma mem_written_of_lastWritten? {id : ShapeId} (h : model.lastWritten? id = some shape) :
    shape ∈ model.written ∧ shape.id = id := by
  obtain ⟨hmem, hid⟩ := List.mem_filter.1 (List.mem_of_getLast? h)
  exact ⟨hmem, by simpa using hid⟩

lemma lastWritten?_eq_none_iff {id : ShapeId} :
    model.lastWritten? id = none ↔ ∀ shape ∈ model.written, shape.id ≠ id := by
  rw [lastWritten?, List.getLast?_eq_none_iff, List.filter_eq_nil_iff]
  simp only [decide_eq_true_eq, ne_eq]

/-! ## The normal model -/

/-- What a written shape refers to is written or was there. -/
lemma resolved_of_mem_written (hmodel : model.WellFormed) (hmem : shape ∈ model.written)
    {target : ShapeId} (htarget : target ∈ shape.references ∨ target ∈ shape.container?) :
    (∃ other ∈ model.written, other.id = target) ∨ (model.get? target).isSome := by
  obtain ⟨operation, hget, hoperation, ⟨e, hmade⟩ | rfl⟩ := (mem_written_iff hmodel).1 hmem
  · -- a part of an envelope refers to other parts, and a copy to what its original holds
    have hpart : ∀ other ∈ e.made model operation, other ∈ model.written :=
      fun other hother => (mem_written_iff hmodel).2 ⟨operation, hget, hoperation, .inl ⟨e, hother⟩⟩
    obtain ⟨hbare, hcopy | rfl⟩ := Envelope.mem_made_iff.1 hmade
    · obtain ⟨id, _, member, held, hmember, hheld, rfl⟩ := Envelope.mem_copies_iff.1 hcopy
      rcases htarget with href | howner
      · obtain rfl : target = held := by simpa [Shape.references] using href
        have hreference : target ∈ member.references := by
          obtain ⟨key, traits, body⟩ := member
          cases body <;> simp_all [Shape.target?, Shape.references]
        exact .inr (hmodel.reference _ _ hmember _ hreference)
      · obtain rfl : e.id operation.id = target := by simpa [Shape.container?] using howner
        exact .inl ⟨_, hpart _ (Envelope.record_mem_made hbare), rfl⟩
    · rcases htarget with href | howner
      · obtain ⟨copy, hcopy, rfl⟩ : ∃ copy ∈ e.copies model operation, copy.id = target := by
          simpa [Envelope.record, Shape.references] using href
        exact .inl ⟨copy, hpart copy (Envelope.mem_made_iff.2 ⟨hbare, .inl hcopy⟩), rfl⟩
      · simp [Envelope.record, Shape.container?] at howner
  · rcases htarget with href | howner
    · rcases references_wrapped href with hold | ⟨e, rfl⟩
      · exact .inr (hmodel.reference _ _ hget _ hold)
      · rcases Envelope.place_cases hmodel e operation with
          ⟨source, _, _, _, hsource⟩ | ⟨hbare, hplace⟩
        · exact .inr (by rw [hsource]; rfl)
        · rw [hplace]
          refine .inl ⟨e.record model operation, ?_, rfl⟩
          exact (mem_written_iff hmodel).2 ⟨operation, hget, hoperation,
            .inl ⟨e, Envelope.record_mem_made hbare⟩⟩
    · obtain ⟨key, traits, body⟩ := operation
      cases body <;> simp [Shape.isOperation, Shape.kind] at hoperation
      simp [wrapped, Shape.container?] at howner

/-- Normalization of a model goes well. Then the last shape written to an id stands there, or what
stood there before. -/
theorem exists_normalize (hmodel : model.WellFormed) (hprelude : HasPrelude model.shapes) :
    ∃ normal, model.normalize = .ok normal ∧
      ∀ id, normal.get? id = (model.lastWritten? id).or (model.get? id) := by
  let draft := model.written.foldl Draft.insert model.toDraft
  have hview : ∀ id, draft.get? id = (model.lastWritten? id).or (model.get? id) :=
    Draft.get?_foldl_insert model.toDraft model.written
  have hsome : ∀ id, (∃ shape ∈ model.written, shape.id = id) ∨ (model.get? id).isSome →
      (draft.get? id).isSome := by
    intro id h
    rw [hview]
    cases hlast : model.lastWritten? id with
    | some shape => rfl
    | none =>
      exact h.resolve_left fun ⟨shape, hmem, hid⟩ => lastWritten?_eq_none_iff.1 hlast shape hmem hid
  have hbuild : draft.build = .ok ⟨draft.shapes⟩ := by
    refine Draft.build_of_resolved (fun shape hmem => hsome _ (.inr (hprelude shape hmem))) ?_
    intro shape hmem target htarget
    obtain ⟨id, hget⟩ := OrderedMap.mem_values.1 hmem
    rcases Option.or_eq_some_iff.1 ((hview id).symm.trans hget) with hlast | ⟨_, hold⟩
    · exact hsome _ (resolved_of_mem_written hmodel (mem_written_of_lastWritten? hlast).1 htarget)
    · rcases htarget with href | howner
      · exact hsome _ (.inr (hmodel.reference _ _ hold _ href))
      · exact hsome _ (.inr (hmodel.container _ _ hold _ howner))
  exact ⟨⟨draft.shapes⟩, (normalize_eq hmodel).trans hbuild, hview⟩

variable {normal : Model}

lemma get?_of_normalize (hmodel : model.WellFormed) (hprelude : HasPrelude model.shapes)
    (hnormal : model.normalize = .ok normal) (id : ShapeId) :
    normal.get? id = (model.lastWritten? id).or (model.get? id) := by
  obtain ⟨other, hother, hview⟩ := exists_normalize hmodel hprelude
  obtain rfl := Except.ok.inj (hnormal.symm.trans hother)
  exact hview id

lemma hasPrelude_of_normalize (hmodel : model.WellFormed) (hnormal : model.normalize = .ok normal) :
    HasPrelude normal.shapes := by
  rw [normalize_eq hmodel] at hnormal
  exact hasPrelude_of_build hnormal

/-- Where a shape is written that is not that of an operation, the last one is a part of an
envelope. -/
lemma exists_made_of_lastWritten? (hmodel : model.WellFormed) {id : ShapeId}
    (hlast : model.lastWritten? id = some shape)
    (hplain : ∀ other, model.get? id = some other → other.isOperation = false) :
    ∃ (operation : Shape) (e : Envelope), model.get? operation.id = some operation ∧
      operation.isOperation = true ∧
      shape ∈ e.made model operation ∧ shape.id = id := by
  obtain ⟨hmem, hid⟩ := mem_written_of_lastWritten? hlast
  obtain ⟨operation, hget, hoperation, ⟨e, hmade⟩ | rfl⟩ := (mem_written_iff hmodel).1 hmem
  · exact ⟨operation, e, hget, hoperation, hmade, hid⟩
  · rw [wrapped_id] at hid
    rw [hid] at hget
    simp [hplain operation hget] at hoperation

end Model

end SdkForge
