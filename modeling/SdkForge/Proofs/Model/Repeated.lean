import SdkForge.Proofs.Model.Reserved

/-!
# Normalization of a normal model

Normalizing a second time finds the envelopes that the first time made, as long as they carry their
markers. A shape that carried a marker before can lose it to an envelope, or to a copy of a member,
that is written over it.

* `exists_marked_or_operation` says where the envelope that was made for an operation can be found.
* `normalize_normalize_iff` says that a second normalization changes nothing exactly if no marker is
  lost.
* `not_normalize_normalize_of_stolen` shows a marker that is lost.
-/

namespace SdkForge.Model

open Outcome

variable {model normal : Model} {operation shape : Shape} {e : Envelope}

/-! ## Operations and envelopes of a normal model -/

/-- The operations of the normal model are those of the model, with their envelopes. -/
lemma isOperation_of_normalize (hmodel : model.WellFormed) (hprelude : HasPrelude model.shapes)
    (hnormal : model.normalize = .ok normal) {id : ShapeId} (hget : normal.get? id = some shape)
    (hshape : shape.isOperation = true) : ∃ operation, operation.id = id ∧
      model.get? id = some operation ∧
      operation.isOperation = true ∧ shape = model.wrapped operation := by
  rw [get?_of_normalize hmodel hprelude hnormal] at hget
  by_cases hold : ∃ operation, model.get? id = some operation ∧ operation.isOperation = true
  · obtain ⟨operation, hfound, hoperation⟩ := hold
    obtain rfl := hmodel.id_eq hfound
    rw [lastWritten?_of_operation hmodel hfound hoperation, Option.some_or,
      Option.some.injEq] at hget
    exact ⟨operation, rfl, hfound, hoperation, hget.symm⟩
  · have hplain : ∀ other, model.get? id = some other → other.isOperation = false := by
      simpa using hold
    rcases Option.or_eq_some_iff.1 hget with hlast | ⟨_, hfound⟩
    · obtain ⟨_, _, _, _, hmade, _⟩ := exists_made_of_lastWritten? hmodel hlast hplain
      simp [Envelope.isOperation_of_mem_made hmade] at hshape
    · simp [hplain shape hfound] at hshape

/-- An operation stands where it stood, with its envelopes. -/
lemma get?_wrapped_of_normalize (hmodel : model.WellFormed) (hprelude : HasPrelude model.shapes)
    (hnormal : model.normalize = .ok normal) (hget : model.get? operation.id = some operation)
    (hoperation : operation.isOperation = true) :
    normal.get? operation.id = some (model.wrapped operation) := by
  rw [get?_of_normalize hmodel hprelude hnormal, lastWritten?_of_operation hmodel hget hoperation,
    Option.some_or]

/-- Where an envelope is made for an operation, a shape with its marker stands afterwards, unless an
operation stands there. -/
lemma exists_marked_or_operation (hmodel : model.WellFormed) (hprelude : HasPrelude model.shapes)
    (hnormal : model.normalize = .ok normal) (hget : model.get? operation.id = some operation)
    (hoperation : operation.isOperation = true) (hbare : e.isWrapped model operation = false) :
    (∃ made, normal.get? (e.id operation.id) = some made ∧ Envelope.marks made.traits e = true) ∨
      ∃ other, normal.get? (e.id operation.id) = some other ∧ other.isOperation = true := by
  by_cases hold : ∃ other, model.get? (e.id operation.id) = some other ∧ other.isOperation = true
  · obtain ⟨other, hfound, hother⟩ := hold
    have hid : other.id = e.id operation.id := hmodel.id_eq hfound
    rw [← hid] at hfound ⊢
    exact .inr ⟨_, get?_wrapped_of_normalize hmodel hprelude hnormal hfound hother,
      isOperation_wrapped hother⟩
  · have hplain : ∀ other, model.get? (e.id operation.id) = some other →
        other.isOperation = false := by
      simpa using hold
    have hreserved : model.Reserves (e.id operation.id) :=
      reserves_iff.2 ⟨operation, e, _, hget, hoperation, Envelope.record_mem_made hbare, rfl⟩
    obtain ⟨made, hlast⟩ := (exists_lastWritten?_iff hmodel hplain).2 hreserved
    obtain ⟨owner, e', _, _, hmade, hid⟩ := exists_made_of_lastWritten? hmodel hlast hplain
    refine .inl ⟨made, by rw [get?_of_normalize hmodel hprelude hnormal, hlast, Option.some_or], ?_⟩
    -- a copy has the id of a member, so it is an envelope, and its id tells for which end
    rcases (Envelope.mem_made_iff.1 hmade).2 with hcopy | rfl
    · obtain ⟨_, _, _, _, _, _, rfl⟩ := Envelope.mem_copies_iff.1 hcopy
      have hmember := congrArg ShapeId.member hid
      contradiction
    · obtain ⟨rfl, _, _⟩ := Envelope.eq_of_id_eq hid
      exact (Envelope.marks_record e' e').2 rfl

/-! ## The second time -/

lemma source?_wrapped (hoperation : operation.isOperation = true) (e : Envelope) :
    e.source? normal (model.wrapped operation) = normal.get? (e.place model operation) := by
  rw [Envelope.source?, reference?_wrapped hoperation, Option.bind_some]

/-- No shape that carried a marker for an operation lost it to what is written over it. -/
def KeepsMarkers (model : Model) : Prop :=
  ∀ (operation : Shape) (e : Envelope) (source : Shape), model.get? operation.id = some operation →
    operation.isOperation = true → e.source? model operation = some source →
    Envelope.marks source.traits e = true →
    ∀ shape, model.lastWritten? source.id = some shape → Envelope.marks shape.traits e = true

/-- If no marker is lost, an operation has all its envelopes in the normal model, but for those at
whose ids operations stand. -/
lemma exists_operation_of_not_isWrapped (hmodel : model.WellFormed)
    (hprelude : HasPrelude model.shapes) (hnormal : model.normalize = .ok normal)
    (hkeeps : model.KeepsMarkers) (hget : model.get? operation.id = some operation)
    (hoperation : operation.isOperation = true)
    (hbare : e.isWrapped normal (model.wrapped operation) = false) :
    e.place model operation = e.id operation.id ∧
      ∃ other, normal.get? (e.id operation.id) = some other ∧ other.isOperation = true := by
  rw [Envelope.isWrapped, source?_wrapped hoperation] at hbare
  rcases Envelope.place_cases hmodel e operation with
    ⟨source, hsource, hmarks, href, hfound⟩ | ⟨hbare', hplace⟩
  · -- the marked shape is still there, or something marked stands in its place
    have hid := hmodel.id_eq hfound
    rw [← hid, get?_of_normalize hmodel hprelude hnormal] at hbare
    cases hlast : model.lastWritten? source.id with
    | none =>
      rw [← hid] at hfound
      simp [hlast, hfound, hmarks] at hbare
    | some shape =>
      simp [hlast, hkeeps operation e source hget hoperation hsource hmarks shape hlast] at hbare
  · refine ⟨hplace, ?_⟩
    rw [hplace] at hbare
    rcases exists_marked_or_operation hmodel hprelude hnormal hget hoperation hbare' with
      ⟨made, hmade, hmarks⟩ | hother
    · simp [hmade, hmarks] at hbare
    · exact hother

/-- Then the operation names the same envelopes the second time. -/
lemma wrapped_wrapped (hmodel : model.WellFormed) (hprelude : HasPrelude model.shapes)
    (hnormal : model.normalize = .ok normal) (hkeeps : model.KeepsMarkers)
    (hget : model.get? operation.id = some operation) (hoperation : operation.isOperation = true) :
    normal.wrapped (model.wrapped operation) = model.wrapped operation := by
  have hplace :
      ∀ e : Envelope, e.place normal (model.wrapped operation) = e.place model operation := by
    intro e
    rcases Envelope.place_cases (hmodel.normalize hnormal) e (model.wrapped operation) with
      ⟨_, _, _, href, _⟩ | ⟨hbare, hplace⟩
    · rw [reference?_wrapped hoperation] at href
      exact (Option.some.inj href).symm
    · rw [hplace, wrapped_id]
      exact (exists_operation_of_not_isWrapped hmodel hprelude hnormal hkeeps hget
        hoperation hbare).1.symm
  have hinput := hplace .input
  have houtput := hplace .output
  obtain ⟨id, traits, body⟩ := operation
  cases body <;> simp [Shape.isOperation, Shape.kind] at hoperation
  simp only [wrapped] at hinput houtput ⊢
  rw [hinput, houtput]

/-- What is written the second time has the id of an operation. -/
lemma exists_operation_of_mem_written (hmodel : model.WellFormed)
    (hprelude : HasPrelude model.shapes) (hnormal : model.normalize = .ok normal)
    (hkeeps : model.KeepsMarkers) (hmem : shape ∈ normal.written) :
    ∃ other, normal.get? shape.id = some other ∧ other.isOperation = true := by
  obtain ⟨again, hget, hoperation, ⟨e, hmade⟩ | rfl⟩ :=
    (mem_written_iff (hmodel.normalize hnormal)).1 hmem
  · obtain ⟨operation, hid, hfound, hisOperation, rfl⟩ :=
      isOperation_of_normalize hmodel hprelude hnormal hget hoperation
    rw [← hid] at hfound
    obtain ⟨hbare, hparts⟩ := Envelope.mem_made_iff.1 hmade
    obtain ⟨hplace, other, hother, hotherOperation⟩ :=
      exists_operation_of_not_isWrapped hmodel hprelude hnormal hkeeps hfound hisOperation hbare
    rcases hparts with hcopy | rfl
    · -- an operation has no members that could be copied
      obtain ⟨m, hm, _⟩ := Envelope.mem_copies_iff.1 hcopy
      obtain ⟨source, hsource, hmember⟩ := Envelope.mem_sourceMembers_iff.1 hm
      rw [source?_wrapped hisOperation, hplace, hother] at hsource
      obtain rfl := Option.some.inj hsource
      obtain ⟨key, traits, body⟩ := other
      cases body <;> simp [Shape.isOperation, Shape.kind, Shape.members] at hotherOperation hmember
    · refine ⟨other, ?_, hotherOperation⟩
      show normal.get? (e.id (model.wrapped operation).id) = some other
      rwa [wrapped_id]
  · rw [wrapped_id]
    exact ⟨again, hget, hoperation⟩

/-- A second normalization changes nothing if no marker is lost. -/
lemma normalize_of_keepsMarkers (hmodel : model.WellFormed) (hprelude : HasPrelude model.shapes)
    (hnormal : model.normalize = .ok normal) (hkeeps : model.KeepsMarkers) :
    normal.normalize = .ok normal := by
  have hwell := hmodel.normalize hnormal
  obtain ⟨twice, htwice, hview⟩ := exists_normalize hwell (hasPrelude_of_normalize hmodel hnormal)
  have heq : twice = normal := by
    refine ext_get? fun id => ?_
    rw [hview]
    cases hlast : normal.lastWritten? id with
    | none => rw [Option.none_or]
    | some last =>
      obtain ⟨hmem, rfl⟩ := mem_written_of_lastWritten? hlast
      obtain ⟨again, hget, hoperation⟩ :=
        exists_operation_of_mem_written hmodel hprelude hnormal hkeeps hmem
      obtain ⟨operation, hid, hfound, hisOperation, rfl⟩ :=
        isOperation_of_normalize hmodel hprelude hnormal hget hoperation
      rw [← hid] at hfound hget hlast ⊢
      have hlast' := lastWritten?_of_operation hwell (by rwa [wrapped_id]) hoperation
      rw [wrapped_id, hlast, wrapped_wrapped hmodel hprelude hnormal hkeeps hfound
        hisOperation] at hlast'
      rw [hlast', hget, Option.some_or]
  rw [htwice, heq]

/-- A second normalization that changes nothing tells that no marker was lost. -/
lemma keepsMarkers_of_normalize (hmodel : model.WellFormed) (hprelude : HasPrelude model.shapes)
    (hnormal : model.normalize = .ok normal) (htwice : normal.normalize = .ok normal) :
    model.KeepsMarkers := by
  intro operation e source hget hoperation hsource hmarks shape hlast
  by_contra hlost
  have hlost : Envelope.marks shape.traits e = false := by simpa using hlost
  obtain ⟨id, href, hfound⟩ := Envelope.source?_eq_some.1 hsource
  obtain rfl := hmodel.id_eq hfound
  have hshape : normal.get? source.id = some shape := by
    rw [get?_of_normalize hmodel hprelude hnormal, hlast, Option.some_or]
  have hplace : e.place model operation = source.id := by
    simp [Envelope.place, hsource, Option.filter, hmarks]
  have hbare : e.isWrapped normal (model.wrapped operation) = false := by
    simp [Envelope.isWrapped, source?_wrapped hoperation, hplace, hshape, hlost]
  -- the operation gets an envelope the second time, which has to be what it names already
  have hwell := hmodel.normalize hnormal
  have hprelude' := hasPrelude_of_normalize hmodel hnormal
  have hagain := get?_wrapped_of_normalize hmodel hprelude hnormal hget hoperation
  have hagain' : normal.get? (model.wrapped operation).id = some (model.wrapped operation) := by
    rwa [wrapped_id]
  have hid : e.id operation.id = source.id := by
    have hsame :=
      get?_wrapped_of_normalize hwell hprelude' htwice hagain' (isOperation_wrapped hoperation)
    have hrefs := congrArg e.reference? (Option.some.inj (hagain'.symm.trans hsame))
    rw [reference?_wrapped hoperation, reference?_wrapped (isOperation_wrapped hoperation),
      hplace] at hrefs
    rw [Envelope.place_eq_id hbare, wrapped_id] at hrefs
    exact (Option.some.inj hrefs).symm
  rcases exists_marked_or_operation hwell hprelude' htwice hagain' (isOperation_wrapped hoperation)
    hbare with
    ⟨made, hmade, hmarked⟩ | ⟨other, hother, hotherOperation⟩
  · rw [wrapped_id, hid, hshape] at hmade
    rw [← Option.some.inj hmade, hlost] at hmarked
    contradiction
  · -- an operation keeps its traits
    rw [wrapped_id, hid] at hother
    obtain ⟨old, _, hold, _, rfl⟩ :=
      isOperation_of_normalize hmodel hprelude hnormal hother hotherOperation
    obtain rfl := Option.some.inj (hfound.symm.trans hold)
    obtain rfl := Option.some.inj (hshape.symm.trans hother)
    rw [wrapped_traits, hmarks] at hlost
    contradiction

/-- Normalization goes well, and a second normalization changes nothing exactly if no shape that an
operation names as its envelope loses its marker to what is written over it. -/
theorem normalize_normalize_iff (hmodel : model.IsBuilt) : ∃ normal, model.normalize = .ok normal ∧
    (normal.normalize = .ok normal ↔ model.KeepsMarkers) := by
  have hwell := hmodel.wellFormed
  obtain ⟨normal, hnormal, _⟩ := exists_normalize hwell hmodel.hasPrelude
  exact ⟨normal, hnormal, keepsMarkers_of_normalize hwell hmodel.hasPrelude hnormal,
    normalize_of_keepsMarkers hwell hmodel.hasPrelude hnormal⟩

/-! ## An envelope for one of two operations -/

/-- Two operations, and a structure that carries the marker for the input of the first, which names
it. -/
def envelopeOfFirst (id : ShapeId) : List Shape :=
  [{ id := ⟨"ex", "First", none⟩, body := .operation (some id) none [] },
    { id := ⟨"ex", "Second", none⟩, body := .operation none none [] },
    { id, traits := ({} : Traits).insert (.syntheticInput ⟨"ex", "First", none⟩),
      body := .record [] }]

/-- Where nothing is written over the structure, its marker is found again. -/
theorem normalize_normalize_of_own : ∃ normal,
    (ofShapes (envelopeOfFirst ⟨"ex", "Own", none⟩)).normalize = .ok normal ∧
    normal.normalize = .ok normal := by
  have hfacts : (Draft.ofList (envelopeOfFirst ⟨"ex", "Own", none⟩)).build.toOption.isSome = true ∧
      ∀ shape ∈ (ofShapes (envelopeOfFirst ⟨"ex", "Own", none⟩)).toList,
      ∀ e ∈ [Envelope.input, .output],
        Envelope.marks shape.traits e = true →
          ∀ last ∈ (ofShapes (envelopeOfFirst ⟨"ex", "Own", none⟩)).lastWritten? shape.id,
            Envelope.marks last.traits e = true := by
    decide +kernel
  obtain ⟨hbuild, hkeeps⟩ := hfacts
  obtain ⟨normal, hnormal, hiff⟩ := normalize_normalize_iff (isBuilt_of_isSome hbuild)
  refine ⟨normal, hnormal, hiff.2 fun operation e source _ _ hsource hmarks shape hlast => ?_⟩
  obtain ⟨id, _, hfound⟩ := Envelope.source?_eq_some.1 hsource
  have hmem : source ∈ (ofShapes (envelopeOfFirst ⟨"ex", "Own", none⟩)).toList :=
    OrderedMap.mem_values.2 ⟨id, hfound⟩
  exact hkeeps source hmem e (by cases e <;> simp) hmarks shape hlast

/-- The output of the second operation goes where the first has its input: the second normalization
makes another one. -/
theorem not_normalize_normalize_of_stolen :
    IsBuilt (ofShapes (envelopeOfFirst ⟨"ex.synthetic", "SecondOutput", none⟩)) ∧
    ∃ normal, (ofShapes (envelopeOfFirst ⟨"ex.synthetic", "SecondOutput", none⟩)).normalize =
      .ok normal ∧
      normal.normalize ≠ .ok normal := by
  have hfacts :
      (Draft.ofList (envelopeOfFirst ⟨"ex.synthetic",
        "SecondOutput", none⟩)).build.toOption.isSome = true ∧
      ((ofShapes (envelopeOfFirst ⟨"ex.synthetic", "SecondOutput", none⟩)).normalize.toOption.any
        fun normal => normal.normalize.toOption != some normal) = true := by
    decide +kernel
  obtain ⟨hbuild, hnormal⟩ := hfacts
  obtain ⟨normal, hnormal, hne⟩ := (Option.any_eq_true _ _).1 hnormal
  refine ⟨isBuilt_of_isSome hbuild, normal, toOption_eq_some.1 hnormal, fun htwice => ?_⟩
  simp [htwice, Except.toOption] at hne

end SdkForge.Model
