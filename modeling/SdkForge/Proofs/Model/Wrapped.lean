import SdkForge.Proofs.Model.Repeated

/-!
# What normalization makes of a plain model

In a model that keeps away from the namespaces of envelopes, every part of an envelope has an id of
its own. So normalization gives every operation exactly the envelopes that it lacks, and leaves
everything else alone.

* `IsPlain` says what is asked of the model.
* `Envelope.Wraps` says what an envelope is made of, and `Envelope.Names` what an operation names at
  one end.
* `normalize_of_normalize_of_isPlain` says that a second normalization finds nothing to do.
* `normalize_of_isPlain` is the whole account of the first.
-/

namespace SdkForge

/-! ## Parts of ids -/

lemma ShapeId.eq_of_parts {a b : ShapeId} (hns : a.ns = b.ns) (hname : a.name = b.name)
    (hmember : a.member = b.member) :
    a = b := by
  cases a
  cases b
  simp_all

lemma ShapeId.member_eq_of_lastName {a b : ShapeId} (ha : a.isMember = true)
    (hb : b.isMember = true) (h : a.lastName = b.lastName) : a.member = b.member := by
  obtain ⟨x, hx⟩ := Option.isSome_iff_exists.1 ha
  obtain ⟨y, hy⟩ := Option.isSome_iff_exists.1 hb
  rw [ShapeId.lastName, ShapeId.lastName, hx, hy, Option.getD_some, Option.getD_some] at h
  rw [hx, hy, h]

/-! ## Plain models -/

/-- No shape stands in a namespace for envelopes, no operation has the id of a member, and a
structure or union lists members of its own: `S$a` and `S$b` for `S`. -/
structure Model.IsPlain (model : Model) : Prop where
  ns : ∀ shape ∈ model.toList, ¬Envelope.namespaceEnding.toList <:+ shape.id.ns.toList
  root : ∀ operation ∈ model.toList, operation.isOperation = true → operation.id.isMember = false
  own : ∀ shape ∈ model.toList, ∀ id ∈ shape.members, id.isMember = true ∧ id.root = shape.id.root ∧
    ∃ member ∈ model.get? id, member.isMember = true

instance (model : Model) : Decidable model.IsPlain :=
  decidable_of_iff
    ((∀ shape ∈ model.toList, ¬Envelope.namespaceEnding.toList <:+ shape.id.ns.toList) ∧
      (∀ operation ∈ model.toList, operation.isOperation = true → operation.id.isMember = false) ∧
      ∀ shape ∈ model.toList, ∀ id ∈ shape.members, id.isMember = true ∧ id.root = shape.id.root ∧
        ∃ member ∈ model.get? id, member.isMember = true)
    ⟨fun ⟨hns, hroot, hown⟩ => ⟨hns, hroot, hown⟩, fun h => ⟨h.ns, h.root, h.own⟩⟩

namespace Envelope

/-! ## Envelopes, by the models before and after -/

/-- The operation has an envelope for the source: a structure that has its traits, with the marker
for the operation in place of all markers, and that lists copies of its members in their order. A
copy has the name, the target and the traits of its original, and says where it comes from. -/
structure Wraps (e : Envelope) (model normal : Model) (operation : ShapeId) (source : Option Shape)
    (envelope : Shape) :
    Prop where
  found : normal.get? (e.id operation) = some envelope
  body : envelope.body =
    .record (((source.map (·.members)).getD []).map fun id =>
      (e.id operation).withMember id.lastName)
  marker : envelope.traits.get? (e.marker operation).kind = some (e.marker operation)
  unmarked : ∀ kind ∈ [TraitKind.syntheticInput, .syntheticOutput],
    kind ≠ (e.marker operation).kind →
    envelope.traits.get? kind = none
  traits : ∀ kind, kind ∉ [TraitKind.syntheticInput, .syntheticOutput] →
    envelope.traits.get? kind = source.bind (·.traits.get? kind)
  copies : ∀ id ∈ (source.map (·.members)).getD [], ∃ member target copy,
    model.get? id = some member ∧ member.target? = some target ∧
    normal.get? ((e.id operation).withMember id.lastName) = some copy ∧
    copy.body = .member (e.id operation) target ∧
    copy.traits.get? .refactoredMember = some (.refactoredMember id) ∧
    ∀ kind ≠ .refactoredMember, copy.traits.get? kind = member.traits.get? kind

/-- What an operation that named `source?` names after normalization: the same, if that carries the
marker, and else an envelope of its own. -/
inductive Names (e : Envelope) (model normal : Model) (operation : ShapeId)
    (source? : Option ShapeId) : ShapeId → Prop where
  | same {id shape} (hsource : source? = some id) (hget : model.get? id = some shape)
      (hmarks : marks shape.traits e = true) : Names e model normal operation source? id
  | own {envelope} (hbare : ∀ id ∈ source?, ∀ shape ∈ model.get? id, marks shape.traits e = false)
      (hwraps : e.Wraps model normal operation (source?.bind model.get?) envelope) :
      Names e model normal operation source? (e.id operation)

variable {model normal : Model} {operation shape : Shape} {e : Envelope}

/-- The traits of an envelope, by kind. -/
lemma get?_traits_record (e : Envelope) (model : Model) (operation : Shape) (kind : TraitKind) :
    (e.record model operation).traits.get? kind =
      if kind = (e.marker operation.id).kind then some (e.marker operation.id)
      else if kind = .syntheticOutput then none
      else if kind = .syntheticInput then none
      else (e.source? model operation).bind (·.traits.get? kind) := by
  rw [record, traits, Traits.get?_insert, Traits.get?_erase, Traits.get?_erase]
  cases e.source? model operation with
  | none => cases kind <;> rfl
  | some source => rfl

/-- A source lists members only, so all of them are copied. -/
lemma ids_copies (hplain : model.IsPlain) :
    (e.copies model operation).map (·.id) =
      (e.sourceMembers model operation).map fun id =>
        (e.id operation.id).withMember id.lastName := by
  have hcopy : ∀ id ∈ e.sourceMembers model operation, ∃ copy,
      (model.get? id).bind (copyMember (e.id operation.id) id) = some copy ∧
        copy.id = (e.id operation.id).withMember id.lastName := by
    intro id hmem
    obtain ⟨source, hsource, hid⟩ := mem_sourceMembers_iff.1 hmem
    obtain ⟨key, _, hfound⟩ := source?_eq_some.1 hsource
    obtain ⟨_, _, member, hmember, hisMember⟩ :=
      hplain.own source (OrderedMap.mem_values.2 ⟨key, hfound⟩) id hid
    obtain ⟨target, htarget⟩ := Shape.isMember_iff.1 hisMember
    rw [hmember, Option.bind_some, copyMember, htarget]
    exact ⟨_, rfl, rfl⟩
  unfold copies
  generalize e.sourceMembers model operation = members at hcopy ⊢
  induction members with
  | nil => rfl
  | cons id rest ih =>
    obtain ⟨copy, hfound, hid⟩ := hcopy id List.mem_cons_self
    rw [List.filterMap_cons, hfound]
    simp only [List.map_cons, hid, ih fun other hmem => hcopy other (List.mem_cons_of_mem _ hmem)]

/-- Two members of a source that have one name are one. -/
lemma eq_of_lastName (hplain : model.IsPlain) {a b : ShapeId}
    (ha : a ∈ e.sourceMembers model operation) (hb : b ∈ e.sourceMembers model operation)
    (hname : a.lastName = b.lastName) : a = b := by
  obtain ⟨source, hsource, hmema⟩ := mem_sourceMembers_iff.1 ha
  obtain ⟨source', hsource', hmemb⟩ := mem_sourceMembers_iff.1 hb
  obtain rfl := Option.some.inj (hsource.symm.trans hsource')
  obtain ⟨key, _, hfound⟩ := source?_eq_some.1 hsource
  have hmem : source ∈ model.toList := OrderedMap.mem_values.2 ⟨key, hfound⟩
  obtain ⟨hisa, hroota, _⟩ := hplain.own source hmem a hmema
  obtain ⟨hisb, hrootb, _⟩ := hplain.own source hmem b hmemb
  have hroot : a.root = b.root := hroota.trans hrootb.symm
  have hns : a.ns = b.ns := (ShapeId.mk.inj hroot).1
  have hnames : a.name = b.name := (ShapeId.mk.inj hroot).2.1
  exact ShapeId.eq_of_parts hns hnames (ShapeId.member_eq_of_lastName hisa hisb hname)

/-- Parts of envelopes at one id are one part of one envelope. -/
lemma eq_of_mem_made (hmodel : model.WellFormed) (hplain : model.IsPlain)
    {operation' shape' : Shape} {e' : Envelope} (hget : model.get? operation.id = some operation)
    (hoperation : operation.isOperation = true) (hget' : model.get? operation'.id = some operation')
    (hoperation' : operation'.isOperation = true) (hmade : shape ∈ e.made model operation)
    (hmade' : shape' ∈ e'.made model operation') (hid : shape.id = shape'.id) :
    e = e' ∧ operation = operation' ∧ shape = shape' := by
  have hroot : ∀ {e : Envelope} {operation shape : Shape}, shape ∈ e.made model operation →
      shape.id.root = e.id operation.id := by
    intro e operation shape hmade
    rcases (mem_made_iff.1 hmade).2 with hcopy | rfl
    · obtain ⟨_, _, _, _, _, _, rfl⟩ := mem_copies_iff.1 hcopy
      rfl
    · rfl
  -- the root of the id tells the operation, and the rest of it the member
  obtain ⟨rfl, hns, hname⟩ := eq_of_id_eq ((hroot hmade).symm.trans (hid ▸ hroot hmade'))
  have hmember : ∀ {operation : Shape}, model.get? operation.id = some operation →
      operation.isOperation = true →
      operation.id.member = none := by
    intro operation hget hoperation
    have hroot := hplain.root operation ((Model.mem_toList_iff hmodel).2 hget) hoperation
    simpa [ShapeId.isMember] using hroot
  have hsame : operation.id = operation'.id :=
    ShapeId.eq_of_parts hns hname ((hmember hget hoperation).trans (hmember hget' hoperation').symm)
  obtain rfl : operation = operation' := by
    rw [← hsame, hget] at hget'
    exact Option.some.inj hget'
  refine ⟨rfl, rfl, ?_⟩
  rcases (mem_made_iff.1 hmade).2 with hcopy | rfl <;> rcases (mem_made_iff.1 hmade').2 with
    hcopy' | rfl
  · obtain ⟨id, hmem, member, target, hfound, htarget, rfl⟩ := mem_copies_iff.1 hcopy
    obtain ⟨id', hmem', member', target', hfound', htarget', rfl⟩ := mem_copies_iff.1 hcopy'
    have hlast : id.lastName = id'.lastName := Option.some.inj (congrArg ShapeId.member hid)
    obtain rfl := eq_of_lastName hplain hmem hmem' hlast
    obtain rfl := Option.some.inj (hfound.symm.trans hfound')
    obtain rfl := Option.some.inj (htarget.symm.trans htarget')
    rfl
  · obtain ⟨_, _, _, _, _, _, rfl⟩ := mem_copies_iff.1 hcopy
    have hnone := congrArg ShapeId.member hid
    contradiction
  · obtain ⟨_, _, _, _, _, _, rfl⟩ := mem_copies_iff.1 hcopy'
    have hnone := congrArg ShapeId.member hid
    contradiction
  · rfl

end Envelope

/-! ## The normal model -/

namespace Model

variable {model normal : Model} {operation shape : Shape} {e : Envelope}

/-- What is written at a reserved id of a plain model is not in the way of anything. -/
lemma get?_of_reserves (hmodel : model.WellFormed) (hplain : model.IsPlain) {id : ShapeId}
    (h : model.Reserves id) :
    model.get? id = none := by
  by_contra hsome
  obtain ⟨shape, hget⟩ := Option.ne_none_iff_exists'.1 hsome
  obtain rfl := hmodel.id_eq hget
  exact hplain.ns shape ((mem_toList_iff hmodel).2 hget) (ns_of_reserves h)

/-- Every part of an envelope stands where it is written. -/
lemma get?_of_mem_made (hmodel : model.WellFormed) (hprelude : HasPrelude model.shapes)
    (hplain : model.IsPlain) (hnormal : model.normalize = .ok normal)
    (hget : model.get? operation.id = some operation) (hoperation : operation.isOperation = true)
    (hmade : shape ∈ e.made model operation) :
    normal.get? shape.id = some shape := by
  have hreserved : model.Reserves shape.id :=
    reserves_iff.2 ⟨operation, e, shape, hget, hoperation, hmade, rfl⟩
  have hfree : ∀ other, model.get? shape.id = some other → other.isOperation = false := by
    simp [get?_of_reserves hmodel hplain hreserved]
  obtain ⟨last, hlast⟩ := (exists_lastWritten?_iff hmodel hfree).2 hreserved
  obtain ⟨owner, e', howner, hisOperation, hmade', hid⟩ :=
    exists_made_of_lastWritten? hmodel hlast hfree
  obtain ⟨_, _, rfl⟩ :=
    Envelope.eq_of_mem_made hmodel hplain hget hoperation howner hisOperation hmade hmade' hid.symm
  rw [get?_of_normalize hmodel hprelude hnormal, hlast, Option.some_or]

/-- The envelope that is written for an operation is one. -/
lemma wraps_record (hmodel : model.WellFormed) (hprelude : HasPrelude model.shapes)
    (hplain : model.IsPlain) (hnormal : model.normalize = .ok normal)
    (hget : model.get? operation.id = some operation) (hoperation : operation.isOperation = true)
    (hbare : e.isWrapped model operation = false) :
    e.Wraps model normal operation.id (e.source? model operation) (e.record model operation) := by
  have hstands : ∀ {shape : Shape}, shape ∈ e.made model operation →
      normal.get? shape.id = some shape :=
    get?_of_mem_made hmodel hprelude hplain hnormal hget hoperation
  have hrecord : normal.get? (e.record model operation).id = some (e.record model operation) :=
    hstands (Envelope.record_mem_made hbare)
  have htraits := Envelope.get?_traits_record e model operation
  constructor
  · exact hrecord
  · show ShapeBody.record _ = _
    rw [Envelope.ids_copies hplain]
    rfl
  · rw [htraits, if_pos rfl]
  · intro kind hkind hne
    rw [htraits, if_neg hne]
    simp only [List.mem_cons, List.not_mem_nil, or_false] at hkind
    rcases hkind with rfl | rfl <;> simp
  · intro kind hkind
    simp only [List.mem_cons, List.not_mem_nil, or_false, not_or] at hkind
    have hne : kind ≠ (e.marker operation.id).kind := by
      cases e
      · exact hkind.1
      · exact hkind.2
    rw [htraits, if_neg hne, if_neg hkind.2, if_neg hkind.1]
  · intro id hmem
    obtain ⟨source, hsource, hid⟩ := Envelope.mem_sourceMembers_iff.1 hmem
    obtain ⟨key, _, hfound⟩ := Envelope.source?_eq_some.1 hsource
    obtain ⟨_, _, member, hmember, hisMember⟩ :=
      hplain.own source (OrderedMap.mem_values.2 ⟨key, hfound⟩) id hid
    obtain ⟨target, htarget⟩ := Shape.isMember_iff.1 hisMember
    let copy : Shape :=
      ⟨(e.id operation.id).withMember id.lastName, member.traits.insert (.refactoredMember id),
      .member (e.id operation.id) target⟩
    have hcopy : copy ∈ e.copies model operation :=
      Envelope.mem_copies_iff.2 ⟨id, hmem, member, target, hmember, htarget, rfl⟩
    have hcopied : normal.get? copy.id = some copy :=
      hstands (Envelope.mem_made_iff.2 ⟨hbare, .inl hcopy⟩)
    refine ⟨member, target, copy, hmember, htarget, hcopied, rfl, ?_, ?_⟩
    · rw [Traits.get?_insert]
      exact if_pos rfl
    · intro kind hne
      rw [Traits.get?_insert]
      exact if_neg hne

/-- What an operation names after normalization is what it should name. -/
lemma names_place (hmodel : model.WellFormed) (hprelude : HasPrelude model.shapes)
    (hplain : model.IsPlain) (hnormal : model.normalize = .ok normal)
    (hget : model.get? operation.id = some operation) (hoperation : operation.isOperation = true)
    (e : Envelope) :
    e.Names model normal operation.id (e.reference? operation) (e.place model operation) := by
  rcases Envelope.place_cases hmodel e operation with
    ⟨source, _, hmarks, href, hfound⟩ | ⟨hbare, hplace⟩
  · exact .same href hfound hmarks
  · rw [hplace]
    refine .own (fun id href source hfound => ?_)
      (wraps_record hmodel hprelude hplain hnormal hget hoperation hbare)
    exact Envelope.isWrapped_eq_false_iff.1 hbare source
      (Envelope.source?_eq_some.2 ⟨id, href, hfound⟩)

/-- Nothing is written over a shape of a plain model but operations over themselves, so no marker is
lost. -/
lemma keepsMarkers_of_isPlain (hmodel : model.WellFormed) (hplain : model.IsPlain) :
    model.KeepsMarkers := by
  intro operation e source hget hoperation hsource hmarks shape hlast
  obtain ⟨id, _, hfound⟩ := Envelope.source?_eq_some.1 hsource
  obtain rfl := hmodel.id_eq hfound
  by_cases hisOperation : source.isOperation = true
  · rw [lastWritten?_of_operation hmodel hfound hisOperation, Option.some.injEq] at hlast
    rw [← hlast, wrapped_traits, hmarks]
  · have hother : ∀ other, model.get? source.id = some other → other.isOperation = false := by
      simp [hfound, hisOperation]
    have hreserved := (exists_lastWritten?_iff hmodel hother).1 ⟨shape, hlast⟩
    rw [get?_of_reserves hmodel hplain hreserved] at hfound
    contradiction

/-- Normalizing a plain model a second time changes nothing. -/
theorem normalize_of_normalize_of_isPlain (hmodel : model.IsBuilt) (hplain : model.IsPlain)
    (hnormal : model.normalize = .ok normal) : normal.normalize = .ok normal :=
  normalize_of_keepsMarkers hmodel.wellFormed hmodel.hasPrelude hnormal
    (keepsMarkers_of_isPlain hmodel.wellFormed hplain)

/-- Two operations share no envelope that is new. -/
lemma eq_of_place_eq (hmodel : model.WellFormed) (hplain : model.IsPlain) {other : Shape}
    {e' : Envelope} (hget : model.get? operation.id = some operation)
    (hoperation : operation.isOperation = true) (hget' : model.get? other.id = some other)
    (hoperation' : other.isOperation = true) (hbare : e.isWrapped model operation = false)
    (hplace : e.place model operation = e'.place model other) :
    operation = other ∧ e = e' := by
  have hmade := Envelope.record_mem_made hbare
  have hreserved : model.Reserves (e.id operation.id) :=
    reserves_iff.2 ⟨operation, e, _, hget, hoperation, hmade, rfl⟩
  have hown : e.place model operation = e.id operation.id := Envelope.place_eq_id hbare
  rcases Envelope.place_cases hmodel e' other with ⟨_, _, _, _, hfound⟩ | ⟨hbare', hown'⟩
  · rw [← hplace, hown, get?_of_reserves hmodel hplain hreserved] at hfound
    contradiction
  · rw [hown, hown'] at hplace
    obtain ⟨he, hsame, _⟩ :=
      Envelope.eq_of_mem_made hmodel hplain hget hoperation hget' hoperation' hmade
      (Envelope.record_mem_made hbare') hplace
    exact ⟨hsame, he⟩

/-- Normalizing a plain model goes well. Operations keep their traits and errors, and name envelopes
that carry the marker for them; two operations share no new envelope; all other shapes stay, and
only parts of envelopes are added. -/
theorem normalize_of_isPlain (hmodel : model.IsBuilt) (hplain : model.IsPlain) :
    ∃ normal, model.normalize = .ok normal ∧
    (∀ id traits input output errors,
      model.get? id = some ⟨id, traits, .operation input output errors⟩ →
      ∃ input' output', normal.get? id =
        some ⟨id, traits, .operation (some input') (some output') errors⟩ ∧
        Envelope.input.Names model normal id input input' ∧
        Envelope.output.Names model normal id output output') ∧
    (∀ a b a' b' (e e' : Envelope) named, model.get? a.id = some a → model.get? b.id = some b →
      (∀ source ∈ e.source? model a, Envelope.marks source.traits e = false) →
      normal.get? a.id = some a' → normal.get? b.id = some b' →
      e.reference? a' = some named → e'.reference? b' = some named → a = b ∧ e = e') ∧
    (∀ id shape, model.get? id = some shape → shape.isOperation = false →
      normal.get? id = some shape) ∧
    (∀ id, (normal.get? id).isSome → (model.get? id).isSome ∨ model.Reserves id) := by
  have hwell := hmodel.wellFormed
  have hprelude := hmodel.hasPrelude
  obtain ⟨normal, hnormal, hview⟩ := exists_normalize hwell hprelude
  refine ⟨normal, hnormal, ?_, ?_, ?_, ?_⟩
  · intro id traits input output errors hget
    let operation : Shape := ⟨id, traits, .operation input output errors⟩
    have hfound : model.get? operation.id = some operation := hget
    have hstands := get?_wrapped_of_normalize hwell hprelude hnormal hfound rfl
    have hnames := names_place hwell hprelude hplain hnormal hfound rfl
    exact ⟨_, _, hstands, hnames .input, hnames .output⟩
  · intro a b a' b' e e' named hgeta hgetb hbare hgeta' hgetb' hrefa hrefb
    have hoperation : ∀ {e : Envelope} {a a' : Shape}, model.get? a.id = some a →
        normal.get? a.id = some a' →
        e.reference? a' = some named → a.isOperation = true ∧ e.place model a = named := by
      intro e a a' hget hget' href
      obtain ⟨operation, _, hfound, hisOperation, rfl⟩ :=
        isOperation_of_normalize hwell hprelude hnormal hget'
        (Envelope.isOperation_of_reference? href)
      obtain rfl := Option.some.inj (hget.symm.trans hfound)
      rw [reference?_wrapped hisOperation] at href
      exact ⟨hisOperation, Option.some.inj href⟩
    obtain ⟨hopa, hplacea⟩ := hoperation hgeta hgeta' hrefa
    obtain ⟨hopb, hplaceb⟩ := hoperation hgetb hgetb' hrefb
    exact eq_of_place_eq hwell hplain hgeta hopa hgetb hopb
      (Envelope.isWrapped_eq_false_iff.2 hbare) (hplacea.trans hplaceb.symm)
  · intro id shape hget hshape
    have hother : ∀ other, model.get? id = some other → other.isOperation = false := by
      simp [hget, hshape]
    have hnone : model.lastWritten? id = none := by
      by_contra hsome
      have hreserved :=
        (exists_lastWritten?_iff hwell hother).1 (Option.ne_none_iff_exists'.1 hsome)
      simp [get?_of_reserves hwell hplain hreserved] at hget
    rw [hview, hnone, Option.none_or, hget]
  · intro id hsome
    cases hget : model.get? id with
    | some shape => exact .inl rfl
    | none =>
      rw [hview, hget, Option.or_none] at hsome
      exact .inr ((exists_lastWritten?_iff hwell (by simp [hget])).1
        (Option.isSome_iff_exists.1 hsome))

/-! ## One input for two operations -/

/-- The input of both operations. -/
def sharedInput : Shape :=
  { id := ⟨"ex", "In", none⟩, body := .record [⟨"ex", "In", some "a"⟩, ⟨"ex", "In", some "b"⟩] }

def firstOfTwo : Shape :=
  { id := ⟨"ex", "First", none⟩, body := .operation (some sharedInput.id) none [] }

/-- The second operation has an output that is marked as its envelope. -/
def secondOfTwo : Shape :=
  { id := ⟨"ex", "Second", none⟩,
    body := .operation (some sharedInput.id) (some ⟨"ex", "Own", none⟩) [] }

/-- Two operations with one input of two members. -/
def shared : List Shape :=
  [firstOfTwo, secondOfTwo, sharedInput,
    .ofMember ⟨"ex", "In", some "a"⟩ ⟨"smithy.api", "String", none⟩,
    .ofMember ⟨"ex", "In", some "b"⟩ sharedInput.id,
    { id := ⟨"ex", "Own", none⟩, traits := ({} : Traits).insert (.syntheticOutput secondOfTwo.id),
      body := .record [] }]

/-- Two operations with one input name different ones afterwards, and the input stays. -/
theorem normalize_of_shared : ∃ normal, (ofShapes shared).normalize = .ok normal ∧
    normal.get? sharedInput.id = some sharedInput ∧ ∃ first second given given',
      normal.get? firstOfTwo.id =
        some { firstOfTwo with body := .operation (some first) (some given) [] } ∧
      normal.get? secondOfTwo.id =
        some { secondOfTwo with body := .operation (some second) (some given') [] } ∧
      first ≠ second := by
  have hfacts : (Draft.ofList shared).build.toOption.isSome = true ∧ (ofShapes shared).IsPlain ∧
      (ofShapes shared).get? firstOfTwo.id = some firstOfTwo ∧
      (ofShapes shared).get? secondOfTwo.id = some secondOfTwo ∧
      (ofShapes shared).get? sharedInput.id = some sharedInput := by
    decide +kernel
  obtain ⟨hbuild, hplain, hfirst, hsecond, hinput⟩ := hfacts
  obtain ⟨normal, hnormal, hoperations, hapart, hkept, _⟩ :=
    normalize_of_isPlain (isBuilt_of_isSome hbuild) hplain
  obtain ⟨first, given, hfirst', _⟩ := hoperations _ _ _ _ _ hfirst
  obtain ⟨second, given', hsecond', _⟩ := hoperations _ _ _ _ _ hsecond
  refine ⟨normal, hnormal, hkept _ _ hinput rfl, first, second, given, given', hfirst',
    hsecond', ?_⟩
  rintro rfl
  have hbare : ∀ source ∈ Envelope.input.source? (ofShapes shared) firstOfTwo,
      Envelope.marks source.traits .input = false := by
    intro source hsource
    obtain ⟨id, href, hget⟩ := Envelope.source?_eq_some.1 hsource
    obtain rfl : sharedInput.id = id := Option.some.inj href
    obtain rfl := Option.some.inj (hinput.symm.trans hget)
    rfl
  have hsame :=
    (hapart firstOfTwo secondOfTwo _ _ .input .input first hfirst hsecond hbare hfirst'
      hsecond' rfl rfl).1
  exact absurd hsame (by decide)

end Model

end SdkForge
