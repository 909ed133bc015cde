import SdkForge.Model.Document
import SdkForge.Proofs.Model.Draft
import SdkForge.Proofs.Outcome
import SdkForge.Proofs.ShapeId

/-!
# Models that are read from documents

The entries of a document become shapes, which are put into a draft one after the other. A member
goes in beside its shape, under an id that can be the key of another entry.

* `Document.Distinct` says that no key of a document stands twice; `distinct_of_ofJson?` that this
  holds of what was read.
* `Document.exists_describes` takes the shapes of an entry apart: members, and the shape that lists
  them.
* `Document.eq_of_id_eq` says when no two shapes have one id, and
  `Model.faithful_iff_memberKeysApart` that it is only then that the model has all that the document
  describes.
-/

namespace SdkForge

open Outcome

/-! ## Keys of a document -/

namespace Document

variable {α : Type} {read : JsonValue → Option α} {json : JsonValue} {entries : List (String × α)}

lemma nodup_put (h : (entries.map (·.1)).Nodup) (entry : String × α) :
    ((entries?.put entries entry).map (·.1)).Nodup := by
  unfold entries?.put
  split
  · have hkeys :
        (entries.map fun e => if e.1 == entry.1 then entry else e).map (·.1) =
          entries.map (·.1) := by
      rw [List.map_map]
      refine List.map_congr_left fun e _ => ?_
      by_cases heq : e.1 = entry.1 <;> simp [heq]
    rwa [hkeys]
  · next hfresh =>
    rw [List.map_append, List.map_singleton, List.nodup_append]
    refine ⟨h, List.nodup_singleton _, fun key hkey other hother heq => hfresh ?_⟩
    obtain ⟨e, hmem, rfl⟩ := List.mem_map.1 hkey
    exact List.any_eq_true.2 ⟨e, hmem, beq_iff_eq.2 (heq.trans (List.mem_singleton.1 hother))⟩

lemma mem_put {entry e : String × α} (h : e ∈ entries?.put entries entry) :
    e ∈ entries ∨ e = entry := by
  unfold entries?.put at h
  split at h
  · obtain ⟨old, hmem, rfl⟩ := List.mem_map.1 h
    split
    · exact .inr rfl
    · exact .inl hmem
  · simpa using h

/-- Entries that are put in one after the other: no key stands twice, and all come from those that
were put in. -/
lemma foldl_put (found : List (String × α)) (h : (entries.map (·.1)).Nodup) :
    ((found.foldl entries?.put entries).map (·.1)).Nodup ∧
      ∀ e ∈ found.foldl entries?.put entries, e ∈ entries ∨ e ∈ found := by
  induction found generalizing entries with
  | nil => exact ⟨h, fun e hmem => .inl hmem⟩
  | cons first rest ih =>
    obtain ⟨hnodup, hmem⟩ := ih (nodup_put h first)
    refine ⟨hnodup, fun e he => ?_⟩
    rcases hmem e he with hput | hrest
    · rcases mem_put hput with hold | rfl
      · exact .inl hold
      · exact .inr List.mem_cons_self
    · exact .inr (List.mem_cons_of_mem _ hrest)

lemma exists_of_mem_mapM? {β γ : Type} {f : β → Option γ} {l : List β} {r : List γ}
    (h : l.mapM f = some r) {c : γ} (hmem : c ∈ r) : ∃ b ∈ l, f b = some c := by
  induction l generalizing r with
  | nil =>
    obtain rfl := Option.some.inj h
    contradiction
  | cons first rest ih =>
    simp only [List.mapM_cons, Option.bind_eq_bind, Option.bind_eq_some_iff, Option.pure_def,
      Option.some.injEq] at h
    obtain ⟨value, hfirst, values, hrest, rfl⟩ := h
    rcases List.mem_cons.1 hmem with rfl | hmem
    · exact ⟨first, List.mem_cons_self, hfirst⟩
    · obtain ⟨b, hb, hc⟩ := ih hrest hmem
      exact ⟨b, List.mem_cons_of_mem _ hb, hc⟩

/-- No key of a map stands twice, and its values were read. -/
lemma of_entries? (h : entries? read json = some entries) :
    (entries.map (·.1)).Nodup ∧ ∀ entry ∈ entries, ∃ json, read json = some entry.2 := by
  unfold entries? at h
  split at h
  · next fields =>
    simp only [Option.bind_eq_bind, Option.bind_eq_some_iff, Option.pure_def,
      Option.some.injEq] at h
    obtain ⟨found, hfound, rfl⟩ := h
    have hempty : (([] : List (String × α)).map (·.1)).Nodup := List.nodup_nil
    obtain ⟨hnodup, hmem⟩ := foldl_put found hempty
    refine ⟨hnodup, fun entry hentry => ?_⟩
    have hentry : entry ∈ found := (hmem entry hentry).resolve_left List.not_mem_nil
    obtain ⟨⟨name, json⟩, _, hread⟩ := exists_of_mem_mapM? hfound hentry
    simp only [Option.bind_eq_some_iff, Option.some.injEq] at hread
    obtain ⟨key, _, value, hvalue, rfl⟩ := hread
    exact ⟨json, hvalue⟩
  · contradiction

/-- What is read from a place is read from a value, or stands for a value that is missing. -/
lemma orDefault_eq_some {default value : α} {place : Place}
    (h : place.orDefault default read = some value) :
    (∃ json, read json = some value) ∨ value = default := by
  cases place with
  | given json => exact .inl ⟨json, h⟩
  | absent | beyond => exact .inr (Option.some.inj h).symm

/-- No key stands twice in a document, nor among the members of a shape: where a text repeats a key,
what it says last counts. -/
structure Distinct (document : Document) : Prop where
  keys : (document.shapes.map (·.1)).Nodup
  members : ∀ entry ∈ document.shapes, (entry.2.members.map (·.1)).Nodup

lemma nodup_members_of_shapeEntry? {entry : ShapeEntry} (h : shapeEntry? json = some entry) :
    (entry.members.map (·.1)).Nodup := by
  unfold shapeEntry? at h
  simp only [Option.bind_eq_bind, Option.bind_eq_some_iff] at h
  obtain ⟨found, _, h⟩ := h
  split at h
  · simp only [Option.bind_eq_some_iff, Option.pure_def, Option.some.injEq] at h
    obtain ⟨_, _, members, hmembers, _, _, _, _, _, _, _, _, _, _, _, _, _, _, _, _, _, _, rfl⟩ := h
    rcases orDefault_eq_some hmembers with ⟨_, hread⟩ | rfl
    · exact (of_entries? hread).1
    · exact List.nodup_nil
  · contradiction

/-- A document that was read has no key twice. -/
theorem distinct_of_ofJson? {document : Document} (h : ofJson? json = some document) :
    document.Distinct := by
  unfold ofJson? at h
  simp only [Option.bind_eq_bind, Option.bind_eq_some_iff] at h
  obtain ⟨found, _, h⟩ := h
  split at h
  · simp only [Option.bind_eq_some_iff, Option.pure_def, Option.some.injEq] at h
    obtain ⟨shapes, hshapes, rfl⟩ := h
    rcases orDefault_eq_some hshapes with ⟨_, hread⟩ | rfl
    · obtain ⟨hnodup, hall⟩ := of_entries? hread
      refine ⟨hnodup, fun entry hmem => ?_⟩
      obtain ⟨_, hentry⟩ := hall entry hmem
      exact nodup_members_of_shapeEntry? hentry
    · exact ⟨List.nodup_nil, nofun⟩
  · contradiction

end Document

/-! ## Shapes of an entry -/

/-- The members that a shape lists: of a structure or union, of a list, and the key and value of a
map. -/
def Shape.parts (shape : Shape) : List ShapeId :=
  match shape.body with
  | .record members | .union members => members
  | .list member => [member]
  | .map key value => [key, value]
  | _ => []

/-- The members that an entry describes, by their names. -/
def ShapeEntry.parts (entry : ShapeEntry) : List (String × MemberEntry) :=
  match entry.kind with
  | "structure" | "union" => entry.members
  | "list" | "set" => entry.member.toList.map (("member", ·))
  | "map" => entry.key.toList.map (("key", ·)) ++ entry.value.toList.map (("value", ·))
  | _ => []

lemma ShapeEntry.nodup_parts {entry : ShapeEntry} (h : (entry.members.map (·.1)).Nodup) :
    (entry.parts.map (·.1)).Nodup := by
  unfold parts
  split
  · exact h
  · exact h
  · cases entry.member <;> simp
  · cases entry.member <;> simp
  · cases entry.key <;> cases entry.value <;> simp
  · exact List.nodup_nil

namespace Document

variable {rawId : String} {entry : ShapeEntry} {id : ShapeId}

/-- The member of a name that an entry describes. -/
def readPart (id : ShapeId) (part : String × MemberEntry) : Except ModelError Shape :=
  readMember id part.1 part.2

/-- A member stands in the shape that its id names, and has the target and the traits that are
described. -/
lemma readMember_eq_ok {name : String} {described : MemberEntry} {member : Shape}
    (h : readMember id name described = .ok member) :
    ∃ target traits, ShapeId.read described.target = .ok target ∧
      readTraits (id.withMember name) described.traits = .ok traits ∧
      member = { id := id.withMember name, traits, body := .member id.root target } := by
  simp only [readMember, bind_eq_ok, pure_eq_ok] at h
  obtain ⟨target, htarget, traits, htraits, rfl⟩ := h
  exact ⟨target, traits, htarget, htraits, rfl⟩

/-- A kind without parts has none, whatever the entry says of members. -/
lemma parts_of_simpleBody? {body : ShapeBody} (h : simpleBody? entry.kind = some body)
    (id : ShapeId) (traits : Traits) :
    entry.parts = [] ∧ Shape.parts ⟨id, traits, body⟩ = [] ∧
    Shape.container? ⟨id, traits, body⟩ = none := by
  unfold simpleBody? at h
  split at h
  all_goals first
    | contradiction
    | next hkind =>
      obtain rfl := Option.some.inj h
      simp only [ShapeEntry.parts, hkind]
      exact ⟨rfl, rfl, rfl⟩

/-- A body lists the members that are described, and is not that of a member. -/
lemma readBody_eq_ok {members : List Shape} {body : ShapeBody}
    (h : readBody id entry = .ok (members, body)) (traits : Traits) :
    entry.parts.mapM (readPart id) = .ok members ∧
    Shape.parts ⟨id, traits, body⟩ = members.map (·.id) ∧
      Shape.container? ⟨id, traits, body⟩ = none := by
  unfold readBody at h
  split at h
  case h_1 hkind | h_2 hkind =>
    simp only [bind_eq_ok, pure_eq_ok, Prod.mk.injEq] at h
    obtain ⟨found, hfound, rfl, rfl⟩ := h
    refine ⟨?_, rfl, rfl⟩
    simp only [ShapeEntry.parts, hkind]
    exact hfound
  case h_3 hkind | h_4 hkind =>
    simp only [bind_eq_ok, pure_eq_ok, elim_eq_ok, Prod.mk.injEq] at h
    obtain ⟨described, hdescribed, member, hmember, rfl, rfl⟩ := h
    refine ⟨?_, rfl, rfl⟩
    simp only [ShapeEntry.parts, hkind, hdescribed]
    exact mapM_eq_ok_of_forall (g := fun _ => member) (by simpa [readPart] using hmember)
  case h_5 hkind =>
    simp only [bind_eq_ok, pure_eq_ok, elim_eq_ok, Prod.mk.injEq] at h
    obtain ⟨describedKey, hkey, describedValue, hvalue, key, hreadKey, value,
        hreadValue, rfl, rfl⟩ := h
    refine ⟨?_, rfl, rfl⟩
    simp only [ShapeEntry.parts, hkind, hkey, hvalue]
    show [("key", describedKey), ("value", describedValue)].mapM (readPart id) = _
    rw [List.mapM_cons, List.mapM_cons, readPart, readPart, hreadKey, hreadValue]
    rfl
  case h_6 hkind =>
    simp only [bind_eq_ok, pure_eq_ok, Prod.mk.injEq] at h
    obtain ⟨input, _, output, _, errors, _, rfl, rfl⟩ := h
    simp only [ShapeEntry.parts, hkind]
    exact ⟨rfl, rfl, rfl⟩
  case h_7 hkind =>
    simp only [bind_eq_ok, pure_eq_ok, Prod.mk.injEq] at h
    obtain ⟨operations, _, rfl, rfl⟩ := h
    simp only [ShapeEntry.parts, hkind]
    exact ⟨rfl, rfl, rfl⟩
  case h_8 =>
    cases hsimple : simpleBody? entry.kind with
    | none => simp [hsimple] at h
    | some found =>
      simp only [hsimple, Option.elim_some, Except.ok.injEq, Prod.mk.injEq] at h
      obtain ⟨rfl, rfl⟩ := h
      obtain ⟨hparts, hbody⟩ := parts_of_simpleBody? hsimple id traits
      rw [hparts]
      exact ⟨rfl, hbody⟩

/-- What an entry describes: a shape under the id that is its key, and the members that the shape
lists. -/
structure Describes (rawId : String) (entry : ShapeEntry) (id : ShapeId) (members : List Shape)
    (own : Shape) : Prop where
  id_read : ShapeId.read rawId = .ok id
  own_id : own.id = id
  members_read : entry.parts.mapM (readPart id) = .ok members
  parts_eq : own.parts = members.map (·.id)
  container_eq : own.container? = none
  shapes_read : readShape rawId entry = .ok (members ++ [own])

lemma exists_describes {shapes : List Shape} (h : readShape rawId entry = .ok shapes) :
    ∃ id members own, Describes rawId entry id members own ∧ shapes = members ++ [own] := by
  have hread := h
  simp only [readShape, bind_eq_ok, pure_eq_ok] at h
  obtain ⟨id, hid, ⟨members, body⟩, hbody, traits, _, rfl⟩ := h
  obtain ⟨hmembers, hparts, hcontainer⟩ :=
    readBody_eq_ok hbody (if entry.kind = "enum" then traits.insert (.enum (enumValues entry))
      else traits)
  exact ⟨id, members, _, ⟨hid, rfl, hmembers, hparts, hcontainer, hread⟩, rfl⟩

/-- A shape of an entry is the shape under its key, or a member that it describes. -/
lemma Describes.eq_or_exists_part {members : List Shape} {own shape : Shape}
    (h : Describes rawId entry id members own) (hmem : shape ∈ members ++ [own]) :
    shape = own ∨ ∃ part ∈ entry.parts, readPart id part = .ok shape ∧
      shape.id = id.withMember part.1 := by
  rcases List.mem_append.1 hmem with hmem | hmem
  · obtain ⟨part, hpart, hread⟩ := exists_of_mem_mapM h.members_read hmem
    obtain ⟨target, traits, _, _, rfl⟩ := readMember_eq_ok hread
    exact .inr ⟨part, hpart, hread, rfl⟩
  · exact .inl (List.mem_singleton.1 hmem)

/-! ## Shapes of a document -/

variable {document : Document} {shape other : Shape}

/-- An entry of the document makes the shape. -/
def Makes (document : Document) (shape : Shape) : Prop :=
  ∃ entry ∈ document.shapes, ∃ shapes, readShape entry.1 entry.2 = .ok shapes ∧ shape ∈ shapes

/-- The draft of a document is made of its shapes. -/
lemma exists_of_draft {draft : Model.Draft} (h : document.draft = .ok draft) :
    ∃ shapes, draft = .ofList shapes ∧ (∀ shape, shape ∈ shapes ↔ document.Makes shape) ∧
      ∀ entry ∈ document.shapes, ∃ shapes, readShape entry.1 entry.2 = .ok shapes := by
  simp only [Document.draft, bind_eq_ok, pure_eq_ok] at h
  obtain ⟨lists, hlists, rfl⟩ := h
  refine ⟨lists.flatten, rfl, fun shape => ?_, fun entry hmem => ?_⟩
  · rw [List.mem_flatten]
    constructor
    · rintro ⟨shapes, hshapes, hmem⟩
      obtain ⟨entry, hentry, hread⟩ := exists_of_mem_mapM hlists hshapes
      exact ⟨entry, hentry, shapes, hread, hmem⟩
    · rintro ⟨entry, hentry, shapes, hread, hmem⟩
      obtain ⟨found, hfound, hread'⟩ := exists_mem_of_mapM hlists hentry
      obtain rfl := Except.ok.inj (hread.symm.trans hread')
      exact ⟨shapes, hfound, hmem⟩
  · obtain ⟨shapes, _, hread⟩ := exists_mem_of_mapM hlists hmem
    exact ⟨shapes, hread⟩

/-- Entries whose keys are ids of members are apart from all members: they describe none, and no
other entry describes one of their id. -/
def MemberKeysApart (document : Document) : Prop :=
  ∀ entry ∈ document.shapes, ∀ id name, ShapeId.read entry.1 = .ok id → id.member = some name →
    entry.2.parts = [] ∧
      ∀ other ∈ document.shapes, ShapeId.read other.1 = .ok id.root → name ∉ other.2.parts.map (·.1)

lemma read_eq_ok {text : String} {id : ShapeId} :
    ShapeId.read text = .ok id ↔ ShapeId.parse text = .ok id := by
  unfold ShapeId.read
  cases ShapeId.parse text <;> simp [Except.mapError]

/-- An id is the key of one entry only. -/
lemma Distinct.eq_of_read (h : document.Distinct) {entry other : String × ShapeEntry}
    (hentry : entry ∈ document.shapes) (hother : other ∈ document.shapes) {id : ShapeId}
    (hid : ShapeId.read entry.1 = .ok id) (hid' : ShapeId.read other.1 = .ok id) : entry = other :=
  List.inj_on_of_nodup_map h.keys hentry hother
    (ShapeId.parse_injective (read_eq_ok.1 hid) (read_eq_ok.1 hid'))

/-- Where keys are apart from members, only a shape describes members, not one of its members. -/
lemma MemberKeysApart.member_eq_none (h : document.MemberKeysApart) {entry : String × ShapeEntry}
    (hentry : entry ∈ document.shapes) {id : ShapeId} (hid : ShapeId.read entry.1 = .ok id)
    {part : String × MemberEntry} (hpart : part ∈ entry.2.parts) : id.member = none := by
  cases hmember : id.member with
  | none => rfl
  | some name =>
    rw [(h entry hentry id name hid hmember).1] at hpart
    contradiction

/-- Where keys are apart from members, no two shapes of a document have one id. -/
theorem eq_of_id_eq (hdistinct : document.Distinct) (hapart : document.MemberKeysApart)
    (hshape : document.Makes shape) (hother : document.Makes other) (hid : shape.id = other.id) :
    shape = other := by
  obtain ⟨entry, hentry, shapes, hread, hmem⟩ := hshape
  obtain ⟨entry', hentry', shapes', hread', hmem'⟩ := hother
  obtain ⟨id, members, own, h, rfl⟩ := exists_describes hread
  obtain ⟨id', members', own', h', rfl⟩ := exists_describes hread'
  -- a key that is the id of a member is apart from it
  have hclash :
      ∀ (entry entry' : String × ShapeEntry) (id id' : ShapeId) (part : String × MemberEntry),
      entry ∈ document.shapes → entry' ∈ document.shapes → ShapeId.read entry.1 = .ok id →
      ShapeId.read entry'.1 = .ok id' →
      part ∈ entry'.2.parts → id ≠ id'.withMember part.1 := by
    rintro entry entry' id id' part hentry hentry' hid hid' hpart rfl
    have hnone := hapart.member_eq_none hentry' hid' hpart
    have hroot : (id'.withMember part.1).root = id' := by
      obtain ⟨ns, name, member⟩ := id'
      obtain rfl : member = none := hnone
      rfl
    exact (hapart entry hentry _ part.1 hid rfl).2 entry' hentry' (hroot ▸ hid')
      (List.mem_map_of_mem hpart)
  rcases h.eq_or_exists_part hmem with rfl | ⟨part, hpart, hreadPart, hpartId⟩
  · rcases h'.eq_or_exists_part hmem' with rfl | ⟨part', hpart', _, hpartId'⟩
    · rw [h.own_id, h'.own_id] at hid
      obtain rfl := hid
      obtain rfl := hdistinct.eq_of_read hentry hentry' h.id_read h'.id_read
      have hsame := Except.ok.inj (h.shapes_read.symm.trans h'.shapes_read)
      exact List.singleton_inj.1 (List.append_inj_right' hsame rfl)
    · rw [h.own_id, hpartId'] at hid
      exact absurd hid (hclash entry entry' id id' part' hentry hentry' h.id_read h'.id_read hpart')
  · rcases h'.eq_or_exists_part hmem' with rfl | ⟨part', hpart', hreadPart', hpartId'⟩
    · rw [hpartId, h'.own_id] at hid
      exact absurd hid.symm (hclash entry' entry id' id part hentry' hentry h'.id_read
        h.id_read hpart)
    · have hnone := hapart.member_eq_none hentry h.id_read hpart
      have hnone' := hapart.member_eq_none hentry' h'.id_read hpart'
      rw [hpartId, hpartId'] at hid
      obtain ⟨rfl, hname⟩ : id = id' ∧ part.1 = part'.1 := by
        obtain ⟨ns, name, member⟩ := id
        obtain ⟨ns', name', member'⟩ := id'
        simp_all [ShapeId.withMember]
      obtain rfl := hdistinct.eq_of_read hentry hentry' h.id_read h'.id_read
      obtain rfl :=
        List.inj_on_of_nodup_map (ShapeEntry.nodup_parts (hdistinct.members entry hentry)) hpart
          hpart' hname
      exact Except.ok.inj (hreadPart.symm.trans hreadPart')

end Document

/-! ## Models -/

namespace Model

variable {document : Document} {model : Model}

/-- A shape that stands in a draft under its id stands there with the prelude, too. -/
lemma Draft.get?_withPrelude_of_some {shapes : OrderedMap ShapeId Shape} {id : ShapeId}
    {shape : Shape} (h : shapes.get? id = some shape) :
    (withPrelude shapes).get? id = some shape := by
  rw [get?_withPrelude, h, Option.some_or]

lemma Draft.get?_ofList_of_unique {shapes : List Shape} {shape : Shape} (hmem : shape ∈ shapes)
    (hunique : ∀ other ∈ shapes, other.id = shape.id → other = shape) :
    (ofList shapes).get? shape.id = some shape := by
  rw [ofList, get?_foldl_insert]
  cases hlast : (shapes.filter (·.id = shape.id)).getLast? with
  | none =>
    have hnone := List.filter_eq_nil_iff.1 (List.getLast?_eq_none_iff.1 hlast) shape hmem
    simp at hnone
  | some other =>
    obtain ⟨hother, hid⟩ := List.mem_filter.1 (List.mem_of_getLast? hlast)
    rw [hunique other hother (of_decide_eq_true hid)]
    rfl

/-- The model has all that the document describes. No entry replaces what another one describes, and
every member that a shape of the model lists is a member of that shape, with the target and the
traits that the document describes at this place. -/
structure Faithful (model : Model) (document : Document) : Prop where
  stands : ∀ entry ∈ document.shapes, ∃ shapes, Document.readShape entry.1 entry.2 = .ok shapes ∧
    ∀ shape ∈ shapes, model.get? shape.id = some shape
  parts : ∀ id shape, model.get? id = some shape → ∀ part ∈ shape.parts,
    ∃ entry ∈ document.shapes, ShapeId.read entry.1 = .ok id ∧
      ∃ name described target traits, (name, described) ∈ entry.2.parts ∧
        part = id.withMember name ∧
        ShapeId.read described.target = .ok target ∧
        Document.readTraits part described.traits = .ok traits ∧
        model.get? part = some { id := part, traits, body := .member id target }

/-- What is read from a text is made of a document. -/
lemma exists_of_ofText {text : String} (h : ofText text = .ok model) : ∃ document draft,
    (JsonValue.parse text).bind Document.ofJson? = some document ∧ document.draft = .ok draft ∧
    draft.build = .ok model := by
  simp only [ofText, bind_eq_ok, elim_eq_ok] at h
  obtain ⟨document, hdocument, draft, hdraft, hbuild⟩ := h
  exact ⟨document, draft, hdocument, hdraft, hbuild⟩

/-- A shape of the model is made by an entry, or comes from the prelude and lists no members. -/
lemma makes_or_parts_eq_nil {draft : Draft} (hdraft : document.draft = .ok draft)
    (hbuild : draft.build = .ok model) {id : ShapeId} {shape : Shape}
    (hget : model.get? id = some shape) :
    (document.Makes shape ∧ shape.id = id) ∨ shape.parts = [] := by
  obtain ⟨shapes, rfl, hshapes, _⟩ := Document.exists_of_draft hdraft
  rcases mem_or_mem_prelude_of_build hbuild hget with ⟨hmem, hid⟩ | hprelude
  · exact .inl ⟨(hshapes shape).1 hmem, hid⟩
  · have hplain : ∀ shape ∈ prelude, shape.parts = [] := by decide
    exact .inr (hplain shape hprelude)

/-- Where keys are apart from members, every shape of the document stands in the model. -/
lemma get?_of_makes (hdistinct : document.Distinct) (hapart : document.MemberKeysApart)
    {draft : Draft} (hdraft : document.draft = .ok draft) (hbuild : draft.build = .ok model)
    {shape : Shape} (hmakes : document.Makes shape) :
    model.get? shape.id = some shape := by
  obtain ⟨shapes, rfl, hshapes, _⟩ := Document.exists_of_draft hdraft
  have hunique : ∀ other ∈ shapes, other.id = shape.id → other = shape := fun other hmem hid =>
    Document.eq_of_id_eq hdistinct hapart ((hshapes other).1 hmem) hmakes hid
  rw [get?, (build_eq_ok hbuild).1]
  exact Draft.get?_withPrelude_of_some
    (Draft.get?_ofList_of_unique ((hshapes shape).2 hmakes) hunique)

/-- A faithful model keeps the keys of its document apart from members. -/
lemma Faithful.memberKeysApart (h : model.Faithful document) : document.MemberKeysApart := by
  intro entry hentry id name hid hmember
  obtain ⟨shapes, hread, hstands⟩ := h.stands entry hentry
  obtain ⟨id', members, own, hdescribes, rfl⟩ := Document.exists_describes hread
  obtain rfl := Except.ok.inj (hid.symm.trans hdescribes.id_read)
  have hown : model.get? id = some own := by
    have hown := hstands own (List.mem_append_right _ (List.mem_singleton_self own))
    rwa [hdescribes.own_id] at hown
  constructor
  · -- a member that the entry describes stands in the shape, not in what is a member itself
    refine List.eq_nil_iff_forall_not_mem.2 fun part hpart => ?_
    obtain ⟨member, hmem, hreadPart⟩ := exists_mem_of_mapM hdescribes.members_read hpart
    have hstanding := hstands member (List.mem_append_left _ hmem)
    have hlisted : member.id ∈ own.parts := hdescribes.parts_eq ▸ List.mem_map_of_mem hmem
    obtain ⟨_, _, _, _, _, _, _, _, _, _, _, hget⟩ := h.parts id own hown member.id hlisted
    obtain ⟨_, _, _, _, rfl⟩ := Document.readMember_eq_ok hreadPart
    have hroot : id.root = id :=
      congrArg (fun shape : Option Shape => (shape.bind (·.container?)).getD id)
      (hstanding.symm.trans hget)
    rw [← hroot] at hmember
    contradiction
  · -- a member that another entry describes does not stand beside a shape that is none
    rintro other hother hroot hname
    obtain ⟨part, hpart, rfl⟩ := List.mem_map.1 hname
    obtain ⟨shapes', hread', hstands'⟩ := h.stands other hother
    obtain ⟨root, members', own', hdescribes', rfl⟩ := Document.exists_describes hread'
    obtain rfl := Except.ok.inj (hroot.symm.trans hdescribes'.id_read)
    obtain ⟨member, hmem, hreadPart⟩ := exists_mem_of_mapM hdescribes'.members_read hpart
    have hstanding := hstands' member (List.mem_append_left _ hmem)
    obtain ⟨_, _, _, _, rfl⟩ := Document.readMember_eq_ok hreadPart
    have hsame : (id.root.withMember part.1) = id := by
      obtain ⟨ns, name, member⟩ := id
      obtain rfl : member = some part.1 := hmember
      rfl
    rw [hsame] at hstanding
    have hcontainer := hdescribes.container_eq
    rw [← Option.some.inj (hstanding.symm.trans hown)] at hcontainer
    contradiction

/-- A model whose document keeps keys apart from members is faithful. -/
lemma faithful_of_memberKeysApart (hdistinct : document.Distinct)
    (hapart : document.MemberKeysApart) {draft : Draft} (hdraft : document.draft = .ok draft)
    (hbuild : draft.build = .ok model) : model.Faithful document where
  stands entry hentry := by
    obtain ⟨_, _, _, hall⟩ := Document.exists_of_draft hdraft
    obtain ⟨shapes, hread⟩ := hall entry hentry
    exact ⟨shapes, hread, fun shape hmem => get?_of_makes hdistinct hapart hdraft hbuild ⟨entry,
      hentry, shapes, hread, hmem⟩⟩
  parts id shape hget listed hlisted := by
    rcases makes_or_parts_eq_nil hdraft hbuild hget with
      ⟨⟨entry, hentry, shapes, hread, hmem⟩, rfl⟩ | hnil
    · obtain ⟨id, members, own, hdescribes, rfl⟩ := Document.exists_describes hread
      rcases hdescribes.eq_or_exists_part hmem with rfl | ⟨part, _, hreadPart, _⟩
      · rw [hdescribes.parts_eq] at hlisted
        obtain ⟨member, hmember, rfl⟩ := List.mem_map.1 hlisted
        have hstanding := get?_of_makes hdistinct hapart hdraft hbuild
          ⟨entry, hentry, _, hread, List.mem_append_left _ hmember⟩
        obtain ⟨⟨name, described⟩, hpart, hreadPart⟩ :=
          exists_of_mem_mapM hdescribes.members_read hmember
        obtain ⟨target, traits, htarget, htraits, rfl⟩ := Document.readMember_eq_ok hreadPart
        have hroot : id.root = id := by
          have hnone := hapart.member_eq_none hentry hdescribes.id_read hpart
          obtain ⟨ns, name, member⟩ := id
          obtain rfl : member = none := hnone
          rfl
        rw [hroot] at hstanding
        rw [hdescribes.own_id]
        exact ⟨entry, hentry, hdescribes.id_read, name, described, target, traits, hpart, rfl,
          htarget, htraits, hstanding⟩
      · obtain ⟨_, _, _, _, rfl⟩ := Document.readMember_eq_ok hreadPart
        exact absurd hlisted List.not_mem_nil
    · rw [hnil] at hlisted
      exact absurd hlisted List.not_mem_nil

/-- A model has all that its document describes exactly if no entry stands for a member: the keys
that are ids of members belong to entries that describe no members, and no other entry describes a
member of such an id. -/
theorem faithful_iff_memberKeysApart {text : String} (h : ofText text = .ok model) :
    ∃ document, (JsonValue.parse text).bind Document.ofJson? = some document ∧
      (model.Faithful document ↔ document.MemberKeysApart) := by
  obtain ⟨document, draft, hdocument, hdraft, hbuild⟩ := exists_of_ofText h
  obtain ⟨json, _, hjson⟩ := Option.bind_eq_some_iff.1 hdocument
  have hdistinct := Document.distinct_of_ofJson? hjson
  exact ⟨document, hdocument, Faithful.memberKeysApart, fun hapart =>
    faithful_of_memberKeysApart hdistinct hapart hdraft hbuild⟩

/-! ## Documents with one structure -/

/-- A document with a structure of one member, and further entries. -/
def structureText (further : String) : String :=
  "\x7b\"shapes\": \x7b\"ex#S\": \x7b\"type\": \"structure\", \"members\": " ++
    "\x7b\"a\": \x7b\"target\": \"smithy.api#String\"\x7d\x7d\x7d" ++ further ++ "\x7d\x7d"

/-- An entry under the id of the structure's member. -/
def memberEntryText : String := ", \"ex#S$a\": \x7b\"type\": \"string\"\x7d"

theorem faithful_of_structureText : ∃ model document, ofText (structureText "") = .ok model ∧
    (JsonValue.parse (structureText "")).bind Document.ofJson? = some document ∧
    model.Faithful document ∧
    model.get? ⟨"ex", "S", some "a"⟩ =
      some (.ofMember ⟨"ex", "S", some "a"⟩ ⟨"smithy.api", "String", none⟩) := by
  obtain ⟨hmodel, hkeys⟩ :
      ((ofText (structureText "")).toOption.any fun model => model.get? ⟨"ex", "S", some "a"⟩ ==
        some (.ofMember ⟨"ex", "S", some "a"⟩ ⟨"smithy.api", "String", none⟩)) = true ∧
      (((JsonValue.parse (structureText "")).bind Document.ofJson?).all fun document =>
        document.shapes.all fun entry => (ShapeId.read entry.1).toOption.all (·.member.isNone)) =
          true := by
    decide +kernel
  obtain ⟨model, hread, hmember⟩ := (Option.any_eq_true _ _).1 hmodel
  have hread := toOption_eq_some.1 hread
  obtain ⟨document, hdocument, hiff⟩ := faithful_iff_memberKeysApart hread
  refine ⟨model, document, hread, hdocument, hiff.2 fun entry hentry id name hid hname => ?_,
    beq_iff_eq.1 hmember⟩
  -- no key is the id of a member
  rw [hdocument, Option.all_some, List.all_eq_true] at hkeys
  have hnone := hkeys entry hentry
  rw [hid] at hnone
  simp [Except.toOption, hname] at hnone

/-- The entry under the id of the member replaces the member that the structure lists. -/
theorem not_faithful_of_memberEntryText :
    ∃ model document, ofText (structureText memberEntryText) = .ok model ∧
    (JsonValue.parse (structureText memberEntryText)).bind Document.ofJson? = some document ∧
    ¬model.Faithful document ∧
    model.get? ⟨"ex", "S", none⟩ = some { id := ⟨"ex", "S", none⟩,
                                          body := .record [⟨"ex", "S", some "a"⟩] } ∧
    model.get? ⟨"ex", "S", some "a"⟩ = some { id := ⟨"ex", "S", some "a"⟩, body := .string } := by
  have hfacts : ((ofText (structureText memberEntryText)).toOption.any fun model =>
      model.get? ⟨"ex", "S", none⟩ ==
        some { id := ⟨"ex", "S", none⟩, body := .record [⟨"ex", "S", some "a"⟩] } &&
          model.get? ⟨"ex", "S", some "a"⟩ ==
            some { id := ⟨"ex", "S", some "a"⟩, body := .string }) = true := by
    decide +kernel
  obtain ⟨model, hread, hfacts⟩ := (Option.any_eq_true _ _).1 hfacts
  simp only [Bool.and_eq_true, beq_iff_eq] at hfacts
  obtain ⟨hstructure, hmember⟩ := hfacts
  have hread := toOption_eq_some.1 hread
  obtain ⟨document, _, hdocument, _⟩ := exists_of_ofText hread
  refine ⟨model, document, hread, hdocument, fun hfaithful => ?_, hstructure, hmember⟩
  -- what stands at the id of the member is no member
  obtain ⟨_, _, _, _, _, _, _, _, _, _, _, hget⟩ :=
    hfaithful.parts _ _ hstructure ⟨"ex", "S", some "a"⟩ List.mem_cons_self
  rw [hmember] at hget
  simp at hget

end Model

end SdkForge
