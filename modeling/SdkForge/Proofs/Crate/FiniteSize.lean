import SdkForge.Proofs.Pipeline

/-!
# Generated types have a finite size

A type that holds itself in place would need no end of space. A member through which a structure or
union leads back to itself is in a box, and no stage takes the box away.

* `HoldsInPlace` relates a structure or union to those that a member of it holds in place.
* `leads_of_holdsInPlace` says that the walk without collections follows the relation.
* `not_transGen_holdsInPlace` says that the relation has no cycle.
-/

namespace SdkForge

open Outcome PlainSymbols

/-! ## Types that hold values in place -/

namespace TypeExpr

/-- Whether a value of the type at the core stands in place, and not in memory of its own. -/
def isInPlace : TypeExpr → Bool
  | named .. => true
  | option inner | reference inner => inner.isInPlace
  | list _ | map .. | box _ => false

lemma isInPlace_boxed (type : TypeExpr) : type.boxed.isInPlace = false := by
  cases type <;> rfl

@[simp] lemma isInPlace_rename (newName : String) (type : TypeExpr) :
    (type.rename newName).isInPlace = type.isInPlace := by
  induction type <;> simp_all [rename, isInPlace]

end TypeExpr

/-! ## What a member leads to -/

namespace Model

variable {model : Model}

/-- The target of a member, followed through further members. -/
inductive FollowsMembers (model : Model) : Shape → Shape → Prop where
  | here {shape} (hmember : shape.isMember = false) : FollowsMembers model shape shape
  | next {shape target final} (htarget : shape.target?.bind model.get? = some target)
      (hrest : FollowsMembers model target final) : FollowsMembers model shape final

/-- The members that a structure or union lists are its own. -/
def OwnsMembers (model : Model) : Prop :=
  ∀ id holder, model.get? id = some holder → ∀ member ∈ holder.members,
    (model.get? member).bind (·.container?) = some id

/-- The walk goes from a member to its target, also where it does not enter collections. -/
lemma follows_target {shape target : Shape} (hmodel : model.WellFormed)
    (hget : model.get? shape.id = some shape)
    (htarget : shape.target?.bind model.get? = some target) :
    model.Follows .cut shape.id target.id ∧ model.get? target.id = some target := by
  obtain ⟨next, hnext, hfound⟩ := Option.bind_eq_some_iff.1 htarget
  obtain ⟨container, hbody⟩ := body_eq_of_target? hnext
  refine ⟨⟨shape, hget, ?_⟩, hmodel.get?_id hfound⟩
  rw [next_of_not_isCollection (by simp [Shape.isCollection, Shape.kind, hbody])]
  simp [Shape.references, hbody, hmodel.id_eq hfound]

lemma FollowsMembers.leads {shape final : Shape} (h : model.FollowsMembers shape final)
    (hmodel : model.WellFormed) (hget : model.get? shape.id = some shape) :
    model.Leads .cut shape.id final.id := by
  induction h with
  | here => exact .refl
  | next htarget _ ih =>
    obtain ⟨hstep, hfound⟩ := follows_target hmodel hget htarget
    exact .head hstep (ih hfound)

end Model

/-! ## Structures and unions -/

namespace Project

variable {p : Project}

/-- A structure or union has a member that holds another one in place. -/
def HoldsInPlace (p : Project) (holder held : ShapeId) : Prop :=
  ∃ shape final member symbol, p.model.get? holder = some shape ∧ shape.isAggregate = true ∧
    p.model.get? held = some final ∧ final.isAggregate = true ∧
    (∃ id ∈ shape.members, p.model.get? id = some member) ∧ p.model.FollowsMembers member final ∧
    p.symbolOf member = .ok symbol ∧ symbol.type.isInPlace = true

/-- A symbol that has not come to the boxes yet is in none. -/
lemma boxed_of_begun {shape : Shape} {first : Symbol} (h : p.begun shape = .ok first) :
    first.boxed = false := by
  rcases of_begun_eq_ok h with ⟨_, rfl⟩ | ⟨_, hplain⟩
  · rfl
  · obtain ⟨origin, plain, htyped, hown, hmade⟩ := exists_origin hplain
    have hplain : plain.boxed = false := by
      cases owned_of_own htyped.isHolder_origin hown <;> rfl
    by_contra hboxed
    rw [hmade.boxed (by simpa using hboxed)] at hplain
    contradiction

/-- A recursive member does not hold its target in place. -/
theorem isInPlace_of_isRecursive {shape : Shape} {symbol : Symbol}
    (h : p.symbolOf shape = .ok symbol)
    (hrecursive : SymbolStage.isRecursive p.model shape = true) :
    symbol.type.isInPlace = false := by
  obtain ⟨first, hfirst, rfl⟩ := symbolOf_eq_ok.1 h
  have hopen : (p.wrap shape first).boxed = false := by
    rw [boxed_wrap, boxed_of_begun hfirst]
  -- no earlier stage has marked the symbol as boxed, so that the box is put on
  have hbox :
      (SymbolStage.boxRecursive p.model shape (p.wrap shape first)).type =
        (p.wrap shape first).type.boxed := by
    rw [SymbolStage.boxRecursive, if_pos hrecursive, Symbol.box, hopen]
    rfl
  unfold finish SymbolStage.escapeReserved
  split
  · simp [Symbol.rename, hbox, TypeExpr.isInPlace_boxed]
  · simp [hbox, TypeExpr.isInPlace_boxed]

/-- The members that are held lead to what is held. -/
lemma leads_of_holdsInPlace (hmodel : p.model.WellFormed) {holder held : ShapeId}
    (h : p.HoldsInPlace holder held) :
    p.model.Leads .cut holder held := by
  obtain ⟨shape, final, member, symbol, hshape, haggregate, hfinal, _, ⟨id, hid, hmember⟩,
      hfollows, _, _⟩ := h
  have hnext : id ∈ Reach.cut.next shape := by
    obtain ⟨key, traits, body⟩ := shape
    cases body <;> simp_all [Reach.next, Shape.members, Shape.references,
      Shape.isCollection, Shape.kind]
  have hleads := hfollows.leads hmodel (hmodel.get?_id hmember)
  rw [hmodel.id_eq hmember, hmodel.id_eq hfinal] at hleads
  exact .head ⟨shape, hshape, hnext⟩ hleads

/-- A member of a structure or union that leads back to it is recursive. -/
lemma isRecursive_of_leads (hmodel : p.model.WellFormed) {holder : ShapeId}
    {shape member target : Shape} (hholder : p.model.get? holder = some shape)
    (haggregate : shape.isAggregate = true) (hcontainer : member.container? = some holder)
    (htarget : member.target?.bind p.model.get? = some target)
    (hleads : p.model.Leads .cut target.id holder) :
    SymbolStage.isRecursive p.model member = true := by
  obtain ⟨next, hnext, hfound⟩ := Option.bind_eq_some_iff.1 htarget
  obtain ⟨container, hbody⟩ := Model.body_eq_of_target? hnext
  obtain rfl : container = holder := by
    simpa [Shape.container?, hbody] using hcontainer
  rw [hmodel.id_eq hfound] at hleads
  have hreaches : p.model.reaches next container .cut = true :=
    (Model.reaches_iff hmodel).2 ⟨by simp [hholder], hleads⟩
  simp [SymbolStage.isRecursive, hbody, hholder, haggregate, hreaches]

/-- No structure or union holds itself in place, be it through others. -/
theorem not_transGen_holdsInPlace (hmodel : p.model.IsBuilt) (howns : p.model.OwnsMembers)
    (holder : ShapeId) :
    ¬Relation.TransGen p.HoldsInPlace holder holder := by
  intro hcycle
  have hmodel := hmodel.wellFormed
  obtain ⟨held, hstep, hpath⟩ := Relation.TransGen.head'_iff.1 hcycle
  -- the rest of the cycle leads from what is held back to the holder
  have hback : p.model.Leads .cut held holder :=
    hpath.lift' id fun a b hab => leads_of_holdsInPlace hmodel hab
  obtain ⟨shape, final, member, symbol, hshape, haggregate, hfinal, hheld, ⟨id, hid, hmember⟩,
      hfollows, hsymbol, hplace⟩ := hstep
  have hcontainer : member.container? = some holder := by
    simpa [hmember] using howns holder shape hshape id hid
  -- what is held is no member, so that the member of the holder leads somewhere
  cases hfollows with
  | here hnot =>
    obtain ⟨key, traits, body⟩ := final
    cases body <;> simp_all [Shape.isMember, Shape.kind, Shape.container?]
  | next htarget hrest =>
    have hfound := (Model.follows_target hmodel (hmodel.get?_id hmember) htarget).2
    have hleads := hrest.leads hmodel hfound
    rw [hmodel.id_eq hfinal] at hleads
    have hrecursive :=
      isRecursive_of_leads hmodel hshape haggregate hcontainer htarget (hleads.trans hback)
    rw [isInPlace_of_isRecursive hsymbol hrecursive] at hplace
    contradiction

/-- A service that takes a chain of nodes, each with a leaf. -/
def nodes : List Shape :=
  Command.Input.service [("first", ⟨"ex", "Node", none⟩)]
    (Command.Input.record ⟨"ex", "Node", none⟩ [("next", ⟨"ex", "Node", none⟩),
      ("leaf", ⟨"ex", "Leaf", none⟩)] ++ Command.Input.record ⟨"ex", "Leaf", none⟩ [])

/-- A node holds its leaf in place, and no further node. -/
theorem not_transGen_nodes :
    (Command.Input.small nodes).project.HoldsInPlace ⟨"ex", "Node", none⟩ ⟨"ex", "Leaf", none⟩ ∧
      ¬Relation.TransGen (Command.Input.small nodes).project.HoldsInPlace ⟨"ex",
        "Node", none⟩ ⟨"ex", "Node", none⟩ := by
  obtain ⟨hbuild, howns, hnode, hmember, hleaf, hsymbol⟩ :
      (Model.Draft.ofList nodes).build.toOption.isSome = true ∧
      (∀ entry ∈ (Command.Input.small nodes).project.model.shapes.entries,
        ∀ member ∈ entry.2.members,
        ((Command.Input.small nodes).project.model.get? member).bind (·.container?) =
          some entry.1) ∧
      (Command.Input.small nodes).project.model.get? ⟨"ex", "Node", none⟩ =
        some ⟨⟨"ex", "Node", none⟩, {},
          .record [⟨"ex", "Node", some "next"⟩, ⟨"ex", "Node", some "leaf"⟩]⟩ ∧
      (Command.Input.small nodes).project.model.get? ⟨"ex", "Node", some "leaf"⟩ =
        some (.ofMember ⟨"ex", "Node", some "leaf"⟩ ⟨"ex", "Leaf", none⟩) ∧
      (Command.Input.small nodes).project.model.get? ⟨"ex", "Leaf", none⟩ =
        some ⟨⟨"ex", "Leaf", none⟩, {}, .record []⟩ ∧
      ((Command.Input.small nodes).project.symbolOf
          (.ofMember ⟨"ex", "Node", some "leaf"⟩ ⟨"ex", "Leaf", none⟩)).toOption.any
            (·.type.isInPlace) = true := by
    decide +kernel
  have hmodel : (Command.Input.small nodes).project.model.IsBuilt := by
    rw [Command.Input.model_project]
    exact Command.Input.isBuilt_small hbuild
  constructor
  · obtain ⟨symbol, hsymbol, hplace⟩ := (Option.any_eq_true _ _).1 hsymbol
    refine ⟨_, _, _, symbol, hnode, rfl, hleaf, rfl, ⟨_, by simp [Shape.members], hmember⟩,
      .next ?_ (.here rfl), Outcome.toOption_eq_some.1 hsymbol, hplace⟩
    rw [Shape.ofMember, Shape.target?, Option.bind_some, hleaf]
  · exact not_transGen_holdsInPlace hmodel
      (fun id holder hget => howns (id, holder) (OrderedMap.mem_entries_of_get? hget)) _

end Project

end SdkForge
