import SdkForge.Proofs.Crate.Fields
import SdkForge.Proofs.Crate.FiniteSize

/-!
# What an error shows

An error shows its name, and the text of its first message. A message is a member whose type has a
string at its core, so that it can also be a list or map of strings, which cannot be shown.

* `Project.HoldsString` says where a string is at the core of a type, and
  `Project.name_eq_string_iff` that the name of the symbol tells it.
* `Project.type_of_holdsString` says that the type is the plain one, and `exists_target` how a plain
  type begins.
* `error_shows_first_message` says which field the errors of a finished run show, and whether its
  type can be shown.
-/

namespace SdkForge

open Outcome PlainSymbols
open Crate (TypeModule Blueprint Definition Record ErrorText MessageField)

/-! ## Plain strings -/

/-- A string that has no type of its own. -/
def Shape.IsPlainString (mode : Mode) (shape : Shape) : Prop :=
  shape.kind = .string ∧ shape.traits.enumValues = none ∧ shape.isCheckedString mode = false

/-- The type of a shape is made of that of a plain string, and no stream stands for it. -/
def Project.HoldsString (p : Project) (shape : Shape) : Prop :=
  ¬p.model.StreamsInEnvelope shape ∧ ∃ origin, p.model.TypedBy shape origin ∧
    origin.IsPlainString p.mode

namespace PlainSymbols

variable {s : Settings} {shape : Shape} {plain symbol : Symbol}

lemma typeName_ne_string (shape : Shape) : typeName shape ≠ "String" := by
  intro heq
  have hreserved := Naming.isReservedType_typeName shape.id.name
  rw [← typeName, heq] at hreserved
  exact absurd hreserved (by decide)

lemma name_defined (shape : Shape) (module : String) (derives : List Instance) :
    (defined shape module derives).name = typeName shape := by
  rw [Symbol.name, show (defined shape module derives).type =
    (Symbol.generated (typeName shape) module).type from rfl, Symbol.core_generated]

/-- The type of a plain string is the string. -/
lemma own_of_isPlainString (h : shape.IsPlainString s.mode) :
    own s shape = .ok (.external "String") := by
  obtain ⟨hkind, henum, hchecked⟩ := h
  obtain ⟨id, traits, body⟩ := shape
  cases body with
  | string =>
    have hnone : traits.enumValues.isSome = false := by
      rw [show traits.enumValues = none from henum]
      rfl
    have hchecks : checksPattern s ⟨id, traits, .string⟩ = false := by
      rwa [isCheckedString_eq hnone]
    show Except.ok (ofString s ⟨id, traits, .string⟩) = _
    simp [ofString, hnone, hchecks]
  | _ => simp [Shape.kind] at hkind

/-- Nothing else that holds nothing has a type of that name. -/
lemma isPlainString_of_name (hholder : shape.isHolder = false) (hown : own s shape = .ok plain)
    (hname : plain.name = "String") :
    shape.IsPlainString s.mode := by
  obtain ⟨id, traits, body⟩ := shape
  cases body with
  | string =>
    obtain rfl := Except.ok.inj hown
    unfold ofString at hname
    split_ifs at hname with henum hchecks
    · rw [name_defined] at hname
      exact absurd hname (typeName_ne_string _)
    · rw [name_defined] at hname
      exact absurd hname (typeName_ne_string _)
    · rw [isCheckedString_eq (by simpa using henum)] at hchecks
      exact ⟨rfl, by simpa using henum, by simpa using hchecks⟩
  | record | union | operation =>
    obtain rfl := Except.ok.inj hown
    rw [name_defined] at hname
    exact absurd hname (typeName_ne_string _)
  | service =>
    obtain rfl := Except.ok.inj hown
    rw [Symbol.name, TypeExpr.core] at hname
    dsimp only at hname
    exact absurd hname (typeName_ne_string _)
  | number kind =>
    obtain rfl := Except.ok.inj hown
    cases kind <;> simp [ofNumber, runtimeType, Symbol.external, Symbol.name,
      TypeExpr.core] at hname
  | boolean | blob | timestamp =>
    obtain rfl := Except.ok.inj hown
    simp [runtimeType, Symbol.external, Symbol.name, TypeExpr.core] at hname
  | _ => simp [Shape.isHolder, Shape.isMember, Shape.isCollection, Shape.kind] at hholder

/-! ## How a plain type begins -/

/-- A plain type is that of what the member leads to, which may be optional. -/
lemma exists_target {fuel : Nat} (hsymbol : symbolWithin s fuel shape = .ok symbol) :
    ∃ target fuel' inner, s.model.FollowsMembers shape target ∧ target.isMember = false ∧
      symbolWithin s fuel' target = .ok inner ∧
      (symbol.type = inner.type ∨ symbol.type = .option inner.type) := by
  -- on the fuel, which pays for one member that holds another
  induction fuel generalizing shape symbol with
  | zero => simp [symbolWithin] at hsymbol
  | succ fuel ih =>
    cases hmember : shape.isMember with
    | false => exact ⟨shape, fuel + 1, symbol, .here hmember, hmember, hsymbol, .inl rfl⟩
    | true =>
      obtain ⟨id, traits, body⟩ := shape
      cases body with
      | member container target =>
        simp only [symbolWithin, bind_eq_ok, pure_eq_ok, Fault.ofModel_eq_ok,
          Model.expect_eq_ok] at hsymbol
        obtain ⟨next, hnext, inner, hinner, rfl⟩ := hsymbol
        obtain ⟨last, fuel', plain, hfollows, hlast, hplain, htype⟩ := ih hinner
        refine ⟨last, fuel', plain, .next hnext hfollows, hlast, hplain, ?_⟩
        -- what is optional already stays as it is
        unfold Symbol.optional
        split_ifs with _ hoptional
        · exact htype
        · exact htype
        · refine htype.elim (fun hsame => .inr (congrArg TypeExpr.option hsame)) fun hoption => ?_
          simp [Symbol.isOptional, TypeExpr.isOption, hoption] at hoptional
      | _ => simp [Shape.isMember, Shape.kind] at hmember

/-- What a list or map is made into is no string, and not optional. -/
lemma type_of_isCollection {fuel : Nat} (hcollection : shape.isCollection = true)
    (hsymbol : symbolWithin s fuel shape = .ok symbol) :
    (∃ item, symbol.type = .list item) ∨ ∃ key value, symbol.type = .map key value := by
  cases fuel with
  | zero => simp [symbolWithin] at hsymbol
  | succ fuel =>
    obtain ⟨id, traits, body⟩ := shape
    cases body with
    | list member =>
      simp only [symbolWithin, bind_eq_ok, pure_eq_ok] at hsymbol
      obtain ⟨_, _, inner, _, rfl⟩ := hsymbol
      exact .inl ⟨_, rfl⟩
    | map key value =>
      simp only [symbolWithin, bind_eq_ok, pure_eq_ok] at hsymbol
      obtain ⟨_, _, inner, _, rfl⟩ := hsymbol
      exact .inr ⟨_, _, rfl⟩
    | _ => simp [Shape.isCollection, Shape.kind] at hcollection

end PlainSymbols

/-! ## Strings at the core -/

namespace Model

variable {model : Model} {shape target origin : Shape}

/-- A member takes its type from what it leads to. -/
lemma TypedBy.of_followsMembers (hfollows : model.FollowsMembers shape target)
    (htyped : model.TypedBy shape origin) :
    model.TypedBy target origin := by
  induction hfollows with
  | here => exact htyped
  | next htarget _ ih =>
    refine ih ?_
    obtain ⟨next, hnext, hfound⟩ := Option.bind_eq_some_iff.1 htarget
    obtain ⟨container, hbody⟩ := body_eq_of_target? hnext
    cases htyped with
    | self hself => simp [Shape.isHolder, Shape.isMember, Shape.kind, hbody] at hself
    | held hheld hrest =>
      simp only [held?, hbody, hfound, Option.some.injEq] at hheld
      exact hheld ▸ hrest

/-- What takes its type from a string leads to no structure or union, other than through a list or
map. -/
lemma TypedBy.isAggregate_of_leads (htyped : model.TypedBy shape origin) (hmodel : model.WellFormed)
    (hget : model.get? shape.id = some shape) (hstring : origin.kind = .string) {goal : ShapeId}
    (hleads : model.Leads .cut shape.id goal) : ∃ found, model.get? goal = some found ∧
      found.isAggregate = false := by
  induction htyped with
  | @self shape hself =>
    have hend : Reach.cut.next shape = [] := by
      obtain ⟨id, traits, body⟩ := shape
      cases body <;> simp_all [Reach.next, Shape.references, Shape.kind]
    rw [hleads.eq_of_next hget hend]
    exact ⟨shape, hget, by simp [Shape.isAggregate, Shape.isRecord, Shape.isUnion, hstring]⟩
  | @held shape next origin hheld _ ih =>
    have hplain : shape.isAggregate = false := by
      obtain ⟨id, traits, body⟩ := shape
      cases body <;> simp_all [held?, Shape.isAggregate, Shape.isRecord, Shape.isUnion, Shape.kind]
    rcases Relation.ReflTransGen.cases_head hleads with
      heq | ⟨between, ⟨found, hfound, hnext⟩, hrest⟩
    · exact ⟨shape, heq ▸ hget, hplain⟩
    · obtain rfl := Option.some.inj (hget.symm.trans hfound)
      obtain ⟨id, traits, body⟩ := shape
      cases body with
      | member container target =>
        obtain rfl : between = target := by
          simpa [Reach.next, Shape.references, Shape.isCollection, Shape.kind] using hnext
        have hid : next.id = between := hmodel.id_eq hheld
        subst hid
        exact ih (hmodel.get?_id hheld) hstring hrest
      | list | map => simp [Reach.next, Shape.isCollection, Shape.kind] at hnext
      | _ => simp [held?] at hheld

end Model

namespace Project

variable {p : Project} {shape : Shape} {symbol : Symbol}

/-- No member that holds a string in the end is put into a box. -/
lemma isRecursive_of_typedBy (hmodel : p.model.WellFormed) {origin : Shape}
    (htyped : p.model.TypedBy shape origin) (hstring : origin.kind = .string) :
    SymbolStage.isRecursive p.model shape = false := by
  by_contra hrecursive
  rw [Bool.not_eq_false] at hrecursive
  obtain ⟨id, traits, body⟩ := shape
  cases body with
  | member container target =>
    rw [SymbolStage.isRecursive, Bool.and_eq_true, Option.any_eq_true] at hrecursive
    obtain ⟨⟨holder, hholder, haggregate⟩, hreaches⟩ := hrecursive
    cases htyped with
    | self hself => simp [Shape.isHolder, Shape.isMember, Shape.kind] at hself
    | held hheld hrest =>
      have hnext := hmodel.id_eq hheld
      have hleads := ((Model.reaches_iff hmodel).1 hreaches).2
      rw [← hnext] at hleads
      obtain ⟨found, hfound, hplain⟩ :=
        hrest.isAggregate_of_leads hmodel (hmodel.get?_id hheld) hstring hleads
      obtain rfl := Option.some.inj (hholder.symm.trans hfound)
      rw [haggregate] at hplain
      contradiction
  | _ => simp [SymbolStage.isRecursive] at hrecursive

/-- Where a string is held, the stages start from a plain symbol that has it at its core. -/
lemma exists_plain_of_holdsString (h : p.symbolOf shape = .ok symbol)
    (hholds : p.HoldsString shape) :
    ∃ first, PlainSymbols.symbol (.ofProject p) shape = .ok first ∧
      MadeOf (.external "String") first ∧
      p.finish shape first = symbol := by
  obtain ⟨hstream, origin, htyped, hstring⟩ := hholds
  obtain ⟨first, hfirst, hfinish⟩ := symbolOf_eq_ok.1 h
  rcases of_begun_eq_ok hfirst with ⟨hstreams, _⟩ | ⟨_, hplain⟩
  · exact absurd hstreams hstream
  · obtain ⟨origin', plain, htyped', hown, hmade⟩ := exists_origin hplain
    obtain rfl := htyped.unique htyped'
    rw [own_of_isPlainString hstring] at hown
    exact ⟨first, hplain, (Except.ok.inj hown).symm ▸ hmade, hfinish⟩

/-- That string is the type of a shape that holds nothing. -/
lemma owned_of_holdsString (hholds : p.HoldsString shape) :
    ∃ origin, Owned (.ofProject p) origin (.external "String") := by
  obtain ⟨_, origin, htyped, hstring⟩ := hholds
  exact ⟨origin, owned_of_own htyped.isHolder_origin
    (own_of_isPlainString (s := .ofProject p) hstring)⟩

/-- The string at the core is not wrapped in a type of the server's crate. -/
lemma wrapper?_of_holdsString (hholds : p.HoldsString shape) :
    SymbolStage.wrapper? p.model shape = none := by
  obtain ⟨_, origin, htyped, hkind, _⟩ := hholds
  rw [Option.eq_none_iff_forall_ne_some]
  intro name hwrapper
  have hother := SymbolStage.kind_of_wrapperWithin hwrapper htyped
  simp [hkind] at hother

/-- The name of a symbol tells whether a string is at the core of its type. -/
theorem name_eq_string_iff (h : p.symbolOf shape = .ok symbol) :
    symbol.name = "String" ↔ p.HoldsString shape := by
  constructor
  · intro hname
    obtain ⟨first, hfirst, rfl⟩ := symbolOf_eq_ok.1 h
    rcases of_begun_eq_ok hfirst with ⟨_, rfl⟩ | ⟨hstream, hplain⟩
    · rw [finish_eq (.inl rfl)] at hname
      simp [wrap, SymbolStage.wrap, SymbolStage.stream, Symbol.name, Symbol.external,
        TypeExpr.core] at hname
    · obtain ⟨origin, plain, htyped, hown, hmade⟩ := exists_origin hplain
      refine ⟨hstream, origin, htyped, ?_⟩
      rcases core_finish (owned_of_own htyped.isHolder_origin hown) hmade with
        hcore | ⟨name, hwrapper, hcore⟩
      · rw [Symbol.name, hcore] at hname
        exact isPlainString_of_name htyped.isHolder_origin hown hname
      · rw [Symbol.name, hcore] at hname
        rcases SymbolStage.eq_of_wrapperWithin hwrapper with rfl | rfl <;> simp at hname
  · intro hholds
    obtain ⟨first, _, hmade, rfl⟩ := exists_plain_of_holdsString h hholds
    obtain ⟨origin, howned⟩ := owned_of_holdsString hholds
    rcases core_finish howned hmade with hcore | ⟨name, hwrapper, _⟩
    · rw [Symbol.name, hcore]
      rfl
    · rw [wrapper?_of_holdsString hholds] at hwrapper
      cases hwrapper

/-- No stage changes the plain type of what holds a string. -/
theorem type_of_holdsString (hmodel : p.model.WellFormed) (h : p.symbolOf shape = .ok symbol)
    (hholds : p.HoldsString shape) :
    ∃ first, PlainSymbols.symbol (.ofProject p) shape = .ok first ∧ symbol.type = first.type := by
  obtain ⟨first, hplain, hmade, rfl⟩ := exists_plain_of_holdsString h hholds
  obtain ⟨_, howned⟩ := owned_of_holdsString hholds
  have hwrap : p.wrap shape first = first := by
    unfold wrap
    split
    · exact SymbolStage.wrap_eq_self (wrapper?_of_holdsString hholds)
    · rfl
  obtain ⟨_, origin, htyped, hstring⟩ := hholds
  refine ⟨first, hplain, ?_⟩
  rw [finish_eq_of_made howned hmade, SymbolStage.type_dropEquality, hwrap,
    SymbolStage.boxRecursive, isRecursive_of_typedBy hmodel htyped hstring.1]
  rfl

end Project

/-! ## Types that can be shown -/

/-- The type that the statement for a field can show: a string, or one that may be missing. -/
def Crate.MessageField.shownType (f : MessageField) : TypeExpr :=
  if f.optional then .option (.named "String") else .named "String"

/-- A type that may be optional can be shown exactly if it is that of a string. -/
lemma Symbol.type_eq_shownType_iff {symbol : Symbol} {inner : TypeExpr}
    (hinner : inner.isOption = false) (h : symbol.type = inner ∨ symbol.type = .option inner)
    (name : String) :
    symbol.type = (⟨name, symbol.isOptional⟩ : MessageField).shownType ↔
    inner = .named "String" := by
  rcases h with h | h
  · simp [MessageField.shownType, Symbol.isOptional, h, hinner]
  · simp [MessageField.shownType, Symbol.isOptional, TypeExpr.isOption, h]

/-- What holds a string leads to the string itself or to a list or map, and its type can be shown
exactly if it is no list or map. -/
theorem Project.type_eq_shownType_iff {p : Project} {shape : Shape} {symbol : Symbol}
    (hmodel : p.model.WellFormed) (h : p.symbolOf shape = .ok symbol) (hholds : p.HoldsString shape)
    (name : String) :
    ∃ target, p.model.FollowsMembers shape target ∧
      (symbol.type = (⟨name, symbol.isOptional⟩ : MessageField).shownType ↔
        target.isCollection = false) := by
  obtain ⟨first, hplain, htype⟩ := type_of_holdsString hmodel h hholds
  obtain ⟨_, origin, htyped, hstring⟩ := hholds
  obtain ⟨target, fuel, inner, hfollows, hmember, hinner, hoption⟩ := exists_target hplain
  refine ⟨target, hfollows, ?_⟩
  rw [← htype] at hoption
  cases hcollection : target.isCollection with
  | false =>
    -- the target is where the type comes from
    have hholder : target.isHolder = false := by simp [Shape.isHolder, hmember, hcollection]
    obtain rfl := (Model.TypedBy.self hholder).unique (htyped.of_followsMembers hfollows)
    have hstring : inner.type = .named "String" := by
      cases fuel with
      | zero => simp [symbolWithin] at hinner
      | succ fuel =>
        rw [symbolWithin_succ_of_not_isHolder hholder, own_of_isPlainString hstring] at hinner
        rw [← Except.ok.inj hinner]
        rfl
    exact iff_of_true ((Symbol.type_eq_shownType_iff (by rw [hstring]; rfl) hoption name).2 hstring)
      rfl
  | true =>
    refine iff_of_false (fun hshown => ?_) (by simp)
    rcases type_of_isCollection hcollection hinner with ⟨item, hlist⟩ | ⟨key, value, hmap⟩
    · rw [Symbol.type_eq_shownType_iff (by rw [hlist]; rfl) hoption, hlist] at hshown
      contradiction
    · rw [Symbol.type_eq_shownType_iff (by rw [hmap]; rfl) hoption, hmap] at hshown
      contradiction

namespace Crate

/-! ## The field that is shown -/

/-- A member called `message`, in letters of either size, that has a string at the core of its
type. -/
def IsMessage (p : Project) (member : Shape) : Prop :=
  member.id.member.any (·.toLower == "message") = true ∧ p.HoldsString member

/-- The first message among the members of a structure. -/
structure IsFirstMessage (p : Project) (shape member : Shape) : Prop where
  get?_id : p.model.get? member.id = some member
  message : IsMessage p member
  first : ∃ before after, shape.members = before ++ member.id :: after ∧
    ∀ id ∈ before, ∀ earlier, p.model.get? id = some earlier → ¬IsMessage p earlier

variable {b : Blueprint} {shape : Shape} {symbol : Symbol}

lemma isMessage_iff {p : Project} {member : Shape} {type : Symbol}
    (h : p.symbolOf member = .ok type) :
    ErrorText.isMessage member type = true ↔ IsMessage p member := by
  rw [ErrorText.isMessage, Bool.and_eq_true, beq_iff_eq, Project.name_eq_string_iff h, IsMessage]

/-- The members are those of the model, with their symbols. -/
def Known (p : Project) (members : List (Shape × Symbol)) : Prop :=
  ∀ entry ∈ members, p.model.get? entry.1.id = some entry.1 ∧ p.symbolOf entry.1 = .ok entry.2

/-- No field is shown if there is no message. -/
lemma messageField_eq_none_iff {p : Project} {members : List (Shape × Symbol)}
    (hknown : Known p members) :
    ErrorText.messageField members = none ↔
      ∀ id ∈ members.map (·.1.id), ∀ member, p.model.get? id = some member →
        ¬IsMessage p member := by
  rw [ErrorText.messageField, Option.map_eq_none_iff, List.find?_eq_none, List.forall_mem_map]
  refine forall₂_congr fun entry hin => ?_
  obtain ⟨hget, hsymbol⟩ := hknown entry hin
  simp [hget, isMessage_iff hsymbol]

/-- A field that is shown is that of the first message. -/
lemma isFirstMessage_of_messageField {p : Project} {members : List (Shape × Symbol)}
    (hknown : Known p members) (hids : members.map (·.1.id) = shape.members) {f : MessageField}
    (hf : ErrorText.messageField members = some f) :
    ∃ member type, (member, type) ∈ members ∧ IsFirstMessage p shape member ∧
      f = ⟨fieldOf member, type.isOptional⟩ := by
  obtain ⟨⟨member, type⟩, hfind, rfl⟩ := Option.map_eq_some_iff.1 hf
  obtain ⟨hmessage, before, after, rfl, hearlier⟩ := List.find?_eq_some_iff_append.1 hfind
  have hin : (member, type) ∈ before ++ (member, type) :: after := by simp
  obtain ⟨hget, hsymbol⟩ := hknown _ hin
  refine ⟨member, type, hin, ⟨hget, (isMessage_iff hsymbol).1 hmessage, before.map (·.1.id),
    after.map (·.1.id), ?_, ?_⟩, rfl⟩
  · simpa using hids.symm
  · rw [List.forall_mem_map]
    intro entry hbefore earlier hfound
    obtain ⟨hget', hsymbol'⟩ := hknown entry (List.mem_append_left _ hbefore)
    obtain rfl := Option.some.inj (hget'.symm.trans hfound)
    rw [← isMessage_iff hsymbol']
    simpa using hearlier entry hbefore

lemma Definition.record_of_ofShape {r : Record} (hrecord : shape.isRecord = true)
    (h : ofShape b shape symbol = .ok (.record r)) : Record.ofShape b shape symbol = .ok r := by
  obtain ⟨id, traits, body⟩ := shape
  cases body with
  | record =>
    simp only [ofShape, bind_eq_ok, pure_eq_ok, record.injEq] at h
    obtain ⟨_, hr, rfl⟩ := h
    exact hr
  | _ => simp [Shape.isRecord, Shape.kind] at hrecord

/-- A structure has a field for each member, and shows the first message if it is an error. -/
lemma Record.error_of_ofShape {r : Record} {members : List (Shape × Symbol)}
    (hmembers : shape.members.mapM b.member = .ok members)
    (herror : shape.traits.error.isSome = true) (h : ofShape b shape symbol = .ok r) :
    r.decl.fields = members.map (fun (member, type) => field member type) ∧
      r.error = some ⟨symbol.name, shape.id.name, ErrorText.messageField members⟩ := by
  simp only [ofShape, hmembers, bind_eq_ok, pure_eq_ok, Except.ok.injEq, herror, if_true] at h
  obtain ⟨_, rfl, rfl⟩ := h
  exact ⟨rfl, rfl⟩

namespace Blueprint.Sound

variable {c : Compilation} {service : Shape} {protocol : WireProtocol} {operations : List Shape}

/-- The members that a definition is made from are those of the model, with their symbols. -/
lemma known_of_mapM_member (h : b.Sound c service protocol operations)
    {members : List (Shape × Symbol)} (hmembers : shape.members.mapM b.member = .ok members) :
    Known c.project members := by
  intro entry hin
  obtain ⟨id, hid, hmember⟩ := exists_of_mem_mapM hmembers hin
  simp only [Blueprint.member, bind_eq_ok, pure_eq_ok, Fault.ofModel_eq_ok, Model.expect_eq_ok,
    h.project_eq, SymbolTable.expect, elim_eq_ok] at hmember
  obtain ⟨member, hget, type, hsymbol, rfl⟩ := hmember
  obtain ⟨found, hfound, rfl, hown⟩ := h.resolved.get?_eq_some_iff.1 hsymbol
  obtain rfl := Option.some.inj ((h.resolved.model_get?_of_mem_closure hfound).symm.trans hget)
  exact ⟨hget, hown⟩

/-- An error of the closure shows its first message, and nothing if it has none. -/
theorem exists_errorText (h : b.Sound c service protocol operations)
    (hmem : shape ∈ c.project.closure) (hrecord : shape.isRecord = true)
    (herror : shape.traits.error.isSome = true) :
    ∃ m symbol r text, (shape, symbol) ∈ b.definedIn m ∧
      Definition.ofShape b shape symbol = .ok (.record r) ∧
      r.error = some text ∧
      (text.message = none ↔ ∀ id ∈ shape.members, ∀ member, c.project.model.get? id = some member →
        ¬IsMessage c.project member) ∧
      ∀ f, text.message = some f → ∃ member type, IsFirstMessage c.project shape member ∧
        c.project.symbolOf member = .ok type ∧ f = ⟨fieldOf member, type.isOptional⟩ ∧
        Record.field member type ∈ r.decl.fields := by
  obtain ⟨m, symbol, r, hdefined, hdefinition, _⟩ := h.exists_record hmem hrecord
  obtain ⟨members, hmembers⟩ := h.exists_members hmem
  obtain ⟨hfields, htext⟩ :=
    Record.error_of_ofShape hmembers herror (Definition.record_of_ofShape hrecord hdefinition)
  have hknown := h.known_of_mapM_member hmembers
  have hids := b.ids_of_mapM_member h.wellFormed hmembers
  refine ⟨m, symbol, r, _, hdefined, hdefinition, htext, ?_, fun f hf => ?_⟩
  · rw [messageField_eq_none_iff hknown, hids]
  · obtain ⟨member, type, hin, hfirst, rfl⟩ := isFirstMessage_of_messageField hknown hids hf
    refine ⟨member, type, hfirst, (hknown _ hin).2, rfl, ?_⟩
    rw [hfields]
    exact List.mem_map.2 ⟨_, hin, rfl⟩

end Blueprint.Sound

end Crate

open Crate

/-- After a finished run, every error of the closure shows the field of its first message, and no
field if it has none. The field has the type of a string, or of one that may be missing, as the
statement needs it, exactly if the message leads to no list or map. -/
theorem error_shows_first_message {i : Command.Input} {denyWarnings : Bool} {d : DecoratorSet}
    {c : Compilation} (hmodel : i.model.IsBuilt) (hrun : i.compile denyWarnings = .ok (d, c)) :
    ∃ b, Blueprint.ofCompilation d c = .ok b ∧
      ∀ shape ∈ c.project.closure, shape.isRecord = true → shape.traits.error.isSome = true →
        ∃ m symbol r text, (shape, symbol) ∈ b.definedIn m ∧
          Definition.ofShape b shape symbol = .ok (.record r) ∧
          r.error = some text ∧
          (text.message = none ↔ ∀ id ∈ shape.members, ∀ member,
            c.project.model.get? id = some member →
            ¬IsMessage c.project member) ∧
          ∀ f, text.message = some f → ∃ member type target, IsFirstMessage c.project shape member ∧
            c.project.symbolOf member = .ok type ∧ f = ⟨fieldOf member, type.isOptional⟩ ∧
            Record.field member type ∈ r.decl.fields ∧
            c.project.model.FollowsMembers member target ∧
            (type.type = f.shownType ↔ target.isCollection = false) := by
  obtain ⟨b, service, protocol, operations, hb, hsound⟩ := Blueprint.exists_sound hmodel hrun
  refine ⟨b, hb, fun shape hmem hrecord herror => ?_⟩
  obtain ⟨m, symbol, r, text, hdefined, hdefinition, htext, hnone, hfirst⟩ :=
    hsound.exists_errorText hmem hrecord herror
  refine ⟨m, symbol, r, text, hdefined, hdefinition, htext, hnone, fun f hf => ?_⟩
  obtain ⟨member, type, hmessage, htype, rfl, hfield⟩ := hfirst f hf
  obtain ⟨target, hfollows, hshown⟩ :=
    Project.type_eq_shownType_iff hsound.resolved.model htype hmessage.message.2 (fieldOf member)
  exact ⟨member, type, target, hmessage, htype, rfl, hfield, hfollows, hshown⟩

/-! ## An error with a message -/

def failureId : ShapeId := ⟨"ex", "Failure", none⟩
def messageId : ShapeId := failureId.withMember "message"
def textsId : ShapeId := ⟨"ex", "Texts", none⟩
def textId : ShapeId := ⟨"smithy.api", "String", none⟩

/-- An error with a message. -/
def failureShape : Shape :=
  { id := failureId, traits := ({} : Traits).insert (.error .client), body := .record [messageId] }

/-- A service that takes an error, whose message holds the target. -/
def failures (target : ShapeId) : List Shape :=
  Command.Input.service [("cause", failureId)] [failureShape, .ofMember messageId target,
    { id := textsId, body := .list (textsId.withMember "member") },
    .ofMember (textsId.withMember "member") textId]

/-- The run is finished, and the message of the error has the symbol. -/
lemma exists_failing_run (target : ShapeId) (type : Symbol)
    (hfacts : ((Command.Input.finished? (failures target)).any fun c =>
      c.project.closure.contains failureShape && c.found? messageId ==
        some (.ofMember messageId target, type)) = true) :
    ∃ c, (Command.Input.small (failures target)).model.IsBuilt ∧
      (Command.Input.small (failures target)).compile false = .ok (⟨Decorator.builtin⟩, c) ∧
      failureShape ∈ c.project.closure ∧
      c.project.model.get? messageId = some (.ofMember messageId target) ∧
      c.project.symbolOf (.ofMember messageId target) = .ok type := by
  obtain ⟨c, hc, hfacts⟩ := (Option.any_eq_true _ _).1 hfacts
  simp only [Bool.and_eq_true, List.contains_iff_mem, beq_iff_eq] at hfacts
  obtain ⟨hmem, hfound⟩ := hfacts
  obtain ⟨hmodel, hrun⟩ := Command.Input.of_finished? hc
  obtain ⟨_, _, t, h⟩ := resolved_of_compile hmodel hrun
  exact ⟨c, hmodel, hrun, hmem, (h.of_found? hfound).1, (h.found?_eq_some_iff.1 hfound).2.2⟩

/-- It is the first message of the error. -/
lemma eq_message_of_failure {p : Project} {target : ShapeId} {member : Shape}
    (hget : p.model.get? messageId = some (.ofMember messageId target))
    (hfirst : IsFirstMessage p failureShape member) :
    member = .ofMember messageId target := by
  obtain ⟨hmember, _, before, after, hids, _⟩ := hfirst
  have hid : member.id = messageId := by
    have hin : member.id ∈ failureShape.members := by simp [hids]
    simpa [failureShape, Shape.members] using hin
  rw [hid, hget] at hmember
  exact (Option.some.inj hmember).symm

/-- So the error shows it, whatever it holds, if a string is at its core. -/
lemma message_of_failure {p : Project} {target : ShapeId} {type : Symbol} {r : Record}
    {text : ErrorText} (hget : p.model.get? messageId = some (.ofMember messageId target))
    (hsymbol : p.symbolOf (.ofMember messageId target) = .ok type)
    (hmessage : ErrorText.isMessage (.ofMember messageId target) type = true)
    (hnone : text.message = none → ∀ id ∈ failureShape.members, ∀ member,
      p.model.get? id = some member → ¬IsMessage p member)
    (hshown : ∀ f, text.message = some f → ∃ member type, IsFirstMessage p failureShape member ∧
      p.symbolOf member = .ok type ∧
      f = ⟨fieldOf member, type.isOptional⟩ ∧ Record.field member type ∈ r.decl.fields) :
    text.message = some ⟨fieldOf (.ofMember messageId target), type.isOptional⟩ ∧
      Record.field (.ofMember messageId target) type ∈ r.decl.fields := by
  cases hf : text.message with
  | none =>
    have hnot := hnone hf messageId (by simp [failureShape, Shape.members]) _ hget
    exact absurd ((isMessage_iff hsymbol).1 hmessage) hnot
  | some f =>
    obtain ⟨member, type', hfirst, htype, rfl, hfield⟩ := hshown f hf
    obtain rfl := eq_message_of_failure hget hfirst
    obtain rfl := Except.ok.inj (hsymbol.symm.trans htype)
    exact ⟨rfl, hfield⟩

/-- The symbol of a string that may be missing. -/
def textSymbol : Symbol := { type := .option (.named "String"), nullable := true }

/-- The symbol of a list of strings that may be missing. -/
def textsSymbol : Symbol := { type := .option (.list (.named "String")), nullable := true }

/-- A string is shown as the string that it is. -/
theorem error_shows_first_message_of_text : ∃ c b symbol r text f,
    (Command.Input.small (failures textId)).model.IsBuilt ∧
    (Command.Input.small (failures textId)).compile false = .ok (⟨Decorator.builtin⟩, c) ∧
    Blueprint.ofCompilation ⟨Decorator.builtin⟩ c = .ok b ∧ failureShape ∈ c.project.closure ∧
    Definition.ofShape b failureShape symbol = .ok (.record r) ∧ r.error = some text ∧
    text.message = some f ∧
    Record.field (.ofMember messageId textId) textSymbol ∈ r.decl.fields ∧
    textSymbol.type = f.shownType := by
  obtain ⟨c, hmodel, hrun, hmem, hget, hsymbol⟩ :=
    exists_failing_run textId textSymbol (by decide +kernel)
  obtain ⟨b, hb, herrors⟩ := error_shows_first_message hmodel hrun
  obtain ⟨m, symbol, r, text, _, hdefinition, htext, hnone, hshown⟩ :=
    herrors failureShape hmem rfl rfl
  obtain ⟨hmessage, hfield⟩ :=
    message_of_failure hget hsymbol (by decide +kernel) hnone.1 fun f hf =>
      have ⟨member, type, _, hfirst, htype, hf, hfield, _⟩ := hshown f hf
      ⟨member, type, hfirst, htype, hf, hfield⟩
  exact ⟨c, b, symbol, r, text, _, hmodel, hrun, hb, hmem, hdefinition, htext, hmessage,
    hfield, rfl⟩

/-- A list of strings is shown as if it were one string. -/
theorem error_shows_list_of_texts : ∃ c b symbol r text f,
    (Command.Input.small (failures textsId)).model.IsBuilt ∧
    (Command.Input.small (failures textsId)).compile false = .ok (⟨Decorator.builtin⟩, c) ∧
    Blueprint.ofCompilation ⟨Decorator.builtin⟩ c = .ok b ∧ failureShape ∈ c.project.closure ∧
    Definition.ofShape b failureShape symbol = .ok (.record r) ∧ r.error = some text ∧
    text.message = some f ∧
    (∃ field ∈ r.decl.fields, field.name = f.name ∧ field.type = "Option<Vec<String>>") ∧
    textsSymbol.type ≠ f.shownType := by
  obtain ⟨c, hmodel, hrun, hmem, hget, hsymbol⟩ :=
    exists_failing_run textsId textsSymbol (by decide +kernel)
  obtain ⟨b, service, protocol, operations, hb, hsound⟩ := Blueprint.exists_sound hmodel hrun
  obtain ⟨m, symbol, r, text, _, hdefinition, htext, hnone, hshown⟩ :=
    hsound.exists_errorText hmem rfl rfl
  obtain ⟨hmessage, hfield⟩ := message_of_failure hget hsymbol (by decide +kernel) hnone.1 hshown
  exact ⟨c, b, symbol, r, text, _, hmodel, hrun, hb, hmem, hdefinition, htext, hmessage,
    ⟨_, hfield, rfl, by decide +kernel⟩, by decide⟩

end SdkForge
