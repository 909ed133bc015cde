import SdkForge.Proofs.Crate.Rendering
import SdkForge.Proofs.Model.MemberNames

/-!
# Fields and variants

A structure has a field for each of its members, and a union a variant. No member is named twice,
but different names of members can give one field or one variant, and nothing looks for that.

* `Record.names_of_ofShape` and `names_of_unionDecl` say which names a definition has.
* `Sound.exists_record` and `Sound.exists_union` say when the names of a structure or union of the
  closure differ.
* `member_names_differ_iff` says so of every run of the command on a model that was read.
-/

namespace SdkForge

open Outcome

namespace Crate

variable {b : Blueprint} {shape : Shape} {symbol : Symbol}

/-! ## Names of a definition -/

/-- The members that a definition is made from are those that the shape lists. -/
lemma Blueprint.ids_of_mapM_member (hmodel : b.project.model.WellFormed)
    {members : List (Shape × Symbol)} (h : shape.members.mapM b.member = .ok members) :
    members.map (·.1.id) = shape.members := by
  have hkeep : members.map (·.1.id) = shape.members.map id := by
    refine map_eq_of_mapM_eq_ok (fun id found hfound => ?_) h
    simp only [Blueprint.member, bind_eq_ok, pure_eq_ok, Fault.ofModel_eq_ok,
      Model.expect_eq_ok] at hfound
    obtain ⟨member, hget, symbol, _, rfl⟩ := hfound
    exact hmodel.id_eq hget
  rwa [List.map_id] at hkeep

lemma Blueprint.names_of_mapM_member (hmodel : b.project.model.WellFormed)
    {members : List (Shape × Symbol)} (h : shape.members.mapM b.member = .ok members) :
    members.map (·.1.id.lastName) = shape.memberNames := by
  rw [Shape.memberNames, ← b.ids_of_mapM_member hmodel h, List.map_map]
  rfl

/-- A structure has the fields of its members. -/
lemma Record.names_of_ofShape (hmodel : b.project.model.WellFormed) {r : Record}
    (h : ofShape b shape symbol = .ok r) :
    r.decl.fields.map (·.name) = shape.memberNames.map Naming.fieldName := by
  simp only [ofShape, bind_eq_ok, pure_eq_ok] at h
  obtain ⟨members, hmembers, rfl⟩ := h
  rw [← b.names_of_mapM_member hmodel hmembers, List.map_map, List.map_map]
  simp only [Function.comp_def, field, fieldOf]

/-- A union has the variants of its members. -/
lemma names_of_unionDecl (hmodel : b.project.model.WellFormed) {u : Code.EnumDecl}
    (h : unionDecl b shape symbol = .ok u) :
    u.variants.map (·.name) = shape.memberNames.map Text.pascalCase := by
  simp only [unionDecl, bind_eq_ok, pure_eq_ok] at h
  obtain ⟨members, hmembers, rfl⟩ := h
  rw [← b.names_of_mapM_member hmodel hmembers, List.map_map, List.map_map]
  simp only [Function.comp_def, unionVariant, variantOf]

namespace Blueprint.Sound

variable {c : Compilation} {service : Shape} {protocol : WireProtocol} {operations : List Shape}

/-! ## Structures and unions of the closure -/

/-- What belongs to a module is defined there. -/
lemma exists_definedIn (h : b.Sound c service protocol operations) {m : TypeModule}
    (hmem : shape ∈ c.project.closure) (hm : TypeModule.of? c.project.mode shape = some m)
    (hchecked : shape.isCheckedString c.project.mode = false) :
    ∃ symbol definition, (shape, symbol) ∈ b.definedIn m ∧
      Definition.ofShape b shape symbol = .ok definition := by
  obtain ⟨symbol, hsymbol⟩ := h.resolved.tracks.total shape hmem
  obtain ⟨definition, hdefinition⟩ := h.exists_definition hmem hm hchecked symbol
  exact ⟨symbol, definition, (h.resolved.mem_definedIn_iff h.project_eq rfl).2 ⟨hmem, hm, hsymbol⟩,
    hdefinition⟩

lemma wellFormed (h : b.Sound c service protocol operations) : b.project.model.WellFormed := by
  rw [h.project_eq]
  exact h.resolved.model

/-- A structure of the closure is defined with the fields of its members. -/
theorem exists_record (h : b.Sound c service protocol operations) (hmem : shape ∈ c.project.closure)
    (hrecord : shape.isRecord = true) : ∃ m symbol r, (shape, symbol) ∈ b.definedIn m ∧
      Definition.ofShape b shape symbol = .ok (.record r) ∧
      r.decl.fields.map (·.name) = shape.memberNames.map Naming.fieldName := by
  have hbody : ∃ members, shape.body = .record members := by
    obtain ⟨id, traits, body⟩ := shape
    cases body <;> simp_all [Shape.isRecord, Shape.kind]
  obtain ⟨members, hbody⟩ := hbody
  have hm : ∃ m, TypeModule.of? c.project.mode shape = some m := by
    simp only [TypeModule.of?, hbody]
    split_ifs <;> exact ⟨_, rfl⟩
  obtain ⟨m, hm⟩ := hm
  have hchecked : shape.isCheckedString c.project.mode = false := by
    simp [Shape.isCheckedString, Shape.kind, hbody]
  obtain ⟨symbol, definition, hdefined, hdefinition⟩ := h.exists_definedIn hmem hm hchecked
  have hread := hdefinition
  simp only [Definition.ofShape, hbody, bind_eq_ok, pure_eq_ok] at hread
  obtain ⟨r, hr, rfl⟩ := hread
  exact ⟨m, symbol, r, hdefined, hdefinition, Record.names_of_ofShape h.wellFormed hr⟩

/-- A union of the closure is defined with the variants of its members. -/
theorem exists_union (h : b.Sound c service protocol operations) (hmem : shape ∈ c.project.closure)
    (hunion : shape.isUnion = true) : ∃ m symbol u, (shape, symbol) ∈ b.definedIn m ∧
      Definition.ofShape b shape symbol = .ok (.union u) ∧
      u.variants.map (·.name) = shape.memberNames.map Text.pascalCase := by
  have hbody : ∃ members, shape.body = .union members := by
    obtain ⟨id, traits, body⟩ := shape
    cases body <;> simp_all [Shape.isUnion, Shape.kind]
  obtain ⟨members, hbody⟩ := hbody
  have hm : TypeModule.of? c.project.mode shape = some .model := by
    simp only [TypeModule.of?, hbody]
  have hchecked : shape.isCheckedString c.project.mode = false := by
    simp [Shape.isCheckedString, Shape.kind, hbody]
  obtain ⟨symbol, definition, hdefined, hdefinition⟩ := h.exists_definedIn hmem hm hchecked
  have hread := hdefinition
  simp only [Definition.ofShape, hbody, bind_eq_ok, pure_eq_ok] at hread
  obtain ⟨u, hu, rfl⟩ := hread
  exact ⟨.model, symbol, u, hdefined, hdefinition, names_of_unionDecl h.wellFormed hu⟩

end Blueprint.Sound

/-! ## Names that differ -/

lemma nodup_fieldNames_iff {names : List String} (h : names.Nodup) :
    (names.map Naming.fieldName).Nodup ↔
    ∀ first ∈ names, ∀ second ∈ names, Naming.SameField first second → first = second := by
  simp only [List.nodup_map_iff_inj_on h, Naming.fieldName_eq_fieldName_iff]

lemma self_mem_variantNames_iff {names : List String} :
    "Self" ∈ names.map Text.pascalCase ↔ ∃ name ∈ names, Text.IsSelf name := by
  simp only [List.mem_map, Text.pascalCase_eq_self_iff]

end Crate

open Crate

/-- After a finished run on a model that was read, every structure and every union of the closure
has its definition. The fields of a structure differ exactly if no two of its members' names give
one field. The variants of a union differ exactly if no two of its members' names are one text in
Pascal case, and one of them is the reserved word exactly if a member is named so. -/
theorem member_names_differ_iff {i : Command.Input} {text : String} {denyWarnings : Bool}
    {d : DecoratorSet} {c : Compilation} (hread : Model.ofText text = .ok i.model)
    (hrun : i.compile denyWarnings = .ok (d, c)) :
    ∃ b, Blueprint.ofCompilation d c = .ok b ∧
      (∀ shape ∈ c.project.closure, shape.isRecord = true →
        ∃ m symbol r, (shape, symbol) ∈ b.definedIn m ∧
        Definition.ofShape b shape symbol = .ok (.record r) ∧
        ((r.decl.fields.map (·.name)).Nodup ↔ ∀ first ∈ shape.memberNames,
          ∀ second ∈ shape.memberNames, Naming.SameField first second → first = second)) ∧
      ∀ shape ∈ c.project.closure, shape.isUnion = true →
        ∃ m symbol u, (shape, symbol) ∈ b.definedIn m ∧
        Definition.ofShape b shape symbol = .ok (.union u) ∧
        ((u.variants.map (·.name)).Nodup ↔ ∀ first ∈ shape.memberNames,
          ∀ second ∈ shape.memberNames, Text.pascalCase first = Text.pascalCase second →
            first = second) ∧
        ("Self" ∈ u.variants.map (·.name) ↔ ∃ name ∈ shape.memberNames, Text.IsSelf name) := by
  have hmodel : i.model.IsBuilt := (Model.IsObtained.read hread).isBuilt
  obtain ⟨b, service, protocol, operations, hb, hsound⟩ := Blueprint.exists_sound hmodel hrun
  have honce := namesOnce_of_compile hmodel (Model.namesOnce_of_ofText hread) hrun
  have hnodup : ∀ shape ∈ c.project.closure, shape.memberNames.Nodup :=
    fun shape hmem => honce shape.id shape (hsound.resolved.model_get?_of_mem_closure hmem)
  refine ⟨b, hb, ?_, ?_⟩
  · intro shape hmem hrecord
    obtain ⟨m, symbol, r, hdefined, hdefinition, hfields⟩ := hsound.exists_record hmem hrecord
    refine ⟨m, symbol, r, hdefined, hdefinition, ?_⟩
    rw [hfields]
    exact nodup_fieldNames_iff (hnodup shape hmem)
  · intro shape hmem hunion
    obtain ⟨m, symbol, u, hdefined, hdefinition, hvariants⟩ := hsound.exists_union hmem hunion
    refine ⟨m, symbol, u, hdefined, hdefinition, ?_, ?_⟩
    · rw [hvariants]
      exact List.nodup_map_iff_inj_on (hnodup shape hmem)
    · rw [hvariants]
      exact self_mem_variantNames_iff

/-! ## Models of a choice -/

lemma JsonValue.parse_ofList (text : List Char) : parse (.ofList text) =
    (readValue (text.length + 1) text).bind fun (value, rest) => if skipSpace rest = [] then
      some value else none := by
  rw [parse, String.toList_ofList, String.length_ofList]
  rfl

/-- The text of a map's entry, whose value has fields. -/
def entryText (key : String) (fields : List Char) : List Char :=
  ['"'] ++ key.toList ++ "\":\x7b".toList ++ fields ++ ['\x7d']

/-- The text of a structure or union, whose members all hold the target. -/
def aggregateText (id kind target : String) (names : List String) : List Char :=
  let held := "\"target\":\"".toList ++ target.toList ++ ['"']
  let members := entryText "members" (List.intercalate [','] (names.map (entryText · held)))
  entryText id ("\"type\":\"".toList ++ kind.toList ++ "\",".toList ++ members)

/-- The text of a model whose operation takes a structure with fields of the names, which hold a
choice of the variants. -/
def choiceText (fields variants : List String) : String :=
  let protocol := entryText "traits" (entryText "aws.protocols#restJson1" [])
  let service :=
    "\"type\":\"service\",\"operations\":[\x7b\"target\":\"ex#Op\"\x7d],".toList ++ protocol
  let operation := "\"type\":\"operation\",\"input\":\x7b\"target\":\"ex#In\"\x7d".toList
  .ofList (['\x7b'] ++ entryText "shapes" (List.intercalate [','] [entryText "ex#Svc" service,
    entryText "ex#Op" operation, aggregateText "ex#In" "structure" "ex#Pick" fields,
    aggregateText "ex#Pick" "union" "smithy.api#String" variants]) ++ ['\x7d'])

/-- The input for a server of a model. -/
def choiceInput (model : Model) : Command.Input := { Command.Input.small [] with model }

/-- The run on the model is finished, and the closure has such a structure and such a union. -/
def Model.OffersChoice (fields variants : List String) (model : Model) : Bool :=
  ((Command.Input.pipeline ⟨Decorator.builtin⟩ false).run (choiceInput model).project).toOption.any
    fun c =>
      (c.project.closure.any fun shape => shape.isRecord && shape.memberNames == fields) &&
        c.project.closure.any fun shape => shape.isUnion && shape.memberNames == variants

lemma exists_choice {fields variants : List String}
    (h :
      ((Model.ofText (choiceText fields variants)).toOption.any (·.OffersChoice fields variants)) =
        true) :
    ∃ (i : Command.Input) (d : DecoratorSet) (c : Compilation),
    Model.ofText (choiceText fields variants) = .ok i.model ∧
      i.compile false = .ok (d, c) ∧
      (∃ shape ∈ c.project.closure, shape.isRecord = true ∧ shape.memberNames = fields) ∧
      ∃ shape ∈ c.project.closure, shape.isUnion = true ∧ shape.memberNames = variants := by
  obtain ⟨model, hread, hchoice⟩ := (Option.any_eq_true _ _).1 h
  obtain ⟨c, hrun, hclosure⟩ := (Option.any_eq_true _ _).1 hchoice
  simp only [Bool.and_eq_true, List.any_eq_true, beq_iff_eq] at hclosure
  exact ⟨choiceInput model, _, c, toOption_eq_some.1 hread,
    Command.Input.compile_eq_ok DecoratorSet.select_none (toOption_eq_some.1 hrun), hclosure⟩

/-- Names that stay different give different fields and variants. -/
theorem member_names_differ_of_choice : ∃ i d c b,
    Model.ofText (choiceText ["left", "right"] ["near", "far"]) = .ok i.model ∧
    Command.Input.compile i false = .ok (d, c) ∧ Blueprint.ofCompilation d c = .ok b ∧
    (∃ shape ∈ c.project.closure, shape.memberNames = ["left", "right"] ∧
      ∃ m symbol r, (shape, symbol) ∈ b.definedIn m ∧
        Definition.ofShape b shape symbol = .ok (.record r) ∧
        (r.decl.fields.map (·.name)).Nodup) ∧
    ∃ shape ∈ c.project.closure, shape.memberNames = ["near", "far"] ∧
      ∃ m symbol u, (shape, symbol) ∈ b.definedIn m ∧
        Definition.ofShape b shape symbol = .ok (.union u) ∧
        (u.variants.map (·.name)).Nodup ∧ "Self" ∉ u.variants.map (·.name) := by
  have hchoice : ((Model.ofText (choiceText ["left", "right"] ["near", "far"])).toOption.any
      (·.OffersChoice ["left", "right"] ["near", "far"])) = true := by
    rw [Model.ofText, choiceText, JsonValue.parse_ofList]
    decide +kernel
  obtain ⟨i, d, c, hread, hrun, ⟨record, hrecord, hstructure, hfields⟩, union, hunion,
      hkind, hvariants⟩ :=
    exists_choice hchoice
  obtain ⟨b, hb, hrecords, hunions⟩ := member_names_differ_iff hread hrun
  refine ⟨i, d, c, b, hread, hrun, hb, ⟨record, hrecord, hfields, ?_⟩, union, hunion, hvariants, ?_⟩
  · obtain ⟨m, symbol, r, hdefined, hdefinition, hiff⟩ := hrecords record hrecord hstructure
    rw [hfields] at hiff
    exact ⟨m, symbol, r, hdefined, hdefinition, hiff.2 (by decide +kernel)⟩
  · obtain ⟨m, symbol, u, hdefined, hdefinition, hiff, hself⟩ := hunions union hunion hkind
    rw [hvariants] at hiff hself
    have hnone : ¬∃ name ∈ ["near", "far"], Text.IsSelf name := by decide +kernel
    exact ⟨m, symbol, u, hdefined, hdefinition, hiff.2 (by decide +kernel),
      fun hmem => hnone (hself.1 hmem)⟩

/-- Two members become one field, and two become one variant, which is the reserved word. -/
theorem member_names_meet_of_choice : ∃ i d c b,
    Model.ofText (choiceText ["fooBar", "foo_bar"] ["self", "Self"]) = .ok i.model ∧
    Command.Input.compile i false = .ok (d, c) ∧ Blueprint.ofCompilation d c = .ok b ∧
    (∃ shape ∈ c.project.closure, shape.memberNames = ["fooBar", "foo_bar"] ∧
      ∃ m symbol r, (shape, symbol) ∈ b.definedIn m ∧
        Definition.ofShape b shape symbol = .ok (.record r) ∧
        r.decl.fields.map (·.name) = ["foo_bar", "foo_bar"]) ∧
    ∃ shape ∈ c.project.closure, shape.memberNames = ["self", "Self"] ∧
      ∃ m symbol u, (shape, symbol) ∈ b.definedIn m ∧
        Definition.ofShape b shape symbol = .ok (.union u) ∧
        u.variants.map (·.name) = ["Self", "Self"] := by
  have hchoice : ((Model.ofText (choiceText ["fooBar", "foo_bar"] ["self", "Self"])).toOption.any
      (·.OffersChoice ["fooBar", "foo_bar"] ["self", "Self"])) = true := by
    rw [Model.ofText, choiceText, JsonValue.parse_ofList]
    decide +kernel
  obtain ⟨i, d, c, hread, hrun, ⟨record, hrecord, hstructure, hfields⟩, union, hunion,
      hkind, hvariants⟩ :=
    exists_choice hchoice
  obtain ⟨b, service, protocol, operations, hb, hsound⟩ :=
    Blueprint.exists_sound (Model.IsObtained.read hread).isBuilt hrun
  refine ⟨i, d, c, b, hread, hrun, hb, ⟨record, hrecord, hfields, ?_⟩, union, hunion, hvariants, ?_⟩
  · obtain ⟨m, symbol, r, hdefined, hdefinition, hnames⟩ := hsound.exists_record hrecord hstructure
    rw [hfields] at hnames
    exact ⟨m, symbol, r, hdefined, hdefinition, hnames.trans (by decide +kernel)⟩
  · obtain ⟨m, symbol, u, hdefined, hdefinition, hnames⟩ := hsound.exists_union hunion hkind
    rw [hvariants] at hnames
    exact ⟨m, symbol, u, hdefined, hdefinition, hnames.trans (by decide +kernel)⟩

end SdkForge
