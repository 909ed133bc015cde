import Mathlib.Data.List.Perm.Basic
import SdkForge.Command.Run
import SdkForge.Proofs.Crate.Rendering

/-!
# The names of a builder's members

A builder has a field and two functions for each operation, two fields beside, and two functions
that build. Only the fields of operations are kept apart from each other, so that other members can
have one name.

* `nodup_fields_iff` and `nodup_functions_iff` say when the members have different names.
* `implementation_eq` says that the functions are all that the block of the builder has.
* `builder_names_nodup_iff` says so of every server that is generated, and
  `builder_names_clash_of_getters` shows one whose builder has two functions of one name.
-/

namespace SdkForge

open Outcome

/-! ## Names of slots -/

namespace Crate.Slot

variable {s s' : Slot}

/-- What the names of functions that set assembled operations end in. -/
def setterEnd : List Char := "_operation".toList

lemma setterEnd_suffix_setter (h : s.IsNamed) : setterEnd <:+ s.setter.toList := by
  rw [h.2, setterOf, String.toList_append]
  exact List.suffix_append _ _

/-- No reserved word has that end, and no escaped one. -/
lemma not_setterEnd_suffix : ∀ word ∈ Naming.reservedWords,
    ¬setterEnd <:+ word.toList ∧ ¬setterEnd <:+ (Naming.escapeField word).toList := by
  decide

/-- A field has a name that is neither a reserved word nor an escaped one only as the operation's
name in snake case. -/
lemma field_eq_iff (h : s.IsNamed) {plain : String}
    (hplain : ∀ word ∈ Naming.reservedWords, word ≠ plain ∧ Naming.escapeField word ≠ plain) :
    s.field = plain ↔ Project.operationField s.operation.id = plain := by
  rw [h.1]
  exact Naming.fieldName_eq_iff hplain

lemma field_eq_setter_iff (h : s.IsNamed) (h' : s'.IsNamed) :
    s.field = s'.setter ↔ Project.operationField s.operation.id =
      Project.operationField s'.operation.id ++ "_operation" := by
  have hend := setterEnd_suffix_setter h'
  rw [field_eq_iff h fun word hword => ?_, h'.2, setterOf]
  obtain ⟨hplain, hescaped⟩ := not_setterEnd_suffix word hword
  exact ⟨fun heq => hplain (heq ▸ hend), fun heq => hescaped (heq ▸ hend)⟩

/-- The function that sets `Get`, once it is assembled, has the name of the field of
`GetOperation`. -/
example : setterOf ⟨"ex", "Get", none⟩ = Naming.fieldName "GetOperation" := by decide +kernel

/-- A function that sets an assembled operation does not build. -/
lemma setter_ne (h : s.IsNamed) : s.setter ≠ "build" ∧ s.setter ≠ "build_unchecked" := by
  have hend := setterEnd_suffix_setter h
  have hbuild : ¬setterEnd <:+ "build".toList ∧ ¬setterEnd <:+ "build_unchecked".toList := by
    decide
  exact ⟨fun heq => hbuild.1 (heq ▸ hend), fun heq => hbuild.2 (heq ▸ hend)⟩

/-- The name of an operation does not begin with an underscore in snake case. -/
lemma operationField_ne_body (hparsed : s.operation.id.IsParsed) :
    Project.operationField s.operation.id ≠ "_body" := by
  intro heq
  have hhead := (Text.isSnake_snakeCase hparsed.isIdentifier_name).head
  rw [show Text.snakeCase s.operation.id.name = "_body" from heq] at hhead
  exact hhead rfl

end Crate.Slot

/-! ## Names of members -/

namespace Crate.ServiceBuilder

variable {b : Blueprint} {slots : List Slot} {service : String} {prologue : Fragment}

lemma map_name_fields :
    (fields b slots).map (·.1) = slots.map (·.field) ++ ["plugin", "_body"] := by
  simp [fields, Function.comp_def]

lemma map_name_functions : (functions b service slots prologue).map (·.name) =
    (slots.flatMap fun s => [s.field] ++ [s.setter]) ++ ["build", "build_unchecked"] := by
  simp [functions, setters, List.map_flatMap, handlerSetter, operationSetter, buildFunction,
    buildUncheckedFunction]

/-- The fields of a builder have different names exactly if no operation has the name of one that
every builder has. -/
theorem nodup_fields_iff (hslots : b.slots = .ok slots) : ((fields b slots).map (·.1)).Nodup ↔
    ∀ s ∈ slots, Project.operationField s.operation.id ≠ "plugin" ∧
      Project.operationField s.operation.id ≠ "_body" := by
  obtain ⟨hnamed, hnodup⟩ := Blueprint.named_of_slots hslots
  have hfixed : ["plugin", "_body"].Nodup := by decide
  have hplugin : ∀ s ∈ slots, s.field = "plugin" ↔
      Project.operationField s.operation.id = "plugin" :=
    fun s hs => Slot.field_eq_iff (hnamed s hs) (by decide)
  have hbody : ∀ s ∈ slots, s.field = "_body" ↔ Project.operationField s.operation.id = "_body" :=
    fun s hs => Slot.field_eq_iff (hnamed s hs) (by decide)
  rw [map_name_fields, List.nodup_append, and_iff_right hnodup, and_iff_right hfixed,
    List.forall_mem_map]
  refine forall₂_congr fun s hs => ?_
  simp [hplugin s hs, hbody s hs]

/-- The functions of a builder have different names exactly if no operation has the name of one that
builds, and none has the name of a function that sets another operation. -/
theorem nodup_functions_iff (hslots : b.slots = .ok slots)
    (hoperations : (slots.map fun s => Project.operationField s.operation.id).Nodup) :
    ((functions b service slots prologue).map (·.name)).Nodup ↔
      (∀ s ∈ slots, Project.operationField s.operation.id ≠ "build" ∧
        Project.operationField s.operation.id ≠ "build_unchecked") ∧
      ∀ s ∈ slots, ∀ s' ∈ slots,
        Project.operationField s.operation.id ≠ Project.operationField s'.operation.id ++
          "_operation" := by
  obtain ⟨hnamed, hnodup⟩ := Blueprint.named_of_slots hslots
  have hsetters : (slots.map (·.setter)).Nodup := by
    refine List.pairwise_map.2
      ((List.pairwise_map.1 hoperations).imp_of_mem fun {s s'} hs hs' hne heq => hne ?_)
    rw [(hnamed s hs).2, (hnamed s' hs').2] at heq
    exact (String.append_left_inj "_operation").1 heq
  have hfixed : ["build", "build_unchecked"].Nodup := by decide
  have hbuild : ∀ s ∈ slots, s.field = "build" ↔ Project.operationField s.operation.id = "build" :=
    fun s hs => Slot.field_eq_iff (hnamed s hs) (by decide)
  have hunchecked : ∀ s ∈ slots, s.field = "build_unchecked" ↔
      Project.operationField s.operation.id = "build_unchecked" :=
    fun s hs => Slot.field_eq_iff (hnamed s hs) (by decide)
  -- the two names of each slot, put side by side
  have hnames :
      (slots.flatMap fun s => [s.field] ++ [s.setter]).Perm (slots.map (·.field) ++
        slots.map (·.setter)) := by
    rw [List.map_eq_flatMap, List.map_eq_flatMap]
    exact (List.flatMap_append_perm slots (fun s => [s.field]) fun s => [s.setter]).symm
  rw [map_name_functions, (hnames.append_right _).nodup_iff, List.nodup_append, List.nodup_append,
    and_iff_right hnodup, and_iff_right hsetters, and_iff_right hfixed, and_comm]
  refine and_congr ?_ ?_
  · rw [List.forall_mem_append, List.forall_mem_map, List.forall_mem_map]
    have hset : ∀ s ∈ slots, ∀ name ∈ ["build", "build_unchecked"], s.setter ≠ name := by
      intro s hs
      simpa using Slot.setter_ne (hnamed s hs)
    rw [and_iff_left hset]
    refine forall₂_congr fun s hs => ?_
    simp [hbuild s hs, hunchecked s hs]
  · simp only [List.forall_mem_map]
    exact forall₂_congr fun s hs => forall₂_congr fun s' hs' => not_congr
      (Slot.field_eq_setter_iff (hnamed s hs) (hnamed s' hs'))

/-- The block of a builder has its functions and nothing else, since no decorator that comes along
adds to it. -/
theorem implementation_eq (hsections : b.registry.Holds Contribution.IsPlain) :
    ∃ block : Code.Implementation, block.items = [] ∧
    implementation b service slots =
      .ok ((functions b service slots (.seq [])).foldl
        Code.Implementation.method block).fragment := by
  have hitems : b.contributed (.serviceBuilderImpl service) = .ok (.seq []) :=
    bind_eq_ok.2 ⟨[], hsections.render_eq_nil fun c hc => hc.builderImpl service, rfl⟩
  have hprologue : b.contributed (.serviceBuildPrologue service) = .ok (.seq []) :=
    bind_eq_ok.2 ⟨[], hsections.render_eq_nil fun c hc => hc.buildPrologue service, rfl⟩
  refine ⟨{ type := s!"{builderName service}<Body, Plugin>",
            generics := ["Body: 'static", b.pluginParam] }, rfl, ?_⟩
  rw [implementation, hitems, hprologue, functions, List.foldl_append]
  rfl

end Crate.ServiceBuilder

open Crate (Blueprint Slot)

/-- A server's file is made of slots. -/
lemma Crate.Blueprint.exists_slots_of_files {b : Blueprint} {files : FileSet}
    (hserver : b.project.mode = .server) (h : b.files = .ok files) :
    ∃ slots, b.slots = .ok slots := by
  simp only [Blueprint.files, sources, sideFiles, hserver, serverFile, bind_eq_ok] at h
  obtain ⟨_, ⟨_, _, _, _, _, ⟨_, ⟨slots, hslots, _⟩, _⟩, _⟩, _⟩ := h
  exact ⟨slots, hslots⟩

/-- A generated server has slots, with different names for its operations, and only what comes along
adds to its files. -/
lemma Command.Input.exists_slots_of_generate {i : Command.Input} {denyWarnings : Bool}
    {c : Compilation} {files : FileSet} (hmodel : i.model.IsBuilt)
    (hgenerate : i.generate denyWarnings = .ok (c, files)) (hserver : c.project.mode = .server) :
    ∃ d b slots, i.compile denyWarnings = .ok (d, c) ∧ Blueprint.ofCompilation d c = .ok b ∧
      b.files = .ok files ∧
      b.slots = .ok slots ∧ c.project.operations = .ok (slots.map (·.operation)) ∧
      b.registry.Holds Contribution.IsPlain ∧
      (slots.map fun s => Project.operationField s.operation.id).Nodup := by
  simp only [generate, bind_eq_ok, pure_eq_ok, Prod.mk.injEq] at hgenerate
  obtain ⟨⟨d, c'⟩, hrun, b, hb, files', hfiles, rfl, rfl⟩ := hgenerate
  obtain ⟨b', service, protocol, operations, hb', h⟩ := Blueprint.exists_sound hmodel hrun
  obtain rfl := Except.ok.inj (hb'.symm.trans hb)
  obtain ⟨slots, hslots⟩ :=
    Blueprint.exists_slots_of_files (by rw [h.project_eq]; exact hserver) hfiles
  have hoperations := Blueprint.operations_of_slots hslots
  rw [h.project_eq] at hoperations
  have hnodup := h.accepted.nodup
  rw [Except.ok.inj (h.accepted.operations_eq.symm.trans hoperations), List.map_map] at hnodup
  exact ⟨d, b', slots, hrun, hb, hfiles, hslots, hoperations, h.sections, hnodup⟩

/-- The builder of a generated server has the functions for its slots and nothing else. Its fields
have different names exactly if no operation is named like one that every builder has, and its
functions exactly if no operation is named like a function that builds or that sets another
operation. Names of ids that can be read never clash with the field for the body. -/
theorem builder_names_nodup_iff {i : Command.Input} {denyWarnings : Bool} {c : Compilation}
    {files : FileSet} (hmodel : i.model.IsBuilt)
    (hgenerate : i.generate denyWarnings = .ok (c, files)) (hserver : c.project.mode = .server) :
    ∃ d b slots, i.compile denyWarnings = .ok (d, c) ∧ Blueprint.ofCompilation d c = .ok b ∧
      b.files = .ok files ∧
      b.slots = .ok slots ∧ c.project.operations = .ok (slots.map (·.operation)) ∧
      (∃ block : Code.Implementation, block.items = [] ∧
        Crate.ServiceBuilder.implementation b c.project.serviceName slots = .ok
          ((Crate.ServiceBuilder.functions b c.project.serviceName slots (.seq [])).foldl
            Code.Implementation.method block).fragment) ∧
      (((Crate.ServiceBuilder.fields b slots).map (·.1)).Nodup ↔ ∀ s ∈ slots,
        Project.operationField s.operation.id ≠ "plugin" ∧
        Project.operationField s.operation.id ≠ "_body") ∧
      (∀ s ∈ slots, s.operation.id.IsParsed → Project.operationField s.operation.id ≠ "_body") ∧
      (((Crate.ServiceBuilder.functions b c.project.serviceName slots (.seq [])).map
        (·.name)).Nodup ↔
        (∀ s ∈ slots, Project.operationField s.operation.id ≠ "build" ∧
          Project.operationField s.operation.id ≠ "build_unchecked") ∧
        ∀ s ∈ slots, ∀ s' ∈ slots,
          Project.operationField s.operation.id ≠ Project.operationField s'.operation.id ++
            "_operation") := by
  obtain ⟨d, b, slots, hrun, hb, hfiles, hslots, hoperations, hsections, hnodup⟩ :=
    Command.Input.exists_slots_of_generate hmodel hgenerate hserver
  exact ⟨d, b, slots, hrun, hb, hfiles, hslots, hoperations,
    Crate.ServiceBuilder.implementation_eq hsections, Crate.ServiceBuilder.nodup_fields_iff hslots,
    fun s _ => Slot.operationField_ne_body, Crate.ServiceBuilder.nodup_functions_iff hslots hnodup⟩

/-! ## Small servers -/

namespace Command.Input

/-- A finished run whose files can be made: those of a server whose patterns compile, and whose
operations are bound by their traits and have ids that can be read. -/
def IsServable (c : Compilation) : Bool :=
  c.project.mode == .server &&
    c.project.closure.all (fun shape => !shape.isCheckedString c.project.mode ||
      shape.traits.pattern.all Pattern.isValid) &&
        c.project.operations.toOption.any fun operations => operations.all fun operation =>
          operation.traits.http.isSome && (ShapeId.parse (toString operation.id)).toOption ==
            some operation.id

lemma exists_generate_of_isServable {shapes : List Shape} {c : Compilation}
    (hc : finished? shapes = some c) (hfacts : IsServable c = true) :
    ∃ files, (small shapes).model.IsBuilt ∧ (small shapes).generate false = .ok (c, files) ∧
      c.project.mode = .server := by
  simp only [IsServable, Bool.and_eq_true, beq_iff_eq, List.all_eq_true, Option.any_eq_true,
    toOption_eq_some] at hfacts
  obtain ⟨⟨hmode, hvalid⟩, operations, hoperations, hall⟩ := hfacts
  have hpatterns : ∀ shape ∈ c.project.closure, ¬shape.HasBadPattern c.project.mode := by
    rintro shape hmem ⟨hchecked, pattern, hpattern, hbad⟩
    simpa [hchecked, Option.mem_def.1 hpattern, hbad] using hvalid shape hmem
  obtain ⟨hmodel, hrun⟩ := of_finished? hc
  obtain ⟨b, service, protocol, found, hb, h⟩ := Blueprint.exists_sound hmodel hrun
  obtain rfl := Except.ok.inj (hoperations.symm.trans h.accepted.operations_eq)
  have hfails := h.failsFor_files fun operation hmem => ⟨_, (hall operation hmem).2⟩
  obtain ⟨files, hfiles⟩ :=
    hfails.exists_ok_iff.2 (Crate.not_obstacle_of_valid hmode hpatterns hoperations
    fun operation hmem => (hall operation hmem).1)
  exact ⟨files, hmodel, bind_eq_ok.2 ⟨_, hrun,
    bind_eq_ok.2 ⟨b, hb, bind_eq_ok.2 ⟨files, hfiles, rfl⟩⟩⟩, hmode⟩

/-! ## Operations that only get -/

/-- What can be seen of the finished run for a service whose operations have the names. -/
def IsServed (names : List String) (c : Compilation) : Bool :=
  c.project.mode == .server && c.project.closure.all (!·.isCheckedString c.project.mode) &&
    c.project.operations.toOption.any fun operations => operations.map (·.id.name) == names &&
      operations.all fun operation => operation.traits.http.isSome &&
        (ShapeId.parse (toString operation.id)).toOption == some operation.id

/-- Then the server is generated. -/
lemma exists_generate_of_getters {names : List String}
    (hfacts : (finished? (getters names)).any (IsServed names) = true) :
    ∃ c files operations, (small (getters names)).model.IsBuilt ∧
      (small (getters names)).generate false = .ok (c, files) ∧
      c.project.mode = .server ∧ c.project.operations = .ok operations ∧
      operations.map (·.id.name) = names := by
  obtain ⟨c, hc, hfacts⟩ := (Option.any_eq_true _ _).1 hfacts
  simp only [IsServed, Bool.and_eq_true, beq_iff_eq, List.all_eq_true, Bool.not_eq_true',
    Option.any_eq_true, toOption_eq_some] at hfacts
  obtain ⟨⟨hmode, hunchecked⟩, operations, hoperations, hnames, hall⟩ := hfacts
  have hservable : IsServable c = true := by
    simp only [IsServable, Bool.and_eq_true, beq_iff_eq, List.all_eq_true, Option.any_eq_true,
      toOption_eq_some]
    exact ⟨⟨hmode, fun shape hmem => by rw [hunchecked shape hmem]; rfl⟩, operations,
      hoperations, hall⟩
  obtain ⟨files, hmodel, hgenerate, _⟩ := exists_generate_of_isServable hc hservable
  exact ⟨c, files, operations, hmodel, hgenerate, hmode, hoperations, hnames⟩

/-- The server for `Get` and `Put` is generated. -/
lemma exists_generate_of_getPut :
    ∃ c files operations, (small (getters ["Get", "Put"])).model.IsBuilt ∧
    (small (getters ["Get", "Put"])).generate false = .ok (c, files) ∧ c.project.mode = .server ∧
    c.project.operations = .ok operations ∧
    operations.map (·.id) = [⟨"ex", "Get", none⟩, ⟨"ex", "Put", none⟩] := by
  have hfacts : ((finished? (getters ["Get", "Put"])).any fun c => IsServable c &&
      c.project.operations.toOption.any fun operations =>
        operations.map (·.id) == [⟨"ex", "Get", none⟩, ⟨"ex", "Put", none⟩]) = true := by
    decide +kernel
  obtain ⟨c, hc, hfacts⟩ := (Option.any_eq_true _ _).1 hfacts
  simp only [Bool.and_eq_true, Option.any_eq_true, beq_iff_eq, toOption_eq_some] at hfacts
  obtain ⟨hservable, operations, hoperations, hids⟩ := hfacts
  obtain ⟨files, hmodel, hgenerate, hmode⟩ := exists_generate_of_isServable hc hservable
  exact ⟨c, files, operations, hmodel, hgenerate, hmode, hoperations, hids⟩

end Command.Input

open Command.Input (small getters)

/-- The members of the builder for `Get` and `Put` have different names. -/
theorem builder_names_of_getters :
    ∃ c files b slots, (small (getters ["Get", "Put"])).generate false = .ok (c, files) ∧
    b.files = .ok files ∧ b.slots = .ok slots ∧ slots.map (·.operation.id.name) = ["Get", "Put"] ∧
    ((Crate.ServiceBuilder.fields b slots).map (·.1)).Nodup ∧
    ((Crate.ServiceBuilder.functions b c.project.serviceName slots (.seq [])).map
      (·.name)).Nodup := by
  obtain ⟨c, files, operations, hmodel, hgenerate, hmode, hoperations, hids⟩ :=
    Command.Input.exists_generate_of_getPut
  obtain ⟨d, b, slots, _, _, hfiles, hslots, hsame, _, hfields, _, hfunctions⟩ :=
    builder_names_nodup_iff hmodel hgenerate hmode
  have hnames : operations.map (·.id.name) = ["Get", "Put"] := by
    simpa [Function.comp_def] using congrArg (List.map ShapeId.name) hids
  rw [Except.ok.inj (hoperations.symm.trans hsame), List.map_map] at hnames
  have hfield : ∀ s ∈ slots, Project.operationField s.operation.id ∈ ["get", "put"] := by
    intro s hs
    have hmem : Text.snakeCase s.operation.id.name ∈ ["Get", "Put"].map Text.snakeCase :=
      List.mem_map_of_mem (hnames ▸ List.mem_map_of_mem hs)
    exact hmem
  have hplain : ∀ field ∈ ["get", "put"], field ≠ "plugin" ∧ field ≠ "_body" ∧ field ≠ "build" ∧
      field ≠ "build_unchecked" := by
    decide
  have hsetter : ∀ field ∈ ["get", "put"], ∀ other ∈ ["get", "put"],
      field ≠ other ++ "_operation" := by
    decide
  refine ⟨c, files, b, slots, hgenerate, hfiles, hslots, hnames, hfields.2 fun s hs => ?_,
    hfunctions.2 ⟨fun s hs => ?_,
    fun s hs s' hs' => hsetter _ (hfield s hs) _ (hfield s' hs')⟩⟩
  · exact ⟨(hplain _ (hfield s hs)).1, (hplain _ (hfield s hs)).2.1⟩
  · exact (hplain _ (hfield s hs)).2.2

/-- The builder for `Get` and `GetOperation` has two functions of one name: the one that sets the
assembled first operation, and the one that sets the handler of the second. -/
theorem builder_names_clash_of_getters :
    ∃ c files d b slots, (small (getters ["Get", "GetOperation"])).model.IsBuilt ∧
    (small (getters ["Get", "GetOperation"])).generate false = .ok (c, files) ∧
    c.project.mode = .server ∧
    Blueprint.ofCompilation d c = .ok b ∧ b.files = .ok files ∧ b.slots = .ok slots ∧
    ¬((Crate.ServiceBuilder.functions b c.project.serviceName slots (.seq [])).map
      (·.name)).Nodup := by
  have hserved : (Command.Input.finished? (getters ["Get", "GetOperation"])).any
      (Command.Input.IsServed ["Get", "GetOperation"]) = true := by
    decide +kernel
  obtain ⟨c, files, operations, hmodel, hgenerate, hmode, hoperations, hnames⟩ :=
    Command.Input.exists_generate_of_getters hserved
  obtain ⟨d, b, slots, _, hb, hfiles, hslots, hsame, _, hnodup⟩ :=
    Command.Input.exists_slots_of_generate hmodel hgenerate hmode
  refine ⟨c, files, d, b, slots, hmodel, hgenerate, hmode, hb, hfiles, hslots, fun hdiffer => ?_⟩
  rw [Except.ok.inj (hoperations.symm.trans hsame), List.map_map] at hnames
  have hexists : ∀ name ∈ ["Get", "GetOperation"], ∃ s ∈ slots, s.operation.id.name = name := by
    intro name hname
    rw [← hnames] at hname
    exact List.mem_map.1 hname
  obtain ⟨first, hfirst, hget⟩ := hexists "Get" (by decide)
  obtain ⟨second, hsecond, hgetOperation⟩ := hexists "GetOperation" (by decide)
  have hclash : Text.snakeCase "GetOperation" = Text.snakeCase "Get" ++ "_operation" := by
    decide
  refine ((Crate.ServiceBuilder.nodup_functions_iff hslots hnodup).1 hdiffer).2 second hsecond
    first hfirst ?_
  rw [Project.operationField, Project.operationField, hget, hgetOperation]
  exact hclash

end SdkForge
