import SdkForge.Crate.Assembly
import SdkForge.Proofs.Crate.Targets
import SdkForge.Proofs.Lint
import SdkForge.Proofs.Naming
import SdkForge.Proofs.Section

/-!
# Finished runs become crates

The files of a crate are made of a finished run. Little can go wrong then, since the run has seen to
what the files need.

* `Obstacle` lists what is left: patterns that do not compile, operations that a server cannot bind,
  and a client without operations.
* `Blueprint.exists_sound` says what the files are made from, and `Sound.failsFor_files` that there
  is no other obstacle; there is one lemma for each kind of file.
* `renders_iff_no_obstacle` says so of every finished run of the command.
-/

namespace SdkForge

open Outcome

/-! ## Checked strings -/

namespace Shape

variable {mode : Mode} {shape : Shape}

lemma of_isCheckedString (h : shape.isCheckedString mode = true) :
    shape.body = .string ∧ shape.traits.enumValues = none ∧
    ∃ pattern, shape.traits.pattern = some pattern := by
  simp only [isCheckedString, Bool.and_eq_true, decide_eq_true_eq] at h
  obtain ⟨⟨⟨⟨hkind, henum⟩, hpattern⟩, _⟩, _⟩ := h
  refine ⟨?_, Option.isNone_iff_eq_none.1 henum, Option.isSome_iff_exists.1 hpattern⟩
  obtain ⟨id, traits, body⟩ := shape
  cases body <;> first | rfl | simp [kind] at hkind

/-- A checked string is defined in the module for data. -/
lemma of?_of_isCheckedString (h : shape.isCheckedString mode = true) :
    Crate.TypeModule.of? mode shape = some .model := by
  simp [Crate.TypeModule.of?, (of_isCheckedString h).1, h]

/-- A server checks the pattern of the string, and the pattern does not compile. -/
def HasBadPattern (mode : Mode) (shape : Shape) : Prop :=
  shape.isCheckedString mode = true ∧ ∃ pattern ∈ shape.traits.pattern,
    Pattern.isValid pattern = false

/-- Then the string is not defined. -/
lemma failsFor_definition (hchecked : shape.isCheckedString mode = true) (b : Crate.Blueprint)
    (symbol : Symbol) :
    FailsFor (Crate.Definition.ofShape b shape symbol) fun e =>
      shape.HasBadPattern mode ∧ e = .invalidPattern shape.id := by
  obtain ⟨hbody, henum, pattern, hpattern⟩ := of_isCheckedString hchecked
  have htype : FailsFor (Crate.CheckedString.ofShape b shape symbol) fun e =>
      shape.HasBadPattern mode ∧ e = .invalidPattern shape.id := by
    simp only [HasBadPattern, hchecked, Crate.CheckedString.ofShape, hpattern]
    split
    · next hvalid => exact (FailsFor.of_ok rfl).congr (by simp [hvalid])
    · next hvalid => exact (FailsFor.of_error rfl).congr (by simp [hvalid])
  simp only [Crate.Definition.ofShape, hbody, henum]
  exact htype.map _

end Shape

namespace Crate

/-! ## Obstacles -/

/-- A protocol binds operations by their HTTP trait, and the operation has none. -/
def Unbound (protocol : WireProtocol) (operation : Shape) : Prop :=
  protocol.isRest = true ∧ operation.traits.http = none

/-- Why the files of a project cannot be made. -/
inductive Obstacle (p : Project) : Fault → Prop where
  /-- A server cannot check a pattern. -/
  | badPattern {shape : Shape} (hmem : shape ∈ p.closure) (hbad : shape.HasBadPattern p.mode) :
      Obstacle p (.invalidPattern shape.id)
  /-- A server cannot tell which requests reach an operation. -/
  | unbound {service operation : Shape} {protocol : WireProtocol} {operations : List Shape}
      (hmode : p.mode = .server) (hservice : p.serviceShape = .ok service)
      (hprotocol : service.traits.protocols = [protocol])
      (hoperations : p.operations = .ok operations) (hmem : operation ∈ operations)
      (hunbound : Unbound protocol operation) :
      Obstacle p (.missingTrait operation.id .http)
  /-- A client has nothing to call. -/
  | noOperations (hmode : p.mode = .client) (hoperations : p.operations = .ok []) :
      Obstacle p (.noOperations p.service)

/-- A server whose patterns compile, and whose operations all have an HTTP trait, has no
obstacle. -/
lemma not_obstacle_of_valid {p : Project} {operations : List Shape} (hmode : p.mode = .server)
    (hvalid : ∀ shape ∈ p.closure, ¬shape.HasBadPattern p.mode)
    (hoperations : p.operations = .ok operations)
    (hbound : ∀ operation ∈ operations, operation.traits.http.isSome = true) :
    ¬∃ e, Obstacle p e := by
  rintro ⟨e, hobstacle⟩
  cases hobstacle with
  | badPattern hmem hbad => exact hvalid _ hmem hbad
  | unbound _ _ _ hother hmem hunbound =>
    rw [← Except.ok.inj (hoperations.symm.trans hother)] at hmem
    simpa [hunbound.2] using hbound _ hmem
  | noOperations hclient =>
    rw [hmode] at hclient
    contradiction

/-- A server that checks no pattern, and whose operations all have an HTTP trait, has no
obstacle. -/
lemma not_obstacle_of_server {p : Project} {operations : List Shape} (hmode : p.mode = .server)
    (hunchecked : ∀ shape ∈ p.closure, shape.isCheckedString p.mode = false)
    (hoperations : p.operations = .ok operations)
    (hbound : ∀ operation ∈ operations, operation.traits.http.isSome = true) :
    ¬∃ e, Obstacle p e := by
  refine not_obstacle_of_valid hmode (fun shape hmem hbad => ?_) hoperations hbound
  have hnot := hunchecked shape hmem
  rw [hbad.1] at hnot
  contradiction

/-! ## Blueprints of finished runs -/

namespace Blueprint

/-- The blueprint is that of a finished run, whose service has the operations and declares the
protocol. -/
structure Sound (b : Blueprint) (c : Compilation) (service : Shape) (protocol : WireProtocol)
    (operations : List Shape) :
    Prop where
  project_eq : b.project = c.project
  resolved : Resolved c b.symbols
  accepted : c.project.Accepted service protocol operations
  binding_eq : b.protocol.binding = protocol.binding
  sections : b.registry.Holds Contribution.IsPlain

/-- Every finished run has a blueprint. -/
theorem exists_sound {i : Command.Input} {denyWarnings : Bool} {d : DecoratorSet} {c : Compilation}
    (hmodel : i.model.IsBuilt) (hrun : i.compile denyWarnings = .ok (d, c)) :
    ∃ b service protocol operations, ofCompilation d c = .ok b ∧
      b.Sound c service protocol operations := by
  obtain ⟨hselect, _⟩ := phases_of_compile hrun
  obtain ⟨_, _, t, hresolved⟩ := resolved_of_compile hmodel hrun
  obtain ⟨service, id, operations, haccepted⟩ := hresolved.accepted hrun
  obtain ⟨registry, hregistry, hsections⟩ := DecoratorSet.exists_registry hselect c.project
  obtain ⟨protocol, hget, hbinding⟩ :=
    DecoratorSet.binds_protocols_of_select hselect c.project.service Protocol.binds_standardMap id
  have hprotocol : Protocol.resolve service (d.protocols c.project.service Protocol.standardMap) =
      .ok protocol := by
    simp only [Protocol.resolve, haccepted.protocols_eq, elim_eq_ok]
    exact hget
  have htable : c.table = .ok t := elim_eq_ok.2 hresolved.symbols
  refine ⟨⟨c.project, t, registry, protocol⟩, service, id, operations, ?_, rfl, hresolved,
    haccepted, hbinding, hsections⟩
  simp only [ofCompilation, bind_eq_ok, pure_eq_ok, Fault.ofModel_eq_ok]
  exact ⟨service, haccepted.service_eq, protocol, hprotocol, registry, hregistry, t, htable, rfl⟩

namespace Sound

variable {b : Blueprint} {c : Compilation} {service : Shape} {protocol : WireProtocol}
  {operations : List Shape}

/-! ## Parts of files -/

lemma exists_contributed (h : b.Sound c service protocol operations) (place : Section) :
    ∃ fragment, b.contributed place = .ok fragment := by
  obtain ⟨fragments, hfragments⟩ := h.sections.exists_render place
  exact ⟨.seq fragments, bind_eq_ok.2 ⟨fragments, hfragments, rfl⟩⟩

/-- What is in the closure has a symbol. -/
lemma exists_symbol (h : b.Sound c service protocol operations) {shape : Shape}
    (hmem : shape ∈ c.project.closure) :
    ∃ symbol, b.symbols.expect shape.id = .ok symbol := by
  obtain ⟨symbol, hsymbol⟩ := h.resolved.tracks.total shape hmem
  exact ⟨symbol, elim_eq_ok.2 (h.resolved.get?_of_mem_closure hmem hsymbol)⟩

lemma exists_members (h : b.Sound c service protocol operations) {shape : Shape}
    (hmem : shape ∈ c.project.closure) :
    ∃ members, shape.members.mapM b.member = .ok members := by
  have hmember : ∀ id ∈ shape.members, ∃ member, b.member id = .ok member := by
    intro id hid
    have href : id ∈ shape.references := by
      obtain ⟨key, traits, body⟩ := shape
      cases body <;> simp_all [Shape.members, Shape.references]
    obtain ⟨member, hget⟩ := Option.isSome_iff_exists.1
      (h.resolved.model.reference shape.id shape
        (h.resolved.model_get?_of_mem_closure hmem) id href)
    obtain ⟨symbol, hsymbol⟩ := h.exists_symbol (h.resolved.mem_closure_of_member hmem hid hget)
    rw [h.resolved.model.id_eq hget] at hsymbol
    refine ⟨(member, symbol), ?_⟩
    simp only [Blueprint.member, bind_eq_ok, pure_eq_ok, Fault.ofModel_eq_ok, h.project_eq,
      Model.expect_eq_ok]
    exact ⟨member, hget, symbol, hsymbol, rfl⟩
  choose! member hmember using hmember
  exact ⟨_, mapM_eq_ok_of_forall hmember⟩

lemma exists_serviceDoc (h : b.Sound c service protocol operations) :
    ∃ doc, b.serviceDoc = .ok doc := by
  have hservice : Fault.ofModel b.project.serviceShape = .ok service := by
    rw [Fault.ofModel_eq_ok, h.project_eq]
    exact h.accepted.service_eq
  exact ⟨_, bind_eq_ok.2 ⟨service, hservice, rfl⟩⟩

/-! ## Modules of types -/

/-- What a module defines, other than for its pattern, is defined. -/
lemma exists_definition (h : b.Sound c service protocol operations) {shape : Shape} {m : TypeModule}
    (hmem : shape ∈ c.project.closure) (hm : TypeModule.of? c.project.mode shape = some m)
    (hchecked : shape.isCheckedString c.project.mode = false) (symbol : Symbol) :
    ∃ definition, Definition.ofShape b shape symbol = .ok definition := by
  obtain ⟨members, hmembers⟩ := h.exists_members hmem
  obtain ⟨id, traits, body⟩ := shape
  cases body with
  | record | union => exact ⟨_, bind_eq_ok.2 ⟨_, bind_eq_ok.2 ⟨members, hmembers, rfl⟩, rfl⟩⟩
  | operation => exact ⟨_, rfl⟩
  | string =>
    have henum : traits.enumValues.isSome = true ∧ TypeModule.model = m := by
      simpa [TypeModule.of?, hchecked] using hm
    obtain ⟨values, hvalues⟩ := Option.isSome_iff_exists.1 henum.1
    refine ⟨.stringEnum (.ofValues symbol traits.documentation values), ?_⟩
    simp only [Definition.ofShape, hvalues]
    rfl
  | _ => simp [TypeModule.of?] at hm

/-- Only a bad pattern keeps a type from being defined. -/
lemma failsFor_definition (h : b.Sound c service protocol operations) {shape : Shape}
    {m : TypeModule} (hmem : shape ∈ c.project.closure)
    (hm : TypeModule.of? c.project.mode shape = some m) (symbol : Symbol) :
    FailsFor (Definition.ofShape b shape symbol) fun e =>
      shape.HasBadPattern c.project.mode ∧ e = .invalidPattern shape.id := by
  cases hchecked : shape.isCheckedString c.project.mode with
  | true => exact Shape.failsFor_definition hchecked b symbol
  | false =>
    obtain ⟨_, hdefinition⟩ := h.exists_definition hmem hm hchecked symbol
    exact (FailsFor.of_ok hdefinition).congr (by simp [Shape.HasBadPattern, hchecked])

lemma failsFor_typeFile (h : b.Sound c service protocol operations) (m : TypeModule) :
    FailsFor (b.typeFile m) fun e =>
      ∃ entry ∈ b.definedIn m, entry.1.HasBadPattern c.project.mode ∧
        e = .invalidPattern entry.1.id := by
  unfold typeFile definitions
  refine FailsFor.map (FailsFor.mapM fun entry hmem => ?_) _
  obtain ⟨hclosure, hm, _⟩ := (h.resolved.mem_definedIn_iff h.project_eq rfl).1 hmem
  exact h.failsFor_definition hclosure hm entry.2

/-- Together, the modules of types are kept from being made by the bad patterns of the closure. -/
theorem failsFor_types (h : b.Sound c service protocol operations) :
    FailsFor (TypeModule.all.mapM fun m => do return (m.name, ← b.typeFile m)) fun e =>
      ∃ shape ∈ c.project.closure, shape.HasBadPattern c.project.mode ∧
        e = .invalidPattern shape.id := by
  refine (FailsFor.mapM fun m _ => (h.failsFor_typeFile m).map _).congr fun e => ?_
  constructor
  · rintro ⟨m, _, ⟨shape, symbol⟩, hentry, hbad, rfl⟩
    exact ⟨shape, ((h.resolved.mem_definedIn_iff h.project_eq rfl).1 hentry).1, hbad, rfl⟩
  · rintro ⟨shape, hmem, hbad, rfl⟩
    have hm := Shape.of?_of_isCheckedString hbad.1
    obtain ⟨derives, hsymbol, _⟩ := Project.symbolOf_of_module hm
    exact ⟨.model, by decide, (shape, _), (h.resolved.mem_definedIn_iff h.project_eq rfl).2 ⟨hmem,
      hm, hsymbol⟩, hbad, rfl⟩

/-! ## The server's file -/

lemma operations_eq (h : b.Sound c service protocol operations) :
    b.project.operations = .ok operations := by
  rw [h.project_eq]
  exact h.accepted.operations_eq

/-- The service's operations are in the closure. -/
lemma mem_closure_of_mem (h : b.Sound c service protocol operations) {operation : Shape}
    (hmem : operation ∈ operations) :
    operation ∈ c.project.closure := by
  have hmodel := h.resolved.model
  obtain ⟨hservice, _⟩ := Model.expectKind_eq_ok.1 h.accepted.service_eq
  have hstart : service ∈ c.project.closure := by
    refine (Model.mem_walk_iff hmodel).2 ⟨hmodel.get?_id hservice, ?_⟩
    rw [hmodel.id_eq hservice]
    exact .refl
  refine Model.mem_walk_of_reference hmodel hstart ?_
    (Model.get?_of_mem_operations hmodel h.accepted.operations_eq hmem).1
  exact (Model.mem_ids_of_operations hmodel h.accepted.service_eq h.accepted.operations_eq).1
    (List.mem_map_of_mem hmem)

/-- Operations with ids that can be read have slots. -/
lemma exists_slots (h : b.Sound c service protocol operations)
    (hparsed : ∀ operation ∈ operations, operation.id.IsParsed) :
    ∃ slots, b.slots = .ok slots := by
  have hnodup : (operations.map fun operation => Naming.fieldName operation.id.name).Nodup := by
    have hfields := List.pairwise_map.1 h.accepted.nodup
    refine List.pairwise_map.2 (hfields.imp_of_mem fun {a b} ha hb hne heq => hne ?_)
    exact Naming.snakeCase_eq_of_fieldName_eq (hparsed a ha) (hparsed b hb) heq
  have hsymbols : ∀ operation ∈ operations, ∃ symbol, b.symbols.expect operation.id = .ok symbol :=
    fun _ hmem => h.exists_symbol (h.mem_closure_of_mem hmem)
  obtain ⟨slots, hslots⟩ : ∃ slots, operations.foldlM (Slot.add b) [] = .ok slots :=
    Slot.exists_foldlM hsymbols hnodup
  exact ⟨slots, bind_eq_ok.2 ⟨operations, Fault.ofModel_eq_ok.2 h.operations_eq, hslots⟩⟩

/-- Only a protocol that binds operations by their HTTP trait can fail to bind one. -/
lemma failsFor_binding (h : b.Sound c service protocol operations) {operation : Shape}
    (hmem : operation ∈ operations) :
    FailsFor (b.protocol.binding b.project.model operation) fun e =>
      Unbound protocol operation ∧ e = .missingTrait operation.id .http := by
  rw [h.binding_eq, h.project_eq]
  unfold WireProtocol.binding
  cases hrest : protocol.isRest with
  | true =>
    rw [if_pos rfl, Protocol.httpBinding]
    split
    · next http hhttp => exact (FailsFor.of_ok rfl).congr (by simp [Unbound, hhttp])
    · next hhttp => exact (FailsFor.of_error rfl).congr (by simp [Unbound, hrest, hhttp])
  | false =>
    have hmodel := h.resolved.model
    have hrefers : operation.id ∈ service.references :=
      (Model.mem_ids_of_operations hmodel h.accepted.service_eq h.accepted.operations_eq).1
        (List.mem_map_of_mem hmem)
    obtain ⟨owner, howner, _⟩ :=
      Model.exists_ownsFirst hmodel (Model.owns_of_mem hmodel h.accepted.service_eq hrefers)
    rw [if_neg Bool.false_ne_true, Protocol.targetBinding_eq_ok hmodel howner]
    exact (FailsFor.of_ok rfl).congr (by simp [Unbound, hrest])

lemma failsFor_bindingModule (h : b.Sound c service protocol operations) {slots : List Slot}
    (hslots : b.slots = .ok slots) :
    FailsFor (ServerFile.bindingModule b slots) fun e =>
      ∃ operation ∈ operations, Unbound protocol operation ∧
        e = .missingTrait operation.id .http := by
  obtain rfl : operations = slots.map (·.operation) :=
    Except.ok.inj (h.operations_eq.symm.trans (Blueprint.operations_of_slots hslots))
  have hfunction : ∀ s ∈ slots, FailsFor (ServerFile.bindingFunction b s) fun e =>
      Unbound protocol s.operation ∧ e = .missingTrait s.operation.id .http :=
    fun s hs => (h.failsFor_binding (List.mem_map_of_mem hs)).map _
  exact ((FailsFor.mapM hfunction).map _).congr (by simp)

/-- A server's file is kept from being made by the operations that cannot be bound. -/
theorem failsFor_serverFile (h : b.Sound c service protocol operations)
    (hparsed : ∀ operation ∈ operations, operation.id.IsParsed) :
    FailsFor b.serverFile fun e => ∃ operation ∈ operations, Unbound protocol operation ∧
      e = .missingTrait operation.id .http := by
  obtain ⟨slots, hslots⟩ := h.exists_slots hparsed
  obtain ⟨items, hitems⟩ := h.exists_contributed (.serviceBuilderImpl b.project.serviceName)
  obtain ⟨prologue, hprologue⟩ := h.exists_contributed (.serviceBuildPrologue b.project.serviceName)
  obtain ⟨doc, hdoc⟩ := h.exists_serviceDoc
  have hbuilder : ∃ builder, ServiceBuilder.implementation b b.project.serviceName slots =
      .ok builder :=
    ⟨_, bind_eq_ok.2 ⟨items, hitems, bind_eq_ok.2 ⟨prologue, hprologue, rfl⟩⟩⟩
  obtain ⟨builder, hbuilder⟩ := hbuilder
  refine .bind_of_ok hslots (.bind_of_ok hbuilder ?_)
  refine ((h.failsFor_bindingModule hslots).bind fun bindings _ => ?_).congr fun _ => or_iff_left id
  exact .of_ok (bind_eq_ok.2 ⟨_, bind_eq_ok.2 ⟨doc, hdoc, rfl⟩, rfl⟩)

/-! ## The client's files -/

lemma exists_clientFile (h : b.Sound c service protocol operations) :
    ∃ text, b.clientFile = .ok text := by
  obtain ⟨doc, hdoc⟩ := h.exists_serviceDoc
  exact ⟨_, bind_eq_ok.2 ⟨doc, hdoc, rfl⟩⟩

lemma exists_configFile (h : b.Sound c service protocol operations) :
    ∃ text, b.configFile = .ok text := by
  obtain ⟨fields, hfields⟩ := h.exists_contributed .configStruct
  obtain ⟨items, hitems⟩ := h.exists_contributed .configImpl
  obtain ⟨builderFields, hbuilderFields⟩ := h.exists_contributed .configBuilderStruct
  obtain ⟨build, hbuild⟩ := h.exists_contributed .configBuilderBuild
  obtain ⟨builderItems, hbuilderItems⟩ := h.exists_contributed .configBuilderImpl
  obtain ⟨copies, hcopies⟩ :=
    h.sections.exists_render (.copySdkConfig ConfigFile.sharedName ConfigFile.builderVariable)
  exact ⟨_, bind_eq_ok.2 ⟨fields, hfields,
    bind_eq_ok.2 ⟨items, hitems,
      bind_eq_ok.2 ⟨builderFields, hbuilderFields,
        bind_eq_ok.2 ⟨build, hbuild,
          bind_eq_ok.2 ⟨builderItems, hbuilderItems, bind_eq_ok.2 ⟨copies, hcopies, rfl⟩⟩⟩⟩⟩⟩⟩

/-- The file that reads errors is kept from being made if there is no first operation. -/
lemma failsFor_errorFile (h : b.Sound c service protocol operations) :
    FailsFor b.errorFile fun e => operations = [] ∧ e = .noOperations c.project.service := by
  refine .bind_of_ok (Fault.ofModel_eq_ok.2 h.operations_eq) ?_
  cases operations with
  | nil =>
    rw [h.project_eq]
    exact (FailsFor.of_error rfl).congr (by simp)
  | cons first rest =>
    refine ((FailsFor.mapM (P := fun _ _ => False) fun operation _ => ?_).map _).congr (by simp)
    obtain ⟨extras, hextras⟩ :=
      h.exists_contributed (.genericErrorExtras operation.id ErrorFile.builder ErrorFile.response)
    exact .of_ok (bind_eq_ok.2 ⟨extras, hextras, rfl⟩)

/-! ## All files -/

lemma exists_rootFile (h : b.Sound c service protocol operations) :
    ∃ text, b.rootFile = .ok text := by
  obtain ⟨attributes, hattributes⟩ := h.exists_contributed .libAttributes
  obtain ⟨body, hbody⟩ := h.exists_contributed .libBody
  exact ⟨_, bind_eq_ok.2 ⟨attributes, hattributes, bind_eq_ok.2 ⟨body, hbody, rfl⟩⟩⟩

/-- The modules of one side are kept from being made by what that side needs of the operations. -/
lemma failsFor_sideFiles (h : b.Sound c service protocol operations)
    (hparsed : ∀ operation ∈ operations, operation.id.IsParsed) :
    FailsFor b.sideFiles fun e =>
      c.project.mode = .server ∧
      (∃ operation ∈ operations, Unbound protocol operation ∧
        e = .missingTrait operation.id .http) ∨
        c.project.mode = .client ∧ operations = [] ∧ e = .noOperations c.project.service := by
  unfold sideFiles
  rw [h.project_eq]
  cases hmode : c.project.mode with
  | server => exact ((h.failsFor_serverFile hparsed).map _).congr (by simp)
  | client =>
    obtain ⟨client, hclient⟩ := h.exists_clientFile
    obtain ⟨config, hconfig⟩ := h.exists_configFile
    exact (FailsFor.bind_of_ok hclient (.bind_of_ok hconfig (h.failsFor_errorFile.map _))).congr
      (by simp)

/-- The files are kept from being made by the obstacles. -/
theorem failsFor_files (h : b.Sound c service protocol operations)
    (hparsed : ∀ operation ∈ operations, operation.id.IsParsed) :
    FailsFor b.files (Obstacle c.project) := by
  obtain ⟨root, hroot⟩ := h.exists_rootFile
  have hmodules :=
    h.failsFor_types.bind fun types _ =>
      (h.failsFor_sideFiles hparsed).map (("lib", root) :: types ++ ·)
  have hsources : FailsFor b.sources _ := .bind_of_ok hroot hmodules
  refine (hsources.map _).congr fun e => ?_
  constructor
  · rintro (⟨shape, hmem, hbad, rfl⟩ | ⟨hmode, operation, hmem, hunbound, rfl⟩ | ⟨hmode, rfl, rfl⟩)
    · exact .badPattern hmem hbad
    · exact .unbound hmode h.accepted.service_eq h.accepted.protocols_eq h.accepted.operations_eq
        hmem hunbound
    · exact .noOperations hmode h.accepted.operations_eq
  · intro hobstacle
    cases hobstacle with
    | @badPattern shape hmem hbad => exact .inl ⟨shape, hmem, hbad, rfl⟩
    | @unbound found operation id list hmode hservice hprotocol hoperations hmem hunbound =>
      obtain rfl := Except.ok.inj (hservice.symm.trans h.accepted.service_eq)
      obtain rfl := (List.cons.inj (hprotocol.symm.trans h.accepted.protocols_eq)).1
      obtain rfl := Except.ok.inj (hoperations.symm.trans h.accepted.operations_eq)
      exact .inr (.inl ⟨hmode, operation, hmem, hunbound, rfl⟩)
    | noOperations hmode hoperations =>
      exact .inr (.inr ⟨hmode, Except.ok.inj (h.accepted.operations_eq.symm.trans hoperations),
        rfl⟩)

end Sound

end Blueprint

end Crate

open Crate (Blueprint Obstacle)

/-- The files of a finished run are made exactly if there is no obstacle: no bad pattern of the
closure and no operation without binding for a server, and an operation at least for a client.
Nothing else keeps them from being made. The operations of the model have ids that can be read, so
that those with different setters have different fields. -/
theorem renders_iff_no_obstacle {i : Command.Input} {denyWarnings : Bool} {d : DecoratorSet}
    {c : Compilation} (hmodel : i.model.IsBuilt) (hrun : i.compile denyWarnings = .ok (d, c))
    (hparsed : ∀ id shape, i.model.get? id = some shape → shape.isOperation = true → id.IsParsed) :
    ((∃ files, (Blueprint.ofCompilation d c >>= Blueprint.files) = .ok files) ↔
      ¬∃ e, Obstacle c.project e) ∧
      ∀ e, (Blueprint.ofCompilation d c >>= Blueprint.files) = .error e → Obstacle c.project e := by
  obtain ⟨b, service, protocol, operations, hb, h⟩ := Blueprint.exists_sound hmodel hrun
  have hoperations : ∀ operation ∈ operations, operation.id.IsParsed := by
    intro operation hmem
    obtain ⟨hget, hoperation⟩ :=
      Model.get?_of_mem_operations h.resolved.model h.accepted.operations_eq hmem
    obtain ⟨original, horiginal, hkind⟩ :=
      addsNoOperation_of_compile hmodel hrun operation.id operation hget hoperation
    exact hparsed operation.id original horiginal hkind
  have hfiles := FailsFor.bind_of_ok hb (h.failsFor_files hoperations)
  exact ⟨hfiles.exists_ok_iff, hfiles.of_eq_error⟩

/-- A service without operations, and beside it one that has an operation. -/
def idleBesideBusy : List Shape := Command.Input.idleService ++ [
  { id := ⟨"ex", "Busy", none⟩, body := .service "1" [⟨"ex", "Get", none⟩] },
  { id := ⟨"ex", "Get", none⟩, body := .operation none none [] }]

/-- The server of the service without operations is made. -/
theorem renders_of_idle : ∃ d c files,
    (Command.Input.small idleBesideBusy).compile false = .ok (d, c) ∧
    c.project.operations = .ok [] ∧
    (∃ operation ∈ (Command.Input.small idleBesideBusy).model.toList,
      operation.isOperation = true) ∧
    (Blueprint.ofCompilation d c >>= Blueprint.files) = .ok files := by
  obtain ⟨hany, hget, hfacts⟩ :
      (Command.Input.small idleBesideBusy).model.toList.any (·.isOperation) = true ∧
      ((Command.Input.small idleBesideBusy).model.toList.all fun shape =>
        !shape.isOperation || shape.id == ⟨"ex", "Get", none⟩) = true ∧
      ((Command.Input.finished? idleBesideBusy).any fun c =>
        c.project.operations.toOption == some [] && c.project.mode == .server &&
          c.project.closure.all (!·.isCheckedString c.project.mode)) = true := by
    decide +kernel
  obtain ⟨c, hc, hfacts⟩ := (Option.any_eq_true _ _).1 hfacts
  simp only [Bool.and_eq_true, Bool.or_eq_true, beq_iff_eq, toOption_eq_some, List.all_eq_true,
    Bool.not_eq_true'] at hget hfacts
  obtain ⟨⟨hoperations, hmode⟩, hunchecked⟩ := hfacts
  obtain ⟨hmodel, hrun⟩ := Command.Input.of_finished? hc
  have hparsed : ∀ id shape, (Command.Input.small idleBesideBusy).model.get? id = some shape →
      shape.isOperation = true → id.IsParsed := by
    intro id shape hshape hoperation
    have hid := hmodel.wellFormed.id_eq hshape
    have hmem := (Model.mem_toList_iff hmodel.wellFormed).2 (hmodel.wellFormed.get?_id hshape)
    obtain hnot | hname := hget shape hmem
    · rw [hoperation] at hnot
      contradiction
    · exact ⟨"ex#Get", by rw [← hid, hname]; decide⟩
  have hnone := Crate.not_obstacle_of_server hmode hunchecked hoperations (by simp)
  obtain ⟨files, hfiles⟩ := (renders_iff_no_obstacle hmodel hrun hparsed).1.2 hnone
  exact ⟨_, c, files, hrun, hoperations, List.any_eq_true.1 hany, hfiles⟩

/-- The input for a client of a service without operations. -/
def idleClient : Command.Input :=
  { Command.Input.small Command.Input.idleService with manifest.codegen.mode := .client }

/-- The client of that service is not made, although its run is finished. -/
theorem not_renders_of_idleClient :
    ∃ d c, idleClient.model.IsBuilt ∧ idleClient.compile false = .ok (d, c) ∧
    c.project.mode = .client ∧ c.project.operations = .ok [] ∧
    (Blueprint.ofCompilation d c >>= Blueprint.files) =
      .error (.noOperations Command.Input.smallService) := by
  obtain ⟨hbuild, hfacts⟩ :
      (Model.Draft.ofList Command.Input.idleService).build.toOption.isSome = true ∧
      (((Command.Input.pipeline ⟨Decorator.builtin⟩ false).run idleClient.project).toOption.any
        fun c =>
          c.project.mode == .client && c.project.operations.toOption == some [] &&
            c.project.service == Command.Input.smallService) = true := by
    decide +kernel
  obtain ⟨c, hc, hfacts⟩ := (Option.any_eq_true _ _).1 hfacts
  simp only [Bool.and_eq_true, beq_iff_eq, toOption_eq_some] at hc hfacts
  obtain ⟨⟨hmode, hoperations⟩, hservice⟩ := hfacts
  have hmodel : idleClient.model.IsBuilt := by
    have hsmall : (Command.Input.small Command.Input.idleService).model.IsBuilt :=
      Command.Input.isBuilt_small hbuild
    rw [idleClient]
    exact hsmall
  have hrun : idleClient.compile false = .ok (⟨Decorator.builtin⟩, c) :=
    Command.Input.compile_eq_ok DecoratorSet.select_none hc
  obtain ⟨b, service, protocol, operations, hb, h⟩ := Blueprint.exists_sound hmodel hrun
  obtain rfl := Except.ok.inj (hoperations.symm.trans h.accepted.operations_eq)
  have hfiles := FailsFor.bind_of_ok hb (h.failsFor_files (by simp))
  refine ⟨_, c, hmodel, hrun, hmode, hoperations, ?_⟩
  cases hresult : (Blueprint.ofCompilation ⟨Decorator.builtin⟩ c >>= Blueprint.files) with
  | ok files => exact absurd hresult (hfiles.ne_ok _ (.noOperations hmode hoperations) files)
  | error e =>
    -- a client neither checks patterns nor binds operations
    cases hfiles.of_eq_error e hresult with
    | badPattern _ hbad => simp [Shape.HasBadPattern, Shape.isCheckedString, hmode] at hbad
    | unbound hserver => simp [hmode] at hserver
    | noOperations => rw [hservice]

end SdkForge
