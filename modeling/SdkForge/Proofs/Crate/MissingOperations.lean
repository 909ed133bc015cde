import SdkForge.Proofs.Crate.Patterns
import SdkForge.Proofs.Server.Builder
import SdkForge.Proofs.ShapeId.Order

/-!
# The order in which missing operations are reported

A generated builder begins its notes, tests its fields one after the other, notes the operations of
those that are empty, and returns the notes if there are any. A builder that is told its operations
sorts those without a handler by their texts. Both report them in the order of their ids.

* `Server.ServiceBuilder.operations_missing` says so of the builder that is told its operations.
* `Crate.ServiceBuilder.reported?_buildFunction` says what a generated builder reports, and
  `Crate.Blueprint.Sound.pairwise_slots` and `Crate.Blueprint.Sound.identifies_of_mem` of which
  operations, in which order.
* `missing_operations_in_id_order` puts this together.
-/

namespace SdkForge

open Outcome

/-! ## Operations that are declared -/

namespace Server.ServiceBuilder

variable {b : ServiceBuilder} {operation : String}

lemma mem_unset_iff (hnodup : (b.slots.map (·.operation)).Nodup) :
    operation ∈ b.unset ↔ operation ∈ b.slots.map (·.operation) ∧ b.isSet operation = false := by
  simp only [unset, unsetSlots, List.mem_map, List.mem_filter, isSet, List.any_eq_false,
    Bool.and_eq_true, beq_iff_eq, not_and]
  constructor
  · rintro ⟨slot, ⟨hmem, hnone⟩, rfl⟩
    refine ⟨⟨slot, hmem, rfl⟩, fun other hother heq => ?_⟩
    rw [List.inj_on_of_nodup_map hnodup hother hmem heq, Option.isNone_iff_eq_none.1 hnone]
    exact Bool.false_ne_true
  · rintro ⟨⟨slot, hmem, rfl⟩, hset⟩
    exact ⟨slot, ⟨hmem, by simpa using hset slot hmem rfl⟩, rfl⟩

lemma perm_operations_missing (b : ServiceBuilder) : b.missing.operations.Perm b.unset := by
  rw [MissingOperations.operations, missing, List.map_map]
  exact (List.mergeSort_perm _ _).map _

/-- Where the operations are those of ids, the missing ones stand in the order of the ids. -/
theorem operations_missing (hnodup : (b.slots.map (·.operation)).Nodup) {ids : List ShapeId}
    (hdeclared : (b.slots.map (·.operation)).Perm (ids.map toString))
    (hids : ∀ id ∈ ids, id.WellFormed) (hsorted : ids.Pairwise fun id id' => compare id id' = .lt) :
    b.missing.operations = (ids.filter fun id => !b.isSet (toString id)).map toString := by
  have hmissing : b.missing.operations.Pairwise (· < ·) :=
    List.pairwise_map.2 (pairwise_missing hnodup)
  have htexts : ((ids.filter fun id => !b.isSet (toString id)).map toString).Pairwise (· < ·) := by
    refine List.pairwise_map.2 ((hsorted.imp_of_mem fun {id id'} hid hid' hlt => ?_).filter _)
    exact (ShapeId.compare_eq_lt_iff (hids id hid) (hids id' hid')).1 hlt
  have hperm :
      b.missing.operations.Perm ((ids.filter fun id => !b.isSet (toString id)).map toString) := by
    refine (List.perm_ext_iff_of_nodup (hmissing.imp ne_of_lt) (htexts.imp ne_of_lt)).2
      fun operation => ?_
    rw [b.perm_operations_missing.mem_iff, mem_unset_iff hnodup, hdeclared.mem_iff]
    simp only [List.mem_map, List.mem_filter, Bool.not_eq_true']
    constructor
    · rintro ⟨⟨id, hid, rfl⟩, hset⟩
      exact ⟨id, ⟨hid, hset⟩, rfl⟩
    · rintro ⟨id, ⟨hid, hset⟩, rfl⟩
      exact ⟨⟨id, hid, rfl⟩, hset⟩
  exact hperm.eq_of_pairwise (fun _ _ _ _ h h' => absurd h' (lt_asymm h)) hmissing htexts

end Server.ServiceBuilder

/-! ## Operations that have fields -/

namespace Crate

namespace ServiceBuilder

variable {b : Blueprint} {slots : List Slot} {service : String} {empty taken : List String}
  {notes : Option (List String)}

/-- The test whether a field is empty. -/
def emptyTest (field : String) : String := s!"if self.{field}.is_none() " ++ "\x7b"

/-- The test whether something was noted. -/
def missingTest : String := "if !missing.is_empty() \x7b"

/-- The statement that returns what was noted. -/
def returnMissing : String := "return Err(missing);"

/-- The statement that notes the operation of a slot. -/
def noteLine (s : Slot) : String := s!"missing.push({s.marker}::ID, \".{s.field}()\");"

/-- Whether a statement begins the notes. -/
def beginsNotes (text : String) : Bool :=
  "let missing = ".toList.isPrefixOf text.toList ||
    "let mut missing = ".toList.isPrefixOf text.toList

/-- Whether a test turns out true where some fields are empty and some notes were taken. -/
def passes (empty taken : List String) (test : String) : Bool :=
  if test = missingTest then !taken.isEmpty else empty.any (test == emptyTest ·)

/-- What a statement makes of the notes, if they were begun: it returns them, which is an error,
begins them, or goes on with them. A statement below a test that passes is a note, unless it
returns. -/
def runStatement (empty : List String) (notes : Option (List String)) :
    Fragment → Except (List String) (Option (List String))
  | .line text =>
    if text = returnMissing then .error (notes.getD [])
    else if beginsNotes text then .ok (some [])
    else .ok notes
  | .block test [.line text] _ =>
    if !passes empty (notes.getD []) test then .ok notes
    else if text = returnMissing then .error (notes.getD [])
    else .ok (notes.map (· ++ [text]))
  | _ => .ok notes

/-- The notes that the function returns where some fields are empty, unless it gets to its value. -/
def reported? (f : Code.Function) (empty : List String) : Option (List String) :=
  match f.body.foldlM (runStatement empty) none with
  | .error notes => some notes
  | .ok _ => none

lemma emptyTest_inj {field other : String} : emptyTest field = emptyTest other ↔ field = other := by
  rw [emptyTest, emptyTest, String.append_left_inj]
  simp [ToString.toString]

/-- Texts that begin with other characters are different. -/
lemma ne_of_head? {s s' : String} (h : s.toList.head? ≠ s'.toList.head?) : s ≠ s' :=
  fun heq => h (by rw [heq])

/-- A line that does not return goes on. -/
lemma exists_runStatement_line {text : String} (h : text ≠ returnMissing) :
    ∃ notes', runStatement empty notes (.line text) = .ok notes' := by
  rw [runStatement, if_neg h]
  split <;> exact ⟨_, rfl⟩

lemma runStatement_begin {text : String} (h : text ≠ returnMissing)
    (hbegins : beginsNotes text = true) :
    runStatement empty notes (.line text) = .ok (some []) := by
  rw [runStatement, if_neg h, if_pos hbegins]

/-- A block that is not below one of the tests does nothing. -/
lemma runStatement_block {test : String} (h : test.toList.head? ≠ some 'i') (body : List Fragment)
    (close : Option String) : runStatement empty notes (.block test body close) = .ok notes := by
  have hfails : passes empty (notes.getD []) test = false := by
    have hmissing : test ≠ missingTest := ne_of_head? h
    have hempty : ∀ field, test ≠ emptyTest field := fun field => ne_of_head? (by
      simpa [emptyTest, ToString.toString] using h)
    simp [passes, hmissing, hempty]
  unfold runStatement
  split
  · contradiction
  · next heq =>
    obtain ⟨rfl, -⟩ := Fragment.block.inj heq
    rw [hfails]
    rfl
  · rfl

lemma runStatement_noteMissing (s : Slot) : runStatement empty (some taken) (noteMissing s) =
    .ok (some (taken ++ if s.field ∈ empty then [noteLine s] else [])) := by
  have htest : emptyTest s.field ≠ missingTest := by
    intro heq
    have hthird := congrArg (·.toList[3]?) heq
    simp [emptyTest, missingTest, ToString.toString] at hthird
  have hpasses : passes empty taken (emptyTest s.field) = decide (s.field ∈ empty) := by
    rw [passes, if_neg htest, Bool.eq_iff_iff]
    simp [emptyTest_inj]
  have hnote : noteLine s ≠ returnMissing := ne_of_head? (by
    simp [noteLine, returnMissing, ToString.toString])
  show (if !passes empty taken (emptyTest s.field) then Except.ok (some taken)
    else if noteLine s = returnMissing then .error taken
    else .ok (some (taken ++ [noteLine s]))) = _
  rw [hpasses, if_neg hnote]
  split_ifs <;> simp_all

/-- The tests of all fields note the operations of those that are empty. -/
lemma foldlM_noteMissing : (slots.map noteMissing).foldlM (runStatement empty) (some taken) =
    .ok (some (taken ++ (slots.filter (·.field ∈ empty)).map noteLine)) := by
  induction slots generalizing taken with
  | nil => simp [pure, Except.pure]
  | cons s rest ih =>
    rw [List.map_cons, foldlM_cons_of_ok (runStatement_noteMissing s), ih, List.filter_cons]
    split_ifs <;> simp_all

/-- Statements that go on are gone through to their end. -/
lemma exists_foldlM_runStatement {statements : List Fragment}
    (h : ∀ f ∈ statements, ∀ notes, ∃ notes', runStatement empty notes f = .ok notes') :
    ∃ notes', statements.foldlM (runStatement empty) notes = .ok notes' := by
  induction statements generalizing notes with
  | nil => exact ⟨notes, rfl⟩
  | cons f rest ih =>
    obtain ⟨hf, hrest⟩ := List.forall_mem_cons.1 h
    obtain ⟨next, hnext⟩ := hf notes
    rw [foldlM_cons_of_ok hnext]
    exact ih hrest

lemma exists_foldlM_compileCalls (empty : List String) (notes : Option (List String))
    (types : List String) :
    ∃ notes', (types.map fun type => Fragment.line (compileCall type)).foldlM (runStatement empty)
      notes = .ok notes' := by
  refine exists_foldlM_runStatement fun f hf notes => ?_
  obtain ⟨type, -, rfl⟩ := List.mem_map.1 hf
  exact exists_runStatement_line (compileCall_ne "g);".toList (by decide) (by decide) (by decide))

/-- The statements that make the value go on, and so do those after them. -/
lemma exists_foldlM_routerOf (empty : List String) (notes : Option (List String)) (type : String)
    (routes steps : List Fragment) {result : String} (h : result ≠ returnMissing) :
    ∃ notes', (routerOf type routes steps ++ [Fragment.line result]).foldlM (runStatement empty)
      notes = .ok notes' := by
  refine exists_foldlM_runStatement fun f hf notes => ?_
  simp only [routerOf, List.cons_append, List.nil_append, List.mem_cons, List.not_mem_nil,
    or_false] at hf
  obtain rfl | rfl | rfl | rfl := hf
  · exact ⟨notes, runStatement_block (by simp [ToString.toString]) _ _⟩
  · exact exists_runStatement_line (by decide)
  · exact ⟨notes, rfl⟩
  · exact exists_runStatement_line h

/-- The builder of a generated server has the function. -/
lemma buildFunction_mem_functions {prologue : Fragment} :
    buildFunction b service slots prologue ∈ functions b service slots prologue :=
  List.mem_append_right _ List.mem_cons_self

lemma runStatement_return :
    runStatement empty (some taken) (.braced missingTest [.line returnMissing]) =
      if taken = [] then .ok (some taken) else .error taken := by
  cases taken <;> simp [runStatement, Fragment.braced, passes]

/-- The function that builds compiles patterns, begins the notes, tests the fields, returns the
notes if there are any, and makes its value. -/
lemma exists_body_buildFunction (b : Blueprint) (service : String) (slots : List Slot) :
    ∃ declaration type routes steps result,
      (buildFunction b service slots (.seq [])).body =
        (checkedTypes b).map (fun type => .line (compileCall type)) ++
          ([.seq [], .line declaration] ++ (slots.map noteMissing ++
            ([.braced missingTest [.line returnMissing]] ++
              (routerOf type routes steps ++ [.line result])))) ∧
      declaration ≠ returnMissing ∧ beginsNotes declaration = true ∧ result ≠ returnMissing := by
  refine ⟨_, _, _, _, _, by simp only [buildFunction, List.append_assoc]; rfl, ?_, ?_, ?_⟩
  · exact ne_of_head? (by split <;> simp [returnMissing])
  · split <;> simp [beginsNotes, ToString.toString]
  · exact ne_of_head? (by simp [returnMissing, ToString.toString])

/-- The function that builds returns the notes of all empty fields, in the order of the slots, and
gets to its value only if no field is empty. -/
theorem reported?_buildFunction : reported? (buildFunction b service slots (.seq [])) empty =
    if slots.filter (·.field ∈ empty) = [] then none
    else some ((slots.filter (·.field ∈ empty)).map noteLine) := by
  obtain ⟨declaration, type, routes, steps, result, hbody, hdeclaration, hbegins, hresult⟩ :=
    exists_body_buildFunction b service slots
  obtain ⟨before, hbefore⟩ := exists_foldlM_compileCalls empty none (checkedTypes b)
  have hdeclare : [Fragment.seq [], .line declaration].foldlM (runStatement empty) before =
      .ok (some []) := by
    rw [foldlM_cons_of_ok rfl, foldlM_cons_of_ok (runStatement_begin hdeclaration hbegins)]
    rfl
  rw [reported?, hbody, foldlM_append_of_ok hbefore, foldlM_append_of_ok hdeclare,
    foldlM_append_of_ok foldlM_noteMissing, List.nil_append, List.singleton_append]
  by_cases hnone : slots.filter (·.field ∈ empty) = []
  · -- nothing is returned, so that the function gets to its value
    obtain ⟨after, hafter⟩ :=
      exists_foldlM_routerOf empty (some []) type routes steps hresult
    rw [if_pos hnone, hnone, List.map_nil, foldlM_cons_of_ok runStatement_return, hafter]
  · have hreturn : runStatement empty (some ((slots.filter (·.field ∈ empty)).map noteLine))
        (.braced missingTest [.line returnMissing]) = .error _ :=
      runStatement_return.trans (if_neg (mt List.map_eq_nil_iff.1 hnone))
    rw [if_neg hnone, foldlM_cons_of_error hreturn]

end ServiceBuilder

end Crate

/-! ## The ids of operations -/

namespace Shape

variable {shape : Shape}

/-- Operations have their types in a module of their own. -/
lemma of?_of_isOperation (h : shape.isOperation = true) (mode : Mode) :
    Crate.TypeModule.of? mode shape = some .operation := by
  obtain ⟨id, traits, body⟩ := shape
  cases body <;> simp_all [isOperation, kind, Crate.TypeModule.of?]

lemma definition_of_isOperation (h : shape.isOperation = true) (b : Crate.Blueprint)
    (symbol : Symbol) :
    Crate.Definition.ofShape b shape symbol = .ok (.operation (.ofShape shape symbol)) := by
  obtain ⟨id, traits, body⟩ := shape
  cases body <;> simp_all [isOperation, kind, Crate.Definition.ofShape, pure_eq_ok]

end Shape

namespace Crate

namespace Blueprint

variable {b : Blueprint} {slots : List Slot} {c : Compilation} {service : Shape}
  {protocol : WireProtocol} {operations : List Shape}

/-- The constant `ID` of the type is the text of the id. -/
def Identifies (b : Blueprint) (type : String) (id : ShapeId) : Prop :=
  ∃ definitions m, b.definitions .operation = .ok definitions ∧
    Definition.operation m ∈ definitions ∧
    type = s!"{TypeModule.operation.path}::{m.name}" ∧ m.operation = id

namespace Sound

/-- The slots stand in the order of their operations' ids. -/
theorem pairwise_slots (h : b.Sound c service protocol operations) (hslots : b.slots = .ok slots) :
    slots.Pairwise fun s s' => compare s.operation.id s'.operation.id = .lt := by
  have hoperations := Blueprint.operations_of_slots hslots
  rw [h.project_eq] at hoperations
  have hids := Model.ids_of_operations h.resolved.model h.accepted.service_eq hoperations
  have hsorted : (OrderedMap.ofList (service.references.map (·, ()))).keys.Pairwise fun id id' =>
      compare id id' = .lt :=
    List.pairwise_map.2 (OrderedMap.sorted _)
  rw [← hids, List.map_map] at hsorted
  exact List.pairwise_map.1 hsorted

/-- The type of a slot says the id of its operation. -/
theorem identifies_of_mem (h : b.Sound c service protocol operations) {files : FileSet}
    (hfiles : b.files = .ok files) (hslots : b.slots = .ok slots) {s : Slot} (hs : s ∈ slots) :
    b.Identifies s.marker s.operation.id := by
  obtain ⟨definitions, hdefinitions⟩ := exists_definitions_of_files hfiles .operation
  obtain ⟨symbol, hsymbol, hmarker⟩ := marked_of_slots hslots s hs
  obtain rfl := Except.ok.inj (h.operations_eq.symm.trans (Blueprint.operations_of_slots hslots))
  have hmem : s.operation ∈ slots.map (·.operation) := List.mem_map_of_mem hs
  have hclosure := h.mem_closure_of_mem hmem
  have hoperation := (Model.get?_of_mem_operations h.resolved.model h.accepted.operations_eq hmem).2
  obtain ⟨derives, hown, _⟩ :=
    Project.symbolOf_of_module (Shape.of?_of_isOperation hoperation c.project.mode)
  have hget := h.resolved.get?_of_mem_closure hclosure hown
  obtain rfl := Except.ok.inj (hsymbol.symm.trans (elim_eq_ok.2 hget))
  have hentry := (h.resolved.mem_definedIn_iff h.project_eq rfl).2
    ⟨hclosure, Shape.of?_of_isOperation hoperation c.project.mode, hown⟩
  obtain ⟨definition, hdefinition, hshape⟩ := exists_mem_of_mapM hdefinitions hentry
  obtain rfl := Except.ok.inj ((Shape.definition_of_isOperation hoperation b _).symm.trans hshape)
  exact ⟨definitions, _, hdefinitions, hdefinition, hmarker, rfl⟩

end Sound

end Blueprint

end Crate

open Crate (Blueprint)

/-- Ids that can be read stand in the order of the bytes of their texts, so that both kinds of
builders report missing operations in the order of their ids. The slots of a generated builder stand
in that order, and the type of each says the id of its operation. The function that builds, which is
one of the builder's, returns notes of the operations whose fields are empty, in the order of the
slots, if there are any, and else gets to its value. A builder that was told the same operations, in
any order, and has handlers for the same ones reports the same operations in the same order. -/
theorem missing_operations_in_id_order :
    (∀ a b : ShapeId, a.IsParsed → b.IsParsed →
      (compare a b = .lt ↔ ShapeId.bytes (toString a) < ShapeId.bytes (toString b))) ∧
    ∀ (i : Command.Input) (denyWarnings : Bool) (c : Compilation) (files : FileSet),
    i.model.IsBuilt →
      i.generate denyWarnings = .ok (c, files) → c.project.mode = .server →
      ∃ d b slots, i.compile denyWarnings = .ok (d, c) ∧ Blueprint.ofCompilation d c = .ok b ∧
        b.files = .ok files ∧
        b.slots = .ok slots ∧
        (∃ block : Code.Implementation, block.items = [] ∧
          Crate.ServiceBuilder.implementation b c.project.serviceName slots = .ok
            ((Crate.ServiceBuilder.functions b c.project.serviceName slots (.seq [])).foldl
              Code.Implementation.method block).fragment) ∧
        Crate.ServiceBuilder.buildFunction b c.project.serviceName slots (.seq []) ∈
          Crate.ServiceBuilder.functions b c.project.serviceName slots (.seq []) ∧
        slots.Pairwise (fun s s' => compare s.operation.id s'.operation.id = .lt) ∧
        (∀ s ∈ slots, b.Identifies s.marker s.operation.id) ∧
        ∀ empty : List String,
          Crate.ServiceBuilder.reported?
              (Crate.ServiceBuilder.buildFunction b c.project.serviceName slots (.seq [])) empty =
            (if slots.filter (·.field ∈ empty) = [] then none
              else some ((slots.filter (·.field ∈ empty)).map Crate.ServiceBuilder.noteLine)) ∧
          ((∀ s ∈ slots, s.operation.id.IsParsed) →
            ∀ name calls builder, Server.ServiceBuilder.run { name } calls = .ok builder →
              (builder.slots.map (·.operation)).Perm (slots.map fun s => toString s.operation.id) →
              (∀ s ∈ slots, s.field ∈ empty ↔ builder.isSet (toString s.operation.id) = false) →
              ∀ protocol missing, builder.build protocol = .error missing →
                missing.operations = (slots.filter (·.field ∈ empty)).map fun s =>
                  toString s.operation.id) := by
  refine ⟨fun a b ha hb => ?_, fun i denyWarnings c files hmodel hgenerate hserver => ?_⟩
  · exact ShapeId.compare_eq_lt_iff_bytes (ShapeId.isParsed_iff_wellFormed.1 ha)
      (ShapeId.isParsed_iff_wellFormed.1 hb)
  obtain ⟨d, b, slots, hrun, hb, hfiles, hslots, _, hsections, _⟩ :=
    Command.Input.exists_slots_of_generate hmodel hgenerate hserver
  obtain ⟨b', service, protocol, operations, hb', h⟩ := Blueprint.exists_sound hmodel hrun
  obtain rfl := Except.ok.inj (hb'.symm.trans hb)
  have hsorted := h.pairwise_slots hslots
  refine ⟨d, b', slots, hrun, hb, hfiles, hslots, Crate.ServiceBuilder.implementation_eq hsections,
    Crate.ServiceBuilder.buildFunction_mem_functions, hsorted,
    fun s hs => h.identifies_of_mem hfiles hslots hs,
    fun empty => ⟨Crate.ServiceBuilder.reported?_buildFunction, ?_⟩⟩
  intro hparsed name calls builder hcalls hdeclared hempty protocol missing hmissing
  have hrecords := (Server.ServiceBuilder.Records.start name).run hcalls
  have hids : ∀ id ∈ slots.map (·.operation.id), id.WellFormed :=
    List.forall_mem_map.2 fun s hs => ShapeId.isParsed_iff_wellFormed.1 (hparsed s hs)
  have hperm :
      (builder.slots.map (·.operation)).Perm ((slots.map (·.operation.id)).map toString) := by
    rw [List.map_map]
    exact hdeclared
  have hoperations :=
    Server.ServiceBuilder.operations_missing hrecords.distinct hperm hids
      (List.pairwise_map.2 hsorted)
  rw [Server.ServiceBuilder.build_eq] at hmissing
  split_ifs at hmissing
  rw [← Except.error.inj hmissing, hoperations, List.filter_map, List.map_map]
  refine congrArg _ (List.filter_congr fun s hs => ?_)
  simp [hempty s hs]

namespace Server

/-- The calls that declare two operations, not in the order of their ids. -/
def getterCalls : List BuilderCall := [
  .declare "ex#Put" "put" (.rest "GET" [.literal "put"] []),
  .declare "ex#Get" "get" (.rest "GET" [.literal "get"] [])]

end Server

open Command.Input (small getters)

/-- A generated server, and a builder that is told its operations in another order, without any
handler. -/
theorem missing_operations_in_id_order_of_getters : ∃ c files b slots builder missing,
    (small (getters ["Get", "Put"])).generate false = .ok (c, files) ∧ b.files = .ok files ∧
    b.slots = .ok slots ∧
    Crate.ServiceBuilder.reported?
        (Crate.ServiceBuilder.buildFunction b c.project.serviceName slots (.seq []))
          ["get", "put"] =
      some (slots.map Crate.ServiceBuilder.noteLine) ∧
    slots.map (fun s => toString s.operation.id) = ["ex#Get", "ex#Put"] ∧
    Server.ServiceBuilder.run { name := "All" } Server.getterCalls = .ok builder ∧
    builder.build .restJson1 = .error missing ∧
    missing.operations = ["ex#Get", "ex#Put"] ∧
    ShapeId.bytes "ex#Put" < ShapeId.bytes "ex.a#Get" := by
  obtain ⟨c, files, operations, hmodel, hgenerate, hserver, hoperations, hids⟩ :=
    Command.Input.exists_generate_of_getPut
  obtain ⟨d, b, slots, -, hb, hfiles, hslots, -, -, -, -, hempty⟩ :=
    missing_operations_in_id_order.2 _ _ c files hmodel hgenerate hserver
  obtain ⟨hproject, -⟩ := Blueprint.of_ofCompilation hb
  have hsame := Blueprint.operations_of_slots hslots
  rw [hproject] at hsame
  rw [Except.ok.inj (hoperations.symm.trans hsame), List.map_map] at hids
  have hid : ∀ s ∈ slots, s.operation.id = ⟨"ex", "Get", none⟩ ∨
      s.operation.id = ⟨"ex", "Put", none⟩ := by
    intro s hs
    have hmem : s.operation.id ∈ slots.map ((·.id) ∘ (·.operation)) := List.mem_map_of_mem hs
    simpa [hids] using hmem
  have hparsed : ∀ s ∈ slots, s.operation.id.IsParsed := by
    intro s hs
    rcases hid s hs with hid | hid
    · exact ⟨"ex#Get", hid ▸ rfl⟩
    · exact ⟨"ex#Put", hid ▸ rfl⟩
  have hfield : ∀ s ∈ slots, s.field ∈ ["get", "put"] := by
    intro s hs
    rw [((Blueprint.named_of_slots hslots).1 s hs).1]
    rcases hid s hs with hid | hid <;> rw [hid] <;> decide
  have htexts : slots.map (fun s => toString s.operation.id) = ["ex#Get", "ex#Put"] := by
    have hmap := congrArg (List.map toString) hids
    rw [List.map_map] at hmap
    exact hmap.trans (by decide)
  have hall : slots.filter (·.field ∈ ["get", "put"]) = slots :=
    List.filter_eq_self.2 fun s hs => decide_eq_true (hfield s hs)
  obtain ⟨hnotes, hmissing⟩ := hempty ["get", "put"]
  have hsome : slots ≠ [] := by
    rintro rfl
    contradiction
  rw [hall] at hnotes hmissing
  rw [if_neg hsome] at hnotes
  obtain ⟨builder, hrun⟩ :
      ∃ builder, Server.ServiceBuilder.run { name := "All" } Server.getterCalls = .ok builder :=
    exists_eq_ok_of_isSome (by cbv)
  have hrecords := (Server.ServiceBuilder.Records.start "All").run hrun
  have hdeclared :
      (builder.slots.map (·.operation)).Perm (slots.map fun s => toString s.operation.id) := by
    rw [htexts, hrecords.operations]
    exact .swap _ _ _
  have hunset : ∀ operation, builder.isSet operation = false := by
    obtain rfl := Except.ok.inj hrun
    simp [Server.ServiceBuilder.isSet]
  have hbuild : builder.build .restJson1 = .error builder.missing := by
    obtain rfl := Except.ok.inj hrun
    rfl
  refine ⟨c, files, b, slots, builder, _, hgenerate, hfiles, hslots, hnotes, htexts, hrun,
    hbuild, ?_, ?_⟩
  · rw [← htexts]
    exact hmissing hparsed _ _ _ hrun hdeclared (fun s hs => iff_of_true (hfield s hs) (hunset _))
      _ _ hbuild
  · exact (missing_operations_in_id_order.1 ⟨"ex", "Put", none⟩ ⟨"ex.a",
      "Get", none⟩ ⟨"ex#Put", rfl⟩ ⟨"ex.a#Get", rfl⟩).1 (by decide)

end SdkForge
