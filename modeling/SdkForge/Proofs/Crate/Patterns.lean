import SdkForge.Proofs.Crate.BuilderNames

/-!
# Patterns that a server compiles

When a server is built it compiles the patterns of its types, by a function that only the types of
checked strings have.

* `ServiceBuilder.compiles_iff` says which statements the function that builds has for that.
* `Sound.compiles_iff` and `Sound.checks_iff` say, for the shapes of the closure, which patterns are
  compiled and which types have the function: it is missing for strings that are enums and have a
  pattern all the same.
* `compiled_patterns_defined_iff` says when a server compiles patterns only by functions that are
  there.
-/

namespace SdkForge

open Outcome

open PlainSymbols (typeName)

/-! ## Strings with patterns -/

namespace Shape

/-- A string that is an enum and has a pattern all the same. -/
def isEnumWithPattern (shape : Shape) : Bool :=
  shape.kind = .string && shape.traits.enumValues.isSome && shape.traits.pattern.isSome

/-- A string with a pattern that has a type of its own is a checked string or an enum. -/
lemma isChecked_and_of?_iff {shape : Shape} :
    (Crate.ServiceBuilder.isChecked shape = true ∧
      Crate.TypeModule.of? .server shape = some .model) ↔
      shape.isCheckedString .server = true ∨ shape.isEnumWithPattern = true := by
  obtain ⟨id, traits, body⟩ := shape
  cases body with
  | string =>
    simp only [Crate.ServiceBuilder.isChecked, Crate.TypeModule.of?, isCheckedString,
      isEnumWithPattern, kind]
    cases traits.enumValues <;> cases traits.pattern <;> simp
  | _ => simp [Crate.ServiceBuilder.isChecked, isCheckedString, isEnumWithPattern, kind]

end Shape

namespace Crate

/-! ## Statements that compile patterns -/

namespace ServiceBuilder

variable {b : Blueprint} {service type : String} {slots : List Slot}

/-- The statement that compiles the pattern of a type. -/
def compileCall (type : String) : String := s!"{type}::{CheckedString.compileName}();"

/-- The function compiles the pattern of a type. -/
def Compiles (f : Code.Function) (type : String) : Prop := Fragment.line (compileCall type) ∈ f.body

lemma compileCall_eq (type : String) : compileCall type = type ++ "::compile_regex();" := by
  show type ++ "::" ++ "compile_regex" ++ "();" = _
  rw [String.append_assoc, String.append_assoc]
  rfl

lemma compileCall_inj {other : String} : compileCall type = compileCall other ↔ type = other := by
  rw [compileCall_eq, compileCall_eq]
  exact String.append_left_inj _

/-- A text with another end than that of a call without arguments is no such statement. -/
lemma compileCall_ne {text : String} (last : List Char) (hlast : last <:+ text.toList)
    (hlength : last.length ≤ 3) (hother : ¬last <:+ "();".toList) : compileCall type ≠ text := by
  rintro rfl
  have hend : "();".toList <:+ (compileCall type).toList := by
    rw [compileCall, String.toList_append]
    exact List.suffix_append _ _
  exact hother (List.suffix_of_suffix_length_le hlast hend hlength)

/-- The function that builds compiles the patterns of the listed types. -/
theorem compiles_iff : Compiles (buildFunction b service slots (.seq [])) type ↔
    type ∈ checkedTypes b := by
  -- the other lines of the function are a declaration, the one that makes a router, and the result
  have hmissing : ∀ start : String,
      compileCall type ≠ start ++
        s!" missing = {b.server}::MissingOperationsError::new({Text.quote service});" := by
    intro start
    refine compileCall_ne "\");".toList
      ⟨(start ++ s!" missing = {b.server}::MissingOperationsError::new(" ++ "\"" ++
        String.ofList (service.toList.flatMap Text.quoteChar)).toList, ?_⟩ (by decide) (by decide)
    simp [Text.quote, ToString.toString]
  have hrouter : compileCall type ≠ "let router = routes" :=
    compileCall_ne ['s'] (by decide) (by decide) (by decide)
  have hresult : compileCall type ≠ s!"Ok({service} " ++ "\x7b router \x7d)" :=
    compileCall_ne [')'] ⟨(s!"Ok({service} " ++ "\x7b router \x7d").toList, by simp⟩ (by decide)
      (by decide)
  simp only [Compiles, buildFunction, routerOf, noteMissing, Fragment.braced, List.mem_append,
    List.mem_map, List.mem_cons, Fragment.line.injEq, reduceCtorEq, or_false, List.not_mem_nil,
    and_false, exists_false, hmissing, hrouter, hresult]
  constructor
  · rintro ⟨other, hmem, heq⟩
    exact compileCall_inj.1 heq ▸ hmem
  · exact fun hmem => ⟨type, hmem, rfl⟩

end ServiceBuilder

/-! ## Types with patterns -/

/-- How code spells a type for data. -/
def modelType (shape : Shape) : String := s!"{TypeModule.model.path}::{typeName shape}"

lemma modelType_inj {shape other : Shape} :
    modelType shape = modelType other ↔ typeName shape = typeName other :=
  String.append_right_inj _

/-- The crate has the type with the function that compiles its pattern. -/
def Blueprint.Checks (b : Blueprint) (type : String) : Prop :=
  ∃ m definitions c, b.definitions m = .ok definitions ∧ Definition.checkedString c ∈ definitions ∧
    type = s!"{m.path}::{c.name}"

/-- A string that has a type of its own has it in the module for data. -/
lemma eq_model_of_string {mode : Mode} {shape : Shape} {m : TypeModule}
    (hkind : shape.kind = .string) (hm : TypeModule.of? mode shape = some m) : m = .model := by
  obtain ⟨id, traits, body⟩ := shape
  cases body with
  | string =>
    simp only [TypeModule.of?, Option.ite_none_right_eq_some, Option.some.injEq] at hm
    exact hm.2.symm
  | _ => simp [Shape.kind] at hkind

/-- Only checked strings have such types. -/
lemma isCheckedString_of_ofShape {b : Blueprint} {shape : Shape} {symbol : Symbol}
    {c : CheckedString} {mode : Mode} {m : TypeModule} (hm : TypeModule.of? mode shape = some m)
    (h : Definition.ofShape b shape symbol = .ok (.checkedString c)) :
    shape.isCheckedString mode = true ∧ m = .model ∧ c.name = symbol.name := by
  obtain ⟨id, traits, body⟩ := shape
  cases body with
  | string =>
    cases henum : traits.enumValues with
    | some values =>
      simp only [Definition.ofShape, henum, pure_eq_ok] at h
      contradiction
    | none =>
      simp only [Definition.ofShape, henum, bind_eq_ok, pure_eq_ok,
        Definition.checkedString.injEq] at h
      obtain ⟨c', hc, rfl⟩ := h
      have hmodule : Shape.isCheckedString mode ⟨id, traits, .string⟩ = true ∧
          TypeModule.model = m := by
        simpa [TypeModule.of?, henum] using hm
      refine ⟨hmodule.1, hmodule.2.symm, ?_⟩
      unfold CheckedString.ofShape at hc
      split at hc
      · contradiction
      · split at hc
        · exact Except.ok.inj hc ▸ rfl
        · contradiction
  | record | union | operation =>
    simp only [Definition.ofShape, bind_eq_ok, pure_eq_ok, reduceCtorEq, and_false,
      exists_false] at h
  | _ => simp [TypeModule.of?] at hm

namespace Blueprint

/-- Files are made of the definitions of all modules. -/
lemma exists_definitions_of_files {b : Blueprint} {files : FileSet} (h : b.files = .ok files)
    (m : TypeModule) :
    ∃ definitions, b.definitions m = .ok definitions := by
  simp only [Blueprint.files, sources, bind_eq_ok] at h
  obtain ⟨_, ⟨_, _, types, htypes, _⟩, _⟩ := h
  have hmem : m ∈ TypeModule.all := by cases m <;> decide
  obtain ⟨_, _, hfile⟩ := exists_mem_of_mapM htypes hmem
  simp only [typeFile, bind_eq_ok] at hfile
  obtain ⟨_, ⟨definitions, hdefinitions, _⟩, _⟩ := hfile
  exact ⟨definitions, hdefinitions⟩

namespace Sound

variable {b : Blueprint} {c : Compilation} {service : Shape} {protocol : WireProtocol}
  {operations : List Shape} {type : String}

/-- The types whose patterns are compiled are those of strings that have a pattern and a type of
their own. -/
theorem mem_checkedTypes_iff (h : b.Sound c service protocol operations) :
    type ∈ ServiceBuilder.checkedTypes b ↔ ∃ shape ∈ c.project.closure,
    ServiceBuilder.isChecked shape = true ∧
      TypeModule.of? c.project.mode shape = some .model ∧ modelType shape = type := by
  simp only [ServiceBuilder.checkedTypes, OrderedMap.mem_keys_ofList, List.mem_map, List.mem_filter,
    List.mem_filterMap, h.project_eq]
  constructor
  · rintro ⟨_, ⟨symbol, ⟨⟨shape, ⟨hmem, hchecked⟩, hget⟩, hgenerated⟩, rfl⟩, rfl⟩
    obtain ⟨found, hfound, hid, hsymbol⟩ := h.resolved.get?_eq_some_iff.1 hget
    have hsame := h.resolved.model_get?_of_mem_closure hfound
    rw [hid] at hsame
    obtain rfl := Option.some.inj (hsame.symm.trans (h.resolved.model_get?_of_mem_closure hmem))
    obtain ⟨module, hmodule⟩ := Option.isSome_iff_exists.1 hgenerated
    have hkind : found.kind = .string := by simp_all [ServiceBuilder.isChecked]
    have hmember : found.isMember = false := by simp [Shape.isMember, hkind]
    rcases Project.of?_of_symbol_module hmember hsymbol hmodule with ⟨m, hm, _⟩ | ⟨hservice, _⟩
    · obtain rfl := eq_model_of_string hkind hm
      obtain ⟨derives, hown, _⟩ := Project.symbolOf_of_module hm
      obtain rfl := Except.ok.inj (hsymbol.symm.trans hown)
      exact ⟨found, hmem, hchecked, hm, rfl⟩
    · rw [hkind] at hservice
      contradiction
  · rintro ⟨shape, hmem, hchecked, hm, rfl⟩
    obtain ⟨derives, hsymbol, _⟩ := Project.symbolOf_of_module hm
    exact ⟨(modelType shape, ()),
      ⟨_, ⟨⟨shape, ⟨hmem, hchecked⟩, h.resolved.get?_of_mem_closure hmem hsymbol⟩, rfl⟩, rfl⟩, rfl⟩

/-- The types that have the function are those of the checked strings. -/
theorem checks_iff (h : b.Sound c service protocol operations) (hserver : c.project.mode = .server)
    {files : FileSet} (hfiles : b.files = .ok files) (type : String) :
    b.Checks type ↔ ∃ shape ∈ c.project.closure, shape.isCheckedString .server = true ∧
      modelType shape = type := by
  rw [← hserver]
  constructor
  · rintro ⟨m, definitions, checked, hdefinitions, hmem, rfl⟩
    obtain ⟨⟨shape, symbol⟩, hentry, hshape⟩ := exists_of_mem_mapM hdefinitions hmem
    obtain ⟨hclosure, hm, hsymbol⟩ := (h.resolved.mem_definedIn_iff h.project_eq rfl).1 hentry
    obtain ⟨hchecked, rfl, hname⟩ := isCheckedString_of_ofShape hm hshape
    obtain ⟨derives, hown, _⟩ := Project.symbolOf_of_module hm
    obtain rfl := Except.ok.inj (hsymbol.symm.trans hown)
    exact ⟨shape, hclosure, hchecked, by rw [hname]; rfl⟩
  · rintro ⟨shape, hmem, hchecked, rfl⟩
    obtain ⟨definitions, hdefinitions⟩ := exists_definitions_of_files hfiles .model
    have hm := Shape.of?_of_isCheckedString hchecked
    obtain ⟨derives, hsymbol, _⟩ := Project.symbolOf_of_module hm
    have hentry := (h.resolved.mem_definedIn_iff h.project_eq rfl).2 ⟨hmem, hm, hsymbol⟩
    obtain ⟨definition, hdefinition, hshape⟩ := exists_mem_of_mapM hdefinitions hentry
    obtain ⟨hbody, henum, _⟩ := Shape.of_isCheckedString hchecked
    have hstring := hshape
    simp only [Definition.ofShape, hbody, henum, bind_eq_ok, pure_eq_ok] at hstring
    obtain ⟨checked, _, rfl⟩ := hstring
    refine ⟨.model, definitions, checked, hdefinitions, hdefinition, ?_⟩
    rw [(isCheckedString_of_ofShape hm hshape).2.2]
    rfl

/-- The function that builds a server compiles the patterns of checked strings and of enums. -/
theorem compiles_iff (h : b.Sound c service protocol operations)
    (hserver : c.project.mode = .server) (name : String) (slots : List Slot) (type : String) :
    ServiceBuilder.Compiles (ServiceBuilder.buildFunction b name slots (.seq [])) type ↔
    ∃ shape ∈ c.project.closure,
      (shape.isCheckedString .server = true ∨ shape.isEnumWithPattern = true) ∧
      modelType shape = type := by
  rw [ServiceBuilder.compiles_iff, h.mem_checkedTypes_iff, hserver]
  simp only [← Shape.isChecked_and_of?_iff, and_assoc]

end Sound

end Blueprint

end Crate

open Crate (Blueprint)

/-- The function that builds a generated server compiles the patterns of all types that have a
function for it. It compiles no other pattern exactly if every string that is an enum and has a
pattern shares its type with a checked string: the type of an enum has no such function. -/
theorem compiled_patterns_defined_iff {i : Command.Input} {denyWarnings : Bool} {c : Compilation}
    {files : FileSet} (hmodel : i.model.IsBuilt)
    (hgenerate : i.generate denyWarnings = .ok (c, files)) (hserver : c.project.mode = .server) :
    ∃ d b slots, i.compile denyWarnings = .ok (d, c) ∧ Blueprint.ofCompilation d c = .ok b ∧
      b.files = .ok files ∧
      b.slots = .ok slots ∧
      (∃ block : Code.Implementation, block.items = [] ∧
        Crate.ServiceBuilder.implementation b c.project.serviceName slots = .ok
          ((Crate.ServiceBuilder.functions b c.project.serviceName slots (.seq [])).foldl
            Code.Implementation.method block).fragment) ∧
      (∀ type, b.Checks type →
        Crate.ServiceBuilder.Compiles (Crate.ServiceBuilder.buildFunction b c.project.serviceName
          slots (.seq [])) type) ∧
      ((∀ type,
        Crate.ServiceBuilder.Compiles (Crate.ServiceBuilder.buildFunction b c.project.serviceName
          slots (.seq [])) type ↔
          b.Checks type) ↔
        ∀ shape ∈ c.project.closure, shape.isEnumWithPattern = true →
          ∃ other ∈ c.project.closure, other.isCheckedString .server = true ∧
            typeName other = typeName shape) := by
  obtain ⟨d, b, slots, hrun, hb, hfiles, hslots, _, hsections, _⟩ :=
    Command.Input.exists_slots_of_generate hmodel hgenerate hserver
  obtain ⟨b', service, protocol, operations, hb', h⟩ := Blueprint.exists_sound hmodel hrun
  obtain rfl := Except.ok.inj (hb'.symm.trans hb)
  have hcompiles := h.compiles_iff hserver c.project.serviceName slots
  have hchecks := h.checks_iff hserver hfiles
  refine ⟨d, b', slots, hrun, hb, hfiles, hslots, Crate.ServiceBuilder.implementation_eq hsections,
    fun type htype => ?_, ?_⟩
  · obtain ⟨shape, hmem, hchecked, rfl⟩ := (hchecks type).1 htype
    exact (hcompiles _).2 ⟨shape, hmem, .inl hchecked, rfl⟩
  · constructor
    · -- the pattern of an enum is compiled, so a checked string has its type
      intro hsame shape hmem henum
      have hcalled := (hcompiles _).2 ⟨shape, hmem, .inr henum, rfl⟩
      obtain ⟨other, hother, hchecked, htype⟩ := (hchecks _).1 ((hsame _).1 hcalled)
      exact ⟨other, hother, hchecked, Crate.modelType_inj.1 htype⟩
    · intro hshared type
      rw [hcompiles, hchecks]
      constructor
      · rintro ⟨shape, hmem, hchecked | henum, rfl⟩
        · exact ⟨shape, hmem, hchecked, rfl⟩
        · obtain ⟨other, hother, hchecked, hname⟩ := hshared shape hmem henum
          exact ⟨other, hother, hchecked, Crate.modelType_inj.2 hname⟩
      · rintro ⟨shape, hmem, hchecked, rfl⟩
        exact ⟨shape, hmem, .inl hchecked, rfl⟩

namespace Command.Input

/-- A service with one operation, which takes a code, a string with the traits. -/
def coded (traits : Traits) : List Shape :=
  { id := smallService, traits := ({} : Traits).insert (.protocol .restJson1),
    body := .service "1" [smallOperation] } ::
  { id := smallOperation, traits := ({} : Traits).insert (.http { method := "POST", uri := "/" }),
    body := .operation (some smallRecord) none [] } ::
  (record smallRecord [("code", ⟨"ex", "Code", none⟩)] ++ [⟨⟨"ex", "Code", none⟩, traits, .string⟩])

/-- The pattern of a code. -/
def spelled : Traits := ({} : Traits).insert (.pattern "^[a-z]+$")

/-- The pattern of a code, and the only code that there is. -/
def spelledAndListed : Traits := spelled.insert (.enum [{ value := "a", name := none }])

end Command.Input

open Command.Input (small coded spelled spelledAndListed)

/-- The server that takes a code with a pattern compiles the patterns of the types that have the
function. -/
theorem compiled_patterns_defined_of_spelled :
    ∃ c files b slots, (small (coded spelled)).generate false = .ok (c, files) ∧
    b.files = .ok files ∧ b.Checks "crate::model::Code" ∧ ∀ type,
      Crate.ServiceBuilder.Compiles (Crate.ServiceBuilder.buildFunction b c.project.serviceName
        slots (.seq [])) type ↔
        b.Checks type := by
  have hfacts :
      ((Command.Input.finished? (coded spelled)).any fun c => Command.Input.IsServable c &&
        c.project.closure.all (!·.isEnumWithPattern) && c.project.closure.any fun shape =>
          shape.isCheckedString .server && typeName shape == "Code") = true := by
    decide +kernel
  obtain ⟨c, hc, hfacts⟩ := (Option.any_eq_true _ _).1 hfacts
  simp only [Bool.and_eq_true, List.all_eq_true, List.any_eq_true,
    Bool.not_eq_true', beq_iff_eq] at hfacts
  obtain ⟨⟨hservable, hplain⟩, shape, hmem, hchecked, hname⟩ := hfacts
  obtain ⟨files, hmodel, hgenerate, hserver⟩ :=
    Command.Input.exists_generate_of_isServable hc hservable
  obtain ⟨d, b, slots, hrun, hb, hfiles, _, _, _, hiff⟩ :=
    compiled_patterns_defined_iff hmodel hgenerate hserver
  have hsame := hiff.2 fun other hother henum => by simp [hplain other hother] at henum
  obtain ⟨b', service, protocol, operations, hb', h⟩ := Blueprint.exists_sound hmodel hrun
  obtain rfl := Except.ok.inj (hb'.symm.trans hb)
  refine ⟨c, files, b', slots, hgenerate, hfiles, ?_, hsame⟩
  exact (h.checks_iff hserver hfiles _).2 ⟨shape, hmem, hchecked, by
    rw [Crate.modelType, hname]; rfl⟩

/-- The server that takes a code of a list, which has a pattern all the same, compiles a pattern by
a function that is missing. -/
theorem not_compiled_pattern_defined_of_spelledAndListed : ∃ c files d b slots,
    (small (coded spelledAndListed)).model.IsBuilt ∧
    (small (coded spelledAndListed)).generate false = .ok (c, files) ∧ c.project.mode = .server ∧
    Blueprint.ofCompilation d c = .ok b ∧ b.files = .ok files ∧ b.slots = .ok slots ∧
    Crate.ServiceBuilder.Compiles (Crate.ServiceBuilder.buildFunction b c.project.serviceName
      slots (.seq [])) "crate::model::Code" ∧
    ¬b.Checks "crate::model::Code" := by
  have hfacts :
      ((Command.Input.finished? (coded spelledAndListed)).any fun c => Command.Input.IsServable c &&
        c.project.closure.all (!·.isCheckedString .server) && c.project.closure.any fun shape =>
          shape.isEnumWithPattern && typeName shape == "Code") = true := by
    decide +kernel
  obtain ⟨c, hc, hfacts⟩ := (Option.any_eq_true _ _).1 hfacts
  simp only [Bool.and_eq_true, List.all_eq_true, List.any_eq_true,
    Bool.not_eq_true', beq_iff_eq] at hfacts
  obtain ⟨⟨hservable, hunchecked⟩, shape, hmem, henum, hname⟩ := hfacts
  obtain ⟨files, hmodel, hgenerate, hserver⟩ :=
    Command.Input.exists_generate_of_isServable hc hservable
  obtain ⟨d, b, slots, hrun, hb, hfiles, hslots, _⟩ :=
    Command.Input.exists_slots_of_generate hmodel hgenerate hserver
  obtain ⟨b', service, protocol, operations, hb', h⟩ := Blueprint.exists_sound hmodel hrun
  obtain rfl := Except.ok.inj (hb'.symm.trans hb)
  refine ⟨c, files, d, b', slots, hmodel, hgenerate, hserver, hb, hfiles, hslots, ?_,
    fun hchecks => ?_⟩
  · exact (h.compiles_iff hserver _ slots _).2 ⟨shape, hmem, .inr henum, by
      rw [Crate.modelType, hname]; rfl⟩
  · obtain ⟨other, hother, hchecked, _⟩ := (h.checks_iff hserver hfiles _).1 hchecks
    rw [hunchecked other hother] at hchecked
    exact Bool.false_ne_true hchecked

end SdkForge
