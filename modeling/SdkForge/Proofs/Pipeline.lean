import SdkForge.Command.Run
import SdkForge.Proofs.Decorator
import SdkForge.Proofs.Symbol.Chain
import SdkForge.Proofs.Symbol.Table

/-!
# What a finished run has

A run that is finished went through all its phases, one after the other, and plugins that only
observe did not change it.

* `Pipeline.schedule` lists the calls of a run in their order, and `trace_eq_perform` says that a
  run makes these.
* `Plugin.Observes` says that a plugin changes nothing, and `run_eq_ok` that only phases matter
  then.
* `phases_of_compile` takes a finished run of the command apart. `addsNoOperation_of_compile` says
  that its operations come from the model that was given, and `lints_of_compile` that the lints
  found no error in it.
* `Resolved` is what the rest of the theory uses of a finished run, and `resolved_of_compile` says
  that every finished run of the command has it.
-/

namespace SdkForge

open Outcome

/-! ## Schedules -/

lemma Trace.andThen_eq_ok {made : Trace} {next : Compilation → Trace} {c : Compilation} :
    (made.andThen next).2 = .ok c ↔ ∃ between, made.2 = .ok between ∧ (next between).2 = .ok c := by
  obtain ⟨calls, result⟩ := made
  cases result <;> simp [andThen]

namespace Pipeline

/-- The calls for a phase: what each plugin does before it, the phase, and what each plugin does
after it. -/
def callsFor (plugins : List Plugin) (phase : Phase) : List (Call × Action) :=
  plugins.map (fun plugin => (.before plugin.name phase.name, plugin.before phase.name)) ++
    (.body phase.name, phase.body) ::
    plugins.map fun plugin => (.after plugin.name phase.name, plugin.after phase.name)

/-- All calls of a run, phase by phase. -/
def schedule (p : Pipeline) : List (Call × Action) := p.phases.flatMap (callsFor p.plugins)

variable {plugins : List Plugin}

/-- Calls go on where those before them end. -/
lemma perform_append (c : Compilation) (first second : List (Call × Action)) :
    perform c (first ++ second) = (perform c first).andThen fun c => perform c second := by
  induction first generalizing c with
  | nil => rfl
  | cons call rest ih =>
    obtain ⟨who, action⟩ := call
    rw [List.cons_append, perform, perform]
    cases action c with
    | mk next failed =>
      cases failed with
      | some fault => rfl
      | none =>
        dsimp only
        rw [ih]
        cases perform next rest with
        | mk made result => cases result <;> rfl

lemma runPhase_eq_perform (phase : Phase) (c : Compilation) :
    runPhase plugins phase c = perform c (callsFor plugins phase) := by
  unfold callsFor
  rw [perform_append]
  simp only [← List.singleton_append (l := plugins.map _), perform_append]
  rfl

lemma runPhases_eq_perform (phases : List Phase) (c : Compilation) :
    runPhases plugins c phases = perform c (phases.flatMap (callsFor plugins)) := by
  induction phases generalizing c with
  | nil => rfl
  | cons phase rest ih =>
    rw [runPhases, List.flatMap_cons, perform_append, runPhase_eq_perform]
    simp only [ih]

/-- A run makes the calls of its schedule. -/
theorem trace_eq_perform (p : Pipeline) (project : Project) :
    p.trace project = perform { project } p.schedule :=
  runPhases_eq_perform p.phases _

end Pipeline

/-! ## Calls -/

/-- The plugin looks at a run and may fail it, but does not change it. -/
def Plugin.Observes (plugin : Plugin) : Prop :=
  ∀ phase c, (plugin.before phase c).1 = c ∧ (plugin.after phase c).1 = c

lemma Plugin.observes_denyWarnings : denyWarnings.Observes := fun _ _ => ⟨rfl, rfl⟩

namespace Pipeline

variable {c c' : Compilation} {calls : List (Call × Action)}

/-- A run goes on only after a call that did not fail. -/
lemma perform_cons_eq_ok {call : Call × Action} :
    (perform c (call :: calls)).2 = .ok c' ↔ ∃ next, call.2 c = (next, none) ∧
      (perform next calls).2 = .ok c' := by
  obtain ⟨who, action⟩ := call
  rw [perform]
  cases haction : action c with
  | mk next failed => cases failed <;> simp [haction]

lemma perform_append_eq_ok {more : List (Call × Action)} :
    (perform c (calls ++ more)).2 = .ok c' ↔
      ∃ next, (perform c calls).2 = .ok next ∧ (perform next more).2 = .ok c' := by
  rw [perform_append, Trace.andThen_eq_ok]

/-- Calls that change nothing leave the run as it was. -/
lemma eq_of_perform_eq_ok (hkeep : ∀ call ∈ calls, ∀ c, (call.2 c).1 = c)
    (h : (perform c calls).2 = .ok c') : c' = c := by
  induction calls generalizing c with
  | nil => exact (Except.ok.inj h).symm
  | cons call rest ih =>
    obtain ⟨next, hcall, hrest⟩ := perform_cons_eq_ok.1 h
    have hnext : next = c := by
      rw [← hkeep call List.mem_cons_self c, hcall]
    rw [ih (fun call hmem => hkeep call (List.mem_cons_of_mem _ hmem)) hrest, hnext]

/-- The calls for a phase do what the phase does, if the plugins only observe. -/
lemma perform_callsFor_eq_ok {plugins : List Plugin} {phase : Phase}
    (hobserve : ∀ plugin ∈ plugins, plugin.Observes)
    (h : (perform c (callsFor plugins phase)).2 = .ok c') : phase.body c = (c', none) := by
  unfold callsFor at h
  obtain ⟨before, hbefore, h⟩ := perform_append_eq_ok.1 h
  obtain ⟨after, hbody, hafter⟩ := perform_cons_eq_ok.1 h
  -- the calls around the body leave the run as it is
  have hold : before = c := by
    refine eq_of_perform_eq_ok (fun call hmem c => ?_) hbefore
    obtain ⟨plugin, hplugin, rfl⟩ := List.mem_map.1 hmem
    exact (hobserve plugin hplugin phase.name c).1
  have hnew : c' = after := by
    refine eq_of_perform_eq_ok (fun call hmem c => ?_) hafter
    obtain ⟨plugin, hplugin, rfl⟩ := List.mem_map.1 hmem
    exact (hobserve plugin hplugin phase.name c).2
  rw [hnew, ← hold]
  exact hbody

end Pipeline

/-! ## Phases -/

namespace Phase

variable {d : DecoratorSet} {enabled : Option (List String)} {p : Project} {model : Model}
  {c c' : Compilation}

lemma of_ofExcept {f : Compilation → Except Fault Compilation}
    (h : Action.ofExcept f c = (c', none)) : f c = .ok c' := by
  unfold Action.ofExcept at h
  split at h
  · next found hfound => rw [hfound, (Prod.mk.inj h).1]
  · simp at h

/-- The first phase puts the transformed model in. -/
lemma transform_eq_ok (h : (transform d).body c = (c', none)) :
    ∃ model, transformModel d c.project = .ok model ∧ c' = { c with project.model := model } := by
  simp only [transform] at h
  have hbody := of_ofExcept h
  simp only [bind_eq_ok, pure_eq_ok] at hbody
  obtain ⟨model, hmodel, rfl⟩ := hbody
  exact ⟨model, hmodel, rfl⟩

/-- Transforming leaves a model well formed, and it has the service. -/
lemma wellFormed_of_transformModel (hselect : DecoratorSet.select enabled = .ok d)
    (hmodel : p.model.WellFormed) (h : transformModel d p = .ok model) :
    model.WellFormed ∧ ∃ s, model.expectKind p.service .service = .ok s := by
  simp only [transformModel, bind_eq_ok, pure_eq_ok, Fault.ofModel_eq_ok] at h
  obtain ⟨adapted, hadapted, normal, hnormal, s, hs, rfl⟩ := h
  exact ⟨(hmodel.transform hselect hadapted).normalize hnormal, s, hs⟩

/-- Transforming adds no operation to a model. -/
lemma addsNoOperation_of_transformModel (hselect : DecoratorSet.select enabled = .ok d)
    (hmodel : p.model.IsBuilt) (h : transformModel d p = .ok model) :
    p.model.AddsNoOperation model := by
  simp only [transformModel, bind_eq_ok, pure_eq_ok, Fault.ofModel_eq_ok] at h
  obtain ⟨adapted, hadapted, normal, hnormal, _, _, rfl⟩ := h
  have hnormalized : adapted.AddsNoOperation normal :=
    Model.addsNoOperation_of_normalize (hmodel.wellFormed.transform hselect hadapted)
      (Model.HasPrelude.transform hselect hmodel.hasPrelude hadapted) hnormal
  exact (Model.addsNoOperation_of_transform hselect hmodel.wellFormed hadapted).trans hnormalized

lemma project_of_validate {lints : List Lint} (h : (validate lints).body c = (c', none)) :
    c'.project = c.project := by
  rw [← (Prod.mk.inj h).1]
  rfl

/-- The lints let a run pass exactly if no error is told. -/
lemma validate_eq_none_iff (lints : List Lint) :
    ((validate lints).body c).2 = none ↔ ((validate lints).body c).1.errors = [] := by
  have hfailed : ((validate lints).body c).2 = if ((validate lints).body c).1.errors.isEmpty then
      none else
      some (.invalidModel ((validate lints).body c).1.errors.length) := rfl
  rw [hfailed, ite_eq_left_iff, ← List.isEmpty_iff]
  simp

/-- Remembering symbols does not change them. -/
lemma symbol_stage (inner : SymbolProvider) (shape : Shape) :
    (Memo.stage inner).symbol shape = inner.symbol shape := rfl

/-- Resolving keeps the project, and finds the table of the symbols that all stages give. -/
lemma resolve_eq_ok (hselect : DecoratorSet.select enabled = .ok d)
    (h : (resolve d).body c = (c', none)) :
    c'.project = c.project ∧ ∃ t, c'.symbols = some t ∧
      SymbolTable.resolve c.project.symbolOf c.project.model c.project.service = .ok t := by
  simp only [resolve] at h
  have hbody := of_ofExcept h
  simp only [bind_eq_ok, pure_eq_ok, DecoratorSet.symbols_of_select hselect] at hbody
  obtain ⟨t, ht, rfl⟩ := hbody
  refine ⟨rfl, t, rfl, ?_⟩
  rwa [show ((symbolChain c.project).wrap Memo.stage).provider.symbol = c.project.symbolOf from
    funext fun shape => symbol_stage _ shape] at ht

end Phase

/-- A usual run is finished only if all three phases are. -/
theorem Pipeline.run_eq_ok {d : DecoratorSet} {plugins : List Plugin} {project : Project}
    {c : Compilation} (hobserve : ∀ plugin ∈ plugins, plugin.Observes)
    (h : run { standard d with plugins } project = .ok c) :
    ∃ model checked, Phase.transformModel d project = .ok model ∧
      (Phase.validate Lint.all).body { project := { project with model } } = (checked, none) ∧
      (Phase.resolve d).body checked = (c, none) := by
  have hcalls : (perform { project } (callsFor plugins (.transform d) ++
      (callsFor plugins (.validate Lint.all) ++ (callsFor plugins (.resolve d) ++ [])))).2 =
        .ok c := by
    rwa [run, trace_eq_perform] at h
  obtain ⟨first, hfirst, hlater⟩ := perform_append_eq_ok.1 hcalls
  obtain ⟨checked, hchecked, hlast⟩ := perform_append_eq_ok.1 hlater
  rw [List.append_nil] at hlast
  obtain ⟨model, hmodel, rfl⟩ := Phase.transform_eq_ok (perform_callsFor_eq_ok hobserve hfirst)
  exact ⟨model, checked, hmodel, perform_callsFor_eq_ok hobserve hchecked,
    perform_callsFor_eq_ok hobserve hlast⟩

/-- Without plugins, a usual run is finished exactly if its phases are, one after the other. -/
theorem Pipeline.run_standard_eq_ok_iff {d : DecoratorSet} {project : Project} {c : Compilation} :
    (standard d).run project = .ok c ↔ ∃ adapted checked, (Phase.transform d).body { project } =
      (adapted, none) ∧
      (Phase.validate Lint.all).body adapted = (checked, none) ∧
      (Phase.resolve d).body checked = (c, none) := by
  have hcalls : (standard d).schedule = [(.body (Phase.transform d).name, (Phase.transform d).body),
      (.body (Phase.validate Lint.all).name, (Phase.validate Lint.all).body),
      (.body (Phase.resolve d).name, (Phase.resolve d).body)] := rfl
  have hdone : ∀ last, (perform last []).2 = .ok c ↔ last = c := fun last => by simp [perform]
  rw [run, trace_eq_perform, hcalls]
  simp only [perform_cons_eq_ok, hdone, exists_eq_right]
  constructor
  · rintro ⟨adapted, hadapted, checked, hchecked, hresolved⟩
    exact ⟨adapted, checked, hadapted, hchecked, hresolved⟩
  · rintro ⟨adapted, checked, hadapted, hchecked, hresolved⟩
    exact ⟨adapted, hadapted, checked, hchecked, hresolved⟩

/-! ## Finished runs -/

/-- What a finished run has: a model that is well formed, and the symbols of the closure of its
service. -/
structure Resolved (c : Compilation) (t : SymbolTable) : Prop where
  model : c.project.model.WellFormed
  symbols : c.symbols = some t
  table : SymbolTable.resolve c.project.symbolOf c.project.model c.project.service = .ok t

/-- The table of a finished run has the symbols of the closure. -/
lemma Resolved.tracks {c : Compilation} {t : SymbolTable} (h : Resolved c t) :
    t.Tracks c.project.symbolOf (c.project.model.walk c.project.service) :=
  SymbolTable.tracks_of_resolve h.model h.table

/-- A finished run of the command went through all phases, and only the first changed the
project. -/
lemma phases_of_compile {i : Command.Input} {denyWarnings : Bool} {d : DecoratorSet}
    {c : Compilation} (h : i.compile denyWarnings = .ok (d, c)) :
    DecoratorSet.select i.manifest.decorators = .ok d ∧
      ∃ model checked, Phase.transformModel d i.project = .ok model ∧
        (Phase.validate Lint.all).body { project := { i.project with model } } = (checked, none) ∧
        (Phase.resolve d).body checked = (c, none) ∧ c.project = { i.project with model } := by
  simp only [Command.Input.compile, bind_eq_ok, pure_eq_ok, Prod.mk.injEq] at h
  obtain ⟨d', hselect, c', hrun, rfl, rfl⟩ := h
  have hobserve : ∀ plugin ∈ if denyWarnings then [Plugin.denyWarnings] else [],
      plugin.Observes := by
    intro plugin hmem
    split at hmem
    · exact List.mem_singleton.1 hmem ▸ Plugin.observes_denyWarnings
    · contradiction
  obtain ⟨model, checked, htransform, hvalidate, hresolve⟩ := Pipeline.run_eq_ok hobserve hrun
  exact ⟨hselect, model, checked, htransform, hvalidate, hresolve,
    (Phase.resolve_eq_ok hselect hresolve).1.trans (Phase.project_of_validate hvalidate)⟩

/-- Every finished run of the command has its symbols, and keeps to the manifest. -/
theorem resolved_of_compile {i : Command.Input} {denyWarnings : Bool} {d : DecoratorSet}
    {c : Compilation} (hmodel : i.model.IsBuilt) (h : i.compile denyWarnings = .ok (d, c)) :
    c.project.codegen = i.manifest.codegen ∧ c.project.runtime = i.manifest.runtime ∧
    ∃ t, Resolved c t := by
  obtain ⟨hselect, model, checked, htransform, hvalidate, hresolve, hproject⟩ := phases_of_compile h
  obtain ⟨hkept, t, hsymbols, ht⟩ := Phase.resolve_eq_ok hselect hresolve
  rw [← hkept] at ht
  have hformed : c.project.model.WellFormed := by
    rw [hproject]
    exact (Phase.wellFormed_of_transformModel hselect hmodel.wellFormed htransform).1
  rw [hproject]
  exact ⟨rfl, rfl, t, hformed, hsymbols, ht⟩

/-- The operations of a finished run are operations of the model that the command was given. -/
theorem addsNoOperation_of_compile {i : Command.Input} {denyWarnings : Bool} {d : DecoratorSet}
    {c : Compilation} (hmodel : i.model.IsBuilt) (h : i.compile denyWarnings = .ok (d, c)) :
    i.model.AddsNoOperation c.project.model := by
  obtain ⟨hselect, model, _, htransform, _, _, hproject⟩ := phases_of_compile h
  rw [hproject]
  exact Phase.addsNoOperation_of_transformModel hselect hmodel htransform

/-- The lints find no error in the project of a finished run. -/
theorem lints_of_compile {i : Command.Input} {denyWarnings : Bool} {d : DecoratorSet}
    {c : Compilation} (h : i.compile denyWarnings = .ok (d, c)) :
    ∀ lint ∈ Lint.all, ∀ found ∈ lint.check c.project, found.isError = false := by
  obtain ⟨_, model, checked, _, hvalidate, _, hproject⟩ := phases_of_compile h
  have herrors : checked.errors = [] := by
    have hnone :=
      (Phase.validate_eq_none_iff (c := { project := { i.project with model } }) Lint.all).1
        (by rw [hvalidate])
    rwa [hvalidate] at hnone
  have htold : checked.diagnostics = Lint.all.flatMap fun lint => lint.check c.project := by
    rw [hproject, ← (Prod.mk.inj hvalidate).1]
    rfl
  intro lint hlint found hfound
  rw [Compilation.errors, htold] at herrors
  simpa using List.filter_eq_nil_iff.1 herrors found (List.mem_flatMap.2 ⟨lint, hlint, hfound⟩)

/-- What a finished run has for an id: the shape, and its symbol. -/
def Compilation.found? (c : Compilation) (id : ShapeId) : Option (Shape × Symbol) :=
  (c.project.model.get? id).bind fun shape => (c.symbols.bind (·.get? id)).map (shape, ·)

lemma Resolved.of_found? {c : Compilation} {t : SymbolTable} (h : Resolved c t) {id : ShapeId}
    {shape : Shape} {symbol : Symbol} (hfound : c.found? id = some (shape, symbol)) :
    c.project.model.get? id = some shape ∧ t.get? id = some symbol := by
  simp only [Compilation.found?, h.symbols, Option.bind_some, Option.bind_eq_some_iff,
    Option.map_eq_some_iff, Prod.mk.injEq] at hfound
  obtain ⟨_, hshape, _, hsymbol, rfl, rfl⟩ := hfound
  exact ⟨hshape, hsymbol⟩

/-! ## Small inputs -/

namespace Command.Input

/-- The service of small inputs, its operation, and the structure that the operation takes. -/
def smallService : ShapeId := ⟨"ex", "Svc", none⟩
def smallOperation : ShapeId := ⟨"ex", "Op", none⟩
def smallRecord : ShapeId := ⟨"ex", "In", none⟩

/-- A structure with the members, each by its name and what it holds. -/
def record (id : ShapeId) (members : List (String × ShapeId)) : List Shape :=
  { id, body := .record (members.map fun (name, _) => id.withMember name) } ::
    members.map fun (name, target) => .ofMember (id.withMember name) target

/-- A service with one operation, which takes a structure with the members, and other shapes. -/
def service (members : List (String × ShapeId)) (others : List Shape) : List Shape :=
  { id := smallService
    traits := ({} : Traits).insert (.protocol .restJson1)
    body := .service "1" [smallOperation] } ::
  { id := smallOperation, body := .operation (some smallRecord) none [] } ::
    (record smallRecord members ++ others)

/-- A service without operations. -/
def idleService : List Shape :=
  [{ id := smallService, traits := ({} : Traits).insert (.protocol .restJson1),
     body := .service "1" [] }]

/-- A service whose operations have the names, each bound by a path of its own. -/
def getters (names : List String) : List Shape :=
  { id := smallService, traits := ({} : Traits).insert (.protocol .restJson1),
    body := .service "1" (names.map fun name => ⟨"ex", name, none⟩) } ::
  names.map fun name =>
    { id := ⟨"ex", name, none⟩,
      traits := ({} : Traits).insert (.http { method := "GET", uri := "/" ++ name }),
      body := .operation none none [] }

/-- The input for a server of a service. -/
def small (shapes : List Shape) : Input where
  manifest := { codegen := { service := smallService, model := "model.json", moduleName := "sdk" } }
  model := (Model.Draft.ofList shapes).build.toOption.getD {}

/-- The run for a server with all decorators, if there is a model and the run is finished. -/
def finished? (shapes : List Shape) : Option Compilation :=
  (Model.Draft.ofList shapes).build.toOption.bind fun _ =>
    ((pipeline ⟨Decorator.builtin⟩ false).run (small shapes).project).toOption

lemma isBuilt_small {shapes : List Shape}
    (h : (Model.Draft.ofList shapes).build.toOption.isSome = true) :
    (small shapes).model.IsBuilt := by
  dsimp only [small]
  exact Model.isBuilt_of_isSome h

lemma model_project (i : Input) : i.project.model = i.model := rfl

lemma compile_eq_ok {i : Input} {denyWarnings : Bool} {d : DecoratorSet} {c : Compilation}
    (hselect : i.decorators = .ok d) (hrun : (pipeline d denyWarnings).run i.project = .ok c) :
    i.compile denyWarnings = .ok (d, c) := by
  unfold compile
  rw [hselect]
  exact bind_eq_ok.2 ⟨d, rfl, bind_eq_ok.2 ⟨c, hrun, rfl⟩⟩

lemma of_finished? {shapes : List Shape} {c : Compilation} (h : finished? shapes = some c) :
    (small shapes).model.IsBuilt ∧ (small shapes).compile false = .ok (⟨Decorator.builtin⟩, c) := by
  obtain ⟨model, hbuild, hrun⟩ := Option.bind_eq_some_iff.1 h
  refine ⟨isBuilt_small (by simp [hbuild]), ?_⟩
  exact compile_eq_ok DecoratorSet.select_none (toOption_eq_some.1 hrun)

end Command.Input

end SdkForge
