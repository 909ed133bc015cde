import SdkForge.Proofs.Crate.Definitions

/-!
# Names of types within a module

No module may define two types of one name. The table of symbols looks for shapes whose types would
clash, but it passes over strings that have a type only because a server checks their pattern.

* `Clash` says that two shapes of the closure would define one type.
* `Resolved.nodup_names_iff` says that the names in a module differ unless a checked string clashes
  with something.
* `exists_collision_of_clash` says that the table finds every other clash.
-/

namespace SdkForge

open Crate (TypeModule Blueprint)
open PlainSymbols (typeName)

/-! ## Clashes -/

/-- Two shapes of the closure would define one type in a module. -/
structure Project.Clash (p : Project) (m : TypeModule) (a b : Shape) : Prop where
  left_mem : a ∈ p.closure
  right_mem : b ∈ p.closure
  ne : a.id ≠ b.id
  left_module : TypeModule.of? p.mode a = some m
  right_module : TypeModule.of? p.mode b = some m
  name_eq : typeName a = typeName b

lemma Project.Clash.symm {p : Project} {m : TypeModule} {a b : Shape} (h : p.Clash m a b) :
    p.Clash m b a :=
  ⟨h.right_mem, h.left_mem, h.ne.symm, h.right_module, h.left_module, h.name_eq.symm⟩

/-- The table looks at every shape that a module defines a type for, other than checked strings. -/
lemma definesType_of_module {mode : Mode} {m : TypeModule} {shape : Shape}
    (hm : TypeModule.of? mode shape = some m) (hchecked : shape.isCheckedString mode = false) :
    SymbolTable.definesType shape = true := by
  obtain ⟨id, traits, body⟩ := shape
  cases body <;> simp_all [TypeModule.of?, SymbolTable.definesType]

lemma defines_of_module {p : Project} {m : TypeModule} {shape : Shape}
    (hm : TypeModule.of? p.mode shape = some m) (hchecked : shape.isCheckedString p.mode = false) :
    SymbolTable.Defines p.symbolOf shape s!"{m.path}::{typeName shape}" := by
  obtain ⟨derives, hsymbol, _⟩ := Project.symbolOf_of_module hm
  exact ⟨_, hsymbol, definesType_of_module hm hchecked, rfl, rfl⟩

lemma name_of_module {p : Project} {m : TypeModule} {shape : Shape} {symbol : Symbol}
    (hm : TypeModule.of? p.mode shape = some m) (hsymbol : p.symbolOf shape = .ok symbol) :
    symbol.name = typeName shape := by
  obtain ⟨derives, hown, _⟩ := Project.symbolOf_of_module hm
  obtain rfl := Except.ok.inj (hsymbol.symm.trans hown)
  rw [Symbol.name, Symbol.core_generated]

/-! ## What the table does about them -/

/-- A table of the closure leaves a clash only to checked strings. -/
lemma Resolved.isCheckedString_of_clash {c : Compilation} {t : SymbolTable} (h : Resolved c t)
    {m : TypeModule} {a b : Shape} (hclash : c.project.Clash m a b) :
    a.isCheckedString c.project.mode = true ∨ b.isCheckedString c.project.mode = true := by
  -- the table has looked at both, and it keeps one shape for a type
  by_contra! hchecked
  have ha := defines_of_module hclash.left_module (by simpa using hchecked.1)
  have hb := defines_of_module hclash.right_module (by simpa using hchecked.2)
  rw [← hclash.name_eq] at hb
  exact hclash.ne (h.tracks.unique hclash.left_mem hclash.right_mem ha hb)

/-- The names in a module differ, unless a checked string clashes with another shape. -/
theorem Resolved.nodup_names_iff {c : Compilation} {t : SymbolTable} (h : Resolved c t)
    {b : Blueprint} (hproject : b.project = c.project) (hsymbols : b.symbols = t) (m : TypeModule) :
    ((b.definedIn m).map (·.2.name)).Nodup ↔
      ¬∃ first second, c.project.Clash m first second ∧
        first.isCheckedString c.project.mode = true := by
  rw [List.nodup_map_iff_inj_on (h.nodup_definedIn hproject)]
  constructor
  · rintro hinj ⟨first, second, hclash, _⟩
    obtain ⟨derives, hfirst, _⟩ := Project.symbolOf_of_module hclash.left_module
    obtain ⟨derives', hsecond, _⟩ := Project.symbolOf_of_module hclash.right_module
    have hmem :=
      (h.mem_definedIn_iff hproject hsymbols).2 ⟨hclash.left_mem, hclash.left_module, hfirst⟩
    have hmem' :=
      (h.mem_definedIn_iff hproject hsymbols).2 ⟨hclash.right_mem, hclash.right_module, hsecond⟩
    have hname := (name_of_module hclash.left_module hfirst).trans hclash.name_eq
    have heq := hinj _ hmem _ hmem' (hname.trans (name_of_module hclash.right_module hsecond).symm)
    exact hclash.ne (congrArg (·.1.id) heq)
  · rintro hnone ⟨first, symbol⟩ hmem ⟨second, symbol'⟩ hmem' hname
    obtain ⟨hfirst, hm, hsymbol⟩ := (h.mem_definedIn_iff hproject hsymbols).1 hmem
    obtain ⟨hsecond, hm', hsymbol'⟩ := (h.mem_definedIn_iff hproject hsymbols).1 hmem'
    dsimp only at hname
    rw [name_of_module hm hsymbol, name_of_module hm' hsymbol'] at hname
    -- two shapes of one name would clash, and one of them would be a checked string
    have hid : first.id = second.id := by
      by_contra hne
      have hclash : c.project.Clash m first second := ⟨hfirst, hsecond, hne, hm, hm', hname⟩
      rcases h.isCheckedString_of_clash hclash with hchecked | hchecked
      · exact hnone ⟨first, second, hclash, hchecked⟩
      · exact hnone ⟨second, first, hclash.symm, hchecked⟩
    obtain rfl := Model.eq_of_mem_walk h.model hfirst hsecond hid
    rw [Except.ok.inj (hsymbol.symm.trans hsymbol')]

/-- Of two clashing shapes that are no checked strings, or of two that clash earlier, the table says
so. -/
theorem exists_collision_of_clash {p : Project} (hmodel : p.model.WellFormed)
    (hservice : ∃ s, p.serviceShape = .ok s)
    (htotal : ∀ shape ∈ p.closure, ∃ symbol, p.symbolOf shape = .ok symbol) {m : TypeModule}
    {a b : Shape} (hclash : p.Clash m a b) (ha : a.isCheckedString p.mode = false)
    (hb : b.isCheckedString p.mode = false) :
    ∃ type, ∃ first ∈ p.closure, ∃ second ∈ p.closure, first.id ≠ second.id ∧
      SymbolTable.Defines p.symbolOf first type ∧ SymbolTable.Defines p.symbolOf second type ∧
      SymbolTable.resolve p.symbolOf p.model p.service =
        .error (.symbolCollision type first.id second.id) := by
  cases hresolve : SymbolTable.resolve p.symbolOf p.model p.service with
  | ok t =>
    have hdefa := defines_of_module hclash.left_module ha
    have hdefb := defines_of_module hclash.right_module hb
    rw [← hclash.name_eq] at hdefb
    have htracks := SymbolTable.tracks_of_resolve hmodel hresolve
    exact absurd (htracks.unique hclash.left_mem hclash.right_mem hdefa hdefb) hclash.ne
  | error e =>
    rcases SymbolTable.exists_of_resolve_eq_error hmodel hservice hresolve with
      ⟨shape, hmem, herror⟩ | ⟨type, first, hfirst, second, hsecond, hne, hdef, hdef', rfl⟩
    · obtain ⟨symbol, hsymbol⟩ := htotal shape hmem
      rw [hsymbol] at herror
      contradiction
    · exact ⟨type, first, hfirst, second, hsecond, hne, hdef, hdef', rfl⟩

/-- After a finished run, the types of a module have different names exactly if no checked string
clashes with another shape. A clash of other shapes in the transformed model keeps the symbols from
being resolved, and two shapes that define one type are named. -/
theorem names_differ_unless_checked_string {i : Command.Input} (hmodel : i.model.IsBuilt) :
    (∀ denyWarnings d c, i.compile denyWarnings = .ok (d, c) → ∃ t, c.symbols = some t ∧
      ∀ (b : Blueprint) m, b.project = c.project → b.symbols = t →
        (((b.definedIn m).map (·.2.name)).Nodup ↔
          ¬∃ first second, c.project.Clash m first second ∧
            first.isCheckedString c.project.mode = true)) ∧
    ∀ d model (p : Project), i.decorators = .ok d → Phase.transformModel d i.project = .ok model →
      p = { i.project with model } →
      (∀ shape ∈ p.closure, ∃ symbol, p.symbolOf shape = .ok symbol) →
      ∀ m a b, p.Clash m a b → a.isCheckedString p.mode = false → b.isCheckedString p.mode = false →
      ∃ type, ∃ first ∈ p.closure, ∃ second ∈ p.closure, first.id ≠ second.id ∧
        SymbolTable.Defines p.symbolOf first type ∧ SymbolTable.Defines p.symbolOf second type ∧
        SymbolTable.resolve p.symbolOf p.model p.service =
          .error (.symbolCollision type first.id second.id) := by
  constructor
  · intro denyWarnings d c hrun
    obtain ⟨_, _, t, h⟩ := resolved_of_compile hmodel hrun
    exact ⟨t, h.symbols, fun b m hproject hsymbols => h.nodup_names_iff hproject hsymbols m⟩
  · intro d model p hselect htransform hproject htotal m a b hclash ha hb
    subst hproject
    obtain ⟨hformed, hservice⟩ :=
      Phase.wellFormed_of_transformModel hselect hmodel.wellFormed htransform
    exact exists_collision_of_clash hformed hservice htotal hclash ha hb

/-! ## Two shapes with the name of a code -/

/-- A service that takes two codes from different namespaces, the second being a structure. -/
def codes (traits : Traits) (body : ShapeBody) : List Shape :=
  Command.Input.service [("a", ⟨"ex.one", "Code", none⟩), ("b", ⟨"ex.two", "Code", none⟩)]
    [⟨⟨"ex.one", "Code", none⟩, traits, body⟩, ⟨⟨"ex.two", "Code", none⟩, {}, .record []⟩]

/-- A string without a pattern has no type of its own, and two structures are told apart by the
table. -/
theorem names_differ_of_codes :
    (∃ d c t, (Command.Input.small (codes {} .string)).compile false = .ok (d, c) ∧
      c.symbols = some t ∧
      ∀ (b : Blueprint) m, b.project = c.project → b.symbols = t →
        ((b.definedIn m).map (·.2.name)).Nodup) ∧
    ∃ p : Project, ∃ type first second, p.service = Command.Input.smallService ∧
      SymbolTable.resolve p.symbolOf p.model p.service =
        .error (.symbolCollision type first second) := by
  constructor
  · have hchecked : ((Command.Input.finished? (codes {} .string)).any fun c =>
        c.project.closure.all (!·.isCheckedString c.project.mode)) = true := by
      decide +kernel
    obtain ⟨c, hc, hnone⟩ := (Option.any_eq_true _ _).1 hchecked
    obtain ⟨hmodel, hrun⟩ := Command.Input.of_finished? hc
    obtain ⟨t, ht, hnames⟩ := (names_differ_unless_checked_string hmodel).1 _ _ _ hrun
    refine ⟨_, c, t, hrun, ht, fun b m hproject hsymbols => (hnames b m hproject hsymbols).2 ?_⟩
    rintro ⟨first, second, hclash, hfirst⟩
    have hunchecked := List.all_eq_true.1 hnone first hclash.left_mem
    simp [hfirst] at hunchecked
  · obtain ⟨hbuild, hfacts⟩ :
        (Model.Draft.ofList (codes {} (.record []))).build.toOption.isSome = true ∧
        ((Phase.transformModel ⟨Decorator.builtin⟩
          (Command.Input.small (codes {} (.record []))).project).toOption.any
          fun model =>
            let p : Project := { (Command.Input.small (codes {} (.record []))).project with model }
            p.closure.all (fun shape => (p.symbolOf shape).toOption.isSome) &&
              p.closure.contains ⟨⟨"ex.one", "Code", none⟩, {}, .record []⟩ &&
              p.closure.contains ⟨⟨"ex.two", "Code", none⟩, {}, .record []⟩) = true := by
      decide +kernel
    obtain ⟨model, htransform, hfacts⟩ := (Option.any_eq_true _ _).1 hfacts
    simp only [Bool.and_eq_true, List.contains_iff_mem] at hfacts
    obtain ⟨⟨htotal, hfirst⟩, hsecond⟩ := hfacts
    obtain ⟨type, first, _, second, _, _, _, _, hresolve⟩ :=
      (names_differ_unless_checked_string (Command.Input.isBuilt_small hbuild)).2 _ _ _
        DecoratorSet.select_none (Outcome.toOption_eq_some.1 htransform) rfl
        (fun shape hmem => Outcome.exists_eq_ok_of_isSome (List.all_eq_true.1 htotal shape hmem))
        .model _ _ ⟨hfirst, hsecond, by decide, rfl, rfl, rfl⟩ rfl rfl
    exact ⟨_, type, first.id, second.id, rfl, hresolve⟩

/-- The pattern of a code. -/
def lowercase : Traits := ({} : Traits).insert (.pattern "^[a-z]+$")

/-- A string with a pattern defines the type that a structure of its name defines too, and the run
is finished. -/
theorem names_clash_of_lowercase :
    ∃ d c b, (Command.Input.small (codes lowercase .string)).model.IsBuilt ∧
      (Command.Input.small (codes lowercase .string)).compile false = .ok (d, c) ∧
      Blueprint.ofCompilation d c = .ok b ∧ ¬((b.definedIn .model).map (·.2.name)).Nodup := by
  have hfacts : ((Command.Input.finished? (codes lowercase .string)).any fun c =>
      (Blueprint.ofCompilation ⟨Decorator.builtin⟩ c).toOption.isSome &&
        c.found? ⟨"ex.one", "Code", none⟩ == some (⟨⟨"ex.one", "Code", none⟩, lowercase, .string⟩,
          { Symbol.generated "Code" "model" with derives := [.debug, .clone,
            .partialEq, .eq, .hash] }) &&
        c.found? ⟨"ex.two", "Code", none⟩ == some (⟨⟨"ex.two", "Code", none⟩, {}, .record []⟩,
          { Symbol.generated "Code" "model" with derives := PlainSymbols.aggregateInstances })) =
            true := by
    decide +kernel
  obtain ⟨c, hc, hfacts⟩ := (Option.any_eq_true _ _).1 hfacts
  simp only [Bool.and_eq_true, beq_iff_eq] at hfacts
  obtain ⟨⟨hblueprint, hfirst⟩, hsecond⟩ := hfacts
  obtain ⟨b, hb⟩ := Outcome.exists_eq_ok_of_isSome hblueprint
  obtain ⟨hmodel, hrun⟩ := Command.Input.of_finished? hc
  obtain ⟨hproject, hsymbols⟩ := Blueprint.of_ofCompilation hb
  obtain ⟨_, _, t, h⟩ := resolved_of_compile hmodel hrun
  obtain rfl := Option.some.inj (hsymbols.symm.trans h.symbols)
  refine ⟨_, c, b, hmodel, hrun, hb, fun hnodup => ?_⟩
  have hone := h.mem_definedIn_of_found? (m := .model) hproject rfl hfirst rfl rfl
  have htwo := h.mem_definedIn_of_found? (m := .model) hproject rfl hsecond rfl rfl
  have heq := List.inj_on_of_nodup_map hnodup hone htwo rfl
  exact absurd (congrArg (·.1.id.ns) heq) (by decide)

end SdkForge
