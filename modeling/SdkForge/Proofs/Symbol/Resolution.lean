import SdkForge.Proofs.Crate.TypeNames
import SdkForge.Proofs.Model.Operations

/-!
# When a table is resolved

Resolving goes through what a service reaches, shape by shape, and stops at the first one that it
refuses. The order of the walk does not matter for whether there is a table and for what it holds,
but it does for which fault is told.

* `Resolvable` and `Refuses` say what the table asks of the shapes, for whatever function gives the
  symbols.
* `resolve_iff_reached` says when there is a table, what it holds, and which fault there is
  otherwise.
-/

namespace SdkForge.SymbolTable

open Outcome

variable {symbolOf : Shape → Except Fault Symbol} {t : SymbolTable} {model : Model}
  {service : ShapeId} {e : Fault}

/-! ## What is reached -/

/-- No two shapes have one id, so that shapes with one definition are one shape. -/
lemma resolvable_walk_iff (hmodel : model.WellFormed) :
    Resolvable symbolOf (model.walk service) ↔
      (∀ shape, model.Reached service shape → ∃ symbol, symbolOf shape = .ok symbol) ∧
        ∀ type a b, model.Reached service a → model.Reached service b → Defines symbolOf a type →
          Defines symbolOf b type → a = b := by
  simp only [← Model.mem_walk_iff_reached hmodel]
  constructor
  · intro h
    refine ⟨h.total, fun type a b ha hb hdefa hdefb => ?_⟩
    exact Model.eq_of_mem_walk hmodel ha hb (h.unique type a ha b hb hdefa hdefb)
  · rintro ⟨htotal, hunique⟩
    exact ⟨htotal, fun type a ha b hb hdefa hdefb =>
      congrArg (·.id) (hunique type a b ha hb hdefa hdefb)⟩

/-- Two types of one shape are one type. -/
lemma Defines.type_eq {shape : Shape} {type type' : String} (h : Defines symbolOf shape type)
    (h' : Defines symbolOf shape type') : type = type' := by
  obtain ⟨symbol, hsymbol, _, _, rfl⟩ := h
  obtain ⟨symbol', hsymbol', _, _, rfl⟩ := h'
  rw [Except.ok.inj (hsymbol.symm.trans hsymbol')]

/-! ## Resolving -/

lemma resolve_of_not_service {cause : ModelError}
    (h : model.expectKind service .service = .error cause) :
    resolve symbolOf model service = .error (.model cause) := by
  rw [resolve, h]
  rfl

lemma exists_resolve_iff (hmodel : model.WellFormed) :
    (∃ t, resolve symbolOf model service = .ok t) ↔
      (∃ s, model.expectKind service .service = .ok s) ∧
      Resolvable symbolOf (model.walk service) := by
  cases hservice : model.expectKind service .service with
  | error cause => simp [resolve_of_not_service hservice]
  | ok s =>
    rw [resolve_of_service ⟨s, hservice⟩, exists_foldlM_iff (model.nodup_walk hmodel service)]
    simp

lemma resolve_eq_error_iff (hmodel : model.WellFormed) :
    resolve symbolOf model service = .error e ↔
      (∃ cause, model.expectKind service .service = .error cause ∧ e = .model cause) ∨
        (∃ s, model.expectKind service .service = .ok s) ∧ ∃ before shape after,
          model.walk service = before ++ shape :: after ∧ Resolvable symbolOf before ∧
          Refuses symbolOf before shape e := by
  cases hservice : model.expectKind service .service with
  | error cause => simp [resolve_of_not_service hservice, eq_comm]
  | ok s =>
    rw [resolve_of_service ⟨s, hservice⟩, foldlM_eq_error_iff (model.nodup_walk hmodel service)]
    simp

/-- There is a table exactly if the id is that of a service, every shape that the service reaches
has a symbol, and no two of them define one type. The table then has the symbols of these shapes and
no others, and it knows each defining shape under its one type. Otherwise the first shape of the
walk that is refused after those before it says why, and where its type is taken, the earlier shape
is named first. -/
theorem resolve_iff_reached (hmodel : model.WellFormed) :
    ((∃ t, resolve symbolOf model service = .ok t) ↔
      (∃ s, model.get? service = some s ∧ s.kind = .service) ∧
        (∀ shape, model.Reached service shape → ∃ symbol, symbolOf shape = .ok symbol) ∧
        ∀ type a b, model.Reached service a → model.Reached service b → Defines symbolOf a type →
          Defines symbolOf b type → a = b) ∧
    (∀ t, resolve symbolOf model service = .ok t →
      (∀ id symbol, t.get? id = some symbol ↔
        ∃ shape, model.Reached service shape ∧ shape.id = id ∧ symbolOf shape = .ok symbol) ∧
      (∀ type id, t.definitions.get? type = some id ↔
        ∃ shape, model.Reached service shape ∧ shape.id = id ∧ Defines symbolOf shape type) ∧
      ∀ type type' id, t.definitions.get? type = some id → t.definitions.get? type' = some id →
        type = type') ∧
    (∀ shape, shape ∈ model.walk service ↔ model.Reached service shape) ∧
    ((model.walk service).map (·.id)).Nodup ∧
    ∀ e, resolve symbolOf model service = .error e ↔
      (∃ cause, model.expectKind service .service = .error cause ∧ e = .model cause) ∨
        (∃ s, model.get? service = some s ∧ s.kind = .service) ∧ ∃ before shape after,
          model.walk service = before ++ shape :: after ∧ Resolvable symbolOf before ∧
          Refuses symbolOf before shape e := by
  have hservice : (∃ s, model.expectKind service .service = .ok s) ↔
      ∃ s, model.get? service = some s ∧ s.kind = .service := by
    simp only [Model.expectKind_eq_ok]
  have hreached : ∀ shape, shape ∈ model.walk service ↔ model.Reached service shape :=
    fun _ => Model.mem_walk_iff_reached hmodel
  refine ⟨?_, fun t ht => ?_, hreached, model.nodup_walk hmodel service, fun e => ?_⟩
  · rw [exists_resolve_iff hmodel, hservice, resolvable_walk_iff hmodel]
  · have htracks := tracks_of_resolve hmodel ht
    refine ⟨fun id symbol => ?_, fun type id => ?_, fun type type' id hfirst hsecond => ?_⟩
    · simp only [SymbolTable.get?, ← hreached]
      exact htracks.symbols id symbol
    · simp only [← hreached]
      exact htracks.definitions type id
    · obtain ⟨a, ha, rfl, hdefa⟩ := (htracks.definitions type id).1 hfirst
      obtain ⟨b, hb, hid, hdefb⟩ := (htracks.definitions type' _).1 hsecond
      obtain rfl := Model.eq_of_mem_walk hmodel hb ha hid
      exact hdefa.type_eq hdefb
  · rw [resolve_eq_error_iff hmodel, hservice]

/-- A string without a pattern has no type of its own, so that the type with its name is that of the
structure. Two structures are told apart by the table, which has added the first of them. -/
theorem resolve_iff_reached_of_codes :
    let named := (Command.Input.small (codes {} .string)).project
    let clashing := (Command.Input.small (codes {} (.record []))).project
    (∃ shape, named.model.Reached named.service shape ∧ shape.id = ⟨"ex.two", "Code", none⟩ ∧
      Defines named.symbolOf shape "crate::model::Code") ∧
    ∃ before shape after, clashing.model.walk clashing.service = before ++ shape :: after ∧
      Resolvable clashing.symbolOf before ∧ Refuses clashing.symbolOf before shape
        (.symbolCollision "crate::model::Code" ⟨"ex.one", "Code", none⟩ ⟨"ex.two",
          "Code", none⟩) := by
  intro named clashing
  constructor
  · obtain ⟨hbuild, hfacts⟩ : (Model.Draft.ofList (codes {} .string)).build.toOption.isSome = true ∧
        ((resolve named.symbolOf named.model named.service).toOption.any fun t =>
          t.definitions.get? "crate::model::Code" == some ⟨"ex.two", "Code", none⟩) = true := by
      decide +kernel
    obtain ⟨t, ht, hknown⟩ := (Option.any_eq_true _ _).1 hfacts
    have hmodel : named.model.WellFormed := (Command.Input.isBuilt_small hbuild).wellFormed
    have hholds := (resolve_iff_reached hmodel).2.1 t (toOption_eq_some.1 ht)
    exact (hholds.2.1 _ _).1 (beq_iff_eq.1 hknown)
  · obtain ⟨hbuild, hfacts⟩ :
        (Model.Draft.ofList (codes {} (.record []))).build.toOption.isSome = true ∧
        (match resolve clashing.symbolOf clashing.model clashing.service with
          | .error e =>
            e == .symbolCollision "crate::model::Code" ⟨"ex.one", "Code", none⟩ ⟨"ex.two",
              "Code", none⟩
          | .ok _ => false) = true := by
      decide +kernel
    have hmodel : clashing.model.WellFormed := (Command.Input.isBuilt_small hbuild).wellFormed
    split at hfacts
    · next e he =>
      have hwhy := ((resolve_iff_reached hmodel).2.2.2.2 e).1 he
      rw [beq_iff_eq.1 hfacts] at hwhy
      rcases hwhy with ⟨cause, _, hcause⟩ | ⟨_, hrefused⟩
      · cases hcause
      · exact hrefused
    · exact absurd hfacts Bool.false_ne_true

end SdkForge.SymbolTable
