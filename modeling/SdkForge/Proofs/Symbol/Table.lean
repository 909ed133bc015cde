import SdkForge.Proofs.Model.Closure
import SdkForge.Proofs.Outcome
import SdkForge.Symbol.Table

/-!
# What a table of symbols holds

A table is built by adding one shape after the other.

* `Tracks` says what the table holds once some shapes are added; `Tracks.add` keeps it for one more
  shape and `Tracks.foldlM` for any number of them.
* `Refuses` says why a shape cannot be added after others, and `Tracks.add_eq_error_iff` that there
  is no other reason.
* `foldlM_eq_error_iff` says that adding shapes fails at the first one that is refused, and
  `exists_foldlM_iff` which shapes can all be added.
* `tracks_of_resolve` says that a resolved table has the symbols of the whole closure and of nothing
  else, and `exists_of_resolve_eq_error` why there is none.
-/

namespace SdkForge.SymbolTable

open Outcome

variable {symbolOf : Shape → Except Fault Symbol} {t t' : SymbolTable} {added rest : List Shape}
  {shape : Shape} {model : Model} {service : ShapeId} {e : Fault}

/-- The table takes the shape for the one that defines the type. -/
def Defines (symbolOf : Shape → Except Fault Symbol) (shape : Shape) (type : String) : Prop :=
  ∃ symbol, symbolOf shape = .ok symbol ∧ definesType shape = true ∧ symbol.isGenerated = true ∧
    symbol.fullName = type

/-- The table has the symbols of the added shapes, and knows which of them define a type. -/
structure Tracks (symbolOf : Shape → Except Fault Symbol) (added : List Shape) (t : SymbolTable) :
    Prop where
  total : ∀ shape ∈ added, ∃ symbol, symbolOf shape = .ok symbol
  symbols : ∀ id symbol, t.get? id = some symbol ↔ ∃ shape ∈ added, shape.id = id ∧
    symbolOf shape = .ok symbol
  definitions : ∀ type id,
    t.definitions.get? type = some id ↔ ∃ shape ∈ added, shape.id = id ∧ Defines symbolOf shape type

/-- Every shape has a symbol, and no two define one type. -/
structure Resolvable (symbolOf : Shape → Except Fault Symbol) (shapes : List Shape) : Prop where
  total : ∀ shape ∈ shapes, ∃ symbol, symbolOf shape = .ok symbol
  unique : ∀ type, ∀ a ∈ shapes, ∀ b ∈ shapes, Defines symbolOf a type → Defines symbolOf b type →
    a.id = b.id

/-- Why a shape cannot be added after others. -/
inductive Refuses (symbolOf : Shape → Except Fault Symbol) (before : List Shape) (shape : Shape) :
    Fault → Prop where
  /-- It has no symbol. -/
  | noSymbol {fault : Fault} (hsymbol : symbolOf shape = .error fault) :
      Refuses symbolOf before shape fault
  /-- An earlier shape defines its type. -/
  | taken {first : Shape} {type : String} (hmem : first ∈ before)
      (hfirst : Defines symbolOf first type) (hdefines : Defines symbolOf shape type) :
      Refuses symbolOf before shape (.symbolCollision type first.id shape.id)

/-! ## One shape -/

lemma add_of_symbol {symbol : Symbol} (hsymbol : symbolOf shape = .ok symbol) :
    add symbolOf t shape =
      ((if definesType shape && symbol.isGenerated then
        t.define shape.id symbol.fullName else .ok t).map fun t =>
          { t with symbols := t.symbols.insert shape.id symbol }) := by
  unfold add
  rw [hsymbol]
  by_cases h : (definesType shape && symbol.isGenerated) = true
  · rw [if_pos h]
    simp only [bind, Except.bind, if_pos h]
    cases t.define shape.id symbol.fullName <;> rfl
  · rw [if_neg h]
    simp only [bind, Except.bind, if_neg h]
    rfl

lemma defines_iff {symbol : Symbol} (hsymbol : symbolOf shape = .ok symbol) {type : String} :
    Defines symbolOf shape type ↔ (definesType shape && symbol.isGenerated) = true ∧
    symbol.fullName = type := by
  constructor
  · rintro ⟨other, hother, hdefines, hgenerated, hname⟩
    obtain rfl := Except.ok.inj (hsymbol.symm.trans hother)
    exact ⟨by simp [hdefines, hgenerated], hname⟩
  · rintro ⟨h, hname⟩
    simp only [Bool.and_eq_true] at h
    exact ⟨symbol, hsymbol, h.1, h.2, hname⟩

lemma define_eq_ok {id : ShapeId} {type : String} :
    t.define id type = .ok t' ↔
      t.definitions.get? type = none ∧
      { t with definitions := t.definitions.insert type id } = t' := by
  unfold define
  cases t.definitions.get? type <;> simp

/-- How a shape is added: its symbol is put in, and so is its definition, if there is one. -/
lemma add_eq_ok (h : add symbolOf t shape = .ok t') :
    ∃ symbol, symbolOf shape = .ok symbol ∧ t'.symbols = t.symbols.insert shape.id symbol ∧
      (t'.definitions = t.definitions ∧ ¬Defines symbolOf shape symbol.fullName ∨
        t.definitions.get? symbol.fullName = none ∧ Defines symbolOf shape symbol.fullName ∧
          t'.definitions = t.definitions.insert symbol.fullName shape.id) := by
  cases hsymbol : symbolOf shape with
  | error fault =>
    rw [add, hsymbol] at h
    contradiction
  | ok symbol =>
    rw [add_of_symbol hsymbol, map_eq_ok] at h
    obtain ⟨defined, hdefined, rfl⟩ := h
    refine ⟨symbol, rfl, ?_⟩
    split at hdefined
    · next hdefines =>
      obtain ⟨hfree, rfl⟩ := define_eq_ok.1 hdefined
      exact ⟨rfl, .inr ⟨hfree, (defines_iff hsymbol).2 ⟨hdefines, rfl⟩, rfl⟩⟩
    · next hdefines =>
      obtain rfl := Except.ok.inj hdefined
      exact ⟨rfl, .inl ⟨rfl, fun hdef => hdefines ((defines_iff hsymbol).1 hdef).1⟩⟩

/-- A shape cannot be added if it has no symbol, or if an earlier one defines its type. -/
lemma add_eq_error (h : add symbolOf t shape = .error e) :
    symbolOf shape = .error e ∨ ∃ type first, Defines symbolOf shape type ∧
      t.definitions.get? type = some first ∧
      e = .symbolCollision type first shape.id := by
  -- a shape without a symbol fails before its definition is looked at
  cases hsymbol : symbolOf shape with
  | error fault =>
    rw [add, hsymbol] at h
    exact .inl (congrArg Except.error (Except.error.inj h))
  | ok symbol =>
    right
    rw [add_of_symbol hsymbol] at h
    split at h
    · next hdefines =>
      unfold define at h
      split at h
      · next first hfirst =>
        exact ⟨symbol.fullName, first, (defines_iff hsymbol).2 ⟨hdefines, rfl⟩, hfirst,
          (Except.error.inj h).symm⟩
      · contradiction
    · contradiction

/-- A shape is refused for the two reasons and no other. -/
lemma Tracks.add_eq_error_iff (ht : Tracks symbolOf added t) :
    SymbolTable.add symbolOf t shape = .error e ↔ Refuses symbolOf added shape e := by
  constructor
  · intro h
    rcases add_eq_error h with hsymbol | ⟨type, first, hdefines, hfirst, rfl⟩
    · exact .noSymbol hsymbol
    · obtain ⟨other, hmem, rfl, hother⟩ := (ht.definitions type first).1 hfirst
      exact .taken hmem hother hdefines
  · intro h
    cases h with
    | noSymbol hsymbol =>
      rw [SymbolTable.add, hsymbol]
      rfl
    | @taken first type hmem hfirst hdefines =>
      have hknown : t.definitions.get? type = some first.id :=
        (ht.definitions type first.id).2 ⟨first, hmem, rfl, hfirst⟩
      obtain ⟨symbol, hsymbol, hdefines, hgenerated, rfl⟩ := hdefines
      rw [add_of_symbol hsymbol, if_pos (by simp [hdefines, hgenerated]), define, hknown]
      rfl

lemma exists_mem_snoc {P : Shape → Prop} :
    (∃ other ∈ added ++ [shape], P other) ↔ (∃ other ∈ added, P other) ∨ P shape := by
  simp only [List.mem_append, List.mem_singleton, or_and_right, exists_or, exists_eq_left]

/-- Adding a new shape to a table keeps track of it. -/
theorem Tracks.add (ht : Tracks symbolOf added t) (hnew : shape.id ∉ added.map (·.id))
    (hadd : SymbolTable.add symbolOf t shape = .ok t') : Tracks symbolOf (added ++ [shape]) t' := by
  obtain ⟨symbol, hsymbol, hsymbols, hdefinitions⟩ := add_eq_ok hadd
  constructor
  · intro other hmem
    rcases List.mem_append.1 hmem with hmem | hmem
    · exact ht.total other hmem
    · obtain rfl := List.mem_singleton.1 hmem
      exact ⟨symbol, hsymbol⟩
  · intro id found
    rw [exists_mem_snoc, ← ht.symbols, get?, get?, hsymbols, OrderedMap.get?_insert]
    split
    · next hid =>
      -- the id is new, so that the table has had no symbol for it
      have hnone : t.symbols.get? shape.id ≠ some found := by
        rw [← get?, Ne, ht.symbols]
        rintro ⟨other, hmem, heq, _⟩
        exact hnew (heq ▸ List.mem_map_of_mem hmem)
      simp [hnone, hid, hsymbol]
    · next hid => simp [Ne.symm hid]
  · intro type id
    rw [exists_mem_snoc, ← ht.definitions]
    rcases hdefinitions with ⟨hkeep, hnot⟩ | ⟨hfree, hdef, hinsert⟩
    · have hnone : ¬Defines symbolOf shape type := by
        intro hdef
        rw [← ((defines_iff hsymbol).1 hdef).2] at hdef
        exact hnot hdef
      simp [hkeep, hnone]
    · rw [hinsert, OrderedMap.get?_insert]
      split
      · next htype => simp [htype, hfree, hdef]
      · next htype =>
        have hnone : ¬Defines symbolOf shape type := by
          intro hdef
          exact htype ((defines_iff hsymbol).1 hdef).2.symm
        simp [hnone]

/-! ## Many shapes -/

lemma tracks_nil : Tracks symbolOf [] {} := by
  refine ⟨by simp, fun id symbol => ?_, fun type id => ?_⟩
  · simp [get?]
  · simp

/-- Adding shapes to a table, each with an id of its own, keeps track of them. -/
theorem Tracks.foldlM (ht : Tracks symbolOf added t) (hnodup : ((added ++ rest).map (·.id)).Nodup)
    (hrun : rest.foldlM (SymbolTable.add symbolOf) t = .ok t') :
    Tracks symbolOf (added ++ rest) t' := by
  induction rest generalizing added t with
  | nil =>
    obtain rfl := pure_eq_ok.1 hrun
    rwa [List.append_nil]
  | cons first rest ih =>
    rw [List.append_cons] at hnodup ⊢
    simp only [List.foldlM_cons, bind_eq_ok] at hrun
    obtain ⟨next, hadd, hrun⟩ := hrun
    refine ih (ht.add ?_ hadd) hnodup hrun
    -- the new id differs from those before it, which stand in front of it in the list of all ids
    rw [List.map_append, List.map_append] at hnodup
    intro hold
    exact (List.nodup_append.1 (List.nodup_append.1 hnodup).1).2.2 _ hold _ List.mem_cons_self rfl

/-- No two of the added shapes define one type. -/
lemma Tracks.unique (ht : Tracks symbolOf added t) {a b : Shape} {type : String} (ha : a ∈ added)
    (hb : b ∈ added) (hdefa : Defines symbolOf a type) (hdefb : Defines symbolOf b type) :
    a.id = b.id := by
  have hfirst := (ht.definitions type a.id).2 ⟨a, ha, rfl, hdefa⟩
  have hsecond := (ht.definitions type b.id).2 ⟨b, hb, rfl, hdefb⟩
  exact Option.some.inj (hfirst.symm.trans hsecond)

lemma Tracks.resolvable (ht : Tracks symbolOf added t) : Resolvable symbolOf added :=
  ⟨ht.total, fun _ _ ha _ hb => ht.unique ha hb⟩

/-! ## From the empty table -/

variable {shapes : List Shape}

lemma tracks_of_foldlM (hnodup : (shapes.map (·.id)).Nodup)
    (h : shapes.foldlM (add symbolOf) {} = .ok t) :
    Tracks symbolOf shapes t := tracks_nil.foldlM hnodup h

/-- Adding shapes fails at one that is refused, after those before it were added. -/
lemma exists_refuses_of_foldlM (hnodup : (shapes.map (·.id)).Nodup)
    (h : shapes.foldlM (add symbolOf) {} = .error e) :
    ∃ before shape after, shapes = before ++ shape :: after ∧ Resolvable symbolOf before ∧
      Refuses symbolOf before shape e := by
  obtain ⟨before, shape, after, c, rfl, hbefore, hadd⟩ := exists_of_foldlM_eq_error h
  rw [List.map_append] at hnodup
  have htracks : Tracks symbolOf before c := tracks_of_foldlM (List.nodup_append.1 hnodup).1 hbefore
  exact ⟨before, shape, after, rfl, htracks.resolvable, htracks.add_eq_error_iff.1 hadd⟩

/-- The refused shape differs from those before it. -/
lemma id_ne_of_nodup {before after : List Shape} {first : Shape}
    (hnodup : ((before ++ shape :: after).map (·.id)).Nodup) (hmem : first ∈ before) :
    first.id ≠ shape.id := by
  rw [List.map_append, List.map_cons] at hnodup
  exact (List.nodup_append.1 hnodup).2.2 _ (List.mem_map_of_mem hmem) _ List.mem_cons_self

/-- Shapes can all be added exactly if each has a symbol and no two define one type. -/
theorem exists_foldlM_iff (hnodup : (shapes.map (·.id)).Nodup) :
    (∃ t, shapes.foldlM (add symbolOf) {} = .ok t) ↔ Resolvable symbolOf shapes := by
  constructor
  · rintro ⟨t, ht⟩
    exact (tracks_of_foldlM hnodup ht).resolvable
  · intro hresolvable
    cases h : shapes.foldlM (add symbolOf) {} with
    | ok t => exact ⟨t, rfl⟩
    | error e =>
      obtain ⟨before, shape, after, rfl, _, hrefuses⟩ := exists_refuses_of_foldlM hnodup h
      cases hrefuses with
      | noSymbol hsymbol =>
        obtain ⟨symbol, hok⟩ := hresolvable.total shape (by simp)
        rw [hok] at hsymbol
        contradiction
      | @taken first type hmem hfirst hdefines =>
        exact absurd (hresolvable.unique type first (by simp [hmem]) shape (by simp)
          hfirst hdefines) (id_ne_of_nodup hnodup hmem)

/-- Adding shapes fails exactly for the reason for which the first one that is refused is
refused. -/
theorem foldlM_eq_error_iff (hnodup : (shapes.map (·.id)).Nodup) :
    shapes.foldlM (add symbolOf) {} = .error e ↔
      ∃ before shape after, shapes = before ++ shape :: after ∧ Resolvable symbolOf before ∧
        Refuses symbolOf before shape e := by
  constructor
  · exact exists_refuses_of_foldlM hnodup
  · rintro ⟨before, shape, after, rfl, hresolvable, hrefuses⟩
    rw [List.map_append] at hnodup
    have hbefore : (before.map (·.id)).Nodup := (List.nodup_append.1 hnodup).1
    obtain ⟨c, hc⟩ := (exists_foldlM_iff hbefore).2 hresolvable
    have hadd : add symbolOf c shape = .error e :=
      (tracks_of_foldlM hbefore hc).add_eq_error_iff.2 hrefuses
    rw [List.foldlM_append, hc]
    exact foldlM_cons_of_error hadd

/-! ## The closure of a service -/

lemma resolve_of_service (hservice : ∃ s, model.expectKind service .service = .ok s) :
    resolve symbolOf model service = (model.walk service).foldlM (add symbolOf) {} := by
  obtain ⟨s, hs⟩ := hservice
  rw [resolve, Fault.ofModel_eq_ok.2 hs]
  rfl

/-- A resolved table has the symbols of what the service reaches. -/
theorem tracks_of_resolve (hmodel : model.WellFormed) (h : resolve symbolOf model service = .ok t) :
    Tracks symbolOf (model.walk service) t := by
  simp only [resolve, bind_eq_ok] at h
  obtain ⟨_, _, h⟩ := h
  exact tracks_of_foldlM (model.nodup_walk hmodel service) h

/-- There is no table because a shape has no symbol, or because two shapes define one type. -/
theorem exists_of_resolve_eq_error (hmodel : model.WellFormed)
    (hservice : ∃ s, model.expectKind service .service = .ok s)
    (h : resolve symbolOf model service = .error e) :
    (∃ shape ∈ model.walk service, symbolOf shape = .error e) ∨
      ∃ type, ∃ a ∈ model.walk service, ∃ b ∈ model.walk service, a.id ≠ b.id ∧
        Defines symbolOf a type ∧
        Defines symbolOf b type ∧ e = .symbolCollision type a.id b.id := by
  have hnodup : ((model.walk service).map (·.id)).Nodup := model.nodup_walk hmodel service
  rw [resolve_of_service hservice] at h
  obtain ⟨before, b, after, hwalk, _, hrefuses⟩ := exists_refuses_of_foldlM hnodup h
  rw [hwalk] at hnodup ⊢
  cases hrefuses with
  | noSymbol hsymbol => exact .inl ⟨b, by simp, hsymbol⟩
  | @taken a type hmem ha hb =>
    exact .inr ⟨type, a, by simp [hmem], b, by simp, id_ne_of_nodup hnodup hmem, ha, hb, rfl⟩

end SdkForge.SymbolTable
