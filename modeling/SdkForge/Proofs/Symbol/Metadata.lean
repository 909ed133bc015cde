import SdkForge.Proofs.Pipeline

/-!
# What a symbol says about its type

A symbol says of its type whether it is optional, whether it is in a box, and whether it is one of
the server's types. Each stage changes the type and what is said about it apart from each other, and
each of them keeps the two in step.

* `Symbol.Agrees` says that what a symbol says is so.
* `PlainSymbols.isPlain_of_symbolWithin` says it for the first stage, and `Symbol.Agrees.finish`
  that the later ones keep it.
* `Project.symbol_agrees` says it for every symbol of the chain.
-/

namespace SdkForge

open Outcome

/-! ## Types -/

namespace TypeExpr

/-- How many boxes there are in a type, keys of maps included. -/
def boxCount : TypeExpr → Nat
  | named .. => 0
  | option inner | list inner | reference inner => inner.boxCount
  | map key value => key.boxCount + value.boxCount
  | box inner => inner.boxCount + 1

/-- A type that is a box as a whole, or that has an optional one. -/
def isBoxed : TypeExpr → Bool
  | box _ | option (box _) => true
  | _ => false

lemma isOption_iff {type : TypeExpr} : type.isOption = true ↔ ∃ inner, type = .option inner := by
  cases type <;> simp [isOption]

lemma isBoxed_iff {type : TypeExpr} :
    type.isBoxed = true ↔ ∃ inner, type = .box inner ∨ type = .option (.box inner) := by
  cases type with
  | option inner => cases inner <;> simp [isBoxed]
  | _ => simp [isBoxed]

lemma isBoxed_of_boxCount {type : TypeExpr} (h : type.boxCount = 0) : type.isBoxed = false := by
  rw [Bool.eq_false_iff]
  intro hboxed
  obtain ⟨inner, rfl | rfl⟩ := isBoxed_iff.1 hboxed <;> exact absurd h (Nat.succ_ne_zero _)

@[simp] lemma isBoxed_boxed (type : TypeExpr) : type.boxed.isBoxed = true := by
  cases type <;> rfl

@[simp] lemma isOption_boxed (type : TypeExpr) : type.boxed.isOption = type.isOption := by
  cases type <;> rfl

@[simp] lemma boxCount_boxed (type : TypeExpr) : type.boxed.boxCount = type.boxCount + 1 := by
  cases type <;> rfl

section Rename

variable (newName : String) (type : TypeExpr)

@[simp] lemma isOption_rename : (type.rename newName).isOption = type.isOption := by
  cases type <;> rfl

@[simp] lemma isBoxed_rename : (type.rename newName).isBoxed = type.isBoxed := by
  cases type with
  | option inner => cases inner <;> rfl
  | _ => rfl

@[simp] lemma boxCount_rename : (type.rename newName).boxCount = type.boxCount := by
  induction type <;> simp_all [rename, boxCount]

@[simp] lemma path_rename : (type.rename newName).core.2 = type.core.2 := by
  induction type <;> simp_all [rename, core]

end Rename

section ReplaceCore

variable (name : String) (ns : Option String) (type : TypeExpr)

@[simp] lemma isOption_replaceCore :
    (SymbolStage.replaceCore (.named name ns) type).isOption = type.isOption := by
  cases type <;> rfl

@[simp] lemma isBoxed_replaceCore :
    (SymbolStage.replaceCore (.named name ns) type).isBoxed = type.isBoxed := by
  cases type with
  | option inner => cases inner <;> rfl
  | _ => rfl

@[simp] lemma boxCount_replaceCore :
    (SymbolStage.replaceCore (.named name ns) type).boxCount = type.boxCount := by
  induction type <;> simp_all [SymbolStage.replaceCore, boxCount]

end ReplaceCore

end TypeExpr

/-! ## Symbols -/

namespace Symbol

/-- What a symbol says about its type is so, where `types` is the module with the server's types. -/
structure Agrees (types : String) (s : Symbol) : Prop where
  nullable : s.nullable = s.type.isOption
  boxed : s.boxed = s.type.isBoxed
  /-- There is no box but the one that the symbol tells of. -/
  boxCount : s.type.boxCount = s.boxed.toNat
  wrapped : s.wrapped = true ↔ s.type.core.2 = some types

/-- A symbol that may be optional, and tells nothing else. -/
structure IsPlain (s : Symbol) : Prop where
  nullable : s.nullable = s.type.isOption
  boxed : s.boxed = false
  boxCount : s.type.boxCount = 0
  wrapped : s.wrapped = false

variable {types : String} {s : Symbol}

/-- A plain symbol tells the truth unless its type is one of the server's. -/
lemma IsPlain.agrees (h : s.IsPlain) (hpath : s.type.core.2 ≠ some types) : s.Agrees types where
  nullable := h.nullable
  boxed := by rw [h.boxed, TypeExpr.isBoxed_of_boxCount h.boxCount]
  boxCount := by rw [h.boxed, h.boxCount]; rfl
  wrapped := by simp [h.wrapped, hpath]

lemma IsPlain.optional (h : s.IsPlain) : s.optional.IsPlain := by
  unfold Symbol.optional
  split
  · exact h
  · exact { h with nullable := rfl }

/-- A box that is put around a type is the only one, since a symbol that tells of one gets no
other. -/
lemma Agrees.box (h : s.Agrees types) : s.box.Agrees types := by
  unfold Symbol.box
  split
  · exact h
  · next hopen =>
    have hnone : s.type.boxCount = 0 := by
      rw [h.boxCount, Bool.eq_false_iff.2 hopen]
      rfl
    exact {
      nullable := by rw [h.nullable, TypeExpr.isOption_boxed]
      boxed := by rw [TypeExpr.isBoxed_boxed]
      boxCount := by rw [TypeExpr.boxCount_boxed, hnone]; rfl
      wrapped := by rw [SymbolStage.core_boxed, h.wrapped] }

lemma Agrees.rename (h : s.Agrees types) (newName : String) : (s.rename newName).Agrees types where
  nullable := h.nullable.trans (TypeExpr.isOption_rename newName s.type).symm
  boxed := h.boxed.trans (TypeExpr.isBoxed_rename newName s.type).symm
  boxCount := (TypeExpr.boxCount_rename newName s.type).trans h.boxCount
  wrapped := by
    show s.wrapped = true ↔ (s.type.rename newName).core.2 = some types
    rw [TypeExpr.path_rename, h.wrapped]

end Symbol

/-! ## The first stage -/

namespace PlainSymbols

variable {s : Settings} {shape : Shape} {symbol : Symbol}

lemma Owned.isPlain (h : Owned s shape symbol) : symbol.IsPlain := by
  cases h with
  | defined | service | standing => exact ⟨rfl, rfl, rfl, rfl⟩

/-- A collection is there, and what it holds is in no box. -/
lemma isPlain_of_symbolWithin {fuel : Nat} (h : symbolWithin s fuel shape = .ok symbol) :
    symbol.IsPlain := by
  -- on the fuel, which pays for one shape that holds another
  induction fuel generalizing shape symbol with
  | zero => simp [symbolWithin] at h
  | succ fuel ih =>
    cases hholder : shape.isHolder with
    | false =>
      rw [symbolWithin_succ_of_not_isHolder hholder] at h
      exact (owned_of_own hholder h).isPlain
    | true =>
      obtain ⟨id, traits, body⟩ := shape
      cases body with
      | member container target =>
        simp only [symbolWithin, bind_eq_ok, pure_eq_ok] at h
        obtain ⟨next, _, inner, hinner, rfl⟩ := h
        have hplain := ih hinner
        split
        · exact hplain
        · exact hplain.optional
      | list member =>
        simp only [symbolWithin, bind_eq_ok, pure_eq_ok] at h
        obtain ⟨next, _, inner, hinner, rfl⟩ := h
        exact ⟨rfl, rfl, (ih hinner).boxCount, rfl⟩
      | map key value =>
        simp only [symbolWithin, bind_eq_ok, pure_eq_ok] at h
        obtain ⟨next, _, inner, hinner, rfl⟩ := h
        refine ⟨rfl, rfl, ?_, rfl⟩
        show TypeExpr.boxCount (.named "String") + inner.type.boxCount = 0
        rw [(ih hinner).boxCount]
        rfl
      | _ => simp [Shape.isHolder, Shape.isMember, Shape.isCollection, Shape.kind] at hholder

end PlainSymbols

/-! ## The later stages -/

namespace Symbol.Agrees

variable {model : Model} {crate : String} {shape : Shape} {types : String} {s : Symbol}

lemma stream (crate : String) : (SymbolStage.stream crate).Agrees (SymbolStage.serverTypes crate) :=
  ⟨rfl, rfl, rfl, iff_of_true rfl rfl⟩

/-- The type of the server's crate takes the place of a name, and the symbol tells of it. -/
lemma wrap (h : s.Agrees (SymbolStage.serverTypes crate)) :
    (SymbolStage.wrap model crate shape s).Agrees (SymbolStage.serverTypes crate) := by
  unfold SymbolStage.wrap
  split
  · exact {
      nullable := by rw [h.nullable, TypeExpr.isOption_replaceCore]
      boxed := by rw [h.boxed, TypeExpr.isBoxed_replaceCore]
      boxCount := by rw [TypeExpr.boxCount_replaceCore, h.boxCount]
      wrapped := by rw [SymbolStage.core_replaceCore]; exact iff_of_true rfl rfl }
  · exact h

lemma boxRecursive (h : s.Agrees types) :
    (SymbolStage.boxRecursive model shape s).Agrees types := by
  unfold SymbolStage.boxRecursive
  split
  · exact h.box
  · exact h

lemma dropEquality (h : s.Agrees types) :
    (SymbolStage.dropEquality model shape s).Agrees types := by
  unfold SymbolStage.dropEquality
  split
  · exact { h with }
  · exact h

lemma escapeReserved (h : s.Agrees types) : (SymbolStage.escapeReserved s).Agrees types := by
  unfold SymbolStage.escapeReserved
  split
  · exact h.rename _
  · exact h

/-- The stages after the one for streams keep what a symbol says in step with its type. -/
lemma finish {p : Project} (h : s.Agrees (SymbolStage.serverTypes p.serverCrate)) :
    (p.finish shape s).Agrees (SymbolStage.serverTypes p.serverCrate) := by
  have hwrap : (p.wrap shape s).Agrees (SymbolStage.serverTypes p.serverCrate) := by
    unfold Project.wrap
    split
    · exact h.wrap
    · exact h
  exact hwrap.boxRecursive.dropEquality.escapeReserved

end Symbol.Agrees

/-! ## The chain -/

namespace Project

variable {p : Project} {shape : Shape} {symbol : Symbol}

lemma agrees_of_symbolOf (h : p.symbolOf shape = .ok symbol) :
    symbol.Agrees (SymbolStage.serverTypes p.serverCrate) := by
  obtain ⟨first, hfirst, rfl⟩ := symbolOf_eq_ok.1 h
  apply Symbol.Agrees.finish
  rcases of_begun_eq_ok hfirst with ⟨_, rfl⟩ | ⟨_, hplain⟩
  · exact .stream p.serverCrate
  · apply (PlainSymbols.isPlain_of_symbolWithin hplain).agrees
    -- the path is that of the origin's type, which is none of the server's
    obtain ⟨origin, plain, htyped, hown, hmade⟩ := PlainSymbols.exists_origin hplain
    rw [hmade.core]
    exact core_ne_serverTypes (PlainSymbols.owned_of_own htyped.isHolder_origin hown)

/-- A symbol is optional, boxed or one of the server's exactly if its type is, and there is no box
in the type but the outer one. -/
theorem symbol_agrees (h : p.symbolOf shape = .ok symbol) :
    (symbol.nullable = true ↔ ∃ inner, symbol.type = .option inner) ∧
    (symbol.boxed = true ↔ ∃ inner, symbol.type = .box inner ∨ symbol.type = .option (.box inner)) ∧
    (symbol.type.boxCount = if symbol.boxed then 1 else 0) ∧
    (symbol.wrapped = true ↔ symbol.type.core.2 =
      some (SymbolStage.serverTypes p.serverCrate)) := by
  have hagrees := agrees_of_symbolOf h
  refine ⟨?_, ?_, ?_, hagrees.wrapped⟩
  · rw [hagrees.nullable, TypeExpr.isOption_iff]
  · rw [hagrees.boxed, TypeExpr.isBoxed_iff]
  · rw [hagrees.boxCount]
    cases symbol.boxed <;> rfl

/-- A server of a service that takes a node, which may hold another one, and blobs. -/
def photoTree : Project :=
  (Command.Input.small (Command.Input.service [("root", ⟨"ex", "Node", none⟩)]
    (Command.Input.record ⟨"ex", "Node", none⟩ [("next", ⟨"ex", "Node", none⟩),
      ("photos", ⟨"ex", "Photos", none⟩)] ++
        [{ id := ⟨"ex", "Photos", none⟩, body := .list ⟨"ex", "Photos", some "member"⟩ },
          .ofMember ⟨"ex", "Photos", some "member"⟩ ⟨"ex", "Photo", none⟩,
        { id := ⟨"ex", "Photo", none⟩, body := .blob }]))).project.withWrapperTypes true

/-- The members of the node. -/
def nodeNext : Shape := .ofMember ⟨"ex", "Node", some "next"⟩ ⟨"ex", "Node", none⟩
def nodePhotos : Shape := .ofMember ⟨"ex", "Node", some "photos"⟩ ⟨"ex", "Photos", none⟩

/-- The next node is optional and in a box, and the blobs are optional and the server's. -/
theorem symbol_agrees_of_photoTree : ∃ next photos,
    photoTree.symbolOf nodeNext = .ok next ∧
    photoTree.symbolOf nodePhotos = .ok photos ∧
    next.type = .option (.box (.named "Node" (some "crate::model"))) ∧
    next.nullable = true ∧ next.boxed = true ∧ next.wrapped = false ∧
    photos.type = .option (.list (.named "Blob" (some "kiln_server::types"))) ∧
    photos.nullable = true ∧ photos.boxed = false ∧ photos.wrapped = true := by
  have htypes : (photoTree.symbolOf nodeNext).toOption.map (·.type) =
        some (.option (.box (.named "Node" (some "crate::model")))) ∧
      (photoTree.symbolOf nodePhotos).toOption.map (·.type) =
        some (.option (.list (.named "Blob" (some "kiln_server::types")))) := by
    decide +kernel
  have hcrate : photoTree.serverCrate = "kiln_server" := by decide +kernel
  obtain ⟨next, hnext, hnextType⟩ := Option.map_eq_some_iff.1 htypes.1
  obtain ⟨photos, hphotos, hphotosType⟩ := Option.map_eq_some_iff.1 htypes.2
  -- the types are computed, and what the symbols say of them follows
  obtain ⟨hnullable, hboxed, _, hwrapped⟩ := symbol_agrees (toOption_eq_some.1 hnext)
  obtain ⟨hnullable', _, hcount', hwrapped'⟩ := symbol_agrees (toOption_eq_some.1 hphotos)
  refine ⟨next, photos, toOption_eq_some.1 hnext, toOption_eq_some.1 hphotos, hnextType,
    hnullable.2 ⟨_, hnextType⟩, hboxed.2 ⟨_, .inr hnextType⟩, ?_, hphotosType,
    hnullable'.2 ⟨_, hphotosType⟩, ?_, hwrapped'.2 ?_⟩
  · rw [Bool.eq_false_iff, ne_eq, hwrapped, hnextType, hcrate]
    decide
  · rw [hphotosType] at hcount'
    simpa [TypeExpr.boxCount] using hcount'
  · rw [hphotosType, hcrate]
    rfl

end Project

end SdkForge
