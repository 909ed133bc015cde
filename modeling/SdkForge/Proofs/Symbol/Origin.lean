import SdkForge.Proofs.Outcome
import SdkForge.Symbol.Plain

/-!
# Where a type comes from

Members, lists and maps have no type of their own: theirs is made of the type of what they hold.
Following what is held leads to one shape, the origin of the type.

* `TypedBy` follows what is held, and `TypedBy.unique` says that it leads to one shape.
* `exists_origin` says that a plain symbol has the type of its origin at its core.
-/

namespace SdkForge

open Outcome

/-! ## What is held -/

/-- Members, lists and maps. -/
def Shape.isHolder (shape : Shape) : Bool := shape.isMember || shape.isCollection

lemma Shape.isMember_eq_false {shape : Shape} (h : shape.isHolder = false) :
    shape.isMember = false := by
  simp only [isHolder, Bool.or_eq_false_iff] at h
  exact h.1

namespace Model

/-- The shape that a member, list or map takes its type from. -/
def held? (model : Model) (shape : Shape) : Option Shape :=
  match shape.body with
  | .member _ target => model.get? target
  | .list member | .map _ member =>
    (model.get? member).bind fun member => member.target?.bind model.get?
  | _ => none

/-- The type of a shape is made of the type of `origin`. -/
inductive TypedBy (model : Model) : Shape → Shape → Prop where
  | self {shape} (hself : shape.isHolder = false) : TypedBy model shape shape
  | held {shape next origin} (hheld : model.held? shape = some next)
      (hrest : TypedBy model next origin) :
      TypedBy model shape origin

variable {model : Model} {shape origin : Shape}

lemma held?_eq_none (h : shape.isHolder = false) : model.held? shape = none := by
  obtain ⟨id, traits, body⟩ := shape
  cases body <;> simp_all [Shape.isHolder, Shape.isMember, Shape.isCollection, Shape.kind, held?]

/-- A type is made of the type of one shape. -/
theorem TypedBy.unique (h : model.TypedBy shape origin) {other : Shape}
    (hother : model.TypedBy shape other) :
    origin = other := by
  induction h with
  | self hself =>
    cases hother with
    | self => rfl
    | held hheld _ =>
      rw [held?_eq_none hself] at hheld
      contradiction
  | held hheld _ ih =>
    cases hother with
    | self hself =>
      rw [held?_eq_none hself] at hheld
      contradiction
    | held hheld' hrest =>
      obtain rfl := Option.some.inj (hheld.symm.trans hheld')
      exact ih hrest

lemma TypedBy.isHolder_origin (h : model.TypedBy shape origin) : origin.isHolder = false := by
  induction h with
  | self hself => exact hself
  | held _ _ ih => exact ih

end Model

/-! ## Cores of types -/

@[simp] lemma Symbol.core_optional (s : Symbol) : s.optional.type.core = s.type.core := by
  unfold Symbol.optional
  split <;> rfl

@[simp] lemma Symbol.module_optional (s : Symbol) : s.optional.module = s.module := by
  unfold Symbol.optional
  split <;> rfl

@[simp] lemma Symbol.boxed_optional (s : Symbol) : s.optional.boxed = s.boxed := by
  unfold Symbol.optional
  split <;> rfl

/-! ## Plain symbols -/

namespace PlainSymbols

variable {s : Settings} {shape : Shape} {symbol : Symbol}

/-- The symbol of a shape that holds nothing. -/
def own (s : Settings) (shape : Shape) : Except Fault Symbol := symbolWithin s 1 shape

lemma elementTarget_eq_ok {model : Model} {member : ShapeId} {next : Shape} :
    elementTarget model member = .ok next ↔
      ((model.get? member).bind fun member => member.target?.bind model.get?) = some next := by
  simp [elementTarget, bind_eq_ok, Model.expect_eq_ok, Model.memberTarget_eq_ok,
    Option.bind_eq_some_iff]

lemma symbolWithin_succ_of_not_isHolder (h : shape.isHolder = false) (fuel : Nat) :
    symbolWithin s (fuel + 1) shape = own s shape := by
  obtain ⟨id, traits, body⟩ := shape
  cases body <;> first | rfl | simp [Shape.isHolder, Shape.isMember,
    Shape.isCollection, Shape.kind] at h

lemma symbol_of_not_isHolder (h : shape.isHolder = false) :
    PlainSymbols.symbol s shape = own s shape := by
  rw [PlainSymbols.symbol]
  exact symbolWithin_succ_of_not_isHolder h s.model.size

lemma exists_own_eq_ok (s : Settings) (h : shape.isHolder = false) :
    ∃ symbol, own s shape = .ok symbol := by
  obtain ⟨id, traits, body⟩ := shape
  cases body <;> first | exact ⟨_, rfl⟩ | simp [Shape.isHolder, Shape.isMember,
    Shape.isCollection, Shape.kind] at h

/-- A symbol that keeps the core of another one, defines no other type, and is put into no box. -/
structure MadeOf (inner symbol : Symbol) : Prop where
  core : symbol.type.core = inner.type.core
  module : symbol.module = none ∨ symbol.module = inner.module
  boxed : symbol.boxed = true → inner.boxed = true

lemma MadeOf.refl (symbol : Symbol) : MadeOf symbol symbol := ⟨rfl, .inr rfl, id⟩

lemma MadeOf.trans {a b c : Symbol} (hab : MadeOf a b) (hbc : MadeOf b c) : MadeOf a c where
  core := hbc.core.trans hab.core
  module := by
    rcases hbc.module with h | h
    · exact .inl h
    · rw [h]
      exact hab.module
  boxed h := hab.boxed (hbc.boxed h)

lemma MadeOf.optional (symbol : Symbol) : MadeOf symbol symbol.optional where
  core := symbol.core_optional
  module := .inr symbol.module_optional
  boxed h := by rwa [symbol.boxed_optional] at h

/-- The symbol of what holds another shape is made of that shape's. -/
lemma exists_held (hholder : shape.isHolder = true) {fuel : Nat}
    (hsymbol : symbolWithin s (fuel + 1) shape = .ok symbol) :
    ∃ next inner, s.model.held? shape = some next ∧ symbolWithin s fuel next = .ok inner ∧
      MadeOf inner symbol := by
  obtain ⟨id, traits, body⟩ := shape
  cases body with
  | member container target =>
    simp only [symbolWithin, bind_eq_ok, pure_eq_ok, Fault.ofModel_eq_ok,
      Model.expect_eq_ok] at hsymbol
    obtain ⟨next, hnext, inner, hinner, rfl⟩ := hsymbol
    refine ⟨next, inner, hnext, hinner, ?_⟩
    split
    · exact .refl inner
    · exact .optional inner
  | list member =>
    simp only [symbolWithin, bind_eq_ok, pure_eq_ok, Fault.ofModel_eq_ok,
      elementTarget_eq_ok] at hsymbol
    obtain ⟨next, hnext, inner, hinner, rfl⟩ := hsymbol
    exact ⟨next, inner, hnext, hinner, rfl, .inl rfl, by simp⟩
  | map key value =>
    simp only [symbolWithin, bind_eq_ok, pure_eq_ok, Fault.ofModel_eq_ok,
      elementTarget_eq_ok] at hsymbol
    obtain ⟨next, hnext, inner, hinner, rfl⟩ := hsymbol
    exact ⟨next, inner, hnext, hinner, rfl, .inl rfl, by simp⟩
  | _ => simp [Shape.isHolder, Shape.isMember, Shape.isCollection, Shape.kind] at hholder

/-- A plain symbol is made of that of its origin. -/
theorem exists_origin {fuel : Nat} (hsymbol : symbolWithin s fuel shape = .ok symbol) :
    ∃ origin plain, s.model.TypedBy shape origin ∧ own s origin = .ok plain ∧
      MadeOf plain symbol := by
  -- on the fuel, which pays for one shape that holds another
  induction fuel generalizing shape symbol with
  | zero => simp [symbolWithin] at hsymbol
  | succ fuel ih =>
    cases hholder : shape.isHolder with
    | false =>
      rw [symbolWithin_succ_of_not_isHolder hholder] at hsymbol
      exact ⟨shape, symbol, .self hholder, hsymbol, .refl symbol⟩
    | true =>
      obtain ⟨next, inner, hheld, hinner, hmade⟩ := exists_held hholder hsymbol
      obtain ⟨origin, plain, htyped, hown, hplain⟩ := ih hinner
      exact ⟨origin, plain, .held hheld htyped, hown, hplain.trans hmade⟩

end PlainSymbols

end SdkForge
