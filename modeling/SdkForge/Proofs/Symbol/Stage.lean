import SdkForge.Proofs.Symbol.Origin
import SdkForge.Symbol.Stage

/-!
# What single stages make of a symbol

The stages after the plain one change symbols in few ways: they put types of the runtime at the core
of some, box some, and take instances away.

* `StreamsInEnvelope` says which members are streams, and `isEnvelopeStream_eq_ok_true_iff` that the
  stage asks for these.
* `core_wrap`, `core_boxRecursive` and `type_dropEquality` say what each of them does to the core of
  a type.
* `kind_of_wrapperWithin` says that only blobs and points in time are wrapped.
* `escapeReserved_eq_self` says that a type whose name is not reserved keeps its name.
-/

namespace SdkForge

open Outcome

/-! ## Streams -/

namespace Model

variable {model : Model} {shape : Shape}

/-- A member of an envelope that is marked as a stream, or whose target is. -/
def StreamsInEnvelope (model : Model) (shape : Shape) : Prop :=
  ∃ container target envelope, shape.body = .member container target ∧
    (shape.traits.streaming = true ∨ ∃ held, model.get? target = some held ∧
      held.traits.streaming = true) ∧
    model.get? container = some envelope ∧ envelope.traits.isSynthetic = true

lemma isStreaming_iff {container target : ShapeId} (hbody : shape.body = .member container target) :
    model.isStreaming shape = true ↔
      shape.traits.streaming = true ∨ ∃ held, model.get? target = some held ∧
        held.traits.streaming = true := by
  have htarget : shape.target? = some target := by
    rw [Shape.target?, hbody]
  rw [isStreaming, htarget, Option.bind_some, Bool.or_eq_true]
  cases model.get? target <;> simp

/-- The stage asks for such a member. -/
lemma isEnvelopeStream_eq_ok_true_iff :
    SymbolStage.isEnvelopeStream model shape = .ok true ↔ model.StreamsInEnvelope shape := by
  constructor
  · intro h
    unfold SymbolStage.isEnvelopeStream at h
    obtain ⟨id, traits, body⟩ := shape
    cases body with
    | member container target =>
      dsimp only [Shape.container?] at h
      split at h
      · next hstreaming =>
        simp only [bind_eq_ok, pure_eq_ok, Model.expect_eq_ok] at h
        obtain ⟨envelope, henvelope, hsynthetic⟩ := h
        exact ⟨container, target, envelope, rfl, (isStreaming_iff rfl).1 hstreaming,
          henvelope, hsynthetic⟩
      · simp [pure_eq_ok] at h
    | _ => simp [Shape.container?, pure_eq_ok] at h
  · rintro ⟨container, target, envelope, hbody, hstreaming, henvelope, hsynthetic⟩
    have hcontainer : shape.container? = some container := by
      rw [Shape.container?, hbody]
    unfold SymbolStage.isEnvelopeStream
    rw [hcontainer]
    dsimp only
    rw [if_pos ((isStreaming_iff hbody).2 hstreaming)]
    exact bind_eq_ok.2 ⟨envelope, Model.expect_eq_ok.2 henvelope, congrArg Except.ok hsynthetic⟩

lemma StreamsInEnvelope.isMember (h : model.StreamsInEnvelope shape) : shape.isMember = true := by
  obtain ⟨container, target, _, hbody, _⟩ := h
  rw [Shape.isMember, Shape.kind, hbody]
  rfl

lemma StreamsInEnvelope.isStreaming (h : model.StreamsInEnvelope shape) :
    model.isStreaming shape = true := by
  obtain ⟨container, target, _, hbody, hstreaming, _⟩ := h
  exact (isStreaming_iff hbody).2 hstreaming

end Model

namespace SymbolStage

variable {model : Model} {crate : String} {shape : Shape} {symbol : Symbol}

@[simp] lemma core_replaceCore (replacement type : TypeExpr) :
    (replaceCore replacement type).core = replacement.core := by
  induction type <;> simp_all [replaceCore, TypeExpr.core]

@[simp] lemma module_wrap : (wrap model crate shape symbol).module = symbol.module := by
  unfold wrap
  split <;> rfl

@[simp] lemma boxed_wrap : (wrap model crate shape symbol).boxed = symbol.boxed := by
  unfold wrap
  split <;> rfl

/-- A wrapped symbol keeps its core, or has one of the server's types at its core. -/
lemma core_wrap (model : Model) (crate : String) (shape : Shape) (symbol : Symbol) :
    (wrap model crate shape symbol).type.core = symbol.type.core ∨
      ∃ name, wrapper? model shape = some name ∧
        (wrap model crate shape symbol).type.core = (name, some (serverTypes crate)) := by
  unfold wrap
  split
  · next name hname =>
    refine .inr ⟨name, ?_, core_replaceCore _ _⟩
    split_ifs at hname
    exact hname
  · exact .inl rfl

lemma wrap_eq_self (h : wrapper? model shape = none) : wrap model crate shape symbol = symbol := by
  simp [wrap, h]

@[simp] lemma core_boxed (type : TypeExpr) : type.boxed.core = type.core := by
  cases type <;> rfl

@[simp] lemma core_boxRecursive :
    (boxRecursive model shape symbol).type.core = symbol.type.core := by
  simp only [boxRecursive, Symbol.box]
  split_ifs <;> simp

@[simp] lemma module_boxRecursive : (boxRecursive model shape symbol).module = symbol.module := by
  simp only [boxRecursive, Symbol.box]
  split_ifs <;> rfl

lemma boxRecursive_eq_self (h : shape.isMember = false) :
    boxRecursive model shape symbol = symbol := by
  obtain ⟨id, traits, body⟩ := shape
  cases body <;> simp_all [boxRecursive, isRecursive, Shape.isMember, Shape.kind]

@[simp] lemma type_dropEquality : (dropEquality model shape symbol).type = symbol.type := by
  unfold dropEquality
  split <;> rfl

@[simp] lemma module_dropEquality : (dropEquality model shape symbol).module = symbol.module := by
  unfold dropEquality
  split <;> rfl

/-- Equality stays where there is no streaming member. -/
lemma partialEq_mem_dropEquality :
    Instance.partialEq ∈ (dropEquality model shape symbol).derives ↔
      Instance.partialEq ∈ symbol.derives ∧
      ¬(shape.isAggregate = true ∧ model.hasStreamingMember shape = true) := by
  unfold dropEquality
  split_ifs with h
  · simpa using fun _ => by simpa using h
  · simpa using fun _ => by simpa using h

lemma escapeReserved_eq_self
    (h : symbol.module = none ∨ Naming.isReservedType symbol.name = false) :
    escapeReserved symbol = symbol := by
  rcases h with h | h <;> simp [escapeReserved, Symbol.isGenerated, h]

/-! ## Types of the server's crate -/

lemma wrapperWithin_eq_none (hholder : shape.isHolder = false) (hblob : shape.kind ≠ .blob)
    (htime : shape.kind ≠ .timestamp) (fuel : Nat) : wrapperWithin model fuel shape = none := by
  obtain ⟨id, traits, body⟩ := shape
  cases fuel <;> cases body <;>
    simp_all [wrapperWithin, Shape.isHolder, Shape.isMember, Shape.isCollection, Shape.kind]

/-- There are two types of the server's crate for others to be wrapped in. -/
lemma eq_of_wrapperWithin {fuel : Nat} {name : String}
    (h : wrapperWithin model fuel shape = some name) :
    name = "Blob" ∨ name = "DateTime" := by
  induction fuel generalizing shape with
  | zero => simp [wrapperWithin] at h
  | succ fuel ih =>
    obtain ⟨id, traits, body⟩ := shape
    cases body with
    | blob =>
      simp only [wrapperWithin, Option.ite_none_left_eq_some, Option.some.injEq] at h
      exact .inl h.2.symm
    | timestamp =>
      simp only [wrapperWithin, Option.some.injEq] at h
      exact .inr h.symm
    | member | list | map =>
      simp only [wrapperWithin, Option.bind_eq_some_iff] at h
      obtain ⟨next, _, h⟩ := h
      exact ih h
    | _ => simp [wrapperWithin] at h

/-- What is wrapped has the type of a blob or of a point in time. -/
lemma kind_of_wrapperWithin {fuel : Nat} {name : String} {origin : Shape}
    (h : wrapperWithin model fuel shape = some name) (htyped : model.TypedBy shape origin) :
    origin.kind = .blob ∨ origin.kind = .timestamp := by
  induction fuel generalizing shape with
  | zero => simp [wrapperWithin] at h
  | succ fuel ih =>
    cases htyped with
    | self hself =>
      by_contra! hkind
      rw [wrapperWithin_eq_none hself hkind.1 hkind.2] at h
      contradiction
    | @held _ next _ hheld hrest =>
      obtain ⟨id, traits, body⟩ := shape
      cases body with
      | member container target =>
        obtain ⟨found, hfound, hwrapper⟩ := Option.bind_eq_some_iff.1 h
        obtain rfl := Option.some.inj (hheld.symm.trans hfound)
        exact ih hwrapper hrest
      | list member | map _ member =>
        -- the type goes from a collection to what it holds at once, and the wrapper by way of the
        -- collection's member
        obtain ⟨found, hfound, hwrapper⟩ := Option.bind_eq_some_iff.1 h
        have htarget : found.target?.bind model.get? = some next := by
          simpa [Model.held?, hfound] using hheld
        refine ih hwrapper (.held ?_ hrest)
        obtain ⟨id, traits, body⟩ := found
        cases body <;> simp_all [Shape.target?, Model.held?]
      | _ => simp [Model.held?] at hheld

end SymbolStage

end SdkForge
