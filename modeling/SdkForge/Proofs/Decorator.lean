import SdkForge.Decorator.Builtin
import SdkForge.Proofs.Model.Operations

/-!
# What the decorators that come along leave alone

Whatever a manifest selects, only decorators that come along act.

* `mem_builtin_of_select` says so, `exists_select` that known names can be selected, and
  `select_none` gives the decorators of a manifest that names none.
* `symbols_of_select` says that none of them changes a symbol, and `binds_protocols_of_select` that
  none changes how a protocol binds operations.
* `transform_induction` says how they change a model: `WellFormed.transform` that they leave it well
  formed, and `addsNoOperation_of_transform` that they add no operation.
-/

namespace SdkForge

open Outcome

namespace DecoratorSet

variable {d : DecoratorSet} {enabled : Option (List String)}

lemma ofList_eq_ok {decorators : List Decorator} (h : ofList decorators = .ok d) :
    d = ⟨decorators.mergeSort (·.order ≤ ·.order)⟩ := by
  unfold ofList at h
  split at h
  · contradiction
  · exact (Except.ok.inj h).symm

/-- Only decorators that come along are selected. -/
theorem mem_builtin_of_select (h : select enabled = .ok d) {decorator : Decorator}
    (hmem : decorator ∈ d.members) :
    decorator ∈ Decorator.builtin := by
  unfold select at h
  split at h
  · rw [ofList_eq_ok h] at hmem
    exact List.mem_mergeSort.1 hmem
  · split at h
    · contradiction
    · rw [ofList_eq_ok h] at hmem
      exact (List.mem_filter.1 (List.mem_mergeSort.1 hmem)).1

/-- What holds of the decorators that come along holds of those that are selected. -/
lemma forall_mem_of_select {P : Decorator → Prop} (h : select enabled = .ok d)
    (hconfig : P Decorator.sdkConfig) (hs3 : P Decorator.s3) :
    ∀ decorator ∈ d.members, P decorator := by
  intro decorator hmem
  have hbuiltin := mem_builtin_of_select h hmem
  simp only [Decorator.builtin, List.mem_cons, List.not_mem_nil, or_false] at hbuiltin
  rcases hbuiltin with rfl | rfl
  · exact hconfig
  · exact hs3

/-- All decorators that come along act in the order of their list. -/
lemma select_none : select none = .ok ⟨Decorator.builtin⟩ := by
  have hsorted : Decorator.builtin.Pairwise fun a b => decide (a.order ≤ b.order) = true := by
    decide
  show ofList Decorator.builtin = _
  unfold ofList
  rw [show duplicate? [] (Decorator.builtin.map (·.name)) = none by
    decide, List.mergeSort_of_pairwise hsorted]

/-- Whatever decorators of known names a manifest selects, there is a set of them. -/
lemma exists_select (hknown : ∀ names ∈ enabled, ∀ name ∈ names, name ∈ Decorator.builtinNames) :
    ∃ d, select enabled = .ok d := by
  cases enabled with
  | none => exact ⟨_, select_none⟩
  | some names =>
    have hfind : names.find? (!Decorator.builtinNames.contains ·) = none := by
      simpa using hknown names rfl
    have hnodup :
        duplicate? [] ((Decorator.builtin.filter fun d => names.contains d.name).map (·.name)) =
          none := by
      -- each of the two decorators is there or not
      cases hconfig : names.contains Decorator.sdkConfig.name <;> cases hs3 :
        names.contains Decorator.s3.name <;>
        simp only [Decorator.builtin, List.filter_cons, List.filter_nil, hconfig, hs3] <;> decide
    refine ⟨⟨(Decorator.builtin.filter fun d => names.contains d.name).mergeSort
      (·.order ≤ ·.order)⟩, ?_⟩
    rw [select, hfind]
    dsimp only
    rw [ofList, hnodup]

/-- No decorator that comes along changes a symbol. -/
theorem symbols_of_select (h : select enabled = .ok d) (p : Project) (chain : SymbolChain) :
    d.symbols p chain = chain := by
  have hkeep : ∀ decorator ∈ d.members, ∀ chain, decorator.symbols p chain = chain :=
    forall_mem_of_select h (fun _ => rfl) (fun _ => rfl)
  unfold symbols
  generalize d.members = members at hkeep
  induction members with
  | nil => rfl
  | cons first rest ih =>
    rw [List.foldl_cons, hkeep first List.mem_cons_self]
    exact ih fun decorator hmem => hkeep decorator (List.mem_cons_of_mem _ hmem)

end DecoratorSet

/-! ## Protocols -/

/-- Whether the protocol binds operations by their HTTP trait. -/
def WireProtocol.isRest : WireProtocol → Bool
  | .restJson1 | .restXml => true
  | .awsJson1_0 | .awsJson1_1 => false

/-- How the protocol binds operations. -/
def WireProtocol.binding (id : WireProtocol) (model : Model) (operation : Shape) :
    Except Fault Binding :=
  if id.isRest then Protocol.httpBinding operation else Protocol.targetBinding model operation

/-- Every protocol has a generator that binds operations in the protocol's way. -/
def Protocol.Binds (known : ProtocolMap) : Prop :=
  ∀ id, ∃ protocol, known.get? id = some protocol ∧ protocol.binding = id.binding

lemma Protocol.binds_standardMap : Binds standardMap := by
  intro id
  cases id <;> exact ⟨_, rfl, rfl⟩

/-- No decorator that comes along changes how a protocol binds operations. -/
theorem DecoratorSet.binds_protocols_of_select {d : DecoratorSet} {enabled : Option (List String)}
    (h : select enabled = .ok d) (service : ShapeId) {known : ProtocolMap}
    (hknown : Protocol.Binds known) : Protocol.Binds (d.protocols service known) := by
  have hs3 : ∀ known, Protocol.Binds known →
      Protocol.Binds (Decorator.s3.protocols service known) := by
    intro known hknown id
    simp only [Decorator.s3]
    split
    · rw [OrderedMap.get?_insert]
      split
      · next hid => exact ⟨_, rfl, hid ▸ rfl⟩
      · exact hknown id
    · exact hknown id
  have hkeep : ∀ decorator ∈ d.members, ∀ known, Protocol.Binds known →
      Protocol.Binds (decorator.protocols service known) :=
    forall_mem_of_select h (fun _ hknown => hknown) hs3
  unfold protocols
  generalize d.members = members at hkeep
  induction members generalizing known with
  | nil => exact hknown
  | cons first rest ih =>
    exact ih (hkeep first List.mem_cons_self known hknown) fun decorator hmem =>
      hkeep decorator (List.mem_cons_of_mem _ hmem)

/-! ## Models -/

/-- What holds of a model, and still does when structures may have another root, holds of what the
decorators make of it. -/
lemma DecoratorSet.transform_induction {P : Model → Prop} {d : DecoratorSet}
    {enabled : Option (List String)} (hselect : select enabled = .ok d) {service : ShapeId}
    {model model' : Model} (hmodel : P model)
    (hroot : ∀ model changed, P model → (model.toDraft.map Decorator.allowFreeRoot).build =
      .ok changed → P changed) (h : d.transform service model = .ok model') : P model' := by
  have hs3 : ∀ model changed, P model → Decorator.s3.transform service model = .ok changed →
      P changed := by
    intro model changed hmodel hchanged
    simp only [Decorator.s3] at hchanged
    split at hchanged
    · exact hroot model changed hmodel (Fault.ofModel_eq_ok.1 hchanged)
    · exact Except.ok.inj hchanged ▸ hmodel
  have hkeep : ∀ decorator ∈ d.members, ∀ model changed, P model →
      decorator.transform service model = .ok changed → P changed :=
    forall_mem_of_select hselect (fun _ _ hmodel hchanged => Except.ok.inj hchanged ▸ hmodel) hs3
  unfold transform at h
  generalize d.members = members at hkeep h
  induction members generalizing model with
  | nil => exact pure_eq_ok.1 h ▸ hmodel
  | cons first rest ih =>
    simp only [List.foldlM_cons, bind_eq_ok] at h
    obtain ⟨next, hfirst, hrest⟩ := h
    exact ih (hkeep first List.mem_cons_self model next hmodel hfirst)
      (fun decorator hmem => hkeep decorator (List.mem_cons_of_mem _ hmem)) hrest

namespace Model

variable {d : DecoratorSet} {enabled : Option (List String)} {service : ShapeId}
  {model model' : Model}

/-- The decorators that come along leave a model well formed. -/
theorem WellFormed.transform (hselect : DecoratorSet.select enabled = .ok d)
    (hmodel : model.WellFormed) (h : d.transform service model = .ok model') : model'.WellFormed :=
  DecoratorSet.transform_induction hselect hmodel (fun _ _ _ hchanged => wellFormed_of_map hchanged)
    h

lemma HasPrelude.transform (hselect : DecoratorSet.select enabled = .ok d)
    (hprelude : HasPrelude model.shapes) (h : d.transform service model = .ok model') :
    HasPrelude model'.shapes :=
  DecoratorSet.transform_induction (P := fun model => HasPrelude model.shapes) hselect hprelude
    (fun _ _ _ hchanged => hasPrelude_of_build hchanged) h

/-- The decorators that come along add no operation. -/
theorem addsNoOperation_of_transform (hselect : DecoratorSet.select enabled = .ok d)
    (hmodel : model.WellFormed) (h : d.transform service model = .ok model') :
    AddsNoOperation model model' := by
  have hid : ∀ shape, (Decorator.allowFreeRoot shape).id = shape.id := by
    intro shape
    unfold Decorator.allowFreeRoot
    split <;> rfl
  have hkind : ∀ shape, (Decorator.allowFreeRoot shape).isOperation = shape.isOperation := by
    intro shape
    unfold Decorator.allowFreeRoot
    split <;> rfl
  have hroot : ∀ between changed : Model, between.WellFormed ∧ AddsNoOperation model between →
      (between.toDraft.map Decorator.allowFreeRoot).build = .ok changed → changed.WellFormed ∧
      AddsNoOperation model changed := by
    rintro between changed ⟨hbetween, hadds⟩ hchanged
    exact ⟨wellFormed_of_map hchanged,
      hadds.trans (addsNoOperation_of_map hbetween hid hkind hchanged)⟩
  exact (DecoratorSet.transform_induction hselect ⟨hmodel, .refl model⟩ hroot h).2

end Model

end SdkForge
