import Mathlib.Data.Fintype.Card
import Mathlib.Data.Set.Finite.Basic
import SdkForge.Proofs.Symbol.Wrapping

/-!
# Following what shapes hold comes to an end

The plain symbol of a shape and the server's type for it are found by following what shapes hold.
Members, lists and maps may not lead in a circle; structures and unions may, since nothing is
followed from them.

* `ShapeCall` is what a recursion over shapes does in one call. `ShapeCall.EndsWith` says that the
  recursion ends, with no bound on its calls, and `ShapeCall.within` bounds them.
* `Model.exists_endsIn` says that what is held leads to a last shape, and
  `ShapeCall.Descends.endsWith_within` that calls which go that way end.
* `PlainSymbols.symbolWithin_eq_within` and `SymbolStage.wrapperWithin_eq_within` say that both
  recursions are of that kind.
* `symbols_end` puts this together: the bound on the calls is never met, and every shape has a
  symbol.
-/

namespace SdkForge

open Outcome

/-! ## Recursions over shapes -/

/-- What one call for a shape does: it gives a result, or makes a call for another shape and
finishes with what that gives. -/
inductive ShapeCall (α : Type) where
  | done (result : α)
  | enter (next : Shape) (finish : α → α)

namespace ShapeCall

/-- The call for a shape ends with a result, however many calls are made for it one inside the
other. -/
inductive EndsWith {α : Type} (call : Shape → ShapeCall α) : Shape → α → Prop where
  | done {shape result} (hdone : call shape = .done result) : EndsWith call shape result
  | enter {shape next finish result} (henter : call shape = .enter next finish)
      (hnext : EndsWith call next result) :
      EndsWith call shape (finish result)

variable {α : Type} {call : Shape → ShapeCall α} {shape : Shape} {result : α}

/-- The result of a call, where `inner` gives the results of the calls that it makes. -/
def run (inner : Shape → α) : ShapeCall α → α
  | .done result => result
  | .enter next finish => finish (inner next)

/-- The result of the call for a shape, where `fuel` calls can be made one inside the other. -/
def within (call : Shape → ShapeCall α) (stuck : Shape → α) : Nat → Shape → α
  | 0, shape => stuck shape
  | fuel + 1, shape => (call shape).run (within call stuck fuel)

/-- A call ends with one result. -/
theorem EndsWith.unique (h : EndsWith call shape result) {other : α}
    (hother : EndsWith call shape other) : other = result := by
  induction h generalizing other with
  | done hdone =>
    cases hother with
    | done hdone' =>
      rw [hdone] at hdone'
      exact (ShapeCall.done.inj hdone').symm
    | enter henter =>
      rw [hdone] at henter
      contradiction
  | enter henter _ ih =>
    cases hother with
    | done hdone =>
      rw [henter] at hdone
      contradiction
    | enter henter' hnext =>
      rw [henter] at henter'
      obtain ⟨rfl, rfl⟩ := ShapeCall.enter.inj henter'
      rw [ih hnext]

lemma EndsWith.iff_eq (h : EndsWith call shape result) (other : α) :
    EndsWith call shape other ↔ other = result := by
  constructor
  · exact h.unique
  · rintro rfl
    exact h

/-- Calls go on to what a shape holds, be it by more than one step, and not beyond the model. -/
structure Descends (model : Model) (call : Shape → ShapeCall α) : Prop where
  enter : ∀ {shape next finish last n}, call shape = .enter next finish →
    model.EndsAfter n shape last →
    ∃ m < n, model.EndsAfter m next last
  stop : ∀ {shape id}, shape.holds? = some id → model.get? id = none →
    ∃ result, call shape = .done result

variable {model : Model}

/-- Where what is held leads to an end, the call ends as well, and before the fuel is used up. -/
lemma Descends.endsWith_of_endsAfter (h : Descends model call) (stuck : Shape → α) {n fuel : Nat}
    {last : Shape} (hends : model.EndsAfter n shape last) (hfuel : n < fuel) :
    EndsWith call shape (within call stuck fuel shape) := by
  -- on the length of the way, of which each call leaves less
  induction n using Nat.strong_induction_on generalizing shape fuel with
  | _ n ih =>
    obtain ⟨rest, rfl⟩ : ∃ rest, fuel = rest + 1 := ⟨fuel - 1, by omega⟩
    rw [within]
    cases hcall : call shape with
    | done result => exact .done hcall
    | enter next finish =>
      obtain ⟨m, hm, hrest⟩ := h.enter hcall hends
      exact .enter hcall (ih m hm hrest (by omega))

end ShapeCall

/-! ## What is held leads to an end -/

lemma Shape.mem_references_of_holds? {shape : Shape} {id : ShapeId} (h : shape.holds? = some id) :
    id ∈ shape.references := by
  obtain ⟨key, traits, body⟩ := shape
  cases body <;> simp_all [Shape.holds?, Shape.references]

namespace Model

/-- What the shapes of the model refer to is in the model, as `WellFormed.reference` says of every
model that is built. -/
def Closed (model : Model) : Prop :=
  ∀ id shape, model.get? id = some shape → ∀ target ∈ shape.references, (model.get? target).isSome

/-- A shape of the model holds another one: a member its target, a list its member, and a map the
member of its values. -/
def Holds (model : Model) (a b : ShapeId) : Prop :=
  ∃ shape, model.get? a = some shape ∧ shape.holds? = some b

/-- What a shape holds does not lead back to it. -/
def Acyclic (model : Model) : Prop := ∀ id, ¬Relation.TransGen model.Holds id id

/-- What lists and maps hold are members. -/
def HoldsMembers (model : Model) : Prop :=
  ∀ id shape, model.get? id = some shape → shape.isCollection = true →
    ∀ held ∈ shape.holds?, ∃ member ∈ model.get? held, member.isMember = true

variable {model : Model} {shape next last : Shape}

lemma Closed.exists_holds (hclosed : model.Closed) {id held : ShapeId}
    (hget : model.get? id = some shape) (hholds : shape.holds? = some held) :
    ∃ next, model.get? held = some next :=
  Option.isSome_iff_exists.1 (hclosed id shape hget held (Shape.mem_references_of_holds? hholds))

/-- Shapes that can be given numbers which fall from each to what it holds do not hold each other in
a circle. -/
lemma acyclic_of_rank (rank : ShapeId → Nat)
    (hrank : ∀ entry ∈ model.shapes.entries, ∀ held ∈ entry.2.holds?, rank held < rank entry.1) :
    model.Acyclic := by
  have hstep : ∀ {a b}, model.Holds a b → rank b < rank a := by
    rintro a b ⟨shape, hget, hholds⟩
    exact hrank (a, shape) (OrderedMap.get?_eq_some_iff.1 hget) b hholds
  have hpath : ∀ {a b}, Relation.TransGen model.Holds a b → rank b < rank a := by
    intro a b hpath
    induction hpath with
    | single h => exact hstep h
    | tail _ h ih => exact (hstep h).trans ih
  exact fun id hcircle => (hpath hcircle).false

/-- Without a circle, what is held can be followed by induction. -/
lemma Acyclic.wellFounded (hacyclic : model.Acyclic) :
    WellFounded fun a b : { id // id ∈ model.shapes.keys } =>
      Relation.TransGen model.Holds b.1 a.1 := by
  have : Finite { id // id ∈ model.shapes.keys } := (List.finite_toSet model.shapes.keys).to_subtype
  have :
      IsTrans { id // id ∈ model.shapes.keys } fun a b => Relation.TransGen model.Holds b.1 a.1 :=
    ⟨fun _ _ _ hab hbc => hbc.trans hab⟩
  have : Std.Irrefl fun a b : { id // id ∈ model.shapes.keys } =>
      Relation.TransGen model.Holds b.1 a.1 :=
    ⟨fun id => hacyclic id.1⟩
  exact Finite.wellFounded_of_trans_of_irrefl _

/-- In a closed model without a circle, what is held leads from every shape to one that holds
nothing. -/
theorem exists_endsIn (hclosed : model.Closed) (hacyclic : model.Acyclic) {id : ShapeId}
    (hget : model.get? id = some shape) :
    ∃ last, model.EndsIn shape last := by
  have hfollow : ∀ key : { id // id ∈ model.shapes.keys }, ∀ shape, model.get? key.1 = some shape →
      ∃ last, model.EndsIn shape last := by
    intro key
    induction key using hacyclic.wellFounded.induction with
    | _ key ih =>
      intro shape hget
      cases hholds : shape.holds? with
      | none => exact ⟨shape, 0, .here (Shape.holds?_eq_none_iff.1 hholds)⟩
      | some held =>
        obtain ⟨next, hnext⟩ := hclosed.exists_holds hget hholds
        obtain ⟨last, n, hends⟩ :=
          ih ⟨held, OrderedMap.mem_keys.2 ⟨next, hnext⟩⟩ (.single ⟨shape, hget, hholds⟩) next hnext
        exact ⟨last, n + 1, .next hholds hnext hends⟩
  exact hfollow ⟨id, OrderedMap.mem_keys.2 ⟨shape, hget⟩⟩ shape hget

/-- What the type is taken from is further on the way. -/
lemma EndsAfter.of_held? {n : Nat} (h : model.EndsAfter n shape last)
    (hheld : model.held? shape = some next) :
    ∃ m < n, model.EndsAfter m next last := by
  cases h with
  | here hself =>
    rw [held?_eq_none hself] at hheld
    contradiction
  | @next n _ id found _ hholds hget hrest =>
    obtain ⟨key, traits, body⟩ := shape
    cases body with
    | member container target =>
      obtain rfl := Option.some.inj hholds
      obtain rfl := Option.some.inj (hget.symm.trans hheld)
      exact ⟨n, Nat.lt_succ_self n, hrest⟩
    | list member | map _ member =>
      obtain rfl := Option.some.inj hholds
      simp only [held?, hget, Option.bind_some, Option.bind_eq_some_iff] at hheld
      obtain ⟨target, htarget, hnext⟩ := hheld
      obtain ⟨container, hbody⟩ := body_eq_of_target? htarget
      -- the collection's member holds another shape, and the way goes on to it
      cases hrest with
      | here hself => simp [Shape.isHolder, Shape.isMember, Shape.kind, hbody] at hself
      | @next m _ _ _ _ hholds' hget' hrest =>
        rw [Shape.holds?, hbody] at hholds'
        obtain rfl := Option.some.inj hholds'
        obtain rfl := Option.some.inj (hget'.symm.trans hnext)
        exact ⟨m, by omega, hrest⟩
    | _ => simp [held?] at hheld

lemma held?_eq_none_of_holds? {held : ShapeId} (hholds : shape.holds? = some held)
    (hget : model.get? held = none) :
    model.held? shape = none := by
  obtain ⟨key, traits, body⟩ := shape
  cases body with
  | member | list | map =>
    obtain rfl := Option.some.inj hholds
    simp [held?, hget]
  | _ => rfl

lemma exists_get?_of_held? (hheld : model.held? shape = some next) :
    ∃ id, model.get? id = some next := by
  obtain ⟨key, traits, body⟩ := shape
  cases body with
  | member container target => exact ⟨target, hheld⟩
  | list member | map _ member =>
    obtain ⟨found, _, hnext⟩ := Option.bind_eq_some_iff.1 hheld
    obtain ⟨target, _, hnext⟩ := Option.bind_eq_some_iff.1 hnext
    exact ⟨target, hnext⟩
  | _ => simp [held?] at hheld

/-- In a closed model whose collections hold members, there is a shape to take the type from. -/
lemma HoldsMembers.exists_held? (hmembers : model.HoldsMembers) (hclosed : model.Closed)
    {id : ShapeId} (hget : model.get? id = some shape) (hholder : shape.isHolder = true) :
    ∃ next, model.held? shape = some next := by
  obtain ⟨key, traits, body⟩ := shape
  cases body with
  | member container target => exact hclosed.exists_holds hget rfl
  | list member | map _ member =>
    obtain ⟨found, hfound, hmember⟩ := hmembers id _ hget rfl member rfl
    obtain ⟨target, htarget⟩ := Shape.isMember_iff.1 hmember
    obtain ⟨container, hbody⟩ := body_eq_of_target? htarget
    have hholds : found.holds? = some target := by rw [Shape.holds?, hbody]
    obtain ⟨next, hnext⟩ := hclosed.exists_holds hfound hholds
    exact ⟨next, by simp [held?, Option.mem_def.1 hfound, htarget, hnext]⟩
  | _ => simp [Shape.isHolder, Shape.isMember, Shape.isCollection, Shape.kind] at hholder

end Model

namespace ShapeCall

variable {α : Type} {call : Shape → ShapeCall α} {model : Model}

/-- In a closed model without a circle, calls that go on to what is held end for every shape, of the
model or not, and there is no use for more of them than the model has shapes. -/
theorem Descends.endsWith_within (h : Descends model call) (hclosed : model.Closed)
    (hacyclic : model.Acyclic) (stuck : Shape → α) (shape : Shape) {fuel : Nat}
    (hfuel : model.size < fuel) :
    EndsWith call shape (within call stuck fuel shape) := by
  have hends : ∀ {last}, model.EndsIn shape last →
      EndsWith call shape (within call stuck fuel shape) := by
    rintro last ⟨n, hends⟩
    exact h.endsWith_of_endsAfter stuck hends (Nat.lt_of_le_of_lt hends.le_size hfuel)
  cases hholds : shape.holds? with
  | none => exact hends ⟨0, .here (Shape.holds?_eq_none_iff.1 hholds)⟩
  | some id =>
    cases hget : model.get? id with
    | some next =>
      obtain ⟨last, n, hrest⟩ := Model.exists_endsIn hclosed hacyclic hget
      exact hends ⟨n + 1, .next hholds hget hrest⟩
    | none =>
      obtain ⟨result, hdone⟩ := h.stop hholds hget
      obtain ⟨rest, rfl⟩ : ∃ rest, fuel = rest + 1 := ⟨fuel - 1, by omega⟩
      rw [within, hdone]
      exact .done hdone

end ShapeCall

/-! ## The server's types -/

namespace SymbolStage

variable {model : Model}

/-- What the stage for the server's types does for a shape. -/
def wrapperCall (model : Model) (shape : Shape) : ShapeCall (Option String) :=
  match shape.holds? with
  | none => .done shape.serverType?
  | some held => (model.get? held).elim (.done none) fun next => .enter next fun found => found

/-- The stage is the recursion of such calls. -/
theorem wrapperWithin_eq_within (fuel : Nat) (shape : Shape) :
    wrapperWithin model fuel shape = ShapeCall.within (wrapperCall model) (fun _ => none) fuel
      shape := by
  induction fuel generalizing shape with
  | zero => rfl
  | succ fuel ih =>
    rw [wrapperWithin_succ, ShapeCall.within, ← funext ih, wrapperCall]
    cases shape.holds? with
    | none => rfl
    | some held => cases hget : model.get? held <;> simp [hget, ShapeCall.run]

lemma descends_wrapperCall : ShapeCall.Descends model (wrapperCall model) where
  enter {shape next finish last n} hcall hends := by
    cases hends with
    | here hself => simp [wrapperCall, Shape.holds?_eq_none_iff.2 hself] at hcall
    | @next n _ held found _ hholds hget hrest =>
      simp only [wrapperCall, hholds, hget, Option.elim_some] at hcall
      obtain ⟨rfl, _⟩ := ShapeCall.enter.inj hcall
      exact ⟨n, Nat.lt_succ_self n, hrest⟩
  stop {shape held} hholds hget := by
    rw [wrapperCall, hholds]
    exact ⟨none, by simp [hget]⟩

lemma endsWith_wrapperWithin (hclosed : model.Closed) (hacyclic : model.Acyclic) (shape : Shape)
    {fuel : Nat} (hfuel : model.size < fuel) :
    ShapeCall.EndsWith (wrapperCall model) shape (wrapperWithin model fuel shape) := by
  rw [wrapperWithin_eq_within]
  exact descends_wrapperCall.endsWith_within hclosed hacyclic _ shape hfuel

end SymbolStage

/-! ## Plain symbols -/

namespace PlainSymbols

variable {s : Settings} {shape next : Shape}

/-- What is done where a shape holds another one: the symbol is made of the other's, if that is
found. -/
def callFor (found : Except Fault Shape) (around : Symbol → Symbol) :
    ShapeCall (Except Fault Symbol) :=
  match found with
  | .ok next => .enter next (·.map around)
  | .error fault => .done (.error fault)

/-- What the first stage does for a shape. -/
def symbolCall (s : Settings) (shape : Shape) : ShapeCall (Except Fault Symbol) :=
  match shape.body with
  | .member _ target =>
    callFor (Fault.ofModel (s.model.expect target)) fun symbol =>
      if shape.traits.required then symbol else symbol.optional
  | .list member =>
    callFor (Fault.ofModel (elementTarget s.model member)) fun inner => { type := .list inner.type }
  | .map _ value =>
    callFor (Fault.ofModel (elementTarget s.model value)) fun inner =>
      { type := .map (.named "String") inner.type }
  | _ => .done (own s shape)

lemma run_callFor (found : Except Fault Shape) (around : Symbol → Symbol)
    (symbolOf : Shape → Except Fault Symbol) :
    (callFor found around).run symbolOf = do
      let inner ← symbolOf (← found)
      return around inner := by
  cases found with
  | error fault => rfl
  | ok next => rfl

/-- The stage is the recursion of such calls. -/
theorem symbolWithin_eq_within (fuel : Nat) (shape : Shape) :
    symbolWithin s fuel shape = ShapeCall.within (symbolCall s) (fun shape =>
      .error (.endlessType shape.id)) fuel shape := by
  induction fuel generalizing shape with
  | zero => rfl
  | succ fuel ih =>
    obtain ⟨id, traits, body⟩ := shape
    rw [ShapeCall.within, ← funext ih]
    cases body with
    | member | list | map => exact (run_callFor _ _ (symbolWithin s fuel)).symm
    | _ => rfl

lemma callFor_eq_enter {found : Except Fault Shape} {around : Symbol → Symbol}
    {finish : Except Fault Symbol → Except Fault Symbol}
    (h : callFor found around = .enter next finish) :
    found = .ok next ∧ finish = Except.map around := by
  cases found with
  | error fault => contradiction
  | ok shape =>
    obtain ⟨rfl, rfl⟩ := ShapeCall.enter.inj h
    exact ⟨rfl, rfl⟩

lemma callFor_eq_done {found : Except ModelError Shape} {around : Symbol → Symbol}
    {result : Except Fault Symbol} (h : callFor (Fault.ofModel found) around = .done result) :
    ∃ fault, found = .error fault ∧ result = .error (.model fault) := by
  cases found with
  | ok shape => contradiction
  | error fault => exact ⟨fault, rfl, (ShapeCall.done.inj h).symm⟩

/-- A call is made for the shape that the type is taken from. -/
lemma symbolCall_eq_enter {finish : Except Fault Symbol → Except Fault Symbol}
    (h : symbolCall s shape = .enter next finish) :
    s.model.held? shape = some next ∧ ∃ around, finish = Except.map around := by
  obtain ⟨id, traits, body⟩ := shape
  cases body with
  | member container target =>
    obtain ⟨hfound, hfinish⟩ := callFor_eq_enter h
    exact ⟨Model.expect_eq_ok.1 (Fault.ofModel_eq_ok.1 hfound), _, hfinish⟩
  | list member | map _ member =>
    obtain ⟨hfound, hfinish⟩ := callFor_eq_enter h
    exact ⟨elementTarget_eq_ok.1 (Fault.ofModel_eq_ok.1 hfound), _, hfinish⟩
  | _ => contradiction

/-- Without a call, the shape has a symbol of its own, or the model does not have what it holds. -/
lemma symbolCall_eq_done {result : Except Fault Symbol} (h : symbolCall s shape = .done result) :
    (shape.isHolder = false ∧ result = own s shape) ∨
      (shape.isHolder = true ∧ s.model.held? shape = none ∧
        ∃ fault, result = .error (.model fault)) := by
  obtain ⟨id, traits, body⟩ := shape
  cases body with
  | member container target =>
    obtain ⟨fault, hfound, hresult⟩ := callFor_eq_done h
    refine .inr ⟨rfl, Option.eq_none_iff_forall_ne_some.2 fun next hnext => ?_, fault, hresult⟩
    simp [Model.expect_eq_ok.2 hnext] at hfound
  | list member | map _ member =>
    obtain ⟨fault, hfound, hresult⟩ := callFor_eq_done h
    refine .inr ⟨rfl, Option.eq_none_iff_forall_ne_some.2 fun next hnext => ?_, fault, hresult⟩
    simp [elementTarget_eq_ok.2 hnext] at hfound
  | _ => exact .inl ⟨rfl, (ShapeCall.done.inj h).symm⟩

lemma descends_symbolCall : ShapeCall.Descends s.model (symbolCall s) where
  enter hcall hends := hends.of_held? (symbolCall_eq_enter hcall).1
  stop {shape held} hholds hget := by
    cases hcall : symbolCall s shape with
    | done result => exact ⟨result, rfl⟩
    | enter next finish =>
      have hheld := (symbolCall_eq_enter hcall).1
      rw [Model.held?_eq_none_of_holds? hholds hget] at hheld
      contradiction

lemma endsWith_symbolWithin (hclosed : s.model.Closed) (hacyclic : s.model.Acyclic) (shape : Shape)
    {fuel : Nat} (hfuel : s.model.size < fuel) :
    ShapeCall.EndsWith (symbolCall s) shape (symbolWithin s fuel shape) := by
  rw [symbolWithin_eq_within]
  exact descends_symbolCall.endsWith_within hclosed hacyclic _ shape hfuel

/-- A recursion that ends does not give up. -/
lemma ne_endlessType_of_endsWith {result : Except Fault Symbol}
    (h : ShapeCall.EndsWith (symbolCall s) shape result) (id : ShapeId) :
    result ≠ .error (.endlessType id) := by
  induction h with
  | done hdone =>
    rcases symbolCall_eq_done hdone with ⟨hself, rfl⟩ | ⟨_, _, fault, rfl⟩
    · obtain ⟨symbol, hsymbol⟩ := exists_own_eq_ok s hself
      simp [hsymbol]
    · simp
  | @enter _ _ _ result henter _ ih =>
    obtain ⟨_, around, rfl⟩ := symbolCall_eq_enter henter
    cases result <;> simp_all [Except.map]

/-- In a closed model whose collections hold members, a recursion that ends gives a symbol. -/
lemma exists_ok_of_endsWith (hclosed : s.model.Closed) (hmembers : s.model.HoldsMembers)
    {result : Except Fault Symbol} (h : ShapeCall.EndsWith (symbolCall s) shape result)
    {id : ShapeId} (hget : s.model.get? id = some shape) :
    ∃ symbol, result = .ok symbol := by
  induction h generalizing id with
  | @done shape _ hdone =>
    rcases symbolCall_eq_done hdone with ⟨hself, rfl⟩ | ⟨hholder, hheld, _⟩
    · exact exists_own_eq_ok s hself
    · obtain ⟨next, hnext⟩ := hmembers.exists_held? hclosed hget hholder
      rw [hheld] at hnext
      contradiction
  | enter henter _ ih =>
    obtain ⟨hheld, around, rfl⟩ := symbolCall_eq_enter henter
    obtain ⟨key, hnext⟩ := Model.exists_get?_of_held? hheld
    obtain ⟨inner, rfl⟩ := ih hnext
    exact ⟨around inner, rfl⟩

end PlainSymbols

/-! ## Symbols and the server's types -/

/-- In a closed model where members, lists and maps do not hold each other in a circle, the plain
symbol of every shape and the server's type for it are found by a recursion that ends. It ends with
what the bounded recursion gives, whose bound is never met; and where collections hold members,
every shape of the model has a symbol. -/
theorem symbols_end {s : PlainSymbols.Settings} (hclosed : s.model.Closed)
    (hacyclic : s.model.Acyclic) (shape : Shape) :
    (∀ result, ShapeCall.EndsWith (PlainSymbols.symbolCall s) shape result ↔
      result = PlainSymbols.symbol s shape) ∧
    (∀ result, ShapeCall.EndsWith (SymbolStage.wrapperCall s.model) shape result ↔
      result = SymbolStage.wrapper? s.model shape) ∧
    (∀ fuel, s.model.size < fuel →
      PlainSymbols.symbolWithin s fuel shape = PlainSymbols.symbol s shape ∧
      SymbolStage.wrapperWithin s.model fuel shape = SymbolStage.wrapper? s.model shape) ∧
    (∀ id, PlainSymbols.symbol s shape ≠ .error (.endlessType id)) ∧
    (s.model.HoldsMembers → ∀ id, s.model.get? id = some shape →
      ∃ symbol, PlainSymbols.symbol s shape = .ok symbol) := by
  have hsymbol :
      ShapeCall.EndsWith (PlainSymbols.symbolCall s) shape (PlainSymbols.symbol s shape) :=
    PlainSymbols.endsWith_symbolWithin hclosed hacyclic shape (Nat.lt_succ_self _)
  have hwrapper :
      ShapeCall.EndsWith (SymbolStage.wrapperCall s.model) shape
        (SymbolStage.wrapper? s.model shape) :=
    SymbolStage.endsWith_wrapperWithin hclosed hacyclic shape (Nat.lt_succ_self _)
  refine ⟨hsymbol.iff_eq, hwrapper.iff_eq, ?_, PlainSymbols.ne_endlessType_of_endsWith hsymbol, ?_⟩
  · intro fuel hfuel
    exact ⟨hsymbol.unique (PlainSymbols.endsWith_symbolWithin hclosed hacyclic shape hfuel),
      hwrapper.unique (SymbolStage.endsWith_wrapperWithin hclosed hacyclic shape hfuel)⟩
  · intro hmembers id hget
    exact PlainSymbols.exists_ok_of_endsWith hclosed hmembers hsymbol hget

/-- A node may hold another one, but only as a member of a structure, and a list of photos ends in a
blob. -/
theorem symbols_end_of_photoTree :
    let s := PlainSymbols.Settings.ofProject Project.photoTree
    s.model.Closed ∧ s.model.Acyclic ∧ s.model.HoldsMembers ∧
      SymbolStage.isRecursive s.model Project.nodeNext = true ∧
    (∃ symbol, ShapeCall.EndsWith (PlainSymbols.symbolCall s) Project.nodeNext (.ok symbol)) ∧
    (∃ symbol, ShapeCall.EndsWith (PlainSymbols.symbolCall s) Project.nodePhotos (.ok symbol)) ∧
    ShapeCall.EndsWith (SymbolStage.wrapperCall s.model) Project.nodeNext none ∧
    ShapeCall.EndsWith (SymbolStage.wrapperCall s.model) Project.nodePhotos (some "Blob") := by
  intro s
  have hacyclic : s.model.Acyclic := by
    -- the way to the photos goes down, and all other members are next to the end
    refine Model.acyclic_of_rank (fun id =>
      if id.member = some "photos" then 3 else if id.isMember then 1 else if id.name = "Photos" then
        2 else 0) ?_
    decide +kernel
  obtain ⟨hreferences, hcollections, hrecursive, hnext, hphotos, hnone, hblob⟩ :
      (∀ entry ∈ s.model.shapes.entries, ∀ target ∈ entry.2.references,
        (s.model.get? target).isSome = true) ∧
      (∀ entry ∈ s.model.shapes.entries, entry.2.isCollection = true →
        ∀ held ∈ entry.2.holds?, ∃ member ∈ s.model.get? held, member.isMember = true) ∧
      SymbolStage.isRecursive s.model Project.nodeNext = true ∧
      s.model.get? Project.nodeNext.id = some Project.nodeNext ∧
      s.model.get? Project.nodePhotos.id = some Project.nodePhotos ∧
      SymbolStage.wrapper? s.model Project.nodeNext = none ∧
      SymbolStage.wrapper? s.model Project.nodePhotos = some "Blob" := by
    decide +kernel
  have hclosed : s.model.Closed :=
    fun id shape hget => hreferences (id, shape) (OrderedMap.get?_eq_some_iff.1 hget)
  have hmembers : s.model.HoldsMembers :=
    fun id shape hget => hcollections (id, shape) (OrderedMap.get?_eq_some_iff.1 hget)
  obtain ⟨hsymbol, hwrapper, -, -, hok⟩ := symbols_end hclosed hacyclic Project.nodeNext
  obtain ⟨hsymbol', hwrapper', -, -, hok'⟩ := symbols_end hclosed hacyclic Project.nodePhotos
  obtain ⟨next, hnextSymbol⟩ := hok hmembers _ hnext
  obtain ⟨photos, hphotosSymbol⟩ := hok' hmembers _ hphotos
  exact ⟨hclosed, hacyclic, hmembers, hrecursive, ⟨next, (hsymbol _).2 hnextSymbol.symm⟩,
    ⟨photos, (hsymbol' _).2 hphotosSymbol.symm⟩, (hwrapper _).2 hnone.symm,
    (hwrapper' _).2 hblob.symm⟩

end SdkForge
