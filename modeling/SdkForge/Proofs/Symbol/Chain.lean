import SdkForge.Proofs.Symbol.Defined
import SdkForge.Proofs.Symbol.Stage

/-!
# What the chain makes of a symbol

The stages together keep every name of a generated type, so that what is said where a type is used
is what is said where it is defined.

* `symbolOf_eq_ok` takes the chain apart.
* `exists_source` says where the core of a finished symbol comes from.
* `symbolOf_of_module` gives the symbol of a shape that a module defines a type for, and
  `of?_of_symbol_module` says that only such shapes have symbols of the module.
-/

namespace SdkForge

open Outcome PlainSymbols
open Crate (TypeModule)

/-! ## Names that are not reserved -/

/-- No name of a type is reserved, since a reserved one was given its suffix. -/
lemma Naming.isReservedType_typeName (name : String) : isReservedType (typeName name) = false := by
  rw [typeName]
  split
  · next h =>
    generalize Text.pascalCase name = pascal at h
    have hmem : pascal ∈ reservedTypes := by simpa [isReservedType] using h
    -- each reserved name, made longer, is looked up again
    simp only [reservedTypes, List.mem_cons, List.not_mem_nil, or_false] at hmem
    rcases hmem with rfl | rfl | rfl | rfl | rfl | rfl | rfl | rfl <;> decide
  · next h => simpa using h

@[simp] lemma Symbol.core_generated (name module : String) (derives : List Instance) :
    ({ Symbol.generated name module with derives } : Symbol).type.core =
      (name, some s!"crate::{module}") := rfl

/-- A generated type has the name of its shape. -/
lemma PlainSymbols.Owned.name_eq {s : Settings} {shape : Shape} {plain : Symbol}
    (h : Owned s shape plain) (hmodule : plain.module ≠ none) :
    plain.name = PlainSymbols.typeName shape := by
  cases h with
  | defined | service => rfl
  | standing => contradiction

lemma PlainSymbols.Owned.unreserved {s : Settings} {shape : Shape} {plain : Symbol}
    (h : Owned s shape plain) :
    plain.module = none ∨ Naming.isReservedType plain.name = false := by
  by_cases hmodule : plain.module = none
  · exact .inl hmodule
  · right
    rw [h.name_eq hmodule, PlainSymbols.typeName]
    exact Naming.isReservedType_typeName shape.id.name

/-! ## The chain -/

namespace Project

variable {p : Project} {shape : Shape} {symbol : Symbol}

/-- The symbol of a shape after all stages. -/
def symbolOf (p : Project) (shape : Shape) : Except Fault Symbol :=
  (symbolChain p).provider.symbol shape

/-- The symbol of a shape after the stage for streams. -/
def begun (p : Project) (shape : Shape) : Except Fault Symbol :=
  (SymbolStage.streams p.model p.serverCrate (provider (.ofProject p))).symbol shape

/-- The symbol after the stage for wrapped types, which can be turned off. -/
def wrap (p : Project) (shape : Shape) (symbol : Symbol) : Symbol :=
  if p.codegen.wrapperTypes then SymbolStage.wrap p.model p.serverCrate shape symbol else symbol

/-- The project with the server's types turned on or off. -/
def withWrapperTypes (p : Project) (on : Bool) : Project :=
  { p with codegen := { p.codegen with wrapperTypes := on } }

/-- What the later stages make of a symbol. -/
def finish (p : Project) (shape : Shape) (symbol : Symbol) : Symbol :=
  SymbolStage.escapeReserved
    (SymbolStage.dropEquality p.model shape
      (SymbolStage.boxRecursive p.model shape (p.wrap shape symbol)))

/-- The stages after the one for streams act on the symbol one after the other. -/
lemma symbol_complete (p : Project) (c : SymbolChain) (shape : Shape) :
    (c.complete p).provider.symbol shape = (c.provider.symbol shape).map (p.finish shape) := by
  have hstages :
      (c.complete p).provider.symbol shape =
        ((((c.provider.symbol shape).map (p.wrap shape)).map
          (SymbolStage.boxRecursive p.model shape)).map
            (SymbolStage.dropEquality p.model shape)).map
        SymbolStage.escapeReserved := by
    cases hwrap : p.codegen.wrapperTypes with
    | true =>
      rw [show p.wrap shape = SymbolStage.wrap p.model p.serverCrate shape from funext fun _ =>
        if_pos hwrap]
      simp only [SymbolChain.complete, hwrap]
      rfl
    | false =>
      rw [show p.wrap shape = id from funext fun _ => by simp [wrap, hwrap], Except.map_id]
      simp only [SymbolChain.complete, hwrap]
      rfl
  rw [hstages]
  cases c.provider.symbol shape <;> rfl

lemma symbolOf_eq_map (p : Project) (shape : Shape) :
    p.symbolOf shape = (p.begun shape).map (p.finish shape) :=
  symbol_complete p _ shape

theorem symbolOf_eq_ok :
    p.symbolOf shape = .ok symbol ↔ ∃ first, p.begun shape = .ok first ∧
      p.finish shape first = symbol := by
  rw [symbolOf_eq_map, map_eq_ok]

/-- The first symbol is a stream's, for a streaming member of an envelope, or else the plain one. -/
lemma of_begun_eq_ok (h : p.begun shape = .ok symbol) :
    (p.model.StreamsInEnvelope shape ∧ symbol = SymbolStage.stream p.serverCrate) ∨
      (¬p.model.StreamsInEnvelope shape ∧
        PlainSymbols.symbol (.ofProject p) shape = .ok symbol) := by
  simp only [begun, SymbolStage.streams, bind_eq_ok, Fault.ofModel_eq_ok] at h
  obtain ⟨isStream, hstream, h⟩ := h
  cases isStream with
  | true => exact .inl ⟨Model.isEnvelopeStream_eq_ok_true_iff.1 hstream, (pure_eq_ok.1 h).symm⟩
  | false =>
    refine .inr ⟨fun hstreams => ?_, h⟩
    rw [Model.isEnvelopeStream_eq_ok_true_iff.2 hstreams] at hstream
    contradiction

lemma begun_of_not_isMember (h : shape.isMember = false) :
    p.begun shape = PlainSymbols.symbol (.ofProject p) shape := by
  obtain ⟨id, traits, body⟩ := shape
  cases body <;> first | rfl | simp [Shape.isMember, Shape.kind] at h

@[simp] lemma module_wrap : (p.wrap shape symbol).module = symbol.module := by
  unfold wrap
  split <;> simp

@[simp] lemma boxed_wrap : (p.wrap shape symbol).boxed = symbol.boxed := by
  unfold wrap
  split <;> simp

/-- The symbol is that of a blob or of a point in time, or keeps its core. -/
lemma core_wrap (p : Project) (shape : Shape) (symbol : Symbol) :
    (p.wrap shape symbol).type.core = symbol.type.core ∨
      ∃ name, SymbolStage.wrapper? p.model shape = some name ∧
        (p.wrap shape symbol).type.core = (name, some (SymbolStage.serverTypes p.serverCrate)) := by
  unfold wrap
  split
  · exact SymbolStage.core_wrap ..
  · exact .inl rfl

/-- The last stage has nothing to do. -/
lemma finish_eq
    (h : symbol.module = none ∨ Naming.isReservedType (p.wrap shape symbol).name = false) :
    p.finish shape symbol =
      SymbolStage.dropEquality p.model shape
        (SymbolStage.boxRecursive p.model shape (p.wrap shape symbol)) := by
  refine SymbolStage.escapeReserved_eq_self ?_
  simpa [Symbol.name] using h

/-! ## Types of the server's crate -/

/-- The crate with the types that clients and servers share is not the module of the server's crate
that has its types. -/
lemma typesCrate_ne_serverTypes (p : Project) :
    p.typesCrate ≠ SymbolStage.serverTypes p.serverCrate := by
  intro h
  -- a name has as many characters as the identifier that is made of it
  have hlength : p.typesCrate.length = (p.serverCrate ++ "::types").length :=
    congrArg String.length h
  simp [typesCrate, serverCrate, runtimeCrate, Manifest.Runtime.crateIdent,
    Manifest.Runtime.crateName, Manifest.identOf, Nat.add_assoc] at hlength
  exact absurd hlength (by decide)

/-- No plain type is one of the server's. -/
lemma core_ne_serverTypes {origin : Shape} {plain : Symbol}
    (howned : Owned (.ofProject p) origin plain) :
    plain.type.core.2 ≠ some (SymbolStage.serverTypes p.serverCrate) := by
  have hown : ∀ path, Crate.IsOwnPath path → path ≠ SymbolStage.serverTypes p.serverCrate := by
    rintro path hpath rfl
    exact hpath.getLast?_ne (TypeModule.getLast?_serverTypes p.serverCrate)
  cases howned with
  | defined m => exact fun h => hown _ (.module m) (Option.some.inj h)
  | service => exact fun h => hown _ .root (Option.some.inj h)
  | standing name ns _ _ hns =>
    rcases hns with rfl | rfl
    · exact nofun
    · exact fun h => p.typesCrate_ne_serverTypes (Option.some.inj h)

/-! ## Where the core comes from -/

/-- Where the core of a symbol comes from, and with it the module. -/
inductive Source (p : Project) (shape : Shape) (symbol : Symbol) : Prop where
  /-- From the runtime's stream. -/
  | stream (hstream : p.model.isStreaming shape = true)
      (hcore : symbol.type.core = ("ByteStream", some (SymbolStage.serverTypes p.serverCrate)))
  /-- From a type of the server's crate. -/
  | wrapped (name : String) (hwrapper : SymbolStage.wrapper? p.model shape = some name)
      (hcore : symbol.type.core = (name, some (SymbolStage.serverTypes p.serverCrate)))
  /-- From the origin of the plain type. -/
  | plain (origin : Shape) (plain : Symbol) (htyped : p.model.TypedBy shape origin)
      (howned : Owned (.ofProject p) origin plain) (hcore : symbol.type.core = plain.type.core)

/-- The last stage has nothing to do for what is made of a plain symbol: only a symbol of a module
is renamed, and the names of those are not reserved. -/
lemma finish_eq_of_made {origin : Shape} {plain first : Symbol}
    (howned : Owned (.ofProject p) origin plain) (hmade : MadeOf plain first) :
    p.finish shape first =
      SymbolStage.dropEquality p.model shape
        (SymbolStage.boxRecursive p.model shape (p.wrap shape first)) := by
  apply finish_eq
  rcases core_wrap p shape first with hcore | ⟨name, hwrapper, hcore⟩
  · rw [Symbol.name, hcore, hmade.core]
    rcases hmade.module with hnone | hsame
    · exact .inl hnone
    · rw [hsame]
      exact howned.unreserved
  · right
    rw [Symbol.name, hcore]
    dsimp only
    rcases SymbolStage.eq_of_wrapperWithin hwrapper with rfl | rfl <;> decide

/-- The symbol that a plain one is made into has the plain core, or one of the server's. -/
lemma core_finish {origin : Shape} {plain first : Symbol}
    (howned : Owned (.ofProject p) origin plain) (hmade : MadeOf plain first) :
    (p.finish shape first).type.core = plain.type.core ∨
      ∃ name, SymbolStage.wrapper? p.model shape = some name ∧
        (p.finish shape first).type.core =
          (name, some (SymbolStage.serverTypes p.serverCrate)) := by
  rw [finish_eq_of_made howned hmade, SymbolStage.type_dropEquality, SymbolStage.core_boxRecursive,
    ← hmade.core]
  exact core_wrap p shape first

/-- The core of every symbol comes from the runtime or from the origin of its plain type. -/
theorem exists_source (h : p.symbolOf shape = .ok symbol) : p.Source shape symbol := by
  obtain ⟨first, hfirst, rfl⟩ := symbolOf_eq_ok.1 h
  rcases of_begun_eq_ok hfirst with ⟨hstreams, rfl⟩ | ⟨_, hplain⟩
  · refine .stream hstreams.isStreaming ?_
    rw [finish_eq (.inl rfl)]
    simp [wrap, SymbolStage.wrap, SymbolStage.stream, Symbol.external, TypeExpr.core]
  · obtain ⟨origin, plain, htyped, hown, hmade⟩ := exists_origin hplain
    have howned := owned_of_own htyped.isHolder_origin hown
    rcases core_finish howned hmade with hcore | ⟨name, hwrapper, hcore⟩
    · exact .plain origin plain htyped howned hcore
    · exact .wrapped name hwrapper hcore

/-- A symbol mentions a generated type only if the origin of its type has it. -/
theorem exists_origin_of_core (h : p.symbolOf shape = .ok symbol) {name path : String}
    (hpath : Crate.IsOwnPath path) (hcore : symbol.type.core = (name, some path)) :
    ∃ origin, p.model.TypedBy shape origin ∧ Crate.typePath? p.mode origin = some path ∧
      typeName origin = name := by
  cases exists_source h with
  | stream _ hruntime | wrapped _ _ hruntime =>
    have hserver : SymbolStage.serverTypes p.serverCrate = path := by
      simpa using congrArg Prod.snd (hruntime.symm.trans hcore)
    exact absurd (hserver ▸ TypeModule.getLast?_serverTypes p.serverCrate) hpath.getLast?_ne
  | plain origin plain htyped howned hplain =>
    exact ⟨origin, htyped, howned.typePath?_of_core hpath (hplain.symm.trans hcore)⟩

/-- The other way round, only a streaming member hides the generated type that its target has. -/
theorem core_of_origin (h : p.symbolOf shape = .ok symbol) {origin : Shape} {path : String}
    (htyped : p.model.TypedBy shape origin) (hpath : Crate.typePath? p.mode origin = some path)
    (hstream : p.model.isStreaming shape = false) :
    symbol.type.core = (typeName origin, some path) := by
  cases exists_source h with
  | stream hstreaming =>
    rw [hstream] at hstreaming
    contradiction
  | wrapped name hwrapper =>
    -- wrapped types are those of blobs and points in time, which have no type of their own
    have hkind := SymbolStage.kind_of_wrapperWithin hwrapper htyped
    obtain ⟨id, traits, body⟩ := origin
    cases body <;> simp_all [Crate.typePath?, TypeModule.of?, Shape.kind]
  | plain origin' plain htyped' howned hplain =>
    obtain rfl := htyped.unique htyped'
    exact hplain.trans (howned.core_of_typePath? hpath)

/-! ## Shapes with a type of their own -/

/-- The symbol of a shape that is neither held nor wrapped is the plain one, without equality where
there is a stream. -/
lemma symbolOf_of_owned {plain : Symbol} (hholder : shape.isHolder = false)
    (hown : own (.ofProject p) shape = .ok plain) (hblob : shape.kind ≠ .blob)
    (htime : shape.kind ≠ .timestamp) :
    p.symbolOf shape = .ok (SymbolStage.dropEquality p.model shape plain) := by
  have hmember := Shape.isMember_eq_false hholder
  have hwrap : p.wrap shape plain = plain := by
    unfold wrap
    split
    · exact SymbolStage.wrap_eq_self (SymbolStage.wrapperWithin_eq_none hholder hblob htime _)
    · rfl
  have hreserved := (owned_of_own hholder hown).unreserved
  refine symbolOf_eq_ok.2 ⟨plain, ?_, ?_⟩
  · rw [begun_of_not_isMember hmember, symbol_of_not_isHolder hholder, hown]
  · rw [finish_eq (by rwa [hwrap]), hwrap, SymbolStage.boxRecursive_eq_self hmember]

/-- The symbol of a shape that a module defines a type for: only operations and what holds a stream
have no equality. -/
theorem symbolOf_of_module {m : TypeModule} (hm : TypeModule.of? p.mode shape = some m) :
    ∃ derives, p.symbolOf shape = .ok { Symbol.generated (typeName shape) m.name with derives } ∧
      (Instance.partialEq ∈ derives ↔
        shape.kind ≠ .operation ∧ ¬(shape.isAggregate = true ∧
          p.model.hasStreamingMember shape = true)) := by
  obtain ⟨hholder, hblob, htime, _⟩ := TypeModule.of_of?_eq_some hm
  obtain ⟨plain, hown⟩ := exists_own_eq_ok (.ofProject p) hholder
  obtain ⟨derives, hplain, hderives⟩ := (owned_of_own hholder hown).eq_of_module hm
  refine ⟨(SymbolStage.dropEquality p.model shape plain).derives, ?_, ?_⟩
  · rw [symbolOf_of_owned hholder hown hblob htime, hplain]
    -- the stage changes nothing but the instances
    unfold SymbolStage.dropEquality
    split <;> rfl
  · rw [SymbolStage.partialEq_mem_dropEquality, hplain, ← hderives]

/-- The symbol of a service. -/
theorem symbolOf_of_service (hkind : shape.kind = .service) :
    p.symbolOf shape = .ok { type := .named (typeName shape) (some "crate"),
                             module := some "service" } := by
  obtain ⟨id, traits, body⟩ := shape
  cases body with
  | service version operations =>
    rw [symbolOf_of_owned rfl rfl (by simp [Shape.kind]) (by simp [Shape.kind])]
    simp [SymbolStage.dropEquality, Shape.isAggregate, Shape.isRecord, Shape.isUnion, Shape.kind]
  | _ => simp [Shape.kind] at hkind

lemma module_of_isCollection {s : Settings} {fuel : Nat} (hcollection : shape.isCollection = true)
    (h : symbolWithin s fuel shape = .ok symbol) : symbol.module = none := by
  obtain ⟨id, traits, body⟩ := shape
  cases fuel with
  | zero => simp [symbolWithin] at h
  | succ fuel =>
    cases body with
    | list | map =>
      simp only [symbolWithin, bind_eq_ok, pure_eq_ok] at h
      obtain ⟨_, _, _, _, rfl⟩ := h
      rfl
    | _ => simp [Shape.isCollection, Shape.kind] at hcollection

/-- The symbol of a shape that is no member belongs to the module that defines a type for the shape,
or to the service. -/
theorem of?_of_symbol_module {module : String} (hmember : shape.isMember = false)
    (h : p.symbolOf shape = .ok symbol) (hmodule : symbol.module = some module) :
    (∃ m, TypeModule.of? p.mode shape = some m ∧ module = m.name) ∨
    (shape.kind = .service ∧ module = "service") := by
  obtain ⟨first, hfirst, rfl⟩ := symbolOf_eq_ok.1 h
  rw [begun_of_not_isMember hmember] at hfirst
  have hkeep : (p.finish shape first).module = first.module := by
    unfold finish SymbolStage.escapeReserved
    split <;> simp [Symbol.rename]
  rw [hkeep] at hmodule
  cases hholder : shape.isHolder with
  | true =>
    have hcollection : shape.isCollection = true := by
      simpa [Shape.isHolder, hmember] using hholder
    rw [module_of_isCollection hcollection hfirst] at hmodule
    contradiction
  | false =>
    rw [symbol_of_not_isHolder hholder] at hfirst
    cases owned_of_own hholder hfirst with
    | defined m _ hm => exact .inl ⟨m, hm, (Option.some.inj hmodule).symm⟩
    | service hkind => exact .inr ⟨hkind, (Option.some.inj hmodule).symm⟩
    | standing => contradiction

end Project

end SdkForge
