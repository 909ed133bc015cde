import SdkForge.Protocol
import SdkForge.Section.Registry
import SdkForge.Symbol.Provider

/-!
# Decorators

A decorator adapts what is generated: the model before it, the protocols and symbols that it uses,
and the code at certain places. `DecoratorSet` holds decorators of different names in the order in
which they act: by their `order`, and those of one order as they were listed.
-/

namespace SdkForge

/-- A contribution beside the decorator's own one. -/
structure ExtraContribution where
  place : SectionName
  write : Contributor

/-- An adaptation of what is generated. What is not given leaves things as they are. -/
structure Decorator where
  name : String
  order : Int := 0
  write : Project → Contributor := fun _ _ => .ok none
  extra : Project → List ExtraContribution := fun _ => []
  transform : ShapeId → Model → Except Fault Model := fun _ model => .ok model
  protocols : ShapeId → ProtocolMap → ProtocolMap := fun _ protocols => protocols
  symbols : Project → SymbolChain → SymbolChain := fun _ chain => chain

/-- Decorators in the order in which they act. -/
structure DecoratorSet where
  members : List Decorator := []

namespace DecoratorSet

/-- The first two decorators of one name, the second being as early as possible. -/
def duplicate? (seen : List String) : List String → Option Fault
  | [] => none
  | name :: rest =>
    match seen.findIdx? (· == name) with
    | some first => some (.duplicateDecorator name first seen.length)
    | none => duplicate? (seen ++ [name]) rest

/-- The set of decorators that have different names. -/
def ofList (decorators : List Decorator) : Except Fault DecoratorSet :=
  match duplicate? [] (decorators.map (·.name)) with
  | some fault => .error fault
  | none => .ok ⟨decorators.mergeSort (·.order ≤ ·.order)⟩

def names (d : DecoratorSet) : List String := d.members.map (·.name)

/-- The model as the decorators leave it. -/
def transform (d : DecoratorSet) (service : ShapeId) (model : Model) : Except Fault Model :=
  d.members.foldlM (fun model decorator => decorator.transform service model) model

/-- The protocols as the decorators leave them. -/
def protocols (d : DecoratorSet) (service : ShapeId) (protocols : ProtocolMap) : ProtocolMap :=
  d.members.foldl (fun protocols decorator => decorator.protocols service protocols) protocols

/-- The symbols as the decorators leave them. -/
def symbols (d : DecoratorSet) (p : Project) (chain : SymbolChain) : SymbolChain :=
  d.members.foldl (fun chain decorator => decorator.symbols p chain) chain

/-- What a decorator contributes: to every section, and then its extra contributions. -/
def contributions (p : Project) (d : Decorator) : List (SectionName × Contribution) :=
  SectionName.all.map (fun name => (name, ⟨d.name, d.order, d.write p⟩)) ++
    (d.extra p).map fun e => (e.place, ⟨d.name, d.order, e.write⟩)

/-- The registry of what the decorators contribute. -/
def registry (d : DecoratorSet) (p : Project) : Except Fault Registry :=
  (d.members.flatMap (contributions p)).foldlM (fun r (name, c) => r.contribute name c) .catalog

end DecoratorSet

end SdkForge
