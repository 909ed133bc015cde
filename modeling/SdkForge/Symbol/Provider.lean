import SdkForge.Project
import SdkForge.Symbol

/-!
# Providers of symbols

A provider gives every shape a symbol and every member a name. Providers are built in stages, each
of which takes the one before it and changes what it gives; a `SymbolChain` remembers the stages'
names.
-/

namespace SdkForge

/-- What shapes and members are called. -/
structure SymbolProvider where
  name : String
  symbol : Shape → Except Fault Symbol
  memberName : Shape → String

/-- A change to what a provider gives. -/
abbrev SymbolStage := SymbolProvider → SymbolProvider

namespace SymbolProvider

/-- A provider that changes the symbols of another one. -/
def mapSymbol (name : String) (inner : SymbolProvider) (f : Shape → Symbol → Symbol) :
    SymbolProvider :=
  { inner with name, symbol := fun shape => (inner.symbol shape).map (f shape) }

end SymbolProvider

/-- A provider with the names of the stages that it was built in. -/
structure SymbolChain where
  provider : SymbolProvider
  stages : List String

namespace SymbolChain

/-- The chain of one provider. -/
def ofProvider (p : SymbolProvider) : SymbolChain := ⟨p, [p.name]⟩

/-- The chain with one more stage. -/
def wrap (c : SymbolChain) (stage : SymbolStage) : SymbolChain :=
  let p := stage c.provider
  ⟨p, c.stages ++ [p.name]⟩

end SymbolChain

end SdkForge
