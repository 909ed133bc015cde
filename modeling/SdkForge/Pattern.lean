import SdkForge.Pattern.Automaton
import SdkForge.Pattern.Reader
import SdkForge.Pattern.Settle

/-!
# Patterns that compile

Generated code compiles patterns when it runs, so a pattern is checked when the code is generated:
it has to be readable, not nested too deep, to name only properties that exist, to match whole
characters only, and to make automata that are not too large.
-/

namespace SdkForge.Pattern

/-! ## Nesting -/

mutual
/-- How deep a set is nested. -/
def CharSet.depth : CharSet → Nat
  | .bracket _ inner => inner.depth + 1
  | .operation _ left right => max left.depth right.depth + 1
  | .union parts => if parts.isEmpty then 0 else CharSet.depthAll parts + 1
  | _ => 0
/-- How deep the deepest of the sets is nested. -/
def CharSet.depthAll : List CharSet → Nat
  | [] => 0
  | set :: rest => max set.depth (CharSet.depthAll rest)
end

mutual
/-- How deep a pattern is nested. -/
def depth : Pattern → Nat
  | .bracket _ set => set.depth + 1
  | .repeated inner _ _ _ | .group _ _ inner => inner.depth + 1
  | .sequence parts | .choice parts => if parts.isEmpty then 0 else depthAll parts + 1
  | _ => 0
/-- How deep the deepest of the patterns is nested. -/
def depthAll : List Pattern → Nat
  | [] => 0
  | p :: rest => max p.depth (depthAll rest)
end

/-- The greatest depth that compiles. -/
def maxDepth : Nat := 250

/-! ## All together -/

/-- Whether a pattern that has been read compiles. -/
def compiles (p : Pattern) : Bool := p.depth ≤ maxDepth && (Form.ofPattern? p).any Form.fits

/-- Whether a text is a pattern that compiles. -/
def isValid (text : String) : Bool := (read text).any compiles

end SdkForge.Pattern
