import SdkForge.Fault
import SdkForge.Fragment

/-!
# Registries of sections

A registry keeps, for each section that is registered, the contributions in the order in which they
are written: by order, and those of one order as they came in.
-/

namespace SdkForge

/-- What a contributor writes at a place; it may write nothing, or fail for a reason of its own. -/
abbrev Contributor := Section → Except String (Option Fragment)

/-- A contributor with the decorator that it belongs to. -/
structure Contribution where
  decorator : String
  order : Int
  write : Contributor

/-- Contributions by section, in the order in which the sections were registered. -/
structure Registry where
  slots : List (SectionName × List Contribution) := []

namespace Registry

/-- The registry that has every section. -/
def catalog : Registry := ⟨SectionName.all.map fun name => (name, [])⟩

/-- The contributions to a section that is registered. -/
def get? (r : Registry) (name : SectionName) : Option (List Contribution) := r.slots.lookup name

/-- Registers a section. -/
def register (r : Registry) (name : SectionName) : Except Fault Registry :=
  if (r.get? name).isSome then .error (.duplicateSection name) else .ok ⟨r.slots ++ [(name, [])]⟩

/-- Puts a contribution before the first one of a higher order. -/
def place (c : Contribution) (contributions : List Contribution) : List Contribution :=
  contributions.takeWhile (·.order ≤ c.order) ++ c :: contributions.dropWhile (·.order ≤ c.order)

/-- Adds a contribution to a section. -/
def contribute (r : Registry) (name : SectionName) (c : Contribution) : Except Fault Registry :=
  if (r.get? name).isSome then
    .ok ⟨r.slots.map fun (n, contributions) => (n, if n = name then place c contributions
      else contributions)⟩
  else .error (.unknownSection name)

/-- What a contribution writes, as a list of none or one. -/
def write (place : Section) (c : Contribution) : Except Fault (List Fragment) :=
  match c.write place with
  | .ok fragment => .ok fragment.toList
  | .error cause => .error (.composition c.decorator place.name cause)

/-- What the contributors to a section write. -/
def render (r : Registry) (place : Section) : Except Fault (List Fragment) :=
  match r.get? place.name with
  | some contributions => return (← contributions.mapM (write place)).flatten
  | none => .error (.unknownSection place.name)

/-- What the contributors to a section write, as one fragment. -/
def renderAll (r : Registry) (place : Section) : Except Fault Fragment :=
  return .seq (← r.render place)

/-- The sections, in the order in which they were registered. -/
def names (r : Registry) : List SectionName := r.slots.map (·.1)

/-- The decorators that contribute to a section, in the order in which they write. -/
def contributors (r : Registry) (name : SectionName) : List String :=
  ((r.get? name).getD []).map (·.decorator)

end Registry

end SdkForge
