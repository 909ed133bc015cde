import SdkForge.Text.Split

/-!
# Shape ids

A shape is named by `namespace#Name`, a member of it by `namespace#Name$member`. Ids are ordered by
namespace, then name, then member, a shape before its members.
-/

namespace SdkForge

/-- The id of a shape, or of a member of one. -/
structure ShapeId where
  ns : String
  name : String
  member : Option String := none
  deriving DecidableEq, Inhabited, Repr

namespace ShapeId

/-! ## Order -/

/-- By namespace, then name, then member. -/
def order : ShapeId → ShapeId → Ordering :=
  compareLex (compareOn ShapeId.ns) (compareLex (compareOn ShapeId.name) (compareOn ShapeId.member))

instance : Ord ShapeId := ⟨order⟩

instance : Std.TransOrd ShapeId :=
  inferInstanceAs (Std.TransCmp
    (compareLex (compareOn ShapeId.ns)
      (compareLex (compareOn ShapeId.name) (compareOn ShapeId.member))))

instance : Std.LawfulEqOrd ShapeId where
  eq_of_compare {a b} h := by
    have h : order a b = .eq := h
    obtain ⟨hns, hname, hmember⟩ := by
      simpa only [order, compareLex_eq_eq] using h
    have e₁ : a.ns = b.ns := Std.LawfulEqCmp.eq_of_compare hns
    have e₂ : a.name = b.name := Std.LawfulEqCmp.eq_of_compare hname
    have e₃ : a.member = b.member := Std.LawfulEqCmp.eq_of_compare hmember
    cases a; cases b; simp_all

/-! ## Parts -/

/-- The id of the shape, for a member's id. -/
def root (id : ShapeId) : ShapeId := { id with member := none }

/-- The id of a member of the shape. -/
def withMember (id : ShapeId) (member : String) : ShapeId := { id with member := some member }

/-- Whether the id names a member. -/
def isMember (id : ShapeId) : Bool := id.member.isSome

/-- The member's name, or the shape's where the id names a shape. -/
def lastName (id : ShapeId) : String := id.member.getD id.name

/-! ## Writing -/

protected def toString (id : ShapeId) : String :=
  id.ns ++ "#" ++ id.name ++ (match id.member with | some member => "$" ++ member | none => "")

instance : ToString ShapeId := ⟨ShapeId.toString⟩

/-! ## Reading -/

/-- What a text lacks to be an id. -/
inductive Fault where
  | noNamespace | badNamespace | badName | badMember
  deriving DecidableEq, Repr

def Fault.reason : Fault → String
  | .noNamespace => "expected `namespace#Name`"
  | .badNamespace => "namespace must be dot-separated identifiers"
  | .badName => "shape name must be an identifier"
  | .badMember => "member name must be an identifier"

/-- A letter of ASCII or an underscore. -/
def startsIdentifier (c : Char) : Bool := c.isAlpha || c == '_'

/-- A letter or digit of ASCII or an underscore. -/
def inIdentifier (c : Char) : Bool := c.isAlphanum || c == '_'

/-- Whether a text is an identifier. -/
def isIdentifier : List Char → Bool
  | [] => false
  | c :: rest => startsIdentifier c && rest.all inIdentifier

/-- The name and the member's name in what follows the `#`. -/
def splitMember (text : List Char) : List Char × Option (List Char) :=
  match Text.splitFirst '$' text with
  | some (name, member) => (name, some member)
  | none => (text, none)

/-- Reads an id. -/
def parse (text : String) : Except Fault ShapeId :=
  match Text.splitFirst '#' text.toList with
  | none => .error .noNamespace
  | some (ns, rest) =>
    let (name, member) := splitMember rest
    if !(Text.splitAll (· == '.') ns).all isIdentifier then .error .badNamespace
    else if !isIdentifier name then .error .badName
    else if !member.all isIdentifier then .error .badMember
    else .ok ⟨String.ofList ns, String.ofList name, member.map String.ofList⟩

end ShapeId

end SdkForge
