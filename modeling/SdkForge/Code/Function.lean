import SdkForge.Code.Declaration

/-!
# Functions and implementations

Functions, and the blocks that give functions to a type, as data with the fragments that write them.
-/

namespace SdkForge.Code

/-- Names in angle brackets; nothing for none. -/
def generics (names : List String) : String :=
  if names.isEmpty then "" else s!"<{commaSeparated names}>"

/-- A header and its body, with the conditions between them. -/
def conditioned (header : String) (conditions : List String) (body : List Fragment) : Fragment :=
  if conditions.isEmpty then .braced (header ++ " \x7b") body
  else .seq [
    .block header [] none,
    .block "where" (conditions.map fun c => .line (c ++ ",")) none,
    .braced "\x7b" body]

/-! ## Functions -/

/-- A parameter; a receiver has no type. -/
structure Param where
  name : String
  type : String := ""
  deriving DecidableEq, Repr

def Param.text (p : Param) : String := if p.type.isEmpty then p.name else s!"{p.name}: {p.type}"

/-- A function. -/
structure Function where
  name : String
  doc : Option String := none
  attributes : List String := []
  visibility : Visibility := .everywhere
  generics : List String := []
  params : List Param := []
  returns : Option String := none
  conditions : List String := []
  body : List Fragment := []

namespace Function

def signature (f : Function) : String :=
  let result := (f.returns.map (" -> " ++ ·)).getD ""
  f.visibility.apply
    s!"fn {f.name}{Code.generics f.generics}({commaSeparated (f.params.map (·.text))}){result}"

def fragment (f : Function) : Fragment :=
  .seq ((f.doc.map Fragment.doc).toList ++ f.attributes.map (fun a => .line s!"#[{a}]") ++
    [conditioned f.signature f.conditions f.body])

end Function

/-! ## Implementations -/

/-- The functions that a type gets, of its own or for a trait. -/
structure Implementation where
  type : String
  trait : Option String := none
  generics : List String := []
  conditions : List String := []
  items : List Fragment := []

namespace Implementation

/-- Adds an item that writes something. -/
def item (i : Implementation) (f : Fragment) : Implementation :=
  if f.isEmpty then i else { i with items := i.items ++ [f] }

/-- Adds a function. -/
def method (i : Implementation) (f : Function) : Implementation :=
  { i with items := i.items ++ [f.fragment] }

def header (i : Implementation) : String :=
  let names := Code.generics i.generics
  match i.trait with
  | some trait => s!"impl{names} {trait} for {i.type}"
  | none => s!"impl{names} {i.type}"

def fragment (i : Implementation) : Fragment :=
  conditioned i.header i.conditions (i.items.intersperse .blank)

end Implementation

end SdkForge.Code
