import SdkForge.Fragment

/-!
# Declarations of types

Structures and enums as data, and the fragments that declare them.
-/

namespace SdkForge.Code

/-! ## Parts -/

/-- Where a declaration can be seen from. -/
inductive Visibility where
  | everywhere | crate | module
  deriving DecidableEq, Inhabited, Repr

/-- What stands before a declaration for its visibility. -/
def Visibility.keyword : Visibility → String
  | .everywhere => "pub"
  | .crate => "pub(crate)"
  | .module => ""

/-- A declaration with its visibility before it. -/
def Visibility.apply (v : Visibility) (rest : String) : String :=
  if v.keyword.isEmpty then rest else v.keyword ++ " " ++ rest

/-- An argument of an attribute, with or without a name. -/
inductive AttributeArg where
  | positional (value : String)
  | named (name value : String)
  deriving DecidableEq, Repr

def AttributeArg.text : AttributeArg → String
  | .positional value => value
  | .named name value => s!"{name} = {value}"

/-- An attribute of a declaration. -/
structure Attribute where
  path : String
  args : List AttributeArg := []
  deriving DecidableEq, Repr

/-- Texts with a comma between neighbours. -/
def commaSeparated (texts : List String) : String := ", ".intercalate texts

def Attribute.text (a : Attribute) : String :=
  if a.args.isEmpty then s!"#[{a.path}]"
    else s!"#[{a.path}({commaSeparated (a.args.map (·.text))})]"

/-- The attribute that derives instances. -/
def deriveLine (derives : List String) : String := s!"#[derive({commaSeparated derives})]"

/-- What stands before a declaration: its documentation, the instances derived for it, its
attributes. -/
def preamble (doc : Option String) (derives : List String) (attributes : List Attribute) :
    List Fragment :=
  (doc.map Fragment.doc).toList ++ (if derives.isEmpty then [] else [.line (deriveLine derives)]) ++
    attributes.map fun a => .line a.text

/-! ## Structures -/

/-- A field of a structure. -/
structure Field where
  name : String
  type : String
  doc : Option String := none
  attributes : List Attribute := []
  visibility : Visibility := .everywhere
  deriving Repr

def Field.fragment (f : Field) : Fragment :=
  .seq (preamble f.doc [] f.attributes ++ [.line (f.visibility.apply s!"{f.name}: {f.type},")])

/-- A structure. -/
structure StructDecl where
  name : String
  doc : Option String := none
  fields : List Field := []
  derives : List String := []
  attributes : List Attribute := []
  visibility : Visibility := .everywhere
  deriving Repr

namespace StructDecl

def hasFields (d : StructDecl) : Bool := !d.fields.isEmpty

def fragment (d : StructDecl) : Fragment :=
  let header := d.visibility.apply s!"struct {d.name}"
  .seq (preamble d.doc d.derives d.attributes ++
    [if d.hasFields then .braced (header ++ " \x7b") (d.fields.map (·.fragment))
      else .line (header ++ " \x7b\x7d")])

end StructDecl

/-! ## Enums -/

/-- What a variant holds. -/
inductive Payload where
  | unit
  | tuple (types : List String)
  | record (fields : List Field)
  deriving Repr

/-- A variant of an enum. -/
structure Variant where
  name : String
  payload : Payload := .unit
  doc : Option String := none
  attributes : List Attribute := []
  deriving Repr

def Variant.fragment (v : Variant) : Fragment :=
  .seq (preamble v.doc [] v.attributes ++ [match v.payload with
    | .unit => .line s!"{v.name},"
    | .tuple types => .line s!"{v.name}({commaSeparated types}),"
    | .record fields =>
      .block (v.name ++ " \x7b") (fields.map fun f => .line s!"{f.name}: {f.type},")
      (some "\x7d,")])

/-- An enum. -/
structure EnumDecl where
  name : String
  doc : Option String := none
  variants : List Variant := []
  derives : List String := []
  attributes : List Attribute := []
  visibility : Visibility := .everywhere
  deriving Repr

def EnumDecl.fragment (d : EnumDecl) : Fragment :=
  .seq (preamble d.doc d.derives d.attributes ++
    [.braced (d.visibility.apply s!"enum {d.name}" ++ " \x7b") (d.variants.map (·.fragment))])

end SdkForge.Code
