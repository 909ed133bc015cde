import SdkForge.Code.Function
import SdkForge.Symbol
import SdkForge.Text.Case
import SdkForge.Text.Quoted
import SdkForge.Trait

/-!
# String enums

A string with a fixed set of values becomes an enum with a variant for each value, and one more
variant that keeps every other string. The two functions of the enum read and write the string.
-/

namespace SdkForge.Crate

/-- A variant, and the string that it stands for. -/
structure StringVariant where
  name : String
  value : String
  deriving DecidableEq, Repr

/-- An enum of strings. -/
structure StringEnum where
  name : String
  doc : Option String
  variants : List StringVariant
  derives : List String
  deriving Repr

namespace StringEnum

/-! ## Variants -/

/-- The variant of a value: its name, or the value where it has none, in Pascal case. A text without
a small letter is read in small letters. -/
def variantName (v : EnumValue) : String :=
  let raw := v.name.getD v.value
  if raw.toList.any Text.isLower then Text.pascalCase raw
  else Text.pascalCase (String.ofList (Text.lowerText raw.toList))

/-- The variant that keeps a string that is none of the values. -/
def unknown : String := "Unknown"

def ofValues (symbol : Symbol) (doc : Option String) (values : List EnumValue) : StringEnum where
  name := symbol.name
  doc
  variants := values.map fun v => ⟨variantName v, v.value⟩
  derives := symbol.derives.map (·.name)

/-- The declaration of the enum. -/
def decl (e : StringEnum) : Code.EnumDecl where
  name := e.name
  doc := e.doc
  variants := e.variants.map (fun v => { name := v.name }) ++
    [{ name := unknown, payload := .tuple ["String"],
       doc := some "A value this crate was not generated with." }]
  derives := e.derives

/-! ## Writing and reading -/

/-- An arm of a function that matches: one for a variant, and the one for every other string. -/
inductive Arm where
  | variant (v : StringVariant)
  | fallback
  deriving DecidableEq, Repr

/-- The arms of both functions, in their order. -/
def arms (e : StringEnum) : List Arm := e.variants.map .variant ++ [.fallback]

/-- The arm that gives the string of a variant. -/
def Arm.writeFragment (type : String) : Arm → Fragment
  | .variant v => .line s!"{type}::{v.name} => {Text.quote v.value},"
  | .fallback => .line s!"{type}::{unknown}(value) => value.as_str(),"

/-- The arm that gives the variant of a string. -/
def Arm.readFragment (type : String) : Arm → Fragment
  | .variant v => .line s!"{Text.quote v.value} => {type}::{v.name},"
  | .fallback => .line s!"other => {type}::{unknown}(other.to_string()),"

def writeFunction (e : StringEnum) : Code.Function where
  name := "as_str"
  doc := some "The wire value."
  params := [⟨"&self", ""⟩]
  returns := some "&str"
  body := [.braced "match self \x7b" (e.arms.map (·.writeFragment e.name))]

def readFunction (e : StringEnum) : Code.Function where
  name := "from"
  visibility := .module
  params := [⟨"value", "&str"⟩]
  returns := some "Self"
  body := [.braced "match value \x7b" (e.arms.map (·.readFragment e.name))]

def fragment (e : StringEnum) : Fragment :=
  .separated [e.decl.fragment,
    (({ type := e.name } : Code.Implementation).method e.writeFunction).fragment,
    (({ type := e.name, trait := some "From<&str>" } : Code.Implementation).method
      e.readFunction).fragment]

end StringEnum

end SdkForge.Crate
