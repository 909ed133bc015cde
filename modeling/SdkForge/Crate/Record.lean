import SdkForge.Crate.Blueprint
import SdkForge.Naming

/-!
# Structures and unions

A structure has a field for each member, a union a variant. A structure that is an error also says
how it is shown: by its name, and by the text of its message if it has one.
-/

namespace SdkForge.Crate

/-- The name of a member's field. -/
def fieldOf (member : Shape) : String := Naming.fieldName member.id.lastName

/-- The name of a member's variant. -/
def variantOf (member : Shape) : String := Text.pascalCase member.id.lastName

/-! ## Errors -/

/-- The field with the message of an error. -/
structure MessageField where
  name : String
  optional : Bool
  deriving DecidableEq, Repr

/-- How an error is shown. -/
structure ErrorText where
  type : String
  /-- The name that is shown. -/
  title : String
  message : Option MessageField
  deriving DecidableEq, Repr

namespace ErrorText

/-- Whether a member is a message that can be shown: by its name, and by holding a string. -/
def isMessage (member : Shape) (symbol : Symbol) : Bool :=
  member.id.member.any (·.toLower == "message") && symbol.name == "String"

/-- The first member that is a message. -/
def messageField (members : List (Shape × Symbol)) : Option MessageField :=
  (members.find? fun (member, symbol) => isMessage member symbol).map fun (member, symbol) =>
    ⟨fieldOf member, symbol.isOptional⟩

/-- The statement that writes the message. -/
def writeMessage (m : MessageField) : Fragment :=
  if m.optional then
    .braced (s!"if let Some(message) = &self.{m.name} " ++ "\x7b")
    [.line "write!(f, \": \x7b\x7d\", message)?;"]
  else .line ("write!(f, \": \x7b\x7d\", self." ++ m.name ++ ")?;")

/-- The function that shows the error. -/
def showFunction (e : ErrorText) : Code.Function where
  name := "fmt"
  visibility := .module
  params := [⟨"&self", ""⟩, ⟨"f", "&mut std::fmt::Formatter<'_>"⟩]
  returns := some "std::fmt::Result"
  body :=
    .line s!"f.write_str({Text.quote e.title})?;" :: (e.message.map writeMessage).toList ++
      [.line "Ok(())"]

def fragments (e : ErrorText) : List Fragment := [
  (({ type := e.type, trait := some "std::fmt::Display" } : Code.Implementation).method
    e.showFunction).fragment,
  .line (s!"impl std::error::Error for {e.type} " ++ "\x7b\x7d")]

end ErrorText

/-! ## Structures -/

/-- A structure, and how it is shown if it is an error. -/
structure Record where
  decl : Code.StructDecl
  error : Option ErrorText

namespace Record

/-- The field for a member. -/
def field (member : Shape) (symbol : Symbol) : Code.Field :=
  { name := fieldOf member, type := symbol.fullName, doc := member.traits.documentation }

def ofShape (b : Blueprint) (shape : Shape) (symbol : Symbol) : Except Fault Record := do
  let members ← shape.members.mapM b.member
  return {
    decl := {
      name := symbol.name
      doc := shape.traits.documentation
      fields := members.map fun (member, symbol) => field member symbol
      derives := symbol.derives.map (·.name) }
    error := if shape.traits.error.isSome then
        some ⟨symbol.name, shape.id.name, ErrorText.messageField members⟩ else none }

def fragment (r : Record) : Fragment :=
  .separated (r.decl.fragment :: (r.error.map (·.fragments)).getD [])

end Record

/-! ## Unions -/

/-- The variant for a member, which is always there when the variant is. -/
def unionVariant (member : Shape) (symbol : Symbol) : Code.Variant :=
  { name := variantOf member, payload := .tuple [symbol.required.fullName],
    doc := member.traits.documentation }

/-- The enum for a union. -/
def unionDecl (b : Blueprint) (shape : Shape) (symbol : Symbol) : Except Fault Code.EnumDecl := do
  let members ← shape.members.mapM b.member
  return {
    name := symbol.name
    doc := shape.traits.documentation
    variants := members.map fun (member, symbol) => unionVariant member symbol
    derives := symbol.derives.map (·.name) }

end SdkForge.Crate
