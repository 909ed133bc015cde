import SdkForge.Text.Case

/-!
# Names in the generated code

A type takes its name in Pascal case and a field in snake case. A name that the language keeps for
itself is escaped: a type by a suffix, a field by the raw form `r#name`, and the few words that have
no raw form by an underscore.
-/

namespace SdkForge.Naming

open Text

/-! ## Reserved words -/

/-- The words that cannot be a field's name. -/
def reservedWords : List String := [
  "as", "async", "await", "break", "const", "continue", "crate", "dyn", "else", "enum", "extern",
  "false", "fn", "for", "if", "impl", "in", "let", "loop", "match", "mod", "move", "mut", "pub",
  "ref", "return", "self", "Self", "static", "struct", "super", "trait", "true", "type", "unsafe",
  "use", "where", "while", "abstract", "become", "box", "do", "final", "macro", "override", "priv",
  "try", "typeof", "unsized", "virtual", "yield", "gen"]

/-- The reserved words that have no raw form. -/
def wordsWithoutRawForm : List String := ["self", "Self", "super", "crate"]

/-- The type names that generated code needs in their usual sense. -/
def reservedTypes : List String :=
  ["Self", "Option", "Result", "Box", "Vec", "String", "Send", "Sync"]

def isReserved (name : String) : Bool := reservedWords.contains name

def isReservedType (name : String) : Bool := reservedTypes.contains name

/-! ## Names -/

/-- Another name for a field that would be a reserved word. -/
def escapeField (name : String) : String :=
  if wordsWithoutRawForm.contains name then name ++ "_" else "r#" ++ name

/-- Another name for a type that would hide a reserved one. -/
def escapeType (name : String) : String := name ++ "Value"

/-- The type that a shape's name gives. -/
def typeName (name : String) : String :=
  let pascal := pascalCase name
  if isReservedType pascal then escapeType pascal else pascal

/-- The field that a member's or operation's name gives. -/
def fieldName (name : String) : String :=
  let snake := snakeCase name
  if isReserved snake then escapeField snake else snake

end SdkForge.Naming
