/-!
# Names for crates

A crate's name has letters, digits, underscores and dashes. It starts with a letter or underscore,
has no two dashes in a row and none at its end, and is no keyword, also when its dashes are read as
underscores.
-/

namespace SdkForge.Manifest

/-- The words that the language keeps for itself, now or later. -/
def keywords : List String := [
  "as", "async", "await", "break", "const", "continue", "crate", "dyn", "else", "enum", "extern",
  "false", "fn", "for", "gen", "if", "impl", "in", "let", "loop", "match", "mod", "move", "mut",
  "pub", "ref", "return", "self", "Self", "static", "struct", "super", "trait", "true", "type",
  "unsafe", "use", "where", "while", "abstract", "become", "box", "do", "final", "macro",
  "override", "priv", "try", "typeof", "unsized", "virtual", "yield", "union"]

def isKeyword (name : String) : Bool := keywords.contains name

/-- Why a text is no name. -/
inductive NameFault where
  | keyword | empty | becomesKeyword | badStart | dashes | badCharacter | endsInDash
  deriving DecidableEq, Repr

def NameFault.reason : NameFault → String
  | .keyword => "name is a Rust reserved keyword"
  | .empty => "name cannot be empty"
  | .becomesKeyword => "name converts to a Rust reserved keyword"
  | .badStart => "name must start with a letter or underscore"
  | .dashes => "name cannot contain consecutive dashes"
  | .badCharacter => "name must contain only letters, numbers, underscores, and dashes"
  | .endsInDash => "name cannot end with a dash"

/-- What is wrong with the characters of a name after the first; `dash` says that the one before is
a dash. -/
def restFault? (dash : Bool) : List Char → Option NameFault
  | [] => if dash then some .endsInDash else none
  | c :: rest =>
    if c = '-' then if dash then some .dashes else restFault? true rest
    else if c.isAlphanum || c == '_' then restFault? false rest
    else some .badCharacter

/-- A crate's name as code spells it: with underscores for dashes. -/
def identOf (name : String) : String :=
  String.ofList (name.toList.map fun c => if c = '-' then '_' else c)

/-- What is wrong with a name. -/
def nameFault? (name : String) : Option NameFault :=
  if isKeyword name then some .keyword
  else match name.toList with
    | [] => some .empty
    | c :: rest =>
      if isKeyword (identOf name) then some .becomesKeyword
      else if c.isAlpha || c == '_' then restFault? false rest
      else some .badStart

end SdkForge.Manifest
