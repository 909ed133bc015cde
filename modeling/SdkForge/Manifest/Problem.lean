import SdkForge.Manifest.Name
import SdkForge.ShapeId
import SdkForge.Version

/-!
# What can be wrong with a manifest

A problem points at places in the manifest's text where it can: `labels` gives the places, `message`
and `help` the words.
-/

namespace SdkForge.Manifest

/-- A stretch of a text, in bytes. -/
structure Span where
  start : Nat
  length : Nat
  deriving DecidableEq, Repr

/-- Why the entries of a document are no manifest. -/
inductive Misfit where
  /-- A value is of another type than its field, or a list is too short. -/
  | wrongType
  | missingField (name : String)
  | unknownField (name : String) (expected : List String)
  | unknownVariant (name : String) (expected : List String)
  /-- A variant comes with something inside. -/
  | variantHolds (expected : String)
  | badShapeId (text : String) (fault : ShapeId.Fault)
  | badVersion (text : String) (fault : Version.Fault)
  deriving DecidableEq, Repr

namespace Misfit

/-- Names in backquotes, as a choice. -/
def choice (names : List String) : String :=
  match names.map fun name => "`" ++ name ++ "`" with
  | [a] => a
  | [a, b] => a ++ " or " ++ b
  | quoted => "one of " ++ ", ".intercalate quoted

/-- What is wrong, where it has words of its own. -/
def message? : Misfit → Option String
  | wrongType => none
  | missingField name => some s!"missing field `{name}`"
  | unknownField name expected => some s!"unknown field `{name}`, expected {choice expected}"
  | unknownVariant name expected => some s!"unknown variant `{name}`, expected {choice expected}"
  | variantHolds expected => some s!"expected {expected}"
  | badShapeId text fault => some s!"invalid shape id `{text}`: {fault.reason}"
  | badVersion text fault => some (fault.message text)

end Misfit

/-- What is wrong with a manifest. -/
inductive Problem where
  /-- A file cannot be read. -/
  | unreadable (path : String)
  /-- The text is no TOML, or holds something else than a manifest. -/
  | unparsable (file : String) (misfit : Option Misfit)
  | duplicateDecorator (name : String) (first second : Span)
  | invalid (message : String) (span : Option Span)
  /-- A name is a keyword; `context` says what the name is for. -/
  | reservedKeyword (name context : String) (span : Option Span)
  | invalidIdentifier (name context : String) (fault : NameFault) (span : Option Span)
  deriving DecidableEq, Repr

namespace Problem

def message : Problem → String
  | unreadable path => s!"failed to read '{path}'"
  | unparsable .. => "failed to parse kiln.toml"
  | duplicateDecorator name .. => s!"decorator '{name}' is enabled twice"
  | invalid message _ => message
  | reservedKeyword name .. => s!"'{name}' is a Rust reserved keyword"
  | invalidIdentifier name context .. => s!"invalid {context} '{name}'"

/-- What to do about it. -/
def help? : Problem → Option String
  | unreadable _ => some "pass the manifest location with '--config <path>'"
  | duplicateDecorator name .. =>
    some s!"remove one of the '{name}' entries from [decorators].enabled"
  | reservedKeyword name context _ =>
    some s!"rename the {context} to something else, e.g. '{name}_sdk'"
  | invalidIdentifier _ _ fault _ => some (fault.reason ++
      ". Use only letters, numbers, underscores and dashes, starting with a letter or underscore.")
  | unparsable .. | invalid .. => none

def code : Problem → String
  | unreadable _ => "kiln::io"
  | unparsable .. => "kiln::parse_error"
  | duplicateDecorator .. => "kiln::duplicate_decorator"
  | invalid .. => "kiln::validation_error"
  | reservedKeyword .. => "kiln::reserved_keyword"
  | invalidIdentifier .. => "kiln::invalid_identifier"

/-- The places in the text, each with what there is to say. -/
def labels : Problem → List (String × Span)
  | duplicateDecorator _ first second =>
    [("first enabled here", first), ("enabled again here", second)]
  | invalid message span => span.toList.map fun s => (message, s)
  | reservedKeyword _ _ span => span.toList.map fun s => ("reserved keyword used here", s)
  | invalidIdentifier _ _ _ span => span.toList.map fun s => ("invalid identifier", s)
  | unreadable _ | unparsable .. => []

/-- What the name is for, where the problem is with a name. -/
def context? : Problem → Option String
  | reservedKeyword _ context _ | invalidIdentifier _ context .. => some context
  | _ => none

end Problem

end SdkForge.Manifest
