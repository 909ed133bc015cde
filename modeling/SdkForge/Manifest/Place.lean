import SdkForge.Manifest.Problem

/-!
# Places in a manifest

A check knows the manifest's text and the table it looks at. It points at a value by looking for the
value in double quotes, so a value that the text spells in another way has no span.
-/

namespace SdkForge.Manifest

/-- Where in `text` the pieces equal to `needle` start, in bytes; `skip` characters belong to the
last one found. -/
def occurrences (needle : List Char) (skip offset : Nat) : List Char → List Nat
  | [] => []
  | c :: rest =>
    match skip with
    | skip + 1 => occurrences needle skip (offset + c.utf8Size) rest
    | 0 =>
      if needle.isPrefixOf (c :: rest) then
        offset :: occurrences needle (needle.length - 1) (offset + c.utf8Size) rest
      else occurrences needle 0 (offset + c.utf8Size) rest

/-- Where a check looks: the text of the manifest, and the path of the table in it. -/
structure Place where
  source : String
  path : List String := []
  deriving Repr

namespace Place

/-- A table inside this one. -/
def push (p : Place) (segment : String) : Place := { p with path := p.path ++ [segment] }

/-- The path of the table as a key. -/
def pathText (p : Place) : String := ".".intercalate p.path

/-- What a value is for, and where it stands. -/
def context (p : Place) (kind : String) : String :=
  if p.path.isEmpty then kind else s!"{kind} in '{p.pathText}'"

/-- Where a value stands in quotes. -/
def spans (p : Place) (value : String) : List Span :=
  (occurrences ('"' :: value.toList ++ ['"']) 0 0 p.source.toList).map fun start =>
    ⟨start + 1, value.utf8ByteSize⟩

/-- Where a value stands first. -/
def span? (p : Place) (value : String) : Option Span := (p.spans value).head?

/-- A problem with a value. -/
def invalid (p : Place) (message value : String) : Problem := .invalid message (p.span? value)

/-- Checks a name. -/
def checkName (p : Place) (name kind : String) : Except Problem Unit :=
  match nameFault? name with
  | none => .ok ()
  | some .keyword => .error (.reservedKeyword name (p.context kind) (p.span? name))
  | some fault => .error (.invalidIdentifier name (p.context kind) fault (p.span? name))

end Place

end SdkForge.Manifest
