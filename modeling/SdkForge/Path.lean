import SdkForge.Text.Split

/-!
# Paths

A path is a text with `/` between its parts. `Path.join` puts one path after another, and
`Path.parent?` takes off the last part. Neither looks at what is stored.
-/

namespace SdkForge.Path

/-- One path after another. A path from the root stands for itself. -/
def join (base path : String) : String :=
  if path.startsWith "/" then path
  else if base.isEmpty || base.endsWith "/" then base ++ path
  else base ++ "/" ++ path

/-- A path by its characters, last one first, without the `/` and `/.` that end it. -/
def trimEnd : List Char → List Char
  | ['/'] => ['/']
  | '/' :: rest => trimEnd rest
  | ['.', '/'] => ['/']
  | '.' :: '/' :: rest => trimEnd rest
  | path => path

/-- The path without its last part; nothing for a path that has none. -/
def parent? (path : String) : Option String :=
  match trimEnd path.toList.reverse with
  | [] | ['/'] => none
  | rest => some (String.ofList (trimEnd (rest.dropWhile (· != '/'))).reverse)

/-- The parts of a path, without empty ones and `.`. -/
def parts (path : String) : List String :=
  ((Text.splitAll (· == '/') path.toList).filter fun part => part ≠ [] ∧
    part ≠ ['.']).map String.ofList

/-- Whether the path can only name a directory. -/
def namesDirectory (path : String) : Bool :=
  match path.toList.reverse with
  | [] | '/' :: _ | ['.'] | '.' :: '/' :: _ => true
  | _ => false

end SdkForge.Path
