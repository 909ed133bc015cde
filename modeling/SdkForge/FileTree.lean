import SdkForge.OrderedMap
import SdkForge.Path

/-!
# Trees of files

The files below one directory, by the path that leads to them from there. A path is followed part by
part: `..` leads back out of a directory that is there, and nothing is found beyond the top.
-/

namespace SdkForge

/-- The files below a directory. -/
structure FileTree where
  /-- The path of the directory. -/
  top : String
  /-- The texts of the files, by their path from the top, in which each part is a name. -/
  files : OrderedMap String String := .empty
  /-- The directories that were made, by the names that lead to them. There may be files below them
  or not. -/
  made : List (List String) := []

namespace FileTree

/-- A path by the names that lead along it. -/
def pathOf (names : List String) : String := "/".intercalate names

/-- Whether there is a directory: the top, one that was made, or one that a file lies below. -/
def isDirectory (tree : FileTree) (names : List String) : Bool :=
  names.isEmpty || tree.made.contains names ||
    tree.files.keys.any fun file => names.isPrefixOf (Path.parts file) && names != Path.parts file

/-- The parts of a path below the top. -/
def partsBelow? (tree : FileTree) (path : String) : Option (List String) :=
  if path.startsWith "/" || (tree.top ≠ "" && path.startsWith tree.top) then
    let top := Path.parts tree.top
    if tree.top ≠ "" ∧ top.isPrefixOf (Path.parts path) then
      some ((Path.parts path).drop top.length) else none
  else some (Path.parts path)

/-- Follows the parts of a path from a directory; all but the last have to be directories. -/
def follow (tree : FileTree) : List String → List String → Option (List String)
  | here, [] => some here
  | here, part :: rest =>
    if !tree.isDirectory here then none
    else if part = ".." then if here.isEmpty then none else follow tree here.dropLast rest
    else follow tree (here ++ [part]) rest

/-- The names that a path leads along, if it stays below the top. -/
def resolve? (tree : FileTree) (path : String) : Option (List String) :=
  (tree.partsBelow? path).bind (tree.follow [])

/-- The text of a file. -/
def read? (tree : FileTree) (path : String) : Option String := do
  if Path.namesDirectory path then none
  else tree.files.get? (pathOf (← tree.resolve? path))

/-- Whether a path leads to something. -/
def has (tree : FileTree) (path : String) : Bool :=
  (tree.resolve? path).any fun names => tree.isDirectory names || tree.files.contains (pathOf names)

/-- The path of what a path leads to, from the root and without `..`. -/
def locate (tree : FileTree) (path : String) : String :=
  ((tree.resolve? path).map fun names => Path.join tree.top (pathOf names)).getD path

/-! ## Writing -/

/-- Where a path leads if directories are made along it. -/
inductive Spot where
  | below (names : List String)
  /-- Out of the tree. -/
  | outside
  /-- To a file that would have to be a directory. -/
  | blocked
  deriving DecidableEq, Repr

/-- Follows the parts of a path from a directory, and makes the directories that are not there. -/
def approach (tree : FileTree) : List String → List String → FileTree × Spot
  | here, [] => (tree, .below here)
  | here, part :: rest =>
    if part = ".." then if here.isEmpty then (tree, .outside) else approach tree here.dropLast rest
    else
      let next := here ++ [part]
      if tree.files.contains (pathOf next) then (tree, .blocked)
      else approach (if tree.made.contains next then tree
        else { tree with made := next :: tree.made }) next rest

/-- The tree with a file of this text, unless something else stands in its way. What is outside is
not kept. -/
def write? (tree : FileTree) (path text : String) : Option FileTree :=
  match tree.partsBelow? path with
  | none => some tree
  | some parts =>
    match tree.approach [] parts.dropLast with
    | (tree, .outside) => some tree
    | (_, .blocked) => none
    | (tree, .below directory) =>
      let names := directory ++ parts.getLast?.toList
      if tree.isDirectory names then none
      else some { tree with files := tree.files.insert (pathOf names) text }

/-- The tree below a directory with these files, which are given by their paths. -/
def ofList (top : String) (files : List (String × String)) : FileTree :=
  files.foldl (fun tree (path, text) => (tree.write? path text).getD tree) { top }

end FileTree

end SdkForge
