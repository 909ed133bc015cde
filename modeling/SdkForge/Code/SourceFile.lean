import SdkForge.Code.Function

/-!
# Source files

A source file has documentation, attributes and items, with an empty line between its sections.
-/

namespace SdkForge.Code

/-- A source file. -/
structure SourceFile where
  doc : Option String := none
  attributes : List Fragment := []
  body : List Fragment := []
  deriving Inhabited

namespace SourceFile

/-- Adds attributes that write something. -/
def addAttribute (f : SourceFile) (a : Fragment) : SourceFile :=
  if a.isEmpty then f else { f with attributes := f.attributes ++ [a] }

/-- Adds an item that writes something. -/
def add (f : SourceFile) (item : Fragment) : SourceFile :=
  if item.isEmpty then f else { f with body := f.body ++ [item] }

/-- Adds items. -/
def addAll (f : SourceFile) (items : List Fragment) : SourceFile := items.foldl add f

def isEmpty (f : SourceFile) : Bool := f.doc.isNone && f.attributes.isEmpty && f.body.isEmpty

/-- The lines of the file's documentation. -/
def docLines (doc : String) : Fragment :=
  .seq ((Text.lines doc.toList).map fun l => .line (Writer.commentLine "//!" l))

/-- The sections of the file. -/
def sections (f : SourceFile) : List Fragment :=
  (f.doc.map docLines).toList ++ (if f.attributes.isEmpty then [] else [.seq f.attributes]) ++
    f.body

def fragment (f : SourceFile) : Fragment := .separated f.sections

def render (f : SourceFile) : String := f.fragment.render

end SourceFile

end SdkForge.Code
