import SdkForge.Text.Blank
import SdkForge.Text.Split

/-!
# Fragments of code

A fragment is a piece of code that does not know how deep it will stand: lines, blocks and groups of
fragments. A `Writer` puts fragments into a text at a level of indentation that blocks raise and
lower again.
-/

namespace SdkForge

/-- A piece of code. -/
inductive Fragment where
  /-- One line at the current level. -/
  | line (text : String)
  /-- An empty line. -/
  | blank
  /-- Text as it is, without indentation or line end. -/
  | raw (text : String)
  /-- Lines at the current level; those that hold white space only become empty. -/
  | text (text : String)
  /-- A header, a body one level deeper, and a closing line. -/
  | block (header : String) (body : List Fragment) (close : Option String)
  /-- Fragments one level deeper. -/
  | indent (body : List Fragment)
  /-- Fragments one after the other. -/
  | seq (parts : List Fragment)
  /-- A documentation comment. -/
  | doc (text : String)
  deriving BEq, Inhabited, Repr

namespace Fragment

/-- A block that a brace closes. -/
def braced (header : String) (body : List Fragment) : Fragment := .block header body (some "\x7d")

/-- One line per text. -/
def lines (texts : List String) : List Fragment := texts.map .line

mutual
/-- Whether the fragment writes nothing. -/
def isEmpty : Fragment → Bool
  | .raw s | .text s => s.isEmpty
  | .indent body => allEmpty body
  | .seq parts => allEmpty parts
  | .line _ | .blank | .block .. | .doc _ => false
/-- Whether all of the fragments write nothing. -/
def allEmpty : List Fragment → Bool
  | [] => true
  | f :: rest => f.isEmpty && allEmpty rest
end

/-- The parts with an empty line between neighbours. -/
def separated (parts : List Fragment) : Fragment := .seq (parts.intersperse .blank)

end Fragment

/-! ## Writing -/

/-- What one level of indentation is written as. -/
structure Indent where
  unit : String
  deriving DecidableEq, Repr

namespace Indent

/-- As many blanks as asked for, eight at most. -/
def spaces (width : Nat) : Indent := ⟨String.ofList (List.replicate (min width 8) ' ')⟩

def tab : Indent := ⟨"\t"⟩

/-- The indentation of generated code. -/
def standard : Indent := spaces 4

instance : Inhabited Indent := ⟨standard⟩

/-- The white space before a line at a level. -/
def atLevel (i : Indent) (level : Nat) : String := String.join (List.replicate level i.unit)

end Indent

/-- A text being written, and the level at which the next line goes. -/
structure Writer where
  indent : Indent
  level : Nat := 0
  text : String := ""

namespace Writer

/-- Adds text as it is. -/
def raw (w : Writer) (s : String) : Writer := { w with text := w.text ++ s }

/-- Adds a line at the current level. -/
def line (w : Writer) (s : String) : Writer := w.raw (w.indent.atLevel w.level ++ s ++ "\n")

/-- Adds an empty line. -/
def blank (w : Writer) : Writer := w.raw "\n"

/-- Goes one level deeper. -/
def deeper (w : Writer) : Writer := { w with level := w.level + 1 }

/-- Goes one level up; the outermost level is its own upper one. -/
def shallower (w : Writer) : Writer := { w with level := w.level - 1 }

/-- Adds the lines of a text, and an empty line for each that holds white space only. -/
def textLines (w : Writer) (s : String) : Writer :=
  (Text.lines s.toList).foldl (fun w l => if Text.allBlank l then w.blank
    else w.line (String.ofList l)) w

/-- A line of a comment: the mark, and the text after a blank where there is one. -/
def commentLine (mark : String) (l : List Char) : String :=
  if l = [] then mark else mark ++ " " ++ String.ofList l

/-- Adds a documentation comment. -/
def doc (w : Writer) (s : String) : Writer :=
  if s.isEmpty then w.line "///"
  else (Text.lines s.toList).foldl (fun w l => w.line (commentLine "///" l)) w

mutual
/-- Adds a fragment. -/
def put (w : Writer) : Fragment → Writer
  | .line s => w.line s
  | .blank => w.blank
  | .raw s => w.raw s
  | .text s => w.textLines s
  | .block header body close =>
    let w := (((w.line header).deeper).putAll body).shallower
    match close with
    | some s => w.line s
    | none => w
  | .indent body => (w.deeper.putAll body).shallower
  | .seq parts => w.putAll parts
  | .doc s => w.doc s
/-- Adds fragments one after the other. -/
def putAll (w : Writer) : List Fragment → Writer
  | [] => w
  | f :: rest => (w.put f).putAll rest
end

end Writer

/-- The text of a fragment that stands at the outermost level. -/
def Fragment.render (f : Fragment) : String := (({ indent := .standard } : Writer).put f).text

end SdkForge
