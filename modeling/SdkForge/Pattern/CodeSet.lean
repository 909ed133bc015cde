import SdkForge.Text.Hex
import SdkForge.Text.Split

/-!
# Sets of characters

A set of characters is the list of its runs of code points, in increasing order and with a gap
between any two of them. `CodeSet.insert` keeps that order, and all sets are built by it or from
sets in order.
-/

namespace SdkForge.Pattern

/-- The code points from `first` to `last`. -/
structure CodeRun where
  first : Nat
  last : Nat
  deriving DecidableEq, Repr

/-- A set of characters. -/
abbrev CodeSet := List CodeRun

namespace CodeSet

/-- The greatest code point. -/
def maxCode : Nat := 0x10FFFF

/-- All characters. -/
def everything : CodeSet := [⟨0, maxCode⟩]

/-! ## Operations -/

/-- The set with a run, which takes in the runs that it meets. -/
def insert (run : CodeRun) : CodeSet → CodeSet
  | [] => [run]
  | other :: rest =>
    if run.last + 1 < other.first then run :: other :: rest
    else if other.last + 1 < run.first then other :: insert run rest
    else insert ⟨min run.first other.first, max run.last other.last⟩ rest

/-- The set of the characters in any of the runs. -/
def ofRuns (runs : List CodeRun) : CodeSet := runs.foldr insert []

/-- The set of one character. -/
def ofChar (c : Char) : CodeSet := [⟨c.toNat, c.toNat⟩]

def union (a b : CodeSet) : CodeSet := a.foldr insert b

/-- The characters of all of the sets. -/
def unionAll (sets : List CodeSet) : CodeSet := sets.foldr union []

def intersection (a b : CodeSet) : CodeSet :=
  a.flatMap fun r => b.filterMap fun s =>
    let first := max r.first s.first
    let last := min r.last s.last
    if first ≤ last then some ⟨first, last⟩ else none

/-- Whether a code point is half of a surrogate pair, which is no character. -/
def isSurrogate (code : Nat) : Bool := 0xD800 ≤ code && code ≤ 0xDFFF

/-- The characters between two code points, which do not belong to them, and which may be
surrogates. -/
def between (first last : Nat) : CodeSet :=
  let first := if isSurrogate first then 0xE000 else first
  let last := if isSurrogate last then 0xD7FF else last
  if first ≤ last then [⟨first, last⟩] else []

/-- The characters from a code point on that are not in the set. -/
def complementFrom (code : Nat) : CodeSet → CodeSet
  | [] => between code maxCode
  | r :: rest =>
    (if code < r.first then between code (r.first - 1) else []) ++ complementFrom (r.last + 1) rest

/-- The characters that are not in the set. -/
def complement (set : CodeSet) : CodeSet := complementFrom 0 set

def difference (a b : CodeSet) : CodeSet := intersection a (complement b)

def symmetricDifference (a b : CodeSet) : CodeSet := difference (union a b) (intersection a b)

/-- Whether the set holds a code point. -/
def contains (set : CodeSet) (code : Nat) : Bool := set.any fun r => r.first ≤ code && code ≤ r.last

/-- Whether the set holds characters of ASCII only. -/
def isAscii (set : CodeSet) : Bool := set.all (·.last < 0x80)

/-! ## Reading -/

/-- The runs that a word writes: a code point, or the code points from one to another, each of them
or, with a `/2` behind, every other one. -/
def runsOfWord (word : List Char) : List CodeRun :=
  let (range, sparse) := match Text.splitFirst '/' word with
    | some (range, _) => (range, true)
    | none => (word, false)
  let (first, last) := (Text.splitFirst '-' range).getD (range, range)
  let first := (Text.hexNumber? first).getD 0
  let last := (Text.hexNumber? last).getD 0
  if sparse then (List.range ((last - first) / 2 + 1)).map fun k => ⟨first + 2 * k, first + 2 * k⟩
    else [⟨first, last⟩]

/-- The words of lines, with blanks between them. -/
def words (lines : List String) : List (List Char) :=
  lines.flatMap fun line => Text.splitAll (· == ' ') line.toList

/-- The set that lines of words write. -/
def ofLines (lines : List String) : CodeSet := ofRuns ((words lines).flatMap runsOfWord)

end CodeSet

/-! ## Sets with names -/

/-- A set of characters, written out, with the names that it has. -/
structure NamedCodes where
  names : List String
  codes : List String

namespace NamedCodes

/-- The set with a name. -/
def find? (table : List NamedCodes) (name : String) : Option CodeSet :=
  (table.find? (·.names.contains name)).map fun row => CodeSet.ofLines row.codes

/-- The set with a name, which is empty if there is none. -/
def get (table : List NamedCodes) (name : String) : CodeSet := (find? table name).getD []

end NamedCodes

end SdkForge.Pattern
