import SdkForge.Pattern.CodeSet

/-!
# Characters as bytes

A character is written by one to four bytes. `CodeRun.paths` cuts a run of characters into paths: a
path has a range for each of the bytes, and stands for all characters that are written by bytes in
them.
-/

namespace SdkForge.Pattern

/-- The bytes from `first` to `last`. -/
structure ByteRange where
  first : Nat
  last : Nat
  deriving DecidableEq, Repr

/-- A byte range for each of the bytes of a character. -/
abbrev BytePath := List ByteRange

/-- Code points that are written by the same number of bytes: the mark of the first byte, and how
many bytes follow. -/
structure Band where
  first : Nat
  last : Nat
  mark : Nat
  more : Nat

/-- All characters. -/
def bands : List Band :=
  [⟨0, 0x7F, 0, 0⟩, ⟨0x80, 0x7FF, 0xC0, 1⟩, ⟨0x800, 0xD7FF, 0xE0, 2⟩, ⟨0xE000, 0xFFFF, 0xE0, 2⟩,
    ⟨0x10000, 0x10FFFF, 0xF0, 3⟩]

/-- The paths of the numbers from one to another, with the mark of the first byte and so many bytes
behind it, each of which holds six bits. -/
def pathsWithin (mark : Nat) : Nat → Nat → Nat → List BytePath
  | 0, first, last => [[⟨mark + first, mark + last⟩]]
  | more + 1, first, last =>
    let unit := Nat.pow 64 (more + 1)
    let low := first / unit
    let high := last / unit
    let below (lead first last : Nat) : List BytePath :=
      (pathsWithin 0x80 more first last).map (⟨mark + lead, mark + lead⟩ :: ·)
    if low = high then below low (first % unit) (last % unit)
    else
      let head := if first % unit = 0 then [] else below low (first % unit) (unit - 1)
      let tail := if last % unit = unit - 1 then [] else below high 0 (last % unit)
      let low := if head.isEmpty then low else low + 1
      let high := if tail.isEmpty then high else high - 1
      let whole : BytePath := ⟨mark + low, mark + high⟩ :: List.replicate (more + 1) ⟨0x80, 0xBF⟩
      head ++ (if low ≤ high then [whole] else []) ++ tail

/-- The paths of the characters of a run, in increasing order. -/
def CodeRun.paths (run : CodeRun) : List BytePath :=
  bands.flatMap fun band =>
    let first := max run.first band.first
    let last := min run.last band.last
    let base := if band.more = 0 then 0 else band.mark
    if first ≤ last then pathsWithin base band.more first last else []

/-- The paths of the characters of a set, in increasing order. -/
def CodeSet.paths (set : CodeSet) : List BytePath := set.flatMap CodeRun.paths

/-- Paths by the range that they start with, each with what is behind it. Paths that start with the
same range stand side by side. -/
def byFirst : List BytePath → List (ByteRange × List BytePath)
  | [] => []
  | [] :: rest => byFirst rest
  | (range :: path) :: rest => match byFirst rest with
    | [] => [(range, [path])]
    | (other, paths) :: more =>
      if range = other then (other, path :: paths) :: more
        else (range, [path]) :: (other, paths) :: more

end SdkForge.Pattern
