import SdkForge.Pattern.CodeSet
import SdkForge.Pattern.FoldTable

/-!
# Sets where case does not count

Letters that differ by case only have one letter that stands for them. `CodeSet.closeCase` adds to a
set all letters that are the same as one of its own.
-/

namespace SdkForge.Pattern

/-- The letters that a word of the table writes, each with the one that stands for it. -/
def foldsOfWord (word : List Char) : List (Nat × Nat) :=
  match Text.splitFirst '>' word with
  | some (letters, image) =>
    let runs := CodeSet.runsOfWord letters
    let first := (runs.head?.map (·.first)).getD 0
    let image := (Text.hexNumber? image).getD 0
    runs.flatMap fun r => (List.range (r.last + 1 - r.first)).map fun k =>
      (r.first + k, r.first + k - first + image)
  | none => []

/-- Each letter that another one stands for, with that one. -/
def folds : List (Nat × Nat) := (CodeSet.words foldCodes).flatMap foldsOfWord

namespace CodeSet

/-- The set with all letters that differ from one of its own by case only. -/
def closeCase (set : CodeSet) : CodeSet :=
  let images :=
    folds.filterMap fun (code, image) => if set.contains code then some ⟨image, image⟩ else none
  let set := union images set
  let letters :=
    folds.filterMap fun (code, image) => if set.contains image then some ⟨code, code⟩ else none
  union letters set

/-- The set with the letters of ASCII that differ from one of its own by case only. -/
def closeAsciiCase (set : CodeSet) : CodeSet :=
  let shifted (from' to' : Nat) (set : CodeSet) : CodeSet :=
    (intersection set [⟨from', from' + 25⟩]).map fun r =>
      ⟨r.first - from' + to', r.last - from' + to'⟩
  union (shifted 0x41 0x61 set) (union (shifted 0x61 0x41 set) set)

end CodeSet

end SdkForge.Pattern
