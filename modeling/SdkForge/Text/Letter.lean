import SdkForge.Text.LetterTable
import SdkForge.Text.WordTable

/-!
# Letters and their case

Capital and small letters, and the case mappings, over all of Unicode. ASCII is decided here;
everything beyond is read from `LetterTable` and `WordTable`. A letter may map to several (`ß` to
`SS`), so a mapping gives a list.
-/

namespace SdkForge.Text

open LetterTable

/-! ## Properties -/

/-- A capital letter. -/
def isUpper (c : Char) : Bool :=
  if c.toNat < 128 then 'A' ≤ c && c ≤ 'Z' else inRuns uppercase c

/-- A small letter. -/
def isLower (c : Char) : Bool :=
  if c.toNat < 128 then 'a' ≤ c && c ≤ 'z' else inRuns lowercase c

/-- A letter that has a case. -/
def isCased (c : Char) : Bool := isUpper c || isLower c || inRuns titlecase c

/-- A character that a look for a neighbouring letter passes over. -/
def isCaseIgnorable (c : Char) : Bool :=
  if c.toNat < 128 then ['\'', '.', ':', '^', '`'].contains c else inRuns ignorable c

/-- A letter, with or without a case, or a mark that belongs to one. -/
def isAlphabetic (c : Char) : Bool :=
  if c.toNat < 128 then c.isAlpha else inRuns WordTable.alphabetic c

/-- A letter or a number. -/
def isAlphanumeric (c : Char) : Bool :=
  if c.toNat < 128 then c.isAlphanum else isAlphabetic c || inRuns WordTable.numeric c

/-! ## Mappings -/

/-- Where a table sends a character: itself when the table does not name it. -/
def mapBy (runs : List CaseRun) (long : List (Nat × List Nat)) (c : Char) : List Char :=
  match long.find? (·.1 == c.toNat) with
  | some (_, codes) => codes.map Char.ofNat
  | none => match runs.find? (·.run.holds c.toNat) with
    | some found => [Char.ofNat (c.toNat + found.shift).toNat]
    | none => [c]

/-- The capital form of a character. -/
def upper (c : Char) : List Char :=
  if c.toNat < 128 then [c.toUpper] else mapBy toUpper toUpperLong c

/-- The small form of a character, wherever it stands. -/
def lower (c : Char) : List Char :=
  if c.toNat < 128 then [c.toLower] else mapBy toLower toLowerLong c

/-- The small form of a text. A capital sigma that ends a word becomes the final one. -/
def lowerText (text : List Char) : List Char :=
  go [] text
where
  /-- `before` is what has been read, last character first. -/
  go (before : List Char) : List Char → List Char
    | [] => []
    | c :: rest =>
      (if c = 'Σ' && endsWord before rest then ['ς'] else lower c) ++ go (c :: before) rest
  /-- A cased letter stands before, and none after. -/
  endsWord (before after : List Char) : Bool :=
    nextCased before && !nextCased after
  /-- Whether the first character that is not passed over is a cased letter. -/
  nextCased (text : List Char) : Bool :=
    ((text.dropWhile isCaseIgnorable).head?.map isCased).getD false

end SdkForge.Text
