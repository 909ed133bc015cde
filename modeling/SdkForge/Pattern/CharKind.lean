import SdkForge.Pattern.CategoryTable
import SdkForge.Pattern.FeatureTable
import SdkForge.Pattern.ScriptTable

/-!
# Kinds of characters

The characters of a category, of a script, of a feature that is listed, and the sets that are put
together from these: a capital letter is one by its category, or because it is listed as one.
-/

namespace SdkForge.Pattern

/-! ## Categories -/

/-- The code points that have no character. -/
def unassigned : CodeSet :=
  (CodeSet.unionAll (categories.map fun row => CodeSet.ofLines row.codes)).complement

/-- The characters of a category that is not put together from others. -/
def category? (name : String) : Option CodeSet :=
  if ["cn", "unassigned"].contains name then some unassigned else NamedCodes.find? categories name

/-- The characters of any of the categories. -/
def ofCategories (names : List String) : CodeSet := CodeSet.unionAll (names.filterMap category?)

/-- The characters of a category or of a group of them. -/
def generalCategory? (name : String) : Option CodeSet :=
  match name with
  | "any" => some CodeSet.everything
  | "assigned" => some unassigned.complement
  | "ascii" => some [⟨0, 0x7F⟩]
  | _ => match categoryGroups.find? (·.1.contains name) with
    | some (_, members) => some (ofCategories members)
    | none => category? name

/-! ## Scripts -/

/-- The characters of a script. -/
def script? (name : String) : Option CodeSet := NamedCodes.find? scripts name

/-- The characters that are used with a script. -/
def scriptExtension? (name : String) : Option CodeSet := do
  let row ← scripts.find? (·.names.contains name)
  let key ← row.names.head?
  match NamedCodes.find? unscripted key with
  | some set => return set
  | none => return CodeSet.union (NamedCodes.get scriptGuests key) (CodeSet.ofLines row.codes)

/-! ## Properties that a character has or not -/

/-- The characters that are listed with a property. -/
def feature (name : String) : CodeSet := NamedCodes.get features name

namespace CodeSet

def lowercase : CodeSet := union (feature "olower") (ofCategories ["ll"])
def uppercase : CodeSet := union (feature "oupper") (ofCategories ["lu"])

/-- Letters that have a case. -/
def cased : CodeSet := unionAll [lowercase, uppercase, ofCategories ["lt"]]

/-- Letters, and marks that belong to one. -/
def alphabetic : CodeSet := unionAll [feature "oalpha", cased, ofCategories ["lm", "lo", "nl"]]

/-- What a look for a neighbouring letter passes over. -/
def caseIgnorable : CodeSet :=
  union (ofLines ["27 2E 3A B7 387 55F 5F4 2018-2019 2024 2027 FE13 FE52 FE55 FF07 FF0E FF1A"])
    (ofCategories ["mn", "me", "cf", "lm", "sk"])

/-- Marks and signs that names do not hold. -/
def patternSigns : CodeSet := union (feature "patsyn") (feature "patws")

/-- What a name can start with. -/
def nameStart : CodeSet :=
  difference (unionAll [feature "oids", ofCategories ["lu", "ll", "lt", "lm", "lo", "nl"]])
    patternSigns

/-- What a name can hold. -/
def namePart : CodeSet :=
  difference (unionAll [feature "oidc", nameStart, ofCategories ["mn", "mc", "nd", "pc"]])
    patternSigns

/-- Names that stay names in a canonical form leave these out. -/
def unstableNamePart : CodeSet := ofLines ["37A 309B-309C FC5E-FC63 FDFA-FDFB FE70-FE7E/2"]

/-- What extends the character before it. -/
def graphemeExtend : CodeSet := union (feature "ogrext") (ofCategories ["me", "mn"])

/-- What stands for itself. -/
def graphemeBase : CodeSet :=
  complement (unionAll [graphemeExtend, unassigned, ofCategories ["cc", "cf", "co", "zl", "zp"]])

/-- The characters whose form depends on case. -/
def caseMapped : CodeSet := unionAll [feature "cwl", feature "cwt", feature "cwu"]

/-- The characters of words: letters, marks, digits and what joins them. -/
def word : CodeSet :=
  unionAll [feature "joinc", alphabetic, ofCategories ["mn", "mc", "me", "nd", "pc"]]

end CodeSet

end SdkForge.Pattern
