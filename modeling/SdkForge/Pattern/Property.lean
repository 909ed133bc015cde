import SdkForge.Pattern.AgeTable
import SdkForge.Pattern.Break
import SdkForge.Pattern.PropertyName
import SdkForge.Pattern.Syntax

/-!
# Properties of characters

`Property.codes?` finds the characters that have a property, or a value of one.
-/

namespace SdkForge.Pattern

/-- The characters of a property that is put together from others. -/
def derived? : String → Option CodeSet
  | "lower" | "lowercase" => some CodeSet.lowercase
  | "upper" | "uppercase" => some CodeSet.uppercase
  | "cased" => some CodeSet.cased
  | "alpha" | "alphabetic" => some CodeSet.alphabetic
  | "ci" | "caseignorable" => some CodeSet.caseIgnorable
  | "math" => some (CodeSet.union (feature "omath") (ofCategories ["sm"]))
  | "ids" | "idstart" => some CodeSet.nameStart
  | "idc" | "idcontinue" => some CodeSet.namePart
  | "xids" | "xidstart" =>
    some (CodeSet.difference CodeSet.nameStart
      (CodeSet.union (CodeSet.ofLines ["E33 EB3 FF9E-FF9F"]) CodeSet.unstableNamePart))
  | "xidc" | "xidcontinue" => some (CodeSet.difference CodeSet.namePart CodeSet.unstableNamePart)
  | "grext" | "graphemeextend" => some CodeSet.graphemeExtend
  | "grbase" | "graphemebase" => some CodeSet.graphemeBase
  | "cwcm" | "changeswhencasemapped" => some CodeSet.caseMapped
  | _ => none

/-! ## All properties -/

/-- The characters that a version has, which are those that came in with it and with the versions
before it. -/
def age? (name : String) : Option CodeSet :=
  (ages.find? (·.names.contains name)).map fun row =>
    let earlier := ages.takeWhile fun other => other.names != row.names
    CodeSet.unionAll ((earlier ++ [row]).map fun row => CodeSet.ofLines row.codes)

/-- The characters with a value of a property. -/
def valued? (name value : String) : Option CodeSet :=
  if ["gc", "generalcategory"].contains name then generalCategory? value
  else if ["sc", "script"].contains name then script? value
  else if ["scx", "scriptextensions"].contains name then scriptExtension? value
  else if name == "age" then age? value
  else if ["gcb", "graphemeclusterbreak"].contains name then graphemeBreak? value
  else if ["wb", "wordbreak"].contains name then wordBreak? value
  else if ["sb", "sentencebreak"].contains name then sentenceBreak? value
  else none

/-- The characters that have a property, if there is such a property. -/
def Property.codes? : Property → Option CodeSet
  | named name =>
    let name := PropertyName.normal name
    NamedCodes.find? features name <|> derived? name <|> generalCategory? name <|> script? name
  | valued name value => valued? (PropertyName.normal name) (PropertyName.normal value)

end SdkForge.Pattern
