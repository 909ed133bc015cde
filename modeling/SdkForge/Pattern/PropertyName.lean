/-!
# Names of character properties

The form in which names are looked up: case, blanks, `-`, `_` and an `is` in front do not count.
-/

namespace SdkForge.Pattern.PropertyName

/-- A character of a name as it counts, if it does. -/
def significant (c : Char) : Option Char :=
  if c == ' ' || c == '_' || c == '-' || 0x80 ≤ c.toNat then none else some c.toLower

/-- The form under which a name is listed. An `is` in front does not count, but the name `isc` is
not that of the category `c`. -/
def normal (name : String) : String :=
  match name.toList with
  | a :: b :: rest =>
    if a.toLower == 'i' && b.toLower == 's' then
      let short := String.ofList (rest.filterMap significant)
      if short == "c" then "isc" else short
    else String.ofList (name.toList.filterMap significant)
  | short => String.ofList (short.filterMap significant)

end SdkForge.Pattern.PropertyName
