import SdkForge.Pattern.CodeSet

/-!
# Classes of ASCII characters

The classes that are written by their names in colons, such as `[:alpha:]`.
-/

namespace SdkForge.Pattern

/-- The classes, by their names. -/
def asciiClasses : List NamedCodes := [
  ⟨["alnum"], ["30-39 41-5A 61-7A"]⟩,
  ⟨["alpha"], ["41-5A 61-7A"]⟩,
  ⟨["ascii"], ["0-7F"]⟩,
  ⟨["blank"], ["9 20"]⟩,
  ⟨["cntrl"], ["0-1F 7F"]⟩,
  ⟨["digit"], ["30-39"]⟩,
  ⟨["graph"], ["21-7E"]⟩,
  ⟨["lower"], ["61-7A"]⟩,
  ⟨["print"], ["20-7E"]⟩,
  ⟨["punct"], ["21-2F 3A-40 5B-60 7B-7E"]⟩,
  ⟨["space"], ["9-D 20"]⟩,
  ⟨["upper"], ["41-5A"]⟩,
  ⟨["word"], ["30-39 41-5A 5F 61-7A"]⟩,
  ⟨["xdigit"], ["30-39 41-46 61-66"]⟩]

end SdkForge.Pattern
