import SdkForge.Text.CharRun

/-!
# White space

The Unicode property `White_Space`, and trimming by it.
-/

namespace SdkForge.Text

/-- The property `White_Space`. -/
def blankRuns : List CharRun := [
  ⟨0x09, 0x0D, 1⟩, ⟨0x20, 0x20, 1⟩, ⟨0x85, 0x85, 1⟩, ⟨0xA0, 0xA0, 1⟩, ⟨0x1680, 0x1680, 1⟩,
  ⟨0x2000, 0x200A, 1⟩, ⟨0x2028, 0x2029, 1⟩, ⟨0x202F, 0x202F, 1⟩, ⟨0x205F, 0x205F, 1⟩,
  ⟨0x3000, 0x3000, 1⟩]

/-- Whether the character is white space. -/
def isBlank (c : Char) : Bool := inRuns blankRuns c

/-- Whether a line holds nothing to see. -/
def allBlank (line : List Char) : Bool := line.all isBlank

end SdkForge.Text
