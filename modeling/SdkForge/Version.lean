import SdkForge.Text.Split

/-!
# Versions

A version is three numbers, written `X.Y.Z`. `Version.parse` reads one and says which part is wrong;
`toString` writes one; `requirement` is the version range that a dependant asks for.
-/

namespace SdkForge

/-- A release, ordered by its numbers from left to right. -/
structure Version where
  major : UInt32
  minor : UInt32
  patch : UInt32
  deriving DecidableEq, Inhabited, Repr

namespace Version

instance : Ord Version :=
  ⟨compareLex (compareOn Version.major)
    (compareLex (compareOn Version.minor) (compareOn Version.patch))⟩

/-- A number of the version. -/
inductive Part where
  | major | minor | patch
  deriving DecidableEq, Repr

/-- Why a text is no version. -/
inductive Fault where
  /-- It does not have three parts. -/
  | form
  /-- One part, given as written, is no number of 32 bits. -/
  | component (part : Part) (raw : String)
  deriving DecidableEq, Repr

/-! ## Writing -/

protected def toString (v : Version) : String := s!"{v.major}.{v.minor}.{v.patch}"

instance : ToString Version := ⟨Version.toString⟩

/-- The range of releases that keep to this one: the same major number, or before 1.0 the same minor
number. -/
def requirement (v : Version) : String :=
  if v.major = 0 then s!"{v.major}.{v.minor}" else toString v.major

def Part.name : Part → String
  | .major => "major"
  | .minor => "minor"
  | .patch => "patch"

/-- What is wrong with `text`. -/
def Fault.message (text : String) : Fault → String
  | .form => s!"invalid version '{text}', expected 'X.Y.Z'"
  | .component part raw => s!"invalid {part.name} component '{raw}' in '{text}'"

/-! ## Reading -/

/-- The number that decimal digits write; there has to be one digit. -/
def readDigits : List Char → Option Nat
  | [] => none
  | digits =>
    if digits.all (·.isDigit) then some (digits.foldl (fun n c => 10 * n + (c.toNat - 48)) 0)
      else none

/-- A number of 32 bits, which may have a plus sign. -/
def readNumber (text : List Char) : Option UInt32 :=
  let digits := match text with
    | '+' :: rest => rest
    | _ => text
  (readDigits digits).bind fun n => if n < UInt32.size then some (UInt32.ofNat n) else none

/-- Reads one part. -/
def readPart (part : Part) (raw : List Char) : Except Fault UInt32 :=
  (readNumber raw).elim (.error (.component part (String.ofList raw))) .ok

/-- Reads `X.Y.Z`. -/
def parse (text : String) : Except Fault Version :=
  match Text.splitAll (· == '.') text.toList with
  | [major, minor, patch] => do
    return ⟨← readPart .major major, ← readPart .minor minor, ← readPart .patch patch⟩
  | _ => .error .form

end Version

end SdkForge
