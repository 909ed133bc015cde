import SdkForge.Text.Letter
import SdkForge.Text.Split

/-!
# Snake case and Pascal case

A name is read as words: the separators `_`, `-`, blank and `.` end a word, and within a part a word
starts at a capital that follows a small letter or a digit, or that ends a run of capitals
(`XMLBody` is `XML`, `Body`). Snake case joins the words in small letters by `_`; Pascal case
capitalises each part and keeps the rest as it is.
-/

namespace SdkForge.Text

/-! ## Words -/

/-- The characters that stand between the parts of a name. -/
def isSeparator (c : Char) : Bool := c == '_' || c == '-' || c == ' ' || c == '.'

/-- Whether a word starts at `c`, which stands between `before` and `after` in one part. -/
def startsWord (before c : Char) (after : Option Char) : Bool :=
  isUpper c && (isLower before || before.isDigit ||
    (isUpper before && (after.map isLower).getD false))

/-- The words of one part. -/
def humps : List Char → List (List Char)
  | [] => []
  | c :: rest =>
    match rest, humps rest with
    | next :: later, word :: words =>
      if startsWord c next later.head? then [c] :: word :: words else (c :: word) :: words
    | _, _ => [[c]]

/-- The words of a name. -/
def words (name : List Char) : List (List Char) := (splitAll isSeparator name).flatMap humps

/-! ## The two cases -/

/-- The words in small letters, joined by `_`. -/
def snakeChars (name : List Char) : List Char :=
  List.intercalate ['_'] ((words name).map (·.flatMap lower))

/-- A part with a capital at its head. -/
def capitalize : List Char → List Char
  | [] => []
  | c :: rest => upper c ++ rest

/-- The parts, each with a capital at its head, put together. -/
def pascalChars (name : List Char) : List Char := (splitAll isSeparator name).flatMap capitalize

/-- A name in snake case. -/
def snakeCase (name : String) : String := String.ofList (snakeChars name.toList)

/-- A name in Pascal case. -/
def pascalCase (name : String) : String := String.ofList (pascalChars name.toList)

end SdkForge.Text
