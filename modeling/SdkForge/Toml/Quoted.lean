/-!
# Strings in TOML

`Toml.quote` writes a text as a string. It takes the first of four forms that needs no escapes:
`"…"`, `'…'`, `"""…"""`, `'''…'''`; where each would need some, it takes `"…"`, or `"""…"""` for a
text with line ends.
-/

namespace SdkForge.Toml

/-! ## What a text holds -/

/-- Whether the character can only be written by its code. -/
def isCode (c : Char) : Bool := (c.toNat < 0x20 && c != '\t' && c != '\n') || c.toNat == 0x7F

/-- The length of the longest run of a character, where a run of `current` stands before the
text. -/
def longestRun (c : Char) (current : Nat) : List Char → Nat
  | [] => current
  | d :: rest =>
    if d = c then longestRun c (current + 1) rest else max current (longestRun c 0 rest)

/-! ## Forms -/

/-- The forms of a string. -/
inductive Quotes where
  | double | single | longDouble | longSingle
  deriving DecidableEq, Repr

namespace Quotes

def mark : Quotes → String
  | double => "\""
  | single => "'"
  | longDouble => "\"\"\""
  | longSingle => "'''"

/-- Whether the form shows the text as it is. -/
def suits (text : List Char) : Quotes → Bool
  | double => !text.any isCode && !text.contains '\\' && !text.contains '"' && !text.contains '\n'
  | single => !text.any isCode && !text.contains '\'' && !text.contains '\n'
  | longDouble => !text.any isCode && !text.contains '\\' && longestRun '"' 0 text ≤ 2
  | longSingle => !text.any isCode && longestRun '\'' 0 text ≤ 2

/-- The form in which a text is written. -/
def choose (text : List Char) : Quotes :=
  match [double, single, longDouble, longSingle].find? (suits text) with
  | some quotes => quotes
  | none => if text.contains '\n' then longDouble else double

/-- Whether backslashes are escapes in the form. -/
def escapes : Quotes → Bool
  | double | longDouble => true
  | single | longSingle => false

/-- How many double quotes in a row the form leaves as they are. -/
def quotesInRow : Quotes → Nat
  | longDouble => 2
  | _ => 0

end Quotes

/-! ## Writing -/

/-- A character by its code. -/
def escapeCode (c : Char) : List Char :=
  let digits := (Nat.toDigits 16 c.toNat).map (·.toUpper)
  '\\' :: 'u' :: (List.replicate (4 - digits.length) '0' ++ digits)

/-- A character in a form with escapes, quotes apart. -/
def escapeChar (quotes : Quotes) (c : Char) : List Char :=
  match c with
  | '\x08' => ['\\', 'b']
  | '\t' => ['\\', 't']
  | '\n' => if quotes = .longDouble then ['\n'] else ['\\', 'n']
  | '\x0c' => ['\\', 'f']
  | '\r' => ['\\', 'r']
  | '\\' => ['\\', '\\']
  | _ => if isCode c then escapeCode c else [c]

/-- The text in a form with escapes, after `row` quotes in a row. -/
def escapeText (quotes : Quotes) (row : Nat) : List Char → List Char
  | [] => []
  | c :: rest =>
    if c = '"' then
      if row < quotes.quotesInRow then c :: escapeText quotes (row + 1) rest
      else '\\' :: c :: escapeText quotes 0 rest
    else escapeChar quotes c ++ escapeText quotes 0 rest

/-- A text as a string. A text with line ends starts on the line after the quotes. -/
def quote (text : String) : String :=
  let chars := text.toList
  let quotes := Quotes.choose chars
  let inside := if quotes.escapes then escapeText quotes 0 chars else chars
  quotes.mark ++ (if chars.contains '\n' then "\n" else "") ++ String.ofList inside ++ quotes.mark

end SdkForge.Toml
