import SdkForge.JsonValue
import SdkForge.Text.Hex
import SdkForge.Text.Split

/-!
# Reading JSON

`JsonValue.parse` reads a document to its end. Each reader takes the text before it and gives what
it read and the rest. The readers of values call one another, and count down from the length of the
text: every call follows at least one character.
-/

namespace SdkForge.JsonValue

/-! ## Characters -/

def isSpace (c : Char) : Bool := c == ' ' || c == '\n' || c == '\t' || c == '\r'

def skipSpace (text : List Char) : List Char := text.dropWhile isSpace

/-- Four hexadecimal digits. -/
def readHex : List Char → Option (Nat × List Char)
  | a :: b :: c :: d :: rest => (Text.hexNumber? [a, b, c, d]).map fun value => (value, rest)
  | _ => none

/-! ## Strings -/

/-- A character that `\` and one letter stand for. -/
def shortEscape? (c : Char) : Option Char :=
  match c with
  | '"' | '\\' | '/' => some c
  | 'b' => some '\x08'
  | 'f' => some '\x0c'
  | 'n' => some '\n'
  | 'r' => some '\r'
  | 't' => some '\t'
  | _ => none

/-- The character that follows `\u`, with the second half of a pair where the first is there;
nothing for a lone half. -/
def readEscape (text : List Char) : Option (Option Char × List Char) := do
  let (first, rest) ← readHex text
  if first < 0xD800 ∨ 0xDFFF < first then return (some (Char.ofNat first), rest)
  if 0xDC00 ≤ first then return (none, rest)
  match rest with
  | '\\' :: 'u' :: more =>
    let (second, after) ← readHex more
    if 0xDC00 ≤ second ∧ second ≤ 0xDFFF then
      return (some (Char.ofNat (0x10000 + (first - 0xD800) * 0x400 + (second - 0xDC00))), after)
    else return (none, rest)
  | _ => return (none, rest)

/-- The rest of a string after its first quote, with what has been read, last character first;
`whole` says that no half of a pair was met. -/
def readString (fuel : Nat) (read : List Char) (whole : Bool) (text : List Char) :
    Option (Option String × List Char) :=
  match fuel, text with
  | _ + 1, '"' :: rest =>
    some (if whole then some (String.ofList read.reverse) else none, rest)
  | fuel + 1, '\\' :: 'u' :: rest => do
    match ← readEscape rest with
    | (some c, rest) => readString fuel (c :: read) whole rest
    | (none, rest) => readString fuel read false rest
  | fuel + 1, '\\' :: c :: rest => do readString fuel ((← shortEscape? c) :: read) whole rest
  | fuel + 1, c :: rest =>
    if c.toNat < 0x20 ∨ c = '\\' then none else readString fuel (c :: read) whole rest
  | _, _ => none

/-! ## Numbers -/

/-- The whole part: no zero stands before another digit. -/
def readWhole (text : List Char) : Option (List Char × List Char) :=
  let digits := text.takeWhile (·.isDigit)
  match digits with
  | [] => none
  | '0' :: _ :: _ => none
  | _ => some (digits, text.dropWhile (·.isDigit))

/-- The digits after a point, if there is one. -/
def readFraction : List Char → Option (Option (List Char) × List Char)
  | '.' :: text =>
    let digits := text.takeWhile (·.isDigit)
    if digits = [] then none else some (some digits, text.dropWhile (·.isDigit))
  | text => some (none, text)

/-- The exponent, if there is one. -/
def readExponent : List Char → Option (Option Int × List Char)
  | e :: text =>
    if e = 'e' ∨ e = 'E' then
      let (negative, unsigned) := match text with
        | '-' :: more => (true, more)
        | '+' :: more => (false, more)
        | _ => (false, text)
      let digits := unsigned.takeWhile (·.isDigit)
      if digits = [] then none
      else
        let size : Int := Decimal.digitsFrom 0 digits
        some (some (if negative then -size else size), unsigned.dropWhile (·.isDigit))
    else some (none, e :: text)
  | [] => some (none, [])

/-- The number that digits write after `n` as far as 64 bits hold it, and how many digits are
left. -/
def fitDigits (n : Nat) : List Char → Nat × Nat
  | [] => (n, 0)
  | c :: rest =>
    let next := Decimal.digitsFrom n [c]
    if next < UInt64.size then fitDigits next rest else (n, rest.length + 1)

/-- A number. Digits that do not fit only count for its size; those of the fraction that come after
some may still fit. -/
def readNumber (text : List Char) : Option (JsonNumber × List Char) := do
  let (negative, text) := match text with
    | '-' :: rest => (true, rest)
    | _ => (false, text)
  let (whole, text) ← readWhole text
  let (fraction, text) ← readFraction text
  let (exponent, text) ← readExponent text
  let (mantissa, above) := fitDigits 0 whole
  let (mantissa, left) := fitDigits mantissa (fraction.getD [])
  let size : Int := exponent.getD 0 + above + left - (fraction.getD []).length
  return (⟨⟨negative, mantissa, size⟩, fraction.isNone && exponent.isNone⟩, text)

/-! ## Values -/

/-- What a word stands for. -/
def readWord (word : String) (value : JsonValue) (text : List Char) :
    Option (JsonValue × List Char) :=
  if word.toList.isPrefixOf text then some (value, text.drop word.length) else none

mutual
/-- A value, after any space. -/
def readValue (fuel : Nat) (text : List Char) : Option (JsonValue × List Char) :=
  match fuel, skipSpace text with
  | _ + 1, '"' :: rest =>
    (readString (rest.length + 1) [] true rest).map fun (s, rest) => (.string s, rest)
  | fuel + 1, '[' :: rest => match skipSpace rest with
    | ']' :: rest => some (.array [], rest)
    | _ => (readItems fuel [] rest).map fun (items, rest) => (.array items, rest)
  | fuel + 1, '\x7b' :: rest => match skipSpace rest with
    | '\x7d' :: rest => some (.object [], rest)
    | _ => (readFields fuel [] rest).map fun (fields, rest) => (.object fields, rest)
  | _ + 1, 't' :: rest => readWord "true" (.bool true) ('t' :: rest)
  | _ + 1, 'f' :: rest => readWord "false" (.bool false) ('f' :: rest)
  | _ + 1, 'n' :: rest => readWord "null" .null ('n' :: rest)
  | _ + 1, rest => (readNumber rest).map fun (n, rest) => (.number n, rest)
  | 0, _ => none
/-- The items of an array up to its bracket, with those that have been read, last one first. -/
def readItems (fuel : Nat) (read : List JsonValue) (text : List Char) :
    Option (List JsonValue × List Char) :=
  match fuel with
  | 0 => none
  | fuel + 1 => do
    let (item, rest) ← readValue fuel text
    match skipSpace rest with
    | ',' :: rest => readItems fuel (item :: read) rest
    | ']' :: rest => return ((item :: read).reverse, rest)
    | _ => none
/-- The fields of an object up to its brace, with those that have been read, last one first. -/
def readFields (fuel : Nat) (read : List (Option String × JsonValue)) (text : List Char) :
    Option (List (Option String × JsonValue) × List Char) :=
  match fuel with
  | 0 => none
  | fuel + 1 => do
    let '"' :: rest := skipSpace text | none
    let (name, rest) ← readString (rest.length + 1) [] true rest
    let ':' :: rest := skipSpace rest | none
    let (value, rest) ← readValue fuel rest
    match skipSpace rest with
    | ',' :: rest => readFields fuel ((name, value) :: read) rest
    | '\x7d' :: rest => return (((name, value) :: read).reverse, rest)
    | _ => none
end

/-- Reads a document that holds one value. -/
def parse (text : String) : Option JsonValue := do
  let (value, rest) ← readValue (text.length + 1) text.toList
  if skipSpace rest = [] then return value else none

end SdkForge.JsonValue
