import SdkForge.Decimal
import SdkForge.Text.Hex
import SdkForge.Text.Split
import SdkForge.Toml.Value

/-!
# Numbers and points in time

`scalar?` reads a word without quotes: a truth value, an integer of 64 bits, a number with a
fraction or exponent, a date, a time of day, or both.
-/

namespace SdkForge.Toml

/-! ## Digits -/

/-- Digits of which two neighbours may have one underscore between them, without the underscores. -/
def plainDigits? (isDigit : Char → Bool) (word : List Char) : Option (List Char) :=
  let groups := Text.splitAll (· == '_') word
  if groups.all fun group => !group.isEmpty && group.all isDigit then some groups.flatten else none

def isOctal (c : Char) : Bool := '0' ≤ c && c ≤ '7'
def isBinary (c : Char) : Bool := c == '0' || c == '1'
def isHex (c : Char) : Bool := (Text.hexValue? c).isSome

/-- The sign and what follows it. -/
def splitSign : List Char → Bool × List Char
  | '-' :: rest => (true, rest)
  | '+' :: rest => (false, rest)
  | word => (false, word)

/-! ## Integers -/

/-- The digits of a decimal number without needless zeros at its head. -/
def wholeDigits? (word : List Char) : Option (List Char) := do
  let digits ← plainDigits? (·.isDigit) word
  if word.head? = some '0' ∧ 1 < digits.length then none else some digits

/-- A number to a base, by its digits. -/
def toBase (base : Nat) (digits : List Char) : Nat :=
  digits.foldl (fun n c => base * n + (Text.hexValue? c).getD 0) 0

/-- The number that a word writes as an integer, of any size. -/
def unboundedInteger? (word : List Char) : Option Int :=
  match word with
  | '0' :: 'x' :: rest => (plainDigits? isHex rest).map fun digits => toBase 16 digits
  | '0' :: 'o' :: rest => (plainDigits? isOctal rest).map fun digits => toBase 8 digits
  | '0' :: 'b' :: rest => (plainDigits? isBinary rest).map fun digits => toBase 2 digits
  | _ =>
    let (negative, rest) := splitSign word
    (wholeDigits? rest).map fun digits =>
      let n : Int := Decimal.digitsFrom 0 digits
      if negative then -n else n

/-- An integer of 64 bits. -/
def integer? (word : List Char) : Option Int :=
  (unboundedInteger? word).filter fun n => Int64.minValue.toInt ≤ n ∧ n ≤ Int64.maxValue.toInt

/-! ## Numbers with a fraction or exponent -/

/-- A number in decimal or scientific writing. -/
def decimal? (word : List Char) : Option Decimal := do
  let (negative, rest) := splitSign word
  let isMark (c : Char) : Bool := c == 'e' || c == 'E'
  let (base, exponent) := match Text.splitAll isMark rest with
    | [base] => (base, none)
    | base :: more => (base, some (List.intercalate ['e'] more))
    | [] => ([], none)
  let (whole, fraction) := match Text.splitFirst '.' base with
    | some (whole, fraction) => (whole, some fraction)
    | none => (base, none)
  if fraction.isNone ∧ exponent.isNone then none
  let whole ← wholeDigits? whole
  let fraction ← plainDigits? (·.isDigit) (fraction.getD ['0'])
  let (down, size) := splitSign (exponent.getD ['0'])
  let size : Int := Decimal.digitsFrom 0 (← plainDigits? (·.isDigit) size)
  return ⟨negative, Decimal.digitsFrom 0 (whole ++ fraction), (if down then -size else size) -
    fraction.length⟩

/-- Whether a word is a number with a fraction or exponent, an infinity, or no number at all. -/
def isFloat (word : List Char) : Bool :=
  match decimal? word with
  | some d => d.isFinite
  | none => ["inf", "nan"].contains (String.ofList (splitSign word).2)

/-! ## Points in time -/

/-- Two digits. -/
def pair? : List Char → Option (Nat × List Char)
  | a :: b :: rest =>
    if a.isDigit && b.isDigit then some (Decimal.digitsFrom 0 [a, b], rest) else none
  | _ => none

/-- The character at the head of a word, if it is the one that has to be there. -/
def skip? (c : Char) : List Char → Option (List Char)
  | d :: rest => if c = d then some rest else none
  | [] => none

/-- How many days a month has. -/
def daysIn (year month : Nat) : Nat :=
  if month = 2 then (if year % 4 = 0 ∧ (year % 100 ≠ 0 ∨ year % 400 = 0) then 29 else 28)
  else if [4, 6, 9, 11].contains month then 30 else 31

/-- What follows a date. -/
def afterDate? (word : List Char) : Option (List Char) := do
  let (century, word) ← pair? word
  let (year, word) ← pair? word
  let (month, word) ← pair? (← skip? '-' word)
  let (day, word) ← pair? (← skip? '-' word)
  if 1 ≤ month ∧ month ≤ 12 ∧ 1 ≤ day ∧ day ≤ daysIn (100 * century + year) month then
    some word else none

/-- What follows the seconds of a time of day, which may have a fraction. -/
def afterSeconds? (word : List Char) : Option (List Char) := do
  let (second, word) ← pair? word
  if 60 < second then none
  match word with
  | '.' :: fraction =>
    if (fraction.takeWhile (·.isDigit)).isEmpty then none else some (fraction.dropWhile (·.isDigit))
  | _ => some word

/-- What follows a time of day. -/
def afterTime? (word : List Char) : Option (List Char) := do
  let (hour, word) ← pair? word
  let (minute, word) ← pair? (← skip? ':' word)
  if 23 < hour ∨ 59 < minute then none
  match word with
  | ':' :: seconds => afterSeconds? seconds
  | _ => some word

/-- Whether a word is an offset from universal time, or empty. -/
def isOffset (word : List Char) : Bool :=
  match word with
  | [] | ['Z'] | ['z'] => true
  | sign :: rest => (sign == '+' || sign == '-') && (match pair? rest with
    | some (hours, ':' :: more) => hours ≤ 23 && (match pair? more with
      | some (minutes, []) => minutes ≤ 59
      | _ => false)
    | _ => false)

/-- Whether a word is a date, a time of day, or both. -/
def isDatetime (word : List Char) : Bool :=
  match afterDate? word with
  | some [] => true
  | some (t :: time) => (t == 'T' || t == 't' || t == ' ') && ((afterTime? time).any isOffset)
  | none => afterTime? word == some []

/-! ## Words -/

/-- The value of a word without quotes. -/
def scalar? (word : List Char) : Option Value :=
  if word = "true".toList then some (.boolean true)
  else if word = "false".toList then some (.boolean false)
  else match integer? word with
    | some n => some (.integer n)
    | none =>
      if isFloat word then some (.float (String.ofList word))
      else if isDatetime word then some (.datetime (String.ofList word))
      else none

end SdkForge.Toml
