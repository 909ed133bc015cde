import SdkForge.Toml.Draft
import SdkForge.Toml.Scalar

/-!
# Reading TOML

`Toml.parse` reads a document to its end. Each reader takes the text before it and gives what it
read and the rest. The readers of values call one another and count down from the length of the
text: every call follows at least one character.
-/

namespace SdkForge.Toml

/-! ## Blanks, comments and line ends -/

def isSpace (c : Char) : Bool := c == ' ' || c == '\t'

def skipSpace (text : List Char) : List Char := text.dropWhile isSpace

/-- Whether a character may stand in a comment or a literal string: a tab, or none of the control
characters. -/
def isPrintable (c : Char) : Bool := c == '\t' || (0x20 ≤ c.toNat && c.toNat != 0x7F)

/-- What follows a line end, if there is one. -/
def lineEnd? : List Char → Option (List Char)
  | '\n' :: rest => some rest
  | '\r' :: '\n' :: rest => some rest
  | _ => none

/-- What follows the blanks and the comment at the end of a line. -/
def skipComment (text : List Char) : List Char :=
  match skipSpace text with
  | '#' :: rest => rest.dropWhile isPrintable
  | rest => rest

/-- What follows blanks, comments and line ends. -/
def skipLines : Nat → List Char → List Char
  | 0, text => text
  | fuel + 1, text => match lineEnd? (skipComment text) with
    | some rest => skipLines fuel rest
    | none => skipComment text

/-! ## Strings -/

/-- The character with a code point. -/
def charAt? (code : Nat) : Option Char := if h :
  code.isValidChar then some (Char.ofNatAux code h) else none

/-- The character whose code point so many hexadecimal digits write. -/
def readCode (width : Nat) (text : List Char) : Option (Char × List Char) :=
  if text.length < width then none else do return (← charAt? (← Text.hexNumber? (text.take width)),
    text.drop width)

/-- The character that an escape stands for, after the `\`. -/
def readEscape : List Char → Option (Char × List Char)
  | 'b' :: rest => some ('\x08', rest)
  | 't' :: rest => some ('\t', rest)
  | 'n' :: rest => some ('\n', rest)
  | 'f' :: rest => some ('\x0c', rest)
  | 'r' :: rest => some ('\r', rest)
  | 'e' :: rest => some ('\x1b', rest)
  | '"' :: rest => some ('"', rest)
  | '\\' :: rest => some ('\\', rest)
  | 'x' :: rest => readCode 2 rest
  | 'u' :: rest => readCode 4 rest
  | 'U' :: rest => readCode 8 rest
  | _ => none

/-- The rest of a string on one line, with what has been read, last character first. -/
def readBasic : Nat → List Char → List Char → Option (List Char × List Char)
  | _ + 1, read, '"' :: rest => some (read.reverse, rest)
  | fuel + 1, read, '\\' :: rest => do
    let (c, rest) ← readEscape rest
    readBasic fuel (c :: read) rest
  | fuel + 1, read, c :: rest => if isPrintable c then readBasic fuel (c :: read) rest else none
  | _, _, _ => none

/-- The rest of a string without escapes on one line. -/
def readLiteral (text : List Char) : Option (List Char × List Char) :=
  let isInside (c : Char) : Bool := isPrintable c && c != '\''
  match text.dropWhile isInside with
  | '\'' :: rest => some (text.takeWhile isInside, rest)
  | _ => none

/-- The end of a string over several lines: three quotes, before which up to two more belong to the
string. -/
def readClosing (quote : Char) (text : List Char) : Option (List Char × List Char) :=
  let quotes := text.takeWhile (· == quote)
  if quotes.length < 3 then none
  else
    let inside := min 2 (quotes.length - 3)
    some (List.replicate inside quote, text.drop (inside + 3))

/-- What follows blanks and line ends. -/
def skipBlankLines : Nat → List Char → List Char
  | 0, text => text
  | fuel + 1, text => match lineEnd? (skipSpace text) with
    | some rest => skipBlankLines fuel rest
    | none => skipSpace text

/-- The rest of a string over several lines; only the one in double quotes has escapes. -/
def readLong (quote : Char) : Nat → List Char → List Char → Option (List Char × List Char)
  | 0, _, _ | _, _, [] => none
  | fuel + 1, read, c :: rest =>
    if c = quote then match readClosing quote (c :: rest) with
      | some (inside, rest) => some (read.reverse ++ inside, rest)
      | none => readLong quote fuel (c :: read) rest
    else if c = '\\' ∧ quote = '"' then match lineEnd? (skipSpace rest) with
      | some more => readLong quote fuel read (skipBlankLines more.length more)
      | none => do
        let (escaped, rest) ← readEscape rest
        readLong quote fuel (escaped :: read) rest
    else if isPrintable c ∨ c = '\n' then readLong quote fuel (c :: read) rest
    else if c = '\r' ∧ rest.head? = some '\n' then readLong quote fuel (c :: read) rest
    else none

/-- A line end right after the opening quotes is not part of the string. -/
def dropFirstLineEnd (text : List Char) : List Char := (lineEnd? text).getD text

/-- A string. -/
def readString (text : List Char) : Option (String × List Char) :=
  (match text with
  | '"' :: '"' :: '"' :: rest => readLong '"' (rest.length + 1) [] (dropFirstLineEnd rest)
  | '\'' :: '\'' :: '\'' :: rest => readLong '\'' (rest.length + 1) [] (dropFirstLineEnd rest)
  | '"' :: rest => readBasic (rest.length + 1) [] rest
  | '\'' :: rest => readLiteral rest
  | _ => none).map fun (chars, rest) => (String.ofList chars, rest)

/-! ## Keys -/

def isBareKey (c : Char) : Bool := c.isAlphanum || c == '_' || c == '-'

/-- One part of a key. -/
def readKeyPart (text : List Char) : Option (String × List Char) :=
  match text with
  | '"' :: rest =>
    (readBasic (rest.length + 1) [] rest).map fun (chars, rest) => (String.ofList chars, rest)
  | '\'' :: rest => (readLiteral rest).map fun (chars, rest) => (String.ofList chars, rest)
  | _ =>
    let part := text.takeWhile isBareKey
    if part.isEmpty then none else some (String.ofList part, text.dropWhile isBareKey)

/-- The parts of a key: those that lead to it, and the last one. -/
def readKeyParts : Nat → List Char → Option ((List String × String) × List Char)
  | 0, _ => none
  | fuel + 1, text => do
    let (part, rest) ← readKeyPart (skipSpace text)
    match skipSpace rest with
    | '.' :: rest =>
      let ((path, key), rest) ← readKeyParts fuel rest
      return ((part :: path, key), rest)
    | rest => return (([], part), rest)

/-- How deep a key may reach, and arrays and inline tables may nest. -/
def deepest : Nat := 80

/-- A key: its path and its last part. -/
def readKey (text : List Char) : Option ((List String × String) × List Char) :=
  (readKeyParts text.length text).filter fun (key, _) => key.1.length < deepest

/-! ## Values -/

def isWordChar (c : Char) : Bool :=
  c.isAlphanum || c == '_' || c == '+' || c == '-' || c == '.' || c == ':'

/-- A word without quotes. A blank between a date and a time of day belongs to it. -/
def readWord (text : List Char) : List Char × List Char :=
  let word := text.takeWhile isWordChar
  let rest := text.dropWhile isWordChar
  match rest with
  | ' ' :: c :: more =>
    if afterDate? word == some [] && c.isDigit then
      (word ++ ' ' :: (c :: more).takeWhile isWordChar, (c :: more).dropWhile isWordChar)
    else (word, rest)
  | _ => (word, rest)

mutual
/-- A value; `room` says how many more arrays and tables may be opened. -/
def readValue (fuel room : Nat) (text : List Char) : Option (Value × List Char) :=
  match fuel, room, text with
  | 0, _, _ => none
  | fuel + 1, room + 1, '[' :: rest =>
    (readItems fuel room [] rest).map fun (items, rest) => (.array items, rest)
  | fuel + 1, room + 1, '\x7b' :: rest =>
    (readInline fuel room [] rest).map fun (slots, rest) =>
      (.table (byKey (Slots.toEntries slots)), rest)
  | _, _, '"' :: rest => (readString ('"' :: rest)).map fun (s, rest) => (.string s, rest)
  | _, _, '\'' :: rest => (readString ('\'' :: rest)).map fun (s, rest) => (.string s, rest)
  | _, _, text =>
    let (word, rest) := readWord text
    (scalar? word).map fun value => (value, rest)
/-- The items of an array up to its bracket, with those that have been read, last one first. -/
def readItems (fuel room : Nat) (read : List Value) (text : List Char) :
    Option (List Value × List Char) :=
  match fuel with
  | 0 => none
  | fuel + 1 => match skipLines text.length text with
    | ']' :: rest => some (read.reverse, rest)
    | text => do
      let (item, rest) ← readValue fuel room text
      match skipLines rest.length rest with
      | ',' :: rest => readItems fuel room (item :: read) rest
      | ']' :: rest => return ((item :: read).reverse, rest)
      | _ => none
/-- The entries of an inline table up to its brace, after those that have been read. Line ends count
there as blanks do. -/
def readInline (fuel room : Nat) (read : Slots) (text : List Char) : Option (Slots × List Char) :=
  match fuel with
  | 0 => none
  | fuel + 1 => match skipLines text.length text with
    | '\x7d' :: rest => some (read, rest)
    | text => do
      let ((path, key), rest) ← readKey text
      let rest ← skip? '=' (skipLines rest.length rest)
      let (value, rest) ← readValue fuel room (skipLines rest.length rest)
      let read ← Slots.define path key value .opened read
      match skipLines rest.length rest with
      | ',' :: rest => readInline fuel room read rest
      | '\x7d' :: rest => return (read, rest)
      | _ => none
end

/-! ## Documents -/

/-- What follows the end of a line, which the document's end is too. -/
def endLine? (text : List Char) : Option (List Char) :=
  match skipComment text with
  | [] => some []
  | rest => lineEnd? rest

/-- A header or an entry, and the document with it. -/
def readStatement (d : Draft) (text : List Char) : Option (Draft × List Char) :=
  match text with
  | '[' :: '[' :: rest => do
    let ((path, key), rest) ← readKey rest
    let rest ← skip? ']' (← skip? ']' rest)
    return (← d.openItem path key, rest)
  | '[' :: rest => do
    let ((path, key), rest) ← readKey rest
    return (← d.openTable path key, ← skip? ']' rest)
  | _ => do
    let ((path, key), rest) ← readKey text
    let rest := skipSpace (← skip? '=' rest)
    let (value, rest) ← readValue (rest.length + 1) deepest rest
    return (← d.define path key value, rest)

/-- The rest of a document, after what has been read. -/
def readDocument : Nat → Draft → List Char → Option Draft
  | 0, _, _ => none
  | fuel + 1, d, text => match skipLines text.length text with
    | [] => some d
    | text => do
      let (d, rest) ← readStatement d text
      readDocument fuel d (← endLine? rest)

/-- The entries of a document. A byte order mark may stand before it. -/
def parse (text : String) : Option (List (String × Value)) :=
  let chars := match text.toList with
    | '\ufeff' :: rest => rest
    | chars => chars
  (readDocument (chars.length + 1) {} chars).map Draft.entries

end SdkForge.Toml
