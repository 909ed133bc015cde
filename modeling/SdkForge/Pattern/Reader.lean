import SdkForge.Pattern.AsciiClass
import SdkForge.Pattern.Syntax
import SdkForge.Text.Blank
import SdkForge.Text.Hex
import SdkForge.Text.Letter
import SdkForge.Text.Split

/-!
# Reading patterns

`Pattern.read` reads a pattern to its end. Each reader takes the text before it and gives what it
read and the rest; the readers that call one another count down from the length of the text. A
pattern can switch on that white space and comments between its parts do not count, which `loose`
says where a reader has to know it.
-/

namespace SdkForge.Pattern

/-! ## Space -/

/-- What follows white space and comments. -/
def skipSpace : Nat → List Char → List Char
  | 0, text => text
  | fuel + 1, text =>
    match text.dropWhile Text.isBlank with
    | '#' :: rest => skipSpace fuel ((rest.dropWhile (· != '\n')).drop 1)
    | rest => rest

/-- What follows the space that does not count. -/
def skip (loose : Bool) (text : List Char) : List Char :=
  if loose then skipSpace (text.length + 1) text else text

/-- The character that decides whether a `-` makes a range: the one after it, and after white space
and the mark of a comment where these do not count. -/
def peekPast (loose : Bool) (text : List Char) : Option Char :=
  if loose then
    let rest := text.dropWhile Text.isBlank
    let rest := if rest.head? = some '#' then rest.tail.dropWhile Text.isBlank else rest
    rest.head? <|> text.head?
  else text.head?

/-! ## Characters -/

/-- The character with the number that hexadecimal digits write. -/
def charOfHex? (digits : List Char) : Option Char := do
  let code ← Text.hexNumber? digits
  if h : code.isValidChar then some (Char.ofNatAux code h) else none

/-- As many hexadecimal digits as asked for. -/
def readDigits (loose : Bool) : Nat → List Char → Option (List Char × List Char)
  | 0, text => some ([], text)
  | count + 1, c :: rest => do
    let (digits, rest) ← if (Text.hexValue? c).isSome then readDigits loose count (skip loose rest)
        else none
    return (c :: digits, rest)
  | _, [] => none

/-- What stands up to a closing brace. -/
def readBraced (loose : Bool) : Nat → List Char → List Char → Option (List Char × List Char)
  | fuel + 1, read, text =>
    match skip loose text with
    | '\x7d' :: rest => some (read.reverse, rest)
    | c :: rest => readBraced loose fuel (c :: read) rest
    | [] => none
  | _, _, _ => none

/-- The character that an escape with a code point stands for, after its letter. -/
def readCode (loose : Bool) (width : Nat) (text : List Char) : Option (Literal × List Char) :=
  match skip loose text with
  | '\x7b' :: rest => do
    let (digits, rest) ← readBraced loose (rest.length + 1) [] rest
    if digits.isEmpty then none else return (⟨← charOfHex? digits, false⟩, skip loose rest)
  | text => do
    let (digits, rest) ← readDigits loose width text
    return (⟨← charOfHex? digits, width == 2⟩, rest)

/-! ## Escapes -/

/-- What an escape stands for, or a character that stands for itself. -/
inductive Unit where
  | char (c : Literal)
  | assertion (a : Assertion)
  | property (negated : Bool) (p : Property)
  | shorthand (negated : Bool) (s : Shorthand)

/-- The property that a name in braces asks for, and whether it asks for the characters that do not
have it. -/
def propertyOf (name : List Char) : Bool × Property :=
  let valued (pieces : List Char × List Char) : Property :=
    .valued (String.ofList pieces.1) (String.ofList pieces.2)
  match Text.splitPiece ['!', '='] name with
  | some pieces => (true, valued pieces)
  | none => match Text.splitFirst ':' name <|> Text.splitFirst '=' name with
    | some pieces => (false, valued pieces)
    | none => (false, .named (String.ofList name))

/-- The property that follows `\p`. -/
def readProperty (loose : Bool) (text : List Char) : Option ((Bool × Property) × List Char) :=
  match skip loose text with
  | '\x7b' :: rest =>
    (readBraced loose (rest.length + 1) [] rest).map fun (name, rest) => (propertyOf name, rest)
  | '\\' :: _ | [] => none
  | c :: rest => some ((false, .named c.toString), skip loose rest)

/-- The tests for the ends of words, by their names. -/
def wordTests : List (String × Assertion) :=
  [("start", .wordStart), ("end", .wordEnd), ("start-half", .wordStartHalf),
    ("end-half", .wordEndHalf)]

/-- The test that `\b` and what follows it stand for. -/
def readWordTest (loose : Bool) (text : List Char) : Option (Assertion × List Char) :=
  let inName (c : Char) : Bool := c.isAlpha || c == '-'
  match text with
  | '\x7b' :: rest =>
    match skip loose rest with
    | [] => none
    | c :: _ =>
      if inName c then do
        let (name, rest) ← readBraced loose (rest.length + 1) [] rest
        return (← wordTests.lookup (String.ofList name), rest)
      else some (.wordEdge, text)
  | _ => some (.wordEdge, text)

/-- Whether a character stands for itself after a `\`: the signs of ASCII do, but for two that are
kept for tests. -/
def isEscapable (c : Char) : Bool := c.toNat < 0x80 && !c.isAlphanum && c != '<' && c != '>'

/-- The control character that a letter stands for. -/
def controlChar? : Char → Option Char
  | 'a' => some '\x07'
  | 't' => some '\t'
  | 'n' => some '\n'
  | 'v' => some '\x0b'
  | 'f' => some '\x0c'
  | 'r' => some '\r'
  | _ => none

/-- The test that a letter stands for. -/
def assertion? : Char → Option Assertion
  | 'A' => some .textStart
  | 'z' => some .textEnd
  | 'B' => some .noWordEdge
  | '<' => some .wordStart
  | '>' => some .wordEnd
  | _ => none

/-- The class that a small letter stands for. -/
def shorthand? : Char → Option Shorthand
  | 'd' => some .digit
  | 's' => some .space
  | 'w' => some .word
  | _ => none

/-- An escape, after its `\`. -/
def readEscape (loose : Bool) : List Char → Option (Unit × List Char)
  | [] => none
  | c :: rest =>
    if c == 'x' then (readCode loose 2 rest).map fun (l, rest) => (.char l, rest)
    else if c == 'u' then (readCode loose 4 rest).map fun (l, rest) => (.char l, rest)
    else if c == 'U' then (readCode loose 8 rest).map fun (l, rest) => (.char l, rest)
    else if c == 'p' || c == 'P' then
      (readProperty loose rest).map fun ((without, p), rest) =>
        (.property (without != (c == 'P')) p, rest)
    else if c == 'b' then (readWordTest loose rest).map fun (a, rest) => (.assertion a, rest)
    else if isEscapable c then some (.char { char := c }, rest)
    else
      let unit :=
        (shorthand? c.toLower).map (Unit.shorthand c.isUpper ·) <|>
          (assertion? c).map Unit.assertion <|>
        (controlChar? c).map fun control => Unit.char { char := control }
      unit.map fun unit => (unit, rest)

/-! ## Sets -/

/-- One member of a set, or the end of a range. -/
def readMember (loose : Bool) : List Char → Option (Unit × List Char)
  | [] => none
  | '\\' :: rest => readEscape loose rest
  | c :: rest => some (.char { char := c }, rest)

/-- A member as a set. -/
def Unit.set? : Unit → Option CharSet
  | char c => some (.char c)
  | property negated p => some (.property negated p)
  | shorthand negated s => some (.shorthand negated s)
  | assertion _ => none

/-- A member, or a range if a `-` follows that does not stand for itself. -/
def readRange (loose : Bool) (text : List Char) : Option (CharSet × List Char) := do
  let (first, rest) ← readMember loose text
  match skip loose rest with
  | [] => none
  | '-' :: after =>
    if peekPast loose after = some ']' ∨ peekPast loose after = some '-' then
      return (← first.set?, '-' :: after)
    else
      let (last, rest) ← readMember loose (skip loose after)
      match first, last with
      | .char a, .char b => if a.char ≤ b.char then return (.range a b, rest) else none
      | _, _ => none
  | rest => return (← first.set?, rest)

/-- A class such as `[:alpha:]`, after its bracket. -/
def readAsciiClass : List Char → Option (CharSet × List Char)
  | ':' :: rest =>
    let negated := rest.head? = some '^'
    let rest := if negated then rest.tail else rest
    match rest.dropWhile (· != ':') with
    | ':' :: ']' :: after =>
      let name := String.ofList (rest.takeWhile (· != ':'))
      if asciiClasses.any (·.names.contains name) then some (.ascii negated name, after) else none
    | _ => none
  | _ => none

/-- The `-` at the start of a set, which stand for themselves. -/
def readDashes (loose : Bool) : Nat → List CharSet → List Char → List CharSet × List Char
  | fuel + 1, read, '-' :: rest =>
    readDashes loose fuel (.char { char := '-' } :: read) (skip loose rest)
  | _, read, text => (read, text)

/-- The start of a set, after its bracket: whether the set is negated, and the members that stand
for themselves only here, last one first. -/
def readOpening (loose : Bool) (text : List Char) : Bool × List CharSet × List Char :=
  let text := skip loose text
  let negated := text.head? = some '^'
  let text := if negated then skip loose text.tail else text
  let (members, text) := readDashes loose (text.length + 1) [] text
  if members.isEmpty ∧ text.head? = some ']' then
    (negated, [.char { char := ']' }], skip loose text.tail)
  else (negated, members, text)

/-- A set and the operation to which it is the left side. -/
abbrev Pending := SetOperator × CharSet

/-- A set of members, on the right of an operation if there is one. -/
def join (pending : Option Pending) (members : List CharSet) : CharSet :=
  let set := CharSet.ofParts members.reverse
  match pending with
  | some (operator, left) => .operation operator left set
  | none => set

/-- The operation that two signs in a row stand for. -/
def operator? (a b : Char) : Option SetOperator :=
  if a != b then none
  else match a with
    | '&' => some .intersection
    | '-' => some .difference
    | '~' => some .symmetricDifference
    | _ => none

/-- The rest of a set, with its members so far, last one first, and what stands left of the last
operation. -/
def readMembers (loose : Bool) :
    Nat → Option Pending → List CharSet → List Char → Option (CharSet × List Char)
  | 0, _, _, _ => none
  | fuel + 1, pending, members, text =>
    match skip loose text with
    | [] => none
    | '[' :: rest =>
      match readAsciiClass rest with
      | some (set, rest) => readMembers loose fuel pending (set :: members) rest
      | none =>
        let (negated, first, inside) := readOpening loose rest
        match readMembers loose fuel none first inside with
        | some (set, rest) => readMembers loose fuel pending (.bracket negated set :: members) rest
        | none => none
    | ']' :: rest => some (join pending members, rest)
    | a :: rest => match rest.head?.bind (operator? a) with
      | some operator => readMembers loose fuel (some (operator, join pending members)) [] rest.tail
      | none => match readRange loose (a :: rest) with
        | some (set, rest) => readMembers loose fuel pending (set :: members) rest
        | none => none

/-- A set, after its bracket. -/
def readSet (loose : Bool) (text : List Char) : Option (Pattern × List Char) := do
  let (negated, first, inside) := readOpening loose text
  let (set, rest) ← readMembers loose (text.length + 1) none first inside
  return (.bracket negated set, rest)

/-! ## Counts -/

/-- The greatest count that can be written. -/
def maxCount : Nat := UInt32.size - 1

/-- Digits, between which there may be space that does not count. -/
def takeDigits (loose : Bool) : Nat → List Char → List Char × List Char
  | fuel + 1, c :: rest =>
    if c.isDigit then
      let (digits, rest) := takeDigits loose fuel (skip loose rest)
      (c :: digits, rest)
    else ([], c :: rest)
  | _, text => ([], text)

/-- What follows white space, which never counts around a number. -/
def skipBlank (loose : Bool) : Nat → List Char → List Char
  | fuel + 1, c :: rest =>
    if Text.isBlank c then skipBlank loose fuel (skip loose rest) else c :: rest
  | _, text => text

/-- A number: `none` for no digits, and failure for one that is too great. -/
def readNumber (loose : Bool) (text : List Char) : Option (Option Nat × List Char) :=
  let text := text.dropWhile Text.isBlank
  let (digits, rest) := takeDigits loose (text.length + 1) text
  let number := digits.foldl (fun n d => 10 * n + (d.toNat - '0'.toNat)) 0
  if digits.isEmpty then some (none, skipBlank loose (rest.length + 1) rest)
  else if number ≤ maxCount then some (some number, skipBlank loose (rest.length + 1) rest)
  else none

/-- Whether a `?` follows, by which a repetition takes as little as it can, and the rest. -/
def readLazy : List Char → Bool × List Char
  | '?' :: rest => (true, rest)
  | rest => (false, rest)

/-- The end of a count: the closing brace, and the `?` that may follow. -/
def readCountEnd (loose : Bool) : List Char → Option (Bool × List Char)
  | '\x7d' :: rest => match skip loose rest with
    | '?' :: rest => some (true, rest)
    | rest => some (false, rest)
  | _ => none

/-- How often something is repeated. -/
structure Count where
  least : Nat
  most : Option Nat
  lazily : Bool

/-- A count in braces, after the opening one. -/
def readCount (loose : Bool) (text : List Char) : Option (Count × List Char) := do
  let (least, rest) ← readNumber loose (skip loose text)
  match rest with
  | ',' :: rest =>
    let rest := skip loose rest
    if rest.head? = some '\x7d' then
      let least ← least
      let (lazily, rest) ← readCountEnd loose rest
      return (⟨least, none, lazily⟩, rest)
    let (most, rest) ← readNumber loose rest
    let least ← least
    let most ← most
    let (lazily, rest) ← readCountEnd loose rest
    if least ≤ most then return (⟨least, some most, lazily⟩, rest) else none
  | rest =>
    let exact ← least
    let (lazily, rest) ← readCountEnd loose rest
    return (⟨exact, some exact, lazily⟩, rest)

/-- What one of the signs `?`, `*` and `+` and what follows it stand for. -/
def readSign (sign : Char) (rest : List Char) : Count × List Char :=
  let (lazily, rest) := readLazy rest
  (⟨if sign = '+' then 1 else 0, if sign = '?' then some 1 else none, lazily⟩, rest)

/-! ## Groups -/

def flagOf? : Char → Option Flag
  | 'i' => some .ignoreCase
  | 'm' => some .multiLine
  | 's' => some .dotAll
  | 'U' => some .swapGreed
  | 'u' => some .unicode
  | 'R' => some .lineEnds
  | 'x' => some .ignoreSpace
  | _ => none

/-- The change that letters stand for; those after a `-` are switched off. No flag is named
twice. -/
def flagChange? (letters : List Char) : Option FlagChange := do
  let isOn (c : Char) : Bool := c != '-'
  let on ← (letters.takeWhile isOn).mapM flagOf?
  let off ← ((letters.dropWhile isOn).drop 1).mapM flagOf?
  if (on ++ off).Nodup ∧ (letters.contains '-' → off ≠ []) then some ⟨on, off⟩ else none

/-- How a group starts. -/
inductive Opening where
  /-- A setting, which has its end already. -/
  | setting (change : FlagChange)
  | group (change : FlagChange)
  | capture (name : Option String)

/-- Whether a character can stand in the name of a group. -/
def inGroupName (c : Char) : Bool :=
  c == '_' || c == '.' || c == '[' || c == ']' || Text.isAlphanumeric c

/-- The name of a group, up to its `>`. -/
def readGroupName (text : List Char) : Option (String × List Char) :=
  match text.takeWhile (· != '>'), text.dropWhile (· != '>') with
  | first :: more, _ :: rest =>
    if (first == '_' || Text.isAlphabetic first) && more.all inGroupName then
      some (String.ofList (first :: more), rest)
    else none
  | _, _ => none

/-- The start of a group, after its parenthesis. There are no tests of what stands before or
after. -/
def readGroupStart (text : List Char) : Option (Opening × List Char) :=
  match text with
  | '?' :: '=' :: _ | '?' :: '!' :: _ | '?' :: '<' :: '=' :: _ | '?' :: '<' :: '!' :: _ => none
  | '?' :: 'P' :: '<' :: rest | '?' :: '<' :: rest =>
    (readGroupName rest).map fun (name, rest) => (.capture (some name), rest)
  | '?' :: rest => do
    let isLetter (c : Char) : Bool := c != ':' && c != ')'
    let letters := rest.takeWhile isLetter
    let change ← flagChange? letters
    match rest.dropWhile isLetter with
    | ':' :: rest => return (.group change, rest)
    | _ :: rest => if letters.isEmpty then none else return (.setting change, rest)
    | [] => none
  | rest => some (.capture none, rest)

/-! ## Patterns -/

/-- What has been read of a group: its branches and the parts of the last one, last one first, and
the names of all groups so far. -/
structure Progress where
  loose : Bool := false
  names : List String := []
  branches : List Pattern := []
  parts : List Pattern := []

namespace Progress

/-- Adds a part. -/
def add (p : Progress) (part : Pattern) : Progress := { p with parts := part :: p.parts }

/-- Starts a new branch. -/
def branch (p : Progress) : Progress :=
  { p with branches := ofParts p.parts.reverse :: p.branches, parts := [] }

/-- The pattern that has been read. -/
def result (p : Progress) : Pattern := ofBranches p.branch.branches.reverse

/-- Repeats the last part, which has to be there. -/
def repeatLast? (p : Progress) (count : Count) : Option Progress :=
  match p.parts with
  | last :: earlier =>
    if last.isRepeatable then
      some { p with parts := .repeated last count.least count.most count.lazily :: earlier }
    else none
  | [] => none

end Progress

/-- What one character and what follows it stand for, other than groups, sets, counts and
branches. -/
def readUnit (loose : Bool) : List Char → Option (Pattern × List Char)
  | [] => none
  | '\\' :: rest => (readEscape loose rest).map fun (unit, rest) => (match unit with
    | .char c => .literal c
    | .assertion a => .assertion a
    | .property negated p => .property negated p
    | .shorthand negated s => .shorthand negated s, rest)
  | '.' :: rest => some (.dot, rest)
  | '^' :: rest => some (.assertion .lineStart, rest)
  | '$' :: rest => some (.assertion .lineEnd, rest)
  | c :: rest => some (.literal { char := c }, rest)

/-- Reads up to the end of a group or of the text. -/
def readGroup : Nat → Progress → List Char → Option (Progress × List Char)
  | 0, _, _ => none
  | fuel + 1, p, text =>
    let again (count : Count) (rest : List Char) : Option (Progress × List Char) :=
      match p.repeatLast? count with
      | some p => readGroup fuel p rest
      | none => none
    let part (r : Option (Pattern × List Char)) : Option (Progress × List Char) :=
      match r with
      | some (part, rest) => readGroup fuel (p.add part) rest
      | none => none
    let inside (names : List String) (captures : Bool) (change : FlagChange) (rest : List Char) :
        Option (Progress × List Char) :=
      match readGroup fuel { loose := change.apply .ignoreSpace p.loose, names } rest with
      | some (q, ')' :: rest) =>
        readGroup fuel { p.add (.group captures change q.result) with names := q.names } rest
      | _ => none
    match skip p.loose text with
    | [] => some (p, [])
    | ')' :: rest => some (p, ')' :: rest)
    | '|' :: rest => readGroup fuel p.branch rest
    | '[' :: rest => part (readSet p.loose rest)
    | '?' :: rest => again (readSign '?' rest).1 (readSign '?' rest).2
    | '*' :: rest => again (readSign '*' rest).1 (readSign '*' rest).2
    | '+' :: rest => again (readSign '+' rest).1 (readSign '+' rest).2
    | '\x7b' :: rest =>
      match readCount p.loose rest with
      | some (count, rest) => again count rest
      | none => none
    | '(' :: rest =>
      match readGroupStart (skip p.loose rest) with
      | some (.setting change, rest) =>
        readGroup fuel { p.add (.setting change) with loose := change.apply .ignoreSpace p.loose }
          rest
      | some (.group change, rest) => inside p.names false change rest
      | some (.capture (some name), rest) =>
        if p.names.contains name then none else inside (name :: p.names) true {} rest
      | some (.capture none, rest) => inside p.names true {} rest
      | none => none
    | rest => part (readUnit p.loose rest)

/-- Reads a pattern. -/
def read (text : String) : Option Pattern :=
  match readGroup (text.length + 1) {} text.toList with
  | some (p, []) => some p.result
  | _ => none

end SdkForge.Pattern
