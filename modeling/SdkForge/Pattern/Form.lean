import SdkForge.Pattern.CodeSet
import SdkForge.Pattern.Syntax

/-!
# Forms of patterns

A form is what is left of a pattern when its modes have been settled: tests, texts, sets of
characters, and what is made of them. `Form.join`, `Form.branch` and `Form.times` make forms that
say the same in less: texts side by side become one, and branches of one character each become a
set.
-/

namespace SdkForge.Pattern

/-- A test with what its modes make of it: for the ends of lines whether a carriage return ends one,
for words whether they are made of more than ASCII. -/
structure Look where
  test : Assertion
  wide : Bool := false
  deriving DecidableEq, Repr

/-- What a pattern comes down to. -/
inductive Form where
  | empty
  | text (chars : List Char)
  | oneOf (set : CodeSet)
  | look (l : Look)
  | repeated (inner : Form) (least : Nat) (most : Option Nat) (lazily : Bool)
  | capture (inner : Form)
  | sequence (parts : List Form)
  | choice (branches : List Form)
  deriving Inhabited

/-- The sum of numbers. -/
def total (numbers : List Nat) : Nat := numbers.foldr (· + ·) 0

/-- The number of bytes that write a code point. -/
def codeSize (code : Nat) : Nat :=
  if code < 0x80 then 1 else if code < 0x800 then 2 else if code < 0x10000 then 3 else 4

/-- The number of bytes that write a text. -/
def textSize (chars : List Char) : Nat := total (chars.map (·.utf8Size))

namespace Form

/-! ## Lengths -/

/-- The sum of numbers, all of which have to be there. -/
def sumAll (numbers : List (Option Nat)) : Option Nat := (numbers.mapM id).map total

mutual
/-- The least number of bytes that the form matches, if it can match. -/
def minSize : Form → Option Nat
  | empty | look _ => some 0
  | text chars => some (textSize chars)
  | oneOf set => set.head?.map fun run => codeSize run.first
  | repeated inner least _ _ => (minSize inner).map (· * least)
  | capture inner => minSize inner
  | sequence parts => sumAll (minSizes parts)
  | choice branches => ((minSizes branches).mapM id).bind (·.min?)
def minSizes : List Form → List (Option Nat)
  | [] => []
  | form :: rest => minSize form :: minSizes rest
end

mutual
/-- The greatest number of bytes that the form matches, if it can match and there is a bound. -/
def maxSize : Form → Option Nat
  | empty | look _ => some 0
  | text chars => some (textSize chars)
  | oneOf set => set.getLast?.map fun run => codeSize run.last
  | repeated inner _ most _ => most.bind fun most => (maxSize inner).map (· * most)
  | capture inner => maxSize inner
  | sequence parts => sumAll (maxSizes parts)
  | choice branches => ((maxSizes branches).mapM id).bind (·.max?)
def maxSizes : List Form → List (Option Nat)
  | [] => []
  | form :: rest => maxSize form :: maxSizes rest
end

/-- Whether one of the first of the forms has a property, up to one that takes characters. Each form
is given by the property and by its greatest size. -/
def anyLeading : List (Bool × Option Nat) → Bool
  | [] => false
  | (holds, size) :: rest => holds || (size == some 0 && anyLeading rest)

mutual
/-- Whether a match has to start, or with `atEnd` to end, with a test. -/
def demands (test : Assertion) (atEnd : Bool) : Form → Bool
  | look l => l.test == test
  | repeated inner least _ _ => 0 < least && demands test atEnd inner
  | capture inner => demands test atEnd inner
  | sequence parts =>
    let demanding := (demandsEach test atEnd parts).zip (maxSizes parts)
    anyLeading (if atEnd then demanding.reverse else demanding)
  | choice branches => (demandsEach test atEnd branches).all id
  | empty | text _ | oneOf _ => false
def demandsEach (test : Assertion) (atEnd : Bool) : List Form → List Bool
  | [] => []
  | form :: rest => demands test atEnd form :: demandsEach test atEnd rest
end

/-! ## Sameness -/

mutual
/-- Whether two forms are written the same. No two groups that capture are. -/
def same : Form → Form → Bool
  | empty, empty => true
  | text a, text b => a == b
  | oneOf a, oneOf b => a == b
  | look a, look b => a == b
  | repeated a least most lazily, repeated b least' most' lazily' =>
    least == least' && most == most' && lazily == lazily' && same a b
  | sequence a, sequence b | choice a, choice b => sameAll a b
  | _, _ => false
def sameAll : List Form → List Form → Bool
  | [], [] => true
  | a :: as, b :: bs => same a b && sameAll as bs
  | _, _ => false
end

/-- What two sequences start with. -/
def commonStart : List Form → List Form → List Form
  | a :: as, b :: bs => if same a b then a :: commonStart as bs else []
  | _, _ => []

/-! ## Making forms -/

/-- One of a set of characters. -/
def ofSet (set : CodeSet) : Form :=
  match set with
  | [run] => if run.first = run.last then text [Char.ofNat run.first] else oneOf set
  | _ => oneOf set

/-- A form repeated. What takes no characters is not repeated more than once. -/
def times (inner : Form) (least : Nat) (most : Option Nat) (lazily : Bool) : Form :=
  let nothing := maxSize inner == some 0
  let least := if nothing then min least 1 else least
  let most := if nothing then some (min (most.getD 1) 1) else most
  if most = some 0 then empty
  else if least = 1 ∧ most = some 1 then inner
  else repeated inner least most lazily

/-- The forms with texts side by side made one. -/
def mergeTexts : List Form → List Form
  | [] => []
  | form :: rest => match form, mergeTexts rest with
    | text a, text b :: rest => text (a ++ b) :: rest
    | form, rest => form :: rest

/-- Forms one after the other. -/
def join (parts : List Form) : Form :=
  let flat := parts.flatMap fun
    | sequence parts => parts
    | empty => []
    | part => [part]
  match mergeTexts flat with
  | [] => empty
  | [part] => part
  | parts => sequence parts

/-- The set of a form that matches one character. -/
def single? : Form → Option CodeSet
  | oneOf set => some set
  | text [c] => some (CodeSet.ofChar c)
  | _ => none

/-- The parts of a sequence. -/
def parts? : Form → Option (List Form)
  | sequence parts => some parts
  | _ => none

/-- What all of the sequences start with. -/
def sharedStart : List (List Form) → List Form
  | [] => []
  | first :: rest => rest.foldl commonStart first

mutual
/-- How many forms a form is made of. -/
def count : Form → Nat
  | repeated inner _ _ _ | capture inner => count inner + 1
  | sequence parts | choice parts => countAll parts + 1
  | empty | text _ | oneOf _ | look _ => 1
def countAll : List Form → Nat
  | [] => 0
  | form :: rest => count form + countAll rest
end

/-- One of several forms. What all of them start with is put in front. -/
def branchWithin : Nat → List Form → Form
  | 0, branches => choice branches
  | fuel + 1, branches =>
    let flat := branches.flatMap fun
      | choice branches => branches
      | branch => [branch]
    match flat with
    | [] => oneOf []
    | [branch] => branch
    | _ => match flat.mapM single? with
      | some sets => ofSet (CodeSet.unionAll sets)
      | none => match flat.mapM parts? with
        | none => choice flat
        | some sequences => match sharedStart sequences with
          | [] => choice flat
          | start =>
            join (start ++
              [branchWithin fuel (sequences.map fun parts => join (parts.drop start.length))])

/-- One of several forms. -/
def branch (branches : List Form) : Form := branchWithin (countAll branches + 1) branches

end Form

end SdkForge.Pattern
