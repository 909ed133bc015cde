/-!
# Patterns

A pattern is a regular expression as the generated code's library reads it. Only what decides
whether the library takes the pattern is kept: of a group that captures, for instance, that it does,
and not its name.
-/

namespace SdkForge

namespace Pattern

/-- What can be switched on and off within a pattern. -/
inductive Flag where
  | ignoreCase | multiLine | dotAll | swapGreed | unicode | lineEnds | ignoreSpace
  deriving DecidableEq, Repr

/-- The flags that a group or a setting switches on, and those it switches off. -/
structure FlagChange where
  on : List Flag := []
  off : List Flag := []
  deriving DecidableEq, Inhabited, Repr

/-- A flag after a change. -/
def FlagChange.apply (change : FlagChange) (flag : Flag) (before : Bool) : Bool :=
  if change.on.contains flag then true else if change.off.contains flag then false else before

/-- One character that stands for itself or is written as an escape. -/
structure Literal where
  char : Char
  /-- `\x` with two digits wrote it, which outside of Unicode mode is a byte. -/
  isByte : Bool := false
  deriving DecidableEq, Inhabited, Repr

/-- A property of characters, as `\p` asks for it. -/
inductive Property where
  | named (name : String)
  | valued (name value : String)
  deriving DecidableEq, Repr

/-- One of the classes `\d`, `\s` and `\w`. -/
inductive Shorthand where
  | digit | space | word
  deriving DecidableEq, Repr

/-- A test that takes no character. -/
inductive Assertion where
  | lineStart | lineEnd | textStart | textEnd | wordEdge | noWordEdge | wordStart | wordEnd |
      wordStartHalf | wordEndHalf
  deriving DecidableEq, Repr

/-- What is made of two sets. -/
inductive SetOperator where
  | intersection | difference | symmetricDifference
  deriving DecidableEq, Repr

/-- A set of characters in brackets. -/
inductive CharSet where
  | char (c : Literal)
  | range (first last : Literal)
  /-- A class such as `[:alpha:]`. -/
  | ascii (negated : Bool) (name : String)
  | property (negated : Bool) (p : Property)
  | shorthand (negated : Bool) (s : Shorthand)
  | bracket (negated : Bool) (inner : CharSet)
  | union (parts : List CharSet)
  | operation (operator : SetOperator) (left right : CharSet)
  deriving Inhabited

/-- A set made of parts; one part alone is that part. -/
def CharSet.ofParts : List CharSet → CharSet
  | [part] => part
  | parts => .union parts

end Pattern

open Pattern in
/-- A regular expression. -/
inductive Pattern where
  | literal (c : Literal)
  | dot
  | assertion (a : Assertion)
  | property (negated : Bool) (p : Property)
  | shorthand (negated : Bool) (s : Shorthand)
  | bracket (negated : Bool) (set : CharSet)
  /-- A setting that holds from here to the end of the group. -/
  | setting (change : FlagChange)
  /-- At least `least` times, and at most `most` times if that is given, as often as can be or as
  little. -/
  | repeated (inner : Pattern) (least : Nat) (most : Option Nat) (lazily : Bool)
  | group (captures : Bool) (change : FlagChange) (inner : Pattern)
  | sequence (parts : List Pattern)
  | choice (branches : List Pattern)
  deriving Inhabited

namespace Pattern

/-- Parts one after the other; one part alone is that part. -/
def ofParts : List Pattern → Pattern
  | [part] => part
  | parts => .sequence parts

/-- One of several branches; one branch alone is that branch. -/
def ofBranches : List Pattern → Pattern
  | [branch] => branch
  | branches => .choice branches

/-- Whether a count can follow. -/
def isRepeatable : Pattern → Bool
  | .setting _ | .sequence [] => false
  | _ => true

end Pattern

end SdkForge
