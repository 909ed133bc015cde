import SdkForge.Pattern.AsciiClass
import SdkForge.Pattern.Fold
import SdkForge.Pattern.Form
import SdkForge.Pattern.Property

/-!
# Settling the modes of a pattern

What a part of a pattern matches depends on the modes that are on where it stands. `Form.ofPattern?`
goes through a pattern with its modes, and gives its form, unless it names a property that does not
exist or could match a part of a character: without the Unicode mode a part takes a byte, which has
to be one of ASCII.
-/

namespace SdkForge.Pattern

/-- The flags that are on. -/
abbrev Modes := List Flag

/-- The modes after a change. -/
def FlagChange.applyTo (change : FlagChange) (modes : Modes) : Modes :=
  change.on ++ modes.filter fun flag => change.apply flag true

/-- A pattern starts in Unicode mode. -/
def Modes.initial : Modes := [.unicode]

/-! ## Sets -/

/-- The characters of all words, digits and white space. -/
def Shorthand.codes : Shorthand → CodeSet
  | digit => ofCategories ["nd"]
  | space => feature "space"
  | word => CodeSet.word

/-- The characters of ASCII among them. -/
def Shorthand.asciiCodes : Shorthand → CodeSet
  | digit => NamedCodes.get asciiClasses "digit"
  | space => NamedCodes.get asciiClasses "space"
  | word => NamedCodes.get asciiClasses "word"

/-- Whether a character is one of ASCII. -/
def Literal.isAscii (c : Literal) : Bool := c.char.toNat < 0x80

/-- A set where case may not count. -/
def Modes.close (modes : Modes) (set : CodeSet) : CodeSet :=
  if !modes.contains .ignoreCase then set
  else if modes.contains .unicode then set.closeCase
  else set.closeAsciiCase

/-- A set, or all characters that are not in it. There are bytes in no set of characters, so the
latter needs the Unicode mode. -/
def Modes.settle? (modes : Modes) (negated : Bool) (set : CodeSet) : Option CodeSet :=
  if !negated then some (modes.close set)
  else if modes.contains .unicode then some (modes.close set).complement
  else none

/-- The characters of a property. -/
def Modes.property? (modes : Modes) (negated : Bool) (p : Property) : Option CodeSet :=
  if modes.contains .unicode then p.codes?.bind (modes.settle? negated) else none

/-- The characters of a shorthand, to which case makes no difference. -/
def Modes.shorthand? (modes : Modes) (negated : Bool) (s : Shorthand) : Option CodeSet :=
  if modes.contains .unicode then some (if negated then s.codes.complement else s.codes)
  else if negated then none
  else some s.asciiCodes

/-- What is made of two sets. -/
def SetOperator.apply : SetOperator → CodeSet → CodeSet → CodeSet
  | intersection => CodeSet.intersection
  | difference => CodeSet.difference
  | symmetricDifference => CodeSet.symmetricDifference

mutual
/-- The characters of a set in brackets. -/
def CharSet.codes? (modes : Modes) : CharSet → Option CodeSet
  | .char c => if modes.contains .unicode || c.isAscii then some (CodeSet.ofChar c.char) else none
  | .range first last =>
    if modes.contains .unicode || (first.isAscii && last.isAscii) then
      some [⟨first.char.toNat, last.char.toNat⟩]
    else none
  | .ascii negated name => modes.settle? negated (NamedCodes.get asciiClasses name)
  | .property negated p => modes.property? negated p
  | .shorthand negated s => modes.shorthand? negated s
  | .bracket negated inner => (inner.codes? modes).bind (modes.settle? negated)
  | .union parts => (CharSet.allCodes? modes parts).map CodeSet.unionAll
  | .operation operator left right => do
    return operator.apply (modes.close (← left.codes? modes)) (modes.close (← right.codes? modes))
/-- The characters of each of the sets. -/
def CharSet.allCodes? (modes : Modes) : List CharSet → Option (List CodeSet)
  | [] => some []
  | set :: rest => do return (← set.codes? modes) :: (← CharSet.allCodes? modes rest)
end

/-! ## Parts -/

namespace Form

/-- One character. -/
def ofLiteral? (modes : Modes) (c : Literal) : Option Form :=
  if modes.contains .unicode || c.isAscii then some (ofSet (modes.close (CodeSet.ofChar c.char)))
  else if c.isByte then none
  else some (text [c.char])

/-- Any character, but for those that end a line if these do not count. -/
def dot? (modes : Modes) : Option Form :=
  if !modes.contains .unicode then none
  else if modes.contains .dotAll then some (oneOf CodeSet.everything)
  else some
    (oneOf (CodeSet.complement (CodeSet.ofLines [if modes.contains .lineEnds then "A D" else "A"])))

/-- A test. The ends of lines are those of the text unless each line counts. -/
def ofAssertion (modes : Modes) (a : Assertion) : Form :=
  let lines := modes.contains .multiLine
  match a with
  | .lineStart =>
    look (if lines then ⟨.lineStart, modes.contains .lineEnds⟩ else { test := .textStart })
  | .lineEnd => look (if lines then ⟨.lineEnd, modes.contains .lineEnds⟩ else { test := .textEnd })
  | .textStart | .textEnd => look { test := a }
  | _ => look ⟨a, modes.contains .unicode⟩

mutual
/-- The form of a pattern, and the modes after it. -/
def settle? (modes : Modes) : Pattern → Option (Form × Modes)
  | .literal c => (ofLiteral? modes c).map (·, modes)
  | .dot => (dot? modes).map (·, modes)
  | .assertion a => some (ofAssertion modes a, modes)
  | .property negated p => (modes.property? negated p).map fun set => (ofSet set, modes)
  | .shorthand negated s => (modes.shorthand? negated s).map fun set => (ofSet set, modes)
  | .bracket negated set =>
    ((set.codes? modes).bind (modes.settle? negated)).map fun set => (ofSet set, modes)
  | .setting change => some (empty, change.applyTo modes)
  | .repeated inner least most lazily => do
    let (form, after) ← settle? modes inner
    return (times form least most (lazily != modes.contains .swapGreed), after)
  | .group captures change inner => do
    let (form, _) ← settle? (change.applyTo modes) inner
    return (if captures then capture form else form, modes)
  | .sequence parts => do
    let (forms, after) ← settleAll? modes parts
    return (join forms, after)
  | .choice branches => do
    let (forms, after) ← settleAll? modes branches
    return (branch forms, after)
/-- The forms of patterns, where the modes pass from one to the next. -/
def settleAll? (modes : Modes) : List Pattern → Option (List Form × Modes)
  | [] => some ([], modes)
  | p :: rest => do
    let (form, after) ← settle? modes p
    let (forms, after) ← settleAll? after rest
    return (form :: forms, after)
end

/-- The form of a pattern. -/
def ofPattern? (p : Pattern) : Option Form := (settle? Modes.initial p).map (·.1)

end Form

end SdkForge.Pattern
