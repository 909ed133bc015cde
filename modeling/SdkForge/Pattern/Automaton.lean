import SdkForge.Pattern.Arena
import SdkForge.Pattern.Form

/-!
# Automata of patterns

A pattern is matched by two automata that read bytes, one forwards and one backwards.
`Form.automatonSize` is the memory that such an automaton takes: each state has the same size, and a
state with several ways out takes more for each of them. The states are made in the order of the
form, from its end on if it is read backwards.
-/

namespace SdkForge.Pattern

/-- The memory that an automaton may take: ten times 2²⁰ bytes. -/
def maxAutomatonSize : Nat := 0xA00000

/-! ## Texts -/

/-- Texts that may end, cut at those that end at once. -/
def cutAtEnds : List (List UInt8) → List (List (List UInt8))
  | [] => [[]]
  | [] :: rest => [] :: cutAtEnds rest
  | text :: rest => match cutAtEnds rest with
    | chunk :: more => (text :: chunk) :: more
    | [] => [[text]]

/-- The states for the tree of some texts, the first of which that fits is taken. Texts after one
that ends here make branches of their own. -/
def drawTexts : Nat → List (List UInt8) → Arena → Arena
  | 0, _, a => a
  | depth + 1, texts, a =>
    let chunks := match texts with
      | [] :: _ => [] :: cutAtEnds (texts.dropWhile List.isEmpty)
      | _ => cutAtEnds texts
    let full := chunks.filter (!·.isEmpty)
    full.foldl (fun a chunk =>
      let heads := (chunk.filterMap List.head?).eraseDups
      heads.foldl (fun a head =>
        let tails := (chunk.filter (·.head? == some head)).map List.tail
        if tails.all List.isEmpty then a else drawTexts depth tails a)
        (a.add (if heads.length = 1 then 0 else edgeSize * heads.length)))
      ((a.add 0).link (full.length + (chunks.length - 1)))

/-- The states for a choice between texts. -/
def drawChoice (backwards : Bool) (texts : List (List Char)) (a : Arena) : Arena :=
  let bytes := texts.map fun chars =>
    let bytes := chars.flatMap String.utf8EncodeChar
    if backwards then bytes.reverse else bytes
  drawTexts ((bytes.map List.length).foldl max 0 + 1) bytes (a.add 0)

/-! ## Repetitions -/

/-- What `draw` makes, so many times, or until it is too large already. -/
def drawAgain (draw : Arena → Arena) : Nat → Arena → Arena
  | 0, a => a
  | count + 1, a => if maxAutomatonSize < a.bytes then a else drawAgain draw count (draw a)

/-- What `draw` makes, as often as a repetition asks. What may match nothing needs more to be
repeated at will. -/
def drawRepeated (draw : Arena → Arena) (mayBeEmpty : Bool) (least : Nat) (most : Option Nat)
    (a : Arena) : Arena :=
  match most with
  | some most =>
    let exactly := if least = 0 then a.add 0 else drawAgain draw least a
    if least = 0 ∧ most = 1 then (draw a.fork).add 0
    else if least = most then exactly
    else drawAgain (fun a => draw a.fork) (most - least) (exactly.add 0)
  | none =>
    if 0 < least then (drawAgain draw least a).fork
    else if mayBeEmpty then (draw a).fork.fork.add 0
    else draw a.fork

namespace Form

/-! ## Forms -/

/-- The characters of a text. -/
def text? : Form → Option (List Char)
  | text chars => some chars
  | _ => none

mutual
/-- The states for a form. -/
def draw (backwards : Bool) : Form → Arena → Arena
  | empty, a | look _, a => a.add 0
  | text chars, a => a.addMany (textSize chars)
  | oneOf set, a => set.draw backwards a
  | repeated inner least most _, a =>
    drawRepeated (fun a => draw backwards inner a) (!(minSize inner).any (0 < ·)) least most a
  | capture inner, a =>
    if backwards then draw backwards inner a else (draw backwards inner (a.add 0)).add 0
  | sequence parts, a => drawAll backwards parts a
  | choice branches, a => match branches.mapM text? with
    | some texts => drawChoice backwards texts a
    | none => drawEach backwards 0 branches a
/-- The states for forms one after the other. -/
def drawAll (backwards : Bool) : List Form → Arena → Arena
  | [], a => a
  | form :: rest, a =>
    if backwards then draw backwards form (drawAll backwards rest a)
      else drawAll backwards rest (draw backwards form a)
/-- The states for forms of which one is tried after the other, when so many others have been made.
With the second one come the states where they start and where they meet. -/
def drawEach (backwards : Bool) (made : Nat) : List Form → Arena → Arena
  | [], a => a
  | form :: rest, a =>
    let a := (draw backwards form a).link 1
    drawEach backwards (made + 1) rest (if made = 1 then a.addMany 2 else a)
end

/-- The states for what is passed over before a match, unless a match has to start where the text
does. -/
def drawSearch (backwards : Bool) (form : Form) (a : Arena) : Arena :=
  if demands (if backwards then .textEnd else .textStart) backwards form then a.add 0
  else (a.fork.add 0).add edgeSize

/-- The memory that an automaton for a form takes. The one that reads forwards also keeps where a
match starts and ends. -/
def automatonSize (backwards : Bool) (form : Form) : Nat :=
  ((draw backwards (if backwards then form else capture form) (drawSearch backwards form {})).add
    0).bytes

/-- Whether both automata are small enough. -/
def fits (form : Form) : Bool :=
  automatonSize false form ≤ maxAutomatonSize && automatonSize true form ≤ maxAutomatonSize

end Form

end SdkForge.Pattern
