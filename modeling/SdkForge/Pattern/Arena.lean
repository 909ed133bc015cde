import SdkForge.Pattern.BytePath
import Std.Data.HashMap

/-!
# Arenas of states

An automaton is built state by state, and `Arena` keeps of it what its size depends on: how many
states there are, and how many bytes they take. The number of a state is the count of those that
were made before it.

A set of characters beyond ASCII becomes a tree of byte ranges. While it is built, its states are
remembered, and one that is needed again is not made again. What is remembered has its place in a
table of a fixed size, by its hash, and displaces what had the place before: `CodeSet.draw` counts
just the states that are made.
-/

namespace SdkForge.Pattern

/-! ## States -/

/-- The bytes that a state takes. -/
def stateSize : Nat := 32

/-- The bytes that a way out by a range of bytes takes. -/
def edgeSize : Nat := 8

/-- The bytes that a way out to try takes. -/
def linkSize : Nat := 4

/-- The states of an automaton: how many there are, and how many bytes they take. -/
structure Arena where
  states : Nat := 0
  bytes : Nat := 0

namespace Arena

/-- One more state, which takes `extra` bytes for its ways out. -/
def add (a : Arena) (extra : Nat) : Arena := ⟨a.states + 1, a.bytes + stateSize + extra⟩

/-- Some more states with one way out each. -/
def addMany (a : Arena) (count : Nat) : Arena := ⟨a.states + count, a.bytes + stateSize * count⟩

/-- Some more ways to try, out of a state that there is already. -/
def link (a : Arena) (count : Nat) : Arena := ⟨a.states, a.bytes + linkSize * count⟩

/-- One more state, which tries two ways. -/
def fork (a : Arena) : Arena := (a.add 0).link 2

end Arena

/-! ## What is remembered -/

/-- The states that are remembered, each by its key, in a table with so many places. -/
structure Memory where
  places : Nat
  entries : Std.HashMap Nat (List Nat × Nat) := ∅

namespace Memory

/-- The hash of numbers: each of them is mixed into it, and it is multiplied by a prime. -/
def hash (numbers : List Nat) : UInt64 :=
  numbers.foldl (fun h n => (h ^^^ n.toUInt64) * 1099511628211) 14695981039346656037

/-- The place of a key. -/
def place (m : Memory) (key : List Nat) : Nat := (hash key).toNat % m.places

/-- The state with a key, if it is remembered. -/
def find? (m : Memory) (key : List Nat) : Option Nat :=
  match m.entries[m.place key]? with
  | some (other, state) => if other == key then some state else none
  | none => none

/-- Remembers a state in place of the one that had its place. -/
def keep (m : Memory) (key : List Nat) (state : Nat) : Memory :=
  { m with entries := m.entries.insert (m.place key) (key, state) }

end Memory

/-- An arena while a set is built. -/
structure Draft where
  arena : Arena
  memory : Memory

/-- The state with a key, which is made unless it is remembered. -/
def Draft.intern (d : Draft) (key : List Nat) (extra : Nat) : Nat × Draft :=
  match d.memory.find? key with
  | some state => (state, d)
  | none => (d.arena.states, ⟨d.arena.add extra, d.memory.keep key d.arena.states⟩)

/-! ## Sets -/

/-- The state from which each of the paths leads to the target. The states behind it are made first,
from the first path to the last. -/
def treeState (target : Nat) : Nat → List BytePath → Draft → Nat × Draft
  | 0, _, d => (target, d)
  | depth + 1, paths, d =>
    match byFirst paths with
    | [] => (target, d)
    | branches =>
      let (key, d) := branches.foldl (fun (key, d) (range, behind) =>
        let (next, d) := treeState target depth behind d
        (next :: range.last :: range.first :: key, d)) (([] : List Nat), d)
      d.intern key.reverse (edgeSize * branches.length)

/-- The states that lead backwards to the target by a path, from its first byte on. -/
def chainState (target : Nat) (path : BytePath) (d : Draft) : Draft :=
  (path.foldl (fun (next, d) range => d.intern [next, range.first, range.last] 0) (target, d)).2

/-- The states for a set of characters. Read forwards, each path starts at the root of a tree; read
backwards, each path is tried on its own. -/
def CodeSet.draw (backwards : Bool) (set : CodeSet) (a : Arena) : Arena :=
  if set.isAscii then (a.add 0).add (edgeSize * set.length)
  else if backwards then
    let target := a.states + 1
    let d : Draft := ⟨(a.add 0).add 0, { places := 1000 }⟩
    (set.paths.foldl (fun d path => chainState target path d) d).arena.link set.paths.length
  else (treeState a.states 4 set.paths ⟨a.add 0, { places := 10000 }⟩).2.arena

end SdkForge.Pattern
