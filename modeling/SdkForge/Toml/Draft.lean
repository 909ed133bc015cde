import SdkForge.Toml.Value

/-!
# Tables being put together

A document names the entries of its tables in pieces: a header opens a table, a dotted key reaches
through tables, a double header adds a table to an array. `Draft` holds what has been said so far,
and refuses what would say something twice or change what is closed.
-/

namespace SdkForge.Toml

/-- How a table came to be. -/
inductive Origin where
  /-- It was opened by a header of its own. -/
  | opened
  /-- The header of a table inside it passed through. -/
  | passed
  /-- A dotted key reached through it. -/
  | dotted
  deriving DecidableEq, Repr

/-- What stands under a key. -/
inductive Slot where
  | value (v : Value)
  | table (origin : Origin) (entries : List (String × Slot))
  /-- An array of tables: those before the last one, and the last one, which is still open. -/
  | series (earlier : List (List (String × Slot))) (last : List (String × Slot))
  deriving Inhabited

/-- A table's entries, in the order in which they were first named. -/
abbrev Slots := List (String × Slot)

namespace Slots

/-- The entries with another slot under a key, at the end if the key is new. -/
def set (entries : Slots) (key : String) (slot : Slot) : Slots :=
  if entries.any (·.1 == key) then entries.map fun entry => if entry.1 == key then (key, slot)
    else entry
  else entries ++ [(key, slot)]

/-- Changes the table at the end of a path by `f`, which is given how the table came to be. Tables
on the way are made where there are none. A dotted path does not reach into a table that a header
opened. -/
def update (dotted : Bool) (f : Origin → Slots → Option Slots) :
    List String → Origin → Slots → Option Slots
  | [], origin, entries => f origin entries
  | key :: path, _, entries =>
    match entries.lookup key with
    | none => do
      let made := if dotted then Origin.dotted else Origin.passed
      return entries.set key (.table made (← update dotted f path made []))
    | some (.table origin inner) =>
      if dotted && origin == Origin.opened then none
      else do return entries.set key (.table origin (← update dotted f path origin inner))
    | some (.series earlier last) => do
      return entries.set key (.series earlier (← update dotted f path .opened last))
    | some (.value _) => none

/-- Adds an entry under a dotted key. The last table on the way has to be of the kind that the key
makes. -/
def define (path : List String) (key : String) (value : Value) : Origin → Slots → Option Slots :=
  update true (fun origin entries =>
    if (origin == Origin.dotted) == path.isEmpty || (entries.lookup key).isSome then none
    else some (entries.set key (.value value))) path

end Slots

mutual
/-- The value that a slot has come to hold. -/
def Slot.toValue : Slot → Value
  | .value v => v
  | .table _ entries => .table (byKey (Slots.toEntries entries))
  | .series earlier last =>
    .array (Slots.toTables earlier ++ [.table (byKey (Slots.toEntries last))])
def Slots.toEntries : List (String × Slot) → List (String × Value)
  | [] => []
  | (key, slot) :: rest => (key, slot.toValue) :: Slots.toEntries rest
def Slots.toTables : List (List (String × Slot)) → List Value
  | [] => []
  | entries :: rest => .table (byKey (Slots.toEntries entries)) :: Slots.toTables rest
end

/-- A document being put together: its entries, and the path of the table that the last header
opened. -/
structure Draft where
  root : Slots := []
  current : List String := []

namespace Draft

/-- Adds an entry to the table that is open. -/
def define (d : Draft) (path : List String) (key : String) (value : Value) : Option Draft := do
  return { d with root := ← d.root.update false (Slots.define path key value) d.current .opened }

/-- Opens a table that no header opened before. -/
def openTable (d : Draft) (path : List String) (key : String) : Option Draft := do
  let root ← d.root.update false (fun _ entries => match entries.lookup key with
    | none => some (entries.set key (.table .opened []))
    | some (.table .passed inner) => some (entries.set key (.table .opened inner))
    | some _ => none) path .opened
  return { root, current := path ++ [key] }

/-- Opens a table at the end of an array of tables. -/
def openItem (d : Draft) (path : List String) (key : String) : Option Draft := do
  let root ← d.root.update false (fun _ entries => match entries.lookup key with
    | none => some (entries.set key (.series [] []))
    | some (.series earlier last) => some (entries.set key (.series (earlier ++ [last]) []))
    | some _ => none) path .opened
  return { root, current := path ++ [key] }

/-- What the document says. -/
def entries (d : Draft) : List (String × Value) := byKey (Slots.toEntries d.root)

end Draft

end SdkForge.Toml
