/-!
# Cutting text into pieces

`splitAll` cuts at every separator, `splitFirst` at the first one, `lines` at line ends. Joining the
pieces again gives the text back (`intercalate_splitAll`, `eq_of_splitFirst`).
-/

namespace SdkForge.Text

/-! ## At every separator -/

/-- The pieces between the characters that satisfy `sep`; there is always at least one. -/
def splitAll (sep : Char → Bool) : List Char → List (List Char)
  | [] => [[]]
  | c :: rest =>
    if sep c then [] :: splitAll sep rest
    else match splitAll sep rest with
      | piece :: pieces => (c :: piece) :: pieces
      | [] => [[c]]

theorem splitAll_ne_nil (sep : Char → Bool) (text : List Char) : splitAll sep text ≠ [] := by
  cases text with
  | nil => simp [splitAll]
  | cons c rest => unfold splitAll; split <;> (try split) <;> simp

/-- A cut at one character is undone by joining with it. -/
theorem intercalate_splitAll (sep : Char) (text : List Char) :
    List.intercalate [sep] (splitAll (· == sep) text) = text := by
  induction text with
  | nil => simp [splitAll]
  | cons c rest ih =>
    unfold splitAll
    split
    · rename_i h
      have hc : c = sep := by simpa using h
      cases hs : splitAll (· == sep) rest with
      | nil => exact absurd hs (splitAll_ne_nil _ _)
      | cons piece pieces => rw [hs] at ih; simp [List.intercalate_cons_cons, ih, hc]
    · cases hs : splitAll (· == sep) rest with
      | nil => exact absurd hs (splitAll_ne_nil _ _)
      | cons piece pieces =>
        rw [hs] at ih
        cases pieces with
        | nil => simpa using ih
        | cons next more => simpa [List.intercalate_cons_cons] using ih

/-! ## At the first separator -/

/-- What stands before and after the first `sep`; nothing when there is none. -/
def splitFirst (sep : Char) : List Char → Option (List Char × List Char)
  | [] => none
  | c :: rest =>
    if c = sep then some ([], rest) else (splitFirst sep rest).map fun (before, after) =>
      (c :: before, after)

theorem eq_of_splitFirst {sep : Char} {text before after : List Char}
    (h : splitFirst sep text = some (before, after)) :
    text = before ++ sep :: after ∧ sep ∉ before := by
  induction text generalizing before with
  | nil => simp [splitFirst] at h
  | cons c rest ih =>
    unfold splitFirst at h
    split at h
    · rename_i hc; simp_all
    · rename_i hc
      obtain ⟨⟨b, a⟩, hb, he⟩ := Option.map_eq_some_iff.1 h
      simp only [Prod.mk.injEq] at he
      obtain ⟨rfl, rfl⟩ := he
      obtain ⟨h₁, h₂⟩ := ih hb
      simp [h₁, h₂, Ne.symm hc]

/-! ## At a piece of text -/

/-- What stands before and after the first place where `piece` stands. -/
def splitPiece (piece : List Char) : List Char → Option (List Char × List Char)
  | [] => none
  | c :: rest =>
    if piece.isPrefixOf (c :: rest) then some ([], (c :: rest).drop piece.length)
    else (splitPiece piece rest).map fun (before, after) => (c :: before, after)

/-- Whether `piece` stands somewhere in a text. -/
def contains (piece : List Char) : List Char → Bool
  | [] => piece.isEmpty
  | c :: rest => piece.isPrefixOf (c :: rest) || contains piece rest

/-! ## At line ends -/

/-- Without the carriage return that stood before a line feed. -/
def dropReturn (line : List Char) : List Char :=
  if line.getLast? = some '\r' then line.dropLast else line

/-- The lines of a text. A line ends at a line feed, before which one carriage return is dropped;
what follows the last line feed is a line only if it holds a character. -/
def lines (text : List Char) : List (List Char) :=
  let pieces := splitAll (· == '\n') text
  let rest := pieces.getLastD []
  pieces.dropLast.map dropReturn ++ (if rest = [] then [] else [rest])

@[simp] theorem lines_nil : lines [] = [] := rfl

end SdkForge.Text
