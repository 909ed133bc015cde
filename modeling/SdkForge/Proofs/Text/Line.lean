import SdkForge.Proofs.Text.Split

/-!
# Lines that end

A text consists of lines if each of them ends with a line feed and nothing follows the last one.

* `isLines_iff` says so in terms of what is written, and `IsLines.getLast?` what such a text ends
  with.
* `newline_notMem_of_mem_lines` says that the lines of any text hold no line feed.
-/

namespace SdkForge.Text

variable {text : String} {ls ls' : List (List Char)}

/-- The lines, each with a line feed at its end. -/
def unlines (ls : List (List Char)) : List Char := ls.flatMap (· ++ ['\n'])

lemma unlines_cons (l : List Char) (ls : List (List Char)) :
    unlines (l :: ls) = l ++ '\n' :: unlines ls := by
  simp [unlines]

lemma unlines_append (ls ls' : List (List Char)) :
    unlines (ls ++ ls') = unlines ls ++ unlines ls' := List.flatMap_append

/-- The text is cut into the lines by its line feeds, the last of which it ends with. -/
def IsLines (text : String) (ls : List (List Char)) : Prop := text.toList.splitOn '\n' = ls ++ [[]]

lemma splitOn_unlines (h : ∀ l ∈ ls, '\n' ∉ l) : (unlines ls).splitOn '\n' = ls ++ [[]] := by
  induction ls with
  | nil => rfl
  | cons l rest ih =>
    obtain ⟨hl, hrest⟩ := List.forall_mem_cons.1 h
    rw [unlines_cons, List.splitOn_append_cons_self_of_not_mem hl, ih hrest]
    rfl

lemma intercalate_append_nil (ls : List (List Char)) :
    List.intercalate ['\n'] (ls ++ [[]]) = unlines ls := by
  induction ls with
  | nil => rfl
  | cons l rest ih =>
    have hne : rest ++ [[]] ≠ [] := by simp
    rw [List.cons_append, List.intercalate_cons_of_ne_nil hne, ih, unlines_cons]
    simp

/-- A text consists of lines if it is written by writing them, and none of them holds a line
feed. -/
theorem isLines_iff : IsLines text ls ↔ text.toList = unlines ls ∧ ∀ l ∈ ls, '\n' ∉ l := by
  constructor
  · intro h
    refine ⟨?_, fun l hl => ?_⟩
    · rw [← intercalate_append_nil, ← h, List.intercalate_splitOn]
    · have hpiece : l ∈ splitAll (· == '\n') text.toList := by
        rw [splitAll_eq_splitOn, h]
        exact List.mem_append_left _ hl
      exact notMem_of_mem_splitAll hpiece
  · rintro ⟨htext, hls⟩
    rw [IsLines, htext, splitOn_unlines hls]

/-- A text that has lines ends with a line feed. -/
lemma IsLines.getLast? (h : IsLines text ls) (hne : ls ≠ []) :
    text.toList.getLast? = some '\n' := by
  obtain ⟨before, l, rfl⟩ := List.eq_nil_or_concat ls |>.resolve_left hne
  rw [(isLines_iff.1 h).1, List.concat_eq_append, unlines_append, unlines_cons]
  simp [unlines]

/-! ## Lines of any text -/

lemma dropReturn_sublist (line : List Char) : (dropReturn line).Sublist line := by
  unfold dropReturn
  split
  · exact List.dropLast_sublist _
  · exact .refl _

/-- The lines of a text hold no line feed. -/
theorem newline_notMem_of_mem_lines {text line : List Char} (h : line ∈ lines text) :
    '\n' ∉ line := by
  have hpiece : ∀ piece ∈ splitAll (· == '\n') text, '\n' ∉ piece := fun _ => notMem_of_mem_splitAll
  rcases List.mem_append.1 h with h | h
  · obtain ⟨piece, hmem, rfl⟩ := List.mem_map.1 h
    exact fun hnewline =>
      hpiece piece (List.dropLast_subset _ hmem) ((dropReturn_sublist piece).mem hnewline)
  · split at h
    · contradiction
    · rw [List.mem_singleton.1 h, List.getLastD_eq_getLast?,
        List.getLast?_eq_some_getLast (splitAll_ne_nil _ _)]
      exact hpiece _ (List.getLast_mem _)

end SdkForge.Text
