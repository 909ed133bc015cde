import Mathlib.Data.List.TakeWhile
import SdkForge.Text.Split

/-!
# Cutting text, in terms of lists

* `splitAll_eq_splitOn` says that cutting at every separator is `List.splitOn`, and
  `notMem_of_mem_splitAll` that no piece holds it.
* `splitFirst_eq` says that the first cut is made by `takeWhile` and `dropWhile`.
* `eq_of_append_cons_eq` says that the last separator of a text is in one place only.
-/

namespace SdkForge.Text

variable {sep : Char} {before : List Char}

/-- Cutting at a character is splitting on it. -/
theorem splitAll_eq_splitOn (sep : Char) (text : List Char) :
    splitAll (· == sep) text = text.splitOn sep := by
  induction text with
  | nil => rfl
  | cons c rest ih =>
    rw [splitAll, List.splitOn_cons_eq_if_modifyHead, ← ih]
    by_cases hc : (c == sep) = true
    · rw [if_pos hc, if_pos hc]
    · rw [if_neg hc, if_neg hc]
      cases hpieces : splitAll (· == sep) rest with
      | nil => exact absurd hpieces (splitAll_ne_nil _ _)
      | cons piece pieces => rfl

/-- No piece holds the separator. -/
lemma notMem_of_mem_splitAll {text piece : List Char} (h : piece ∈ splitAll (· == sep) text) :
    sep ∉ piece := by
  induction text generalizing piece with
  | nil =>
    rw [List.mem_singleton.1 h]
    exact List.not_mem_nil
  | cons c rest ih =>
    rw [splitAll] at h
    split at h
    · rcases List.mem_cons.1 h with rfl | h
      · exact List.not_mem_nil
      · exact ih h
    · next hc =>
      split at h
      · next first pieces hsplit =>
        rw [hsplit] at ih
        rcases List.mem_cons.1 h with rfl | h
        · have hne : sep ≠ c := fun heq => hc (beq_iff_eq.2 heq.symm)
          exact List.mem_cons.not.2 (not_or.2 ⟨hne, ih List.mem_cons_self⟩)
        · exact ih (List.mem_cons_of_mem _ h)
      · next hsplit => exact absurd hsplit (splitAll_ne_nil _ _)

/-- What stands before a separator, and holds none, is cut off. -/
lemma splitFirst_append_cons (h : sep ∉ before) (after : List Char) :
    splitFirst sep (before ++ sep :: after) = some (before, after) := by
  induction before with
  | nil => exact if_pos rfl
  | cons c rest ih =>
    obtain ⟨hc, hrest⟩ := not_or.1 (List.mem_cons.not.1 h)
    rw [List.cons_append, splitFirst, if_neg (Ne.symm hc), ih hrest]
    rfl

/-- The first cut is where the text before it ends. -/
theorem splitFirst_eq (sep : Char) (text : List Char) : splitFirst sep text =
    if sep ∈ text then some (text.takeWhile (· != sep), (text.dropWhile (· != sep)).drop 1)
      else none := by
  induction text with
  | nil => rfl
  | cons c rest ih =>
    rw [splitFirst, ih]
    by_cases hc : c = sep
    · simp [hc]
    · by_cases hmem : sep ∈ rest
      · simp [hc, hmem]
      · simp [hc, hmem, Ne.symm hc]

/-- A text without the separator stands before the cut as a whole. -/
lemma splitFirst_getD (sep : Char) (text : List Char) : (splitFirst sep text).getD (text, []) =
    (text.takeWhile (· != sep), (text.dropWhile (· != sep)).drop 1) := by
  rw [splitFirst_eq]
  by_cases hmem : sep ∈ text
  · rw [if_pos hmem, Option.getD_some]
  · have hall : ∀ c ∈ text, (c != sep) = true := by
      intro c hc
      exact bne_iff_ne.2 fun heq => hmem (heq ▸ hc)
    rw [if_neg hmem, Option.getD_none, List.takeWhile_eq_self_iff.2 hall,
      List.dropWhile_eq_nil_iff.2 hall, List.drop_nil]

/-- Where a separator stands last, what follows it is known. -/
lemma eq_of_append_cons_eq {before before' after after' : List Char} (hafter : sep ∉ after)
    (hafter' : sep ∉ after') (h : before ++ sep :: after = before' ++ sep :: after') :
    after = after' := by
  have hrest : ∀ {between rest rest' : List Char}, sep ∉ rest →
      sep :: rest = between ++ sep :: rest' → rest = rest' := by
    intro between rest rest' hmem heq
    cases between with
    | nil => exact (List.cons.inj heq).2
    | cons c between => simp [(List.cons.inj heq).2] at hmem
  rcases List.append_eq_append_iff.1 h with ⟨between, _, heq⟩ | ⟨between, _, heq⟩
  · exact hrest hafter heq
  · exact (hrest hafter' heq).symm

end SdkForge.Text
