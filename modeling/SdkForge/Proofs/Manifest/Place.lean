import Mathlib.Data.String.Basic
import SdkForge.Manifest.Place

/-!
# Places of a value in quotes

A check looks for a value in quotes from left to right, and goes on after each place that it finds.
`StandsAt` is a place of a piece of text, and `FirstTwo` the first place and the first one after it.

* `occurrences_eq_cons`: the first place that is found, and where the search goes on.
* `FirstTwo.unique`: a text has the first two places only once.
* `spans_eq_cons_cons`: the first two spans cover the value at the first two places.
-/

namespace SdkForge.Manifest

open String (utf8Len utf8Len_cons utf8Len_append utf8Len_toList)

/-- A piece stands in a text after so many characters. -/
def StandsAt (piece text : List Char) (i : Nat) : Prop := piece <+: text.drop i

instance (piece text : List Char) (i : Nat) : Decidable (StandsAt piece text i) :=
  inferInstanceAs (Decidable (piece <+: text.drop i))

/-- The first place of a piece, and the first one after it. All others before the second one begin
within the first one. -/
structure FirstTwo (piece text : List Char) (i j : Nat) : Prop where
  first : StandsAt piece text i
  second : StandsAt piece text j
  apart : i + piece.length ≤ j
  within : ∀ k < j, StandsAt piece text k → i ≤ k ∧ k < i + piece.length

variable {piece text : List Char} {i j i' j' n offset start : Nat} {more : List Nat}

/-! ## Places -/

lemma standsAt_drop : StandsAt piece (text.drop n) i ↔ StandsAt piece text (n + i) := by
  rw [StandsAt, StandsAt, List.drop_drop]

lemma StandsAt.length_le (h : StandsAt piece text i) (hpiece : piece ≠ []) :
    i + piece.length ≤ text.length := by
  have hlength := List.IsPrefix.length_le h
  have hpos := List.length_pos_of_ne_nil hpiece
  rw [List.length_drop] at hlength
  omega

/-- A text has the first two places of a piece only once. -/
lemma FirstTwo.unique (h : FirstTwo piece text i j) (h' : FirstTwo piece text i' j')
    (hpiece : piece ≠ []) :
    i = i' ∧ j = j' := by
  have hpos := List.length_pos_of_ne_nil hpiece
  have hfirst : ∀ {i j i' j'}, FirstTwo piece text i j → FirstTwo piece text i' j' → i ≤ i' := by
    intro i j i' j' h h'
    -- Otherwise the first place of the one comes before the second place of the other, and so not
    -- before its first one.
    by_contra hlt
    have hapart := h.apart
    have hbefore := (h.within i' (by omega) h'.first).1
    omega
  obtain rfl : i = i' := Nat.le_antisymm (hfirst h h') (hfirst h' h)
  have hsecond : ∀ {j j'}, FirstTwo piece text i j → FirstTwo piece text i j' → j ≤ j' := by
    intro j j' h h'
    by_contra hlt
    have hwithin := (h.within j' (Nat.lt_of_not_le hlt) h'.second).2
    have hapart := h'.apart
    omega
  exact ⟨rfl, Nat.le_antisymm (hsecond h h') (hsecond h' h)⟩

/-! ## Bytes -/

/-- More characters are more bytes. -/
lemma utf8Len_take_lt_iff (hi : i ≤ text.length) (hj : j ≤ text.length) :
    utf8Len (text.take i) < utf8Len (text.take j) ↔ i < j := by
  have hmono : ∀ {i j}, i < j → j ≤ text.length →
      utf8Len (text.take i) < utf8Len (text.take j) := by
    intro i j hlt hj
    have htake : text.take j = text.take i ++ (text.drop i).take (j - i) := by
      rw [← List.take_add, Nat.add_sub_cancel' (Nat.le_of_lt hlt)]
    have hne : (text.drop i).take (j - i) ≠ [] := by
      rw [← List.length_pos_iff, List.length_take, List.length_drop]
      omega
    rw [htake, utf8Len_append]
    exact Nat.lt_add_of_pos_right (Nat.pos_of_ne_zero (mt String.utf8Len_eq_zero.1 hne))
  refine ⟨fun hlt => ?_, fun hlt => hmono hlt hj⟩
  by_contra hle
  rcases Nat.eq_or_lt_of_le (Nat.le_of_not_lt hle) with rfl | hgt
  · exact Nat.lt_irrefl _ hlt
  · exact Nat.lt_asymm hlt (hmono hgt hi)

/-! ## Searching -/

/-- Skipped characters only move the search on. -/
lemma occurrences_skip (piece : List Char) (n offset : Nat) (text : List Char) :
    occurrences piece n offset text = occurrences piece 0 (offset + utf8Len (text.take n))
      (text.drop n) := by
  induction text generalizing n offset with
  | nil => simp [occurrences]
  | cons c rest ih =>
    cases n with
    | zero => rfl
    | succ n =>
      rw [occurrences, ih, List.take_succ_cons, List.drop_succ_cons, utf8Len_cons]
      congr 1
      omega

/-- A search finds the first place, and goes on after it. -/
theorem occurrences_eq_cons (hpiece : piece ≠ [])
    (h : occurrences piece 0 offset text = start :: more) :
    ∃ i, StandsAt piece text i ∧ (∀ k < i, ¬StandsAt piece text k) ∧
      start = offset + utf8Len (text.take i) ∧
      more = occurrences piece 0 (start + utf8Len piece) (text.drop (i + piece.length)) := by
  induction text generalizing offset with
  | nil => contradiction
  | cons c rest ih =>
    rw [occurrences] at h
    split at h
    · next hprefix =>
      obtain ⟨rfl, hmore⟩ := List.cons.inj h
      rw [List.isPrefixOf_iff_prefix] at hprefix
      -- The search goes on within the piece, and skips what is left of it.
      obtain ⟨d, piece, rfl⟩ := List.exists_cons_of_ne_nil hpiece
      obtain ⟨rfl, hrest⟩ := List.cons_prefix_cons.1 hprefix
      refine ⟨0, hprefix, fun k hk => absurd hk (Nat.not_lt_zero k), rfl, ?_⟩
      rw [← hmore, List.length_cons, Nat.add_sub_cancel, occurrences_skip,
        ← List.prefix_iff_eq_take.1 hrest, utf8Len_cons, Nat.zero_add, List.drop_succ_cons]
      congr 1
      omega
    · next hprefix =>
      rw [List.isPrefixOf_iff_prefix] at hprefix
      obtain ⟨i, hstands, hfirst, rfl, hmore⟩ := ih h
      refine ⟨i + 1, hstands, fun k hk => ?_, ?_, ?_⟩
      · cases k with
        | zero => exact hprefix
        | succ k => exact hfirst k (Nat.lt_of_succ_lt_succ hk)
      · rw [List.take_succ_cons, utf8Len_cons]
        omega
      · rw [hmore, Nat.add_right_comm i, List.drop_succ_cons]

/-! ## Spans -/

/-- A value in double quotes. -/
def quoted (value : String) : List Char := '"' :: value.toList ++ ['"']

/-- What a value in quotes covers after so many characters of a text, without the quotes. -/
def spanAt (text : List Char) (value : String) (i : Nat) : Span :=
  ⟨utf8Len (text.take i) + 1, value.utf8ByteSize⟩

variable {value : String} {p : Place} {a b : Span} {others : List Span}

lemma quoted_ne_nil (value : String) : quoted value ≠ [] := List.cons_ne_nil _ _

@[simp] lemma length_quoted (value : String) : (quoted value).length = value.length + 2 := by
  simp [quoted, String.length_toList]

/-- The first two spans of a value are at its first two places in quotes. -/
theorem spans_eq_cons_cons (h : p.spans value = a :: b :: others) :
    ∃ i j, FirstTwo (quoted value) p.source.toList i j ∧ a = spanAt p.source.toList value i ∧
      b = spanAt p.source.toList value j := by
  obtain ⟨start, rest, hstarts, rfl, hrest⟩ := List.map_eq_cons_iff.1 h
  obtain ⟨next, last, rfl, rfl, _⟩ := List.map_eq_cons_iff.1 hrest
  obtain ⟨i, hi, hbefore, rfl, hmore⟩ := occurrences_eq_cons (quoted_ne_nil value) hstarts
  obtain ⟨n, hn, hbetween, rfl, _⟩ := occurrences_eq_cons (quoted_ne_nil value) hmore.symm
  have hfirst :
      utf8Len ((p.source.toList.drop i).take (quoted value).length) = utf8Len (quoted value) := by
    rw [← List.prefix_iff_eq_take.1 hi]
  refine ⟨i, i + (quoted value).length + n,
    ⟨hi, standsAt_drop.1 hn, Nat.le_add_right _ _, fun k hk hstands => ?_⟩, ?_, ?_⟩
  · refine ⟨Nat.le_of_not_lt fun hlt => hbefore k hlt hstands, Nat.lt_of_not_le fun hle => ?_⟩
    obtain ⟨m, rfl⟩ := Nat.exists_eq_add_of_le hle
    exact hbetween m (by omega) (standsAt_drop.2 hstands)
  · rw [spanAt, Nat.zero_add]
  · rw [spanAt, List.take_add, List.take_add, utf8Len_append, utf8Len_append, hfirst, Nat.zero_add]

end SdkForge.Manifest
