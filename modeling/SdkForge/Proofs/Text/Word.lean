import SdkForge.Proofs.Text.Case

/-!
# Names that give one text

Different names can give one text in snake case, or one in Pascal case.

* `snakeCase_eq_iff` says that names give one text in snake case exactly if they have the same words
  in small letters.
* `pascalCase_eq_iff` says which names give a text with one capital at its head in Pascal case, and
  `pascalCase_eq_self_iff` and `pascalCase_eq_unknown_iff` say so of `Self` and `Unknown`.
-/

namespace SdkForge.Text

/-! ## Snake case -/

/-- The words of a name in small letters. -/
def smallWords (name : String) : List (List Char) := (words name.toList).map (·.flatMap lower)

lemma toList_snakeCase (name : String) :
    (snakeCase name).toList = List.intercalate ['_'] (smallWords name) := by
  rw [snakeCase, String.toList_ofList, snakeChars, smallWords]

/-- No small word is empty, and none holds an underscore. -/
lemma of_mem_smallWords {name : String} {word : List Char} (h : word ∈ smallWords name) :
    word ≠ [] ∧ '_' ∉ word := by
  obtain ⟨plain, hplain, rfl⟩ := List.mem_map.1 h
  obtain ⟨hne, hchars⟩ := mem_words hplain
  constructor
  · obtain ⟨c, rest, rfl⟩ := List.exists_cons_of_ne_nil hne
    simp [lower_ne_nil]
  · intro hmem
    obtain ⟨c, hc, hmem⟩ := List.mem_flatMap.1 hmem
    have hother : c ≠ '_' := by
      rintro rfl
      exact absurd (hchars '_' hc).2 (by decide)
    exact underscore_notMem_lower hother hmem

/-- Joined pieces that are not empty and do not hold the separator can be told apart again. -/
lemma intercalate_inj {sep : Char} {a b : List (List Char)}
    (ha : ∀ piece ∈ a, piece ≠ [] ∧ sep ∉ piece) (hb : ∀ piece ∈ b, piece ≠ [] ∧ sep ∉ piece)
    (h : List.intercalate [sep] a = List.intercalate [sep] b) : a = b := by
  -- only no pieces at all give nothing
  have hne : ∀ pieces : List (List Char), (∀ piece ∈ pieces, piece ≠ [] ∧ sep ∉ piece) →
      pieces ≠ [] →
      List.intercalate [sep] pieces ≠ [] := by
    intro pieces hpieces hsome
    obtain ⟨piece, rest, rfl⟩ := List.exists_cons_of_ne_nil hsome
    have hpiece := (hpieces piece List.mem_cons_self).1
    cases rest with
    | nil => simpa using hpiece
    | cons next later => simp [List.intercalate_cons_cons, hpiece]
  by_cases hnil : a = []
  · by_contra hdiffer
    have hsome : b ≠ [] := fun hb' => hdiffer (hnil.trans hb'.symm)
    rw [hnil] at h
    exact hne b hb hsome (h.symm.trans List.intercalate_nil)
  · have hsome : b ≠ [] := by
      rintro rfl
      exact hne a ha hnil (h.trans List.intercalate_nil)
    rw [← List.splitOn_intercalate sep (fun piece hmem => (ha piece hmem).2) hnil, h,
      List.splitOn_intercalate sep (fun piece hmem => (hb piece hmem).2) hsome]

/-- Names give one text in snake case exactly if they have the same words in small letters. -/
theorem snakeCase_eq_iff {a b : String} :
    snakeCase a = snakeCase b ↔ smallWords a = smallWords b := by
  rw [← String.toList_inj, toList_snakeCase, toList_snakeCase]
  constructor
  · exact intercalate_inj (fun _ => of_mem_smallWords) (fun _ => of_mem_smallWords)
  · exact congrArg _

lemma getLast?_snakeCase (name : String) : (snakeCase name).toList.getLast? ≠ some '_' := by
  rw [toList_snakeCase]
  exact (ends_intercalate fun _ => of_mem_smallWords).2

/-! ## Pascal case -/

/-- A part begins with a capital form, which holds no small letter. -/
lemma notLower_of_flatMap_capitalize {pieces : List (List Char)} {x : Char} {rest : List Char}
    (h : pieces.flatMap capitalize = x :: rest) : x.toNat < 97 ∨ 122 < x.toNat := by
  induction pieces with
  | nil => contradiction
  | cons piece others ih =>
    cases piece with
    | nil => exact ih h
    | cons c later =>
      obtain ⟨form, forms, hforms⟩ := List.exists_cons_of_ne_nil (upper_ne_nil c)
      rw [List.flatMap_cons, capitalize, hforms] at h
      obtain rfl := (List.cons.inj h).1
      exact notLower_of_mem_upper (hforms ▸ List.mem_cons_self)

/-- What follows the first part begins with no small letter, so that the first part has all of a
text that has a small letter at every other place. -/
lemma capitalize_append_eq {c first : Char} {small later rest : List Char}
    (hsmall : ∀ x ∈ small, 97 ≤ x.toNat ∧ x.toNat ≤ 122)
    (h : upper c ++ later ++ rest = first :: small)
    (hrest : ∀ x ∈ rest.head?, x.toNat < 97 ∨ 122 < x.toNat) :
    upper c = [first] ∧ later = small ∧ rest = [] := by
  obtain ⟨form, forms, hforms⟩ := List.exists_cons_of_ne_nil (upper_ne_nil c)
  rw [hforms, List.cons_append, List.cons_append, List.cons.injEq] at h
  obtain ⟨rfl, htail⟩ := h
  -- a second form would be the small letter that comes next
  have hforms' : forms = [] := by
    by_contra hne
    obtain ⟨next, others, rfl⟩ := List.exists_cons_of_ne_nil hne
    have hnext := hsmall next (htail ▸ List.mem_cons_self)
    have hnot := notLower_of_mem_upper (hforms ▸ List.mem_cons_of_mem _ List.mem_cons_self)
    omega
  subst hforms'
  have hnil : rest = [] := by
    by_contra hne
    obtain ⟨next, others, rfl⟩ := List.exists_cons_of_ne_nil hne
    have hnext := hsmall next (htail ▸ List.mem_append_right _ List.mem_cons_self)
    have hnot := hrest next rfl
    omega
  subst hnil
  exact ⟨hforms, by simpa using htail, rfl⟩

lemma flatMap_capitalize_eq_nil_iff {pieces : List (List Char)} :
    pieces.flatMap capitalize = [] ↔ pieces.filter (· ≠ []) = [] := by
  rw [List.flatMap_eq_nil_iff, List.filter_eq_nil_iff]
  refine forall₂_congr fun piece _ => ?_
  cases piece with
  | nil => simp [capitalize]
  | cons c later => simp [capitalize, upper_ne_nil]

/-- Parts give a text with a small letter at every place but the first exactly if only one of them
has characters, and gives it. -/
lemma flatMap_capitalize_eq_iff {first : Char} {small : List Char}
    (hsmall : ∀ x ∈ small, 97 ≤ x.toNat ∧ x.toNat ≤ 122) {pieces : List (List Char)} :
    pieces.flatMap capitalize = first :: small ↔
      ∃ head, upper head = [first] ∧ pieces.filter (· ≠ []) = [head :: small] := by
  induction pieces with
  | nil => simp
  | cons piece others ih =>
    cases piece with
    | nil => simpa [capitalize] using ih
    | cons c later =>
      rw [List.flatMap_cons, capitalize, List.filter_cons_of_pos (by simp)]
      constructor
      · intro h
        have hrest : ∀ x ∈ (others.flatMap capitalize).head?, x.toNat < 97 ∨ 122 < x.toNat := by
          intro x hx
          obtain ⟨rest, hothers⟩ := List.head?_eq_some_iff.1 hx
          exact notLower_of_flatMap_capitalize hothers
        obtain ⟨hupper, rfl, hnil⟩ := capitalize_append_eq hsmall h hrest
        rw [flatMap_capitalize_eq_nil_iff.1 hnil]
        exact ⟨c, hupper, rfl⟩
      · rintro ⟨head, hupper, h⟩
        obtain ⟨hpiece, hothers⟩ := List.cons.inj h
        obtain ⟨rfl, rfl⟩ := List.cons.inj hpiece
        rw [hupper, flatMap_capitalize_eq_nil_iff.2 hothers]
        simp

lemma pascalCase_eq_iff {name : String} {first : Char} {small : List Char}
    (hsmall : ∀ x ∈ small, 97 ≤ x.toNat ∧ x.toNat ≤ 122) :
    pascalCase name = String.ofList (first :: small) ↔
      ∃ head, upper head = [first] ∧ (splitAll isSeparator name.toList).filter (· ≠ []) =
        [head :: small] := by
  rw [← String.toList_inj, pascalCase, String.toList_ofList, String.toList_ofList, pascalChars]
  exact flatMap_capitalize_eq_iff hsmall

/-- But for separators the name is `Self` or `self`, or that with a long `s`. -/
def IsSelf (name : String) : Prop :=
  ∃ head ∈ ['S', 's', 'ſ'], (splitAll isSeparator name.toList).filter (· ≠ []) =
    [[head, 'e', 'l', 'f']]

instance (name : String) : Decidable (IsSelf name) := List.decidableBEx _ _

/-- Which names are the reserved word in Pascal case. -/
theorem pascalCase_eq_self_iff {name : String} : pascalCase name = "Self" ↔ IsSelf name := by
  rw [show "Self" = String.ofList ['S', 'e', 'l', 'f'] from rfl, pascalCase_eq_iff (by simp)]
  simp only [upper_eq_singleton_s_iff, IsSelf]

/-- But for separators the name is `Unknown` or `unknown`. -/
def IsUnknown (name : String) : Prop :=
  ∃ head ∈ ['U', 'u'], (splitAll isSeparator name.toList).filter (· ≠ []) =
    [[head, 'n', 'k', 'n', 'o', 'w', 'n']]

instance (name : String) : Decidable (IsUnknown name) := List.decidableBEx _ _

/-- Which names are `Unknown` in Pascal case. -/
theorem pascalCase_eq_unknown_iff {name : String} :
    pascalCase name = "Unknown" ↔ IsUnknown name := by
  rw [show "Unknown" = String.ofList ['U', 'n', 'k', 'n', 'o', 'w', 'n'] from rfl,
    pascalCase_eq_iff (by simp)]
  simp only [upper_eq_singleton_u_iff, IsUnknown]

end SdkForge.Text
