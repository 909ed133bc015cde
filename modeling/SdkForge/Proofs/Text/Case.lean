import SdkForge.Proofs.ShapeId
import SdkForge.Proofs.Text.Letter
import SdkForge.Text.Case

/-!
# Identifiers in snake case and in Pascal case

What snake case makes of an identifier has letters, digits and underscores, and an underscore stands
between two others only. Pascal case leaves letters and digits.

* `mem_words` says what the words of a name are made of.
* `isSnake_snakeCase` says so of what the words are joined to, and `isAlphanum_of_mem_pascalCase` of
  what the parts are put together to.
* `head?_snakeChars` and `head?_pascalChars` say where the first character comes from.
-/

namespace SdkForge.Text

open ShapeId (inIdentifier isIdentifier)

/-! ## Words -/

lemma mem_splitAll {sep : Char → Bool} {text piece : List Char} (hpiece : piece ∈ splitAll sep text)
    {c : Char} (hc : c ∈ piece) : c ∈ text ∧ sep c = false := by
  induction text generalizing piece with
  | nil =>
    obtain rfl := List.mem_singleton.1 hpiece
    contradiction
  | cons first rest ih =>
    rw [splitAll] at hpiece
    split at hpiece
    · rcases List.mem_cons.1 hpiece with rfl | hpiece
      · contradiction
      · exact ⟨List.mem_cons_of_mem _ (ih hpiece hc).1, (ih hpiece hc).2⟩
    · next hfirst =>
      have hown : first ∈ first :: rest ∧ sep first = false :=
        ⟨List.mem_cons_self, by simpa using hfirst⟩
      cases hpieces : splitAll sep rest with
      | nil => exact absurd hpieces (splitAll_ne_nil _ _)
      | cons next later =>
        rw [hpieces] at hpiece ih
        have hlater : ∀ piece ∈ next :: later, c ∈ piece → c ∈ first :: rest ∧ sep c = false := by
          intro piece hmem hc
          exact ⟨List.mem_cons_of_mem _ (ih hmem hc).1, (ih hmem hc).2⟩
        rcases List.mem_cons.1 hpiece with rfl | hpiece
        · rcases List.mem_cons.1 hc with rfl | hc
          · exact hown
          · exact hlater next List.mem_cons_self hc
        · exact hlater piece (List.mem_cons_of_mem _ hpiece) hc

/-- The words of a part share out its characters, and none is empty. -/
lemma mem_humps {text word : List Char} (hword : word ∈ humps text) :
    word ≠ [] ∧ ∀ c ∈ word, c ∈ text := by
  induction text generalizing word with
  | nil => contradiction
  | cons first rest ih =>
    have hlater : ∀ word ∈ humps rest, word ≠ [] ∧ ∀ c ∈ word, c ∈ first :: rest := by
      intro word hmem
      exact ⟨(ih hmem).1, fun c hc => List.mem_cons_of_mem _ ((ih hmem).2 c hc)⟩
    unfold humps at hword
    split at hword
    · next next later word' words hwords =>
      rw [hwords] at hlater
      split at hword
      · rcases List.mem_cons.1 hword with rfl | hword
        · simp
        · exact hlater word hword
      · rcases List.mem_cons.1 hword with rfl | hword
        · refine ⟨List.cons_ne_nil _ _, fun c hc => ?_⟩
          rcases List.mem_cons.1 hc with rfl | hc
          · exact List.mem_cons_self
          · exact (hlater word' List.mem_cons_self).2 c hc
        · exact hlater word (List.mem_cons_of_mem _ hword)
    · obtain rfl := List.mem_singleton.1 hword
      simp

/-- The words of a name share out its characters but for the separators, and none is empty. -/
theorem mem_words {name word : List Char} (hword : word ∈ words name) :
    word ≠ [] ∧ ∀ c ∈ word, c ∈ name ∧ isSeparator c = false := by
  obtain ⟨piece, hpiece, hword⟩ := List.mem_flatMap.1 hword
  obtain ⟨hne, hchars⟩ := mem_humps hword
  exact ⟨hne, fun c hc => mem_splitAll hpiece (hchars c hc)⟩

/-! ## Small letters -/

lemma toNat_lt_of_isAlphanum {c : Char} (h : c.isAlphanum = true) : c.toNat < 128 := by
  have hranges :
      (decide ('A'.val ≤ c.val ∧ c.val ≤ 'Z'.val) ||
        (decide ('a'.val ≤ c.val) && decide (c.val ≤ 'z'.val)) ||
          (decide ('0'.val ≤ c.val) && decide (c.val ≤ '9'.val))) = true := h
  have hval : c.toNat = c.val.toNat := rfl
  simp only [Bool.or_eq_true, Bool.and_eq_true, decide_eq_true_eq,
    UInt32.le_iff_toNat_le] at hranges
  rcases hranges with (hrange | hrange) | hrange <;> simp at hrange <;> omega

/-- A letter or digit of ASCII has one small form, which is such a character too. -/
lemma lower_of_isAlphanum {c : Char} (h : c.isAlphanum = true) :
    lower c = [c.toLower] ∧ c.toLower.isAlphanum = true := by
  have hascii : c.toNat < 128 := toNat_lt_of_isAlphanum h
  have hkeep : c.isAlphanum = true → c.toLower.isAlphanum = true :=
    forall_ascii (P := fun c => c.isAlphanum = true →
      c.toLower.isAlphanum = true) (by decide +kernel) hascii
  exact ⟨if_pos hascii, hkeep h⟩

lemma isAlphanum_of_inIdentifier {c : Char} (h : inIdentifier c = true)
    (hsep : isSeparator c = false) :
    c.isAlphanum = true := by
  simp only [inIdentifier, Bool.or_eq_true] at h
  rcases h with h | h
  · exact h
  · simp [isSeparator, h] at hsep

/-! ## Joined words -/

lemma mem_intercalate {sep c : Char} {pieces : List (List Char)}
    (h : c ∈ List.intercalate [sep] pieces) :
    c = sep ∨ ∃ piece ∈ pieces, c ∈ piece := by
  induction pieces with
  | nil => simp at h
  | cons piece rest ih =>
    cases rest with
    | nil => exact .inr ⟨piece, List.mem_cons_self, by simpa using h⟩
    | cons next later =>
      rw [List.intercalate_cons_cons, List.append_assoc, List.mem_append, List.mem_append,
        List.mem_singleton] at h
      rcases h with h | h | h
      · exact .inr ⟨piece, List.mem_cons_self, h⟩
      · exact .inl h
      · exact (ih h).imp_right fun ⟨piece, hmem, hc⟩ => ⟨piece, List.mem_cons_of_mem _ hmem, hc⟩

/-- Words that hold no separator, and are not empty, keep it away from the ends of what they are
joined to. -/
lemma ends_intercalate {sep : Char} {pieces : List (List Char)}
    (h : ∀ piece ∈ pieces, piece ≠ [] ∧ sep ∉ piece) :
    (List.intercalate [sep] pieces).head? ≠ some sep ∧
    (List.intercalate [sep] pieces).getLast? ≠ some sep := by
  induction pieces with
  | nil => simp
  | cons piece rest ih =>
    obtain ⟨hne, hsep⟩ := h piece List.mem_cons_self
    have hhead : piece.head? ≠ some sep := fun hhead => hsep (List.mem_of_head? hhead)
    have hlast : piece.getLast? ≠ some sep := fun hlast => hsep (List.mem_of_getLast? hlast)
    have hrest := ih fun piece hmem => h piece (List.mem_cons_of_mem _ hmem)
    cases rest with
    | nil => simpa using ⟨hhead, hlast⟩
    | cons next later =>
      obtain ⟨c, piece, rfl⟩ := List.exists_cons_of_ne_nil hne
      obtain ⟨c', next, rfl⟩ := List.exists_cons_of_ne_nil (h next (by simp)).1
      -- the joined rest is not empty, so that its end is the end of all
      have hjoined : List.intercalate [sep] ((c' :: next) :: later) ≠ [] := by
        cases later <;> simp [List.intercalate_cons_cons]
      obtain ⟨last, hfound⟩ := Option.ne_none_iff_exists'.1 (mt List.getLast?_eq_none_iff.1 hjoined)
      rw [List.intercalate_cons_cons]
      refine ⟨by simpa using hhead, ?_⟩
      rw [List.getLast?_append, hfound, Option.some_or, ← hfound]
      exact hrest.2

/-! ## Snake case -/

/-- A text of letters, digits and underscores, with no underscore at its ends. -/
structure IsSnake (text : String) : Prop where
  chars : ∀ c ∈ text.toList, inIdentifier c = true
  head : text.toList.head? ≠ some '_'
  last : text.toList.getLast? ≠ some '_'

/-- A word of an identifier keeps to letters and digits in small letters. -/
lemma of_mem_lowered {name : List Char} (hname : ∀ c ∈ name, inIdentifier c = true)
    {piece : List Char} (hpiece : piece ∈ (words name).map (·.flatMap lower)) :
    piece ≠ [] ∧ ∀ c ∈ piece, c.isAlphanum = true := by
  obtain ⟨word, hword, rfl⟩ := List.mem_map.1 hpiece
  obtain ⟨hne, hchars⟩ := mem_words hword
  have hlower : ∀ c ∈ word, ∃ d, lower c = [d] ∧ d.isAlphanum = true := by
    intro c hc
    obtain ⟨hmem, hsep⟩ := hchars c hc
    exact ⟨_, lower_of_isAlphanum (isAlphanum_of_inIdentifier (hname c hmem) hsep)⟩
  constructor
  · obtain ⟨c, rest, rfl⟩ := List.exists_cons_of_ne_nil hne
    obtain ⟨d, hd, _⟩ := hlower c List.mem_cons_self
    simp [hd]
  · intro c hc
    obtain ⟨c', hc', hmem⟩ := List.mem_flatMap.1 hc
    obtain ⟨d, hd, halphanum⟩ := hlower c' hc'
    rw [hd, List.mem_singleton] at hmem
    exact hmem ▸ halphanum

/-- An identifier gives such a text in snake case. -/
theorem isSnake_snakeCase {name : String} (hname : isIdentifier name.toList = true) :
    IsSnake (snakeCase name) := by
  have hpieces : ∀ piece ∈ (words name.toList).map (·.flatMap lower), piece ≠ [] ∧
      ∀ c ∈ piece, c.isAlphanum = true :=
    fun _ => of_mem_lowered fun c => ShapeId.inIdentifier_of_mem hname
  have hplain : ∀ piece ∈ (words name.toList).map (·.flatMap lower), piece ≠ [] ∧ '_' ∉ piece := by
    intro piece hmem
    exact ⟨(hpieces piece hmem).1, fun hsep => absurd ((hpieces piece hmem).2 _ hsep) (by decide)⟩
  have htext :
      (snakeCase name).toList = List.intercalate ['_']
        ((words name.toList).map (·.flatMap lower)) := by
    rw [snakeCase, String.toList_ofList, snakeChars]
  refine ⟨fun c hc => ?_, htext ▸ (ends_intercalate hplain).1, htext ▸ (ends_intercalate hplain).2⟩
  rw [htext] at hc
  rcases mem_intercalate hc with rfl | ⟨piece, hpiece, hc⟩
  · decide
  · rw [inIdentifier, (hpieces piece hpiece).2 c hc, Bool.true_or]

/-! ## Pascal case -/

/-- A letter or digit of ASCII has one capital form, which is such a character too. -/
lemma upper_of_isAlphanum {c : Char} (h : c.isAlphanum = true) :
    upper c = [c.toUpper] ∧ c.toUpper.isAlphanum = true := by
  have hascii : c.toNat < 128 := toNat_lt_of_isAlphanum h
  have hkeep : c.isAlphanum = true → c.toUpper.isAlphanum = true :=
    forall_ascii (P := fun c => c.isAlphanum = true →
      c.toUpper.isAlphanum = true) (by decide +kernel) hascii
  exact ⟨if_pos hascii, hkeep h⟩

/-- An identifier keeps to letters and digits in Pascal case. -/
theorem isAlphanum_of_mem_pascalCase {name : String} (hname : isIdentifier name.toList = true)
    {c : Char} (hc : c ∈ (pascalCase name).toList) : c.isAlphanum = true := by
  rw [pascalCase, String.toList_ofList, pascalChars] at hc
  obtain ⟨piece, hpiece, hc⟩ := List.mem_flatMap.1 hc
  have hplain : ∀ d ∈ piece, d.isAlphanum = true := by
    intro d hd
    obtain ⟨hmem, hsep⟩ := mem_splitAll hpiece hd
    exact isAlphanum_of_inIdentifier (ShapeId.inIdentifier_of_mem hname hmem) hsep
  cases piece with
  | nil => contradiction
  | cons first rest =>
    obtain ⟨hupper, halphanum⟩ := upper_of_isAlphanum (hplain first List.mem_cons_self)
    rw [capitalize, hupper, List.singleton_append] at hc
    rcases List.mem_cons.1 hc with rfl | hc
    · exact halphanum
    · exact hplain c (List.mem_cons_of_mem _ hc)

/-! ## First characters -/

/-- The first word of a part begins with the part. -/
lemma exists_humps_cons (c : Char) (rest : List Char) :
    ∃ word later, humps (c :: rest) = (c :: word) :: later := by
  unfold humps
  split
  · split <;> exact ⟨_, _, rfl⟩
  · exact ⟨_, _, rfl⟩

/-- A character that is no separator goes to the piece that begins after it. -/
lemma splitAll_cons_of_not {sep : Char → Bool} {c : Char} (h : sep c = false) (rest : List Char) :
    ∃ piece pieces, splitAll sep rest = piece :: pieces ∧ splitAll sep (c :: rest) = (c :: piece) ::
      pieces := by
  obtain ⟨piece, pieces, hrest⟩ := List.exists_cons_of_ne_nil (splitAll_ne_nil sep rest)
  refine ⟨piece, pieces, hrest, ?_⟩
  rw [splitAll, h, hrest]
  rfl

lemma head?_intercalate {sep c : Char} {piece : List Char} (hhead : piece.head? = some c)
    (pieces : List (List Char)) :
    (List.intercalate [sep] (piece :: pieces)).head? = some c := by
  obtain ⟨rest, rfl⟩ := List.head?_eq_some_iff.1 hhead
  cases pieces <;> simp [List.intercalate_cons_cons]

/-- A text in snake case begins with the small form of the first character that is no separator. -/
theorem head?_snakeChars (name : List Char) :
    (snakeChars name).head? = (name.find? (!isSeparator ·)).bind fun c => (lower c).head? := by
  induction name with
  | nil => rfl
  | cons c rest ih =>
    cases hsep : isSeparator c with
    | true =>
      rw [List.find?_cons_of_neg (by simp [hsep]), ← ih, snakeChars, snakeChars, words, words,
        splitAll, if_pos hsep]
      rfl
    | false =>
      obtain ⟨piece, pieces, -, hpieces⟩ := splitAll_cons_of_not hsep rest
      obtain ⟨word, later, hwords⟩ := exists_humps_cons c piece
      rw [List.find?_cons_of_pos (by simp [hsep]), snakeChars, words, hpieces,
        List.flatMap_cons, hwords]
      obtain ⟨d, ds, hd⟩ := List.exists_cons_of_ne_nil (lower_ne_nil c)
      rw [Option.bind_some, hd]
      exact head?_intercalate (by simp [hd]) _

/-- A text in Pascal case begins with the capital form of the first character that is no
separator. -/
theorem head?_pascalChars (name : List Char) :
    (pascalChars name).head? = (name.find? (!isSeparator ·)).bind fun c => (upper c).head? := by
  induction name with
  | nil => rfl
  | cons c rest ih =>
    cases hsep : isSeparator c with
    | true =>
      rw [List.find?_cons_of_neg (by simp [hsep]), ← ih, pascalChars, pascalChars, splitAll,
        if_pos hsep]
      rfl
    | false =>
      obtain ⟨piece, pieces, -, hpieces⟩ := splitAll_cons_of_not hsep rest
      obtain ⟨d, ds, hd⟩ := List.exists_cons_of_ne_nil (upper_ne_nil c)
      rw [List.find?_cons_of_pos (by simp [hsep]), pascalChars, hpieces, List.flatMap_cons,
        capitalize, hd]
      simp [hd]

end SdkForge.Text
