import SdkForge.Proofs.Identifier

/-!
# The canonical form of snake case

On letters, digits and underscores of ASCII, snake case makes small words that single underscores
join. It loses nothing but the case of letters and how many underscores stand in a place, and a text
of its own form stays as it is.

* `flatten_words` says that words hold all characters but the separators, and `words_append_of_gap`
  that separators part the words before them from those after them.
* `words_intercalate` says that small words which were joined are cut apart again.
* `snakeCase_canonical` puts this together.
-/

namespace SdkForge.Text

open ShapeId (inIdentifier)

/-! ## Cutting a name into words -/

lemma splitAll_cons_of_sep {sep : Char → Bool} {c : Char} (h : sep c = true) (rest : List Char) :
    splitAll sep (c :: rest) = [] :: splitAll sep rest := by
  rw [splitAll, if_pos h]

/-- Cutting loses nothing but the separators. -/
lemma flatten_splitAll (sep : Char → Bool) (text : List Char) :
    (splitAll sep text).flatten = text.filter (!sep ·) := by
  induction text with
  | nil => rfl
  | cons c rest ih =>
    cases hsep : sep c with
    | true =>
      rw [splitAll_cons_of_sep hsep, List.flatten_cons, List.nil_append, ih,
        List.filter_cons_of_neg (by simp [hsep])]
    | false =>
      obtain ⟨piece, pieces, hrest, hcons⟩ := splitAll_cons_of_not hsep rest
      rw [hcons, List.flatten_cons, List.cons_append, ← List.flatten_cons, ← hrest, ih,
        List.filter_cons_of_pos (by simp [hsep])]

/-- A separator parts what is cut before it from what is cut after it. -/
lemma splitAll_append_cons {sep : Char → Bool} {c : Char} (h : sep c = true)
    (before after : List Char) :
    splitAll sep (before ++ c :: after) = splitAll sep before ++ splitAll sep after := by
  induction before with
  | nil => exact splitAll_cons_of_sep h after
  | cons first rest ih =>
    cases hsep : sep first with
    | true => rw [List.cons_append, splitAll_cons_of_sep hsep, splitAll_cons_of_sep hsep, ih,
      List.cons_append]
    | false =>
      obtain ⟨piece, pieces, hrest, hcons⟩ := splitAll_cons_of_not hsep rest
      obtain ⟨piece', pieces', hrest', hcons'⟩ := splitAll_cons_of_not hsep (rest ++ c :: after)
      rw [ih, hrest, List.cons_append] at hrest'
      obtain ⟨rfl, rfl⟩ := List.cons.inj hrest'
      rw [List.cons_append, hcons', hcons, List.cons_append]

/-- Text without separators is one piece. -/
lemma splitAll_of_forall {sep : Char → Bool} {text : List Char} (h : ∀ c ∈ text, sep c = false) :
    splitAll sep text = [text] := by
  induction text with
  | nil => rfl
  | cons c rest ih =>
    obtain ⟨hc, hrest⟩ := List.forall_mem_cons.1 h
    obtain ⟨piece, pieces, hpieces, hcons⟩ := splitAll_cons_of_not hc rest
    rw [ih hrest] at hpieces
    obtain ⟨rfl, rfl⟩ := List.cons.inj hpieces
    exact hcons

/-- One more character at the head of a part is a word, or belongs to the first one. -/
lemma humps_cons_cons {c next : Char} {later word : List Char} {words : List (List Char)}
    (h : humps (next :: later) = word :: words) : humps (c :: next :: later) =
      if startsWord c next later.head? then [c] :: word :: words else (c :: word) :: words := by
  unfold humps
  rw [h]

/-- The words of a part hold all of it. -/
lemma flatten_humps (text : List Char) : (humps text).flatten = text := by
  induction text with
  | nil => rfl
  | cons c rest ih =>
    cases rest with
    | nil => rfl
    | cons next later =>
      obtain ⟨word, words, hwords⟩ := exists_humps_cons next later
      rw [hwords, List.flatten_cons] at ih
      rw [humps_cons_cons hwords]
      split
      · rw [List.flatten_cons, List.flatten_cons, ih, List.singleton_append]
      · rw [List.flatten_cons, List.cons_append, ih]

/-- Text without capitals is one word. -/
lemma humps_of_forall {text : List Char} (hne : text ≠ []) (h : ∀ c ∈ text, isUpper c = false) :
    humps text = [text] := by
  induction text with
  | nil => contradiction
  | cons c rest ih =>
    obtain ⟨-, hrest⟩ := List.forall_mem_cons.1 h
    cases rest with
    | nil => rfl
    | cons next later =>
      have hnext : startsWord c next later.head? = false := by
        rw [startsWord, hrest next List.mem_cons_self, Bool.false_and]
      rw [humps_cons_cons (ih (List.cons_ne_nil _ _) hrest), hnext]
      rfl

/-- The words hold all characters of a name but the separators. -/
theorem flatten_words (name : List Char) : (words name).flatten = name.filter (!isSeparator ·) := by
  have hhumps : (List.flatten ∘ humps) = id := funext flatten_humps
  rw [words, List.flatMap_def, List.flatten_flatten, List.map_map, hhumps, List.map_id,
    flatten_splitAll]

lemma words_append_cons {c : Char} (h : isSeparator c = true) (before after : List Char) :
    words (before ++ c :: after) = words before ++ words after := by
  rw [words, splitAll_append_cons h, List.flatMap_append, words, words]

/-- Any separators in a place part the words before them from those after them. -/
theorem words_append_of_gap {gap : List Char} (hne : gap ≠ [])
    (hgap : ∀ c ∈ gap, isSeparator c = true) (before after : List Char) :
    words (before ++ gap ++ after) = words before ++ words after := by
  induction gap generalizing before with
  | nil => contradiction
  | cons c rest ih =>
    obtain ⟨hc, hrest⟩ := List.forall_mem_cons.1 hgap
    have hbefore : words (before ++ [c]) = words before := by
      rw [words_append_cons hc]
      exact List.append_nil _
    by_cases hnil : rest = []
    · rw [hnil, List.append_assoc, List.singleton_append, words_append_cons hc]
    · rw [List.append_cons before c rest, ih hnil hrest, hbefore]

/-! ## Joining words -/

lemma filter_intercalate {sep : Char} {pieces : List (List Char)}
    (h : ∀ piece ∈ pieces, sep ∉ piece) :
    (List.intercalate [sep] pieces).filter (· != sep) = pieces.flatten := by
  have hkeep : ∀ {piece : List Char}, sep ∉ piece → piece.filter (· != sep) = piece := by
    intro piece hsep
    exact List.filter_eq_self.2 fun c hc => bne_iff_ne.2 fun heq => hsep (heq ▸ hc)
  induction pieces with
  | nil => rfl
  | cons piece rest ih =>
    obtain ⟨hpiece, hrest⟩ := List.forall_mem_cons.1 h
    cases rest with
    | nil => rw [List.intercalate_singleton, hkeep hpiece, List.flatten_singleton]
    | cons next later =>
      rw [List.intercalate_cons_cons, List.filter_append, ih hrest, List.filter_append,
        hkeep hpiece, List.flatten_cons]
      simp

lemma intercalate_append {sep : Char} {a b : List (List Char)} (ha : a ≠ []) (hb : b ≠ []) :
    List.intercalate [sep] (a ++ b) = List.intercalate [sep] a ++ sep ::
      List.intercalate [sep] b := by
  induction a with
  | nil => contradiction
  | cons piece rest ih =>
    by_cases hnil : rest = []
    · rw [hnil, List.singleton_append, List.intercalate_cons_of_ne_nil hb,
        List.intercalate_singleton, List.append_assoc, List.singleton_append]
    · rw [List.cons_append,
        List.intercalate_cons_of_ne_nil (List.append_ne_nil_of_left_ne_nil hnil b), ih hnil,
        List.intercalate_cons_of_ne_nil hnil, List.append_assoc, List.append_assoc,
        List.append_assoc]

/-! ## Small words -/

/-- A small letter or a digit of ASCII. -/
def isSmall (c : Char) : Bool := c.isLower || c.isDigit

/-- A text of small letters and digits, with at least one. -/
def IsSmallWord (text : List Char) : Prop := text ≠ [] ∧ ∀ c ∈ text, isSmall c = true

/-- What is small is its own small form, no capital and no separator. -/
lemma of_isSmall {c : Char} (h : isSmall c = true) :
    lower c = [c] ∧ isUpper c = false ∧ isSeparator c = false := by
  have halphanum : c.isAlphanum = true := by
    show ((c.isUpper || c.isLower) || c.isDigit) = true
    rw [Bool.or_assoc, ← isSmall, h, Bool.or_true]
  have hascii := toNat_lt_of_isAlphanum halphanum
  have hfacts : isSmall c = true → c.toLower = c ∧ isUpper c = false ∧ isSeparator c = false :=
    forall_ascii (P := fun c => isSmall c = true → c.toLower = c ∧ isUpper c = false ∧
      isSeparator c = false) (by decide +kernel) hascii
  obtain ⟨hlower, hrest⟩ := hfacts h
  exact ⟨(lower_of_isAlphanum halphanum).1.trans (by rw [hlower]), hrest⟩

lemma isSmall_toLower {c : Char} (h : c.isAlphanum = true) : isSmall c.toLower = true := by
  have hsmall : c.isAlphanum = true → isSmall c.toLower = true :=
    forall_ascii (P := fun c => c.isAlphanum = true → isSmall c.toLower = true) (by decide +kernel)
      (toNat_lt_of_isAlphanum h)
  exact hsmall h

lemma IsSmallWord.words_eq {word : List Char} (h : IsSmallWord word) : words word = [word] := by
  have hpieces : splitAll isSeparator word = [word] :=
    splitAll_of_forall fun c hc => (of_isSmall (h.2 c hc)).2.2
  rw [words, hpieces, List.flatMap_singleton, humps_of_forall h.1 fun c hc =>
    (of_isSmall (h.2 c hc)).2.1]

lemma IsSmallWord.flatMap_lower {word : List Char} (h : IsSmallWord word) :
    word.flatMap lower = word := by
  have hlower : ∀ c ∈ word, lower c = [c] := fun c hc => (of_isSmall (h.2 c hc)).1
  rw [List.flatMap_congr hlower, List.flatMap_singleton']

lemma IsSmallWord.underscore_notMem {word : List Char} (h : IsSmallWord word) : '_' ∉ word :=
  fun hmem => absurd (h.2 _ hmem) (by decide)

/-- Small words that were joined are cut apart again. -/
theorem words_intercalate {groups : List (List Char)} (h : ∀ group ∈ groups, IsSmallWord group) :
    words (List.intercalate ['_'] groups) = groups := by
  induction groups with
  | nil => rfl
  | cons group rest ih =>
    obtain ⟨hgroup, hrest⟩ := List.forall_mem_cons.1 h
    by_cases hnil : rest = []
    · rw [hnil, List.intercalate_singleton, hgroup.words_eq]
    · rw [List.intercalate_cons_of_ne_nil hnil, words_append_of_gap (List.cons_ne_nil _ _)
        (List.forall_mem_singleton.2 rfl), hgroup.words_eq, ih hrest, List.singleton_append]

/-! ## Snake case of identifiers -/

/-- What is left of a text without its underscores. -/
def plain (text : List Char) : List Char := text.filter (· != '_')

section Identifier

variable {name : List Char} (hname : ∀ c ∈ name, inIdentifier c = true)
include hname

/-- The words of an identifier are small in small letters. -/
lemma isSmallWord_of_mem {group : List Char} (h : group ∈ (words name).map (·.flatMap lower)) :
    IsSmallWord group := by
  refine ⟨(of_mem_lowered hname h).1, ?_⟩
  obtain ⟨word, hword, rfl⟩ := List.mem_map.1 h
  intro c hc
  obtain ⟨d, hd, hlower⟩ := List.mem_flatMap.1 hc
  obtain ⟨hmem, hsep⟩ := (mem_words hword).2 d hd
  have halphanum : d.isAlphanum = true := isAlphanum_of_inIdentifier (hname d hmem) hsep
  rw [(lower_of_isAlphanum halphanum).1, List.mem_singleton] at hlower
  exact hlower ▸ isSmall_toLower halphanum

lemma filter_not_isSeparator : name.filter (!isSeparator ·) = plain name := by
  refine List.filter_congr fun c hc => ?_
  rw [Naming.isSeparator_eq (hname c hc)]
  rfl

/-- All that snake case loses of an identifier is the case of its letters, and underscores. -/
lemma plain_snakeChars : plain (snakeChars name) = (plain name).map Char.toLower := by
  have hlower : ∀ c ∈ plain name, lower c = [c.toLower] := by
    intro c hc
    obtain ⟨hmem, hc⟩ := List.mem_filter.1 hc
    have hsep : isSeparator c = false := by
      rw [Naming.isSeparator_eq (hname c hmem)]
      simpa using hc
    exact (lower_of_isAlphanum (isAlphanum_of_inIdentifier (hname c hmem) hsep)).1
  calc plain (snakeChars name)
      = ((words name).map (·.flatMap lower)).flatten :=
        filter_intercalate fun group hgroup => (isSmallWord_of_mem hname hgroup).underscore_notMem
    _ = (words name).flatten.flatMap lower := by
        rw [List.flatMap_def, List.map_flatten, List.flatten_flatten, List.map_map]
        rfl
    _ = (plain name).flatMap lower := by rw [flatten_words, filter_not_isSeparator hname]
    _ = (plain name).map Char.toLower := by
        rw [List.flatMap_congr hlower, List.map_eq_flatMap]

/-- Neither end of what snake case makes is an underscore. -/
lemma ends_snakeChars :
    (snakeChars name).head? ≠ some '_' ∧ (snakeChars name).getLast? ≠ some '_' := by
  apply ends_intercalate
  intro group hgroup
  exact ⟨(isSmallWord_of_mem hname hgroup).1, (isSmallWord_of_mem hname hgroup).underscore_notMem⟩

/-- Snake case leaves its own form as it is. -/
lemma snakeChars_snakeChars : snakeChars (snakeChars name) = snakeChars name := by
  have hsmall : ∀ group ∈ (words name).map (·.flatMap lower), IsSmallWord group :=
    fun _ => isSmallWord_of_mem hname
  have hwords : words (snakeChars name) = (words name).map (·.flatMap lower) :=
    words_intercalate hsmall
  have hsame :
      ((words name).map (·.flatMap lower)).map (·.flatMap lower) =
        (words name).map (·.flatMap lower) := by
    conv_rhs => rw [← List.map_id ((words name).map (·.flatMap lower))]
    exact List.map_congr_left fun group hgroup => (hsmall group hgroup).flatMap_lower
  rw [snakeChars, hwords, hsame]
  rfl

end Identifier

/-! ## Single underscores -/

/-- A text that does not end with an underscore ends with its last character that is none. -/
lemma exists_append_of_plain {text rest : List Char} {c : Char} (hlast : text.getLast? ≠ some '_')
    (hplain : plain text = rest ++ [c]) : ∃ before, text = before ++ [c] ∧ plain before = rest := by
  rcases List.eq_nil_or_concat text with rfl | ⟨before, last, rfl⟩
  · simp [plain] at hplain
  · rw [List.concat_eq_append, List.getLast?_concat] at hlast
    have hkeep : plain [last] = [last] := List.filter_eq_self.2 (by simpa using hlast)
    have hsplit : plain (before ++ [last]) = plain before ++ [last] := by
      rw [plain, List.filter_append, ← plain, ← plain, hkeep]
    rw [List.concat_eq_append, hsplit] at hplain
    obtain ⟨hbefore, hc⟩ := List.append_inj' hplain rfl
    exact ⟨before, by rw [List.concat_eq_append, hc], hbefore⟩

/-- A text that does not begin with an underscore begins with its first character that is none. -/
lemma exists_cons_of_plain {text rest : List Char} {c : Char} (hhead : text.head? ≠ some '_')
    (hplain : plain text = c :: rest) : ∃ after, text = c :: after ∧ plain after = rest := by
  cases text with
  | nil => simp [plain] at hplain
  | cons first after =>
    have hfirst : first ≠ '_' := by simpa using hhead
    rw [plain, List.filter_cons_of_pos (by simpa using hfirst)] at hplain
    obtain ⟨rfl, hafter⟩ := List.cons.inj hplain
    exact ⟨after, rfl, hafter⟩

/-- What stands before underscores and what stands after them goes into snake case by itself. -/
lemma snakeChars_append_of_gap {before gap after : List Char}
    (hname : ∀ c ∈ before ++ gap ++ after, inIdentifier c = true) (hbefore : plain before ≠ [])
    (hafter : plain after ≠ []) (hne : gap ≠ []) (hgap : ∀ c ∈ gap, c = '_') :
    snakeChars (before ++ gap ++ after) = snakeChars before ++ '_' :: snakeChars after := by
  have hwords : ∀ {part : List Char}, (∀ c ∈ part, inIdentifier c = true) → plain part ≠ [] →
      (words part).map (·.flatMap lower) ≠ [] := by
    intro part hpart hsome hnil
    rw [List.map_eq_nil_iff] at hnil
    rw [← filter_not_isSeparator hpart, ← flatten_words, hnil] at hsome
    exact hsome rfl
  have hseparators : ∀ c ∈ gap, isSeparator c = true := by
    intro c hc
    rw [hgap c hc]
    decide
  rw [snakeChars, words_append_of_gap hne hseparators, List.map_append]
  apply intercalate_append
  · exact hwords (fun c hc => hname c (List.mem_append_left _ (List.mem_append_left _ hc))) hbefore
  · exact hwords (fun c hc => hname c (List.mem_append_right _ hc)) hafter

/-- Characters that underscores part are parted by one. -/
lemma exists_parted {before gap after : List Char} {a b : Char}
    (hname : ∀ c ∈ before ++ a :: (gap ++ b :: after), inIdentifier c = true) (ha : a ≠ '_')
    (hb : b ≠ '_') (hne : gap ≠ []) (hgap : ∀ c ∈ gap, c = '_') : ∃ before' after',
      snakeChars (before ++ a :: (gap ++ b :: after)) = before' ++ a.toLower :: '_' ::
        b.toLower :: after' ∧
      plain before' = (plain before).map Char.toLower ∧
      plain after' = (plain after).map Char.toLower := by
  have hsplit : before ++ a :: (gap ++ b :: after) = before ++ [a] ++ gap ++ b :: after := by simp
  rw [hsplit] at hname ⊢
  have hleft : ∀ c ∈ before ++ [a], inIdentifier c = true := fun c hc =>
    hname c (List.mem_append_left _ (List.mem_append_left _ hc))
  have hright : ∀ c ∈ b :: after, inIdentifier c = true :=
    fun c hc => hname c (List.mem_append_right _ hc)
  have hplainLeft : plain (before ++ [a]) = plain before ++ [a] := by simp [plain, ha]
  have hplainRight : plain (b :: after) = b :: plain after := by simp [plain, hb]
  obtain ⟨before', hbefore', hplainBefore⟩ :
      ∃ before', snakeChars (before ++ [a]) = before' ++ [a.toLower] ∧
      plain before' = (plain before).map Char.toLower := by
    apply exists_append_of_plain (ends_snakeChars hleft).2
    rw [plain_snakeChars hleft, hplainLeft, List.map_append, List.map_singleton]
  obtain ⟨after', hafter', hplainAfter⟩ : ∃ after', snakeChars (b :: after) = b.toLower :: after' ∧
      plain after' = (plain after).map Char.toLower := by
    apply exists_cons_of_plain (ends_snakeChars hright).1
    rw [plain_snakeChars hright, hplainRight, List.map_cons]
  refine ⟨before', after', ?_, hplainBefore, hplainAfter⟩
  rw [snakeChars_append_of_gap hname (by simp [hplainLeft]) (by simp [hplainRight]) hne hgap,
    hbefore', hafter', List.append_assoc, List.singleton_append]

/-- Snake case is canonical on letters, digits and underscores. It gives groups of small letters and
digits that single underscores join; without its underscores it is the name in small letters without
them; characters that underscores part in the name are parted by one; and done again it changes
nothing. -/
theorem snakeCase_canonical {name : String} (hname : ∀ c ∈ name.toList, inIdentifier c = true) :
    (∃ groups, (∀ group ∈ groups, IsSmallWord group) ∧
      (snakeCase name).toList = List.intercalate ['_'] groups) ∧
    plain (snakeCase name).toList = (plain name.toList).map Char.toLower ∧
    (∀ before a gap b after, name.toList = before ++ a :: (gap ++ b :: after) → a ≠ '_' → b ≠ '_' →
      gap ≠ [] →
      (∀ c ∈ gap, c = '_') → ∃ before' after',
        (snakeCase name).toList = before' ++ a.toLower :: '_' :: b.toLower :: after' ∧
        plain before' = (plain before).map Char.toLower ∧
        plain after' = (plain after).map Char.toLower) ∧
    snakeCase (snakeCase name) = snakeCase name := by
  have htext : (snakeCase name).toList = snakeChars name.toList := String.toList_ofList
  rw [htext]
  refine ⟨⟨_, fun _ => isSmallWord_of_mem hname, rfl⟩, plain_snakeChars hname, ?_, ?_⟩
  · intro before a gap b after hsplit ha hb hne hgap
    rw [hsplit] at hname ⊢
    exact exists_parted hname ha hb hne hgap
  · rw [snakeCase, htext, snakeChars_snakeChars hname]
    rfl

/-- A run of capitals, a digit and more than one underscore in a place. -/
theorem snakeCase_canonical_of_server :
    (∀ c ∈ "_HTTPServer__v2_".toList, inIdentifier c = true) ∧
    snakeCase "_HTTPServer__v2_" = "http_server_v2" ∧
    (∃ groups, (∀ group ∈ groups, IsSmallWord group) ∧
      "http_server_v2".toList = List.intercalate ['_'] groups) ∧
    plain "http_server_v2".toList = "httpserverv2".toList ∧
    (∃ before after, "http_server_v2".toList = before ++ 'r' :: '_' :: 'v' :: after ∧
      plain before = "httpserve".toList ∧ plain after = ['2']) ∧
    snakeCase "http_server_v2" = "http_server_v2" := by
  have hname : ∀ c ∈ "_HTTPServer__v2_".toList, inIdentifier c = true :=
    List.all_eq_true.1 (by decide +kernel)
  have hgap : ∀ c ∈ ['_', '_'], c = '_' := by simp
  have htext : snakeCase "_HTTPServer__v2_" = "http_server_v2" := by decide +kernel
  obtain ⟨hgroups, hplain, hparted, hsame⟩ := snakeCase_canonical hname
  have hparted :=
    hparted "_HTTPServe".toList 'r' ['_', '_'] 'v' "2_".toList (by decide) (by decide) (by decide)
      (by decide) hgap
  rw [htext] at hgroups hplain hparted hsame
  exact ⟨hname, htext, hgroups, hplain.trans (by decide), hparted, hsame⟩

end SdkForge.Text
