import SdkForge.Proofs.Naming

/-!
# Names that the language accepts

A name in the generated code is an identifier, and no word that the language keeps for itself. A
field can also have the raw form of such a word, where there is one.

* `IsTypeName` and `IsFieldName` say which names types and fields can have.
* `accepted_iff_beginsWithLetter` says which names of shapes and members give such names.
-/

namespace SdkForge.Naming

open Text
open ShapeId (isIdentifier)

/-! ## Identifiers -/

/-- The words that the language uses in some edition. -/
def usedWords : List String := [
  "as", "async", "await", "break", "const", "continue", "crate", "dyn", "else", "enum", "extern",
  "false", "fn", "for", "gen", "if", "impl", "in", "let", "loop", "match", "mod", "move", "mut",
  "pub", "ref", "return", "self", "Self", "static", "struct", "super", "trait", "true", "type",
  "unsafe", "use", "where", "while"]

/-- The words that the language keeps for later. -/
def keptWords : List String := [
  "abstract", "become", "box", "do", "final", "macro", "override", "priv", "try", "typeof",
  "unsized", "virtual", "yield"]

/-- The identifiers that name nothing. An underscore alone is a pattern. -/
def notNames : List String := "_" :: usedWords ++ keptWords

/-- The identifiers that cannot be made raw. -/
def neverRaw : List String := ["_", "self", "Self", "super", "crate"]

/-- An identifier of ASCII that can name something as it stands. -/
def IsPlainName (text : String) : Prop := isIdentifier text.toList = true ∧ text ∉ notNames

/-- The raw form of an identifier. -/
def IsRawName (text : String) : Prop := ∃ word, isIdentifier word.toList = true ∧ word ∉ neverRaw ∧
  text = "r#" ++ word

/-- A name that a type can have. -/
def IsTypeName (text : String) : Prop := IsPlainName text ∧ text ∉ reservedTypes

/-- A name that a field or function can have. -/
def IsFieldName (text : String) : Prop := IsPlainName text ∨ IsRawName text

instance (text : String) : Decidable (IsPlainName text) := inferInstanceAs (Decidable (_ ∧ _))

instance (text : String) : Decidable (IsTypeName text) := inferInstanceAs (Decidable (_ ∧ _))

/-- The first character that is no underscore is a letter. -/
def BeginsWithLetter (name : String) : Prop :=
  (name.toList.find? (· != '_')).any Char.isAlpha = true

instance (name : String) : Decidable (BeginsWithLetter name) :=
  inferInstanceAs (Decidable (_ = true))

variable {name : String}

/-! ## Where a name begins -/

lemma isIdentifier_iff {text : List Char} (h : ∀ c ∈ text, ShapeId.inIdentifier c = true) :
    isIdentifier text = true ↔ ∃ c, text.head? = some c ∧ ShapeId.startsIdentifier c = true := by
  cases text with
  | nil => simp [isIdentifier]
  | cons c rest =>
    have hrest : rest.all ShapeId.inIdentifier = true :=
      List.all_eq_true.2 fun d hd => h d (List.mem_cons_of_mem _ hd)
    simp [isIdentifier, hrest]

/-- Underscores are the only separators in an identifier. -/
lemma isSeparator_eq {c : Char} (hin : ShapeId.inIdentifier c = true) :
    isSeparator c = (c == '_') := by
  rw [ShapeId.inIdentifier, Bool.or_eq_true] at hin
  rcases hin with hplain | hunderscore
  · have heq : c.isAlphanum = true → isSeparator c = (c == '_') :=
      forall_ascii (P := fun c => c.isAlphanum = true →
        isSeparator c = (c == '_')) (by decide +kernel) (toNat_lt_of_isAlphanum hplain)
    exact heq hplain
  · rw [beq_iff_eq.1 hunderscore]
    rfl

lemma find?_not_isSeparator (hname : isIdentifier name.toList = true) :
    name.toList.find? (!isSeparator ·) = name.toList.find? (· != '_') := by
  rw [← List.head?_filter, ← List.head?_filter]
  refine congrArg List.head? (List.filter_congr fun c hc => ?_)
  rw [isSeparator_eq (ShapeId.inIdentifier_of_mem hname hc)]
  rfl

/-- A text that begins with a form of the first character of an identifier that is no separator, and
has letters, digits and underscores only, is an identifier exactly if that character is a letter. -/
lemma isIdentifier_iff_beginsWithLetter (form : Char → List Char)
    (hname : isIdentifier name.toList = true) {text : List Char}
    (hhead : text.head? = (name.toList.find? (!isSeparator ·)).bind fun c => (form c).head?)
    (hform : ∀ c, c.isAlphanum = true → ∃ d, form c = [d] ∧ ShapeId.startsIdentifier d = c.isAlpha)
    (htext : ∀ c ∈ text, ShapeId.inIdentifier c = true) : isIdentifier text = true ↔
    BeginsWithLetter name := by
  rw [isIdentifier_iff htext, hhead, BeginsWithLetter, ← find?_not_isSeparator hname]
  cases hfind : name.toList.find? (!isSeparator ·) with
  | none => simp
  | some c =>
    have hsep : isSeparator c = false := by simpa using List.find?_some hfind
    have hin := ShapeId.inIdentifier_of_mem hname (List.mem_of_find?_eq_some hfind)
    obtain ⟨d, hd, hstarts⟩ := hform c (isAlphanum_of_inIdentifier hin hsep)
    simp [hd, hstarts]

/-- Either form of a letter begins an identifier, and no form of a digit does. -/
lemma startsIdentifier_form {c : Char} (h : c.isAlphanum = true) :
    ShapeId.startsIdentifier c.toUpper = c.isAlpha ∧
    ShapeId.startsIdentifier c.toLower = c.isAlpha := by
  have hforms : c.isAlphanum = true →
      ShapeId.startsIdentifier c.toUpper = c.isAlpha ∧
      ShapeId.startsIdentifier c.toLower = c.isAlpha :=
    forall_ascii (P := fun c => c.isAlphanum = true →
      ShapeId.startsIdentifier c.toUpper = c.isAlpha ∧
      ShapeId.startsIdentifier c.toLower = c.isAlpha) (by decide +kernel) (toNat_lt_of_isAlphanum h)
  exact hforms h

lemma isIdentifier_pascalCase_iff (hname : isIdentifier name.toList = true) :
    isIdentifier (pascalCase name).toList = true ↔ BeginsWithLetter name := by
  refine isIdentifier_iff_beginsWithLetter upper hname ?_ (fun c hc => ?_) (fun c hc => ?_)
  · rw [pascalCase, String.toList_ofList, head?_pascalChars]
  · exact ⟨_, (upper_of_isAlphanum hc).1, (startsIdentifier_form hc).1⟩
  · rw [ShapeId.inIdentifier, isAlphanum_of_mem_pascalCase hname hc, Bool.true_or]

lemma isIdentifier_snakeCase_iff (hname : isIdentifier name.toList = true) :
    isIdentifier (snakeCase name).toList = true ↔ BeginsWithLetter name := by
  refine isIdentifier_iff_beginsWithLetter lower hname ?_ (fun c hc => ?_)
    (isSnake_snakeCase hname).chars
  · rw [snakeCase, String.toList_ofList, head?_snakeChars]
  · exact ⟨_, (lower_of_isAlphanum hc).1, (startsIdentifier_form hc).2⟩

/-! ## Types -/

/-- But for `Self`, the words of the language begin with a small letter or an underscore, and no
text in Pascal case does. -/
lemma pascalCase_notMem_notNames (hname : isIdentifier name.toList = true)
    (hself : pascalCase name ≠ "Self") :
    pascalCase name ∉ notNames := by
  have hwords : ∀ word ∈ notNames, word = "Self" ∨
      word.toList.head?.any (fun c => c == '_' || (97 ≤ c.toNat && c.toNat ≤ 122)) = true := by
    decide
  intro hmem
  rcases hwords _ hmem with heq | hfirst
  · exact hself heq
  · obtain ⟨c, hc, hsmall⟩ := (Option.any_eq_true ..).1 hfirst
    obtain ⟨rest, htext⟩ := List.head?_eq_some_iff.1 hc
    rcases Bool.or_eq_true_iff.1 hsmall with hunderscore | hlower
    · obtain rfl := beq_iff_eq.1 hunderscore
      exact absurd (isAlphanum_of_mem_pascalCase hname (htext ▸ List.mem_cons_self)) (by decide)
    · rw [pascalCase, String.toList_ofList, pascalChars] at htext
      have hnot := notLower_of_flatMap_capitalize htext
      rw [Bool.and_eq_true, decide_eq_true_eq, decide_eq_true_eq] at hlower
      omega

/-- The type that an identifier gives. -/
theorem isTypeName_typeName_iff (hname : isIdentifier name.toList = true) :
    IsTypeName (typeName name) ↔ BeginsWithLetter name := by
  rw [← isIdentifier_pascalCase_iff hname, typeName]
  split
  · next hreserved =>
    have hescaped : ∀ type ∈ reservedTypes, isIdentifier type.toList = true ∧
        IsTypeName (escapeType type) := by decide
    obtain ⟨hidentifier, htype⟩ := hescaped _ (List.contains_iff_mem.1 hreserved)
    exact iff_of_true htype hidentifier
  · next hreserved =>
    have hplain : pascalCase name ∉ reservedTypes :=
      fun hmem => hreserved (List.contains_iff_mem.2 hmem)
    have hself : pascalCase name ≠ "Self" := fun heq => hplain (heq ▸ List.mem_cons_self)
    simp [IsTypeName, IsPlainName, hplain, pascalCase_notMem_notNames hname hself]

/-! ## Fields -/

lemma not_isRawName (h : IsSnake name) : ¬IsRawName name := by
  rintro ⟨word, _, _, hraw⟩
  exact hash_notMem h (hraw ▸ hash_mem_raw_append word)

/-- The field that an identifier gives. -/
theorem isFieldName_fieldName_iff (hname : isIdentifier name.toList = true) :
    IsFieldName (fieldName name) ↔ BeginsWithLetter name := by
  have hsnake := isSnake_snakeCase hname
  rw [← isIdentifier_snakeCase_iff hname, fieldName_eq_escape]
  rcases escape_cases (snakeCase name) with
    ⟨hfree, heq⟩ | ⟨_, hword, heq⟩ | ⟨hreserved, hword, heq⟩ <;> rw [heq]
  case inl =>
    have hwords : ∀ word ∈ usedWords ++ keptWords, isReserved word = true := by decide
    have hplain : snakeCase name ∉ notNames := by
      intro hmem
      rcases List.mem_cons.1 hmem with hunderscore | hmem
      · exact hsnake.head (hunderscore ▸ rfl)
      · rw [hwords _ hmem] at hfree
        contradiction
    simp [IsFieldName, IsPlainName, hplain, not_isRawName hsnake]
  case inr.inl =>
    have hescaped : ∀ word ∈ wordsWithoutRawForm, isIdentifier word.toList = true ∧
        IsPlainName (word ++ "_") := by decide
    obtain ⟨hidentifier, hfield⟩ := hescaped _ (List.contains_iff_mem.1 hword)
    exact iff_of_true (.inl hfield) hidentifier
  case inr.inr =>
    have hescaped : ∀ word ∈ reservedWords, wordsWithoutRawForm.contains word = false →
        isIdentifier word.toList = true ∧ word ∉ neverRaw := by
      decide
    obtain ⟨hidentifier, hraw⟩ := hescaped _ (List.contains_iff_mem.1 hreserved) hword
    exact iff_of_true (.inr ⟨_, hidentifier, hraw, rfl⟩) hidentifier

/-! ## Names of shapes and members -/

/-- The name of a shape or member gives a type's name and a field's name that the language accepts
exactly if a letter comes first in it, but for underscores. -/
theorem accepted_iff_beginsWithLetter {id : ShapeId} (hid : id.IsParsed)
    (hname : name = id.name ∨ id.member = some name) :
    (IsTypeName (typeName name) ↔ BeginsWithLetter name) ∧
    (IsFieldName (fieldName name) ↔ BeginsWithLetter name) := by
  have hidentifier : isIdentifier name.toList = true := by
    rcases hname with rfl | hmember
    · exact hid.isIdentifier_name
    · exact hid.isIdentifier_parts.2 name hmember
  exact ⟨isTypeName_typeName_iff hidentifier, isFieldName_fieldName_iff hidentifier⟩

/-- The member `type` of `ex#self`. -/
theorem accepted_of_type_of_self :
    IsTypeName (typeName "self") ∧ IsFieldName (fieldName "type") ∧ typeName "self" = "SelfValue" ∧
    fieldName "type" = "r#type" := by
  have hid : (⟨"ex", "self", some "type"⟩ : ShapeId).IsParsed := ⟨"ex#self$type", by decide⟩
  refine ⟨?_, ?_, by decide, by decide⟩
  · exact (accepted_iff_beginsWithLetter hid (.inl rfl)).1.2 (by decide)
  · exact (accepted_iff_beginsWithLetter hid (.inr rfl)).2.2 (by decide)

/-- An underscore before a digit is read as part of an id, and lost in the names that it gives. -/
theorem not_accepted_of_digit : (⟨"ex", "_1", none⟩ : ShapeId).IsParsed ∧
    ¬IsTypeName (typeName "_1") ∧ ¬IsFieldName (fieldName "_1") := by
  refine ⟨⟨"ex#_1", by decide⟩, by decide, ?_⟩
  rintro (hplain | ⟨word, _, _, hraw⟩)
  · exact absurd hplain (by decide)
  · have hhash : '#' ∈ (fieldName "_1").toList := hraw ▸ hash_mem_raw_append word
    exact absurd hhash (by decide)

end SdkForge.Naming
