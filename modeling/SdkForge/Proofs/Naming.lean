import SdkForge.Naming
import SdkForge.Proofs.Text.Word

/-!
# Names of fields

A field's name is a text in snake case, or an escaped reserved word.

* `fieldName_eq_fieldName_iff` says which names give one field.
* `snakeCase_eq_of_fieldName_eq` says that fields of identifiers with one name have one text in
  snake case.
* `fieldName_eq_iff` says that a name that is neither reserved nor an escaped word is a field's name
  only as it stands.
-/

namespace SdkForge.Naming

open Text

variable {name : String}

/-- How a text in snake case is kept apart from the reserved words. -/
def escape (snake : String) : String := if isReserved snake then escapeField snake else snake

lemma fieldName_eq_escape (name : String) : fieldName name = escape (snakeCase name) := rfl

/-! ## Escaped words -/

/-- `word` is reserved, and `raw` is its raw form. -/
def IsRawForm (word raw : String) : Prop :=
  isReserved word = true ∧ wordsWithoutRawForm.contains word = false ∧ raw = "r#" ++ word

instance (word raw : String) : Decidable (IsRawForm word raw) :=
  inferInstanceAs (Decidable (_ ∧ _ ∧ _))

lemma escape_cases (snake : String) :
    isReserved snake = false ∧ escape snake = snake ∨
    isReserved snake = true ∧ wordsWithoutRawForm.contains snake = true ∧
    escape snake = snake ++ "_" ∨
    isReserved snake = true ∧ wordsWithoutRawForm.contains snake = false ∧
    escape snake = "r#" ++ snake := by
  unfold escape escapeField
  split_ifs with hreserved hword
  · exact .inr (.inl ⟨hreserved, hword, rfl⟩)
  · exact .inr (.inr ⟨hreserved, by simpa using hword, rfl⟩)
  · exact .inl ⟨by simpa using hreserved, rfl⟩

lemma hash_notMem (h : IsSnake name) : '#' ∉ name.toList :=
  fun hmem => absurd (h.chars _ hmem) (by decide)

lemma getLast?_append_underscore (text : String) : (text ++ "_").toList.getLast? = some '_' := by
  simp

lemma getLast?_raw_append {text : String} (h : text.toList.getLast? ≠ some '_') :
    ("r#" ++ text).toList.getLast? ≠ some '_' := by
  rw [String.toList_append, List.getLast?_append]
  cases hlast : text.toList.getLast? with
  | none => decide
  | some c => rwa [hlast] at h

lemma hash_mem_raw_append (text : String) : '#' ∈ ("r#" ++ text).toList := by
  rw [String.toList_append]
  exact List.mem_append_left _ (by decide)

lemma isReserved_raw_append (text : String) : isReserved ("r#" ++ text) = false := by
  have hplain : ∀ word ∈ reservedWords, '#' ∉ word.toList := by decide
  rw [Bool.eq_false_iff]
  intro hreserved
  rw [isReserved, List.contains_iff_mem] at hreserved
  exact hplain _ hreserved (hash_mem_raw_append text)

/-- Texts that do not end in an underscore become one name exactly if they are equal, or one is the
raw form of the other. -/
lemma escape_eq_escape_iff {a b : String} (ha : a.toList.getLast? ≠ some '_')
    (hb : b.toList.getLast? ≠ some '_') :
    escape a = escape b ↔ a = b ∨ IsRawForm a b ∨ IsRawForm b a := by
  constructor
  · intro h
    rcases escape_cases a with ⟨hplain, heq⟩ | ⟨hreserved, hword, heq⟩ | ⟨hreserved, hword, heq⟩ <;>
      rcases escape_cases b with
        ⟨hplain', heq'⟩ | ⟨hreserved', hword', heq'⟩ | ⟨hreserved', hword', heq'⟩ <;>
      rw [heq, heq'] at h
    case inl.inl => exact .inl h
    case inl.inr.inr => exact .inr (.inr ⟨hreserved', hword', h⟩)
    case inr.inr.inl => exact .inr (.inl ⟨hreserved, hword, h.symm⟩)
    case inr.inl.inr.inl => exact .inl ((String.append_left_inj "_").1 h)
    case inr.inr.inr.inr => exact .inl ((String.append_right_inj "r#").1 h)
    -- an underscore at the end of one name only
    case inl.inr.inl => exact absurd (h ▸ getLast?_append_underscore b) ha
    case inr.inl.inl => exact absurd (h ▸ getLast?_append_underscore a) hb
    case inr.inl.inr.inr => exact absurd (h ▸ getLast?_append_underscore a) (getLast?_raw_append hb)
    case inr.inr.inr.inl => exact absurd (h ▸ getLast?_append_underscore b) (getLast?_raw_append ha)
  · have hraw : ∀ word raw, IsRawForm word raw → escape word = escape raw := by
      intro word raw ⟨hreserved, hword, hform⟩
      subst hform
      rw [escape, if_pos hreserved, escapeField, hword, escape, isReserved_raw_append]
      rfl
    rintro (rfl | h | h)
    · rfl
    · exact hraw a b h
    · exact (hraw b a h).symm

/-- Two names have the same words in small letters, or one gives a reserved word and the other its
raw form. -/
def SameField (a b : String) : Prop :=
  smallWords a = smallWords b ∨ IsRawForm (snakeCase a) (snakeCase b) ∨
    IsRawForm (snakeCase b) (snakeCase a)

instance (a b : String) : Decidable (SameField a b) := inferInstanceAs (Decidable (_ ∨ _ ∨ _))

/-- Which names give one field. -/
theorem fieldName_eq_fieldName_iff {a b : String} : fieldName a = fieldName b ↔ SameField a b := by
  rw [fieldName_eq_escape, fieldName_eq_escape,
    escape_eq_escape_iff (getLast?_snakeCase a) (getLast?_snakeCase b), snakeCase_eq_iff, SameField]

/-! ## Names that are identifiers -/

lemma not_isRawForm {word raw : String} (h : IsSnake raw) : ¬IsRawForm word raw := by
  intro hraw
  rw [hraw.2.2] at h
  exact hash_notMem h (hash_mem_raw_append word)

/-- Fields with one name have one text in snake case. -/
theorem snakeCase_eq_of_fieldName_eq {a b : ShapeId} (ha : a.IsParsed) (hb : b.IsParsed)
    (h : fieldName a.name = fieldName b.name) : snakeCase a.name = snakeCase b.name := by
  rcases fieldName_eq_fieldName_iff.1 h with hwords | hraw | hraw
  · exact snakeCase_eq_iff.2 hwords
  · exact absurd hraw (not_isRawForm (isSnake_snakeCase hb.isIdentifier_name))
  · exact absurd hraw (not_isRawForm (isSnake_snakeCase ha.isIdentifier_name))

/-! ## Plain names -/

/-- A name that is neither reserved nor an escaped word is that of a field exactly if it is the
field's text in snake case. -/
theorem fieldName_eq_iff {plain : String}
    (hplain : ∀ word ∈ reservedWords, word ≠ plain ∧ escapeField word ≠ plain) :
    fieldName name = plain ↔ snakeCase name = plain := by
  rw [fieldName_eq_escape, escape]
  split
  · next hreserved =>
    obtain ⟨hword, hescaped⟩ := hplain _ (List.contains_iff_mem.1 hreserved)
    exact iff_of_false hescaped hword
  · rfl

end SdkForge.Naming
