import Mathlib.Data.Nat.Digits.Defs
import SdkForge.Proofs.Text.Split
import SdkForge.Text.Hex
import SdkForge.Text.Quoted

/-!
# String literals tell texts apart

No character is spelled by the beginning of what spells another one, so a literal is that of one
text only.

* `hexNumber?_toDigits` says that the digits of a code point give it back.
* `readChar_quoteChar_append` says that every character can be read back from what spells it.
* `quote_append_inj` is the statement about literals.
-/

namespace SdkForge.Text

/-! ## Digits -/

lemma hexValue?_digitChar : ∀ n < 16, hexValue? n.digitChar = some n := by decide

/-- The digits of a number give the number. -/
theorem hexNumber?_toDigits (n : Nat) : hexNumber? (Nat.toDigits 16 n) = some n := by
  induction n using Nat.strongRecOn with
  | ind n ih =>
    rw [Nat.toDigits_eq_if (by decide)]
    by_cases hsmall : n < 16
    · rw [if_pos hsmall, hexNumber?, List.foldlM_cons, hexValue?_digitChar n hsmall]
      simp
    · rw [if_neg hsmall, hexNumber?, List.foldlM_append]
      have hdigits : hexNumber? (Nat.toDigits 16 (n / 16)) = some (n / 16) := ih _ (by omega)
      rw [hexNumber?] at hdigits
      rw [hdigits, Option.bind_eq_bind, Option.bind_some, List.foldlM_cons,
        hexValue?_digitChar _ (Nat.mod_lt n (by decide))]
      simp [Nat.div_add_mod]

/-- Every digit is one. -/
lemma isSome_hexValue?_of_mem_toDigits {n : Nat} {c : Char} (h : c ∈ Nat.toDigits 16 n) :
    (hexValue? c).isSome = true := by
  induction n using Nat.strongRecOn with
  | ind n ih =>
    rw [Nat.toDigits_eq_if (by decide)] at h
    by_cases hsmall : n < 16
    · rw [if_pos hsmall, List.mem_singleton] at h
      rw [h, hexValue?_digitChar n hsmall]
      rfl
    · rw [if_neg hsmall, List.mem_append, List.mem_singleton] at h
      rcases h with h | rfl
      · exact ih _ (by omega) h
      · rw [hexValue?_digitChar _ (Nat.mod_lt n (by decide))]
        rfl

/-- The brace that ends a code point is no digit. -/
lemma brace_notMem_toDigits (n : Nat) : '\x7d' ∉ Nat.toDigits 16 n := by
  intro hmem
  have hdigit := isSome_hexValue?_of_mem_toDigits hmem
  exact absurd hdigit (by decide)

/-! ## Characters -/

/-- The characters that a letter stands for after a backslash. -/
def lettered : List (Char × Char) :=
  [('\t', 't'), ('\r', 'r'), ('\n', 'n'), ('\\', '\\'), ('"', '"'), ('\x00', '0')]

/-- The character at the start of what a literal holds, and what follows. -/
def readChar : List Char → Option (Char × List Char)
  | '\\' :: 'u' :: '\x7b' :: rest =>
    (splitFirst '\x7d' rest).bind fun (digits, after) => (hexNumber? digits).map fun n =>
      (Char.ofNat n, after)
  | '\\' :: letter :: rest => (lettered.find? (·.2 == letter)).map fun (c, _) => (c, rest)
  | c :: rest => some (c, rest)
  | [] => none

/-- A character is spelled by a letter, by itself or by its code point. -/
lemma quoteChar_cases (c : Char) :
    (∃ letter, (c, letter) ∈ lettered ∧ quoteChar c = ['\\', letter]) ∨
    (c ≠ '\\' ∧ c ≠ '"' ∧ quoteChar c = [c]) ∨ quoteChar c = codePointEscape c := by
  unfold quoteChar
  split
  all_goals try exact .inl ⟨_, by decide, rfl⟩
  · rename_i hbackslash hmark _
    by_cases hshown : isShown c = true
    · exact .inr (.inl ⟨hbackslash, hmark, if_pos hshown⟩)
    · exact .inr (.inr (if_neg hshown))

/-- The letters are read back, and none begins a code point. -/
lemma find?_lettered : ∀ p ∈ lettered, p.2 ≠ 'u' ∧ lettered.find? (·.2 == p.2) = some p := by decide

/-- What spells a character is read back, whatever follows. -/
theorem readChar_quoteChar_append (c : Char) (rest : List Char) :
    readChar (quoteChar c ++ rest) = some (c, rest) := by
  rcases quoteChar_cases c with ⟨letter, hmem, hquote⟩ | ⟨hbackslash, _, hquote⟩ | hquote <;>
    rw [hquote]
  · obtain ⟨hletter, hfind⟩ := find?_lettered _ hmem
    rw [List.cons_append, List.cons_append, List.nil_append, readChar, hfind]
    · rfl
    · simp [hletter]
  · rw [List.cons_append, List.nil_append, readChar]
    · simp [hbackslash]
    · simp [hbackslash]
  · simp only [codePointEscape, List.cons_append, List.append_assoc, List.nil_append, readChar]
    rw [splitFirst_append_cons (brace_notMem_toDigits _), Option.bind_some, hexNumber?_toDigits,
      Option.map_some, Char.ofNat_toNat]

/-- Nothing that spells a character starts with the mark that ends a literal. -/
lemma mark_ne_quoteChar_append {c : Char} {xs ys : List Char} : '"' :: xs ≠ quoteChar c ++ ys := by
  rcases quoteChar_cases c with ⟨letter, _, hquote⟩ | ⟨_, hmark, hquote⟩ | hquote <;> rw [hquote]
  · simp
  · simp [Ne.symm hmark]
  · simp [codePointEscape]

/-! ## Texts -/

/-- What spells a text ends at the mark after it. -/
lemma eq_of_flatMap_quoteChar {a b xs ys : List Char}
    (h : a.flatMap quoteChar ++ '"' :: xs = b.flatMap quoteChar ++ '"' :: ys) :
    a = b ∧ xs = ys := by
  induction a generalizing b with
  | nil =>
    cases b with
    | nil => exact ⟨rfl, (List.cons.inj h).2⟩
    | cons d more =>
      rw [List.flatMap_cons, List.append_assoc] at h
      exact absurd h mark_ne_quoteChar_append
  | cons c rest ih =>
    rw [List.flatMap_cons, List.append_assoc] at h
    cases b with
    | nil => exact absurd h.symm mark_ne_quoteChar_append
    | cons d more =>
      rw [List.flatMap_cons, List.append_assoc] at h
      have hread := congrArg readChar h
      rw [readChar_quoteChar_append, readChar_quoteChar_append, Option.some.injEq,
        Prod.mk.injEq] at hread
      obtain ⟨rfl, hrest⟩ := hread
      obtain ⟨rfl, hafter⟩ := ih hrest
      exact ⟨rfl, hafter⟩

/-- A literal tells its text, and where it ends. -/
theorem quote_append_inj {a b s t : String} : quote a ++ s = quote b ++ t ↔ a = b ∧ s = t := by
  constructor
  · intro h
    have hchars := congrArg String.toList h
    simp only [quote, String.toList_append, String.toList_ofList, List.append_assoc] at hchars
    obtain ⟨htext, hafter⟩ := eq_of_flatMap_quoteChar (List.append_cancel_left hchars)
    exact ⟨String.toList_inj.1 htext, String.toList_inj.1 hafter⟩
  · rintro ⟨rfl, rfl⟩
    rfl

end SdkForge.Text
