import Mathlib.Data.String.Basic
import SdkForge.Text.Letter

/-!
# Forms of letters

What the case mappings give for characters of all of Unicode, read off the tables.

* `mapBy_cases` says where a form comes from: a long mapping, a run, or the character itself.
* `lower_ne_nil` and `underscore_notMem_lower` say that small forms are there, and bring in no
  underscore.
* `upper_ne_nil` and `notLower_of_mem_upper` say that capital forms are there, and hold no small
  letter of ASCII.
* `eq_of_upper_eq_singleton` lists what has a capital letter of ASCII as its capital form.
-/

namespace SdkForge.Text

open LetterTable

/-! ## Tables -/

/-- The character of a code has the code, or is the null character. -/
lemma toNat_ofNat_cases (code : Nat) :
    (Char.ofNat code).toNat = code ∨ (Char.ofNat code).toNat = 0 := by
  by_cases hvalid : code.isValidChar
  · rw [Char.ofNat, dif_pos hvalid]
    exact .inl rfl
  · rw [Char.ofNat, dif_neg hvalid]
    exact .inr rfl

lemma eq_toNat_of_ofNat {code : Nat} {c : Char} (h : Char.ofNat code = c) (hc : c.toNat ≠ 0) :
    code = c.toNat := by
  rcases toNat_ofNat_cases code with hvalue | hvalue
  · rw [← h, hvalue]
  · rw [h] at hvalue
    exact absurd hvalue hc

/-- What holds of the first 128 codes holds of the characters of ASCII. -/
lemma forall_ascii {P : Char → Prop} (h : ∀ n < 128, P (Char.ofNat n)) {c : Char}
    (hc : c.toNat < 128) : P c := by
  have hcode := h c.toNat hc
  rwa [Char.ofNat_toNat] at hcode

/-- A run holds codes between its ends. -/
lemma CharRun.bounds_of_holds {run : CharRun} {code : Nat} (h : run.holds code = true) :
    run.first ≤ code ∧ code ≤ run.last := by
  simp only [holds, Bool.and_eq_true, decide_eq_true_eq] at h
  exact h.1

/-- The forms of a character are those of a long mapping, the one of a run, or the character. -/
lemma mapBy_cases (runs : List CaseRun) (long : List (Nat × List Nat)) (c : Char) :
    (∃ entry ∈ long, entry.1 = c.toNat ∧ mapBy runs long c = entry.2.map Char.ofNat) ∨
    (∃ found ∈ runs, found.run.holds c.toNat = true ∧
      mapBy runs long c = [Char.ofNat (c.toNat + found.shift).toNat]) ∨
    mapBy runs long c = [c] := by
  unfold mapBy
  split
  · next code codes hlong =>
    have hcode : code = c.toNat := by simpa using List.find?_some hlong
    exact .inl ⟨(code, codes), List.mem_of_find?_eq_some hlong, hcode, rfl⟩
  · split
    · next found hfound =>
      have hholds : found.run.holds c.toNat = true := by simpa using List.find?_some hfound
      exact .inr (.inl ⟨found, List.mem_of_find?_eq_some hfound, hholds, rfl⟩)
    · exact .inr (.inr rfl)

lemma mapBy_ne_nil (runs : List CaseRun) {long : List (Nat × List Nat)}
    (hlong : ∀ entry ∈ long, entry.2 ≠ []) (c : Char) :
    mapBy runs long c ≠ [] := by
  rcases mapBy_cases runs long c with ⟨entry, hentry, _, heq⟩ | ⟨_, _, _, heq⟩ | heq
  · rw [heq, ne_eq, List.map_eq_nil_iff]
    exact hlong entry hentry
  · rw [heq]
    exact List.cons_ne_nil _ _
  · rw [heq]
    exact List.cons_ne_nil _ _

/-! ## Small forms -/

lemma lower_ne_nil (c : Char) : lower c ≠ [] := by
  unfold lower
  split
  · exact List.cons_ne_nil _ _
  · exact mapBy_ne_nil toLower (by decide) c

/-- Small forms bring in no underscore. -/
lemma underscore_notMem_lower {c : Char} (h : c ≠ '_') : '_' ∉ lower c := by
  intro hmem
  unfold lower at hmem
  split at hmem
  · next hascii =>
    have hkeep : c.toLower = '_' → c = '_' :=
      forall_ascii (P := fun c => c.toLower = '_' → c = '_') (by decide +kernel) hascii
    exact h (hkeep (List.mem_singleton.1 hmem).symm)
  · have hlong : ∀ entry ∈ toLowerLong, ∀ code ∈ entry.2, code ≠ 95 := by decide
    have hruns : ∀ found ∈ toLower, 95 < found.run.first + found.shift := by decide +kernel
    rcases mapBy_cases toLower toLowerLong c with
      ⟨entry, hentry, _, heq⟩ | ⟨found, hfound, hholds, heq⟩ | heq
    · rw [heq, List.mem_map] at hmem
      obtain ⟨code, hcode, hchar⟩ := hmem
      exact hlong entry hentry code hcode (eq_toNat_of_ofNat hchar (by decide))
    · rw [heq, List.mem_singleton] at hmem
      have hcode := eq_toNat_of_ofNat hmem.symm (by decide)
      have hfirst := (CharRun.bounds_of_holds hholds).1
      have hbound := hruns found hfound
      have hunderscore : '_'.toNat = 95 := rfl
      omega
    · rw [heq, List.mem_singleton] at hmem
      exact h hmem.symm

/-! ## Capital forms -/

lemma upper_ne_nil (c : Char) : upper c ≠ [] := by
  unfold upper
  split
  · exact List.cons_ne_nil _ _
  · exact mapBy_ne_nil toUpper (by decide +kernel) c

/-- Capital forms hold no small letter of ASCII. -/
lemma notLower_of_mem_upper {c x : Char} (h : x ∈ upper c) : x.toNat < 97 ∨ 122 < x.toNat := by
  unfold upper at h
  split at h
  · next hascii =>
    rw [List.mem_singleton.1 h]
    exact forall_ascii (P := fun c => c.toUpper.toNat < 97 ∨
      122 < c.toUpper.toNat) (by decide +kernel) hascii
  · next hbeyond =>
    have hlong : ∀ entry ∈ toUpperLong, ∀ code ∈ entry.2, code < 97 ∨ 122 < code := by
      decide +kernel
    have hruns : ∀ found ∈ toUpper, found.run.last + found.shift < 97 ∨
        122 < found.run.first + found.shift := by
      decide +kernel
    rcases mapBy_cases toUpper toUpperLong c with
      ⟨entry, hentry, _, heq⟩ | ⟨found, hfound, hholds, heq⟩ | heq
    · rw [heq, List.mem_map] at h
      obtain ⟨code, hcode, rfl⟩ := h
      have hbound := hlong entry hentry code hcode
      rcases toNat_ofNat_cases code with hvalue | hvalue <;> omega
    · rw [heq, List.mem_singleton] at h
      have hbound := hruns found hfound
      have hends := CharRun.bounds_of_holds hholds
      rw [h]
      rcases toNat_ofNat_cases (c.toNat + found.shift).toNat with hvalue | hvalue <;> omega
    · rw [heq, List.mem_singleton] at h
      rw [h]
      omega

/-- What has a capital letter of ASCII as its capital form: the letter, large and small, the long
`s`, and the `i` without a dot. -/
lemma eq_of_upper_eq_singleton {c letter : Char} (hletter : 65 ≤ letter.toNat ∧ letter.toNat ≤ 90)
    (h : upper c = [letter]) :
    c = letter ∨ c = letter.toLower ∨ c = 'ſ' ∧ letter = 'S' ∨ c = 'ı' ∧ letter = 'I' := by
  unfold upper at h
  split at h
  · next hascii =>
    have hletters : c = c.toUpper ∨ c = c.toUpper.toLower :=
      forall_ascii (P := fun c => c = c.toUpper ∨ c = c.toUpper.toLower) (by decide +kernel) hascii
    rw [List.singleton_inj.1 h] at hletters
    exact hletters.imp_right Or.inl
  · next hbeyond =>
    have hlong : ∀ entry ∈ toUpperLong, 1 < entry.2.length := by decide +kernel
    have hruns : ∀ found ∈ toUpper, found.run.last + found.shift < 65 ∨
        90 < found.run.first + found.shift ∨
        found.run.first = 383 ∧ found.run.last = 383 ∧ found.shift = -300 ∨
        found.run.first = 305 ∧ found.run.last = 305 ∧ found.shift = -232 := by
      decide +kernel
    rcases mapBy_cases toUpper toUpperLong c with
      ⟨entry, hentry, _, heq⟩ | ⟨found, hfound, hholds, heq⟩ | heq
    · have hlength := congrArg List.length (heq.symm.trans h)
      rw [List.length_map, List.length_singleton] at hlength
      have hmore := hlong entry hentry
      omega
    · have hcode := eq_toNat_of_ofNat (List.singleton_inj.1 (heq.symm.trans h)) (by omega)
      have hends := CharRun.bounds_of_holds hholds
      rcases hruns found hfound with
        hbound | hbound | ⟨hfirst, hlast, hshift⟩ | ⟨hfirst, hlast, hshift⟩
      · omega
      · omega
      · refine .inr (.inr (.inl ⟨?_, ?_⟩)) <;> apply Char.toNat_inj.1
        · show c.toNat = 383
          omega
        · show letter.toNat = 83
          omega
      · refine .inr (.inr (.inr ⟨?_, ?_⟩)) <;> apply Char.toNat_inj.1
        · show c.toNat = 305
          omega
        · show letter.toNat = 73
          omega
    · exact .inl (List.singleton_inj.1 (heq.symm.trans h))

/-- What has the capital form `S`. -/
lemma upper_eq_singleton_s_iff {c : Char} : upper c = ['S'] ↔ c ∈ ['S', 's', 'ſ'] := by
  constructor
  · intro h
    rcases eq_of_upper_eq_singleton (by decide) h with rfl | rfl | ⟨rfl, _⟩ | ⟨_, hother⟩
    · decide
    · decide
    · decide
    · exact absurd hother (by decide)
  · intro h
    simp only [List.mem_cons, List.not_mem_nil, or_false] at h
    rcases h with rfl | rfl | rfl <;> decide +kernel

/-- What has the capital form `U`. -/
lemma upper_eq_singleton_u_iff {c : Char} : upper c = ['U'] ↔ c ∈ ['U', 'u'] := by
  constructor
  · intro h
    rcases eq_of_upper_eq_singleton (by decide) h with rfl | rfl | ⟨_, hother⟩ | ⟨_, hother⟩
    · decide
    · decide
    · exact absurd hother (by decide)
    · exact absurd hother (by decide)
  · intro h
    simp only [List.mem_cons, List.not_mem_nil, or_false] at h
    rcases h with rfl | rfl <;> decide +kernel

end SdkForge.Text
