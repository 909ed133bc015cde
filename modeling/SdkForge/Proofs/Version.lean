import SdkForge.Proofs.Outcome
import SdkForge.Proofs.Text.Split
import SdkForge.Version

/-!
# Versions read and written

A version is written as its three numbers with points between them. A text that is read as a version
may also have plus signs and zeros in front of its numbers, and these are not written again.

* `parse_eq_ok_iff` says which texts are read as a version.
* `parse_toString` says that a version is read again from the text that is written for it.
* `toString_eq_iff` says that a text is written again for the version that was read from it exactly
  if it has no such signs and zeros.
* `parse_toString_iff_canonical` puts this together.
-/

namespace SdkForge.Version

open Outcome

/-! ## Texts of versions -/

/-- The text has decimal digits, at least one, and they write the number `n`. -/
structure IsDigits (text : List Char) (n : Nat) : Prop where
  ne_nil : text ≠ []
  isDigit : ∀ c ∈ text, c.isDigit = true
  value : Nat.ofDigitChars 10 text 0 = n

/-- The text has the digits of a number, and may have a plus sign in front of them. -/
def IsNumber (text : List Char) (n : Nat) : Prop :=
  IsDigits text n ∨ ∃ digits, text = '+' :: digits ∧ IsDigits digits n

/-- The text has the digits of a number of 32 bits, with no sign and no needless zeros in front of
them. -/
def IsCanonicalNumber (text : List Char) : Prop :=
  (text.head? = some '0' → text = ['0']) ∧ ∃ n ≤ 4294967295, IsDigits text n

/-- Three pieces with points between them. -/
def pointed (x y z : List Char) : List Char := x ++ '.' :: (y ++ '.' :: z)

/-- The text has the numbers of the version. -/
def IsTextOf (text : String) (v : Version) : Prop :=
  ∃ x y z, text.toList = pointed x y z ∧ IsNumber x v.major.toNat ∧ IsNumber y v.minor.toNat ∧
    IsNumber z v.patch.toNat

/-- The text is `X.Y.Z`, for numbers of 32 bits without signs and needless zeros. -/
def IsCanonical (text : String) : Prop :=
  ∃ x y z, text.toList = pointed x y z ∧ IsCanonicalNumber x ∧ IsCanonicalNumber y ∧
    IsCanonicalNumber z

variable {part digits x y z : List Char} {text : String} {n : Nat} {v : Version}

/-! ## Digits -/

lemma isDigits_toDigits (n : Nat) : IsDigits (Nat.toDigits 10 n) n where
  ne_nil := Nat.toDigits_ne_nil
  isDigit _ := Nat.isDigit_of_mem_toDigits (by decide) (by decide)
  value := Nat.ofDigitChars_ten_toDigits

/-- A digit is written for its value. -/
lemma digitChar_of_isDigit {c : Char} (h : c.isDigit = true) :
    c.toNat - '0'.toNat < 10 ∧ (c.toNat - '0'.toNat).digitChar = c := by
  have hbounds := Char.isDigit_iff_toNat.1 h
  simp only [show '0'.toNat = 48 from rfl, show '9'.toNat = 57 from rfl] at hbounds ⊢
  have hlt : c.toNat - 48 < 10 := by omega
  refine ⟨hlt, Char.toNat_inj.1 ?_⟩
  rw [Nat.toNat_digitChar_of_lt_ten hlt]
  omega

/-- Digits after a number that is not zero are written again after it. -/
lemma toDigits_ofDigitChars_of_pos (hdigits : ∀ c ∈ digits, c.isDigit = true) (hpos : 0 < n) :
    Nat.toDigits 10 (Nat.ofDigitChars 10 digits n) = Nat.toDigits 10 n ++ digits := by
  induction digits generalizing n with
  | nil => simp
  | cons c rest ih =>
    obtain ⟨hlt, hchar⟩ := digitChar_of_isDigit (hdigits c List.mem_cons_self)
    have hrest : ∀ d ∈ rest, d.isDigit = true := fun d hd => hdigits d (List.mem_cons_of_mem _ hd)
    rw [Nat.ofDigitChars_cons, ih hrest (by omega),
      ← Nat.toDigits_append_toDigits (by decide) hpos hlt, Nat.toDigits_of_lt_base hlt, hchar,
      List.append_assoc]
    rfl

/-- The only number with a zero in front is zero. -/
lemma eq_zero_of_head?_toDigits (h : (Nat.toDigits 10 n).head? = some '0') : n = 0 := by
  induction n using Nat.strongRecOn with
  | ind n ih =>
    rw [Nat.toDigits_eq_if (by decide)] at h
    split at h
    · next hsmall =>
      rw [List.head?_singleton, Option.some_inj] at h
      exact Nat.digitChar_eq_zero.1 h
    · next hlarge =>
      have hquotient : n / 10 = 0 := by
        apply ih (n / 10) (by omega)
        cases hdigits : Nat.toDigits 10 (n / 10) with
        | nil => exact absurd hdigits Nat.toDigits_ne_nil
        | cons first rest => simpa [hdigits] using h
      omega

/-- The digits of a number are written again exactly if there is no needless zero in front of
them. -/
lemma IsDigits.toDigits_eq_iff (h : IsDigits digits n) :
    Nat.toDigits 10 n = digits ↔ (digits.head? = some '0' → digits = ['0']) := by
  constructor
  · intro heq hhead
    rw [← heq] at hhead ⊢
    rw [eq_zero_of_head?_toDigits hhead, Nat.toDigits_zero]
  · intro hcanonical
    obtain ⟨hne, hdigits, rfl⟩ := h
    cases digits with
    | nil => contradiction
    | cons c rest =>
      obtain ⟨hlt, hchar⟩ := digitChar_of_isDigit (hdigits c List.mem_cons_self)
      by_cases hzero : c = '0'
      · rw [hcanonical (congrArg some hzero)]
        rfl
      · have hpos : 0 < c.toNat - '0'.toNat := by
          rw [Nat.pos_iff_ne_zero]
          intro hvalue
          rw [hvalue] at hchar
          exact hzero hchar.symm
        have hrest : ∀ d ∈ rest, d.isDigit = true :=
          fun d hd => hdigits d (List.mem_cons_of_mem _ hd)
        rw [Nat.ofDigitChars_cons, Nat.mul_zero, Nat.zero_add,
          toDigits_ofDigitChars_of_pos hrest hpos, Nat.toDigits_of_lt_base hlt, hchar]
        rfl

/-! ## Numbers -/

lemma readDigits_eq_some_iff : readDigits digits = some n ↔ IsDigits digits n := by
  cases digits with
  | nil => exact iff_of_false (by simp [readDigits]) fun h => h.ne_nil rfl
  | cons c rest =>
    have hvalue :
        (c :: rest).foldl (fun n c => 10 * n + (c.toNat - 48)) 0 =
          Nat.ofDigitChars 10 (c :: rest) 0 :=
      Nat.ofDigitChars_eq_foldl.symm
    simp only [readDigits, hvalue]
    split
    · next hall =>
      rw [Option.some_inj]
      exact ⟨fun h => ⟨List.cons_ne_nil _ _, List.all_eq_true.1 hall, h⟩, fun h => h.value⟩
    · next hall =>
      exact iff_of_false (by simp) fun h => hall (List.all_eq_true.2 h.isDigit)

lemma IsDigits.notMem (h : IsDigits digits n) {c : Char} (hc : c.isDigit = false) : c ∉ digits := by
  intro hmem
  rw [h.isDigit c hmem] at hc
  contradiction

lemma readNumber_eq_some_iff {n : UInt32} : readNumber part = some n ↔ IsNumber part n.toNat := by
  have hbounded :
      ∀ digits, ((readDigits digits).bind fun n => if n < UInt32.size then
        some (UInt32.ofNat n) else none) = some n ↔
      IsDigits digits n.toNat := by
    intro digits
    rw [Option.bind_eq_some_iff]
    constructor
    · rintro ⟨m, hread, hm⟩
      split at hm
      · next hlt =>
        rw [← Option.some.inj hm, UInt32.toNat_ofNat_of_lt' hlt]
        exact readDigits_eq_some_iff.1 hread
      · contradiction
    · intro h
      refine ⟨n.toNat, readDigits_eq_some_iff.2 h, ?_⟩
      rw [if_pos n.toNat_lt, UInt32.ofNat_toNat]
  unfold readNumber
  dsimp only
  rw [hbounded, IsNumber]
  split
  · next rest =>
    have hplus : ¬IsDigits ('+' :: rest) n.toNat := fun h => h.notMem (by decide) List.mem_cons_self
    simp [hplus]
  · next hplus =>
    have hnone : ¬∃ digits, part = '+' :: digits ∧ IsDigits digits n.toNat :=
      fun ⟨digits, heq, _⟩ => hplus digits heq
    simp [hnone]

lemma IsNumber.point_notMem (h : IsNumber part n) : '.' ∉ part := by
  rcases h with h | ⟨digits, rfl, h⟩
  · exact h.notMem (by decide)
  · exact List.not_mem_cons_of_ne_of_not_mem (by decide) (h.notMem (by decide))

/-- The digits of a number are the part that it was read from exactly if this has no sign and no
needless zero. -/
lemma IsNumber.toDigits_eq_iff (h : IsNumber part n) (hn : n ≤ 4294967295) :
    Nat.toDigits 10 n = part ↔ IsCanonicalNumber part := by
  rcases h with h | ⟨digits, rfl, h⟩
  · rw [h.toDigits_eq_iff]
    exact ⟨fun hhead => ⟨hhead, n, hn, h⟩, fun hcanonical => hcanonical.1⟩
  · have hplus : ∀ m, ¬IsDigits ('+' :: digits) m :=
      fun m h => h.notMem (by decide) List.mem_cons_self
    refine iff_of_false (fun heq => ?_) fun ⟨_, m, _, hm⟩ => hplus m hm
    exact hplus n (heq ▸ isDigits_toDigits n)

/-! ## Versions -/

lemma splitAll_eq_iff : Text.splitAll (· == '.') digits = [x, y, z] ↔ digits = pointed x y z ∧
    '.' ∉ x ∧ '.' ∉ y ∧ '.' ∉ z := by
  have hjoin : List.intercalate ['.'] [x, y, z] = pointed x y z := by
    simp [List.intercalate_cons_cons, pointed]
  constructor
  · intro h
    have hpieces : ∀ piece ∈ [x, y, z], '.' ∉ piece := by
      intro piece hmem
      exact Text.notMem_of_mem_splitAll (h ▸ hmem)
    rw [← Text.intercalate_splitAll '.' digits, h, hjoin]
    simpa using hpieces
  · rintro ⟨rfl, hx, hy, hz⟩
    rw [Text.splitAll_eq_splitOn, ← hjoin]
    exact List.splitOn_intercalate '.' (by simp [hx, hy, hz]) (List.cons_ne_nil _ _)

lemma readPart_eq_ok_iff {name : Part} {n : UInt32} :
    readPart name part = .ok n ↔ IsNumber part n.toNat := by
  rw [readPart, elim_eq_ok, readNumber_eq_some_iff]

/-- The texts that are read as a version. -/
theorem parse_eq_ok_iff : parse text = .ok v ↔ IsTextOf text v := by
  unfold parse
  constructor
  · intro h
    split at h
    · next x y z hsplit =>
      simp only [bind_eq_ok, pure_eq_ok, readPart_eq_ok_iff] at h
      obtain ⟨major, hmajor, minor, hminor, patch, hpatch, rfl⟩ := h
      exact ⟨x, y, z, (splitAll_eq_iff.1 hsplit).1, hmajor, hminor, hpatch⟩
    · contradiction
  · rintro ⟨x, y, z, htext, hx, hy, hz⟩
    have hsplit : Text.splitAll (· == '.') text.toList = [x, y, z] :=
      splitAll_eq_iff.2 ⟨htext, hx.point_notMem, hy.point_notMem, hz.point_notMem⟩
    rw [hsplit]
    simp only [bind_eq_ok, pure_eq_ok, readPart_eq_ok_iff]
    exact ⟨v.major, hx, v.minor, hy, v.patch, hz, rfl⟩

lemma toList_toString (v : Version) : (toString v).toList =
    pointed (Nat.toDigits 10 v.major.toNat) (Nat.toDigits 10 v.minor.toNat)
      (Nat.toDigits 10 v.patch.toNat) := by
  have hnumber : ∀ n : UInt32, (toString n).toList = Nat.toDigits 10 n.toNat := by
    intro n
    show (toString n.toNat).toList = _
    rw [Nat.toString_eq_ofList_toDigits, String.toList_ofList]
  show (Version.toString v).toList = _
  simp [Version.toString, hnumber, pointed, show (toString ".").toList = ['.'] from rfl]

lemma isTextOf_toString (v : Version) : IsTextOf (toString v) v :=
  ⟨_, _, _, toList_toString v, .inl (isDigits_toDigits _), .inl (isDigits_toDigits _),
    .inl (isDigits_toDigits _)⟩

/-- A version is read from what is written for it. -/
theorem parse_toString (v : Version) : parse (toString v) = .ok v :=
  parse_eq_ok_iff.2 (isTextOf_toString v)

/-- Three pieces without points are told apart again. -/
lemma pointed_inj {x' y' z' : List Char} (h : '.' ∉ x ∧ '.' ∉ y ∧ '.' ∉ z)
    (h' : '.' ∉ x' ∧ '.' ∉ y' ∧ '.' ∉ z') :
    pointed x y z = pointed x' y' z' ↔ x = x' ∧ y = y' ∧ z = z' := by
  constructor
  · intro heq
    have hsplit := (splitAll_eq_iff.2 ⟨rfl, h⟩).symm.trans (splitAll_eq_iff.2 ⟨heq, h'⟩)
    simpa using hsplit
  · rintro ⟨rfl, rfl, rfl⟩
    rfl

lemma IsCanonicalNumber.point_notMem (h : IsCanonicalNumber part) : '.' ∉ part := by
  obtain ⟨_, _, _, hdigits⟩ := h
  exact hdigits.notMem (by decide)

/-- A text is written again for the version that was read from it exactly if it is canonical. -/
theorem toString_eq_iff (h : parse text = .ok v) : toString v = text ↔ IsCanonical text := by
  obtain ⟨x, y, z, htext, hx, hy, hz⟩ := parse_eq_ok_iff.1 h
  have hpoints : '.' ∉ x ∧ '.' ∉ y ∧ '.' ∉ z := ⟨hx.point_notMem, hy.point_notMem, hz.point_notMem⟩
  have hnumbers : toString v = text ↔ IsCanonicalNumber x ∧ IsCanonicalNumber y ∧
      IsCanonicalNumber z := by
    have hbound : ∀ n : UInt32, n.toNat ≤ 4294967295 := fun n => Nat.le_of_lt_succ n.toNat_lt
    have hdigits : ∀ n, '.' ∉ Nat.toDigits 10 n := fun n => (isDigits_toDigits n).notMem (by decide)
    rw [← String.toList_inj, toList_toString, htext,
      pointed_inj ⟨hdigits _, hdigits _, hdigits _⟩ hpoints, hx.toDigits_eq_iff (hbound _),
      hy.toDigits_eq_iff (hbound _), hz.toDigits_eq_iff (hbound _)]
  rw [hnumbers]
  constructor
  · intro hcanonical
    exact ⟨x, y, z, htext, hcanonical⟩
  · rintro ⟨x', y', z', htext', hx', hy', hz'⟩
    have hparts :=
      (pointed_inj hpoints ⟨hx'.point_notMem, hy'.point_notMem, hz'.point_notMem⟩).1
        (htext.symm.trans htext')
    obtain ⟨rfl, rfl, rfl⟩ := hparts
    exact ⟨hx', hy', hz'⟩

lemma IsCanonicalNumber.exists_isNumber (h : IsCanonicalNumber part) :
    ∃ n : UInt32, IsNumber part n.toNat := by
  obtain ⟨_, n, hn, hdigits⟩ := h
  have hlt : n < UInt32.size := Nat.lt_succ_of_le hn
  refine ⟨UInt32.ofNat n, .inl ?_⟩
  rwa [UInt32.toNat_ofNat_of_lt' hlt]

lemma exists_parse_of_isCanonical (h : IsCanonical text) : ∃ v, parse text = .ok v := by
  obtain ⟨x, y, z, htext, hx, hy, hz⟩ := h
  obtain ⟨major, hmajor⟩ := hx.exists_isNumber
  obtain ⟨minor, hminor⟩ := hy.exists_isNumber
  obtain ⟨patch, hpatch⟩ := hz.exists_isNumber
  exact ⟨⟨major, minor, patch⟩, parse_eq_ok_iff.2 ⟨x, y, z, htext, hmajor, hminor, hpatch⟩⟩

/-- Every version is read again from the text that is written for it, and a text is written again
for the version that is read from it if and only if it is canonical. What is read beyond that has a
plus sign or a needless zero. -/
theorem parse_toString_iff_canonical (v : Version) (text : String) :
    parse (toString v) = .ok v ∧ (parse text = .ok v ↔ IsTextOf text v) ∧
      (IsCanonical text ↔ ∃ v, parse text = .ok v ∧ toString v = text) := by
  refine ⟨parse_toString v, parse_eq_ok_iff, ?_⟩
  constructor
  · intro hcanonical
    obtain ⟨v, hv⟩ := exists_parse_of_isCanonical hcanonical
    exact ⟨v, hv, (toString_eq_iff hv).2 hcanonical⟩
  · rintro ⟨v, hv, hwritten⟩
    exact (toString_eq_iff hv).1 hwritten

/-- A zero or a plus sign in front of a number is read, and lost. -/
theorem not_toString_of_zero_or_plus :
    parse "01.2.3" = .ok ⟨1, 2, 3⟩ ∧ parse "+1.2.3" = .ok ⟨1, 2, 3⟩ ∧
    toString (⟨1, 2, 3⟩ : Version) = "1.2.3" := by
  decide

end SdkForge.Version
