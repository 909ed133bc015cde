import Mathlib.Tactic.Common
import SdkForge.Toml.Reader

/-!
# Readers go forward

Every reader of a document gives back an end of its text. `Leaves n text rest` says so, and that the
reader took at least `n` characters: a string takes its quotes and a character for each of its own
(`leaves_of_readString`).
-/

namespace SdkForge.Toml

/-- After at least `n` characters, `rest` is left of the text. -/
def Leaves (n : Nat) (text rest : List Char) : Prop :=
  ∃ taken, text = taken ++ rest ∧ n ≤ taken.length

variable {m n fuel room : Nat} {c quote : Char} {text mid rest read chars : List Char}

/-! ## Ends of texts -/

lemma leaves_refl (text : List Char) : Leaves 0 text text := ⟨[], rfl, Nat.zero_le _⟩

lemma Leaves.cons (h : Leaves n text rest) (c : Char) : Leaves (n + 1) (c :: text) rest := by
  obtain ⟨taken, rfl, hn⟩ := h
  exact ⟨c :: taken, rfl, Nat.succ_le_succ hn⟩

lemma Leaves.trans (h : Leaves m text mid) (h' : Leaves n mid rest) : Leaves (m + n) text rest := by
  obtain ⟨taken, rfl, hm⟩ := h
  obtain ⟨taken', rfl, hn⟩ := h'
  refine ⟨taken ++ taken', (List.append_assoc ..).symm, ?_⟩
  rw [List.length_append]
  omega

lemma Leaves.of_le (h : Leaves n text rest) (hle : m ≤ n) : Leaves m text rest := by
  obtain ⟨taken, htext, hn⟩ := h
  exact ⟨taken, htext, Nat.le_trans hle hn⟩

lemma Leaves.suffix (h : Leaves n text rest) : rest <:+ text := by
  obtain ⟨taken, rfl, _⟩ := h
  exact List.suffix_append _ _

lemma Leaves.length_le (h : Leaves n text rest) : rest.length + n ≤ text.length := by
  obtain ⟨taken, rfl, hn⟩ := h
  rw [List.length_append]
  omega

lemma leaves_dropWhile (p : Char → Bool) (text : List Char) : Leaves 0 text (text.dropWhile p) :=
  ⟨text.takeWhile p, List.takeWhile_append_dropWhile.symm, Nat.zero_le _⟩

lemma leaves_drop (h : n ≤ text.length) : Leaves n text (text.drop n) :=
  ⟨text.take n, (List.take_append_drop n text).symm, by rw [List.length_take]; omega⟩

/-! ## Blanks, comments and line ends -/

lemma leaves_skipSpace (text : List Char) : Leaves 0 text (skipSpace text) := leaves_dropWhile _ _

lemma leaves_of_lineEnd? (h : lineEnd? text = some rest) : Leaves 1 text rest := by
  unfold lineEnd? at h
  split at h
  · obtain rfl := Option.some.inj h
    exact (leaves_refl _).cons _
  · obtain rfl := Option.some.inj h
    exact (((leaves_refl _).cons _).cons _).of_le (by decide)
  · contradiction

lemma leaves_skipComment (text : List Char) : Leaves 0 text (skipComment text) := by
  have hspace := leaves_skipSpace text
  unfold skipComment
  split
  · next rest heq =>
    rw [heq] at hspace
    exact (hspace.trans ((leaves_dropWhile isPrintable rest).cons '#')).of_le (Nat.zero_le _)
  · exact hspace

lemma leaves_skipLines (fuel : Nat) (text : List Char) : Leaves 0 text (skipLines fuel text) := by
  induction fuel generalizing text with
  | zero => exact leaves_refl text
  | succ fuel ih =>
    have hcomment := leaves_skipComment text
    rw [skipLines]
    split
    · next rest hend =>
        exact ((hcomment.trans (leaves_of_lineEnd? hend)).trans (ih rest)).of_le (Nat.zero_le _)
    · exact hcomment

lemma leaves_skipBlankLines (fuel : Nat) (text : List Char) :
    Leaves 0 text (skipBlankLines fuel text) := by
  induction fuel generalizing text with
  | zero => exact leaves_refl text
  | succ fuel ih =>
    have hspace := leaves_skipSpace text
    rw [skipBlankLines]
    split
    · next rest hend =>
        exact ((hspace.trans (leaves_of_lineEnd? hend)).trans (ih rest)).of_le (Nat.zero_le _)
    · exact hspace

/-! ## Strings -/

lemma leaves_of_readCode {width : Nat} (h : readCode width text = some (c, rest)) :
    Leaves 0 text rest := by
  unfold readCode at h
  split at h
  · contradiction
  · next hlength =>
    simp only [Option.bind_eq_bind, Option.bind_eq_some_iff] at h
    obtain ⟨_, _, _, _, h⟩ := h
    rw [← (Prod.mk.inj (Option.some.inj h)).2]
    exact (leaves_drop (Nat.le_of_not_lt hlength)).of_le (Nat.zero_le _)

lemma leaves_of_readEscape (h : readEscape text = some (c, rest)) : Leaves 1 text rest := by
  unfold readEscape at h
  split at h
  case h_12 => contradiction
  all_goals first
    | exact (leaves_of_readCode h).cons _
    | (rw [← (Prod.mk.inj (Option.some.inj h)).2]
       exact (leaves_refl _).cons _)

/-- Each character of a string on one line takes one character at least, and so does the quote that
ends it. -/
lemma leaves_of_readBasic (h : readBasic fuel read text = some (chars, rest)) :
    ∃ count, chars.length = read.length + count ∧ Leaves (count + 1) text rest := by
  induction fuel generalizing read text with
  | zero => simp [readBasic] at h
  | succ fuel ih =>
    -- However a character is written, the readers after it count one character more.
    have hnext : ∀ {c mid}, Leaves 1 text mid →
        readBasic fuel (c :: read) mid = some (chars, rest) →
        ∃ count, chars.length = read.length + count ∧ Leaves (count + 1) text rest := by
      intro c mid hmid hread
      obtain ⟨count, hlength, hrest⟩ := ih hread
      refine ⟨count + 1, ?_, (hmid.trans hrest).of_le (by omega)⟩
      rw [hlength, List.length_cons]
      omega
    unfold readBasic at h
    split at h
    · next heq =>
      obtain ⟨rfl, rfl⟩ := Prod.mk.inj (Option.some.inj h)
      exact ⟨0, List.length_reverse, (leaves_refl _).cons _⟩
    · next heq =>
      simp only [Option.bind_eq_bind, Option.bind_eq_some_iff] at h
      obtain ⟨⟨c, mid⟩, hescape, h⟩ := h
      exact hnext (((leaves_of_readEscape hescape).cons _).of_le (by omega)) (Nat.succ.inj heq ▸ h)
    · next heq =>
      split at h
      · exact hnext ((leaves_refl _).cons _) (Nat.succ.inj heq ▸ h)
      · contradiction
    · contradiction

lemma leaves_of_readLiteral (h : readLiteral text = some (chars, rest)) :
    Leaves (chars.length + 1) text rest := by
  unfold readLiteral at h
  dsimp only at h
  split at h
  · next more hquote =>
    obtain ⟨rfl, rfl⟩ := Prod.mk.inj (Option.some.inj h)
    refine ⟨text.takeWhile (fun c => isPrintable c && c != '\'') ++ ['\''], ?_, ?_⟩
    · rw [List.append_assoc, List.singleton_append, ← hquote, List.takeWhile_append_dropWhile]
    · rw [List.length_append]
      exact Nat.le_refl _
  · contradiction

lemma leaves_of_readClosing (h : readClosing quote text = some (chars, rest)) :
    Leaves (chars.length + 3) text rest := by
  unfold readClosing at h
  dsimp only at h
  split at h
  · contradiction
  · next hquotes =>
    obtain ⟨rfl, rfl⟩ := Prod.mk.inj (Option.some.inj h)
    have htake := (List.takeWhile_prefix (· == quote) (l := text)).length_le
    rw [List.length_replicate]
    exact leaves_drop (by omega)

/-- Each character of a string over several lines takes one character at least, and the end takes
three. -/
lemma leaves_of_readLong (h : readLong quote fuel read text = some (chars, rest)) :
    ∃ count, chars.length = read.length + count ∧ Leaves (count + 3) text rest := by
  induction fuel generalizing read text with
  | zero => simp [readLong] at h
  | succ fuel ih =>
    have hskip : ∀ {mid}, Leaves 0 text mid → readLong quote fuel read mid = some (chars, rest) →
        ∃ count, chars.length = read.length + count ∧ Leaves (count + 3) text rest := by
      intro mid hmid hread
      obtain ⟨count, hlength, hrest⟩ := ih hread
      exact ⟨count, hlength, (hmid.trans hrest).of_le (by omega)⟩
    have hnext : ∀ {c mid}, Leaves 1 text mid →
        readLong quote fuel (c :: read) mid = some (chars, rest) →
        ∃ count, chars.length = read.length + count ∧ Leaves (count + 3) text rest := by
      intro c mid hmid hread
      obtain ⟨count, hlength, hrest⟩ := ih hread
      refine ⟨count + 1, ?_, (hmid.trans hrest).of_le (by omega)⟩
      rw [hlength, List.length_cons]
      omega
    cases text with
    | nil => simp [readLong] at h
    | cons c more =>
      have hone : Leaves 1 (c :: more) more := (leaves_refl _).cons _
      rw [readLong] at h
      split at h
      · split at h
        · next inside _ hclosing =>
          obtain ⟨rfl, rfl⟩ := Prod.mk.inj (Option.some.inj h)
          exact ⟨inside.length, by rw [List.length_append,
            List.length_reverse], leaves_of_readClosing hclosing⟩
        · exact hnext hone h
      · split at h
        · split at h
          · next mid hend =>
            have hblank := (leaves_of_lineEnd? hend).trans (leaves_skipBlankLines mid.length mid)
            exact hskip ((hone.trans ((leaves_skipSpace more).trans hblank)).of_le (by omega)) h
          · simp only [Option.bind_eq_bind, Option.bind_eq_some_iff] at h
            obtain ⟨⟨escaped, mid⟩, hescape, h⟩ := h
            exact hnext ((hone.trans (leaves_of_readEscape hescape)).of_le (by omega)) h
        · split at h
          · exact hnext hone h
          · split at h
            · exact hnext hone h
            · contradiction

lemma leaves_dropFirstLineEnd (text : List Char) : Leaves 0 text (dropFirstLineEnd text) := by
  unfold dropFirstLineEnd
  cases hend : lineEnd? text with
  | none => exact leaves_refl text
  | some rest => exact (leaves_of_lineEnd? hend).of_le (Nat.zero_le _)

/-- A string takes its quotes, and a character for each of its own. -/
theorem leaves_of_readString {s : String} (h : readString text = some (s, rest)) :
    Leaves (s.length + 2) text rest := by
  obtain ⟨⟨chars, rest⟩, hread, heq⟩ := Option.map_eq_some_iff.1 h
  obtain ⟨rfl, rfl⟩ := Prod.mk.inj heq
  rw [String.length_ofList]
  have hlong : ∀ {quote c₁ c₂ c₃ more fuel}, readLong quote fuel [] (dropFirstLineEnd more) =
      some (chars, rest) →
      Leaves (chars.length + 2) (c₁ :: c₂ :: c₃ :: more) rest := by
    intro quote c₁ c₂ c₃ more fuel hread
    obtain ⟨count, hlength, hrest⟩ := leaves_of_readLong hread
    have hmore := (leaves_dropFirstLineEnd more).trans hrest
    rw [hlength, List.length_nil]
    exact (((hmore.cons c₃).cons c₂).cons c₁).of_le (by omega)
  split at hread
  · exact hlong hread
  · exact hlong hread
  · obtain ⟨count, hlength, hrest⟩ := leaves_of_readBasic hread
    rw [hlength, List.length_nil]
    exact (hrest.cons _).of_le (by omega)
  · exact (leaves_of_readLiteral hread).cons _
  · contradiction

/-! ## Keys -/

lemma leaves_of_readKeyPart {part : String} (h : readKeyPart text = some (part, rest)) :
    Leaves 0 text rest := by
  unfold readKeyPart at h
  split at h
  · obtain ⟨⟨_, _⟩, hread, heq⟩ := Option.map_eq_some_iff.1 h
    obtain ⟨rfl, rfl⟩ := Prod.mk.inj heq
    obtain ⟨_, _, hrest⟩ := leaves_of_readBasic hread
    exact (hrest.cons _).of_le (Nat.zero_le _)
  · obtain ⟨⟨_, _⟩, hread, heq⟩ := Option.map_eq_some_iff.1 h
    obtain ⟨rfl, rfl⟩ := Prod.mk.inj heq
    exact ((leaves_of_readLiteral hread).cons _).of_le (Nat.zero_le _)
  · dsimp only at h
    split at h
    · contradiction
    · rw [← (Prod.mk.inj (Option.some.inj h)).2]
      exact leaves_dropWhile _ _

lemma leaves_of_readKeyParts {key : List String × String}
    (h : readKeyParts fuel text = some (key, rest)) :
    Leaves 0 text rest := by
  induction fuel generalizing key text with
  | zero => simp [readKeyParts] at h
  | succ fuel ih =>
    simp only [readKeyParts, Option.bind_eq_bind, Option.bind_eq_some_iff] at h
    obtain ⟨⟨part, mid⟩, hpart, h⟩ := h
    have hmid :=
      ((leaves_skipSpace text).trans (leaves_of_readKeyPart hpart)).trans (leaves_skipSpace mid)
    split at h
    · next more heq =>
      simp only [Option.bind_eq_some_iff] at h
      obtain ⟨⟨⟨_, _⟩, _⟩, hmore, h⟩ := h
      obtain ⟨rfl, rfl⟩ := Prod.mk.inj (Option.some.inj h)
      rw [heq] at hmid
      exact (hmid.trans ((ih hmore).cons '.')).of_le (Nat.zero_le _)
    · rw [← (Prod.mk.inj (Option.some.inj h)).2]
      exact hmid

lemma leaves_of_readKey {key : List String × String} (h : readKey text = some (key, rest)) :
    Leaves 0 text rest :=
  leaves_of_readKeyParts (Option.filter_eq_some_iff.1 h).1

/-! ## Words and marks -/

lemma leaves_readWord (text : List Char) : Leaves 0 text (readWord text).2 := by
  have hword := leaves_dropWhile isWordChar text
  unfold readWord
  dsimp only
  split
  · next c more heq =>
    split
    · rw [heq] at hword
      exact (hword.trans ((leaves_dropWhile isWordChar (c :: more)).cons ' ')).of_le (Nat.zero_le _)
    · exact hword
  · exact hword

lemma leaves_of_skip? (h : skip? c text = some rest) : Leaves 1 text rest := by
  unfold skip? at h
  split at h
  · split at h
    · obtain rfl := Option.some.inj h
      exact (leaves_refl _).cons _
    · contradiction
  · contradiction

end SdkForge.Toml
