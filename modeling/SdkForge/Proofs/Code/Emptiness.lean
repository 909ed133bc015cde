import SdkForge.Code.SourceFile
import SdkForge.Proofs.Fragment

/-!
# Fragments that write nothing

Whether a fragment writes nothing can be told from the fragment alone: it does not depend on the
level or the indentation.

* `Fragment.renderAt_eq_empty_iff` says that the test for it is exact.
* `Code.Sifted` is what becomes of a list of fragments that one more is added to, if that writes
  something.
* `Code.emptiness_exact` says what the test tells about a fragment, and which fragments files and
  implementations keep.
-/

namespace SdkForge

/-! ## Texts without characters -/

/-- Only a text without characters has no lines. -/
lemma Text.lines_eq_nil_iff {text : List Char} : lines text = [] ↔ text = [] := by
  constructor
  · intro h
    obtain ⟨hbefore, hlast⟩ := List.append_eq_nil_iff.1 h
    obtain ⟨piece, hpieces⟩ : ∃ piece, splitAll (· == '\n') text = [piece] := by
      rw [← List.length_eq_one_iff]
      have hlength := congrArg List.length hbefore
      have hpos := List.length_pos_iff.2 (splitAll_ne_nil (· == '\n') text)
      rw [List.length_map, List.length_dropLast, List.length_nil] at hlength
      omega
    -- the one piece is all of the text, and no line
    have htext := intercalate_splitAll '\n' text
    rw [hpieces, List.intercalate_singleton] at htext
    rw [hpieces] at hlast
    have hpiece : piece = [] := by simpa using hlast
    exact htext.symm.trans hpiece
  · rintro rfl
    exact lines_nil

lemma join_map_eq_empty_iff {α : Type} {l : List α} {text : α → String} :
    String.join (l.map text) = "" ↔ ∀ a ∈ l, text a = "" := by
  induction l with
  | nil => simp
  | cons a rest ih =>
    rw [List.map_cons, String.join_cons, String.append_eq_empty_iff, ih, List.forall_mem_cons]

/-- What ends with a line feed is not empty. -/
lemma append_newline_ne_empty (s : String) : s ++ "\n" ≠ "" := by
  simp

/-! ## The test for fragments -/

namespace Fragment

lemma allEmpty_iff {parts : List Fragment} :
    allEmpty parts = true ↔ ∀ f ∈ parts, f.isEmpty = true := by
  induction parts with
  | nil => simp [allEmpty]
  | cons f rest ih => rw [allEmpty, Bool.and_eq_true, ih, List.forall_mem_cons]

/-- The lines of a text are not empty, so that only a text without lines writes nothing. -/
lemma renderAt_text_eq_empty_iff (s : String) (i : Indent) (level : Nat) :
    (text s).renderAt i level = "" ↔ s = "" := by
  have hline : ∀ l, Writer.textLine l i level ≠ "" := by
    intro l
    unfold Writer.textLine
    split
    · decide
    · exact append_newline_ne_empty _
  rw [renderAt_text, join_map_eq_empty_iff]
  constructor
  · intro h
    have hnil : Text.lines s.toList = [] :=
      List.eq_nil_iff_forall_not_mem.2 fun l hl => hline l (h l hl)
    rwa [Text.lines_eq_nil_iff, String.toList_eq_nil_iff] at hnil
  · rintro rfl
    simp

/-- A documentation comment has a line even if its text has none. -/
lemma renderAt_doc_ne_empty (s : String) (i : Indent) (level : Nat) :
    (doc s).renderAt i level ≠ "" := by
  have hlines : Writer.docLines s ≠ [] := by
    unfold Writer.docLines
    split
    · exact List.cons_ne_nil _ _
    · next hempty => simpa [Text.lines_eq_nil_iff] using hempty
  obtain ⟨l, rest, hcons⟩ := List.exists_cons_of_ne_nil hlines
  rw [renderAt_doc, hcons, Ne, join_map_eq_empty_iff]
  intro h
  exact append_newline_ne_empty _ (h l List.mem_cons_self)

/-- The test is exact at every level and for every indentation. -/
theorem renderAt_eq_empty_iff (f : Fragment) (i : Indent) (level : Nat) :
    f.renderAt i level = "" ↔ f.isEmpty = true := by
  -- by the parts of the fragment, which can stand one level deeper
  induction f using Fragment.induction generalizing level with
  | line s =>
    rw [renderAt_line]
    exact iff_of_false (append_newline_ne_empty _) (by simp [isEmpty])
  | blank =>
    rw [renderAt_eq .blank Writer.writes_blank]
    exact iff_of_false (by decide) (by simp [isEmpty])
  | raw s => rw [renderAt_eq (.raw s) (Writer.writes_raw s), isEmpty, String.isEmpty_iff]
  | text s => rw [renderAt_text_eq_empty_iff, isEmpty, String.isEmpty_iff]
  | block header body close =>
    rw [renderAt_block, String.append_eq_empty_iff, String.append_eq_empty_iff]
    exact iff_of_false (fun h => append_newline_ne_empty _ h.1.1) (by simp [isEmpty])
  | indent body ih =>
    rw [renderAt_indent, join_map_eq_empty_iff, isEmpty, allEmpty_iff]
    exact forall₂_congr fun f hf => ih f hf (level + 1)
  | seq parts ih =>
    rw [renderAt_seq, join_map_eq_empty_iff, isEmpty, allEmpty_iff]
    exact forall₂_congr fun f hf => ih f hf level
  | doc s => exact iff_of_false (renderAt_doc_ne_empty s i level) (by simp [isEmpty])

variable {f : Fragment}

lemma text_put (w : Writer) (f : Fragment) :
    (w.put f).text = w.text ++ f.renderAt w.indent w.level := by
  have hput : w.put f = w.raw (f.renderAt w.indent w.level) := Writer.writes_put f w
  rw [hput, Writer.raw]

/-- A writer's text stays as it is exactly if the fragment is empty. -/
lemma text_put_eq_iff (w : Writer) : (w.put f).text = w.text ↔ f.isEmpty = true := by
  rw [text_put, ← renderAt_eq_empty_iff f w.indent w.level, String.append_eq_left_iff]

/-- It gets longer exactly if the fragment is not. -/
lemma length_lt_put_iff (w : Writer) :
    w.text.length < (w.put f).text.length ↔ f.isEmpty = false := by
  have hlength : 0 < (f.renderAt w.indent w.level).length ↔ f.renderAt w.indent w.level ≠ "" := by
    rw [Nat.pos_iff_ne_zero, Ne, String.length_eq_zero_iff]
  rw [text_put, String.length_append, ← Bool.not_eq_true,
    ← renderAt_eq_empty_iff f w.indent w.level, ← Ne, ← hlength]
  omega

end Fragment

/-! ## What is kept of fragments -/

namespace Code

/-- A list of fragments after one more was to be added: it is kept if it writes something, and
dropped if it writes nothing. -/
inductive Sifted (items : List Fragment) (f : Fragment) : List Fragment → Prop where
  | kept (hwrites : ∀ w : Writer, w.text.length < (w.put f).text.length) :
      Sifted items f (items ++ [f])
  | dropped (hsilent : ∀ w : Writer, (w.put f).text = w.text) : Sifted items f items

lemma sifted (items : List Fragment) (f : Fragment) :
    Sifted items f (if f.isEmpty then items else items ++ [f]) := by
  cases hempty : f.isEmpty with
  | true => exact .dropped fun w => (Fragment.text_put_eq_iff w).2 hempty
  | false => exact .kept fun w => (Fragment.length_lt_put_iff w).2 hempty

namespace SourceFile

/-- Adding items to a file keeps those that write something. -/
lemma body_addAll (file : SourceFile) (added : List Fragment) :
    file.addAll added = { file with body := file.body ++ added.filter (!·.isEmpty) } := by
  induction added generalizing file with
  | nil => simp [addAll]
  | cons f rest ih =>
    rw [addAll, List.foldl_cons]
    refine (ih (file.add f)).trans ?_
    cases hempty : f.isEmpty <;> simp [add, hempty]

end SourceFile

end Code

open Code

/-- The test for fragments that write nothing is exact: what it says of a fragment holds of every
writer, at whatever level and with whatever indentation, and it is enough that it holds of one. So
files and implementations keep the items that write at least one character, drop those that write
none, and change nothing else about themselves. -/
theorem emptiness_exact (f : Fragment) :
    (f.isEmpty = true ↔ ∀ w : Writer, (w.put f).text = w.text) ∧
    (f.isEmpty = true ↔ ∃ w : Writer, (w.put f).text = w.text) ∧
    (f.isEmpty = false ↔ ∀ w : Writer, w.text.length < (w.put f).text.length) ∧
    (∀ file : SourceFile, ∃ body, Sifted file.body f body ∧ file.add f = { file with body }) ∧
    (∀ file : SourceFile, ∃ attributes, Sifted file.attributes f attributes ∧
      file.addAttribute f = { file with attributes }) ∧
    (∀ block : Implementation, ∃ items, Sifted block.items f items ∧
      block.item f = { block with items }) ∧
    (∀ (file : SourceFile) (added : List Fragment),
      file.addAll added = { file with body := file.body ++ added.filter (!·.isEmpty) }) := by
  refine ⟨?_, ?_, ?_, fun file => ?_, fun file => ?_, fun block => ?_, SourceFile.body_addAll⟩
  · constructor
    · intro hempty w
      exact (Fragment.text_put_eq_iff w).2 hempty
    · intro hsilent
      exact (Fragment.text_put_eq_iff { indent := .standard }).1 (hsilent _)
  · constructor
    · intro hempty
      exact ⟨{ indent := .standard }, (Fragment.text_put_eq_iff _).2 hempty⟩
    · rintro ⟨w, hsilent⟩
      exact (Fragment.text_put_eq_iff w).1 hsilent
  · constructor
    · intro hempty w
      exact (Fragment.length_lt_put_iff w).2 hempty
    · intro hwrites
      exact (Fragment.length_lt_put_iff { indent := .standard }).1 (hwrites _)
  · refine ⟨_, sifted file.body f, ?_⟩
    rw [SourceFile.add]
    split <;> rfl
  · refine ⟨_, sifted file.attributes f, ?_⟩
    rw [SourceFile.addAttribute]
    split <;> rfl
  · refine ⟨_, sifted block.items f, ?_⟩
    rw [Implementation.item]
    split <;> rfl

end SdkForge
