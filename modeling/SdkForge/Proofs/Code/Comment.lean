import SdkForge.Code.SourceFile
import SdkForge.Proofs.Fragment

/-!
# Comments

Documentation is written as a comment: each line of its text stands after a mark, so that no line of
it can be taken for code.

* `IsComment` says that a text is a comment with a mark, and what the comment says.
* `SourceFile.render_eq_append` says that the documentation of a file stands before the rest of it.
* `documentation_is_comment` says that both kinds of documentation are comments that say their
  texts.
-/

namespace SdkForge

open Text

/-! ## Marked lines -/

/-- A line of a comment without its mark, and without the blank after the mark. -/
def dropMark (mark line : List Char) : List Char :=
  match line.drop mark.length with
  | ' ' :: rest => rest
  | rest => rest

/-- The text consists of the written lines. Each has the mark alone or the mark, a blank and a line
that the comment says, and without the marks they are what it says. -/
structure IsComment (mark : List Char) (said written : List (List Char)) (text : String) :
    Prop where
  isLines : IsLines text written
  ended : written ≠ [] → text.toList.getLast? = some '\n'
  marked : ∀ line ∈ written, line = mark ∨ ∃ l ∈ said, line = mark ++ ' ' :: l
  said_eq : written.map (dropMark mark) = said

variable {mark : String} {l : List Char}

lemma commentLine_eq (mark : String) (l : List Char) :
    (Writer.commentLine mark l).toList = mark.toList ++ if l = [] then [] else ' ' :: l := by
  rw [Writer.commentLine]
  split
  · exact (List.append_nil _).symm
  · simp

lemma dropMark_commentLine (before : List Char) (mark : String) (l : List Char) :
    dropMark (before ++ mark.toList) (before ++ (Writer.commentLine mark l).toList) = l := by
  have hdrop : (before ++ (Writer.commentLine mark l).toList).drop (before ++ mark.toList).length =
      if l = [] then [] else ' ' :: l := by
    rw [commentLine_eq, ← List.append_assoc, List.drop_left]
  rw [dropMark, hdrop]
  split_ifs with hl
  · exact hl.symm
  · rfl

/-- Lines with marks are a comment, if nothing in them holds a line feed. -/
lemma isComment_of_isLines (before : List Char) {said : List (List Char)} {text : String}
    (h : IsLines text (said.map fun l => before ++ (Writer.commentLine mark l).toList)) :
    IsComment (before ++ mark.toList) said (said.map fun l => before ++
      (Writer.commentLine mark l).toList) text where
  isLines := h
  ended := h.getLast?
  marked := by
    refine List.forall_mem_map.2 fun l hl => ?_
    rw [commentLine_eq]
    split
    · left
      rw [List.append_nil]
    · right
      exact ⟨l, hl, (List.append_assoc _ _ _).symm⟩
  said_eq := by
    rw [List.map_map]
    exact List.map_id'' (dropMark_commentLine before mark) said

/-! ## Documentation of items -/

/-- The documentation of an item is a comment. -/
theorem isComment_renderAt_doc {i : Indent} (hi : '\n' ∉ i.unit.toList) (level : Nat) (s : String) :
    ∃ written, IsComment ((i.atLevel level).toList ++ "///".toList) (Writer.docLines s) written
      ((Fragment.doc s).renderAt i level) := by
  have hlines := Fragment.isLines_renderAt (.doc s) hi level
  rw [Fragment.rows, List.map_map] at hlines
  exact ⟨_, isComment_of_isLines _ hlines⟩

/-! ## Documentation of files -/

namespace Code.SourceFile

lemma isLined_docLines (doc : String) : (docLines doc).IsLined := by
  refine .seq (List.forall_mem_map.2 fun l hl => .line ?_)
  exact Fragment.newline_notMem_commentLine (by decide) (newline_notMem_of_mem_lines hl)

lemma rows_docLines (doc : String) :
    (docLines doc).rows = (lines doc.toList).map fun l =>
      .code 0 (Writer.commentLine "//!" l).toList := by
  rw [docLines, Fragment.rows, Fragment.allRows_eq_flatMap, List.flatMap_map]
  exact List.map_eq_flatMap.symm

/-- The documentation of a file is a comment. -/
theorem isComment_renderAt_docLines (doc : String) :
    ∃ written, IsComment "//!".toList (lines doc.toList) written
      ((docLines doc).renderAt .standard 0) := by
  have hlines := Fragment.isLines_renderAt (isLined_docLines doc) (Indent.newline_notMem_spaces 4) 0
  rw [rows_docLines, List.map_map] at hlines
  exact ⟨_, isComment_of_isLines [] hlines⟩

lemma sections_eq_nil_iff (f : SourceFile) : f.sections = [] ↔ f.isEmpty = true := by
  cases hdoc : f.doc <;> cases hattributes : f.attributes <;>
    simp [sections, isEmpty, hdoc, hattributes]

/-- The documentation of a file stands before the rest of it, with an empty line between them. -/
theorem render_eq_append {f : SourceFile} {doc : String} (h : f.doc = some doc) : f.render =
    (docLines doc).renderAt .standard 0 ++
      if ({ f with doc := none } : SourceFile).isEmpty then ""
        else "\n" ++ ({ f with doc := none } : SourceFile).render := by
  have hsections : f.sections = docLines doc :: ({ f with doc := none } : SourceFile).sections := by
    simp [sections, h]
  show (Fragment.separated f.sections).renderAt .standard 0 = _
  rw [hsections, Fragment.renderAt_separated_cons]
  simp only [sections_eq_nil_iff]
  rfl

end Code.SourceFile

/-- Documentation cannot leave its comment. At every level and with every unit that holds no line
feed, what a writer adds for the documentation of an item is a comment whose mark stands after the
indentation. What a file has for its own documentation is a comment too, before the rest of the
file. Every line of either has the mark, and without the marks the lines are those of the text; for
an item without text there is one empty line. -/
theorem documentation_is_comment :
    (∀ (w : Writer) (s : String), '\n' ∉ w.indent.unit.toList → ∃ added written,
      w.doc s = { w with text := w.text ++ added } ∧
      IsComment ((w.indent.atLevel w.level).toList ++ "///".toList) (if s = "" then [[]]
        else lines s.toList) written added) ∧
    ∀ (f : Code.SourceFile) (doc : String), f.doc = some doc → ∃ added written,
      f.render = added ++ (if ({ f with doc := none } : Code.SourceFile).isEmpty then ""
        else "\n" ++ ({ f with doc := none } : Code.SourceFile).render) ∧
      IsComment "//!".toList (lines doc.toList) written added := by
  refine ⟨fun w s hi => ?_, fun f doc hdoc => ?_⟩
  · obtain ⟨written, hcomment⟩ := isComment_renderAt_doc hi w.level s
    simp only [Writer.docLines, String.isEmpty_iff] at hcomment
    exact ⟨_, written, Writer.writes_put (.doc s) w, hcomment⟩
  · obtain ⟨written, hcomment⟩ := Code.SourceFile.isComment_renderAt_docLines doc
    exact ⟨_, written, Code.SourceFile.render_eq_append hdoc, hcomment⟩

/-- A text with two kinds of line ends, an empty line in it and one at its end. -/
theorem documentation_is_comment_of_text :
    let doc := "a\r\n\npub b\n\n"
    let w : Writer := { indent := .spaces 2, level := 1 }
    let f : Code.SourceFile := { doc := some doc }
    '\n' ∉ w.indent.unit.toList ∧ f.doc = some doc ∧
    (∃ written, IsComment "  ///".toList ["a".toList, [], "pub b".toList, []] written
      (w.doc doc).text) ∧
    ∃ written, IsComment "//!".toList ["a".toList, [], "pub b".toList, []] written f.render := by
  intro doc w f
  have hlines : lines doc.toList = ["a".toList, [], "pub b".toList, []] := by decide
  have hi : '\n' ∉ w.indent.unit.toList := Indent.newline_notMem_spaces 2
  obtain ⟨added, written, hadded, hcomment⟩ := documentation_is_comment.1 w doc hi
  obtain ⟨first, fileWritten, hrender, hfile⟩ := documentation_is_comment.2 f doc rfl
  have htext : (w.doc doc).text = added := (congrArg Writer.text hadded).trans String.empty_append
  have hmark : (w.indent.atLevel w.level).toList ++ "///".toList = "  ///".toList := by decide
  have hfirst : f.render = first := hrender.trans String.append_empty
  rw [if_neg (by decide), hlines, hmark] at hcomment
  rw [hlines] at hfile
  exact ⟨hi, rfl, ⟨written, htext ▸ hcomment⟩, ⟨fileWritten, hfirst ▸ hfile⟩⟩

end SdkForge
