import SdkForge.Fragment
import SdkForge.Proofs.Text.Line

/-!
# Fragments at any level

A fragment adds a text to what is written before it, and leaves the level as it was. What it adds
depends on the level only.

* `Writer.Writes` says which text a step of a writer adds; steps one after the other, and steps at a
  deeper level, add what their parts do.
* `Writer.writes_put` says so of every fragment, with the text `Fragment.renderAt`.
* `Fragment.rows` lists the lines of a fragment, and `Fragment.toList_renderAt` says that they are
  what is written at each level.
* `fragments_compose` puts this together.
-/

namespace SdkForge

open Text

/-! ## Indentation -/

namespace Indent

lemma atLevel_succ (i : Indent) (level : Nat) :
    i.atLevel (level + 1) = i.unit ++ i.atLevel level := by
  rw [atLevel, List.replicate_succ, String.join_cons, atLevel]

lemma newline_notMem_atLevel {i : Indent} (h : '\n' ∉ i.unit.toList) (level : Nat) :
    '\n' ∉ (i.atLevel level).toList := by
  induction level with
  | zero => simp [atLevel]
  | succ level ih =>
    rw [atLevel_succ, String.toList_append, List.mem_append]
    exact not_or.2 ⟨h, ih⟩

lemma newline_notMem_spaces (width : Nat) : '\n' ∉ (spaces width).unit.toList := by
  rw [spaces, String.toList_ofList]
  intro h
  have hblank : '\n' = ' ' := List.eq_of_mem_replicate h
  contradiction

end Indent

/-! ## Steps of a writer -/

namespace Writer

variable {w : Writer} {run run' : Writer → Writer} {text text' : Indent → Nat → String}

lemma raw_raw (w : Writer) (s t : String) : (w.raw s).raw t = w.raw (s ++ t) := by
  simp [raw, String.append_assoc]

lemma raw_empty (w : Writer) : w.raw "" = w := by
  simp [raw]

/-- A step adds a text that the indentation and the level give, and leaves both as they are. -/
def Writes (run : Writer → Writer) (text : Indent → Nat → String) : Prop :=
  ∀ w, run w = w.raw (text w.indent w.level)

lemma writes_raw (s : String) : Writes (·.raw s) fun _ _ => s := fun _ => rfl

lemma writes_blank : Writes blank fun _ _ => "\n" := fun _ => rfl

lemma writes_line (s : String) : Writes (·.line s) fun i level => i.atLevel level ++ s ++ "\n" :=
  fun _ => rfl

lemma Writes.andThen (h : Writes run text) (h' : Writes run' text') :
    Writes (fun w => run' (run w)) fun i level => text i level ++ text' i level := by
  intro w
  show run' (run w) = _
  rw [h, h', raw_raw]
  rfl

/-- A step at a deeper level comes back to the level at which it began. -/
lemma Writes.deeper (h : Writes run text) :
    Writes (fun w => (run w.deeper).shallower) fun i level => text i (level + 1) := by
  intro w
  show (run w.deeper).shallower = _
  rw [h]
  rfl

lemma Writes.foldl {α : Type} {step : Writer → α → Writer} {text : α → Indent → Nat → String}
    {l : List α} (h : ∀ a ∈ l, Writes (step · a) (text a)) :
    Writes (l.foldl step ·) fun i level => String.join (l.map (text · i level)) := by
  induction l with
  | nil => exact fun w => (raw_empty w).symm
  | cons a rest ih =>
    obtain ⟨ha, hrest⟩ := List.forall_mem_cons.1 h
    have hboth := ha.andThen (ih hrest)
    intro w
    simp only [List.map_cons, String.join_cons]
    exact hboth w

lemma putAll_eq_foldl (w : Writer) (parts : List Fragment) :
    w.putAll parts = parts.foldl put w := by
  induction parts generalizing w with
  | nil => rfl
  | cons f rest ih => exact ih (w.put f)

/-! ## Fragments -/

/-- What a line of a text becomes: an empty line if it holds white space only. -/
def textLine (l : List Char) (i : Indent) (level : Nat) : String :=
  if allBlank l then "\n" else i.atLevel level ++ String.ofList l ++ "\n"

lemma writes_textLines (s : String) :
    Writes (·.textLines s) fun i level =>
      String.join ((lines s.toList).map (textLine · i level)) := by
  refine Writes.foldl fun l _ w => ?_
  rw [textLine]
  split <;> rfl

/-- The lines of a documentation comment, without their marks. An empty text has one, which is
empty. -/
def docLines (s : String) : List (List Char) := if s.isEmpty then [[]] else lines s.toList

lemma doc_eq_foldl (w : Writer) (s : String) :
    w.doc s = (docLines s).foldl (fun w l => w.line (commentLine "///" l)) w := by
  unfold doc docLines
  split <;> rfl

lemma writes_doc (s : String) : Writes (·.doc s) fun i level =>
    String.join ((docLines s).map fun l => i.atLevel level ++ commentLine "///" l ++ "\n") := by
  simp only [doc_eq_foldl]
  exact Writes.foldl fun l _ => writes_line (commentLine "///" l)

end Writer

namespace Fragment

/-- The text of a fragment that stands at a level. -/
def renderAt (f : Fragment) (i : Indent) (level : Nat) : String :=
  (({ indent := i, level } : Writer).put f).text

/-- To prove something of every fragment, it is enough to prove it of a fragment where its parts
have it. -/
theorem induction {P : Fragment → Prop} (line : ∀ s, P (.line s)) (blank : P .blank)
    (raw : ∀ s, P (.raw s)) (text : ∀ s, P (.text s))
    (block : ∀ header body close, (∀ f ∈ body, P f) → P (.block header body close))
    (indent : ∀ body, (∀ f ∈ body, P f) → P (.indent body))
    (seq : ∀ parts, (∀ f ∈ parts, P f) → P (.seq parts)) (doc : ∀ s, P (.doc s)) : ∀ f, P f :=
  Fragment.rec line blank raw text (fun header body close h => block header body close h)
    (fun body h => indent body h) (fun parts h => seq parts h) doc (List.forall_mem_nil _)
    (fun _ _ hf hrest => List.forall_mem_cons.2 ⟨hf, hrest⟩)

/-- What a step adds for a fragment is the text of the fragment. -/
lemma renderAt_eq (f : Fragment) {text : Indent → Nat → String} (h : Writer.Writes (·.put f) text)
    (i : Indent) (level : Nat) :
    f.renderAt i level = text i level := by
  have hempty :
      ({ indent := i, level } : Writer).put f =
        ({ indent := i, level } : Writer).raw (text i level) := h _
  rw [renderAt, hempty]
  exact String.empty_append

end Fragment

/-- The closing line of a block, if there is one. -/
def Fragment.closing (close : Option String) (i : Indent) (level : Nat) : String :=
  match close with
  | some s => i.atLevel level ++ s ++ "\n"
  | none => ""

namespace Writer

/-- Fragments one after the other add their texts, if each adds its own. -/
lemma writes_putAll {parts : List Fragment} (h : ∀ f ∈ parts, Writes (·.put f) f.renderAt) :
    Writes (·.putAll parts) fun i level => String.join (parts.map (·.renderAt i level)) := by
  simp only [putAll_eq_foldl]
  exact Writes.foldl h

/-- A block adds its header, its parts one level deeper, and its closing line. -/
lemma writes_block (header : String) {body : List Fragment} (close : Option String)
    (h : ∀ f ∈ body, Writes (·.put f) f.renderAt) :
    Writes (·.put (.block header body close)) fun i level =>
      i.atLevel level ++ header ++ "\n" ++ String.join (body.map (·.renderAt i (level + 1))) ++
        Fragment.closing close i level := by
  have hbody := (writes_line header).andThen (writes_putAll h).deeper
  cases close with
  | none =>
    simp only [Fragment.closing, String.append_empty]
    exact hbody
  | some s => exact hbody.andThen (writes_line s)

/-- Every fragment adds its text. -/
theorem writes_put (f : Fragment) : Writes (·.put f) f.renderAt := by
  have hof : ∀ {text : Indent → Nat → String} {f : Fragment}, Writes (·.put f) text →
      Writes (·.put f) f.renderAt := by
    intro text f h w
    rw [Fragment.renderAt_eq f h]
    exact h w
  induction f using Fragment.induction with
  | line s => exact hof (writes_line s)
  | blank => exact hof writes_blank
  | raw s => exact hof (writes_raw s)
  | text s => exact hof (writes_textLines s)
  | block header body close ih => exact hof (writes_block header close ih)
  | indent body ih => exact hof (writes_putAll ih).deeper
  | seq parts ih => exact hof (writes_putAll ih)
  | doc s => exact hof (writes_doc s)

end Writer

/-! ## Lines of a fragment -/

/-- A line that a fragment writes. -/
inductive Row where
  /-- An empty line, which has no indentation. -/
  | gap
  /-- A text that stands some levels deeper than the fragment. -/
  | code (depth : Nat) (text : List Char)

namespace Row

variable {i : Indent} {level : Nat}

def isGap : Row → Bool
  | gap => true
  | code .. => false

/-- What stands in the line after the indentation. -/
def text : Row → List Char
  | gap => []
  | code _ text => text

/-- The line one level deeper. -/
def deeper : Row → Row
  | gap => gap
  | code depth text => code (depth + 1) text

@[simp] lemma text_deeper (row : Row) : row.deeper.text = row.text := by
  cases row <;> rfl

/-- The line as it stands in a fragment at a level. -/
def write (i : Indent) (level : Nat) : Row → List Char
  | gap => []
  | code depth text => (i.atLevel (level + depth)).toList ++ text

@[simp] lemma write_gap : gap.write i level = [] := rfl

@[simp] lemma write_code (depth : Nat) (text : List Char) :
    (code depth text).write i level = (i.atLevel (level + depth)).toList ++ text := rfl

@[simp] lemma write_deeper (row : Row) : row.deeper.write i level = row.write i (level + 1) := by
  cases row with
  | gap => rfl
  | code depth text => rw [deeper, write_code, write_code, Nat.add_right_comm, Nat.add_assoc]

@[simp] lemma map_write_deeper (rows : List Row) :
    (rows.map deeper).map (·.write i level) = rows.map (·.write i (level + 1)) := by
  simp

/-- One level deeper, a line has one more unit of indentation unless it is a gap. -/
lemma write_succ (row : Row) : row.write i (level + 1) =
    if row.isGap then row.write i level else i.unit.toList ++ row.write i level := by
  cases row with
  | gap => rfl
  | code depth text => simp [isGap, Nat.add_right_comm level 1 depth, Indent.atLevel_succ]

lemma newline_notMem_write {row : Row} (hi : '\n' ∉ i.unit.toList) (h : '\n' ∉ row.text) :
    '\n' ∉ row.write i level := by
  cases row with
  | gap => exact List.not_mem_nil
  | code depth text =>
    exact List.mem_append.not.2 (not_or.2 ⟨Indent.newline_notMem_atLevel hi _, h⟩)

end Row

namespace Fragment

mutual
/-- The lines of a fragment. The gaps are the lines of `blank` and the lines of a `text` that hold
white space only. -/
def rows : Fragment → List Row
  | .line s => [.code 0 s.toList]
  | .blank => [.gap]
  | .raw _ => []
  | .text s => (Text.lines s.toList).map fun l => if allBlank l then .gap else .code 0 l
  | .block header body close =>
    .code 0 header.toList :: (allRows body).map .deeper ++
      (close.map fun s => Row.code 0 s.toList).toList
  | .indent body => (allRows body).map .deeper
  | .seq parts => allRows parts
  | .doc s => (Writer.docLines s).map fun l => .code 0 (Writer.commentLine "///" l).toList
/-- The lines of fragments one after the other. -/
def allRows : List Fragment → List Row
  | [] => []
  | f :: rest => f.rows ++ allRows rest
end

/-- The fragment writes whole lines: nothing in it is raw, and no text that stands for one line
holds a line feed. -/
inductive IsLined : Fragment → Prop
  | line {s : String} (h : '\n' ∉ s.toList) : IsLined (.line s)
  | blank : IsLined .blank
  | text (s : String) : IsLined (.text s)
  | block {header : String} {body : List Fragment} {close : Option String}
      (hheader : '\n' ∉ header.toList) (hbody : ∀ f ∈ body, IsLined f)
      (hclose : ∀ s ∈ close, '\n' ∉ s.toList) : IsLined (.block header body close)
  | indent {body : List Fragment} (h : ∀ f ∈ body, IsLined f) : IsLined (.indent body)
  | seq {parts : List Fragment} (h : ∀ f ∈ parts, IsLined f) : IsLined (.seq parts)
  | doc (s : String) : IsLined (.doc s)

variable {f : Fragment} {i : Indent} {level : Nat}

section Texts

variable (i : Indent) (level : Nat)

lemma renderAt_line (s : String) : (line s).renderAt i level = i.atLevel level ++ s ++ "\n" :=
  renderAt_eq (.line s) (Writer.writes_line s) i level

lemma renderAt_text (s : String) :
    (text s).renderAt i level =
      String.join ((Text.lines s.toList).map (Writer.textLine · i level)) :=
  renderAt_eq (.text s) (Writer.writes_textLines s) i level

lemma renderAt_doc (s : String) : (doc s).renderAt i level =
    String.join ((Writer.docLines s).map fun l => i.atLevel level ++
      Writer.commentLine "///" l ++ "\n") :=
  renderAt_eq (.doc s) (Writer.writes_doc s) i level

lemma renderAt_block (header : String) (body : List Fragment) (close : Option String) :
    (block header body close).renderAt i level =
      i.atLevel level ++ header ++ "\n" ++ String.join (body.map (·.renderAt i (level + 1))) ++
        closing close i level :=
  renderAt_eq (.block header body close) (Writer.writes_block header close fun f _ =>
    Writer.writes_put f) i level

lemma renderAt_indent (body : List Fragment) :
    (indent body).renderAt i level = String.join (body.map (·.renderAt i (level + 1))) :=
  renderAt_eq (.indent body) (Writer.writes_putAll fun f _ => Writer.writes_put f).deeper i level

lemma renderAt_seq (parts : List Fragment) :
    (seq parts).renderAt i level = String.join (parts.map (·.renderAt i level)) :=
  renderAt_eq (.seq parts) (Writer.writes_putAll fun f _ => Writer.writes_put f) i level

end Texts

/-- Parts with an empty line between neighbours: the first one, and the others after an empty line
if there are any. -/
lemma renderAt_separated_cons (first : Fragment) (rest : List Fragment) :
    (separated (first :: rest)).renderAt i level = first.renderAt i level ++ if rest = [] then ""
      else "\n" ++ (separated rest).renderAt i level := by
  cases rest with
  | nil => simp [separated, renderAt_seq]
  | cons second more =>
    have hblank : blank.renderAt i level = "\n" := renderAt_eq .blank Writer.writes_blank i level
    simp [separated, renderAt_seq, hblank]

lemma allRows_eq_flatMap (parts : List Fragment) : allRows parts = parts.flatMap rows := by
  induction parts with
  | nil => rfl
  | cons f rest ih => rw [allRows, ih, List.flatMap_cons]

/-- Texts that end with a line feed are lines when they are joined. -/
lemma toList_join {α : Type} {l : List α} {text : α → String} {line : α → List Char}
    (h : ∀ a ∈ l, (text a).toList = line a ++ ['\n']) :
    (String.join (l.map text)).toList = unlines (l.map line) := by
  induction l with
  | nil => rfl
  | cons a rest ih =>
    obtain ⟨ha, hrest⟩ := List.forall_mem_cons.1 h
    rw [List.map_cons, List.map_cons, String.join_cons, String.toList_append, ha, ih hrest,
      unlines_cons, ← List.append_cons]

lemma toList_join_renderAt {parts : List Fragment}
    (h : ∀ f ∈ parts, (f.renderAt i level).toList = unlines (f.rows.map (·.write i level))) :
    (String.join (parts.map (·.renderAt i level))).toList =
      unlines ((allRows parts).map (·.write i level)) := by
  induction parts with
  | nil => rfl
  | cons f rest ih =>
    obtain ⟨hf, hrest⟩ := List.forall_mem_cons.1 h
    rw [List.map_cons, String.join_cons, String.toList_append, hf, ih hrest, allRows,
      List.map_append, unlines_append]

lemma toList_closing (close : Option String) :
    (closing close i level).toList =
      unlines ((close.map fun s => Row.code 0 s.toList).toList.map (·.write i level)) := by
  cases close <;> simp [closing, unlines]

/-- A fragment of whole lines writes its lines, each where the level puts it. -/
theorem toList_renderAt (h : f.IsLined) (i : Indent) (level : Nat) :
    (f.renderAt i level).toList = unlines (f.rows.map (·.write i level)) := by
  induction h generalizing level with
  | line _ => simp [renderAt_line, rows, unlines]
  | blank =>
    rw [renderAt_eq .blank Writer.writes_blank]
    rfl
  | text s =>
    rw [renderAt_text, rows, List.map_map]
    refine toList_join fun l _ => ?_
    rw [Writer.textLine, Function.comp_apply]
    split <;> simp
  | doc s =>
    rw [renderAt_doc, rows, List.map_map]
    refine toList_join fun l _ => ?_
    simp
  | block _ _ _ ih =>
    have hbody := toList_join_renderAt fun f hf => ih f hf (level + 1)
    rw [renderAt_block, String.toList_append, String.toList_append, hbody, toList_closing, rows,
      List.map_append, List.map_cons, Row.map_write_deeper, unlines_append, unlines_cons]
    simp
  | indent _ ih =>
    rw [renderAt_indent, toList_join_renderAt fun f hf => ih f hf (level + 1), rows,
      Row.map_write_deeper]
  | seq _ ih => rw [renderAt_seq, toList_join_renderAt fun f hf => ih f hf level, rows]

lemma newline_notMem_commentLine {mark : String} (hmark : '\n' ∉ mark.toList) {l : List Char}
    (hl : '\n' ∉ l) :
    '\n' ∉ (Writer.commentLine mark l).toList := by
  rw [Writer.commentLine]
  split
  · exact hmark
  · simp [hmark, hl]

lemma newline_notMem_of_mem_docLines {s : String} {l : List Char} (h : l ∈ Writer.docLines s) :
    '\n' ∉ l := by
  rw [Writer.docLines] at h
  split at h
  · rw [List.mem_singleton.1 h]
    exact List.not_mem_nil
  · exact newline_notMem_of_mem_lines h

/-- No line of such a fragment holds a line feed. -/
lemma newline_notMem_text (h : f.IsLined) : ∀ row ∈ f.rows, '\n' ∉ row.text := by
  have hall : ∀ {parts : List Fragment}, (∀ f ∈ parts, ∀ row ∈ f.rows, '\n' ∉ row.text) →
      ∀ row ∈ allRows parts, '\n' ∉ row.text := by
    intro parts hparts row hrow
    rw [allRows_eq_flatMap] at hrow
    obtain ⟨f, hf, hrow⟩ := List.mem_flatMap.1 hrow
    exact hparts f hf row hrow
  induction h with
  | line h => exact List.forall_mem_singleton.2 h
  | blank => exact List.forall_mem_singleton.2 List.not_mem_nil
  | text s =>
    refine List.forall_mem_map.2 fun l hl => ?_
    split
    · exact List.not_mem_nil
    · exact newline_notMem_of_mem_lines hl
  | doc s =>
    exact List.forall_mem_map.2 fun l hl =>
      newline_notMem_commentLine (by decide) (newline_notMem_of_mem_docLines hl)
  | @block header body close hheader _ hclose ih =>
    refine List.forall_mem_append.2
      ⟨List.forall_mem_cons.2 ⟨hheader, List.forall_mem_map.2 fun row hrow => ?_⟩,
        fun row hrow => ?_⟩
    · rw [Row.text_deeper]
      exact hall ih row hrow
    · obtain ⟨s, hs, rfl⟩ := Option.map_eq_some_iff.1 (Option.mem_toList.1 hrow)
      exact hclose s hs
  | indent _ ih =>
    refine List.forall_mem_map.2 fun row hrow => ?_
    rw [Row.text_deeper]
    exact hall ih row hrow
  | seq _ ih => exact hall ih

/-- The lines of a fragment are the lines of its text. -/
theorem isLines_renderAt (h : f.IsLined) (hi : '\n' ∉ i.unit.toList) (level : Nat) :
    IsLines (f.renderAt i level) (f.rows.map (·.write i level)) :=
  isLines_iff.2 ⟨toList_renderAt h i level, List.forall_mem_map.2 fun row hrow =>
    Row.newline_notMem_write hi (newline_notMem_text h row hrow)⟩

end Fragment

/-- Fragments compose, and know nothing of where they stand. What is written for a fragment follows
what was written before and does not depend on it, and the level is the same afterwards; a sequence
writes what its parts write. A fragment of whole lines has the same lines at the next level, with
one more unit before each that is neither a blank line nor, in a text, one of white space only. They
are the lines of the text where the unit holds no line feed, as is the case for blanks and for the
tab. -/
theorem fragments_compose :
    (∀ (f : Fragment) (w : Writer),
      w.put f = { w with text := w.text ++ f.renderAt w.indent w.level }) ∧
    (∀ parts i level, (Fragment.seq parts).renderAt i level =
      String.join (parts.map (·.renderAt i level))) ∧
    ∀ (f : Fragment) (i : Indent) level, f.IsLined →
      (f.renderAt i level).toList = unlines (f.rows.map (·.write i level)) ∧
      (f.renderAt i (level + 1)).toList = unlines (f.rows.map fun row =>
        if row.isGap then row.write i level else i.unit.toList ++ row.write i level) ∧
      ('\n' ∉ i.unit.toList → IsLines (f.renderAt i level) (f.rows.map (·.write i level))) := by
  refine ⟨Writer.writes_put, fun parts i level => Fragment.renderAt_seq i level parts,
    fun f i level hf => ?_⟩
  have hdeeper := Fragment.toList_renderAt hf i (level + 1)
  simp only [Row.write_succ] at hdeeper
  exact ⟨Fragment.toList_renderAt hf i level, hdeeper,
    fun hi => Fragment.isLines_renderAt hf hi level⟩

/-- A function at level one, and at level two. -/
theorem fragments_compose_of_function :
    let f : Fragment := .braced "fn f() \x7b" [.doc "", .text "a();\n \nb();", .blank]
    f.IsLined ∧ '\n' ∉ (Indent.spaces 2).unit.toList ∧
    (f.renderAt (.spaces 2) 1).toList =
      "  fn f() \x7b\n    ///\n    a();\n\n    b();\n\n  \x7d\n".toList ∧
    (f.renderAt (.spaces 2) 2).toList =
      "    fn f() \x7b\n      ///\n      a();\n\n      b();\n\n    \x7d\n".toList ∧
    IsLines (f.renderAt (.spaces 2) 1) (f.rows.map (·.write (.spaces 2) 1)) := by
  intro f
  have hbody : ∀ part ∈ [Fragment.doc "", .text "a();\n \nb();", .blank], part.IsLined := by
    simp [Fragment.IsLined.doc, Fragment.IsLined.text, Fragment.IsLined.blank]
  have hf : f.IsLined := .block (by decide) hbody (by decide)
  have hi := Indent.newline_notMem_spaces 2
  obtain ⟨hat, hdeeper, hlines⟩ := fragments_compose.2.2 f (.spaces 2) 1 hf
  exact ⟨hf, hi, hat.trans (by decide), hdeeper.trans (by decide), hlines hi⟩

end SdkForge
