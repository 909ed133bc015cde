import SdkForge.Crate.Assembly
import SdkForge.Proofs.Code.Emptiness
import SdkForge.Proofs.Outcome

/-!
# Declarations in the files of a crate

All that is written for a type stands in the file of its module, and so does its declaration.

* `Text.BeginsLine` says that a piece of a text stands at the beginning of a line.
* `Crate.Definition.heading` is how the declaration of a type begins, and
  `Crate.Definition.beginsLine_heading` says that it is among the code for the type.
* `Crate.Blueprint.exists_definition_of_typeFile` follows this code into the module's text, and
  `Crate.Blueprint.exists_file_of_files` follows the text into the files of the crate.
-/

namespace SdkForge

/-! ## Pieces at the beginning of a line -/

namespace Text

variable {s t piece text : List Char}

/-- What follows the text begins a line: the text is empty, or ends with a line feed. -/
def EndsLine (text : List Char) : Prop := ∀ c ∈ text.getLast?, c = '\n'

/-- A piece stands in a text, from the beginning of a line on. -/
def BeginsLine (piece text : List Char) : Prop :=
  ∃ before after, EndsLine before ∧ text = before ++ piece ++ after

lemma EndsLine.nil : EndsLine [] := by
  simp [EndsLine]

lemma endsLine_newline (s : List Char) : EndsLine (s ++ ['\n']) := by
  simp [EndsLine]

lemma EndsLine.append (hs : EndsLine s) (ht : EndsLine t) : EndsLine (s ++ t) := by
  intro c hc
  rw [List.getLast?_append, Option.mem_def, Option.or_eq_some_iff] at hc
  rcases hc with hc | ⟨_, hc⟩
  · exact ht c hc
  · exact hs c hc

lemma endsLine_unlines (ls : List (List Char)) : EndsLine (unlines ls) := by
  induction ls with
  | nil => exact .nil
  | cons l rest ih => exact (endsLine_newline l).append ih

lemma BeginsLine.at_start (h : piece <+: text) : BeginsLine piece text := by
  obtain ⟨after, rfl⟩ := h
  exact ⟨[], after, .nil, rfl⟩

/-- A piece of a piece stands in the text too. -/
lemma BeginsLine.trans {inner : List Char} (hinner : BeginsLine inner piece)
    (h : BeginsLine piece text) : BeginsLine inner text := by
  obtain ⟨first, last, hfirst, rfl⟩ := hinner
  obtain ⟨before, after, hbefore, rfl⟩ := h
  exact ⟨before ++ first, last ++ after, hbefore.append hfirst, by simp only [List.append_assoc]⟩

lemma BeginsLine.append_left (h : BeginsLine piece text) (hs : EndsLine s) :
    BeginsLine piece (s ++ text) := by
  obtain ⟨before, after, hbefore, rfl⟩ := h
  exact ⟨s ++ before, after, hs.append hbefore, by simp only [List.append_assoc]⟩

lemma BeginsLine.ne_nil (h : BeginsLine piece text) (hpiece : piece ≠ []) : text ≠ [] := by
  obtain ⟨before, after, -, rfl⟩ := h
  exact List.append_ne_nil_of_left_ne_nil (List.append_ne_nil_of_right_ne_nil _ hpiece) _

end Text

open Text

/-! ## Parts of fragments -/

namespace Fragment

variable {f : Fragment} {parts : List Fragment}

lemma render_eq (f : Fragment) : f.render = f.renderAt .standard 0 := rfl

/-- A part that stands after whole lines begins a line. -/
lemma beginsLine_seq {before after : List Fragment}
    (hbefore : ∀ g ∈ before, EndsLine g.render.toList) :
    BeginsLine f.render.toList (seq (before ++ f :: after)).render.toList := by
  rw [render_eq (seq _), renderAt_seq]
  induction before with
  | nil =>
    refine .at_start ?_
    rw [List.nil_append, List.map_cons, String.join_cons, String.toList_append]
    exact List.prefix_append _ _
  | cons g rest ih =>
    obtain ⟨hg, hrest⟩ := List.forall_mem_cons.1 hbefore
    rw [List.cons_append, List.map_cons, String.join_cons, String.toList_append]
    exact (ih hrest).append_left hg

/-- Each of the parts with an empty line between neighbours begins a line, the first one since
nothing stands before it. -/
lemma beginsLine_separated (hmem : f ∈ parts) :
    BeginsLine f.render.toList (separated parts).render.toList := by
  induction parts with
  | nil => contradiction
  | cons first rest ih =>
    rw [render_eq (separated _), renderAt_separated_cons, String.toList_append]
    rcases List.mem_cons.1 hmem with rfl | hmem
    · exact .at_start (List.prefix_append _ _)
    · rw [if_neg (List.ne_nil_of_mem hmem), String.toList_append, ← List.append_assoc]
      exact (ih hmem).append_left (endsLine_newline _)

lemma beginsLine_line (s : String) : BeginsLine s.toList (line s).render.toList := by
  refine .at_start ?_
  rw [render_eq, renderAt_line, String.toList_append, String.toList_append]
  exact ⟨_, rfl⟩

lemma beginsLine_block (header : String) (body : List Fragment) (close : Option String) :
    BeginsLine header.toList (block header body close).render.toList := by
  refine .at_start ?_
  simp only [render_eq, renderAt_block, String.toList_append, List.append_assoc]
  exact ⟨_, rfl⟩

lemma endsLine_line (s : String) : EndsLine (line s).render.toList := by
  rw [render_eq, renderAt_line, String.toList_append]
  exact endsLine_newline _

/-- Documentation, derived instances and attributes are whole lines. -/
lemma endsLine_preamble {doc : Option String} {derives : List String}
    {attributes : List Code.Attribute} :
    ∀ g ∈ Code.preamble doc derives attributes, EndsLine g.render.toList := by
  intro g hg
  rcases List.mem_append.1 hg with hg | hg
  · rcases List.mem_append.1 hg with hg | hg
    · obtain ⟨s, -, rfl⟩ := Option.map_eq_some_iff.1 (Option.mem_toList.1 hg)
      rw [render_eq, toList_renderAt (.doc s)]
      exact endsLine_unlines _
    · split at hg
      · contradiction
      · rw [List.mem_singleton.1 hg]
        exact endsLine_line _
  · obtain ⟨a, -, rfl⟩ := List.mem_map.1 hg
    exact endsLine_line _

end Fragment

/-! ## Declarations -/

namespace Code

/-- What is public has one more word before it. -/
lemma Visibility.apply_everywhere (rest : String) : everywhere.apply rest = "pub " ++ rest := by
  show "pub" ++ " " ++ rest = _
  rw [← String.toList_inj]
  simp

/-- A structure's declaration opens a brace even if the structure has no fields. -/
lemma StructDecl.beginsLine_fragment {d : StructDecl} (hpublic : d.visibility = .everywhere) :
    BeginsLine ("pub struct " ++ d.name ++ " \x7b").toList d.fragment.render.toList := by
  have hheader : "pub struct " ++ d.name ++ " \x7b" =
      d.visibility.apply s!"struct {d.name}" ++ " \x7b" := by
    rw [hpublic, Visibility.apply_everywhere, ← String.toList_inj]
    show _ = ("pub " ++ ("struct " ++ d.name) ++ " \x7b").toList
    simp
  rw [hheader]
  refine BeginsLine.trans ?_ (Fragment.beginsLine_seq Fragment.endsLine_preamble)
  split
  · exact Fragment.beginsLine_block _ _ _
  · refine BeginsLine.trans (.at_start ?_) (Fragment.beginsLine_line _)
    simp only [String.toList_append, List.prefix_append_right_inj]
    decide

lemma EnumDecl.beginsLine_fragment {d : EnumDecl} (hpublic : d.visibility = .everywhere) :
    BeginsLine ("pub enum " ++ d.name ++ " \x7b").toList d.fragment.render.toList := by
  have hheader : "pub enum " ++ d.name ++ " \x7b" =
      d.visibility.apply s!"enum {d.name}" ++ " \x7b" := by
    rw [hpublic, Visibility.apply_everywhere, ← String.toList_inj]
    show _ = ("pub " ++ ("enum " ++ d.name) ++ " \x7b").toList
    simp
  rw [hheader]
  exact (Fragment.beginsLine_block _ _ _).trans
    (Fragment.beginsLine_seq Fragment.endsLine_preamble)

/-- A declaration in one line, after the instances that are derived for it. -/
lemma beginsLine_after_derives (doc : Option String) (derives declaration : String) :
    BeginsLine declaration.toList
      (Fragment.seq (preamble doc [] [] ++ [.line derives, .line declaration])).render.toList := by
  rw [List.append_cons]
  refine (Fragment.beginsLine_line _).trans (Fragment.beginsLine_seq ?_)
  exact List.forall_mem_append.2
    ⟨Fragment.endsLine_preamble, List.forall_mem_singleton.2 (Fragment.endsLine_line _)⟩

end Code

/-! ## Definitions -/

namespace Crate

variable {b : Blueprint} {m : TypeModule} {shape : Shape} {symbol : Symbol} {made : Definition}

namespace Definition

/-- How the declaration of a type with a name begins. -/
def heading (name : String) : Definition → String
  | .record _ => "pub struct " ++ name ++ " \x7b"
  | .union _ | .stringEnum _ => "pub enum " ++ name ++ " \x7b"
  | .checkedString _ => "pub struct " ++ name ++ "(String);"
  | .operation _ => "pub struct " ++ name ++ ";"

lemma heading_ne_nil (name : String) : (made.heading name).toList ≠ [] := by
  cases made <;> simp [heading]

/-- A record is public and has the name of its symbol. -/
lemma decl_of_record {r : Record} (h : Record.ofShape b shape symbol = .ok r) :
    r.decl.visibility = .everywhere ∧ r.decl.name = symbol.name := by
  simp only [Record.ofShape, Outcome.bind_eq_ok, Outcome.pure_eq_ok] at h
  obtain ⟨_, -, rfl⟩ := h
  exact ⟨rfl, rfl⟩

lemma decl_of_union {d : Code.EnumDecl} (h : unionDecl b shape symbol = .ok d) :
    d.visibility = .everywhere ∧ d.name = symbol.name := by
  simp only [unionDecl, Outcome.bind_eq_ok, Outcome.pure_eq_ok] at h
  obtain ⟨_, -, rfl⟩ := h
  exact ⟨rfl, rfl⟩

lemma name_of_checkedString {c : CheckedString}
    (h : CheckedString.ofShape b shape symbol = .ok c) : c.name = symbol.name := by
  unfold CheckedString.ofShape at h
  split at h
  · contradiction
  · split at h
    · obtain rfl := Except.ok.inj h
      rfl
    · contradiction

/-- The code for a shape's type declares it, under the name of its symbol. -/
theorem beginsLine_heading (h : ofShape b shape symbol = .ok made) :
    BeginsLine (made.heading symbol.name).toList made.fragment.render.toList := by
  unfold ofShape at h
  split at h
  · obtain ⟨r, hr, hmade⟩ := Outcome.bind_eq_ok.1 h
    obtain rfl := Outcome.pure_eq_ok.1 hmade
    obtain ⟨hpublic, hname⟩ := decl_of_record hr
    rw [← hname]
    exact (Code.StructDecl.beginsLine_fragment hpublic).trans
      (Fragment.beginsLine_separated List.mem_cons_self)
  · obtain ⟨d, hd, hmade⟩ := Outcome.bind_eq_ok.1 h
    obtain rfl := Outcome.pure_eq_ok.1 hmade
    obtain ⟨hpublic, hname⟩ := decl_of_union hd
    rw [← hname]
    exact Code.EnumDecl.beginsLine_fragment hpublic
  · split at h
    · next values _ =>
      obtain rfl := Except.ok.inj h
      generalize he : StringEnum.ofValues symbol shape.traits.documentation values = e
      have hname : e.decl.name = symbol.name := by
        rw [← he]
        rfl
      rw [← hname]
      exact (Code.EnumDecl.beginsLine_fragment (d := e.decl) rfl).trans
        (Fragment.beginsLine_separated List.mem_cons_self)
    · obtain ⟨c, hc, hmade⟩ := Outcome.bind_eq_ok.1 h
      obtain rfl := Outcome.pure_eq_ok.1 hmade
      rw [← name_of_checkedString hc]
      exact (Code.beginsLine_after_derives _ _ _).trans
        (Fragment.beginsLine_separated List.mem_cons_self)
  · obtain rfl := Except.ok.inj h
    exact (Code.beginsLine_after_derives _ _ _).trans
      (Fragment.beginsLine_separated List.mem_cons_self)
  · contradiction

lemma isEmpty_fragment (h : ofShape b shape symbol = .ok made) : made.fragment.isEmpty = false := by
  have hne := (beginsLine_heading h).ne_nil (heading_ne_nil _)
  rw [← Bool.not_eq_true, ← Fragment.renderAt_eq_empty_iff _ .standard 0, ← Fragment.render_eq]
  exact fun hempty => hne (String.toList_eq_nil_iff.2 hempty)

end Definition

/-! ## Files -/

/-- The file of a module holds all that is written for a type that the module defines. -/
theorem Blueprint.exists_definition_of_typeFile {text : String} (hfile : b.typeFile m = .ok text)
    (hmem : (shape, symbol) ∈ b.definedIn m) :
    ∃ definitions, b.definitions m = .ok definitions ∧ ∃ made ∈ definitions,
      Definition.ofShape b shape symbol = .ok made ∧
      BeginsLine (made.heading symbol.name).toList made.fragment.render.toList ∧
      BeginsLine made.fragment.render.toList text.toList := by
  simp only [typeFile, Outcome.bind_eq_ok, Outcome.pure_eq_ok] at hfile
  obtain ⟨definitions, hdefinitions, rfl⟩ := hfile
  obtain ⟨made, hmade, hof⟩ := Outcome.exists_mem_of_mapM hdefinitions hmem
  refine ⟨definitions, hdefinitions, made, hmade, hof, Definition.beginsLine_heading hof, ?_⟩
  refine Fragment.beginsLine_separated ?_
  rw [Code.SourceFile.body_addAll]
  refine List.mem_append_right _ (List.mem_append_right _ (List.mem_filter.2 ⟨?_, ?_⟩))
  · exact List.mem_map_of_mem hmade
  · rw [Definition.isEmpty_fragment hof]
    rfl

lemma sourcePath_eq (m : TypeModule) : sourcePath m.name = s!"src/{m.name}.rs" := by
  cases m <;> rfl

/-- The files of a crate have the text of each module that holds types, where the module is. -/
theorem Blueprint.exists_file_of_files {files : FileSet} (h : b.files = .ok files)
    (m : TypeModule) :
    ∃ file ∈ files, file.path = s!"src/{m.name}.rs" ∧ b.typeFile m = .ok file.text := by
  simp only [Blueprint.files, sources, Outcome.bind_eq_ok, Outcome.pure_eq_ok] at h
  obtain ⟨_, ⟨root, -, types, htypes, side, -, rfl⟩, rfl⟩ := h
  have hall : m ∈ TypeModule.all := by
    cases m <;> decide
  obtain ⟨source, hsource, hof⟩ := Outcome.exists_mem_of_mapM htypes hall
  simp only [Outcome.bind_eq_ok, Outcome.pure_eq_ok] at hof
  obtain ⟨text, htext, rfl⟩ := hof
  have hmem : (m.name, text) ∈ ("lib", root) :: types ++ side :=
    List.mem_append_left _ (List.mem_cons_of_mem _ hsource)
  exact ⟨{ path := sourcePath m.name, text, category := .generated },
    List.mem_cons_of_mem _ (List.mem_map.2 ⟨_, hmem, rfl⟩), sourcePath_eq m, htext⟩

end Crate

end SdkForge
