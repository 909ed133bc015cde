import Mathlib.Computability.Language
import SdkForge.Proofs.ShapeId
import SdkForge.Proofs.Text.Split

/-!
# The grammar of ids

Ids are read by three cuts: at the first `#`, at the first `$` after it, and at every point before
it. The texts that can be read are the words of a grammar.

* `grammar` is the language of ids, made of that of identifiers.
* `parse_eq_ok_iff` says that the cuts undo writing: what is read is the id whose text it is, if its
  parts are identifiers.
* `mem_grammar_iff` says that the words of the grammar are the texts of such ids.
* `parse_accepts_grammar` puts this together, for ids that are read and for ids made of them.
-/

namespace SdkForge.ShapeId

open Computability

/-! ## Languages -/

/-- The words of one character of a range. -/
def ofRange (first last : Char) : Language Char := {word | ∃ c, first ≤ c ∧ c ≤ last ∧ word = [c]}

/-- What an identifier begins with. -/
def identifierStart : Language Char := ofRange 'A' 'Z' + ofRange 'a' 'z' + {['_']}

def identifier : Language Char := identifierStart * (identifierStart + ofRange '0' '9')∗

/-- Identifiers with points between them. -/
def dotted : Language Char := identifier * ({['.']} * identifier)∗

/-- The ids of shapes. -/
def rootGrammar : Language Char := dotted * {['#']} * identifier

/-- The ids of shapes and of members. -/
def grammar : Language Char := rootGrammar + rootGrammar * {['$']} * identifier

variable {word : List Char} {text : String} {id : ShapeId}

/-! ## Identifiers -/

lemma mem_singleton_mul_iff {L : Language Char} {c : Char} :
    word ∈ {[c]} * L ↔ ∃ rest ∈ L, word = c :: rest := by
  rw [Language.mem_mul]
  constructor
  · rintro ⟨first, rfl, rest, hrest, rfl⟩
    exact ⟨rest, hrest, rfl⟩
  · rintro ⟨rest, hrest, rfl⟩
    exact ⟨[c], rfl, rest, hrest, rfl⟩

lemma startsIdentifier_iff {c : Char} :
    startsIdentifier c = true ↔ ('A' ≤ c ∧ c ≤ 'Z') ∨ ('a' ≤ c ∧ c ≤ 'z') ∨ c = '_' := by
  have hupper : c.isUpper = true ↔ 'A' ≤ c ∧ c ≤ 'Z' := decide_eq_true_iff
  have hlower : c.isLower = true ↔ 'a' ≤ c ∧ c ≤ 'z' :=
    Bool.and_eq_true_iff.trans (and_congr decide_eq_true_iff decide_eq_true_iff)
  have halpha : c.isAlpha = true ↔ c.isUpper = true ∨ c.isLower = true := Bool.or_eq_true_iff
  rw [startsIdentifier, Bool.or_eq_true, halpha, hupper, hlower, beq_iff_eq, or_assoc]

lemma inIdentifier_iff {c : Char} :
    inIdentifier c = true ↔ startsIdentifier c = true ∨ ('0' ≤ c ∧ c ≤ '9') := by
  have hdigit : c.isDigit = true ↔ '0' ≤ c ∧ c ≤ '9' :=
    Bool.and_eq_true_iff.trans (and_congr decide_eq_true_iff decide_eq_true_iff)
  rw [inIdentifier, startsIdentifier, Char.isAlphanum, Bool.or_eq_true, Bool.or_eq_true,
    Bool.or_eq_true, hdigit, or_right_comm]

lemma mem_identifierStart_iff : word ∈ identifierStart ↔ ∃ c, startsIdentifier c = true ∧
    word = [c] := by
  simp only [startsIdentifier_iff, or_and_right, exists_or, and_assoc, exists_eq_left]
  rw [← or_assoc]
  rfl

lemma mem_identifierRest_iff :
    word ∈ identifierStart + ofRange '0' '9' ↔ ∃ c, inIdentifier c = true ∧ word = [c] := by
  simp only [inIdentifier_iff, or_and_right, exists_or, and_assoc]
  rw [Language.mem_add, mem_identifierStart_iff]
  rfl

/-- Repeating characters of a kind gives the texts of such characters. -/
lemma mem_kstar_iff_all {L : Language Char} {p : Char → Bool}
    (h : ∀ word, word ∈ L ↔ ∃ c, p c = true ∧ word = [c]) :
    word ∈ L∗ ↔ word.all p = true := by
  rw [Language.mem_kstar, List.all_eq_true]
  constructor
  · rintro ⟨words, rfl, hwords⟩ c hc
    obtain ⟨part, hpart, hc⟩ := List.mem_flatten.1 hc
    obtain ⟨d, hd, rfl⟩ := (h part).1 (hwords part hpart)
    rwa [List.mem_singleton.1 hc]
  · intro hall
    refine ⟨word.map fun c => [c], (List.flatMap_singleton' word).symm,
      List.forall_mem_map.2 fun c hc => ?_⟩
    exact (h [c]).2 ⟨c, hall c hc, rfl⟩

/-- Identifiers are what the check for identifiers lets pass. -/
theorem mem_identifier_iff : word ∈ identifier ↔ isIdentifier word = true := by
  have hrest : ∀ rest, rest ∈ (identifierStart + ofRange '0' '9')∗ ↔ rest.all inIdentifier = true :=
    fun _ => mem_kstar_iff_all fun _ => mem_identifierRest_iff
  rw [identifier, Language.mem_mul]
  constructor
  · rintro ⟨first, hfirst, rest, hmem, rfl⟩
    obtain ⟨c, hc, rfl⟩ := mem_identifierStart_iff.1 hfirst
    simp [isIdentifier, hc, (hrest rest).1 hmem]
  · intro h
    cases word with
    | nil => contradiction
    | cons c rest =>
      obtain ⟨hc, hall⟩ := Bool.and_eq_true_iff.1 h
      exact ⟨[c], mem_identifierStart_iff.2 ⟨c, hc, rfl⟩, rest, (hrest rest).2 hall, rfl⟩

lemma notMem_of_isIdentifier (h : isIdentifier word = true) {c : Char}
    (hc : inIdentifier c = false) : c ∉ word := by
  intro hmem
  rw [inIdentifier_of_mem h hmem] at hc
  contradiction

/-! ## Namespaces -/

/-- The text is cut at its points into identifiers. -/
def IsDotted (word : List Char) : Prop :=
  ∀ piece ∈ Text.splitAll (· == '.') word, isIdentifier piece = true

lemma intercalate_cons (sep : Char) (first : List Char) (rest : List (List Char)) :
    List.intercalate [sep] (first :: rest) = first ++ (rest.map (sep :: ·)).flatten := by
  induction rest generalizing first with
  | nil => simp
  | cons second more ih =>
    rw [List.intercalate_cons_of_ne_nil (List.cons_ne_nil _ _), ih]
    simp

/-- Words of a language after separators, as many as there are. -/
lemma mem_kstar_singleton_mul_iff {L : Language Char} {sep : Char} : word ∈ ({[sep]} * L)∗ ↔
    ∃ rest : List (List Char), (∀ part ∈ rest, part ∈ L) ∧
      word = (rest.map (sep :: ·)).flatten := by
  rw [Language.mem_kstar]
  constructor
  · rintro ⟨words, rfl, hwords⟩
    induction words with
    | nil => exact ⟨[], List.forall_mem_nil _, rfl⟩
    | cons first words ih =>
      obtain ⟨hfirst, hwords⟩ := List.forall_mem_cons.1 hwords
      obtain ⟨rest, hrest, hflatten⟩ := ih hwords
      obtain ⟨part, hpart, rfl⟩ := mem_singleton_mul_iff.1 hfirst
      refine ⟨part :: rest, List.forall_mem_cons.2 ⟨hpart, hrest⟩, ?_⟩
      rw [List.flatten_cons, hflatten]
      rfl
  · rintro ⟨rest, hrest, rfl⟩
    exact ⟨_, rfl, List.forall_mem_map.2 fun part hpart =>
      mem_singleton_mul_iff.2 ⟨part, hrest part hpart, rfl⟩⟩

/-- Cutting at every point finds the identifiers between the points. -/
theorem mem_dotted_iff : word ∈ dotted ↔ IsDotted word := by
  rw [dotted, Language.mem_mul, IsDotted, Text.splitAll_eq_splitOn]
  constructor
  · rintro ⟨first, hfirst, _, hmem, rfl⟩
    obtain ⟨rest, hrest, rfl⟩ := mem_kstar_singleton_mul_iff.1 hmem
    have hparts : ∀ piece ∈ first :: rest, isIdentifier piece = true :=
      List.forall_mem_cons.2 ⟨mem_identifier_iff.1 hfirst, fun part hpart =>
        mem_identifier_iff.1 (hrest part hpart)⟩
    have hpoint : ∀ piece ∈ first :: rest, '.' ∉ piece :=
      fun piece hpiece => notMem_of_isIdentifier (hparts piece hpiece) rfl
    rwa [← intercalate_cons, List.splitOn_intercalate _ hpoint (List.cons_ne_nil _ _)]
  · intro h
    obtain ⟨first, rest, hpieces⟩ := List.exists_cons_of_ne_nil (List.splitOn_ne_nil '.' word)
    rw [hpieces] at h
    obtain ⟨hfirst, hrest⟩ := List.forall_mem_cons.1 h
    refine ⟨first, mem_identifier_iff.2 hfirst, (rest.map ('.' :: ·)).flatten, ?_, ?_⟩
    · exact mem_kstar_singleton_mul_iff.2 ⟨rest, fun part hpart =>
        mem_identifier_iff.2 (hrest part hpart), rfl⟩
    · rw [← intercalate_cons, ← hpieces, List.intercalate_splitOn]

/-- Such a text holds characters of identifiers and points. -/
lemma IsDotted.of_mem (h : IsDotted word) {c : Char} (hmem : c ∈ word) :
    c = '.' ∨ inIdentifier c = true := by
  rw [IsDotted, Text.splitAll_eq_splitOn] at h
  obtain ⟨first, rest, hpieces⟩ := List.exists_cons_of_ne_nil (List.splitOn_ne_nil '.' word)
  rw [hpieces] at h
  have hword : List.intercalate ['.'] (word.splitOn '.') = word := List.intercalate_splitOn '.'
  rw [← hword, hpieces, intercalate_cons] at hmem
  rcases List.mem_append.1 hmem with hmem | hmem
  · exact .inr (inIdentifier_of_mem (h first List.mem_cons_self) hmem)
  · obtain ⟨_, hmap, hmem⟩ := List.mem_flatten.1 hmem
    obtain ⟨part, hpart, rfl⟩ := List.mem_map.1 hmap
    rcases List.mem_cons.1 hmem with rfl | hmem
    · exact .inl rfl
    · exact .inr (inIdentifier_of_mem (h part (List.mem_cons_of_mem _ hpart)) hmem)

/-! ## Ids -/

/-- The parts of the id are made of identifiers. -/
structure WellFormed (id : ShapeId) : Prop where
  ns : IsDotted id.ns.toList
  name : isIdentifier id.name.toList = true
  member : ∀ member, id.member = some member → isIdentifier member.toList = true

/-- What is written of a member after the name of its shape. -/
def memberText (member : Option String) : List Char := member.elim [] fun name => '$' :: name.toList

lemma toList_toString (id : ShapeId) :
    (toString id).toList = id.ns.toList ++ '#' :: (id.name.toList ++ memberText id.member) := by
  show (ShapeId.toString id).toList = _
  cases h : id.member <;> simp [ShapeId.toString, h, memberText]

lemma splitMember_append_memberText {name : List Char} (h : '$' ∉ name) (member : Option String) :
    splitMember (name ++ memberText member) = (name, member.map String.toList) := by
  cases member with
  | none =>
    rw [memberText, Option.elim_none, List.append_nil, splitMember, Text.splitFirst_eq, if_neg h]
    rfl
  | some text =>
    rw [memberText, Option.elim_some, splitMember, Text.splitFirst_append_cons h]
    rfl

lemma wellFormed_of_parse (h : parse text = .ok id) : id.WellFormed := by
  have hparts := IsParsed.isIdentifier_parts ⟨text, h⟩
  refine ⟨?_, hparts.1, hparts.2⟩
  unfold parse at h
  split at h
  · contradiction
  · dsimp only at h
    split_ifs at h with hns
    rw [← Except.ok.inj h, String.toList_ofList]
    exact List.all_eq_true.1 (by simpa using hns)

/-- An id made of identifiers is read from its text. -/
lemma WellFormed.parse_toString (h : id.WellFormed) : parse (toString id) = .ok id := by
  have hns : '#' ∉ id.ns.toList := fun hmem => absurd (h.ns.of_mem hmem) (by decide)
  have hname : '$' ∉ id.name.toList := notMem_of_isIdentifier h.name rfl
  have hmember : (id.member.map String.toList).all isIdentifier = true := by
    cases hm : id.member with
    | none => rfl
    | some member => exact h.member member hm
  have hpieces : (Text.splitAll (· == '.') id.ns.toList).all isIdentifier = true :=
    List.all_eq_true.2 h.ns
  rw [parse, toList_toString, Text.splitFirst_append_cons hns]
  dsimp only
  rw [splitMember_append_memberText hname, hpieces, h.name, hmember]
  obtain ⟨ns, name, member⟩ := id
  cases member <;> simp

/-- The id that is read is the one that is written so, if identifiers are its parts. -/
theorem parse_eq_ok_iff : parse text = .ok id ↔ toString id = text ∧ id.WellFormed := by
  constructor
  · exact fun h => ⟨toString_of_parse h, wellFormed_of_parse h⟩
  · rintro ⟨rfl, h⟩
    exact h.parse_toString

/-- Ids can be read if their parts are identifiers, and only then. -/
lemma isParsed_iff_wellFormed : id.IsParsed ↔ id.WellFormed := by
  constructor
  · rintro ⟨text, h⟩
    exact wellFormed_of_parse h
  · exact fun h => ⟨_, h.parse_toString⟩

lemma mem_rootGrammar_iff : word ∈ rootGrammar ↔
    ∃ ns name : String, IsDotted ns.toList ∧ isIdentifier name.toList = true ∧
      word = ns.toList ++ '#' :: name.toList := by
  rw [rootGrammar, mul_assoc, Language.mem_mul]
  constructor
  · rintro ⟨ns, hns, rest, hrest, rfl⟩
    obtain ⟨name, hname, rfl⟩ := mem_singleton_mul_iff.1 hrest
    refine ⟨.ofList ns, .ofList name, ?_⟩
    simp only [String.toList_ofList]
    exact ⟨mem_dotted_iff.1 hns, mem_identifier_iff.1 hname, trivial⟩
  · rintro ⟨ns, name, hns, hname, rfl⟩
    exact ⟨_, mem_dotted_iff.2 hns, _, mem_singleton_mul_iff.2 ⟨_, mem_identifier_iff.2 hname, rfl⟩,
      rfl⟩

/-- The words of the grammar are the texts of ids made of identifiers. -/
theorem mem_grammar_iff :
    word ∈ grammar ↔ ∃ id : ShapeId, id.WellFormed ∧ (toString id).toList = word := by
  rw [grammar, mul_assoc, Language.mem_add, Language.mem_mul]
  constructor
  · rintro (hroot | ⟨before, hroot, rest, hrest, rfl⟩)
    · obtain ⟨ns, name, hns, hname, rfl⟩ := mem_rootGrammar_iff.1 hroot
      refine ⟨⟨ns, name, none⟩, ⟨hns, hname, fun _ h => by contradiction⟩, ?_⟩
      rw [toList_toString, memberText, Option.elim_none, List.append_nil]
    · obtain ⟨ns, name, hns, hname, rfl⟩ := mem_rootGrammar_iff.1 hroot
      obtain ⟨member, hmember, rfl⟩ := mem_singleton_mul_iff.1 hrest
      refine ⟨⟨ns, name, some (.ofList member)⟩, ⟨hns, hname, fun _ h => ?_⟩, ?_⟩
      · rw [← Option.some.inj h, String.toList_ofList]
        exact mem_identifier_iff.1 hmember
      · simp [toList_toString, memberText]
  · rintro ⟨id, h, rfl⟩
    have hroot : id.ns.toList ++ '#' :: id.name.toList ∈ rootGrammar :=
      mem_rootGrammar_iff.2 ⟨_, _, h.ns, h.name, rfl⟩
    rw [toList_toString]
    cases hm : id.member with
    | none =>
      left
      rwa [memberText, Option.elim_none, List.append_nil]
    | some member =>
      right
      refine ⟨_, hroot, _, mem_singleton_mul_iff.2 ⟨_,
        mem_identifier_iff.2 (h.member member hm), rfl⟩, ?_⟩
      simp [memberText]

/-- Ids that are read, and those of shapes and members that are made of them. -/
inductive IsObtained : ShapeId → Prop
  | parse {text : String} {id : ShapeId} (h : parse text = .ok id) : IsObtained id
  | root {id : ShapeId} (h : IsObtained id) : IsObtained id.root
  | withMember {id : ShapeId} {member : String} (h : IsObtained id)
      (hmember : member.toList ∈ identifier) :
    IsObtained (id.withMember member)

/-- Making an id of another keeps its parts identifiers. -/
lemma IsObtained.wellFormed (h : IsObtained id) : id.WellFormed := by
  induction h with
  | parse h => exact wellFormed_of_parse h
  | root _ ih => exact ⟨ih.ns, ih.name, fun _ h => by contradiction⟩
  | withMember _ hmember ih =>
    refine ⟨ih.ns, ih.name, fun member h => ?_⟩
    rw [← Option.some.inj h]
    exact mem_identifier_iff.1 hmember

/-- A text is read as an id if it is a word of the grammar, and only then, and the id is written as
the text, so that no two texts are read as one id. Ids that are read, or made of such ids, are read
again from their texts. -/
theorem parse_accepts_grammar :
    (∀ text : String, (∃ id, parse text = .ok id) ↔ text.toList ∈ grammar) ∧
    (∀ text id, parse text = .ok id → toString id = text) ∧
    (∀ text other id, parse text = .ok id → parse other = .ok id → text = other) ∧
    ∀ id, IsObtained id → parse (toString id) = .ok id := by
  refine ⟨fun text => ?_, fun _ _ => toString_of_parse, fun _ _ _ => parse_injective,
    fun _ h => h.wellFormed.parse_toString⟩
  simp only [mem_grammar_iff, parse_eq_ok_iff, String.toList_inj, and_comm]

/-- The id of a member, read and made of the id of its shape. -/
theorem parse_accepts_grammar_of_member :
    let id : ShapeId := ⟨"a.b_1", "_C", some "d2"⟩
    parse "a.b_1#_C$d2" = .ok id ∧ toString id = "a.b_1#_C$d2" ∧ "a.b_1#_C$d2".toList ∈ grammar ∧
    IsObtained (id.root.withMember "e") ∧
      parse (toString (id.root.withMember "e")) = .ok (id.root.withMember "e") := by
  intro id
  have hparse : parse "a.b_1#_C$d2" = .ok id := by decide
  have hmade : IsObtained (id.root.withMember "e") :=
    .withMember (.root (.parse hparse)) (mem_identifier_iff.2 (by decide))
  obtain ⟨hgrammar, htext, -, hagain⟩ := parse_accepts_grammar
  exact ⟨hparse, htext _ _ hparse, (hgrammar _).1 ⟨_, hparse⟩, hmade, hagain _ hmade⟩

end SdkForge.ShapeId
