import Mathlib.Data.List.Forall2
import SdkForge.Proofs.Server.Expression
import SdkForge.Proofs.Text.Split

/-!
# Which requests a URI pattern describes

A pattern such as `/cities/{city}?view=summary` describes requests without regard to how a spec is
made of it or how the spec is tried. `Fits` is that description.

* `StandsFor` says what a segment of a pattern stands for, and `Satisfies` what an item of a query
  asks for.
* `matchesPath_iff` says that trying a spec's path finds a way to cut the path of a request, if
  there is one.
* `admits_ofHttp` says that the spec of a pattern, as generated code makes it, admits what the
  pattern describes.
-/

namespace SdkForge

open Server

/-! ## Patterns -/

/-- The pieces of a text between separators, without those that hold nothing. -/
def Text.fields (sep : Char) (text : String) : List String :=
  ((text.toList.splitOn sep).filter (· ≠ [])).map String.ofList

namespace HttpBinding

/-- The part of the pattern before the first question mark. -/
def path (t : HttpBinding) : String := String.ofList (t.uri.toList.takeWhile (· != '?'))

/-- The part behind it. -/
def query (t : HttpBinding) : String := String.ofList ((t.uri.toList.dropWhile (· != '?')).drop 1)

/-- The segments of a path that a segment of a pattern stands for. -/
inductive StandsFor : String → List String → Prop where
  /-- In braces, a name with a plus stands for any segments, one at least. -/
  | greedy {name : String} {run : List String} (h : run ≠ []) :
      StandsFor ("\x7b" ++ (name ++ "+") ++ "\x7d") run
  /-- In braces, another name stands for any one segment. -/
  | label {name : String} (h : ∀ stem, name ≠ stem ++ "+") (segment : String) :
      StandsFor ("\x7b" ++ name ++ "\x7d") [segment]
  /-- Everything else stands for itself. -/
  | literal {text : String} (h : ∀ name, text ≠ "\x7b" ++ name ++ "\x7d") : StandsFor text [text]

/-- The key of a query item. -/
def keyOf (item : String) : String := String.ofList (item.toList.takeWhile (· != '='))

/-- The value of a query item, empty without a `=`. -/
def valueOf (item : String) : String := String.ofList ((item.toList.dropWhile (· != '=')).drop 1)

/-- An item of a request has the key that the pattern asks for, and the value where the pattern has
one. -/
def Satisfies (pair item : String) : Prop :=
  keyOf pair = keyOf item ∧ ('=' ∈ item.toList → valueOf pair = valueOf item)

/-- The pattern describes the URI: the path can be cut into what the segments of the pattern stand
for, and the query holds what each item of the pattern asks for. -/
def Fits (t : HttpBinding) (uri : Http.Uri) : Prop :=
  (∃ runs, List.Forall₂ StandsFor (Text.fields '/' t.path) runs ∧
    runs.flatten = Text.fields '/' uri.path) ∧
  ∀ item ∈ Text.fields '&' t.query, ∃ pair ∈ Text.fields '&' (uri.query.getD ""),
    Satisfies pair item

end HttpBinding

/-! ## Trying a path -/

namespace Server

variable {part : Segment} {pattern : List Segment} {segments : List String}

/-- The segments that a segment of a spec takes. -/
def Segment.Takes : Segment → List String → Prop
  | .literal text, run => run = [text]
  | .label, run => ∃ segment, run = [segment]
  | .greedy, run => run ≠ []

/-- Trying with some of the segments left out is trying what is left after each number of them. -/
lemma matchesAfter_iff : matchesAfter pattern segments = true ↔
    ∃ taken more, segments = taken ++ more ∧ matchesPath pattern more = true := by
  induction segments with
  | nil => simp [matchesAfter]
  | cons segment rest ih =>
    rw [matchesAfter, Bool.or_eq_true, ih]
    constructor
    · rintro (h | ⟨taken, more, rfl, h⟩)
      · exact ⟨[], segment :: rest, rfl, h⟩
      · exact ⟨segment :: taken, more, rfl, h⟩
    · rintro ⟨_ | ⟨first, taken⟩, more, heq, h⟩
      · exact .inl (heq ▸ h)
      · exact .inr ⟨taken, more, (List.cons.inj heq).2, h⟩

/-- The first part of a pattern takes a run of segments, and the rest matches what follows. -/
lemma matchesPath_cons_iff : matchesPath (part :: pattern) segments = true ↔
    ∃ run more, part.Takes run ∧ segments = run ++ more ∧ matchesPath pattern more = true := by
  cases part with
  | literal text => cases segments <;> simp [matchesPath, Segment.Takes]
  | label => cases segments <;> simp [matchesPath, Segment.Takes]
  | greedy =>
    cases segments with
    | nil => simp [matchesPath, Segment.Takes]
    | cons segment rest =>
      -- the first segment is taken, and of the others any number
      rw [matchesPath, matchesAfter_iff]
      constructor
      · rintro ⟨taken, more, rfl, h⟩
        exact ⟨segment :: taken, more, List.cons_ne_nil _ _, rfl, h⟩
      · rintro ⟨_ | ⟨first, taken⟩, more, htakes, heq, h⟩
        · contradiction
        · exact ⟨taken, more, (List.cons.inj heq).2, h⟩

/-- A pattern matches the segments that can be cut into runs for its parts. -/
theorem matchesPath_iff : matchesPath pattern segments = true ↔
    ∃ runs, List.Forall₂ Segment.Takes pattern runs ∧ runs.flatten = segments := by
  induction pattern generalizing segments with
  | nil =>
    rw [matchesPath, List.isEmpty_iff]
    constructor
    · rintro rfl
      exact ⟨[], .nil, rfl⟩
    · rintro ⟨runs, hruns, rfl⟩
      rw [List.forall₂_nil_left_iff.1 hruns, List.flatten_nil]
  | cons part pattern ih =>
    rw [matchesPath_cons_iff]
    constructor
    · rintro ⟨run, more, htakes, rfl, hmore⟩
      obtain ⟨runs, hruns, rfl⟩ := ih.1 hmore
      exact ⟨run :: runs, .cons htakes hruns, rfl⟩
    · rintro ⟨runs, hruns, rfl⟩
      obtain ⟨run, rest, htakes, hrest, rfl⟩ := List.forall₂_cons_left_iff.1 hruns
      exact ⟨run, rest.flatten, htakes, rfl, ih.2 ⟨rest, hrest, rfl⟩⟩

/-- The segment of a spec that a part of a binding becomes. -/
def Segment.ofPart : PathPart → Segment
  | .literal text => .literal text
  | .label _ => .label
  | .greedy _ => .greedy

lemma ofBinding_http (method : String) (path : List PathPart) (query : List QueryItem) :
    RequestSpec.ofBinding (.http method path query) =
      .rest method (path.map Segment.ofPart) query := by
  show RequestSpec.rest _ (path.map _) _ = _
  congr 2

end Server

/-! ## Reading a pattern -/

namespace Binding

/-- What braces enclose is what stands between them. -/
lemma inBraces_eq_some_iff {text name : List Char} :
    inBraces text = some name ↔ text = '\x7b' :: (name ++ ['\x7d']) := by
  unfold inBraces
  split
  · rename_i rest
    rw [List.cons.injEq]
    constructor
    · intro h
      by_cases hlast : rest.getLast? = some '\x7d'
      · obtain ⟨init, rfl⟩ := List.getLast?_eq_some_iff.1 hlast
        rw [if_pos hlast, List.dropLast_concat, Option.some.injEq] at h
        rw [h]
        exact ⟨rfl, rfl⟩
      · rw [if_neg hlast] at h
        contradiction
    · rintro ⟨_, rfl⟩
      simp
  · rename_i hbrace
    constructor
    · intro h
      contradiction
    · rintro rfl
      exact absurd rfl (hbrace _)

/-- A name ends in a plus if it is one with a plus behind. -/
lemma getLast?_eq_plus_iff {name : String} :
    name.toList.getLast? = some '+' ↔ ∃ stem, name = stem ++ "+" := by
  rw [List.getLast?_eq_some_iff]
  constructor
  · rintro ⟨init, hinit⟩
    exact ⟨String.ofList init, String.toList_inj.1 (by simp [hinit])⟩
  · rintro ⟨stem, rfl⟩
    exact ⟨stem.toList, by simp⟩

lemma inBraces_of_eq {text name : String} (h : text = "\x7b" ++ name ++ "\x7d") :
    inBraces text.toList = some name.toList := by
  rw [inBraces_eq_some_iff, h]
  simp

lemma readPart_greedy (stem : String) :
    readPart ("\x7b" ++ (stem ++ "+") ++ "\x7d").toList = .greedy stem := by
  have hplus : (stem ++ "+").toList.getLast? = some '+' := getLast?_eq_plus_iff.2 ⟨stem, rfl⟩
  simp only [readPart, inBraces_of_eq rfl, if_pos hplus]
  simp

lemma readPart_label {name : String} (h : ∀ stem, name ≠ stem ++ "+") :
    readPart ("\x7b" ++ name ++ "\x7d").toList = .label name := by
  have hplus : name.toList.getLast? ≠ some '+' := fun hlast => (getLast?_eq_plus_iff.1 hlast).elim h
  simp only [readPart, inBraces_of_eq rfl, if_neg hplus, String.ofList_toList]

lemma readPart_literal {text : String} (h : ∀ name, text ≠ "\x7b" ++ name ++ "\x7d") :
    readPart text.toList = .literal text := by
  have hnone : inBraces text.toList = none := by
    rw [Option.eq_none_iff_forall_ne_some]
    intro name hname
    refine h (String.ofList name) (String.toList_inj.1 ?_)
    rw [inBraces_eq_some_iff.1 hname]
    simp
  simp only [readPart, hnone, String.ofList_toList]

end Binding

namespace HttpBinding

open Binding

/-- A segment of a pattern stands for what its part of the spec takes. -/
lemma takes_readPart_iff (text : String) (run : List String) :
    (Segment.ofPart (readPart text.toList)).Takes run ↔ StandsFor text run := by
  constructor
  -- a segment is read by its braces first, then by the plus inside of them
  · by_cases hbraces : ∃ name, text = "\x7b" ++ name ++ "\x7d"
    · obtain ⟨name, rfl⟩ := hbraces
      by_cases hplus : ∃ stem, name = stem ++ "+"
      · obtain ⟨stem, rfl⟩ := hplus
        rw [readPart_greedy]
        exact fun hrun => .greedy hrun
      · rw [readPart_label (not_exists.1 hplus)]
        rintro ⟨segment, rfl⟩
        exact .label (not_exists.1 hplus) segment
    · rw [readPart_literal (not_exists.1 hbraces)]
      rintro rfl
      exact .literal (not_exists.1 hbraces)
  · rintro (hrun | ⟨hname, segment⟩ | htext)
    · rw [readPart_greedy]
      exact hrun
    · rw [readPart_label hname]
      exact ⟨segment, rfl⟩
    · rw [readPart_literal htext]
      rfl

/-! ## Reading a URI -/

/-- What a binding reads from the pattern. -/
lemma ofHttp_eq (t : HttpBinding) : Binding.ofHttp t = .http t.method.toUpper
    ((Text.fields '/' t.path).map fun text => readPart text.toList)
    ((Text.fields '&' t.query).map fun text => readItem text.toList) := by
  unfold Binding.ofHttp
  rw [Text.splitFirst_getD]
  simp [pieces, Text.fields, path, query, Text.splitAll_eq_splitOn, Function.comp_def]

lemma queryPair_eq (pair : String) : queryPair pair.toList = (keyOf pair, valueOf pair) := by
  have hcut := Text.splitFirst_getD '=' pair.toList
  unfold queryPair keyOf valueOf
  cases hsplit : Text.splitFirst '=' pair.toList with
  | some parts =>
    rw [hsplit, Option.getD_some] at hcut
    rw [hcut]
  | none =>
    rw [hsplit, Option.getD_none, Prod.mk.injEq] at hcut
    rw [← hcut.1, ← hcut.2]

lemma readItem_eq (item : String) : readItem item.toList =
    if '=' ∈ item.toList then .keyValue (keyOf item) (valueOf item) else .key (keyOf item) := by
  unfold readItem
  rw [Text.splitFirst_eq]
  by_cases hmem : '=' ∈ item.toList
  · rw [if_pos hmem, if_pos hmem]
    rfl
  · have hcut := Text.splitFirst_getD '=' item.toList
    rw [Text.splitFirst_eq, if_neg hmem, Option.getD_none, Prod.mk.injEq] at hcut
    rw [if_neg hmem, if_neg hmem, keyOf, ← hcut.1]

/-- The pairs of a query are its pieces, with their keys and values. -/
lemma queryPairs_eq (query : String) :
    queryPairs query = (Text.fields '&' query).map fun pair => (keyOf pair, valueOf pair) := by
  have hpairs : queryPairs query = (Text.fields '&' query).map fun pair =>
      queryPair pair.toList := by
    simp [queryPairs, Text.fields, Text.splitAll_eq_splitOn, Function.comp_def]
  rw [hpairs]
  exact List.map_congr_left fun pair _ => queryPair_eq pair

/-- A query has the item that a piece of a pattern becomes if one of its pieces satisfies that
piece. -/
lemma hasItem_readItem_iff (item query : String) :
    hasItem (queryPairs query) (readItem item.toList) = true ↔
    ∃ pair ∈ Text.fields '&' query, Satisfies pair item := by
  rw [queryPairs_eq, readItem_eq]
  by_cases hmem : '=' ∈ item.toList
  · simp [hmem, hasItem, Satisfies]
  · simp [hmem, hasItem, Satisfies]

/-! ## The account -/

/-- The spec of a pattern and the pattern describe the same paths and queries. -/
lemma fits_iff (t : HttpBinding) (uri : Http.Uri) : t.Fits uri ↔
    matchesPath (((Text.fields '/' t.path).map fun text => readPart text.toList).map Segment.ofPart)
        (segments uri.path) = true ∧
      (((Text.fields '&' t.query).map fun text => readItem text.toList).all
        (hasItem (queryPairs (uri.query.getD "")))) = true := by
  have hsegments : segments uri.path = Text.fields '/' uri.path := by
    simp [segments, Text.fields, Text.splitAll_eq_splitOn]
  rw [matchesPath_iff, hsegments, Fits, List.map_map]
  refine and_congr (exists_congr fun runs => and_congr_left' ?_) ?_
  · rw [List.forall₂_map_left_iff]
    simp only [Function.comp, takes_readPart_iff]
  · simp only [List.all_map, List.all_eq_true, Function.comp, hasItem_readItem_iff]

/-- The spec of a pattern is what generated code makes. It admits the requests that have the method,
in capital letters, and that the pattern describes; of those with another method it says so. -/
theorem admits_ofHttp (t : HttpBinding) (r : Http.Request) (crate : String) :
    (∀ spec : RequestSpec, spec.expression crate = (Binding.ofHttp t).fragment crate ↔
      spec = RequestSpec.ofBinding (Binding.ofHttp t)) ∧
    ((RequestSpec.ofBinding (Binding.ofHttp t)).admits r = .yes ↔ r.method = t.method.toUpper ∧
      t.Fits r.uri) ∧
    ((RequestSpec.ofBinding (Binding.ofHttp t)).admits r = .methodNotAllowed ↔
      r.method ≠ t.method.toUpper ∧ t.Fits r.uri) ∧
    ((RequestSpec.ofBinding (Binding.ofHttp t)).admits r = .no ↔ ¬t.Fits r.uri) := by
  constructor
  · intro spec
    rw [fragment_eq_expression, (expression_injective crate).eq_iff]
  · rw [ofHttp_eq, ofBinding_http, RequestSpec.admits, fits_iff, ← Bool.and_eq_true]
    generalize (matchesPath _ _ && _) = fits
    by_cases hmethod : r.method = t.method.toUpper
    · cases fits <;> simp [RequestSpec.byMethod, hmethod]
    · cases fits <;> simp [RequestSpec.byMethod, hmethod]

end HttpBinding

end SdkForge
