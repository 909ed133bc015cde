import Mathlib.Data.List.Nodup
import SdkForge.Manifest.Reader
import SdkForge.Proofs.Manifest.Place
import SdkForge.Proofs.Outcome
import SdkForge.Proofs.Toml.Layout

/-!
# Decorators that are enabled twice

The check finds a decorator twice in the list that was read, and points at the first two places of
its name in quotes, in the whole text. The list itself is an array somewhere in the text.

* `GivesEnabled` says which array of a text enables decorators, and `exists_givesEnabled` that the
  list was read from it.
* `EnablesTwice` names its first two entries for one decorator, and `exists_of_checkDecorators` says
  when the check reports it.
* `liesIn_spanAt_iff` says when a span lies in an entry.
* `duplicate_located` puts this together: the spans lie in the two entries if the name stands in
  quotes there first.
-/

namespace SdkForge.Manifest

open Outcome
open Toml (Value Piece Entry Reads ReadsItems ReadsEntries Gives Slots)

/-! ## Lists of names -/

/-- Only an array of strings is a list of texts. -/
lemma readTexts_eq_ok {v : Value} {names : List String} (h : readTexts v = .ok names) :
    v = .array (names.map .string) := by
  have hkeep : ∀ v name, readText v = .ok name → Value.string name = id v := by
    intro v name hread
    unfold readText at hread
    split at hread
    · exact congrArg Value.string (Except.ok.inj hread).symm
    · contradiction
  unfold readTexts at h
  split at h
  · next items =>
    rw [map_eq_of_mapM_eq_ok hkeep h, List.map_id]
  · contradiction

/-- The list of decorators that a table or an array gives. -/
lemma exists_of_decoratorsLayout {v : Value} {names : List String}
    (h : decoratorsLayout.read none v = .ok (some names)) :
    ∃ listed, readTexts listed = .ok names ∧
      ((∃ entries, v = .table entries ∧ ("enabled", listed) ∈ entries) ∨
        ∃ others, v = .array (listed :: others)) := by
  have hset : ∀ {listed read}, (some <$> readTexts listed : Except Misfit _) = .ok read →
      read = some names →
      readTexts listed = .ok names := by
    intro listed read hread hsome
    obtain ⟨texts, htexts, heq⟩ := map_eq_ok.1 hread
    rw [htexts, Option.some.inj (heq.trans hsome)]
  unfold Layout.read at h
  split at h
  · next entries =>
    obtain ⟨read, hfold, hfinish⟩ := bind_eq_ok.1 h
    obtain rfl := Except.ok.inj hfinish
    have hmem := exists_mem_of_foldlM (P := (· = some names))
      (Q := fun entry : String × Value => entry.1 = "enabled" ∧
        readTexts entry.2 = .ok names) ?_ hfold rfl
    · obtain hnone | ⟨⟨name, listed⟩, hmem, rfl, hlisted⟩ := hmem
      · contradiction
      · exact ⟨listed, hlisted, .inl ⟨entries, rfl, hmem⟩⟩
    · intro ⟨name, listed⟩ _ read read' hread hsome
      dsimp only at hread
      split at hread
      · next hfield =>
        have hname : name = "enabled" := by simpa [decoratorsLayout] using hfield
        exact .inr ⟨hname, hset hread hsome⟩
      · contradiction
  · next items =>
    cases items with
    | nil => contradiction
    | cons listed others =>
      obtain ⟨read, hfold, hfinish⟩ := bind_eq_ok.1 h
      obtain rfl := Except.ok.inj hfinish
      simp only [decoratorsLayout, List.zip_cons_cons, List.zip_nil_left, List.foldlM_cons,
        List.foldlM_nil, bind_eq_ok, pure_eq_ok] at hfold
      obtain ⟨read, hread, hsome⟩ := hfold
      exact ⟨listed, hset hread hsome, .inr ⟨others, rfl⟩⟩
  · contradiction
  · contradiction

/-- Only the field of the decorators changes them. -/
lemma decorators_of_set {d d' : Draft} {name : String} {v : Value}
    (hfield : layout.fields.contains name = true) (h : layout.set d name v = .ok d') :
    d'.decorators = d.decorators ∨ name = "decorators" ∧
    decoratorsLayout.read none v = .ok d'.decorators := by
  unfold layout at h
  dsimp only at h
  split at h
  · obtain ⟨_, _, hd⟩ := bind_eq_ok.1 h
    exact .inl (Except.ok.inj hd ▸ rfl)
  · obtain ⟨_, _, hd⟩ := bind_eq_ok.1 h
    exact .inl (Except.ok.inj hd ▸ rfl)
  · next hcodegen hruntime =>
    obtain ⟨_, hread, hd⟩ := bind_eq_ok.1 h
    have hname : name = "decorators" := by
      simp only [layout, List.contains_iff_mem, List.mem_cons, List.not_mem_nil, or_false] at hfield
      exact (hfield.resolve_left hcodegen).resolve_left hruntime
    exact .inr ⟨hname, Except.ok.inj hd ▸ hread⟩

/-- The list of decorators of a manifest. -/
lemma exists_of_ofEntries {entries : List (String × Value)} {m : Manifest} {names : List String}
    (h : ofEntries entries = .ok m) (hnames : m.decorators = some names) :
    ∃ v, ("decorators", v) ∈ entries ∧ decoratorsLayout.read none v = .ok (some names) := by
  obtain ⟨read, hfold, hfinish⟩ := bind_eq_ok.1 h
  obtain ⟨codegen, _, hm⟩ := bind_eq_ok.1 hfinish
  obtain rfl := Except.ok.inj hm
  have hmem := exists_mem_of_foldlM (P := fun d : Draft => d.decorators = some names)
    (Q := fun entry : String × Value => entry.1 = "decorators" ∧
      decoratorsLayout.read none entry.2 = .ok (some names))
    ?_ hfold hnames
  · obtain hnone | ⟨⟨name, v⟩, hmem, rfl, hv⟩ := hmem
    · contradiction
    · exact ⟨v, hmem, hv⟩
  · intro ⟨name, v⟩ _ d d' hread hsome
    dsimp only at hread
    split at hread
    · next hfield =>
      rcases decorators_of_set hfield hread with hold | ⟨hname, hv⟩
      · exact .inl (hold.symm.trans hsome)
      · exact .inr ⟨hname, hsome ▸ hv⟩
    · contradiction

/-! ## The array in the text -/

/-- A piece of a text is the array that enables decorators: the value of `decorators.enabled`, as an
entry of a table or of an inline table, or as the only field in an array that stands for the
table. -/
inductive GivesEnabled (text : List Char) : Piece → Prop
  | entry {array} : Gives {} text ["decorators", "enabled"] array → GivesEnabled text array
  | inline {outer more entries e} : Gives {} text ["decorators"] outer →
      outer.text = '\x7b' :: more →
      ReadsEntries more entries outer.rest → e ∈ entries → e.path ++ [e.key] = ["enabled"] →
      GivesEnabled text e.piece
  | listed {outer more array others} : Gives {} text ["decorators"] outer →
      outer.text = '[' :: more →
      ReadsItems more (array :: others) outer.rest → GivesEnabled text array

variable {text : List Char} {array : Piece}

lemma GivesEnabled.reads (h : GivesEnabled text array) : Reads array ∧ array.text <:+ text := by
  have hinner : ∀ {outer c more}, Gives {} text ["decorators"] outer → outer.text = c :: more →
      more <:+ text := by
    intro outer c more hgives houter
    exact (List.suffix_cons c more).trans (houter ▸ hgives.reads.2)
  cases h with
  | entry hgives => exact hgives.reads
  | inline hgives houter hentries hmem _ =>
    obtain ⟨hreads, htext⟩ := hentries.of_mem _ hmem
    exact ⟨hreads, htext.trans (hinner hgives houter)⟩
  | listed hgives houter hitems =>
    obtain ⟨hreads, htext⟩ := hitems.of_mem _ List.mem_cons_self
    exact ⟨hreads, htext.trans (hinner hgives houter)⟩

/-- A finished table has a list of names only if the list was given to it. -/
lemma has_of_readTexts {slots : Slots} {listed : Value} {names : List String}
    (hmem : ("enabled", listed) ∈ Toml.byKey (Slots.toEntries slots))
    (h : readTexts listed = .ok names) :
    slots.Has ["enabled"] (.array (names.map .string)) := by
  obtain rfl := readTexts_eq_ok h
  obtain hhas | ⟨_, _, _, heq⟩ | ⟨_, _, heq⟩ := Toml.has_of_mem_byKey hmem
  · exact hhas
  · contradiction
  · obtain ⟨name, _, _, hname, _⟩ := List.map_eq_cons_iff.1 (Value.array.inj heq)
    contradiction

/-- The array that enables decorators is in the text. -/
theorem exists_givesEnabled {fuel : Nat} {d : Toml.Draft} {v : Value} {names : List String}
    (h : Toml.readDocument fuel {} text = some d) (hmem : ("decorators", v) ∈ d.entries)
    (hv : decoratorsLayout.read none v = .ok (some names)) :
    ∃ array, GivesEnabled text array ∧ array.value = .array (names.map .string) := by
  have hgives : ∀ {path v}, d.root.Has path v → ∃ p, Gives {} text path p ∧ p.value = v := by
    intro path v hhas
    exact (Toml.exists_gives_of_readDocument h hhas).resolve_left Slots.not_has_nil
  obtain ⟨listed, hlisted, hshape⟩ := exists_of_decoratorsLayout hv
  -- The decorators are a value of their own, a table of headers and dotted keys, or an array of
  -- tables, which lists no names.
  obtain hhas | ⟨origin, inner, hinner, rfl⟩ | ⟨first, others, rfl⟩ := Toml.has_of_mem_byKey hmem
  · obtain ⟨outer, houter, rfl⟩ := hgives hhas
    obtain ⟨entries, hvalue, hentry⟩ | ⟨others, hvalue⟩ := hshape
    · obtain ⟨more, parts, slots, htext, hparts, hslots, rfl⟩ :=
        houter.reads.1.entries_of_table hvalue
      have hpart := Toml.exists_entry_of_has hslots (has_of_readTexts hentry hlisted)
      obtain ⟨e, he, hpath, hlist⟩ := hpart.resolve_left Slots.not_has_nil
      exact ⟨e.piece, .inline houter htext hparts he hpath, hlist⟩
    · obtain ⟨more, items, htext, hitems, hvalues⟩ := houter.reads.1.items_of_array hvalue
      obtain ⟨array, rest, rfl, rfl, _⟩ := List.map_eq_cons_iff.1 hvalues
      exact ⟨array, .listed houter htext hitems, readTexts_eq_ok hlisted⟩
  · obtain ⟨entries, hvalue, hentry⟩ | ⟨others, hvalue⟩ := hshape
    · obtain rfl := Value.table.inj hvalue
      obtain ⟨array, harray, hlist⟩ := hgives (.table hinner (has_of_readTexts hentry hlisted))
      exact ⟨array, .entry harray, hlist⟩
    · contradiction
  · obtain ⟨entries, hvalue, _⟩ | ⟨others, hvalue⟩ := hshape
    · contradiction
    · obtain ⟨rfl, _⟩ := List.cons.inj (Value.array.inj hvalue)
      contradiction

/-! ## The check -/

/-- Two entries of the array are the first ones that enable a decorator. -/
def EnablesTwice (text : List Char) (decorator : String) (e₁ e₂ : Piece) : Prop :=
  ∃ array more before between after, GivesEnabled text array ∧ array.text = '[' :: more ∧
    ReadsItems more (before ++ e₁ :: between ++ e₂ :: after) array.rest ∧
    e₁.value = .string decorator ∧
    e₂.value = .string decorator ∧ ∀ e ∈ before ++ between, e.value ≠ .string decorator

variable {place : Place} {decorator : String} {a b : Span}

/-- The check reports the first name that is there already, at the first two places where it is
found. -/
lemma exists_of_checkDecorators {before names : List String}
    (h : checkDecorators place before names = .error (.duplicateDecorator decorator a b))
    (hbefore : before.Nodup) :
    (∃ others, place.spans decorator = a :: b :: others) ∧
      ∃ seen rest, names = seen ++ decorator :: rest ∧ decorator ∈ seen.reverse ++ before ∧
        (seen.reverse ++ before).Nodup := by
  -- The names that the check has passed have none twice.
  induction names generalizing before with
  | nil => contradiction
  | cons name rest ih =>
    rw [checkDecorators] at h
    split at h
    · next hname =>
      split at h
      · next others hspans =>
        obtain ⟨rfl, rfl, rfl⟩ := Problem.duplicateDecorator.inj (Except.error.inj h)
        exact ⟨⟨others, hspans⟩, [], rest, rfl, List.contains_iff_mem.1 hname, hbefore⟩
      · exact absurd (Except.error.inj h) nofun
    · next hname =>
      have hnotMem : name ∉ before := fun hmem => hname (List.contains_iff_mem.2 hmem)
      obtain ⟨hspans, seen, rest, rfl, hmem, hnodup⟩ := ih h (List.nodup_cons.2 ⟨hnotMem, hbefore⟩)
      rw [List.append_cons, ← List.reverse_cons] at hmem hnodup
      exact ⟨hspans, name :: seen, rest, rfl, hmem, hnodup⟩

lemma checkName_ne_duplicateDecorator (place : Place) (name kind : String) :
    place.checkName name kind ≠ .error (.duplicateDecorator decorator a b) := by
  unfold Place.checkName
  split <;> exact nofun

/-- A decorator is reported by the last check only. -/
lemma checkDecorators_of_check {m : Manifest} {source : String}
    (h : m.check source = .error (.duplicateDecorator decorator a b)) :
    checkDecorators { source } [] (m.decorators.getD []) =
      .error (.duplicateDecorator decorator a b) := by
  obtain hname | ⟨_, _, h⟩ := bind_eq_error.1 h
  · exact absurd hname (checkName_ne_duplicateDecorator _ _ _)
  · dsimp only at h
    split at h
    · exact absurd (Except.error.inj h) nofun
    · split at h
      · exact absurd (Except.error.inj h) nofun
      · obtain hname | ⟨_, _, h⟩ := bind_eq_error.1 h
        · exact absurd hname (checkName_ne_duplicateDecorator _ _ _)
        · exact h

/-- A decorator is reported for a document that was read as a manifest. -/
lemma exists_of_parse_eq_error {source file : String}
    (h : parse source file = .error (.duplicateDecorator decorator a b)) :
    ∃ entries m, Toml.parse source = some entries ∧ ofEntries entries = .ok m ∧
      m.check source = .error (.duplicateDecorator decorator a b) := by
  obtain hread | ⟨entries, hread, h⟩ := bind_eq_error.1 h
  · exact absurd (elim_eq_error.1 hread).2 nofun
  · obtain hm | ⟨m, hm, h⟩ := bind_eq_error.1 h
    · obtain ⟨_, _, heq⟩ := mapError_eq_error.1 hm
      exact absurd heq nofun
    · refine ⟨entries, m, elim_eq_ok.1 hread, mapError_eq_ok.1 hm, ?_⟩
      exact (bind_eq_error.1 h).resolve_right fun ⟨_, _, hok⟩ => absurd hok nofun

/-- The entries of a text of which one decorator is reported. -/
theorem exists_enablesTwice {source file : String}
    (h : parse source file = .error (.duplicateDecorator decorator a b)) :
    ∃ e₁ e₂, EnablesTwice (Toml.body source) decorator e₁ e₂ := by
  obtain ⟨entries, m, hparse, hm, hcheck⟩ := exists_of_parse_eq_error h
  obtain ⟨d, fuel, hdocument, rfl⟩ := Toml.exists_of_parse hparse
  obtain ⟨_, seen, rest, hnames, hmem, hnodup⟩ :=
    exists_of_checkDecorators (checkDecorators_of_check hcheck) .nil
  rw [List.append_nil, List.mem_reverse] at hmem
  rw [List.append_nil, List.nodup_reverse] at hnodup
  -- The names before the reported one are distinct, and it is one of them.
  obtain ⟨before, between, rfl⟩ := List.append_of_mem hmem
  have hsome : m.decorators = some (before ++ decorator :: between ++ decorator :: rest) := by
    cases hdecorators : m.decorators with
    | none => simp [hdecorators] at hnames
    | some names => rw [← hnames, hdecorators, Option.getD_some]
  obtain ⟨v, hv, hlist⟩ := exists_of_ofEntries hm hsome
  obtain ⟨array, hgives, hvalue⟩ := exists_givesEnabled hdocument hv hlist
  obtain ⟨more, items, htext, hitems, hvalues⟩ := hgives.reads.1.items_of_array hvalue
  simp only [List.map_append, List.map_cons] at hvalues
  obtain ⟨_, last, rfl, hfront, hlast⟩ := List.map_eq_append_iff.1 hvalues
  obtain ⟨first, middle, rfl, hfirst, hmiddle⟩ := List.map_eq_append_iff.1 hfront
  obtain ⟨e₁, middle, rfl, he₁, hbetween⟩ := List.map_eq_cons_iff.1 hmiddle
  obtain ⟨e₂, after, rfl, he₂, _⟩ := List.map_eq_cons_iff.1 hlast
  refine ⟨e₁, e₂, array, more, first, middle, after, hgives, htext, hitems, he₁, he₂,
    fun e he heq => ?_⟩
  have hother : decorator ∈ before ++ between := by
    have hstring : Value.string decorator ∈ (before ++ between).map Value.string := by
      rw [List.map_append, ← hfirst, ← hbetween, ← List.map_append, ← heq]
      exact List.mem_map_of_mem he
    exact (List.mem_map_of_injective fun _ _ => Value.string.inj).1 hstring
  exact (List.nodup_middle.1 hnodup).notMem hother

/-- The entries are pieces of the text, and the second one begins after the first one has ended. -/
lemma EnablesTwice.apart {e₁ e₂ : Piece} (h : EnablesTwice text decorator e₁ e₂) :
    Reads e₁ ∧ Reads e₂ ∧ e₁.text <:+ text ∧ e₂.text <:+ e₁.rest ∧ e₁.value = .string decorator ∧
      e₂.value = .string decorator := by
  obtain ⟨array, more, before, between, after, hgives, htext, hitems, hvalue₁, hvalue₂, _⟩ := h
  have hmore : more <:+ text := (List.suffix_cons '[' more).trans (htext ▸ hgives.reads.2)
  have hmem : ∀ {e}, e ∈ [e₁, e₂] → e ∈ before ++ e₁ :: between ++ e₂ :: after := by
    intro e he
    simp only [List.mem_cons, List.not_mem_nil, or_false] at he
    simp only [List.mem_append, List.mem_cons]
    tauto
  obtain ⟨h₁, htext₁⟩ := hitems.of_mem e₁ (hmem (by simp))
  obtain ⟨h₂, _⟩ := hitems.of_mem e₂ (hmem (by simp))
  have hpair := (List.pairwise_append.1 hitems.pairwise).2.2 e₁ (by simp) e₂ List.mem_cons_self
  exact ⟨h₁, h₂, htext₁.trans hmore, hpair, hvalue₁, hvalue₂⟩

/-! ## Where the spans lie -/

/-- A span covers a value in double quotes, without the quotes. -/
def Covers (text : List Char) (value : String) (a : Span) : Prop :=
  ∃ i, StandsAt (quoted value) text i ∧ a = spanAt text value i

/-- A span and the quotes around it lie in a piece of a text. -/
def Span.LiesIn (a : Span) (text : List Char) (p : Piece) : Prop :=
  String.utf8Len (text.take (p.start text)) < a.start ∧
    a.start + a.length < String.utf8Len (text.take (p.stop text))

/-- A name stands in quotes in one piece first, and next in another one. -/
def QuotedFirstIn (text : List Char) (value : String) (p₁ p₂ : Piece) : Prop :=
  ∃ i j, FirstTwo (quoted value) text i j ∧
    (p₁.start text ≤ i ∧ i + (quoted value).length ≤ p₁.stop text) ∧
    p₂.start text ≤ j ∧ j + (quoted value).length ≤ p₂.stop text

variable {value : String} {i j : Nat} {p : Piece}

/-- A span ends before the closing quote. -/
lemma spanAt_end (h : StandsAt (quoted value) text i) :
    (spanAt text value i).start + (spanAt text value i).length =
      String.utf8Len (text.take (i + (value.length + 1))) := by
  have htake : (text.drop i).take (value.length + 1) = '"' :: value.toList := by
    have hprefix := (List.prefix_append ('"' :: value.toList) ['"']).trans h
    rw [List.prefix_iff_eq_take.1 hprefix, List.length_cons, String.length_toList]
  rw [List.take_add, htake, String.utf8Len_append, String.utf8Len_cons, String.utf8Len_toList]
  exact Nat.add_right_comm _ _ _

/-- What a span covers lies where its quotes do. -/
lemma liesIn_spanAt_iff (h : StandsAt (quoted value) text i) :
    (spanAt text value i).LiesIn text p ↔ p.start text ≤ i ∧
    i + (quoted value).length ≤ p.stop text := by
  have hlength := h.length_le (quoted_ne_nil value)
  rw [length_quoted] at hlength
  have hstart : p.start text ≤ text.length := Nat.sub_le _ _
  have hstop : p.stop text ≤ text.length := Nat.sub_le _ _
  rw [Span.LiesIn, spanAt_end h, utf8Len_take_lt_iff (by omega) hstop, spanAt, Nat.lt_succ_iff,
    ← Nat.not_lt, utf8Len_take_lt_iff (by omega) hstart, length_quoted]
  omega

/-- The first place ends before the second one begins. -/
lemma spanAt_lt (h : FirstTwo (quoted value) text i j) :
    (spanAt text value i).start + (spanAt text value i).length < (spanAt text value j).start := by
  have hapart := h.apart
  have hlength := h.second.length_le (quoted_ne_nil value)
  rw [length_quoted] at hapart hlength
  rw [spanAt_end h.first, spanAt, Nat.lt_succ_iff]
  exact Nat.le_of_lt ((utf8Len_take_lt_iff (by omega) (by omega)).2 (by omega))

lemma standsAt_start {piece : List Char} (h : p.text <:+ text) :
    StandsAt piece text (p.start text) ↔ piece <+: p.text := by
  rw [StandsAt, Piece.start, ← List.suffix_iff_eq_drop.1 h]

/-- Entries in plain quotes are where their name stands first, if it stands nowhere else before the
second one. -/
lemma quotedFirstIn_of_plain {whole : List Char} {e₁ e₂ : Piece} (h : EnablesTwice text value e₁ e₂)
    (hwhole : text <:+ whole) (h₁ : quoted value <+: e₁.text) (h₂ : quoted value <+: e₂.text)
    (hother : ∀ k < e₂.start whole, StandsAt (quoted value) whole k →
      e₁.start whole ≤ k ∧ k < e₁.start whole + (quoted value).length) : QuotedFirstIn whole value
        e₁ e₂ := by
  obtain ⟨hreads₁, hreads₂, htext₁, htext₂, hvalue₁, hvalue₂⟩ := h.apart
  have hwhole₁ := htext₁.trans hwhole
  have hwhole₂ := (htext₂.trans hreads₁.leaves.suffix).trans hwhole₁
  have hlength₁ := (Toml.leaves_of_readString (hreads₁.readString_of_string hvalue₁)).length_le
  have hlength₂ := (Toml.leaves_of_readString (hreads₂.readString_of_string hvalue₂)).length_le
  have hle₁ := hwhole₁.length_le
  have hle₂ := hwhole₂.length_le
  have hbetween := htext₂.length_le
  refine ⟨e₁.start whole, e₂.start whole,
    ⟨(standsAt_start hwhole₁).2 h₁, (standsAt_start hwhole₂).2 h₂, ?_, hother⟩, ?_, ?_⟩
  all_goals
    rw [length_quoted]
    unfold Piece.start
    try unfold Piece.stop
    omega

/-- The name of a decorator that is enabled twice is reported at two places, one after the other,
each of which is the name in double quotes. They are the first two entries for it in the array that
enables decorators if and only if the name stands in quotes first in the one and next in the other:
so it is if both are written in plain quotes, and nothing else before the second one is. -/
theorem duplicate_located {source file decorator : String} {a b : Span}
    (h : parse source file = .error (.duplicateDecorator decorator a b)) :
    a.start + a.length < b.start ∧ Covers source.toList decorator a ∧
    Covers source.toList decorator b ∧
      (∃ e₁ e₂, EnablesTwice (Toml.body source) decorator e₁ e₂) ∧
      ∀ e₁ e₂, EnablesTwice (Toml.body source) decorator e₁ e₂ →
        (a.LiesIn source.toList e₁ ∧ b.LiesIn source.toList e₂ ↔
          QuotedFirstIn source.toList decorator e₁ e₂) ∧
        (quoted decorator <+: e₁.text → quoted decorator <+: e₂.text →
          (∀ k < e₂.start source.toList, StandsAt (quoted decorator) source.toList k →
            e₁.start source.toList ≤ k ∧ k < e₁.start source.toList + (quoted decorator).length) →
          a.LiesIn source.toList e₁ ∧ b.LiesIn source.toList e₂) := by
  obtain ⟨_, _, _, _, hcheck⟩ := exists_of_parse_eq_error h
  obtain ⟨⟨_, hspans⟩, _⟩ := exists_of_checkDecorators (checkDecorators_of_check hcheck) .nil
  obtain ⟨i, j, hplaces, rfl, rfl⟩ := spans_eq_cons_cons hspans
  refine ⟨spanAt_lt hplaces, ⟨i, hplaces.first, rfl⟩, ⟨j, hplaces.second, rfl⟩,
    exists_enablesTwice h, fun e₁ e₂ htwice => ?_⟩
  have hlies : (spanAt source.toList decorator i).LiesIn source.toList e₁ ∧
      (spanAt source.toList decorator j).LiesIn source.toList e₂ ↔
      QuotedFirstIn source.toList decorator e₁ e₂ := by
    rw [liesIn_spanAt_iff hplaces.first, liesIn_spanAt_iff hplaces.second]
    constructor
    · intro hin
      exact ⟨i, j, hplaces, hin⟩
    · intro ⟨i', j', hplaces', hin⟩
      obtain ⟨rfl, rfl⟩ := hplaces.unique hplaces' (quoted_ne_nil decorator)
      exact hin
  refine ⟨hlies, fun h₁ h₂ hother => ?_⟩
  exact hlies.2 (quotedFirstIn_of_plain htwice (Toml.body_suffix source) h₁ h₂ hother)

/-- A manifest that enables `s3` twice. -/
def doubleText : String :=
  "[codegen]\nservice = \"a#B\"\nmodel = \"m\"\nmodule-name = \"b\"\n" ++
    "[decorators]\nenabled = [\"s3\", \"s3\"]\n"

theorem located_of_doubleText :
    parse doubleText = .error (.duplicateDecorator "s3" ⟨81, 2⟩ ⟨87, 2⟩) ∧
    ∃ e₁ e₂, EnablesTwice (Toml.body doubleText) "s3" e₁ e₂ ∧
      Span.LiesIn ⟨81, 2⟩ doubleText.toList e₁ ∧
      Span.LiesIn ⟨87, 2⟩ doubleText.toList e₂ := by
  have hread : parse doubleText = .error (.duplicateDecorator "s3" ⟨81, 2⟩ ⟨87, 2⟩) := by
    decide +kernel
  obtain ⟨_, _, _, ⟨e₁, e₂, htwice⟩, hall⟩ := duplicate_located hread
  obtain ⟨hreads₁, hreads₂, htext₁, htext₂, hvalue₁, hvalue₂⟩ := htwice.apart
  have hwhole₁ := htext₁.trans (Toml.body_suffix doubleText)
  have hwhole₂ := (htext₂.trans hreads₁.leaves.suffix).trans hwhole₁
  -- Only at two places can the name be read as a string, so the entries are there.
  have hchars : doubleText.toList.length = 92 ∧
      (∀ n < 93, (Toml.readString (doubleText.toList.drop n)).map Prod.fst = some "s3" →
        n = 80 ∨ n = 86) ∧
      StandsAt (quoted "s3") doubleText.toList 80 ∧ StandsAt (quoted "s3") doubleText.toList 86 ∧
      ∀ k < 86, StandsAt (quoted "s3") doubleText.toList k → 80 ≤ k ∧
        k < 80 + (quoted "s3").length := by
    decide +kernel
  obtain ⟨hlength, hstring, hfirst, hsecond, hother⟩ := hchars
  have hplace : ∀ {e : Piece}, Reads e → e.value = .string "s3" → e.text <:+ doubleText.toList →
      e.start doubleText.toList = 80 ∨ e.start doubleText.toList = 86 := by
    intro e he hvalue hwhole
    have hle : e.start doubleText.toList ≤ doubleText.toList.length := Nat.sub_le _ _
    refine hstring _ (Nat.lt_succ_of_le (hlength ▸ hle)) ?_
    rw [Piece.start, ← List.suffix_iff_eq_drop.1 hwhole, he.readString_of_string hvalue,
      Option.map_some]
  have hlt : e₁.start doubleText.toList < e₂.start doubleText.toList := by
    have htaken := (Toml.leaves_of_readString (hreads₁.readString_of_string hvalue₁)).length_le
    have hbetween := htext₂.length_le
    have hlength := hwhole₁.length_le
    unfold Piece.start
    omega
  have hstart₁ : e₁.start doubleText.toList = 80 := by
    have h₁ := hplace hreads₁ hvalue₁ hwhole₁
    have h₂ := hplace hreads₂ hvalue₂ hwhole₂
    omega
  have hstart₂ : e₂.start doubleText.toList = 86 := by
    have h₂ := hplace hreads₂ hvalue₂ hwhole₂
    omega
  refine ⟨hread, e₁, e₂, htwice, (hall e₁ e₂ htwice).2 ?_ ?_ ?_⟩
  · rw [← standsAt_start hwhole₁, hstart₁]
    exact hfirst
  · rw [← standsAt_start hwhole₂, hstart₂]
    exact hsecond
  · rw [hstart₁, hstart₂]
    exact hother

/-- A manifest of a crate that is named as a decorator is, which it enables twice. -/
def bucketText : String :=
  "[codegen]\nservice = \"a#B\"\nmodel = \"m\"\nmodule-name = \"s3\"\n" ++
    "[decorators]\nenabled = [\"s3\", \"s3\"]\n"

/-- The first span is at the name of the crate. -/
theorem not_located_of_bucketText :
    parse bucketText = .error (.duplicateDecorator "s3" ⟨53, 2⟩ ⟨82, 2⟩) ∧
    ¬∃ e₁ e₂, EnablesTwice (Toml.body bucketText) "s3" e₁ e₂ ∧
      Span.LiesIn ⟨53, 2⟩ bucketText.toList e₁ ∧
      Span.LiesIn ⟨82, 2⟩ bucketText.toList e₂ := by
  refine ⟨by decide +kernel, fun ⟨e₁, e₂, htwice, ⟨hbefore, _⟩, _⟩ => ?_⟩
  obtain ⟨array, more, before, between, after, hgives, htext, hitems, _⟩ := htwice
  have hwhole : array.text <:+ bucketText.toList := hgives.reads.2.trans (Toml.body_suffix _)
  have hfirst := (hitems.of_mem e₁ (by simp)).2.length_le
  -- An array with an entry before the span begins at the first header, of which no item can be
  -- read.
  have hstart : array.start bucketText.toList = 0 := by
    have hchars : (∀ n < 53, StandsAt ['['] bucketText.toList n → n = 0) ∧
        53 ≤ bucketText.toList.length ∧ String.utf8Len (bucketText.toList.take 53) = 53 := by
      decide +kernel
    obtain ⟨hlast, hlength, hbytes⟩ := hchars
    refine hlast _ ?_ ((standsAt_start hwhole).2 (htext ▸ ⟨more, rfl⟩))
    have hlt : e₁.start bucketText.toList < 53 :=
      (utf8Len_take_lt_iff (Nat.sub_le _ _) hlength).1 (hbytes.symm ▸ hbefore)
    have harray := congrArg List.length htext
    rw [List.length_cons] at harray
    unfold Piece.start at hlt ⊢
    omega
  have hmore : more = bucketText.toList.tail := by
    have hdrop := List.suffix_iff_eq_drop.1 hwhole
    rw [← Piece.start, hstart, List.drop_zero, htext] at hdrop
    exact congrArg List.tail hdrop
  have hitem : ∃ item, Reads item ∧ Toml.skipAll more = item.text := by
    cases before with
    | nil => exact ⟨e₁, hitems.of_cons.1, hitems.of_cons.2.1⟩
    | cons item before => exact ⟨item, hitems.of_cons.1, hitems.of_cons.2.1⟩
  obtain ⟨item, hreads, htext⟩ := hitem
  have hbegins := hreads.begins
  rw [← htext, hmore] at hbegins
  revert hbegins
  decide +kernel

end SdkForge.Manifest
