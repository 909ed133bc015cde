import SdkForge.Proofs.Toml.Draft
import SdkForge.Proofs.Toml.Reader

/-!
# Where values stand in a document

A `Piece` is a value together with the text at which it begins and the text that it leaves. `Reads`
says how the value comes out of the characters between the two, `ReadsItems` and `ReadsEntries` say
it of the items of an array and of the entries of an inline table, and `Gives` that a document gives
the value to a path.

* `reads_of_readValue`: what the readers give is read so, and `Reads.leaves` that nothing is read
  twice.
* `ReadsItems.pairwise`: an item begins after the one before it.
* `exists_gives_of_readDocument`: every value that a document has was given by a piece of its text.
-/

namespace SdkForge.Toml

/-- A value in a text. -/
structure Piece where
  /-- The text, from where the value begins. -/
  text : List Char
  value : Value
  /-- What follows the value. -/
  rest : List Char

/-- How many characters of a whole text stand before a piece. -/
def Piece.start (text : List Char) (p : Piece) : Nat := text.length - p.text.length

/-- How many characters of a whole text stand before what follows a piece. -/
def Piece.stop (text : List Char) (p : Piece) : Nat := text.length - p.rest.length

/-- An entry of an inline table. -/
structure Entry where
  path : List String
  key : String
  piece : Piece

/-- The entries of a table, after those that are there. -/
def defineAll (slots : Slots) (entries : List Entry) : Option Slots :=
  entries.foldlM (fun slots e => Slots.define e.path e.key e.piece.value .opened slots) slots

/-- What follows blanks, comments and line ends. -/
abbrev skipAll (text : List Char) : List Char := skipLines text.length text

mutual
/-- The characters of a piece are its value. -/
inductive Reads : Piece → Prop
  | string {text rest s} : readString text = some (s, rest) → Reads ⟨text, .string s, rest⟩
  | word {text value} : scalar? (readWord text).1 = some value →
      Reads ⟨text, value, (readWord text).2⟩
  | array {text items rest} : ReadsItems text items rest →
      Reads ⟨'[' :: text, .array (items.map Piece.value), rest⟩
  | table {text entries rest slots} : ReadsEntries text entries rest →
      defineAll [] entries = some slots →
      Reads ⟨'\x7b' :: text, .table (byKey (Slots.toEntries slots)), rest⟩
/-- A text has the items of an array, up to its bracket. -/
inductive ReadsItems : List Char → List Piece → List Char → Prop
  | close {text rest} : skipAll text = ']' :: rest → ReadsItems text [] rest
  | last {text item rest} : skipAll text = item.text → Reads item →
      skipAll item.rest = ']' :: rest →
      ReadsItems text [item] rest
  | next {text item more items rest} : skipAll text = item.text → Reads item →
      skipAll item.rest = ',' :: more →
      ReadsItems more items rest → ReadsItems text (item :: items) rest
/-- A text has the entries of an inline table, up to its brace. -/
inductive ReadsEntries : List Char → List Entry → List Char → Prop
  | close {text rest} : skipAll text = '\x7d' :: rest → ReadsEntries text [] rest
  | last {text e named mid rest} : readKey (skipAll text) = some ((e.path, e.key), named) →
      skip? '=' (skipAll named) = some mid → skipAll mid = e.piece.text → Reads e.piece →
      skipAll e.piece.rest = '\x7d' :: rest → ReadsEntries text [e] rest
  | next {text e named mid more entries rest} :
      readKey (skipAll text) = some ((e.path, e.key), named) →
      skip? '=' (skipAll named) = some mid → skipAll mid = e.piece.text → Reads e.piece →
      skipAll e.piece.rest = ',' :: more → ReadsEntries more entries rest →
      ReadsEntries text (e :: entries) rest
end

variable {fuel room : Nat} {text rest : List Char} {value : Value} {items : List Piece}
  {entries : List Entry}

/-! ## What the readers give -/

/-- So much fuel reads only what a text has. -/
structure IsSound (fuel : Nat) : Prop where
  value : ∀ {room text value rest}, readValue fuel room text = some (value, rest) →
    Reads ⟨text, value, rest⟩
  items : ∀ {room read text values rest}, readItems fuel room read text = some (values, rest) →
    ∃ items, ReadsItems text items rest ∧ values = read.reverse ++ items.map Piece.value
  entries : ∀ {room read text slots rest}, readInline fuel room read text = some (slots, rest) →
    ∃ entries, ReadsEntries text entries rest ∧ defineAll read entries = some slots

lemma IsSound.reads_of_succ (h : IsSound fuel)
    (hread : readValue (fuel + 1) room text = some (value, rest)) :
    Reads ⟨text, value, rest⟩ := by
  unfold readValue at hread
  split at hread
  · contradiction
  · next heq =>
    obtain rfl := Nat.succ.inj heq
    obtain ⟨⟨values, _⟩, hvalues, heq⟩ := Option.map_eq_some_iff.1 hread
    obtain ⟨rfl, rfl⟩ := Prod.mk.inj heq
    obtain ⟨items, hitems, rfl⟩ := h.items hvalues
    exact .array hitems
  · next heq =>
    obtain rfl := Nat.succ.inj heq
    obtain ⟨⟨slots, _⟩, hinline, heq⟩ := Option.map_eq_some_iff.1 hread
    obtain ⟨rfl, rfl⟩ := Prod.mk.inj heq
    obtain ⟨entries, hentries, hslots⟩ := h.entries hinline
    exact .table hentries hslots
  · obtain ⟨⟨s, _⟩, hstring, heq⟩ := Option.map_eq_some_iff.1 hread
    obtain ⟨rfl, rfl⟩ := Prod.mk.inj heq
    exact .string hstring
  · obtain ⟨⟨s, _⟩, hstring, heq⟩ := Option.map_eq_some_iff.1 hread
    obtain ⟨rfl, rfl⟩ := Prod.mk.inj heq
    exact .string hstring
  · obtain ⟨_, hword, heq⟩ := Option.map_eq_some_iff.1 hread
    obtain ⟨rfl, rfl⟩ := Prod.mk.inj heq
    exact .word hword

lemma IsSound.readsItems_of_succ (h : IsSound fuel) {read values : List Value}
    (hread : readItems (fuel + 1) room read text = some (values, rest)) :
    ∃ items, ReadsItems text items rest ∧ values = read.reverse ++ items.map Piece.value := by
  rw [readItems] at hread
  split at hread
  · next hclose =>
    obtain ⟨rfl, rfl⟩ := Prod.mk.inj (Option.some.inj hread)
    exact ⟨[], .close hclose, (List.append_nil _).symm⟩
  · simp only [Option.bind_eq_bind, Option.bind_eq_some_iff] at hread
    obtain ⟨⟨item, mid⟩, hitem, hread⟩ := hread
    split at hread
    · next more hcomma =>
      obtain ⟨items, hitems, rfl⟩ := h.items hread
      refine ⟨⟨_, item, mid⟩ :: items, .next rfl (h.value hitem) hcomma hitems, ?_⟩
      rw [List.reverse_cons, List.append_assoc, List.map_cons, List.singleton_append]
    · next hclose =>
      obtain ⟨rfl, rfl⟩ := Prod.mk.inj (Option.some.inj hread)
      exact ⟨[⟨_, item, mid⟩], .last rfl (h.value hitem) hclose, List.reverse_cons⟩
    · contradiction

lemma IsSound.readsEntries_of_succ (h : IsSound fuel) {read slots : Slots}
    (hread : readInline (fuel + 1) room read text = some (slots, rest)) :
    ∃ entries, ReadsEntries text entries rest ∧ defineAll read entries = some slots := by
  rw [readInline] at hread
  split at hread
  · next hclose =>
    obtain ⟨rfl, rfl⟩ := Prod.mk.inj (Option.some.inj hread)
    exact ⟨[], .close hclose, rfl⟩
  · simp only [Option.bind_eq_bind, Option.bind_eq_some_iff] at hread
    obtain ⟨⟨⟨path, key⟩, named⟩, hkey, mid, hmid, ⟨value, after⟩, hvalue, more, hmore, hread⟩ :=
      hread
    split at hread
    · next last hcomma =>
      obtain ⟨entries, hentries, hslots⟩ := h.entries hread
      refine ⟨⟨path, key, ⟨_, value, after⟩⟩ :: entries,
        .next hkey hmid rfl (h.value hvalue) hcomma hentries, ?_⟩
      rw [defineAll, List.foldlM_cons, hmore]
      exact hslots
    · next hclose =>
      obtain ⟨rfl, rfl⟩ := Prod.mk.inj (Option.some.inj hread)
      refine ⟨[⟨path, key, ⟨_, value, after⟩⟩], .last hkey hmid rfl (h.value hvalue) hclose, ?_⟩
      rw [defineAll, List.foldlM_cons, hmore]
      rfl
    · contradiction

lemma isSound (fuel : Nat) : IsSound fuel := by
  -- The three readers call one another with one less.
  induction fuel with
  | zero => constructor <;> intros <;> simp_all [readValue, readItems, readInline]
  | succ fuel ih => exact ⟨ih.reads_of_succ, ih.readsItems_of_succ, ih.readsEntries_of_succ⟩

/-- A value that is read is what its characters say. -/
theorem reads_of_readValue (h : readValue fuel room text = some (value, rest)) :
    Reads ⟨text, value, rest⟩ :=
  (isSound fuel).value h

/-! ## Strings, arrays and tables -/

variable {p : Piece}

/-- A word is no string, no array and no table. -/
lemma ne_of_scalar? {word : List Char} (h : scalar? word = some value) :
    (∀ s, value ≠ .string s) ∧ (∀ values, value ≠ .array values) ∧
    ∀ entries, value ≠ .table entries := by
  unfold scalar? at h
  repeat' split at h
  all_goals first
    | contradiction
    | (obtain rfl := Option.some.inj h
       exact ⟨nofun, nofun, nofun⟩)

/-- A string is read from its quote on. -/
lemma Reads.readString_of_string {s : String} (h : Reads p) (hvalue : p.value = .string s) :
    readString p.text = some (s, p.rest) := by
  cases h with
  | string hread => exact Value.string.inj hvalue ▸ hread
  | word hword => exact absurd hvalue ((ne_of_scalar? hword).1 s)
  | array => contradiction
  | table => contradiction

/-- A piece is a string or a word, or begins with a bracket or a brace. -/
lemma Reads.begins (h : Reads p) :
    (readString p.text).isSome ∨ (scalar? (readWord p.text).1).isSome ∨
    p.text.head? = some '[' ∨ p.text.head? = some '\x7b' := by
  cases h with
  | string hread => exact .inl (hread ▸ rfl)
  | word hword => exact .inr (.inl (hword ▸ rfl))
  | array => exact .inr (.inr (.inl rfl))
  | table => exact .inr (.inr (.inr rfl))

/-- An array is read from its bracket on. -/
lemma Reads.items_of_array {values : List Value} (h : Reads p) (hvalue : p.value = .array values) :
    ∃ more items, p.text = '[' :: more ∧ ReadsItems more items p.rest ∧
      items.map Piece.value = values := by
  cases h with
  | string => contradiction
  | word hword => exact absurd hvalue ((ne_of_scalar? hword).2.1 values)
  | array hitems => exact ⟨_, _, rfl, hitems, Value.array.inj hvalue⟩
  | table => contradiction

/-- An inline table is read from its brace on. -/
lemma Reads.entries_of_table {values : List (String × Value)} (h : Reads p)
    (hvalue : p.value = .table values) :
    ∃ more entries slots, p.text = '\x7b' :: more ∧ ReadsEntries more entries p.rest ∧
      defineAll [] entries = some slots ∧ byKey (Slots.toEntries slots) = values := by
  cases h with
  | string => contradiction
  | word hword => exact absurd hvalue ((ne_of_scalar? hword).2.2 values)
  | array => contradiction
  | table hentries hslots => exact ⟨_, _, _, rfl, hentries, hslots, Value.table.inj hvalue⟩

/-! ## Nothing is read twice -/

/-- After blanks, a mark and what follows it are an end of the text. -/
lemma leaves_of_skipAll {c : Char} (h : skipAll text = c :: rest) : Leaves 0 text rest := by
  have hskip : Leaves 0 text (skipAll text) := leaves_skipLines text.length text
  rw [h] at hskip
  exact (hskip.trans ((leaves_refl rest).cons c)).of_le (Nat.zero_le _)

lemma leaves_of_skipAll_eq {more : List Char} (h : skipAll text = more) : Leaves 0 text more :=
  h ▸ leaves_skipLines text.length text

/-- An entry's value begins after its key. -/
lemma leaves_of_readKey_skip {key : List String × String} {named mid after : List Char}
    (hkey : readKey (skipAll text) = some (key, named))
    (hmid : skip? '=' (skipAll named) = some mid) (hafter : skipAll mid = after) :
    Leaves 0 text after := by
  have hnamed := (leaves_of_skipAll_eq rfl).trans (leaves_of_readKey hkey)
  have hsign := (leaves_of_skipAll_eq rfl).trans (leaves_of_skip? hmid)
  exact (hnamed.trans (hsign.trans (leaves_of_skipAll_eq hafter))).of_le (Nat.zero_le _)

mutual
/-- What a piece leaves is an end of its text. -/
theorem Reads.leaves : ∀ {p : Piece}, Reads p → Leaves 0 p.text p.rest
  | _, .string h => (leaves_of_readString h).of_le (Nat.zero_le _)
  | _, .word _ => leaves_readWord _
  | _, .array h => (h.leaves.cons '[').of_le (Nat.zero_le _)
  | _, .table h _ => (h.leaves.cons '\x7b').of_le (Nat.zero_le _)
theorem ReadsItems.leaves : ∀ {text items rest}, ReadsItems text items rest → Leaves 0 text rest
  | _, _, _, .close hclose => leaves_of_skipAll hclose
  | _, _, _, .last hitem h hclose =>
    (leaves_of_skipAll_eq hitem).trans (h.leaves.trans (leaves_of_skipAll hclose))
  | _, _, _, .next hitem h hcomma hitems =>
    (leaves_of_skipAll_eq hitem).trans
      (h.leaves.trans ((leaves_of_skipAll hcomma).trans hitems.leaves))
theorem ReadsEntries.leaves :
    ∀ {text entries rest}, ReadsEntries text entries rest → Leaves 0 text rest
  | _, _, _, .close hclose => leaves_of_skipAll hclose
  | _, _, _, .last hkey hmid hvalue h hclose =>
    (leaves_of_readKey_skip hkey hmid hvalue).trans (h.leaves.trans (leaves_of_skipAll hclose))
  | _, _, _, .next hkey hmid hvalue h hcomma hentries =>
    (leaves_of_readKey_skip hkey hmid hvalue).trans
      (h.leaves.trans ((leaves_of_skipAll hcomma).trans hentries.leaves))
end

/-! ## Items and entries -/

variable {e : Entry}

/-- The first item of an array, and the text that has the others. -/
lemma ReadsItems.of_cons (h : ReadsItems text (p :: items) rest) :
    Reads p ∧ skipAll text = p.text ∧
    (items = [] ∨ ∃ more, more <:+ p.rest ∧ ReadsItems more items rest) := by
  cases h with
  | last hitem h => exact ⟨h, hitem, .inl rfl⟩
  | next hitem h hcomma hitems =>
    exact ⟨h, hitem, .inr ⟨_, (leaves_of_skipAll hcomma).suffix, hitems⟩⟩

/-- The first entry of an inline table, and the text that has the others. -/
lemma ReadsEntries.of_cons (h : ReadsEntries text (e :: entries) rest) :
    Reads e.piece ∧ e.piece.text <:+ text ∧
    (entries = [] ∨ ∃ more, more <:+ e.piece.rest ∧ ReadsEntries more entries rest) := by
  cases h with
  | last hkey hmid hvalue h => exact ⟨h, (leaves_of_readKey_skip hkey hmid hvalue).suffix, .inl rfl⟩
  | next hkey hmid hvalue h hcomma hentries =>
    exact ⟨h, (leaves_of_readKey_skip hkey hmid hvalue).suffix,
      .inr ⟨_, (leaves_of_skipAll hcomma).suffix, hentries⟩⟩

/-- Pieces that come one after the other in a text are all pieces of it. -/
lemma forall_pieces {α : Type} {piece : α → Piece} {R : List Char → List α → Prop}
    (hcons : ∀ {text first others}, R text (first :: others) → Reads (piece first) ∧
      (piece first).text <:+ text ∧
      (others = [] ∨ ∃ more, more <:+ (piece first).rest ∧ R more others))
    {parts : List α} (h : R text parts) : ∀ a ∈ parts, Reads (piece a) ∧
      (piece a).text <:+ text := by
  induction parts generalizing text with
  | nil => exact List.forall_mem_nil _
  | cons first others ih =>
    obtain ⟨hfirst, htext, hothers⟩ := hcons h
    refine List.forall_mem_cons.2 ⟨⟨hfirst, htext⟩, fun a ha => ?_⟩
    obtain rfl | ⟨more, hmore, hothers⟩ := hothers
    · contradiction
    · obtain ⟨hreads, hafter⟩ := ih hothers a ha
      exact ⟨hreads, hafter.trans (hmore.trans (hfirst.leaves.suffix.trans htext))⟩

/-- The items of an array are pieces of its text. -/
lemma ReadsItems.of_mem (h : ReadsItems text items rest) :
    ∀ p ∈ items, Reads p ∧ p.text <:+ text := by
  refine forall_pieces (R := fun text items => ReadsItems text items rest) (fun h => ?_) h
  obtain ⟨hfirst, hskip, hitems⟩ := h.of_cons
  exact ⟨hfirst, (leaves_of_skipAll_eq hskip).suffix, hitems⟩

/-- The entries of an inline table are pieces of its text. -/
lemma ReadsEntries.of_mem (h : ReadsEntries text entries rest) :
    ∀ e ∈ entries, Reads e.piece ∧ e.piece.text <:+ text :=
  forall_pieces (R := fun text entries => ReadsEntries text entries rest) (fun h => h.of_cons) h

/-- An item begins where the items before it have ended. -/
theorem ReadsItems.pairwise (h : ReadsItems text items rest) :
    items.Pairwise fun p q => q.text <:+ p.rest := by
  induction items generalizing text with
  | nil => exact .nil
  | cons first items ih =>
    obtain ⟨_, _, rfl | ⟨more, hmore, hitems⟩⟩ := h.of_cons
    · exact List.pairwise_singleton _ _
    · exact List.pairwise_cons.2 ⟨fun q hq => (hitems.of_mem q hq).2.trans hmore, ih hitems⟩

/-- What an inline table has comes from an entry. -/
lemma exists_entry_of_has {slots slots' : Slots} {path : List String} {v : Value}
    (h : defineAll slots entries = some slots') (hhas : slots'.Has path v) :
    slots.Has path v ∨ ∃ e ∈ entries, e.path ++ [e.key] = path ∧ e.piece.value = v := by
  induction entries generalizing slots with
  | nil => exact .inl (Option.some.inj h ▸ hhas)
  | cons e entries ih =>
    obtain ⟨mid, hmid, hrest⟩ := Option.bind_eq_some_iff.1 h
    rcases ih hrest with hold | ⟨e', hmem, heq⟩
    · rcases Slots.has_of_define hmid hold with hold | ⟨hpath, hv⟩
      · exact .inl hold
      · exact .inr ⟨e, List.mem_cons_self, hpath.symm, hv.symm⟩
    · exact .inr ⟨e', List.mem_cons_of_mem _ hmem, heq⟩

/-! ## Documents -/

/-- A document, of which `d` is what has been read, gives a value to a path. -/
inductive Gives : Draft → List Char → List String → Piece → Prop
  | here {d text path key named mid p} : readKey (skipAll text) = some ((path, key), named) →
      skip? '=' named = some mid →
      skipSpace mid = p.text → Reads p → Gives d text (d.current ++ path ++ [key]) p
  | later {d d' text more rest path p} : readStatement d (skipAll text) = some (d', rest) →
      endLine? rest = some more →
      Gives d' more path p → Gives d text path p

variable {d d' : Draft} {path : List String} {v : Value}

/-- What a statement adds is the value of its entry. -/
lemma exists_of_readStatement (h : readStatement d text = some (d', rest))
    (hhas : d'.root.Has path v) :
    d.root.Has path v ∨ ∃ key named mid, readKey text = some (key, named) ∧
      skip? '=' named = some mid ∧
      path = d.current ++ key.1 ++ [key.2] ∧ Reads ⟨skipSpace mid, v, rest⟩ := by
  unfold readStatement at h
  split at h
  · simp only [Option.bind_eq_bind, Option.bind_eq_some_iff] at h
    obtain ⟨⟨⟨path', key⟩, named⟩, _, _, _, _, _, opened, hopen, heq⟩ := h
    obtain ⟨rfl, rfl⟩ := Prod.mk.inj (Option.some.inj heq)
    exact .inl (Draft.has_of_openItem hopen hhas)
  · simp only [Option.bind_eq_bind, Option.bind_eq_some_iff] at h
    obtain ⟨⟨⟨path', key⟩, named⟩, _, opened, hopen, _, _, heq⟩ := h
    obtain ⟨rfl, rfl⟩ := Prod.mk.inj (Option.some.inj heq)
    exact .inl (Draft.has_of_openTable hopen hhas)
  · simp only [Option.bind_eq_bind, Option.bind_eq_some_iff] at h
    obtain ⟨⟨⟨path', key⟩, named⟩, hkey, mid, hmid, ⟨value, after⟩, hvalue, defined,
        hdefine, heq⟩ := h
    obtain ⟨rfl, rfl⟩ := Prod.mk.inj (Option.some.inj heq)
    rcases Draft.has_of_define hdefine hhas with hold | ⟨hpath, rfl⟩
    · exact .inl hold
    · exact .inr ⟨(path', key), named, mid, hkey, hmid, hpath, reads_of_readValue hvalue⟩

/-- Every value of a document was given by a piece of its text. -/
theorem exists_gives_of_readDocument (h : readDocument fuel d text = some d')
    (hhas : d'.root.Has path v) :
    d.root.Has path v ∨ ∃ p, Gives d text path p ∧ p.value = v := by
  induction fuel generalizing d text with
  | zero => contradiction
  | succ fuel ih =>
    rw [readDocument] at h
    split at h
    · exact .inl (Option.some.inj h ▸ hhas)
    · simp only [Option.bind_eq_bind, Option.bind_eq_some_iff] at h
      obtain ⟨⟨next, rest⟩, hstatement, more, hend, hrest⟩ := h
      rcases ih hrest with hold | ⟨p, hgives, hv⟩
      · rcases exists_of_readStatement hstatement hold with
          hold | ⟨_, _, mid, hkey, hmid, rfl, hreads⟩
        · exact .inl hold
        · exact .inr ⟨_, .here hkey hmid rfl hreads, rfl⟩
      · exact .inr ⟨p, .later hstatement hend hgives, hv⟩

lemma leaves_of_readStatement (h : readStatement d text = some (d', rest)) :
    Leaves 0 text rest := by
  unfold readStatement at h
  split at h
  · simp only [Option.bind_eq_bind, Option.bind_eq_some_iff] at h
    obtain ⟨⟨⟨path', key⟩, named⟩, hkey, mid, hmid, _, hlast, _, _, heq⟩ := h
    obtain ⟨rfl, rfl⟩ := Prod.mk.inj (Option.some.inj heq)
    have hbrackets := (leaves_of_skip? hmid).trans (leaves_of_skip? hlast)
    exact ((((leaves_of_readKey hkey).trans hbrackets).cons '[').cons '[').of_le (Nat.zero_le _)
  · simp only [Option.bind_eq_bind, Option.bind_eq_some_iff] at h
    obtain ⟨⟨⟨path', key⟩, named⟩, hkey, _, _, _, hlast, heq⟩ := h
    obtain ⟨rfl, rfl⟩ := Prod.mk.inj (Option.some.inj heq)
    exact (((leaves_of_readKey hkey).trans (leaves_of_skip? hlast)).cons '[').of_le (Nat.zero_le _)
  · simp only [Option.bind_eq_bind, Option.bind_eq_some_iff] at h
    obtain ⟨⟨⟨path', key⟩, named⟩, hkey, mid, hmid, ⟨value, after⟩, hvalue, _, _, heq⟩ := h
    obtain ⟨rfl, rfl⟩ := Prod.mk.inj (Option.some.inj heq)
    have hmid := (leaves_of_readKey hkey).trans (leaves_of_skip? hmid)
    exact (hmid.trans ((leaves_skipSpace mid).trans (reads_of_readValue hvalue).leaves)).of_le
      (Nat.zero_le _)

lemma leaves_of_endLine? (h : endLine? text = some rest) : Leaves 0 text rest := by
  have hcomment := leaves_skipComment text
  unfold endLine? at h
  split at h
  · next heq =>
    obtain rfl := Option.some.inj h
    exact heq ▸ hcomment
  · exact (hcomment.trans (leaves_of_lineEnd? h)).of_le (Nat.zero_le _)

/-- A document gives pieces of its text. -/
theorem Gives.reads (h : Gives d text path p) : Reads p ∧ p.text <:+ text := by
  induction h with
  | here hkey hmid hvalue hreads =>
    have hmid := (leaves_of_readKey hkey).trans (leaves_of_skip? hmid)
    exact ⟨hreads,
      ((leaves_of_skipAll_eq rfl).trans (hmid.trans (hvalue ▸ leaves_skipSpace _))).suffix⟩
  | later hstatement hend _ ih =>
    have hmore := (leaves_of_readStatement hstatement).trans (leaves_of_endLine? hend)
    exact ⟨ih.1, ih.2.trans ((leaves_of_skipAll_eq rfl).trans hmore).suffix⟩

/-- A document without the byte order mark that may stand before it. -/
def body (text : String) : List Char :=
  match text.toList with
  | '\ufeff' :: rest => rest
  | chars => chars

lemma body_suffix (text : String) : body text <:+ text.toList := by
  unfold body
  split
  · next heq => exact heq ▸ List.suffix_cons _ _
  · exact List.suffix_refl _

/-- The entries that are read are those of a document. -/
lemma exists_of_parse {text : String} {read : List (String × Value)} (h : parse text = some read) :
    ∃ d fuel, readDocument fuel {} (body text) = some d ∧ d.entries = read := by
  obtain ⟨d, hd, heq⟩ := Option.map_eq_some_iff.1 h
  exact ⟨d, _, hd, heq⟩

end SdkForge.Toml
