/-!
# Maps kept in the order of their keys

A map is the list of its entries by increasing key, so two maps with the same entries are equal and
walking through one needs no sorting. `get?` is the view: `get?_empty`, `get?_insert`, `get?_erase`
say what each operation does to it.
-/

namespace SdkForge

/-- Entries by strictly increasing key. -/
structure OrderedMap (κ ν : Type) [Ord κ] where
  entries : List (κ × ν)
  sorted : entries.Pairwise fun a b => compare a.1 b.1 = .lt

namespace OrderedMap

variable {κ ν : Type} [Ord κ]

/-! ## Operations -/

/-- The map without entries. -/
def empty : OrderedMap κ ν := ⟨[], .nil⟩

instance : EmptyCollection (OrderedMap κ ν) := ⟨empty⟩
instance : Inhabited (OrderedMap κ ν) := ⟨empty⟩

instance [DecidableEq κ] [DecidableEq ν] : DecidableEq (OrderedMap κ ν) := fun a b =>
  decidable_of_iff (a.entries = b.entries) ⟨fun h => by
    cases a; cases b; simp_all, fun h => h ▸ rfl⟩

/-- The value of a key in a list of entries. -/
def lookup (key : κ) (entries : List (κ × ν)) : Option ν :=
  (entries.find? fun entry => compare key entry.1 == .eq).map (·.2)

/-- The value of a key. -/
def get? (m : OrderedMap κ ν) (key : κ) : Option ν := lookup key m.entries

/-- Whether the key has a value. -/
def contains (m : OrderedMap κ ν) (key : κ) : Bool := (m.get? key).isSome

/-- The number of entries. -/
def size (m : OrderedMap κ ν) : Nat := m.entries.length

/-- The keys, increasing. -/
def keys (m : OrderedMap κ ν) : List κ := m.entries.map (·.1)

/-- The values, in the order of their keys. -/
def values (m : OrderedMap κ ν) : List ν := m.entries.map (·.2)

/-- Puts an entry where its key belongs, in place of one with the same key. -/
def place (key : κ) (value : ν) : List (κ × ν) → List (κ × ν)
  | [] => [(key, value)]
  | entry :: rest =>
    match compare key entry.1 with
    | .lt => (key, value) :: entry :: rest
    | .eq => (key, value) :: rest
    | .gt => entry :: place key value rest

/-- The map without a key. -/
def erase (m : OrderedMap κ ν) (key : κ) : OrderedMap κ ν :=
  ⟨m.entries.filter fun entry => compare key entry.1 != .eq, m.sorted.filter _⟩

theorem mem_place {key : κ} {value : ν} {entries : List (κ × ν)} {entry : κ × ν}
    (h : entry ∈ place key value entries) : entry = (key, value) ∨ entry ∈ entries := by
  induction entries with
  | nil => simpa [place] using h
  | cons first rest ih =>
    unfold place at h
    split at h <;> simp only [List.mem_cons] at h ⊢
    · simpa using h
    · rcases h with h | h <;> simp [h]
    · rcases h with h | h
      · simp [h]
      · rcases ih h with h | h <;> simp [h]

variable [Std.TransOrd κ] [Std.LawfulEqOrd κ]

theorem sorted_place {key : κ} {value : ν} {entries : List (κ × ν)}
    (h : entries.Pairwise fun a b => compare a.1 b.1 = .lt) :
    (place key value entries).Pairwise fun a b => compare a.1 b.1 = .lt := by
  induction entries with
  | nil => simp [place]
  | cons first rest ih =>
    obtain ⟨hfirst, hrest⟩ := List.pairwise_cons.1 h
    unfold place
    split
    · rename_i hlt
      refine List.pairwise_cons.2 ⟨fun e he => ?_, h⟩
      rcases List.mem_cons.1 he with rfl | he
      · exact hlt
      · exact Std.TransCmp.lt_trans hlt (hfirst e he)
    · rename_i heq
      have hk : key = first.1 := Std.LawfulEqCmp.eq_of_compare heq
      exact List.pairwise_cons.2 ⟨fun e he => by simpa [hk] using hfirst e he, hrest⟩
    · rename_i hgt
      refine List.pairwise_cons.2 ⟨fun e he => ?_, ih hrest⟩
      rcases mem_place he with rfl | he
      · exact Std.OrientedCmp.lt_of_gt hgt
      · exact hfirst e he

/-- The map with a key set to a value. -/
def insert (m : OrderedMap κ ν) (key : κ) (value : ν) : OrderedMap κ ν :=
  ⟨place key value m.entries, sorted_place m.sorted⟩

/-- The map of a list of entries, in which the last entry of a key counts. -/
def ofList (entries : List (κ × ν)) : OrderedMap κ ν :=
  entries.foldl (fun m entry => m.insert entry.1 entry.2) empty

/-! ## The view -/

omit [Std.TransOrd κ] [Std.LawfulEqOrd κ] in
@[simp] theorem get?_empty (key : κ) : (empty : OrderedMap κ ν).get? key = none := rfl

omit [Std.TransOrd κ] [Std.LawfulEqOrd κ] in
theorem lookup_cons (key : κ) (entry : κ × ν) (rest : List (κ × ν)) :
    lookup key (entry :: rest) = if compare key entry.1 = .eq then some entry.2
      else lookup key rest := by
  unfold lookup
  by_cases h : compare key entry.1 = .eq <;> simp [h]

omit [Std.TransOrd κ] in
theorem lookup_place [DecidableEq κ] (key other : κ) (value : ν) (entries : List (κ × ν)) :
    lookup other (place key value entries) = if other = key then some value
      else lookup other entries := by
  have heq : ∀ a b : κ, compare a b = .eq ↔ a = b := fun a b => Std.LawfulEqCmp.compare_eq_iff_eq
  induction entries with
  | nil => simp [place, lookup_cons, heq]
  | cons first rest ih =>
    unfold place
    split
    · simp [lookup_cons, heq]
    · rename_i h
      have hk : key = first.1 := (heq _ _).1 h
      by_cases ho : other = key <;> simp [lookup_cons, heq, ← hk, ho]
    · rename_i h
      have hk : key ≠ first.1 := fun e => by simp [(heq _ _).2 e] at h
      simp only [lookup_cons, heq, ih]
      by_cases ho : other = key
      · simp [ho, hk]
      · simp [ho]

omit [Std.TransOrd κ] in
/-- A value that is found is an entry. -/
theorem mem_entries_of_get? {m : OrderedMap κ ν} {key : κ} {value : ν}
    (h : m.get? key = some value) :
    (key, value) ∈ m.entries := by
  obtain ⟨entry, hfind, rfl⟩ := Option.map_eq_some_iff.1 h
  have heq : key = entry.1 := by
    simpa [Std.LawfulEqCmp.compare_eq_iff_eq] using List.find?_some hfind
  exact heq ▸ List.mem_of_find?_eq_some hfind

omit [Std.TransOrd κ] in
theorem lookup_of_mem {key : κ} {value : ν} {entries : List (κ × ν)}
    (hsorted : entries.Pairwise fun a b => compare a.1 b.1 = .lt) (hmem : (key, value) ∈ entries) :
    lookup key entries = some value := by
  induction entries with
  | nil => simp at hmem
  | cons first rest ih =>
    obtain ⟨hfirst, hrest⟩ := List.pairwise_cons.1 hsorted
    rw [lookup_cons]
    rcases List.mem_cons.1 hmem with rfl | hmem
    · rw [if_pos Std.ReflCmp.compare_self]
    · have hlt : compare first.1 key = .lt := hfirst _ hmem
      rw [if_neg fun heq => by simp [Std.LawfulEqCmp.eq_of_compare heq,
        Std.ReflCmp.compare_self] at hlt, ih hrest hmem]

omit [Std.TransOrd κ] in
/-- The values that are found are those of the entries. -/
theorem get?_eq_some_iff {m : OrderedMap κ ν} {key : κ} {value : ν} :
    m.get? key = some value ↔ (key, value) ∈ m.entries :=
  ⟨mem_entries_of_get?, lookup_of_mem m.sorted⟩

omit [Std.TransOrd κ] in
theorem mem_values {m : OrderedMap κ ν} {value : ν} :
    value ∈ m.values ↔ ∃ key, m.get? key = some value := by
  simp [values, get?_eq_some_iff]

omit [Std.TransOrd κ] in
/-- No key has two entries. -/
theorem nodup_keys (m : OrderedMap κ ν) : m.keys.Nodup := by
  refine List.pairwise_map.2 (m.sorted.imp fun {a b} hlt heq => ?_)
  simp [heq] at hlt

theorem get?_insert [DecidableEq κ] (m : OrderedMap κ ν) (key other : κ) (value : ν) :
    (m.insert key value).get? other = if other = key then some value else m.get? other :=
  lookup_place key other value m.entries

omit [Std.TransOrd κ] in
theorem mem_keys {m : OrderedMap κ ν} {key : κ} :
    key ∈ m.keys ↔ ∃ value, m.get? key = some value := by
  simp [keys, get?_eq_some_iff]

/-- The keys of a list of entries are those of its entries. -/
theorem mem_keys_ofList [DecidableEq κ] {entries : List (κ × ν)} {key : κ} :
    key ∈ (ofList entries).keys ↔ key ∈ entries.map (·.1) := by
  have hfold : ∀ m : OrderedMap κ ν,
      key ∈ (entries.foldl (fun m entry => m.insert entry.1 entry.2) m).keys ↔ key ∈ m.keys ∨
      key ∈ entries.map (·.1) := by
    induction entries with
    | nil => simp
    | cons first rest ih =>
      intro m
      have hfirst : key ∈ (m.insert first.1 first.2).keys ↔ key ∈ m.keys ∨ key = first.1 := by
        simp only [mem_keys, get?_insert]
        by_cases hkey : key = first.1 <;> simp [hkey]
      rw [List.foldl_cons, ih, hfirst, List.map_cons, List.mem_cons, or_assoc]
  have hempty : key ∉ (empty : OrderedMap κ ν).keys := by simp [mem_keys]
  rw [ofList, hfold, or_iff_right hempty]

omit [Std.TransOrd κ] in
theorem get?_erase [DecidableEq κ] (m : OrderedMap κ ν) (key other : κ) :
    (m.erase key).get? other = if other = key then none else m.get? other := by
  have heq : ∀ a b : κ, compare a b = .eq ↔ a = b := fun a b => Std.LawfulEqCmp.compare_eq_iff_eq
  obtain ⟨entries, sorted⟩ := m
  simp only [get?, erase]
  clear sorted
  induction entries with
  | nil => simp [lookup]
  | cons first rest ih =>
    simp only [List.filter_cons, bne_iff_ne, ne_eq, heq]
    by_cases hk : key = first.1
    · simp only [hk, not_true_eq_false, ↓reduceIte, lookup_cons, heq]
      rw [hk] at ih
      rw [ih]
      by_cases ho : other = first.1 <;> simp [ho]
    · simp only [hk, not_false_eq_true, ↓reduceIte, lookup_cons, heq, ih]
      by_cases ho : other = first.1
      · have : other ≠ key := fun e => hk (e ▸ ho)
        simp [ho, Ne.symm hk]
      · simp [ho]

end OrderedMap

end SdkForge
