import Mathlib.Tactic.Common
import SdkForge.Toml.Draft

/-!
# Where the values of a table come from

A document adds to its tables one value at a time. `Slots.Has` says that a value was given to a
path, by name or through tables that headers and dotted keys opened.

* `has_of_update`: a change at the end of a path brings nothing new but what it brings there.
* `has_of_define`: an entry brings its own value only.
* `has_of_openTable` and `has_of_openItem`: headers bring none.
* `has_of_mem_byKey`: what a finished table has under a key was given to it, but for tables put
  together and arrays of them.
-/

namespace SdkForge.Toml

namespace Slots

/-- A path was given a value. -/
inductive Has : Slots → List String → Value → Prop
  | value {slots key v} : (key, .value v) ∈ slots → Has slots [key] v
  | table {slots key origin inner path v} : (key, .table origin inner) ∈ slots → Has inner path v →
      Has slots (key :: path) v

variable {slots slots' inner : Slots} {slot slot' : Slot} {key key' : String}
  {path path' : List String} {v v' : Value} {dotted : Bool} {origin : Origin}

lemma not_has_nil : ¬Has [] path v := by
  intro h
  cases h <;> contradiction

lemma mem_of_lookup {entries : Slots} (h : entries.lookup key = some slot) :
    (key, slot) ∈ entries := by
  obtain ⟨before, after, rfl, _⟩ := List.lookup_eq_some_iff.1 h
  exact List.mem_append_right _ List.mem_cons_self

lemma mem_of_mem_set (h : (key', slot') ∈ slots.set key slot) :
    (key', slot') ∈ slots ∨ key' = key ∧ slot' = slot := by
  unfold set at h
  split at h
  · obtain ⟨entry, hentry, heq⟩ := List.mem_map.1 h
    split at heq
    · exact .inr (Prod.mk.inj heq.symm)
    · exact .inl (heq ▸ hentry)
  · exact (List.mem_append.1 h).imp id fun hnew => Prod.mk.inj (List.mem_singleton.1 hnew)

/-- What a table has after a slot was set, it had before or in that slot. -/
lemma has_of_has_set (h : Has (slots.set key slot) path v) :
    Has slots path v ∨ path = [key] ∧ slot = .value v ∨
      ∃ origin inner path', slot = .table origin inner ∧ path = key :: path' ∧
        Has inner path' v := by
  cases h with
  | value hmem =>
    rcases mem_of_mem_set hmem with hold | ⟨rfl, hslot⟩
    · exact .inl (.value hold)
    · exact .inr (.inl ⟨rfl, hslot.symm⟩)
  | @table _ _ origin inner path' _ hmem hinner =>
    rcases mem_of_mem_set hmem with hold | ⟨rfl, hslot⟩
    · exact .inl (.table hold hinner)
    · exact .inr (.inr ⟨origin, inner, path', hslot.symm, rfl, hinner⟩)

/-- If a change brings only what `P` says, then at the end of a path it brings only that below the
path. -/
lemma has_of_update {f : Origin → Slots → Option Slots} {P : List String → Value → Prop}
    (hf : ∀ {origin slots slots' path v}, f origin slots = some slots' → Has slots' path v →
      Has slots path v ∨ P path v)
    (h : update dotted f path' origin slots = some slots') (hhas : Has slots' path v) :
    Has slots path v ∨ ∃ below, path = path' ++ below ∧ P below v := by
  induction path' generalizing origin slots slots' path with
  | nil => exact (hf h hhas).imp id fun hnew => ⟨path, rfl, hnew⟩
  | cons key path' ih =>
    have hset :
        ∀ {origin origin' before after}, (∀ {path}, Has before path v → Has slots (key :: path) v) →
        update dotted f path' origin' before = some after →
        Has (slots.set key (.table origin after)) path v →
        Has slots path v ∨ ∃ below, path = key :: path' ++ below ∧ P below v := by
      intro origin origin' before after hbefore hafter hhas
      rcases has_of_has_set hhas with hold | ⟨_, hslot⟩ | ⟨_, _, path, hslot, rfl, hinner⟩
      · exact .inl hold
      · contradiction
      · obtain ⟨_, rfl⟩ := Slot.table.inj hslot
        rcases ih hafter hinner with hold | ⟨below, rfl, hnew⟩
        · exact .inl (hbefore hold)
        · exact .inr ⟨below, rfl, hnew⟩
    -- The key has a table that is new or was there, or a series of tables, into which no path is
    -- followed.
    rw [update] at h
    split at h
    · obtain ⟨after, hafter, heq⟩ := Option.bind_eq_some_iff.1 h
      rw [← Option.some.inj heq] at hhas
      exact hset (fun hnil => absurd hnil not_has_nil) hafter hhas
    · next inner hlookup =>
      split at h
      · contradiction
      · obtain ⟨after, hafter, heq⟩ := Option.bind_eq_some_iff.1 h
        rw [← Option.some.inj heq] at hhas
        exact hset (.table (mem_of_lookup hlookup)) hafter hhas
    · obtain ⟨after, _, heq⟩ := Option.bind_eq_some_iff.1 h
      rw [← Option.some.inj heq] at hhas
      rcases has_of_has_set hhas with hold | ⟨_, hslot⟩ | ⟨_, _, _, hslot, _, _⟩
      · exact .inl hold
      · contradiction
      · contradiction
    · contradiction

/-- A change that brings nothing where it is made brings nothing at all. -/
lemma has_of_update_of_nothing {f : Origin → Slots → Option Slots}
    (hf : ∀ {origin slots slots' path v}, f origin slots = some slots' → Has slots' path v →
      Has slots path v)
    (h : update dotted f path' origin slots = some slots') (hhas : Has slots' path v) :
    Has slots path v := by
  have hnew :=
    has_of_update (P := fun _ _ => False) (fun hchange hhas => .inl (hf hchange hhas)) h hhas
  exact hnew.resolve_right fun ⟨_, _, hnone⟩ => hnone

/-- An entry brings its own value only. -/
theorem has_of_define (h : define path' key v' origin slots = some slots')
    (hhas : Has slots' path v) :
    Has slots path v ∨ path = path' ++ [key] ∧ v = v' := by
  have hnew := has_of_update (P := fun below v => below = [key] ∧ v = v') ?_ h hhas
  · exact hnew.imp id fun ⟨below, hpath, hbelow, hv⟩ => ⟨hbelow ▸ hpath, hv⟩
  · intro origin slots slots' path v hset hhas
    split at hset
    · contradiction
    · rw [← Option.some.inj hset] at hhas
      rcases has_of_has_set hhas with hold | ⟨hpath, hslot⟩ | ⟨_, _, _, hslot, _, _⟩
      · exact .inl hold
      · exact .inr ⟨hpath, (Slot.value.inj hslot).symm⟩
      · contradiction

end Slots

namespace Draft

open Slots

variable {d d' : Draft} {path path' : List String} {key : String} {v v' : Value}

/-- An entry brings its own value only, in the table that is open. -/
theorem has_of_define (h : d.define path' key v' = some d') (hhas : Has d'.root path v) :
    Has d.root path v ∨ path = d.current ++ path' ++ [key] ∧ v = v' := by
  obtain ⟨root, hroot, heq⟩ := Option.bind_eq_some_iff.1 h
  rw [← Option.some.inj heq] at hhas
  rcases has_of_update Slots.has_of_define hroot hhas with hold | ⟨below, rfl, rfl, hv⟩
  · exact .inl hold
  · exact .inr ⟨(List.append_assoc ..).symm, hv⟩

/-- A header brings no value. -/
theorem has_of_openTable (h : d.openTable path' key = some d') (hhas : Has d'.root path v) :
    Has d.root path v := by
  obtain ⟨root, hroot, heq⟩ := Option.bind_eq_some_iff.1 h
  rw [← Option.some.inj heq] at hhas
  refine has_of_update_of_nothing ?_ hroot hhas
  intro origin slots slots' path v hset hhas
  split at hset
  · rw [← Option.some.inj hset] at hhas
    rcases has_of_has_set hhas with hold | ⟨_, hslot⟩ | ⟨_, _, _, hslot, _, hinner⟩
    · exact hold
    · contradiction
    · obtain ⟨_, rfl⟩ := Slot.table.inj hslot
      exact absurd hinner not_has_nil
  · next inner hlookup =>
    rw [← Option.some.inj hset] at hhas
    rcases has_of_has_set hhas with hold | ⟨_, hslot⟩ | ⟨_, _, _, hslot, rfl, hinner⟩
    · exact hold
    · contradiction
    · obtain ⟨_, rfl⟩ := Slot.table.inj hslot
      exact .table (mem_of_lookup hlookup) hinner
  · contradiction

/-- A header of an array of tables brings no value. -/
theorem has_of_openItem (h : d.openItem path' key = some d') (hhas : Has d'.root path v) :
    Has d.root path v := by
  obtain ⟨root, hroot, heq⟩ := Option.bind_eq_some_iff.1 h
  rw [← Option.some.inj heq] at hhas
  refine has_of_update_of_nothing ?_ hroot hhas
  intro origin slots slots' path v hset hhas
  have hseries : ∀ {earlier last}, Has (slots.set key (.series earlier last)) path v →
      Has slots path v := by
    intro earlier last hhas
    rcases has_of_has_set hhas with hold | ⟨_, hslot⟩ | ⟨_, _, _, hslot, _, _⟩
    · exact hold
    · contradiction
    · contradiction
  split at hset
  · exact hseries (Option.some.inj hset ▸ hhas)
  · exact hseries (Option.some.inj hset ▸ hhas)
  · contradiction

end Draft

/-! ## What the finished tables have -/

lemma mem_placeByKey {entry other : String × Value} {entries : List (String × Value)} :
    other ∈ placeByKey entry entries ↔ other = entry ∨ other ∈ entries := by
  induction entries with
  | nil => simp [placeByKey]
  | cons first rest ih =>
    rw [placeByKey]
    split
    · exact List.mem_cons
    · rw [List.mem_cons, ih, List.mem_cons]
      exact or_left_comm

lemma mem_byKey {entry : String × Value} {entries : List (String × Value)} :
    entry ∈ byKey entries ↔ entry ∈ entries := by
  induction entries with
  | nil => rfl
  | cons first rest ih =>
    rw [byKey, List.foldr_cons, mem_placeByKey, List.mem_cons]
    exact or_congr_right ih

lemma mem_toEntries {slots : Slots} {key : String} {v : Value} :
    (key, v) ∈ Slots.toEntries slots ↔ ∃ slot, (key, slot) ∈ slots ∧ slot.toValue = v := by
  induction slots with
  | nil => simp [Slots.toEntries]
  | cons first rest ih =>
    obtain ⟨key', slot⟩ := first
    rw [Slots.toEntries, List.mem_cons, ih]
    constructor
    · rintro (heq | ⟨slot', hmem, hv⟩)
      · obtain ⟨rfl, rfl⟩ := Prod.mk.inj heq
        exact ⟨slot, List.mem_cons_self, rfl⟩
      · exact ⟨slot', List.mem_cons_of_mem _ hmem, hv⟩
    · rintro ⟨slot', hmem, rfl⟩
      rcases List.mem_cons.1 hmem with heq | hmem
      · obtain ⟨rfl, rfl⟩ := Prod.mk.inj heq
        exact .inl rfl
      · exact .inr ⟨slot', hmem, rfl⟩

/-- What stands under a key was given to the key, or is a table put together, or an array of tables,
which has one at least. -/
theorem has_of_mem_byKey {slots : Slots} {key : String} {v : Value}
    (h : (key, v) ∈ byKey (Slots.toEntries slots)) :
    slots.Has [key] v ∨
      (∃ origin inner, (key, .table origin inner) ∈ slots ∧
        v = .table (byKey (Slots.toEntries inner))) ∨
      ∃ first others, v = .array (.table first :: others) := by
  obtain ⟨slot, hmem, rfl⟩ := mem_toEntries.1 (mem_byKey.1 h)
  cases slot with
  | value v => exact .inl (.value hmem)
  | table origin inner => exact .inr (.inl ⟨origin, inner, hmem, rfl⟩)
  | series earlier last =>
    cases earlier with
    | nil => exact .inr (.inr ⟨_, _, rfl⟩)
    | cons first earlier => exact .inr (.inr ⟨_, _, rfl⟩)

end SdkForge.Toml
