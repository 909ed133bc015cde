import Mathlib.Data.List.Nodup
import SdkForge.Crate.ServiceBuilder
import SdkForge.Lint
import SdkForge.Proofs.Outcome

/-!
# The slots of a builder

A builder has a slot for each operation, and a lint looks for operations that would have one field
before there are slots.

* `Lint.nodup_of_operationNaming` says that operations of which the lint reports nothing have
  different fields.
* `Slot.add_eq_ok` says when a slot is added, and `Slot.exists_foldlM` when all slots can be.
* `Blueprint.operations_of_slots` says that the slots are those of the service's operations, and
  `Blueprint.named_of_slots` and `Blueprint.marked_of_slots` how they and their types are named.
-/

namespace SdkForge

open Outcome

/-! ## What the lint lets pass -/

namespace Lint

lemma collisions_cons_eq_nil {seen : List (String × ShapeId)} {first : ShapeId}
    {rest : List ShapeId} :
    collisions seen (first :: rest) = [] ↔ seen.lookup (Project.operationField first) = none ∧
      collisions ((Project.operationField first, first) :: seen) rest = [] := by
  rw [collisions]
  cases seen.lookup (Project.operationField first) <;> simp

/-- Where no operation collides with an earlier one, all have different fields. -/
lemma nodup_of_collisions_eq_nil {seen : List (String × ShapeId)} {ids : List ShapeId}
    (h : collisions seen ids = []) :
    (∀ id ∈ ids, seen.lookup (Project.operationField id) = none) ∧
    (ids.map Project.operationField).Nodup := by
  induction ids generalizing seen with
  | nil => simp
  | cons first rest ih =>
    obtain ⟨hfirst, hrest⟩ := collisions_cons_eq_nil.1 h
    obtain ⟨hnew, hnodup⟩ := ih hrest
    have hdiffer : ∀ id ∈ rest, Project.operationField id ≠ Project.operationField first := by
      intro id hmem heq
      have hnone := hnew id hmem
      rw [heq, List.lookup_cons_self] at hnone
      contradiction
    refine ⟨?_, ?_⟩
    · intro id hmem
      rcases List.mem_cons.1 hmem with rfl | hmem
      · exact hfirst
      · have hnone := hnew id hmem
        rwa [List.lookup_cons, beq_false_of_ne (hdiffer id hmem)] at hnone
    · rw [List.map_cons, List.nodup_cons]
      refine ⟨fun hmem => ?_, hnodup⟩
      obtain ⟨id, hid, heq⟩ := List.mem_map.1 hmem
      exact hdiffer id hid heq

/-- Operations that pass the check of their names have different fields. -/
theorem nodup_of_operationNaming {p : Project} {operations : List Shape}
    (hoperations : p.operations = .ok operations) (h : operationNaming.check p = []) :
    (operations.map fun operation => Project.operationField operation.id).Nodup := by
  simp only [operationNaming, hoperations, List.map_eq_nil_iff] at h
  simpa [Function.comp_def] using (nodup_of_collisions_eq_nil h).2

end Lint

/-! ## Slots -/

namespace Crate

namespace Slot

variable {b : Blueprint} {slots slots' : List Slot} {operation : Shape}

/-- A slot is added if its field is new and the operation has a symbol. -/
lemma add_eq_ok : add b slots operation = .ok slots' ↔
    (∀ slot ∈ slots, slot.field ≠ Naming.fieldName operation.id.name) ∧
    ∃ symbol, b.symbols.expect operation.id = .ok symbol ∧
      slots' = slots ++ [⟨operation, Naming.fieldName operation.id.name, setterOf operation.id,
        symbol.fullName⟩] := by
  unfold add
  dsimp only
  cases hfind : slots.find? (·.field == Naming.fieldName operation.id.name) with
  | some first =>
    have hfield : first.field = Naming.fieldName operation.id.name := by
      simpa using List.find?_some hfind
    have hmem : first ∈ slots := List.mem_of_find?_eq_some hfind
    simp only [bind_eq_ok]
    constructor
    · rintro ⟨_, hthrow, _⟩
      contradiction
    · rintro ⟨hnew, _⟩
      exact absurd hfield (hnew first hmem)
  | none =>
    have hnew : ∀ slot ∈ slots, slot.field ≠ Naming.fieldName operation.id.name := by
      simpa using List.find?_eq_none.1 hfind
    simp only [bind_eq_ok, pure_eq_ok]
    constructor
    · rintro ⟨symbol, hsymbol, rfl⟩
      exact ⟨hnew, symbol, hsymbol, rfl⟩
    · rintro ⟨_, symbol, hsymbol, rfl⟩
      exact ⟨symbol, hsymbol, rfl⟩

lemma operations_of_foldlM {operations : List Shape}
    (h : operations.foldlM (add b) slots = .ok slots') :
    slots'.map (·.operation) = slots.map (·.operation) ++ operations := by
  induction operations generalizing slots with
  | nil => simp [pure_eq_ok.1 h]
  | cons first rest ih =>
    simp only [List.foldlM_cons, bind_eq_ok] at h
    obtain ⟨next, hfirst, hrest⟩ := h
    obtain ⟨_, symbol, _, rfl⟩ := add_eq_ok.1 hfirst
    rw [ih hrest]
    simp

/-- The slot has its names from its operation. -/
def IsNamed (s : Slot) : Prop :=
  s.field = Naming.fieldName s.operation.id.name ∧ s.setter = setterOf s.operation.id

/-- The slot has the type of its operation's symbol. -/
def IsMarked (b : Blueprint) (s : Slot) : Prop :=
  ∃ symbol, b.symbols.expect s.operation.id = .ok symbol ∧ s.marker = symbol.fullName

/-- What every added slot has, all slots have. -/
lemma forall_of_foldlM {P : Slot → Prop} {operations : List Shape}
    (hadd : ∀ operation symbol, b.symbols.expect operation.id = .ok symbol →
      P ⟨operation, Naming.fieldName operation.id.name, setterOf operation.id, symbol.fullName⟩)
    (hslots : ∀ s ∈ slots, P s) (h : operations.foldlM (add b) slots = .ok slots') :
    ∀ s ∈ slots', P s := by
  induction operations generalizing slots with
  | nil => exact pure_eq_ok.1 h ▸ hslots
  | cons first rest ih =>
    simp only [List.foldlM_cons, bind_eq_ok] at h
    obtain ⟨next, hfirst, hrest⟩ := h
    obtain ⟨_, symbol, hsymbol, rfl⟩ := add_eq_ok.1 hfirst
    exact ih (List.forall_mem_append.2 ⟨hslots,
      List.forall_mem_singleton.2 (hadd first symbol hsymbol)⟩) hrest

/-- Added slots have different fields. -/
lemma nodup_of_foldlM {operations : List Shape} (hnodup : (slots.map (·.field)).Nodup)
    (h : operations.foldlM (add b) slots = .ok slots') : (slots'.map (·.field)).Nodup := by
  induction operations generalizing slots with
  | nil => exact pure_eq_ok.1 h ▸ hnodup
  | cons first rest ih =>
    simp only [List.foldlM_cons, bind_eq_ok] at h
    obtain ⟨next, hfirst, hrest⟩ := h
    obtain ⟨hnew, symbol, _, rfl⟩ := add_eq_ok.1 hfirst
    refine ih ?_ hrest
    rw [List.map_append, List.map_singleton, List.nodup_append]
    refine ⟨hnodup, List.nodup_singleton _, fun field hmem other hother => ?_⟩
    obtain ⟨s, hs, rfl⟩ := List.mem_map.1 hmem
    rw [List.mem_singleton.1 hother]
    dsimp only
    exact hnew s hs

/-- Operations that have symbols can be added if their fields differ from each other and from those
that are there. -/
lemma exists_foldlM {operations : List Shape}
    (hsymbols : ∀ operation ∈ operations, ∃ symbol, b.symbols.expect operation.id = .ok symbol)
    (hnodup : (slots.map (·.field) ++ operations.map fun operation =>
      Naming.fieldName operation.id.name).Nodup) :
    ∃ slots', operations.foldlM (add b) slots = .ok slots' := by
  induction operations generalizing slots with
  | nil => exact ⟨slots, rfl⟩
  | cons first rest ih =>
    obtain ⟨symbol, hsymbol⟩ := hsymbols first List.mem_cons_self
    have hnew : ∀ s ∈ slots, s.field ≠ Naming.fieldName first.id.name := fun s hs =>
      (List.nodup_append.1 hnodup).2.2 _ (List.mem_map_of_mem hs) _ List.mem_cons_self
    have hfirst := add_eq_ok.2 ⟨hnew, symbol, hsymbol, rfl⟩
    let slot : Slot := ⟨first, Naming.fieldName first.id.name, setterOf first.id, symbol.fullName⟩
    have hrest :
        ((slots ++ [slot]).map (·.field) ++ rest.map fun operation =>
          Naming.fieldName operation.id.name).Nodup := by
      simpa [slot] using hnodup
    obtain ⟨slots', h⟩ :=
      ih (fun operation hmem => hsymbols operation (List.mem_cons_of_mem _ hmem)) hrest
    exact ⟨slots', (foldlM_cons_of_ok hfirst).trans h⟩

end Slot

/-- The slots are those of the service's operations. -/
theorem Blueprint.operations_of_slots {b : Blueprint} {slots : List Slot}
    (h : b.slots = .ok slots) :
    b.project.operations = .ok (slots.map (·.operation)) := by
  simp only [Blueprint.slots, bind_eq_ok, Fault.ofModel_eq_ok] at h
  obtain ⟨operations, hoperations, h⟩ := h
  rw [Slot.operations_of_foldlM h]
  simpa using hoperations

/-- The slots have their names from their operations, and different fields. -/
theorem Blueprint.named_of_slots {b : Blueprint} {slots : List Slot} (h : b.slots = .ok slots) :
    (∀ s ∈ slots, s.IsNamed) ∧ (slots.map (·.field)).Nodup := by
  simp only [Blueprint.slots, bind_eq_ok, Fault.ofModel_eq_ok] at h
  obtain ⟨_, _, h⟩ := h
  refine ⟨Slot.forall_of_foldlM (fun operation symbol _ => ?_) (by simp) h,
    Slot.nodup_of_foldlM (by simp) h⟩
  constructor <;> dsimp only

/-- The slots have the types of their operations' symbols. -/
theorem Blueprint.marked_of_slots {b : Blueprint} {slots : List Slot} (h : b.slots = .ok slots) :
    ∀ s ∈ slots, s.IsMarked b := by
  simp only [Blueprint.slots, bind_eq_ok, Fault.ofModel_eq_ok] at h
  obtain ⟨_, _, h⟩ := h
  refine Slot.forall_of_foldlM (fun operation symbol hsymbol => ?_) (by simp) h
  exact ⟨symbol, hsymbol, rfl⟩

end Crate

end SdkForge
