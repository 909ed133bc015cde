import SdkForge.Proofs.Crate.Slots
import SdkForge.Proofs.Naming
import SdkForge.Proofs.Pipeline

/-!
# Colliding operations

The lint looks for operations with one text in snake case, and the slots for operations with one
field, where a reserved word is escaped. Both find the same first pair.

* `Slot.Records` says that the lint has seen the operations that have slots, and `Slot.Records.snoc`
  keeps it for one more.
* `Slot.collisions_agree` says that the lint and the slots go on together up to the first collision.
* `Blueprint.collision_reported_iff` says so of a whole service.
-/

namespace SdkForge

open Outcome

/-! ## What the lint reports -/

namespace Lint

/-- The diagnostic about two operations that would give one field. -/
def collisionReport (first second : ShapeId) (field : String) : Diagnostic :=
  report .error s!"operations `{first}` and `{second}` both generate the field `{field}`" second

lemma check_operationNaming {p : Project} {operations : List Shape}
    (h : p.operations = .ok operations) :
    operationNaming.check p =
      (collisions [] (operations.map (·.id))).map fun (first, second, field) =>
        collisionReport first second field := by
  simp only [operationNaming, h]
  rfl

/-- What is told of a model that cannot be used begins in another way. -/
lemma head?_message (e : ModelError) : e.message.toList.head? ≠ some 'o' := by
  cases e <;> unfold ModelError.message <;> simp [toString]

lemma head?_collisionReport (first second : ShapeId) (field : String) :
    (collisionReport first second field).message.toList.head? = some 'o' := by
  unfold collisionReport report
  simp [toString]

lemma collisionReport_notMem_unusable (first second : ShapeId) (field : String) (e : ModelError)
    (service : ShapeId) :
    collisionReport first second field ∉ unusable e service := by
  intro hmem
  have hsame : (collisionReport first second field).message = e.message :=
    congrArg Diagnostic.message (List.mem_singleton.1 hmem)
  have hhead := head?_collisionReport first second field
  rw [hsame] at hhead
  exact head?_message e hhead

end Lint

/-! ## Slots -/

namespace Crate.Slot

variable {b : Blueprint} {seen : List (String × ShapeId)} {slots : List Slot} {operation : Shape}

/-- The lint has seen an operation for a text in snake case exactly if it has a slot with the
field. -/
def Records (seen : List (String × ShapeId)) (slots : List Slot) : Prop :=
  ∀ id : ShapeId, id.IsParsed →
    seen.lookup (Project.operationField id) =
      (slots.find? (·.field == Naming.fieldName id.name)).map (·.operation.id)

lemma records_nil : Records [] [] := fun _ _ => rfl

/-- An operation that neither has seen is noted by both. -/
lemma Records.snoc (h : Records seen slots) (hparsed : operation.id.IsParsed)
    (hnew : slots.find? (·.field == Naming.fieldName operation.id.name) = none)
    (setter marker : String) :
    Records ((Project.operationField operation.id, operation.id) :: seen)
      (slots ++ [⟨operation, Naming.fieldName operation.id.name, setter, marker⟩]) := by
  intro id hid
  rw [List.lookup_cons, List.find?_append]
  by_cases hsame : Project.operationField id = Project.operationField operation.id
  · have hname : Naming.fieldName id.name = Naming.fieldName operation.id.name :=
      congrArg Naming.escape hsame
    rw [hsame, hname, hnew]
    simp
  · have hname : Naming.fieldName operation.id.name ≠ Naming.fieldName id.name := by
      intro heq
      exact hsame (Naming.snakeCase_eq_of_fieldName_eq hid hparsed heq.symm)
    rw [beq_false_of_ne hsame]
    simp [hname, h id hid]

/-- An operation whose field is taken gives no slot. -/
lemma add_eq_error {first : Slot}
    (h : slots.find? (·.field == Naming.fieldName operation.id.name) = some first) :
    add b slots operation =
      .error (.symbolCollision (Naming.fieldName operation.id.name) first.operation.id
        operation.id) := by
  unfold add
  dsimp only
  rw [h]
  rfl

/-- The lint and the slots go through the operations together: they find no collision, or the same
first one. -/
theorem collisions_agree {operations : List Shape} (hrecords : Records seen slots)
    (hparsed : ∀ operation ∈ operations, operation.id.IsParsed)
    (hsymbols : ∀ operation ∈ operations, ∃ symbol, b.symbols.expect operation.id = .ok symbol) :
    (Lint.collisions seen (operations.map (·.id)) = [] ∧
      ∃ slots', operations.foldlM (add b) slots = .ok slots') ∨
    ∃ first second rest,
      Lint.collisions seen (operations.map (·.id)) =
        (first, second, Project.operationField second) :: rest ∧
      operations.foldlM (add b) slots =
        .error (.symbolCollision (Naming.fieldName second.name) first second) := by
  induction operations generalizing seen slots with
  | nil => exact .inl ⟨rfl, slots, rfl⟩
  | cons operation others ih =>
    have hlookup := hrecords operation.id (hparsed operation List.mem_cons_self)
    rw [List.map_cons, Lint.collisions]
    cases hfind : slots.find? (·.field == Naming.fieldName operation.id.name) with
    | some first =>
      rw [hfind, Option.map_some] at hlookup
      rw [hlookup]
      exact .inr ⟨first.operation.id, operation.id, _, rfl,
        foldlM_cons_of_error (add_eq_error hfind)⟩
    | none =>
      rw [hfind, Option.map_none] at hlookup
      rw [hlookup]
      obtain ⟨symbol, hsymbol⟩ := hsymbols operation List.mem_cons_self
      have hnew : ∀ slot ∈ slots, slot.field ≠ Naming.fieldName operation.id.name := by
        simpa using List.find?_eq_none.1 hfind
      rw [foldlM_cons_of_ok (add_eq_ok.2 ⟨hnew, symbol, hsymbol, rfl⟩)]
      apply ih (hrecords.snoc (hparsed operation List.mem_cons_self) hfind _ _)
      · exact fun other hmem => hparsed other (List.mem_cons_of_mem _ hmem)
      · exact fun other hmem => hsymbols other (List.mem_cons_of_mem _ hmem)

end Crate.Slot

/-! ## Services -/

namespace Crate.Blueprint

open Lint (operationNaming collisionReport)

/-- The lint reports a collision exactly if the slots cannot be made because of one, and what it
reports first is about the same operations. -/
theorem collision_reported_iff {b : Blueprint}
    (hparsed : ∀ operations, b.project.operations = .ok operations → ∀ operation ∈ operations,
      operation.id.IsParsed)
    (hsymbols : ∀ operations, b.project.operations = .ok operations →
      ∀ operation ∈ operations, ∃ symbol, b.symbols.expect operation.id = .ok symbol) :
    ((∃ first second field, collisionReport first second field ∈ operationNaming.check b.project) ↔
      ∃ name first second, b.slots = .error (.symbolCollision name first second)) ∧
    ∀ name first second, b.slots = .error (.symbolCollision name first second) →
      name = Naming.fieldName second.name ∧
      (operationNaming.check b.project).head? =
        some (collisionReport first second (Project.operationField second)) := by
  cases hoperations : b.project.operations with
  | error e =>
    have hslots : b.slots = .error (.model e) := by
      rw [slots, hoperations]
      rfl
    have hcheck : operationNaming.check b.project = Lint.unusable e b.project.service := by
      simp only [operationNaming, hoperations]
    rw [hslots, hcheck]
    refine ⟨iff_of_false ?_ (by simp), by simp⟩
    rintro ⟨first, second, field, hmem⟩
    exact Lint.collisionReport_notMem_unusable first second field e b.project.service hmem
  | ok operations =>
    have hslots : b.slots = operations.foldlM (Slot.add b) [] := by
      rw [slots, hoperations]
      rfl
    rw [hslots, Lint.check_operationNaming hoperations]
    rcases Slot.collisions_agree Slot.records_nil (hparsed operations hoperations)
      (hsymbols operations hoperations) with
      ⟨hnone, slots', hok⟩ | ⟨first, second, rest, hsome, herror⟩
    · rw [hnone, hok]
      exact ⟨iff_of_false (by simp) (by simp), by simp⟩
    · rw [hsome, herror]
      refine ⟨iff_of_true ⟨first, second, _, List.mem_cons_self⟩ ⟨_, first, second, rfl⟩, ?_⟩
      intro name first' second' h
      obtain ⟨rfl, rfl, rfl⟩ := Fault.symbolCollision.inj (Except.error.inj h)
      exact ⟨rfl, rfl⟩

/-- A service whose operations `GetACL` and `GetAcl` have types of their own, and one field. -/
def acls : Blueprint :=
  let project := (Command.Input.small (Command.Input.getters ["GetACL", "GetAcl"])).project
  { project
    symbols := (SymbolTable.resolve project.symbolOf project.model project.service).toOption.getD {}
    registry := .catalog
    protocol := Protocol.restJson }

/-- The slots cannot be made, and the lint reports the same two operations. -/
theorem collision_reported_of_acls :
    acls.slots = .error (.symbolCollision "get_acl" ⟨"ex", "GetACL", none⟩ ⟨"ex", "GetAcl", none⟩) ∧
    (operationNaming.check acls.project).head? =
      some (collisionReport ⟨"ex", "GetACL", none⟩ ⟨"ex", "GetAcl", none⟩ "get_acl") := by
  have hfacts :
      (acls.project.operations.toOption.any fun operations => operations.all fun operation =>
        (ShapeId.parse (toString operation.id)).toOption == some operation.id &&
          (acls.symbols.expect operation.id).toOption.isSome) = true ∧
      (match acls.slots with | .error e => some e | .ok _ => none) =
        some (Fault.symbolCollision "get_acl" ⟨"ex", "GetACL", none⟩ ⟨"ex", "GetAcl", none⟩) ∧
      Project.operationField ⟨"ex", "GetAcl", none⟩ = "get_acl" := by
    decide +kernel
  obtain ⟨hoperations, hslots, hfield⟩ := hfacts
  have herror :
      acls.slots = .error (.symbolCollision "get_acl" ⟨"ex", "GetACL", none⟩ ⟨"ex",
        "GetAcl", none⟩) := by
    split at hslots
    · next e he => rw [he, Option.some.inj hslots]
    · cases hslots
  obtain ⟨listed, hlisted, hall⟩ := (Option.any_eq_true _ _).1 hoperations
  have hlisted := toOption_eq_some.1 hlisted
  simp only [List.all_eq_true, Bool.and_eq_true, beq_iff_eq, toOption_eq_some] at hall
  have hagree := (collision_reported_iff (b := acls)
    (fun operations h operation hmem =>
      ⟨_, (hall operation (Except.ok.inj (hlisted.symm.trans h) ▸ hmem)).1⟩)
    (fun operations h operation hmem =>
      exists_eq_ok_of_isSome (hall operation (Except.ok.inj (hlisted.symm.trans h) ▸ hmem)).2)).2 _
        _ _ herror
  rw [hfield] at hagree
  exact ⟨herror, hagree.2⟩

end Crate.Blueprint

end SdkForge
