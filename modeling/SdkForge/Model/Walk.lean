import SdkForge.Model

/-!
# Walking through a model

`Model.walk` visits the shapes that can be reached from one, depth first, each once, following
references in the order of their declaration. `Model.reaches` asks whether a shape is among them.
-/

namespace SdkForge

/-- Where a walk goes on from a collection. -/
inductive Reach where
  /-- To what the collection holds. -/
  | through
  /-- Nowhere: a collection is visited and not entered. -/
  | cut
  deriving DecidableEq, Repr

namespace Reach

/-- The references that the walk follows from a shape. -/
def next (reach : Reach) (shape : Shape) : List ShapeId :=
  if reach = .cut ∧ shape.isCollection then [] else shape.references

/-- Those of them that lead to what has not been visited. -/
def onward (reach : Reach) (visited : List ShapeId) (shape : Shape) : List ShapeId :=
  (reach.next shape).filter fun target => !visited.contains target

end Reach

namespace Model

/-- How much a walk can still have before it: a step for each shape that has not been visited, and
one for each reference that it follows from there. -/
def outstanding (reach : Reach) (visited : List ShapeId) : List (ShapeId × Shape) → Nat
  | [] => 0
  | (id, shape) :: rest =>
    (if visited.contains id then 0 else (reach.next shape).length + 1) +
      outstanding reach visited rest

theorem outstanding_cons_le (reach : Reach) (visited : List ShapeId) (id : ShapeId)
    (entries : List (ShapeId × Shape)) :
    outstanding reach (id :: visited) entries ≤ outstanding reach visited entries := by
  induction entries with
  | nil => exact Nat.le_refl _
  | cons entry rest ih =>
    refine Nat.add_le_add ?_ ih
    by_cases h : visited.contains entry.1 = true
    · simp_all
    · split <;> simp_all

/-- Visiting a shape pays for the references that are followed from it. -/
theorem outstanding_cons_lt (reach : Reach) {visited : List ShapeId} {id : ShapeId} {shape : Shape}
    {entries : List (ShapeId × Shape)} (hnew : ¬visited.contains id = true)
    (hmem : (id, shape) ∈ entries) :
    outstanding reach (id :: visited) entries + (reach.next shape).length <
      outstanding reach visited entries := by
  induction entries with
  | nil => simp at hmem
  | cons entry rest ih =>
    rcases List.mem_cons.1 hmem with rfl | hrest
    · have hle := outstanding_cons_le reach visited id rest
      simp only [outstanding, List.contains_cons, BEq.rfl, Bool.true_or, if_true, if_neg hnew]
      omega
    · have hlt := ih hrest
      have hle := outstanding_cons_le reach visited id [entry]
      simp only [outstanding] at hle ⊢
      omega

/-- Visits the shapes whose ids are on a stack, the top first, and what they lead to, up to the
first one that is wanted: the shapes that were visited, and whether one of them was wanted. An id
can be on the stack more than once. -/
def visit (model : Model) (reach : Reach) (wanted : Shape → Bool) (visited : List ShapeId) :
    List ShapeId → List Shape × Bool
  | [] => ([], false)
  | id :: stack =>
    if visited.contains id then visit model reach wanted visited stack
    else match _found : model.get? id with
      | none => visit model reach wanted visited stack
      | some shape =>
        if wanted shape then ([shape], true)
        else
          let later :=
            visit model reach wanted (id :: visited) (reach.onward (id :: visited) shape ++ stack)
          (shape :: later.1, later.2)
termination_by stack => outstanding reach visited model.shapes.entries + stack.length
decreasing_by
  · simp
  · simp
  · have hlt := outstanding_cons_lt reach ‹_› (OrderedMap.mem_entries_of_get? _found)
    have hle : (reach.onward (id :: visited) shape).length ≤ (reach.next shape).length :=
      List.length_filter_le ..
    simp only [List.length_append, List.length_cons]
    omega

/-- The shapes that can be reached from one, itself first. -/
def walk (model : Model) (start : ShapeId) (reach : Reach := .through) : List Shape :=
  (model.visit reach (fun _ => false) [] [start]).1

/-- Whether one shape can be reached from another. The walk ends there. -/
def reaches (model : Model) (start goal : ShapeId) (reach : Reach := .through) : Bool :=
  (model.visit reach (fun shape => shape.id == goal) [] [start]).2

end Model

end SdkForge
