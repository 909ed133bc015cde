import SdkForge.Proofs.Model.Closure
import SdkForge.Proofs.Outcome

/-!
# A walk is a depth-first search

`Model.visit` keeps the ids that are still to come on a stack, where an id may stand more than once.
The search that it makes is the recursive one, in which what a shape refers to is searched before
what stands next to the shape.

* `preorder` is the recursive search, and `preorder_append` says that a search goes on with all that
  was visited before.
* `visit_eq_preorder` is the invariant of the stack: what it still holds is what the recursive
  search has before it.
* `walk_is_depth_first` says what a walk visits, and in which order.
-/

namespace SdkForge.Model

variable {model : Model} {reach : Reach} {visited : List ShapeId}

/-- What has been visited once these shapes are, the last one first. -/
def visitedAfter (visited : List ShapeId) (out : List Shape) : List ShapeId :=
  (out.map (·.id)).reverse ++ visited

/-- Visiting leaves no more to do than there was. -/
lemma outstanding_visitedAfter_le (visited : List ShapeId) (out : List Shape)
    (entries : List (ShapeId × Shape)) :
    outstanding reach (visitedAfter visited out) entries ≤ outstanding reach visited entries := by
  unfold visitedAfter
  induction (out.map (·.id)).reverse with
  | nil => exact Nat.le_refl _
  | cons id more ih =>
    exact Nat.le_trans (outstanding_cons_le reach (more ++ visited) id entries) ih

/-- The recursive search: a shape that has not been visited, then all that its references lead to,
in their order, and only then what follows. -/
def preorder (model : Model) (reach : Reach) (visited : List ShapeId) : List ShapeId → List Shape
  | [] => []
  | id :: rest =>
    if visited.contains id then preorder model reach visited rest
    else match _found : model.get? id with
      | none => preorder model reach visited rest
      | some shape =>
        let below := preorder model reach (id :: visited) (reach.next shape)
        shape :: below ++ preorder model reach (visitedAfter (id :: visited) below) rest
termination_by pending => outstanding reach visited model.shapes.entries + pending.length
decreasing_by
  · simp
  · simp
  · have hlt := outstanding_cons_lt reach ‹_› (OrderedMap.mem_entries_of_get? _found)
    simp only [List.length_cons]
    omega
  · have hnew := outstanding_cons_le reach visited id model.shapes.entries
    exact Nat.add_lt_add_of_le_of_lt (Nat.le_trans (outstanding_visitedAfter_le ..) hnew) (by simp)

variable {id : ShapeId} {shape : Shape} {pending : List ShapeId}

@[simp] lemma preorder_nil : model.preorder reach visited [] = [] := by
  rw [preorder]

lemma preorder_of_skip (h : id ∈ visited ∨ model.get? id = none) :
    model.preorder reach visited (id :: pending) = model.preorder reach visited pending := by
  rw [preorder]
  split
  · rfl
  · split <;> simp_all

lemma preorder_of_some (hnew : id ∉ visited) (hget : model.get? id = some shape) :
    model.preorder reach visited (id :: pending) = shape ::
      model.preorder reach (id :: visited) (reach.next shape) ++ model.preorder reach
        (visitedAfter (id :: visited) (model.preorder reach (id :: visited) (reach.next shape)))
          pending := by
  rw [preorder, if_neg (by simpa using hnew)]
  split
  · simp_all
  · next found hfound =>
    obtain rfl : shape = found := Option.some.inj (hget.symm.trans hfound)
    rfl

/-! ## Searching on -/

@[simp] lemma visitedAfter_nil : visitedAfter visited [] = visited := rfl

lemma visitedAfter_append (first second : List Shape) :
    visitedAfter visited (first ++ second) = visitedAfter (visitedAfter visited first) second := by
  simp [visitedAfter]

lemma visitedAfter_cons (shape : Shape) (out : List Shape) :
    visitedAfter visited (shape :: out) = visitedAfter (shape.id :: visited) out := by
  simp [visitedAfter]

/-- What is pending later is searched with all that was visited before. -/
lemma preorder_append (hkeyed : Keyed model.shapes) (first second : List ShapeId) :
    model.preorder reach visited (first ++ second) = model.preorder reach visited first ++
      model.preorder reach (visitedAfter visited (model.preorder reach visited first)) second := by
  induction first generalizing visited with
  | nil => simp
  | cons id first ih =>
    rw [List.cons_append]
    by_cases hskip : id ∈ visited ∨ model.get? id = none
    · rw [preorder_of_skip hskip, preorder_of_skip hskip, ih]
    · obtain ⟨hnew, hsome⟩ := not_or.1 hskip
      obtain ⟨shape, hget⟩ := Option.ne_none_iff_exists'.1 hsome
      -- the shape, what is below it and what is visited next to it follow each other on both sides
      rw [preorder_of_some hnew hget, preorder_of_some hnew hget, ih, List.cons_append,
        List.cons_append, visitedAfter_cons, visitedAfter_append, hkeyed id shape hget,
        List.cons_append, List.append_assoc]

lemma subset_visitedAfter (visited : List ShapeId) (out : List Shape) :
    visited ⊆ visitedAfter visited out :=
  List.subset_append_right ..

/-- What has been visited can be left out at once. -/
lemma preorder_filter (p : ShapeId → Bool) (hleft : ∀ id ∈ pending, p id = false → id ∈ visited) :
    model.preorder reach visited (pending.filter p) = model.preorder reach visited pending := by
  induction pending generalizing visited with
  | nil => rfl
  | cons id rest ih =>
    have hrest : ∀ id ∈ rest, p id = false → id ∈ visited :=
      fun other hother => hleft other (.tail _ hother)
    by_cases hskip : id ∈ visited ∨ model.get? id = none
    · rw [preorder_of_skip hskip, ← ih hrest, List.filter_cons]
      split
      · exact preorder_of_skip hskip
      · rfl
    · obtain ⟨hnew, hsome⟩ := not_or.1 hskip
      obtain ⟨shape, hget⟩ := Option.ne_none_iff_exists'.1 hsome
      have hkept : p id = true := by
        cases hp : p id with
        | true => rfl
        | false => exact absurd (hleft id List.mem_cons_self hp) hnew
      rw [List.filter_cons, if_pos hkept, preorder_of_some hnew hget,
        preorder_of_some hnew hget, ih]
      exact fun other hother hp => subset_visitedAfter _ _ (.tail _ (hrest other hother hp))

lemma preorder_onward (shape : Shape) :
    model.preorder reach visited (reach.onward visited shape) =
      model.preorder reach visited (reach.next shape) :=
  preorder_filter _ (by simp)

/-! ## The stack -/

/-- The stack holds what the recursive search has before it. -/
lemma visit_eq_preorder (hkeyed : Keyed model.shapes) (visited stack : List ShapeId) :
    (model.visit reach (fun _ => false) visited stack).1 = model.preorder reach visited stack := by
  induction visited, stack using visit.induct model reach (fun _ => false) with
  | case1 visited => simp
  | case2 visited id stack hold ih =>
    have hmem : id ∈ visited := by simpa using hold
    rw [visit_of_mem hmem, preorder_of_skip (.inl hmem), ih]
  | case3 visited id stack hnew hget ih =>
    rw [visit_of_none hget, preorder_of_skip (.inr hget), ih]
  | case4 visited id stack hnew shape hget hwanted => contradiction
  | case5 visited id stack hnew shape hget _ ih =>
    have hmem : id ∉ visited := by simpa using hnew
    -- the references on top of the stack are searched first, and leave the rest of the stack as it
    -- was
    rw [visit_of_some hmem hget, if_neg Bool.false_ne_true, ih, preorder_append hkeyed,
      preorder_onward, preorder_of_some hmem hget]
    rfl

/-- A walk is the recursive search from its start, which visits nothing if the model does not have
it, and otherwise all that references lead to, each once. One shape can be reached from another
exactly if the walk visits it. -/
theorem walk_is_depth_first (hmodel : WellFormed model) (start : ShapeId) (reach : Reach) :
    model.walk start reach = model.preorder reach [] [start] ∧
    (model.get? start = none → model.walk start reach = []) ∧
    ((model.walk start reach).map (·.id)).Nodup ∧
    (∀ shape, shape ∈ model.walk start reach ↔
      model.get? shape.id = some shape ∧ model.Leads reach start shape.id) ∧
    ∀ goal, model.reaches start goal reach = true ↔ ∃ shape ∈ model.walk start reach,
    shape.id = goal := by
  refine ⟨visit_eq_preorder hmodel.keyed [] [start], fun hnone => ?_, nodup_walk hmodel start,
    fun shape => mem_walk_iff hmodel, fun goal => ?_⟩
  · rw [walk, visit_of_none hnone, visit_nil]
  · simp only [reaches_eq_any, List.any_eq_true, beq_iff_eq]

/-! ## A cycle -/

/-- A node that refers to a node, and to a list of nodes. -/
def nodes : Draft :=
  .ofList [{ id := ⟨"ex", "Node", none⟩,
             body := .record [⟨"ex", "Node", some "next"⟩, ⟨"ex", "Node", some "children"⟩] },
    .ofMember ⟨"ex", "Node", some "next"⟩ ⟨"ex", "Node", none⟩,
    .ofMember ⟨"ex", "Node", some "children"⟩ ⟨"ex", "NodeList", none⟩,
    { id := ⟨"ex", "NodeList", none⟩, body := .list ⟨"ex", "NodeList", some "member"⟩ },
    .ofMember ⟨"ex", "NodeList", some "member"⟩ ⟨"ex", "Node", none⟩]

/-- From the node, the list comes last; a walk that does not enter the list does not get from there
to the node. -/
theorem walk_is_depth_first_of_nodes : ∃ model, nodes.build = .ok model ∧ model.WellFormed ∧
    (model.walk ⟨"ex", "Node", none⟩).map (·.id) =
      [⟨"ex", "Node", none⟩, ⟨"ex", "Node", some "next"⟩, ⟨"ex", "Node", some "children"⟩,
        ⟨"ex", "NodeList", none⟩, ⟨"ex", "NodeList", some "member"⟩] ∧
    model.reaches ⟨"ex", "NodeList", none⟩ ⟨"ex", "Node", none⟩ = true ∧
    ¬model.reaches ⟨"ex", "NodeList", none⟩ ⟨"ex", "Node", none⟩ .cut = true := by
  have hsearch : (nodes.build.toOption.any fun model =>
      (model.preorder .through [] [⟨"ex", "Node", none⟩]).map (·.id) == [⟨"ex", "Node", none⟩,
        ⟨"ex", "Node", some "next"⟩, ⟨"ex", "Node", some "children"⟩, ⟨"ex", "NodeList", none⟩,
        ⟨"ex", "NodeList", some "member"⟩] &&
      (model.preorder .through [] [⟨"ex", "NodeList", none⟩]).any (·.id == ⟨"ex", "Node", none⟩) &&
      !(model.preorder .cut [] [⟨"ex", "NodeList", none⟩]).any (·.id == ⟨"ex", "Node", none⟩)) =
        true := by
    decide +kernel
  obtain ⟨model, hbuild, hsearch⟩ := (Option.any_eq_true _ _).1 hsearch
  have hbuild := Outcome.toOption_eq_some.1 hbuild
  have hmodel : model.WellFormed := wellFormed_of_build (keyed_ofList _) hbuild
  simp only [Bool.and_eq_true, Bool.not_eq_true', Bool.eq_false_iff, ne_eq, beq_iff_eq,
    List.any_eq_true] at hsearch
  obtain ⟨⟨hnodes, hthrough⟩, hcut⟩ := hsearch
  refine ⟨model, hbuild, hmodel, ?_, ?_, ?_⟩
  · rw [(walk_is_depth_first hmodel _ .through).1, hnodes]
  · obtain ⟨hwalk, _, _, _, hreaches⟩ :=
      walk_is_depth_first hmodel ⟨"ex", "NodeList", none⟩ .through
    rwa [hreaches, hwalk]
  · obtain ⟨hwalk, _, _, _, hreaches⟩ := walk_is_depth_first hmodel ⟨"ex", "NodeList", none⟩ .cut
    rwa [hreaches, hwalk]

end SdkForge.Model
