import Mathlib.Logic.Relation
import SdkForge.Model.Walk
import SdkForge.Proofs.Model.WellFormed

/-!
# What a walk visits

A walk visits the shapes that references lead to, each once.

* `Follows` is one step of a walk, and `Leads` any number of them.
* `mem_walk_iff` says that the walk visits exactly what its start leads to, and `nodup_walk` that it
  visits no shape twice.
* `reaches_iff` reads `Model.reaches` in the same way.
-/

namespace SdkForge.Model

variable {model : Model} {reach : Reach}

/-! ## Steps -/

/-- The walk follows a reference from one shape to another. -/
def Follows (model : Model) (reach : Reach) (a b : ShapeId) : Prop :=
  ∃ shape, model.get? a = some shape ∧ b ∈ reach.next shape

/-- References lead from one shape to another. -/
def Leads (model : Model) (reach : Reach) : ShapeId → ShapeId → Prop :=
  Relation.ReflTransGen (model.Follows reach)

@[simp] lemma next_through (shape : Shape) : Reach.through.next shape = shape.references := by
  simp [Reach.next]

lemma next_of_not_isCollection {shape : Shape} (h : shape.isCollection = false) :
    reach.next shape = shape.references := by
  simp [Reach.next, h]

lemma leads_of_next {a b : ShapeId} {shape : Shape} (hget : model.get? a = some shape)
    (hb : b ∈ reach.next shape) :
    model.Leads reach a b := .single ⟨shape, hget, hb⟩

lemma body_eq_of_target? {shape : Shape} {target : ShapeId} (h : shape.target? = some target) :
    ∃ container, shape.body = .member container target := by
  obtain ⟨id, traits, body⟩ := shape
  cases body <;> simp_all [Shape.target?]

/-- What refers to nothing leads to itself only. -/
lemma Leads.eq_of_next {a b : ShapeId} {shape : Shape} (h : model.Leads reach a b)
    (hget : model.get? a = some shape) (hnext : reach.next shape = []) : b = a := by
  rcases Relation.ReflTransGen.cases_head h with heq | ⟨other, ⟨found, hfound, hother⟩, _⟩
  · exact heq.symm
  · obtain rfl := Option.some.inj (hget.symm.trans hfound)
    rw [hnext] at hother
    contradiction

/-! ## From a list of pending ids -/

section Visit

variable {wanted : Shape → Bool} {visited pending : List ShapeId} {id : ShapeId} {shape : Shape}

lemma mem_onward {target : ShapeId} :
    target ∈ reach.onward visited shape ↔ target ∈ reach.next shape ∧ target ∉ visited := by
  simp [Reach.onward]

@[simp] lemma visit_nil : model.visit reach wanted visited [] = ([], false) := by
  rw [visit]

lemma visit_of_mem (h : id ∈ visited) :
    model.visit reach wanted visited (id :: pending) =
      model.visit reach wanted visited pending := by
  rw [visit, if_pos (by simpa using h)]

lemma visit_of_none (h : model.get? id = none) :
    model.visit reach wanted visited (id :: pending) =
      model.visit reach wanted visited pending := by
  rw [visit]
  split
  · rfl
  · split <;> simp_all

lemma visit_of_some (hnew : id ∉ visited) (hget : model.get? id = some shape) :
    model.visit reach wanted visited (id :: pending) =
      if wanted shape then ([shape], true) else
        (shape ::
          (model.visit reach wanted (id :: visited)
            (reach.onward (id :: visited) shape ++ pending)).1,
              (model.visit reach wanted (id :: visited)
                (reach.onward (id :: visited) shape ++ pending)).2) := by
  rw [visit, if_neg (by simpa using hnew)]
  split
  · simp_all
  · next found hfound =>
    obtain rfl : shape = found := Option.some.inj (hget.symm.trans hfound)
    rfl

end Visit

/-- How a walk goes: `out` is what it visits from the pending ids after `visited`. -/
inductive Visits (model : Model) (reach : Reach) :
    List ShapeId → List ShapeId → List Shape → Prop where
  | done {visited} : Visits model reach visited [] []
  | skip {visited id pending out} (hskip : id ∈ visited ∨ model.get? id = none)
      (hrest : Visits model reach visited pending out) :
      Visits model reach visited (id :: pending) out
  | visit {visited id pending shape out} (hnew : id ∉ visited) (hget : model.get? id = some shape)
      (hrest : Visits model reach (id :: visited)
        (reach.onward (id :: visited) shape ++ pending) out) :
      Visits model reach visited (id :: pending) (shape :: out)

lemma visits_visit (visited pending : List ShapeId) :
    Visits model reach visited pending (model.visit reach (fun _ => false) visited pending).1 := by
  induction visited, pending using visit.induct model reach (fun _ => false) with
  | case1 visited =>
    rw [visit_nil]
    exact .done
  | case2 visited id pending hold ih =>
    have hmem : id ∈ visited := by simpa using hold
    rw [visit_of_mem hmem]
    exact .skip (.inl hmem) ih
  | case3 visited id pending hnew hget ih =>
    rw [visit_of_none hget]
    exact .skip (.inr hget) ih
  | case4 visited id pending hnew shape hget hwanted => contradiction
  | case5 visited id pending hnew shape hget _ ih =>
    have hmem : id ∉ visited := by simpa using hnew
    rw [visit_of_some hmem hget, if_neg Bool.false_ne_true]
    exact .visit hmem hget ih

/-- Whether something wanted is visited does not depend on where the walk ends. -/
lemma snd_visit (wanted : Shape → Bool) (visited pending : List ShapeId) :
    (model.visit reach wanted visited pending).2 =
      (model.visit reach (fun _ => false) visited pending).1.any wanted := by
  induction visited, pending using visit.induct model reach wanted with
  | case1 visited => simp
  | case2 visited id pending hold ih =>
    have hmem : id ∈ visited := by simpa using hold
    rw [visit_of_mem hmem, visit_of_mem hmem, ih]
  | case3 visited id pending hnew hget ih =>
    rw [visit_of_none hget, visit_of_none hget, ih]
  | case4 visited id pending hnew shape hget hwanted =>
    have hmem : id ∉ visited := by simpa using hnew
    rw [visit_of_some hmem hget, visit_of_some hmem hget]
    simp [hwanted]
  | case5 visited id pending hnew shape hget hwanted ih =>
    have hmem : id ∉ visited := by simpa using hnew
    rw [visit_of_some hmem hget, visit_of_some hmem hget]
    simp [hwanted, ih]

variable {visited pending : List ShapeId} {out : List Shape} {shape : Shape}

/-- What is visited comes from a pending id. -/
lemma Visits.exists_leads (h : Visits model reach visited pending out) (hmem : shape ∈ out) :
    ∃ start ∈ pending, ∃ id, model.get? id = some shape ∧ model.Leads reach start id := by
  induction h with
  | done => simp at hmem
  | skip _ _ ih =>
    obtain ⟨start, hstart, h⟩ := ih hmem
    exact ⟨start, .tail _ hstart, h⟩
  | @visit _ id _ _ _ _ hget _ ih =>
    rcases List.mem_cons.1 hmem with rfl | hmem
    · exact ⟨id, List.mem_cons_self, id, hget, .refl⟩
    · obtain ⟨start, hstart, key, hkey, hleads⟩ := ih hmem
      rcases List.mem_append.1 hstart with hnext | hpending
      · exact ⟨id, List.mem_cons_self, key, hkey,
          .trans (leads_of_next hget (mem_onward.1 hnext).1) hleads⟩
      · exact ⟨start, .tail _ hpending, key, hkey, hleads⟩

/-- A pending id is visited, now or before. -/
lemma Visits.mem_of_pending (h : Visits model reach visited pending out) {id : ShapeId}
    (hid : id ∈ pending) (hget : model.get? id = some shape) : id ∈ visited ∨ shape ∈ out := by
  induction h with
  | done => simp at hid
  | skip hskip _ ih =>
    rcases List.mem_cons.1 hid with rfl | hid
    · exact .inl (hskip.resolve_right (by simp [hget]))
    · exact ih hid
  | @visit _ first _ found _ hnew hfound _ ih =>
    by_cases heq : id = first
    · rw [← heq, hget] at hfound
      exact .inr (by simp [Option.some.inj hfound])
    · have hpending := (List.mem_cons.1 hid).resolve_left heq
      rcases ih (List.mem_append_right _ hpending) with hold | hmem
      · exact .inl ((List.mem_cons.1 hold).resolve_left heq)
      · exact .inr (.tail _ hmem)

/-- What is visited has its references visited, now or before. -/
lemma Visits.mem_of_next (h : Visits model reach visited pending out) {next : ShapeId}
    {other : Shape} (hmem : shape ∈ out) (hnext : next ∈ reach.next shape)
    (hget : model.get? next = some other) :
    next ∈ visited ∨ other ∈ out := by
  induction h with
  | done => simp at hmem
  | skip _ _ ih => exact ih hmem
  | @visit before first _ found later hnew hfound hrest ih =>
    -- the first shape is no longer new for the rest, which may refer back to it
    by_cases heq : next = first
    · rw [← heq, hget] at hfound
      exact .inr (by simp [Option.some.inj hfound])
    · have hlater : next ∈ first :: before ∨ other ∈ later := by
        rcases List.mem_cons.1 hmem with rfl | hmem
        · by_cases hold : next ∈ first :: before
          · exact .inl hold
          · exact hrest.mem_of_pending (List.mem_append_left _ (mem_onward.2 ⟨hnext, hold⟩)) hget
        · exact ih hmem
      rcases hlater with hold | hmem
      · exact .inl ((List.mem_cons.1 hold).resolve_left heq)
      · exact .inr (.tail _ hmem)

/-- What has been visited is not visited again. -/
lemma Visits.not_mem_visited (h : Visits model reach visited pending out)
    (hkeyed : Keyed model.shapes) (hmem : shape ∈ out) : shape.id ∉ visited := by
  induction h with
  | done => simp at hmem
  | skip _ _ ih => exact ih hmem
  | visit hnew hget _ ih =>
    rcases List.mem_cons.1 hmem with rfl | hmem
    · rwa [hkeyed _ _ hget]
    · exact fun hold => ih hmem (.tail _ hold)

lemma Visits.nodup (h : Visits model reach visited pending out) (hkeyed : Keyed model.shapes) :
    (out.map (·.id)).Nodup := by
  induction h with
  | done => simp
  | skip _ _ ih => exact ih
  | visit hnew hget hrest ih =>
    refine List.nodup_cons.2 ⟨fun hmem => ?_, ih⟩
    obtain ⟨other, hother, heq⟩ := List.mem_map.1 hmem
    refine hrest.not_mem_visited hkeyed hother ?_
    rw [heq.trans (hkeyed _ _ hget)]
    exact List.mem_cons_self

/-! ## From one shape -/

/-- A walk visits exactly what its start leads to. -/
theorem mem_walk_iff (hmodel : WellFormed model) {start : ShapeId} :
    shape ∈ model.walk start reach ↔ model.get? shape.id = some shape ∧
    model.Leads reach start shape.id := by
  constructor
  · intro hmem
    obtain ⟨first, hfirst, id, hget, hleads⟩ := (visits_visit [] [start]).exists_leads hmem
    rw [List.mem_singleton.1 hfirst] at hleads
    rw [hmodel.id_eq hget]
    exact ⟨hget, hleads⟩
  · rintro ⟨hget, hleads⟩
    generalize shape.id = id at hget hleads
    -- along the path: what is visited has its references visited
    induction hleads generalizing shape with
    | refl =>
      exact ((visits_visit [] [start]).mem_of_pending List.mem_cons_self hget).resolve_left
        List.not_mem_nil
    | tail _ hstep ih =>
      obtain ⟨before, hbefore, hnext⟩ := hstep
      exact ((visits_visit [] [start]).mem_of_next (ih hbefore) hnext hget).resolve_left
        List.not_mem_nil

/-- A walk visits no shape twice. -/
theorem nodup_walk (hmodel : WellFormed model) (start : ShapeId) :
    ((model.walk start reach).map (·.id)).Nodup :=
  (visits_visit [] [start]).nodup hmodel.keyed

/-- The model has the shape, and references lead to it from the start. -/
def Reached (model : Model) (start : ShapeId) (shape : Shape) : Prop :=
  model.get? shape.id = some shape ∧ model.Leads .through start shape.id

/-- A walk that enters collections visits what is reached. -/
lemma mem_walk_iff_reached (hmodel : WellFormed model) {start : ShapeId} :
    shape ∈ model.walk start ↔ model.Reached start shape := mem_walk_iff hmodel

lemma reaches_eq_any (start goal : ShapeId) :
    model.reaches start goal reach = (model.walk start reach).any fun shape => shape.id == goal :=
  snd_visit _ _ _

/-- One shape can be reached from another exactly if references lead to it. -/
theorem reaches_iff (hmodel : WellFormed model) {start goal : ShapeId} :
    model.reaches start goal reach = true ↔ (model.get? goal).isSome ∧
    model.Leads reach start goal := by
  simp only [reaches_eq_any, List.any_eq_true, beq_iff_eq, mem_walk_iff hmodel,
    Option.isSome_iff_exists]
  constructor
  · rintro ⟨shape, ⟨hget, hleads⟩, rfl⟩
    exact ⟨⟨shape, hget⟩, hleads⟩
  · rintro ⟨⟨shape, hget⟩, hleads⟩
    obtain rfl := hmodel.id_eq hget
    exact ⟨shape, ⟨hget, hleads⟩, rfl⟩

lemma get?_of_mem_walk (hmodel : WellFormed model) {start : ShapeId}
    (hmem : shape ∈ model.walk start reach) :
    model.get? shape.id = some shape := ((mem_walk_iff hmodel).1 hmem).1

/-- The walk goes on to everything that a visited shape refers to. -/
lemma mem_walk_of_reference (hmodel : WellFormed model) {start target : ShapeId} {other : Shape}
    (hmem : shape ∈ model.walk start) (href : target ∈ shape.references)
    (hget : model.get? target = some other) :
    other ∈ model.walk start := by
  obtain ⟨hshape, hleads⟩ := (mem_walk_iff hmodel).1 hmem
  refine (mem_walk_iff hmodel).2 ⟨hmodel.get?_id hget, ?_⟩
  rw [hmodel.id_eq hget]
  exact hleads.tail ⟨shape, hshape, by simpa using href⟩

/-- Two visited shapes with one id are one shape. -/
lemma eq_of_mem_walk (hmodel : WellFormed model) {start : ShapeId} {a b : Shape}
    (ha : a ∈ model.walk start reach) (hb : b ∈ model.walk start reach) (hid : a.id = b.id) :
    a = b := by
  have hget := get?_of_mem_walk hmodel ha
  rw [hid, get?_of_mem_walk hmodel hb] at hget
  exact (Option.some.inj hget).symm

end SdkForge.Model
