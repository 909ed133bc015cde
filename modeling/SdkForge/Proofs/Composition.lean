import Mathlib.Data.List.TakeWhile
import SdkForge.Proofs.Pipeline
import SdkForge.Proofs.Section
import SdkForge.Proofs.StableSort

/-!
# The order in which decorators write

What stands at a place of the generated code is a matter of the decorators and their orders only.

* `Section.compose` writes contributions one after the other, and `Decorator.inEffect` is the order
  in which decorators act.
* `Registry.place_mergeSort` is the step: where a contribution is put keeps the contributions
  sorted, those of one order as they came in. `Registry.get?_afterAll` follows for any sequence of
  changes, whether they succeed or fail.
* `DecoratorSet.exists_registry_get?` says what decorators contribute to a section, and
  `sections_compose` is the whole account.
-/

namespace SdkForge

open Outcome

/-! ## Writing -/

/-- What contributions write at a place, one after the other; the first one that fails ends it. -/
def Section.compose (place : Section) : List Contribution → Except Fault (List Fragment)
  | [] => .ok []
  | c :: rest =>
    match c.write place with
    | .error cause => .error (.composition c.decorator place.name cause)
    | .ok none => place.compose rest
    | .ok (some fragment) => (place.compose rest).map (fragment :: ·)

namespace Registry

variable {r r' : Registry} {place : Section} {name : SectionName} {c : Contribution}
  {contributions : List Contribution}

lemma render_eq_compose (hget : r.get? place.name = some contributions) :
    r.render place = place.compose contributions := by
  rw [render, hget]
  dsimp only
  clear hget
  induction contributions with
  | nil => rfl
  | cons first rest ih =>
    rw [List.mapM_cons, Section.compose, write]
    rw [← ih]
    cases first.write place with
    | error cause => rfl
    | ok written =>
      cases rest.mapM (write place) with
      | error fault => cases written <;> rfl
      | ok texts => cases written <;> rfl

/-! ## Sorted contributions -/

lemma lt_of_mem_dropWhile (hsorted : contributions.Pairwise fun a b => a.order ≤ b.order)
    {other : Contribution} (h : other ∈ contributions.dropWhile (·.order ≤ c.order)) :
    c.order < other.order := by
  induction contributions with
  | nil => contradiction
  | cons first rest ih =>
    obtain ⟨hfirst, hrest⟩ := List.pairwise_cons.1 hsorted
    by_cases hle : first.order ≤ c.order
    · rw [List.dropWhile_cons_of_pos (by simpa using hle)] at h
      exact ih hrest h
    · rw [List.dropWhile_cons_of_neg (by simpa using hle)] at h
      rcases List.mem_cons.1 h with rfl | h
      · exact not_le.1 hle
      · exact (not_le.1 hle).trans_le (hfirst other h)

lemma pairwise_place (hsorted : contributions.Pairwise fun a b => a.order ≤ b.order) :
    (Registry.place c contributions).Pairwise fun a b => a.order ≤ b.order := by
  have hbefore : ∀ a ∈ contributions.takeWhile (·.order ≤ c.order), a.order ≤ c.order := by
    intro a ha
    simpa using List.mem_takeWhile_imp ha
  have hafter : ∀ b ∈ contributions.dropWhile (·.order ≤ c.order), c.order < b.order :=
    fun b => lt_of_mem_dropWhile hsorted
  refine List.pairwise_append.2 ⟨hsorted.sublist (List.takeWhile_sublist _), ?_,
    fun a ha b hb => ?_⟩
  · exact List.pairwise_cons.2 ⟨fun b hb => (hafter b hb).le,
      hsorted.sublist (List.dropWhile_sublist _)⟩
  · rcases List.mem_cons.1 hb with rfl | hb
    · exact hbefore a ha
    · exact (hbefore a ha).trans (hafter b hb).le

/-- A contribution is put behind those of its order. -/
lemma filter_place (hsorted : contributions.Pairwise fun a b => a.order ≤ b.order) (k : Int) :
    ((Registry.place c contributions).filter fun a => a.order = k) =
      (contributions ++ [c]).filter fun a => a.order = k := by
  have hsplit : (contributions.filter fun a => a.order = k) =
      (contributions.takeWhile (·.order ≤ c.order)).filter (fun a => a.order = k) ++
        (contributions.dropWhile (·.order ≤ c.order)).filter fun a => a.order = k := by
    rw [← List.filter_append, List.takeWhile_append_dropWhile]
  rw [Registry.place, List.filter_append, List.filter_append, List.filter_cons, hsplit]
  by_cases hk : c.order = k
  · -- what comes behind the place has a greater order
    have hnone :
        (contributions.dropWhile (·.order ≤ c.order)).filter (fun a => a.order = k) = [] := by
      refine List.filter_eq_nil_iff.2 fun a ha => ?_
      have hlt := lt_of_mem_dropWhile hsorted ha
      rw [decide_eq_true_eq]
      omega
    rw [hnone, if_pos (by simpa using hk)]
    simp [hk]
  · simp [hk]

/-- A contribution that is put among sorted ones is sorted as if it came in after them. -/
lemma place_mergeSort (c : Contribution) (contributions : List Contribution) :
    Registry.place c (contributions.mergeSort (·.order ≤ ·.order)) =
      (contributions ++ [c]).mergeSort (·.order ≤ ·.order) := by
  have hsorted := StableSort.pairwise_mergeSort Contribution.order contributions
  refine StableSort.eq_mergeSort_iff.2 ⟨pairwise_place hsorted, fun k => ?_⟩
  refine (filter_place hsorted k).trans ?_
  rw [List.filter_append, List.filter_append]
  exact congrArg (· ++ _) (StableSort.filter_mergeSort Contribution.order contributions k)

/-! ## Changes -/

/-- A change of a registry. -/
inductive Change where
  | register (name : SectionName)
  | contribute (name : SectionName) (c : Contribution)

/-- What a change makes of a registry, if it succeeds. -/
def change (r : Registry) : Change → Except Fault Registry
  | .register name => r.register name
  | .contribute name c => r.contribute name c

/-- The registry after a change; it is as before if the change fails. -/
def after (r : Registry) (change : Change) : Registry :=
  match r.change change with
  | .ok r' => r'
  | .error _ => r

/-- The registry after changes, one after the other. -/
def afterAll (r : Registry) (changes : List Change) : Registry := changes.foldl after r

/-- The changes that succeed, one after the other. -/
def succeeding (r : Registry) : List Change → List Change
  | [] => []
  | change :: rest =>
    match r.change change with
    | .ok r' => change :: r'.succeeding rest
    | .error _ => r.succeeding rest

/-- Whether a change registers a section. -/
def Change.registers (name : SectionName) : Change → Bool
  | .register other => other = name
  | .contribute .. => false

/-- What a change contributes to a section. -/
def Change.contribution? (name : SectionName) : Change → Option Contribution
  | .register _ => none
  | .contribute other c => if other = name then some c else none

/-- The contributions to every section are sorted. -/
def IsSorted (r : Registry) : Prop :=
  ∀ name contributions, r.get? name = some contributions → contributions.Pairwise fun a b =>
    a.order ≤ b.order

lemma get?_register (h : r.register name = .ok r') (other : SectionName) :
    r.get? name = none ∧ r'.get? other = if name = other then some [] else r.get? other := by
  unfold register at h
  split at h
  · contradiction
  · next hnone =>
    have hnone : r.get? name = none := by simpa using hnone
    obtain rfl := Except.ok.inj h
    refine ⟨hnone, ?_⟩
    rw [get?, List.lookup_append]
    split
    · next heq =>
      rw [← heq, show r.slots.lookup name = none from hnone]
      simp
    · next hne =>
      rw [List.lookup_cons, beq_false_of_ne (Ne.symm hne)]
      simp [get?]

lemma get?_contribute (h : r.contribute name c = .ok r') (other : SectionName) :
    (r.get? name).isSome ∧
      r'.get? other = (r.get? other).map fun found => if other = name then Registry.place c found
        else found := by
  unfold contribute at h
  split at h
  · next hsome =>
    obtain rfl := Except.ok.inj h
    exact ⟨hsome, lookup_map (fun n found => if n = name then Registry.place c found else found)
      r.slots other⟩
  · contradiction

/-- The changes that succeed lead to the same registry by themselves: those that fail change
nothing. -/
lemma foldlM_succeeding (r : Registry) (changes : List Change) :
    (r.succeeding changes).foldlM change r = .ok (r.afterAll changes) := by
  induction changes generalizing r with
  | nil => rfl
  | cons first rest ih =>
    rw [afterAll, List.foldl_cons, succeeding, after]
    cases hfirst : r.change first with
    | error fault => exact ih r
    | ok next => exact (foldlM_cons_of_ok hfirst).trans (ih next)

/-- Where all changes succeed, none is left out. -/
lemma afterAll_of_foldlM {changes : List Change} (h : changes.foldlM change r = .ok r') :
    r.afterAll changes = r' ∧ r.succeeding changes = changes := by
  induction changes generalizing r with
  | nil => exact ⟨pure_eq_ok.1 h, rfl⟩
  | cons first rest ih =>
    simp only [List.foldlM_cons, bind_eq_ok] at h
    obtain ⟨next, hfirst, hrest⟩ := h
    obtain ⟨hafter, hsucceeding⟩ := ih hrest
    rw [afterAll, List.foldl_cons, succeeding, after, hfirst]
    exact ⟨hafter, congrArg _ hsucceeding⟩

/-- A section that is registered goes on to have its contributions sorted. -/
lemma get?_afterAll_of_some {changes : List Change}
    (h : r.get? name = some (contributions.mergeSort (·.order ≤ ·.order))) :
    (r.afterAll changes).get? name =
      some ((contributions ++ (r.succeeding changes).filterMap (·.contribution? name)).mergeSort
        (·.order ≤ ·.order)) := by
  induction changes generalizing r contributions with
  | nil => rw [afterAll, List.foldl_nil, h, succeeding, List.filterMap_nil, List.append_nil]
  | cons first rest ih =>
    rw [afterAll, List.foldl_cons, succeeding, after]
    cases hfirst : r.change first with
    | error fault => exact ih h
    | ok next =>
      dsimp only
      cases first with
      | register other =>
        -- a section that is registered cannot be registered again, so it is another one
        obtain ⟨hnone, hget⟩ := get?_register hfirst name
        have hne : other ≠ name := by
          rintro rfl
          rw [h] at hnone
          contradiction
        rw [if_neg hne, h] at hget
        rw [List.filterMap_cons_none rfl]
        exact ih hget
      | contribute other c =>
        obtain ⟨-, hget⟩ := get?_contribute hfirst name
        rw [h, Option.map_some] at hget
        by_cases heq : other = name
        · have hfirst : (Change.contribute other c).contribution? name = some c := if_pos heq
          rw [if_pos heq.symm, place_mergeSort] at hget
          rw [List.filterMap_cons_some hfirst, ← List.singleton_append, ← List.append_assoc]
          exact ih hget
        · have hfirst : (Change.contribute other c).contribution? name = none := if_neg heq
          rw [if_neg (Ne.symm heq)] at hget
          rw [List.filterMap_cons_none hfirst]
          exact ih hget

/-- A section that is not registered has no contributions until it is. -/
lemma get?_afterAll_of_none {changes : List Change} (h : r.get? name = none) :
    (r.afterAll changes).get? name =
      if changes.any (·.registers name) then
        some (((r.succeeding changes).filterMap (·.contribution? name)).mergeSort
          (·.order ≤ ·.order))
      else none := by
  induction changes generalizing r with
  | nil => exact h
  | cons first rest ih =>
    rw [afterAll, List.foldl_cons, succeeding, after, List.any_cons]
    cases hfirst : r.change first with
    | error fault =>
      have hother : first.registers name = false := by
        cases first with
        | contribute other c => rfl
        | register other =>
          -- the first registration of a section does not fail
          refine decide_eq_false fun heq => ?_
          have hok : r.change (.register other) = .ok ⟨r.slots ++ [(other, [])]⟩ :=
            if_neg (by rw [heq, h]; simp)
          rw [hfirst] at hok
          contradiction
      rw [hother, Bool.false_or]
      exact ih h
    | ok next =>
      dsimp only
      cases first with
      | register other =>
        obtain ⟨-, hget⟩ := get?_register hfirst name
        rw [List.filterMap_cons_none rfl]
        by_cases heq : other = name
        · -- from here on the section is registered, with no contributions yet
          rw [if_pos heq, ← List.mergeSort_nil (r := fun a b : Contribution =>
            decide (a.order ≤ b.order))] at hget
          rw [Change.registers, decide_eq_true heq, Bool.true_or, if_pos rfl]
          exact get?_afterAll_of_some hget
        · rw [if_neg heq, h] at hget
          rw [Change.registers, decide_eq_false heq, Bool.false_or]
          exact ih hget
      | contribute other c =>
        obtain ⟨hsome, hget⟩ := get?_contribute hfirst name
        rw [h, Option.map_none] at hget
        have hne : other ≠ name := by
          rintro rfl
          rw [h] at hsome
          contradiction
        have hfirst : (Change.contribute other c).contribution? name = none := if_neg hne
        rw [Change.registers, Bool.false_or, List.filterMap_cons_none hfirst]
        exact ih hget

/-- After any changes, every section that is registered has the contributions that it had and those
that succeeded, sorted by order and those of one order as they came in. -/
theorem get?_afterAll (hsorted : r.IsSorted) (changes : List Change) (name : SectionName) :
    (r.afterAll changes).get? name =
      ((r.get? name).or (if changes.any (·.registers name) then some [] else none)).map
        fun contributions =>
          (contributions ++ (r.succeeding changes).filterMap (·.contribution? name)).mergeSort
            (·.order ≤ ·.order) := by
  cases hget : r.get? name with
  | none =>
    rw [get?_afterAll_of_none hget, Option.none_or]
    split <;> rfl
  | some contributions =>
    rw [Option.some_or, Option.map_some]
    refine get?_afterAll_of_some ?_
    rw [hget, List.mergeSort_of_pairwise ((hsorted name contributions hget).imp decide_eq_true)]

lemma isSorted_empty : IsSorted {} := nofun

/-- The sections of the catalog have no contributions yet. -/
lemma isSorted_catalog : catalog.IsSorted := by
  intro name contributions hget
  have hnone : catalog.get? name = some [] := by cases name <;> rfl
  obtain rfl := Option.some.inj (hnone.symm.trans hget)
  exact .nil

/-- Changes leave a registry sorted. -/
theorem IsSorted.afterAll (hsorted : r.IsSorted) (changes : List Change) :
    (r.afterAll changes).IsSorted := by
  intro name contributions hget
  rw [get?_afterAll hsorted changes name, Option.map_eq_some_iff] at hget
  obtain ⟨before, -, rfl⟩ := hget
  exact StableSort.pairwise_mergeSort Contribution.order _

end Registry

/-! ## Decorators -/

/-- What a decorator contributes to a section: its own contribution, and then the extra ones for
it. -/
def Decorator.contributionsTo (p : Project) (name : SectionName) (d : Decorator) :
    List Contribution :=
  ⟨d.name, d.order, d.write p⟩ :: ((d.extra p).filter (·.place = name)).map fun e =>
    ⟨d.name, d.order, e.write⟩

/-- Decorators by order, and those of one order by their places in the list. -/
def Decorator.inEffect (decorators : List Decorator) : List Decorator :=
  (decorators.zipIdx.mergeSort fun a b => a.1.order < b.1.order ∨
    a.1.order = b.1.order ∧ a.2 ≤ b.2).map (·.1)

namespace DecoratorSet

variable {d : DecoratorSet} {decorators : List Decorator}

lemma duplicate?_eq_none {seen names : List String} (hnodup : (seen ++ names).Nodup) :
    duplicate? seen names = none := by
  induction names generalizing seen with
  | nil => rfl
  | cons name rest ih =>
    have hfresh : seen.findIdx? (· == name) = none := by
      refine List.findIdx?_eq_none_iff.2 fun other hmem => beq_false_of_ne ?_
      rintro rfl
      exact List.disjoint_of_nodup_append hnodup hmem List.mem_cons_self
    rw [duplicate?, hfresh]
    exact ih (by rwa [List.append_assoc, List.singleton_append])

/-- There is a set of any decorators of different names. -/
lemma ofList_of_nodup (hnames : (decorators.map (·.name)).Nodup) :
    ofList decorators = .ok ⟨decorators.mergeSort (·.order ≤ ·.order)⟩ := by
  rw [ofList, duplicate?_eq_none (by simpa using hnames)]

lemma mergeSort_eq_inEffect (decorators : List Decorator) :
    decorators.mergeSort (·.order ≤ ·.order) = Decorator.inEffect decorators :=
  (StableSort.mergeSort_zipIdx_eq Decorator.order decorators).symm

lemma contributionsTo_of_contributions (p : Project) (name : SectionName) (decorator : Decorator) :
    (contributions p decorator).filterMap (fun e =>
      (Registry.Change.contribute e.1 e.2).contribution? name) =
        decorator.contributionsTo p name := by
  rw [contributions, List.filterMap_append, List.filterMap_map, List.filterMap_map,
    Decorator.contributionsTo, ← List.filterMap_eq_filter, List.map_filterMap]
  have hown : SectionName.all.filterMap
      (fun n =>
        (Registry.Change.contribute n ⟨decorator.name, decorator.order,
          decorator.write p⟩).contribution? name) =
            [⟨decorator.name, decorator.order, decorator.write p⟩] := by
    cases name <;> rfl
  refine congrArg₂ (· ++ ·) hown (List.filterMap_congr fun e _ => ?_)
  by_cases heq : e.place = name <;> simp [Registry.Change.contribution?, heq]

/-- A registry of decorators has for every section what they contribute to it, decorator after
decorator. -/
theorem exists_registry_get? (p : Project)
    (hsorted : d.members.Pairwise fun a b => a.order ≤ b.order) :
    ∃ r, d.registry p = .ok r ∧
      ∀ name, r.get? name = some (d.members.flatMap (·.contributionsTo p name)) := by
  obtain ⟨r, hr, -⟩ : ∃ r, d.registry p = .ok r ∧ r.Holds fun _ => True :=
    Registry.Holds.foldlM Registry.holds_catalog fun _ _ => trivial
  refine ⟨r, hr, fun name => ?_⟩
  have hchanges :
      ((d.members.flatMap (contributions p)).map fun e => Registry.Change.contribute e.1 e.2).foldlM
        Registry.change .catalog = .ok r := by
    rw [List.foldlM_map]
    exact hr
  obtain ⟨rfl, hsucceeding⟩ := Registry.afterAll_of_foldlM hchanges
  have hcatalog :
      Registry.catalog.get? name =
        some (([] : List Contribution).mergeSort (·.order ≤ ·.order)) := by
    cases name <;> simp <;> rfl
  rw [Registry.get?_afterAll_of_some hcatalog, hsucceeding, List.nil_append, List.filterMap_map,
    List.filterMap_flatMap]
  simp only [Function.comp_def, contributionsTo_of_contributions]
  -- the contributions of one decorator are of its order
  have horder : ∀ decorator : Decorator, ∀ c ∈ decorator.contributionsTo p name,
      c.order = decorator.order := by
    intro decorator c hmem
    rcases List.mem_cons.1 hmem with rfl | hmem
    · rfl
    · obtain ⟨e, -, rfl⟩ := List.mem_map.1 hmem
      rfl
  refine congrArg some (List.mergeSort_of_pairwise
    (List.pairwise_flatMap.2 ⟨fun decorator _ => ?_, ?_⟩))
  · exact List.pairwise_of_forall_mem_list fun a ha b hb =>
      decide_eq_true (by rw [horder decorator a ha, horder decorator b hb])
  · exact hsorted.imp fun hle a ha b hb => decide_eq_true (by rwa [horder _ a ha, horder _ b hb])

/-- Where all orders differ, the places of the decorators do not matter. -/
lemma ofList_of_perm {moved : List Decorator} (hperm : moved.Perm decorators)
    (hnames : (decorators.map (·.name)).Nodup) (horders : (decorators.map (·.order)).Nodup) :
    ofList moved = ofList decorators := by
  have hmoved : (moved.map (·.name)).Nodup := (hperm.map _).nodup_iff.2 hnames
  have hsort : moved.mergeSort (·.order ≤ ·.order) = decorators.mergeSort (·.order ≤ ·.order) :=
    StableSort.mergeSort_eq_of_perm hperm horders
  rw [ofList_of_nodup hnames, ofList_of_nodup hmoved, hsort]

end DecoratorSet

/-- Sections compose in one way. At every place the decorators write in the order in which they are
in effect, each its own contribution and then the extra ones, up to the first that fails; where all
orders differ, it makes no difference how the decorators were listed. More generally, whatever
sections are registered and whatever is contributed to them, each has the contributions that
succeeded, sorted by order and those of one order as they came in, and what fails changes
nothing. -/
theorem sections_compose {decorators : List Decorator} (hnames : (decorators.map (·.name)).Nodup)
    (p : Project) {r : Registry} (hsorted : r.IsSorted) (changes : List Registry.Change) :
    (∃ d registry, DecoratorSet.ofList decorators = .ok d ∧ d.registry p = .ok registry ∧
      (∀ place, registry.render place =
        place.compose ((Decorator.inEffect decorators).flatMap (·.contributionsTo p place.name))) ∧
      ((decorators.map (·.order)).Nodup → ∀ moved, moved.Perm decorators →
        DecoratorSet.ofList moved = .ok d)) ∧
    (∀ name, (r.afterAll changes).get? name =
      ((r.get? name).or (if changes.any (·.registers name) then some [] else none)).map
        fun contributions =>
          (contributions ++ (r.succeeding changes).filterMap (·.contribution? name)).mergeSort
            (·.order ≤ ·.order)) ∧
    (r.succeeding changes).foldlM Registry.change r = .ok (r.afterAll changes) := by
  have hset : DecoratorSet.ofList decorators = .ok ⟨Decorator.inEffect decorators⟩ := by
    rw [DecoratorSet.ofList_of_nodup hnames, DecoratorSet.mergeSort_eq_inEffect]
  have hmembers : (Decorator.inEffect decorators).Pairwise fun a b => a.order ≤ b.order := by
    rw [← DecoratorSet.mergeSort_eq_inEffect]
    exact StableSort.pairwise_mergeSort Decorator.order decorators
  obtain ⟨registry, hregistry, hget⟩ :=
    DecoratorSet.exists_registry_get? (d := ⟨Decorator.inEffect decorators⟩) p hmembers
  refine ⟨⟨_, registry, hset, hregistry, fun place => ?_, fun horders moved hperm => ?_⟩, ?_, ?_⟩
  · exact Registry.render_eq_compose (hget place.name)
  · exact (DecoratorSet.ofList_of_perm hperm hnames horders).trans hset
  · exact Registry.get?_afterAll hsorted changes
  · exact Registry.foldlM_succeeding r changes

/-- A decorator that writes its name everywhere, and its name with a mark at the end of the
crate. -/
def Decorator.signing (name : String) (order : Int) : Decorator where
  name
  order
  write _ _ := .ok (some (.line name))
  extra _ := [⟨.libBody, fun _ => .ok (some (.line s!"{name}!"))⟩]

/-- A contribution that writes nothing. -/
def Contribution.silent (decorator : String) (order : Int) : Contribution :=
  ⟨decorator, order, fun _ => .ok none⟩

/-- Changes of a section: what comes before the section is registered is lost, and so is every
registration but the first. -/
def Registry.lateChanges : List Registry.Change := [
  .contribute .libBody (.silent "lost" 0), .register .libBody,
  .contribute .libBody (.silent "late" 1), .register .libBody,
  .contribute .libBody (.silent "early" 0)]

/-- Decorators that are listed in another order than they write in, and a section that is registered
too late, in a registry without sections and in one that has all of them. -/
theorem sections_compose_of_signing :
    (∃ d registry,
      DecoratorSet.ofList [.signing "late" 1, .signing "first" 0, .signing "early" (-1),
        .signing "second" 0] = .ok d ∧
      d.registry (Command.Input.small []).project = .ok registry ∧
      registry.render .libBody = .ok [.line "early", .line "early!", .line "first",
        .line "first!", .line "second", .line "second!", .line "late", .line "late!"]) ∧
    (({} : Registry).afterAll Registry.lateChanges).get? .libBody =
      some [.silent "early" 0, .silent "late" 1] ∧
    (Registry.catalog.afterAll Registry.lateChanges).get? .libBody =
      some [.silent "lost" 0, .silent "early" 0, .silent "late" 1] := by
  have hnames : (([.signing "late" 1, .signing "first" 0, .signing "early" (-1),
      .signing "second" 0] : List Decorator).map (·.name)).Nodup := by decide
  obtain ⟨⟨d, registry, hd, hregistry, hrender, -⟩, hempty, -⟩ :=
    sections_compose hnames (Command.Input.small []).project Registry.isSorted_empty
      Registry.lateChanges
  obtain ⟨-, hcatalog, -⟩ :=
    sections_compose hnames (Command.Input.small []).project Registry.isSorted_catalog
      Registry.lateChanges
  have heffect : Decorator.inEffect [.signing "late" 1, .signing "first" 0,
      .signing "early" (-1), .signing "second" 0] =
        [.signing "early" (-1), .signing "first" 0, .signing "second" 0, .signing "late" 1] := by
    simp [Decorator.inEffect, Decorator.signing, List.zipIdx, List.mergeSort,
      List.MergeSort.Internal.splitInTwo]
  have hlate : (({} : Registry).succeeding Registry.lateChanges).filterMap
      (·.contribution? .libBody) = [.silent "late" 1, .silent "early" 0] := rfl
  have hall : (Registry.catalog.succeeding Registry.lateChanges).filterMap
      (·.contribution? .libBody) =
        [.silent "lost" 0, .silent "late" 1, .silent "early" 0] := rfl
  have hget : Registry.catalog.get? .libBody = some [] := rfl
  refine ⟨⟨d, registry, hd, hregistry, (hrender .libBody).trans ?_⟩, ?_, ?_⟩
  · rw [heffect]
    rfl
  · rw [hempty, hlate]
    simp [Registry.get?, Registry.lateChanges, Registry.Change.registers, Contribution.silent,
      List.mergeSort, List.MergeSort.Internal.splitInTwo]
  · rw [hcatalog, hall, hget]
    simp [Contribution.silent, List.mergeSort, List.MergeSort.Internal.splitInTwo]

end SdkForge
