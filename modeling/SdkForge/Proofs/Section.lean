import SdkForge.Proofs.Decorator
import SdkForge.Section.Registry

/-!
# What decorators write

A registry takes contributions one after the other, each for a section that it has.

* `Registry.Holds` says that every section is registered, and that all contributions have a
  property; `Holds.contribute` keeps it for one more contribution and `Holds.foldlM` for any number
  of them.
* `DecoratorSet.exists_registry` says that the decorators that come along can be registered, and
  `Holds.exists_render` that what they contribute can be written.
-/

namespace SdkForge

open Outcome

/-! ## Registries -/

namespace Registry

variable {r r' : Registry} {P : Contribution → Prop} {c : Contribution} {place : Section}

/-- Every section is registered, and all contributions to it have the property. -/
def Holds (r : Registry) (P : Contribution → Prop) : Prop :=
  ∀ name, ∃ contributions, r.get? name = some contributions ∧ ∀ c ∈ contributions, P c

lemma mem_place {contributions : List Contribution} {other : Contribution}
    (h : other ∈ Registry.place c contributions) :
    other = c ∨ other ∈ contributions := by
  rcases List.mem_append.1 h with h | h
  · exact .inr ((List.takeWhile_sublist _).mem h)
  · rcases List.mem_cons.1 h with h | h
    · exact .inl h
    · exact .inr ((List.dropWhile_sublist _).mem h)

/-- Changing what stands under the keys of a list changes what is found there. -/
lemma lookup_map {α β γ : Type} [BEq α] [LawfulBEq α] (f : α → β → γ) (l : List (α × β)) (key : α) :
    (l.map fun (k, value) => (k, f k value)).lookup key = (l.lookup key).map (f key) := by
  induction l with
  | nil => rfl
  | cons first rest ih =>
    rw [List.map_cons, List.lookup_cons, List.lookup_cons, ih]
    split
    · next heq =>
      rw [beq_iff_eq.1 heq]
      rfl
    · rfl

lemma holds_catalog : catalog.Holds P := by
  intro name
  refine ⟨[], ?_, by simp⟩
  cases name <;> rfl

/-- A contribution can be added, and the others are still there. -/
lemma Holds.contribute (h : r.Holds P) (name : SectionName) (hc : P c) :
    ∃ r', r.contribute name c = .ok r' ∧ r'.Holds P := by
  obtain ⟨found, hfound, _⟩ := h name
  refine ⟨_, if_pos (by rw [hfound]; rfl), fun other => ?_⟩
  obtain ⟨contributions, hget, hall⟩ := h other
  have hlookup :=
    lookup_map (fun n contributions => if n = name then Registry.place c contributions
      else contributions) r.slots
    other
  rw [show r.slots.lookup other = some contributions from hget] at hlookup
  refine ⟨_, hlookup, fun contribution hmem => ?_⟩
  split at hmem
  · rcases mem_place hmem with rfl | hmem
    · exact hc
    · exact hall contribution hmem
  · exact hall contribution hmem

/-- Contributions can be added one after the other. -/
lemma Holds.foldlM {contributions : List (SectionName × Contribution)} (h : r.Holds P)
    (hall : ∀ entry ∈ contributions, P entry.2) :
    ∃ r', contributions.foldlM (fun r (name, c) => Registry.contribute r name c) r = .ok r' ∧
      r'.Holds P := by
  induction contributions generalizing r with
  | nil => exact ⟨r, rfl, h⟩
  | cons first rest ih =>
    obtain ⟨next, hnext, h⟩ := h.contribute first.1 (hall first List.mem_cons_self)
    obtain ⟨r', hr', h⟩ := ih h fun entry hmem => hall entry (List.mem_cons_of_mem _ hmem)
    exact ⟨r', (foldlM_cons_of_ok hnext).trans hr', h⟩

end Registry

/-! ## Contributions that come along -/

/-- A contribution that does not fail, and that leaves the builder of a service alone. -/
structure Contribution.IsPlain (c : Contribution) : Prop where
  total : ∀ place, ∃ written, c.write place = .ok written
  builderImpl : ∀ service, c.write (.serviceBuilderImpl service) = .ok none
  buildPrologue : ∀ service, c.write (.serviceBuildPrologue service) = .ok none

namespace Registry

variable {r : Registry} {place : Section}

lemma render_eq_ok {contributions : List Contribution} {written : Contribution → List Fragment}
    (hget : r.get? place.name = some contributions)
    (hwrite : ∀ c ∈ contributions, write place c = .ok (written c)) :
    r.render place = .ok (contributions.map written).flatten := by
  rw [render, hget]
  show contributions.mapM (write place) >>= _ = _
  rw [mapM_eq_ok_of_forall hwrite]
  rfl

/-- What the contributors write at a place is there. -/
lemma Holds.exists_render (h : r.Holds Contribution.IsPlain) (place : Section) :
    ∃ fragments, r.render place = .ok fragments := by
  obtain ⟨contributions, hget, hall⟩ := h place.name
  have hwrite :
      ∀ c ∈ contributions, write place c = .ok (((c.write place).toOption.bind id).toList) := by
    intro c hmem
    obtain ⟨written, hwritten⟩ := (hall c hmem).total place
    rw [write, hwritten]
    rfl
  exact ⟨_, render_eq_ok hget hwrite⟩

/-- Nothing is written at a place where no contributor writes. -/
lemma Holds.render_eq_nil (h : r.Holds Contribution.IsPlain)
    (hnone : ∀ c, Contribution.IsPlain c → c.write place = .ok none) : r.render place = .ok [] := by
  obtain ⟨contributions, hget, hall⟩ := h place.name
  have hwrite : ∀ c ∈ contributions, write place c = .ok [] := by
    intro c hmem
    rw [write, hnone c (hall c hmem)]
    rfl
  rw [render_eq_ok hget hwrite]
  simp

end Registry

namespace Decorator

variable {p : Project}

/-- What a decorator contributes is plain, if it is so in its own contribution and in the extra
ones. -/
lemma isPlain_of_mem_contributions {decorator : Decorator} {entry : SectionName × Contribution}
    (hown : (⟨decorator.name, decorator.order, decorator.write p⟩ : Contribution).IsPlain)
    (hextra : ∀ e ∈ decorator.extra p,
      (⟨decorator.name, decorator.order, e.write⟩ : Contribution).IsPlain)
    (hmem : entry ∈ DecoratorSet.contributions p decorator) : entry.2.IsPlain := by
  rcases List.mem_append.1 hmem with hmem | hmem
  · obtain ⟨_, _, rfl⟩ := List.mem_map.1 hmem
    exact hown
  · obtain ⟨e, he, rfl⟩ := List.mem_map.1 hmem
    exact hextra e he

lemma isPlain_of_sdkConfig {entry : SectionName × Contribution}
    (hmem : entry ∈ DecoratorSet.contributions p sdkConfig) :
    entry.2.IsPlain := by
  refine isPlain_of_mem_contributions ⟨fun place => ?_, fun _ => rfl,
    fun _ => rfl⟩ (fun e he => ?_) hmem
  · cases place <;> exact ⟨_, rfl⟩
  · simp only [sdkConfig, List.mem_cons, List.not_mem_nil, or_false] at he
    rcases he with rfl | rfl | rfl | rfl <;>
      exact ⟨fun place => by cases place <;> exact ⟨_, rfl⟩, fun _ => rfl, fun _ => rfl⟩

lemma isPlain_of_s3 {entry : SectionName × Contribution}
    (hmem : entry ∈ DecoratorSet.contributions p s3) :
    entry.2.IsPlain := by
  refine isPlain_of_mem_contributions ?_ (fun e he => by simp [s3] at he) hmem
  simp only [s3]
  split
  · exact ⟨fun place => by cases place <;> exact ⟨_, rfl⟩, fun _ => rfl, fun _ => rfl⟩
  · exact ⟨fun _ => ⟨_, rfl⟩, fun _ => rfl, fun _ => rfl⟩

end Decorator

/-- The decorators that come along can be registered, and all that they contribute is plain. -/
theorem DecoratorSet.exists_registry {d : DecoratorSet} {enabled : Option (List String)}
    (hselect : select enabled = .ok d) (p : Project) : ∃ r, d.registry p = .ok r ∧
      r.Holds Contribution.IsPlain := by
  have hplain : ∀ decorator ∈ d.members, ∀ entry ∈ contributions p decorator, entry.2.IsPlain :=
    forall_mem_of_select hselect (fun _ => Decorator.isPlain_of_sdkConfig) (fun _ =>
      Decorator.isPlain_of_s3)
  refine Registry.Holds.foldlM Registry.holds_catalog fun entry hmem => ?_
  obtain ⟨decorator, hdecorator, hmem⟩ := List.mem_flatMap.1 hmem
  exact hplain decorator hdecorator entry hmem

end SdkForge
