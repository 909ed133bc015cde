import SdkForge.Proofs.Server.Dispatch
import SdkForge.Proofs.Server.Matching

/-!
# Which of two patterns is tried first

A path can be made more special: a literal for a label, or a run of parts for a greedy one. The
special path matches fewer requests, but the rank of a spec counts its parts only, so a spec that is
more special need not rank higher.

* `Refines.matchesPath` says that a special path matches only what the general one matches.
* `wins_of_refines` says when the special spec is preferred: always if it is longer, else if it
  stands first.
-/

namespace SdkForge.Server

/-! ## Special paths -/

/-- The first path is the second one with literals for some labels, and with a run of parts for some
greedy ones. -/
inductive Refines : List Segment → List Segment → Prop where
  | nil : Refines [] []
  | keep (part : Segment) {a b : List Segment} (h : Refines a b) : Refines (part :: a) (part :: b)
  | literal (text : String) {a b : List Segment} (h : Refines a b) :
      Refines (.literal text :: a) (.label :: b)
  | greedy {run a b : List Segment} (hrun : run ≠ []) (h : Refines a b) :
      Refines (run ++ a) (.greedy :: b)

/-- Each part of a path takes at least one segment. -/
lemma Segment.Takes.ne_nil {part : Segment} {run : List String} (h : part.Takes run) :
    run ≠ [] := by
  cases part with
  | literal text => exact h ▸ List.cons_ne_nil _ _
  | label =>
    obtain ⟨segment, rfl⟩ := h
    exact List.cons_ne_nil _ _
  | greedy => exact h

/-- The first parts of a path match the first segments, at least one if there is one part. -/
lemma exists_of_matchesPath_append {run rest : List Segment} {segments : List String}
    (h : matchesPath (run ++ rest) segments = true) :
    ∃ taken more, segments = taken ++ more ∧ (run ≠ [] → taken ≠ []) ∧
      matchesPath rest more = true := by
  induction run generalizing segments with
  | nil => exact ⟨[], segments, rfl, fun h => absurd rfl h, h⟩
  | cons part run ih =>
    obtain ⟨first, left, htakes, rfl, hleft⟩ := matchesPath_cons_iff.1 h
    obtain ⟨taken, more, rfl, -, hmore⟩ := ih hleft
    refine ⟨first ++ taken, more, (List.append_assoc _ _ _).symm, fun _ => ?_, hmore⟩
    exact List.append_ne_nil_of_left_ne_nil htakes.ne_nil _

namespace Refines

variable {a b : List Segment}

lemma length_le (h : Refines a b) : b.length ≤ a.length := by
  induction h with
  | nil => exact le_rfl
  | keep part _ ih => exact Nat.succ_le_succ ih
  | literal text _ ih => exact Nat.succ_le_succ ih
  | greedy hrun _ ih =>
    have hpos := List.length_pos_of_ne_nil hrun
    rw [List.length_append, List.length_cons]
    omega

/-- A special path matches only what the general one matches. -/
theorem matchesPath (h : Refines a b) {segments : List String}
    (ha : Server.matchesPath a segments = true) :
    Server.matchesPath b segments = true := by
  induction h generalizing segments with
  | nil => exact ha
  | keep part _ ih =>
    obtain ⟨run, more, htakes, rfl, hmore⟩ := matchesPath_cons_iff.1 ha
    exact matchesPath_cons_iff.2 ⟨run, more, htakes, rfl, ih hmore⟩
  | literal text _ ih =>
    obtain ⟨_, more, rfl, rfl, hmore⟩ := matchesPath_cons_iff.1 ha
    exact matchesPath_cons_iff.2 ⟨[text], more, ⟨text, rfl⟩, rfl, ih hmore⟩
  | greedy hrun _ ih =>
    obtain ⟨taken, more, rfl, htaken, hmore⟩ := exists_of_matchesPath_append ha
    exact matchesPath_cons_iff.2 ⟨taken, more, htaken hrun, rfl, ih hmore⟩

/-- Whatever the special spec admits, the general one admits. -/
lemma admits (h : Refines a b) {method : String} {query : List QueryItem} {request : Http.Request}
    (ha : (RequestSpec.rest method a query).admits request = .yes) :
    (RequestSpec.rest method b query).admits request = .yes := by
  rw [RequestSpec.admits] at ha ⊢
  split at ha
  · next hfits =>
    rw [Bool.and_eq_true] at hfits
    rw [h.matchesPath hfits.1, hfits.2]
    exact ha
  · contradiction

end Refines

/-! ## The choice between the two -/

namespace Router

variable {σ : Type}

/-- If a special spec admits a request, the general one of the same method and query does so too,
and ranks no higher. The general one does not win if the special one is longer or stands before it,
wherever both stand otherwise; if it is not longer and stands behind, the special one does not
win. -/
theorem wins_of_refines (protocol : WireProtocol) (routes : List (RequestSpec × σ))
    {request : Http.Request} {i j : Fin routes.length} {method : String} {a b : List Segment}
    {query : List QueryItem} (hi : (routes.get i).1 = .rest method a query)
    (hj : (routes.get j).1 = .rest method b query) (hrefines : Refines a b)
    (hadmits : (routes.get i).1.admits request = .yes) :
    (routes.get j).1.admits request = .yes ∧ b.length ≤ a.length ∧
    ∃ k, Wins routes request k ∧ (ofList protocol routes).find request = .ok (routes.get k).2 ∧
      (b.length < a.length ∨ i < j → k ≠ j) ∧ (a.length = b.length ∧ j < i → k ≠ i) := by
  have hgeneral : (routes.get j).1.admits request = .yes := by
    rw [hj]
    exact hrefines.admits (hi ▸ hadmits)
  have hranks : (routes.get i).1.rank = a.length + query.length ∧
      (routes.get j).1.rank = b.length + query.length := by
    rw [hi, hj]
    exact ⟨rfl, rfl⟩
  obtain ⟨k, hwins⟩ := exists_wins (List.get_mem routes i) hadmits
  refine ⟨hgeneral, hrefines.length_le, k, hwins, find_eq_ok_iff.2 ⟨k, hwins, rfl⟩, ?_, ?_⟩
  · rintro h rfl
    have hle : (routes.get i).1.rank ≤ (routes.get k).1.rank := hwins.greatest i hadmits
    have hshort : ¬b.length < a.length := by omega
    have hlength := hrefines.length_le
    have hrank : (routes.get i).1.rank = (routes.get k).1.rank := by omega
    have hfirst := hwins.first i hadmits hrank
    exact absurd (h.resolve_left hshort) (not_lt.2 hfirst)
  · rintro ⟨hlength, hlt⟩ rfl
    have hrank : (routes.get j).1.rank = (routes.get k).1.rank := by omega
    have hfirst := hwins.first j hgeneral hrank
    exact absurd hlt (not_lt.2 hfirst)

/-- A path of everything before the path of a city. -/
def everythingFirst : List (RequestSpec × String) := [
  (.rest "GET" [.greedy] [], "everything"),
  (.rest "GET" [.literal "cities", .label] [], "get")]

lemma refines_everything : Refines [.literal "cities", .label] [.greedy] :=
  show Refines ([.literal "cities", .label] ++ []) _ from .greedy (List.cons_ne_nil _ _) .nil

theorem wins_of_refines_everything : Refines [.literal "cities", .label] [.greedy] ∧
    everythingFirst[1].1.admits paris = .yes ∧ everythingFirst[0].1.admits paris = .yes ∧
    ∃ k : Fin 2, Wins everythingFirst paris k ∧
      (ofList .restJson1 everythingFirst).find paris = .ok everythingFirst[k].2 ∧ k ≠ 0 := by
  have hadmits : everythingFirst[1].1.admits paris = .yes := by cbv
  obtain ⟨hgeneral, -, k, hwins, hfind, hlonger, -⟩ :=
    wins_of_refines .restJson1 everythingFirst (i := (1 : Fin 2)) (j := (0 : Fin 2)) rfl rfl
      refines_everything hadmits
  exact ⟨refines_everything, hadmits, hgeneral, k, hwins, hfind, hlonger (.inl (by decide))⟩

/-- A literal for a label makes a path special but not longer, so the label that stands first
wins. -/
theorem find_label_before_literal :
    Refines [.literal "cities", .literal "paris"] [.literal "cities", .label] ∧
    cities[2].1 = .rest "GET" [.literal "cities", .literal "paris"] [] ∧
    cities[1].1 = .rest "GET" [.literal "cities", .label] [] ∧
    cities[2].1.admits paris = .yes ∧ cities[1].1.admits paris = .yes ∧
    (ofList .restJson1 cities).find paris = .ok cities[1].2 ∧ cities[1].2 ≠ cities[2].2 :=
  ⟨.keep _ (.literal _ .nil), rfl, rfl, by cbv, by cbv, by cbv, by decide⟩

end Router

end SdkForge.Server
