import Mathlib.Data.List.Sort

/-!
# Sorting by a key

A sort by a key is stable: what has one key stays as it stood.

* `filter_mergeSort` says so for all elements that are alike, and `eq_mergeSort_iff` that a sort by
  a key is known by it: no other sorted list has, for every key, the elements of that key as they
  stood.
* `mergeSort_zipIdx_eq` says that positions can be added to the keys, and `mergeSort_eq_of_perm`
  that where all keys differ the order of the elements does not matter.
-/

namespace SdkForge.StableSort

variable {α κ : Type} [LinearOrder κ] {key : α → κ} {l l' : List α}

/-- The comparison by which elements are sorted. -/
def before (key : α → κ) (a b : α) : Bool := key a ≤ key b

lemma before_trans (a b c : α) (hab : before key a b = true) (hbc : before key b c = true) :
    before key a c = true := by
  rw [before, decide_eq_true_iff] at *
  exact hab.trans hbc

lemma before_total (a b : α) : (before key a b || before key b a) = true := by
  rw [before, before, Bool.or_eq_true, decide_eq_true_iff, decide_eq_true_iff]
  exact le_total _ _

lemma pairwise_mergeSort (key : α → κ) (l : List α) :
    (l.mergeSort (before key)).Pairwise fun a b => key a ≤ key b :=
  (List.pairwise_mergeSort before_trans before_total l).imp of_decide_eq_true

/-- Sorting keeps the order of elements of one key. -/
lemma filter_mergeSort (key : α → κ) (l : List α) (k : κ) :
    ((l.mergeSort (before key)).filter fun a => key a = k) = l.filter fun a => key a = k := by
  have hsorted : (l.filter fun a => key a = k).Pairwise (before key · ·) := by
    have hkey : ∀ a ∈ l.filter fun a => key a = k, key a = k :=
      fun a ha => of_decide_eq_true (List.mem_filter.1 ha).2
    exact List.pairwise_of_forall_mem_list fun a ha b hb =>
      decide_eq_true (by rw [hkey a ha, hkey b hb])
  have hsublist : (l.filter fun a => key a = k).Sublist (l.mergeSort (before key)) :=
    List.sublist_mergeSort before_trans before_total hsorted List.filter_sublist
  -- the elements of the key are a part of the sorted ones, and there are as many
  have hpart := hsublist.filter fun a => decide (key a = k)
  simp only [List.filter_filter, Bool.and_self] at hpart
  exact (hpart.eq_of_length ((List.mergeSort_perm l _).filter _).length_eq.symm).symm

/-- Two sorted lists are equal if they have, for every key, the same elements of that key in the
same order. -/
lemma eq_of_filter_eq (hl : l.Pairwise fun a b => key a ≤ key b)
    (hl' : l'.Pairwise fun a b => key a ≤ key b)
    (h : ∀ k, (l.filter fun a => key a = k) = l'.filter fun a => key a = k) : l = l' := by
  induction l generalizing l' with
  | nil =>
    cases l' with
    | nil => rfl
    | cons b rest' => simpa using h (key b)
  | cons a rest ih =>
    cases l' with
    | nil => simpa using h (key a)
    | cons b rest' =>
      have hmem : a ∈ b :: rest' :=
        (List.mem_filter.1 (h (key a) ▸ List.mem_filter.2 ⟨List.mem_cons_self, by simp⟩)).1
      have hmem' : b ∈ a :: rest :=
        (List.mem_filter.1 ((h (key b)).symm ▸ List.mem_filter.2 ⟨List.mem_cons_self, by simp⟩)).1
      have hkey : key a = key b := by
        have hle : ∀ x ∈ a :: rest, key a ≤ key x :=
          List.forall_mem_cons.2 ⟨le_rfl, (List.pairwise_cons.1 hl).1⟩
        have hle' : ∀ x ∈ b :: rest', key b ≤ key x :=
          List.forall_mem_cons.2 ⟨le_rfl, (List.pairwise_cons.1 hl').1⟩
        exact le_antisymm (hle b hmem') (hle' a hmem)
      have hhead := h (key a)
      rw [List.filter_cons_of_pos (by simp), List.filter_cons_of_pos (by simp [hkey])] at hhead
      obtain rfl := (List.cons.inj hhead).1
      rw [ih hl.of_cons hl'.of_cons fun k => ?_]
      have hk := h k
      by_cases heq : key a = k
      · rw [List.filter_cons_of_pos (by simp [heq]), List.filter_cons_of_pos (by simp [heq])] at hk
        exact (List.cons.inj hk).2
      · rwa [List.filter_cons_of_neg (by simp [heq]), List.filter_cons_of_neg (by simp [heq])] at hk

/-- The sort by a key is the sorted list in which the elements of each key stand as they stood. -/
theorem eq_mergeSort_iff :
    l' = l.mergeSort (before key) ↔
      (l'.Pairwise fun a b => key a ≤ key b) ∧
      ∀ k, (l'.filter fun a => key a = k) = l.filter fun a => key a = k := by
  constructor
  · rintro rfl
    exact ⟨pairwise_mergeSort key l, filter_mergeSort key l⟩
  · rintro ⟨hsorted, hfilter⟩
    exact eq_of_filter_eq hsorted (pairwise_mergeSort key l) fun k =>
      (hfilter k).trans (filter_mergeSort key l k).symm

/-- Sorting what is left of a list leaves the same as sorting it first. -/
lemma filter_mergeSort_comm (key : α → κ) (l : List α) (keep : α → Bool) :
    (l.mergeSort (before key)).filter keep = (l.filter keep).mergeSort (before key) := by
  refine eq_mergeSort_iff.2 ⟨(pairwise_mergeSort key l).filter keep, fun k => ?_⟩
  have hkey := congrArg (List.filter keep) (filter_mergeSort key l k)
  simpa only [List.filter_filter, Bool.and_comm] using hkey

/-- Where all keys differ, the order of the elements does not matter. -/
lemma mergeSort_eq_of_perm (hperm : l'.Perm l) (hkeys : (l.map key).Nodup) :
    l'.mergeSort (before key) = l.mergeSort (before key) := by
  have hperm : (l'.mergeSort (before key)).Perm (l.mergeSort (before key)) :=
    (List.mergeSort_perm l' _).trans (hperm.trans (List.mergeSort_perm l _).symm)
  refine hperm.eq_of_pairwise (fun a b ha hb hab hba => ?_) (pairwise_mergeSort key l')
    (pairwise_mergeSort key l)
  have ha : a ∈ l := List.mem_mergeSort.1 (hperm.mem_iff.1 ha)
  have hb : b ∈ l := List.mem_mergeSort.1 hb
  exact List.inj_on_of_nodup_map hkeys ha hb (le_antisymm hab hba)

/-- Sorting by the keys and, for one key, by the positions is sorting by the keys. -/
lemma mergeSort_zipIdx_eq (key : α → κ) (l : List α) :
    (l.zipIdx.mergeSort fun a b => key a.1 < key b.1 ∨ key a.1 = key b.1 ∧ a.2 ≤ b.2).map (·.1) =
      l.mergeSort (before key) := by
  have hle : (fun a b : α × Nat => decide (key a.1 < key b.1 ∨ key a.1 = key b.1 ∧ a.2 ≤ b.2)) =
      List.zipIdxLE (before key) := by
    funext a b
    rw [List.zipIdxLE, before, before]
    rcases lt_trichotomy (key a.1) (key b.1) with hlt | heq | hgt
    · simp [hlt, hlt.le, hlt.not_ge]
    · simp [heq]
    · simp [hgt.not_gt, hgt.ne', hgt.not_ge]
  rw [hle, List.mergeSort_zipIdx]

end SdkForge.StableSort
