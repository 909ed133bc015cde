import Mathlib.Tactic.Common

/-!
# Computations that can fail

When a computation that is made of others gives a value, and which step is to blame when it does
not.
-/

namespace SdkForge.Outcome

variable {ε α β : Type}

lemma bind_eq_ok {x : Except ε α} {f : α → Except ε β} {b : β} :
    x >>= f = .ok b ↔ ∃ a, x = .ok a ∧ f a = .ok b := by
  cases x <;> simp [bind, Except.bind]

lemma bind_eq_error {x : Except ε α} {f : α → Except ε β} {e : ε} :
    x >>= f = .error e ↔ x = .error e ∨ ∃ a, x = .ok a ∧ f a = .error e := by
  cases x <;> simp [bind, Except.bind]

lemma map_eq_ok {x : Except ε α} {f : α → β} {b : β} :
    x.map f = .ok b ↔ ∃ a, x = .ok a ∧ f a = b := by
  cases x <;> simp [Except.map]

lemma pure_eq_ok {a b : α} : (pure a : Except ε α) = .ok b ↔ a = b := by
  simp [pure, Except.pure]

lemma elim_eq_ok {o : Option α} {e : ε} {a : α} :
    o.elim (Except.error e) Except.ok = .ok a ↔ o = some a := by
  cases o <;> simp

lemma elim_eq_error {o : Option α} {e e' : ε} :
    o.elim (Except.error e) Except.ok = .error e' ↔ o = none ∧ e = e' := by
  cases o <;> simp

lemma mapError_eq_ok {ε' : Type} {x : Except ε α} {f : ε → ε'} {a : α} :
    x.mapError f = .ok a ↔ x = .ok a := by
  cases x <;> simp [Except.mapError]

lemma mapError_eq_error {ε' : Type} {x : Except ε α} {f : ε → ε'} {e' : ε'} :
    x.mapError f = .error e' ↔ ∃ e, x = .error e ∧ f e = e' := by
  cases x <;> simp [Except.mapError]

lemma toOption_eq_some {x : Except ε α} {a : α} : x.toOption = some a ↔ x = .ok a := by
  cases x <;> simp [Except.toOption]

lemma exists_eq_ok_of_isSome {x : Except ε α} (h : x.toOption.isSome = true) : ∃ a, x = .ok a := by
  obtain ⟨a, ha⟩ := Option.isSome_iff_exists.1 h
  exact ⟨a, toOption_eq_some.1 ha⟩

/-- A step that goes well for every element of a list goes well for the list. -/
lemma mapM_eq_ok_of_forall {f : α → Except ε β} {g : α → β} {l : List α}
    (h : ∀ a ∈ l, f a = .ok (g a)) :
    l.mapM f = .ok (l.map g) := by
  induction l with
  | nil => rfl
  | cons first rest ih =>
    have hfirst : f first = .ok (g first) := h first List.mem_cons_self
    have hrest : rest.mapM f = .ok (rest.map g) :=
      ih fun a hmem => h a (List.mem_cons_of_mem _ hmem)
    rw [List.mapM_cons, hfirst, hrest]
    rfl

/-- What every value keeps of its element, the values of a list keep in the list's order. -/
lemma map_eq_of_mapM_eq_ok {γ : Type} {f : α → Except ε β} {kept : β → γ} {key : α → γ}
    (hkeep : ∀ a b, f a = .ok b → kept b = key a) {l : List α} {r : List β} (h : l.mapM f = .ok r) :
    r.map kept = l.map key := by
  induction l generalizing r with
  | nil =>
    obtain rfl := pure_eq_ok.1 h
    rfl
  | cons first rest ih =>
    simp only [List.mapM_cons, bind_eq_ok, pure_eq_ok] at h
    obtain ⟨b, hfirst, bs, hrest, rfl⟩ := h
    rw [List.map_cons, List.map_cons, hkeep first b hfirst, ih hrest]

/-- Each value of a list comes from an element. -/
lemma exists_of_mem_mapM {f : α → Except ε β} {l : List α} {r : List β} (h : l.mapM f = .ok r)
    {b : β} (hmem : b ∈ r) :
    ∃ a ∈ l, f a = .ok b := by
  induction l generalizing r with
  | nil =>
    obtain rfl := pure_eq_ok.1 h
    contradiction
  | cons first rest ih =>
    simp only [List.mapM_cons, bind_eq_ok, pure_eq_ok] at h
    obtain ⟨value, hfirst, values, hrest, rfl⟩ := h
    rcases List.mem_cons.1 hmem with rfl | hmem
    · exact ⟨first, List.mem_cons_self, hfirst⟩
    · obtain ⟨a, ha, hb⟩ := ih hrest hmem
      exact ⟨a, List.mem_cons_of_mem _ ha, hb⟩

/-- Each element of a list gives a value. -/
lemma exists_mem_of_mapM {f : α → Except ε β} {l : List α} {r : List β} (h : l.mapM f = .ok r)
    {a : α} (hmem : a ∈ l) :
    ∃ b ∈ r, f a = .ok b := by
  induction l generalizing r with
  | nil => contradiction
  | cons first rest ih =>
    simp only [List.mapM_cons, bind_eq_ok, pure_eq_ok] at h
    obtain ⟨value, hfirst, values, hrest, rfl⟩ := h
    rcases List.mem_cons.1 hmem with rfl | hmem
    · exact ⟨value, List.mem_cons_self, hfirst⟩
    · obtain ⟨b, hb, ha⟩ := ih hrest hmem
      exact ⟨b, List.mem_cons_of_mem _ hb, ha⟩

/-! ## Folds -/

variable {f : β → α → Except ε β} {b b' : β} {first : α} {rest : List α} {e : ε}

lemma foldlM_cons_of_ok (h : f b first = .ok b') :
    (first :: rest).foldlM f b = rest.foldlM f b' := by
  simp [List.foldlM_cons, h, bind, Except.bind]

lemma foldlM_cons_of_error (h : f b first = .error e) : (first :: rest).foldlM f b = .error e := by
  simp [List.foldlM_cons, h, bind, Except.bind]

lemma foldlM_append_of_ok {l : List α} (h : l.foldlM f b = .ok b') :
    (l ++ rest).foldlM f b = rest.foldlM f b' := by
  simp [List.foldlM_append, h, bind, Except.bind]

/-- A fold fails at one element, after it went well for those before. -/
lemma exists_of_foldlM_eq_error {l : List α} (h : l.foldlM f b = .error e) :
    ∃ before a after c, l = before ++ a :: after ∧ before.foldlM f b = .ok c ∧
      f c a = .error e := by
  induction l generalizing b with
  | nil => simp [pure, Except.pure] at h
  | cons first rest ih =>
    cases hfirst : f b first with
    | error fault =>
      rw [foldlM_cons_of_error hfirst] at h
      exact ⟨[], first, rest, b, rfl, rfl, hfirst.trans h⟩
    | ok b' =>
      rw [foldlM_cons_of_ok hfirst] at h
      obtain ⟨before, a, after, c, rfl, hbefore, ha⟩ := ih h
      exact ⟨first :: before, a, after, c, rfl, (foldlM_cons_of_ok hfirst).trans hbefore, ha⟩

/-- What holds after a fold held before it, or an element brought it. -/
lemma exists_mem_of_foldlM {P : β → Prop} {Q : α → Prop} {l : List α} {r : β}
    (hstep : ∀ a ∈ l, ∀ b b', f b a = .ok b' → P b' → P b ∨ Q a) (h : l.foldlM f b = .ok r)
    (hP : P r) :
    P b ∨ ∃ a ∈ l, Q a := by
  induction l generalizing b with
  | nil => exact .inl (pure_eq_ok.1 h ▸ hP)
  | cons first rest ih =>
    rw [List.foldlM_cons] at h
    obtain ⟨b', hfirst, hrest⟩ := bind_eq_ok.1 h
    rcases ih (fun a hmem => hstep a (List.mem_cons_of_mem _ hmem)) hrest with hold | ⟨a, hmem, ha⟩
    · exact (hstep first List.mem_cons_self b b' hfirst hold).imp id fun hQ =>
        ⟨first, List.mem_cons_self, hQ⟩
    · exact .inr ⟨a, List.mem_cons_of_mem _ hmem, ha⟩

/-! ## Why a computation fails -/

/-- The computation fails exactly if there is a reason, and then for one of the reasons. -/
structure FailsFor (x : Except ε α) (reason : ε → Prop) : Prop where
  of_eq_error : ∀ e, x = .error e → reason e
  ne_ok : ∀ e, reason e → ∀ a, x ≠ .ok a

namespace FailsFor

variable {x : Except ε α} {P Q : ε → Prop}

lemma exists_ok_iff (h : FailsFor x P) : (∃ a, x = .ok a) ↔ ¬∃ e, P e := by
  constructor
  · rintro ⟨a, ha⟩ ⟨e, he⟩
    exact h.ne_ok e he a ha
  · intro hnone
    cases hx : x with
    | ok a => exact ⟨a, rfl⟩
    | error e => exact absurd ⟨e, h.of_eq_error e hx⟩ hnone

lemma congr (h : FailsFor x P) (hiff : ∀ e, P e ↔ Q e) : FailsFor x Q :=
  ⟨fun e he => (hiff e).1 (h.of_eq_error e he), fun e he => h.ne_ok e ((hiff e).2 he)⟩

/-- What gives a value does not fail. -/
lemma of_ok {a : α} (h : x = .ok a) : FailsFor x fun _ => False :=
  ⟨fun e he => by rw [h] at he; contradiction, fun _ => False.elim⟩

/-- What fails does so for one reason. -/
lemma of_error {e : ε} (h : x = .error e) : FailsFor x (· = e) :=
  ⟨fun e' he => Except.error.inj (he.symm.trans h), fun _ _ a ha => by rw [h] at ha; contradiction⟩

/-- Two steps fail for the reasons of the first one and of the second one, which do not depend on
the first one's value. -/
lemma bind {f : α → Except ε β} (hx : FailsFor x P) (hf : ∀ a, x = .ok a → FailsFor (f a) Q) :
    FailsFor (x >>= f) fun e => P e ∨ Q e := by
  cases hcase : x with
  | error e =>
    refine ⟨fun e' he => ?_, fun _ _ b hb => ?_⟩
    · rw [← Except.error.inj he]
      exact .inl (hx.of_eq_error e hcase)
    · contradiction
  | ok a =>
    refine ⟨fun e he => .inr ((hf a hcase).of_eq_error e he), fun e he => ?_⟩
    rcases he with he | he
    · exact absurd hcase (hx.ne_ok e he a)
    · exact (hf a hcase).ne_ok e he

/-- A first step that gives a value adds no reason. -/
lemma bind_of_ok {f : α → Except ε β} {a : α} (hx : x = .ok a) (hf : FailsFor (f a) P) :
    FailsFor (x >>= f) P := by
  rw [hx]
  exact hf

/-- A last step that only makes use of the value adds no reason. -/
lemma map (hx : FailsFor x P) (f : α → β) : FailsFor (x >>= fun a => pure (f a)) P :=
  (hx.bind fun _ _ => of_ok rfl).congr fun _ => or_iff_left id

/-- A step for every element of a list fails for the reasons of all elements. -/
lemma mapM {f : α → Except ε β} {l : List α} {P : α → ε → Prop}
    (h : ∀ a ∈ l, FailsFor (f a) (P a)) :
    FailsFor (l.mapM f) fun e => ∃ a ∈ l, P a e := by
  induction l with
  | nil => exact (of_ok rfl).congr (by simp)
  | cons first rest ih =>
    rw [List.mapM_cons]
    have hrest := ih fun a hmem => h a (List.mem_cons_of_mem _ hmem)
    exact ((h first List.mem_cons_self).bind fun _ _ => hrest.map _).congr (by simp)

end FailsFor

end SdkForge.Outcome
