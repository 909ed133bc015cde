import Mathlib.Data.String.Basic
import SdkForge.Proofs.ShapeId.Grammar

/-!
# The order of ids and of their texts

Ids are ordered part by part, texts byte by byte. For ids that can be read the two orders are one,
since the characters that stand between the parts are smaller than all that stand in them.

* `append_lt_append_iff` says when a text with such an end is less than another.
* `compare_eq_lt_iff` says that the order of ids is that of their texts, and `bytes_lt_bytes_iff`
  that the texts have the order of their bytes.
-/

namespace SdkForge.ShapeId

/-! ## Texts with ends -/

section Append

variable {α : Type} [LinearOrder α]

/-- Where what begins the ends is less than all before it, texts are compared before their ends
are. -/
lemma append_lt_append_iff {s t u v : List α} (hs : ∀ a ∈ s, ∀ b ∈ v.head?, b < a)
    (ht : ∀ b ∈ t, ∀ a ∈ u.head?, a < b) :
    s ++ u < t ++ v ↔ s < t ∨ s = t ∧ u < v := by
  induction s generalizing t with
  | nil =>
    cases t with
    | nil => simp
    | cons b t =>
      have hless : u < b :: t ++ v := by
        cases u with
        | nil => exact List.nil_lt_cons _ _
        | cons a u => exact List.cons_lt_cons_iff.2 (.inl (ht b List.mem_cons_self a rfl))
      exact iff_of_true hless (.inl (List.nil_lt_cons _ _))
  | cons a s ih =>
    cases t with
    | nil =>
      have hnot : ¬a :: s ++ u < v := by
        cases v with
        | nil => exact List.not_lt_nil _
        | cons b v =>
          have hless : b < a := hs a List.mem_cons_self b rfl
          rw [List.cons_append, List.cons_lt_cons_iff]
          rintro (h | ⟨rfl, -⟩)
          · exact lt_asymm h hless
          · exact lt_irrefl _ hless
      refine iff_of_false hnot ?_
      rintro (h | ⟨h, -⟩)
      · exact List.not_lt_nil _ h
      · exact List.cons_ne_nil _ _ h
    | cons b t =>
      have hrest :=
        ih (fun a ha => hs a (List.mem_cons_of_mem _ ha)) fun b hb =>
          ht b (List.mem_cons_of_mem _ hb)
      rw [List.cons_append, List.cons_append, List.cons_lt_cons_iff, List.cons_lt_cons_iff, hrest,
        List.cons.injEq]
      tauto

end Append

/-! ## Characters of ids -/

lemma lt_of_inIdentifier {c : Char} (h : inIdentifier c = true) : '.' < c ∧ c.val.toNat < 128 := by
  rw [inIdentifier_iff, startsIdentifier_iff] at h
  rcases h with (h | h | rfl) | h
  case inl.inr.inr => decide
  all_goals
    simp only [Char.le_def, Char.lt_def, UInt32.le_iff_toNat_le, UInt32.lt_iff_toNat_lt,
      Char.reduceVal, UInt32.reduceToNat] at h ⊢
    omega

/-! ## The order of texts -/

lemma compare_string_eq_lt_iff {s t : String} : compare s t = .lt ↔ s.toList < t.toList :=
  compareOfLessAndEq_eq_lt.trans String.lt_iff_toList_lt

/-- A shape stands before its members, and members stand by their names, as what is written of them
does. -/
lemma compare_member_eq_lt_iff {s t : Option String} :
    compare s t = .lt ↔ memberText s < memberText t := by
  cases s with
  | none =>
    cases t with
    | none => exact iff_of_false (by decide) (List.not_lt_nil _)
    | some t => exact iff_of_true rfl (List.nil_lt_cons _ _)
  | some s =>
    cases t with
    | none => exact iff_of_false (by rintro ⟨⟩) (List.not_lt_nil _)
    | some t =>
      have hcons : memberText (some s) < memberText (some t) ↔ s.toList < t.toList := by
        simp [memberText]
      exact compare_string_eq_lt_iff.trans hcons.symm

variable {a b : ShapeId}

lemma compare_parts_eq_lt_iff : compare a b = .lt ↔ a.ns.toList < b.ns.toList ∨ a.ns = b.ns ∧
    (a.name.toList < b.name.toList ∨ a.name = b.name ∧
      memberText a.member < memberText b.member) := by
  show order a b = .lt ↔ _
  simp only [order, compareLex, compareOn, Ordering.then_eq_lt, compare_string_eq_lt_iff,
    compare_member_eq_lt_iff, Std.LawfulEqCmp.compare_eq_iff_eq]

/-- Ids made of identifiers stand in the order of their texts. -/
theorem compare_eq_lt_iff (ha : a.WellFormed) (hb : b.WellFormed) :
    compare a b = .lt ↔ toString a < toString b := by
  have hns : ∀ {id : ShapeId} {rest : List Char}, id.WellFormed → ∀ c ∈ id.ns.toList,
      ∀ d ∈ ('#' :: rest).head?, d < c := by
    intro id rest h c hc d hd
    rw [← Option.some.inj hd]
    rcases h.ns.of_mem hc with rfl | hin
    · decide
    · exact lt_trans (by decide) (lt_of_inIdentifier hin).1
  have hname : ∀ {id : ShapeId} {member : Option String}, id.WellFormed →
      ∀ c ∈ id.name.toList, ∀ d ∈ (memberText member).head?, d < c := by
    intro id member h c hc d hd
    cases member with
    | none => contradiction
    | some member =>
      rw [← Option.some.inj hd]
      exact lt_trans (by decide) (lt_of_inIdentifier (inIdentifier_of_mem h.name hc)).1
  rw [compare_parts_eq_lt_iff, String.lt_iff_toList_lt, toList_toString, toList_toString,
    append_lt_append_iff (hns ha) (hns hb), List.cons_lt_cons_iff,
    append_lt_append_iff (hname ha) (hname hb)]
  simp only [lt_self_iff_false, false_or, true_and, String.toList_inj]

/-! ## The order of bytes -/

/-- The bytes of a text in UTF-8. -/
def bytes (text : String) : List UInt8 := text.toUTF8.data.toList

/-- The bytes of a text in ASCII are its characters. -/
lemma bytes_of_ascii {text : String} (h : ∀ c ∈ text.toList, c.val.toNat < 128) :
    bytes text = text.toList.map (·.val.toUInt8) := by
  have hchars : text.toList.flatMap String.utf8EncodeChar = text.toList.map (·.val.toUInt8) := by
    rw [List.map_eq_flatMap]
    refine List.flatMap_congr fun c hc =>
      String.utf8EncodeChar_eq_singleton (Char.utf8Size_eq_one_iff.2 ?_)
    rw [UInt32.le_iff_toNat_le]
    exact Nat.le_of_lt_succ (h c hc)
  rw [bytes, String.toUTF8, ← String.utf8Encode_toList, List.utf8Encode, hchars,
    List.data_toByteArray]

lemma map_lt_map_iff {α β : Type} [LT α] [LT β] {f : α → β} {s t : List α}
    (h : ∀ a ∈ s, ∀ b ∈ t, (f a < f b ↔ a < b) ∧ (f a = f b ↔ a = b)) :
    s.map f < t.map f ↔ s < t := by
  induction s generalizing t with
  | nil => cases t <;> simp
  | cons a s ih =>
    cases t with
    | nil => simp
    | cons b t =>
      obtain ⟨hlt, heq⟩ := h a List.mem_cons_self b List.mem_cons_self
      have hrest :=
        ih fun a ha b hb => h a (List.mem_cons_of_mem _ ha) b (List.mem_cons_of_mem _ hb)
      rw [List.map_cons, List.map_cons, List.cons_lt_cons_iff, List.cons_lt_cons_iff,
        hlt, heq, hrest]

/-- Texts in ASCII stand in the order of their bytes. -/
theorem bytes_lt_bytes_iff {s t : String} (hs : ∀ c ∈ s.toList, c.val.toNat < 128)
    (ht : ∀ c ∈ t.toList, c.val.toNat < 128) :
    bytes s < bytes t ↔ s < t := by
  rw [bytes_of_ascii hs, bytes_of_ascii ht, String.lt_iff_toList_lt]
  refine map_lt_map_iff fun c hc d hd => ?_
  have hbyte : ∀ {c : Char}, c.val.toNat < 128 → c.val.toUInt8.toNat = c.val.toNat := by
    intro c hc
    rw [UInt32.toNat_toUInt8]
    exact Nat.mod_eq_of_lt (lt_trans hc (by decide))
  constructor
  · rw [UInt8.lt_iff_toNat_lt, hbyte (hs c hc), hbyte (ht d hd), Char.lt_def,
      UInt32.lt_iff_toNat_lt]
  · rw [← UInt8.toNat_inj, hbyte (hs c hc), hbyte (ht d hd), Char.ext_iff, UInt32.toNat_inj]

/-- The text of an id made of identifiers is in ASCII. -/
lemma WellFormed.ascii (h : a.WellFormed) : ∀ c ∈ (toString a).toList, c.val.toNat < 128 := by
  have hidentifier : ∀ {word : List Char}, isIdentifier word = true →
      ∀ c ∈ word, c.val.toNat < 128 :=
    fun h c hc => (lt_of_inIdentifier (inIdentifier_of_mem h hc)).2
  intro c hc
  rw [toList_toString, List.mem_append, List.mem_cons, List.mem_append] at hc
  rcases hc with hc | rfl | hc | hc
  · rcases h.ns.of_mem hc with rfl | hin
    · decide
    · exact (lt_of_inIdentifier hin).2
  · decide
  · exact hidentifier h.name c hc
  · cases hm : a.member with
    | none => simp [memberText, hm] at hc
    | some member =>
      rw [hm, memberText, Option.elim_some, List.mem_cons] at hc
      rcases hc with rfl | hc
      · decide
      · exact hidentifier (h.member member hm) c hc

/-- Ids made of identifiers stand in the order of the bytes of their texts. -/
theorem compare_eq_lt_iff_bytes (ha : a.WellFormed) (hb : b.WellFormed) :
    compare a b = .lt ↔ bytes (toString a) < bytes (toString b) :=
  (compare_eq_lt_iff ha hb).trans (bytes_lt_bytes_iff ha.ascii hb.ascii).symm

end SdkForge.ShapeId
