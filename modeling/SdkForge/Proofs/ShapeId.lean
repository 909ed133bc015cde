import Mathlib.Tactic.Common
import SdkForge.ShapeId

/-!
# Ids that can be read

What is read as an id has identifiers for its parts. `IsParsed` says that an id can be read, and
`dot_notMem_name` that its name holds none of the points that cut a namespace. `toString_of_parse`
says that an id is written as it was read, so that no two texts are read as one id.
-/

namespace SdkForge.ShapeId

/-- Some text is read as the id. -/
def IsParsed (id : ShapeId) : Prop := ∃ text, parse text = .ok id

/-! ## Identifiers -/

lemma inIdentifier_of_startsIdentifier {c : Char} (h : startsIdentifier c = true) :
    inIdentifier c = true := by
  simp only [startsIdentifier, Bool.or_eq_true] at h
  rcases h with h | h <;> simp [inIdentifier, Char.isAlphanum, h]

lemma inIdentifier_of_mem {text : List Char} (h : isIdentifier text = true) {c : Char}
    (hmem : c ∈ text) :
    inIdentifier c = true := by
  cases text with
  | nil => contradiction
  | cons first rest =>
    simp only [isIdentifier, Bool.and_eq_true, List.all_eq_true] at h
    rcases List.mem_cons.1 hmem with rfl | hmem
    · exact inIdentifier_of_startsIdentifier h.1
    · exact h.2 c hmem

/-! ## Parts of an id that can be read -/

/-- The name of an id that can be read is an identifier, and so is that of the member. -/
lemma IsParsed.isIdentifier_parts {id : ShapeId} (h : id.IsParsed) :
    isIdentifier id.name.toList = true ∧ ∀ member, id.member = some member →
      isIdentifier member.toList = true := by
  obtain ⟨text, h⟩ := h
  unfold parse at h
  split at h
  · contradiction
  · dsimp only at h
    split_ifs at h with _ hname hmember
    rw [← Except.ok.inj h]
    refine ⟨by simpa using hname, fun member hsome => ?_⟩
    obtain ⟨chars, hchars, rfl⟩ := Option.map_eq_some_iff.1 hsome
    rw [hchars] at hmember
    simpa using hmember

/-- The name of an id that can be read is an identifier. -/
theorem IsParsed.isIdentifier_name {id : ShapeId} (h : id.IsParsed) :
    isIdentifier id.name.toList = true :=
  h.isIdentifier_parts.1

lemma IsParsed.dot_notMem_name {id : ShapeId} (h : id.IsParsed) : '.' ∉ id.name.toList := by
  intro hmem
  have hin : inIdentifier '.' = true := inIdentifier_of_mem h.isIdentifier_name hmem
  contradiction

/-! ## Writing what was read -/

/-- A name and a member's name are written as they were cut apart. -/
lemma splitMember_append (text : List Char) :
    (splitMember text).1 ++ ((splitMember text).2.elim [] ('$' :: ·)) = text := by
  unfold splitMember
  cases hsplit : Text.splitFirst '$' text with
  | none => exact List.append_nil text
  | some parts => exact (Text.eq_of_splitFirst hsplit).1.symm

/-- An id is written as it was read. -/
theorem toString_of_parse {text : String} {id : ShapeId} (h : parse text = .ok id) :
    toString id = text := by
  unfold parse at h
  split at h
  · contradiction
  · next ns rest hsplit =>
    have hrest := splitMember_append rest
    dsimp only at h
    generalize splitMember rest = parts at h hrest
    obtain ⟨name, member⟩ := parts
    split_ifs at h
    obtain rfl := Except.ok.inj h
    apply String.toList_injective
    rw [(Text.eq_of_splitFirst hsplit).1, ← hrest]
    show (ShapeId.toString _).toList = _
    cases member <;> simp [ShapeId.toString]

/-- No two texts are read as one id. -/
lemma parse_injective {text other : String} {id : ShapeId} (h : parse text = .ok id)
    (hother : parse other = .ok id) :
    text = other :=
  (toString_of_parse h).symm.trans (toString_of_parse hother)

end SdkForge.ShapeId
