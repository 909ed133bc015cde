import Mathlib.Data.List.Basic
import SdkForge.Proofs.Text.Quoted
import SdkForge.Server.RequestSpec

/-!
# Specs in generated code

Generated code makes a spec by calls of constructors. A binding writes the calls that make its own
spec, and no other spec is made by them.

* `fragment_eq_expression` says that a binding writes what makes its spec.
* `expression_injective` says that the calls tell specs apart.
-/

namespace SdkForge.Server

open Binding (routing vector itemText methodText standardMethods)

/-! ## The calls -/

/-- The expression that makes a segment. -/
def Segment.expression (crate : String) : Segment → String
  | .literal text => s!"{routing crate}::PathSegment::literal({Text.quote text}),"
  | .label => s!"{routing crate}::PathSegment::Label,"
  | .greedy => s!"{routing crate}::PathSegment::Greedy,"

/-- The expression that makes a spec. With a method that no request can have it fails when it
runs. -/
def RequestSpec.expression (crate : String) : RequestSpec → Fragment
  | .rpc target => .line s!"{routing crate}::RequestSpec::rpc({Text.quote target})"
  | .rest method path query => .block s!"{routing crate}::RequestSpec::rest("
    [.line s!"{methodText crate method},", vector (path.map (Segment.expression crate)),
      vector (query.map (itemText crate))]
    (some ")")

/-- A binding writes what makes its spec. -/
theorem fragment_eq_expression (crate : String) (binding : Binding) :
    binding.fragment crate = (RequestSpec.ofBinding binding).expression crate := by
  cases binding with
  | call target => rfl
  | http method path query =>
    simp only [Binding.fragment, RequestSpec.ofBinding, RequestSpec.expression, List.map_map]
    congr
    funext part
    cases part <;> rfl

/-! ## What the calls tell -/

lemma segment_expression_injective (crate : String) :
    Function.Injective (Segment.expression crate) := by
  intro a b h
  cases a <;> cases b <;> simp only [Segment.expression, toString, String.append_assoc,
    String.append_right_inj] at h
  case literal.literal => rw [(Text.quote_append_inj.1 h).1]
  case label.label => rfl
  case greedy.greedy => rfl
  -- the names of the constructors differ
  all_goals simpa using congrArg String.toList h

lemma itemText_injective (crate : String) : Function.Injective (itemText crate) := by
  intro a b h
  cases a <;> cases b <;> simp only [itemText, toString, String.append_assoc,
    String.append_right_inj] at h
  case key.key => rw [(Text.quote_append_inj.1 h).1]
  case keyValue.keyValue =>
    obtain ⟨rfl, hvalue⟩ := Text.quote_append_inj.1 h
    rw [String.append_right_inj] at hvalue
    rw [(Text.quote_append_inj.1 hvalue).1]
  all_goals simpa using congrArg String.toList h

/-- No constant starts like the function that makes other methods. -/
lemma head?_ne_of_mem_standardMethods :
    ∀ method ∈ standardMethods, method.toList.head? ≠ some 'f' := by decide

lemma methodText_injective (crate : String) : Function.Injective (methodText crate) := by
  have hcall : ∀ {method text : String}, standardMethods.contains method = true →
      "::http::Method::" ++ method ≠ "::http::Method::from_bytes(b" ++ text := by
    intro method text hstandard heq
    have hchars : method.toList = "from_bytes(b".toList ++ text.toList := by
      simpa using congrArg String.toList heq
    have hhead := head?_ne_of_mem_standardMethods method (by simpa using hstandard)
    simp [hchars] at hhead
  intro a b h
  unfold methodText at h
  split at h <;> split at h <;>
    simp only [toString, String.append_assoc, String.append_right_inj] at h
  · exact h
  · exact absurd h (hcall ‹_›)
  · exact absurd h.symm (hcall ‹_›)
  · exact (Text.quote_append_inj.1 h).1

lemma vector_injective : Function.Injective vector := by
  have hlines : Function.Injective Fragment.lines :=
    List.map_injective_iff.2 fun a b h => Fragment.line.inj h
  intro as bs h
  unfold vector at h
  split at h <;> split at h
  · simp_all
  · contradiction
  · contradiction
  · exact hlines (Fragment.block.inj h).2.1

/-- Specs that the same calls make are equal. -/
theorem expression_injective (crate : String) :
    Function.Injective (RequestSpec.expression crate) := by
  intro a b h
  cases a with
  | rpc target =>
    cases b with
    | rest method path query => contradiction
    | rpc target' =>
      simp only [RequestSpec.expression, toString, Fragment.line.injEq, String.append_assoc,
        String.append_right_inj] at h
      rw [(Text.quote_append_inj.1 h).1]
  | rest method path query =>
    cases b with
    | rpc target => contradiction
    | rest method' path' query' =>
      simp only [RequestSpec.expression, toString, Fragment.block.injEq, List.cons.injEq,
        Fragment.line.injEq, String.append_left_inj, true_and, and_true] at h
      obtain ⟨hmethod, hpath, hquery⟩ := h
      rw [methodText_injective crate hmethod,
        List.map_injective_iff.2 (segment_expression_injective crate) (vector_injective hpath),
        List.map_injective_iff.2 (itemText_injective crate) (vector_injective hquery)]

end SdkForge.Server
