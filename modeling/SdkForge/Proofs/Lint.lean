import SdkForge.Proofs.Crate.Slots
import SdkForge.Proofs.Pipeline

/-!
# What the lints let pass

A finished run has a service that declares one protocol, and whose operations have fields of their
own: `Resolved.accepted`. Its streaming members hold blobs: `exists_blob_of_isStreaming`.
-/

namespace SdkForge

open Outcome

namespace Lint

variable {p : Project} {service : Shape}

lemma isError_report (message : String) (shape : ShapeId) :
    (report .error message shape).isError = true := rfl

/-- A service about whose protocols nothing is told declares one. -/
lemma exists_protocol (h : checkProtocols service = []) :
    ∃ id, service.traits.protocols = [id] := by
  unfold checkProtocols at h
  split at h
  · next id hid => exact ⟨id, hid⟩
  · contradiction
  · contradiction

/-- The lint for protocols tells nothing but errors. -/
lemma checkProtocols_eq_nil (hservice : p.serviceShape = .ok service)
    (h : ∀ found ∈ protocol.check p, found.isError = false) : checkProtocols service = [] := by
  simp only [protocol, hservice] at h
  unfold checkProtocols at h ⊢
  split at h <;> simp_all [isError_report]

/-- A member about whose target no error is told holds a blob. -/
lemma exists_blob {model : Model} {member : Shape}
    (h : ∀ found ∈ checkStream model member, found.isError = false) :
    ∃ target, model.memberTarget member = .ok target ∧ target.isBlob = true := by
  unfold checkStream at h
  cases htarget : model.memberTarget member with
  | error e =>
    simp [htarget, unusable, isError_report] at h
  | ok target =>
    refine ⟨target, rfl, ?_⟩
    by_contra hblob
    simp [htarget, hblob, isError_report] at h

/-- So does the lint for names, which needs the operations. -/
lemma operationNaming_eq_nil (h : ∀ found ∈ operationNaming.check p, found.isError = false) :
    (∃ operations, p.operations = .ok operations) ∧ operationNaming.check p = [] := by
  cases hoperations : p.operations with
  | error e =>
    simp only [operationNaming, hoperations] at h
    have herror := h _ List.mem_cons_self
    rw [isError_report] at herror
    contradiction
  | ok operations =>
    refine ⟨⟨operations, rfl⟩, List.eq_nil_iff_forall_not_mem.2 fun found hmem => ?_⟩
    have hnot := h found hmem
    simp only [operationNaming, hoperations] at hmem
    obtain ⟨_, _, rfl⟩ := List.mem_map.1 hmem
    rw [isError_report] at hnot
    contradiction

end Lint

/-- The streaming members of a finished run hold blobs. -/
lemma Resolved.exists_blob_of_isStreaming {i : Command.Input} {denyWarnings : Bool}
    {d : DecoratorSet} {c : Compilation} {t : SymbolTable} (hresolved : Resolved c t)
    (h : i.compile denyWarnings = .ok (d, c)) {id : ShapeId} {shape : Shape}
    (hget : c.project.model.get? id = some shape) (hmember : shape.isMember = true)
    (hstreaming : c.project.model.isStreaming shape = true) :
    ∃ target, c.project.model.memberTarget shape = .ok target ∧ target.isBlob = true := by
  refine Lint.exists_blob fun found hfound => ?_
  refine lints_of_compile h Lint.streamingTarget (by simp [Lint.all]) found
    (List.mem_flatMap.2 ⟨shape, ?_, hfound⟩)
  have hmem : shape ∈ c.project.model.toList :=
    (Model.mem_toList_iff hresolved.model).2 (hresolved.model.get?_id hget)
  exact List.mem_filter.2 ⟨hmem, by simp [hmember, hstreaming]⟩

/-- The service of a project declares one protocol, and its operations have fields of their own. -/
structure Project.Accepted (p : Project) (service : Shape) (protocol : WireProtocol)
    (operations : List Shape) : Prop where
  service_eq : p.serviceShape = .ok service
  protocols_eq : service.traits.protocols = [protocol]
  operations_eq : p.operations = .ok operations
  nodup : (operations.map fun operation => Project.operationField operation.id).Nodup

/-- A finished run has such a service. -/
theorem Resolved.accepted {i : Command.Input} {denyWarnings : Bool} {d : DecoratorSet}
    {c : Compilation} {t : SymbolTable} (hresolved : Resolved c t)
    (h : i.compile denyWarnings = .ok (d, c)) :
    ∃ service protocol operations, c.project.Accepted service protocol operations := by
  have hlints := lints_of_compile h
  obtain ⟨service, hservice⟩ : ∃ service, c.project.serviceShape = .ok service := by
    have htable := hresolved.table
    simp only [SymbolTable.resolve, bind_eq_ok, Fault.ofModel_eq_ok] at htable
    obtain ⟨service, hservice, _⟩ := htable
    exact ⟨service, hservice⟩
  have hprotocols := Lint.checkProtocols_eq_nil hservice (hlints Lint.protocol (by simp [Lint.all]))
  obtain ⟨⟨operations, hoperations⟩, hnaming⟩ :=
    Lint.operationNaming_eq_nil (hlints Lint.operationNaming (by simp [Lint.all]))
  obtain ⟨protocol, hprotocol⟩ := Lint.exists_protocol hprotocols
  exact ⟨service, protocol, operations, hservice, hprotocol, hoperations,
    Lint.nodup_of_operationNaming hoperations hnaming⟩

end SdkForge
