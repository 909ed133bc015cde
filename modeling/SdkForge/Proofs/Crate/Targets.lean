import SdkForge.Proofs.Crate.Definitions
import SdkForge.Proofs.Crate.Slots
import SdkForge.Proofs.Model.Operations
import SdkForge.Proofs.Server.Expression
import SdkForge.Proofs.ShapeId
import SdkForge.Proofs.Text.Split

/-!
# The targets of JSON calls

A JSON call names its operation by a target. The target has the name of the first service that has
the operation, which may be another one than the service that code is generated for.

* `bindingFunction_of_ownsFirst` says what is written for an operation.
* `targets_of_first_owner` says so of all operations of a service, and that no two of them have one
  target if their ids can be read.
* `target_of_other_service` shows a target that does not name the service.
-/

namespace SdkForge

open Outcome
open Crate (Blueprint Slot)
open Server (RequestSpec)

/-! ## Targets -/

/-- The target of an operation of a service. -/
def Protocol.target (owner operation : ShapeId) : String := s!"{owner.name}.{operation.name}"

/-- Operations with one target have one name. -/
lemma name_eq_of_target_eq {owner owner' operation operation' : ShapeId}
    (hparsed : operation.IsParsed) (hparsed' : operation'.IsParsed)
    (h : Protocol.target owner operation = Protocol.target owner' operation') :
    operation.name = operation'.name := by
  have hchars : owner.name.toList ++ '.' :: operation.name.toList = owner'.name.toList ++ '.' ::
      operation'.name.toList := by
    simpa [Protocol.target, toString] using congrArg String.toList h
  exact String.toList_inj.1 (Text.eq_of_append_cons_eq hparsed.dot_notMem_name
    hparsed'.dot_notMem_name hchars)

/-! ## What is written for an operation -/

/-- The function that gives the spec for a target. -/
def Crate.ServerFile.targetFunction (b : Blueprint) (s : Slot) (target : String) :
    Code.Function where
  name := s.field
  visibility := .crate
  returns := some b.bindingType
  body := [(RequestSpec.rpc target).expression b.server]

/-- An operation is bound by the target that its first service gives it. -/
lemma Protocol.targetBinding_eq_ok {model : Model} (hmodel : model.WellFormed)
    {owner operation : Shape} (h : model.OwnsFirst owner operation.id) :
    Protocol.targetBinding model operation =
      .ok (.call (Protocol.target owner.id operation.id)) := by
  obtain ⟨found, hfound, hfind⟩ := Model.exists_ownsFirst hmodel h.toOwns
  obtain rfl := hfound.unique h
  rw [Protocol.targetBinding, hfind]
  rfl

section Blueprint

variable {d : DecoratorSet} {enabled : Option (List String)} {c : Compilation} {b : Blueprint}
  {service : Shape}

/-- The code for a service binds operations in the way of the one protocol that the service
declares. -/
lemma Crate.Blueprint.binding_of_ofCompilation (hselect : DecoratorSet.select enabled = .ok d)
    (hb : ofCompilation d c = .ok b) (hservice : c.project.serviceShape = .ok service)
    {id : WireProtocol} (hid : service.traits.protocols = [id]) :
    b.protocol.binding = id.binding := by
  simp only [ofCompilation, bind_eq_ok, pure_eq_ok, Fault.ofModel_eq_ok] at hb
  obtain ⟨found, hfound, protocol, hprotocol, _, _, _, _, rfl⟩ := hb
  obtain rfl := Except.ok.inj (hfound.symm.trans hservice)
  obtain ⟨known, hknown, hbinding⟩ :=
    DecoratorSet.binds_protocols_of_select hselect c.project.service Protocol.binds_standardMap id
  simp only [Protocol.resolve, hid, elim_eq_ok] at hprotocol
  rw [← hbinding, Option.some.inj (hprotocol.symm.trans hknown)]

/-- The code for a service that declares one version of the protocol for JSON calls binds operations
by targets. -/
lemma Crate.Blueprint.binding_of_calls (hselect : DecoratorSet.select enabled = .ok d)
    (hb : ofCompilation d c = .ok b) (hservice : c.project.serviceShape = .ok service)
    (hcalls : service.traits.protocols = [.awsJson1_0] ∨ service.traits.protocols = [.awsJson1_1]) :
    b.protocol.binding = Protocol.targetBinding := by
  rcases hcalls with hcalls | hcalls
  all_goals
    rw [binding_of_ofCompilation hselect hb hservice hcalls]
    rfl

/-- The function for an operation of such a service gives the spec for the target that the first
service gives. -/
theorem Crate.ServerFile.bindingFunction_of_ownsFirst (hmodel : b.project.model.WellFormed)
    (hcalls : b.protocol.binding = Protocol.targetBinding) {s : Slot} {owner : Shape}
    (howner : b.project.model.OwnsFirst owner s.operation.id) :
    bindingFunction b s = .ok (targetFunction b s (Protocol.target owner.id s.operation.id)) := by
  rw [bindingFunction, hcalls, Protocol.targetBinding_eq_ok hmodel howner]
  rfl

/-- Code for a service that declares one version of the protocol for JSON calls names every
operation of it by the target that the first service gives, which is the service itself exactly if
none with a smaller id has the operation. Operations that passed the lint for their names have
different targets if their ids can be read: a name that was not read may hold the point that a
target has between its two names. -/
theorem targets_of_first_owner (hselect : DecoratorSet.select enabled = .ok d)
    (hmodel : c.project.model.WellFormed) (hb : Blueprint.ofCompilation d c = .ok b)
    (hservice : c.project.serviceShape = .ok service)
    (hcalls : service.traits.protocols = [.awsJson1_0] ∨ service.traits.protocols = [.awsJson1_1]) :
    ∃ owner : ShapeId → Shape,
      (∀ operation ∈ service.references, c.project.model.OwnsFirst (owner operation) operation ∧
        (owner operation = service ↔
          ∀ other, c.project.model.Owns other operation → compare other.id service.id ≠ .lt)) ∧
      ∀ slots, b.slots = .ok slots →
        (∀ operation, operation ∈ service.references ↔ ∃ s ∈ slots, s.operation.id = operation) ∧
        Crate.ServerFile.bindingModule b slots =
          .ok (.braced "mod request_specs \x7b" ((slots.map fun s =>
            (Crate.ServerFile.targetFunction b s
              (Protocol.target (owner s.operation.id).id s.operation.id)).fragment).intersperse
            .blank)) ∧
        (Lint.operationNaming.check c.project = [] →
          (∀ operation ∈ service.references, operation.IsParsed) →
          (slots.map fun s => Protocol.target (owner s.operation.id).id s.operation.id).Nodup) := by
  obtain ⟨hproject, _⟩ := Blueprint.of_ofCompilation hb
  have hbinding := Blueprint.binding_of_calls hselect hb hservice hcalls
  have howns : ∀ operation ∈ service.references, c.project.model.Owns service operation :=
    fun _ hmem => Model.owns_of_mem hmodel hservice hmem
  have hexists : ∀ operation ∈ service.references, ∃ owner,
      c.project.model.OwnsFirst owner operation := by
    intro operation hmem
    obtain ⟨owner, howner, _⟩ := Model.exists_ownsFirst hmodel (howns operation hmem)
    exact ⟨owner, howner⟩
  choose! owner howner using hexists
  refine ⟨owner, fun operation hmem => ⟨howner operation hmem, ?_⟩, fun slots hslots => ?_⟩
  · constructor
    · intro heq
      exact heq ▸ (howner operation hmem).least
    · intro hleast
      exact (howner operation hmem).unique ⟨howns operation hmem, hleast⟩
  · have hoperations : c.project.operations = .ok (slots.map (·.operation)) := by
      rw [← hproject]
      exact Blueprint.operations_of_slots hslots
    have hrefers : ∀ operation, operation ∈ service.references ↔
        ∃ s ∈ slots, s.operation.id = operation := by
      intro operation
      rw [← Model.mem_ids_of_operations hmodel hservice hoperations]
      simp
    have hmem : ∀ s ∈ slots, s.operation.id ∈ service.references :=
      fun s hs => (hrefers _).2 ⟨s, hs, rfl⟩
    refine ⟨hrefers, ?_, fun hlint hparsed => ?_⟩
    · have hfunctions : slots.mapM (Crate.ServerFile.bindingFunction b) = .ok (slots.map fun s =>
          Crate.ServerFile.targetFunction b s
            (Protocol.target (owner s.operation.id).id s.operation.id)) :=
        mapM_eq_ok_of_forall fun s hs =>
          Crate.ServerFile.bindingFunction_of_ownsFirst (hproject ▸ hmodel) hbinding
          (hproject ▸ howner s.operation.id (hmem s hs))
      rw [Crate.ServerFile.bindingModule, hfunctions]
      simp [bind, Except.bind, pure, Except.pure, Function.comp_def]
    · -- two operations of one target would have one name, and so one field
      have hfields := List.pairwise_map.1 (Lint.nodup_of_operationNaming hoperations hlint)
      rw [List.pairwise_map] at hfields
      refine List.pairwise_map.2 (hfields.imp_of_mem fun {s s'} hs hs' hne heq => hne ?_)
      have hname := name_eq_of_target_eq (hparsed _ (hmem s hs)) (hparsed _ (hmem s' hs')) heq
      exact congrArg Text.snakeCase hname

end Blueprint

/-! ## Two services with one operation -/

/-- Operations that one service has alone, and shares with a service of a smaller id. -/
def ownOperation : ShapeId := ⟨"ex", "Put", none⟩
def sharedOperation : ShapeId := ⟨"ex", "Get", none⟩

/-- The service that has both. -/
def sharingService : Shape where
  id := Command.Input.smallService
  traits := ({} : Traits).insert (.protocol .awsJson1_0)
  body := .service "1" [ownOperation, sharedOperation]

/-- That service, and the other one. -/
def sharing : List Shape := [
  { id := ⟨"ex", "All", none⟩, body := .service "1" [sharedOperation] }, sharingService,
  { id := ownOperation, body := .operation none none [] },
  { id := sharedOperation, body := .operation none none [] }]

/-- The targets for the service differ, and its own operation names it. -/
theorem targets_of_sharing :
    ∃ d c b slots, (Command.Input.small sharing).compile false = .ok (d, c) ∧
    Blueprint.ofCompilation d c = .ok b ∧ b.slots = .ok slots ∧
    slots.map (·.operation.id) = [sharedOperation, ownOperation] ∧
    ∃ owner : ShapeId → Shape, owner ownOperation = sharingService ∧
      (slots.map fun s => Protocol.target (owner s.operation.id).id s.operation.id).Nodup := by
  have hfacts : ((Command.Input.finished? sharing).any fun c =>
      ((Blueprint.ofCompilation ⟨Decorator.builtin⟩ c).toOption.any fun b =>
        b.slots.toOption.any fun slots => slots.map (·.operation.id) ==
          [sharedOperation, ownOperation]) &&
      c.project.serviceShape.toOption == some sharingService &&
        (Lint.operationNaming.check c.project).isEmpty &&
      c.project.model.toList.all fun other =>
        other.kind != .service || !other.references.contains ownOperation ||
          other == sharingService) = true := by
    decide +kernel
  obtain ⟨c, hc, hfacts⟩ := (Option.any_eq_true _ _).1 hfacts
  simp only [Bool.and_eq_true, beq_iff_eq] at hfacts
  obtain ⟨⟨⟨hslots, hservice⟩, hlint⟩, howners⟩ := hfacts
  obtain ⟨b, hb, hslots⟩ := (Option.any_eq_true _ _).1 hslots
  obtain ⟨slots, hslots, hids⟩ := (Option.any_eq_true _ _).1 hslots
  rw [toOption_eq_some] at hb hslots hservice
  obtain ⟨hmodel, hrun⟩ := Command.Input.of_finished? hc
  obtain ⟨_, _, t, h⟩ := resolved_of_compile hmodel hrun
  obtain ⟨owner, howner, hdistinct⟩ :=
    targets_of_first_owner DecoratorSet.select_none h.model hb hservice (.inl rfl)
  obtain ⟨_, _, hnodup⟩ := hdistinct slots hslots
  refine ⟨_, c, b, slots, hrun, hb, hslots, by
    simpa using hids, owner, ?_, hnodup (by simpa using hlint) ?_⟩
  · refine (howner ownOperation List.mem_cons_self).2.2 fun other hother => ?_
    have hother' :=
      List.all_eq_true.1 howners other ((Model.mem_toList_iff h.model).2 hother.get?_eq)
    simp only [hother.isService, List.contains_iff_mem.2 hother.mem, bne_self_eq_false,
      Bool.not_true, Bool.false_or, beq_iff_eq] at hother'
    rw [hother']
    decide
  · intro operation hmem
    obtain rfl | rfl : operation = ownOperation ∨ operation = sharedOperation := by
      simpa [sharingService, Shape.references] using hmem
    · exact ⟨"ex#Put", rfl⟩
    · exact ⟨"ex#Get", rfl⟩

/-- The shared operation is named by the other service. -/
theorem target_of_other_service : ∃ d c b slots s, (Command.Input.small sharing).model.IsBuilt ∧
    (Command.Input.small sharing).compile false = .ok (d, c) ∧ Blueprint.ofCompilation d c = .ok b ∧
    c.project.serviceShape = .ok sharingService ∧ sharingService.traits.protocols = [.awsJson1_0] ∧
    b.slots = .ok slots ∧ s ∈ slots ∧ s.operation.id ∈ sharingService.references ∧
    Crate.ServerFile.bindingFunction b s ≠
      .ok (Crate.ServerFile.targetFunction b s
        (Protocol.target sharingService.id s.operation.id)) := by
  have hfacts : ((Command.Input.finished? sharing).any fun c =>
      ((Blueprint.ofCompilation ⟨Decorator.builtin⟩ c).toOption.any fun b =>
        b.slots.toOption.any fun slots => slots.any fun s => s.operation.id == sharedOperation &&
          (b.protocol.binding b.project.model s.operation).toOption == some (.call "All.Get")) &&
      c.project.serviceShape.toOption == some sharingService) = true := by
    decide +kernel
  obtain ⟨c, hc, hfacts⟩ := (Option.any_eq_true _ _).1 hfacts
  simp only [Bool.and_eq_true, beq_iff_eq] at hfacts
  obtain ⟨hslots, hservice⟩ := hfacts
  obtain ⟨b, hb, hslots⟩ := (Option.any_eq_true _ _).1 hslots
  obtain ⟨slots, hslots, hs⟩ := (Option.any_eq_true _ _).1 hslots
  obtain ⟨s, hs, hfacts⟩ := List.any_eq_true.1 hs
  simp only [Bool.and_eq_true, beq_iff_eq] at hfacts
  obtain ⟨hid, hbinding⟩ := hfacts
  rw [toOption_eq_some] at hb hslots hservice hbinding
  obtain ⟨hmodel, hrun⟩ := Command.Input.of_finished? hc
  refine ⟨_, c, b, slots, s, hmodel, hrun, hb, hservice, rfl, hslots,
    hs, by rw [hid]; decide, fun heq => ?_⟩
  rw [Crate.ServerFile.bindingFunction, hbinding] at heq
  have hbody := congrArg Code.Function.body (Except.ok.inj heq)
  have hspec :
      RequestSpec.rpc "All.Get" = .rpc (Protocol.target sharingService.id s.operation.id) :=
    Server.expression_injective b.server (List.cons.inj hbody).1
  rw [hid] at hspec
  exact absurd (RequestSpec.rpc.inj hspec) (by decide)

end SdkForge
