import Mathlib.Data.List.Forall2
import Mathlib.Data.List.Nodup
import SdkForge.Proofs.Outcome
import SdkForge.Server.Builder

/-!
# What a builder has after calls

A builder is told one thing after the other: operations are declared, their handlers are set, and
plugins are put in force. What it has in the end is read here from the calls alone.

* `declarations`, `IsSet`, `pluginAfter` and `Answers` say what a history of calls declares, what it
  sets, which plugin is in force after it, and what answers for an operation.
* `Records` ties a builder to its history. `Records.apply` is the step, `Records.run` the whole run.
* `build_run` is the contract: when a service can be built, what is missing if not, and what the
  routers are.
-/

namespace SdkForge.Server

open Outcome

/-! ## Histories -/

/-- A call on a builder. -/
inductive BuilderCall where
  | declare (operation setter : String) (spec : RequestSpec)
  | set (operation : String) (handler : Service)
  | withPlugin (plugin : Plugin)

/-- What is declared of an operation. -/
structure Declaration where
  operation : String
  setter : String
  spec : RequestSpec

namespace BuilderCall

def declaration? : BuilderCall → Option Declaration
  | declare operation setter spec => some { operation, setter, spec }
  | _ => none

def plugin? : BuilderCall → Option Plugin
  | withPlugin plugin => some plugin
  | _ => none

end BuilderCall

/-- What a history declares, in its order. -/
def declarations (calls : List BuilderCall) : List Declaration := calls.filterMap (·.declaration?)

/-- The plugin in force after a history: the last one that was put in, at first the one that changes
nothing. -/
def pluginAfter (calls : List BuilderCall) : Plugin :=
  (calls.filterMap (·.plugin?)).getLast?.getD .identity

/-- A history sets an operation. -/
def IsSet (calls : List BuilderCall) (operation : String) : Prop :=
  ∃ handler, .set operation handler ∈ calls

/-- The service is the handler set last for the operation, in the plugin that was in force when it
was set. -/
def IsLastSet (calls : List BuilderCall) (operation : String) (service : Service) : Prop :=
  ∃ before handler after, calls = before ++ .set operation handler :: after ∧
    ¬IsSet after operation ∧
    service = pluginAfter before operation handler

/-- What answers for an operation after a history: the handler set last for it, or else what fails,
in the plugin in force at the end. -/
inductive Answers (calls : List BuilderCall) (operation : String) : Service → Prop where
  | handler {service : Service} (h : IsLastSet calls operation service) :
      Answers calls operation service
  | missing (h : ¬IsSet calls operation) :
      Answers calls operation (pluginAfter calls operation (failOnMissing operation))

section Append

variable {calls : List BuilderCall} {call : BuilderCall} {operation : String} {service : Service}

lemma declarations_append (calls : List BuilderCall) (call : BuilderCall) :
    declarations (calls ++ [call]) = declarations calls ++ call.declaration?.toList := by
  cases h : call.declaration? <;> simp [declarations, h]

lemma pluginAfter_append (calls : List BuilderCall) (call : BuilderCall) :
    pluginAfter (calls ++ [call]) = call.plugin?.getD (pluginAfter calls) := by
  cases h : call.plugin? <;> simp [pluginAfter, h]

lemma isSet_append_iff : IsSet (calls ++ [call]) operation ↔
    IsSet calls operation ∨ ∃ handler, call = .set operation handler := by
  simp only [IsSet, List.mem_append, List.mem_singleton, exists_or, eq_comm]

/-- A call that does not set an operation leaves the handler set last for it. -/
lemma IsLastSet.append (h : IsLastSet calls operation service)
    (hcall : ∀ handler, call ≠ .set operation handler) :
    IsLastSet (calls ++ [call]) operation service := by
  obtain ⟨before, handler, after, rfl, hafter, rfl⟩ := h
  refine ⟨before, handler, after ++ [call], by simp, ?_, rfl⟩
  rw [isSet_append_iff]
  rintro (h | ⟨later, h⟩)
  · exact hafter h
  · exact hcall later h

lemma isLastSet_append_set (calls : List BuilderCall) (operation : String) (handler : Service) :
    IsLastSet (calls ++ [.set operation handler]) operation (pluginAfter calls operation handler) :=
  ⟨calls, handler, [], rfl, by simp [IsSet], rfl⟩

end Append

/-! ## Slots -/

namespace Slot

/-- What is declared of a slot's operation. -/
def declaration (slot : Slot) : Declaration where
  operation := slot.operation
  setter := slot.setter
  spec := slot.spec

/-- The slot with a service, if it is that of the operation. -/
def fill (operation : String) (service : Service) (slot : Slot) : Slot :=
  if slot.operation = operation then { slot with service := some service } else slot

variable {slot : Slot} {operation : String} {service : Service}

@[simp] lemma operation_fill : (slot.fill operation service).operation = slot.operation := by
  unfold fill
  split <;> rfl

@[simp] lemma declaration_fill : (slot.fill operation service).declaration = slot.declaration := by
  unfold fill
  split <;> rfl

lemma service_fill : (slot.fill operation service).service =
    if slot.operation = operation then some service else slot.service := by
  unfold fill
  split <;> rfl

end Slot

namespace ServiceBuilder

/-! ## Runs -/

/-- Makes a call. -/
def apply (b : ServiceBuilder) : BuilderCall → Except BuilderError ServiceBuilder
  | .declare operation setter spec => b.declare operation setter spec
  | .set operation handler => b.set operation handler
  | .withPlugin plugin => .ok (b.withPlugin plugin)

/-- Makes calls, none of which may fail. -/
def run (b : ServiceBuilder) (calls : List BuilderCall) : Except BuilderError ServiceBuilder :=
  calls.foldlM apply b

variable {b b' : ServiceBuilder} {operation setter : String} {spec : RequestSpec}
  {handler : Service} {e : BuilderError}

lemma declares_iff : b.declares operation = true ↔ operation ∈ b.slots.map (·.operation) := by
  simp [declares]

lemma declare_eq_ok_iff : b.declare operation setter spec = .ok b' ↔
    b.declares operation = false ∧
    { b with slots := b.slots ++ [{ operation, setter, spec }] } = b' := by
  unfold declare
  cases b.declares operation <;> simp

lemma declare_eq_error_iff : b.declare operation setter spec = .error e ↔
    b.declares operation = true ∧ .duplicateOperation b.name operation = e := by
  unfold declare
  cases b.declares operation <;> simp

lemma set_eq_ok_iff : b.set operation handler = .ok b' ↔
    b.declares operation = true ∧
    { b with slots := b.slots.map (Slot.fill operation (b.plugin operation handler)) } = b' := by
  unfold set
  cases b.declares operation with
  | false => simp
  | true =>
    simp only [if_true, true_and, Except.ok.injEq]
    exact Iff.rfl

lemma set_eq_error_iff : b.set operation handler = .error e ↔
    b.declares operation = false ∧ .unknownOperation b.name operation = e := by
  unfold set
  cases b.declares operation <;> simp

/-! ## The account of a run -/

/-- The builder has what a history of calls says, and nothing else. -/
structure Records (name : String) (calls : List BuilderCall) (b : ServiceBuilder) : Prop where
  name : b.name = name
  plugin : b.plugin = pluginAfter calls
  declared : b.slots.map Slot.declaration = declarations calls
  distinct : (b.slots.map (·.operation)).Nodup
  /-- No operation is set before it is declared. -/
  known : ∀ operation, IsSet calls operation → operation ∈ b.slots.map (·.operation)
  full : ∀ slot ∈ b.slots, ∀ service, slot.service = some service →
    IsLastSet calls slot.operation service
  empty : ∀ slot ∈ b.slots, slot.service = none → ¬IsSet calls slot.operation

namespace Records

variable {name : String} {calls : List BuilderCall} {call : BuilderCall}

lemma start (name : String) : Records name [] { name } := by
  constructor <;> simp [pluginAfter, declarations, IsSet]

lemma declare (h : Records name calls b) (hcall : b.declare operation setter spec = .ok b') :
    Records name (calls ++ [.declare operation setter spec]) b' := by
  obtain ⟨hnew, rfl⟩ := declare_eq_ok_iff.1 hcall
  have hfresh : operation ∉ b.slots.map (·.operation) := by
    rw [← declares_iff, hnew]
    exact Bool.false_ne_true
  have hset : ∀ o, IsSet (calls ++ [.declare operation setter spec]) o ↔ IsSet calls o := by
    simp [isSet_append_iff]
  constructor
  case name => exact h.name
  case plugin =>
    rw [pluginAfter_append]
    exact h.plugin
  case declared =>
    rw [declarations_append, List.map_append, h.declared]
    rfl
  case distinct =>
    rw [List.map_append]
    exact List.perm_append_comm.nodup_iff.1 (List.nodup_cons.2 ⟨hfresh, h.distinct⟩)
  case known =>
    intro o ho
    rw [List.map_append]
    exact List.mem_append_left _ (h.known o ((hset o).1 ho))
  case full =>
    intro slot hmem service hservice
    rcases List.mem_append.1 hmem with hmem | hmem
    · exact (h.full slot hmem service hservice).append (by simp)
    · rw [List.mem_singleton.1 hmem] at hservice
      contradiction
  case empty =>
    intro slot hmem hservice
    rw [hset]
    rcases List.mem_append.1 hmem with hmem | hmem
    · exact h.empty slot hmem hservice
    · rw [List.mem_singleton.1 hmem]
      exact fun hset => hfresh (h.known _ hset)

lemma set (h : Records name calls b) (hcall : b.set operation handler = .ok b') :
    Records name (calls ++ [.set operation handler]) b' := by
  obtain ⟨hdeclared, rfl⟩ := set_eq_ok_iff.1 hcall
  have hoperations :
      (b.slots.map (Slot.fill operation (b.plugin operation handler))).map (·.operation) =
        b.slots.map (·.operation) := by
    simp
  constructor
  case name => exact h.name
  case plugin =>
    rw [pluginAfter_append]
    exact h.plugin
  case declared =>
    rw [declarations_append, ← h.declared]
    simp [BuilderCall.declaration?]
  case distinct => exact hoperations ▸ h.distinct
  case known =>
    intro o ho
    rw [hoperations]
    rcases isSet_append_iff.1 ho with ho | ⟨_, ho⟩
    · exact h.known o ho
    · rw [← (BuilderCall.set.inj ho).1]
      exact declares_iff.1 hdeclared
  case full =>
    rintro _ hmem service hservice
    obtain ⟨slot, hslot, rfl⟩ := List.mem_map.1 hmem
    rw [Slot.service_fill] at hservice
    rw [Slot.operation_fill]
    split at hservice
    · next heq =>
      rw [heq, ← Option.some.inj hservice, h.plugin]
      exact isLastSet_append_set calls operation handler
    · next hne => exact (h.full slot hslot service hservice).append (by simp [Ne.symm hne])
  case empty =>
    rintro _ hmem hservice
    obtain ⟨slot, hslot, rfl⟩ := List.mem_map.1 hmem
    rw [Slot.service_fill] at hservice
    rw [Slot.operation_fill, isSet_append_iff]
    split at hservice
    · contradiction
    · next hne =>
      rintro (hset | ⟨_, hset⟩)
      · exact h.empty slot hslot hservice hset
      · exact hne (BuilderCall.set.inj hset).1.symm

lemma withPlugin (h : Records name calls b) (plugin : Plugin) :
    Records name (calls ++ [.withPlugin plugin]) (b.withPlugin plugin) := by
  have hset : ∀ o, IsSet (calls ++ [.withPlugin plugin]) o ↔ IsSet calls o := by
    simp [isSet_append_iff]
  constructor
  case name => exact h.name
  case plugin =>
    rw [pluginAfter_append]
    rfl
  case declared =>
    rw [declarations_append, ← h.declared]
    exact (List.append_nil _).symm
  case distinct => exact h.distinct
  case known => exact fun o ho => h.known o ((hset o).1 ho)
  case full =>
    exact fun slot hmem service hservice => (h.full slot hmem service hservice).append (by simp)
  case empty => exact fun slot hmem hservice => mt (hset _).1 (h.empty slot hmem hservice)

/-- A call adds itself to the history. -/
theorem apply (h : Records name calls b) (hcall : b.apply call = .ok b') :
    Records name (calls ++ [call]) b' := by
  cases call with
  | declare operation setter spec => exact h.declare hcall
  | set operation handler => exact h.set hcall
  | withPlugin plugin => exact Except.ok.inj hcall ▸ h.withPlugin plugin

/-- Calls add themselves to the history, one after the other. -/
theorem run {before : List BuilderCall} (h : Records name before b) (hrun : b.run calls = .ok b') :
    Records name (before ++ calls) b' := by
  induction calls generalizing b before with
  | nil =>
    rw [List.append_nil, ← Except.ok.inj hrun]
    exact h
  | cons call rest ih =>
    obtain ⟨next, hcall, hrest⟩ := bind_eq_ok.1 hrun
    rw [List.append_cons]
    exact ih (h.apply hcall) hrest

end Records

/-! ## Building -/

/-- A service can be built if every slot has a service, and then both routers are one. -/
lemma build_eq (b : ServiceBuilder) (protocol : WireProtocol) : b.build protocol =
    if ∀ slot ∈ b.slots, slot.service.isSome then .ok (b.buildUnchecked protocol)
      else .error b.missing := by
  have hempty : b.unset.isEmpty = true ↔ ∀ slot ∈ b.slots, slot.service.isSome := by
    simp [unset, unsetSlots, List.filter_eq_nil_iff, Option.isSome_iff_ne_none]
  rw [build]
  split_ifs with hunset hall hall
  · have hroutes : b.slots.filterMap (fun slot => slot.service.map (slot.spec, ·)) =
        b.slots.map fun slot => (slot.spec, b.serviceOf slot) := by
      refine List.filterMap_eq_map_iff_forall_eq_some.2 fun slot hmem => ?_
      obtain ⟨service, hservice⟩ := Option.isSome_iff_exists.1 (hall slot hmem)
      simp [serviceOf, hservice]
    rw [hroutes, buildUnchecked]
  · exact absurd (hempty.1 hunset) hall
  · exact absurd (hempty.2 hall) hunset
  · rfl

/-- What is missing is what the slots without a service are for. -/
lemma mem_missing_iff {text : String} : (operation, text) ∈ b.missing.entries ↔
    ∃ slot ∈ b.slots, slot.service = none ∧ slot.operation = operation ∧
      s!".{slot.setter}()" = text := by
  simp [missing, unsetSlots, List.mem_mergeSort, and_assoc]

lemma isLE_compare_total (a b : String) : ((compare a b).isLE || (compare b a).isLE) = true := by
  have hswap : compare b a = (compare a b).swap := Std.OrientedCmp.eq_swap
  rw [hswap]
  cases compare a b <;> rfl

lemma lt_of_isLE_compare {a b : String} (hle : (compare a b).isLE = true) (hne : a ≠ b) :
    a < b := by
  cases h : compare a b with
  | lt => exact compareOfLessAndEq_eq_lt.1 h
  | eq => exact absurd (Std.LawfulEqCmp.eq_of_compare h) hne
  | gt => simp [h] at hle

/-- What is missing is sorted by operation, each once. -/
lemma pairwise_missing (h : (b.slots.map (·.operation)).Nodup) :
    b.missing.entries.Pairwise fun x y => x.1 < y.1 := by
  have hsorted := List.pairwise_mergeSort (fun _ _ _ => Std.TransCmp.isLE_trans)
    (fun s t : Slot => isLE_compare_total s.operation t.operation) b.unsetSlots
  have hdistinct :
      (b.unsetSlots.mergeSort fun s t => (compare s.operation t.operation).isLE).Pairwise
      fun s t => s.operation ≠ t.operation := by
    refine List.pairwise_map.1 ((((List.mergeSort_perm _ _).map _).nodup_iff).2 ?_)
    exact h.sublist (List.filter_sublist.map _)
  exact List.pairwise_map.2 (hsorted.imp₂ (fun _ _ => lt_of_isLE_compare) hdistinct)

section Account

variable {name : String} {calls : List BuilderCall}

lemma Records.operations (h : Records name calls b) :
    b.slots.map (·.operation) = (declarations calls).map (·.operation) := by
  rw [← h.declared, List.map_map]
  rfl

/-- The slots with a service are those of the operations that are set. -/
lemma Records.isSome_iff (h : Records name calls b) {slot : Slot} (hmem : slot ∈ b.slots) :
    slot.service.isSome = true ↔ IsSet calls slot.operation := by
  cases hservice : slot.service with
  | some service =>
    obtain ⟨before, handler, after, rfl, -, -⟩ := h.full slot hmem service hservice
    exact iff_of_true rfl ⟨handler, List.mem_append_right _ List.mem_cons_self⟩
  | none => simpa using h.empty slot hmem hservice

/-- The router that may fail has the declared specs, each with what answers for its operation. -/
lemma Records.buildUnchecked_eq (h : Records name calls b) (protocol : WireProtocol) :
    ∃ services, List.Forall₂ (fun declaration => Answers calls declaration.operation)
      (declarations calls) services ∧
      b.buildUnchecked protocol =
        .ofList protocol (((declarations calls).map (·.spec)).zip services) := by
  refine ⟨b.slots.map b.serviceOf, ?_, ?_⟩
  · rw [← h.declared, List.forall₂_map_left_iff, List.forall₂_map_right_iff, List.forall₂_same]
    intro slot hmem
    show Answers calls slot.operation (slot.service.getD _)
    cases hservice : slot.service with
    | some service => exact .handler (h.full slot hmem service hservice)
    | none =>
      rw [h.plugin]
      exact .missing (h.empty slot hmem hservice)
  · rw [← h.declared, List.map_map, List.zip_map']
    rfl

/-- Every declared operation is set if every slot has a service. -/
lemma Records.forall_isSet_iff (h : Records name calls b) :
    (∀ d ∈ declarations calls, IsSet calls d.operation) ↔ ∀ slot ∈ b.slots,
    slot.service.isSome = true := by
  rw [← h.declared, List.forall_mem_map]
  exact forall₂_congr fun slot hmem => (h.isSome_iff hmem).symm

/-- What is missing are the operations that are declared and not set. -/
lemma Records.mem_missing_iff (h : Records name calls b) {text : String} :
    (operation, text) ∈ b.missing.entries ↔
    ∃ d ∈ declarations calls, ¬IsSet calls d.operation ∧ d.operation = operation ∧
      s!".{d.setter}()" = text := by
  simp only [ServiceBuilder.mem_missing_iff, ← h.declared, List.mem_map, exists_exists_and_eq_and]
  refine exists_congr fun slot => and_congr_right fun hmem => and_congr_left' ?_
  rw [← Option.not_isSome_iff_eq_none, h.isSome_iff hmem]
  exact Iff.rfl

end Account

lemma status_append (r : Http.Response) (name value : String) :
    (r.append name value).status = r.status := by
  unfold Http.Response.append
  split <;> rfl

/-- The contract of a builder that went through calls without a failure. A service can be built
exactly if every declared operation is set; else the error names those that are not, sorted and each
once, with the calls that set them. The router that may fail has the declared specs in their order,
each with what answers for its operation, and a service that can be built answers as that router
does. The next call fails exactly if it declares what is declared, or sets what is not. -/
theorem build_run {name : String} {calls : List BuilderCall} {b : ServiceBuilder}
    (h : run { name } calls = .ok b) (protocol : WireProtocol) :
    ((∃ router, b.build protocol = .ok router) ↔ ∀ d ∈ declarations calls,
      IsSet calls d.operation) ∧
    (∀ missing, b.build protocol = .error missing →
      missing.service = name ∧ missing.entries.Pairwise (fun x y => x.1 < y.1) ∧
      ∀ operation text, (operation, text) ∈ missing.entries ↔
        ∃ d ∈ declarations calls, ¬IsSet calls d.operation ∧ d.operation = operation ∧
          s!".{d.setter}()" = text) ∧
    ((∃ services, List.Forall₂ (fun d => Answers calls d.operation) (declarations calls) services ∧
      b.buildUnchecked protocol =
        .ofList protocol (((declarations calls).map (·.spec)).zip services)) ∧
      ∀ operation request, (failOnMissing operation request).status = 500) ∧
    (∀ router, b.build protocol = .ok router →
      ∀ request, router.call request = (b.buildUnchecked protocol).call request) ∧
    (∀ operation setter spec e, b.declare operation setter spec = .error e ↔
      operation ∈ (declarations calls).map (·.operation) ∧ .duplicateOperation name operation = e) ∧
    ∀ operation handler e, b.set operation handler = .error e ↔
      operation ∉ (declarations calls).map (·.operation) ∧
      .unknownOperation name operation = e := by
  have hrecords : Records name calls b := (Records.start name).run h
  have hbuild := build_eq b protocol
  refine ⟨?_, ?_, ⟨hrecords.buildUnchecked_eq protocol, fun operation _ =>
    status_append _ _ operation⟩, ?_, ?_, ?_⟩
  · rw [hrecords.forall_isSet_iff, hbuild]
    split_ifs with hall
    · exact iff_of_true ⟨_, rfl⟩ hall
    · exact iff_of_false (by simp) hall
  · intro missing hmissing
    rw [hbuild] at hmissing
    split_ifs at hmissing
    obtain rfl := Except.error.inj hmissing
    exact ⟨hrecords.name, pairwise_missing hrecords.distinct, fun _ _ => hrecords.mem_missing_iff⟩
  · intro router hrouter request
    rw [hbuild] at hrouter
    split_ifs at hrouter
    rw [Except.ok.inj hrouter]
  · intro operation setter spec e
    rw [declare_eq_error_iff, declares_iff, hrecords.operations, hrecords.name]
  · intro operation handler e
    rw [set_eq_error_iff, ← Bool.not_eq_true, declares_iff, hrecords.operations, hrecords.name]

/-- A history that sets one of two operations, twice, the second time with a plugin in force. -/
def weatherCalls : List BuilderCall := [
  .declare "ex#ListCities" "list_cities" (.rest "GET" [.literal "cities"] []),
  .declare "ex#GetCity" "get_city" (.rest "GET" [.literal "cities", .label] []),
  .set "ex#GetCity" fun _ => { body := "first" },
  .withPlugin fun operation service request => (service request).append "x-operation" operation,
  .set "ex#GetCity" fun _ => { body := "second" }]

theorem build_run_weatherCalls : ∃ b missing, run { name := "Weather" } weatherCalls = .ok b ∧
    b.build .restJson1 = .error missing ∧ missing.service = "Weather" ∧
    ("ex#ListCities", ".list_cities()") ∈ missing.entries ∧
    ∀ text, ("ex#GetCity", text) ∉ missing.entries := by
  obtain ⟨b, hrun⟩ : ∃ b, run { name := "Weather" } weatherCalls = .ok b :=
    exists_eq_ok_of_isSome (by cbv)
  obtain ⟨hok, hmissing, -⟩ := build_run hrun .restJson1
  have hunset : ¬IsSet weatherCalls "ex#ListCities" := by simp [IsSet, weatherCalls]
  have hset : IsSet weatherCalls "ex#GetCity" :=
    ⟨fun _ => { body := "first" }, by simp [weatherCalls]⟩
  have hlist :
      ⟨"ex#ListCities", "list_cities", .rest "GET" [.literal "cities"] []⟩ ∈
        declarations weatherCalls := by
    simp [weatherCalls, declarations, BuilderCall.declaration?]
  cases hbuild : b.build .restJson1 with
  | ok router => exact absurd (hok.1 ⟨router, hbuild⟩ _ hlist) hunset
  | error missing =>
    obtain ⟨hservice, -, hentries⟩ := hmissing missing hbuild
    refine ⟨b, missing, hrun, hbuild, hservice, (hentries _ _).2 ⟨_, hlist, hunset, rfl, by cbv⟩,
      fun text hmem => ?_⟩
    obtain ⟨d, -, hd, hname, -⟩ := (hentries _ _).1 hmem
    exact hd (hname ▸ hset)

end ServiceBuilder

end SdkForge.Server
