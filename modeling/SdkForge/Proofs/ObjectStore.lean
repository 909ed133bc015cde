import SdkForge.Proofs.Composition

/-!
# The decorator for the object store

The decorator `s3` is for one service. For every other one it makes no difference whether it is
enabled.

* `Decorator.IsIdle` says that a decorator leaves a service alone, and `Decorator.isIdle_s3` that
  `s3` does so for all services but its own.
* `DecoratorSet.ActsLike` compares two sets of decorators; `actsLike_of_filter` says that idle
  decorators make no difference.
* `Pipeline.perform_congr` compares two runs call by call. `ActsLike.run_eq` and
  `ActsLike.outcome_eq` say that sets that act alike have the same runs and the same files, and
  `s3_leaves_others_alone` is the whole account.
-/

namespace SdkForge

open Outcome

/-! ## Idle decorators -/

/-- The decorator leaves a service alone: its model, its protocols and symbols, and its code. -/
structure Decorator.IsIdle (service : ShapeId) (decorator : Decorator) : Prop where
  transform : ∀ model, decorator.transform service model = .ok model
  protocols : ∀ known, decorator.protocols service known = known
  symbols : ∀ p chain, decorator.symbols p chain = chain
  silent : ∀ p : Project, p.service = service → ∀ name, ∀ c ∈ decorator.contributionsTo p name,
    ∀ place, c.write place = .ok none

lemma Decorator.isIdle_s3 {service : ShapeId} (hother : service ≠ objectStore) :
    s3.IsIdle service where
  transform _ := if_neg hother
  protocols _ := if_neg hother
  symbols _ _ := rfl
  silent p hp name c hmem place := by
    have hmem : c ∈ [(⟨s3.name, s3.order, s3.write p⟩ : Contribution)] := hmem
    have hwrite : s3.write p = fun _ => .ok none := if_neg (hp ▸ hother)
    rw [List.mem_singleton.1 hmem, hwrite]

/-! ## Sets that act alike -/

section Folds

variable {α β ε : Type} {keep : α → Bool} {l : List α}

/-- A fold may leave out elements that change nothing. -/
lemma foldl_filter_of_idle {f : β → α → β} (hidle : ∀ a ∈ l, keep a = false → ∀ b, f b a = b)
    (b : β) :
    (l.filter keep).foldl f b = l.foldl f b := by
  induction l generalizing b with
  | nil => rfl
  | cons first rest ih =>
    have ih := ih fun a hmem => hidle a (List.mem_cons_of_mem _ hmem)
    cases hkeep : keep first with
    | true => rw [List.filter_cons_of_pos hkeep, List.foldl_cons, List.foldl_cons, ih]
    | false =>
      rw [List.filter_cons_of_neg (by simp [hkeep]), List.foldl_cons,
        hidle first List.mem_cons_self hkeep, ih]

lemma foldlM_filter_of_idle {f : β → α → Except ε β}
    (hidle : ∀ a ∈ l, keep a = false → ∀ b, f b a = .ok b) (b : β) :
    (l.filter keep).foldlM f b = l.foldlM f b := by
  induction l generalizing b with
  | nil => rfl
  | cons first rest ih =>
    have ih := ih fun a hmem => hidle a (List.mem_cons_of_mem _ hmem)
    cases hkeep : keep first with
    | true =>
      rw [List.filter_cons_of_pos hkeep, List.foldlM_cons, List.foldlM_cons]
      exact congrArg _ (funext ih)
    | false =>
      rw [List.filter_cons_of_neg (by simp [hkeep]),
        foldlM_cons_of_ok (hidle first List.mem_cons_self hkeep b), ih]

end Folds

namespace Section

variable {place : Section} {contributions contributions' : List Contribution}

/-- Contributions that write nothing may be left out. -/
lemma compose_append_of_silent (hsilent : ∀ c ∈ contributions, c.write place = .ok none) :
    place.compose (contributions ++ contributions') = place.compose contributions' := by
  induction contributions with
  | nil => rfl
  | cons first rest ih =>
    rw [List.cons_append, compose, hsilent first List.mem_cons_self]
    exact ih fun c hmem => hsilent c (List.mem_cons_of_mem _ hmem)

/-- What is written after some contributions depends only on what the others write. -/
lemma compose_append_congr (before : List Contribution)
    (h : place.compose contributions = place.compose contributions') :
    place.compose (before ++ contributions) = place.compose (before ++ contributions') := by
  induction before with
  | nil => exact h
  | cons first rest ih => rw [List.cons_append, List.cons_append, compose, compose, ih]

lemma compose_filter {service : ShapeId} {keep : Decorator → Bool} {decorators : List Decorator}
    {p : Project} (hp : p.service = service)
    (hidle : ∀ decorator ∈ decorators, keep decorator = false → decorator.IsIdle service) :
    place.compose ((decorators.filter keep).flatMap (·.contributionsTo p place.name)) =
      place.compose (decorators.flatMap (·.contributionsTo p place.name)) := by
  induction decorators with
  | nil => rfl
  | cons first rest ih =>
    have ih := ih fun decorator hmem => hidle decorator (List.mem_cons_of_mem _ hmem)
    rw [List.flatMap_cons]
    cases hkeep : keep first with
    | true =>
      rw [List.filter_cons_of_pos hkeep, List.flatMap_cons]
      exact compose_append_congr _ ih
    | false =>
      have hsilent := (hidle first List.mem_cons_self hkeep).silent p hp place.name
      rw [List.filter_cons_of_neg (by simp [hkeep]), compose_append_of_silent fun c hmem =>
        hsilent c hmem place, ih]

end Section

namespace DecoratorSet

variable {service : ShapeId} {d d' : DecoratorSet}

/-- Two sets of decorators do the same for a service. -/
structure ActsLike (service : ShapeId) (d d' : DecoratorSet) : Prop where
  transform : ∀ model, d.transform service model = d'.transform service model
  protocols : ∀ known, d.protocols service known = d'.protocols service known
  symbols : ∀ p chain, d.symbols p chain = d'.symbols p chain
  registry : ∀ p : Project, p.service = service →
    ∃ r r', d.registry p = .ok r ∧ d'.registry p = .ok r' ∧
      ∀ place, r.render place = r'.render place

/-- Sets that differ in idle decorators only do the same. -/
theorem actsLike_of_filter {keep : Decorator → Bool}
    (hsorted : d.members.Pairwise fun a b => a.order ≤ b.order)
    (hsorted' : d'.members.Pairwise fun a b => a.order ≤ b.order)
    (hkept : d.members.filter keep = d'.members.filter keep)
    (hidle : ∀ decorator ∈ d.members, keep decorator = false → decorator.IsIdle service)
    (hidle' : ∀ decorator ∈ d'.members, keep decorator = false → decorator.IsIdle service) :
    ActsLike service d d' where
  transform model := by
    rw [transform, transform,
      ← foldlM_filter_of_idle fun decorator hmem hkeep model =>
        (hidle decorator hmem hkeep).transform model, hkept,
      foldlM_filter_of_idle fun decorator hmem hkeep model =>
        (hidle' decorator hmem hkeep).transform model]
  protocols known := by
    rw [protocols, protocols,
      ← foldl_filter_of_idle fun decorator hmem hkeep known =>
        (hidle decorator hmem hkeep).protocols known, hkept,
      foldl_filter_of_idle fun decorator hmem hkeep known =>
        (hidle' decorator hmem hkeep).protocols known]
  symbols p chain := by
    rw [symbols, symbols,
      ← foldl_filter_of_idle fun decorator hmem hkeep chain =>
        (hidle decorator hmem hkeep).symbols p chain, hkept,
      foldl_filter_of_idle fun decorator hmem hkeep chain =>
        (hidle' decorator hmem hkeep).symbols p chain]
  registry p hp := by
    obtain ⟨r, hr, hget⟩ := exists_registry_get? p hsorted
    obtain ⟨r', hr', hget'⟩ := exists_registry_get? p hsorted'
    refine ⟨r, r', hr, hr', fun place => ?_⟩
    rw [Registry.render_eq_compose (hget place.name), Registry.render_eq_compose (hget' place.name),
      ← Section.compose_filter hp hidle, hkept, Section.compose_filter hp hidle']

end DecoratorSet

/-! ## Runs that go alike -/

namespace Pipeline

variable {c c' : Compilation} {calls calls' : List (Call × Action)} {holds : Compilation → Prop}

/-- Two calls do the same to every run of a kind, which stays of that kind. -/
def Alike (holds : Compilation → Prop) (call call' : Call × Action) : Prop :=
  call.1 = call'.1 ∧ ∀ c, holds c → call.2 c = call'.2 c ∧ holds (call.2 c).1

/-- Calls that are alike one by one give the same run. -/
lemma perform_congr (h : List.Forall₂ (Alike holds) calls calls') (hc : holds c) :
    perform c calls = perform c calls' ∧ ∀ c', (perform c calls).2 = .ok c' → holds c' := by
  induction h generalizing c with
  | nil => exact ⟨rfl, fun c' h => Except.ok.inj h ▸ hc⟩
  | @cons call call' rest rest' hcall _ ih =>
    obtain ⟨who, action⟩ := call
    obtain ⟨who', action'⟩ := call'
    obtain ⟨hwho, haction⟩ := hcall
    obtain ⟨heq, hnext⟩ := haction c hc
    dsimp only at hwho heq hnext
    rw [perform, perform, ← heq, hwho]
    -- both runs stop here, or go on from one state, which is of the kind
    cases hstep : action c with
    | mk next failed =>
      rw [hstep] at hnext
      cases failed with
      | some fault =>
        refine ⟨rfl, fun c' h => ?_⟩
        contradiction
      | none =>
        obtain ⟨hrest, hholds⟩ := ih hnext
        dsimp only
        rw [← hrest]
        exact ⟨rfl, hholds⟩

/-- The calls for two phases are alike if the phases are, and plugins only observe. -/
lemma alike_callsFor {plugins : List Plugin} {phase phase' : Phase}
    (hobserve : ∀ plugin ∈ plugins, plugin.Observes) (hname : phase.name = phase'.name)
    (hbody : ∀ c, holds c → phase.body c = phase'.body c ∧ holds (phase.body c).1) :
    List.Forall₂ (Alike holds) (callsFor plugins phase) (callsFor plugins phase') := by
  have haround : ∀ (call : Plugin → Call) (action : Plugin → Action),
      (∀ plugin ∈ plugins, ∀ c, (action plugin c).1 = c) →
      List.Forall₂ (Alike holds) (plugins.map fun plugin => (call plugin, action plugin))
        (plugins.map fun plugin => (call plugin, action plugin)) := by
    intro call action hkeep
    rw [List.forall₂_map_left_iff, List.forall₂_map_right_iff, List.forall₂_same]
    intro plugin hmem
    exact ⟨rfl, fun c hc => ⟨rfl, (hkeep plugin hmem c).symm ▸ hc⟩⟩
  unfold callsFor
  rw [← hname]
  refine List.rel_append (haround _ _ fun plugin hmem c => (hobserve plugin hmem phase.name c).1)
    (.cons ⟨rfl, hbody⟩ ?_)
  exact haround _ _ fun plugin hmem c => (hobserve plugin hmem phase.name c).2

end Pipeline

/-! ## Files that are alike -/

namespace Crate.Blueprint

variable {p : Project} {symbols : SymbolTable} {r r' : Registry} {protocol : Protocol}

/-- Files depend on a registry only by what it writes. -/
lemma files_congr (h : ∀ place, r.render place = r'.render place) :
    files ⟨p, symbols, r, protocol⟩ = files ⟨p, symbols, r', protocol⟩ := by
  have hcontributed :
      ∀ place, contributed ⟨p, symbols, r, protocol⟩ place = contributed ⟨p, symbols,
        r', protocol⟩ place := by
    intro place
    unfold contributed Registry.renderAll
    dsimp only
    rw [h]
  -- a file asks the registry for what is contributed to it, or for what it writes at a place
  unfold files sources rootFile sideFiles serverFile ServiceBuilder.implementation
    configFile errorFile
  simp only [hcontributed, h]
  rfl

end Crate.Blueprint

namespace DecoratorSet

variable {service : ShapeId} {d d' : DecoratorSet} {p : Project} {c : Compilation}

/-- The finished run of decorators on a project, and the files that come out of it. -/
def outcome (d : DecoratorSet) (p : Project) (denyWarnings : Bool) :
    Except Fault (Compilation × FileSet) := do
  let c ← (Command.Input.pipeline d denyWarnings).run p
  return (c, ← (← Crate.Blueprint.ofCompilation d c).files)

namespace ActsLike

lemma transformModel_eq (h : ActsLike service d d') (hp : p.service = service) :
    Phase.transformModel d p = Phase.transformModel d' p := by
  rw [Phase.transformModel, Phase.transformModel, hp, h.transform]

/-- Sets that act alike have the same runs. -/
theorem run_eq (h : ActsLike service d d') (hp : p.service = service) (denyWarnings : Bool) :
    (Command.Input.pipeline d denyWarnings).run p = (Command.Input.pipeline d' denyWarnings).run p ∧
      ∀ c, (Command.Input.pipeline d denyWarnings).run p = .ok c → c.project.service = service := by
  have hobserve : ∀ plugin ∈ if denyWarnings then [Plugin.denyWarnings] else [],
      plugin.Observes := by
    cases denyWarnings with
    | false => exact nofun
    | true => exact List.forall_mem_singleton.2 Plugin.observes_denyWarnings
  have htransform : ∀ c : Compilation, c.project.service = service →
      (Phase.transform d).body c = (Phase.transform d').body c ∧
      ((Phase.transform d).body c).1.project.service = service := by
    intro c hc
    dsimp only [Phase.transform, Action.ofExcept]
    rw [h.transformModel_eq hc]
    cases Phase.transformModel d' c.project with
    | error fault => exact ⟨rfl, hc⟩
    | ok model => exact ⟨rfl, hc⟩
  have hresolve : ∀ c : Compilation, c.project.service = service →
      (Phase.resolve d).body c = (Phase.resolve d').body c ∧
      ((Phase.resolve d).body c).1.project.service = service := by
    intro c hc
    dsimp only [Phase.resolve, Action.ofExcept]
    rw [h.symbols]
    cases SymbolTable.resolve
      ((d'.symbols c.project (symbolChain c.project)).wrap Memo.stage).provider.symbol
      c.project.model c.project.service with
    | error fault => exact ⟨rfl, hc⟩
    | ok table => exact ⟨rfl, hc⟩
  have hcalls : List.Forall₂ (Pipeline.Alike fun c => c.project.service = service)
      (Command.Input.pipeline d denyWarnings).schedule
        (Command.Input.pipeline d' denyWarnings).schedule := by
    have hname : (Phase.transform d).name = (Phase.transform d').name := rfl
    have hname' : (Phase.resolve d).name = (Phase.resolve d').name := rfl
    -- validation in between looks at the project only
    refine List.rel_append (Pipeline.alike_callsFor hobserve hname htransform) ?_
    refine List.rel_append (Pipeline.alike_callsFor hobserve rfl fun c hc => ⟨rfl, hc⟩) ?_
    exact List.rel_append (Pipeline.alike_callsFor hobserve hname' hresolve) .nil
  obtain ⟨heq, hholds⟩ := Pipeline.perform_congr (c := { project := p }) hcalls hp
  simp only [Pipeline.run, Pipeline.trace_eq_perform]
  exact ⟨congrArg (·.2) heq, hholds⟩

lemma files_eq (h : ActsLike service d d') (hc : c.project.service = service) :
    (Crate.Blueprint.ofCompilation d c >>= fun b => b.files) =
      Crate.Blueprint.ofCompilation d' c >>= fun b => b.files := by
  obtain ⟨r, r', hr, hr', hrender⟩ := h.registry c.project hc
  unfold Crate.Blueprint.ofCompilation
  dsimp only
  rw [hc, h.protocols, hr, hr']
  cases Fault.ofModel c.project.serviceShape with
  | error fault => rfl
  | ok shape =>
    dsimp only [bind, Except.bind]
    cases Protocol.resolve shape (d'.protocols service Protocol.standardMap) with
    | error fault => rfl
    | ok protocol =>
      cases c.table with
      | error fault => rfl
      | ok symbols => exact Crate.Blueprint.files_congr hrender

/-- Sets that act alike have the same outcome. -/
theorem outcome_eq (h : ActsLike service d d') (hp : p.service = service) (denyWarnings : Bool) :
    d.outcome p denyWarnings = d'.outcome p denyWarnings := by
  obtain ⟨hrun, hservice⟩ := h.run_eq hp denyWarnings
  rw [outcome, outcome, ← hrun]
  cases hresult : (Command.Input.pipeline d denyWarnings).run p with
  | error fault => rfl
  | ok c =>
    -- files are made from what the run ends in, which is for the same service still
    have hfiles := h.files_eq (hservice c hresult)
    show (Crate.Blueprint.ofCompilation d c >>= fun b => b.files >>= fun files => pure (c, files)) =
      Crate.Blueprint.ofCompilation d' c >>= fun b => b.files >>= fun files => pure (c, files)
    rw [← bind_assoc, hfiles, bind_assoc]

end ActsLike

/-! ## Selecting decorators -/

/-- Decorators that are the same but for the one for the object store do the same for any other
service. -/
lemma actsLike_of_others {decorators decorators' : List Decorator}
    (hother : service ≠ Decorator.objectStore)
    (hothers : (decorators.filter fun x => x.name ≠ Decorator.s3.name) = decorators'.filter fun x =>
      x.name ≠ Decorator.s3.name) (hs3 : ∀ x ∈ decorators, x.name = Decorator.s3.name →
        x = Decorator.s3)
    (hs3' : ∀ x ∈ decorators', x.name = Decorator.s3.name → x = Decorator.s3) :
    ActsLike service ⟨decorators.mergeSort (·.order ≤ ·.order)⟩
      ⟨decorators'.mergeSort (·.order ≤ ·.order)⟩ := by
  have hidle :
      ∀ members : List Decorator, (∀ x ∈ members, x.name = Decorator.s3.name → x = Decorator.s3) →
      ∀ x ∈ members.mergeSort (·.order ≤ ·.order), decide (x.name ≠ Decorator.s3.name) = false →
        x.IsIdle service := by
    intro members honly x hmem hname
    rw [honly x (List.mem_mergeSort.1 hmem) (by simpa using hname)]
    exact Decorator.isIdle_s3 hother
  have hkept :
      ((decorators.mergeSort (·.order ≤ ·.order)).filter fun x => x.name ≠ Decorator.s3.name) =
        (decorators'.mergeSort (·.order ≤ ·.order)).filter fun x => x.name ≠ Decorator.s3.name := by
    have hsort :=
      StableSort.filter_mergeSort_comm Decorator.order decorators fun x =>
        x.name ≠ Decorator.s3.name
    rw [hothers, ← StableSort.filter_mergeSort_comm] at hsort
    exact hsort
  exact actsLike_of_filter (StableSort.pairwise_mergeSort Decorator.order decorators)
    (StableSort.pairwise_mergeSort Decorator.order decorators') hkept (hidle decorators hs3)
    (hidle decorators' hs3')

/-- The names that a manifest enables. -/
def enabledNames (enabled : Option (List String)) : List String :=
  enabled.getD Decorator.builtinNames

lemma select_eq (enabled : Option (List String)) :
    select enabled =
      match (enabledNames enabled).find? (!Decorator.builtinNames.contains ·) with
      | some name => .error (.unknownDecorator name Decorator.builtinNames)
      | none =>
        ofList (Decorator.builtin.filter fun x => (enabledNames enabled).contains x.name) := by
  cases enabled with
  | some names => rfl
  | none =>
    have hknown : Decorator.builtinNames.find? (!Decorator.builtinNames.contains ·) = none := by
      decide
    rw [enabledNames, Option.getD_none, hknown]
    rfl

/-- The first name that is not known is one of the others. -/
lemma find?_enabledNames (enabled : Option (List String)) :
    (enabledNames enabled).find? (!Decorator.builtinNames.contains ·) =
      ((enabledNames enabled).filter (· ≠ Decorator.s3.name)).find?
        (!Decorator.builtinNames.contains ·) := by
  rw [List.find?_filter]
  congr 1
  funext name
  by_cases hname : name = Decorator.s3.name
  · rw [hname]
    decide
  · simp [hname]

/-- Manifests that enable the same other decorators either do not have known names only, or enable
sets that act alike. -/
lemma select_congr {enabled enabled' : Option (List String)}
    (hother : service ≠ Decorator.objectStore)
    (hothers : (enabledNames enabled).filter (· ≠ Decorator.s3.name) =
      (enabledNames enabled').filter (· ≠ Decorator.s3.name)) :
    (∃ fault, select enabled = .error fault ∧ select enabled' = .error fault) ∨
      ∃ d d', select enabled = .ok d ∧ select enabled' = .ok d' ∧ ActsLike service d d' := by
  have hfind := find?_enabledNames enabled
  have hfind' := find?_enabledNames enabled'
  rw [hothers, ← hfind'] at hfind
  rw [select_eq, select_eq, hfind]
  cases (enabledNames enabled').find? (!Decorator.builtinNames.contains ·) with
  | some name => exact .inl ⟨_, rfl, rfl⟩
  | none =>
    have hnames : ∀ keep : Decorator → Bool, ((Decorator.builtin.filter keep).map (·.name)).Nodup :=
      fun keep => (List.filter_sublist.map _).nodup (by decide)
    have hs3 : ∀ keep : Decorator → Bool, ∀ x ∈ Decorator.builtin.filter keep,
        x.name = Decorator.s3.name → x = Decorator.s3 := by
      intro keep x hmem
      exact List.inj_on_of_nodup_map (f := Decorator.name) (by decide) (List.mem_filter.1 hmem).1
        (by simp [Decorator.builtin])
    have hfilter : ∀ enabled : Option (List String),
        ((Decorator.builtin.filter fun x => (enabledNames enabled).contains x.name).filter fun x =>
          x.name ≠ Decorator.s3.name) = Decorator.builtin.filter fun x =>
            ((enabledNames enabled).filter (· ≠ Decorator.s3.name)).contains x.name := by
      intro enabled
      rw [List.filter_filter]
      refine List.filter_congr fun x _ => ?_
      by_cases hname : x.name = Decorator.s3.name <;> simp [hname]
    refine .inr ⟨_, _, ofList_of_nodup (hnames _), ofList_of_nodup (hnames _),
      actsLike_of_others hother ?_ (hs3 _) (hs3 _)⟩
    rw [hfilter, hfilter, hothers]

/-- The decorator for the object store may be left out of any list of decorators. -/
lemma ofList_congr {before after : List Decorator} (hother : service ≠ Decorator.objectStore)
    (hnames : ((before ++ Decorator.s3 :: after).map (·.name)).Nodup) :
    ∃ d d', ofList (before ++ Decorator.s3 :: after) = .ok d ∧ ofList (before ++ after) = .ok d' ∧
      ActsLike service d d' := by
  have hsublist : (before ++ after).Sublist (before ++ Decorator.s3 :: after) :=
    (List.sublist_cons_self Decorator.s3 after).append_left before
  have hs3 : ∀ x ∈ before ++ Decorator.s3 :: after, x.name = Decorator.s3.name → x = Decorator.s3 :=
    fun x hmem => List.inj_on_of_nodup_map hnames hmem (by simp)
  refine ⟨_, _, ofList_of_nodup hnames, ofList_of_nodup ((hsublist.map _).nodup hnames),
    actsLike_of_others hother ?_ hs3 fun x hmem => hs3 x (hsublist.mem hmem)⟩
  rw [List.filter_append, List.filter_append, List.filter_cons_of_neg (by simp)]

end DecoratorSet

/-! ## With and without -/

namespace Command.Input

/-- The input with other decorators enabled. -/
def enabling (i : Input) (enabled : Option (List String)) : Input :=
  { i with manifest.decorators := enabled }

lemma map_compile (i : Input) (denyWarnings : Bool) :
    (i.compile denyWarnings).map (·.2) = i.decorators >>= fun d =>
      (pipeline d denyWarnings).run i.project := by
  rw [compile]
  cases i.decorators with
  | error fault => rfl
  | ok d =>
    dsimp only [bind, Except.bind]
    cases (pipeline d denyWarnings).run i.project <;> rfl

lemma generate_eq_outcome (i : Input) (denyWarnings : Bool) :
    i.generate denyWarnings = i.decorators >>= fun d => d.outcome i.project denyWarnings := by
  rw [generate, compile]
  cases i.decorators with
  | error fault => rfl
  | ok d =>
    dsimp only [bind, Except.bind, DecoratorSet.outcome]
    cases (pipeline d denyWarnings).run i.project <;> rfl

end Command.Input

/-- For any service but its own, it makes no difference whether the decorator for the object store
is enabled. With the same other decorators the run is the same, or fails for the same cause, and so
are the files; this holds for the decorators that a manifest enables, and for any list of decorators
of different names. -/
theorem s3_leaves_others_alone (i : Command.Input)
    (hother : i.manifest.codegen.service ≠ Decorator.objectStore) (denyWarnings : Bool) :
    (∀ enabled, (DecoratorSet.enabledNames enabled).filter (· ≠ Decorator.s3.name) =
        (DecoratorSet.enabledNames i.manifest.decorators).filter (· ≠ Decorator.s3.name) →
      ((i.enabling enabled).compile denyWarnings).map (·.2) = (i.compile denyWarnings).map (·.2) ∧
      (i.enabling enabled).generate denyWarnings = i.generate denyWarnings) ∧
    ∀ before after, ((before ++ Decorator.s3 :: after).map (·.name)).Nodup → ∃ d d',
      DecoratorSet.ofList (before ++ Decorator.s3 :: after) = .ok d ∧
      DecoratorSet.ofList (before ++ after) = .ok d' ∧
      (Command.Input.pipeline d denyWarnings).run i.project =
        (Command.Input.pipeline d' denyWarnings).run i.project ∧
      d.outcome i.project denyWarnings = d'.outcome i.project denyWarnings := by
  have hservice : i.project.service ≠ Decorator.objectStore := hother
  refine ⟨fun enabled hothers => ?_, fun before after hnames => ?_⟩
  · rw [Command.Input.map_compile, Command.Input.map_compile, Command.Input.generate_eq_outcome,
      Command.Input.generate_eq_outcome]
    unfold Command.Input.decorators
    rcases DecoratorSet.select_congr hservice hothers with
      ⟨fault, hfault, hfault'⟩ | ⟨d, d', hd, hd', hlike⟩
    · rw [show DecoratorSet.select (i.enabling enabled).manifest.decorators =
        .error fault from hfault, hfault']
      exact ⟨rfl, rfl⟩
    · rw [show DecoratorSet.select (i.enabling enabled).manifest.decorators = .ok d from hd, hd']
      exact ⟨(hlike.run_eq rfl denyWarnings).1, hlike.outcome_eq rfl denyWarnings⟩
  · obtain ⟨d, d', hd, hd', hlike⟩ := DecoratorSet.ofList_congr hservice hnames
    exact ⟨d, d', hd, hd', (hlike.run_eq rfl denyWarnings).1, hlike.outcome_eq rfl denyWarnings⟩

/-- A client of another service with the object store's protocol and a structure of the object
store. -/
def Command.Input.otherStore : Command.Input :=
  let output : ShapeId := ⟨"com.amazonaws.s3", "GetObjectAttributesOutput", none⟩
  let i := small ({
      id := smallService
      traits := ({} : Traits).insert (.protocol .restXml)
      body := .service "1" [smallOperation] } ::
    { id := smallOperation, body := .operation none (some output) [] } :: record output [])
  { i with manifest.codegen.mode := .client }

theorem s3_leaves_otherStore_alone :
    Command.Input.otherStore.manifest.codegen.service ≠ Decorator.objectStore ∧
      (∃ c, Command.Input.otherStore.compile false = .ok c) ∧
      (Command.Input.otherStore.enabling (some ["sdk-config"])).generate false =
        Command.Input.otherStore.generate false := by
  have hother : Command.Input.otherStore.manifest.codegen.service ≠ Decorator.objectStore := by
    decide
  have hrun : ((Command.Input.pipeline ⟨Decorator.builtin⟩ false).run
      Command.Input.otherStore.project).toOption.isSome = true := by decide +kernel
  obtain ⟨c, hrun⟩ := exists_eq_ok_of_isSome hrun
  refine ⟨hother, ⟨_, Command.Input.compile_eq_ok DecoratorSet.select_none hrun⟩, ?_⟩
  exact ((s3_leaves_others_alone Command.Input.otherStore hother false).1 (some ["sdk-config"])
    (by decide)).2

end SdkForge
