import SdkForge.Proofs.Pipeline

/-!
# A run follows its schedule

Whatever plugins and phases do, a run makes the calls of its schedule in their order, and ends right
after the first one that fails.

* `Succeeds` says that no call of a list fails, and `RunOf` how a run goes through a list of calls.
* `runOf_perform` says that every list of calls is gone through in this way.
* `validate_fails_iff` says when validation fails, and `transform_body_of_fails` that a
  transformation that fails changes nothing.
* `run_follows_schedule` says for a pipeline which calls it makes, when it is finished, and that
  nothing comes after an error.
-/

namespace SdkForge

namespace Pipeline

variable {c : Compilation} {call : Call × Action} {calls : List (Call × Action)} {made : Trace}

/-! ## Calls -/

/-- What calls make of a run, one after the other. -/
def reached (c : Compilation) (calls : List (Call × Action)) : Compilation :=
  calls.foldl (fun c call => (call.2 c).1) c

/-- No call fails on what those before it make of the run. -/
def Succeeds (c : Compilation) (calls : List (Call × Action)) : Prop :=
  ∀ before call after, calls = before ++ call :: after → (call.2 (reached c before)).2 = none

/-- How a run goes through calls: it makes all of them, or ends after the first one that fails. -/
inductive RunOf (c : Compilation) (calls : List (Call × Action)) : Trace → Prop where
  | finished (hall : Succeeds c calls) : RunOf c calls (calls.map (·.1), .ok (reached c calls))
  | failed (before : List (Call × Action)) (call : Call × Action) (after : List (Call × Action))
      {fault : Fault} (hsplit : calls = before ++ call :: after) (hbefore : Succeeds c before)
      (hfailed : (call.2 (reached c before)).2 = some fault) :
      RunOf c calls ((before ++ [call]).map (·.1), .error fault)

lemma succeeds_nil : Succeeds c [] := by
  intro before call after h
  simp at h

lemma succeeds_cons (hcall : (call.2 c).2 = none) (h : Succeeds (call.2 c).1 calls) :
    Succeeds c (call :: calls) := by
  intro before other after hsplit
  cases before with
  | nil =>
    rw [← (List.cons.inj hsplit).1]
    exact hcall
  | cons first before =>
    obtain ⟨rfl, hrest⟩ := List.cons.inj hsplit
    exact h before other after hrest

lemma Succeeds.of_append {more : List (Call × Action)} (h : Succeeds c (calls ++ more)) :
    Succeeds c calls := by
  intro before call after hsplit
  refine h before call (after ++ more) ?_
  rw [hsplit, List.append_assoc, List.cons_append]

/-- One more call before all others. -/
lemma RunOf.cons (call : Call × Action) (hcall : (call.2 c).2 = none)
    (h : RunOf (call.2 c).1 calls made) :
    RunOf c (call :: calls) (call.1 :: made.1, made.2) := by
  cases h with
  | finished hall => exact .finished (succeeds_cons hcall hall)
  | failed before other after hsplit hbefore hfailed =>
    refine .failed (call :: before) other after ?_ (succeeds_cons hcall hbefore) hfailed
    rw [hsplit, List.cons_append]

/-- Every list of calls is gone through in this way. -/
theorem runOf_perform (c : Compilation) (calls : List (Call × Action)) :
    RunOf c calls (perform c calls) := by
  induction calls generalizing c with
  | nil => exact .finished succeeds_nil
  | cons call rest ih =>
    obtain ⟨who, action⟩ := call
    rw [perform]
    cases haction : action c with
    | mk next failed =>
      cases failed with
      | some fault =>
        exact .failed [] (who, action) rest rfl succeeds_nil (congrArg Prod.snd haction)
      | none =>
        have hnext : (action c).1 = next := congrArg Prod.fst haction
        have hrest : RunOf (action c).1 rest (perform next rest) := hnext ▸ ih next
        exact hrest.cons (who, action) (congrArg Prod.snd haction)

/-- The calls made are the first ones. -/
lemma RunOf.made_first (h : RunOf c calls made) : made.1 <+: calls.map (·.1) := by
  cases h with
  | finished _ => exact List.prefix_rfl
  | failed before call after hsplit _ _ =>
    exact ⟨after.map (·.1), by simp [hsplit]⟩

/-- A run is finished exactly if no call fails. -/
lemma RunOf.exists_ok_iff (h : RunOf c calls made) :
    (∃ c', made.2 = .ok c') ↔ Succeeds c calls := by
  cases h with
  | finished hall => exact ⟨fun _ => hall, fun _ => ⟨_, rfl⟩⟩
  | failed before call after hsplit _ hfailed =>
    constructor
    · rintro ⟨c', hok⟩
      contradiction
    · intro hall
      rw [hall before call after hsplit] at hfailed
      contradiction

/-- After a call that fails, no further call is made. -/
lemma perform_append_of_not_succeeds (hfails : ¬Succeeds c calls) (more : List (Call × Action)) :
    perform c (calls ++ more) = perform c calls := by
  have hrun := runOf_perform c calls
  rw [perform_append]
  cases hperform : perform c calls with
  | mk who result =>
    cases result with
    | error fault => rfl
    | ok c' =>
      rw [hperform] at hrun
      exact absurd (hrun.exists_ok_iff.1 ⟨c', rfl⟩) hfails

end Pipeline

/-! ## Phases -/

namespace Phase

variable {c : Compilation}

/-- Validation fails exactly if an error has been told before it or is found by a lint. -/
lemma validate_fails_iff (lints : List Lint) : ((validate lints).body c).2 ≠ none ↔
    ∃ found ∈ c.diagnostics ++ lints.flatMap fun lint => lint.check c.project,
    found.isError = true := by
  have hfound : ((validate lints).body c).1.errors =
      (c.diagnostics ++ lints.flatMap fun lint => lint.check c.project).filter (·.isError) := rfl
  rw [ne_eq, validate_eq_none_iff, hfound, List.filter_eq_nil_iff]
  simp

/-- A transformation that fails changes nothing. -/
lemma transform_body_of_fails (d : DecoratorSet) (hfails : ((transform d).body c).2 ≠ none) :
    ((transform d).body c).1 = c := by
  simp only [transform, Action.ofExcept] at hfails ⊢
  split
  · next hok =>
    rw [hok] at hfails
    contradiction
  · rfl

end Phase

/-! ## Pipelines -/

namespace Pipeline

/-- The calls up to and with validation. -/
def untilValidated (p : Pipeline) : List (Call × Action) :=
  callsFor p.plugins (.transform p.decorators) ++
    (p.plugins.map fun plugin => (.before plugin.name Lint.phase, plugin.before Lint.phase)) ++
    [(.body Lint.phase, (Phase.validate p.lints).body)]

/-- The calls after validation. -/
def afterValidated (p : Pipeline) : List (Call × Action) :=
  (p.plugins.map fun plugin => (.after plugin.name Lint.phase, plugin.after Lint.phase)) ++
    p.further.flatMap (callsFor p.plugins)

lemma schedule_eq_append (p : Pipeline) : p.schedule = p.untilValidated ++ p.afterValidated := by
  simp [schedule, phases, untilValidated, afterValidated, callsFor, Phase.validate]

/-- If an error has been told, validation has failed, or a call before it. -/
lemma not_succeeds_untilValidated {p : Pipeline} {c : Compilation} {found : Diagnostic}
    (hmem : found ∈ (reached c p.untilValidated).diagnostics) (herror : found.isError = true) :
    ¬Succeeds c p.untilValidated := by
  intro hall
  -- the last of these calls looks at all that has been told
  have hvalidate := hall _ _ [] rfl
  rw [Phase.validate_eq_none_iff, Compilation.errors, List.filter_eq_nil_iff] at hvalidate
  refine hvalidate found ?_ herror
  rwa [reached, untilValidated, List.foldl_append] at hmem

/-- A run makes all calls of its schedule, or ends right after the first one that fails. It is
finished exactly if none does. Validation fails exactly if an error has been told, and no later call
is made then; a transformation that fails changes nothing. -/
theorem run_follows_schedule (p : Pipeline) (project : Project) :
    RunOf { project } p.schedule (p.trace project) ∧
    (p.trace project).1 <+: p.schedule.map (·.1) ∧
    ((∃ c, p.run project = .ok c) ↔ Succeeds { project } p.schedule) ∧
    (∀ c, ((Phase.validate p.lints).body c).2 ≠ none ↔
      ∃ found ∈ c.diagnostics ++ p.lints.flatMap fun lint => lint.check c.project,
      found.isError = true) ∧
    ((∃ found ∈ (reached { project } p.untilValidated).diagnostics, found.isError = true) →
      (p.trace project).1 <+: p.untilValidated.map (·.1)) ∧
    ∀ c, ((Phase.transform p.decorators).body c).2 ≠ none →
      ((Phase.transform p.decorators).body c).1 = c := by
  have hrun : RunOf { project } p.schedule (p.trace project) := by
    rw [trace_eq_perform]
    exact runOf_perform _ _
  refine ⟨hrun, hrun.made_first, hrun.exists_ok_iff, fun c => Phase.validate_fails_iff p.lints, ?_,
    fun c => Phase.transform_body_of_fails p.decorators⟩
  rintro ⟨found, hmem, herror⟩
  -- one of the calls up to validation fails, so that the run is over with them
  rw [trace_eq_perform, schedule_eq_append,
    perform_append_of_not_succeeds (not_succeeds_untilValidated hmem herror)]
  exact (runOf_perform _ _).made_first

/-! ## An alarm -/

/-- A plugin that tells of an error before validation. -/
def alarm : Plugin where
  name := "alarm"
  before phase c :=
    (if phase = Lint.phase then c.report [{ severity := .error, phase, message := "stop" }]
      else c, none)

/-- The usual phases without lints, and the plugin. -/
def alarmed : Pipeline := { standard {} with lints := [], plugins := [alarm] }

/-- Nothing is called after validation then, and a model without the service stays as it is. -/
theorem run_follows_schedule_of_alarm :
    let project := (Command.Input.small Command.Input.idleService).project
    (alarmed.trace project).1 <+: [.before "alarm" "transform", .body "transform",
      .after "alarm" "transform", .before "alarm" "validate", .body "validate"] ∧
    (¬∃ c, alarmed.run project = .ok c) ∧
    ((Phase.transform alarmed.decorators).body { project := { project with model := {} } }).2 ≠
      none ∧
    ((Phase.transform alarmed.decorators).body
      { project := { project with model := {} } }).1.project.model = {} := by
  intro project
  obtain ⟨htold, hfails⟩ :
      ((reached { project } alarmed.untilValidated).diagnostics.any (·.isError)) = true ∧
      ((Phase.transform alarmed.decorators).body
        { project := { project with model := {} } }).2.isSome = true := by
    decide +kernel
  obtain ⟨_, _, hok, _, hends, hkept⟩ := run_follows_schedule alarmed project
  obtain ⟨found, hmem, herror⟩ := List.any_eq_true.1 htold
  refine ⟨hends ⟨found, hmem, herror⟩, fun hfinished => ?_, Option.isSome_iff_ne_none.1 hfails, ?_⟩
  · have hall := hok.1 hfinished
    rw [schedule_eq_append] at hall
    exact not_succeeds_untilValidated hmem herror hall.of_append
  · rw [hkept _ (Option.isSome_iff_ne_none.1 hfails)]

end Pipeline

end SdkForge
