import SdkForge.Command.Report
import SdkForge.Proofs.Pipeline

/-!
# Checking and generating agree

Checking a model goes through the phases of a run by itself, so that what the lints find does not
end it. It comes to the same verdict as the run.

* `Command.Input.tellResolve_iff` says when the last phase leaves no error behind.
* `Command.Input.check_eq_ok_iff` takes checking apart.
* `Command.Input.check_agrees_with_compile` says that a check without errors is a finished run, down
  to its warnings.
-/

namespace SdkForge

open Outcome

/-! ## Phases -/

namespace Phase

variable {d : DecoratorSet} {c c' : Compilation} {fault : Fault}

/-- The first phase fails with what keeps the model from being transformed. -/
lemma transform_eq_some_iff :
    ((transform d).body c).2 = some fault ↔ transformModel d c.project = .error fault := by
  cases hmodel : transformModel d c.project with
  | ok model => simp [transform, Action.ofExcept, hmodel, bind, Except.bind, pure, Except.pure]
  | error cause => simp [transform, Action.ofExcept, hmodel, bind, Except.bind]

lemma transform_eq_none_iff :
    (transform d).body c = (c', none) ↔
      ∃ model, transformModel d c.project = .ok model ∧ c' = { c with project.model := model } := by
  constructor
  · exact transform_eq_ok
  · rintro ⟨model, hmodel, rfl⟩
    simp [transform, Action.ofExcept, hmodel, bind, Except.bind, pure, Except.pure]

/-- A choice by whether the lints let a run pass is one by whether an error is told. -/
lemma ite_validate {α : Type} (lints : List Lint) (stopped passed : α) :
    (if ((validate lints).body c).2.isSome then stopped else passed) =
      if ((validate lints).body c).1.errors = [] then passed else stopped := by
  simp only [← validate_eq_none_iff]
  cases ((validate lints).body c).2 <;> simp

/-- Resolving symbols adds nothing to tell. -/
lemma diagnostics_of_resolve (h : (resolve d).body c = (c', none)) :
    c'.diagnostics = c.diagnostics := by
  simp only [resolve] at h
  have hbody := of_ofExcept h
  simp only [bind_eq_ok, pure_eq_ok] at hbody
  obtain ⟨_, _, rfl⟩ := hbody
  rfl

end Phase

/-! ## Checking -/

namespace Command.Input

variable {i : Input} {d : DecoratorSet} {c c' : Compilation}

/-- An error that is told once the symbols cannot be resolved stays. -/
lemma tellResolve_iff (hclean : c.errors = []) :
    tellResolve d c = c' ∧ c'.errors = [] ↔ (Phase.resolve d).body c = (c', none) := by
  cases hbody : (Phase.resolve d).body c with
  | mk next failed =>
    cases failed with
    | none =>
      have hsame : tellResolve d c = next := by
        rw [tellResolve, hbody]
      have hnext : next.errors = [] := by
        rw [Compilation.errors, Phase.diagnostics_of_resolve hbody]
        exact hclean
      rw [hsame, Prod.mk.injEq]
      constructor
      · rintro ⟨rfl, -⟩
        exact ⟨rfl, rfl⟩
      · rintro ⟨rfl, -⟩
        exact ⟨rfl, hnext⟩
    | some fault =>
      -- the run stays as it was, but for the error, of which there was none before
      have hunchanged : next = c := by
        simp only [Phase.resolve, Action.ofExcept] at hbody
        split at hbody
        · simp at hbody
        · exact (Prod.mk.inj hbody).1.symm
      have htold : (tellResolve d c).errors ≠ [] := by
        rw [tellResolve, hbody, hunchanged]
        simp [Compilation.errors, Compilation.report, Diagnostic.isError]
      constructor
      · rintro ⟨rfl, herrors⟩
        exact absurd herrors htold
      · intro h
        simp at h

/-- Checking transforms the model, looks at it with the lints, and resolves the symbols where the
lints find no error. -/
lemma check_eq_ok_iff (hselect : i.decorators = .ok d) :
    i.check = .ok c ↔ ∃ adapted checked, (Phase.transform d).body { project := i.project } =
      (adapted, none) ∧
      ((Phase.validate Lint.all).body adapted).1 = checked ∧
        (if checked.errors = [] then tellResolve d checked else checked) = c := by
  cases hmodel : Phase.transformModel d i.project with
  | error fault =>
    have hcheck : i.check = .error fault := by
      simp [check, hselect, bind, Except.bind, hmodel]
    have hfail :
        ∀ adapted, (Phase.transform d).body { project := i.project } ≠ (adapted, none) := by
      intro adapted h
      obtain ⟨model, hok, _⟩ := Phase.transform_eq_none_iff.1 h
      rw [hmodel] at hok
      contradiction
    simp [hcheck, hfail]
  | ok model =>
    have hadapted : (Phase.transform d).body { project := i.project } =
        ({ project := { i.project with model } }, none) :=
      Phase.transform_eq_none_iff.2 ⟨model, hmodel, rfl⟩
    have hcheck :
        i.check =
          .ok
            (if ((Phase.validate Lint.all).body { project := { i.project with model } }).1.errors =
              [] then
                tellResolve d ((Phase.validate Lint.all).body
                  { project := { i.project with model } }).1
        else ((Phase.validate Lint.all).body { project := { i.project with model } }).1) := by
      rw [← Phase.ite_validate, check, hselect]
      show (Phase.transformModel d i.project >>= _) = _
      rw [hmodel]
      rfl
    rw [hcheck, Except.ok.injEq]
    constructor
    · intro h
      exact ⟨_, _, hadapted, rfl, h⟩
    · rintro ⟨adapted, checked, htransform, rfl, h⟩
      obtain rfl := (Prod.mk.inj (hadapted.symm.trans htransform)).1
      exact h

/-- Checking fails exactly if the model cannot be transformed. -/
lemma check_eq_error_iff (hselect : i.decorators = .ok d) {fault : Fault} :
    i.check = .error fault ↔ Phase.transformModel d i.project = .error fault := by
  rw [check, hselect]
  cases hmodel : Phase.transformModel d i.project <;>
    simp [bind, Except.bind, pure, Except.pure, hmodel]

lemma compile_eq_ok_iff (hselect : i.decorators = .ok d) :
    i.compile false = .ok (d, c) ↔ (Pipeline.standard d).run i.project = .ok c := by
  simp only [compile, hselect, bind_eq_ok, pure_eq_ok, Except.ok.injEq, exists_eq_left',
    Prod.mk.injEq]
  constructor
  · rintro ⟨_, hrun, -, rfl⟩
    exact hrun
  · intro hrun
    exact ⟨c, hrun, trivial, rfl⟩

/-- A check that tells no error ends where the run ends. -/
theorem check_without_errors_iff (hselect : i.decorators = .ok d) :
    i.check = .ok c ∧ c.errors = [] ↔ i.compile false = .ok (d, c) := by
  rw [check_eq_ok_iff hselect, compile_eq_ok_iff hselect, Pipeline.run_standard_eq_ok_iff]
  constructor
  · rintro ⟨⟨adapted, checked, hadapted, hchecked, hlast⟩, herrors⟩
    -- errors of the lints would still be there
    have hclean : checked.errors = [] := by
      by_contra hfound
      rw [if_neg hfound] at hlast
      exact hfound (hlast ▸ herrors)
    rw [if_pos hclean] at hlast
    refine ⟨adapted, checked, hadapted, ?_, (tellResolve_iff hclean).1 ⟨hlast, herrors⟩⟩
    rw [← hchecked] at hclean
    exact Prod.ext hchecked ((Phase.validate_eq_none_iff _).2 hclean)
  · rintro ⟨adapted, checked, hadapted, hchecked, hresolve⟩
    have hclean : checked.errors = [] := by
      have hnone := (Phase.validate_eq_none_iff (c := adapted) Lint.all).1 (by rw [hchecked])
      rwa [hchecked] at hnone
    obtain ⟨htold, herrors⟩ := (tellResolve_iff hclean).2 hresolve
    exact ⟨⟨adapted, checked, hadapted, by rw [hchecked], by rw [if_pos hclean, htold]⟩, herrors⟩

/-- Where no error is told, the report on a check complains of the warnings only. -/
lemma complaints_check (path : String) (hclean : c.errors = []) :
    (Report.check path c).complaints = Report.tell .warning c.diagnostics := by
  have herrors : Report.tell .error c.diagnostics = [] := by
    rw [Report.tell, List.map_eq_nil_iff]
    exact hclean
  show Report.tell .error c.diagnostics ++ Report.tell .warning c.diagnostics = _
  rw [herrors, List.nil_append]

/-- With decorators of known names, a check tells no error exactly if the run is finished, and fails
exactly if the first phase of the run does, for the same reason. A check and a finished run have the
same to tell, and the reports on both complain of the same warnings in the same order. -/
theorem check_agrees_with_compile
    (hknown : ∀ names ∈ i.manifest.decorators, ∀ name ∈ names, name ∈ Decorator.builtinNames) :
    ∃ d, i.decorators = .ok d ∧
      ((∃ c, i.check = .ok c ∧ c.errors = []) ↔ ∃ c, i.compile false = .ok (d, c)) ∧
      (∀ fault, i.check = .error fault ↔
        ((Phase.transform d).body { project := i.project }).2 = some fault) ∧
      ∀ c c', i.check = .ok c → i.compile false = .ok (d, c') → c.warnings = c'.warnings ∧
        ∀ path, (∀ files, (Report.check path c).complaints = (Report.shown c' files).complaints) ∧
          ∀ directory operations log,
            (Report.check path c).complaints =
              (Report.written directory c' operations log).complaints := by
  obtain ⟨d, hselect⟩ := DecoratorSet.exists_select hknown
  refine ⟨d, hselect, exists_congr fun c => check_without_errors_iff hselect, fun fault => ?_,
    fun c c' hcheck hcompile => ?_⟩
  · rw [check_eq_error_iff hselect, Phase.transform_eq_some_iff]
  · obtain ⟨hcheck', hclean⟩ := (check_without_errors_iff hselect).2 hcompile
    obtain rfl := Except.ok.inj (hcheck.symm.trans hcheck')
    have hcomplaints := fun path => complaints_check path hclean
    exact ⟨rfl, fun path => ⟨fun files => hcomplaints path, fun directory operations log =>
      hcomplaints path⟩⟩

/-- The input for a server of a service without operations, with one decorator. -/
def idle : Input := { small idleService with manifest.decorators := some ["s3"] }

/-- A service without operations is worth a warning, and no more: the check and the run both tell
it. -/
theorem check_agrees_with_compile_of_idle :
    (∀ names ∈ idle.manifest.decorators, ∀ name ∈ names, name ∈ Decorator.builtinNames) ∧
      ∃ d c c', idle.check = .ok c ∧ idle.compile false = .ok (d, c') ∧ c.warnings ≠ [] ∧
        c.warnings = c'.warnings := by
  have hknown : ∀ names ∈ idle.manifest.decorators, ∀ name ∈ names,
      name ∈ Decorator.builtinNames := by
    decide
  have hchecked : (idle.check.toOption.any fun c => c.errors.isEmpty && !c.warnings.isEmpty) =
      true := by
    decide +kernel
  obtain ⟨d, -, hvalid, -, hsame⟩ := check_agrees_with_compile hknown
  rw [Option.any_eq_true] at hchecked
  obtain ⟨c, hcheck, hfound⟩ := hchecked
  have hcheck : idle.check = .ok c := toOption_eq_some.1 hcheck
  rw [Bool.and_eq_true, List.isEmpty_iff, Bool.not_eq_true', List.isEmpty_eq_false_iff] at hfound
  obtain ⟨c', hcompile⟩ := hvalid.1 ⟨c, hcheck, hfound.1⟩
  exact ⟨hknown, d, c, c', hcheck, hcompile, hfound.2, (hsame c c' hcheck hcompile).1⟩

end Command.Input

end SdkForge
