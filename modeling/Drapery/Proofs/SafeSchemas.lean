import Drapery.Proofs.EvaluationErrors
import Drapery.Proofs.FailureReport
import Drapery.Schema.BuiltIn

/-!
# Schemas whose rows never fail

A row whose formulas are all safe is recomputed without a failure, whatever cells
it has.  The formulas of the workshop's own grids are safe: they read cells through
braces, and call functions with as many arguments as they take.
-/

namespace Drapery

namespace Formula

def SafeText (source : String) : Prop :=
  ∃ formula ∈ (parse source).toOption, formula.expr.IsSafe

instance (source : String) : Decidable (SafeText source) :=
  inferInstanceAs (Decidable (∃ formula ∈ (parse source).toOption, _))

theorem evaluateText_ne_error {source : String} (h : SafeText source) (row : Row)
    (params : Params) (error : FormulaError) : evaluateText source row params ≠ .error error := by
  obtain ⟨formula, hformula, hsafe⟩ := h
  have hparse : parse source = .ok formula := by
    cases hresult : parse source with
    | error fault =>
        rw [hresult] at hformula
        cases hformula
    | ok found =>
        rw [hresult] at hformula
        cases hformula
        rfl
  rw [evaluateText_of_parse hparse]
  intro herror
  have hblamed := formula.failsOnly_evaluate row params error herror
  exact hsafe.not_blames row error hblamed

end Formula

section

variable {schema : Schema} {row : Row}

theorem failures_recompute_eq_nil (context : Context)
    (hsafe : ∀ key source, schema.formula? row key = some source → Formula.SafeText source) :
    (recompute schema context row).2.failures = [] := by
  rw [List.eq_nil_iff_forall_not_mem]
  intro failure hfailure
  obtain ⟨evaluation, hmem, hfailed, -⟩ :=
    Evaluation.exists_of_firstFailure? (mem_failures_recompute.1 hfailure)
  have hresult := (Evaluation.failure?_eq_some_iff.1 hfailed).2
  have hsource := hsafe _ _ (formula?_of_mem_evaluations hmem)
  exact Formula.evaluateText_ne_error hsource evaluation.row context.params _ hresult

namespace Schema

def builtIns : List Schema := [curtains, blinds, bedCovers, other, travel]

theorem safeText_of_mem_builtIns :
    ∀ source ∈ (builtIns.flatMap fun schema => schema.columns.filterMap (·.formula)).eraseDups,
      Formula.SafeText source := by
  decide +kernel

end Schema

/-- The overrides of the row are all it takes for a failure in a grid of the workshop. -/
theorem failures_recompute_builtIn (context : Context) (hschema : schema ∈ Schema.builtIns)
    (hoverrides : ∀ key source, row.override? key = some source → Formula.SafeText source) :
    (recompute schema context row).2.failures = [] := by
  refine failures_recompute_eq_nil context fun key source hsource => ?_
  rw [Schema.formula?, Option.or_eq_some_iff] at hsource
  rcases hsource with hoverride | ⟨-, hdefault⟩
  · exact hoverrides key source hoverride
  · obtain ⟨column, hcolumn, hformula⟩ := Option.bind_eq_some_iff.1 hdefault
    refine Schema.safeText_of_mem_builtIns source (List.mem_eraseDups.2 ?_)
    exact List.mem_flatMap.2 ⟨schema, hschema, List.mem_filterMap.2
      ⟨column, List.mem_of_find?_eq_some hcolumn, (Option.filter_eq_some_iff.1 hformula).1⟩⟩

end

end Drapery
