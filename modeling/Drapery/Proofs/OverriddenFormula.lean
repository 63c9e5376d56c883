import Drapery.Proofs.BrokenFormula
import Drapery.Proofs.RuleOrder

/-!
# The formula that an override replaces

What a recomputation asks of the schema and of the stored overrides is the
formula in force for each cell.  Two schemas, or two stores of overrides, that
give every cell the same formula lead to the same row and to the same report, so
that the default behind an override is never seen.
-/

namespace Drapery

namespace Schema

def defaultFormula? (schema : Schema) (key : String) : Option String :=
  (schema.column? key).bind Column.defaultFormula?

theorem formula?_eq_or (schema : Schema) (row : Row) (key : String) :
    schema.formula? row key = (row.override? key).or (schema.defaultFormula? key) := rfl

theorem formula?_eq_of_override {schema other : Schema} {row : Row} {key : String}
    (hoverride : (row.override? key).isSome)
    (hothers : ∀ column ≠ key, other.defaultFormula? column = schema.defaultFormula? column)
    (column : String) : other.formula? row column = schema.formula? row column := by
  rw [formula?_eq_or, formula?_eq_or]
  by_cases hkey : column = key
  · obtain ⟨formula, hformula⟩ := Option.isSome_iff_exists.1 hoverride
    rw [hkey, hformula, Option.some_or, Option.some_or]
  · rw [hothers column hkey]

end Schema

namespace Row

variable {row : Row} {key : String}

theorem get?_withOverrides (row : Row) (overrides : Keyed String) (key : String) :
    (row.withOverrides overrides).get? key = row.get? key := rfl

theorem override?_clearOverride (hblank : row.override? key = none) (other : String) :
    (row.clearOverride key).override? other = row.override? other := by
  rw [override?, clearOverride, Keyed.get?_erase]
  split
  · rename_i hother
    rw [hother, hblank, Option.filter_none]
  · rfl

end Row

/-! ## The formula pass on other overrides -/

namespace Progress

variable (overrides : Keyed String) {params : Formula.Params}

def withOverrides (progress : Progress) : Progress :=
  { progress with row := progress.row.withOverrides overrides }

theorem row_withOverrides (progress : Progress) :
    (progress.withOverrides overrides).row = progress.row.withOverrides overrides := rfl

theorem failures_withOverrides (progress : Progress) :
    (progress.withOverrides overrides).failures = progress.failures := rfl

theorem fail_withOverrides (progress : Progress) (failure : Failure) :
    (progress.withOverrides overrides).fail failure =
      (progress.fail failure).withOverrides overrides := rfl

theorem foldl_fail_withOverrides (failures : List Failure) (progress : Progress) :
    failures.foldl fail (progress.withOverrides overrides) =
      (failures.foldl fail progress).withOverrides overrides :=
  List.foldl_hom _ (fail_withOverrides overrides)

theorem evaluate_withOverrides (formula : Formula) (progress : Progress) :
    formula.evaluate (progress.withOverrides overrides).row params =
      formula.evaluate progress.row params :=
  Formula.evaluate_congr params fun _ _ => rfl

theorem assign_withOverrides (key : String) (formula : Formula) (progress : Progress) :
    (progress.withOverrides overrides).assign params key formula =
      (progress.assign params key formula).withOverrides overrides := by
  rw [assign, assign, evaluate_withOverrides]
  cases formula.evaluate progress.row params with
  | ok value => rfl
  | error error => rfl

theorem assignMovement_withOverrides (key : String) (formula : Formula) (progress : Progress) :
    (progress.withOverrides overrides).assignMovement params key formula =
      progress.assignMovement params key formula := by
  rw [assignMovement, assignMovement, evaluate_withOverrides]
  rfl

theorem run_withOverrides (fields : List (String × Formula)) (progress : Progress) :
    (progress.withOverrides overrides).run params fields =
      (progress.run params fields).withOverrides overrides :=
  List.foldl_hom _ fun progress field => assign_withOverrides overrides field.1 field.2 progress

theorem sweep_withOverrides (fields : List (String × Formula)) (progress : Progress) :
    (progress.withOverrides overrides).sweep params fields =
      (progress.sweep params fields).map (withOverrides overrides) id := by
  rw [sweep, sweep]
  refine @List.foldl_hom _ _ _ (Prod.map (withOverrides overrides) id) _ _ _ (progress, 0) ?_
  rintro ⟨progress, largest⟩ ⟨key, formula⟩
  simp only [Prod.map, id, assign_withOverrides, assignMovement_withOverrides]

theorem settle_withOverrides (fields : List (String × Formula)) (maxChange : Float) (more : Nat)
    (progress : Progress) (change : Float) :
    settle params fields maxChange more (progress.withOverrides overrides) change =
      (settle params fields maxChange more progress change).map (withOverrides overrides) id := by
  induction more generalizing progress change with
  | zero => rfl
  | succ more ih =>
      rw [settle, settle]
      split
      · simp only [sweep_withOverrides, Prod.map, id, ih]
      · rfl

theorem iterate_withOverrides (context : Context) (cycle : List String)
    (blocked : List (String × Formula)) (progress : Progress) :
    (progress.withOverrides overrides).iterate context cycle blocked =
      (progress.iterate context cycle blocked).map (withOverrides overrides) id := by
  simp only [iterate, sweep_withOverrides, settle_withOverrides, Prod.map, id]

end Progress

/-! ## The rules on other overrides -/

theorem applyRules_withOverrides (context : Context) (overrides : Keyed String) (row : Row) :
    applyRules context (row.withOverrides overrides) =
      (applyRules context row).map (Row.withOverrides · overrides) id := by
  have hfabrics : (Rules.fabrics context.catalog (row.withOverrides overrides)).1 =
      (Rules.fabrics context.catalog row).1.withOverrides overrides :=
    (Rules.local_priceSlots (.refl _) context.catalog).withOverrides overrides row
  have hunresolved : (Rules.fabrics context.catalog (row.withOverrides overrides)).2 =
      (Rules.fabrics context.catalog row).2 :=
    Rules.dependsOn_unresolved (.refl _) context.catalog (row.withOverrides overrides) row
      fun key _ => row.get?_withOverrides overrides key
  have hresolved : ∀ row : Row, (Rules.mechanism context.catalog (row.withOverrides overrides)).2 =
      (Rules.mechanism context.catalog row).2 :=
    fun row => Rules.dependsOn_resolved context.catalog (row.withOverrides overrides) row
      fun key _ => row.get?_withOverrides overrides key
  have hrow : (applyRules context (row.withOverrides overrides)).1 =
      (applyRules context row).1.withOverrides overrides :=
    (local_applyRules context).withOverrides overrides row
  have hreport : (applyRules context (row.withOverrides overrides)).2 =
      (applyRules context row).2 := by
    simp only [applyRules, hfabrics, hunresolved, hresolved]
  rw [Prod.ext_iff, Prod.map_fst, Prod.map_snd]
  exact ⟨hrow, hreport⟩

/-! ## Two runs -/

/-- Another schema and other overrides that give every cell of a row the formula it had. -/
structure SameFormulas (schema : Schema) (row : Row) (other : Schema)
    (overrides : Keyed String) : Prop where
  keys : other.keys = schema.keys
  formula? : ∀ key, other.formula? (row.withOverrides overrides) key = schema.formula? row key

namespace SameFormulas

variable {schema other : Schema} {row : Row} {overrides : Keyed String}

theorem of_overrides_eq {later : Row} (h : SameFormulas schema row other overrides)
    (hlater : later.overrides = row.overrides) : SameFormulas schema later other overrides := by
  refine ⟨h.keys, fun key => ?_⟩
  rw [schema.formula?_congr hlater, ← h.formula? key]
  exact other.formula?_congr rfl key

theorem formulasInForce (h : SameFormulas schema row other overrides) :
    other.formulasInForce (row.withOverrides overrides) = schema.formulasInForce row := by
  simp only [Schema.formulasInForce, h.keys, h.formula?]
  rfl

variable (context : Context)

theorem formulaPass_eq (h : SameFormulas schema row other overrides) :
    formulaPass other context (row.withOverrides overrides) =
      (formulaPass schema context row).map (Progress.withOverrides overrides) id := by
  have hstart : (⟨row.withOverrides overrides, []⟩ : Progress) =
      Progress.withOverrides overrides ⟨row, []⟩ := rfl
  simp only [formulaPass, h.formulasInForce, hstart, Progress.foldl_fail_withOverrides,
    Progress.run_withOverrides, Progress.iterate_withOverrides]
  split
  · rfl
  · rfl

theorem reprice_eq (progress : Progress) (h : SameFormulas schema progress.row other overrides)
    (key : String) :
    reprice other context (progress.withOverrides overrides) key =
      (reprice schema context progress key).withOverrides overrides := by
  have hformula : other.formula? (progress.withOverrides overrides).row key =
      schema.formula? progress.row key := h.formula? key
  rw [reprice, reprice, hformula]
  cases schema.formula? progress.row key with
  | none => rfl
  | some source =>
      simp only
      cases Formula.parse source with
      | ok formula => exact Progress.assign_withOverrides overrides key formula progress
      | error error => rfl

theorem after_reprice (progress : Progress)
    (h : SameFormulas schema progress.row other overrides) (key : String) :
    SameFormulas schema (reprice schema context progress key).row other overrides := by
  refine h.of_overrides_eq ?_
  rw [reprice_eq_advance]
  exact (Row.agreeOff_refreshAll _ _).overrides

theorem finishRow_eq (h : SameFormulas schema row other overrides) (failures : List Failure) :
    finishRow other context ⟨row.withOverrides overrides, failures⟩ =
      (finishRow schema context ⟨row, failures⟩).withOverrides overrides := by
  have htravel : Product.isTravel (row.withOverrides overrides) = Product.isTravel row := rfl
  have hcommission : Product.isCommission (row.withOverrides overrides) =
      Product.isCommission row := rfl
  rw [finishRow, finishRow, htravel, hcommission]
  split
  · exact congrArg (Progress.mk · failures)
      (Rules.travel_withOverrides context.settings overrides row)
  · split
    · have hshared : SameFormulas schema (Rules.commission context.totalRevenue row) other
          overrides := h.of_overrides_eq rfl
      exact reprice_eq context ⟨Rules.commission context.totalRevenue row, failures⟩ hshared
        Field.unitPrice
    · have hlater := after_reprice context ⟨row, failures⟩ h Field.unitPrice
      have htotal := reprice_eq context _ hlater Field.totalPrice
      rw [← reprice_eq context ⟨row, failures⟩ h] at htotal
      exact htotal

theorem recompute_withOverrides (h : SameFormulas schema row other overrides) :
    recompute other context (row.withOverrides overrides) =
      ((recompute schema context row).1.withOverrides overrides,
        (recompute schema context row).2) := by
  have hruled : SameFormulas schema (ruledRow schema context row) other overrides :=
    h.of_overrides_eq (overrides_ruledRow schema context row)
  have hrow : ruledRow other context (row.withOverrides overrides) =
      (ruledRow schema context row).withOverrides overrides := by
    rw [ruledRow, h.formulaPass_eq context, Prod.map_fst, Progress.row_withOverrides,
      applyRules_withOverrides, Prod.map_fst, ruledRow]
  have hfinish : finishRow other context
      ⟨(ruledRow schema context row).withOverrides overrides,
        (formulaPass schema context row).1.failures⟩ =
      (finishRow schema context ⟨ruledRow schema context row,
        (formulaPass schema context row).1.failures⟩).withOverrides overrides :=
    hruled.finishRow_eq context _
  have hrules := applyRules_withOverrides context overrides (formulaPass schema context row).1.row
  rw [recompute_eq, recompute_eq, hrow, h.formulaPass_eq context]
  simp only [Prod.map_fst, Prod.map_snd, id, Progress.row_withOverrides,
    Progress.failures_withOverrides, hrules, hfinish]
  rfl

end SameFormulas

/-! ## Overrides and the defaults behind them -/

section

variable {row : Row} {key formula : String}

/-- An override stands in place of the default of its column, whatever this is, and one that is
blank counts for nothing. -/
theorem recompute_of_override (hstored : row.overrides.get? key = some formula) (schema : Schema)
    (context : Context) :
    (Text.isBlankText formula = false → ∀ other : Schema, other.keys = schema.keys →
        (∀ column ≠ key, other.defaultFormula? column = schema.defaultFormula? column) →
        recompute other context row = recompute schema context row) ∧
      (Text.isBlankText formula = true →
        recompute schema context (row.clearOverride key) =
          ((recompute schema context row).1.clearOverride key,
            (recompute schema context row).2)) := by
  constructor
  · intro hblank other hkeys hothers
    have hoverride : (row.override? key).isSome := by simp [Row.override?, hstored, hblank]
    have hsame : SameFormulas schema row other row.overrides :=
      ⟨hkeys, Schema.formula?_eq_of_override hoverride hothers⟩
    have hboth := hsame.recompute_withOverrides context
    rw [row.withOverrides_self] at hboth
    rw [hboth, ← overrides_recompute schema context row, Row.withOverrides_self]
  · intro hblank
    have hoverride : row.override? key = none := by simp [Row.override?, hstored, hblank]
    have hsame : SameFormulas schema row schema (row.overrides.erase key) := by
      refine ⟨rfl, fun column => ?_⟩
      rw [Schema.formula?_eq_or, Schema.formula?_eq_or]
      exact congrArg (Option.or · _) (Row.override?_clearOverride hoverride column)
    have hcleared : (recompute schema context row).1.clearOverride key =
        (recompute schema context row).1.withOverrides (row.overrides.erase key) := by
      rw [Row.clearOverride, overrides_recompute, Row.withOverrides]
    rw [hcleared]
    exact hsame.recompute_withOverrides context

end

def doubledGrid (unitPrice : Option String) : Schema where
  name := "grid"
  columns := [
    { key := Field.totalPrice, formula := some "\x7bprix_unitaire\x7d * 2" },
    { key := Field.unitPrice, formula := unitPrice },
    { key := "taux", formula := some "3" }]

def quotedRow : Row where
  id := "r"
  overrides := .ofList [(Field.unitPrice, "\x7btaux\x7d + 1"), ("taux", " ")]

theorem recompute_of_override_quotedRow :
    (recompute (doubledGrid (some "\x7bprix_total\x7d")) {} { id := "r" }).2.cycle.isSome ∧
      (recompute (doubledGrid (some "2 *")) {} { id := "r" }).2.failures.map (·.field) =
        [Field.unitPrice] ∧
      recompute (doubledGrid (some "\x7bprix_total\x7d")) {} quotedRow =
        recompute (doubledGrid none) {} quotedRow ∧
      recompute (doubledGrid (some "2 *")) {} quotedRow =
        recompute (doubledGrid none) {} quotedRow ∧
      (recompute (doubledGrid none) {} (quotedRow.clearOverride "taux")).2 =
        (recompute (doubledGrid none) {} quotedRow).2 := by
  have hunit : quotedRow.overrides.get? Field.unitPrice = some "\x7btaux\x7d + 1" := by
    decide +kernel
  have hrate : quotedRow.overrides.get? "taux" = some " " := by decide +kernel
  have hothers : ∀ formula, ∀ column ≠ Field.unitPrice,
      (doubledGrid formula).defaultFormula? column = (doubledGrid none).defaultFormula? column := by
    intro formula column hcolumn
    have hbehind : (Field.unitPrice == column) = false := by simpa using hcolumn.symm
    simp [Schema.defaultFormula?, Schema.column?, doubledGrid, List.find?_cons, hbehind]
  have hblank := (recompute_of_override hrate (doubledGrid none) {}).2 (by decide)
  refine ⟨by decide +kernel, by decide +kernel, ?_, ?_, ?_⟩
  · exact (recompute_of_override hunit (doubledGrid none) {}).1 (by decide) _ rfl (hothers _)
  · exact (recompute_of_override hunit (doubledGrid none) {}).1 (by decide) _ rfl (hothers _)
  · rw [hblank]

end Drapery
