import Drapery.Proofs.Analysis
import Drapery.Proofs.EvaluationErrors
import Drapery.Proofs.FailureReport

/-!
# What the analysis of a schema promises its rows

On a row without overrides the formulas in force are default formulas, fewer of
them where the yardage is typed by hand.  All of them were read by the analysis,
and evaluation never finds fault with a formula that was read.  Where none is
left out, the row has the plan of the analysis and so the same cycle.
-/

namespace Drapery

/-! ## Failures of formulas that were read -/

namespace Formula

def TextFaultless {α : Type} (result : Except FormulaError α) : Prop :=
  ∀ source fault, result ≠ .error (.malformed source fault)

theorem textFaultless_evaluateText {source : String} {formula : Formula}
    (hparse : parse source = .ok formula) (row : Row) (params : Params) :
    TextFaultless (evaluateText source row params) := by
  rw [evaluateText_of_parse hparse]
  intro text fault herror
  obtain ⟨part, -, hflaw⟩ := formula.failsOnly_evaluate row params _ herror
  cases hflaw

end Formula

/-! ## The formulas of an analyzed schema -/

theorem exists_of_filterMapM_eq_ok {ε α β : Type} {f : α → Except ε (Option β)}
    {entries : List α} {found : List β} (h : entries.filterMapM f = .ok found) :
    ∀ entry ∈ entries, ∃ result, f entry = .ok result := by
  induction entries generalizing found with
  | nil =>
      intro entry hentry
      cases hentry
  | cons first rest ih =>
      rw [List.filterMapM_cons] at h
      obtain ⟨result, hfirst, hnext⟩ := Except.exists_of_bind_eq_ok h
      rw [List.forall_mem_cons]
      refine ⟨⟨result, hfirst⟩, ?_⟩
      cases result with
      | none => exact ih hnext
      | some value =>
          obtain ⟨others, hothers, -⟩ := Except.exists_of_bind_eq_ok hnext
          exact ih hothers

theorem exists_of_filterMapM_eq_error {ε α β : Type} {f : α → Except ε (Option β)}
    {entries : List α} {error : ε} (h : entries.filterMapM f = .error error) :
    ∃ entry ∈ entries, f entry = .error error := by
  induction entries with
  | nil => cases h
  | cons first rest ih =>
      rw [List.filterMapM_cons] at h
      cases hfirst : f first with
      | error cause =>
          rw [hfirst] at h
          cases h
          exact ⟨first, List.mem_cons_self, hfirst⟩
      | ok result =>
          have hrest : rest.filterMapM f = .error error := by
            rw [hfirst] at h
            cases result with
            | none => exact h
            | some value =>
                cases hothers : rest.filterMapM f with
                | error cause =>
                    rw [hothers] at h
                    cases h
                    rfl
                | ok others =>
                    rw [hothers] at h
                    cases h
          obtain ⟨entry, hentry, heq⟩ := ih hrest
          exact ⟨entry, List.mem_cons_of_mem _ hentry, heq⟩

namespace Schema

variable {schema : Schema} {row : Row} {fields : List (String × Formula)}

theorem parse_of_defaultFormulas (hfields : schema.defaultFormulas = .ok fields)
    {column : Column} (hcolumn : column ∈ schema.columns) {source : String}
    (hsource : column.defaultFormula? = some source) :
    ∃ formula, Formula.parse source = .ok formula := by
  obtain ⟨result, hresult⟩ := exists_of_filterMapM_eq_ok hfields column hcolumn
  cases hparse : Formula.parse source with
  | ok formula => exact ⟨formula, rfl⟩
  | error error => simp [hsource, hparse] at hresult

theorem defaultFormulas_of_analyze_eq_cycle {cycle : List String}
    (h : schema.analyze = .error (.cycle cycle)) :
    ∃ fields, schema.defaultFormulas = .ok fields ∧ (Plan.build fields).isAcyclic = false ∧
      (Plan.build fields).cycle = cycle := by
  cases hfields : schema.defaultFormulas with
  | error error =>
      obtain ⟨column, -, hcolumn⟩ := exists_of_filterMapM_eq_error hfields
      rw [analyze, hfields] at h
      cases h
      split at hcolumn
      · cases hcolumn
      · split at hcolumn <;> cases hcolumn
  | ok fields =>
      refine ⟨fields, rfl, ?_⟩
      rw [analyze, hfields] at h
      cases hacyclic : (Plan.build fields).isAcyclic with
      | true => simp [hacyclic, bind, Except.bind] at h
      | false => simpa [hacyclic, bind, Except.bind] using h

theorem column?_of_mem (hkeys : schema.keys.Nodup) {column : Column}
    (hcolumn : column ∈ schema.columns) : schema.column? column.key = some column :=
  find?_key_of_mem hkeys hcolumn

theorem formula?_of_mem_columns (hkeys : schema.keys.Nodup)
    (hoverrides : ∀ key, row.override? key = none) {column : Column}
    (hcolumn : column ∈ schema.columns) :
    schema.formula? row column.key = column.defaultFormula? := by
  rw [formula?, hoverrides, Option.none_or, column?_of_mem hkeys hcolumn, Option.bind_some]

theorem readable_eq_defaultFormulas (hkeys : schema.keys.Nodup)
    (hoverrides : ∀ key, row.override? key = none)
    (hcomputed : Product.hasManualYardage (row.text Field.product) = false)
    (hfields : schema.defaultFormulas = .ok fields) :
    readable (schema.formulasInForce row) = fields := by
  have hforce : schema.formulasInForce row =
      schema.columns.filterMap fun column => column.defaultFormula?.map (column.key, ·) := by
    simp only [formulasInForce, hcomputed, Bool.false_eq_true, if_false, List.contains_nil,
      Bool.not_false, List.filter_true, keys, List.filterMap_map]
    refine List.filterMap_congr fun column hcolumn => ?_
    simp only [Function.comp, formula?_of_mem_columns hkeys hoverrides hcolumn]
  rw [readable, hforce, List.filterMap_filterMap, eq_filterMap_of_filterMapM hfields]
  refine List.filterMap_congr fun column hcolumn => ?_
  cases hsource : column.defaultFormula? with
  | none => simp [Except.toOption]
  | some source => cases hparse : Formula.parse source <;> simp [hparse, Except.toOption]

end Schema

/-! ## Recomputing the rows of an analyzed schema -/

section

variable {schema : Schema} {context : Context} {row : Row}

theorem cycle_recompute_of_isAcyclic
    (hacyclic : (Plan.build (readable (schema.formulasInForce row))).isAcyclic) :
    (recompute schema context row).2.cycle = none := by
  rw [recompute_eq, formulaPass]
  simp only [if_pos hacyclic]

theorem cycle_recompute_of_cyclic
    (hcyclic : (Plan.build (readable (schema.formulasInForce row))).isAcyclic = false) :
    ∃ cycle, (recompute schema context row).2.cycle = some cycle ∧
      cycle.fields = (Plan.build (readable (schema.formulasInForce row))).cycle := by
  rw [recompute_eq, formulaPass]
  simp only [hcyclic, Bool.false_eq_true, if_false]
  exact ⟨_, rfl, rfl⟩

theorem error_ne_malformed_of_mem_failures {fields : List (String × Formula)}
    (hfields : schema.defaultFormulas = .ok fields)
    (hoverrides : ∀ key, row.override? key = none) {failure : Failure}
    (hfailure : failure ∈ (recompute schema context row).2.failures) (source : String)
    (fault : Formula.Fault) : failure.error ≠ .malformed source fault := by
  obtain ⟨evaluation, hmem, hfailed, -⟩ :=
    Evaluation.exists_of_firstFailure? (mem_failures_recompute.1 hfailure)
  obtain ⟨-, hresult⟩ := Evaluation.failure?_eq_some_iff.1 hfailed
  obtain ⟨column, hcolumn, -, hsource⟩ :=
    Schema.defaultFormula?_of_formula? hoverrides (formula?_of_mem_evaluations hmem)
  obtain ⟨formula, hparse⟩ := Schema.parse_of_defaultFormulas hfields hcolumn hsource
  intro heq
  rw [heq] at hresult
  exact Formula.textFaultless_evaluateText hparse evaluation.row context.params source fault hresult

/-- If the analysis of a schema gives an order, its rows without overrides have
no cycle and no formula that cannot be read.  If it finds a cycle, the rows on
which no yardage is typed by hand report the same fields in the same order. -/
theorem analyze_holds_on_rows (schema : Schema) (context : Context) (row : Row)
    (hkeys : (schema.keys.map Text.normalizeKey).Nodup)
    (hoverrides : ∀ key, row.override? key = none) :
    (∀ order, schema.analyze = .ok order →
      (recompute schema context row).2.cycle = none ∧
        ∀ failure ∈ (recompute schema context row).2.failures,
          ∀ source fault, failure.error ≠ .malformed source fault) ∧
    ∀ fields, schema.analyze = .error (.cycle fields) →
      Product.hasManualYardage (row.text Field.product) = false →
        ∃ cycle, (recompute schema context row).2.cycle = some cycle ∧ cycle.fields = fields := by
  constructor
  · intro order hanalyze
    obtain ⟨fields, hfields, -⟩ := Except.exists_of_bind_eq_ok hanalyze
    refine ⟨cycle_recompute_of_isAcyclic (Schema.isAcyclic_of_analyze hkeys hanalyze hoverrides),
      fun failure hfailure => error_ne_malformed_of_mem_failures hfields hoverrides hfailure⟩
  · intro cycle hanalyze hcomputed
    obtain ⟨fields, hfields, hcyclic, hcycle⟩ := Schema.defaultFormulas_of_analyze_eq_cycle hanalyze
    have hreadable : readable (schema.formulasInForce row) = fields :=
      Schema.readable_eq_defaultFormulas (.of_map _ hkeys) hoverrides hcomputed hfields
    rw [← hreadable] at hcyclic hcycle
    rw [← hcycle]
    exact cycle_recompute_of_cyclic hcyclic

end

def yardageSchema : Schema where
  name := "grid"
  columns := [
    { key := MaterialSlot.decorative1.meters, formula := some "{largeur} * 3" },
    { key := Field.unitPrice, formula := some "{ml_tissu_deco1} * 12 + inconnu" }]

def pillowRow : Row :=
  ((⟨"p", ∅, ∅⟩ : Row).setText Field.product "Coussin").setNumber Field.width 2

def mutualSchema : Schema where
  name := "grid"
  columns := [
    { key := "total", formula := some "{first}" },
    { key := "second", formula := some "{first} + 1" },
    { key := "first", formula := some "{second} + 1" }]

theorem analyze_holds_on_rows_pillowRow :
    (yardageSchema.analyze = .ok [MaterialSlot.decorative1.meters, Field.unitPrice] ∧
      Product.hasManualYardage (pillowRow.text Field.product) ∧
      (recompute yardageSchema {} pillowRow).2.failures.map (·.field) = [Field.unitPrice] ∧
      (recompute yardageSchema {} pillowRow).2.cycle = none ∧
      ∀ failure ∈ (recompute yardageSchema {} pillowRow).2.failures,
        ∀ source fault, failure.error ≠ .malformed source fault) ∧
    mutualSchema.analyze = .error (.cycle ["second", "first"]) ∧
      ∃ cycle, (recompute mutualSchema {} { id := "r" }).2.cycle = some cycle ∧
        cycle.fields = ["second", "first"] := by
  have hanalyzed : yardageSchema.analyze =
      .ok [MaterialSlot.decorative1.meters, Field.unitPrice] := by decide +kernel
  have hcyclic : mutualSchema.analyze = .error (.cycle ["second", "first"]) := by decide +kernel
  have hplain : ∀ key, pillowRow.override? key = none := fun key => rfl
  obtain ⟨hordered, -⟩ :=
    analyze_holds_on_rows yardageSchema {} pillowRow (by decide +kernel) hplain
  obtain ⟨-, hblocked⟩ :=
    analyze_holds_on_rows mutualSchema {} { id := "r" } (by decide +kernel) fun key => rfl
  exact ⟨⟨hanalyzed, by decide +kernel, by decide +kernel, hordered _ hanalyzed⟩, hcyclic,
    hblocked _ hcyclic (by decide +kernel)⟩

end Drapery
