import Drapery.Proofs.Analysis
import Drapery.Proofs.RuleSteps

/-!
# The row that a recomputation leaves

After the formula pass come the rules, then the share of a commission, and then
the price formulas once more.  What these write is known beforehand, so every
other cell is as the formula pass left it, and a formula that reads none of it
still holds.
-/

namespace Drapery

/-! ## What the overrides and the product decide -/

theorem Schema.formula?_congr (schema : Schema) {a b : Row} (h : a.overrides = b.overrides)
    (key : String) : schema.formula? a key = schema.formula? b key := by
  rw [formula?, formula?, Row.override?, Row.override?, h]

namespace Product

variable {a b : Row}

theorem isTravel_congr (hproduct : a.get? Field.product = b.get? Field.product) :
    isTravel a = isTravel b := by
  rw [isTravel, isTravel, Row.label_congr hproduct]

theorem isCommission_congr (hproduct : a.get? Field.product = b.get? Field.product)
    (hcategory : a.get? Field.expenseCategory = b.get? Field.expenseCategory) :
    isCommission a = isCommission b := by
  rw [isCommission, isCommission, isOtherExpense, isOtherExpense, Row.label_congr hproduct,
    Row.text_congr hcategory]

end Product

/-! ## The prices -/

namespace Schema

def formulasOf (schema : Schema) (row : Row) (keys : List String) : List (String × String) :=
  keys.filterMap fun key => (schema.formula? row key).map (key, ·)

theorem formulasOf_congr (schema : Schema) {a b : Row} (h : a.overrides = b.overrides)
    (keys : List String) : schema.formulasOf a keys = schema.formulasOf b keys := by
  simp only [formulasOf, schema.formula?_congr h]

theorem formulasOf_append (schema : Schema) (row : Row) (first rest : List String) :
    schema.formulasOf row (first ++ rest) =
      schema.formulasOf row first ++ schema.formulasOf row rest :=
  List.filterMap_append

theorem mem_formulasOf {schema : Schema} {row : Row} {keys : List String}
    {field : String × String} :
    field ∈ schema.formulasOf row keys ↔
      field.1 ∈ keys ∧ schema.formula? row field.1 = some field.2 := by
  simp only [formulasOf, List.mem_filterMap, Option.map_eq_some_iff]
  constructor
  · rintro ⟨key, hkey, source, hsource, rfl⟩
    exact ⟨hkey, hsource⟩
  · rintro ⟨hkey, hsource⟩
    exact ⟨field.1, hkey, field.2, hsource, rfl⟩

theorem mem_keys_formulasOf {schema : Schema} {row : Row} {keys : List String} {key : String} :
    key ∈ (schema.formulasOf row keys).map (·.1) ↔
      key ∈ keys ∧ (schema.formula? row key).isSome := by
  simp only [List.mem_map, Prod.exists, exists_and_right, exists_eq_right, mem_formulasOf,
    exists_and_left, Option.isSome_iff_exists]

theorem keys_formulasOf_subset {schema : Schema} {row : Row} {keys : List String} :
    (schema.formulasOf row keys).map (·.1) ⊆ keys := by
  intro key hkey
  exact (mem_keys_formulasOf.1 hkey).1

end Schema

variable {schema : Schema} {context : Context}

theorem reprice_eq_advance (progress : Progress) (key : String) :
    reprice schema context progress key =
      progress.advance context.params (schema.formulasOf progress.row [key]) := by
  rw [reprice, Schema.formulasOf]
  cases hsource : schema.formula? progress.row key with
  | none => simp [hsource]
  | some source =>
      simp only [List.filterMap_cons, hsource, Option.map_some, List.filterMap_nil]
      cases hparse : Formula.parse source with
      | error error => exact Progress.fail_eq_advance hparse context.params progress
      | ok formula =>
          have hformula := Formula.source_of_parse hparse
          subst hformula
          exact Progress.assign_eq_advance hparse progress

theorem foldl_reprice_eq_advance (keys : List String) (progress : Progress) :
    keys.foldl (reprice schema context) progress =
      progress.advance context.params (schema.formulasOf progress.row keys) := by
  induction keys generalizing progress with
  | nil => exact (Progress.advance_nil progress).symm
  | cons key rest ih =>
      have hframe : Row.AgreeOff ((schema.formulasOf progress.row [key]).map (·.1))
          (progress.row.refreshAll context.params (schema.formulasOf progress.row [key]))
          progress.row := Row.agreeOff_refreshAll _ _
      have hoverrides : (progress.advance context.params
          (schema.formulasOf progress.row [key])).row.overrides = progress.row.overrides :=
        hframe.overrides
      rw [List.foldl_cons, ih, reprice_eq_advance, schema.formulasOf_congr hoverrides,
        ← Progress.advance_append, ← schema.formulasOf_append, List.singleton_append]

/-! ## The row in the end -/

def repricedKeys (row : Row) : List String :=
  if Product.isCommission row then [Field.unitPrice] else [Field.unitPrice, Field.totalPrice]

def sharedRow (context : Context) (row : Row) : Row :=
  if Product.isCommission row then Rules.commission context.totalRevenue row else row

def ruledRow (schema : Schema) (context : Context) (row : Row) : Row :=
  (applyRules context (formulaPass schema context row).1.row).1

theorem agreeOff_commission (totalRevenue : Option Float) (row : Row) :
    Row.AgreeOff [Field.totalPrice] (Rules.commission totalRevenue row) row :=
  .set_left List.mem_cons_self row _

theorem agreeOff_sharedRow (context : Context) (row : Row) :
    Row.AgreeOff [Field.totalPrice] (sharedRow context row) row := by
  rw [sharedRow]
  split
  · exact agreeOff_commission _ row
  · exact .refl _ row

theorem overrides_formulaPass (schema : Schema) (context : Context) (row : Row) :
    (formulaPass schema context row).1.row.overrides = row.overrides :=
  (agreeOff_formulaPass schema context row).overrides

theorem agreeOff_ruledRow (schema : Schema) (context : Context) (row : Row) :
    Row.AgreeOff Rules.writtenFields (ruledRow schema context row)
      (formulaPass schema context row).1.row :=
  (local_applyRules context).frame _

theorem isTravel_ruledRow (schema : Schema) (context : Context) (row : Row) :
    Product.isTravel (ruledRow schema context row) =
      Product.isTravel (formulaPass schema context row).1.row :=
  Product.isTravel_congr ((agreeOff_ruledRow schema context row).cells _ (by decide))

theorem isCommission_ruledRow (schema : Schema) (context : Context) (row : Row) :
    Product.isCommission (ruledRow schema context row) =
      Product.isCommission (formulaPass schema context row).1.row :=
  Product.isCommission_congr ((agreeOff_ruledRow schema context row).cells _ (by decide))
    ((agreeOff_ruledRow schema context row).cells _ (by decide))

theorem overrides_ruledRow (schema : Schema) (context : Context) (row : Row) :
    (ruledRow schema context row).overrides = row.overrides := by
  rw [(agreeOff_ruledRow schema context row).overrides, overrides_formulaPass]

theorem overrides_sharedRow (context : Context) (row : Row) :
    (sharedRow context row).overrides = row.overrides :=
  (agreeOff_sharedRow context row).overrides

/-- Off a trip, what remains is the share of a commission and the prices. -/
theorem finishRow_eq_advance {row : Row} (failures : List Failure)
    (htravel : Product.isTravel row = false) :
    finishRow schema context ⟨row, failures⟩ =
      (⟨sharedRow context row, failures⟩ : Progress).advance context.params
        (schema.formulasOf row (repricedKeys row)) := by
  have hoverrides := overrides_sharedRow context row
  rw [finishRow, if_neg (by simp [htravel]), repricedKeys, ← schema.formulasOf_congr hoverrides]
  by_cases hcommission : Product.isCommission row
  · rw [if_pos hcommission, if_pos hcommission, reprice_eq_advance, sharedRow,
      if_pos hcommission]
  · rw [if_neg hcommission, if_neg hcommission, foldl_reprice_eq_advance, sharedRow,
      if_neg hcommission]

theorem recompute_eq (schema : Schema) (context : Context) (row : Row) :
    recompute schema context row =
      let finished := finishRow schema context ⟨ruledRow schema context row,
        (formulaPass schema context row).1.failures⟩
      (finished.row, ⟨row.id, Failure.firsts finished.failures,
        (applyRules context (formulaPass schema context row).1.row).2,
        (formulaPass schema context row).2⟩) := by
  rw [recompute, ruledRow]

theorem recompute_row {row : Row}
    (htravel : Product.isTravel (formulaPass schema context row).1.row = false) :
    (recompute schema context row).1 =
      (sharedRow context (ruledRow schema context row)).refreshAll context.params
        (schema.formulasOf row (repricedKeys (ruledRow schema context row))) := by
  have hnotravel : Product.isTravel (ruledRow schema context row) = false := by
    rw [isTravel_ruledRow, htravel]
  rw [recompute_eq, finishRow_eq_advance _ hnotravel,
    schema.formulasOf_congr (overrides_ruledRow schema context row), Progress.advance]

theorem recompute_row_of_travel {row : Row}
    (htravel : Product.isTravel (formulaPass schema context row).1.row = true) :
    (recompute schema context row).1 =
      Rules.travel context.settings (ruledRow schema context row) := by
  rw [← isTravel_ruledRow] at htravel
  rw [recompute_eq, finishRow, if_pos htravel]

/-! ## What holds in the end -/

section

variable {row : Row} {key source : String}

theorem holds_formulaPass (hkeys : (schema.keys.map Text.normalizeKey).Nodup)
    (hacyclic : (Plan.build (readable (schema.formulasInForce row))).isAcyclic)
    (hfield : (key, source) ∈ schema.formulasInForce row)
    (hself : ¬ Formula.TextReads source key) :
    (formulaPass schema context row).1.row.Holds context.params key source := by
  obtain ⟨sweeps, hrow⟩ := formulaPass_row schema context row
  rw [hrow]
  cases hparse : Formula.parse source with
  | error error => exact holds_passFields_of_unreadable (.of_map _ hkeys) hfield hparse sweeps
  | ok formula =>
      have hformula := Formula.source_of_parse hparse
      subst hformula
      have hmem : (key, formula) ∈ readable (schema.formulasInForce row) :=
        mem_readable_of_parse hfield hparse
      obtain ⟨position, hget⟩ := List.getElem?_of_mem hmem
      have hlt := (List.getElem?_eq_some_iff.1 hget).1
      have hplanned : position ∈ (Plan.build (readable (schema.formulasInForce row))).order := by
        refine (Plan.mem_order_or_mem_blocked.2 hlt).resolve_right ?_
        rw [Plan.isAcyclic, List.isEmpty_iff] at hacyclic
        rw [hacyclic]
        exact List.not_mem_nil
      rw [Formula.textReads_of_parse hparse] at hself
      exact holds_passFields_of_ordered hkeys hplanned hget hself sweeps

/-- The row before the total price is evaluated once more. -/
def unitRow (schema : Schema) (context : Context) (row : Row) : Row :=
  (sharedRow context (ruledRow schema context row)).refreshAll context.params
    (schema.formulasOf row [Field.unitPrice])

variable (htravel : Product.isTravel (formulaPass schema context row).1.row = false)

include htravel

theorem recompute_eq_unitRow
    (hcommission : Product.isCommission (ruledRow schema context row) = true) :
    (recompute schema context row).1 = unitRow schema context row := by
  rw [recompute_row htravel, repricedKeys, if_pos hcommission, unitRow]

theorem recompute_eq_refreshAll_unitRow
    (hcommission : Product.isCommission (ruledRow schema context row) = false) :
    (recompute schema context row).1 = (unitRow schema context row).refreshAll context.params
      (schema.formulasOf row [Field.totalPrice]) := by
  rw [recompute_row htravel, repricedKeys, if_neg (by simp [hcommission]), unitRow,
    ← Row.refreshAll_append, ← schema.formulasOf_append, List.singleton_append]

theorem agreeOff_recompute_unitRow :
    Row.AgreeOff [Field.totalPrice] (recompute schema context row).1
      (unitRow schema context row) := by
  cases hcommission : Product.isCommission (ruledRow schema context row) with
  | true =>
      rw [recompute_eq_unitRow htravel hcommission]
      exact .refl _ _
  | false =>
      rw [recompute_eq_refreshAll_unitRow htravel hcommission]
      exact (Row.agreeOff_refreshAll _ _).mono Schema.keys_formulasOf_subset

omit htravel in
theorem agreeOff_unitRow_sharedRow :
    Row.AgreeOff [Field.unitPrice] (unitRow schema context row)
      (sharedRow context (ruledRow schema context row)) :=
  (Row.agreeOff_refreshAll _ _).mono Schema.keys_formulasOf_subset

theorem agreeOff_recompute_ruledRow :
    Row.AgreeOff [Field.unitPrice, Field.totalPrice] (recompute schema context row).1
      (ruledRow schema context row) := by
  have hunit : Row.AgreeOff [Field.unitPrice, Field.totalPrice]
      (recompute schema context row).1 (unitRow schema context row) :=
    (agreeOff_recompute_unitRow htravel).mono (by simp)
  have hshared : Row.AgreeOff [Field.unitPrice, Field.totalPrice] (unitRow schema context row)
      (sharedRow context (ruledRow schema context row)) :=
    agreeOff_unitRow_sharedRow.mono (by simp)
  exact (hunit.trans hshared).trans ((agreeOff_sharedRow context _).mono (by simp))

theorem agreeOff_recompute_formulaPass :
    Row.AgreeOff (Rules.writtenFields ++ [Field.unitPrice, Field.totalPrice])
      (recompute schema context row).1 (formulaPass schema context row).1.row :=
  ((agreeOff_recompute_ruledRow htravel).mono (List.subset_append_right ..)).trans
    ((agreeOff_ruledRow schema context row).mono (List.subset_append_left ..))

omit htravel in
theorem holds_unitRow (hsource : schema.formula? row Field.unitPrice = some source)
    (hself : ¬ Formula.TextReads source Field.unitPrice) :
    (unitRow schema context row).Holds context.params Field.unitPrice source := by
  have hfields : schema.formulasOf row [Field.unitPrice] = [(Field.unitPrice, source)] := by
    simp [Schema.formulasOf, hsource]
  rw [unitRow, hfields]
  exact Row.holds_refresh hself _

theorem holds_totalPrice
    (hcommission : Product.isCommission (ruledRow schema context row) = false)
    (hsource : schema.formula? row Field.totalPrice = some source)
    (hself : ¬ Formula.TextReads source Field.totalPrice) :
    (recompute schema context row).1.Holds context.params Field.totalPrice source := by
  have hfields : schema.formulasOf row [Field.totalPrice] = [(Field.totalPrice, source)] := by
    simp [Schema.formulasOf, hsource]
  rw [recompute_eq_refreshAll_unitRow htravel hcommission, hfields]
  exact Row.holds_refresh hself _

end

end Drapery
