import Drapery.Proofs.WrittenCells

/-!
# The rule that decides a price

A trip, a share of the revenue and a formula exclude each other.  Whichever of
them decides the total, and the formula that decides the unit price, are read on
the row in the end: nothing that they read is written after them.
-/

namespace Drapery

/-! ## Kinds of rows -/

namespace Product

theorem isCommission_of_isTravel {row : Row} (h : isTravel row = true) :
    isCommission row = false := by
  have hlabel : row.label Field.product = travelName := by simpa [isTravel] using h
  have hother : isOtherExpense row = false := by
    rw [isOtherExpense, hlabel]
    decide
  rw [isCommission, hother, Bool.false_and]

end Product

structure SameKind (a b : Row) : Prop where
  travel : Product.isTravel a = Product.isTravel b
  commission : Product.isCommission a = Product.isCommission b

theorem sameKind_of_cells {a b : Row}
    (h : ∀ key ∈ [Field.product, Field.expenseCategory], a.get? key = b.get? key) :
    SameKind a b where
  travel := Product.isTravel_congr (h _ (by simp))
  commission := Product.isCommission_congr (h _ (by simp)) (h _ (by simp))

section

variable {schema : Schema} {context : Context} {row : Row} {key source : String}

theorem get?_recompute_of_kind (hkey : key ∈ [Field.product, Field.expenseCategory]) :
    (recompute schema context row).1.get? key =
      (formulaPass schema context row).1.row.get? key := by
  have hapart : ∀ key ∈ [Field.product, Field.expenseCategory],
      key ∉ finishedFields ++ Rules.writtenFields := by decide
  exact get?_recompute_formulaPass (hapart key hkey)

theorem sameKind_recompute_formulaPass (schema : Schema) (context : Context) (row : Row) :
    SameKind (recompute schema context row).1 (formulaPass schema context row).1.row :=
  sameKind_of_cells fun _ hkey => get?_recompute_of_kind hkey

theorem sameKind_recompute (hplain : ∀ key ∈ [Field.product, Field.expenseCategory],
    key ∉ (schema.formulasInForce row).map (·.1)) :
    SameKind (recompute schema context row).1 row := by
  refine sameKind_of_cells fun key hkey => ?_
  rw [get?_recompute_of_kind hkey]
  exact (agreeOff_formulaPass schema context row).cells key (hplain key hkey)

/-! ## Trips and commissions -/

theorem totalPrice_of_travel
    (htravel : Product.isTravel (formulaPass schema context row).1.row = true) :
    (recompute schema context row).1.get? Field.totalPrice =
      some (.number ((recompute schema context row).1.tripPrice context.settings)) := by
  rw [recompute_row_of_travel htravel]
  exact Rules.totalPrice_travel context.settings _

theorem totalPrice_of_isCommission
    (htravel : Product.isTravel (formulaPass schema context row).1.row = false)
    (hcommission : Product.isCommission (ruledRow schema context row) = true) :
    (recompute schema context row).1.get? Field.totalPrice =
      some (.number ((recompute schema context row).1.amount Field.percentage *
        context.totalRevenue.getD 0 / 100)) := by
  have hpercentage : (recompute schema context row).1.amount Field.percentage =
      (ruledRow schema context row).amount Field.percentage :=
    Row.amount_congr ((agreeOff_recompute_ruledRow htravel).cells _ (by decide))
  rw [hpercentage, recompute_eq_unitRow htravel hcommission,
    agreeOff_unitRow_sharedRow.cells _ (by decide), sharedRow, if_pos hcommission,
    Rules.commission]
  exact Row.get?_set_self ..

/-! ## Price formulas -/

/-- A price that has no formula is what it was before.  The value of a formula
that reads none of the unread cells is what the price is on the final row. -/
structure FollowsFormula (schema : Schema) (params : Formula.Params) (row final : Row)
    (key : String) (unread : List String) : Prop where
  kept : schema.formula? row key = none → final.get? key = row.get? key
  follows : ∀ source, schema.formula? row key = some source →
    (∀ read ∈ unread, ¬ Formula.TextReads source read) →
      final.get? key = some (Formula.shown (Formula.evaluateText source final params)).toCell

theorem price_kept (htravel : Product.isTravel (formulaPass schema context row).1.row = false)
    (hkey : key ∈ [Field.unitPrice, Field.totalPrice])
    (hshare : key = Field.totalPrice →
      Product.isCommission (ruledRow schema context row) = false)
    (hnone : schema.formula? row key = none) :
    (recompute schema context row).1.get? key = row.get? key := by
  have hapart : ∀ key ∈ [Field.unitPrice, Field.totalPrice], key ∉ Rules.writtenFields := by
    decide
  have hrepriced : (recompute schema context row).1.get? key =
      (sharedRow context (ruledRow schema context row)).get? key := by
    rw [recompute_row htravel]
    refine (Row.agreeOff_refreshAll _ _).cells key fun hmem => ?_
    simpa [hnone] using (Schema.mem_keys_formulasOf.1 hmem).2
  have hshared : (sharedRow context (ruledRow schema context row)).get? key =
      (ruledRow schema context row).get? key := by
    rw [sharedRow]
    split
    · rename_i hcommission
      refine (agreeOff_commission _ _).cells key fun hmem => ?_
      rw [hshare (List.mem_singleton.1 hmem)] at hcommission
      cases hcommission
    · rfl
  rw [hrepriced, hshared, (agreeOff_ruledRow schema context row).cells key (hapart key hkey)]
  refine (agreeOff_formulaPass schema context row).cells key fun hmem => ?_
  simpa [hnone] using (Schema.mem_keys_formulasInForce.1 hmem).2

theorem followsFormula_totalPrice
    (htravel : Product.isTravel (formulaPass schema context row).1.row = false)
    (hcommission : Product.isCommission (ruledRow schema context row) = false) :
    FollowsFormula schema context.params row (recompute schema context row).1 Field.totalPrice
      [Field.totalPrice] where
  kept hnone := price_kept htravel (by simp) (fun _ => hcommission) hnone
  follows source hsource hunread :=
    holds_totalPrice htravel hcommission hsource (hunread _ (by simp))

theorem followsFormula_unitPrice
    (htravel : Product.isTravel (formulaPass schema context row).1.row = false) :
    FollowsFormula schema context.params row (recompute schema context row).1 Field.unitPrice
      [Field.unitPrice, Field.totalPrice] where
  kept hnone := price_kept htravel (by simp) (fun heq => absurd heq (by decide)) hnone
  follows source hsource hunread := by
    have hheld : (unitRow schema context row).Holds context.params Field.unitPrice source :=
      holds_unitRow hsource (hunread _ (by simp))
    have hframe : Row.AgreeOff [Field.totalPrice] (recompute schema context row).1
        (unitRow schema context row) := agreeOff_recompute_unitRow htravel
    -- the total is written after the unit price, which does not read it
    refine hheld.congr (hframe.cells _ (by decide)) fun read hread => hframe.cells read ?_
    rintro hmem
    rw [List.mem_singleton.1 hmem] at hread
    exact hunread _ (by simp) hread

end

/-- The total is the price of the trip on a trip, the share of the revenue on a
commission, and otherwise follows its formula; the unit price follows its own
formula off a trip.  All of them agree with the row in the end.  So does what
the row is: it is a trip or a commission, never both, as its formulas leave it,
and as it was before unless they compute its product or category. -/
theorem recompute_prices (schema : Schema) (context : Context) (row : Row) :
    (SameKind (recompute schema context row).1 (formulaPass schema context row).1.row ∧
      ((∀ key ∈ [Field.product, Field.expenseCategory],
        key ∉ (schema.formulasInForce row).map (·.1)) →
          SameKind (recompute schema context row).1 row) ∧
      ¬ (Product.isTravel (recompute schema context row).1 = true ∧
        Product.isCommission (recompute schema context row).1 = true)) ∧
    (Product.isTravel (recompute schema context row).1 = true →
      (recompute schema context row).1.get? Field.totalPrice =
        some (.number ((recompute schema context row).1.tripPrice context.settings))) ∧
    (Product.isCommission (recompute schema context row).1 = true →
      (recompute schema context row).1.get? Field.totalPrice =
        some (.number ((recompute schema context row).1.amount Field.percentage *
          context.totalRevenue.getD 0 / 100))) ∧
    (Product.isTravel (recompute schema context row).1 = false →
      (Product.isCommission (recompute schema context row).1 = false →
        FollowsFormula schema context.params row (recompute schema context row).1
          Field.totalPrice [Field.totalPrice]) ∧
      FollowsFormula schema context.params row (recompute schema context row).1
        Field.unitPrice [Field.unitPrice, Field.totalPrice]) := by
  have hkind : SameKind (recompute schema context row).1 (formulaPass schema context row).1.row :=
    sameKind_recompute_formulaPass schema context row
  have hexclusive : ¬ (Product.isTravel (recompute schema context row).1 = true ∧
      Product.isCommission (recompute schema context row).1 = true) := by
    rintro ⟨htravel, hcommission⟩
    rw [Product.isCommission_of_isTravel htravel] at hcommission
    cases hcommission
  refine ⟨⟨hkind, sameKind_recompute, hexclusive⟩, ?_, ?_, ?_⟩
  · intro htravel
    rw [hkind.travel] at htravel
    exact totalPrice_of_travel htravel
  · intro hcommission
    have htravel : Product.isTravel (recompute schema context row).1 = false := by
      simpa [hcommission] using hexclusive
    rw [hkind.travel] at htravel
    rw [hkind.commission, ← isCommission_ruledRow] at hcommission
    exact totalPrice_of_isCommission htravel hcommission
  · intro htravel
    rw [hkind.travel] at htravel
    refine ⟨fun hcommission => ?_, followsFormula_unitPrice htravel⟩
    rw [hkind.commission, ← isCommission_ruledRow] at hcommission
    exact followsFormula_totalPrice htravel hcommission

def pricedSchema : Schema where
  name := "grid"
  columns := [
    { key := Field.unitPrice, formula := some "{pv_prepa}" },
    { key := Field.totalPrice, formula := some "{prix_unitaire} * 2" }]

def pricedContext : Context :=
  { settings := { hourlyRate := 40, mealCost := 15 }, totalRevenue := some 8500 }

def tripRow : Row :=
  ((((⟨"t", ∅, ∅⟩ : Row).setText Field.product "Déplacement").setNumber Field.tripTime
    2.5).setNumber Field.tripCount 2).set Field.overnight (.flag true)

def tripContext : Context :=
  { settings := { hourlyRate := 40, nightCost := 120, mealCost := 15 } }

def shareRow : Row :=
  (((⟨"c", ∅, ∅⟩ : Row).setText Field.product "Autre dépense").setText Field.expenseCategory
    "Commission").setNumber Field.percentage 8

def curtainRow : Row :=
  ((⟨"r", ∅, ∅⟩ : Row).setText Field.product "Rideau").setNumber Field.preparationHours 1

/-- One row of each kind under the same two formulas.  Two trips of two and a
half hours are billed as a full day, with a night and two meals. -/
theorem recompute_prices_pricedSchema :
    (SameKind (recompute pricedSchema tripContext tripRow).1 tripRow ∧
      Product.isTravel (recompute pricedSchema tripContext tripRow).1 = true ∧
      (recompute pricedSchema tripContext tripRow).1.get? Field.totalPrice =
        some (.number (8 * 1 * 40 + 1 * 120 + 2 * 15))) ∧
    (Product.isCommission (recompute pricedSchema pricedContext shareRow).1 = true ∧
      (recompute pricedSchema pricedContext shareRow).1.get? Field.totalPrice =
        some (.number (8 * 8500 / 100))) ∧
    (recompute pricedSchema pricedContext curtainRow).1.get? Field.unitPrice =
      some (.number 40) ∧
    (recompute pricedSchema pricedContext curtainRow).1.get? Field.totalPrice =
      some (.number 80) := by
  have htrip : Product.isTravel (recompute pricedSchema tripContext tripRow).1 = true := by
    decide +kernel
  have hfullDay : (recompute pricedSchema tripContext tripRow).1.tripPrice
      tripContext.settings = 8 * 1 * 40 + 1 * 120 + 2 * 15 := by decide +kernel
  have hshare : Product.isCommission (recompute pricedSchema pricedContext shareRow).1 = true := by
    decide +kernel
  have hpercentage : (recompute pricedSchema pricedContext shareRow).1.amount Field.percentage =
      8 := by decide +kernel
  have hcurtain : Product.isTravel (recompute pricedSchema pricedContext curtainRow).1 = false := by
    decide +kernel
  have hplain : Product.isCommission (recompute pricedSchema pricedContext curtainRow).1 =
      false := by decide +kernel
  have hprepared : Formula.shown (Formula.evaluateText "{pv_prepa}"
      (recompute pricedSchema pricedContext curtainRow).1 pricedContext.params) = .number 40 := by
    decide +kernel
  have hdoubled : Formula.shown (Formula.evaluateText "{prix_unitaire} * 2"
      (recompute pricedSchema pricedContext curtainRow).1 pricedContext.params) = .number 80 := by
    decide +kernel
  obtain ⟨⟨-, hkind, -⟩, hpriced, -, -⟩ := recompute_prices pricedSchema tripContext tripRow
  obtain ⟨-, -, hshared, -⟩ := recompute_prices pricedSchema pricedContext shareRow
  obtain ⟨-, -, -, hfollows⟩ := recompute_prices pricedSchema pricedContext curtainRow
  obtain ⟨htotal, hunit⟩ := hfollows hcurtain
  refine ⟨⟨hkind (by decide +kernel), htrip, ?_⟩, ⟨hshare, ?_⟩, ?_, ?_⟩
  · rw [hpriced htrip, hfullDay]
  · rw [hshared hshare, hpercentage]
    rfl
  · rw [hunit.follows "{pv_prepa}" (by decide +kernel) (by decide +kernel), hprepared]
    rfl
  · rw [(htotal hplain).follows "{prix_unitaire} * 2" (by decide +kernel) (by decide +kernel),
      hdoubled]
    rfl

end Drapery
