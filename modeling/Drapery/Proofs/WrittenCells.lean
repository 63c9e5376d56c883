import Drapery.Proofs.RecomputedRow
import Drapery.Proofs.Trip

/-!
# The cells that a recomputation may write

Formulas write their own columns.  Each rule has its cells, and the rules for
mechanisms, labor and trips have none on rows that they do not apply to.  All
other cells come out of a recomputation as they went in.
-/

namespace Drapery

namespace Rules

variable {a b : Row}

/-! ## The cells of a rule -/

def fabricCells : List String :=
  MaterialSlot.fabrics.flatMap fun slot => [slot.referenceId, slot.buy, slot.sell]

/-- On a blind the rule clears the dimension, and it prices rails only. -/
def mechanismCells (row : Row) : List String :=
  if Product.hasRail row then
    [Field.mechanismModelId, Field.mechanismDimension, Field.mechanismBuy, Field.mechanismSell]
  else if Product.isBlindMechanism (row.label Field.mechanismType) then [Field.mechanismDimension]
  else []

def laborCells (row : Row) : List String :=
  if Product.isLaborBilled (row.text Field.product) then
    [Field.preparationSell, Field.assemblySell, Field.installationSell,
      Field.subcontractedAssemblySell, Field.subcontractedInstallationSell]
  else []

def tripCells (row : Row) : List String :=
  if Product.isTravel row then
    [Field.onSiteHours, Field.billedHours, Field.nights, Field.meals]
  else []

theorem mechanismCells_congr (h : a.get? Field.mechanismType = b.get? Field.mechanismType) :
    mechanismCells a = mechanismCells b := by
  rw [mechanismCells, mechanismCells, Product.hasRail, Product.hasRail, Row.label_congr h]

theorem laborCells_congr (h : a.get? Field.product = b.get? Field.product) :
    laborCells a = laborCells b := by
  rw [laborCells, laborCells, Row.text_congr h]

/-! ## What each rule leaves alone -/

theorem agreeOff_fabrics (catalog : Catalog) (row : Row) :
    Row.AgreeOff fabricCells (fabrics catalog row).1 row := by
  have hlocal : Row.Local Rules.readFields fabricCells
      (Step.runAll (MaterialSlot.fabrics.map (·.step catalog))) := by
    apply Step.local_runAll
    intro step hstep
    obtain ⟨slot, hslot, rfl⟩ := List.mem_map.1 hstep
    have hcells : ∀ slot ∈ MaterialSlot.fabrics, slot.footprint.inputs ⊆ readFields ∧
        slot.footprint.outputs ⊆ fabricCells := by decide
    exact hcells slot hslot
  rw [fabrics, priceSlots_row]
  exact hlocal.frame row

theorem agreeOff_mechanism (catalog : Catalog) (row : Row) :
    Row.AgreeOff (mechanismCells row) (mechanism catalog row).1 row := by
  rw [mechanism, mechanismCells]
  split
  · rename_i hrail
    have hframe := (mechanismStep catalog).isLocal.frame row
    rw [run_mechanismStep, mechanism, if_pos hrail] at hframe
    exact hframe
  · split
    · exact .set_left List.mem_cons_self row _
    · exact .refl _ row

theorem agreeOff_labor (settings : Settings) (row : Row) :
    Row.AgreeOff (laborCells row) (labor settings row) row := by
  rw [laborCells]
  split
  · have hframe := (laborStep settings).isLocal.frame row
    rw [run_laborStep] at hframe
    exact hframe
  · rename_i hbilled
    rw [labor, if_neg hbilled]
    exact .refl _ row

theorem mechanismCells_subset (row : Row) :
    mechanismCells row ⊆ [Field.mechanismModelId, Field.mechanismDimension, Field.mechanismBuy,
      Field.mechanismSell] := by
  rw [mechanismCells]
  split
  · exact List.Subset.refl _
  · split <;> simp

theorem laborCells_subset (row : Row) :
    laborCells row ⊆ [Field.preparationSell, Field.assemblySell, Field.installationSell,
      Field.subcontractedAssemblySell, Field.subcontractedInstallationSell] := by
  rw [laborCells]
  split <;> simp

theorem tripCells_subset (row : Row) :
    tripCells row ⊆ [Field.onSiteHours, Field.billedHours, Field.nights, Field.meals] := by
  rw [tripCells]
  split <;> simp

theorem not_mem_cells_of_yardage {key : String} (h : key ∈ Field.manualYardage) (row : Row) :
    key ∉ fabricCells ∧ key ∉ mechanismCells row ∧ key ∉ laborCells row ∧
      key ≠ Field.unitPrice ∧ key ≠ Field.totalPrice ∧ key ∉ tripCells row := by
  have hapart : ∀ key ∈ Field.manualYardage, key ∉ fabricCells ∧
      key ∉ [Field.mechanismModelId, Field.mechanismDimension, Field.mechanismBuy,
        Field.mechanismSell] ∧
      key ∉ [Field.preparationSell, Field.assemblySell, Field.installationSell,
        Field.subcontractedAssemblySell, Field.subcontractedInstallationSell] ∧
      key ≠ Field.unitPrice ∧ key ≠ Field.totalPrice ∧
      key ∉ [Field.onSiteHours, Field.billedHours, Field.nights, Field.meals] := by decide
  obtain ⟨hfabric, hmechanism, hlabor, hunit, htotal, htrip⟩ := hapart key h
  exact ⟨hfabric, fun hmem => hmechanism (mechanismCells_subset row hmem),
    fun hmem => hlabor (laborCells_subset row hmem), hunit, htotal,
    fun hmem => htrip (tripCells_subset row hmem)⟩

theorem agreeOff_applyRules (context : Context) (row : Row) :
    Row.AgreeOff (fabricCells ++ mechanismCells row ++ laborCells row) (applyRules context row).1
      row := by
  set priced := (fabrics context.catalog row).1 with hpriced
  set mounted := (mechanism context.catalog priced).1 with hmounted
  have hfabrics : Row.AgreeOff fabricCells priced row := agreeOff_fabrics context.catalog row
  -- no rule writes the kind of mechanism or the product, so that the cells of the
  -- later rules are those of the row before all of them
  have hmechanism : Row.AgreeOff (mechanismCells row) mounted priced := by
    rw [← mechanismCells_congr (hfabrics.cells _ (by decide))]
    exact agreeOff_mechanism context.catalog priced
  have hproduct : mounted.get? Field.product = row.get? Field.product := by
    rw [hmechanism.cells _ fun hmem => absurd (mechanismCells_subset row hmem) (by decide),
      hfabrics.cells _ (by decide)]
  have hlabor : Row.AgreeOff (laborCells row) (labor context.settings mounted) mounted := by
    rw [← laborCells_congr hproduct]
    exact agreeOff_labor context.settings mounted
  have hrules : (applyRules context row).1 = labor context.settings mounted := by
    simp only [applyRules, hmounted, hpriced]
  rw [hrules]
  exact (hlabor.mono (by simp)).trans ((hmechanism.mono (by simp)).trans (hfabrics.mono (by simp)))

end Rules

/-! ## The whole recomputation -/

theorem agreeOff_recompute_rules (schema : Schema) (context : Context) (row : Row) :
    Row.AgreeOff (Field.unitPrice :: Field.totalPrice ::
        Rules.tripCells (formulaPass schema context row).1.row)
      (recompute schema context row).1 (ruledRow schema context row) := by
  cases htravel : Product.isTravel (formulaPass schema context row).1.row with
  | false => exact (agreeOff_recompute_ruledRow htravel).mono (by simp)
  | true =>
      rw [recompute_row_of_travel htravel, Rules.tripCells, if_pos htravel]
      refine (Rules.agreeOff_travel context.settings _).mono ?_
      simp

theorem overrides_recompute (schema : Schema) (context : Context) (row : Row) :
    (recompute schema context row).1.overrides = row.overrides := by
  rw [(agreeOff_recompute_rules schema context row).overrides, overrides_ruledRow]

def finishedFields : List String :=
  [Field.unitPrice, Field.totalPrice, Field.onSiteHours, Field.billedHours, Field.nights,
    Field.meals]

section

variable {schema : Schema} {context : Context} {row : Row} {key : String}

theorem get?_recompute_ruledRow (h : key ∉ finishedFields) :
    (recompute schema context row).1.get? key = (ruledRow schema context row).get? key := by
  refine (agreeOff_recompute_rules schema context row).cells key fun hmem => h ?_
  exact List.cons_subset_cons _ (List.cons_subset_cons _ (Rules.tripCells_subset _)) hmem

theorem get?_recompute_formulaPass (h : key ∉ finishedFields ++ Rules.writtenFields) :
    (recompute schema context row).1.get? key =
      (formulaPass schema context row).1.row.get? key := by
  rw [List.mem_append, not_or] at h
  rw [get?_recompute_ruledRow h.1, (agreeOff_ruledRow schema context row).cells key h.2]

end

/-- A recomputation keeps the identifier and the overrides of the row.  A cell
that changes, appears or goes is a column with a formula that is evaluated, a
price, or a cell of a rule that applies to the row as the formulas leave it.
Yardage that is typed by hand stays as it is. -/
theorem recompute_writes (schema : Schema) (context : Context) (row : Row) :
    ((recompute schema context row).1.id = row.id ∧
        (recompute schema context row).1.overrides = row.overrides) ∧
      (∀ key, (recompute schema context row).1.get? key ≠ row.get? key →
        (key ∈ schema.keys ∧ (schema.formula? row key).isSome ∧ ¬ Schema.IsByHand row key) ∨
          key ∈ Rules.fabricCells ∨
          key ∈ Rules.mechanismCells (formulaPass schema context row).1.row ∨
          key ∈ Rules.laborCells (formulaPass schema context row).1.row ∨
          key = Field.unitPrice ∨ key = Field.totalPrice ∨
          key ∈ Rules.tripCells (formulaPass schema context row).1.row) ∧
      (Product.hasManualYardage (row.text Field.product) → ∀ key ∈ Field.manualYardage,
        (recompute schema context row).1.get? key = row.get? key) := by
  set passed := (formulaPass schema context row).1.row with hpassed
  have hformulas : Row.AgreeOff ((schema.formulasInForce row).map (·.1)) passed row :=
    agreeOff_formulaPass schema context row
  have hrules : Row.AgreeOff
      (Rules.fabricCells ++ Rules.mechanismCells passed ++ Rules.laborCells passed)
      (ruledRow schema context row) passed := Rules.agreeOff_applyRules context passed
  have hfinish := agreeOff_recompute_rules schema context row
  rw [← hpassed] at hfinish
  have hkept : ∀ key, key ∉ (schema.formulasInForce row).map (·.1) →
      key ∉ Rules.fabricCells ++ Rules.mechanismCells passed ++ Rules.laborCells passed →
        key ∉ Field.unitPrice :: Field.totalPrice :: Rules.tripCells passed →
          (recompute schema context row).1.get? key = row.get? key := by
    intro key hcomputed hruled hfinished
    rw [hfinish.cells key hfinished, hrules.cells key hruled, hformulas.cells key hcomputed]
  have hwritten : ∀ key, (recompute schema context row).1.get? key ≠ row.get? key →
      (key ∈ schema.keys ∧ (schema.formula? row key).isSome ∧ ¬ Schema.IsByHand row key) ∨
        key ∈ Rules.fabricCells ∨ key ∈ Rules.mechanismCells passed ∨
        key ∈ Rules.laborCells passed ∨ key = Field.unitPrice ∨ key = Field.totalPrice ∨
        key ∈ Rules.tripCells passed := by
    intro key hchanged
    by_contra hnone
    simp only [not_or] at hnone
    obtain ⟨hcolumn, hfabric, hmechanism, hlabor, hunit, htotal, htrip⟩ := hnone
    refine hchanged (hkept key (fun hmem => hcolumn ?_) (by simp [hfabric, hmechanism, hlabor])
      (by simp [hunit, htotal, htrip]))
    obtain ⟨⟨hkey, hcomputed⟩, hsource⟩ := Schema.mem_keys_formulasInForce.1 hmem
    exact ⟨hkey, hsource, hcomputed⟩
  refine ⟨⟨(hfinish.id.trans hrules.id).trans hformulas.id,
    (hfinish.overrides.trans hrules.overrides).trans hformulas.overrides⟩, hwritten, ?_⟩
  intro hmanual key hkey
  by_contra hchanged
  obtain ⟨hfabric, hmechanism, hlabor, hunit, htotal, htrip⟩ :=
    Rules.not_mem_cells_of_yardage hkey passed
  rcases hwritten key hchanged with ⟨-, -, hcomputed⟩ | hmem
  · exact hcomputed ⟨hmanual, hkey⟩
  · simp [hfabric, hmechanism, hlabor, hunit, htotal, htrip] at hmem

def cushionSchema : Schema where
  name := "grid"
  columns := [
    { key := "quantite", formula := some "2" },
    { key := "ml_tissu_deco1", formula := some "3" },
    { key := "ml_doublure" }]

def cushionRow : Row :=
  ((⟨"r", .ofList [("ml_doublure", "4")], ∅⟩ : Row).setText Field.product "Coussin").setNumber
    "ml_tissu_deco1" 6.5

theorem recompute_writes_cushionRow :
    Product.hasManualYardage (cushionRow.text Field.product) ∧
      (recompute cushionSchema {} cushionRow).1.get? "ml_tissu_deco1" = some (.number 6.5) ∧
      (recompute cushionSchema {} cushionRow).1.get? "ml_doublure" = none ∧
      (recompute cushionSchema {} cushionRow).1.get? "quantite" ≠ cushionRow.get? "quantite" ∧
      "quantite" ∈ cushionSchema.keys ∧ (cushionSchema.formula? cushionRow "quantite").isSome := by
  have hmanual : Product.hasManualYardage (cushionRow.text Field.product) := by decide +kernel
  obtain ⟨-, hwritten, hkept⟩ := recompute_writes cushionSchema {} cushionRow
  have hchanged : (recompute cushionSchema {} cushionRow).1.get? "quantite" ≠
      cushionRow.get? "quantite" := by
    intro heq
    have hsame := congrArg Option.isSome heq
    revert hsame
    decide +kernel
  refine ⟨hmanual, hkept hmanual "ml_tissu_deco1" (by decide),
    hkept hmanual "ml_doublure" (by decide), hchanged, ?_⟩
  rcases hwritten "quantite" hchanged with ⟨hkey, hsource, -⟩ | hmem
  · exact ⟨hkey, hsource⟩
  · revert hmem
    decide +kernel

end Drapery
