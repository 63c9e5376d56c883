import Drapery.Proofs.WrittenCells

/-!
# Recomputing twice

Where only the two prices read what the rules write, the row that a
recomputation leaves holds all its formulas, save the total of a commission.
The second formula pass then moves nothing else, the rules find what they left,
and the share and the prices come out the same.
-/

namespace Drapery

namespace Schema

def evaluated (schema : Schema) (row : Row) : List (String × String) :=
  schema.formulasInForce row ++ schema.formulasOf row [Field.unitPrice, Field.totalPrice]

/-- Prices are computed from the rules, and all else without them. -/
structure Layered (schema : Schema) (row : Row) : Prop where
  distinct : (schema.keys.map Text.normalizeKey).Nodup
  acyclic : (Plan.build (readable (schema.formulasInForce row))).isAcyclic
  not_self : ∀ field ∈ schema.evaluated row, ¬ Formula.TextReads field.2 field.1
  below_prices : ∀ field ∈ schema.evaluated row,
    field.1 ∉ [Field.unitPrice, Field.totalPrice] →
      ∀ read ∈ Rules.writtenFields ++ [Field.unitPrice, Field.totalPrice],
        ¬ Formula.TextReads field.2 read
  unit_below_total : ∀ field ∈ schema.evaluated row, field.1 = Field.unitPrice →
    ¬ Formula.TextReads field.2 Field.totalPrice
  not_written : ∀ field ∈ schema.formulasInForce row,
    field.1 ∉ Field.product :: Rules.writtenFields

variable {schema : Schema} {row : Row}

theorem formulasInForce_congr (schema : Schema) {a b : Row} (hoverrides : a.overrides = b.overrides)
    (hproduct : a.get? Field.product = b.get? Field.product) :
    schema.formulasInForce a = schema.formulasInForce b := by
  simp only [formulasInForce, Row.text_congr hproduct, schema.formula?_congr hoverrides]

theorem mem_evaluated {field : String × String} :
    field ∈ schema.evaluated row ↔ field ∈ schema.formulasInForce row ∨
      field.1 ∈ [Field.unitPrice, Field.totalPrice] ∧
        schema.formula? row field.1 = some field.2 := by
  rw [evaluated, List.mem_append, mem_formulasOf]

end Schema

section

variable {schema : Schema} {context : Context} {row : Row}

/-- The total of a commission is not evaluated last. -/
def looseKeys (row : Row) : List String :=
  if Product.isCommission row then [Field.totalPrice] else []

theorem product_formulaPass (h : schema.Layered row) :
    (formulaPass schema context row).1.row.get? Field.product = row.get? Field.product := by
  refine (agreeOff_formulaPass schema context row).cells _ fun hmem => ?_
  obtain ⟨field, hfield, hkey⟩ := List.mem_map.1 hmem
  exact h.not_written field hfield (by rw [hkey]; exact List.mem_cons_self)

theorem isTravel_formulaPass (h : schema.Layered row) (htravel : Product.isTravel row = false) :
    Product.isTravel (formulaPass schema context row).1.row = false := by
  rw [Product.isTravel_congr (product_formulaPass h), htravel]

theorem holds_recompute (h : schema.Layered row) (htravel : Product.isTravel row = false)
    {field : String × String} (hfield : field ∈ schema.evaluated row)
    (hloose : field.1 ∉ looseKeys (ruledRow schema context row)) :
    (recompute schema context row).1.Holds context.params field.1 field.2 := by
  have htravelF : Product.isTravel (formulaPass schema context row).1.row = false :=
    isTravel_formulaPass h htravel
  have hself := h.not_self field hfield
  have hsource : schema.formula? row field.1 = some field.2 := by
    rcases Schema.mem_evaluated.1 hfield with hforce | ⟨-, hprice⟩
    · exact (Schema.mem_formulasInForce.1 hforce).2
    · exact hprice
  obtain ⟨key, source⟩ := field
  by_cases htotal : key = Field.totalPrice
  · subst htotal
    have hcommission : Product.isCommission (ruledRow schema context row) = false := by
      by_contra hcommission
      rw [Bool.not_eq_false] at hcommission
      exact hloose (by simp [looseKeys, hcommission])
    exact holds_totalPrice htravelF hcommission hsource hself
  by_cases hunit : key = Field.unitPrice
  · subst hunit
    have hframe := agreeOff_recompute_unitRow htravelF
    refine (holds_unitRow hsource hself).congr (hframe.cells _ (by decide)) fun read hread => ?_
    refine hframe.cells read ?_
    rw [List.mem_singleton]
    rintro rfl
    exact h.unit_below_total _ hfield rfl hread
  · have hprice : key ∉ [Field.unitPrice, Field.totalPrice] := by simp [hunit, htotal]
    have hforce : (key, source) ∈ schema.formulasInForce row :=
      (Schema.mem_evaluated.1 hfield).resolve_right fun hor => hprice hor.1
    have hwritten : key ∉ Rules.writtenFields := fun hmem =>
      h.not_written _ hforce (List.mem_cons_of_mem _ hmem)
    have hframe := agreeOff_recompute_formulaPass htravelF
    refine (holds_formulaPass h.distinct h.acyclic hforce hself).congr
      (hframe.cells key (by simp [hwritten, hunit, htotal])) fun read hread => ?_
    exact hframe.cells read fun hmem => h.below_prices _ hfield hprice read hmem hread

theorem not_reads_loose (h : schema.Layered row) {field : String × String}
    (hfield : field ∈ schema.evaluated row)
    (hloose : field.1 ∉ looseKeys (ruledRow schema context row)) :
    ∀ read ∈ looseKeys (ruledRow schema context row), ¬ Formula.TextReads field.2 read := by
  intro read hread
  rw [looseKeys] at hread hloose
  split at hread
  · rename_i hcommission
    rw [if_pos hcommission, List.mem_singleton] at hloose
    rw [List.mem_singleton.1 hread]
    by_cases hunit : field.1 = Field.unitPrice
    · exact h.unit_below_total field hfield hunit
    · exact h.below_prices field hfield (by simp [hunit, hloose]) _ (by simp)
  · cases hread

/-! ## The second recomputation -/

theorem product_recompute (h : schema.Layered row) (htravel : Product.isTravel row = false) :
    (recompute schema context row).1.get? Field.product = row.get? Field.product := by
  rw [(agreeOff_recompute_formulaPass (isTravel_formulaPass h htravel)).cells _ (by decide),
    product_formulaPass h]

theorem agreeOff_formulaPass_recompute (h : schema.Layered row)
    (htravel : Product.isTravel row = false) :
    Row.AgreeOff (looseKeys (ruledRow schema context row))
      (formulaPass schema context (recompute schema context row).1).1.row
      (recompute schema context row).1 := by
  obtain ⟨sweeps, hrow⟩ := formulaPass_row schema context (recompute schema context row).1
  rw [hrow]
  refine Row.refreshAll_agreeOff (.refl _ _) fun field hfield hloose => ?_
  have hforce := Schema.mem_formulasInForce_of_mem_passFields hfield
  rw [schema.formulasInForce_congr (overrides_recompute schema context row)
    (product_recompute h htravel)] at hforce
  have hevaluated : field ∈ schema.evaluated row := List.mem_append_left _ hforce
  exact ⟨holds_recompute h htravel hevaluated hloose, not_reads_loose h hevaluated hloose⟩

theorem applyRules_recompute (hnames : (context.catalog.items.map (·.name)).Nodup)
    (htravel : Product.isTravel (formulaPass schema context row).1.row = false) :
    (applyRules context (recompute schema context row).1).1 = (recompute schema context row).1 := by
  have hprices := agreeOff_recompute_ruledRow htravel
  have hlocal := local_applyRules context
  have hsecond := hlocal.agreeOff (by decide) hprices
  have hsettled : (applyRules context (ruledRow schema context row)).1 =
      ruledRow schema context row := applyRules_applyRules hnames _
  rw [hsettled] at hsecond
  exact (hlocal.frame _).eq_of_disjoint (hsecond.trans hprices.symm) (by decide)

theorem looseKeys_subset (row : Row) : looseKeys row ⊆ [Field.totalPrice] := by
  rw [looseKeys]
  split
  · exact List.Subset.refl _
  · exact List.nil_subset _

theorem isCommission_again
    (htravel : Product.isTravel (formulaPass schema context row).1.row = false) {again : Row}
    (hagain : Row.AgreeOff [Field.totalPrice] again (recompute schema context row).1) :
    Product.isCommission again = Product.isCommission (ruledRow schema context row) := by
  have hprices := agreeOff_recompute_ruledRow htravel
  refine Product.isCommission_congr ?_ ?_
  · rw [hagain.cells _ (by decide), hprices.cells _ (by decide)]
  · rw [hagain.cells _ (by decide), hprices.cells _ (by decide)]

theorem totalPrice_of_commission
    (htravel : Product.isTravel (formulaPass schema context row).1.row = false)
    (hcommission : Product.isCommission (ruledRow schema context row) = true) {again : Row}
    (hagain : Row.AgreeOff [Field.totalPrice] again (recompute schema context row).1) :
    (recompute schema context row).1.get? Field.totalPrice =
      some (.number (again.amount Field.percentage * context.totalRevenue.getD 0 / 100)) := by
  have hpercentage : again.amount Field.percentage =
      (ruledRow schema context row).amount Field.percentage := by
    apply Row.amount_congr
    rw [hagain.cells _ (by decide), (agreeOff_recompute_ruledRow htravel).cells _ (by decide)]
  rw [recompute_eq_unitRow htravel hcommission, agreeOff_unitRow_sharedRow.cells _ (by decide),
    sharedRow, if_pos hcommission, Rules.commission, Row.setNumber, Row.get?_set_self, hpercentage]

theorem sharedRow_again
    (htravel : Product.isTravel (formulaPass schema context row).1.row = false) {again : Row}
    (hagain : Row.AgreeOff (looseKeys (ruledRow schema context row)) again
      (recompute schema context row).1) :
    sharedRow context again = (recompute schema context row).1 := by
  have htotal := hagain.mono (looseKeys_subset _)
  rw [sharedRow, isCommission_again htravel htotal]
  cases hcommission : Product.isCommission (ruledRow schema context row) with
  | false =>
      rw [if_neg Bool.false_ne_true]
      rw [looseKeys, if_neg (by simp [hcommission])] at hagain
      exact hagain.eq
  | true =>
      have hshare := totalPrice_of_commission htravel hcommission htotal
      rw [if_pos rfl, Rules.commission, Row.setNumber]
      have hboth := htotal.set_both
        (.number (again.amount Field.percentage * context.totalRevenue.getD 0 / 100))
      rw [Row.set_of_get? hshare] at hboth
      exact hboth.eq

theorem mem_evaluated_of_repriced {field : String × String}
    (hfield : field ∈ schema.formulasOf row (repricedKeys (ruledRow schema context row))) :
    field ∈ schema.evaluated row ∧ field.1 ∉ looseKeys (ruledRow schema context row) := by
  obtain ⟨hkey, hsource⟩ := Schema.mem_formulasOf.1 hfield
  rw [repricedKeys] at hkey
  rw [Schema.mem_evaluated, looseKeys]
  split at hkey
  · rename_i hcommission
    have hunit : field.1 = Field.unitPrice := List.mem_singleton.1 hkey
    rw [if_pos hcommission, hunit]
    exact ⟨.inr ⟨by simp, hunit ▸ hsource⟩, by decide⟩
  · rename_i hcommission
    rw [if_neg hcommission]
    exact ⟨.inr ⟨hkey, hsource⟩, List.not_mem_nil⟩

theorem recompute_recompute (hnames : (context.catalog.items.map (·.name)).Nodup)
    (h : schema.Layered row) (htravel : Product.isTravel row = false) :
    (recompute schema context (recompute schema context row).1).1 =
      (recompute schema context row).1 := by
  have htravelF : Product.isTravel (formulaPass schema context row).1.row = false :=
    isTravel_formulaPass h htravel
  set final := (recompute schema context row).1 with hfinal
  have hoverrides : final.overrides = row.overrides := overrides_recompute schema context row
  have hproduct : final.get? Field.product = row.get? Field.product := product_recompute h htravel
  have hpassed : Row.AgreeOff (looseKeys (ruledRow schema context row))
      (formulaPass schema context final).1.row final := agreeOff_formulaPass_recompute h htravel
  have htravelFinal : Product.isTravel (formulaPass schema context final).1.row = false := by
    have hsame := (hpassed.mono (looseKeys_subset _)).cells Field.product (by decide)
    rw [Product.isTravel_congr (hsame.trans hproduct), htravel]
  -- the rules do not read the total, the only cell that the second pass may move
  have hruled : Row.AgreeOff (looseKeys (ruledRow schema context row))
      (ruledRow schema context final) final := by
    have hunread : ∀ key ∈ looseKeys (ruledRow schema context row),
        key ∉ Rules.readFields ++ Rules.writtenFields := by
      intro key hkey
      rw [List.mem_singleton.1 (looseKeys_subset _ hkey)]
      decide
    have hagree := (local_applyRules context).agreeOff hunread hpassed
    rwa [applyRules_recompute hnames htravelF] at hagree
  have hcommission : Product.isCommission (ruledRow schema context final) =
      Product.isCommission (ruledRow schema context row) :=
    isCommission_again htravelF (hruled.mono (looseKeys_subset _))
  have hrepriced : repricedKeys (ruledRow schema context final) =
      repricedKeys (ruledRow schema context row) := by
    rw [repricedKeys, repricedKeys, hcommission]
  rw [recompute_row htravelFinal, sharedRow_again htravelF hruled, hrepriced,
    schema.formulasOf_congr hoverrides]
  refine Row.AgreeOff.eq (Row.refreshAll_agreeOff (.refl _ _) fun field hfield _ => ⟨?_, by simp⟩)
  obtain ⟨hevaluated, hloose⟩ := mem_evaluated_of_repriced hfield
  exact holds_recompute h htravel hevaluated hloose

end

/-! ## A fabric and an hour of labor -/

def fabricSchema : Schema where
  name := "grid"
  columns := [
    { key := Field.preparationHours, kind := .number, formula := some "{largeur}" },
    { key := Field.unitPrice, kind := .number, formula := some "{pv_tissu_deco1} + {pv_prepa}" },
    { key := Field.totalPrice, kind := .number, formula := some "{prix_unitaire} * {quantite}" }]

def fabricContext : Context where
  catalog := ⟨[{ id := "f1", name := "Lin", buyPrice := 10, sellPrice := 30 }]⟩
  settings := { hourlyRate := 40 }

def fabricRow : Row :=
  ((((⟨"r", ∅, ∅⟩ : Row).setText Field.product "Rideau").setNumber Field.width 2).setText
    MaterialSlot.decorative1.reference " Lin ").setNumber MaterialSlot.decorative1.meters 3

theorem layered_fabricRow : fabricSchema.Layered fabricRow where
  distinct := by decide +kernel
  acyclic := by decide +kernel
  not_self := by decide +kernel
  below_prices := by decide +kernel
  unit_below_total := by decide +kernel
  not_written := by decide +kernel

theorem recompute_recompute_fabricRow :
    (fabricContext.catalog.items.map (·.name)).Nodup ∧ fabricSchema.Layered fabricRow ∧
      Product.isTravel fabricRow = false ∧
      (recompute fabricSchema fabricContext (recompute fabricSchema fabricContext fabricRow).1).1 =
        (recompute fabricSchema fabricContext fabricRow).1 := by
  have hnames : (fabricContext.catalog.items.map (·.name)).Nodup := by decide
  have htravel : Product.isTravel fabricRow = false := by decide +kernel
  exact ⟨hnames, layered_fabricRow, htravel,
    recompute_recompute hnames layered_fabricRow htravel⟩

end Drapery
