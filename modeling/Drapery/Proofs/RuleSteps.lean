import Drapery.Recompute.Basic
import Drapery.Proofs.Pricing

/-!
# The rules after the formulas

Each slot, the mechanism and the labor lines are a step with its own cells.  The
cells of different steps are apart, so the rules as a whole write what they
write into any row that agrees on what they read, and applying them again to
their own result changes nothing.
-/

namespace Drapery

/-! ## Mechanism -/

namespace Rules

def railPricing : Pricing where
  nameKey := Field.mechanismModel
  idKey := Field.mechanismModelId
  buy := Field.mechanismBuy
  sell := Field.mechanismSell
  price := priceRail

theorem applyRail_eq (catalog : Catalog) (row : Row) :
    applyRail row (row.reference catalog Field.mechanismModel Field.mechanismModelId) =
      railPricing.run catalog row := by
  cases hreference : row.reference catalog Field.mechanismModel Field.mechanismModelId <;>
    simp only [applyRail, Pricing.run, Pricing.act, railPricing, hreference]

def railPrices (item : CatalogItem) (row : Row) : Float × Float :=
  let meters := row.amount Field.mechanismWidth / 100
  (meters * item.buyPrice, meters * item.sellPrice)

theorem dependsOn_railPrices (item : CatalogItem) :
    Row.DependsOn [Field.mechanismWidth] (railPrices item) := by
  intro a b h
  have hwidth := Row.amount_congr (h Field.mechanismWidth (by simp))
  simp only [railPrices, hwidth]

def setDimension (item : CatalogItem) (row : Row) : Row :=
  match item.dimension with
  | some dimension => row.setText Field.mechanismDimension dimension
  | none => row

theorem priceRail_eq (item : CatalogItem) (row : Row) :
    priceRail item row = (setDimension item row).setPrices Field.mechanismBuy Field.mechanismSell
      (railPrices item) := rfl

theorem get?_setDimension_of_ne (item : CatalogItem) (row : Row) {key : String}
    (h : key ≠ Field.mechanismDimension) : (setDimension item row).get? key = row.get? key := by
  rw [setDimension]
  split
  · exact row.get?_set_of_ne _ h
  · rfl

theorem setDimension_of_get? {item : CatalogItem} (row : Row) {after : Row}
    (h : after.get? Field.mechanismDimension =
      (setDimension item row).get? Field.mechanismDimension) :
    setDimension item after = after := by
  cases hdimension : item.dimension with
  | none => simp only [setDimension, hdimension]
  | some dimension =>
      simp only [setDimension, hdimension, Row.setText, Row.get?_set_self] at h ⊢
      exact Row.set_of_get? h

theorem get?_priceRail (item : CatalogItem) (row : Row) {key : String}
    (h : key ∉ [Field.mechanismDimension, Field.mechanismBuy, Field.mechanismSell]) :
    (priceRail item row).get? key = row.get? key := by
  simp only [List.mem_cons, List.not_mem_nil, or_false, not_or] at h
  obtain ⟨hdimension, hbuy, hsell⟩ := h
  rw [priceRail_eq, Row.get?_setPrices_of_ne _ hbuy hsell, get?_setDimension_of_ne _ _ hdimension]

theorem priceRail_priceRail (item : CatalogItem) (row : Row) :
    priceRail item (priceRail item row) = priceRail item row := by
  have hdimension : setDimension item (priceRail item row) = priceRail item row := by
    refine setDimension_of_get? row ?_
    rw [priceRail_eq]
    exact Row.get?_setPrices_of_ne _ (by decide) (by decide)
  rw [priceRail_eq, hdimension, priceRail_eq]
  exact Row.setPrices_setPrices (dependsOn_railPrices item) (by decide) (by decide) (by decide) _

theorem settled_railPricing : railPricing.Settled where
  id_ne_name := by decide
  name_not_price := by decide
  id_not_price := by decide
  name_price item row := get?_priceRail item row (by decide)
  id_price item row := get?_priceRail item row (by decide)
  price_price := priceRail_priceRail

def mechanismFootprint : Footprint where
  inputs := [Field.mechanismType, Field.mechanismModel, Field.mechanismWidth]
  outputs := [Field.mechanismModelId, Field.mechanismDimension, Field.mechanismBuy,
    Field.mechanismSell]

theorem local_priceRail (item : CatalogItem) :
    Row.Local mechanismFootprint.inputs mechanismFootprint.outputs (priceRail item) := by
  have hdimension : Row.Local mechanismFootprint.inputs mechanismFootprint.outputs
      (setDimension item) := by
    cases hdimension : item.dimension with
    | none =>
        have hid : setDimension item = fun row => row := by
          funext row
          simp only [setDimension, hdimension]
        rw [hid]
        exact .id
    | some dimension =>
        have hset : setDimension item =
            fun row => row.set Field.mechanismDimension (.text dimension) := by
          funext row
          simp only [setDimension, hdimension, Row.setText]
        rw [hset]
        exact .set (by decide) _
  exact hdimension.comp
    (.setPrices (dependsOn_railPrices item) (by decide) (by decide) (by decide))

def mechanismOf (catalog : Catalog) (kind : String) (row : Row) : Row :=
  if kind == Product.railName then railPricing.run catalog row
  else if Product.isBlindMechanism kind then row.setText Field.mechanismDimension ""
  else row

theorem mechanism_eq (catalog : Catalog) (row : Row) :
    (mechanism catalog row).1 = mechanismOf catalog (row.label Field.mechanismType) row := by
  rw [mechanism, mechanismOf, ← Product.hasRail]
  split
  · simp only [applyRail_eq]
  · split <;> rfl

theorem local_mechanismOf (catalog : Catalog) (kind : String) :
    Row.Local mechanismFootprint.inputs mechanismFootprint.outputs (mechanismOf catalog kind) := by
  by_cases hrail : kind == Product.railName
  · have hrun : mechanismOf catalog kind = railPricing.run catalog := by
      funext row
      rw [mechanismOf, if_pos hrail]
    rw [hrun]
    exact Pricing.local_run catalog (by decide) (by decide) (by decide) (by decide) local_priceRail
  by_cases hblind : Product.isBlindMechanism kind
  · have hset : mechanismOf catalog kind =
        fun row => row.set Field.mechanismDimension (.text "") := by
      funext row
      rw [mechanismOf, if_neg hrail, if_pos hblind, Row.setText]
    rw [hset]
    exact .set (by decide) _
  · have hid : mechanismOf catalog kind = fun row => row := by
      funext row
      rw [mechanismOf, if_neg hrail, if_neg hblind]
    rw [hid]
    exact .id

theorem mechanismOf_mechanismOf {catalog : Catalog}
    (hnames : (catalog.items.map (·.name)).Nodup) (kind : String) (row : Row) :
    mechanismOf catalog kind (mechanismOf catalog kind row) = mechanismOf catalog kind row := by
  simp only [mechanismOf]
  split
  · exact Pricing.run_run settled_railPricing hnames row
  · split
    · rw [Row.setText, Row.setText, Row.set_of_get? (Row.get?_set_self ..)]
    · rfl

def mechanismStep (catalog : Catalog) : Step where
  toFootprint := mechanismFootprint
  run row := (mechanism catalog row).1
  isLocal := by
    have hkind : Row.DependsOn (mechanismFootprint.inputs ++ mechanismFootprint.outputs)
        fun row => row.label Field.mechanismType :=
      fun a b h => Row.label_congr (h _ (by decide))
    simp only [mechanism_eq]
    exact .choose _ (mechanismOf catalog) hkind (local_mechanismOf catalog)

@[simp] theorem run_mechanismStep (catalog : Catalog) (row : Row) :
    (mechanismStep catalog).run row = (mechanism catalog row).1 := by
  simp only [mechanismStep]

theorem mechanism_mechanism {catalog : Catalog} (hnames : (catalog.items.map (·.name)).Nodup)
    (row : Row) : (mechanism catalog (mechanism catalog row).1).1 = (mechanism catalog row).1 := by
  have hframe : Row.AgreeOff mechanismFootprint.outputs (mechanism catalog row).1 row := by
    rw [← run_mechanismStep]
    exact (mechanismStep catalog).isLocal.frame row
  have hkind : (mechanism catalog row).1.label Field.mechanismType =
      row.label Field.mechanismType := Row.label_congr (hframe.cells _ (by decide))
  rw [mechanism_eq, hkind, mechanism_eq]
  exact mechanismOf_mechanismOf hnames _ row

/-! ## Labor -/

def saleFootprint (line : String × String) : Footprint where
  inputs := [line.1]
  outputs := [line.2]

def saleStep (rate : Float) (line : String × String) : Step where
  toFootprint := saleFootprint line
  run row := sellAt rate row line
  isLocal := by
    have hcount : Row.DependsOn ([line.1] ++ [line.2]) fun row => row.amount line.1 :=
      fun a b h => Row.amount_congr (h _ (by simp))
    refine .choose _ (fun count row =>
      if 0 < count then row.setNumber line.2 (count * rate) else row) hcount fun count => ?_
    split
    · exact .set List.mem_cons_self _
    · exact .id

theorem sellAt_sellAt (rate : Float) {line : String × String} (hline : line.1 ≠ line.2)
    (row : Row) : sellAt rate (sellAt rate row line) line = sellAt rate row line := by
  have hcount : (sellAt rate row line).amount line.1 = row.amount line.1 :=
    Row.amount_congr (((saleStep rate line).isLocal.frame row).cells _ (by
      simpa [saleStep, saleFootprint] using hline))
  rw [sellAt, hcount]
  split
  · rename_i hpositive
    refine Row.set_of_get? ?_
    simp only [sellAt, if_pos hpositive, Row.setNumber, Row.get?_set_self]
  · rfl

def sales (settings : Settings) : List Step :=
  laborLines.map (saleStep settings.hourlyRate) ++
    subcontractedLines.map (saleStep settings.subcontractingCoefficient)

def laborOf (settings : Settings) (product : String) (row : Row) : Row :=
  if Product.isLaborBilled product then Step.runAll (sales settings) row else row

theorem labor_eq (settings : Settings) (row : Row) :
    labor settings row = laborOf settings (row.text Field.product) row := rfl

theorem footprint_sales (settings : Settings) :
    (sales settings).map (·.toFootprint) =
      (laborLines ++ subcontractedLines).map saleFootprint := rfl

def laborFootprint : Footprint where
  inputs := Field.product :: (laborLines ++ subcontractedLines).map (·.1)
  outputs := (laborLines ++ subcontractedLines).map (·.2)

theorem local_sales (settings : Settings) :
    Row.Local laborFootprint.inputs laborFootprint.outputs (Step.runAll (sales settings)) := by
  apply Step.local_runAll
  have hlines : ∀ sale ∈ (sales settings).map (·.toFootprint),
      sale.inputs ⊆ laborFootprint.inputs ∧ sale.outputs ⊆ laborFootprint.outputs := by
    rw [footprint_sales]
    decide
  exact fun step hstep => hlines _ (List.mem_map_of_mem hstep)

theorem runAll_sales_runAll_sales (settings : Settings) (row : Row) :
    Step.runAll (sales settings) (Step.runAll (sales settings) row) =
      Step.runAll (sales settings) row := by
  apply Step.runAll_runAll
  · have hapart : ((sales settings).map (·.toFootprint)).Pairwise Footprint.Apart := by
      rw [footprint_sales]
      decide
    exact List.pairwise_map.1 hapart
  · have hsettled : ∀ (rate : Float), ∀ line ∈ laborLines ++ subcontractedLines, ∀ row,
        (saleStep rate line).run ((saleStep rate line).run row) = (saleStep rate line).run row := by
      intro rate line hline row
      have hne : ∀ line ∈ laborLines ++ subcontractedLines, line.1 ≠ line.2 := by decide
      exact sellAt_sellAt rate (hne line hline) row
    intro step hstep row
    rcases List.mem_append.1 hstep with hstep | hstep
    · obtain ⟨line, hline, rfl⟩ := List.mem_map.1 hstep
      exact hsettled _ line (List.mem_append_left _ hline) row
    · obtain ⟨line, hline, rfl⟩ := List.mem_map.1 hstep
      exact hsettled _ line (List.mem_append_right _ hline) row

theorem local_laborOf (settings : Settings) (product : String) :
    Row.Local laborFootprint.inputs laborFootprint.outputs (laborOf settings product) := by
  by_cases hbilled : Product.isLaborBilled product
  · have hrun : laborOf settings product = Step.runAll (sales settings) := by
      funext row
      rw [laborOf, if_pos hbilled]
    rw [hrun]
    exact local_sales settings
  · have hid : laborOf settings product = fun row => row := by
      funext row
      rw [laborOf, if_neg hbilled]
    rw [hid]
    exact .id

theorem laborOf_laborOf (settings : Settings) (product : String) (row : Row) :
    laborOf settings product (laborOf settings product row) = laborOf settings product row := by
  simp only [laborOf]
  split
  · exact runAll_sales_runAll_sales settings row
  · rfl

def laborStep (settings : Settings) : Step where
  toFootprint := laborFootprint
  run := labor settings
  isLocal := by
    have hproduct : Row.DependsOn (laborFootprint.inputs ++ laborFootprint.outputs)
        fun row => row.text Field.product :=
      fun a b h => Row.text_congr (h _ (by decide))
    have hrun : labor settings = fun row => laborOf settings (row.text Field.product) row :=
      funext (labor_eq settings)
    rw [hrun]
    exact .choose _ (laborOf settings) hproduct (local_laborOf settings)

@[simp] theorem run_laborStep (settings : Settings) (row : Row) :
    (laborStep settings).run row = labor settings row := by
  simp only [laborStep]

theorem labor_labor (settings : Settings) (row : Row) :
    labor settings (labor settings row) = labor settings row := by
  have hframe : Row.AgreeOff laborFootprint.outputs (labor settings row) row := by
    rw [← run_laborStep]
    exact (laborStep settings).isLocal.frame row
  have hproduct : (labor settings row).text Field.product = row.text Field.product :=
    Row.text_congr (hframe.cells _ (by decide))
  rw [labor_eq settings (labor settings row), hproduct, labor_eq]
  exact laborOf_laborOf settings _ row

/-! ## The rules as a whole -/

def steps (context : Context) : List Step :=
  MaterialSlot.fabrics.map (·.step context.catalog) ++
    [mechanismStep context.catalog, laborStep context.settings]

def footprints : List Footprint :=
  MaterialSlot.fabrics.map (·.footprint) ++ [mechanismFootprint, laborFootprint]

theorem footprint_steps (context : Context) :
    (steps context).map (·.toFootprint) = footprints := rfl

def readFields : List String := footprints.flatMap (·.inputs)

def writtenFields : List String := footprints.flatMap (·.outputs)

theorem priceSlots_row (catalog : Catalog) (slots : List MaterialSlot) (row : Row) :
    (priceSlots slots catalog row).1 = Step.runAll (slots.map (·.step catalog)) row := by
  rw [priceSlots, Step.runAll, List.foldl_map]
  exact (List.foldl_hom Prod.fst fun _ _ => rfl).symm

end Rules

theorem applyRules_row (context : Context) (row : Row) :
    (applyRules context row).1 = Step.runAll (Rules.steps context) row := by
  rw [Rules.steps, Step.runAll_append, ← Rules.priceSlots_row, Step.runAll_cons,
    Step.runAll_cons, Step.runAll_nil, Rules.run_mechanismStep, Rules.run_laborStep]
  simp only [applyRules, Rules.fabrics]

theorem local_applyRules (context : Context) :
    Row.Local Rules.readFields Rules.writtenFields fun row => (applyRules context row).1 := by
  simp only [applyRules_row]
  apply Step.local_runAll
  have hfootprints : ∀ footprint ∈ (Rules.steps context).map (·.toFootprint),
      footprint.inputs ⊆ Rules.readFields ∧ footprint.outputs ⊆ Rules.writtenFields := by
    rw [Rules.footprint_steps]
    decide
  exact fun step hstep => hfootprints _ (List.mem_map_of_mem hstep)

theorem Rules.pairwise_steps (context : Context) :
    (Rules.steps context).Pairwise fun s t => s.Apart t.toFootprint := by
  have hapart : ((Rules.steps context).map (·.toFootprint)).Pairwise Footprint.Apart := by
    rw [Rules.footprint_steps]
    decide
  exact List.pairwise_map.1 hapart

theorem applyRules_applyRules {context : Context}
    (hnames : (context.catalog.items.map (·.name)).Nodup) (row : Row) :
    (applyRules context (applyRules context row).1).1 = (applyRules context row).1 := by
  rw [applyRules_row, applyRules_row]
  apply Step.runAll_runAll (Rules.pairwise_steps context)
  intro step hstep row
  rcases List.mem_append.1 hstep with hstep | hstep
  · obtain ⟨slot, hslot, rfl⟩ := List.mem_map.1 hstep
    have hdistinct : ∀ slot ∈ MaterialSlot.fabrics, slot.Distinct := by decide
    simp only [MaterialSlot.run_step]
    exact MaterialSlot.applyCatalog_applyCatalog (hdistinct slot hslot) hnames row
  · rcases List.mem_pair.1 hstep with rfl | rfl
    · simp only [Rules.run_mechanismStep]
      exact Rules.mechanism_mechanism hnames row
    · simp only [Rules.run_laborStep]
      exact Rules.labor_labor context.settings row

end Drapery
