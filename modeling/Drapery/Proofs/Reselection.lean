import Drapery.Proofs.Pricing

/-!
# Selecting one item after another

A selection of a material writes all its cells from the item and the yardage, and
the yardage is not among them; nothing is left of an item selected before.  The
mechanism takes a dimension from models that declare one, and keeps its last
dimension under a model that does not.
-/

namespace Drapery

variable {a b : Row}

/-! ## Materials -/

namespace MaterialSlot

variable {slot : MaterialSlot}

def filledCells (slot : MaterialSlot) : List String :=
  [slot.referenceId, slot.reference, slot.width, slot.repeatV, slot.repeatH, slot.buy, slot.sell]

theorem agreeOff_price (slot : MaterialSlot) (item : CatalogItem) (row : Row) :
    Row.AgreeOff slot.filledCells (slot.price item row) row :=
  (Row.AgreeOff.set_left (by simp [filledCells]) _ _).trans
    (.set_left (by simp [filledCells]) _ _)

theorem agreeOff_select (slot : MaterialSlot) (item : CatalogItem) (row : Row) :
    Row.AgreeOff slot.filledCells (slot.select item row) row := by
  have hset : ∀ key ∈ slot.filledCells, ∀ (cell : Cell) (row : Row),
      Row.AgreeOff slot.filledCells (row.set key cell) row :=
    fun key hkey cell row => .set_left hkey row cell
  rw [select]
  refine (agreeOff_price slot item _).trans ?_
  refine (hset slot.repeatH (by simp [filledCells]) _ _).trans ?_
  refine (hset slot.repeatV (by simp [filledCells]) _ _).trans ?_
  refine (hset slot.width (by simp [filledCells]) _ _).trans ?_
  refine (hset slot.reference (by simp [filledCells]) _ _).trans ?_
  exact hset slot.referenceId (by simp [filledCells]) _ _

theorem price_congr (h : slot.Distinct) (item : CatalogItem)
    (hrows : Row.AgreeOff [slot.buy, slot.sell] a b) : slot.price item a = slot.price item b := by
  have hread : slot.meters ∉ [slot.buy, slot.sell] ∧ Field.quantity ∉ [slot.buy, slot.sell] := by
    simp only [Distinct, List.nodup_cons, List.mem_cons, not_or] at h ⊢
    tauto
  have hprices : slot.prices item a = slot.prices item b := by
    refine slot.dependsOn_prices item a b fun key hkey => hrows.cells key ?_
    rcases List.mem_pair.1 hkey with rfl | rfl
    · exact hread.1
    · exact hread.2
  change a.setPrices slot.buy slot.sell (slot.prices item) =
    b.setPrices slot.buy slot.sell (slot.prices item)
  rw [Row.setPrices, Row.setPrices, hprices]
  exact ((hrows.set_both _).set_both _).eq

theorem select_congr (h : slot.Distinct) (item : CatalogItem)
    (hrows : Row.AgreeOff slot.filledCells a b) : slot.select item a = slot.select item b :=
  price_congr h item (hrows.set_both _ |>.set_both _ |>.set_both _ |>.set_both _ |>.set_both _)

theorem select_select (h : slot.Distinct) (first second : CatalogItem) (row : Row) :
    slot.select second (slot.select first row) = slot.select second row :=
  select_congr h second (agreeOff_select slot first row)

end MaterialSlot

/-! ## Mechanisms -/

namespace Rules

def modelCells : List String :=
  [Field.mechanismModelId, Field.mechanismModel, Field.mechanismDimension]

theorem agreeOff_selectMechanism (item : CatalogItem) (row : Row) :
    Row.AgreeOff modelCells (selectMechanism item row) row := by
  have hnamed : Row.AgreeOff modelCells ((row.setText Field.mechanismModelId item.id).setText
      Field.mechanismModel item.name) row :=
    (Row.AgreeOff.set_left (by simp [modelCells]) _ _).trans
      (.set_left (by simp [modelCells]) _ _)
  rw [selectMechanism]
  cases item.dimension with
  | none => exact hnamed
  | some dimension => exact (Row.AgreeOff.set_left (by simp [modelCells]) _ _).trans hnamed

theorem selectMechanism_congr (item : CatalogItem) (hrows : Row.AgreeOff modelCells a b) :
    Row.AgreeOff [Field.mechanismDimension] (selectMechanism item a) (selectMechanism item b) := by
  have hnamed := (hrows.set_both (.text item.id)).set_both (.text item.name)
  rw [selectMechanism, selectMechanism]
  cases item.dimension with
  | none => exact hnamed
  | some dimension => exact (hnamed.set_both _).mono (List.nil_subset _)

theorem get?_selectMechanism_dimension (item : CatalogItem) (row : Row) :
    (selectMechanism item row).get? Field.mechanismDimension =
      (item.dimension.map Cell.text).or (row.get? Field.mechanismDimension) := by
  have hnamed : ((row.setText Field.mechanismModelId item.id).setText Field.mechanismModel
      item.name).get? Field.mechanismDimension = row.get? Field.mechanismDimension := by
    rw [Row.setText, Row.setText, Row.get?_set_of_ne _ _ (by decide),
      Row.get?_set_of_ne _ _ (by decide)]
  rw [selectMechanism]
  cases item.dimension with
  | none => exact hnamed
  | some dimension => exact Row.get?_set_self _ _ _

theorem agreeOff_selectMechanism_selectMechanism (first second : CatalogItem) (row : Row) :
    Row.AgreeOff [Field.mechanismDimension] (selectMechanism second (selectMechanism first row))
      (selectMechanism second row) :=
  selectMechanism_congr second (agreeOff_selectMechanism first row)

theorem selectMechanism_selectMechanism_iff (first second : CatalogItem) (row : Row) :
    selectMechanism second (selectMechanism first row) = selectMechanism second row ↔
      second.dimension.isSome ∨ ∀ dimension, first.dimension = some dimension →
        row.get? Field.mechanismDimension = some (.text dimension) := by
  rw [(agreeOff_selectMechanism_selectMechanism first second row).eq_iff]
  simp only [get?_selectMechanism_dimension]
  cases second.dimension with
  | some dimension => simp
  | none =>
      cases first.dimension with
      | none => simp
      | some dimension => simp [eq_comm]

end Rules

/-! ## The last selection -/

/-- A material that is selected leaves nothing of the one before, and a mechanism leaves at most
its dimension.  That happens if the new model declares none, unless the old one declared none
either or found its own dimension on the row. -/
theorem selection_replaces (first second : CatalogItem) (row : Row) :
    (∀ slot ∈ MaterialSlot.all,
        slot.select second (slot.select first row) = slot.select second row) ∧
      Row.AgreeOff [Field.mechanismDimension]
        (Rules.selectMechanism second (Rules.selectMechanism first row))
        (Rules.selectMechanism second row) ∧
      (Rules.selectMechanism second (Rules.selectMechanism first row) =
          Rules.selectMechanism second row ↔
        second.dimension.isSome ∨ ∀ dimension, first.dimension = some dimension →
          row.get? Field.mechanismDimension = some (.text dimension)) := by
  have hdistinct : ∀ slot ∈ MaterialSlot.all, slot.Distinct := by decide
  exact ⟨fun slot hslot => MaterialSlot.select_select (hdistinct slot hslot) first second row,
    Rules.agreeOff_selectMechanism_selectMechanism first second row,
    Rules.selectMechanism_selectMechanism_iff first second row⟩

def profiledRail : CatalogItem := { id := "m1", name := "Rail KS", dimension := some "20 x 15" }

def flatRail : CatalogItem := { id := "m2", name := "Rail Plat" }

theorem dimension_survives_selection :
    (Rules.selectMechanism flatRail (Rules.selectMechanism profiledRail ⟨"r", ∅, ∅⟩)).get?
        Field.mechanismDimension = some (.text "20 x 15") ∧
      (Rules.selectMechanism flatRail ⟨"r", ∅, ∅⟩).get? Field.mechanismDimension = none ∧
      Rules.selectMechanism flatRail (Rules.selectMechanism profiledRail ⟨"r", ∅, ∅⟩) ≠
        Rules.selectMechanism flatRail ⟨"r", ∅, ∅⟩ := by
  have hkept : (Rules.selectMechanism flatRail (Rules.selectMechanism profiledRail
      ⟨"r", ∅, ∅⟩)).get? Field.mechanismDimension = some (.text "20 x 15") := by
    simp [Rules.get?_selectMechanism_dimension, flatRail, profiledRail]
  have hnone : (Rules.selectMechanism flatRail ⟨"r", ∅, ∅⟩).get? Field.mechanismDimension =
      none := by
    rw [Rules.get?_selectMechanism_dimension]
    rfl
  refine ⟨hkept, hnone, fun hsame => ?_⟩
  rw [hsame, hnone] at hkept
  cases hkept

end Drapery
