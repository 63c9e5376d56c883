import Drapery.Proofs.BinaryDivision
import Drapery.Proofs.CatalogCells
import Drapery.Proofs.PurchaseGroups

/-!
# The cost of what the catalog prices

The catalog writes the cost of a slot, and the purchase summary reads it.  Each
of them has its own table of the slots whose cost is that of the whole line.  The
tables agree, so that the summary has the price of all the metres of the row.
-/

namespace Drapery

/-! ## What the catalog writes -/

theorem Row.amount_of_number {row : Row} {key : String} {x : Float}
    (h : row.get? key = some (.number x)) (hfinite : x.isFinite) : row.amount key = x := by
  simp [Row.amount, h, Amount.ofCell, Amount.ofNumber, hfinite]

theorem Row.label_ne_of_found {row : Row} {catalog : Catalog} {nameKey idKey : String}
    {item : CatalogItem} (h : row.reference catalog nameKey idKey = .found item) :
    row.label nameKey ≠ "" := by
  intro hempty
  have hnone : row.label? nameKey = none := by
    rw [Row.label?, hempty]
    rfl
  rw [Row.reference, hnone] at h
  simp only at h
  split at h <;> cases h

theorem MaterialSlot.get?_buy_applyCatalog {slot : MaterialSlot} (h : slot.Distinct)
    {catalog : Catalog} {row : Row} {item : CatalogItem}
    (hfound : slot.reference? catalog row = .found item) :
    (slot.applyCatalog catalog row).get? slot.buy = some (.number (slot.prices item row).1) := by
  simp only [Distinct, List.nodup_cons] at h
  obtain ⟨-, hid, -, hbuy, -⟩ := h
  have hunread : [slot.meters, Field.quantity] ⊆
      [slot.meters, slot.buy, slot.sell, Field.quantity] := by
    simp
  have hkept : slot.prices item (row.record slot.referenceId (.found item)) =
      slot.prices item row := by
    refine slot.dependsOn_prices item _ _ fun key hkey => Row.get?_record_of_ne ?_ _
    rintro rfl
    exact hid (hunread hkey)
  rw [applyCatalog, hfound, ← hkept]
  change ((row.record slot.referenceId (.found item)).setPrices slot.buy slot.sell
    (slot.prices item)).get? slot.buy = _
  exact Row.get?_setPrices_buy _ fun heq => hbuy (by simp [heq])

theorem Rules.get?_buy_mechanism {catalog : Catalog} {row : Row} {item : CatalogItem}
    (hrail : Product.hasRail row)
    (hfound : row.reference catalog Field.mechanismModel Field.mechanismModelId = .found item) :
    (mechanism catalog row).1.get? Field.mechanismBuy =
      some (.number (railPrices item row).1) := by
  set recorded := row.record Field.mechanismModelId (.found item) with hrecorded
  have hkept : railPrices item (setDimension item recorded) = railPrices item row := by
    refine dependsOn_railPrices item _ _ fun key hkey => ?_
    obtain rfl := List.mem_singleton.1 hkey
    rw [get?_setDimension_of_ne _ _ (by decide), hrecorded, Row.get?_record_of_ne (by decide)]
  rw [mechanism, if_pos hrail, hfound, ← hkept]
  change (priceRail item recorded).get? Field.mechanismBuy = _
  rw [priceRail_eq]
  exact Row.get?_setPrices_buy _ (by decide)

/-! ## The two tables -/

theorem MaterialSlot.exists_purchaseSlot : ∀ slot ∈ MaterialSlot.fabrics,
    ∃ entry ∈ PurchaseSlot.all, entry.reference = slot.reference ∧ entry.meters = slot.meters ∧
      entry.divisor = 1 ∧ entry.cost = slot.buy ∧ entry.needsRail = false ∧
      entry.basis = if slot.buysWholeLine then .lineTotal else .perUnit := by
  decide +kernel

theorem PurchaseSlot.costOf_of_prices {entry : PurchaseSlot} {slot : MaterialSlot} {row : Row}
    {item : CatalogItem} {meters : Float} (hcostKey : entry.cost = slot.buy)
    (hbasis : entry.basis = if slot.buysWholeLine then .lineTotal else .perUnit)
    (hmeters : row.amount slot.meters = meters)
    (hcost : row.get? slot.buy = some (.number (slot.prices item row).1))
    (hunit : (meters * item.buyPrice).isFinite)
    (hline : (meters * item.buyPrice * max 1 (row.amount Field.quantity)).isFinite) :
    entry.costOf row = meters * item.buyPrice * max 1 (row.amount Field.quantity) := by
  simp only [MaterialSlot.prices, hmeters] at hcost
  rw [costOf, hbasis, hcostKey]
  cases hwhole : slot.buysWholeLine with
  | true =>
      simp only [hwhole, if_true] at hcost ⊢
      exact Row.amount_of_number hcost hline
  | false =>
      simp only [hwhole, Bool.false_eq_true, if_false] at hcost ⊢
      rw [Row.amount_of_number hcost hunit, Row.quantity]

/-! ## Lines of the summary -/

/-- The summary has a line of the row in the group of what the slot buys. -/
def PurchaseSummary.Lists (summary : PurchaseSummary) (row : Row) (slot : PurchaseSlot)
    (meters cost : Float) : Prop :=
  ∃ group ∈ summary.list slot.family, group.identity = slot.identityOf row ∧
    ∃ line ∈ group.lines, line.rowId = row.id ∧ line.linearMeters = meters ∧ line.cost = cost

theorem PurchaseSummary.lists_of_meters {rows : List Row} {row : Row} {slot : PurchaseSlot}
    {meters : Float} (hrow : row ∈ rows) (hslot : slot ∈ PurchaseSlot.all)
    (happlies : slot.appliesTo row) (hnamed : row.label slot.reference ≠ "")
    (hmeters : slot.metersOf row = meters) (hpos : 0 < meters) :
    (PurchaseSummary.ofRows rows).Lists row slot (meters * max 1 (row.amount Field.quantity))
      (slot.costOf row) := by
  subst hmeters
  have hbought : slot.Bought row := ⟨happlies, hnamed, hpos⟩
  have hentry : (row, slot) ∈ (boughtSlots rows).filter (·.2.family = slot.family) := by
    simp [boughtSlots, hrow, hslot, hbought]
  have hline := (lines_list_perm rows slot.family).mem_iff.2 (List.mem_map_of_mem hentry)
  obtain ⟨group, hgroup, hmem⟩ := List.mem_flatMap.1 hline
  obtain ⟨line, hline, heq⟩ := List.mem_map.1 hmem
  obtain ⟨hidentity, rfl⟩ := Prod.mk.inj heq
  exact ⟨group, hgroup, hidentity, _, hline, rfl, rfl, rfl⟩

section

variable {schema : Schema} {context : Context} {row : Row} {rows : List Row} {item : CatalogItem}
  {meters quantity : Float}

theorem get?_buy_recompute_of_found {slot : MaterialSlot} (hslot : slot ∈ MaterialSlot.fabrics)
    (hfound : slot.reference? context.catalog (formulaPass schema context row).1.row =
      .found item) :
    (recompute schema context row).1.get? slot.buy =
      some (.number (slot.prices item (recompute schema context row).1).1) := by
  have hdistinct : ∀ slot ∈ MaterialSlot.fabrics, slot.Distinct := by decide
  have hprices : slot.prices item (recompute schema context row).1 =
      slot.prices item (formulaPass schema context row).1.row :=
    slot.dependsOn_prices item _ _ fun key hkey =>
      get?_recompute_of_slot_input hslot (List.mem_cons_of_mem _ hkey)
  have hwritten : slot.buy ∈ slot.footprint.outputs := by simp [MaterialSlot.footprint]
  rw [hprices, get?_recompute_of_slot hslot hwritten]
  exact MaterialSlot.get?_buy_applyCatalog (hdistinct slot hslot) hfound

theorem lists_of_found_slot (hrow : (recompute schema context row).1 ∈ rows) (hpos : 0 < meters)
    (hunit : (meters * item.buyPrice).isFinite)
    (hquantity : max 1 ((recompute schema context row).1.amount Field.quantity) = quantity)
    (hline : (meters * item.buyPrice * quantity).isFinite)
    {slot : MaterialSlot} (hslot : slot ∈ MaterialSlot.fabrics)
    (hfound : slot.reference? context.catalog (formulaPass schema context row).1.row = .found item)
    (hmeters : (recompute schema context row).1.amount slot.meters = meters) :
    ∃ entry ∈ PurchaseSlot.all, entry.reference = slot.reference ∧
      (PurchaseSummary.ofRows rows).Lists (recompute schema context row).1 entry
        (meters * quantity) (meters * item.buyPrice * quantity) := by
  set final := (recompute schema context row).1 with hfinal
  obtain ⟨entry, hentry, hreference, hmetersKey, hdivisor, hcostKey, hrail, hbasis⟩ :=
    MaterialSlot.exists_purchaseSlot slot hslot
  have happlies : entry.appliesTo final := by simp [PurchaseSlot.appliesTo, hrail]
  have hnamed : final.label entry.reference ≠ "" := by
    rw [hreference, Row.label_congr (get?_recompute_of_slot_input hslot List.mem_cons_self)]
    exact Row.label_ne_of_found hfound
  have hmetersOf : entry.metersOf final = meters := by
    rw [PurchaseSlot.metersOf, hmetersKey, hdivisor, Binary.div_one, hmeters]
  have hcostOf : entry.costOf final = meters * item.buyPrice * quantity := by
    subst hquantity
    exact PurchaseSlot.costOf_of_prices hcostKey hbasis hmeters
      (get?_buy_recompute_of_found hslot hfound) hunit hline
  refine ⟨entry, hentry, hreference, ?_⟩
  rw [← hcostOf, ← hquantity]
  exact PurchaseSummary.lists_of_meters hrow hentry happlies hnamed hmetersOf hpos

theorem lists_of_found_rail (hrow : (recompute schema context row).1 ∈ rows) (hpos : 0 < meters)
    (hunit : (meters * item.buyPrice).isFinite)
    (hquantity : max 1 ((recompute schema context row).1.amount Field.quantity) = quantity)
    (hrail : Product.hasRail (formulaPass schema context row).1.row)
    (hfound : (formulaPass schema context row).1.row.reference context.catalog
      Field.mechanismModel Field.mechanismModelId = .found item)
    (hmeters : (recompute schema context row).1.amount Field.mechanismWidth / 100 = meters) :
    (PurchaseSummary.ofRows rows).Lists (recompute schema context row).1 PurchaseSlot.rail
      (meters * quantity) (meters * item.buyPrice * quantity) := by
  set passed := (formulaPass schema context row).1.row with hpassed
  set final := (recompute schema context row).1 with hfinal
  have hkept : ∀ key ∈ Rules.mechanismFootprint.inputs, final.get? key = passed.get? key :=
    fun _ => get?_recompute_of_mechanism_input
  have hwidth : final.amount Field.mechanismWidth = passed.amount Field.mechanismWidth :=
    Row.amount_congr (hkept _ (by decide))
  have hcost : final.get? Field.mechanismBuy = some (.number (meters * item.buyPrice)) := by
    rw [hfinal, get?_recompute_of_mechanism (by decide), Rules.get?_buy_mechanism hrail hfound,
      Rules.railPrices, ← hwidth, hmeters]
  have hcostOf : PurchaseSlot.rail.costOf final = meters * item.buyPrice * quantity := by
    change final.amount Field.mechanismBuy * final.quantity = _
    rw [Row.amount_of_number hcost hunit, Row.quantity, hquantity]
  have happlies : PurchaseSlot.rail.appliesTo final := by
    change Product.hasRail final
    rw [Product.hasRail, Row.label_congr (hkept _ (by decide))]
    exact hrail
  have hnamed : final.label Field.mechanismModel ≠ "" := by
    rw [Row.label_congr (hkept _ (by decide))]
    exact Row.label_ne_of_found hfound
  rw [← hcostOf, ← hquantity]
  exact PurchaseSummary.lists_of_meters hrow (by simp [PurchaseSlot.all]) happlies hnamed hmeters
    hpos

/-- The summary of rows with a recomputed row has a line for each fabric slot of
it that the catalog resolved and that takes some metres, and for its rail.  The
line has the metres of all units of the row, and their price as its cost, whether
the slot records the cost of the line or of a unit. -/
theorem catalog_cost_purchased (schema : Schema) (context : Context) (row : Row)
    {rows : List Row} (hrow : (recompute schema context row).1 ∈ rows) (item : CatalogItem)
    (meters quantity : Float) (hpos : 0 < meters)
    (hquantity : max 1 ((recompute schema context row).1.amount Field.quantity) = quantity)
    (hunit : (meters * item.buyPrice).isFinite)
    (hline : (meters * item.buyPrice * quantity).isFinite) :
    (∀ slot ∈ MaterialSlot.fabrics,
      slot.reference? context.catalog (formulaPass schema context row).1.row = .found item →
      (recompute schema context row).1.amount slot.meters = meters →
        ∃ entry ∈ PurchaseSlot.all, entry.reference = slot.reference ∧
          (PurchaseSummary.ofRows rows).Lists (recompute schema context row).1 entry
            (meters * quantity) (meters * item.buyPrice * quantity)) ∧
    (Product.hasRail (formulaPass schema context row).1.row →
      (formulaPass schema context row).1.row.reference context.catalog Field.mechanismModel
        Field.mechanismModelId = .found item →
      (recompute schema context row).1.amount Field.mechanismWidth / 100 = meters →
        (PurchaseSummary.ofRows rows).Lists (recompute schema context row).1 PurchaseSlot.rail
          (meters * quantity) (meters * item.buyPrice * quantity)) :=
  ⟨fun _ hslot => lists_of_found_slot hrow hpos hunit hquantity hline hslot,
    lists_of_found_rail hrow hpos hunit hquantity⟩

end

def yardSchema : Schema where
  name := "grid"
  columns := [{ key := MaterialSlot.lining.meters, formula := some "{ml_tissu_deco1} - 1" }]

def yardContext : Context where
  catalog := ⟨[{ id := "f1", name := "Lin", buyPrice := 10 },
    { id := "r1", name := "Rail bois", buyPrice := 7 }]⟩

def windowRow : Row :=
  (((((((⟨"w", ∅, ∅⟩ : Row).setNumber Field.quantity 3).setText
    MaterialSlot.decorative1.reference "Lin").setNumber MaterialSlot.decorative1.meters 2.5).setText
      MaterialSlot.lining.reference "Lin").setText Field.mechanismType "Rail").setText
        Field.mechanismModel "Rail bois").setNumber Field.mechanismWidth 250

def Reference.price? : Reference → Option Float
  | .found item => some item.buyPrice
  | _ => none

theorem Reference.exists_found {reference : Reference} {price : Float}
    (h : reference.price? = some price) :
    ∃ item, reference = .found item ∧ item.buyPrice = price := by
  cases reference with
  | found item => exact ⟨item, rfl, Option.some.inj h⟩
  | empty => cases h
  | cleared => cases h
  | unknown => cases h

/-- The windows counted as half of one, which is bought as one. -/
def halfRow : Row := windowRow.setNumber Field.quantity 0.5

theorem catalog_cost_purchased_windowRow :
    (∃ entry ∈ PurchaseSlot.all, entry.reference = MaterialSlot.decorative1.reference ∧
      (PurchaseSummary.ofRows [(recompute yardSchema yardContext windowRow).1]).Lists
        (recompute yardSchema yardContext windowRow).1 entry (2.5 * 3) (2.5 * 10 * 3)) ∧
    (∃ entry ∈ PurchaseSlot.all, entry.reference = MaterialSlot.lining.reference ∧
      (PurchaseSummary.ofRows [(recompute yardSchema yardContext windowRow).1]).Lists
        (recompute yardSchema yardContext windowRow).1 entry (1.5 * 3) (1.5 * 10 * 3)) ∧
    (PurchaseSummary.ofRows [(recompute yardSchema yardContext windowRow).1]).Lists
      (recompute yardSchema yardContext windowRow).1 PurchaseSlot.rail (2.5 * 3)
        (2.5 * 7 * 3) ∧
    ∃ entry ∈ PurchaseSlot.all, entry.reference = MaterialSlot.decorative1.reference ∧
      (PurchaseSummary.ofRows [(recompute yardSchema yardContext halfRow).1]).Lists
        (recompute yardSchema yardContext halfRow).1 entry (2.5 * 1) (2.5 * 10 * 1) := by
  have hquantity : max 1 ((recompute yardSchema yardContext windowRow).1.amount Field.quantity) =
      3 := by decide +kernel
  have hhalf : max 1 ((recompute yardSchema yardContext halfRow).1.amount Field.quantity) = 1 := by
    decide +kernel
  have hpriced (item : CatalogItem) (meters : Float) (hpos : 0 < meters) :=
    catalog_cost_purchased yardSchema yardContext windowRow (List.mem_singleton_self _) item meters
      3 hpos hquantity
  obtain ⟨front, hfront, hfrontPrice⟩ : ∃ item, MaterialSlot.decorative1.reference?
      yardContext.catalog (formulaPass yardSchema yardContext windowRow).1.row = .found item ∧
        item.buyPrice = 10 := Reference.exists_found (by decide +kernel)
  obtain ⟨behind, hbehind, hbehindPrice⟩ : ∃ item, MaterialSlot.lining.reference?
      yardContext.catalog (formulaPass yardSchema yardContext windowRow).1.row = .found item ∧
        item.buyPrice = 10 := Reference.exists_found (by decide +kernel)
  obtain ⟨rail, hrail, hrailPrice⟩ : ∃ item,
      (formulaPass yardSchema yardContext windowRow).1.row.reference yardContext.catalog
        Field.mechanismModel Field.mechanismModelId = .found item ∧ item.buyPrice = 7 :=
    Reference.exists_found (by decide +kernel)
  obtain ⟨single, hsingle, hsinglePrice⟩ : ∃ item, MaterialSlot.decorative1.reference?
      yardContext.catalog (formulaPass yardSchema yardContext halfRow).1.row = .found item ∧
        item.buyPrice = 10 := Reference.exists_found (by decide +kernel)
  refine ⟨?_, ?_, ?_, ?_⟩
  · obtain ⟨hslots, -⟩ := hpriced front 2.5 (by decide +kernel)
      (by rw [hfrontPrice]; decide +kernel) (by rw [hfrontPrice]; decide +kernel)
    rw [hfrontPrice] at hslots
    exact hslots _ (by decide) hfront (by decide +kernel)
  · obtain ⟨hslots, -⟩ := hpriced behind 1.5 (by decide +kernel)
      (by rw [hbehindPrice]; decide +kernel) (by rw [hbehindPrice]; decide +kernel)
    rw [hbehindPrice] at hslots
    exact hslots _ (by decide) hbehind (by decide +kernel)
  · obtain ⟨-, hmounted⟩ := hpriced rail 2.5 (by decide +kernel)
      (by rw [hrailPrice]; decide +kernel) (by rw [hrailPrice]; decide +kernel)
    rw [hrailPrice] at hmounted
    exact hmounted (by decide +kernel) hrail (by decide +kernel)
  · obtain ⟨hslots, -⟩ := catalog_cost_purchased yardSchema yardContext halfRow
      (List.mem_singleton_self _) single 2.5 1 (by decide +kernel) hhalf
      (by rw [hsinglePrice]; decide +kernel) (by rw [hsinglePrice]; decide +kernel)
    rw [hsinglePrice] at hslots
    exact hslots _ (by decide) hsingle (by decide +kernel)

end Drapery
