import Drapery.Proofs.CatalogCost

/-!
# What becomes of a reference

A name that was cleared takes its identifier and its prices with it.  A name
that leads to an item has the item's identifier and prices, and one that leads
nowhere is reported and keeps what is there.  The slots and the rail of a
recomputed row are all of this kind.
-/

namespace Drapery

namespace Pricing

/-- The name of the final row, with the identifier that the formulas left, says
what the cells of the reference hold in the end and whether it is reported. -/
structure Follows (pricing : Pricing) (prices : CatalogItem → Row → Float × Float)
    (catalog : Catalog) (passed final : Row) (unresolved : List String) : Prop where
  unnamed : final.label? pricing.nameKey = none →
    final.label? pricing.idKey = none ∧ pricing.nameKey ∉ unresolved ∧
      (passed.label? pricing.idKey ≠ none →
        final.get? pricing.buy = some (.number 0) ∧ final.get? pricing.sell = some (.number 0)) ∧
      (passed.label? pricing.idKey = none →
        final.get? pricing.buy = passed.get? pricing.buy ∧
          final.get? pricing.sell = passed.get? pricing.sell)
  found : ∀ name item, final.label? pricing.nameKey = some name →
    catalog.resolve? (passed.label? pricing.idKey) name = some item →
      pricing.nameKey ∉ unresolved ∧
        (item.id = "" ∨ final.text pricing.idKey = item.id ∨
          final.label pricing.idKey = item.id) ∧
        final.get? pricing.buy = some (.number (prices item final).1) ∧
        final.get? pricing.sell = some (.number (prices item final).2)
  unknown : ∀ name, final.label? pricing.nameKey = some name →
    catalog.resolve? (passed.label? pricing.idKey) name = none →
      pricing.nameKey ∈ unresolved ∧
        final.get? pricing.idKey = passed.get? pricing.idKey ∧
        final.get? pricing.buy = passed.get? pricing.buy ∧
        final.get? pricing.sell = passed.get? pricing.sell

structure Quotes (pricing : Pricing) (prices : CatalogItem → Row → Float × Float) : Prop
    extends pricing.Settled where
  buy_price : ∀ item row,
    (pricing.price item row).get? pricing.buy = some (.number (prices item row).1)
  sell_price : ∀ item row,
    (pricing.price item row).get? pricing.sell = some (.number (prices item row).2)
  prices_record : ∀ item row reference,
    prices item (row.record pricing.idKey reference) = prices item row
  buy_ne_sell : pricing.buy ≠ pricing.sell

end Pricing

/-! ## The identifier of the item that was found -/

namespace Row

variable {row : Row} {key idKey : String} {item : CatalogItem}

theorem label_of_label? {label : String} (h : row.label? key = some label) :
    row.label key = label := by
  rw [label?] at h
  split at h
  · cases h
  · exact Option.some.inj h

theorem text_record_found :
    item.id = "" ∨ (row.record idKey (.found item)).text idKey = item.id ∨
      (row.record idKey (.found item)).label idKey = item.id := by
  rw [record]
  split
  · rename_i hkept
    rw [Bool.or_eq_true, String.isEmpty_iff, beq_iff_eq] at hkept
    exact hkept.imp_right fun hlabel => .inr (label_of_label? hlabel)
  · refine .inr (.inl ?_)
    simp [text, setText, Cell.text?]

end Row

/-! ## The cells after pricing -/

namespace Pricing

variable {pricing : Pricing} {prices : CatalogItem → Row → Float × Float} {catalog : Catalog}
  {passed final : Row} {unresolved : List String}

theorem follows_of_run (h : pricing.Quotes prices)
    (hname : final.get? pricing.nameKey = passed.get? pricing.nameKey)
    (hcells : ∀ key ∈ [pricing.idKey, pricing.buy, pricing.sell],
      final.get? key = (pricing.run catalog passed).get? key)
    (hprices : ∀ item, prices item final = prices item passed)
    (hlisted : pricing.nameKey ∈ unresolved ↔
      (passed.reference catalog pricing.nameKey pricing.idKey).isResolved = false) :
    pricing.Follows prices catalog passed final unresolved := by
  have hlabel : final.label? pricing.nameKey = passed.label? pricing.nameKey :=
    Row.label?_congr hname
  have hid := hcells pricing.idKey (by simp)
  have hbuy := hcells pricing.buy (by simp)
  have hsell := hcells pricing.sell (by simp)
  refine ⟨fun hunnamed => ?_, fun name item hnamed hresolved => ?_, fun name hnamed hresolved => ?_⟩
  · rw [hlabel] at hunnamed
    cases hrecorded : passed.label? pricing.idKey with
    | none =>
        have hreference : passed.reference catalog pricing.nameKey pricing.idKey = .empty := by
          simp only [Row.reference, hunnamed, hrecorded, Option.isNone_none, if_true]
        simp only [run, hreference, act, Row.record] at hid hbuy hsell
        refine ⟨by rw [Row.label?_congr hid, hrecorded], ?_, by simp, fun _ => ⟨hbuy, hsell⟩⟩
        simp [hlisted, hreference, Reference.isResolved]
    | some id =>
        have hreference : passed.reference catalog pricing.nameKey pricing.idKey = .cleared := by
          simp [Row.reference, hunnamed, hrecorded]
        have hrun : pricing.run catalog passed =
            (passed.remove pricing.idKey).setPrices pricing.buy pricing.sell fun _ => (0, 0) := by
          simp only [run, hreference, act, Row.record, Row.setPrices]
        obtain ⟨hnebuy, hnesell⟩ :
            pricing.idKey ≠ pricing.buy ∧ pricing.idKey ≠ pricing.sell := by
          simpa using h.id_not_price
        rw [hrun, Row.get?_setPrices_of_ne _ hnebuy hnesell, Row.get?_remove, if_pos rfl] at hid
        rw [hrun, Row.get?_setPrices_buy _ h.buy_ne_sell] at hbuy
        rw [hrun, Row.get?_setPrices_sell] at hsell
        refine ⟨Row.label?_of_absent hid, ?_, fun _ => ⟨hbuy, hsell⟩, by simp⟩
        simp [hlisted, hreference, Reference.isResolved]
  · rw [hlabel] at hnamed
    have hreference : passed.reference catalog pricing.nameKey pricing.idKey = .found item := by
      simp only [Row.reference, hnamed, hresolved]
    set recorded := passed.record pricing.idKey (.found item) with hrecorded
    have hrun : pricing.run catalog passed = pricing.price item recorded := by
      simp only [run, hreference, act, hrecorded]
    rw [hrun, h.id_price] at hid
    rw [hrun, h.buy_price, hrecorded, h.prices_record, ← hprices] at hbuy
    rw [hrun, h.sell_price, hrecorded, h.prices_record, ← hprices] at hsell
    refine ⟨by simp [hlisted, hreference, Reference.isResolved], ?_, hbuy, hsell⟩
    rw [Row.text_congr hid, Row.label_congr hid, hrecorded]
    exact Row.text_record_found
  · rw [hlabel] at hnamed
    have hreference : passed.reference catalog pricing.nameKey pricing.idKey = .unknown := by
      simp only [Row.reference, hnamed, hresolved]
    simp only [run, hreference, act, Row.record] at hid hbuy hsell
    exact ⟨by simp [hlisted, hreference, Reference.isResolved], hid, hbuy, hsell⟩

end Pricing

theorem MaterialSlot.quotes_pricing {slot : MaterialSlot} (h : slot.Distinct) :
    slot.pricing.Quotes slot.prices := by
  have hsettled := settled_pricing h
  simp only [Distinct, List.nodup_cons, List.mem_cons, not_or] at h
  have hne : slot.buy ≠ slot.sell := by tauto
  refine ⟨hsettled, fun item row => ?_, fun item row => ?_, fun item row reference => ?_, hne⟩
  · change (row.setPrices slot.buy slot.sell (slot.prices item)).get? slot.buy = _
    exact row.get?_setPrices_buy hne
  · change (row.setPrices slot.buy slot.sell (slot.prices item)).get? slot.sell = _
    exact row.get?_setPrices_sell
  · refine slot.dependsOn_prices item _ _ fun key hkey => Row.get?_record_of_ne ?_ reference
    rintro rfl
    simp only [pricing, List.mem_cons, List.not_mem_nil, or_false] at hkey
    tauto

theorem Rules.quotes_railPricing : railPricing.Quotes railPrices := by
  have hunread : ∀ item (row : Row), railPrices item (setDimension item row) =
      railPrices item row := by
    intro item row
    refine dependsOn_railPrices item _ _ fun key hkey => ?_
    obtain rfl := List.mem_singleton.1 hkey
    exact get?_setDimension_of_ne item row (by decide)
  refine ⟨settled_railPricing, fun item row => ?_, fun item row => ?_,
    fun item row reference => ?_, by decide⟩
  · change (priceRail item row).get? Field.mechanismBuy = _
    rw [← hunread, priceRail_eq]
    exact Row.get?_setPrices_buy _ (by decide)
  · change (priceRail item row).get? Field.mechanismSell = _
    rw [← hunread, priceRail_eq]
    exact Row.get?_setPrices_sell _
  · refine dependsOn_railPrices item _ _ fun key hkey => Row.get?_record_of_ne ?_ reference
    obtain rfl := List.mem_singleton.1 hkey
    decide

/-! ## The report -/

namespace Rules

theorem mechanism_isResolved (catalog : Catalog) (row : Row) :
    (mechanism catalog row).2 = (!Product.hasRail row ||
      (row.reference catalog Field.mechanismModel Field.mechanismModelId).isResolved) := by
  rw [mechanism]
  split
  · rename_i hrail
    simp [hrail]
  · rename_i hrail
    split <;> simp [hrail]

theorem get?_fabrics {key : String} (h : key ∉ fabricCells) (catalog : Catalog) (row : Row) :
    (fabrics catalog row).1.get? key = row.get? key :=
  (agreeOff_fabrics catalog row).cells key h

theorem mechanism_isResolved_fabrics (catalog : Catalog) (row : Row) :
    (mechanism catalog (fabrics catalog row).1).2 = (mechanism catalog row).2 := by
  have hrail : Product.hasRail (fabrics catalog row).1 = Product.hasRail row := by
    rw [Product.hasRail, Product.hasRail, Row.label_congr (get?_fabrics (by decide) catalog row)]
  rw [mechanism_isResolved, mechanism_isResolved, hrail,
    Row.reference_congr (get?_fabrics (by decide) catalog row)
      (get?_fabrics (by decide) catalog row)]

end Rules

section

variable {schema : Schema} {context : Context} {row : Row}

theorem unresolved_recompute :
    (recompute schema context row).2.unresolved =
      (MaterialSlot.fabrics.filter fun slot => !(slot.reference? context.catalog
          (formulaPass schema context row).1.row).isResolved).map (·.reference) ++
        if (Rules.mechanism context.catalog (formulaPass schema context row).1.row).2 then []
        else [Field.mechanismModel] := by
  have hapart : MaterialSlot.fabrics.Pairwise
      fun slot other => slot.footprint.Apart other.footprint := by decide
  rw [recompute_eq, applyRules]
  simp only [Rules.mechanism_isResolved_fabrics]
  rw [Rules.fabrics, Rules.priceSlots_unresolved context.catalog hapart]
  split
  · rw [List.append_nil]
  · rfl

theorem unresolved_recompute_sublist :
    (recompute schema context row).2.unresolved.Sublist
      (MaterialSlot.fabrics.map (·.reference) ++ [Field.mechanismModel]) := by
  rw [unresolved_recompute]
  refine (List.filter_sublist.map _).append ?_
  split
  · exact List.nil_sublist _
  · exact List.Sublist.refl _

theorem mechanismModel_mem_unresolved_recompute :
    Field.mechanismModel ∈ (recompute schema context row).2.unresolved ↔
      Product.hasRail (formulaPass schema context row).1.row ∧
        ((formulaPass schema context row).1.row.reference context.catalog Field.mechanismModel
          Field.mechanismModelId).isResolved = false := by
  have hslots : Field.mechanismModel ∉ MaterialSlot.fabrics.map (·.reference) := by decide
  rw [unresolved_recompute, List.mem_append, Rules.mechanism_isResolved]
  constructor
  · rintro (hslot | hrail)
    · exact absurd ((List.filter_sublist.map _).subset hslot) hslots
    · split at hrail
      · cases hrail
      · rename_i hunresolved
        simpa using hunresolved
  · rintro ⟨hrail, hunresolved⟩
    right
    simp [hrail, hunresolved]

theorem hasRail_recompute :
    Product.hasRail (recompute schema context row).1 =
      Product.hasRail (formulaPass schema context row).1.row := by
  rw [Product.hasRail, Product.hasRail,
    Row.label_congr (get?_recompute_of_mechanism_input (by decide))]

theorem follows_recompute_of_slot {slot : MaterialSlot} (hslot : slot ∈ MaterialSlot.fabrics) :
    slot.pricing.Follows slot.prices context.catalog (formulaPass schema context row).1.row
      (recompute schema context row).1 (recompute schema context row).2.unresolved := by
  have hdistinct : ∀ slot ∈ MaterialSlot.fabrics, slot.Distinct := by decide
  have hread : ∀ key ∈ slot.footprint.inputs, (recompute schema context row).1.get? key =
      (formulaPass schema context row).1.row.get? key :=
    fun _ => get?_recompute_of_slot_input hslot
  refine Pricing.follows_of_run (MaterialSlot.quotes_pricing (hdistinct slot hslot))
    (hread _ List.mem_cons_self) (fun key hkey => ?_) (fun item => ?_)
    (mem_unresolved_recompute hslot)
  · rw [← MaterialSlot.applyCatalog_eq]
    exact get?_recompute_of_slot hslot hkey
  · exact slot.dependsOn_prices item _ _ fun key hkey => hread key (List.mem_cons_of_mem _ hkey)

theorem follows_recompute_of_rail (hrail : Product.hasRail (recompute schema context row).1) :
    Rules.railPricing.Follows Rules.railPrices context.catalog
      (formulaPass schema context row).1.row (recompute schema context row).1
        (recompute schema context row).2.unresolved := by
  rw [hasRail_recompute] at hrail
  have hread : ∀ key ∈ Rules.mechanismFootprint.inputs,
      (recompute schema context row).1.get? key =
        (formulaPass schema context row).1.row.get? key :=
    fun _ => get?_recompute_of_mechanism_input
  have houtputs : [Rules.railPricing.idKey, Rules.railPricing.buy, Rules.railPricing.sell] ⊆
      Rules.mechanismFootprint.outputs := by decide
  refine Pricing.follows_of_run Rules.quotes_railPricing (hread _ (by decide))
    (fun key hkey => ?_) (fun item => ?_) ?_
  · rw [get?_recompute_of_mechanism (houtputs hkey), Rules.mechanism, if_pos hrail]
    simp only [Rules.applyRail_eq]
  · refine Rules.dependsOn_railPrices item _ _ fun key hkey => ?_
    obtain rfl := List.mem_singleton.1 hkey
    exact hread _ (by decide)
  · exact mechanismModel_mem_unresolved_recompute.trans (and_iff_right hrail)

end

/-- In a recomputed row the identifier and the prices of every fabric slot follow
its name, and those of the mechanism do on a rail.  The report lists the names
that lead nowhere, in the order of the slots and the mechanism last, and no other
mechanism than a rail. -/
theorem recompute_references (schema : Schema) (context : Context) (row : Row) :
    (∀ slot ∈ MaterialSlot.fabrics,
      slot.pricing.Follows slot.prices context.catalog (formulaPass schema context row).1.row
        (recompute schema context row).1 (recompute schema context row).2.unresolved) ∧
    (Product.hasRail (recompute schema context row).1 →
      Rules.railPricing.Follows Rules.railPrices context.catalog
        (formulaPass schema context row).1.row (recompute schema context row).1
          (recompute schema context row).2.unresolved) ∧
    (recompute schema context row).2.unresolved.Sublist
      (MaterialSlot.fabrics.map (·.reference) ++ [Field.mechanismModel]) ∧
    (Field.mechanismModel ∈ (recompute schema context row).2.unresolved →
      Product.hasRail (recompute schema context row).1) := by
  refine ⟨fun slot => follows_recompute_of_slot, follows_recompute_of_rail,
    unresolved_recompute_sublist, fun hlisted => ?_⟩
  rw [hasRail_recompute]
  exact (mechanismModel_mem_unresolved_recompute.1 hlisted).1

def hallRow : Row :=
  (windowRow.setText MaterialSlot.interlining.reference "Satin").setText
    MaterialSlot.decorative2.referenceId "f1"

theorem recompute_references_hallRow :
    (recompute yardSchema yardContext hallRow).1.get? MaterialSlot.decorative1.buy =
        some (.number (2.5 * 10 * 3)) ∧
      (recompute yardSchema yardContext hallRow).1.get? MaterialSlot.decorative2.buy =
        some (.number 0) ∧
      MaterialSlot.interlining.reference ∈
        (recompute yardSchema yardContext hallRow).2.unresolved ∧
      Product.hasRail (recompute yardSchema yardContext hallRow).1 ∧
      Field.mechanismModel ∉ (recompute yardSchema yardContext hallRow).2.unresolved := by
  obtain ⟨hslots, hmounted, -, -⟩ := recompute_references yardSchema yardContext hallRow
  have hrail : Product.hasRail (recompute yardSchema yardContext hallRow).1 := by decide +kernel
  have hmeters : (recompute yardSchema yardContext hallRow).1.amount
      MaterialSlot.decorative1.meters = 2.5 := by decide +kernel
  have hquantity : max 1 ((recompute yardSchema yardContext hallRow).1.amount Field.quantity) =
      3 := by decide +kernel
  obtain ⟨front, hfront, hprice⟩ := Option.map_eq_some_iff.1
    (show (yardContext.catalog.resolve? ((formulaPass yardSchema yardContext hallRow).1.row.label?
      MaterialSlot.decorative1.referenceId) "Lin").map (·.buyPrice) = some 10 by decide +kernel)
  obtain ⟨model, hmodel⟩ := Option.isSome_iff_exists.1 (show (yardContext.catalog.resolve?
    ((formulaPass yardSchema yardContext hallRow).1.row.label?
      Field.mechanismModelId) "Rail bois").isSome by decide +kernel)
  refine ⟨?_, ?_, ?_, hrail, ?_⟩
  · obtain ⟨-, -, hbuy, -⟩ := (hslots MaterialSlot.decorative1 (by decide)).found "Lin" front
      (by decide +kernel) hfront
    have hthree : (MaterialSlot.decorative1.prices front
        (recompute yardSchema yardContext hallRow).1).1 = 2.5 * 10 * 3 := by
      rw [MaterialSlot.prices, hmeters, hprice, hquantity]
      rfl
    rw [hthree] at hbuy
    exact hbuy
  · obtain ⟨-, -, hcleared, -⟩ := (hslots MaterialSlot.decorative2 (by decide)).unnamed
      (by decide +kernel)
    exact (hcleared (by decide +kernel)).1
  · have hnone : yardContext.catalog.resolve?
        ((formulaPass yardSchema yardContext hallRow).1.row.label?
          MaterialSlot.interlining.referenceId) "Satin" = none :=
      Option.isNone_iff_eq_none.1 (by decide +kernel)
    exact ((hslots MaterialSlot.interlining (by decide)).unknown "Satin" (by decide +kernel)
      hnone).1
  · exact ((hmounted hrail).found "Rail bois" model (by decide +kernel) hmodel).1

end Drapery
