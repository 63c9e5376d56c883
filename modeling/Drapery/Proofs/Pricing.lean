import Drapery.Proofs.CatalogReference

/-!
# Prices that follow the catalog

A reference is recorded, and then two cells take prices: those of the item that
was found, or zero when the name was cleared.  When the prices depend on none of
the cells that are written, pricing a row again changes nothing.
-/

namespace Drapery

/-! ## Two prices -/

namespace Row

def setPrices (row : Row) (buy sell : String) (prices : Row → Float × Float) : Row :=
  (row.setNumber buy (prices row).1).setNumber sell (prices row).2

variable {buy sell : String} {prices : Row → Float × Float}

theorem get?_setPrices_of_ne (row : Row) {key : String} (hbuy : key ≠ buy) (hsell : key ≠ sell) :
    (row.setPrices buy sell prices).get? key = row.get? key := by
  rw [setPrices, setNumber, setNumber, get?_set_of_ne _ _ hsell, get?_set_of_ne _ _ hbuy]

theorem get?_setPrices_buy (row : Row) (hne : buy ≠ sell) :
    (row.setPrices buy sell prices).get? buy = some (.number (prices row).1) := by
  rw [setPrices, setNumber, setNumber, get?_set_of_ne _ _ hne, get?_set_self]

theorem get?_setPrices_sell (row : Row) :
    (row.setPrices buy sell prices).get? sell = some (.number (prices row).2) := by
  rw [setPrices, setNumber, get?_set_self]

theorem setPrices_setPrices {keys : List String} (hprices : DependsOn keys prices)
    (hbuy : buy ∉ keys) (hsell : sell ∉ keys) (hne : buy ≠ sell) (row : Row) :
    (row.setPrices buy sell prices).setPrices buy sell prices = row.setPrices buy sell prices := by
  have hsame : prices (row.setPrices buy sell prices) = prices row := by
    refine hprices _ _ fun key hkey => row.get?_setPrices_of_ne ?_ ?_
    · rintro rfl
      exact hbuy hkey
    · rintro rfl
      exact hsell hkey
  have hbought : (row.setPrices buy sell prices).get? buy = some (.number (prices row).1) :=
    row.get?_setPrices_buy hne
  have hsold : (row.setPrices buy sell prices).get? sell = some (.number (prices row).2) :=
    row.get?_setPrices_sell
  generalize row.setPrices buy sell prices = priced at *
  rw [setPrices, hsame, setNumber, setNumber, set_of_get? hbought, set_of_get? hsold]

theorem Local.setPrices {inputs outputs keys : List String} (hprices : DependsOn keys prices)
    (hkeys : keys ⊆ inputs) (hbuy : buy ∈ outputs) (hsell : sell ∈ outputs) :
    Local inputs outputs fun row => row.setPrices buy sell prices := by
  have hread : DependsOn (inputs ++ outputs) prices :=
    hprices.mono fun key hkey => List.mem_append_left _ (hkeys hkey)
  exact .choose prices (fun values row => (row.setNumber buy values.1).setNumber sell values.2)
    hread fun _ => (Local.set hbuy _).comp (.set hsell _)

end Row

/-! ## Prices that follow a reference -/

structure Pricing where
  nameKey : String
  idKey : String
  buy : String
  sell : String
  price : CatalogItem → Row → Row

namespace Pricing

def act (pricing : Pricing) (reference : Reference) (row : Row) : Row :=
  let row := row.record pricing.idKey reference
  match reference with
  | .found item => pricing.price item row
  | .cleared => (row.setNumber pricing.buy 0).setNumber pricing.sell 0
  | .empty | .unknown => row

def run (pricing : Pricing) (catalog : Catalog) (row : Row) : Row :=
  pricing.act (row.reference catalog pricing.nameKey pricing.idKey) row

/-- The name and the recorded identifier are not among the price cells, and
pricing an item again changes nothing. -/
structure Settled (pricing : Pricing) : Prop where
  id_ne_name : pricing.idKey ≠ pricing.nameKey
  name_not_price : pricing.nameKey ∉ [pricing.buy, pricing.sell]
  id_not_price : pricing.idKey ∉ [pricing.buy, pricing.sell]
  name_price : ∀ item row,
    (pricing.price item row).get? pricing.nameKey = row.get? pricing.nameKey
  id_price : ∀ item row,
    (pricing.price item row).get? pricing.idKey = row.get? pricing.idKey
  price_price : ∀ item row,
    pricing.price item (pricing.price item row) = pricing.price item row

variable {pricing : Pricing} {outputs : List String}

theorem local_record (inputs : List String) (hid : pricing.idKey ∈ outputs)
    (reference : Reference) :
    Row.Local inputs outputs fun row => row.record pricing.idKey reference := by
  cases reference with
  | empty => exact .id
  | cleared => exact .remove hid
  | found item =>
      have hlabel : Row.DependsOn (inputs ++ outputs) fun row => row.label? pricing.idKey :=
        fun a b h => Row.label?_congr (h _ (List.mem_append_right _ hid))
      refine .choose _ (fun label row =>
        if item.id.isEmpty || label == some item.id then row
        else row.setText pricing.idKey item.id) hlabel fun label => ?_
      split
      · exact .id
      · exact .set hid _
  | unknown => exact .id

theorem local_run {inputs : List String} (catalog : Catalog) (hname : pricing.nameKey ∈ inputs)
    (hid : pricing.idKey ∈ outputs) (hbuy : pricing.buy ∈ outputs)
    (hsell : pricing.sell ∈ outputs)
    (hprice : ∀ item, Row.Local inputs outputs (pricing.price item)) :
    Row.Local inputs outputs (pricing.run catalog) := by
  have hreference : Row.DependsOn (inputs ++ outputs) fun row =>
      row.reference catalog pricing.nameKey pricing.idKey := by
    intro a b h
    exact Row.reference_congr (h _ (List.mem_append_left _ hname))
      (h _ (List.mem_append_right _ hid))
  refine .choose _ pricing.act hreference fun reference => ?_
  have hrecord := local_record inputs hid reference
  cases reference with
  | empty => exact hrecord
  | cleared => exact (hrecord.comp (.set hbuy _)).comp (.set hsell _)
  | found item => exact hrecord.comp (hprice item)
  | unknown => exact hrecord

theorem run_run (h : pricing.Settled) {catalog : Catalog}
    (hnames : (catalog.items.map (·.name)).Nodup) (row : Row) :
    pricing.run catalog (pricing.run catalog row) = pricing.run catalog row := by
  have hname : pricing.nameKey ≠ pricing.buy ∧ pricing.nameKey ≠ pricing.sell := by
    simpa using h.name_not_price
  have hid : pricing.idKey ≠ pricing.buy ∧ pricing.idKey ≠ pricing.sell := by
    simpa using h.id_not_price
  cases hreference : row.reference catalog pricing.nameKey pricing.idKey with
  | empty => simp only [run, hreference, act, Row.record]
  | unknown => simp only [run, hreference, act, Row.record]
  | cleared =>
      have hrun : pricing.run catalog row =
          (row.remove pricing.idKey).setPrices pricing.buy pricing.sell fun _ => (0, 0) := by
        simp only [run, hreference, act, Row.record, Row.setPrices]
      -- with name and identifier gone, there is no reference any more
      have hempty : (pricing.run catalog row).reference catalog pricing.nameKey pricing.idKey =
          .empty := by
        refine Row.reference_of_cleared hreference ?_ ?_
        · rw [hrun, Row.get?_setPrices_of_ne _ hname.1 hname.2, Row.get?_remove,
            if_neg h.id_ne_name.symm]
        · rw [hrun, Row.get?_setPrices_of_ne _ hid.1 hid.2, Row.get?_remove, if_pos rfl]
      rw [run, hempty]
      simp only [act, Row.record]
  | found item =>
      set recorded := row.record pricing.idKey (.found item) with hrecorded
      have hrun : pricing.run catalog row = pricing.price item recorded := by
        simp only [run, hreference, act, hrecorded]
      have hidKept : (pricing.price item recorded).get? pricing.idKey =
          recorded.get? pricing.idKey := h.id_price item recorded
      have hnameKept : (pricing.price item recorded).get? pricing.nameKey =
          row.get? pricing.nameKey := by
        rw [h.name_price, hrecorded, Row.get?_record_of_ne h.id_ne_name.symm]
      have hfound := Row.reference_of_record hnames hreference hnameKept hidKept
      rw [hrun, run, hfound, act, Row.record_record hidKept]
      exact h.price_price item recorded

end Pricing

/-! ## Fabrics -/

namespace MaterialSlot

def pricing (slot : MaterialSlot) : Pricing where
  nameKey := slot.reference
  idKey := slot.referenceId
  buy := slot.buy
  sell := slot.sell
  price := slot.price

theorem applyCatalog_eq (slot : MaterialSlot) (catalog : Catalog) :
    slot.applyCatalog catalog = slot.pricing.run catalog := by
  funext row
  cases hreference : row.reference catalog slot.reference slot.referenceId <;>
    simp only [applyCatalog, applyReference, reference?, Pricing.run, Pricing.act, pricing,
      hreference]

def prices (slot : MaterialSlot) (item : CatalogItem) (row : Row) : Float × Float :=
  let unitCost := row.amount slot.meters * item.buyPrice
  (if slot.buysWholeLine then unitCost * max 1 (row.amount Field.quantity) else unitCost,
    row.amount slot.meters * item.sellPrice)

theorem dependsOn_prices (slot : MaterialSlot) (item : CatalogItem) :
    Row.DependsOn [slot.meters, Field.quantity] (slot.prices item) := by
  intro a b h
  have hmeters := Row.amount_congr (h slot.meters (by simp))
  have hquantity := Row.amount_congr (h Field.quantity (by simp))
  simp only [prices, hmeters, hquantity]

def footprint (slot : MaterialSlot) : Footprint where
  inputs := [slot.reference, slot.meters, Field.quantity]
  outputs := [slot.referenceId, slot.buy, slot.sell]

def step (slot : MaterialSlot) (catalog : Catalog) : Step where
  toFootprint := slot.footprint
  run := slot.applyCatalog catalog
  isLocal := by
    rw [applyCatalog_eq]
    exact Pricing.local_run catalog (by simp [pricing, footprint]) (by simp [pricing, footprint])
      (by simp [pricing, footprint]) (by simp [pricing, footprint]) fun item =>
        .setPrices (slot.dependsOn_prices item) (by simp [footprint]) (by simp [footprint])
          (by simp [footprint])

@[simp] theorem run_step (slot : MaterialSlot) (catalog : Catalog) (row : Row) :
    (slot.step catalog).run row = slot.applyCatalog catalog row := by
  simp only [step]

def Distinct (slot : MaterialSlot) : Prop :=
  [slot.reference, slot.referenceId, slot.meters, slot.buy, slot.sell, Field.quantity].Nodup

instance (slot : MaterialSlot) : Decidable slot.Distinct :=
  inferInstanceAs (Decidable (List.Nodup _))

theorem settled_pricing {slot : MaterialSlot} (h : slot.Distinct) : slot.pricing.Settled := by
  simp only [Distinct, List.nodup_cons, List.mem_cons, not_or] at h
  refine ⟨?_, ?_, ?_, ?_, ?_, ?_⟩
  · change slot.referenceId ≠ slot.reference
    tauto
  · simp only [pricing, List.mem_cons, not_or]
    tauto
  · simp only [pricing, List.mem_cons, not_or]
    tauto
  · intro item row
    change (row.setPrices slot.buy slot.sell (slot.prices item)).get? slot.reference = _
    exact row.get?_setPrices_of_ne (by tauto) (by tauto)
  · intro item row
    change (row.setPrices slot.buy slot.sell (slot.prices item)).get? slot.referenceId = _
    exact row.get?_setPrices_of_ne (by tauto) (by tauto)
  · intro item row
    refine Row.setPrices_setPrices (slot.dependsOn_prices item) ?_ ?_ (by tauto) row
    · simp only [List.mem_cons, not_or]
      tauto
    · simp only [List.mem_cons, not_or]
      tauto

theorem applyCatalog_applyCatalog {slot : MaterialSlot} {catalog : Catalog} (h : slot.Distinct)
    (hnames : (catalog.items.map (·.name)).Nodup) (row : Row) :
    slot.applyCatalog catalog (slot.applyCatalog catalog row) = slot.applyCatalog catalog row := by
  rw [applyCatalog_eq]
  exact Pricing.run_run (settled_pricing h) hnames row

end MaterialSlot

end Drapery
