import Drapery.Proofs.CatalogCells
import Drapery.Proofs.Idempotence

/-!
# Items that stay selected

A selection writes the name and the identifier of an item as they are, and both
are read without the blanks around them.  In a catalog that tells its items
apart, the row therefore goes on to refer to the item if its name has no blanks
around it, and else if its identifier has none and no item has the name that is
left.  As long as it does, a recomputation changes nothing in the slot.
-/

namespace Drapery

/-! ## What a catalog resolves -/

namespace Catalog

structure TellsApart (catalog : Catalog) : Prop where
  ids : (catalog.items.map (·.id)).Nodup
  names : (catalog.items.map (·.name)).Nodup
  id_nonempty : ∀ item ∈ catalog.items, item.id.isEmpty = false
  name_nonempty : ∀ item ∈ catalog.items, item.name.isEmpty = false

variable {catalog : Catalog} {item : CatalogItem}

/-- A name and an identifier lead to the item with the name, or to the one with
the identifier if no item has the name. -/
theorem resolve?_eq_some_iff (h : catalog.TellsApart) (hitem : item ∈ catalog.items)
    {id : Option String} {name : String} (hname : name.isEmpty = false) :
    catalog.resolve? id name = some item ↔
      name = item.name ∨ id = some item.id ∧ ∀ other ∈ catalog.items, other.name ≠ name := by
  constructor
  · intro hresolved
    obtain ⟨-, -, hsame | hid⟩ := mem_of_resolve? hresolved
    · exact .inl hsame.symm
    · by_cases hsame : name = item.name
      · exact .inl hsame
      · refine .inr ⟨hid, fun other hother hnamed => hsame ?_⟩
        have hother : catalog.resolve? id other.name = some other :=
          resolve?_of_name h.names hother (h.name_nonempty other hother) id
        rw [hnamed, hresolved] at hother
        rw [← hnamed, Option.some.inj hother]
  · rintro (rfl | ⟨rfl, hunnamed⟩)
    · exact resolve?_of_name h.names hitem hname id
    · have hrecorded : catalog.findById? item.id = some item :=
        findById?_of_mem h.ids hitem (h.id_nonempty item hitem)
      have hnone : catalog.findByName? name = none := by
        rw [findByName?, hname, if_neg Bool.false_ne_true, List.find?_eq_none]
        simpa using hunnamed
      have hother : (item.name == name) = false := beq_false_of_ne (hunnamed item hitem)
      rw [resolve?_of_nonempty _ hname, Option.bind_some, hrecorded, hnone, Option.filter_some]
      simp [hother]

/-- The name and identifier of the item still lead to it without the blanks
around them. -/
def Rereads (catalog : Catalog) (item : CatalogItem) : Prop :=
  Text.trimmed item.name = item.name ∨
    Text.trimmed item.name ≠ "" ∧ Text.trimmed item.id = item.id ∧
      ∀ other ∈ catalog.items, other.name ≠ Text.trimmed item.name

instance (catalog : Catalog) (item : CatalogItem) : Decidable (catalog.Rereads item) :=
  inferInstanceAs (Decidable (_ ∨ _))

end Catalog

namespace Row

variable {row : Row} {catalog : Catalog} {item : CatalogItem} {nameKey idKey key value : String}

theorem label?_of_text (h : row.get? key = some (.text value)) :
    row.label? key =
      if (Text.trimmed value).isEmpty then none else some (Text.trimmed value) := by
  simp [label?, label, text, h, Cell.text?]

theorem label?_eq_some_iff (h : row.get? key = some (.text value))
    (hvalue : value.isEmpty = false) :
    row.label? key = some value ↔ Text.trimmed value = value := by
  rw [label?_of_text h]
  constructor
  · intro hlabel
    split at hlabel
    · cases hlabel
    · exact Option.some.inj hlabel
  · intro htrimmed
    rw [htrimmed, hvalue, if_neg Bool.false_ne_true]

theorem reference_eq_found_iff (h : catalog.TellsApart) (hitem : item ∈ catalog.items)
    (hname : row.get? nameKey = some (.text item.name))
    (hid : row.get? idKey = some (.text item.id)) :
    row.reference catalog nameKey idKey = .found item ↔ catalog.Rereads item := by
  have hlabel := label?_of_text hname
  have hrecorded := label?_eq_some_iff hid (h.id_nonempty item hitem)
  cases hempty : (Text.trimmed item.name).isEmpty with
  | true =>
      -- nothing is left of the name, so that it is neither the item's own nor any
      rw [hempty, if_pos rfl] at hlabel
      have hblank : Text.trimmed item.name = "" := by simpa using hempty
      have hnamed : item.name ≠ "" := by simpa using h.name_nonempty item hitem
      have hlost : ¬ catalog.Rereads item := by simp [Catalog.Rereads, hblank, hnamed.symm]
      simp only [iff_false_right hlost, reference, hlabel]
      split <;> simp
  | false =>
      rw [hempty, if_neg Bool.false_ne_true] at hlabel
      have hnonblank : Text.trimmed item.name ≠ "" := by simpa using hempty
      have hfound : row.reference catalog nameKey idKey = .found item ↔
          catalog.resolve? (row.label? idKey) (Text.trimmed item.name) = some item := by
        simp only [reference, hlabel]
        cases hresolved : catalog.resolve? (row.label? idKey) (Text.trimmed item.name) <;>
          simp
      rw [hfound, Catalog.resolve?_eq_some_iff h hitem hempty, hrecorded, Catalog.Rereads]
      simp [hnonblank]

end Row

/-! ## The cells of a selection -/

namespace MaterialSlot

def selectionCells (slot : MaterialSlot) : List String :=
  [slot.reference, slot.referenceId, slot.width, slot.repeatV, slot.repeatH, slot.meters, slot.buy,
    slot.sell]

variable {slot : MaterialSlot} {catalog : Catalog} {item : CatalogItem} {row : Row}

theorem get?_select_reference (h : slot.selectionCells.Nodup) :
    (slot.select item row).get? slot.reference = some (.text item.name) := by
  simp only [selectionCells, List.nodup_cons, List.mem_cons, not_or] at h
  obtain ⟨⟨-, hwidth, hrepeatV, hrepeatH, -, hbuy, hsell, -⟩, -⟩ := h
  simp [select, price, Row.setNumber, Row.setText, Row.get?_set, hwidth, hrepeatV, hrepeatH, hbuy,
    hsell]

theorem get?_select_referenceId (h : slot.selectionCells.Nodup) :
    (slot.select item row).get? slot.referenceId = some (.text item.id) := by
  simp only [selectionCells, List.nodup_cons, List.mem_cons, not_or] at h
  obtain ⟨⟨hreference, -⟩, ⟨hwidth, hrepeatV, hrepeatH, -, hbuy, hsell, -⟩, -⟩ := h
  simp [select, price, Row.setNumber, Row.setText, Row.get?_set, hwidth, hrepeatV, hrepeatH, hbuy,
    hsell, Ne.symm hreference]

theorem price_select (h : slot.Distinct) :
    slot.price item (slot.select item row) = slot.select item row :=
  (settled_pricing h).price_price item _

theorem applyCatalog_select (hdistinct : slot.Distinct) (hcells : slot.selectionCells.Nodup)
    (hfound : slot.reference? catalog (slot.select item row) = .found item) :
    slot.applyCatalog catalog (slot.select item row) = slot.select item row := by
  have hrecord : (slot.select item row).record slot.referenceId (.found item) =
      slot.select item row := by
    rw [Row.record]
    split
    · rfl
    · exact Row.set_of_get? (get?_select_referenceId hcells)
  rw [applyCatalog, hfound, applyReference]
  simp only [hrecord]
  exact price_select hdistinct

end MaterialSlot

/-! ## Recomputing a selection -/

theorem get?_recompute_of_priced {schema : Schema} {context : Context} {row : Row}
    {slot : MaterialSlot} (hslot : slot ∈ MaterialSlot.fabrics)
    (hkept : ∀ key ∈ Field.quantity :: slot.selectionCells,
      (formulaPass schema context row).1.row.get? key = row.get? key)
    (hpriced : slot.applyCatalog context.catalog row = row) {key : String}
    (hkey : key ∈ slot.selectionCells) :
    (recompute schema context row).1.get? key = row.get? key := by
  set passed := (formulaPass schema context row).1.row with hpassed
  by_cases houtput : key ∈ slot.footprint.outputs
  · have hread : ∀ slot ∈ MaterialSlot.fabrics, slot.footprint.inputs ++ slot.footprint.outputs ⊆
        Field.quantity :: slot.selectionCells := by decide
    have hwritten : (slot.applyCatalog context.catalog passed).get? key =
        (slot.applyCatalog context.catalog row).get? key :=
      (slot.local_applyCatalog context.catalog).dependsOn key houtput passed row
        fun other hother => hkept other (hread slot hslot hother)
    rw [get?_recompute_of_slot hslot houtput, ← hpassed, hwritten, hpriced]
  · have hunwritten : ∀ slot ∈ MaterialSlot.fabrics, ∀ key ∈ slot.selectionCells,
        key ∉ slot.footprint.outputs → key ∉ finishedFields ++ Rules.writtenFields := by decide
    rw [get?_recompute_formulaPass (hunwritten slot hslot key hkey houtput)]
    exact hkept key (List.mem_cons_of_mem _ hkey)

/-- Where no formula computes a cell of the slot or the quantity, the row refers
to the item exactly if its name and identifier reread, and then the slot stays as
it was selected. -/
theorem recompute_select {schema : Schema} {context : Context} {row : Row} {slot : MaterialSlot}
    {item : CatalogItem} (hslot : slot ∈ MaterialSlot.fabrics)
    (hcatalog : context.catalog.TellsApart) (hitem : item ∈ context.catalog.items)
    (hplain : ∀ key ∈ Field.quantity :: slot.selectionCells,
      key ∉ (schema.formulasInForce (slot.select item row)).map (·.1)) :
    (slot.reference? context.catalog (slot.select item row) = .found item ↔
        context.catalog.Rereads item) ∧
      (context.catalog.Rereads item →
        (∀ key ∈ slot.selectionCells,
          (recompute schema context (slot.select item row)).1.get? key =
            (slot.select item row).get? key) ∧
        slot.reference ∉ (recompute schema context (slot.select item row)).2.unresolved) := by
  have hslots : ∀ slot ∈ MaterialSlot.fabrics,
      slot.Distinct ∧ slot.selectionCells.Nodup := by decide
  obtain ⟨hdistinct, hcells⟩ := hslots slot hslot
  have hreference : slot.reference? context.catalog (slot.select item row) = .found item ↔
      context.catalog.Rereads item :=
    Row.reference_eq_found_iff hcatalog hitem (MaterialSlot.get?_select_reference hcells)
      (MaterialSlot.get?_select_referenceId hcells)
  refine ⟨hreference, fun hrereads => ?_⟩
  have hfound : slot.reference? context.catalog (slot.select item row) = .found item :=
    hreference.2 hrereads
  have hkept : ∀ key ∈ Field.quantity :: slot.selectionCells,
      (formulaPass schema context (slot.select item row)).1.row.get? key =
        (slot.select item row).get? key := fun key hkey =>
    (agreeOff_formulaPass schema context (slot.select item row)).cells key (hplain key hkey)
  have hpriced : slot.applyCatalog context.catalog (slot.select item row) = slot.select item row :=
    MaterialSlot.applyCatalog_select hdistinct hcells hfound
  have hsame : slot.reference? context.catalog
      (formulaPass schema context (slot.select item row)).1.row = .found item := by
    rw [← hfound]
    exact MaterialSlot.reference?_congr context.catalog
      (hkept _ (by simp [MaterialSlot.selectionCells]))
      (hkept _ (by simp [MaterialSlot.selectionCells]))
  refine ⟨fun key hkey => get?_recompute_of_priced hslot hkept hpriced hkey, ?_⟩
  rw [mem_unresolved_recompute hslot, hsame]
  simp [Reference.isResolved]

def linen : CatalogItem := { id := "f1", name := "Lin", buyPrice := 10, sellPrice := 30 }

def linenAndBlank : CatalogItem := { id := "f2", name := "Lin ", buyPrice := 12, sellPrice := 36 }

def linenContext : Context where
  catalog := ⟨[linenAndBlank, linen]⟩

def linedRow : Row := (⟨"r", ∅, ∅⟩ : Row).setNumber MaterialSlot.lining.meters 2

theorem tellsApart_linenContext : linenContext.catalog.TellsApart where
  ids := by decide
  names := by decide
  id_nonempty := by decide
  name_nonempty := by decide

theorem recompute_select_linen :
    MaterialSlot.lining ∈ MaterialSlot.fabrics ∧ linenContext.catalog.TellsApart ∧
      linen ∈ linenContext.catalog.items ∧
      (∀ key ∈ Field.quantity :: MaterialSlot.lining.selectionCells,
        key ∉ (fabricSchema.formulasInForce
          (MaterialSlot.lining.select linen linedRow)).map (·.1)) ∧
      linenContext.catalog.Rereads linen ∧
      (∀ key ∈ MaterialSlot.lining.selectionCells,
        (recompute fabricSchema linenContext
          (MaterialSlot.lining.select linen linedRow)).1.get? key =
            (MaterialSlot.lining.select linen linedRow).get? key) ∧
      MaterialSlot.lining.reference ∉ (recompute fabricSchema linenContext
        (MaterialSlot.lining.select linen linedRow)).2.unresolved := by
  have hslot : MaterialSlot.lining ∈ MaterialSlot.fabrics := by decide
  have hitem : linen ∈ linenContext.catalog.items := List.mem_cons_of_mem _ List.mem_cons_self
  have hplain : ∀ key ∈ Field.quantity :: MaterialSlot.lining.selectionCells,
      key ∉ (fabricSchema.formulasInForce
        (MaterialSlot.lining.select linen linedRow)).map (·.1) := by decide +kernel
  have hrereads : linenContext.catalog.Rereads linen := by decide
  exact ⟨hslot, tellsApart_linenContext, hitem, hplain, hrereads,
    (recompute_select hslot tellsApart_linenContext hitem hplain).2 hrereads⟩

/-- Without its blank, the name of the one linen is that of the other. -/
theorem selection_lost_to_trimmed_name :
    MaterialSlot.lining ∈ MaterialSlot.fabrics ∧ linenContext.catalog.TellsApart ∧
      linenAndBlank ∈ linenContext.catalog.items ∧
      (⟨"grid", []⟩ : Schema).formulasInForce
        (MaterialSlot.lining.select linenAndBlank linedRow) = [] ∧
      (recompute ⟨"grid", []⟩ linenContext
        (MaterialSlot.lining.select linenAndBlank linedRow)).1.get?
          MaterialSlot.lining.referenceId ≠
        (MaterialSlot.lining.select linenAndBlank linedRow).get?
          MaterialSlot.lining.referenceId := by
  refine ⟨by decide, tellsApart_linenContext, List.mem_cons_self, rfl, fun hkept => ?_⟩
  have htext := congrArg (Option.bind · Cell.text?) hkept
  revert htext
  decide +kernel

end Drapery
