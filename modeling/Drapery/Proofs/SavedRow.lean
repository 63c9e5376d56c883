import Drapery.Proofs.EvaluationErrors
import Drapery.Proofs.FailureReport
import Drapery.Proofs.RowText
import Drapery.Proofs.WrittenCells
import Drapery.Schema.Json

/-!
# Recomputed rows are read back from their text

Formulas leave numbers that are finite, and texts.  Some rules fill cells with
products, which may be beyond every double.  A row that could be saved before it
was recomputed can be saved again exactly if those products are finite and no
formula computed a cell with the name of another member.
-/

namespace Drapery

/-! ## A property of every cell -/

namespace Row

def CellsHold (p : String → Cell → Prop) (row : Row) : Prop :=
  ∀ key cell, row.get? key = some cell → p key cell

variable {p : String → Cell → Prop} {row : Row}

theorem CellsHold.set (h : row.CellsHold p) {key : String} {cell : Cell} (hcell : p key cell) :
    (row.set key cell).CellsHold p := by
  intro other found hfound
  rw [get?_set] at hfound
  split at hfound
  · rename_i hkey
    cases hfound
    exact hkey ▸ hcell
  · exact h other found hfound

theorem CellsHold.remove (h : row.CellsHold p) (key : String) : (row.remove key).CellsHold p := by
  intro other found hfound
  rw [get?_remove] at hfound
  split at hfound
  · cases hfound
  · exact h other found hfound

theorem CellsHold.setPrices (h : row.CellsHold p) {buy sell : String}
    (hbuy : ∀ x, p buy (.number x)) (hsell : ∀ x, p sell (.number x))
    (prices : Row → Float × Float) : (row.setPrices buy sell prices).CellsHold p :=
  (h.set (hbuy _)).set (hsell _)

theorem CellsHold.refreshAll (h : row.CellsHold p) {params : Formula.Params}
    (hformula : ∀ key source row, p key (Formula.cellOf params source row))
    (fields : List (String × String)) : (row.refreshAll params fields).CellsHold p := by
  induction fields generalizing row with
  | nil => exact h
  | cons field rest ih => exact ih (h.set (hformula _ _ _))

theorem CellsHold.runAll {steps : List Step} (h : row.CellsHold p)
    (hstep : ∀ step ∈ steps, ∀ row : Row, row.CellsHold p → (step.run row).CellsHold p) :
    (Step.runAll steps row).CellsHold p := by
  induction steps generalizing row with
  | nil => exact h
  | cons step rest ih =>
      obtain ⟨hfirst, hrest⟩ := List.forall_mem_cons.1 hstep
      exact ih (hfirst row h) hrest

theorem isSome_get?_refreshAll {params : Formula.Params} {key : String}
    {fields : List (String × String)} (h : key ∈ fields.map (·.1) ∨ (row.get? key).isSome) :
    ((row.refreshAll params fields).get? key).isSome := by
  induction fields generalizing row with
  | nil => exact h.resolve_left List.not_mem_nil
  | cons field rest ih =>
      refine ih ?_
      rw [refresh, get?_set]
      by_cases hkey : key = field.1
      · simp [hkey]
      · simpa [hkey] using h

end Row

/-! ## What is finite -/

theorem isFinite_zero : (0 : Float).isFinite = true := rfl

namespace Amount

theorem isFinite_ofNumber (x : Float) : (ofNumber x).isFinite = true := by
  rw [ofNumber]
  split
  · assumption
  · exact isFinite_zero

theorem isFinite_ofCell (cell : Cell) : (ofCell cell).isFinite = true := by
  cases cell with
  | number value => exact isFinite_ofNumber value
  | text value =>
      rw [ofCell, ofText]
      split
      · exact isFinite_ofNumber _
      · exact isFinite_zero
  | flag value => cases value <;> rfl
  | null => exact isFinite_zero
  | list items => exact isFinite_zero

end Amount

namespace Row

theorem isFinite_amount (row : Row) (key : String) : (row.amount key).isFinite = true := by
  rw [amount]
  cases row.get? key with
  | none => exact isFinite_zero
  | some cell => exact Amount.isFinite_ofCell cell

theorem isFinite_crew (row : Row) : row.crew.isFinite = true := by
  rw [crew]
  change (if (1 : Float) ≤ row.amount Field.technicians then _ else _ : Float).isFinite = true
  split
  · exact row.isFinite_amount _
  · rfl

theorem isFinite_tripNights (row : Row) : row.tripNights.isFinite = true := by
  rw [tripNights]
  split
  · exact row.isFinite_crew
  · exact isFinite_zero

end Row

theorem Rules.isFinite_billedHours (hours : Float) : (billedHours hours).isFinite = true := by
  rw [billedHours]
  split <;> rfl

namespace Formula

theorem Value.toCell_settled (value : Value) :
    (∃ x, x.isFinite = true ∧ value.settled.toCell = .number x) ∨
      ∃ text, value.settled.toCell = .text text := by
  have hsettled := value.isSettled_settled
  cases hvalue : value.settled with
  | number x =>
      rw [hvalue] at hsettled
      exact .inl ⟨x, hsettled, rfl⟩
  | text text => exact .inr ⟨text, rfl⟩
  | boolean flag =>
      rw [hvalue] at hsettled
      exact hsettled.elim
  | empty => exact .inr ⟨"", rfl⟩

theorem cellOf_cases (params : Params) (source : String) (row : Row) :
    (∃ x, x.isFinite = true ∧ cellOf params source row = .number x) ∨
      ∃ text, cellOf params source row = .text text := by
  cases hparse : parse source with
  | error error => exact .inl ⟨0, isFinite_zero, cellOf_of_parse_error hparse row⟩
  | ok formula =>
      rw [cellOf_of_parse hparse, evaluate]
      cases formula.expr.eval row params with
      | error error => exact .inl ⟨0, isFinite_zero, rfl⟩
      | ok value => exact value.toCell_settled

theorem savable_cellOf (params : Params) (source : String) (row : Row) :
    (cellOf params source row).Savable := by
  rcases cellOf_cases params source row with ⟨x, hfinite, hcell⟩ | ⟨text, hcell⟩
  · exact hcell ▸ Cell.savable_number_iff.2 hfinite
  · exact hcell ▸ Cell.savable_text text

end Formula

/-! ## What the rules fill -/

namespace Rules

/-- The cells that rules fill with products. -/
def productCells : List String :=
  MaterialSlot.fabrics.flatMap (fun slot => [slot.buy, slot.sell]) ++
    [Field.mechanismBuy, Field.mechanismSell] ++
      (laborLines ++ subcontractedLines).map (·.2) ++ [Field.meals, Field.totalPrice]

def SavableOrProduct (key : String) (cell : Cell) : Prop :=
  cell.Savable ∨ key ∈ productCells ∧ ∃ x, cell = .number x

variable {row : Row} {key : String}

theorem savableOrProduct_text (key value : String) : SavableOrProduct key (.text value) :=
  .inl (Cell.savable_text value)

theorem savableOrProduct_number {x : Float} (key : String) (h : x.isFinite = true) :
    SavableOrProduct key (.number x) :=
  .inl (Cell.savable_number_iff.2 h)

theorem savableOrProduct_product (h : key ∈ productCells) (x : Float) :
    SavableOrProduct key (.number x) :=
  .inr ⟨h, x, rfl⟩

theorem cellsHold_record (h : row.CellsHold SavableOrProduct) (idKey : String)
    (reference : Reference) : (row.record idKey reference).CellsHold SavableOrProduct := by
  cases reference with
  | empty => exact h
  | unknown => exact h
  | cleared => exact h.remove idKey
  | found item =>
      rw [Row.record]
      split
      · exact h
      · exact h.set (savableOrProduct_text _ _)

theorem cellsHold_pricing {pricing : Pricing} (hbuy : pricing.buy ∈ productCells)
    (hsell : pricing.sell ∈ productCells)
    (hprice : ∀ item row, row.CellsHold SavableOrProduct →
      (pricing.price item row).CellsHold SavableOrProduct)
    (catalog : Catalog) (h : row.CellsHold SavableOrProduct) :
    (pricing.run catalog row).CellsHold SavableOrProduct := by
  rw [Pricing.run]
  generalize row.reference catalog pricing.nameKey pricing.idKey = reference
  have hrecorded := cellsHold_record h pricing.idKey reference
  cases reference with
  | empty => exact hrecorded
  | unknown => exact hrecorded
  | cleared =>
      exact (hrecorded.set (savableOrProduct_product hbuy 0)).set
        (savableOrProduct_product hsell 0)
  | found item => exact hprice item _ hrecorded

theorem cellsHold_applyCatalog {slot : MaterialSlot} (hslot : slot ∈ MaterialSlot.fabrics)
    (catalog : Catalog) (h : row.CellsHold SavableOrProduct) :
    (slot.applyCatalog catalog row).CellsHold SavableOrProduct := by
  have hcells : ∀ slot ∈ MaterialSlot.fabrics,
      slot.buy ∈ productCells ∧ slot.sell ∈ productCells := by decide
  obtain ⟨hbuy, hsell⟩ := hcells slot hslot
  rw [MaterialSlot.applyCatalog_eq]
  exact cellsHold_pricing hbuy hsell (fun item row hrow => hrow.setPrices
    (savableOrProduct_product hbuy) (savableOrProduct_product hsell) (slot.prices item)) catalog h

theorem cellsHold_mechanism (catalog : Catalog) (h : row.CellsHold SavableOrProduct) :
    (mechanism catalog row).1.CellsHold SavableOrProduct := by
  have hbuy : Field.mechanismBuy ∈ productCells := by decide
  have hsell : Field.mechanismSell ∈ productCells := by decide
  have hprice : ∀ item row, row.CellsHold SavableOrProduct →
      (priceRail item row).CellsHold SavableOrProduct := by
    intro item row hrow
    have hdimension : (setDimension item row).CellsHold SavableOrProduct := by
      rw [setDimension]
      split
      · exact hrow.set (savableOrProduct_text _ _)
      · exact hrow
    exact hdimension.setPrices (savableOrProduct_product hbuy) (savableOrProduct_product hsell)
      (railPrices item)
  rw [mechanism_eq, mechanismOf]
  split
  · exact cellsHold_pricing hbuy hsell hprice catalog h
  · split
    · exact h.set (savableOrProduct_text _ _)
    · exact h

theorem cellsHold_sales {lines : List (String × String)} (hlines : ∀ line ∈ lines,
    line.2 ∈ productCells) (rate : Float) (h : row.CellsHold SavableOrProduct) :
    (lines.foldl (sellAt rate) row).CellsHold SavableOrProduct := by
  induction lines generalizing row with
  | nil => exact h
  | cons line rest ih =>
      obtain ⟨hline, hrest⟩ := List.forall_mem_cons.1 hlines
      refine ih hrest ?_
      rw [sellAt]
      split
      · exact h.set (savableOrProduct_product hline _)
      · exact h

theorem cellsHold_labor (settings : Settings) (h : row.CellsHold SavableOrProduct) :
    (labor settings row).CellsHold SavableOrProduct := by
  rw [labor]
  split
  · exact cellsHold_sales (by decide) _ (cellsHold_sales (by decide) _ h)
  · exact h

theorem cellsHold_travel (settings : Settings) (h : row.CellsHold SavableOrProduct) :
    (travel settings row).CellsHold SavableOrProduct := by
  have hsurveyed : (surveyed row).CellsHold SavableOrProduct := by
    rw [surveyed]
    split
    · exact h
    · exact h.set (savableOrProduct_number _ isFinite_zero)
  rw [travel_eq]
  exact (((hsurveyed.set (savableOrProduct_number _ (isFinite_billedHours _))).set
    (savableOrProduct_number _ (Row.isFinite_tripNights _))).set
      (savableOrProduct_product (by decide) _)).set (savableOrProduct_product (by decide) _)

theorem cellsHold_commission (totalRevenue : Option Float)
    (h : row.CellsHold SavableOrProduct) :
    (commission totalRevenue row).CellsHold SavableOrProduct :=
  h.set (savableOrProduct_product (by decide) _)

theorem cellsHold_applyRules (context : Context) (h : row.CellsHold SavableOrProduct) :
    (applyRules context row).1.CellsHold SavableOrProduct := by
  rw [applyRules_row]
  refine h.runAll fun step hstep row hrow => ?_
  rcases List.mem_append.1 hstep with hstep | hstep
  · obtain ⟨slot, hslot, rfl⟩ := List.mem_map.1 hstep
    rw [MaterialSlot.run_step]
    exact cellsHold_applyCatalog hslot context.catalog hrow
  · rcases List.mem_pair.1 hstep with rfl | rfl
    · rw [run_mechanismStep]
      exact cellsHold_mechanism context.catalog hrow
    · rw [run_laborStep]
      exact cellsHold_labor context.settings hrow

end Rules

/-! ## The whole recomputation -/

section

variable {schema : Schema} {row : Row}

theorem cellsHold_recompute (schema : Schema) (context : Context)
    (h : row.CellsHold Rules.SavableOrProduct) :
    (recompute schema context row).1.CellsHold Rules.SavableOrProduct := by
  have hformula : ∀ key source row,
      Rules.SavableOrProduct key (Formula.cellOf context.params source row) :=
    fun key source row => .inl (Formula.savable_cellOf context.params source row)
  have hpassed : (formulaPass schema context row).1.row.CellsHold Rules.SavableOrProduct := by
    obtain ⟨sweeps, hrow⟩ := formulaPass_row schema context row
    rw [hrow]
    exact h.refreshAll hformula _
  have hruled := Rules.cellsHold_applyRules context hpassed
  cases htravel : Product.isTravel (formulaPass schema context row).1.row with
  | true =>
      rw [recompute_row_of_travel htravel]
      exact Rules.cellsHold_travel context.settings hruled
  | false =>
      rw [recompute_row htravel]
      refine Row.CellsHold.refreshAll ?_ hformula _
      rw [sharedRow]
      split
      · exact Rules.cellsHold_commission context.totalRevenue hruled
      · exact hruled

theorem isSome_get?_formulaPass (context : Context) {key : String}
    (h : key ∈ (schema.formulasInForce row).map (·.1)) :
    ((formulaPass schema context row).1.row.get? key).isSome := by
  obtain ⟨field, hfield, rfl⟩ := List.mem_map.1 h
  rw [formulaPass_eq_advance]
  exact Row.isSome_get?_refreshAll (.inl (List.mem_map_of_mem (mem_passFields context hfield)))

def Row.reservedNames : List String := [Row.idName, Row.overridesName]

def Schema.ComputesReserved (schema : Schema) (row : Row) : Prop :=
  ∃ name ∈ Row.reservedNames, name ∈ schema.keys ∧ (schema.formula? row name).isSome

instance (schema : Schema) (row : Row) : Decidable (schema.ComputesReserved row) :=
  inferInstanceAs (Decidable (∃ name ∈ Row.reservedNames, _))

theorem isSome_get?_recompute_reserved (schema : Schema) (context : Context) {name : String}
    (hname : name ∈ Row.reservedNames) (hrow : row.get? name = none) :
    ((recompute schema context row).1.get? name).isSome ↔
      name ∈ schema.keys ∧ (schema.formula? row name).isSome := by
  have hapart : ∀ name ∈ Row.reservedNames, name ∉ finishedFields ++ Rules.writtenFields ∧
      name ∉ Field.manualYardage := by decide +kernel
  obtain ⟨hrules, hyardage⟩ := hapart name hname
  have hbyHand : ¬Schema.IsByHand row name := fun h => hyardage h.2
  rw [get?_recompute_formulaPass hrules]
  by_cases hcomputed : name ∈ (schema.formulasInForce row).map (·.1)
  · obtain ⟨⟨hkey, -⟩, hformula⟩ := Schema.mem_keys_formulasInForce.1 hcomputed
    exact iff_of_true (isSome_get?_formulaPass context hcomputed) ⟨hkey, hformula⟩
  · rw [(agreeOff_formulaPass schema context row).cells name hcomputed, hrow]
    exact iff_of_false Bool.false_ne_true fun ⟨hkey, hformula⟩ =>
      hcomputed (Schema.mem_keys_formulasInForce.2 ⟨⟨hkey, hbyHand⟩, hformula⟩)

theorem not_computesReserved_iff (context : Context) (h : row.Savable) :
    ¬schema.ComputesReserved row ↔
      (recompute schema context row).1.get? Row.idName = none ∧
        (recompute schema context row).1.get? Row.overridesName = none := by
  have hid := isSome_get?_recompute_reserved schema context (by decide) h.id
  have hoverrides := isSome_get?_recompute_reserved schema context (by decide) h.overrides
  simp only [Schema.ComputesReserved, Row.reservedNames, List.mem_cons, List.not_mem_nil, or_false,
    exists_eq_or_imp, exists_eq_left, ← hid, ← hoverrides, not_or, Option.not_isSome_iff_eq_none]

def Rules.productsFinite (row : Row) : Bool :=
  productCells.all fun key => (row.get? key).all Cell.isFinite

theorem savable_recompute_iff (context : Context) (h : row.Savable) :
    (recompute schema context row).1.Savable ↔
      ¬schema.ComputesReserved row ∧
        Rules.productsFinite (recompute schema context row).1 = true := by
  have hcells := cellsHold_recompute schema context
    fun key cell hget => .inl (h.cells key cell hget)
  rw [not_computesReserved_iff context h]
  generalize (recompute schema context row).1 = after at *
  simp only [Rules.productsFinite, List.all_eq_true, Option.all_eq_true]
  constructor
  · intro hsaved
    exact ⟨⟨hsaved.id, hsaved.overrides⟩,
      fun key _ cell hget => Cell.isFinite_of_savable (hsaved.cells key cell hget)⟩
  · rintro ⟨⟨hid, hoverrides⟩, hfinite⟩
    refine ⟨hid, hoverrides, fun key cell hget => ?_⟩
    rcases hcells key cell hget with hsavable | ⟨hkey, x, rfl⟩
    · exact hsavable
    · exact Cell.savable_number_iff.2 (hfinite key hkey _ hget)

theorem read?_print_recompute {numbers : Json.NumberReader} (hnumbers : numbers.ReadsPrinted)
    (context : Context) (h : row.Savable) :
    Row.read? (recompute schema context row).1.print numbers =
      if schema.ComputesReserved row then none
      else some (recompute schema context row).1.printed := by
  have hcells := cellsHold_recompute schema context
    fun key cell hget => .inl (h.cells key cell hget)
  rw [Row.read?_print_eq hnumbers]
  · simp only [← not_computesReserved_iff context h, ite_not]
  · intro key cell hget
    rcases hcells key cell hget with hsavable | ⟨-, x, rfl⟩
    · exact Cell.savable_printed_of_savable hsavable
    · exact Cell.savable_printed_number x

end

/-- A row that was read from a text and recomputed is refused when it is read from its own text if
a formula computed a cell with the name of another member.  Otherwise it is read, with the products
beyond the doubles cleared.  So it is read as it is exactly if neither happened.  Of the reader of
numbers this takes that it reads back the doubles that are printed. -/
theorem recompute_reload {numbers : Json.NumberReader} (hnumbers : numbers.ReadsPrinted)
    {text : String} {row : Row} (h : Row.read? text numbers = some row) (schema : Schema)
    (context : Context) :
    (Row.read? (recompute schema context row).1.print numbers =
          some (recompute schema context row).1 ↔
        ¬schema.ComputesReserved row ∧
          Rules.productsFinite (recompute schema context row).1 = true) ∧
      Row.read? (recompute schema context row).1.print numbers =
        if schema.ComputesReserved row then none
        else some (recompute schema context row).1.printed := by
  have hsaved := Row.savable_of_read? h
  exact ⟨(Row.read?_print_iff_savable hnumbers).trans (savable_recompute_iff context hsaved),
    read?_print_recompute hnumbers context hsaved⟩

def curtainText : String :=
  "\x7b\"id\":\"r\",\"produit\":\"Rideau\",\"heures_prepa\":2," ++
    "\"cellFormulas\":\x7b\"prix_unitaire\":\"pv_prepa * 1.5\"\x7d\x7d"

def unitPriceSchema : Schema where
  name := "grid"
  columns := [{ key := Field.unitPrice, kind := .number }]

def hourlyContext (rate : Float) : Context where
  settings := { hourlyRate := rate }

theorem recompute_reload_curtainText : Json.NumberReader.nearest.ReadsPrinted ∧
    ∃ row, Row.read? curtainText .nearest = some row ∧
      Row.read? (recompute unitPriceSchema (hourlyContext 40) row).1.print .nearest =
        some (recompute unitPriceSchema (hourlyContext 40) row).1 := by
  have hread : (Row.read? curtainText .nearest).map (fun row =>
      (decide (unitPriceSchema.ComputesReserved row),
        Rules.productsFinite (recompute unitPriceSchema (hourlyContext 40) row).1)) =
      some (false, true) := by decide +kernel
  obtain ⟨row, hrow, hresult⟩ := Option.map_eq_some_iff.1 hread
  obtain ⟨hreserved, hfinite⟩ := Prod.mk.inj hresult
  exact ⟨Json.readsPrinted_nearest, row, hrow,
    (recompute_reload Json.readsPrinted_nearest hrow unitPriceSchema (hourlyContext 40)).1.2
      ⟨of_decide_eq_false hreserved, hfinite⟩⟩

def bareText : String := "\x7b\"id\":\"r\"\x7d"

def numberedText : String :=
  "\x7b\"name\":\"grid\",\"columns\":[" ++
    "\x7b\"key\":\"id\",\"type\":\"number\",\"formula\":\"1\"\x7d]\x7d"

/-- A row cannot be read any more once its identifier is a column with a formula, and one whose
labor costs more than every double comes back without the price. -/
theorem recompute_reload_fails :
    (∃ schema row, Schema.read numberedText = .ok schema ∧ Row.read? bareText = some row ∧
        Row.read? (recompute schema {} row).1.print = none) ∧
      ∃ row, Row.read? curtainText = some row ∧ (1.5e308 : Float).isFinite = true ∧
        Row.read? (recompute unitPriceSchema (hourlyContext 1.5e308) row).1.print ≠
          some (recompute unitPriceSchema (hourlyContext 1.5e308) row).1 := by
  constructor
  · have hread : ((Schema.read numberedText).toOption.bind fun schema =>
        (Row.read? bareText).map fun row =>
          (Row.read? (recompute schema {} row).1.print).isNone) = some true := by decide +kernel
    obtain ⟨schema, hschema, hread⟩ := Option.bind_eq_some_iff.1 hread
    obtain ⟨row, hrow, hnone⟩ := Option.map_eq_some_iff.1 hread
    refine ⟨schema, row, ?_, hrow, Option.isNone_iff_eq_none.1 hnone⟩
    cases hresult : Schema.read numberedText with
    | error error => simp [hresult, Except.toOption] at hschema
    | ok found => simpa [hresult, Except.toOption] using hschema
  · have hread : (Row.read? curtainText).map (fun row =>
        let after := (recompute unitPriceSchema (hourlyContext 1.5e308) row).1
        (Rules.productsFinite after, (Row.read? after.print).map Rules.productsFinite)) =
          some (false, some true) := by decide +kernel
    obtain ⟨row, hrow, hresult⟩ := Option.map_eq_some_iff.1 hread
    obtain ⟨hbefore, hafter⟩ := Prod.mk.inj hresult
    refine ⟨row, hrow, by decide +kernel, fun hsame => ?_⟩
    rw [hsame, Option.map_some, hbefore] at hafter
    cases hafter

end Drapery
