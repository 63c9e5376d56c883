import Drapery.Catalog
import Drapery.Product
import Drapery.Settings

/-!
The rules that price a row after its formulas: materials and mechanisms from the catalog, labor from
the settings, trips and commissions.

Each rule reads cells as amounts and writes only the cells that it owns.  A reference that the
catalog does not know leaves them as they are.
-/

namespace Drapery

inductive Reference where
  | empty
  /-- The name was cleared and the identifier is still there. -/
  | cleared
  | found (item : CatalogItem)
  | unknown

namespace Row

def label? (row : Row) (key : String) : Option String :=
  let label := row.label key
  if label.isEmpty then none else some label

def quantity (row : Row) : Float := max 1 (row.amount Field.quantity)

def reference (row : Row) (catalog : Catalog) (nameKey idKey : String) : Reference :=
  match row.label? nameKey with
  | none => if (row.label? idKey).isNone then .empty else .cleared
  | some name =>
    match catalog.resolve? (row.label? idKey) name with
    | some item => .found item
    | none => .unknown

/-- Keeps the recorded identifier in step with what the reference leads to. -/
def record (row : Row) (idKey : String) : Reference → Row
  | .cleared => row.remove idKey
  | .found item =>
    if item.id.isEmpty || row.label? idKey == some item.id then row else row.setText idKey item.id
  | .empty | .unknown => row

end Row

def Reference.isResolved : Reference → Bool
  | unknown => false
  | _ => true

/-! ## Fabrics -/

namespace MaterialSlot

/-- The prices of an item for the yardage on the row: to sell by unit of the row, to buy as the slot
has it. -/
def price (slot : MaterialSlot) (item : CatalogItem) (row : Row) : Row :=
  let meters := row.amount slot.meters
  let unitCost := meters * item.buyPrice
  let cost := if slot.buysWholeLine then unitCost * row.quantity else unitCost
  (row.setNumber slot.buy cost).setNumber slot.sell (meters * item.sellPrice)

def reference? (slot : MaterialSlot) (catalog : Catalog) (row : Row) : Reference :=
  row.reference catalog slot.reference slot.referenceId

def applyReference (slot : MaterialSlot) (row : Row) (reference : Reference) : Row :=
  let row := row.record slot.referenceId reference
  match reference with
  | .found item => slot.price item row
  | .cleared => (row.setNumber slot.buy 0).setNumber slot.sell 0
  | .empty | .unknown => row

def applyCatalog (slot : MaterialSlot) (catalog : Catalog) (row : Row) : Row :=
  slot.applyReference row (slot.reference? catalog row)

def select (slot : MaterialSlot) (item : CatalogItem) (row : Row) : Row :=
  let row := row.setText slot.referenceId item.id
  let row := row.setText slot.reference item.name
  let row := row.setNumber slot.width item.width
  let row := row.setNumber slot.repeatV (if item.hasPattern then item.patternRepeatV else 0)
  let row := row.setNumber slot.repeatH (if item.hasPattern then item.patternRepeatH else 0)
  slot.price item row

end MaterialSlot

namespace Rules

def priceSlots (slots : List MaterialSlot) (catalog : Catalog) (row : Row) : Row × List String :=
  slots.foldl (fun (row, unresolved) slot =>
    let reference := slot.reference? catalog row
    (slot.applyReference row reference,
      if reference.isResolved then unresolved else unresolved ++ [slot.reference])) (row, [])

def fabrics (catalog : Catalog) (row : Row) : Row × List String :=
  priceSlots MaterialSlot.fabrics catalog row

/-! ## Mechanism -/

def priceRail (item : CatalogItem) (row : Row) : Row :=
  let row := match item.dimension with
    | some dimension => row.setText Field.mechanismDimension dimension
    | none => row
  let meters := row.amount Field.mechanismWidth / 100
  (row.setNumber Field.mechanismBuy (meters * item.buyPrice)).setNumber Field.mechanismSell
    (meters * item.sellPrice)

def applyRail (row : Row) (reference : Reference) : Row :=
  let row := row.record Field.mechanismModelId reference
  match reference with
  | .found item => priceRail item row
  | .cleared => (row.setNumber Field.mechanismBuy 0).setNumber Field.mechanismSell 0
  | .empty | .unknown => row

def mechanism (catalog : Catalog) (row : Row) : Row × Bool :=
  if Product.hasRail row then
    let reference := row.reference catalog Field.mechanismModel Field.mechanismModelId
    (applyRail row reference, reference.isResolved)
  else if Product.isBlindMechanism (row.label Field.mechanismType) then
    (row.setText Field.mechanismDimension "", true)
  else (row, true)

def selectMechanism (item : CatalogItem) (row : Row) : Row :=
  let row := row.setText Field.mechanismModelId item.id
  let row := row.setText Field.mechanismModel item.name
  match item.dimension with
  | some dimension => row.setText Field.mechanismDimension dimension
  | none => row

/-! ## Labor -/

/-- Sells what a positive cell counts at a rate; otherwise the sell cell stays. -/
def sellAt (rate : Float) (row : Row) (line : String × String) : Row :=
  let count := row.amount line.1
  if 0 < count then row.setNumber line.2 (count * rate) else row

def laborLines : List (String × String) :=
  [(Field.preparationHours, Field.preparationSell), (Field.assemblyHours, Field.assemblySell),
    (Field.installationHours, Field.installationSell)]

def subcontractedLines : List (String × String) :=
  [(Field.subcontractedAssemblyBuy, Field.subcontractedAssemblySell),
    (Field.subcontractedInstallationBuy, Field.subcontractedInstallationSell)]

def labor (settings : Settings) (row : Row) : Row :=
  if Product.isLaborBilled (row.text Field.product) then
    let row := laborLines.foldl (sellAt settings.hourlyRate) row
    subcontractedLines.foldl (sellAt settings.subcontractingCoefficient) row
  else row

/-! ## Trips and commissions -/

def billedHours (hours : Float) : Float := if hours ≤ 4 then 4 else 8

/-- The hours, nights and meals of a trip and its price.  Hours on site count for surveys only. -/
def travel (settings : Settings) (row : Row) : Row :=
  let row :=
    if Product.isSiteSurvey (row.text Field.travelKind) then row
    else row.setNumber Field.onSiteHours 0
  let hours := row.amount Field.tripTime * row.amount Field.tripCount + row.amount Field.onSiteHours
  let billed := billedHours hours
  let technicians := max 1 (row.amount Field.technicians)
  let overnight := row.isTicked Field.overnight
  let nights := if overnight then technicians else 0
  let meals := technicians * if overnight then 2 else 1
  let total := billed * technicians * settings.hourlyRate + nights * settings.nightCost +
    meals * settings.mealCost
  let row := row.setNumber Field.billedHours billed
  let row := row.setNumber Field.nights nights
  let row := row.setNumber Field.meals meals
  row.setNumber Field.totalPrice total

def commission (totalRevenue : Option Float) (row : Row) : Row :=
  row.setNumber Field.totalPrice (row.amount Field.percentage * totalRevenue.getD 0 / 100)

end Rules

end Drapery
