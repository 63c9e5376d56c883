import Drapery.Schema.Basic

/-!
The schemas of the workshop's own grids.

Formulas read optional cells through braces, so that a row that never set a cell still computes with
the cell as empty.
-/

namespace Drapery.Schema

namespace BuiltIn

def cell (key : String) : String := "\x7b" ++ key ++ "\x7d"

def editable (kind : ColumnKind) (key : String) : Column := { key, kind }

def text : String → Column := editable .text

def select : String → Column := editable .select

def number : String → Column := editable .number

def boolean : String → Column := editable .boolean

def computed (key formula : String) : Column :=
  { key, kind := .formula, formula := some formula, readOnly := true }

def prefilled (key formula : String) : Column := { number key with formula := some formula }

def derived (key : String) : Column := { number key with readOnly := true }

def identity : List Column :=
  [text Field.zone, text Field.room, select Field.product, number Field.quantity,
    number Field.width, number Field.height]

def fabric (slot : MaterialSlot) (yardage : Option String) : List Column :=
  [select slot.reference, number slot.width, number slot.repeatV,
    { number slot.meters with formula := yardage }, derived slot.buy, derived slot.sell]

def labor (installationHours : String) : List Column :=
  let widths := cell Field.widthCount
  [prefilled Field.preparationHours s!"ROUND(0.25 + {widths} * 0.1, 2)",
    prefilled Field.assemblyHours s!"ROUND({widths} * 0.75, 2)",
    prefilled Field.installationHours installationHours,
    derived Field.preparationSell, derived Field.assemblySell, derived Field.installationSell,
    number Field.subcontractedAssemblyBuy, derived Field.subcontractedAssemblySell,
    number Field.subcontractedInstallationBuy, derived Field.subcontractedInstallationSell]

def mechanism (width : String) : List Column :=
  [select Field.mechanismType, select Field.mechanismModel, prefilled Field.mechanismWidth width,
    text Field.mechanismDimension,
    { number Field.mechanismBuy with readOnlyWhen := Product.hasRail },
    { number Field.mechanismSell with readOnlyWhen := Product.hasRail }]

def totalFormula : String :=
  s!"ROUND({cell Field.unitPrice} * MAX(1, {cell Field.quantity}), 2)"

def prices (unitPrice : String) : List Column :=
  [computed Field.unitPrice unitPrice, computed Field.totalPrice totalFormula]

def sum (terms : List String) : String := " + ".intercalate terms

def laborAndMechanismSells : List String :=
  [Field.mechanismSell, Field.preparationSell, Field.assemblySell, Field.installationSell,
    Field.subcontractedAssemblySell, Field.subcontractedInstallationSell].map cell

def unitPrice (materials : List String) : String :=
  s!"ROUND({sum (materials ++ laborAndMechanismSells)}, 2)"

def sellOf (slot : MaterialSlot) : String := cell slot.sell

end BuiltIn

open BuiltIn MaterialSlot

def curtains : Schema where
  name := "rideaux"
  columns :=
    let width := cell Field.width
    let height := cell Field.height
    let widths := cell Field.widthCount
    let fullness := cell Field.fullness
    let roll := cell decorative1.width
    let drop := cell decorative1.repeatV
    let liningYardage := s!"ROUND({widths} * ({height} + 20) / 100, 2)"
    identity ++
    [number Field.fullness,
      computed Field.widthCount s!"ROUNDUP({width} * NVL({fullness}, 2) / NVL({roll}, 140))"] ++
    fabric decorative1 s!"ROUND({widths} * ({height} + 30 + NVL({drop}, 0)) / 100, 2)" ++
    fabric decorative2 none ++
    fabric lining liningYardage ++
    fabric interlining liningYardage ++
    mechanism s!"{width} + 10" ++
    labor s!"ROUND(0.5 + {cell Field.mechanismWidth} / 400, 2)" ++
    prices (unitPrice (fabrics.map sellOf))

/-- Blinds.  Their yardage is typed by hand, the formula only starts a new row. -/
def blinds : Schema where
  name := "stores"
  columns :=
    let width := cell Field.width
    let height := cell Field.height
    identity ++
    fabric decorative1 s!"ROUND(({width} + 10) * ({height} + 30) / 10000, 2)" ++
    mechanism width ++
    [computed Field.widthCount "1"] ++
    labor "0.75" ++
    prices (unitPrice [sellOf decorative1])

def bedCovers : Schema where
  name := "decors_lit"
  columns :=
    let width := cell Field.width
    let height := cell Field.height
    identity ++
    [computed Field.widthCount "1"] ++
    fabric decorative1 none ++
    fabric decorative2 none ++
    fabric lining none ++
    [select trim1.reference,
      computed trim1.meters s!"ROUND(({width} + 2 * {height}) / 100, 2)",
      number trim1.buy, number trim1.sell] ++
    labor "0" ++
    prices (unitPrice ([decorative1, decorative2, lining].map sellOf ++
      [s!"{cell trim1.meters} * {cell trim1.sell}"]))

/-- Free lines: supplies, commissions, other expenses.  The total of a commission follows from the
revenue, so that it cannot be edited. -/
def other : Schema where
  name := "autres"
  columns :=
    [select Field.product, select Field.expenseCategory, text Field.caption,
      number Field.quantity, number Field.percentage, number Field.expenseAmount,
      computed Field.unitPrice (cell Field.expenseAmount),
      { computed Field.totalPrice totalFormula with
        readOnly := false
        readOnlyWhen := Product.isCommission }]

def travel : Schema where
  name := "deplacements"
  columns :=
    [select Field.product, select Field.travelKind, number Field.tripTime, number Field.tripCount,
      number Field.onSiteHours, number Field.technicians, boolean Field.overnight,
      derived Field.billedHours, derived Field.nights, derived Field.meals,
      derived Field.totalPrice]

end Drapery.Schema
