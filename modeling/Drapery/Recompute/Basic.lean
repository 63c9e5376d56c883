import Drapery.Recompute.FormulaPass
import Drapery.Recompute.Rules

/-!
Recomputing a row.

The formulas come first, then the rules for fabrics, mechanism and labor.  A travel row ends with its
trip.  A commission takes its share of the revenue.  Then the price formulas are evaluated once more,
because the rules moved what they read; the total of a commission is not overwritten.
-/

namespace Drapery

def reprice (schema : Schema) (context : Context) (progress : Progress) (key : String) : Progress :=
  match schema.formula? progress.row key with
  | none => progress
  | some source =>
    match Formula.parse source with
    | .ok formula => progress.assign context.params key formula
    | .error error => progress.fail ⟨key, source, error⟩

def applyRules (context : Context) (row : Row) : Row × List String :=
  let (row, unresolved) := Rules.fabrics context.catalog row
  let (row, resolved) := Rules.mechanism context.catalog row
  (Rules.labor context.settings row,
    if resolved then unresolved else unresolved ++ [Field.mechanismModel])

/-- What remains to be done once the rules are applied. -/
def finishRow (schema : Schema) (context : Context) (progress : Progress) : Progress :=
  if Product.isTravel progress.row then
    { progress with row := Rules.travel context.settings progress.row }
  else if Product.isCommission progress.row then
    let row := Rules.commission context.totalRevenue progress.row
    reprice schema context { progress with row } Field.unitPrice
  else [Field.unitPrice, Field.totalPrice].foldl (reprice schema context) progress

def recompute (schema : Schema) (context : Context) (row : Row) : Row × Report :=
  let (progress, cycle) := formulaPass schema context row
  let (ruled, unresolved) := applyRules context progress.row
  let progress := finishRow schema context { progress with row := ruled }
  (progress.row, ⟨row.id, Failure.firsts progress.failures, unresolved, cycle⟩)

def recomputeAll (schema : Schema) (context : Context) (rows : List Row) : List (Row × Report) :=
  rows.map (recompute schema context)

end Drapery
