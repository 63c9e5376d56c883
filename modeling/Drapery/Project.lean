import Drapery.Profitability
import Drapery.Recompute.Basic
import Drapery.Schema.BuiltIn

/-!
Projects: every grid of one customer, recomputed together.
-/

namespace Drapery

structure Grid where
  schema : Schema
  rows : List Row
  deriving Inhabited

structure Project where
  products : List Grid := []
  travel : Grid := ⟨.travel, []⟩
  expenses : Grid := ⟨.other, []⟩
  deriving Inhabited

namespace Grid

def recompute (context : Context) (grid : Grid) : Grid × List Report :=
  let results := recomputeAll grid.schema context grid.rows
  ({ grid with rows := results.map (·.1) }, results.map (·.2))

end Grid

namespace Project

def productRows (project : Project) : List Row := project.products.flatMap (·.rows)

/-- The sum of the totals of the product rows.  The empty sum is the neutral element of addition,
negative zero. -/
def revenue (project : Project) : Float :=
  project.productRows.foldl (fun sum row => sum + row.amount Field.totalPrice) (-0.0)

def purchases (project : Project) : PurchaseSummary := .ofRows project.productRows

def profitability (project : Project) : Profitability :=
  .ofRows project.productRows project.travel.rows project.expenses.rows

/-- Recomputes products and trips, and then expenses against the revenue that the products have. -/
def recompute (context : Context) (project : Project) : Project × List Report :=
  let (products, productReports) := (project.products.map (Grid.recompute context)).unzip
  let (travel, travelReports) := project.travel.recompute context
  let project := { project with products, travel }
  let (expenses, expenseReports) :=
    project.expenses.recompute { context with totalRevenue := some project.revenue }
  ({ project with expenses }, productReports.flatten ++ travelReports ++ expenseReports)

end Project

end Drapery
