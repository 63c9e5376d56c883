import Drapery.Purchase.Summary

/-!
The profitability of a project, and the revenue that a target needs.

Product rows earn the revenue.  Their materials are the fixed cost; subcontracting, trips and
expenses are variable charges.
-/

namespace Drapery

structure ChargeSource where
  rowId : String
  label : String
  amount : Float

structure ChargeBucket where
  total : Float := 0
  sources : List ChargeSource := []
  deriving Inhabited

namespace ChargeBucket

def describe (row : Row) : String :=
  let labels := [Field.product, Field.travelKind, Field.expenseCategory, Field.caption, Field.zone,
    Field.room].filterMap row.label?
  if labels.isEmpty then row.id else " - ".intercalate labels

def add (bucket : ChargeBucket) (row : Row) (amount : Float) : ChargeBucket :=
  if amount == 0 then bucket
  else ⟨bucket.total + amount, bucket.sources ++ [⟨row.id, describe row, amount⟩]⟩

def ofRows (key : String) (rows : List Row) : ChargeBucket :=
  rows.foldl (fun bucket row => bucket.add row (row.amount key)) {}

end ChargeBucket

structure Breakdowns where
  purchases : PurchaseSummary
  subcontractedInstallation : ChargeBucket
  subcontractedAssembly : ChargeBucket
  travel : ChargeBucket
  commissions : ChargeBucket
  otherExpenses : ChargeBucket
  deriving Inhabited

namespace Breakdowns

def ofRows (products travel expenses : List Row) : Breakdowns :=
  let isCommission (row : Row) := Product.isCommissionCategory (row.text Field.expenseCategory)
  { purchases := .ofRows products
    subcontractedInstallation := .ofRows Field.subcontractedInstallationBuy products
    subcontractedAssembly := .ofRows Field.subcontractedAssemblyBuy products
    travel := .ofRows Field.totalPrice travel
    commissions := .ofRows Field.totalPrice (expenses.filter isCommission)
    otherExpenses := .ofRows Field.totalPrice (expenses.filter (!isCommission ·)) }

end Breakdowns

/-- Numbers that totals and rates are computed with. -/
class Figure (α : Type) extends Add α, Sub α, Mul α, Div α where
  zero : α
  one : α
  /-- The share of further revenue that has to be left, at least. -/
  leastMarginShare : α
  isZero : α → Bool
  isPositive : α → Bool
  isAtMost : α → α → Bool
  isFinite : α → Bool

instance : Figure Float where
  zero := 0
  one := 1
  leastMarginShare := 0.01
  isZero x := x == 0
  isPositive x := 0 < x
  isAtMost x y := x ≤ y
  isFinite := Float.isFinite

structure ProjectTotals (α : Type) where
  revenue : α
  hours : α
  materials : α
  subcontractedInstallation : α
  subcontractedAssembly : α
  travel : α
  commissions : α
  otherExpenses : α

structure Kpis (α : Type) where
  revenue : α
  fixedMaterialCost : α
  variableCharges : α
  commissionTotal : α
  grossMargin : α
  contribution : α
  totalHours : α
  hourlyContribution : α
  deriving Inhabited

inductive TargetError (α : Type) where
  | infeasible (commissionRate : α)
  | invalidTarget (target : α)
  deriving DecidableEq

namespace TargetError

def message : TargetError Float → String
  | infeasible rate =>
    s!"target is unreachable: commissions take {fixedPlaces 1 (rate * 100)}% of revenue"
  | invalidTarget target =>
    s!"invalid hourly contribution target: {Layout.display.render target}"

end TargetError

namespace ProjectTotals

variable {α : Type} [Figure α]

def variableCharges (totals : ProjectTotals α) : α :=
  totals.subcontractedInstallation + totals.subcontractedAssembly + totals.travel +
    totals.commissions + totals.otherExpenses

def kpis (totals : ProjectTotals α) : Kpis α :=
  let grossMargin := totals.revenue - totals.materials
  let contribution := grossMargin - totals.variableCharges
  { revenue := totals.revenue
    fixedMaterialCost := totals.materials
    variableCharges := totals.variableCharges
    commissionTotal := totals.commissions
    grossMargin
    contribution
    totalHours := totals.hours
    hourlyContribution :=
      if Figure.isPositive totals.hours then contribution / totals.hours else Figure.zero }

end ProjectTotals

namespace Kpis

variable {α : Type} [Figure α]

def commissionRate (kpis : Kpis α) : α :=
  if Figure.isZero kpis.revenue then Figure.zero else kpis.commissionTotal / kpis.revenue

/-- The revenue at which an hour of labor contributes `target`.  Commissions grow with the revenue at
their present rate, and every other cost stays. -/
def revenueFor (kpis : Kpis α) (target : α) : Except (TargetError α) α :=
  let share := Figure.one - kpis.commissionRate
  if !Figure.isFinite target then .error (.invalidTarget target)
  else if Figure.isAtMost share Figure.leastMarginShare then .error (.infeasible kpis.commissionRate)
  else
    let fixed := kpis.fixedMaterialCost + (kpis.variableCharges - kpis.commissionTotal)
    .ok ((target * kpis.totalHours + fixed) / share)

end Kpis

def Row.laborHours (row : Row) : Float :=
  row.amount Field.preparationHours + row.amount Field.assemblyHours +
    row.amount Field.installationHours

def sumOf (amount : Row → Float) (rows : List Row) : Float :=
  rows.foldl (fun sum row => sum + amount row) 0

def Breakdowns.totals (breakdowns : Breakdowns) (products : List Row) : ProjectTotals Float where
  revenue := sumOf (·.amount Field.totalPrice) products
  hours := sumOf Row.laborHours products
  materials := breakdowns.purchases.totalCost
  subcontractedInstallation := breakdowns.subcontractedInstallation.total
  subcontractedAssembly := breakdowns.subcontractedAssembly.total
  travel := breakdowns.travel.total
  commissions := breakdowns.commissions.total
  otherExpenses := breakdowns.otherExpenses.total

structure Profitability where
  kpis : Kpis Float
  breakdowns : Breakdowns
  deriving Inhabited

namespace Profitability

def ofRows (products travel expenses : List Row) : Profitability :=
  let breakdowns := Breakdowns.ofRows products travel expenses
  ⟨(breakdowns.totals products).kpis, breakdowns⟩

end Profitability

end Drapery
