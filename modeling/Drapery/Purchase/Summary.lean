import Drapery.Decimal.Rounding
import Drapery.Purchase.Slot
import Drapery.Recompute.Rules

/-!
The purchase summary: what has to be bought for the rows of a project, by material.

`Purchase.ofRow` lists what one row contributes.  Contributions with the same kind, reference and
pattern make a group, whose totals are the sums of its lines in their order.
-/

namespace Drapery

structure PurchaseKey where
  family : MaterialFamily
  kind : String
  reference : String
  pattern : Option String
  deriving DecidableEq, Repr

namespace PurchaseKey

def label (key : PurchaseKey) : String :=
  match key.pattern with
  | some pattern => s!"{key.reference} ({pattern})"
  | none => key.reference

def order (a b : PurchaseKey) : Ordering :=
  (compare a.kind b.kind).then <|
    (compare a.reference b.reference).then (compare (a.pattern.getD "") (b.pattern.getD ""))

def notAfter (a b : PurchaseKey) : Bool := (order a b).isLE

end PurchaseKey

structure PurchaseLine where
  rowId : String
  zone : String
  room : String
  product : String
  dimensions : String
  quantity : Float
  linearMeters : Float
  cost : Float

structure PurchaseGroup where
  kind : String
  reference : String
  pattern : Option String
  label : String
  totalLinearMeters : Float
  totalCost : Float
  lines : List PurchaseLine

namespace PurchaseGroup

def order (a b : PurchaseGroup) : Ordering := (compare a.label b.label).then (compare a.kind b.kind)

def notAfter (a b : PurchaseGroup) : Bool := (order a b).isLE

end PurchaseGroup

structure PurchaseSummary where
  fabrics : List PurchaseGroup := []
  linings : List PurchaseGroup := []
  rails : List PurchaseGroup := []
  deriving Inhabited

structure Purchase where
  key : PurchaseKey
  line : PurchaseLine

namespace Purchase

def dimensionText (x : Float) : String :=
  if Rounding.truncate x == x then fixedPlaces 0 x else Layout.display.render x

def dimensions (row : Row) : String :=
  s!"{dimensionText (row.amount Field.width)} x {dimensionText (row.amount Field.height)}"

def cost (basis : CostBasis) (recorded meters quantity : Float) : Float :=
  match basis with
  | .lineTotal => recorded
  | .perUnit => recorded * quantity
  | .perMeter => recorded * meters * quantity

/-- What a slot of a row contributes: nothing without a reference or without metres. -/
def ofSlot? (row : Row) (slot : PurchaseSlot) : Option Purchase :=
  let meters := row.amount slot.meters / slot.divisor
  match row.label? slot.reference with
  | none => none
  | some reference =>
    if slot.appliesTo row && 0 < meters then
      some {
        key := ⟨slot.family, slot.kind, reference, slot.pattern.bind row.label?⟩
        line := {
          rowId := row.id
          zone := row.text Field.zone
          room := row.text Field.room
          product := row.text Field.product
          dimensions := dimensions row
          quantity := row.quantity
          linearMeters := meters * row.quantity
          cost := cost slot.basis (row.amount slot.cost) meters row.quantity } }
    else none

def ofRow (row : Row) : List Purchase := PurchaseSlot.all.filterMap (ofSlot? row)

def group (purchases : List Purchase) (key : PurchaseKey) : PurchaseGroup :=
  let lines := (purchases.filter (·.key = key)).map (·.line)
  { kind := key.kind
    reference := key.reference
    pattern := key.pattern
    label := key.label
    totalLinearMeters := lines.foldl (fun total line => total + line.linearMeters) 0
    totalCost := lines.foldl (fun total line => total + line.cost) 0
    lines }

/-- The groups of one family, in the order of the report.  Groups that the report puts in the same
place, since one reference reads as another with its pattern, stay in the order of their keys. -/
def groupsOf (family : MaterialFamily) (purchases : List Purchase) : List PurchaseGroup :=
  let keys := ((purchases.map (·.key)).filter (·.family = family)).eraseDups
  ((keys.mergeSort PurchaseKey.notAfter).map (group purchases)).mergeSort PurchaseGroup.notAfter

end Purchase

namespace PurchaseSummary

def ofRows (rows : List Row) : PurchaseSummary :=
  let purchases := rows.flatMap Purchase.ofRow
  { fabrics := Purchase.groupsOf .fabric purchases
    linings := Purchase.groupsOf .lining purchases
    rails := Purchase.groupsOf .rail purchases }

def groups (summary : PurchaseSummary) : List PurchaseGroup :=
  summary.fabrics ++ summary.linings ++ summary.rails

/-- The cost of all groups.  The empty sum is the neutral element of addition, negative zero. -/
def totalCost (summary : PurchaseSummary) : Float :=
  summary.groups.foldl (fun total group => total + group.totalCost) (-0.0)

def find? (summary : PurchaseSummary) (label : String) : Option PurchaseGroup :=
  summary.groups.find? (·.label == label)

end PurchaseSummary

end Drapery
