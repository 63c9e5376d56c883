import Drapery.Product

/-!
The slots of a row that are bought, and how each records its cost.

Slots do not record their cost alike: some hold the cost of the line, some the cost of one unit of
the row, some a price per metre.  The table keeps them apart.
-/

namespace Drapery

inductive MaterialFamily where
  | fabric
  | lining
  | rail
  deriving DecidableEq, Repr

inductive CostBasis where
  | lineTotal
  | perUnit
  | perMeter
  deriving DecidableEq, Repr

structure PurchaseSlot where
  kind : String
  family : MaterialFamily
  reference : String
  meters : String
  /-- What the meters cell is divided by: rails are measured in centimetres. -/
  divisor : Float
  cost : String
  basis : CostBasis
  pattern : Option String
  needsRail : Bool

namespace PurchaseSlot

def ofMaterial (kind : String) (family : MaterialFamily) (slot : MaterialSlot) (basis : CostBasis)
    (withPattern : Bool) : PurchaseSlot where
  kind := kind
  family := family
  reference := slot.reference
  meters := slot.meters
  divisor := 1
  cost := slot.buy
  basis := basis
  pattern := if withPattern then some slot.pattern else none
  needsRail := false

def rail : PurchaseSlot where
  kind := "Rail"
  family := .rail
  reference := Field.mechanismModel
  meters := Field.mechanismWidth
  divisor := 100
  cost := Field.mechanismBuy
  basis := .perUnit
  pattern := none
  needsRail := true

open MaterialSlot in
def all : List PurchaseSlot :=
  [ofMaterial "Tissu" .fabric decorative1 .lineTotal true,
    ofMaterial "Tissu" .fabric decorative2 .lineTotal true,
    ofMaterial "Doublure" .lining lining .perUnit false,
    ofMaterial "Interdoublure" .lining interlining .perUnit false,
    ofMaterial "Passementerie" .fabric trim1 .perMeter false,
    ofMaterial "Passementerie" .fabric trim2 .perMeter false,
    rail]

def appliesTo (slot : PurchaseSlot) (row : Row) : Bool := !slot.needsRail || Product.hasRail row

end PurchaseSlot

end Drapery
