import Drapery.Catalog
import Drapery.Formula.Eval
import Drapery.Settings

/-!
What a recomputation is given beside the row and its schema, and what it reports.
-/

namespace Drapery

structure Context where
  catalog : Catalog := {}
  settings : Settings := {}
  params : Formula.Params := ∅
  /-- The revenue that commissions are a share of; none counts as zero. -/
  totalRevenue : Option Float := none
  iteration : Iteration := {}
  deriving Inhabited

/-- A formula that could not be read or evaluated.  Its field holds zero. -/
structure Failure where
  field : String
  formula : String
  error : FormulaError
  deriving DecidableEq

def Failure.firsts : List Failure → List Failure
  | [] => []
  | failure :: rest => failure :: (firsts rest).filter (·.field != failure.field)

structure CycleReport where
  fields : List String
  iterations : Nat
  converged : Bool
  deriving DecidableEq

structure Report where
  rowId : String
  failures : List Failure
  unresolved : List String
  cycle : Option CycleReport
  deriving DecidableEq

namespace Report

def isClean (report : Report) : Bool :=
  report.failures.isEmpty && report.unresolved.isEmpty && report.cycle.isNone

end Report

end Drapery
