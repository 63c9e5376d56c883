import Drapery.Plan
import Drapery.Recompute.Report

/-!
The formula pass: every formula of a row evaluated, in dependency order.

Formulas that cannot be read set their field to zero first.  The others follow the plan; blocked
fields are then swept in the order of the schema, again and again while they move, if iteration is
enabled.
-/

namespace Drapery

structure Progress where
  row : Row
  failures : List Failure

namespace Progress

def fail (progress : Progress) (failure : Failure) : Progress where
  row := progress.row.setNumber failure.field 0
  failures := progress.failures ++ [failure]

/-- How far a cell moved: between numbers the distance, between equal texts not at all, and
otherwise infinitely far. -/
def movement (before : Option Cell) (after : Cell) : Float :=
  match before, after with
  | some (.number old), .number new => (new - old).abs
  | some (.text old), .text new => if old = new then 0 else Binary.infinity
  | _, _ => Binary.infinity

def assign (params : Formula.Params) (key : String) (formula : Formula) (progress : Progress) :
    Progress :=
  match formula.evaluate progress.row params with
  | .ok value => { progress with row := progress.row.set key value.toCell }
  | .error error => progress.fail ⟨key, formula.source, error⟩

def assignMovement (params : Formula.Params) (key : String) (formula : Formula)
    (progress : Progress) : Float :=
  movement (progress.row.get? key)
    (Formula.shown (formula.evaluate progress.row params)).toCell

end Progress

/-- The larger of two movements; one that is not a number does not count. -/
def largerMovement (largest movement : Float) : Float :=
  if largest < movement then movement else largest

namespace Progress

def run (params : Formula.Params) (fields : List (String × Formula)) (progress : Progress) :
    Progress :=
  fields.foldl (fun progress (key, formula) => progress.assign params key formula) progress

def sweep (params : Formula.Params) (fields : List (String × Formula)) (progress : Progress) :
    Progress × Float :=
  fields.foldl (fun (progress, largest) (key, formula) =>
    (progress.assign params key formula,
      largerMovement largest (progress.assignMovement params key formula))) (progress, 0)

/-- Sweeps again while the fields move by more than `maxChange`, at most `more` times.  Also tells
how often, and the last movement. -/
def settle (params : Formula.Params) (fields : List (String × Formula)) (maxChange : Float) :
    (more : Nat) → Progress → (change : Float) → Progress × Nat × Float
  | 0, progress, change => (progress, 0, change)
  | more + 1, progress, change =>
    if maxChange < change then
      let (progress, change) := progress.sweep params fields
      let (progress, sweeps, change) := settle params fields maxChange more progress change
      (progress, sweeps + 1, change)
    else (progress, 0, change)

def iterate (context : Context) (cycle : List String) (blocked : List (String × Formula))
    (progress : Progress) : Progress × CycleReport :=
  let settings := context.iteration
  let more := if settings.enabled then settings.maxIterations - 1 else 0
  let (progress, change) := progress.sweep context.params blocked
  let (progress, sweeps, change) :=
    settle context.params blocked settings.maxChange more progress change
  (progress, ⟨cycle, sweeps + 1, change ≤ settings.maxChange⟩)

end Progress

namespace Schema

/-- The formulas in force on a row, by column.  Where the yardage is typed by hand, no formula
computes it. -/
def formulasInForce (schema : Schema) (row : Row) : List (String × String) :=
  let byHand := if Product.hasManualYardage (row.text Field.product) then Field.manualYardage else []
  (schema.keys.filter (!byHand.contains ·)).filterMap fun key =>
    (schema.formula? row key).map (key, ·)

end Schema

def readable (formulas : List (String × String)) : List (String × Formula) :=
  formulas.filterMap fun (key, source) => (Formula.parse source).toOption.map (key, ·)

def unreadable (formulas : List (String × String)) : List Failure :=
  formulas.filterMap fun (key, source) =>
    match Formula.parse source with
    | .ok _ => none
    | .error error => some ⟨key, source, error⟩

def fieldsAt (fields : List (String × Formula)) (positions : List Nat) : List (String × Formula) :=
  positions.filterMap (fields[·]?)

def formulaPass (schema : Schema) (context : Context) (row : Row) :
    Progress × Option CycleReport :=
  let formulas := schema.formulasInForce row
  let fields := readable formulas
  let plan := Plan.build fields
  let progress := (unreadable formulas).foldl Progress.fail ⟨row, []⟩
  let progress := progress.run context.params (fieldsAt fields plan.order)
  if plan.isAcyclic then (progress, none)
  else
    let (progress, report) := progress.iterate context plan.cycle (fieldsAt fields plan.blocked)
    (progress, some report)

end Drapery
