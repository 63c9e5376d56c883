import Drapery.Formula.Eval
import Drapery.Schema.Basic

/-!
The order in which the formulas of a row are evaluated.

A formula depends on the fields that it reads and that have a formula themselves.  A formula that
reads its own field does not depend on it: it sees the value from before.  Fields are placed one
after the other, always the first that waits for no other field; what is never placed is blocked,
because it is on a cycle of dependencies or reads a field that is.
-/

namespace Drapery

/-- For each field, by position, the positions of the fields that it depends on. -/
abbrev Dependencies := List (List Nat)

namespace Dependencies

def of (deps : Dependencies) (field : Nat) : List Nat := deps.getD field []

def dependents (deps : Dependencies) (field : Nat) : List Nat :=
  (List.range deps.length).filter fun other => (deps.of other).contains field

def passes (blocked seen : List Nat) (target field : Nat) : Bool :=
  field != target && (seen.contains field || !blocked.contains field)

/-- Whether a search comes to `target` from the fields on the stack, going on to the dependencies of
each blocked field that it has not seen.  Every round but the last sees another blocked field, so
that `rounds` may be their number and one more. -/
def finds (deps : Dependencies) (blocked : List Nat) (target : Nat) :
    (rounds : Nat) → (seen stack : List Nat) → Bool
  | 0, _, _ => false
  | rounds + 1, seen, stack =>
    match stack.dropWhile (passes blocked seen target) with
    | [] => false
    | field :: stack =>
      field == target || finds deps blocked target rounds (field :: seen) (deps.of field ++ stack)

def onCycle (deps : Dependencies) (blocked : List Nat) (field : Nat) : Bool :=
  deps.finds blocked field (blocked.length + 1) [] (deps.of field)

end Dependencies

@[ext] structure Schedule where
  /-- The placed fields, the last placed first. -/
  placed : List Nat
  waiting : List Nat
  ready : List Nat

namespace Schedule

def start (deps : Dependencies) : Schedule :=
  let waiting := deps.map List.length
  { placed := []
    waiting
    ready := (List.range deps.length).filter fun field => waiting.getD field 0 == 0 }

def insertField (field : Nat) : List Nat → List Nat
  | [] => [field]
  | first :: rest =>
    if field < first then field :: first :: rest
    else if field = first then first :: rest
    else first :: insertField field rest

def release (schedule : Schedule) (field : Nat) : Schedule :=
  let count := schedule.waiting.getD field 0 - 1
  { schedule with
    waiting := schedule.waiting.set field count
    ready := if count = 0 then insertField field schedule.ready else schedule.ready }

def place (deps : Dependencies) (schedule : Schedule) (field : Nat) (ready : List Nat) :
    Schedule :=
  (deps.dependents field).foldl release { schedule with placed := field :: schedule.placed, ready }

/-- Places the first ready field until none is ready.  Each round places one, so that `rounds` may
be the number of fields. -/
def run (deps : Dependencies) : (rounds : Nat) → Schedule → Schedule
  | 0, schedule => schedule
  | rounds + 1, schedule =>
    match schedule.ready with
    | [] => schedule
    | field :: ready => run deps rounds (schedule.place deps field ready)

end Schedule

structure Plan where
  order : List Nat
  /-- Positions of the fields that are on a cycle or read one, in ascending order. -/
  blocked : List Nat
  cycle : List String
  deriving DecidableEq, Repr, Inhabited

namespace Plan

def lastIndex? (p : String → Bool) (keys : List String) : Option Nat :=
  ((keys.zipIdx.filter fun entry => p entry.1).getLast?).map (·.2)

/-- The field that a name stands for: the last with exactly this key, else the first with this
normalized key. -/
def keyed? (keys : List String) (name : String) : Option Nat :=
  (lastIndex? (· == name) keys).or (keys.findIdx? (Text.normalizeKey · == name))

def target? (keys : List String) (reference : String) : Option Nat :=
  (keyed? keys reference).or (keyed? keys (Text.normalizeKey reference))

def dependenciesOf (keys : List String) (field : Nat) (formula : Formula) : List Nat :=
  (formula.references.filterMap (target? keys)).eraseDups.filter (· != field)

def dependencies (fields : List (String × Formula)) : Dependencies :=
  let keys := fields.map (·.1)
  fields.zipIdx.map fun ((_, formula), field) => dependenciesOf keys field formula

def build (fields : List (String × Formula)) : Plan :=
  let deps := dependencies fields
  let schedule := Schedule.run deps fields.length (Schedule.start deps)
  let blocked :=
    (List.range fields.length).filter fun field => 0 < schedule.waiting.getD field 0
  let cycle := (blocked.filter (deps.onCycle blocked)).filterMap fun field =>
    (fields[field]?).map (·.1)
  { order := schedule.placed.reverse, blocked, cycle }

def isAcyclic (plan : Plan) : Bool := plan.blocked.isEmpty

end Plan

inductive AnalysisError where
  | formula (field : String) (cause : FormulaError)
  | cycle (fields : List String)
  deriving DecidableEq

namespace AnalysisError

def message : AnalysisError → String
  | formula field cause => s!"formula for {field} is invalid: {cause.message}"
  | cycle fields => "dependency cycle between formula fields: " ++ ", ".intercalate fields

end AnalysisError

namespace Schema

def defaultFormulas (schema : Schema) : Except AnalysisError (List (String × Formula)) :=
  schema.columns.filterMapM fun column =>
    match column.defaultFormula? with
    | none => .ok none
    | some source =>
      match Formula.parse source with
      | .ok formula => .ok (some (column.key, formula))
      | .error cause => .error (.formula column.key cause)

def analyze (schema : Schema) : Except AnalysisError (List String) := do
  let fields ← schema.defaultFormulas
  let plan := Plan.build fields
  if plan.isAcyclic then .ok (plan.order.filterMap fun field => (fields[field]?).map (·.1))
  else .error (.cycle plan.cycle)

end Schema

end Drapery
