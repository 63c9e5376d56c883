import Drapery.Formula.Builtin
import Drapery.Formula.Parser
import Drapery.Row.Basic
import Drapery.Text.Key

/-!
Evaluating formulas on a row.

`Formula.evaluate` reports what fails; `Formula.shown` is what a grid shows, where any failure is
zero.
-/

namespace Drapery

namespace Row

/-- The cell whose normalized key is `name`: the one with exactly this key, else the first. -/
def named? (row : Row) (name : String) : Option Cell :=
  let exact := if Text.normalizeKey name = name then row.get? name else none
  exact.or ((row.cells.entries.find? fun entry => Text.normalizeKey entry.1 == name).map (·.2))

/-- The cell that a reference in braces reads: the one with this key, else the one with this key up
to normalization. -/
def referenced? (row : Row) (key : String) : Option Cell :=
  (row.get? key).or (row.named? (Text.normalizeKey key))

end Row

namespace Formula

abbrev Params := Keyed Float

def paramValue (params : Params) (name : String) : Float :=
  ((params.get? name).map Amount.ofNumber).getD 0

namespace UnaryOp

def apply (op : UnaryOp) (value : Value) : Value :=
  match op with
  | negate => .number (-value.operand)
  | plus => .number value.operand
  | not => .boolean !value.isTrue

end UnaryOp

namespace BinaryOp

def apply (op : BinaryOp) (left right : Value) : Value :=
  let order := left.compare? right
  match op with
  | add => .number (left.operand + right.operand)
  | subtract => .number (left.operand - right.operand)
  | multiply => .number (left.operand * right.operand)
  | divide => .number (left.operand / right.operand)
  | equals => .boolean (order == some .eq)
  | notEquals => .boolean (order != some .eq)
  | less => .boolean (order == some .lt)
  | lessEquals => .boolean (order == some .lt || order == some .eq)
  | greater => .boolean (order == some .gt)
  | greaterEquals => .boolean (order == some .gt || order == some .eq)
  | and => if left.isTrue then right else left
  | or => if left.isTrue then left else right

def isDecidedBy (op : BinaryOp) (left : Value) : Bool :=
  match op with
  | and => !left.isTrue
  | or => left.isTrue
  | _ => false

end BinaryOp

namespace Expr

mutual

def eval (row : Row) (params : Params) : Expr → Except FormulaError Value
  | number value => .ok (.number value)
  | text value => .ok (.text value)
  | boolean value => .ok (.boolean value)
  | field key => .ok (((row.referenced? key).map Value.ofCell).getD .empty)
  | name key =>
    match row.named? key with
    | some cell => .ok (.ofCell cell)
    | none => .error (.unknownName key)
  | param key => .ok (.number (paramValue params key))
  | call function args =>
    match Builtin.ofName? function with
    | some builtin => builtin.apply (evalAll row params args)
    | none => .error (.unknownFunction function)
  | unary op operand => do
    let value ← operand.eval row params
    .ok (op.apply value)
  | binary op left right => do
    let leftValue ← left.eval row params
    if op.isDecidedBy leftValue then .ok leftValue
    else do
      let rightValue ← right.eval row params
      .ok (op.apply leftValue rightValue)

def evalAll (row : Row) (params : Params) : List Expr → List (Except FormulaError Value)
  | [] => []
  | first :: rest => first.eval row params :: evalAll row params rest

end

end Expr

end Formula

structure Formula where
  source : String
  expr : Formula.Expr
  deriving Inhabited

namespace Formula

def parse (source : String) : Except FormulaError Formula :=
  (Parser.parse source).map fun expr => ⟨source, expr⟩

def references (formula : Formula) : List String :=
  (Keyed.ofList (formula.expr.references.map (·, ()))).keys

def evaluate (formula : Formula) (row : Row) (params : Params) : Except FormulaError Value :=
  (formula.expr.eval row params).map Value.settled

def evaluateText (source : String) (row : Row) (params : Params) : Except FormulaError Value := do
  let formula ← parse source
  formula.evaluate row params

def shown : Except FormulaError Value → Value
  | .ok value => value
  | .error _ => .number 0

end Formula

end Drapery
