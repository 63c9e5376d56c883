/-!
Expressions: the trees that formulas denote.
-/

namespace Drapery.Formula

inductive UnaryOp where
  | negate
  | plus
  | not
  deriving DecidableEq, Repr

inductive BinaryOp where
  | add
  | subtract
  | multiply
  | divide
  | equals
  | notEquals
  | less
  | lessEquals
  | greater
  | greaterEquals
  | and
  | or
  deriving DecidableEq, Repr

def BinaryOp.precedence : BinaryOp → Nat
  | or => 1
  | and => 2
  | equals | notEquals | less | lessEquals | greater | greaterEquals => 3
  | add | subtract => 5
  | multiply | divide => 6

def unaryPrecedence : Nat := 7

inductive Expr where
  | number (value : Float)
  | text (value : String)
  | boolean (value : Bool)
  /-- A name in braces, which is the key of a cell. -/
  | field (name : String)
  /-- A bare name, which is the normalized key of a cell. -/
  | name (name : String)
  | param (name : String)
  | call (function : String) (args : List Expr)
  | unary (op : UnaryOp) (operand : Expr)
  | binary (op : BinaryOp) (left right : Expr)
  deriving Inhabited

namespace Expr

mutual

def references : Expr → List String
  | field key | name key => [key]
  | number _ | text _ | boolean _ | param _ => []
  | call _ args => referencesOfAll args
  | unary _ operand => operand.references
  | binary _ left right => left.references ++ right.references

def referencesOfAll : List Expr → List String
  | [] => []
  | first :: rest => first.references ++ referencesOfAll rest

end

mutual

def height : Expr → Nat
  | call _ args => heightOfAll args + 1
  | unary _ operand => operand.height + 1
  | binary _ left right => max left.height right.height + 1
  | number _ | text _ | boolean _ | field _ | name _ | param _ => 1

def heightOfAll : List Expr → Nat
  | [] => 0
  | first :: rest => max first.height (heightOfAll rest)

end

end Expr

end Drapery.Formula
