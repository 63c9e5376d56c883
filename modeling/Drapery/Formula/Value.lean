import Drapery.Amount
import Drapery.Text.Blank

/-!
Values: what formulas compute with.

A value is read as a number in two ways.  Arguments of functions read as amounts do
(`Value.amount`), so that anything has a number.  Operands of operators have to look like a number
as a whole (`Value.operand`); text that does not is not a number, and the result is empty.
-/

namespace Drapery.Formula

inductive Value where
  | number (value : Float)
  | text (value : String)
  | boolean (value : Bool)
  /-- A blank cell, or a condition without the branch that it needs. -/
  | empty
  deriving DecidableEq, Inhabited

def numericText? (text : String) : Option Float :=
  (Numeral.signed? (Text.trim text.toList)).filter Float.isFinite

def numberOfBool (value : Bool) : Float := if value then 1 else 0

namespace Value

def ofCell : Cell → Value
  | .null => empty
  | .flag value => boolean value
  | .text value => if value.isEmpty then empty else number (Amount.ofText value)
  | cell => number (Amount.ofCell cell)

def isEmpty : Value → Bool
  | empty => true
  | _ => false

def number? : Value → Option Float
  | number value => some value
  | _ => none

def amount : Value → Float
  | number value => Amount.ofNumber value
  | text value => Amount.ofText value
  | boolean value => numberOfBool value
  | empty => 0

def operand : Value → Float
  | number value => value
  | text value => (numericText? value).getD Binary.notANumber
  | boolean value => numberOfBool value
  | empty => 0

def isTrue : Value → Bool
  | number value => value != 0 && !value.isNaN
  | text value => !value.isEmpty
  | boolean value => value
  | empty => false

/-- The value of a whole formula: a finite number, a text that is no number, or nothing. -/
def settled : Value → Value
  | number value => if value.isFinite then number value else empty
  | boolean value => number (numberOfBool value)
  | text value => ((numericText? value).map number).getD (text value)
  | empty => empty

def toCell : Value → Cell
  | number value => .number value
  | text value => .text value
  | boolean value => .flag value
  | empty => .text ""

def display : Value → String
  | number value => Layout.display.render value
  | text value => value
  | boolean value => if value then "true" else "false"
  | empty => ""

def compareNumbers? (left right : Float) : Option Ordering :=
  if left < right then some .lt
  else if left == right then some .eq
  else if right < left then some .gt
  else none

/-- Texts compare with each other and with nothing, which is an empty text; other values compare as
numbers. -/
def compare? : Value → Value → Option Ordering
  | text left, text right => some (compare left right)
  | empty, text right => some (compare "" right)
  | text left, empty => some (compare left "")
  | left, right => compareNumbers? left.operand right.operand

end Value

end Drapery.Formula
