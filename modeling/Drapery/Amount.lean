import Drapery.Cell
import Drapery.Decimal.Numeral

/-!
Amounts: the finite number that a cell stands for.

People type amounts with currency signs, spaces and a decimal comma.  `Amount.ofText` keeps the
digits, points, commas and minus signs of a text, takes the first comma for the decimal point, and
reads the longest number at the front of what remains.  Whatever has no number reads as zero.
-/

namespace Drapery.Amount

def ofNumber (x : Float) : Float := if x.isFinite then x else 0

def isKept (c : Char) : Bool := c.isDigit || c == '.' || c == '-' || c == ','

def pointFirstComma : List Char → List Char
  | [] => []
  | c :: rest => if c = ',' then '.' :: rest else c :: pointFirstComma rest

def cleaned (text : List Char) : List Char := pointFirstComma (text.filter isKept)

/-- The longest number at the front of a text: an optional minus, digits, and possibly a point and
more digits. -/
def leading? (text : List Char) : Option (Bool × Decimal) :=
  let (negative, text) := match text with
    | '-' :: rest => (true, rest)
    | text => (false, text)
  let whole := text.takeWhile Char.isDigit
  let fraction := (Numeral.fraction (text.dropWhile Char.isDigit)).1
  if whole.isEmpty && fraction.isEmpty then none
  else some (negative, Numeral.decimal whole fraction 0)

def ofText (text : String) : Float :=
  match leading? (cleaned text.toList) with
  | some (negative, d) => ofNumber (d.toFloat negative)
  | none => 0

def ofCell : Cell → Float
  | .number value => ofNumber value
  | .text value => ofText value
  | .flag true => 1
  | .flag false | .null | .list _ => 0

end Drapery.Amount
