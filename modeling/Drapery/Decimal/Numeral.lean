import Drapery.Decimal.Basic

/-!
Numerals: decimal numbers as they are typed, with an optional sign, point and exponent.

`Numeral.unsigned?` reads digits with at most one point and an optional exponent;
`Numeral.signed?` allows a sign before them.
-/

namespace Drapery

namespace Numeral

def digitValue (c : Char) : Nat := c.toNat - '0'.toNat

def natOfDigits (digits : List Char) : Nat :=
  digits.foldl (fun n c => 10 * n + digitValue c) 0

def decimal (whole fraction : List Char) (exponent : Int) : Decimal :=
  ⟨natOfDigits (whole ++ fraction), exponent - fraction.length⟩

theorem length_takeWhile_add_dropWhile (p : Char → Bool) (text : List Char) :
    (text.takeWhile p).length + (text.dropWhile p).length = text.length := by
  rw [← List.length_append, List.takeWhile_append_dropWhile]

def sign : List Char → Bool × List Char
  | '-' :: rest => (true, rest)
  | '+' :: rest => (false, rest)
  | rest => (false, rest)

def exponent? : List Char → Option Int
  | [] => some 0
  | c :: rest =>
    let (negative, digits) := sign rest
    if (c = 'e' || c = 'E') && !digits.isEmpty && digits.all Char.isDigit then
      some (if negative then -natOfDigits digits else natOfDigits digits)
    else none

def fraction : List Char → List Char × List Char
  | '.' :: rest => (rest.takeWhile Char.isDigit, rest.dropWhile Char.isDigit)
  | rest => ([], rest)

def unsigned? (text : List Char) : Option Decimal :=
  let whole := text.takeWhile Char.isDigit
  let (fractional, rest) := fraction (text.dropWhile Char.isDigit)
  if whole.isEmpty && fractional.isEmpty then none
  else (exponent? rest).map (decimal whole fractional)

def signed? (text : List Char) : Option Float :=
  let (negative, rest) := sign text
  (unsigned? rest).map (Decimal.toFloat negative)

end Numeral

/-- Digits before and after the point, and the power of ten that they are multiplied by. -/
structure Spelling where
  whole : List Char
  fraction : List Char
  exponent : Option Int

def Spelling.decimal (spelling : Spelling) : Decimal :=
  Numeral.decimal spelling.whole spelling.fraction (spelling.exponent.getD 0)

end Drapery
