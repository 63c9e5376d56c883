import Drapery.Decimal.Basic

/-!
Doubles rounded to whole numbers.

From `2 ^ 52` on every double is whole, and below it the whole part goes through a machine integer
exactly.  A result of zero keeps the sign of the argument.
-/

namespace Drapery.Rounding

def truncate (x : Float) : Float :=
  if x.abs < 4503599627370496 then
    let whole := x.abs.toUInt64.toFloat
    if Binary.isNegative x then -whole else whole
  else x

def floor (x : Float) : Float :=
  let whole := truncate x
  if x < whole then whole - 1 else whole

def ceiling (x : Float) : Float :=
  let whole := truncate x
  if whole < x then whole + 1 else whole

/-- The nearest whole number, a half going away from zero. -/
def nearest (x : Float) : Float :=
  let whole := truncate x
  if (x - whole).abs < 0.5 then whole
  else if x < whole then whole - 1
  else if whole < x then whole + 1
  else whole

def clamp32 (x : Float) : Int :=
  if x.abs < 2147483648 then
    let whole : Int := x.abs.toUInt64.toNat
    if x < 0 then -whole else whole
  else if x < 0 then -2147483648 else 2147483647

end Drapery.Rounding
