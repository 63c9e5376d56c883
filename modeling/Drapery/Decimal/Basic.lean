/-!
Decimal numbers `digits × 10 ^ exponent` and the doubles nearest to them.

Reading a decimal is exact rational arithmetic on natural numbers followed by one rounding: the
quotient is rounded to a whole number of units of the binary grid around it, an exact half going to
the even neighbour.
-/

namespace Drapery

inductive Tie where
  | toEven
  | up
  deriving DecidableEq, Repr

def roundDiv (tie : Tie) (num den : Nat) : Nat :=
  let quotient := num / den
  let twice := 2 * (num % den)
  if twice < den then quotient
  else if den < twice then quotient + 1
  else match tie with
    | .up => quotient + 1
    | .toEven => quotient + quotient % 2

structure Decimal where
  digits : Nat
  exponent : Int
  deriving DecidableEq, Repr

/-! ## Doubles as multiples of powers of two -/

/-- A finite double, sign apart: `significand × 2 ^ exponent`. -/
structure Binary where
  significand : Nat
  exponent : Int
  deriving DecidableEq, Repr

namespace Binary

def fractionBits : Nat := 52

def leastExponent : Int := -1074

def infinityBits : Nat := 0x7ff0000000000000

def infinity : Float := 1 / 0

def notANumber : Float := 0 / 0

def magnitudeBits (x : Float) : Nat := x.toBits.toNat % Nat.pow 2 63

def isNegative (x : Float) : Bool := Nat.pow 2 63 ≤ x.toBits.toNat

def ofBits? (bits : Nat) : Option Binary :=
  let field := bits / Nat.pow 2 fractionBits
  let fraction := bits % Nat.pow 2 fractionBits
  if infinityBits ≤ bits then none
  else if field = 0 then some ⟨fraction, leastExponent⟩
  else some ⟨fraction + Nat.pow 2 fractionBits, leastExponent + (field - 1 : Nat)⟩

def ofFloat? (x : Float) : Option Binary := ofBits? (magnitudeBits x)

def gridExponent (num den : Nat) : Int :=
  let size : Int := num.log2 - den.log2
  let coarse := size - 52
  let fits := den * Nat.pow 2 (52 + coarse.toNat) ≤ num * Nat.pow 2 (-coarse).toNat
  max leastExponent (if fits then coarse else coarse - 1)

/-- The magnitude bits of the double nearest to `num / den`, halves to even. -/
def nearestBits (num den : Nat) : Nat :=
  let exponent := gridExponent num den
  let units := roundDiv .toEven (num * Nat.pow 2 (-exponent).toNat) (den * Nat.pow 2 exponent.toNat)
  min infinityBits (units + (exponent - leastExponent).toNat * Nat.pow 2 fractionBits)

def toFloat (negative : Bool) (bits : Nat) : Float :=
  Float.ofBits (UInt64.ofNat (if negative then bits + Nat.pow 2 63 else bits))

end Binary

namespace Decimal

def exponentLimit : Int := 400

/-- The magnitude bits of the nearest double.  Exponents far outside the range of the doubles are
answered without computing their powers of ten. -/
def nearestBits (d : Decimal) : Nat :=
  if d.digits = 0 then 0
  else if exponentLimit < d.exponent then Binary.infinityBits
  else if d.exponent + d.digits.log2 < -exponentLimit then 0
  else Binary.nearestBits (d.digits * Nat.pow 10 d.exponent.toNat) (Nat.pow 10 (-d.exponent).toNat)

def toFloat (negative : Bool) (d : Decimal) : Float :=
  Binary.toFloat negative d.nearestBits

end Decimal

end Drapery
