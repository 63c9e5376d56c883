import Drapery.Decimal.Basic

/-!
The shortest decimal that reads back as a given double.

Decimal grids are tried from coarse to fine.  On each, the two neighbours of the value are the only
candidates: if any point of the grid rounds to the double, one of them does.  The first grid with a
hit wins, and of two hits the nearer.
-/

namespace Drapery.Binary

/-- Numerator over the common denominator `denominator b k` of `quarters × 2 ^ (exponent - 2)`,
measured in units of `10 ^ k`. -/
def scaled (b : Binary) (k : Int) (quarters : Nat) : Nat :=
  quarters * Nat.pow 2 (b.exponent - 2).toNat * Nat.pow 10 (-k).toNat

def denominator (b : Binary) (k : Int) : Nat :=
  Nat.pow 2 (2 - b.exponent).toNat * Nat.pow 10 k.toNat

def lowerGap (b : Binary) : Nat :=
  if b.significand = Nat.pow 2 fractionBits ∧ leastExponent < b.exponent then 1 else 2

/-- Whether `candidate × 10 ^ k` rounds to the double: it lies between the midpoints to the
neighbouring doubles, which themselves round to it when its significand is even. -/
def roundsFrom (b : Binary) (k : Int) (candidate : Nat) : Bool :=
  let low := b.scaled k (4 * b.significand - b.lowerGap)
  let high := b.scaled k (4 * b.significand + 2)
  let point := candidate * b.denominator k
  if b.significand % 2 = 0 then low ≤ point && point ≤ high else low < point && point < high

def onGrid? (tie : Tie) (b : Binary) (k : Int) : Option Decimal :=
  let value := b.scaled k (4 * b.significand)
  let below := value / b.denominator k
  let nearest := roundDiv tie value (b.denominator k)
  let other := if nearest = below then below + 1 else below
  if b.roundsFrom k nearest then some ⟨nearest, k⟩
  else if b.roundsFrom k other then some ⟨other, k⟩
  else none

def topExponent (b : Binary) : Int :=
  (b.exponent + b.significand.log2) * 30103 / 100000 + 1

def inFull (b : Binary) : Decimal :=
  ⟨b.significand * Nat.pow 2 b.exponent.toNat * Nat.pow 5 (-b.exponent).toNat, min 0 b.exponent⟩

/-- The shortest decimal that reads back.  Twenty grids reach down to seventeen digits, which always
suffice. -/
def shortest (tie : Tie) (b : Binary) : Decimal :=
  if b.significand = 0 then ⟨0, 0⟩
  else ((List.range 20).findSome? fun n : Nat => b.onGrid? tie (b.topExponent - n)).getD b.inFull

end Drapery.Binary
