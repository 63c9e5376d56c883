import Drapery.Decimal.Shortest

/-!
Layouts of numbers: where the point stands, when an exponent is written, and how many places are
kept.

A `Layout` is the record of one output format's decisions.  `Layout.render` writes the shortest
decimal of a double under it; `fixedPlaces` writes a fixed number of places.
-/

namespace Drapery

structure Layout where
  /-- Powers of ten, as `[from, below)`, whose numbers are written without an exponent; `none`
  when all are. -/
  positional : Option (Int × Int)
  keepsPoint : Bool
  plusExponent : Bool
  tie : Tie
  deriving Repr

namespace Decimal

def numeral (n : Nat) : List Char := Nat.toDigits 10 n

def trimmed (d : Decimal) : Decimal :=
  let zeros := ((numeral d.digits).reverse.takeWhile (· = '0')).length
  if d.digits = 0 then ⟨0, 0⟩ else ⟨d.digits / Nat.pow 10 zeros, d.exponent + zeros⟩

def leading (d : Decimal) : Int := (numeral d.digits).length - 1 + d.exponent

def pointed (places digits : Nat) : List Char :=
  let text := numeral digits
  let padded := List.replicate (places + 1 - text.length) '0' ++ text
  if places = 0 then padded
  else padded.take (padded.length - places) ++ '.' :: padded.drop (padded.length - places)

def plain (keepsPoint : Bool) (d : Decimal) : List Char :=
  if 0 ≤ d.exponent then
    numeral d.digits ++ List.replicate d.exponent.toNat '0' ++
      (if keepsPoint then ['.', '0'] else [])
  else pointed (-d.exponent).toNat d.digits

def scientific (plusExponent : Bool) (d : Decimal) : List Char :=
  let mantissa := match numeral d.digits with
    | first :: second :: rest => first :: '.' :: second :: rest
    | text => text
  let power := d.leading
  let sign := if power < 0 then ['-'] else if plusExponent then ['+'] else []
  mantissa ++ 'e' :: sign ++ numeral power.natAbs

def render (layout : Layout) (d : Decimal) : List Char :=
  match layout.positional with
  | none => d.plain layout.keepsPoint
  | some (start, stop) =>
    if d.digits = 0 ∨ (start ≤ d.leading ∧ d.leading < stop) then d.plain layout.keepsPoint
    else d.scientific layout.plusExponent

end Decimal

def signedText (x : Float) (magnitude : Binary → List Char) : List Char :=
  match Binary.ofFloat? x with
  | some b => (if Binary.isNegative x then ['-'] else []) ++ magnitude b
  | none =>
    if x.isNaN then "NaN".toList
    else (if Binary.isNegative x then ['-'] else []) ++ "inf".toList

namespace Layout

def render (layout : Layout) (x : Float) : String :=
  String.ofList (signedText x fun b => (b.shortest layout.tie).trimmed.render layout)

/-- Numbers shown to a reader never have an exponent, and whole ones no point. -/
def display : Layout := ⟨none, false, false, .up⟩

/-- Numbers quoted in messages keep a point, and have an exponent when far from one. -/
def quoted : Layout := ⟨some (-4, 16), true, false, .up⟩

end Layout

/-- The double with a fixed number of places, its exact value rounded half to even. -/
def fixedPlaces (places : Nat) (x : Float) : String :=
  String.ofList <| signedText x fun b =>
    Decimal.pointed places <| roundDiv .toEven
      (b.significand * Nat.pow 2 b.exponent.toNat * Nat.pow 10 places)
      (Nat.pow 2 (-b.exponent).toNat)

end Drapery
