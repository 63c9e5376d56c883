import Drapery.Decimal.Rounding
import Drapery.Formula.Error
import Drapery.Formula.Value

/-!
The functions that formulas may call.

`Builtin.apply` takes the outcomes of all the arguments and looks only at those that decide the
result, so that an argument that is not needed may fail.
-/

namespace Drapery.Formula

inductive Builtin where
  | choose
  | orElse
  | round
  | roundUp
  | ceiling
  | floor
  | abs
  | min
  | max
  | and
  | or
  | not
  deriving DecidableEq, Repr

namespace Builtin

def all : List Builtin :=
  [choose, orElse, round, roundUp, ceiling, floor, abs, min, max, and, or, not]

def name : Builtin → String
  | choose => "IF"
  | orElse => "NVL"
  | round => "ROUND"
  | roundUp => "ROUNDUP"
  | ceiling => "CEIL"
  | floor => "FLOOR"
  | abs => "ABS"
  | min => "MIN"
  | max => "MAX"
  | and => "AND"
  | or => "OR"
  | not => "NOT"

def ofName? (name : String) : Option Builtin :=
  all.find? fun function => name.toList.map Char.toUpper == function.name.toList

def arity : Builtin → Arity
  | choose => ⟨2, some 3⟩
  | orElse | round | roundUp => ⟨1, some 2⟩
  | ceiling | floor | abs | not => ⟨1, some 1⟩
  | min | max | and | or => ⟨1, none⟩

end Builtin

/-! ## Rounding to places -/

def powerFrom (result base : Float) (exponent : Nat) : Float :=
  let result := if exponent % 2 = 1 then result * base else result
  if exponent / 2 = 0 then result else powerFrom result (base * base) (exponent / 2)
termination_by exponent

def powerOfTen (exponent : Nat) : Float := powerFrom 1 10 exponent

/-- A number rounded by `toWhole` after its point was moved `places` to the right.  Places beyond the
doubles leave it alone. -/
def roundPlaces (toWhole : Float → Float) (x : Float) (places : Int) : Float :=
  let factor := powerOfTen places.natAbs
  if !factor.isFinite then x
  else if 0 ≤ places then toWhole (x * factor) / factor
  else toWhole (x / factor) * factor

def halfUp (x : Float) : Float := Rounding.floor (x + 0.5)

/-- The next whole number, unless the number is whole up to the noise of binary fractions. -/
def upFromNoise (x : Float) : Float :=
  let nearest := Rounding.nearest x
  if (x - nearest).abs < 1e-9 then nearest else Rounding.ceiling x

namespace Builtin

abbrev Argument := Except FormulaError Value

def amounts (args : List Argument) : Except FormulaError (List Float) :=
  args.mapM fun arg => arg.map Value.amount

def anyCounts (wanted : Bool) : List Argument → Except FormulaError Bool
  | [] => .ok false
  | arg :: rest => do
    let value ← arg
    if value.isTrue == wanted then .ok true else anyCounts wanted rest

def least (numbers : List Float) : Float :=
  numbers.foldl (fun low x => if x < low then x else low) Binary.infinity

def greatest (numbers : List Float) : Float :=
  numbers.foldl (fun high x => if high < x then x else high) (-Binary.infinity)

def applyRounding (toWhole : Float → Float) (args : List Argument) :
    Except FormulaError Value := do
  match ← amounts args with
  | [] => .ok .empty
  | x :: rest => .ok (.number (roundPlaces toWhole x (Rounding.clamp32 (rest.headD 0))))

def applyChecked : Builtin → List Argument → Except FormulaError Value
  | choose, condition :: consequence :: otherwise => do
    if (← condition).isTrue then consequence else otherwise.headD (.ok .empty)
  | orElse, first :: fallback => do
    let value ← first
    if value.isEmpty then
      (fallback.headD (.ok .empty)).map fun value => .number value.amount
    else .ok (.number value.amount)
  | round, args => applyRounding halfUp args
  | roundUp, args => applyRounding upFromNoise args
  | ceiling, arg :: _ => arg.map fun value => .number (roundPlaces upFromNoise value.amount 0)
  | floor, arg :: _ => arg.map fun value => .number (Rounding.floor value.amount)
  | abs, arg :: _ => arg.map fun value => .number value.amount.abs
  | min, args => (amounts args).map fun numbers => .number (least numbers)
  | max, args => (amounts args).map fun numbers => .number (greatest numbers)
  | and, args => (anyCounts false args).map fun found => .boolean !found
  | or, args => (anyCounts true args).map .boolean
  | not, arg :: _ => arg.map fun value => .boolean !value.isTrue
  | _, _ => .ok .empty

def apply (function : Builtin) (args : List Argument) : Except FormulaError Value :=
  if function.arity.admits args.length then function.applyChecked args
  else .error (.arity function.name function.arity args.length)

end Builtin

end Drapery.Formula
