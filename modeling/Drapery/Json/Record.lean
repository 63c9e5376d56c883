import Drapery.Json.Basic
import Drapery.Decimal.Basic

/-!
Records in JSON: values with a fixed list of members.

A record is written as an object, each member under one of its names, or as an array with the
members in order.  Other members of an object are skipped, whatever they hold; a member given twice
is refused, and so is an array that is longer than the record.
-/

namespace Drapery.Json

/-- The member with one of the given names: absent, present once, or refused. -/
def single? (names : List String) (members : List (String × Json)) : Option (Option Json) :=
  match members.filter (·.1 ∈ names) with
  | [] => some none
  | [member] => some (some member.2)
  | _ => none

def record? (names : List (List String)) : Json → Option (List (Option Json))
  | object members => names.mapM (single? · members)
  | array items =>
    if items.length ≤ names.length then
      some (items.map some ++ List.replicate (names.length - items.length) none)
    else none
  | _ => none

def string? : Json → Option String
  | string value => some value
  | _ => none

def optionalString? : Json → Option (Option String)
  | null => some none
  | string value => some (some value)
  | _ => none

def bool? : Json → Option Bool
  | bool value => some value
  | _ => none

def floatOfInt (n : Int) : Float := Decimal.toFloat (n < 0) ⟨n.natAbs, 0⟩

def float? : Json → Option Float
  | float value => some value
  | int value => some (floatOfInt value)
  | _ => none

def nat? (bound : Nat) : Json → Option Nat
  | int (.ofNat n) => if n < bound then some n else none
  | _ => none

def array? : Json → Option (List Json)
  | array items => some items
  | _ => none

def orDefault {α : Type} (fallback : α) (read : Json → Option α) : Option Json → Option α
  | none => some fallback
  | some value => read value

end Drapery.Json
