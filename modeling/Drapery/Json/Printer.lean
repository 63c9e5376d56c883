import Drapery.Json.Basic
import Drapery.Decimal.Layout

/-!
Writing JSON texts, without spaces and with the members of an object in their order.
-/

namespace Drapery

/-- Numbers in JSON keep a point when they are whole doubles, and have an exponent from `1e16` on and
below `1e-5`. -/
def Layout.json : Layout := ⟨some (-5, 16), true, true, .toEven⟩

namespace Json

def hexByte (n : Nat) : List Char := [Nat.digitChar (n / 16), Nat.digitChar (n % 16)]

def escape (c : Char) : List Char :=
  match c with
  | '"' => ['\\', '"']
  | '\\' => ['\\', '\\']
  | '\x08' => ['\\', 'b']
  | '\x0c' => ['\\', 'f']
  | '\n' => ['\\', 'n']
  | '\r' => ['\\', 'r']
  | '\t' => ['\\', 't']
  | c => if c.val < 0x20 then ['\\', 'u', '0', '0'] ++ hexByte c.toNat else [c]

def stringText (text : String) : List Char := '"' :: text.toList.flatMap escape ++ ['"']

def floatText (x : Float) : List Char :=
  if x.isFinite then (Layout.json.render x).toList else "null".toList

mutual

def text : Json → List Char
  | null => "null".toList
  | bool value => if value then "true".toList else "false".toList
  | int value => (toString value).toList
  | float value => floatText value
  | string value => stringText value
  | array items => '[' :: itemsText items ++ [']']
  | object members => '\x7b' :: membersText members ++ ['\x7d']
  | broken => "null".toList

def itemsText : List Json → List Char
  | [] => []
  | [item] => text item
  | item :: rest => text item ++ ',' :: itemsText rest

def membersText : List (String × Json) → List Char
  | [] => []
  | [(name, value)] => stringText name ++ ':' :: text value
  | (name, value) :: rest => stringText name ++ ':' :: text value ++ ',' :: membersText rest

end

def print (value : Json) : String := String.ofList (text value)

end Json

end Drapery
