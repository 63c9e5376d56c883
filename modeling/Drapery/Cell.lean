import Drapery.Json.Basic
import Drapery.Decimal.Layout

/-!
Cells: what a row holds under one key.
-/

namespace Drapery

inductive Cell where
  | null
  | flag (value : Bool)
  | number (value : Float)
  | text (value : String)
  | list (items : List Json)
  deriving Inhabited

namespace Cell

def isBlank : Cell → Bool
  | null => true
  | text value => value.isEmpty
  | _ => false

def text? : Cell → Option String
  | text value => some value
  | _ => none

def flag? : Cell → Option Bool
  | flag value => some value
  | _ => none

def display : Cell → String
  | null => ""
  | flag value => if value then "true" else "false"
  | number value => Layout.display.render value
  | text value => value
  | list items => s!"[{items.length} items]"

end Cell

end Drapery
