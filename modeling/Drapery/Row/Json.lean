import Drapery.Json.Printer
import Drapery.Json.Reader
import Drapery.Json.Record
import Drapery.Row.Basic

/-!
Rows as JSON objects: the identifier under `id`, the overrides under `cellFormulas` unless there are
none, and every other member a cell.
-/

namespace Drapery

namespace Cell

def ofJson? : Json → Option Cell
  | .null => some .null
  | .bool value => some (.flag value)
  | .int value => some (.number (Json.floatOfInt value))
  | .float value => some (.number value)
  | .string value => some (.text value)
  | .array items => if Json.areSound items then some (.list (Json.canonicalItems items)) else none
  | .object _ | .broken => none

def toJson : Cell → Json
  | .null => .null
  | .flag value => .bool value
  | .number value => .float value
  | .text value => .string value
  | .list items => .array items

end Cell

namespace Row

def idName : String := "id"

def overridesName : String := "cellFormulas"

def overridesOfJson? : Json → Option (Keyed String)
  | .object members => do
    let formulas ← members.mapM fun (key, value) => value.string?.map (key, ·)
    some (Keyed.ofList formulas)
  | _ => none

/-- A row from an object.  The identifier is required; it and the overrides are given once, while of
two cells with one key the last counts. -/
def ofJson? : Json → Option Row
  | .object members => do
    let id ← (← Json.single? [idName] members).bind Json.string?
    let overrides ← Json.orDefault ∅ overridesOfJson? (← Json.single? [overridesName] members)
    let cells ← (members.filter fun member => member.1 != idName && member.1 != overridesName).mapM
      fun (key, value) => (Cell.ofJson? value).map (key, ·)
    some { id, overrides, cells := Keyed.ofList cells }
  | _ => none

def toJson (row : Row) : Json :=
  .object <|
    (idName, .string row.id) ::
    (if row.overrides.isEmpty then [] else
      [(overridesName, .object (row.overrides.entries.map fun (key, formula) =>
        (key, .string formula)))]) ++
    row.cells.entries.map fun (key, cell) => (key, cell.toJson)

def read? (text : String) (numbers : Json.NumberReader := .nearest) : Option Row :=
  (Json.read? text numbers).bind ofJson?

def print (row : Row) : String := row.toJson.print

end Row

end Drapery
