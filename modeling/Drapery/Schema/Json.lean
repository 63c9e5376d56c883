import Drapery.Json.Printer
import Drapery.Json.Reader
import Drapery.Json.Record
import Drapery.Schema.Basic

/-!
Schemas as JSON records: a name and a list of columns.  A kind of column that is not known is kept as
`other`.
-/

namespace Drapery

namespace ColumnKind

def all : List ColumnKind :=
  [text, number, formula, select, boolean, photo, button, date, other]

def name : ColumnKind → String
  | text => "text"
  | number => "number"
  | formula => "formula"
  | select => "select"
  | boolean => "boolean"
  | photo => "photo"
  | button => "button"
  | date => "date"
  | other => "other"

def ofName (name : String) : ColumnKind := (all.find? (·.name == name)).getD other

/-- A kind is written as its name, alone or as the one member of an object that holds nothing. -/
def ofJson? : Json → Option ColumnKind
  | .string name => some (ofName name)
  | .object [(name, .null)] => some (ofName name)
  | _ => none

end ColumnKind

namespace Column

def ofJson? (value : Json) : Option Column := do
  match ← value.record? [["key"], ["type"], ["formula"], ["readOnly"]] with
  | [some key, kind, formula, readOnly] =>
    some {
      key := ← key.string?
      kind := ← Json.orDefault .text ColumnKind.ofJson? kind
      formula := ← Json.orDefault none Json.optionalString? formula
      readOnly := ← Json.orDefault false Json.bool? readOnly }
  | _ => none

def toJson (column : Column) : Json :=
  .object <|
    [("key", .string column.key), ("type", .string column.kind.name)] ++
    (column.formula.map fun formula => ("formula", Json.string formula)).toList ++
    [("readOnly", .bool column.readOnly)]

end Column

namespace Schema

def ofJson? (value : Json) : Option Schema := do
  match ← value.record? [["name"], ["columns"]] with
  | [some name, some columns] =>
    some { name := ← name.string?, columns := ← (← columns.array?).mapM Column.ofJson? }
  | _ => none

def toJson (schema : Schema) : Json :=
  .object [("name", .string schema.name), ("columns", .array (schema.columns.map Column.toJson))]

def read (text : String) (numbers : Json.NumberReader := .nearest) : Except SchemaError Schema :=
  match (Json.read? text numbers).bind ofJson? with
  | some schema => schema.checked
  | none => .error .unreadable

def print (schema : Schema) : String := schema.toJson.print

end Schema

end Drapery
