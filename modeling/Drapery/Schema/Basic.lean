import Drapery.Product

/-!
Schemas: the ordered columns of a grid, each with the formula that its cells follow by default.
-/

namespace Drapery

inductive ColumnKind where
  | text
  | number
  | formula
  | select
  | boolean
  | photo
  | button
  | date
  | other
  deriving DecidableEq, Repr, Inhabited

structure Column where
  key : String
  kind : ColumnKind := .text
  formula : Option String := none
  readOnly : Bool := false
  readOnlyWhen : Row → Bool := fun _ => false
  deriving Inhabited

namespace Column

def isReadOnly (column : Column) (row : Row) : Bool := column.readOnly || column.readOnlyWhen row

def defaultFormula? (column : Column) : Option String :=
  column.formula.filter fun formula => !Text.isBlankText formula

end Column

structure Schema where
  name : String
  columns : List Column
  deriving Inhabited

namespace Schema

def keys (schema : Schema) : List String := schema.columns.map (·.key)

def column? (schema : Schema) (key : String) : Option Column :=
  schema.columns.find? (·.key == key)

/-- The formula in force for a cell: the row's override, else the column's default. -/
def formula? (schema : Schema) (row : Row) (key : String) : Option String :=
  (row.override? key).or ((schema.column? key).bind Column.defaultFormula?)

def repeated? : List String → List String → Option String
  | _, [] => none
  | seen, key :: rest => if key ∈ seen then some key else repeated? (key :: seen) rest

def repeatedKey? (schema : Schema) : Option String := repeated? [] schema.keys

end Schema

inductive SchemaError where
  | unreadable
  | repeatedColumn (schema column : String)
  deriving DecidableEq, Repr

namespace SchemaError

def message? : SchemaError → Option String
  | unreadable => none
  | repeatedColumn schema column => some s!"duplicate column {column} in schema {schema}"

end SchemaError

def Schema.checked (schema : Schema) : Except SchemaError Schema :=
  match schema.repeatedKey? with
  | some key => .error (.repeatedColumn schema.name key)
  | none => .ok schema

end Drapery
