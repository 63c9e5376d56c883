import Drapery.Amount
import Drapery.Keyed
import Drapery.Text.Blank
import Drapery.Text.Case

/-!
Rows: one line of a grid, with its cells by key and the formulas that override a column's own.
-/

namespace Drapery

structure Row where
  id : String
  overrides : Keyed String := ∅
  cells : Keyed Cell := ∅
  deriving Inhabited

namespace Row

def get? (row : Row) (key : String) : Option Cell := row.cells.get? key

def set (row : Row) (key : String) (cell : Cell) : Row :=
  { row with cells := row.cells.insert key cell }

def remove (row : Row) (key : String) : Row := { row with cells := row.cells.erase key }

def text (row : Row) (key : String) : String := ((row.get? key).bind Cell.text?).getD ""

def label (row : Row) (key : String) : String := Text.trimmed (row.text key)

def amount (row : Row) (key : String) : Float := ((row.get? key).map Amount.ofCell).getD 0

def setNumber (row : Row) (key : String) (value : Float) : Row := row.set key (.number value)

def setText (row : Row) (key : String) (value : String) : Row := row.set key (.text value)

/-- Whether a cell is ticked: a flag as it stands, a number other than zero, or one of the words
that stand for a tick. -/
def isTicked (row : Row) (key : String) : Bool :=
  match row.get? key with
  | some (.flag value) => value
  | some (.number value) => value != 0
  | some (.text value) =>
    let word := Text.trimmed value
    Text.sameIgnoringAsciiCase word "oui" || Text.sameIgnoringAsciiCase word "true" || word == "1"
  | _ => false

def override? (row : Row) (key : String) : Option String :=
  (row.overrides.get? key).filter fun formula => !Text.isBlankText formula

def setOverride (row : Row) (key formula : String) : Row :=
  { row with overrides := row.overrides.insert key formula }

def clearOverride (row : Row) (key : String) : Row :=
  { row with overrides := row.overrides.erase key }

end Row

end Drapery
