import Drapery.Purchase.Summary

/-!
The purchase summary as a table of separated values: one line per group, fabrics first, then linings
and rails.
-/

namespace Drapery

namespace Csv

def separator : Char := ';'

def needsQuotes (c : Char) : Bool := c = separator || c = '"' || c = '\n' || c = '\r'

def quoteBody : List Char → List Char
  | [] => []
  | '"' :: rest => '"' :: '"' :: quoteBody rest
  | c :: rest => c :: quoteBody rest

def field (text : List Char) : List Char :=
  if text.any needsQuotes then '"' :: quoteBody text ++ ['"'] else text

def record (write : List Char → List Char) : List (List Char) → List Char
  | [] => ['\n']
  | [last] => write last ++ ['\n']
  | first :: rest => write first ++ separator :: record write rest

def table (write : List Char → List Char) (records : List (List String)) : String :=
  String.ofList (records.flatMap fun fields => record write (fields.map String.toList))

end Csv

namespace PurchaseSummary

def amountText (x : Float) : String := fixedPlaces 2 x

def csvHeader : List String := ["Famille", "Référence", "Total ML", "Total PA"]

/-- The line of a group; a cost of zero is left out. -/
def csvRecord (group : PurchaseGroup) : List String :=
  [group.kind, group.label, amountText group.totalLinearMeters,
    if group.totalCost == 0 then "" else amountText group.totalCost]

def csv (summary : PurchaseSummary) (write : List Char → List Char := Csv.field) : String :=
  Csv.table write (csvHeader :: summary.groups.map csvRecord)

end PurchaseSummary

end Drapery
