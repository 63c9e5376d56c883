import Drapery.Field
import Drapery.Row.Basic

/-!
Kinds of rows and products, told by the words in their names.

Names are typed or picked from lists that disagree on capitals and accents, so words are looked for
up to letter case and, where the lists disagree, with either letter.
-/

namespace Drapery.Product

def travelName : String := "Déplacement"

def otherExpenseName : String := "Autre dépense"

def railName : String := "Rail"

def mentions (words : List String) (text : String) : Bool :=
  words.any fun word => Text.occursIn word.toList (text.toList.map Text.fold)

/-- Products whose yardage is typed by hand: decorative items, bed covers, blinds. -/
def hasManualYardage : String → Bool :=
  mentions ["deco", "déco", "lit", "store", "plaid", "coussin", "canishade"]

def isLaborBilled : String → Bool :=
  mentions ["rideau", "voilage", "store", "canishade", "decor", "décor", "lit", "coussin", "plaid",
    "cantonniere", "cantonnière"]

def isBlindMechanism : String → Bool := mentions ["store", "canishade", "shade"]

def isSiteSurvey (kind : String) : Bool :=
  ["metre", "métre", "metré", "métré", "prise de cotes", "releve", "relevé"].any fun word =>
    Text.trim (kind.toList.map Text.fold) == word.toList

def isCommissionCategory (category : String) : Bool :=
  Text.occursIn "commission".toList (category.toList.map Char.toLower)

def isTravel (row : Row) : Bool := row.label Field.product == travelName

def isOtherExpense (row : Row) : Bool :=
  Text.sameIgnoringAsciiCase (row.label Field.product) otherExpenseName

def isCommission (row : Row) : Bool :=
  isOtherExpense row && isCommissionCategory (row.text Field.expenseCategory)

def hasRail (row : Row) : Bool := row.label Field.mechanismType == railName

end Drapery.Product
