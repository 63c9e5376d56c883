/-!
Normalized keys: lower-case letters, digits and single underscores.

Bare names in formulas are matched against the normalized keys of a row, so that a column titled
`Largeur Rideau` can be written `largeur_rideau`.
-/

namespace Drapery.Text

/-- The lower case of a character as far as a normalized key can show it.  Beside the letters A to Z
two characters have an ASCII letter in their lower case: the Kelvin sign, and the capital I with a
dot, whose lower case keeps the dot as a separate mark. -/
def keyCase (c : Char) : List Char :=
  match c with
  | '\u212a' => ['k']
  | '\u0130' => ['i', '\u0307']
  | c => [c.toLower]

def collapse : (inGap : Bool) → List Char → List Char
  | _, [] => []
  | inGap, c :: rest =>
    if c.isAlphanum then c :: collapse false rest
    else if inGap then collapse true rest
    else '_' :: collapse true rest

def normalizeKey (key : String) : String :=
  String.ofList (collapse false (key.toList.flatMap keyCase))

end Drapery.Text
