/-!
Letter case.

`sameIgnoringAsciiCase` compares texts up to the case of the letters A to Z.  `fold` also
identifies the accented and the variant letters that product names use with one of their own kind,
which is what the keyword patterns of `Drapery.Product` need.
-/

namespace Drapery.Text

def sameIgnoringAsciiCase (a b : String) : Bool :=
  a.toList.map Char.toLower == b.toList.map Char.toLower

/-- One representative for the characters that are the same letter in another case: the long s is
an s, the Kelvin sign a k. -/
def fold (c : Char) : Char :=
  match c with
  | 'É' => 'é'
  | 'È' => 'è'
  | '\u017f' => 's'
  | '\u212a' => 'k'
  | c => c.toLower

def occursIn (word text : List Char) : Bool :=
  match text with
  | [] => word.isEmpty
  | c :: rest => word.isPrefixOf (c :: rest) || occursIn word rest

end Drapery.Text
