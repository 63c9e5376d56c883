import Drapery.Text.Printable

/-!
Text between quotes in messages.

The quote itself, the backslash and the usual controls are escaped by a backslash; every other
character that does not show by itself is written as its code point between braces.
-/

namespace Drapery.Text

def hexDigits (n : Nat) : List Char := Nat.toDigits 16 n

def escape (quote c : Char) : List Char :=
  if c = quote || c = '\\' then ['\\', c]
  else match c with
    | '\n' => ['\\', 'n']
    | '\r' => ['\\', 'r']
    | '\t' => ['\\', 't']
    | '\x00' => ['\\', '0']
    | c => if isPrintable c then [c] else ['\\', 'u', '\x7b'] ++ hexDigits c.toNat ++ ['\x7d']

def between (quote : Char) (text : List Char) : String :=
  String.ofList (quote :: text.flatMap (escape quote) ++ [quote])

def quoted (text : String) : String := between '"' text.toList

def quotedChar (c : Char) : String := between '\'' [c]

end Drapery.Text
