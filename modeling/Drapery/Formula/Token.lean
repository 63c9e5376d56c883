import Drapery.Decimal.Layout
import Drapery.Formula.Expr
import Drapery.Text.Quoted

/-!
Tokens of formulas.
-/

namespace Drapery.Formula

inductive Token where
  | name (text : String)
  | field (name : String)
  | number (value : Float)
  | text (value : String)
  | comma
  | semicolon
  | openParen
  | closeParen
  | plus
  | minus
  | star
  | slash
  | bang
  | equals
  | notEquals
  | less
  | lessEquals
  | greater
  | greaterEquals
  | and
  | or
  deriving DecidableEq, Inhabited

namespace Token

def describe : Token → String
  | name key => s!"Identifier({Text.quoted key})"
  | field key => s!"Field({Text.quoted key})"
  | number value => s!"Number({Layout.quoted.render value})"
  | text value => s!"String({Text.quoted value})"
  | comma => "Comma"
  | semicolon => "Semicolon"
  | openParen => "LParen"
  | closeParen => "RParen"
  | plus => "Plus"
  | minus => "Minus"
  | star => "Star"
  | slash => "Slash"
  | bang => "Bang"
  | equals => "Equals"
  | notEquals => "NotEquals"
  | less => "Less"
  | lessEquals => "LessEquals"
  | greater => "Greater"
  | greaterEquals => "GreaterEquals"
  | and => "AndAnd"
  | or => "OrOr"

def describeFound : Option Token → String
  | some token => token.describe
  | none => "Eof"

def unaryOp? : Token → Option UnaryOp
  | minus => some .negate
  | plus => some .plus
  | bang => some .not
  | _ => none

def binaryOp? : Token → Option BinaryOp
  | or => some .or
  | and => some .and
  | equals => some .equals
  | notEquals => some .notEquals
  | less => some .less
  | lessEquals => some .lessEquals
  | greater => some .greater
  | greaterEquals => some .greaterEquals
  | plus => some .add
  | minus => some .subtract
  | star => some .multiply
  | slash => some .divide
  | _ => none

def isSeparator : Token → Bool
  | comma | semicolon => true
  | _ => false

end Token

end Drapery.Formula
